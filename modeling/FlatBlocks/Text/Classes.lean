import FlatBlocks.Text.CodePoint

/-! Classes of code points: blanks, ASCII letters and digits, and classes given
as sorted ranges. -/

namespace FlatBlocks.Text

/-- The characters with the Unicode property White_Space, and the four
information separators U+001C to U+001F. -/
def isBlank (c : CodePoint) : Bool :=
  let n := c.toNat
  (9 ≤ n && n ≤ 13) || (28 ≤ n && n ≤ 32) || n == 0x85 || n == 0xA0 || n == 0x1680 ||
    (0x2000 ≤ n && n ≤ 0x200A) || n == 0x2028 || n == 0x2029 || n == 0x202F ||
    n == 0x205F || n == 0x3000

/-- Tab, line feed, form feed, carriage return and space. -/
def isAsciiBlank (c : CodePoint) : Bool :=
  c == ' ' || c == '\n' || c == '\t' || c == '\x0c' || c == '\x0d'

theorem isBlank_of_isAsciiBlank {c : CodePoint} (h : isAsciiBlank c = true) :
    isBlank c = true := by
  simp only [isAsciiBlank, Bool.or_eq_true, beq_iff_eq] at h
  rcases h with (((rfl | rfl) | rfl) | rfl) | rfl <;> decide

def isAsciiLetter (c : CodePoint) : Bool :=
  let n := c.toNat
  (97 ≤ n && n ≤ 122) || (65 ≤ n && n ≤ 90)

def isAsciiDigit (c : CodePoint) : Bool :=
  let n := c.toNat
  48 ≤ n && n ≤ 57

def isHexDigit (c : CodePoint) : Bool :=
  let n := c.toNat
  isAsciiDigit c || (97 ≤ n && n ≤ 102) || (65 ≤ n && n ≤ 70)

/-- The small form of an ASCII letter; other code points stay as they are. -/
def asciiLower : CodePoint → CodePoint
  | .char c => .char c.toLower
  | p => p

/-- The capital form of an ASCII letter; other code points stay as they are. -/
def asciiUpper : CodePoint → CodePoint
  | .char c => .char c.toUpper
  | p => p

theorem length_dropWhile_le {α : Type u} (p : α → Bool) (s : List α) :
    (s.dropWhile p).length ≤ s.length := (List.dropWhile_sublist p).length_le

/-- Membership in a sorted list of inclusive ranges of code points. -/
def inRanges (ranges : List (Nat × Nat)) (n : Nat) : Bool :=
  ranges.any fun r => r.1 ≤ n && n ≤ r.2

end FlatBlocks.Text
