import FlatBlocks.Text.Classes

/-! Numbers written with digits: reading them in a base, and writing a fixed
number of hexadecimal digits. Decimal numbers are read up to a length. Main
statement: the written hexadecimal digits read back. -/

namespace FlatBlocks.Text

/-- The value of a digit in bases up to sixteen, and zero for other code points. -/
def digitValue (c : CodePoint) : Nat :=
  let n := c.toNat
  if isAsciiDigit c then n - 48
  else if 97 ≤ n && n ≤ 102 then n - 87
  else if 65 ≤ n && n ≤ 70 then n - 55
  else 0

/-- Read digits in a base, most significant first. -/
def ofDigits (base : Nat) (digits : Text) : Nat :=
  digits.foldl (fun n c => n * base + digitValue c) 0

/-- The number of decimal digits up to which a number is read. -/
def maxDigits : Nat := 4300

/-- A number of so many decimal digits that it is not read. -/
structure TooLong where
  digits : Nat
  deriving DecidableEq, Repr

def TooLong.message (e : TooLong) : Text :=
  "Exceeds the limit (" ++ toString maxDigits ++
    " digits) for integer string conversion: value has " ++ toString e.digits ++
    " digits; use sys.set_int_max_str_digits() to increase the limit"

/-- Read decimal digits; zeros at the front count as well. -/
def readDecimal (digits : Text) : Except TooLong Nat :=
  if maxDigits < digits.length then .error ⟨digits.length⟩ else .ok (ofDigits 10 digits)

/-- The last digits of a number in base sixteen, in small letters. -/
def hex : (width : Nat) → Nat → Text
  | 0, _ => []
  | width + 1, n => hex width (n / 16) ++ [.char (Nat.digitChar (n % 16))]

theorem digitValue_digitChar {d : Nat} (h : d < 16) : digitValue (Nat.digitChar d) = d := by
  have : ∀ d : Fin 16, digitValue (Nat.digitChar d) = d := by decide
  exact this ⟨d, h⟩

theorem ofDigits_append_singleton (base : Nat) (digits : Text) (c : CodePoint) :
    ofDigits base (digits ++ [c]) = ofDigits base digits * base + digitValue c := by
  simp [ofDigits]

theorem ofDigits_hex (width n : Nat) (h : n < Nat.pow 16 width) :
    ofDigits 16 (hex width n) = n := by
  induction width generalizing n with
  | zero =>
    have h0 : n < 1 := h
    have : n = 0 := by omega
    subst this
    rfl
  | succ width ih =>
    have hq : n / 16 < Nat.pow 16 width := by
      have h1 : n < Nat.pow 16 width * 16 := h
      omega
    rw [hex, ofDigits_append_singleton, ih _ hq, digitValue_digitChar (by omega)]
    omega

end FlatBlocks.Text
