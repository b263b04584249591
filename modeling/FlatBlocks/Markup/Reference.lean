import FlatBlocks.Markup.Reference.Names
import FlatBlocks.Table
import FlatBlocks.Text.Digits

/-! Character references: names, and numbers, where the range from 0x80 to 0x9F
stands for the characters of Windows-1252. Text and attribute values resolve
them by rules of their own. A decimal number may be too long to be read. -/

namespace FlatBlocks.Markup.Reference
open FlatBlocks.Text

def looseNames : Table Text := looseSpellings.map fun e => (e.1, [.ofNat e.2])

def strictNames : Table Text := strictSpellings.map fun e => (e.1, [.ofNat e.2])

def pairNames : Table Text := pairSpellings.map fun e => (e.1, [.ofNat e.2.1, .ofNat e.2.2])

def named? (name : Text) : Option Text :=
  (looseNames.get? name).or ((strictNames.get? name).or (pairNames.get? name))

/-- The characters of Windows-1252 from 0x80 on; zero where it has none. -/
def windows1252 : List Nat :=
  [0x20AC, 0, 0x201A, 0x0192, 0x201E, 0x2026, 0x2020, 0x2021,
    0x02C6, 0x2030, 0x0160, 0x2039, 0x0152, 0, 0x017D, 0,
    0, 0x2018, 0x2019, 0x201C, 0x201D, 0x2022, 0x2013, 0x2014,
    0x02DC, 0x2122, 0x0161, 0x203A, 0x0153, 0, 0x017E, 0x0178]

/-- The code point meant by a number. -/
def remap (n : Nat) : Nat :=
  if n < 0x80 then n
  else match windows1252[n - 0x80]? with
    | some 0 => n
    | some m => m
    | none => n

/-- Numbers that no character has. -/
def isOutside (n : Nat) : Bool :=
  n == 0 || (0xD800 ≤ n && n ≤ 0xDFFF) || 0x10FFFF < n

/-- Controls and noncharacters, which an attribute value drops. -/
def isDropped (n : Nat) : Bool :=
  (1 ≤ n && n ≤ 8) || n == 0xB || (0xE ≤ n && n ≤ 0x1F) || n == 0x7F ||
    (0xFDD0 ≤ n && n ≤ 0xFDEF) || 0xFFFE ≤ n % 0x10000

/-- A number in text: every character but the impossible ones can be had. -/
def ofNumber (n : Nat) : CodePoint :=
  if isOutside n then '\uFFFD' else .ofNat (remap n)

/-- A number in an attribute value. -/
def ofNumberInValue (n : Nat) : Text :=
  if isOutside n then "\uFFFD"
  else if isDropped n then []
  else [.ofNat (remap n)]

/-- The number of a reference, given the text after its sharp sign. -/
def number (digits : Text) : Except TooLong Nat :=
  match digits with
  | .char 'x' :: rest => .ok (ofDigits 16 rest)
  | .char 'X' :: rest => .ok (ofDigits 16 rest)
  | digits => readDecimal digits

/-- A numeric reference in text, given what follows its sharp sign. -/
def numericText (digits : Text) : Except TooLong Text := (number digits).map fun n => [ofNumber n]

/-- A named reference in text; an unknown one stands for itself. -/
def namedText (name : Text) : Text := (named? name).getD ('&' :: name)

/-- A name in an attribute value, with its semicolon if it has one. -/
def inValue? (name : Text) : Option Text :=
  match name.reverse with
  | .char ';' :: front => named? front.reverse
  | _ => looseNames.get? name

/-- The longest beginning of at least two code points that is a name, and the rest. -/
def longestName (name : Text) : Nat → Option (Text × Text)
  | 0 => none
  | 1 => none
  | n + 2 =>
    match inValue? (name.take (n + 2)) with
    | some meaning => some (meaning, name.drop (n + 2))
    | none => longestName name (n + 1)

/-- A named reference in an attribute value, given what follows its ampersand. -/
def namedValue (name : Text) : Text :=
  match longestName name name.length with
  | some (meaning, rest) => meaning ++ rest
  | none => '&' :: name

/-- The code points that a name in an attribute value consists of. -/
def isNameChar (c : CodePoint) : Bool :=
  !(c == '\t' || c == '\n' || c == '\x0c' || c == ' ' || c == '<' || c == '&' || c == '#' ||
    c == ';')

/-- The semicolon that may end a reference, and what comes after it. -/
def optionalSemicolon : Text → Text × Text
  | .char ';' :: rest => (";", rest)
  | s => ([], s)

/-- What a reference in an attribute value stands for and the text after it, given
the text after the ampersand. -/
def readInValue (s : Text) : Option (Except TooLong Text × Text) :=
  match s with
  | .char '#' :: .char 'x' :: rest => numeric 'x' rest
  | .char '#' :: .char 'X' :: rest => numeric 'X' rest
  | .char '#' :: rest =>
    match rest.takeWhile isAsciiDigit with
    | [] => none
    | digits =>
      some ((number digits).map ofNumberInValue,
        (optionalSemicolon (rest.dropWhile isAsciiDigit)).2)
  | s =>
    match (s.take 32).takeWhile isNameChar with
    | [] => none
    | name =>
      let (semicolon, rest) := optionalSemicolon (s.drop name.length)
      some (.ok (namedValue (name ++ semicolon)), rest)
where
  numeric (mark : CodePoint) (rest : Text) : Option (Except TooLong Text × Text) :=
    match rest.takeWhile isHexDigit with
    | [] => none
    | digits =>
      some ((number (mark :: digits)).map ofNumberInValue,
        (optionalSemicolon (rest.dropWhile isHexDigit)).2)

theorem optionalSemicolon_length (s : Text) :
    (optionalSemicolon s).2.length ≤ s.length := by
  unfold optionalSemicolon
  split
  · exact Nat.le_succ _
  · exact Nat.le_refl _

/-- What follows a number and its semicolon. -/
theorem afterDigits_length (digit : CodePoint → Bool) (s : Text) :
    (optionalSemicolon (s.dropWhile digit)).2.length ≤ s.length :=
  Nat.le_trans (optionalSemicolon_length _) (length_dropWhile_le digit s)

theorem numeric_length {mark : CodePoint} {s rest : Text} {meaning : Except TooLong Text}
    (h : readInValue.numeric mark s = some (meaning, rest)) : rest.length ≤ s.length := by
  unfold readInValue.numeric at h
  split at h
  · cases h
  · cases h
    exact afterDigits_length isHexDigit s

theorem readInValue_length {s rest : Text} {meaning : Except TooLong Text}
    (h : readInValue s = some (meaning, rest)) : rest.length ≤ s.length := by
  unfold readInValue at h
  split at h
  · exact Nat.le_succ_of_le (Nat.le_succ_of_le (numeric_length h))
  · exact Nat.le_succ_of_le (Nat.le_succ_of_le (numeric_length h))
  · split at h
    · cases h
    · cases h
      exact Nat.le_succ_of_le (afterDigits_length isAsciiDigit _)
  · split at h
    · cases h
    · cases h
      refine Nat.le_trans (optionalSemicolon_length _) ?_
      rw [List.length_drop]
      exact Nat.sub_le _ _

/-- Resolve the references of an attribute value, after the text `done`, last
code point first. -/
def resolveAfter (done : Text) : Text → Except TooLong Text
  | [] => .ok done.reverse
  | .char '&' :: rest =>
    match _h : readInValue rest with
    | some (.ok meaning, rest') => resolveAfter (meaning.reverse ++ done) rest'
    | some (.error number, _) => .error number
    | none => resolveAfter ('&' :: done) rest
  | c :: rest => resolveAfter (c :: done) rest
termination_by s => s.length
decreasing_by
  all_goals simp only [List.length_cons]
  · have := readInValue_length _h; omega
  all_goals omega

def resolve (value : Text) : Except TooLong Text := resolveAfter [] value

end FlatBlocks.Markup.Reference
