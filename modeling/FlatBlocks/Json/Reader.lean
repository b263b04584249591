import FlatBlocks.Json.Value
import FlatBlocks.Text.Digits

/-! Reading JSON. Of two entries of an object with one key the later counts, at
the place of the earlier. The spellings NaN, Infinity and -Infinity are numbers.
Every reader returns the text that it left unread, and a fault carries the text
from the offending character on, which fixes its position. -/

namespace FlatBlocks.Json
open FlatBlocks.Text

inductive Problem where
  | value
  | propertyName
  | colon
  | comma
  | extraData
  | unterminatedString
  | controlCharacter
  | escape
  | unicodeEscape
  | byteOrderMark
  | tooLong (number : TooLong)
  deriving DecidableEq, Repr

def Problem.message : Problem → Text
  | .value => "Expecting value"
  | .propertyName => "Expecting property name enclosed in double quotes"
  | .colon => "Expecting ':' delimiter"
  | .comma => "Expecting ',' delimiter"
  | .extraData => "Extra data"
  | .unterminatedString => "Unterminated string starting at"
  | .controlCharacter => "Invalid control character at"
  | .escape => "Invalid \\escape"
  | .unicodeEscape => "Invalid \\uXXXX escape"
  | .byteOrderMark => "Unexpected UTF-8 BOM (decode using utf-8-sig)"
  | .tooLong number => number.message

/-- A problem and the unread text from the character that shows it. -/
structure Stop where
  problem : Problem
  unread : Text

def isJsonBlank (c : CodePoint) : Bool := c == ' ' || c == '\t' || c == '\n' || c == '\x0d'

def skipBlanks (s : Text) : Text := s.dropWhile isJsonBlank

/-- Four hexadecimal digits. -/
def readFourHex : Text → Option (Nat × Text)
  | a :: b :: c :: d :: rest =>
    if [a, b, c, d].all isHexDigit then some (ofDigits 16 [a, b, c, d], rest) else none
  | _ => none

def isHighSurrogate (n : Nat) : Bool := 0xD800 ≤ n && n ≤ 0xDBFF

def isLowSurrogate (n : Nat) : Bool := 0xDC00 ≤ n && n ≤ 0xDFFF

/-- The digits of a `\u` escape, given the text from the `u` on. They have to be
followed by something, as the string is still open. -/
def readUnit (fromU : Text) : Except Stop (Nat × Text) :=
  match readFourHex (fromU.drop 1) with
  | some (n, next :: rest) => .ok (n, next :: rest)
  | _ => .error ⟨.unicodeEscape, fromU⟩

/-- A `\u` escape, given the text from the `u` on: a high surrogate takes a low
one that follows it along, and stands alone without one. -/
def readUnicode (fromU : Text) : Except Stop (CodePoint × Text) := do
  let (high, rest) ← readUnit fromU
  match isHighSurrogate high, rest with
  | true, .char '\\' :: .char 'u' :: rest' =>
    if rest'.length < 5 then .ok (.ofNat high, rest)
    else
      let (low, rest'') ← readUnit ('u' :: rest')
      if isLowSurrogate low then
        .ok (.ofNat (0x10000 + (high - 0xD800) * 1024 + (low - 0xDC00)), rest'')
      else .ok (.ofNat high, rest)
  | _, _ => .ok (.ofNat high, rest)

def simpleEscape : CodePoint → Option CodePoint
  | .char '"' => some '"'
  | .char '\\' => some '\\'
  | .char '/' => some '/'
  | .char 'b' => some '\x08'
  | .char 'f' => some '\x0c'
  | .char 'n' => some '\n'
  | .char 'r' => some '\x0d'
  | .char 't' => some '\t'
  | _ => none

theorem readFourHex_length {s rest : Text} {n : Nat} (h : readFourHex s = some (n, rest)) :
    rest.length < s.length := by
  unfold readFourHex at h
  split at h
  · split at h
    · cases h
      exact Nat.lt_add_of_pos_right (Nat.zero_lt_succ 3)
    · cases h
  · cases h

theorem readUnit_length {s rest : Text} {n : Nat} (h : readUnit s = .ok (n, rest)) :
    rest.length < s.length := by
  unfold readUnit at h
  split at h
  · rename_i hdigits
    have hleft := readFourHex_length hdigits
    cases h
    rw [List.length_drop] at hleft
    exact Nat.lt_of_lt_of_le hleft (Nat.sub_le _ _)
  · cases h

theorem readUnicode_length {s rest : Text} {c : CodePoint} (h : readUnicode s = .ok (c, rest)) :
    rest.length < s.length := by
  unfold readUnicode at h
  cases hu : readUnit s with
  | error e =>
    rw [hu] at h
    cases h
  | ok p =>
    obtain ⟨high, r⟩ := p
    have hleft := readUnit_length hu
    simp only [hu, bind, Except.bind] at h
    split at h
    · split at h
      · cases h
        exact hleft
      split at h
      · cases h
      · rename_i hl
        have hlow := readUnit_length hl
        split at h
        · simp only [Except.ok.injEq, Prod.mk.injEq] at h
          obtain ⟨_, rfl⟩ := h
          simp only [List.length_cons] at hlow hleft
          omega
        · cases h
          exact hleft
    · cases h
      exact hleft

/-- The rest of a string after its opening quote and the characters `read`, last
one first; `opening` is the text from that quote on. -/
def readStringFrom (opening read : Text) (s : Text) :
    Except Stop (Text × Text) :=
  match s with
  | [] => .error ⟨.unterminatedString, opening⟩
  | .char '"' :: rest => .ok (read.reverse, rest)
  | .char '\\' :: .char 'u' :: rest =>
    match _hu : readUnicode ('u' :: rest) with
    | .error stop => .error stop
    | .ok (c, rest') => readStringFrom opening (c :: read) rest'
  | [.char '\\'] => .error ⟨.unterminatedString, opening⟩
  | .char '\\' :: c :: rest =>
    match simpleEscape c with
    | some e => readStringFrom opening (e :: read) rest
    | none => .error ⟨.escape, s⟩
  | c :: rest =>
    if c.toNat < 32 then .error ⟨.controlCharacter, s⟩
    else readStringFrom opening (c :: read) rest
termination_by s.length
decreasing_by
  all_goals simp only [List.length_cons]
  · have := readUnicode_length _hu; simp only [List.length_cons] at this; omega
  all_goals omega

/-- A string, given the text from its opening quote on. -/
def readString (opening : Text) : Except Stop (Text × Text) :=
  readStringFrom opening [] (opening.drop 1)

/-- A point and digits after it, or nothing. -/
def readFraction : Text → Text × Text
  | .char '.' :: rest =>
    match rest.takeWhile isAsciiDigit with
    | [] => ([], '.' :: rest)
    | digits => ('.' :: digits, rest.dropWhile isAsciiDigit)
  | s => ([], s)

/-- An exponent with at least one digit, or nothing. -/
def readExponent : Text → Text × Text
  | e :: rest =>
    let (sign, unsigned) : Text × Text := match rest with
      | .char '+' :: r => ("+", r)
      | .char '-' :: r => ("-", r)
      | r => ([], r)
    match (e == 'e' || e == 'E'), unsigned.takeWhile isAsciiDigit with
    | true, d :: digits => (e :: (sign ++ d :: digits), unsigned.dropWhile isAsciiDigit)
    | _, _ => ([], e :: rest)
  | [] => ([], [])

/-- The whole part of a number without its sign: a zero, or digits that do not
start with one. -/
def readWhole : Text → Option (Text × Text)
  | .char '0' :: rest => some ("0", rest)
  | c :: rest =>
    if isAsciiDigit c then some (c :: rest.takeWhile isAsciiDigit, rest.dropWhile isAsciiDigit)
    else none
  | [] => none

def readNumber (s : Text) : Except Stop (Json × Text) :=
  let (negative, unsigned) := match s with
    | .char '-' :: rest => (true, rest)
    | rest => (false, rest)
  match readWhole unsigned with
  | none => .error ⟨.value, s⟩
  | some (whole, rest) =>
    let (fraction, rest) := readFraction rest
    let (exponent, rest) := readExponent rest
    let sign : Text := if negative then "-" else []
    match fraction, exponent with
    | [], [] =>
      match readDecimal whole with
      | .ok n => .ok (.int (if negative then -(n : Int) else n), rest)
      | .error number => .error ⟨.tooLong number, s⟩
    | _, _ => .ok (.real (sign ++ whole ++ fraction ++ exponent), rest)

/-- The values that are spelled as words. -/
def words : List (Text × Json) :=
  [("null", .null), ("true", .bool true), ("false", .bool false), ("NaN", .real "NaN"),
    ("Infinity", .real "Infinity"), ("-Infinity", .real "-Infinity")]

def readWord (s : Text) : Option (Json × Text) :=
  words.findSome? fun e => (after? e.1 s).map fun rest => (e.2, rest)

/-- A value that is no collection. -/
def readScalar (s : Text) : Except Stop (Json × Text) :=
  match s with
  | .char '"' :: _ => (readString s).map fun (read, rest) => (.str read, rest)
  | s =>
    match readWord s with
    | some (word, rest) => .ok (word, rest)
    | none => readNumber s

mutual

/-- A value at the head of the text. The first argument bounds the number of steps.
A character costs two at most: one for the value it begins and one for the items. -/
def readValue : Nat → Text → Except Stop (Json × Text)
  | 0, s => .error ⟨.value, s⟩
  | fuel + 1, s =>
    match s with
    | .char '[' :: rest =>
      match skipBlanks rest with
      | .char ']' :: rest => .ok (.arr [], rest)
      | rest => readItems fuel [] rest
    | .char '\x7b' :: rest =>
      match skipBlanks rest with
      | .char '\x7d' :: rest => .ok (.obj [], rest)
      | rest => readEntries fuel [] rest
    | s => readScalar s

/-- The items of an array from the next one on, after the items `read`, last one first. -/
def readItems : Nat → List Json → Text → Except Stop (Json × Text)
  | 0, _, s => .error ⟨.value, s⟩
  | fuel + 1, read, s =>
    match readValue fuel s with
    | .error stop => .error stop
    | .ok (item, rest) =>
      match skipBlanks rest with
      | .char ']' :: rest => .ok (.arr (item :: read).reverse, rest)
      | .char ',' :: rest => readItems fuel (item :: read) (skipBlanks rest)
      | rest => .error ⟨.comma, rest⟩

def readEntries : Nat → Table Json → Text → Except Stop (Json × Text)
  | 0, _, s => .error ⟨.value, s⟩
  | fuel + 1, read, s =>
    match s with
    | .char '"' :: _ =>
      match readString s with
      | .error stop => .error stop
      | .ok (key, rest) =>
        match skipBlanks rest with
        | .char ':' :: rest =>
          match readValue fuel (skipBlanks rest) with
          | .error stop => .error stop
          | .ok (value, rest) =>
            match skipBlanks rest with
            | .char '\x7d' :: rest => .ok (.obj (read.put key value), rest)
            | .char ',' :: rest => readEntries fuel (read.put key value) (skipBlanks rest)
            | rest => .error ⟨.comma, rest⟩
        | rest => .error ⟨.colon, rest⟩
    | s => .error ⟨.propertyName, s⟩

end

/-- A whole document: one value between blanks. -/
def readDocument (s : Text) : Except Stop Json :=
  match s with
  | .char '\uFEFF' :: _ => .error ⟨.byteOrderMark, s⟩
  | s =>
    match readValue (2 * s.length + 2) (skipBlanks s) with
    | .error stop => .error stop
    | .ok (value, rest) =>
      match skipBlanks rest with
      | [] => .ok value
      | rest => .error ⟨.extraData, rest⟩

/-- A problem at an offset, which is `column` characters into line `line`; both
count from one. -/
structure SyntaxError where
  problem : Problem
  line : Nat
  column : Nat
  offset : Nat
  deriving DecidableEq, Repr

/-- Find the place of a fault in the document. -/
def SyntaxError.locate (document : Text) (stop : Stop) : SyntaxError :=
  let offset := document.length - stop.unread.length
  let before := document.take offset
  { problem := stop.problem
    line := before.count (.char '\n') + 1
    column := (before.reverse.takeWhile (· != .char '\n')).length + 1
    offset }

def SyntaxError.message (e : SyntaxError) : Text :=
  match e.problem with
  | .tooLong number => number.message
  | problem =>
    problem.message ++ ": line " ++ toString e.line ++ " column " ++ toString e.column ++
      " (char " ++ toString e.offset ++ ")"

def parse (document : Text) : Except SyntaxError Json :=
  (readDocument document).mapError (SyntaxError.locate document)

end FlatBlocks.Json
