import FlatBlocks.Text.Digits

/-! Whole numbers written with the decimal digits of any script. -/

namespace FlatBlocks.Text

/-- The code points of the zeros (general category Nd, digit value 0); the nine
characters after each are the other digits. -/
def zeros : List Nat :=
  [0x30, 0x660, 0x6F0, 0x7C0, 0x966, 0x9E6, 0xA66, 0xAE6, 0xB66, 0xBE6, 0xC66, 0xCE6, 0xD66,
   0xDE6, 0xE50, 0xED0, 0xF20, 0x1040, 0x1090, 0x17E0, 0x1810, 0x1946, 0x19D0, 0x1A80, 0x1A90,
   0x1B50, 0x1BB0, 0x1C40, 0x1C50, 0xA620, 0xA8D0, 0xA900, 0xA9D0, 0xA9F0, 0xAA50, 0xABF0,
   0xFF10, 0x104A0, 0x10D30, 0x11066, 0x110F0, 0x11136, 0x111D0, 0x112F0, 0x11450, 0x114D0,
   0x11650, 0x116C0, 0x11730, 0x118E0, 0x11950, 0x11C50, 0x11D50, 0x11DA0, 0x16A60, 0x16AC0,
   0x16B50, 0x1D7CE, 0x1D7D8, 0x1D7E2, 0x1D7EC, 0x1D7F6, 0x1E140, 0x1E2F0, 0x1E950, 0x1FBF0]

def decimalDigit? (c : CodePoint) : Option Nat :=
  (zeros.find? fun first => first ≤ c.toNat && c.toNat ≤ first + 9).map (c.toNat - ·)

/-- The digits that follow a digit; a single underscore may stand before each. -/
def readDigits (n : Nat) : Text → Option Nat
  | [] => some n
  | .char '_' :: c :: rest => (decimalDigit? c).bind fun d => readDigits (n * 10 + d) rest
  | c :: rest => (decimalDigit? c).bind fun d => readDigits (n * 10 + d) rest

def readNat : Text → Option Nat
  | [] => none
  | c :: rest => (decimalDigit? c).bind fun d => readDigits d rest

/-- A blank that may stand around a number: one that is no information separator. -/
def isPadding (c : CodePoint) : Bool := isBlank c && !(28 ≤ c.toNat && c.toNat ≤ 31)

def readSigned : Text → Option Int
  | .char '-' :: digits => (readNat digits).map fun n => -(n : Int)
  | .char '+' :: digits => (readNat digits).map fun n => (n : Int)
  | digits => (readNat digits).map fun n => (n : Int)

/-- A whole number with an optional sign and blanks around it. -/
def readInt (s : Text) : Option Int :=
  let inner := ((s.dropWhile isPadding).reverse.dropWhile isPadding).reverse
  if maxDigits < inner.countP fun c => (decimalDigit? c).isSome then none
  else readSigned inner

/-- Whether a text is a minus sign before digits, a point among or before them
allowed; a line feed may end it. -/
def looksNegative (s : Text) : Bool :=
  let isDigit := fun c => (decimalDigit? c).isSome
  match s with
  | .char '-' :: rest =>
    let whole := rest.takeWhile isDigit
    match rest.dropWhile isDigit with
    | [] => !whole.isEmpty
    | [.char '\n'] => !whole.isEmpty
    | .char '.' :: digits =>
      let fraction := digits.takeWhile isDigit
      let after := digits.dropWhile isDigit
      !fraction.isEmpty && (after.isEmpty || after == [.char '\n'])
    | _ => false
  | _ => false

end FlatBlocks.Text
