import FlatBlocks.Text.Digits

/-! The values of numbers. A whole number is exact; a number with a fraction or
an exponent is the binary number of 64 bits next to it, and of two that are next
the one whose last bit is zero. Values are measured in units of 2^-1074: every
finite binary number is a multiple of that. -/

namespace FlatBlocks.Json
open FlatBlocks.Text

inductive Number where
  | finite (units : Int)
  | infinite (negative : Bool)
  | undefined
  deriving DecidableEq, Repr

/-- The number of units in the number one. -/
def unitsPerOne : Nat := Nat.pow 2 1074

/-- The units from which on a binary number is infinite. -/
def infiniteUnits : Nat := Nat.pow 2 (1024 + 1074)

/-- The whole number next to a quotient, the even one of two. -/
def roundQuotient (numerator denominator : Nat) : Nat :=
  let quotient := numerator / denominator
  let doubled := 2 * (numerator % denominator)
  if doubled < denominator then quotient
  else if denominator < doubled then quotient + 1
  else quotient + quotient % 2

/-- The whole number of at most 53 significant bits next to a quotient. -/
def roundBits (numerator denominator : Nat) : Nat :=
  let step := Nat.pow 2 ((numerator / denominator).log2 - 52)
  step * roundQuotient numerator (denominator * step)

/-- The units of the binary number next to `mantissa` times a power of ten. -/
def unitsOf (mantissa : Nat) (exponent : Int) : Nat :=
  if exponent < 0 then roundBits (mantissa * unitsPerOne) (Nat.pow 10 (-exponent).toNat)
  else roundBits (mantissa * unitsPerOne * Nat.pow 10 exponent.toNat) 1

/-- The value of digits times a power of ten. Far from one it is zero or infinite,
and the power is not worked out. -/
def Number.ofDecimal (negative : Bool) (digits : Text) (exponent : Int) : Number :=
  let mantissa := ofDigits 10 digits
  if mantissa = 0 || exponent + digits.length < -400 then finite 0
  else if 400 < exponent then infinite negative
  else
    let units := unitsOf mantissa exponent
    if infiniteUnits ≤ units then infinite negative
    else finite (if negative then -(units : Int) else units)

/-- A power of ten as it is written after its letter, with an optional sign. -/
def exponentOf : Text → Int
  | .char '-' :: digits => -(ofDigits 10 digits : Int)
  | .char '+' :: digits => ofDigits 10 digits
  | digits => ofDigits 10 digits

def isExponentMark (c : CodePoint) : Bool := c == 'e' || c == 'E'

/-- The value of a number with a fraction or an exponent, from its spelling. -/
def Number.ofSpelling (spelling : Text) : Number :=
  if spelling = "NaN" then undefined
  else if spelling = "Infinity" then infinite false
  else if spelling = "-Infinity" then infinite true
  else
    let negative := spelling.head? == some (.char '-')
    let unsigned := if negative then spelling.drop 1 else spelling
    let decimal := unsigned.takeWhile (!isExponentMark ·)
    let exponent := exponentOf ((unsigned.dropWhile (!isExponentMark ·)).drop 1)
    let whole := decimal.takeWhile (· != .char '.')
    let fraction := (decimal.dropWhile (· != .char '.')).drop 1
    ofDecimal negative (whole ++ fraction) (exponent - fraction.length)

def Number.ofInt (n : Int) : Number := finite (n * unitsPerOne)

/-- A text that differs for different values. -/
def Number.key : Number → Text
  | finite units => toString units
  | infinite false => "inf"
  | infinite true => "-inf"
  | undefined => "nan"

/-- The order of values; what is undefined comes last. -/
def Number.precedes : Number → Number → Bool
  | finite a, finite b => decide (a ≤ b)
  | infinite true, _ => true
  | _, undefined => true
  | undefined, _ => false
  | _, infinite false => true
  | _, _ => false

end FlatBlocks.Json
