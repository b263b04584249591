import FlatBlocks.Text.Quoted

/-! The UTF-8 form of a text. Half of a surrogate pair has none. Reading is
strict: overlong forms, surrogates and numbers beyond U+10FFFF are refused, and
the fault says which bytes were read before it showed. Text files may end their
lines in three ways; once decoded they all read as a line feed. -/

namespace FlatBlocks.Text.Utf8

def encodeChar (c : Char) : List UInt8 :=
  let n := c.toNat
  if n < 0x80 then [n.toUInt8]
  else if n < 0x800 then [(0xC0 + n / 64).toUInt8, (0x80 + n % 64).toUInt8]
  else if n < 0x10000 then
    [(0xE0 + n / 4096).toUInt8, (0x80 + n / 64 % 64).toUInt8, (0x80 + n % 64).toUInt8]
  else
    [(0xF0 + n / 262144).toUInt8, (0x80 + n / 4096 % 64).toUInt8,
      (0x80 + n / 64 % 64).toUInt8, (0x80 + n % 64).toUInt8]

/-- Code points without a UTF-8 form: `length` of them from position `start`, the
first of which is `first`. -/
structure Unencodable where
  first : CodePoint
  start : Nat
  length : Nat
  deriving DecidableEq, Repr

def Unencodable.message (e : Unencodable) : Text :=
  "'utf-8' codec can't encode " ++
    (if e.length = 1 then
      "character '" ++ numberEscape e.first ++ "' in position " ++ toString e.start
    else
      "characters in position " ++ toString e.start ++ "-" ++ toString (e.start + e.length - 1)) ++
    ": surrogates not allowed"

/-- Encode what stands from a position on, after the bytes `written`, last one
first. Some halves may stand for a byte each. -/
def encodeFrom (byteOf : Fin 0x800 → Option UInt8) (position : Nat) (written : List UInt8) :
    Text → Except Unencodable (List UInt8)
  | [] => .ok written.reverse
  | .char c :: rest =>
    encodeFrom byteOf (position + 1) ((encodeChar c).reverse ++ written) rest
  | .surrogate offset :: rest =>
    match byteOf offset with
    | some b => encodeFrom byteOf (position + 1) (b :: written) rest
    | none =>
      .error ⟨.surrogate offset, position, (rest.takeWhile CodePoint.isSurrogate).length + 1⟩

def encode (s : Text) : Except Unencodable (List UInt8) := encodeFrom (fun _ => none) 0 [] s

inductive Cause where
  | startByte
  | continuationByte
  | endOfData
  deriving DecidableEq, Repr

/-- The bytes that cannot be read: `length` of them from position `start`, the
first of which is `first`. -/
structure Fault where
  cause : Cause
  start : Nat
  length : Nat
  first : UInt8
  deriving DecidableEq, Repr

def Cause.message : Cause → Text
  | .startByte => "invalid start byte"
  | .continuationByte => "invalid continuation byte"
  | .endOfData => "unexpected end of data"

def Fault.message (f : Fault) : Text :=
  "'utf-8' codec can't decode " ++
    (if f.length = 1 then
      "byte 0x" ++ hex 2 f.first.toNat ++ " in position " ++ toString f.start
    else
      "bytes in position " ++ toString f.start ++ "-" ++ toString (f.start + f.length - 1)) ++
    ": " ++ f.cause.message

/-- What a first byte opens: the bits that it carries, and the ranges in which
the bytes after it have to lie. -/
def opening (b : UInt8) : Option (Nat × List (Nat × Nat)) :=
  let n := b.toNat
  let any := (0x80, 0xBF)
  if n < 0x80 then some (n, [])
  else if n < 0xC2 then none
  else if n < 0xE0 then some (n - 0xC0, [any])
  else if n = 0xE0 then some (0, [(0xA0, 0xBF), any])
  else if n = 0xED then some (13, [(0x80, 0x9F), any])
  else if n < 0xF0 then some (n - 0xE0, [any, any])
  else if n = 0xF0 then some (0, [(0x90, 0xBF), any, any])
  else if n < 0xF4 then some (n - 0xF0, [any, any, any])
  else if n = 0xF4 then some (4, [(0x80, 0x8F), any, any])
  else none

/-- A sequence that has begun: its first byte, the number of bytes read, the
bits so far and the ranges that are still due. -/
structure Pending where
  first : UInt8
  taken : Nat
  bits : Nat
  due : List (Nat × Nat)

def Pending.fault (p : Pending) (cause : Cause) (position : Nat) : Fault :=
  ⟨cause, position - p.taken, p.taken, p.first⟩

/-- Read bytes from a position on, after the text `read`, last character first. -/
def decodeFrom (position : Nat) (read : Text) (pending : Option Pending) :
    List UInt8 → Except Fault Text
  | [] => match pending with
    | none => .ok read.reverse
    | some p => .error (p.fault .endOfData position)
  | b :: rest => match pending with
    | none => match opening b with
      | none => .error ⟨.startByte, position, 1, b⟩
      | some (bits, []) => decodeFrom (position + 1) (.char (Char.ofNat bits) :: read) none rest
      | some (bits, due) => decodeFrom (position + 1) read (some ⟨b, 1, bits, due⟩) rest
    | some p => match p.due with
      | [] => .error (p.fault .continuationByte position)
      | (low, high) :: due =>
        if low ≤ b.toNat && b.toNat ≤ high then
          let bits := p.bits * 64 + (b.toNat - 0x80)
          match due with
          | [] => decodeFrom (position + 1) (.char (Char.ofNat bits) :: read) none rest
          | due => decodeFrom (position + 1) read (some ⟨p.first, p.taken + 1, bits, due⟩) rest
        else .error (p.fault .continuationByte position)

def decode (bytes : List UInt8) : Except Fault Text := decodeFrom 0 [] none bytes

/-- A carriage return, alone or before a line feed, becomes a line feed. -/
def unifyLinesAfter (read : Text) : Text → Text
  | [] => read.reverse
  | .char '\x0d' :: .char '\n' :: rest => unifyLinesAfter ('\n' :: read) rest
  | c :: rest => unifyLinesAfter ((if c = '\x0d' then '\n' else c) :: read) rest

def unifyLines (s : Text) : Text := unifyLinesAfter [] s

end FlatBlocks.Text.Utf8
