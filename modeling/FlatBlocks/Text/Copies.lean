import FlatBlocks.Text.CodePoint

/-! Copies of a text, one after the other. Their number has to fit a signed word
of 64 bits, and so has the length of what they make, for which there has to be
room as well. A number below one gives no copies. Room is asked for only where a
number from outside decides how long a text is. -/

namespace FlatBlocks.Text

def copies (t : Text) (count : Int) : Text := (List.replicate count.toNat t).flatten

inductive SizeFault where
  | noIndex
  | tooLong
  | noRoom
  deriving DecidableEq, Repr

def SizeFault.message : SizeFault → Text
  | noIndex => "cannot fit 'int' into an index-sized integer"
  | tooLong => "repeated string is too long"
  | noRoom => ""

/-- The number of signed words of 64 bits that are not negative. -/
def indexBound : Nat := 0x8000000000000000

/-- How long a text may be for which there is room. -/
structure Room where
  longest : Nat
  indexed : longest < indexBound
  deriving DecidableEq, Repr

/-- Why a text of a length cannot be made. -/
def Room.fault? (room : Room) (length : Nat) : Option SizeFault :=
  if indexBound ≤ length then some .tooLong
  else if room.longest < length then some .noRoom
  else none

theorem Room.fault?_eq_none_iff (room : Room) {length : Nat} :
    room.fault? length = none ↔ length ≤ room.longest := by
  have hindexed := room.indexed
  unfold Room.fault?
  split
  · simp only [reduceCtorEq, false_iff]
    omega
  · split
    · simp only [reduceCtorEq, false_iff]
      omega
    · simp only [true_iff]
      omega

/-- A text, if there is room for it. -/
def Room.hold (room : Room) (t : Text) : Except SizeFault Text :=
  match room.fault? t.length with
  | some fault => .error fault
  | none => .ok t

/-- Why copies of a text of a length cannot be made. -/
def copiesFault? (room : Room) (length : Nat) (count : Int) : Option SizeFault :=
  if count < -(indexBound : Int) || (indexBound : Int) ≤ count then some .noIndex
  else room.fault? (length * count.toNat)

end FlatBlocks.Text
