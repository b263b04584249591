import FlatBlocks.Block.Outline

/-! Outlines whose lines can all be printed. A level may call for more spaces than
can be made, for want of room or of numbers that count them, and an id that is a
collection cannot be looked up. The first line at fault spoils the outline; within
a line the level comes before the id. -/

namespace FlatBlocks.Block.Outline
open FlatBlocks.Text

variable {α : Type} [Label α]

inductive Fault where
  | size (fault : SizeFault)
  | notId
  deriving DecidableEq, Repr

def checkLevel (room : Room) (level : Int) : Except Fault Unit :=
  match copiesFault? room unit.length level with
  | some fault => .error (.size fault)
  | none => .ok ()

def checkId (id : α) : Except Fault Unit := if Label.isId id then .ok () else .error .notId

def Line.check (room : Room) : Line α → Except Fault Unit
  | heading level _ _ => checkLevel room level
  | input level _ => checkLevel room level
  | missing level id => do checkLevel room level; checkId id
  | cycle level _ => checkLevel room level

def checkLines (room : Room) (lines : List (Line α)) : Except Fault Unit :=
  lines.forM (Line.check room)

/-- A rendering in which every line can be printed. -/
def Rendered.checked {visited : List Text} (r : Rendered α visited) (room : Room) :
    Except Fault (Rendered α visited) := do
  checkLines room r.lines
  .ok r

/-- Records under their ids, if all of them can be looked up. -/
def checkedTable (records : List (Record α)) : Except Fault (Table (Record α)) := do
  (records.map Record.id).forM checkId
  .ok (tableOf records)

/-- The outline of records, if it can be printed. -/
def checkedRender (room : Room) (records : List (Record α)) : Except Fault Text := do
  (records.map Record.id).forM checkId
  let paragraphs := ofRecords records
  checkLines room paragraphs.flatten
  .ok (joined paragraphs)

end FlatBlocks.Block.Outline
