import FlatBlocks.Block.Outline.Checked

/-! Outlines of records that hold any JSON values where texts are due. -/

namespace FlatBlocks.Block.Outline
open FlatBlocks.Text (Room)

/-- Nothing is plugged into an input that holds an empty collection. -/
def clear (value : Json) : Json := if value.isEmpty && isCollection value then .null else value

def clearLinks (r : Record Json) : Record Json :=
  { r with inputs := r.inputs.map fun e => (e.1, { e.2 with block := clear e.2.block }) }

def looseRender (room : Room) (records : List (Record Json)) : Except Fault Text :=
  checkedRender room (records.map clearLinks)

/-- A text and the ids of all blocks that have been visited by then. -/
structure Printed where
  text : Text
  visited : List Json

/-- The id of the block that a line prints. -/
def Line.printed? : Line Json → Option Json
  | heading _ id _ => some id
  | _ => none

/-- The ids in a list, each of them once. -/
def distinct (ids : List Json) : List Json :=
  ids.eraseDupsBy fun a b => Label.key a == Label.key b

def Rendered.print {visited : List Text} (r : Rendered Json visited) (room : Room)
    (before : List Json) : Except Fault Printed := do
  let r ← r.checked room
  .ok ⟨r.text, distinct before ++ r.lines.filterMap Line.printed?⟩

/-- The stack that starts at an id, with some blocks visited before. -/
def looseStack (room : Room) (records : List (Record Json)) (level : Int)
    (visited : List Json) (start : Json) : Except Fault Printed := do
  let table ← checkedTable (records.map clearLinks)
  visited.forM checkId
  (stack table level (visited.map Label.key) (some (clear start))).print room visited

/-- A single block, with some blocks visited before. -/
def looseBlock (room : Room) (records : List (Record Json)) (level : Int)
    (visited : List Json) (id : Json) : Except Fault Printed := do
  let table ← checkedTable (records.map clearLinks)
  visited.forM checkId
  (block table level (visited.map Label.key) id).print room visited

end FlatBlocks.Block.Outline
