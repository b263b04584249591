import FlatBlocks.Block.Record
import FlatBlocks.Json.Display
import FlatBlocks.Json.Writer

/-! What the ids, names and contents in a record have to offer before an outline
of the records can be made: when two ids are one, and how each is shown. -/

namespace FlatBlocks.Block

class Label (α : Type u) where
  /-- Two ids are one if their keys are. -/
  key : α → Text
  shown : α → Text
  /-- A blank id refers to no block. -/
  isBlank : α → Bool
  /-- Whether a block can be looked up under it. -/
  isId : α → Bool

instance : Label Text := ⟨id, id, List.isEmpty, fun _ => true⟩

@[simp] theorem key_text (t : Text) : Label.key t = t := rfl

@[simp] theorem shown_text (t : Text) : Label.shown t = t := rfl

@[simp] theorem isBlank_text (t : Text) : Label.isBlank t = t.isEmpty := rfl

@[simp] theorem isId_text (t : Text) : Label.isId t = true := rfl

/-- Numbers of one value are one id, truth values among them. A text is told from
the spelling of another value by a quote before it. -/
def jsonKey : Json → Text
  | .str s => '"' :: s
  | value => match value.number? with
    | some number => number.key
    | none => Json.render .oneLine value

def isCollection : Json → Bool
  | .arr _ => true
  | .obj _ => true
  | _ => false

/-- A collection is no id, but it is not blank either. -/
instance : Label Json :=
  ⟨jsonKey, Json.display, fun value => value.isEmpty && !isCollection value,
    fun value => !isCollection value⟩

/-- Records under the keys of their ids. -/
def tableOf {α : Type u} [Label α] (records : List (Record α)) : Table (Record α) :=
  Table.ofList (records.map fun r => (Label.key r.id, r))

end FlatBlocks.Block
