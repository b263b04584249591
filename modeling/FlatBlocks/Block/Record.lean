import FlatBlocks.Table

/-! Block records: the flat form of a program, in which a block refers to the
blocks plugged into it by their ids. Ids, names and contents are texts in the
records of markup, and may be any values in those of a JSON document. -/

namespace FlatBlocks.Block

/-- An input and the id of the block plugged into it. -/
structure Link (α : Type u) where
  name : α
  block : α
  deriving DecidableEq, Repr

/-- A field and its content. -/
structure Field (α : Type u) where
  name : α
  value : α
  deriving DecidableEq, Repr

structure Record (α : Type u) where
  id : α
  opcode : α
  inputs : Table (Link α) := []
  fields : Table (Field α) := []
  next : Option α := none
  topLevel : Bool := false
  deriving DecidableEq, Repr

def Link.map {α : Type u} {β : Type v} (f : α → β) (link : Link α) : Link β :=
  ⟨f link.name, f link.block⟩

def Field.map {α : Type u} {β : Type v} (f : α → β) (field : Field α) : Field β :=
  ⟨f field.name, f field.value⟩

namespace Record

/-- The same record with other ids, names and contents; keys of inputs and fields stay. -/
def map {α : Type u} {β : Type v} (f : α → β) (r : Record α) : Record β :=
  { id := f r.id
    opcode := f r.opcode
    inputs := r.inputs.map fun e => (e.1, e.2.map f)
    fields := r.fields.map fun e => (e.1, e.2.map f)
    next := r.next.map f
    topLevel := r.topLevel }

def putField (r : Record Text) (field : Field Text) : Record Text :=
  { r with fields := r.fields.put field.name field }

/-- Link to a block, from the input of a name or, without one, as the next block. -/
def link (r : Record Text) (input : Option Text) (target : Text) : Record Text :=
  match input with
  | some name => { r with inputs := r.inputs.put name ⟨name, target⟩ }
  | none => { r with next := some target }

end Record

end FlatBlocks.Block
