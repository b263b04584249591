import FlatBlocks.Block.Malformed
import FlatBlocks.Block.Record

/-! The elements inside a block: its fields and the slots that other blocks are
plugged into. A slot holds a block, or a shadow that stands in for one. -/

namespace FlatBlocks.Block
open Markup (Node)

/-- What a child of a block element is for. -/
inductive Role where
  | field
  | slot (named : Bool)
  | other
  deriving DecidableEq, Repr

def Role.of (node : Node) : Role :=
  if node.hasTag "field" then .field
  else if node.hasTag "value" || node.hasTag "statement" then .slot true
  else if node.hasTag "next" then .slot false
  else .other

/-- The first block of a slot. -/
def plugged? (slot : Node) : Option Node := slot.elementChildren.find? (·.hasTag "block")

/-- The first shadow of a slot. -/
def shadow? (slot : Node) : Option Node := slot.elementChildren.find? (·.hasTag "shadow")

/-- The block that counts: a real one before a shadow, wherever they stand. -/
def effective? (slot : Node) : Option Node := (plugged? slot).or (shadow? slot)

/-- An attribute that the element of a block has to have. -/
def require (node : Node) (name : Text) (block : Option Text) : Except Malformed Text :=
  match node.get? name with
  | some value => .ok value
  | none => .error (.missingAttribute node.lowerTag name block)

/-- The name of a slot, if it is to have one. -/
def slotName (slot : Node) (named : Bool) (block : Text) : Except Malformed (Option Text) :=
  if named then (require slot "name" (some block)).map some else .ok none

/-- A field takes the text of its first child. -/
def readField (field : Node) (block : Text) : Except Fault (Field Text) :=
  match require field "name" (some block) with
  | .error cause => .error (.malformed cause)
  | .ok name =>
    match field.children with
    | [] => .error (.malformed (.emptyField name block))
    | child :: _ =>
      if child.isElement then .error (.malformed (.emptyField name block))
      else match child.textContent with
        | .error refusal => .error (.notText refusal)
        | .ok value => .ok ⟨name, value⟩

theorem effective?_mem_children {slot block : Node} (h : effective? slot = some block) :
    block ∈ slot.children := by
  have mem_of : ∀ p, slot.elementChildren.find? p = some block → block ∈ slot.children := by
    intro p hp
    exact (List.mem_filter.mp (List.mem_of_find?_eq_some hp)).1
  unfold effective? at h
  rcases Option.or_eq_some_iff.mp h with hb | ⟨_, hs⟩
  · exact mem_of _ hb
  · exact mem_of _ hs

theorem sizeOf_effective?_lt {slot block : Node} (h : effective? slot = some block) :
    sizeOf block < sizeOf slot := Node.sizeOf_lt_of_mem_children (effective?_mem_children h)

end FlatBlocks.Block
