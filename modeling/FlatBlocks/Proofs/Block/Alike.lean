import FlatBlocks.Proofs.Block.Erasure
import FlatBlocks.Proofs.Markup.Alike

/-! # Flattening trees that are alike

A conversion looks an attribute up by its name, so trees that are alike are flattened to the
same records or fail with the same fault. -/

namespace FlatBlocks.Block
open Markup (Node)
open FlatBlocks.Text

theorem find?_forall₂ {nodes others : List Node} {p : Node → Bool}
    (h : List.Forall₂ Node.Alike nodes others)
    (hp : ∀ node other : Node, node.Alike other → p node = p other) :
    Option.Rel Node.Alike (nodes.find? p) (others.find? p) := by
  induction h with
  | nil => exact .none
  | @cons node other nodes others hhead _ ih =>
    rw [List.find?_cons, List.find?_cons, hp node other hhead]
    cases p other with
    | true => exact .some hhead
    | false => exact ih

section
variable {node other : Node} (h : node.Alike other)
include h

theorem role_alike : Role.of node = Role.of other := by
  simp only [Role.of, h.hasTag]

theorem require_alike (name : Text) (block : Option Text) :
    require node name block = require other name block := by
  rw [require, require, h.get? name, h.lowerTag]

theorem slotName_alike (named : Bool) (block : Text) :
    slotName node named block = slotName other named block := by
  rw [slotName, slotName, require_alike h]

theorem effective?_alike : Option.Rel Node.Alike (effective? node) (effective? other) := by
  have hfind : ∀ tag : Text, Option.Rel Node.Alike
      (node.elementChildren.find? (·.hasTag tag)) (other.elementChildren.find? (·.hasTag tag)) := by
    intro tag
    rw [Node.elementChildren, Node.elementChildren, List.find?_filter, List.find?_filter]
    refine find?_forall₂ h.children fun child mate hchild => ?_
    rw [hchild.isElement, hchild.hasTag tag]
  have hblock : Option.Rel Node.Alike (plugged? node) (plugged? other) := hfind "block"
  have hshadow : Option.Rel Node.Alike (shadow? node) (shadow? other) := hfind "shadow"
  rw [effective?, effective?]
  generalize plugged? node = block at hblock ⊢
  generalize plugged? other = mate at hblock ⊢
  cases hblock with
  | some hblock => exact .some hblock
  | none => exact hshadow

theorem readField_alike (block : Text) : readField node block = readField other block := by
  rw [readField, readField, require_alike h]
  cases require other "name" (some block) with
  | error cause => rfl
  | ok name =>
    have hchildren := h.children
    generalize node.children = children at hchildren
    generalize other.children = others at hchildren
    cases hchildren with
    | nil => rfl
    | cons hhead _ => simp only [hhead.isElement, hhead.textContent]

end

/-- Visits that give the same as those of every node that is alike. -/
def Unordered (node : Node) : Prop :=
  ∀ other, node.Alike other → ∀ (depth : Int) (registry : Registry),
    visit node depth registry = visit other depth registry

theorem visitChildren_alike {children others : List Node}
    (halike : List.Forall₂ Node.Alike children others)
    (h : ∀ child ∈ children, ∀ block, held? child = some block → Unordered block) (depth : Int)
    (number : Nat) (record : Record Text) (registry : Registry) :
    visitChildren children depth number record registry =
      visitChildren others depth number record registry := by
  induction halike generalizing record registry with
  | nil => rfl
  | @cons child other rest others hhead _ ih =>
    have hchild := h child List.mem_cons_self
    have ih := ih fun c hc => h c (List.mem_cons_of_mem _ hc)
    have hother := role_alike hhead
    cases hrole : Role.of child with
    | other =>
      rw [visitChildren, visitChildren, ← hother, hrole]
      exact ih record registry
    | field =>
      rw [visitChildren, visitChildren, ← hother, hrole]
      simp only [readField_alike hhead, ih]
    | slot named =>
      rw [visitChildren_cons_of_slot _ _ _ _ _ hrole,
        visitChildren_cons_of_slot _ _ _ _ _ (hother.symm.trans hrole),
        slotName_alike hhead, hhead.lowerTag]
      cases slotName other named record.id with
      | error cause => rfl
      | ok name =>
        have heffective := effective?_alike hhead
        cases he : effective? child with
        | none =>
          rw [he] at heffective
          generalize effective? other = found at heffective
          cases heffective
          rfl
        | some block =>
          rw [he] at heffective
          generalize effective? other = found at heffective
          cases heffective with
          | some hblock =>
            simp only [hchild block (by rw [held?_slot hrole, he]) _ hblock, ih]

theorem visit_alike (node : Node) : Unordered node := by
  induction node using plugs_induction with
  | step node ih =>
    intro other h depth registry
    have hheld : ∀ child ∈ node.children, ∀ block, held? child = some block → Unordered block :=
      fun child hc block hb => ih block (List.mem_filterMap.mpr ⟨child, hc, hb⟩)
    rw [visit, visit, require_alike h]
    cases require other "id" none with
    | error cause => rfl
    | ok id =>
      simp only [require_alike h]
      cases require other "type" (some id) with
      | error cause => rfl
      | ok opcode => exact visitChildren_alike h.children hheld depth _ _ _

theorem addRoots_alike {roots others : List Node} (h : List.Forall₂ Node.Alike roots others)
    (registry : Registry) : addRoots roots registry = addRoots others registry := by
  induction h generalizing registry with
  | nil => rfl
  | cons hhead _ ih => simp only [addRoots, hhead.hasTag, visit_alike _ _ hhead, ih]

/-- Roots that are alike give the same records, or the same fault. -/
theorem flatten_alike {roots others : List Node} (h : List.Forall₂ Node.Alike roots others) :
    flatten roots = flatten others := by
  rw [flatten, flatten, addRoots_alike h]

end FlatBlocks.Block
