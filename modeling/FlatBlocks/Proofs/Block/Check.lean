import FlatBlocks.Block.Flatten
import FlatBlocks.Proofs.Block.Content

/-! What is checked of an element while it is visited, as one list in the order of
the checks. The list goes on behind a check that fails and knows of no registry, so
that the fault of a visit is the fault of the first check in it that fails. -/

namespace FlatBlocks.Block
open Markup (Node)

/-- A condition on an element, with what a report of its failure names. -/
inductive Check where
  /-- An element has an attribute. -/
  | required (node : Node) (name : Text) (block : Option Text)
  /-- A field has a first child, and this is no element. -/
  | content (field : Node) (name block : Text)
  /-- A slot holds a block or a shadow. -/
  | plug (slot : Node) (name : Option Text) (block : Text)

namespace Check

/-- The element that is checked. -/
def node : Check → Node
  | required node _ _ => node
  | content field _ _ => field
  | plug slot _ _ => slot

def holds : Check → Bool
  | required node name _ => (node.get? name).isSome
  | content field _ _ => (field.children.head?.map fun first => !first.isElement).getD false
  | plug slot _ _ => (effective? slot).isSome

/-- What is wrong if the check fails. -/
def malformed : Check → Malformed
  | required node name block => .missingAttribute node.lowerTag name block
  | content _ name block => .emptyField name block
  | plug slot name block => .emptySlot slot.lowerTag name block

/-- The refusal of a first child that is neither an element nor a text. -/
def refusal? : Check → Option Node.NotText
  | content field _ _ => field.children.head?.bind fun first =>
    match first.textContent with
    | .error refusal => some refusal
    | .ok _ => none
  | required _ _ _ => none
  | plug _ _ _ => none

def fault? (check : Check) : Option Fault :=
  if check.holds then check.refusal?.map .notText else some (.malformed check.malformed)

/-- A value, unless one of the checks before it fails. -/
def verdict {α : Type} (checks : List Check) (value : α) : Except Fault α :=
  match checks.findSome? fault? with
  | none => .ok value
  | some fault => .error fault

variable {α : Type}

@[simp] theorem verdict_nil (value : α) : verdict [] value = .ok value := rfl

theorem verdict_of_none {checks : List Check} (h : checks.findSome? fault? = none) (value : α) :
    verdict checks value = .ok value := by
  rw [verdict, h]

theorem verdict_of_some {checks : List Check} {fault : Fault}
    (h : checks.findSome? fault? = some fault) (value : α) :
    verdict checks value = .error fault := by
  rw [verdict, h]

theorem verdict_append_of_none {first : List Check} (h : first.findSome? fault? = none)
    (second : List Check) (value : α) : verdict (first ++ second) value = verdict second value := by
  simp [verdict, List.findSome?_append, h]

theorem verdict_append_of_some {first : List Check} {fault : Fault}
    (h : first.findSome? fault? = some fault) (second : List Check) (value : α) :
    verdict (first ++ second) value = .error fault := by
  simp [verdict, List.findSome?_append, h]

theorem findSome?_flatMap {ι : Type} (checksOf : ι → List Check) (items : List ι) :
    (items.flatMap checksOf).findSome? fault? =
      items.findSome? fun item => (checksOf item).findSome? fault? := by
  induction items with
  | nil => rfl
  | cons item rest ih =>
    rw [List.flatMap_cons, List.findSome?_append, ih, List.findSome?_cons]
    cases (checksOf item).findSome? fault? <;> rfl

theorem findSome?_flatMap_eq_none {ι : Type} {checksOf : ι → List Check} {items : List ι} :
    (items.flatMap checksOf).findSome? fault? = none ↔
      ∀ item ∈ items, (checksOf item).findSome? fault? = none := by
  rw [findSome?_flatMap, List.findSome?_eq_none_iff]

theorem holds_of_none {check : Check} {checks : List Check}
    (h : checks.findSome? fault? = none) (hm : check ∈ checks) : check.holds = true := by
  have hf := List.findSome?_eq_none_iff.mp h check hm
  unfold fault? at hf
  split at hf
  · assumption
  · cases hf

section
variable {node : Node} {name value : Text} (block : Option Text)

theorem fault?_required_some (h : node.get? name = some value) :
    fault? (.required node name block) = none := by
  simp [fault?, holds, refusal?, h]

theorem fault?_required_none (h : node.get? name = none) :
    fault? (.required node name block) =
      some (.malformed (.missingAttribute node.lowerTag name block)) := by
  simp [fault?, holds, malformed, h]

end

end Check

/-! ## The checks of an element -/

/-- The checks on a child of a block, as far as they do not concern what it holds. -/
def ownChecks (block : Text) (child : Node) : List Check :=
  let name := (child.get? "name").getD ""
  match Role.of child with
  | .field => [.required child "name" (some block), .content child name block]
  | .slot true => [.required child "name" (some block), .plug child (some name) block]
  | .slot false => [.plug child none block]
  | .other => []

/-- The checks on an element and on everything that is visited inside it. -/
def checks (node : Node) : List Check :=
  let id := (node.get? "id").getD ""
  .required node "id" none :: .required node "type" (some id) ::
    node.children.attach.flatMap fun child =>
      ownChecks id child.val ++ match _h : held? child.val with
        | none => []
        | some block => checks block
termination_by sizeOf node
decreasing_by
  exact Nat.lt_trans (sizeOf_held?_lt _h) (Node.sizeOf_lt_of_mem_children child.property)

/-- The checks on a child of a block: first its own, then those on what it holds. -/
def childChecks (block : Text) (child : Node) : List Check :=
  ownChecks block child ++ ((held? child).map checks).getD []

theorem checks_eq (node : Node) :
    checks node = .required node "id" none ::
      .required node "type" (some ((node.get? "id").getD "")) ::
      node.children.flatMap (childChecks ((node.get? "id").getD "")) := by
  rw [checks, List.flatMap_subtype (g := childChecks ((node.get? "id").getD "")),
    List.unattach_attach]
  intro child _
  unfold childChecks
  split <;> rename_i h <;> rw [h] <;> rfl

theorem findSome?_checks_of_no_id {node : Node} (hid : node.get? "id" = none) :
    (checks node).findSome? Check.fault? =
      some (.malformed (.missingAttribute node.lowerTag "id" none)) := by
  rw [checks_eq, List.findSome?_cons, Check.fault?_required_none none hid]

theorem findSome?_checks_of_no_type {node : Node} {id : Text} (hid : node.get? "id" = some id)
    (htype : node.get? "type" = none) :
    (checks node).findSome? Check.fault? =
      some (.malformed (.missingAttribute node.lowerTag "type" (some id))) := by
  rw [checks_eq, hid, Option.getD_some, List.findSome?_cons, Check.fault?_required_some none hid,
    List.findSome?_cons, Check.fault?_required_none (some id) htype]

/-- The first fault of an element that has an id and a type is the first fault of its children. -/
theorem findSome?_checks {node : Node} {id opcode : Text} (hid : node.get? "id" = some id)
    (htype : node.get? "type" = some opcode) :
    (checks node).findSome? Check.fault? =
      (node.children.flatMap (childChecks id)).findSome? Check.fault? := by
  rw [checks_eq, hid, Option.getD_some, List.findSome?_cons, Check.fault?_required_some none hid,
    List.findSome?_cons, Check.fault?_required_some (some id) htype]

/-- The checks on a list of roots. -/
def rootChecks (roots : List Node) : List Check := (rootBlocks roots).flatMap checks

theorem rootChecks_cons_block {root : Node} (rest : List Node) (h : root.hasTag "block" = true) :
    rootChecks (root :: rest) = checks root ++ rootChecks rest := by
  rw [rootChecks, rootBlocks_cons_block rest h]; rfl

theorem rootChecks_cons_other {root : Node} (rest : List Node)
    (h : ¬ root.hasTag "block" = true) : rootChecks (root :: rest) = rootChecks rest := by
  rw [rootChecks, rootBlocks_cons_other rest h]; rfl

/-! ## What passing the checks says of a child -/

theorem childChecks_of_other {block : Text} {child : Node} (h : Role.of child = .other) :
    childChecks block child = [] := by
  simp [childChecks, ownChecks, held?, h]

theorem childChecks_of_field {block : Text} {child : Node} (h : Role.of child = .field) :
    childChecks block child = ownChecks block child := by
  simp [childChecks, held?, h]

theorem childChecks_of_slot {block : Text} {child inner : Node} {named : Bool}
    (h : Role.of child = .slot named) (he : effective? child = some inner) :
    childChecks block child = ownChecks block child ++ checks inner := by
  simp [childChecks, held?_slot h, he]

/-- Reading a field either gives what the field gives or fails with its first failing check. -/
theorem readField_cases (block : Text) {child : Node} (hrole : Role.of child = .field) :
    (∃ field, readField child block = .ok field ∧ fieldOf? child = some field ∧
      (ownChecks block child).findSome? Check.fault? = none) ∨
    (∃ fault, readField child block = .error fault ∧
      (ownChecks block child).findSome? Check.fault? = some fault) := by
  simp only [ownChecks, hrole, List.findSome?_cons, List.findSome?_nil, readField, require]
  cases hname : child.get? "name" with
  | none =>
    refine Or.inr ⟨_, rfl, ?_⟩
    simp only [Check.fault?_required_none _ hname]
  | some name =>
    simp only [Check.fault?_required_some _ hname, Option.getD_some]
    cases hchildren : child.children with
    | nil =>
      refine Or.inr ⟨_, rfl, ?_⟩
      simp [Check.fault?, Check.holds, Check.malformed, hchildren]
    | cons first rest =>
      cases hel : first.isElement with
      | true =>
        refine Or.inr ⟨.malformed (.emptyField name block), ?_, ?_⟩
        · simp [hel]
        · simp [Check.fault?, Check.holds, Check.malformed, hchildren, hel]
      | false =>
        have htag : first.tag = none := by
          simpa [Node.isElement] using hel
        cases htext : first.text with
        | none =>
          refine Or.inr ⟨.notText ⟨none⟩, ?_, ?_⟩
          · simp [hel, Node.textContent, htag, htext]
          · simp [Check.fault?, Check.holds, Check.refusal?, hchildren, hel, Node.textContent,
              htag, htext]
        | some value =>
          refine Or.inl ⟨⟨name, value⟩, ?_, ?_, ?_⟩
          · simp [hel, Node.textContent, htag, htext]
          · simp [fieldOf?, hrole, hname, hchildren, htext]
          · simp [Check.fault?, Check.holds, Check.refusal?, hchildren, hel, Node.textContent,
              htag, htext]

/-- A slot lacks its name, holds nothing, or has its own checks passed. -/
theorem slot_cases (block : Text) {child : Node} {named : Bool}
    (hrole : Role.of child = .slot named) :
    (∃ cause, slotName child named block = .error cause ∧
      (ownChecks block child).findSome? Check.fault? = some (.malformed cause)) ∨
    (∃ name, slotName child named block = .ok name ∧ effective? child = none ∧
      (ownChecks block child).findSome? Check.fault? =
        some (.malformed (.emptySlot child.lowerTag name block))) ∨
    (∃ name inner, slotName child named block = .ok name ∧ effective? child = some inner ∧
      (ownChecks block child).findSome? Check.fault? = none) := by
  cases named with
  | false =>
    simp only [ownChecks, hrole, slotName, List.findSome?_cons, List.findSome?_nil]
    cases he : effective? child with
    | none =>
      refine Or.inr (Or.inl ⟨none, rfl, rfl, ?_⟩)
      simp [Check.fault?, Check.holds, Check.malformed, he]
    | some inner =>
      refine Or.inr (Or.inr ⟨none, inner, rfl, rfl, ?_⟩)
      simp [Check.fault?, Check.holds, Check.refusal?, he]
  | true =>
    simp only [ownChecks, hrole, slotName, List.findSome?_cons, List.findSome?_nil, require]
    cases hname : child.get? "name" with
    | none =>
      refine Or.inl ⟨_, rfl, ?_⟩
      simp only [Check.fault?_required_none _ hname]
    | some name =>
      simp only [Check.fault?_required_some _ hname, Option.getD_some]
      cases he : effective? child with
      | none =>
        refine Or.inr (Or.inl ⟨some name, rfl, rfl, ?_⟩)
        simp [Check.fault?, Check.holds, Check.malformed, he]
      | some inner =>
        refine Or.inr (Or.inr ⟨some name, inner, rfl, rfl, ?_⟩)
        simp [Check.fault?, Check.holds, Check.refusal?, he]

/-- A checked element has its id. -/
theorem id_of_checked {node : Node} (h : (checks node).findSome? Check.fault? = none) :
    ∃ id, node.get? "id" = some id := by
  have hholds := Check.holds_of_none h (by rw [checks_eq]; exact List.mem_cons_self)
  exact Option.isSome_iff_exists.mp hholds

theorem type_of_checked {node : Node} (h : (checks node).findSome? Check.fault? = none) :
    ∃ opcode, node.get? "type" = some opcode := by
  have hholds := Check.holds_of_none h
    (by rw [checks_eq]; exact List.mem_cons_of_mem _ List.mem_cons_self)
  exact Option.isSome_iff_exists.mp hholds

theorem children_of_checked {node : Node} (h : (checks node).findSome? Check.fault? = none) :
    ∀ child ∈ node.children,
      (childChecks ((node.get? "id").getD "") child).findSome? Check.fault? = none := by
  obtain ⟨id, hid⟩ := id_of_checked h
  obtain ⟨opcode, htype⟩ := type_of_checked h
  rw [findSome?_checks hid htype] at h
  rw [hid]
  exact Check.findSome?_flatMap_eq_none.mp h

/-- What is plugged into a checked child has its own checks passed. -/
theorem held_of_checked {block : Text} {child inner : Node} (hheld : held? child = some inner)
    (h : (childChecks block child).findSome? Check.fault? = none) :
    (checks inner).findSome? Check.fault? = none := by
  simp only [childChecks, hheld, List.findSome?_append, Option.or_eq_none_iff] at h
  exact h.2

/-- What a checked slot puts into a record: a link of its name to what it holds. -/
theorem fill_of_checked_slot (record : Record Text) {child inner : Node} {named : Bool}
    {name : Option Text} {id : Text} (rest : List Node) (hrole : Role.of child = .slot named)
    (hok : slotName child named record.id = .ok name) (he : effective? child = some inner)
    (hid : inner.get? "id" = some id) :
    record.fill (child :: rest) = (record.link name id).fill rest := by
  cases named with
  | false =>
    cases hok
    exact record.fill_cons_next rest (by simp [nextOf?, hrole, he, hid])
  | true =>
    simp only [slotName, require, if_true] at hok
    cases hname : child.get? "name" with
    | none => rw [hname] at hok; cases hok
    | some n =>
      rw [hname] at hok
      cases hok
      have hinput : inputOf? child = some ⟨n, id⟩ := by simp [inputOf?, hrole, hname, he, hid]
      exact record.fill_cons_input rest hinput

theorem gives_of_checked {block : Text} {child : Node}
    (h : (childChecks block child).findSome? Check.fault? = none) : Gives child := by
  cases hrole : Role.of child with
  | other => simp [Gives, hrole]
  | field =>
    rw [childChecks_of_field hrole] at h
    rcases readField_cases block hrole with ⟨field, _, hf, _⟩ | ⟨fault, _, hf⟩
    · simp [Gives, hrole, hf]
    · rw [h] at hf; cases hf
  | slot named =>
    have hown : (ownChecks block child).findSome? Check.fault? = none := by
      simp only [childChecks, List.findSome?_append, Option.or_eq_none_iff] at h
      exact h.1
    rcases slot_cases block hrole with
      ⟨cause, _, hf⟩ | ⟨name, _, _, hf⟩ | ⟨name, inner, hok, he, _⟩
    · rw [hown] at hf; cases hf
    · rw [hown] at hf; cases hf
    · obtain ⟨id, hid⟩ := id_of_checked (held_of_checked (by rw [held?_slot hrole, he]) h)
      cases named with
      | false => simp [Gives, hrole, nextOf?, he, hid]
      | true =>
        cases hn : child.get? "name" with
        | none =>
          simp only [slotName, require, hn, if_true] at hok
          cases hok
        | some n => simp [Gives, hrole, inputOf?, hn, he, hid]

end FlatBlocks.Block
