import FlatBlocks.Proofs.Block.Erasure
import FlatBlocks.Proofs.Block.Failure

/-! # What a report names

The construct of a report is the tag of the element that is at fault. Checks on fields and
slots name these. A check on a visited element itself fails when it has no id or no type;
its report names a block, unless the element is a shadow that stands in for one: then it
names a shadow, which is not among the constructs that reports are meant to name. -/

namespace FlatBlocks.Block
open Markup (Node)

/-- The tags of fields and slots. -/
def partTags : List Text := ["field", "value", "statement", "next"]

/-- The constructs that reports are meant to name. -/
def constructs : List Text := "block" :: partTags

theorem lowerTag_of_hasTag {node : Node} {tag : Text} (h : node.hasTag tag = true) :
    node.lowerTag = tag := by
  obtain ⟨raw, hraw, rfl⟩ : ∃ raw, node.tag = some raw ∧ Text.lower raw = tag := by
    simpa [Node.hasTag] using h
  rw [Node.lowerTag, hraw]
  rfl

/-! ## Visited elements -/

/-- An element that is plugged into a slot is a block or a shadow, and so is all inside it. -/
theorem hasTag_of_plugs {node block inner : Node} (hb : block ∈ plugs node)
    (hi : inner ∈ visited block) :
    inner.hasTag "block" = true ∨ inner.hasTag "shadow" = true := by
  have hplugs : ∀ node : Node, ∀ block ∈ plugs node,
      block.hasTag "block" = true ∨ block.hasTag "shadow" = true := by
    intro node block hb
    obtain ⟨child, _, hheld⟩ := List.mem_filterMap.mp hb
    obtain ⟨named, hrole⟩ := role_of_held? hheld
    rw [held?_slot hrole] at hheld
    exact hasTag_of_effective? hheld
  exact forall_visited (fun node _ => hplugs node) (hplugs node block hb) inner hi

/-- A visited element is a block, or it is a shadow and no root. -/
theorem tag_of_visits {roots : List Node} {v : Visit} (hv : v ∈ visits roots) :
    v.node.lowerTag = "block" ∨ v.topLevel = false ∧ v.node.lowerTag = "shadow" := by
  obtain ⟨root, hroot, hv⟩ := List.mem_flatMap.mp hv
  rcases List.mem_cons.mp hv with rfl | hv
  · exact Or.inl (lowerTag_of_hasTag (List.mem_filter.mp hroot).2)
  · obtain ⟨node, hnode, rfl⟩ := List.mem_map.mp hv
    obtain ⟨block, hblock, hnode⟩ := List.mem_flatMap.mp hnode
    rcases hasTag_of_plugs hblock hnode with htag | htag
    · exact Or.inl (lowerTag_of_hasTag htag)
    · exact Or.inr ⟨rfl, lowerTag_of_hasTag htag⟩

/-! ## Failing checks -/

namespace Check

theorem findSome?_of_verdict {α : Type} {checks : List Check} {value : α} {fault : Fault}
    (h : verdict checks value = .error fault) : checks.findSome? fault? = some fault := by
  unfold verdict at h
  split at h
  · cases h
  · rename_i hfirst
    cases h
    exact hfirst

/-- What is reported as malformed is the first check that fails. -/
theorem find?_of_malformed {checks : List Check} {cause : Malformed}
    (h : checks.findSome? fault? = some (.malformed cause)) :
    ∃ check, checks.find? (fun check => !check.holds) = some check ∧ cause = check.malformed := by
  induction checks with
  | nil => cases h
  | cons check rest ih =>
    rw [List.findSome?_cons, fault?] at h
    rw [List.find?_cons]
    cases hholds : check.holds with
    | false =>
      rw [hholds] at h
      cases h
      exact ⟨check, rfl, rfl⟩
    | true =>
      rw [hholds, if_pos rfl] at h
      cases hrefusal : check.refusal? with
      | none =>
        rw [hrefusal] at h
        exact ih h
      | some refusal =>
        rw [hrefusal] at h
        cases h

end Check

theorem lowerTag_of_role {child : Node} (h : Role.of child ≠ .other) :
    child.lowerTag ∈ partTags := by
  unfold Role.of at h
  split at h
  · rename_i hfield
    simp [partTags, lowerTag_of_hasTag hfield]
  · split at h
    · rename_i hinput
      rcases Bool.or_eq_true_iff.mp hinput with hvalue | hstatement
      · simp [partTags, lowerTag_of_hasTag hvalue]
      · simp [partTags, lowerTag_of_hasTag hstatement]
    · split at h
      · rename_i hnext
        simp [partTags, lowerTag_of_hasTag hnext]
      · exact absurd rfl h

/-- A check on a field or slot names its tag. -/
theorem construct_of_ownChecks {block : Text} {child : Node} {check : Check}
    (h : check ∈ ownChecks block child) :
    check.malformed.construct ∈ partTags := by
  obtain ⟨hnode, hrole⟩ := node_of_ownChecks h
  have htag := lowerTag_of_role hrole
  rw [← hnode] at htag
  cases check with
  | required _ _ _ => exact htag
  | content _ _ _ => exact List.mem_cons_self
  | plug _ _ _ => exact htag

/-- No visited element is a field or a slot. -/
theorem tag_notMem_partTags {roots : List Node} {v : Visit} (hv : v ∈ visits roots) :
    v.node.lowerTag ∉ partTags := by
  rcases tag_of_visits hv with htag | ⟨_, htag⟩
  · rw [htag]
    decide
  · rw [htag]
    decide

/-- A check is on the id or the type of a visited element, or it names a field or a slot. -/
theorem cases_of_rootChecks {roots : List Node} {check : Check} (h : check ∈ rootChecks roots) :
    (∃ v ∈ visits roots, ∃ (name : Text) (block : Option Text),
        (name = "id" ∨ name = "type") ∧ check = .required v.node name block) ∨
      check.malformed.construct ∈ partTags := by
  obtain ⟨v, hv, hm⟩ := mem_rootChecks.mp h
  simp only [elementChecks, List.mem_cons, List.mem_flatMap] at hm
  rcases hm with rfl | rfl | ⟨child, _, hm⟩
  · exact Or.inl ⟨v, hv, "id", _, Or.inl rfl, rfl⟩
  · exact Or.inl ⟨v, hv, "type", _, Or.inr rfl, rfl⟩
  · exact Or.inr (construct_of_ownChecks hm)

/-- **The construct of a report.** Flattening reports the first check that fails. Its construct
is one of those that reports are meant to name, or it is a shadow. The latter comes about
exactly if a shadow that stands in for a block lacks its id or its type; of any other visited
element that lacks one of these, the construct is a block. -/
theorem construct_of_flatten {roots : List Node} {cause : Malformed}
    (h : flatten roots = .error (.malformed cause)) :
    ∃ check, (rootChecks roots).find? (fun check => !check.holds) = some check ∧
      cause = check.malformed ∧
      (cause.construct ∈ constructs ∨ cause.construct = "shadow") ∧
      (cause.construct = "shadow" ↔
        ∃ v ∈ visits roots, v.topLevel = false ∧ v.node.lowerTag = "shadow" ∧
          ∃ (name : Text) (block : Option Text), check = .required v.node name block) ∧
      ∀ v ∈ visits roots, ∀ (name : Text) (block : Option Text),
        check = .required v.node name block →
          (name = "id" ∨ name = "type") ∧ v.node.get? name = none ∧
            cause.construct = v.node.lowerTag ∧
            (v.node.lowerTag = "block" ∨ v.topLevel = false ∧ v.node.lowerTag = "shadow") := by
  rw [flatten_eq_verdict] at h
  obtain ⟨check, hfirst, rfl⟩ := Check.find?_of_malformed (Check.findSome?_of_verdict h)
  have hcases := cases_of_rootChecks (List.mem_of_find?_eq_some hfirst)
  have hfails : check.holds = false := by simpa using List.find?_some hfirst
  refine ⟨check, hfirst, rfl, ?_, ?_, ?_⟩
  · rcases hcases with ⟨v, hv, name, block, _, rfl⟩ | hpart
    · rcases tag_of_visits hv with htag | ⟨_, htag⟩
      · exact Or.inl (List.mem_cons.mpr (Or.inl htag))
      · exact Or.inr htag
    · exact Or.inl (List.mem_cons_of_mem _ hpart)
  · constructor
    · intro hshadow
      rcases hcases with ⟨v, hv, name, block, _, rfl⟩ | hpart
      · have hshadow : v.node.lowerTag = "shadow" := hshadow
        rcases tag_of_visits hv with htag | ⟨htop, htag⟩
        · exact absurd (htag.symm.trans hshadow) (by decide)
        · exact ⟨v, hv, htop, htag, name, block, rfl⟩
      · rw [hshadow] at hpart
        exact absurd hpart (by decide)
    · rintro ⟨v, _, _, htag, name, block, rfl⟩
      exact htag
  · rintro v hv name block rfl
    refine ⟨?_, by simpa [Check.holds] using hfails, rfl, tag_of_visits hv⟩
    rcases hcases with ⟨_, _, _, _, hname, heq⟩ | hpart
    · obtain ⟨_, rfl, _⟩ := Check.required.inj heq
      exact hname
    · exact absurd hpart (tag_notMem_partTags hv)

/-- A block with a shadow in a slot, and in that a block that lacks its type. -/
def untyped : Node :=
  .element "block" [("id", "a"), ("type", "x")]
    [.element "value" [("name", "V")]
      [.element "Shadow" [("id", "b"), ("type", "y")]
        [.element "next" [] [.element "BLOCK" [("id", "c")] []]]]]

theorem construct_of_untyped :
    ∃ cause check, flatten [untyped] = .error (.malformed cause) ∧
      (rootChecks [untyped]).find? (fun check => !check.holds) = some check ∧
      cause = check.malformed ∧ cause.construct ∈ constructs := by
  have h : flatten [untyped] =
      .error (.malformed (.missingAttribute "block" "type" (some "c"))) := by with_unfolding_all rfl
  obtain ⟨check, hfirst, hcause, hconstruct, _⟩ := construct_of_flatten h
  exact ⟨_, check, h, hfirst, hcause, hconstruct.resolve_right (by decide)⟩

/-- A block with a shadow in a slot that lacks its id. -/
def nameless : Node :=
  .element "block" [("id", "a"), ("type", "x")]
    [.element "value" [("name", "V")] [.element "shadow" [("type", "y")] []]]

/-- Reports may name what they are not meant to name. -/
theorem construct_of_nameless :
    flatten [nameless] = .error (.malformed (.missingAttribute "shadow" "id" none)) ∧
      (Malformed.missingAttribute "shadow" "id" none).construct ∉ constructs := by
  constructor
  · with_unfolding_all rfl
  · decide

end FlatBlocks.Block
