import FlatBlocks.Proofs.Block.Flatten
import FlatBlocks.Proofs.Markup.Nodes

/-! # How flattening fails

If all nodes that are no elements have texts, a check on them either holds and gives no
fault, or fails and is reported as malformed. Flattening then fails with the first check
that fails. Each check is on a visited element, or on a field or slot of one. -/

namespace FlatBlocks.Block
open Markup (Node)

/-! ## The elements that are checked -/

/-- The checks on an element itself and on its children, without what these hold. -/
def elementChecks (node : Node) : List Check :=
  let id := (node.get? "id").getD ""
  .required node "id" none :: .required node "type" (some id) ::
    node.children.flatMap (ownChecks id)

theorem mem_heldChecks {node : Node} {check : Check} :
    (∃ child ∈ node.children, check ∈ ((held? child).map checks).getD []) ↔
      ∃ block ∈ plugs node, check ∈ checks block := by
  constructor
  · rintro ⟨child, hc, hm⟩
    cases hheld : held? child with
    | none => rw [hheld] at hm; cases hm
    | some block =>
      rw [hheld] at hm
      exact ⟨block, List.mem_filterMap.mpr ⟨child, hc, hheld⟩, hm⟩
  · rintro ⟨block, hb, hm⟩
    obtain ⟨child, hc, hheld⟩ := List.mem_filterMap.mp hb
    exact ⟨child, hc, by rw [hheld]; exact hm⟩

theorem mem_checks_iff {node : Node} {check : Check} :
    check ∈ checks node ↔
      check ∈ elementChecks node ∨ ∃ block ∈ plugs node, check ∈ checks block := by
  rw [← mem_heldChecks, checks_eq, elementChecks]
  simp only [childChecks, List.mem_cons, List.mem_flatMap, List.mem_append]
  constructor
  · rintro (h | h | ⟨child, hc, hown | hheld⟩)
    · exact Or.inl (Or.inl h)
    · exact Or.inl (Or.inr (Or.inl h))
    · exact Or.inl (Or.inr (Or.inr ⟨child, hc, hown⟩))
    · exact Or.inr ⟨child, hc, hheld⟩
  · rintro ((h | h | ⟨child, hc, hown⟩) | ⟨child, hc, hheld⟩)
    · exact Or.inl h
    · exact Or.inr (Or.inl h)
    · exact Or.inr (Or.inr ⟨child, hc, Or.inl hown⟩)
    · exact Or.inr (Or.inr ⟨child, hc, Or.inr hheld⟩)

/-- The checks are those of the visited elements. -/
theorem mem_checks {node : Node} {check : Check} :
    check ∈ checks node ↔ ∃ inner ∈ visited node, check ∈ elementChecks inner := by
  induction node using plugs_induction with
  | step node ih =>
    rw [mem_checks_iff]
    constructor
    · rintro (h | ⟨block, hb, h⟩)
      · exact ⟨node, mem_visited.mpr (Or.inl rfl), h⟩
      · obtain ⟨inner, hi, h⟩ := (ih block hb).mp h
        exact ⟨inner, mem_visited.mpr (Or.inr ⟨block, hb, hi⟩), h⟩
    · rintro ⟨inner, hi, h⟩
      rcases mem_visited.mp hi with rfl | ⟨block, hb, hi⟩
      · exact Or.inl h
      · exact Or.inr ⟨block, hb, (ih block hb).mpr ⟨inner, hi, h⟩⟩

theorem mem_rootChecks {roots : List Node} {check : Check} :
    check ∈ rootChecks roots ↔ ∃ v ∈ visits roots, check ∈ elementChecks v.node := by
  have hnodes : ∀ node, (∃ v ∈ visits roots, v.node = node) ↔
      ∃ root ∈ rootBlocks roots, node ∈ visited root := by
    intro node
    rw [← List.mem_flatMap, ← nodes_of_visits, List.mem_map]
  simp only [rootChecks, List.mem_flatMap, mem_checks]
  constructor
  · rintro ⟨root, hr, node, hn, h⟩
    obtain ⟨v, hv, rfl⟩ := (hnodes node).mpr ⟨root, hr, hn⟩
    exact ⟨v, hv, h⟩
  · rintro ⟨v, hv, h⟩
    obtain ⟨root, hr, hn⟩ := (hnodes v.node).mp ⟨v, hv, rfl⟩
    exact ⟨root, hr, v.node, hn, h⟩

theorem node_of_ownChecks {block : Text} {child : Node} {check : Check}
    (h : check ∈ ownChecks block child) : check.node = child ∧ Role.of child ≠ .other := by
  unfold ownChecks at h
  split at h <;> rename_i hrole <;> rw [hrole]
  · rcases List.mem_pair.mp h with rfl | rfl <;> exact ⟨rfl, by simp⟩
  · rcases List.mem_pair.mp h with rfl | rfl <;> exact ⟨rfl, by simp⟩
  · rw [List.mem_singleton.mp h]; exact ⟨rfl, by simp⟩
  · cases h

/-- A check on an element is on the element itself, or on a field or slot of it. -/
theorem node_of_elementChecks {node : Node} {check : Check} (h : check ∈ elementChecks node) :
    check.node = node ∨ check.node ∈ node.children ∧ Role.of check.node ≠ .other := by
  simp only [elementChecks, List.mem_cons, List.mem_flatMap] at h
  rcases h with rfl | rfl | ⟨child, hc, h⟩
  · exact Or.inl rfl
  · exact Or.inl rfl
  · obtain ⟨hn, hrole⟩ := node_of_ownChecks h
    exact Or.inr (hn ▸ ⟨hc, hrole⟩)

/-! ## Trees in which all but elements have texts -/

theorem texted_of_plugs {node : Node} (h : node.Texted) : ∀ block ∈ plugs node, block.Texted := by
  intro block hb
  obtain ⟨child, hc, hblock⟩ := exists_child_of_mem_plugs hb
  exact (h.child hc).child hblock

theorem texted_of_checks {node : Node} (h : node.Texted) :
    ∀ check ∈ checks node, check.node.Texted := by
  intro check hm
  obtain ⟨inner, hi, hm⟩ := mem_checks.mp hm
  have hinner := forall_visited (fun _ => texted_of_plugs) h inner hi
  rcases node_of_elementChecks hm with hn | ⟨hc, _⟩
  · exact hn ▸ hinner
  · exact hinner.child hc

theorem texted_of_rootChecks {roots : List Node} (h : ∀ root ∈ roots, root.Texted) :
    ∀ check ∈ rootChecks roots, check.node.Texted := by
  intro check hm
  obtain ⟨root, hr, hm⟩ := List.mem_flatMap.mp hm
  exact texted_of_checks (h root (List.mem_filter.mp hr).1) check hm

namespace Check

/-- What the first check that fails reports. -/
def failure? (checks : List Check) : Option Malformed :=
  (checks.find? fun check => !check.holds).map malformed

theorem failure?_eq_none_iff {checks : List Check} :
    failure? checks = none ↔ ∀ check ∈ checks, check.holds = true := by
  simp [failure?]

/-- The first child of a field that passes its check is read. -/
theorem refusal?_of_texted {check : Check} (h : check.node.Texted) (hholds : check.holds = true) :
    check.refusal? = none := by
  cases check with
  | required _ _ _ => rfl
  | plug _ _ _ => rfl
  | content field name block =>
    have hfield : field.Texted := h
    cases hchildren : field.children with
    | nil => simp [refusal?, hchildren]
    | cons first rest =>
      have hel : first.isElement = false := by simpa [holds, hchildren] using hholds
      have hfirst : first.Texted := hfield.child (hchildren ▸ List.mem_cons_self)
      obtain ⟨text, htext⟩ := Option.isSome_iff_exists.mp (hfirst.own hel)
      have htag : first.tag = none := by simpa [Node.isElement] using hel
      simp [refusal?, hchildren, Node.textContent, htag, htext]

theorem findSome?_of_texted {checks : List Check} (h : ∀ check ∈ checks, check.node.Texted) :
    checks.findSome? fault? = (failure? checks).map .malformed := by
  induction checks with
  | nil => rfl
  | cons check rest ih =>
    have ih := ih fun c hc => h c (List.mem_cons_of_mem _ hc)
    rw [List.findSome?_cons, failure?, List.find?_cons, fault?]
    cases hholds : check.holds with
    | true =>
      rw [if_pos rfl, refusal?_of_texted (h check List.mem_cons_self) hholds]
      exact ih
    | false => rfl

/-- The verdict of checks on such trees: the report of the first one that fails. -/
theorem verdict_of_texted {α : Type} {checks : List Check}
    (h : ∀ check ∈ checks, check.node.Texted) (value : α) :
    verdict checks value = match failure? checks with
      | none => .ok value
      | some cause => .error (.malformed cause) := by
  rw [verdict, findSome?_of_texted h]
  cases failure? checks <;> rfl

theorem verdict_eq_error_iff {α : Type} {checks : List Check}
    (h : ∀ check ∈ checks, check.node.Texted) (value : α) (fault : Fault) :
    verdict checks value = .error fault ↔
      ∃ cause, failure? checks = some cause ∧ fault = .malformed cause := by
  rw [verdict_of_texted h]
  cases failure? checks with
  | none => simp
  | some cause => simp [eq_comm]

end Check

/-- **Flattening fails with the first check that fails.** It succeeds if all checks hold
and fails with no fault but a malformed element otherwise. Whatever is registered before,
and at whatever depth, a visit fails with the first check on its element that fails. Each
check is on a visited element, or on a field or slot of one. -/
theorem flatten_error_iff_failure {roots : List Node} (h : ∀ root ∈ roots, root.Texted) :
    (∀ fault, flatten roots = .error fault ↔
        ∃ cause, Check.failure? (rootChecks roots) = some cause ∧ fault = .malformed cause) ∧
      ((∃ records, flatten roots = .ok records) ↔
        ∀ check ∈ rootChecks roots, check.holds = true) ∧
      (∀ registry fault, (addRoots roots registry).1 = .error fault ↔
        ∃ cause, Check.failure? (rootChecks roots) = some cause ∧ fault = .malformed cause) ∧
      (∀ root ∈ roots, ∀ depth registry fault, (visit root depth registry).1 = .error fault ↔
        ∃ cause, Check.failure? (checks root) = some cause ∧ fault = .malformed cause) ∧
      ∀ check ∈ rootChecks roots, ∃ v ∈ visits roots,
        check.node = v.node ∨ check.node ∈ v.node.children ∧ Role.of check.node ≠ .other := by
  have hchecks := texted_of_rootChecks h
  refine ⟨fun fault => ?_, ?_, fun registry fault => ?_, fun root hr depth registry fault => ?_, ?_⟩
  · rw [flatten_eq_verdict, Check.verdict_eq_error_iff hchecks]
  · rw [flatten_eq_verdict, Check.verdict_of_texted hchecks, ← Check.failure?_eq_none_iff]
    cases Check.failure? (rootChecks roots) <;> simp
  · rw [addRoots_eq, Check.verdict_eq_error_iff hchecks]
  · rw [visit_eq root depth registry, Check.verdict_eq_error_iff (texted_of_checks (h root hr))]
  · intro check hm
    obtain ⟨v, hv, hm⟩ := mem_rootChecks.mp hm
    exact ⟨v, hv, node_of_elementChecks hm⟩

/-- A block with a child of no known tag, an input whose block has an empty field, and
nothing next. -/
def unread : Markup.Item :=
  .element "block" [("id", "a"), ("type", "x")]
    [.element "comment" [] [],
      .element "value" [("name", "V")]
        [.element "block" [("id", "b"), ("type", "y")] [.element "field" [("name", "F")] []]],
      .element "next" [] []]

theorem error_of_unread :
    (∀ root ∈ unread.toNodes, root.Texted) ∧
      flatten unread.toNodes = .error (.malformed (.emptyField "F" "b")) := by
  have htexted := Markup.Item.texted_toNodes unread
  obtain ⟨herror, _⟩ := flatten_error_iff_failure htexted
  exact ⟨htexted, (herror _).mpr ⟨_, by decide +kernel, rfl⟩⟩

end FlatBlocks.Block
