import FlatBlocks.Block.Slot
import Mathlib.Data.List.Basic

/-! The elements that a conversion visits, in the order in which it does: an element
comes before the blocks plugged into it, and these come in document order. The list
depends on the tree alone, not on ids or on what is wrong with an element. -/

namespace FlatBlocks.Block
open Markup (Node)

/-- The block plugged into a child of an element, if the child is a slot. -/
def held? (child : Node) : Option Node :=
  match Role.of child with
  | .slot _ => effective? child
  | .field => none
  | .other => none

/-- The blocks plugged into the slots of an element. -/
def plugs (node : Node) : List Node := node.children.filterMap held?

theorem held?_slot {child : Node} {named : Bool} (h : Role.of child = .slot named) :
    held? child = effective? child := by simp [held?, h]

theorem role_of_held? {child block : Node} (h : held? child = some block) :
    ∃ named, Role.of child = .slot named := by
  unfold held? at h
  split at h
  · rename_i named hrole
    exact ⟨named, hrole⟩
  · cases h
  · cases h

theorem sizeOf_held?_lt {child block : Node} (h : held? child = some block) :
    sizeOf block < sizeOf child := by
  obtain ⟨named, hrole⟩ := role_of_held? h
  rw [held?_slot hrole] at h
  exact sizeOf_effective?_lt h

theorem sizeOf_lt_of_mem_plugs {node block : Node} (h : block ∈ plugs node) :
    sizeOf block < sizeOf node := by
  obtain ⟨child, hc, hb⟩ := List.mem_filterMap.mp h
  exact Nat.lt_trans (sizeOf_held?_lt hb) (Node.sizeOf_lt_of_mem_children hc)

/-- What is plugged into an element stands in one of its children. -/
theorem exists_child_of_mem_plugs {node block : Node} (h : block ∈ plugs node) :
    ∃ child ∈ node.children, block ∈ child.children := by
  obtain ⟨child, hc, hheld⟩ := List.mem_filterMap.mp h
  obtain ⟨named, hrole⟩ := role_of_held? hheld
  rw [held?_slot hrole] at hheld
  exact ⟨child, hc, effective?_mem_children hheld⟩

/-- What holds of an element as soon as it holds of the blocks plugged into it holds
of every element. -/
@[elab_as_elim]
theorem plugs_induction {motive : Node → Prop}
    (step : ∀ node, (∀ block ∈ plugs node, motive block) → motive node) (node : Node) :
    motive node :=
  step node fun block _ => plugs_induction step block
termination_by sizeOf node
decreasing_by exact sizeOf_lt_of_mem_plugs ‹_›

/-- An element and all that is visited inside it. -/
def visited (node : Node) : List Node :=
  node :: (plugs node).attach.flatMap fun ⟨block, _⟩ => visited block
termination_by sizeOf node
decreasing_by exact sizeOf_lt_of_mem_plugs ‹_›

theorem visited_eq (node : Node) : visited node = node :: (plugs node).flatMap visited := by
  rw [visited, List.flatMap_subtype (g := visited) (fun _ _ => rfl), List.unattach_attach]

theorem mem_visited {node inner : Node} :
    inner ∈ visited node ↔ inner = node ∨ ∃ block ∈ plugs node, inner ∈ visited block := by
  rw [visited_eq, List.mem_cons, List.mem_flatMap]

/-- What an element passes on to the blocks plugged into it holds of all that is visited. -/
theorem forall_visited {P : Node → Prop}
    (hplugs : ∀ node, P node → ∀ block ∈ plugs node, P block) {node : Node} (h : P node) :
    ∀ inner ∈ visited node, P inner := by
  induction node using plugs_induction with
  | step node ih =>
    intro inner hi
    rcases mem_visited.mp hi with rfl | ⟨block, hb, hi⟩
    · exact h
    · exact ih block hb (hplugs node h block hb) inner hi

/-- A visited element, and whether it is a root. -/
structure Visit where
  node : Node
  topLevel : Bool

/-- The visit of an element at a depth, and those of all that is visited inside it. -/
def visitsAt (depth : Int) (node : Node) : List Visit :=
  ⟨node, depth == 0⟩ ::
    (plugs node).attach.flatMap fun ⟨block, _⟩ => visitsAt (depth + 1) block
termination_by sizeOf node
decreasing_by exact sizeOf_lt_of_mem_plugs ‹_›

theorem visitsAt_eq (depth : Int) (node : Node) :
    visitsAt depth node = ⟨node, depth == 0⟩ :: (plugs node).flatMap (visitsAt (depth + 1)) := by
  rw [visitsAt, List.flatMap_subtype (g := visitsAt (depth + 1)) (fun _ _ => rfl),
    List.unattach_attach]

theorem nodes_of_visitsAt (node : Node) :
    ∀ depth, (visitsAt depth node).map Visit.node = visited node := by
  induction node using plugs_induction with
  | step node ih =>
    intro depth
    rw [visitsAt_eq, visited_eq, List.map_cons, List.map_flatMap]
    exact congrArg (node :: ·) (List.flatMap_congr fun block hb => ih block hb (depth + 1))

/-- Below a root no element is at depth zero. -/
theorem visitsAt_of_pos (node : Node) :
    ∀ depth : Int, 0 < depth → visitsAt depth node = (visited node).map (⟨·, false⟩) := by
  induction node using plugs_induction with
  | step node ih =>
    intro depth hd
    have hne : (depth == 0) = false := by
      simp only [beq_eq_false_iff_ne]; omega
    have hinner : (plugs node).flatMap (visitsAt (depth + 1)) =
        (plugs node).flatMap fun block => (visited block).map (⟨·, false⟩) := by
      apply List.flatMap_congr
      intro block hb
      exact ih block hb (depth + 1) (by omega)
    rw [visitsAt_eq, visited_eq, hne, hinner, List.map_cons, List.map_flatMap]

/-- The roots that are blocks. -/
def rootBlocks (roots : List Node) : List Node := roots.filter (·.hasTag "block")

/-- The visits of a root block. -/
def visitsFrom (root : Node) : List Visit :=
  ⟨root, true⟩ :: ((plugs root).flatMap visited).map (⟨·, false⟩)

theorem visitsFrom_eq (root : Node) : visitsFrom root = visitsAt 0 root := by
  have hinner : (plugs root).flatMap (visitsAt 1) =
      (plugs root).flatMap fun block => (visited block).map (⟨·, false⟩) := by
    apply List.flatMap_congr
    intro block _
    exact visitsAt_of_pos block 1 (by omega)
  rw [visitsFrom, visitsAt_eq, List.map_flatMap]
  show _ = _ :: (plugs root).flatMap (visitsAt 1)
  rw [hinner]
  rfl

/-- All visits of a list of roots. -/
def visits (roots : List Node) : List Visit := (rootBlocks roots).flatMap visitsFrom

theorem visits_eq (roots : List Node) : visits roots = (rootBlocks roots).flatMap (visitsAt 0) :=
  List.flatMap_congr fun root _ => visitsFrom_eq root

theorem nodes_of_visits (roots : List Node) :
    (visits roots).map Visit.node = (rootBlocks roots).flatMap visited := by
  rw [visits, List.map_flatMap]
  apply List.flatMap_congr
  intro root _
  rw [visited_eq, visitsFrom, List.map_cons, List.map_map]
  exact congrArg (root :: ·) (List.map_id _)

theorem rootBlocks_cons_block {root : Node} (rest : List Node) (h : root.hasTag "block" = true) :
    rootBlocks (root :: rest) = root :: rootBlocks rest := List.filter_cons_of_pos h

theorem rootBlocks_cons_other {root : Node} (rest : List Node)
    (h : ¬ root.hasTag "block" = true) : rootBlocks (root :: rest) = rootBlocks rest :=
  List.filter_cons_of_neg h

theorem visits_cons_block {root : Node} (rest : List Node) (h : root.hasTag "block" = true) :
    visits (root :: rest) = visitsFrom root ++ visits rest := by
  rw [visits, rootBlocks_cons_block rest h]; rfl

theorem visits_cons_other {root : Node} (rest : List Node) (h : ¬ root.hasTag "block" = true) :
    visits (root :: rest) = visits rest := by
  rw [visits, rootBlocks_cons_other rest h]; rfl

end FlatBlocks.Block
