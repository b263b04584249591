import FlatBlocks.Markup.Item

/-! The nodes of a tree by a work list, so that depth costs no stack. The items that wait come
from many open elements at once, each with the list of children that its node goes to. An
element is built without children; it gets them in a second pass, when all have been gathered. -/

namespace FlatBlocks.Markup

namespace Item

mutual

/-- The number of items in a tree. -/
def count : Item → Nat
  | element _ _ children => forestCount children + 1
  | _ => 1

def forestCount : List Item → Nat
  | [] => 0
  | item :: rest => item.count + forestCount rest

end

theorem forestCount_append (first second : List Item) :
    forestCount (first ++ second) = forestCount first + forestCount second := by
  induction first with
  | nil => simp [forestCount]
  | cons item rest ih => simp [forestCount, ih, Nat.add_assoc]

theorem forestCount_eq_zero {forest : List Item} : forestCount forest = 0 ↔ forest = [] := by
  cases forest with
  | nil => simp [forestCount]
  | cons item rest => cases item <;> simp [forestCount, count]

end Item

/-- A child that has been gathered: a text, or an element by its number. -/
inductive Part where
  | text (content : Text)
  | element (number : Nat)

/-- The node of a part, given the elements by their numbers. -/
def Part.node? (elements : Array Node) : Part → Option Node
  | text content => some (.ofText content)
  | element number => elements[number]?

/-- The items that wait, next one first, each with the number of a list of children; the
elements, still without children; and the lists: list 0 is for the roots of the document and
list `n + 1` for the children of element `n`. -/
structure Worklist where
  waiting : List (Item × Nat)
  built : Array Node := #[]
  lists : Array (Array Part) := #[#[]]
  sized : lists.size = built.size + 1 := by rfl

namespace Worklist
open Item (forestCount forestCount_append)

/-- Items on top of those that wait, pushed from the last one to the first one. -/
def push (items : List Item) (list : Nat) (waiting : List (Item × Nat)) : List (Item × Nat) :=
  items.reverse.foldl (fun waiting item => (item, list) :: waiting) waiting

@[simp] theorem push_eq (items : List Item) (list : Nat) (waiting : List (Item × Nat)) :
    push items list waiting = items.map (·, list) ++ waiting := by
  rw [push, List.foldl_reverse]
  induction items with
  | nil => rfl
  | cons item rest ih => simp [ih]

/-- A work list on which a forest waits. -/
def ofForest (forest : List Item) : Worklist := { waiting := push forest 0 [] }

def gather (lists : Array (Array Part)) (list : Nat) (part : Part) : Array (Array Part) :=
  lists.modify list (·.push part)

@[simp] theorem size_gather (lists : Array (Array Part)) (list : Nat) (part : Part) :
    (gather lists list part).size = lists.size :=
  Array.size_modify

/-- Take the next item. An element is gathered without its children, which wait then. -/
def step : Worklist → Worklist
  | ⟨[], built, lists, sized⟩ => ⟨[], built, lists, sized⟩
  | ⟨(.element tag attributes children, list) :: waiting, built, lists, sized⟩ =>
    { waiting := push children (built.size + 1) waiting
      built := built.push (.element tag attributes [])
      lists := (gather lists list (.element built.size)).push #[]
      sized := by simp [sized] }
  | ⟨(.text content, list) :: waiting, built, lists, sized⟩ =>
    { waiting, built, lists := gather lists list (.text content), sized := by simp [sized] }
  | ⟨(.cdata content, list) :: waiting, built, lists, sized⟩ =>
    { waiting, built, lists := gather lists list (.text content), sized := by simp [sized] }
  | ⟨(.comment _, _) :: waiting, built, lists, sized⟩ => ⟨waiting, built, lists, sized⟩
  | ⟨(.doctype _, _) :: waiting, built, lists, sized⟩ => ⟨waiting, built, lists, sized⟩
  | ⟨(.declaration _, _) :: waiting, built, lists, sized⟩ => ⟨waiting, built, lists, sized⟩
  | ⟨(.instruction _, _) :: waiting, built, lists, sized⟩ => ⟨waiting, built, lists, sized⟩

/-- The number of items that are still to be taken. -/
def remaining (w : Worklist) : Nat := forestCount (w.waiting.map Prod.fst)

/-- A step takes exactly one item. -/
theorem remaining_step (w : Worklist) : w.step.remaining = w.remaining - 1 := by
  obtain ⟨waiting, built, lists, sized⟩ := w
  cases waiting with
  | nil => rfl
  | cons entry rest =>
    obtain ⟨item, list⟩ := entry
    cases item <;>
      simp [step, remaining, forestCount, Item.count, forestCount_append, Function.comp_def]

theorem remaining_eq_zero {w : Worklist} : w.remaining = 0 ↔ w.waiting = [] := by
  rw [remaining, Item.forestCount_eq_zero, List.map_eq_nil_iff]

/-- Take items until none waits. -/
def run (w : Worklist) : Worklist := if w.waiting.isEmpty then w else run w.step
termination_by w.remaining
decreasing_by
  rename_i h
  have : w.remaining ≠ 0 := fun hzero => h (List.isEmpty_iff.mpr (remaining_eq_zero.mp hzero))
  rw [remaining_step]
  omega

/-- Give the elements below a number their children, last one first, so that the elements among
the children have theirs. -/
def fill (lists : Array (Array Part)) : Nat → Array Node → Array Node
  | 0, elements => elements
  | number + 1, elements =>
    let children := (lists.getD (number + 1) #[]).toList.filterMap (Part.node? elements)
    fill lists number (elements.modify number fun node => { node with children })

/-- The elements that have been built, with their children. -/
def elements (w : Worklist) : Array Node := fill w.lists w.built.size w.built

/-- The nodes that have been gathered for the roots. -/
def roots (w : Worklist) : List Node :=
  (w.lists.getD 0 #[]).toList.filterMap (Part.node? w.elements)

end Worklist

/-- The nodes of a forest. -/
def Item.nodes (forest : List Item) : List Node := (Worklist.ofForest forest).run.roots

end FlatBlocks.Markup
