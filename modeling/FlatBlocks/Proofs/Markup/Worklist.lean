import FlatBlocks.Markup.Worklist
import Mathlib.Logic.Function.Iterate

/-! # The work list against plain recursion

A run of the work list takes the items of a forest one by one. While the forest on top is
being taken, the items below it stay, and so do all lists but the one that the forest goes to
and those that are new: that is what lets a forest be followed by another, and an element's
children by its siblings. What has been gathered then denotes the nodes that plain recursion
gives, and the second pass puts each of them in place. -/

namespace FlatBlocks.Markup

namespace Item

mutual

/-- The elements of a tree in document order, each as plain recursion gives it. -/
def elements : Item → List Node
  | element tag attributes children =>
    .element tag attributes (forestToNodes children) :: forestElements children
  | _ => []

def forestElements : List Item → List Node
  | [] => []
  | item :: rest => item.elements ++ forestElements rest

end

end Item

open Item (forestCount forestElements forestToNodes)

namespace Worklist

/-! ## Runs end -/

theorem remaining_iterate (w : Worklist) (n : Nat) : (step^[n] w).remaining = w.remaining - n := by
  induction n with
  | zero => rfl
  | succ n ih => rw [Function.iterate_succ_apply', remaining_step, ih, Nat.sub_sub]

theorem run_eq_iterate (w : Worklist) : w.run = step^[w.remaining] w := by
  fun_induction run w with
  | case1 w h =>
    rw [remaining_eq_zero.mpr (List.isEmpty_iff.mp h)]
    rfl
  | case2 w h ih =>
    have hne : w.remaining ≠ 0 := fun hzero => h (List.isEmpty_iff.mpr (remaining_eq_zero.mp hzero))
    rw [ih, remaining_step, ← Function.iterate_succ_apply]
    congr 2
    omega

theorem remaining_ofForest (forest : List Item) :
    (ofForest forest).remaining = forestCount forest := by
  simp [ofForest, remaining, Function.comp_def]

/-! ## What parts denote -/

/-- Parts, all elements among them from a number on, and the nodes that they stand for. The
children of an element have greater numbers than it has. -/
inductive Denotes (w : Worklist) : Nat → List Part → List Node → Prop
  | nil {low : Nat} : Denotes w low [] []
  | text {low : Nat} {content : Text} {parts : List Part} {nodes : List Node}
      (rest : Denotes w low parts nodes) :
      Denotes w low (.text content :: parts) (.ofText content :: nodes)
  | element {low number : Nat} {node : Node} {list : Array Part} {parts : List Part}
      {children nodes : List Node} (hlow : low ≤ number) (hbuilt : w.built[number]? = some node)
      (hlist : w.lists[number + 1]? = some list)
      (inner : Denotes w (number + 1) list.toList children) (rest : Denotes w low parts nodes) :
      Denotes w low (.element number :: parts) ({ node with children } :: nodes)

theorem Denotes.of_le {w : Worklist} {low low' : Nat} {parts : List Part} {nodes : List Node}
    (h : Denotes w low parts nodes) (hle : low' ≤ low) : Denotes w low' parts nodes := by
  induction h with
  | nil => exact .nil
  | text _ ih => exact .text (ih hle)
  | element hlow hbuilt hlist inner _ _ ih =>
    exact .element (Nat.le_trans hle hlow) hbuilt hlist inner (ih hle)

/-- The elements of a state are there in another one, and so are its lists above a number. -/
structure Keeps (w w' : Worklist) (low : Nat) : Prop where
  built : ∀ (n : Nat) node, w.built[n]? = some node → w'.built[n]? = some node
  lists : ∀ (n : Nat) list, low < n → w.lists[n]? = some list → w'.lists[n]? = some list

theorem Keeps.of_le {w w' : Worklist} {low low' : Nat} (h : Keeps w w' low) (hle : low ≤ low') :
    Keeps w w' low' :=
  ⟨h.built, fun n list hn => h.lists n list (Nat.lt_of_le_of_lt hle hn)⟩

theorem Denotes.mono {w w' : Worklist} {low : Nat} {parts : List Part} {nodes : List Node}
    (h : Denotes w low parts nodes) (hkeeps : Keeps w w' low) : Denotes w' low parts nodes := by
  induction h with
  | nil => exact .nil
  | text _ ih => exact .text (ih hkeeps)
  | @element low number _ _ _ _ _ hlow hbuilt hlist _ _ ihinner ihrest =>
    have hinner : Keeps w w' (number + 1) := hkeeps.of_le (Nat.le_succ_of_le hlow)
    exact .element hlow (hkeeps.built _ _ hbuilt)
      (hkeeps.lists _ _ (Nat.lt_succ_of_le hlow) hlist) (ihinner hinner) (ihrest hkeeps)

theorem Denotes.append {w : Worklist} {low : Nat} {parts more : List Part}
    {nodes others : List Node} (h : Denotes w low parts nodes) (h' : Denotes w low more others) :
    Denotes w low (parts ++ more) (nodes ++ others) := by
  induction h with
  | nil => exact h'
  | text _ ih => exact .text (ih h')
  | element hlow hb hl inner _ _ ihrest => exact .element hlow hb hl inner (ihrest h')

/-- An element with the children that its list denotes. -/
inductive Completes (w : Worklist) : Nat → Node → Prop
  | intro {number : Nat} {node : Node} {list : Array Part} {children : List Node}
      (hbuilt : w.built[number]? = some node) (hlist : w.lists[number + 1]? = some list)
      (inner : Denotes w (number + 1) list.toList children) :
      Completes w number { node with children }

theorem Completes.mono {w w' : Worklist} {number : Nat} {node : Node} (h : Completes w number node)
    (hkeeps : Keeps w w' number) : Completes w' number node := by
  obtain ⟨hbuilt, hlist, inner⟩ := h
  exact .intro (hkeeps.built _ _ hbuilt) (hkeeps.lists _ _ (Nat.lt_succ_self _) hlist)
    (inner.mono (hkeeps.of_le (Nat.le_succ _)))

theorem Completes.denotes {w : Worklist} {low number : Nat} {node : Node} {parts : List Part}
    {nodes : List Node} (h : Completes w number node) (hlow : low ≤ number)
    (rest : Denotes w low parts nodes) :
    Denotes w low (.element number :: parts) (node :: nodes) := by
  obtain ⟨hbuilt, hlist, inner⟩ := h
  exact .element hlow hbuilt hlist inner rest

/-! ## What a run gathers -/

/-- Between two states nodes have been gathered on one list, and elements have been built for
them; what is below stays as it was. -/
structure Gathers (w w' : Worklist) (waiting : List (Item × Nat)) (list : Nat)
    (nodes elements : List Node) : Prop where
  waits : w'.waiting = waiting
  size : w'.built.size = w.built.size + elements.length
  built : ∀ (n : Nat) node, w.built[n]? = some node → w'.built[n]? = some node
  others : ∀ (n : Nat) l, n ≠ list → w.lists[n]? = some l → w'.lists[n]? = some l
  gathered : ∀ before, w.lists[list]? = some before →
    ∃ parts, w'.lists[list]? = some (before ++ parts) ∧
      Denotes w' w.built.size parts.toList nodes
  completes : ∀ (n : Nat) node, elements[n]? = some node → Completes w' (w.built.size + n) node

section
variable {w w' w'' : Worklist} {waiting later : List (Item × Nat)} {list : Nat}
  {nodes more elements further : List Node}

theorem Gathers.nothing : Gathers w { w with waiting } waiting list [] [] where
  waits := rfl
  size := rfl
  built _ _ h := h
  others _ _ _ h := h
  gathered before h := ⟨#[], by simpa using h, .nil⟩
  completes _ _ h := by simp at h

theorem Gathers.keeps (h : Gathers w w' waiting list nodes elements) {low : Nat}
    (hlist : list ≤ low) : Keeps w w' low :=
  ⟨h.built, fun n l hn => h.others n l (Nat.ne_of_gt (Nat.lt_of_le_of_lt hlist hn))⟩

/-- A list of the first state is older than all that is gathered from there on. -/
theorem Gathers.trans (h : Gathers w w' waiting list nodes elements)
    (h' : Gathers w' w'' later list more further) (hlist : list < w.lists.size) :
    Gathers w w'' later list (nodes ++ more) (elements ++ further) := by
  have hkeeps : Keeps w' w'' w.built.size := by
    apply h'.keeps
    have := w.sized
    omega
  have hsize := h.size
  constructor
  case waits => exact h'.waits
  case size => rw [h'.size, hsize, List.length_append, Nat.add_assoc]
  case built => exact fun n node hn => h'.built n node (h.built n node hn)
  case others => exact fun n l hne hn => h'.others n l hne (h.others n l hne hn)
  case gathered =>
    intro before hb
    obtain ⟨parts, hparts, hdenotes⟩ := h.gathered before hb
    obtain ⟨rest, hrest, hdenotes'⟩ := h'.gathered _ hparts
    refine ⟨parts ++ rest, by rw [hrest, Array.append_assoc], ?_⟩
    rw [Array.toList_append]
    exact (hdenotes.mono hkeeps).append (hdenotes'.of_le (by omega))
  case completes =>
    intro n node hn
    rcases Nat.lt_or_ge n elements.length with hlt | hge
    · rw [List.getElem?_append_left hlt] at hn
      exact (h.completes n node hn).mono (hkeeps.of_le (Nat.le_add_right _ _))
    · rw [List.getElem?_append_right hge] at hn
      have hnumber : w'.built.size + (n - elements.length) = w.built.size + n := by omega
      exact hnumber ▸ h'.completes _ node hn

theorem getElem?_gather (lists : Array (Array Part)) (list n : Nat) (part : Part) :
    (gather lists list part)[n]? =
      if list = n then lists[n]?.map (·.push part) else lists[n]? :=
  Array.getElem?_modify

theorem Gathers.text {built : Array Node} {lists : Array (Array Part)} {content : Text}
    {before : List (Item × Nat)} (sized : lists.size = built.size + 1)
    (sized' : (gather lists list (.text content)).size = built.size + 1) :
    Gathers ⟨before, built, lists, sized⟩
      ⟨waiting, built, gather lists list (.text content), sized'⟩ waiting list
      [.ofText content] [] where
  waits := rfl
  size := rfl
  built _ _ h := h
  others n l hne h := by rw [getElem?_gather, if_neg (Ne.symm hne), h]
  gathered before h := by
    refine ⟨#[.text content], ?_, .text .nil⟩
    rw [getElem?_gather, if_pos rfl, h, Option.map_some, Array.push_eq_append]
  completes _ _ h := by simp at h

theorem getElem?_push_of_some {α : Type u} {xs : Array α} {n : Nat} {x : α} (y : α)
    (h : xs[n]? = some x) : (xs.push y)[n]? = some x := by
  rw [Array.getElem?_push_lt (Array.getElem?_eq_some_iff.mp h).1]
  exact congrArg some (Array.getElem?_eq_some_iff.mp h).2

section
variable {built : Array Node} {lists : Array (Array Part)} {tag : Text}
  {attributes : List (Text × Text)} {children : List Item}

/-- The children of an element are gathered on the list that is new when it is taken. -/
theorem Gathers.completes_taken (sized : lists.size = built.size + 1)
    (h : Gathers (step ⟨(.element tag attributes children, list) :: waiting, built, lists, sized⟩)
      w' waiting (built.size + 1) nodes elements) :
    Completes w' built.size (.element tag attributes nodes) := by
  have hbuilt : w'.built[built.size]? = some (.element tag attributes []) :=
    h.built _ _ Array.getElem?_push_size
  have hnew : (step ⟨(.element tag attributes children, list) :: waiting, built, lists,
      sized⟩).lists[built.size + 1]? = some #[] := by
    simp only [step, ← sized]
    rw [← size_gather lists list (.element built.size), Array.getElem?_push_size]
  obtain ⟨parts, hparts, hdenotes⟩ := h.gathered _ hnew
  rw [Array.empty_append] at hparts
  have hinner : Denotes w' (built.size + 1) parts.toList nodes :=
    hdenotes.of_le (by simp [step])
  exact .intro hbuilt hparts hinner

/-- An element is gathered at once, and its children before what waits behind it. -/
theorem Gathers.element (sized : lists.size = built.size + 1)
    (h : Gathers (step ⟨(.element tag attributes children, list) :: waiting, built, lists, sized⟩)
      w' waiting (built.size + 1) nodes elements) (hlist : list < lists.size) :
    Gathers ⟨(.element tag attributes children, list) :: waiting, built, lists, sized⟩ w' waiting
      list [.element tag attributes nodes] (.element tag attributes nodes :: elements) where
  waits := h.waits
  size := by
    have hsize := h.size
    simp only [step, Array.size_push] at hsize
    rw [hsize, List.length_cons, Nat.add_assoc, Nat.add_comm 1]
  built n node hn := by
    apply h.built
    exact getElem?_push_of_some _ hn
  others n l hne hn := by
    have hlt : n < lists.size := (Array.getElem?_eq_some_iff.mp hn).1
    apply h.others n l (by omega)
    apply getElem?_push_of_some
    rw [getElem?_gather, if_neg (Ne.symm hne), hn]
  gathered before hb := by
    -- the list that the element goes to is older than the one of its children
    have hbefore : w'.lists[list]? = some (before.push (.element built.size)) := by
      apply h.others list _ (by omega)
      apply getElem?_push_of_some
      rw [getElem?_gather, if_pos rfl, hb, Option.map_some]
    refine ⟨#[.element built.size], by rw [hbefore, Array.push_eq_append], ?_⟩
    exact (h.completes_taken sized).denotes (Nat.le_refl _) .nil
  completes n node hn := by
    cases n with
    | zero =>
      obtain rfl := Option.some.inj hn
      exact h.completes_taken sized
    | succ n =>
      have hnode := h.completes n node hn
      simp only [step, Array.size_push] at hnode
      rw [Nat.add_comm n 1, ← Nat.add_assoc]
      exact hnode

end

mutual

theorem gathers_item : ∀ (item : Item) {w : Worklist} {list : Nat} {waiting : List (Item × Nat)},
    w.waiting = (item, list) :: waiting → list < w.lists.size →
      Gathers w (step^[item.count] w) waiting list item.toNodes item.elements
  | .element tag attributes children, ⟨_, built, lists, sized⟩, list, waiting, rfl, hlist => by
    rw [Item.count, Function.iterate_succ_apply, Item.toNodes, Item.elements]
    apply Gathers.element sized _ hlist
    apply gathers_forest children
    · simp [step]
    · simp [step, sized]
  | .text content, ⟨_, _, _, sized⟩, _, _, rfl, _ => .text sized _
  | .cdata content, ⟨_, _, _, sized⟩, _, _, rfl, _ => .text sized _
  | .comment _, ⟨_, _, _, _⟩, _, _, rfl, _ => .nothing
  | .doctype _, ⟨_, _, _, _⟩, _, _, rfl, _ => .nothing
  | .declaration _, ⟨_, _, _, _⟩, _, _, rfl, _ => .nothing
  | .instruction _, ⟨_, _, _, _⟩, _, _, rfl, _ => .nothing

theorem gathers_forest : ∀ (forest : List Item) {w : Worklist} {list : Nat}
    {waiting : List (Item × Nat)},
    w.waiting = forest.map (·, list) ++ waiting → list < w.lists.size →
      Gathers w (step^[forestCount forest] w) waiting list (forestToNodes forest)
        (forestElements forest)
  | [], ⟨_, _, _, _⟩, _, _, rfl, _ => .nothing
  | item :: rest, w, list, waiting, hw, hlist => by
    have hfirst := gathers_item item hw hlist
    have hlater : list < (step^[item.count] w).lists.size := by
      have := hfirst.size
      have := (step^[item.count] w).sized
      have := w.sized
      omega
    rw [forestCount, Nat.add_comm, Function.iterate_add_apply, forestToNodes, forestElements]
    exact hfirst.trans (gathers_forest rest hfirst.waits hlater) hlist

end

end

/-! ## What the second pass fills in -/

section
variable {w : Worklist}

/-- Parts stand for the nodes that they denote once the elements among them are complete. -/
theorem Denotes.filterMap_eq {low : Nat} {parts : List Part} {nodes : List Node}
    (h : Denotes w low parts nodes) {elements : Array Node}
    (hdone : ∀ number node, low ≤ number → Completes w number node →
      elements[number]? = some node) :
    parts.filterMap (Part.node? elements) = nodes := by
  induction h with
  | nil => rfl
  | @text _ content _ _ _ ih =>
    have hnode : (Part.text content).node? elements = some (.ofText content) := rfl
    rw [List.filterMap_cons_some hnode, ih hdone]
  | @element _ number node _ _ children _ hlow hbuilt hlist inner _ _ ih =>
    have hnode : (Part.element number).node? elements = some { node with children } :=
      hdone number _ hlow (.intro hbuilt hlist inner)
    rw [List.filterMap_cons_some hnode, ih hdone]

/-- The second pass completes every element, if those from a number on are complete already and
the others are as they have been built. -/
theorem fill_complete (low : Nat) {elements : Array Node}
    (hdone : ∀ number node, low ≤ number → Completes w number node →
      elements[number]? = some node)
    (hbuilt : ∀ number, number < low → elements[number]? = w.built[number]?)
    {number : Nat} {node : Node} (h : Completes w number node) :
    (fill w.lists low elements)[number]? = some node := by
  induction low generalizing elements with
  | zero => exact hdone number node (Nat.zero_le _) h
  | succ low ih =>
    rw [fill]
    apply ih
    · rintro other _ hle ⟨hother, hlist, inner⟩
      rw [Array.getElem?_modify]
      by_cases heq : low = other
      · subst heq
        have hchildren := inner.filterMap_eq hdone
        simp [hbuilt low (Nat.lt_succ_self low), hother, hlist, hchildren]
      · rw [if_neg heq]
        exact hdone other _ (by omega) (.intro hother hlist inner)
    · intro other hlt
      rw [Array.getElem?_modify, if_neg (by omega)]
      exact hbuilt other (by omega)

theorem getElem?_elements {number : Nat} {node : Node} (h : Completes w number node) :
    w.elements[number]? = some node := by
  refine fill_complete w.built.size ?_ (fun _ _ => rfl) h
  rintro other _ hle ⟨hother, -, -⟩
  have := (Array.getElem?_eq_some_iff.mp hother).1
  omega

theorem size_fill (lists : Array (Array Part)) (low : Nat) (elements : Array Node) :
    (fill lists low elements).size = elements.size := by
  induction low generalizing elements with
  | zero => rfl
  | succ low ih => rw [fill, ih, Array.size_modify]

theorem roots_eq {list : Array Part} {nodes : List Node} (hlist : w.lists[0]? = some list)
    (h : Denotes w 0 list.toList nodes) : w.roots = nodes := by
  simp only [roots, Array.getD_eq_getD_getElem?, hlist, Option.getD_some]
  exact h.filterMap_eq fun _ _ _ => getElem?_elements

end

/-! ## Whole runs -/

theorem gathers_run (forest : List Item) :
    Gathers (ofForest forest) (ofForest forest).run [] 0 (forestToNodes forest)
      (forestElements forest) := by
  rw [run_eq_iterate, remaining_ofForest]
  exact gathers_forest forest (by simp [ofForest]) (by simp [ofForest])

theorem roots_run (forest : List Item) : (ofForest forest).run.roots = forestToNodes forest := by
  obtain ⟨parts, hparts, hdenotes⟩ := (gathers_run forest).gathered #[] rfl
  rw [Array.empty_append] at hparts
  exact roots_eq hparts hdenotes

theorem elements_run (forest : List Item) :
    (ofForest forest).run.elements.toList = forestElements forest := by
  have hsize : (ofForest forest).run.elements.size = (forestElements forest).length := by
    rw [Worklist.elements, size_fill, (gathers_run forest).size]
    exact Nat.zero_add _
  apply List.ext_getElem?
  intro n
  rw [Array.getElem?_toList]
  rcases Nat.lt_or_ge n (forestElements forest).length with hlt | hge
  · have hnode := List.getElem?_eq_getElem hlt
    have hcomplete : Completes _ (0 + n) _ := (gathers_run forest).completes n _ hnode
    rw [Nat.zero_add] at hcomplete
    rw [hnode]
    exact getElem?_elements hcomplete
  · rw [List.getElem?_eq_none hge, Array.getElem?_eq_none (hsize ▸ hge)]

end Worklist

/-- Converting a forest by the work list gives what plain recursion gives. -/
theorem Item.nodes_eq_forestToNodes (forest : List Item) : nodes forest = forestToNodes forest :=
  Worklist.roots_run forest

end FlatBlocks.Markup
