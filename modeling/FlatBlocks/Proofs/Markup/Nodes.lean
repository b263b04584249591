import FlatBlocks.Markup.Tree
import FlatBlocks.Proofs.Markup.Worklist

/-! The nodes of a document. The work list takes every item of its tree once and gives what plain
recursion gives, and every node that comes of it is an element or has a text. -/

namespace FlatBlocks.Markup

/-- Every node of a tree that is no element has a text. -/
inductive Node.Texted : Node → Prop
  | intro {node : Node} (own : node.isElement = false → node.text.isSome = true)
      (children : ∀ child ∈ node.children, Node.Texted child) : Node.Texted node

namespace Node.Texted

theorem own {node : Node} (h : node.Texted) : node.isElement = false → node.text.isSome = true := by
  cases h with
  | intro own _ => exact own

theorem child {node child : Node} (h : node.Texted) (hc : child ∈ node.children) :
    child.Texted := by
  cases h with
  | intro _ children => exact children child hc

theorem ofText (text : Text) : (Node.ofText text).Texted :=
  .intro (fun _ => rfl) (fun _ hc => by cases hc)

theorem element (tag : Text) (attributes : Table Text) {children : List Node}
    (h : ∀ child ∈ children, child.Texted) : (Node.element tag attributes children).Texted :=
  .intro (fun he => by cases he) h

end Node.Texted

namespace Item

mutual

theorem texted_toNodes : ∀ (item : Item), ∀ node ∈ item.toNodes, node.Texted
  | element tag attributes children, node, h => by
    rw [toNodes, List.mem_singleton] at h
    exact h ▸ .element tag attributes (texted_forestToNodes children)
  | text content, node, h => by
    rw [toNodes, List.mem_singleton] at h
    exact h ▸ .ofText content
  | cdata content, node, h => by
    rw [toNodes, List.mem_singleton] at h
    exact h ▸ .ofText content
  | comment _, _, h => by cases h
  | doctype _, _, h => by cases h
  | declaration _, _, h => by cases h
  | instruction _, _, h => by cases h

theorem texted_forestToNodes : ∀ (forest : List Item), ∀ node ∈ forestToNodes forest, node.Texted
  | [], _, h => by cases h
  | item :: rest, node, h => by
    rw [forestToNodes] at h
    rcases List.mem_append.mp h with h | h
    · exact texted_toNodes item node h
    · exact texted_forestToNodes rest node h

end

/-- **The work list converts as plain recursion does.** It is empty after as many steps as there
are items and not before. The elements that have been built have all their children then, and
they are those of the forest in document order; the roots are the nodes of the forest, and each
node at any depth is an element or has a text. -/
theorem nodes_of_worklist (forest : List Item) :
    let start := Worklist.ofForest forest
    (∀ n, (Worklist.step^[n] start).waiting = [] ↔ forestCount forest ≤ n) ∧
      start.run = Worklist.step^[forestCount forest] start ∧
      start.run.elements.toList = forestElements forest ∧
      nodes forest = forestToNodes forest ∧
      ∀ node ∈ nodes forest, node.Texted := by
  intro start
  have hcount : start.remaining = forestCount forest := Worklist.remaining_ofForest forest
  refine ⟨?_, ?_, Worklist.elements_run forest, nodes_eq_forestToNodes forest, ?_⟩
  · intro n
    rw [← Worklist.remaining_eq_zero, Worklist.remaining_iterate, hcount, Nat.sub_eq_zero_iff_le]
  · rw [Worklist.run_eq_iterate, hcount]
  · rw [nodes_eq_forestToNodes]
    exact texted_forestToNodes forest

mutual

/-- An item without the strings in it that are no content. -/
def contents : Item → List Item
  | element tag attributes children => [element tag attributes (contentsOf children)]
  | text content => [text content]
  | cdata content => [cdata content]
  | comment _ => []
  | doctype _ => []
  | declaration _ => []
  | instruction _ => []

def contentsOf : List Item → List Item
  | [] => []
  | item :: rest => item.contents ++ contentsOf rest

end

theorem forestToNodes_append (first second : List Item) :
    forestToNodes (first ++ second) = forestToNodes first ++ forestToNodes second := by
  induction first with
  | nil => rfl
  | cons item rest ih => simp [forestToNodes, ih]

mutual

theorem toNodes_contents : ∀ item : Item, forestToNodes item.contents = item.toNodes
  | element tag attributes children => by
    simp [contents, forestToNodes, toNodes, forestToNodes_contentsOf children]
  | text _ => rfl
  | cdata _ => rfl
  | comment _ => rfl
  | doctype _ => rfl
  | declaration _ => rfl
  | instruction _ => rfl

theorem forestToNodes_contentsOf :
    ∀ forest : List Item, forestToNodes (contentsOf forest) = forestToNodes forest
  | [] => rfl
  | item :: rest => by
    rw [contentsOf, forestToNodes_append, toNodes_contents item, forestToNodes_contentsOf rest,
      forestToNodes]

end

/-- Strings that are no content, at any depth, leave no nodes. -/
theorem nodes_contentsOf (forest : List Item) : nodes (contentsOf forest) = nodes forest := by
  rw [nodes_eq_forestToNodes, nodes_eq_forestToNodes, forestToNodes_contentsOf]

end Item

theorem accepted_of_isOk {markup : Text} (h : (parse markup).isOk = true) :
    ∃ nodes, parse markup = .ok nodes := by
  cases hparse : parse markup with
  | ok nodes => exact ⟨nodes, rfl⟩
  | error cause => rw [hparse] at h; cases h

/-- Whatever is read from a markup text is an element or has a text. -/
theorem texted_of_parse {markup : Text} {nodes : List Node} (h : parse markup = .ok nodes) :
    ∀ node ∈ nodes, node.Texted := by
  unfold parse at h
  cases hr : readTree markup with
  | error cause => rw [hr] at h; cases h
  | ok forest =>
    rw [hr] at h
    cases h
    rw [Item.nodes_eq_forestToNodes]
    exact Item.texted_forestToNodes forest

end FlatBlocks.Markup
