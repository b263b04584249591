import FlatBlocks.Proofs.Markup.Nodes
import FlatBlocks.Proofs.Markup.ReadBack
import Mathlib.Data.List.Forall2

/-! # Trees that are alike

The attributes of an element are a table in which only names count. Nodes are alike if they
have the same tags, texts and values under every name, at every depth. What is read back
from the markup of a composed element is alike to the nodes of the element itself. -/

namespace FlatBlocks.Markup
open FlatBlocks.Text

/-- Nodes that differ at most in the order of the attributes of elements. -/
inductive Node.Alike : Node → Node → Prop
  | intro {node other : Node} (tag : node.tag = other.tag) (text : node.text = other.text)
      (attributes : ∀ name, node.get? name = other.get? name)
      (children : List.Forall₂ Node.Alike node.children other.children) : Node.Alike node other

namespace Node.Alike

variable {node other : Node}

theorem tag (h : node.Alike other) : node.tag = other.tag := by
  cases h with
  | intro tag _ _ _ => exact tag

theorem text (h : node.Alike other) : node.text = other.text := by
  cases h with
  | intro _ text _ _ => exact text

theorem get? (h : node.Alike other) (name : Text) : node.get? name = other.get? name := by
  cases h with
  | intro _ _ attributes _ => exact attributes name

theorem children (h : node.Alike other) :
    List.Forall₂ Node.Alike node.children other.children := by
  cases h with
  | intro _ _ _ children => exact children

theorem hasTag (h : node.Alike other) (tag : Text) : node.hasTag tag = other.hasTag tag := by
  rw [Node.hasTag, h.tag]
  rfl

theorem lowerTag (h : node.Alike other) : node.lowerTag = other.lowerTag := by
  rw [Node.lowerTag, h.tag]
  rfl

theorem isElement (h : node.Alike other) : node.isElement = other.isElement := by
  rw [Node.isElement, h.tag]
  rfl

theorem textContent (h : node.Alike other) : node.textContent = other.textContent := by
  rw [Node.textContent, h.tag, h.text]
  rfl

theorem ofText (text : Text) : (Node.ofText text).Alike (Node.ofText text) :=
  .intro rfl rfl (fun _ => rfl) .nil

end Node.Alike

namespace Item

theorem get?_sortAttributes {attributes : List (Text × Text)}
    (h : (Table.keys attributes).Nodup) (name : Text) :
    Table.get? (sortAttributes attributes) name = Table.get? attributes name := by
  have hperm := perm_sortAttributes attributes
  have hsorted : (Table.keys (sortAttributes attributes)).Nodup :=
    ((hperm.map Prod.fst).nodup_iff).mpr h
  cases hget : Table.get? attributes name with
  | some value =>
    exact Table.get?_of_mem hsorted (hperm.mem_iff.mpr (Table.mem_of_get? hget))
  | none =>
    rw [Table.get?_eq_none_iff] at hget ⊢
    exact fun hmem => hget ((hperm.map Prod.fst).mem_iff.mp hmem)

mutual

theorem alike_sorted : ∀ item : Item, item.isComposed = true →
    List.Forall₂ Node.Alike item.sorted.toNodes item.toNodes
  | element tag attributes children, h => by
    have hcomposed := composed_of_isComposed h
    rw [sorted, toNodes, toNodes]
    refine .cons (.intro rfl rfl (get?_sortAttributes hcomposed.nodup) ?_) .nil
    exact alike_sortedForest children hcomposed.children
  | text content, _ => by
    rw [sorted, toNodes]
    exact .cons (.ofText content) .nil
    all_goals simp

theorem alike_sortedForest : ∀ forest : List Item, areComposed forest = true →
    List.Forall₂ Node.Alike (forestToNodes (sortedForest forest)) (forestToNodes forest)
  | [], _ => .nil
  | item :: rest, h => by
    simp only [areComposed, Bool.and_eq_true] at h
    rw [sortedForest, forestToNodes, forestToNodes]
    exact List.rel_append (alike_sorted item h.1.1) (alike_sortedForest rest h.2)

end

end Item

theorem nodes_element (tag : Text) (attributes : List (Text × Text)) (children : List Item) :
    Item.nodes [.element tag attributes children] =
      [.element tag attributes (Item.nodes children)] := by
  rw [Item.nodes_eq_forestToNodes, Item.nodes_eq_forestToNodes, Item.forestToNodes,
    Item.forestToNodes, Item.toNodes, List.append_nil]

/-- The markup of a composed element gives one node, which is alike to that of the element. -/
theorem parse_toMarkup {tag : Text} {attributes : List (Text × Text)} {children : List Item}
    (h : (Item.element tag attributes children).isComposed = true) :
    let node := Node.element tag (Item.sortAttributes attributes)
      (Item.nodes (Item.sortedForest children))
    parse (Item.element tag attributes children).toMarkup = .ok [node] ∧
      List.Forall₂ Node.Alike [node] (Item.nodes [.element tag attributes children]) := by
  constructor
  · rw [parse, readTree_toMarkup h, Item.sorted]
    exact congrArg Except.ok (nodes_element _ _ _)
  · have halike := Item.alike_sorted _ h
    rw [Item.sorted, Item.toNodes, Item.toNodes] at halike
    rwa [nodes_element, Item.nodes_eq_forestToNodes, Item.nodes_eq_forestToNodes]

end FlatBlocks.Markup
