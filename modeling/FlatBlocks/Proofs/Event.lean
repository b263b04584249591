import FlatBlocks.Event
import FlatBlocks.Proofs.Block.Alike

/-! # Events that carry an element

An event may carry an element that has been read already. Its markup is then written and
read again, which changes nothing for a composed element: it is converted as its own tree
is. -/

namespace FlatBlocks
open Markup (Item Node)

namespace Event

variable {event : Event} {item : Item} {id : Text}

theorem markup_of_element (h : event.lookup? "xml" = some (.element item)) :
    event.markup = item.toMarkup := by
  rw [markup, h]

theorem isCreate_of_element (hid : event.block? = some id)
    (h : event.lookup? "xml" = some (.element item)) : event.isCreate = true := by
  have hstructured : event.isStructured = true := by
    cases event with
    | object | element => rfl
    | null | flag | number | bytes | text | list => cases h
  rw [isCreate, hstructured, hid, h]
  rfl

end Event

/-- **An element is converted as it stands.** The markup of a composed block gives its own tree
back, as the only node, with attributes in the order of their names; and an event that carries
the block brings the records of that tree, or fails as it does. -/
theorem adapt_element {attributes : List (Text × Text)} {children : List Item}
    (h : (Item.element "block" attributes children).isComposed = true) :
    let item := Item.element "block" attributes children
    let node := Node.element "block" (Item.sortAttributes attributes)
      (Item.nodes (Item.sortedForest children))
    (Markup.parse item.toMarkup = .ok [node] ∧
        List.Forall₂ Node.Alike [node] (Item.nodes [item])) ∧
      ∀ (event : Event) (id : Text), event.block? = some id →
        event.lookup? "xml" = some (.element item) →
          event.markup = item.toMarkup ∧
            event.adapt = ((Block.flatten (Item.nodes [item])).mapError .fault).map some := by
  obtain ⟨hparse, halike⟩ := Markup.parse_toMarkup h
  refine ⟨⟨hparse, halike⟩, fun event id hid hxml => ?_⟩
  have hmarkup := Event.markup_of_element hxml
  refine ⟨hmarkup, ?_⟩
  rw [Event.adapt, if_pos (Event.isCreate_of_element hid hxml), hmarkup, Event.flattenMarkup,
    hparse, ← Block.flatten_alike halike]

/-- A block whose texts need every kind of escape and of quote. -/
def quoting : Item :=
  .element "block" [("type", "it's \"<x>\""), ("id", "&amp;lt;")]
    [.text "\n",
      .element "field" [("name", "\"F\"")] [.text "a < b && c > d &amp;lt; \t"],
      .text " ",
      .element "value" [("name", "'V'")]
        [.element "shadow" [("type", "&quot;"), ("id", "b\n")] [], .text "x"],
      .element "next" [] [.element "block" [("type", ""), ("id", "c")] []]]

def carrying : Event := .object [("xml", .element quoting), ("blockId", .text "e")]

theorem adapt_quoting :
    quoting.isComposed = true ∧
      carrying.markup = quoting.toMarkup ∧
      carrying.adapt = .ok (some [
        { id := "&amp;lt;", opcode := "it's \"<x>\"", inputs := [("'V'", ⟨"'V'", "b\n"⟩)],
          fields := [("\"F\"", ⟨"\"F\"", "a < b && c > d &amp;lt; \t"⟩)], next := some "c",
          topLevel := true },
        { id := "b\n", opcode := "&quot;" }, { id := "c", opcode := "" }]) := by
  have h : quoting.isComposed = true := by decide +kernel
  obtain ⟨_, hcarried⟩ := adapt_element h
  obtain ⟨hmarkup, hadapt⟩ := hcarried carrying "e" rfl rfl
  refine ⟨h, hmarkup, ?_⟩
  rw [hadapt, Item.nodes_eq_forestToNodes]
  decide +kernel

end FlatBlocks
