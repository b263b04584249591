import FlatBlocks.Convert
import FlatBlocks.Proofs.Markup.Nodes
import FlatBlocks.Proofs.Markup.ReadBack
import FlatBlocks.Proofs.Text.Utf8

/-! # The text of a field

The escaped text of a field comes back as the value of the field, in however many pieces it
has been scanned. A text of ASCII blanks alone is the exception: it is squeezed to one line
feed or one space. -/

namespace FlatBlocks.Markup
open FlatBlocks.Text

/-! ## Texts in open elements -/

namespace Builder

/-- What is kept of a text, except inside of elements that keep blanks. -/
def kept (content : Text) : Text :=
  if content.all isAsciiBlank then squeeze content else content

/-- The texts that are kept as they are. -/
theorem kept_eq_self_iff {content : Text} (h : content ≠ []) :
    kept content = content ↔ Item.isSettled content = true := by
  unfold kept
  cases hblank : content.all isAsciiBlank with
  | false => simp [Item.isSettled, hblank, h]
  | true =>
    refine ⟨fun hsame => ?_, fun hsettled => by rw [if_pos rfl, squeeze_of_settled hsettled hblank]⟩
    rw [if_pos rfl, squeeze] at hsame
    split at hsame
    · rw [← hsame]
      decide
    · rw [← hsame]
      decide

theorem keepsBlanks_within {tag : Text} (htag : tag ≠ "pre" ∧ tag ≠ "textarea")
    (attributes : List (Text × Text)) {b : Builder} (hpieces : b.pieces = [])
    (h : b.keepsBlanks = false) : (b.within tag attributes).keepsBlanks = false := by
  rw [keepsBlanks, within, flush_of_no_pieces hpieces]
  rw [keepsBlanks] at h
  simp [h, htag]

end Builder

/-- A text that is read to an item, where blanks count for little. -/
def ReadAs (s : Text) (item : Item) : Prop :=
  ∃ tokens, (∀ rest, Token.Scanned (s ++ rest) tokens rest) ∧
    ∀ b : Builder, b.closed = [] → b.pieces = [] → b.keepsBlanks = false →
      tokens.foldl Builder.add b = b.append item

section
variable {tag : Text} {attributes : List (Text × Text)} (h : Item.Composed tag attributes [])
  (htag : tag ≠ "pre" ∧ tag ≠ "textarea")
include h htag

/-- An element is read that holds a text. -/
theorem readAs_text {content : Text} (hcontent : content ≠ []) :
    ReadAs ((Item.element tag attributes [.text content]).print false)
      (.element tag (Item.sortAttributes attributes) [.text (Builder.kept content)]) := by
  obtain ⟨pieces, hpieces, hscanned⟩ := Token.scanned_escape content
  refine ⟨.start tag (Item.sortAttributes attributes) :: (pieces.map .text ++ [.close tag]),
    scanned_element h.plain h.writable fun rest => ?_, fun b hclosed hbefore hblanks => ?_⟩
  · rw [Item.printForest, Item.print, Item.printForest, if_neg Bool.false_ne_true, List.append_nil]
    exact hscanned rest
  · have hpart : ((pieces.map .text).foldl Builder.add
        (b.within tag (Item.sortAttributes attributes))).closed = [] := by
      rw [Builder.add_pieces]
      simpa using hclosed
    have hflush : ((pieces.map .text).foldl Builder.add
        (b.within tag (Item.sortAttributes attributes))).flush .text =
          [Item.text (Builder.kept content)].foldl Builder.append
            (b.within tag (Item.sortAttributes attributes)) := by
      rw [Builder.flush_add_pieces_of_ne hpieces hcontent (Builder.within_pieces _ _ b),
        Builder.keepsBlanks_within htag _ hbefore hblanks, Bool.not_false, Bool.and_true]
      rfl
    rw [Builder.add_element h.plain.notVoid h.nodup_sorted hpart hflush,
      Builder.flush_of_no_pieces hbefore]

/-- An element is read that holds another. -/
theorem readAs_around {child result : Item} (hchild : ReadAs (child.print false) result) :
    ReadAs ((Item.element tag attributes [child]).print false)
      (.element tag (Item.sortAttributes attributes) [result]) := by
  obtain ⟨tokens, hscanned, hbuilt⟩ := hchild
  refine ⟨.start tag (Item.sortAttributes attributes) :: (tokens ++ [.close tag]),
    scanned_element h.plain h.writable fun rest => ?_, fun b hclosed hbefore hblanks => ?_⟩
  · rw [Item.printForest, Item.printForest, List.append_nil]
    exact hscanned _
  · have hinner := hbuilt (b.within tag (Item.sortAttributes attributes))
      (by rwa [Builder.within_closed]) (Builder.within_pieces _ _ b)
      (Builder.keepsBlanks_within htag _ hbefore hblanks)
    have hpart : (tokens.foldl Builder.add
        (b.within tag (Item.sortAttributes attributes))).closed = [] := by
      rw [hinner]
      simpa using hclosed
    have hflush : (tokens.foldl Builder.add
        (b.within tag (Item.sortAttributes attributes))).flush .text =
          [result].foldl Builder.append (b.within tag (Item.sortAttributes attributes)) := by
      rw [hinner, Builder.flush_of_no_pieces (by simp)]
      rfl
    rw [Builder.add_element h.plain.notVoid h.nodup_sorted hpart hflush,
      Builder.flush_of_no_pieces hbefore]

end

end FlatBlocks.Markup

namespace FlatBlocks
open Markup (Item Node)
open Block (Record)

/-! ## Fields -/

/-- The markup of a block with one field. -/
def fieldMarkup (id opcode name content : Text) : Text :=
  "<block id=" ++ Item.printValue id ++ " type=" ++ Item.printValue opcode ++
    "><field name=" ++ Item.printValue name ++ ">" ++ Item.escape content ++ "</field></block>"

/-- The attributes of the block and of its field. -/
def blockAttributes (id opcode : Text) : List (Text × Text) := [("id", id), ("type", opcode)]

def fieldAttributes (name : Text) : List (Text × Text) := [("name", name)]

/-- The block with one field. -/
def fieldBlock (id opcode name content : Text) : Item :=
  .element "block" (blockAttributes id opcode)
    [.element "field" (fieldAttributes name) [.text content]]

section
variable (id opcode name : Text)

theorem composed_block : Item.Composed "block" (blockAttributes id opcode) [] :=
  ⟨Item.plainTag_of_mem (by decide), by simp [blockAttributes, Item.composedNames],
    by simp [blockAttributes, Table.keys]; decide, rfl⟩

theorem composed_field : Item.Composed "field" (fieldAttributes name) [] :=
  ⟨Item.plainTag_of_mem (by decide), by simp [fieldAttributes, Item.composedNames],
    by simp [fieldAttributes, Table.keys], rfl⟩

theorem sortAttributes_block :
    Item.sortAttributes (blockAttributes id opcode) = blockAttributes id opcode := by
  refine List.mergeSort_of_pairwise ?_
  simp [blockAttributes]
  decide

theorem sortAttributes_field : Item.sortAttributes (fieldAttributes name) = fieldAttributes name :=
  List.mergeSort_singleton _

theorem fieldMarkup_eq (content : Text) :
    fieldMarkup id opcode name content = (fieldBlock id opcode name content).print false := by
  have hblock := (composed_block id opcode).writable.values
  have hfield := (composed_field name).writable.values
  rw [sortAttributes_block] at hblock
  rw [sortAttributes_field] at hfield
  rw [fieldBlock, Item.print_element (composed_block id opcode).plain, sortAttributes_block,
    Item.printForest, Item.print_element (composed_field name).plain, sortAttributes_field]
  simp only [blockAttributes, fieldAttributes, List.mem_cons, List.not_mem_nil, or_false,
    forall_eq_or_imp, forall_eq] at hblock hfield
  simp only [blockAttributes, fieldAttributes, List.flatMap_cons, List.flatMap_nil,
    Item.printAttribute, hblock, hfield, Item.printForest, Item.print, fieldMarkup,
    List.append_assoc, List.cons_append, List.append_nil, Bool.false_eq_true, if_false]
  rfl

end

/-- The node of the block with one field. -/
def fieldNode (id opcode name content : Text) : Node :=
  .element "block" (blockAttributes id opcode)
    [.element "field" (fieldAttributes name) [.ofText content]]

/-- The record of the block with one field. -/
def fieldRecord (id opcode name content : Text) : Record Text :=
  { id, opcode, fields := [(name, ⟨name, content⟩)], topLevel := true }

theorem visit_fieldNode (id opcode name content : Text) :
    Block.visit (fieldNode id opcode name content) 0 {} =
      (.ok (fieldRecord id opcode name content),
        ⟨[(id, (0, fieldRecord id opcode name content))], 1⟩) := by
  have hrole : Block.Role.of (.element "field" (fieldAttributes name) [.ofText content]) =
      .field := rfl
  have hid : Block.require (fieldNode id opcode name content) "id" none = .ok id := rfl
  have htype : Block.require (fieldNode id opcode name content) "type" (some id) = .ok opcode := rfl
  have hfield : Block.readField (.element "field" (fieldAttributes name) [.ofText content]) id =
      .ok ⟨name, content⟩ := rfl
  rw [Block.visit, hid]
  simp only [htype]
  rw [fieldNode, Node.element]
  simp only [Block.visitChildren, hrole, hfield]
  simp [fieldRecord, Block.Registry.add, Block.Registry.amend, Block.Record.putField, Table.put,
    Table.get?]

theorem hasTag_fieldNode (id opcode name content : Text) :
    (fieldNode id opcode name content).hasTag "block" = true := rfl

variable {content : Text} (h : content ≠ [])
include h

theorem parse_fieldMarkup (id opcode name : Text) :
    Markup.parse (fieldMarkup id opcode name content) =
      .ok [fieldNode id opcode name (Markup.Builder.kept content)] := by
  have hfield := Markup.readAs_text (composed_field name) (by decide) h
  have hblock := Markup.readAs_around (composed_block id opcode) (by decide) hfield
  obtain ⟨tokens, hscanned, hbuilt⟩ := hblock
  rw [sortAttributes_block, sortAttributes_field] at hbuilt
  have hbracket : .char '<' ∈ fieldMarkup id opcode name content := by
    simp [fieldMarkup, Text.ofString, Text.ofChars]
  have hread := Markup.readTree_of_scanned hbracket
    (by simpa [fieldMarkup_eq, fieldBlock] using hscanned []) (hbuilt {} rfl rfl rfl)
  rw [Markup.parse, hread]
  exact congrArg Except.ok (Item.nodes_eq_forestToNodes _)

/-- The value of a field is its text, squeezed if it is made of blanks alone. -/
theorem convertMarkup_field (id opcode name : Text) (skipMalformed : Bool) (ctx : Context) :
    convertMarkup (fieldMarkup id opcode name content) skipMalformed ctx =
        (.ok [fieldRecord id opcode name (Markup.Builder.kept content)], ctx) ∧
      (Markup.Builder.kept content = content ↔
        content.all Text.isAsciiBlank = false ∨ content = " " ∨ content = "\n") := by
  refine ⟨?_, ?_⟩
  · have hparse := parse_fieldMarkup h id opcode name
    have hvisit := visit_fieldNode id opcode name (Markup.Builder.kept content)
    cases skipMalformed with
    | false =>
      simp [convertMarkup, hparse, Block.flatten, Block.addRoots, hasTag_fieldNode, hvisit,
        Except.mapError, Block.Registry.records, Block.Registry.table, Table.values]
    | true =>
      simp [convertMarkup, hparse, Block.flattenEach, Block.mergeRoots, hasTag_fieldNode, hvisit,
        Block.Registry.table, Table.values, Table.merge, Table.put]
  · rw [Markup.Builder.kept_eq_self_iff h]
    simp [Item.isSettled, h, or_assoc]

omit h

/-- Text with all signs that are escaped. -/
theorem convertMarkup_signs :
    ("<&> ]]>" : Text) ≠ [] ∧
      convertMarkup ("<block id=\"a\" type=\"x\"><field name=\"F\">" ++
          "&lt;&amp;&gt; ]]&gt;</field></block>") true { source := "s" } =
        (.ok [fieldRecord "a" "x" "F" "<&> ]]>"], { source := "s" }) := by
  have hne : ("<&> ]]>" : Text) ≠ [] := by decide
  exact ⟨hne, (convertMarkup_field hne "a" "x" "F" true { source := "s" }).1⟩

/-- Two spaces do not come back. -/
theorem convertMarkup_spaces :
    ¬ ∀ content : Text, content ≠ [] → Text.Whole content →
      (convertMarkup (fieldMarkup "a" "x" "F" content) false { source := "s" }).1 =
        .ok [fieldRecord "a" "x" "F" content] := by
  intro h
  have hspaces : (convertMarkup (fieldMarkup "a" "x" "F" "  ") false { source := "s" }).1 =
      .ok [fieldRecord "a" "x" "F" " "] := by decide +kernel
  have hsame := h "  " (by decide) (by unfold Text.Whole; decide)
  rw [hspaces] at hsame
  revert hsame
  decide

end FlatBlocks
