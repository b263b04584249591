import FlatBlocks.Proofs.Markup.Scanned
import FlatBlocks.Proofs.Table

/-! # Reading back what was written

A tree is composed if it is made of the elements of blocks and of texts that a parser would
leave as they are. The markup of a composed element is read back as that element alone, with
its attributes, and those of all elements inside it, in the order of their names. -/

namespace FlatBlocks.Markup
open FlatBlocks.Text

namespace Item

/-! ## Composed trees -/

def composedTags : List Text := ["block", "shadow", "field", "value", "statement", "next"]

def composedNames : List Text := ["id", "type", "name"]

/-- A text that is not empty, and that is a space or a line feed if it is made of blanks. -/
def isSettled (content : Text) : Bool :=
  !content.isEmpty && (!content.all isAsciiBlank || content == " " || content == "\n")

def isText : Item → Bool
  | text _ => true
  | _ => false

def startsWithText (forest : List Item) : Bool := (forest.head?.map isText).getD false

mutual

/-- Whether an item is made of the elements of blocks, with different attributes each, and
of settled texts that stand apart from each other. -/
def isComposed : Item → Bool
  | element tag attributes children =>
    composedTags.contains tag && attributes.all (fun e => composedNames.contains e.1) &&
      decide (Table.keys attributes).Nodup && areComposed children
  | text content => isSettled content
  | _ => false

def areComposed : List Item → Bool
  | [] => true
  | item :: rest =>
    item.isComposed && !(item.isText && startsWithText rest) && areComposed rest

end

mutual

/-- An item with the attributes of all elements in it in the order of their names. -/
def sorted : Item → Item
  | element tag attributes children =>
    element tag (sortAttributes attributes) (sortedForest children)
  | item => item

def sortedForest : List Item → List Item
  | [] => []
  | item :: rest => item.sorted :: sortedForest rest

end

/-- A tag that is written and read like any other. -/
structure PlainTag (tag : Text) : Prop where
  word : isWord tag = true
  notVoid : isVoid tag = false
  notRaw : RawElement.ofTag? tag = none
  notMeta : (tag != "meta") = true
  noLists : ∀ name ∈ composedNames, isWordList tag name = false

theorem plainTag_of_mem {tag : Text} (h : tag ∈ composedTags) : PlainTag tag := by
  simp only [composedTags, List.mem_cons, List.not_mem_nil, or_false] at h
  rcases h with rfl | rfl | rfl | rfl | rfl | rfl <;>
    exact ⟨by decide, by decide, by decide, by decide, by decide⟩

theorem isWord_of_mem {name : Text} (h : name ∈ composedNames) : isWord name = true := by
  simp only [composedNames, List.mem_cons, List.not_mem_nil, or_false] at h
  rcases h with rfl | rfl | rfl <;> decide

/-- What is known of a composed element. -/
structure Composed (tag : Text) (attributes : List (Text × Text)) (children : List Item) :
    Prop where
  plain : PlainTag tag
  names : ∀ e ∈ attributes, e.1 ∈ composedNames
  nodup : (Table.keys attributes).Nodup
  children : areComposed children = true

theorem composed_of_isComposed {tag : Text} {attributes : List (Text × Text)}
    {children : List Item} (h : (element tag attributes children).isComposed = true) :
    Composed tag attributes children := by
  simp only [isComposed, Bool.and_eq_true, List.all_eq_true, decide_eq_true_eq] at h
  obtain ⟨⟨⟨htag, hnames⟩, hnodup⟩, hchildren⟩ := h
  exact ⟨plainTag_of_mem (List.contains_iff_mem.mp htag),
    fun e he => List.contains_iff_mem.mp (hnames e he), hnodup, hchildren⟩

theorem perm_sortAttributes (attributes : List (Text × Text)) :
    (sortAttributes attributes).Perm attributes := List.mergeSort_perm _ _

theorem Composed.writable {tag : Text} {attributes : List (Text × Text)} {children : List Item}
    (h : Composed tag attributes children) :
    Writable tag attributes (sortAttributes attributes) := by
  constructor
  · intro e he
    exact isWord_of_mem (h.names e ((perm_sortAttributes attributes).mem_iff.mp he))
  · intro e he
    have hname := h.names e ((perm_sortAttributes attributes).mem_iff.mp he)
    rw [writtenValue, h.plain.noLists e.1 hname, if_neg Bool.false_ne_true, Charset.written,
      if_pos h.plain.notMeta]

theorem Composed.nodup_sorted {tag : Text} {attributes : List (Text × Text)}
    {children : List Item} (h : Composed tag attributes children) :
    ((sortAttributes attributes).map Prod.fst).Nodup :=
  (((perm_sortAttributes attributes).map Prod.fst).nodup_iff).mpr h.nodup

theorem print_element {tag : Text} (h : PlainTag tag) (attributes : List (Text × Text))
    (children : List Item) :
    print false (element tag attributes children) = .char '<' :: (tag ++
      ((sortAttributes attributes).flatMap (printAttribute tag attributes) ++
        .char '>' :: (printForest false children ++ endTag tag))) := by
  cases children with
  | nil => rw [print, h.notVoid, if_neg Bool.false_ne_true, printForest, List.nil_append]; rfl
  | cons child rest =>
    have hraw : holdsRawText tag = false := by rw [holdsRawText, h.notRaw]; rfl
    rw [print, hraw, printForest, List.append_assoc]
    rfl

/-- A forest that does not start with a text starts with a bracket, like what follows it. -/
theorem printForest_of_no_text {forest : List Item} (h : areComposed forest = true)
    (htext : startsWithText forest = false) (rest : Text) :
    ∃ more, printForest false forest ++ .char '<' :: rest = .char '<' :: more := by
  cases forest with
  | nil => exact ⟨rest, rfl⟩
  | cons item others =>
    simp only [areComposed, Bool.and_eq_true] at h
    obtain ⟨⟨hitem, -⟩, -⟩ := h
    cases item with
    | element tag attributes children =>
      rw [printForest, print_element (composed_of_isComposed hitem).plain]
      exact ⟨_, rfl⟩
    | text content => cases htext
    | cdata | comment | doctype | declaration | instruction => cases hitem

end Item

/-! ## Building -/

namespace Builder

theorem flush_of_no_pieces {b : Builder} (h : b.pieces = []) (kind : Text → Item) :
    b.flush kind = b := by
  rw [flush, h]

@[simp] theorem append_pieces (b : Builder) (item : Item) :
    (b.append item).pieces = b.pieces := rfl

@[simp] theorem append_closed (b : Builder) (item : Item) :
    (b.append item).closed = b.closed := rfl

@[simp] theorem flush_pieces (b : Builder) (kind : Text → Item) : (b.flush kind).pieces = [] := by
  unfold flush
  split
  · assumption
  · rfl

@[simp] theorem flush_closed (b : Builder) (kind : Text → Item) :
    (b.flush kind).closed = b.closed := by
  unfold flush
  split
  · rfl
  · rfl

/-- A settled text stays as it is, wherever it stands. -/
theorem squeeze_of_settled {content : Text} (h : Item.isSettled content = true)
    (hblank : content.all isAsciiBlank = true) : squeeze content = content := by
  simp only [Item.isSettled, hblank, Bool.not_true, Bool.false_or, Bool.and_eq_true,
    Bool.or_eq_true, beq_iff_eq] at h
  rcases h.2 with rfl | rfl <;> decide

theorem add_pieces (pieces : List Text) (b : Builder) :
    (pieces.map .text).foldl add b = { b with pieces := pieces.reverse ++ b.pieces } := by
  induction pieces generalizing b with
  | nil => rfl
  | cons piece rest ih => simp [ih, add]

/-- Pieces that are gathered in a row come out as one text, squeezed if it is made of blanks. -/
theorem flush_add_pieces_of_ne {pieces : List Text} {content : Text}
    (hpieces : pieces.flatten = content) (h : content ≠ []) {b : Builder} (hb : b.pieces = []) :
    ((pieces.map .text).foldl add b).flush .text = b.append (.text
      (if (content.all isAsciiBlank && !b.keepsBlanks) = true then squeeze content
        else content)) := by
  have hne : pieces.reverse ≠ [] := by
    intro he
    rw [List.reverse_eq_nil_iff.mp he] at hpieces
    exact h hpieces.symm
  obtain ⟨last, others, hrev⟩ := List.exists_cons_of_ne_nil hne
  have hjoined : (last :: others).reverse.flatten = content := by
    rw [← hrev, List.reverse_reverse, hpieces]
  rw [add_pieces, hb, List.append_nil, hrev, flush]
  simp only [hjoined]
  cases b
  cases hb
  rfl

/-- A settled text comes out as it is. -/
theorem flush_add_pieces {pieces : List Text} {content : Text} (hpieces : pieces.flatten = content)
    (h : Item.isSettled content = true) {b : Builder} (hb : b.pieces = []) :
    ((pieces.map .text).foldl add b).flush .text = b.append (.text content) := by
  have hne : content ≠ [] := by
    rintro rfl
    cases h
  rw [flush_add_pieces_of_ne hpieces hne hb]
  split
  · rename_i hblank
    rw [squeeze_of_settled h (Bool.and_eq_true_iff.mp hblank).1]
  · rfl

/-- Items that are put one after the other into the innermost open element. -/
theorem foldl_append_opened (items : List Item) (e : OpenElement) (outer : List OpenElement)
    {b : Builder} (h : b.opened = e :: outer) :
    items.foldl append b =
      { b with opened := { e with children := items.reverse ++ e.children } :: outer } := by
  induction items generalizing b e with
  | nil => cases b; cases h; rfl
  | cons item rest ih =>
    have happend : (b.append item).opened = { e with children := item :: e.children } :: outer := by
      rw [append, h]
      rfl
    rw [List.foldl_cons, ih _ happend]
    simp [append, h, attach]

/-- The end tag of the innermost open element closes that element. -/
theorem add_close {b : Builder} {e : OpenElement} {outer : List OpenElement}
    (hopened : (b.flush .text).opened = e :: outer) (hclosed : b.closed = []) :
    b.add (.close e.tag) = { b.flush .text with opened := outer }.append e.item := by
  have hany : ((b.flush .text).opened.any fun o => o.tag == e.tag) = true := by
    rw [hopened]
    simp
  rw [add, endTag, hclosed, List.contains_nil, if_neg Bool.false_ne_true, closeElement]
  rw [if_pos hany, hopened]
  rw [closeThrough]
  simp [append]

/-- What a start tag makes of what has been built before it. -/
def within (tag : Text) (attributes : List (Text × Text)) (b : Builder) : Builder :=
  { b.flush .text with opened := ⟨tag, attributes, []⟩ :: (b.flush .text).opened }

@[simp] theorem within_pieces (tag : Text) (attributes : List (Text × Text)) (b : Builder) :
    (b.within tag attributes).pieces = [] := flush_pieces b .text

@[simp] theorem within_closed (tag : Text) (attributes : List (Text × Text)) (b : Builder) :
    (b.within tag attributes).closed = b.closed := flush_closed b .text

/-- Tokens that put children into an open element build the element between its tags. -/
theorem add_element {tag : Text} {attributes : List (Text × Text)} {children : List Item}
    {tokens : List Token} (hvoid : isVoid tag = false) (hkeys : (attributes.map Prod.fst).Nodup)
    {b : Builder} (h : (tokens.foldl add (b.within tag attributes)).closed = [])
    (hflush : (tokens.foldl add (b.within tag attributes)).flush .text =
      children.foldl append (b.within tag attributes)) :
    (.start tag attributes :: (tokens ++ [.close tag])).foldl add b =
      (b.flush .text).append (.element tag attributes children) := by
  have hstart : b.add (.start tag attributes) = b.within tag attributes := by
    simp only [add, hvoid, Bool.false_eq_true, if_false, openElement]
    rw [Table.ofList_of_nodup hkeys]
    rfl
  rw [foldl_append_opened children ⟨tag, attributes, []⟩ (b.flush .text).opened rfl] at hflush
  have hopened : ((tokens.foldl add (b.within tag attributes)).flush .text).opened =
      ⟨tag, attributes, children.reverse ++ []⟩ :: (b.flush .text).opened := by rw [hflush]
  have hclose := add_close hopened h
  rw [List.foldl_cons, hstart, List.foldl_append, List.foldl_cons, List.foldl_nil, hclose, hflush]
  simp only [within, OpenElement.item, List.append_nil, List.reverse_reverse]

end Builder

/-! ## Elements and forests -/

/-- What is written for an element is scanned to tokens that build it, after the text before. -/
def Read (item : Item) : Prop :=
  ∃ tokens, (∀ rest, Token.Scanned (item.print false ++ rest) tokens rest) ∧
    ∀ b : Builder, b.closed = [] →
      tokens.foldl Builder.add b = (b.flush .text).append item.sorted

/-- What is written for a forest in front of a bracket is scanned to tokens that build it, as
soon as the text at its end is complete. -/
def ReadForest (forest : List Item) : Prop :=
  ∃ tokens, (∀ rest, Token.Scanned (Item.printForest false forest ++ .char '<' :: rest) tokens
      (.char '<' :: rest)) ∧
    ∀ b : Builder, b.closed = [] → (b.pieces = [] ∨ Item.startsWithText forest = false) →
      (tokens.foldl Builder.add b).closed = [] ∧
        (tokens.foldl Builder.add b).flush .text =
          (Item.sortedForest forest).foldl Builder.append (b.flush .text)

theorem readForest_nil : ReadForest [] := ⟨[], fun _ => .refl _, fun _ hclosed _ => ⟨hclosed, rfl⟩⟩

theorem readForest_text {content : Text} {rest : List Item} (h : Item.isSettled content = true)
    (hcomposed : Item.areComposed rest = true) (htext : Item.startsWithText rest = false)
    (hrest : ReadForest rest) : ReadForest (.text content :: rest) := by
  obtain ⟨tokens, hscanned, hbuilt⟩ := hrest
  obtain ⟨pieces, hpieces, hpart⟩ := Token.scanned_escape content
  refine ⟨pieces.map .text ++ tokens, ?_, ?_⟩
  · intro last
    obtain ⟨more, hmore⟩ := Item.printForest_of_no_text hcomposed htext last
    have hlast := hscanned last
    rw [Item.printForest, Item.print, if_neg Bool.false_ne_true, List.append_assoc]
    rw [hmore] at hlast ⊢
    exact (hpart more).trans hlast
  · intro b hclosed hbefore
    have hb : b.pieces = [] := by
      rcases hbefore with hb | hb
      · exact hb
      · cases hb
    obtain ⟨hclosed', hflush⟩ := hbuilt ((pieces.map .text).foldl Builder.add b)
      (by rw [Builder.add_pieces]; exact hclosed) (.inr htext)
    rw [List.foldl_append]
    refine ⟨hclosed', ?_⟩
    rw [hflush, Builder.flush_add_pieces hpieces h hb, Builder.flush_of_no_pieces hb]
    rfl

theorem readForest_element {tag : Text} {attributes : List (Text × Text)}
    {children rest : List Item}
    (h : Read (.element tag attributes children)) (hrest : ReadForest rest) :
    ReadForest (.element tag attributes children :: rest) := by
  obtain ⟨tokens, hscanned, hbuilt⟩ := h
  obtain ⟨more, hmore, hothers⟩ := hrest
  refine ⟨tokens ++ more, ?_, ?_⟩
  · intro last
    rw [Item.printForest, List.append_assoc]
    exact (hscanned _).trans (hmore last)
  · intro b hclosed _
    have hb := hbuilt b hclosed
    rw [List.foldl_append, hb]
    obtain ⟨hclosed', hflush⟩ := hothers ((b.flush .text).append _) (by simpa using hclosed)
      (.inl (by simp))
    refine ⟨hclosed', ?_⟩
    rw [hflush, Builder.flush_of_no_pieces (by simp)]
    rfl

/-- The tokens of an element are those of its children between two tags. -/
theorem scanned_element {tag : Text} {attributes : List (Text × Text)} (hplain : Item.PlainTag tag)
    (hwritable : Writable tag attributes (Item.sortAttributes attributes)) {children : List Item}
    {tokens : List Token}
    (h : ∀ rest, Token.Scanned (Item.printForest false children ++ .char '<' :: rest) tokens
      (.char '<' :: rest)) (rest : Text) :
    Token.Scanned ((Item.element tag attributes children).print false ++ rest)
      (.start tag (Item.sortAttributes attributes) :: (tokens ++ [.close tag])) rest := by
  have hstart := Token.scanned_start hplain.word hplain.notRaw hwritable
    (Item.printForest false children ++ (Item.endTag tag ++ rest))
  have hmiddle := h (.char '/' :: (tag ++ .char '>' :: rest))
  have hend := Token.scanned_end hplain.word rest
  have hbracket : Item.endTag tag ++ rest =
      .char '<' :: .char '/' :: (tag ++ .char '>' :: rest) := by
    simp [Item.endTag]
  rw [← hbracket] at hmiddle
  rw [Item.print_element hplain]
  simpa using (hstart.trans hmiddle).trans hend

theorem read_element {tag : Text} {attributes : List (Text × Text)} {children : List Item}
    (h : Item.Composed tag attributes children) (hchildren : ReadForest children) :
    Read (.element tag attributes children) := by
  obtain ⟨tokens, hscanned, hbuilt⟩ := hchildren
  refine ⟨.start tag (Item.sortAttributes attributes) :: (tokens ++ [.close tag]),
    scanned_element h.plain h.writable hscanned, fun b hclosed => ?_⟩
  have hpieces := Builder.within_pieces tag (Item.sortAttributes attributes) b
  obtain ⟨hinner, hflush⟩ := hbuilt (b.within tag (Item.sortAttributes attributes))
    (by rwa [Builder.within_closed]) (.inl hpieces)
  rw [Builder.flush_of_no_pieces hpieces] at hflush
  exact Builder.add_element h.plain.notVoid h.nodup_sorted hinner hflush

mutual

theorem read_of_composed : ∀ {tag : Text} {attributes : List (Text × Text)} (children : List Item),
    (Item.element tag attributes children).isComposed = true →
      Read (.element tag attributes children)
  | tag, attributes, children, h =>
    have hcomposed := Item.composed_of_isComposed h
    read_element hcomposed (readForest_of_composed children hcomposed.children)

theorem readForest_of_composed :
    ∀ forest : List Item, Item.areComposed forest = true → ReadForest forest
  | [], _ => readForest_nil
  | .element tag attributes children :: rest, h => by
    simp only [Item.areComposed, Bool.and_eq_true] at h
    exact readForest_element (read_of_composed children h.1.1) (readForest_of_composed rest h.2)
  | .text content :: rest, h => by
    simp only [Item.areComposed, Item.isComposed, Item.isText, Bool.and_eq_true, Bool.true_and,
      Bool.not_eq_true'] at h
    exact readForest_text h.1.1 h.2 h.1.2 (readForest_of_composed rest h.2)

end

/-- A text with a bracket, the tokens of which build an item, is read to that item. -/
theorem readTree_of_scanned {s : Text} {item : Item} {tokens : List Token}
    (hbracket : .char '<' ∈ s) (hscanned : Token.Scanned s tokens [])
    (hbuilt : tokens.foldl Builder.add {} = ({} : Builder).append item) :
    readTree s = .ok [item] := by
  have hpath : mayBePath s = false := by simp [mayBePath, hbracket]
  have htree : treeOfTokens tokens = [item] := by
    rw [treeOfTokens, hbuilt]
    simp [Builder.finish, Builder.flush, Builder.append, Builder.attach, Builder.closeAll]
  rw [readTree, hpath, Token.ofText_of_scanned hscanned]
  cases Utf8.encode s with
  | error cause => exact congrArg Except.ok htree
  | ok bytes => exact congrArg Except.ok htree

/-- A composed element comes back from its markup, and nothing else with it. -/
theorem readTree_toMarkup {tag : Text} {attributes : List (Text × Text)} {children : List Item}
    (h : (Item.element tag attributes children).isComposed = true) :
    readTree (Item.element tag attributes children).toMarkup =
      .ok [(Item.element tag attributes children).sorted] := by
  obtain ⟨tokens, hscanned, hbuilt⟩ := read_of_composed children h
  refine readTree_of_scanned ?_ (by simpa [Item.toMarkup] using hscanned []) (hbuilt {} rfl)
  rw [Item.toMarkup, Item.print_element (Item.composed_of_isComposed h).plain]
  exact List.mem_cons_self

end FlatBlocks.Markup
