import FlatBlocks.Proofs.Markup.Nodes
import FlatBlocks.Proofs.Markup.Whole.Token

/-! # Whole texts and their nodes

In the nodes of a whole text all tags, attributes and texts are whole. While the tree is
built this holds of the finished items, of the open elements and of the gathered pieces. -/

namespace FlatBlocks.Markup
open FlatBlocks.Text

/-- A tree of nodes that say nothing but characters. -/
inductive Node.Whole : Node → Prop
  | intro {node : Node} (tag : ∀ t ∈ node.tag, Text.Whole t)
      (attributes : WholeEntries node.attributes) (text : ∀ t ∈ node.text, Text.Whole t)
      (children : ∀ child ∈ node.children, Node.Whole child) : Node.Whole node

namespace Node.Whole

theorem attributes {node : Node} (h : node.Whole) : WholeEntries node.attributes := by
  cases h with
  | intro _ attributes _ _ => exact attributes

theorem text {node : Node} (h : node.Whole) : ∀ t ∈ node.text, Text.Whole t := by
  cases h with
  | intro _ _ text _ => exact text

theorem child {node child : Node} (h : node.Whole) (hc : child ∈ node.children) :
    child.Whole := by
  cases h with
  | intro _ _ _ children => exact children child hc

theorem element {tag : Text} {attributes : Table Text} {children : List Node}
    (htag : Text.Whole tag) (hattributes : WholeEntries attributes)
    (h : ∀ child ∈ children, child.Whole) : (Node.element tag attributes children).Whole :=
  .intro (by rintro _ ⟨⟩; exact htag) hattributes (by rintro _ ⟨⟩) h

theorem ofText {text : Text} (h : Text.Whole text) : (Node.ofText text).Whole :=
  .intro (by rintro _ ⟨⟩) (fun _ he => by cases he) (by rintro _ ⟨⟩; exact h)
    (fun _ hc => by cases hc)

end Node.Whole

namespace Item

/-- An item whose nodes say nothing but characters. -/
def Whole (item : Item) : Prop := ∀ node ∈ item.toNodes, node.Whole

def AllWhole (items : List Item) : Prop := ∀ item ∈ items, item.Whole

theorem allWhole_nil : AllWhole [] := List.forall_mem_nil _

theorem AllWhole.cons {item : Item} {items : List Item} (hitem : item.Whole)
    (h : AllWhole items) : AllWhole (item :: items) := List.forall_mem_cons.mpr ⟨hitem, h⟩

theorem AllWhole.reverse {items : List Item} (h : AllWhole items) : AllWhole items.reverse :=
  fun item hm => h item (List.mem_reverse.mp hm)

theorem AllWhole.forestToNodes {items : List Item} (h : AllWhole items) :
    ∀ node ∈ Item.forestToNodes items, node.Whole := by
  induction items with
  | nil => exact List.forall_mem_nil _
  | cons item rest ih =>
    obtain ⟨hitem, hrest⟩ := List.forall_mem_cons.mp h
    intro node hm
    rcases List.mem_append.mp hm with hm | hm
    · exact hitem node hm
    · exact ih hrest node hm

/-- A kind of strings that is made of whole texts. -/
def WholeKind (kind : Text → Item) : Prop := ∀ content, Text.Whole content → (kind content).Whole

theorem wholeKind_of_text {kind : Text → Item}
    (h : ∀ content, (kind content).toNodes = [.ofText content]) : WholeKind kind := by
  intro content hcontent node hm
  rw [h] at hm
  exact List.mem_singleton.mp hm ▸ .ofText hcontent

/-- Strings that are no content come to no node. -/
theorem wholeKind_of_no_node {kind : Text → Item} (h : ∀ content, (kind content).toNodes = []) :
    WholeKind kind := by
  intro content _ node hm
  rw [h] at hm
  cases hm

theorem wholeKind_text : WholeKind .text := wholeKind_of_text fun _ => rfl

end Item

/-! ## Building -/

structure OpenElement.Whole (e : OpenElement) : Prop where
  tag : Text.Whole e.tag
  attributes : WholeEntries e.attributes
  children : Item.AllWhole e.children

def AllOpen (opened : List OpenElement) : Prop := ∀ e ∈ opened, e.Whole

theorem OpenElement.Whole.item {e : OpenElement} (h : e.Whole) : e.item.Whole := by
  intro node hm
  have hnode := List.mem_singleton.mp hm
  rw [hnode]
  exact .element h.tag h.attributes h.children.reverse.forestToNodes

/-- All that a builder holds and that may come to a node is whole. -/
structure Builder.Whole (b : Builder) : Prop where
  roots : Item.AllWhole b.roots
  opened : AllOpen b.opened
  pieces : ∀ t ∈ b.pieces, Text.Whole t

namespace Builder

theorem whole_empty : Builder.Whole {} :=
  ⟨Item.allWhole_nil, List.forall_mem_nil _, List.forall_mem_nil _⟩

theorem whole_attach {item : Item} {roots : List Item} {opened : List OpenElement}
    (hitem : item.Whole) (hroots : Item.AllWhole roots) (hopened : AllOpen opened) :
    Item.AllWhole (attach item roots opened).1 ∧ AllOpen (attach item roots opened).2 := by
  cases opened with
  | nil => exact ⟨hroots.cons hitem, hopened⟩
  | cons e outer =>
    obtain ⟨he, houter⟩ := List.forall_mem_cons.mp hopened
    exact ⟨hroots, List.forall_mem_cons.mpr
      ⟨⟨he.tag, he.attributes, he.children.cons hitem⟩, houter⟩⟩

variable {b : Builder}

theorem Whole.append (h : b.Whole) {item : Item} (hitem : item.Whole) : (b.append item).Whole :=
  have hattach := whole_attach hitem h.roots h.opened
  ⟨hattach.1, hattach.2, h.pieces⟩

theorem whole_squeeze (content : Text) : Text.Whole (squeeze content) := by
  unfold squeeze
  split <;> exact whole_ofString _

theorem Whole.flush (h : b.Whole) {kind : Text → Item} (hkind : Item.WholeKind kind) :
    (b.flush kind).Whole := by
  unfold Builder.flush
  split
  · exact h
  · have hcontent : Text.Whole b.pieces.reverse.flatten :=
      whole_flatten fun t ht => h.pieces t (List.mem_reverse.mp ht)
    have hemptied : ({ b with pieces := [] } : Builder).Whole :=
      ⟨h.roots, h.opened, List.forall_mem_nil _⟩
    refine hemptied.append (hkind _ ?_)
    split
    · exact whole_squeeze _
    · exact hcontent

theorem Whole.addSpecial (h : b.Whole) {kind : Text → Item} (hkind : Item.WholeKind kind)
    {content : Text} (hcontent : Text.Whole content) : (b.addSpecial kind content).Whole := by
  have hflush := h.flush Item.wholeKind_text
  have hpiece : ({ b.flush .text with pieces := [content] } : Builder).Whole :=
    ⟨hflush.roots, hflush.opened, List.forall_mem_singleton.mpr hcontent⟩
  exact hpiece.flush hkind

theorem wholeEntries_ofList {attributes : List (Text × Text)} (h : WholeEntries attributes) :
    WholeEntries (Table.ofList attributes) := by
  intro e he
  rcases Table.mem_of_mem_merge (t := []) he with he | he
  · cases he
  · exact h e he

theorem Whole.openElement (h : b.Whole) {tag : Text} {attributes : List (Text × Text)}
    (htag : Text.Whole tag) (hattributes : WholeEntries attributes) :
    (b.openElement tag attributes).Whole := by
  have hflush := h.flush Item.wholeKind_text
  exact ⟨hflush.roots, List.forall_mem_cons.mpr
    ⟨⟨htag, wholeEntries_ofList hattributes, Item.allWhole_nil⟩, hflush.opened⟩, hflush.pieces⟩

theorem whole_closeThrough (tag : Text) {roots : List Item} {opened : List OpenElement}
    (hroots : Item.AllWhole roots) (hopened : AllOpen opened) :
    Item.AllWhole (closeThrough tag roots opened).1 ∧
      AllOpen (closeThrough tag roots opened).2 := by
  fun_induction closeThrough tag roots opened with
  | case1 roots => exact ⟨hroots, hopened⟩
  | case2 roots e outer outside _ =>
    obtain ⟨he, houter⟩ := List.forall_mem_cons.mp hopened
    exact whole_attach he.item hroots houter
  | case3 roots e outer outside _ ih =>
    obtain ⟨he, houter⟩ := List.forall_mem_cons.mp hopened
    obtain ⟨hroots, hopened⟩ := whole_attach he.item hroots houter
    exact ih hroots hopened

theorem Whole.closeElement (h : b.Whole) (tag : Text) : (b.closeElement tag).Whole := by
  have hflush := h.flush Item.wholeKind_text
  unfold Builder.closeElement
  simp only
  split
  · have hclosed := whole_closeThrough tag hflush.roots hflush.opened
    exact ⟨hclosed.1, hclosed.2, hflush.pieces⟩
  · exact hflush

theorem Whole.endTag (h : b.Whole) (tag : Text) : (b.endTag tag).Whole := by
  unfold Builder.endTag
  split
  · exact ⟨h.roots, h.opened, h.pieces⟩
  · exact h.closeElement tag

theorem Whole.add (h : b.Whole) {token : Token} (htoken : token.Whole) : (b.add token).Whole := by
  cases token with
  | text content => exact ⟨h.roots, h.opened, List.forall_mem_cons.mpr ⟨htoken, h.pieces⟩⟩
  | start tag attributes =>
    have hopen := h.openElement htoken.1 htoken.2
    unfold Builder.add
    simp only
    split
    · have hclosed := hopen.closeElement tag
      exact ⟨hclosed.roots, hclosed.opened, hclosed.pieces⟩
    · exact hopen
  | selfClosing tag attributes => exact (h.openElement htoken.1 htoken.2).endTag tag
  | close tag => exact h.endTag tag
  | comment content => exact h.addSpecial (Item.wholeKind_of_no_node fun _ => rfl) htoken
  | cdata content => exact h.addSpecial (Item.wholeKind_of_text fun _ => rfl) htoken
  | doctype content => exact h.addSpecial (Item.wholeKind_of_no_node fun _ => rfl) htoken
  | declaration content => exact h.addSpecial (Item.wholeKind_of_no_node fun _ => rfl) htoken
  | instruction content => exact h.addSpecial (Item.wholeKind_of_no_node fun _ => rfl) htoken

theorem whole_closeAll {roots : List Item} {opened : List OpenElement}
    (hroots : Item.AllWhole roots) (hopened : AllOpen opened) :
    Item.AllWhole (closeAll roots opened) := by
  fun_induction closeAll roots opened with
  | case1 roots => exact hroots
  | case2 roots e outer outside ih =>
    obtain ⟨he, houter⟩ := List.forall_mem_cons.mp hopened
    obtain ⟨hroots, hopened⟩ := whole_attach he.item hroots houter
    exact ih hroots hopened

theorem Whole.finish (h : b.Whole) : Item.AllWhole b.finish :=
  have hflush := h.flush Item.wholeKind_text
  (whole_closeAll hflush.roots hflush.opened).reverse

end Builder

theorem whole_treeOfTokens {tokens : List Token} (h : Token.AllWhole tokens) :
    Item.AllWhole (treeOfTokens tokens) := by
  have hfold : ∀ b : Builder, b.Whole → (tokens.foldl Builder.add b).Whole := by
    induction tokens with
    | nil => exact fun b hb => hb
    | cons token rest ih =>
      obtain ⟨htoken, hrest⟩ := List.forall_mem_cons.mp h
      exact fun b hb => ih hrest _ (hb.add htoken)
  exact (hfold {} Builder.whole_empty).finish

/-- The nodes of a whole text say nothing but characters. -/
theorem whole_of_parse {markup : Text} {nodes : List Node} (hmarkup : Whole markup)
    (h : parse markup = .ok nodes) : ∀ node ∈ nodes, node.Whole := by
  have htree : readTree markup = (Token.ofText markup).map treeOfTokens := by
    unfold readTree
    rw [Utf8.encode_eq hmarkup]
    cases mayBePath markup <;> rfl
  unfold parse at h
  rw [htree] at h
  cases htokens : Token.ofText markup with
  | error cause => rw [htokens] at h; cases h
  | ok tokens =>
    rw [htokens] at h
    cases h
    rw [Item.nodes_eq_forestToNodes]
    exact (whole_treeOfTokens (Token.whole_ofText hmarkup htokens)).forestToNodes

end FlatBlocks.Markup
