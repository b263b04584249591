import FlatBlocks.Markup.Token.Stream
import FlatBlocks.Markup.Worklist

/-! Building the tree of a document from its tokens. Pieces of text are gathered
until something else comes; elements stay open until an end tag closes them.
Nothing is implied: an element that no end tag closes holds all that follows. -/

namespace FlatBlocks.Markup
open FlatBlocks.Text

/-- The elements that have no content and no end tag. -/
def voidTags : List Text :=
  ["area", "base", "br", "col", "embed", "hr", "img", "input", "keygen", "link", "menuitem",
    "meta", "param", "source", "track", "wbr", "basefont", "bgsound", "command", "frame", "image",
    "isindex", "nextid", "spacer"]

def isVoid (tag : Text) : Bool := voidTags.contains tag

/-- An open element and its children so far, last one first. -/
structure OpenElement where
  tag : Text
  attributes : Table Text
  children : List Item

def OpenElement.item (e : OpenElement) : Item :=
  .element e.tag e.attributes e.children.reverse

/-- The finished top-level items, last one first; the open elements, innermost
first; the pieces of text that are still to be joined, last one first; and the
void elements whose end tags are still to be overlooked. -/
structure Builder where
  roots : List Item := []
  opened : List OpenElement := []
  pieces : List Text := []
  closed : List Text := []

namespace Builder

/-- Put an item where the innermost open element is. -/
def attach (item : Item) (roots : List Item) : List OpenElement → List Item × List OpenElement
  | [] => (item :: roots, [])
  | e :: outer => (roots, { e with children := item :: e.children } :: outer)

def append (b : Builder) (item : Item) : Builder :=
  let (roots, opened) := attach item b.roots b.opened
  { b with roots, opened }

/-- Inside these elements blanks are kept as they are. -/
def keepsBlanks (b : Builder) : Bool :=
  b.opened.any fun e => e.tag == "pre" || e.tag == "textarea"

/-- A text of blanks alone counts as one line feed, or one space. -/
def squeeze (content : Text) : Text := if content.contains '\n' then "\n" else " "

/-- Join the gathered pieces to an item of a kind. -/
def flush (kind : Text → Item) (b : Builder) : Builder :=
  match b.pieces with
  | [] => b
  | pieces =>
    let content := pieces.reverse.flatten
    let content :=
      if content.all isAsciiBlank && !b.keepsBlanks then squeeze content else content
    { b with pieces := [] }.append (kind content)

/-- A string of a kind of its own, which ends the text before it. -/
def addSpecial (kind : Text → Item) (content : Text) (b : Builder) : Builder :=
  { b.flush .text with pieces := [content] }.flush kind

def openElement (tag : Text) (attributes : List (Text × Text)) (b : Builder) : Builder :=
  let b := b.flush .text
  { b with opened := ⟨tag, Table.ofList attributes, []⟩ :: b.opened }

theorem attach_length (item : Item) (roots : List Item) (opened : List OpenElement) :
    (attach item roots opened).2.length = opened.length := by
  cases opened <;> simp [attach]

/-- Close elements from the innermost on, up to and with the first of a tag. -/
def closeThrough (tag : Text) (roots : List Item) (opened : List OpenElement) :
    List Item × List OpenElement :=
  match opened with
  | [] => (roots, [])
  | e :: outer =>
    let outside := attach e.item roots outer
    if e.tag = tag then outside else closeThrough tag outside.1 outside.2
termination_by opened.length
decreasing_by simp [attach_length]

/-- An end tag; without an open element of its name it only ends the text. -/
def closeElement (tag : Text) (b : Builder) : Builder :=
  let b := b.flush .text
  if b.opened.any fun e => e.tag == tag then
    let (roots, opened) := closeThrough tag b.roots b.opened
    { b with roots, opened }
  else b

/-- An end tag in the source; once for each void element that was opened, its
end tag is overlooked. -/
def endTag (tag : Text) (b : Builder) : Builder :=
  if b.closed.contains tag then { b with closed := b.closed.erase tag } else b.closeElement tag

def add (b : Builder) : Token → Builder
  | .text content => { b with pieces := content :: b.pieces }
  | .start tag attributes =>
    let b := b.openElement tag attributes
    if isVoid tag then
      let b := b.closeElement tag
      { b with closed := tag :: b.closed }
    else b
  | .selfClosing tag attributes => (b.openElement tag attributes).endTag tag
  | .close tag => b.endTag tag
  | .comment content => b.addSpecial .comment content
  | .cdata content => b.addSpecial .cdata content
  | .doctype content => b.addSpecial .doctype content
  | .declaration content => b.addSpecial .declaration content
  | .instruction content => b.addSpecial .instruction content

def closeAll (roots : List Item) (opened : List OpenElement) : List Item :=
  match opened with
  | [] => roots
  | e :: outer =>
    let outside := attach e.item roots outer
    closeAll outside.1 outside.2
termination_by opened.length
decreasing_by simp [attach_length]

/-- The end of the document closes everything. -/
def finish (b : Builder) : List Item :=
  let b := b.flush .text
  (closeAll b.roots b.opened).reverse

end Builder

/-- The tree that a list of tokens builds. -/
def treeOfTokens (tokens : List Token) : List Item := (tokens.foldl Builder.add {}).finish

/-- Whether a text looks like the address of a document. -/
def isAddress (markup : Text) : Bool :=
  ((after? "http:" markup).isSome || (after? "https:" markup).isSome) && !markup.contains ' '

/-- Whether a text is short and plain enough to be a path instead of markup. -/
def mayBePath (markup : Text) : Bool :=
  markup.length ≤ 256 && !markup.contains '<' && !markup.contains '\n' && !isAddress markup

/-- The full tree of a markup text. What may be a path has to have a UTF-8 form. -/
def readTree (markup : Text) : Except Rejection (List Item) :=
  match mayBePath markup, Utf8.encode markup with
  | true, .error cause => .error (.unencodable cause)
  | _, _ => (Token.ofText markup).map treeOfTokens

/-- The nodes of a markup text. Unbalanced or unknown markup is no error. -/
def parse (markup : Text) : Except Rejection (List Node) := (readTree markup).map Item.nodes

end FlatBlocks.Markup
