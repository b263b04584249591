import FlatBlocks.Table
import FlatBlocks.Text.Lower
import FlatBlocks.Text.Quoted

/-! Nodes of a markup tree. A node with a tag is an element; parsed text has a
text and no tag, but nothing keeps a node from having both or neither. -/

namespace FlatBlocks.Markup
open FlatBlocks.Text

structure Node where
  tag : Option Text := none
  attributes : Table Text := []
  children : List Node := []
  text : Option Text := none

instance : Inhabited Node := ⟨{}⟩

namespace Node

def element (tag : Text) (attributes : Table Text) (children : List Node) : Node :=
  { tag := some tag, attributes, children }

def ofText (text : Text) : Node := { text := some text }

def isElement (node : Node) : Bool := node.tag.isSome

/-- The tag in small letters equals the given one. -/
def hasTag (node : Node) (tag : Text) : Bool := node.tag.map lower == some tag

/-- The tag in small letters, and no text at all for a node without a tag. -/
def lowerTag (node : Node) : Text := lower (node.tag.getD "")

def get? (node : Node) (name : Text) : Option Text := node.attributes.get? name

def elementChildren (node : Node) : List Node := node.children.filter isElement

/-- The refusal to read a node as text, with the tag of that node. -/
structure NotText where
  tag : Option Text
  deriving DecidableEq, Repr

def NotText.message (e : NotText) : Text :=
  "<" ++ e.tag.getD "None" ++ "> is an element, not a text node"

/-- The text of a node that has a text and no tag. -/
def textContent (node : Node) : Except NotText Text :=
  match node.tag, node.text with
  | none, some text => .ok text
  | tag, _ => .error ⟨tag⟩

def describeAttribute (entry : Text × Text) : Text := quoted entry.1 ++ ": " ++ quoted entry.2

def describeAttributes (attributes : Table Text) : Text :=
  "\x7b" ++ List.intercalate ", " (attributes.map describeAttribute) ++ "\x7d"

/-- A one-line summary for people who debug. -/
def describe (node : Node) : Text :=
  match node.tag with
  | none => "MarkupNode(text=" ++ (node.text.map quoted).getD "None" ++ ")"
  | some tag =>
    "MarkupNode(<" ++ tag ++ "> " ++ describeAttributes node.attributes ++ ", " ++
      toString node.children.length ++ " children)"

theorem isElement_of_hasTag {node : Node} {tag : Text} (h : node.hasTag tag = true) :
    node.isElement = true := by
  unfold hasTag at h
  cases ht : node.tag <;> simp_all [isElement]

theorem sizeOf_lt_of_mem_children {node child : Node} (h : child ∈ node.children) :
    sizeOf child < sizeOf node := by
  have := List.sizeOf_lt_of_mem h
  cases node
  simp only [Node.mk.sizeOf_spec] at this ⊢
  omega

end Node

end FlatBlocks.Markup
