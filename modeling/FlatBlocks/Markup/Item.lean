import FlatBlocks.Markup.Node

/-! The full tree of a document, with everything that was read: elements, text,
and the strings that are no content. The tree of nodes keeps only the first two. -/

namespace FlatBlocks.Markup

inductive Item where
  | element (tag : Text) (attributes : List (Text × Text)) (children : List Item)
  | text (content : Text)
  | cdata (content : Text)
  | comment (content : Text)
  | doctype (content : Text)
  | declaration (content : Text)
  | instruction (content : Text)
  deriving Inhabited

namespace Item

mutual

/-- The nodes that an item gives: an element one, a text one, a comment none. -/
def toNodes : Item → List Node
  | element tag attributes children => [.element tag attributes (forestToNodes children)]
  | text content => [.ofText content]
  | cdata content => [.ofText content]
  | comment _ => []
  | doctype _ => []
  | declaration _ => []
  | instruction _ => []

def forestToNodes : List Item → List Node
  | [] => []
  | item :: rest => item.toNodes ++ forestToNodes rest

end

mutual

/-- The first element of a name, in document order. -/
def find? (tag : Text) : Item → Option Item
  | element name attributes children =>
    if name = tag then some (element name attributes children) else findIn? tag children
  | _ => none

def findIn? (tag : Text) : List Item → Option Item
  | [] => none
  | item :: rest =>
    match item.find? tag with
    | some found => some found
    | none => findIn? tag rest

end

/-- The first element of a name strictly inside an item. -/
def findInside? (tag : Text) : Item → Option Item
  | element _ _ children => findIn? tag children
  | _ => none

end Item

end FlatBlocks.Markup
