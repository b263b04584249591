import FlatBlocks.Markup.Charset
import FlatBlocks.Markup.Tree

/-! Items as markup. Attributes come in the order of their names, values are
quoted with the quote that needs no escape if there is one, and strings that are
no content are written back as they were read. Nothing is indented. -/

namespace FlatBlocks.Markup.Item
open FlatBlocks.Text

def escapePoint (c : CodePoint) : Text :=
  if c = '&' then "&amp;"
  else if c = '<' then "&lt;"
  else if c = '>' then "&gt;"
  else [c]

def escape (content : Text) : Text := content.flatMap escapePoint

/-- An escape for the quote of a value that holds both kinds of quotes. -/
def escapeQuote (c : CodePoint) : Text := if c = '"' then "&quot;" else [c]

def printValue (value : Text) : Text :=
  let escaped := escape value
  if value.contains '"' then
    if value.contains '\'' then '"' :: (escaped.flatMap escapeQuote ++ [.char '"'])
    else '\'' :: (escaped ++ [.char '\''])
  else '"' :: (escaped ++ [.char '"'])

/-- The attributes of any element that hold lists of words. -/
def wordLists : List Text := ["class", "accesskey", "dropzone"]

/-- The attributes of single elements that hold lists of words. -/
def ownWordLists : List (Text × Text) :=
  [("a", "rel"), ("a", "rev"), ("link", "rel"), ("link", "rev"), ("td", "headers"),
    ("th", "headers"), ("form", "accept-charset"), ("object", "archive"), ("area", "rel"),
    ("icon", "sizes"), ("iframe", "sandbox"), ("output", "for")]

def isWordList (tag name : Text) : Bool :=
  wordLists.contains name || ownWordLists.contains (tag, name)

/-- The words of a value, given the word that is being read, last code point first. -/
def wordsFrom (word : Text) : Text → List Text
  | [] => if word.isEmpty then [] else [word.reverse]
  | c :: rest =>
    if isBlank c then
      if word.isEmpty then wordsFrom [] rest else word.reverse :: wordsFrom [] rest
    else wordsFrom (c :: word) rest

/-- The value under which an attribute is written; the words of a list stand one
space apart. -/
def writtenValue (tag : Text) (attributes : Table Text) (name value : Text) : Text :=
  if isWordList tag name then List.intercalate " " (wordsFrom [] value)
  else Charset.written tag attributes name value

def printAttribute (tag : Text) (attributes : Table Text) (entry : Text × Text) : Text :=
  ' ' :: (entry.1 ++
    (.char '=' :: printValue (writtenValue tag attributes entry.1 entry.2)))

def sortAttributes (attributes : List (Text × Text)) : List (Text × Text) :=
  attributes.mergeSort fun a b => precedes a.1 b.1

def printAttributes (tag : Text) (attributes : List (Text × Text)) : Text :=
  (sortAttributes attributes).flatMap (printAttribute tag attributes)

/-- Inside these elements text is written as it is. -/
def holdsRawText (tag : Text) : Bool := (RawElement.ofTag? tag).isSome

def endTag (tag : Text) : Text := '<' :: .char '/' :: (tag ++ [.char '>'])

mutual

/-- The markup of an item, given whether it stands where text is raw. -/
def print (raw : Bool) : Item → Text
  | element tag attributes [] =>
    '<' :: (tag ++ (printAttributes tag attributes ++
      (if isVoid tag then ("/>" : Text) else .char '>' :: endTag tag)))
  | element tag attributes (child :: children) =>
    '<' :: (tag ++ (printAttributes tag attributes ++
      (.char '>' :: (print (holdsRawText tag) child ++
        (printForest (holdsRawText tag) children ++ endTag tag)))))
  | text content => if raw then content else escape content
  | cdata content => "<![CDATA[" ++ (content ++ "]]>")
  | comment content => "<!--" ++ (content ++ "-->")
  | doctype content => "<!DOCTYPE " ++ (content ++ ">\n")
  | declaration content => "<?" ++ (content ++ "?>")
  | instruction content => "<?" ++ (content ++ ">")

def printForest (raw : Bool) : List Item → Text
  | [] => []
  | item :: rest => print raw item ++ printForest raw rest

end

/-- The markup of an item that stands by itself. -/
def toMarkup (item : Item) : Text := item.print false

end FlatBlocks.Markup.Item
