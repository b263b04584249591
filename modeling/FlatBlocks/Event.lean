import FlatBlocks.Block.Flatten
import FlatBlocks.Json.Value
import FlatBlocks.Markup.Print

/-! Events of a block editor. A create event is an object with the id of a block
and the markup of what was created; every other value is an event as well, of
which nothing follows. -/

namespace FlatBlocks

/-- Any value that may come as an event or inside one. Of numbers and bytes only
the kind matters. -/
inductive Event where
  | null
  | flag (value : Bool)
  | number
  | bytes
  | text (value : Text)
  | list (items : List Event)
  | object (entries : List (Text × Event))
  /-- An element of a document that has been read already. -/
  | element (item : Markup.Item)
  deriving Inhabited

/-- Why a conversion fails: its markup is refused, or a block in it is at fault. -/
inductive Failure where
  | rejected (cause : Markup.Rejection)
  | fault (fault : Block.Fault)
  deriving DecidableEq, Repr

namespace Event
open Block (Record)

mutual

def ofJson : Json → Event
  | .null => null
  | .bool b => flag b
  | .int _ => number
  | .real _ => number
  | .str s => text s
  | .arr items => list (listOfJson items)
  | .obj entries => object (entriesOfJson entries)

def listOfJson : List Json → List Event
  | [] => []
  | item :: rest => ofJson item :: listOfJson rest

def entriesOfJson : List (Text × Json) → List (Text × Event)
  | [] => []
  | (key, value) :: rest => (key, ofJson value) :: entriesOfJson rest

end

/-- What an event holds under a name; an element holds the elements inside it. -/
def lookup? : Event → Text → Option Event
  | object entries, name => Table.get? entries name
  | element item, name => (item.findInside? name).map element
  | _, _ => none

def text? : Event → Option Text
  | text s => some s
  | _ => none

/-- Collections, objects and elements, but no plain values. -/
def isStructured : Event → Bool
  | list _ => true
  | object _ => true
  | element _ => true
  | _ => false

/-- The id of the block that an event is about. -/
def block? (event : Event) : Option Text := (event.lookup? "blockId").bind text?

def isCreate (event : Event) : Bool :=
  event.isStructured && event.block?.isSome &&
    ((event.lookup? "xml").map isStructured).getD false

/-- The markup that an event carries: that of an element, or a text that an
object keeps as its outer markup, or none. -/
def markup (event : Event) : Text :=
  match event.lookup? "xml" with
  | some (element item) => item.toMarkup
  | some xml => ((xml.lookup? "outerHTML").bind text?).getD ""
  | none => ""

/-- The records of the blocks that a markup text holds. -/
def flattenMarkup (markup : Text) : Except Failure (List (Record Text)) :=
  match Markup.parse markup with
  | .error cause => .error (.rejected cause)
  | .ok nodes => (Block.flatten nodes).mapError .fault

/-- The records that a create event brings; another event brings none. -/
def adapt (event : Event) : Except Failure (Option (List (Record Text))) :=
  if event.isCreate then (flattenMarkup event.markup).map some else .ok none

end Event

end FlatBlocks
