import FlatBlocks.Files.Tree
import FlatBlocks.Json.Reader

/-! Reading texts, JSON values and lists of events from files. -/

namespace FlatBlocks.Files
open FlatBlocks.Text

inductive LoadError where
  | unreadable (error : PathError)
  /-- There is nothing where events were asked for. -/
  | noEvents (path : Text)
  | encoding (fault : Utf8.Fault)
  | json (error : Json.SyntaxError)
  /-- The value is no list of events. -/
  | notEvents (path : Text)
  deriving DecidableEq, Repr

def LoadError.message : LoadError → Text
  | unreadable error => error.message
  | noEvents path => path
  | encoding fault => fault.message
  | json error => error.message
  | notEvents path => path ++ ": expected a list of events"

/-- What a path leads to, as far as loading is concerned. -/
structure Source where
  exists? : Bool
  content : Except PathError Bytes

def Tree.source (tree : Tree) (path : Text) : Source := ⟨tree.exists? path, tree.read path⟩

/-- The text of a file, with its line ends unified. -/
def Source.text (source : Source) : Except LoadError Text :=
  match source.content with
  | .error e => .error (.unreadable e)
  | .ok bytes =>
    match Utf8.decode bytes with
    | .error fault => .error (.encoding fault)
    | .ok text => .ok (Utf8.unifyLines text)

/-- The JSON value in a file, or the default if there is no file. -/
def Source.json (source : Source) (default : Json) : Except LoadError Json :=
  if source.exists? then
    match source.text with
    | .error e => .error e
    | .ok text => (Json.parse text).mapError .json
  else .ok default

/-- The list of events in a file, which may stand under a key of its own. -/
def Source.events (source : Source) (path : Text) : Except LoadError (List Json) :=
  if source.exists? then
    match source.json .null with
    | .error e => .error e
    | .ok value =>
      match (value.get? "events").getD value with
      | .arr events => .ok events
      | _ => .error (.notEvents path)
  else .error (.noEvents path)

end FlatBlocks.Files
