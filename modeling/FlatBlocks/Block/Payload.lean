import FlatBlocks.Block.Record
import FlatBlocks.Json.Value

/-! Records as JSON objects: the form in which the runtime takes them. Reading one
back checks its shape, but not what stands where texts are due. -/

namespace FlatBlocks.Block

def Link.toJson (link : Link Json) : Json := .obj [("name", link.name), ("block", link.block)]

def Field.toJson (field : Field Json) : Json := .obj [("name", field.name), ("value", field.value)]

def Record.toJson (r : Record Json) : Json :=
  .obj [("id", r.id), ("opcode", r.opcode),
    ("inputs", .obj (r.inputs.map fun e => (e.1, e.2.toJson))),
    ("fields", .obj (r.fields.map fun e => (e.1, e.2.toJson))),
    ("next", r.next.getD .null),
    ("topLevel", .bool r.topLevel)]

/-- A record of texts as one of JSON values. -/
def Record.loose (r : Record Text) : Record Json := r.map .str

def payload (records : List (Record Text)) : Json := .arr (records.map fun r => r.loose.toJson)

/-- Why a JSON value is no record. -/
inductive Misfit where
  | missingKey (key : Text)
  /-- The record, its inputs or its fields are no object. -/
  | notTable
  /-- An input or a field is no object. -/
  | notEntry
  deriving DecidableEq, Repr

def valueAt (data : Json) (key : Text) : Except Misfit Json :=
  match data.get? key with
  | none => .error (.missingKey key)
  | some value => .ok value

/-- Read an entry of a name and a second value. -/
def readEntry (second : Text) : Json → Except Misfit (Json × Json)
  | .obj entries => do
    let name ← valueAt (.obj entries) "name"
    let other ← valueAt (.obj entries) second
    .ok (name, other)
  | _ => .error .notEntry

def readEntries (second : Text) : List (Text × Json) → Except Misfit (Table (Json × Json))
  | [] => .ok []
  | (key, entry) :: rest => do
    let read ← readEntry second entry
    let others ← readEntries second rest
    .ok ((key, read) :: others)

/-- A table of entries; a missing one is empty. -/
def readTable (data : Json) (key second : Text) : Except Misfit (Table (Json × Json)) :=
  match data.get? key with
  | none => .ok []
  | some (.obj entries) => readEntries second entries
  | some _ => .error .notTable

/-- The id of the next block, unless there is none. -/
def nextOf (data : Json) : Option Json :=
  match data.get? "next" with
  | some .null => none
  | next => next

/-- Read a record: the id, the opcode, the inputs and the fields in this order. -/
def Record.ofJson : Json → Except Misfit (Record Json)
  | .obj entries => do
    let data := Json.obj entries
    let id ← valueAt data "id"
    let opcode ← valueAt data "opcode"
    let inputs ← readTable data "inputs" "block"
    let fields ← readTable data "fields" "value"
    .ok { id, opcode
          next := nextOf data
          inputs := inputs.map fun e => (e.1, ⟨e.2.1, e.2.2⟩)
          fields := fields.map fun e => (e.1, ⟨e.2.1, e.2.2⟩)
          topLevel := ((data.get? "topLevel").map fun v => !v.isEmpty).getD false }
  | _ => .error .notTable

end FlatBlocks.Block
