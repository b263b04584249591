import FlatBlocks.Block.Record

/-! The records of one conversion. A record is registered before its block is
read to the end and amended as the reading goes on, unless another block with
the same id has been registered since: that one then stays as it is. -/

namespace FlatBlocks.Block

/-- Each entry bears the number of its registration. -/
structure Registry where
  entries : Table (Nat × Record Text) := []
  registered : Nat := 0
  deriving Repr

namespace Registry

/-- Register a record under its id, in place of any earlier one. -/
def add (registry : Registry) (record : Record Text) : Registry :=
  { entries := registry.entries.put record.id (registry.registered, record)
    registered := registry.registered + 1 }

/-- Amend the record of a registration, if it is still in place. -/
def amend (registry : Registry) (number : Nat) (record : Record Text) : Registry :=
  match registry.entries.get? record.id with
  | some (n, _) =>
    if n = number then { registry with entries := registry.entries.put record.id (number, record) }
    else registry
  | none => registry

def table (registry : Registry) : Table (Record Text) := registry.entries.map fun e => (e.1, e.2.2)

/-- The records in the order in which their ids were first registered. -/
def records (registry : Registry) : List (Record Text) := registry.table.values

end Registry

end FlatBlocks.Block
