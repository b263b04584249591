import FlatBlocks.Json.Number
import FlatBlocks.Table

/-! JSON values. Objects keep the order of their keys; a number with a fraction
or an exponent, and the three numbers that are not finite, keep their spelling. -/

namespace FlatBlocks

inductive Json where
  | null
  | bool (value : Bool)
  | int (value : Int)
  | real (spelling : Text)
  | str (value : Text)
  | arr (items : List Json)
  | obj (entries : List (Text × Json))
  deriving Inhabited

namespace Json

/-- The value under a key of an object. -/
def get? : Json → Text → Option Json
  | obj entries, key => Table.get? entries key
  | _, _ => none

def str? : Json → Option Text
  | str s => some s
  | _ => none

/-- The value of a number; a truth value counts as one or zero. -/
def number? : Json → Option Number
  | bool value => some (.ofInt (if value then 1 else 0))
  | int n => some (.ofInt n)
  | real spelling => some (.ofSpelling spelling)
  | _ => none

/-- A number is empty if it is zero, a text or a collection if it has no items. -/
def isEmpty : Json → Bool
  | null => true
  | bool b => !b
  | int n => n == 0
  | real spelling => decide (Number.ofSpelling spelling = .finite 0)
  | str s => s.isEmpty
  | arr items => items.isEmpty
  | obj entries => entries.isEmpty

end Json

end FlatBlocks
