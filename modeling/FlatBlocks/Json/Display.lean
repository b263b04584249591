import FlatBlocks.Json.Value
import FlatBlocks.Text.Quoted

/-! JSON values as people read them inside a line of text. A text stands for
itself, but inside a collection it is quoted. -/

namespace FlatBlocks.Json
open FlatBlocks.Text

/-- The numbers that are not finite, as they are shown. -/
def infinite : Table Text := [("NaN", "nan"), ("Infinity", "inf"), ("-Infinity", "-inf")]

def displayReal (spelling : Text) : Text := (infinite.get? spelling).getD spelling

mutual

/-- A value inside a collection. -/
def displayInside : Json → Text
  | null => "None"
  | bool true => "True"
  | bool false => "False"
  | int n => toString n
  | real spelling => displayReal spelling
  | str s => quoted s
  | arr items => '[' :: (List.intercalate ", " (displayItems items) ++ [.char ']'])
  | obj entries => '\x7b' :: (List.intercalate ", " (displayEntries entries) ++ [.char '\x7d'])

def displayItems : List Json → List Text
  | [] => []
  | item :: items => displayInside item :: displayItems items

def displayEntries : List (Text × Json) → List Text
  | [] => []
  | (key, value) :: entries =>
    (quoted key ++ (.char ':' :: .char ' ' :: displayInside value)) :: displayEntries entries

end

def display : Json → Text
  | str s => s
  | value => value.displayInside

end FlatBlocks.Json
