import FlatBlocks.Files.Tree
import FlatBlocks.Json.Writer

/-! Saving JSON values in files. -/

namespace FlatBlocks.Files
open FlatBlocks.Text

inductive SaveError where
  | path (error : PathError)
  | size (fault : SizeFault)
  deriving DecidableEq, Repr

/-- The bytes of a text of a document, which is ASCII. -/
def documentBytes (text : Text) : Bytes := (Utf8.encode text).toOption.getD []

/-- Write a value to a file after making the directories that lead to it. The file
is opened before anything is written, and holds what has been written if that breaks
off. -/
def Tree.save (room : Room) (tree : Tree) (path : Text) (layout : Json.Layout) (value : Json) :
    Except SaveError Unit × Tree :=
  let written := Json.stream room layout value
  match tree.writeWithParents path (documentBytes written.text), written.fault? with
  | (.error e, tree), _ => (.error (.path e), tree)
  | (.ok _, tree), some fault => (.error (.size fault), tree)
  | (.ok _, tree), none => (.ok (), tree)

end FlatBlocks.Files
