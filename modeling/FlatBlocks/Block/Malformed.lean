import FlatBlocks.Markup.Node

/-! What can be wrong with block markup, and how it is reported. -/

namespace FlatBlocks.Block

/-- An element as it appears in markup. -/
def describeElement (tag : Text) : Option Text → Text
  | none => "<" ++ tag ++ ">"
  | some name => "<" ++ tag ++ " name=\"" ++ name ++ "\">"

/-- An attribute is missing, a slot holds no block, or a field holds no text. A
block is named if the element is the child of one, or if its id has been read. -/
inductive Malformed where
  | missingAttribute (tag name : Text) (block : Option Text)
  | emptySlot (tag : Text) (name : Option Text) (block : Text)
  | emptyField (name block : Text)
  deriving DecidableEq, Repr

namespace Malformed

/-- The tag of the offending element. -/
def construct : Malformed → Text
  | missingAttribute tag _ _ => tag
  | emptySlot tag _ _ => tag
  | emptyField _ _ => "field"

/-- The name of the offending slot or field, once it has been read. -/
def name : Malformed → Option Text
  | missingAttribute _ _ _ => none
  | emptySlot _ name _ => name
  | emptyField name _ => some name

def block : Malformed → Option Text
  | missingAttribute _ _ block => block
  | emptySlot _ _ block => some block
  | emptyField _ block => some block

def inBlock (block : Text) : Text := " in block '" ++ block ++ "'"

def reason : Malformed → Text
  | missingAttribute tag name block =>
    "<" ++ tag ++ ">" ++ (block.map inBlock).getD "" ++ " is missing its '" ++ name ++ "' attribute"
  | emptySlot tag name block =>
    describeElement tag name ++ inBlock block ++ " has no nested <block> or <shadow>"
  | emptyField name block =>
    describeElement "field" (some name) ++ inBlock block ++ " has no text value"

def message (m : Malformed) : Text := "Malformed markup: " ++ m.reason

end Malformed

/-- Why a visit fails. Trees that were read from markup only ever fail as malformed. -/
inductive Fault where
  | malformed (cause : Malformed)
  | notText (node : Markup.Node.NotText)
  deriving DecidableEq, Repr

end FlatBlocks.Block
