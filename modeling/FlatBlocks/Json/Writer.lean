import FlatBlocks.Json.Value
import FlatBlocks.Text.Copies
import FlatBlocks.Text.Digits
import FlatBlocks.Text.Written

/-! Writing JSON in ASCII, either on one line or with one item to a line. A file gets
a document piece by piece; its whole text is put together from the same pieces. -/

namespace FlatBlocks.Json
open FlatBlocks.Text

def hexEscape (n : Nat) : Text := "\\u" ++ hex 4 n

/-- Quotes, backslashes and all but printable ASCII are escaped; a character
beyond U+FFFF is written as its pair of surrogates. -/
def escapePoint (c : CodePoint) : Text :=
  if c = '"' then "\\\""
  else if c = '\\' then "\\\\"
  else if c = '\n' then "\\n"
  else if c = '\x0d' then "\\r"
  else if c = '\t' then "\\t"
  else if c = '\x08' then "\\b"
  else if c = '\x0c' then "\\f"
  else
    let n := c.toNat
    if 32 ≤ n && n < 127 then [c]
    else if n < 0x10000 then hexEscape n
    else hexEscape (0xD800 + (n - 0x10000) / 1024) ++ hexEscape (0xDC00 + (n - 0x10000) % 1024)

def writeString (s : Text) : Text := '"' :: (s.flatMap escapePoint ++ [.char '"'])

/-- Everything on one line, or items on lines of their own with a number of
spaces for each level; a number below one gives lines without indentation. -/
inductive Layout where
  | oneLine
  | indented (width : Int)
  deriving DecidableEq, Repr

/-- What stands before an item of a collection at a level. -/
def Layout.lineBreak : Layout → Nat → Text
  | oneLine, _ => []
  | indented width, level => '\n' :: copies " " (width * level)

def Layout.separator : Layout → Nat → Text
  | oneLine, _ => ", "
  | layout, level => ',' :: layout.lineBreak level

mutual

/-- The text of a value whose opening bracket stands at a level. -/
def write (layout : Layout) (level : Nat) : Json → Text
  | null => "null"
  | bool true => "true"
  | bool false => "false"
  | int n => toString n
  | real spelling => spelling
  | str s => writeString s
  | arr [] => ['[', ']']
  | arr (item :: items) =>
    '[' :: (layout.lineBreak (level + 1) ++ (write layout (level + 1) item ++
      (writeItems layout (level + 1) items ++ (layout.lineBreak level ++ [.char ']']))))
  | obj [] => ['\x7b', '\x7d']
  | obj ((key, value) :: entries) =>
    '\x7b' :: (layout.lineBreak (level + 1) ++ (writeString key ++ (.char ':' :: .char ' ' ::
      (write layout (level + 1) value ++ (writeEntries layout (level + 1) entries ++
        (layout.lineBreak level ++ [.char '\x7d']))))))

/-- The items after the first, each after a separator. -/
def writeItems (layout : Layout) (level : Nat) : List Json → Text
  | [] => []
  | item :: items =>
    layout.separator level ++ (write layout level item ++ writeItems layout level items)

def writeEntries (layout : Layout) (level : Nat) : List (Text × Json) → Text
  | [] => []
  | (key, value) :: entries =>
    layout.separator level ++ (writeString key ++ (.char ':' :: .char ' ' ::
      (write layout level value ++ writeEntries layout level entries)))

end

def render (layout : Layout) (value : Json) : Text := write layout 0 value

/-- Why a layout cannot be used: the spaces of one level cannot be made. -/
def Layout.fault? (room : Room) : Layout → Option SizeFault
  | oneLine => none
  | indented width => copiesFault? room 1 width

/-- Why a separator cannot be made: there are too many spaces in it, or together with
the comma and the line feed before them. -/
def Layout.separatorFault? (room : Room) : Layout → Nat → Option SizeFault
  | oneLine, _ => none
  | indented width, level =>
    let spaces := width.toNat * level
    (room.fault? spaces).or (room.fault? (spaces + 2))

/-- A step of writing a document. The separator of the items of a collection is made
before the first of them is written. -/
inductive Step where
  | separator (level : Nat)
  | piece (text : Text)
  deriving DecidableEq, Repr

def Step.text : Step → Text
  | separator _ => []
  | piece text => text

def Step.fault? (room : Room) (layout : Layout) : Step → Option SizeFault
  | separator level => layout.separatorFault? room level
  | piece text => room.fault? text.length

mutual

/-- The steps in which a value is written after a text. Both are one piece, unless the
value is a collection. -/
def steps (layout : Layout) (level : Nat) (before : Text) : Json → List Step
  | arr [] => [.piece before, .piece ['[', ']']]
  | arr (item :: items) =>
    .piece before :: .separator (level + 1) ::
      (steps layout (level + 1) ('[' :: layout.lineBreak (level + 1)) item ++
        (itemSteps layout (level + 1) items ++
          [.piece (layout.lineBreak level), .piece [']']]))
  | obj [] => [.piece before, .piece ['\x7b', '\x7d']]
  | obj ((key, value) :: entries) =>
    .piece before :: .piece ['\x7b'] :: .separator (level + 1) ::
      .piece (layout.lineBreak (level + 1)) :: .piece (writeString key) :: .piece [':', ' '] ::
        (steps layout (level + 1) [] value ++ (entrySteps layout (level + 1) entries ++
          [.piece (layout.lineBreak level), .piece ['\x7d']]))
  | value => [.piece (before ++ write layout level value)]

/-- The items after the first, each behind a separator. -/
def itemSteps (layout : Layout) (level : Nat) : List Json → List Step
  | [] => []
  | item :: items =>
    steps layout level (layout.separator level) item ++ itemSteps layout level items

def entrySteps (layout : Layout) (level : Nat) : List (Text × Json) → List Step
  | [] => []
  | (key, value) :: entries =>
    .piece (layout.separator level) :: .piece (writeString key) :: .piece [':', ' '] ::
      (steps layout level [] value ++ entrySteps layout level entries)

end

/-- Take steps up to the first that fails. -/
def follow (room : Room) (layout : Layout) : List Step → Written SizeFault
  | [] => { text := [] }
  | step :: rest =>
    match step.fault? room layout with
    | some fault => ⟨[], some fault⟩
    | none =>
      let written := follow room layout rest
      ⟨step.text ++ written.text, written.fault?⟩

/-- Write a document piece by piece. The spaces of one level are made before that. -/
def stream (room : Room) (layout : Layout) (value : Json) : Written SizeFault :=
  match layout.fault? room with
  | some fault => ⟨[], some fault⟩
  | none => follow room layout (steps layout 0 [] value)

/-- The text of a document, if there is room for all of it. -/
def document (room : Room) (layout : Layout) (value : Json) : Except SizeFault Text :=
  match stream room layout value with
  | ⟨_, some fault⟩ => .error fault
  | ⟨text, none⟩ => room.hold text

/-- The text of a value by itself; a string is written whatever the layout. -/
def toText (room : Room) (layout : Layout) : Json → Except SizeFault Text
  | str s => room.hold (writeString s)
  | value => document room layout value

end FlatBlocks.Json
