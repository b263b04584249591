import FlatBlocks.Table
import FlatBlocks.Text.Decimal
import FlatBlocks.Text.Quoted

/-! The command line. Switches may stand before, after and between other words;
their long spellings may be cut short, their values may be attached, and short
flags may be written together. The marker `--` ends the switches; attached to a
setting it stands for no value. -/

namespace FlatBlocks.Command
open FlatBlocks.Text

inductive Flag where
  | help
  | events
  | skipMalformed
  | verbose
  deriving DecidableEq, Repr

/-- A switch that takes a value. -/
inductive Setting where
  | output
  | format
  | indent
  deriving DecidableEq, Repr

inductive Switch where
  | flag (flag : Flag)
  | setting (setting : Setting)
  deriving DecidableEq, Repr

/-- Every spelling of a switch, in the order in which messages name them. -/
def spellings : Table Switch :=
  [("-h", .flag .help), ("--help", .flag .help), ("--events", .flag .events),
    ("--output", .setting .output), ("-o", .setting .output), ("--format", .setting .format),
    ("--indent", .setting .indent), ("--skip-malformed", .flag .skipMalformed),
    ("--verbose", .flag .verbose), ("-v", .flag .verbose)]

/-- The name of a switch in messages. -/
def Switch.label (switch : Switch) : Text :=
  List.intercalate "/" (Table.keys (spellings.filter (·.2 == switch)))

inductive Format where
  | json
  | outline
  deriving DecidableEq, Repr

def formats : Table Format := [("json", .json), ("outline", .outline)]

inductive UsageError where
  | ambiguous (word : Text) (candidates : List Text)
  | noValue (setting : Setting)
  | unwantedValue (flag : Flag) (value : Text)
  | notInteger (value : Text)
  | notFormat (value : Text)
  | noInput
  | unrecognized (words : List Text)
  deriving DecidableEq, Repr

def about (switch : Switch) (complaint : Text) : Text :=
  "argument " ++ switch.label ++ ": " ++ complaint

def UsageError.message : UsageError → Text
  | ambiguous word candidates =>
    "ambiguous option: " ++ word ++ " could match " ++ List.intercalate ", " candidates
  | noValue setting => about (.setting setting) "expected one argument"
  | unwantedValue flag value =>
    about (.flag flag) ("ignored explicit argument " ++ quoted value)
  | notInteger value => about (.setting .indent) ("invalid int value: " ++ quoted value)
  | notFormat value =>
    about (.setting .format) ("invalid choice: " ++ quoted value ++ " (choose from " ++
      List.intercalate ", " (formats.keys.map quoted) ++ ")")
  | noInput => "the following arguments are required: input"
  | unrecognized words => "unrecognized arguments: " ++ List.intercalate " " words

/-- What ends a run before it begins. -/
inductive Stop where
  | help
  | misuse (error : UsageError)
  deriving DecidableEq, Repr

/-- A word before the marker. -/
inductive Word where
  | plain (text : Text)
  /-- A switch, whether its spelling has a single dash, and the text attached to it. -/
  | switch (switch : Switch) (short : Bool) (attached : Option Text)
  | unknown (text : Text)
  deriving DecidableEq, Repr

/-- What stands before the first equals sign, and what after it if there is one. -/
def cutAtEquals (word : Text) : Text × Option Text :=
  (word.takeWhile (· != .char '='), (word.dropWhile (· != .char '=')).tail?)

/-- The spellings that a word may be short for. A long one may be cut short; a
short one may have its value right behind it. -/
def readings (word : Text) : List (Text × Word) :=
  match word with
  | .char '-' :: .char '-' :: _ =>
    let (start, attached) := cutAtEquals word
    (spellings.filter fun e => start.isPrefixOf e.1).map fun e =>
      (e.1, .switch e.2 false attached)
  | .char '-' :: c :: rest =>
    (spellings.filter fun e => e.1 == [.char '-', c]).map fun e =>
      (e.1, .switch e.2 true (some rest))
  | _ => []

/-- What a word is. A word in two parts or one that looks like a negative number
is only taken for a switch if it can be read as one. -/
def classify (word : Text) : Except UsageError Word :=
  match word with
  | .char '-' :: second :: _ =>
    let short := second != '-'
    let (start, attached) := cutAtEquals word
    match spellings.get? word, spellings.get? start, readings word with
    | some switch, _, _ => .ok (.switch switch short none)
    | none, some switch, _ => .ok (.switch switch short attached)
    | none, none, [(_, reading)] => .ok reading
    | none, none, [] =>
      if looksNegative word || word.contains ' ' then .ok (.plain word)
      else .ok (.unknown word)
    | none, none, candidates => .error (.ambiguous word (candidates.map (·.1)))
  | _ => .ok (.plain word)

/-- The word that ends the switches. -/
def marker : Text := "--"

/-- Where the result is to go. -/
inductive Output where
  | unset
  | path (path : Text)
  /-- The marker was attached to the setting in place of a path. -/
  | noPath
  deriving DecidableEq, Repr

/-- What the switches of a command line ask for. There is no indentation if the
marker was attached to that setting. -/
structure Settings where
  events : Bool := false
  output : Output := .unset
  format : Format := .json
  indent : Option Int := some 4
  skipMalformed : Bool := false
  verbose : Bool := false
  deriving DecidableEq, Repr

def Settings.turnOn (settings : Settings) : Flag → Except Stop Settings
  | .help => .error .help
  | .events => .ok { settings with events := true }
  | .skipMalformed => .ok { settings with skipMalformed := true }
  | .verbose => .ok { settings with verbose := true }

/-- What a setting is with the marker for its value. -/
def Settings.clear (settings : Settings) : Setting → Settings
  | .output => { settings with output := .noPath }
  | .format => { settings with format := .json }
  | .indent => { settings with indent := none }

def Settings.assign (settings : Settings) (setting : Setting) (value : Text) :
    Except Stop Settings :=
  if value = marker then .ok (settings.clear setting)
  else match setting with
    | .output => .ok { settings with output := .path value }
    | .format => match formats.get? value with
      | some format => .ok { settings with format }
      | none => .error (.misuse (.notFormat value))
    | .indent => match readInt value with
      | some indent => .ok { settings with indent := some indent }
      | none => .error (.misuse (.notInteger value))

/-- The switches that one word stands for: flags, and at the end a setting with
the value that is attached to it. -/
structure Bundle where
  flags : List Flag
  setting : Option (Setting × Option Text) := none
  deriving DecidableEq, Repr

/-- Read the text attached to a flag as further short switches. -/
def Bundle.ofFlag (short : Bool) (flag : Flag) : Text → Except UsageError Bundle
  | [] => .error (.unwantedValue flag [])
  | c :: rest =>
    match short, spellings.get? ([.char '-', c]), rest with
    | true, some (.setting setting), [] => .ok { flags := [flag], setting := some (setting, none) }
    | true, some (.setting setting), rest =>
      .ok { flags := [flag], setting := some (setting, some rest) }
    | true, some (.flag next), [] => .ok { flags := [flag, next] }
    | true, some (.flag next), rest =>
      (ofFlag short next rest).map fun b => { b with flags := flag :: b.flags }
    | _, _, _ => .error (.unwantedValue flag (c :: rest))

def Bundle.ofSwitch (short : Bool) : Switch → Option Text → Except UsageError Bundle
  | .setting setting, attached => .ok { flags := [], setting := some (setting, attached) }
  | .flag flag, none => .ok { flags := [flag] }
  | .flag flag, some text => ofFlag short flag text

/-- What has been read of a command line: the words that nothing asked for come
last one first. -/
structure Reading where
  settings : Settings := {}
  input : Option Text := none
  spare : List Text := []

namespace Reading

def set (reading : Reading) (flags : List Flag) (value : Option (Setting × Text)) :
    Except Stop Reading := do
  let settings ← flags.foldlM Settings.turnOn reading.settings
  let settings ← match value with
    | some (setting, value) => settings.assign setting value
    | none => .ok settings
  .ok { reading with settings }

/-- The words after the marker, if there is one: the first is the input unless
that has been read. A marker that nothing needs is a spare word. -/
def finish (reading : Reading) : Option (List Text) → Reading
  | none => reading
  | some words =>
    match reading.input, words with
    | none, input :: rest => { reading with input, spare := rest.reverse ++ reading.spare }
    | _, _ => { reading with spare := words.reverse ++ marker :: reading.spare }

/-- Read the words before the marker, and then those after it. The first plain
word is the input; a marker right behind it belongs to it. -/
def readWords (marked : Option (List Text)) (reading : Reading) :
    List Word → Except Stop Reading
  | [] => .ok (reading.finish marked)
  | .unknown text :: words =>
    readWords marked { reading with spare := text :: reading.spare } words
  | .plain text :: words =>
    match reading.input, words with
    | some _, words => readWords marked { reading with spare := text :: reading.spare } words
    | none, [] =>
      .ok { reading with input := text, spare := (marked.getD []).reverse ++ reading.spare }
    | none, words => readWords marked { reading with input := text } words
  | .switch switch short attached :: words =>
    match Bundle.ofSwitch short switch attached with
    | .error e => .error (.misuse e)
    | .ok ⟨flags, none⟩ =>
      match reading.set flags none with
      | .error stop => .error stop
      | .ok reading => readWords marked reading words
    | .ok ⟨flags, some (setting, some value)⟩ =>
      match reading.set flags (some (setting, value)) with
      | .error stop => .error stop
      | .ok reading => readWords marked reading words
    | .ok ⟨flags, some (setting, none)⟩ =>
      match words with
      | .plain value :: words =>
        match reading.set flags (some (setting, value)) with
        | .error stop => .error stop
        | .ok reading => readWords marked reading words
      | _ => .error (.misuse (.noValue setting))

end Reading

/-- The input of a run and what the switches ask for. -/
structure Options extends Settings where
  input : Text
  deriving DecidableEq, Repr

/-- Read a command line. A word that cannot be told apart is refused first, a
missing input before words that nothing asked for. -/
def Options.ofWords (words : List Text) : Except Stop Options := do
  let before ← ((words.takeWhile (· != marker)).mapM classify).mapError .misuse
  let reading ← Reading.readWords (words.dropWhile (· != marker)).tail? {} before
  match reading.input, reading.spare with
  | none, _ => .error (.misuse .noInput)
  | some input, [] => .ok { reading.settings with input }
  | some _, spare => .error (.misuse (.unrecognized spare.reverse))

end FlatBlocks.Command
