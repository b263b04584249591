import FlatBlocks.Block.Outline.Loose
import FlatBlocks.Command.Options
import FlatBlocks.Convert
import FlatBlocks.Files.Load
import FlatBlocks.Json.Writer

/-! A run of the command: read the input, convert it, deliver the result. All that
can be wrong with the input shows before anything is delivered. What is written to
standard output has to have a UTF-8 form, as has what is written to a file; standard
error takes any text. -/

namespace FlatBlocks.Command
open FlatBlocks.Block (Record)
open FlatBlocks.Text

/-- What a run does not handle: it ends without a report. -/
inductive Unhandled where
  | encoding (fault : Utf8.Fault)
  | rejected (cause : Markup.Rejection)
  | notText (node : Markup.Node.NotText)
  | path (error : Files.PathError)
  | unencodable (cause : Utf8.Unencodable)
  | noPath
  | noIndentation
  | size (fault : SizeFault)
  /-- An object among the results is no record. -/
  | misfit (cause : Block.Misfit)
  deriving DecidableEq, Repr

def Unhandled.message : Unhandled → Text
  | encoding fault => fault.message
  | rejected (.tooLong number) => number.message
  | rejected (.unencodable cause) => cause.message
  | rejected _ => "the markup is rejected"
  | notText node => node.message
  | path error => error.message
  | unencodable cause => cause.message
  | noPath => "there is no path to write to"
  | noIndentation => "there is no indentation to write with"
  | size fault => fault.message
  | misfit _ => "a result is no record"

inductive Ending where
  | completed
  | failed
  | misused (error : UsageError)
  | unhandled (cause : Unhandled)
  deriving DecidableEq, Repr

/-- The exit status, if the run comes to one. -/
def Ending.status : Ending → Option Nat
  | completed => some 0
  | failed => some 1
  | misused _ => some 2
  | unhandled _ => none

/-- How a run ended and what it printed. -/
structure Report where
  ending : Ending
  stdout : Text := ""
  stderr : Text := ""
  deriving DecidableEq, Repr

def usage : Text :=
  "usage: convert.py [-h] [--events] [--output OUTPUT] [--format \x7bjson,outline\x7d]\n" ++
  "                  [--indent INDENT] [--skip-malformed] [--verbose]\n" ++
  "                  input\n"

/-- What follows the usage when help is asked for. -/
def switchHelp : Text :=
  "\n" ++
  "Convert block editor create events into flat block records.\n" ++
  "\n" ++
  "positional arguments:\n" ++
  "  input                 Path to a block markup file, or an events JSON file\n" ++
  "                        with --events\n" ++
  "\n" ++
  "options:\n" ++
  "  -h, --help            show this help message and exit\n" ++
  "  --events              Treat the input as a JSON list of editor events\n" ++
  "  --output OUTPUT, -o OUTPUT\n" ++
  "                        Write the result to this file instead of stdout\n" ++
  "  --format \x7bjson,outline\x7d\n" ++
  "                        Output format\n" ++
  "  --indent INDENT       JSON indentation\n" ++
  "  --skip-malformed      Drop malformed top-level blocks instead of failing the\n" ++
  "                        conversion\n" ++
  "  --verbose, -v         Also report skipped events\n"

def UsageError.line (e : UsageError) : Text := "convert.py: error: " ++ e.message

def Stop.report : Stop → Report
  | help => { ending := .completed, stdout := usage ++ switchHelp }
  | misuse e => { ending := .misused e, stderr := usage ++ e.line ++ "\n" }

/-- Why a run stops before it delivers anything. -/
inductive Halt where
  | failed (message : Text)
  | unhandled (cause : Unhandled)
  deriving DecidableEq, Repr

def Halt.report : Halt → Report
  | failed message => { ending := .failed, stderr := "Error: " ++ message ++ "\n" }
  | unhandled cause => { ending := .unhandled cause }

/-- Where the result goes. -/
inductive Target where
  | stdout
  /-- A file, for which directories may be made. -/
  | file (path : Text) (makeParents : Bool)
  | nowhere
  deriving DecidableEq, Repr

/-- An outline goes to any path that is given; JSON goes to standard output if the
path is empty or missing. -/
def Options.target (options : Options) : Target :=
  match options.format, options.output with
  | _, .unset => .stdout
  | .outline, .path path => .file path false
  | .outline, .noPath => .nowhere
  | .json, .path [] => .stdout
  | .json, .path path => .file path true
  | .json, .noPath => .stdout

/-- What an input is converted to. -/
inductive Result where
  | document (records : List (Record Text))
  | batch (conversions : List Conversion)

namespace Result

def toJson : Result → Json
  | document records => Block.payload records
  | batch conversions => .arr (conversions.map Conversion.toJson)

/-- The records of a conversion as they are read back from their objects. -/
def readBack (c : Conversion) : Except Block.Misfit (List (Record Json)) :=
  (c.records.map fun r => r.loose.toJson).mapM Record.ofJson

/-- The outline of a conversion below a line with its id. -/
def outlineOf (c : Conversion) : Except Block.Misfit Text := do
  let records ← readBack c
  .ok ("# " ++ c.block ++ "\n" ++
    Block.Outline.render (records.map Block.Outline.clearLinks))

def outline : Result → Except Block.Misfit Text
  | document records => .ok (Block.Outline.render records)
  | batch conversions => (conversions.mapM outlineOf).map (List.intercalate "\n")

end Result

/-- Malformed markup is reported; what else a conversion fails with is not handled. -/
def haltOf (options : Options) : Failure → Halt
  | .rejected cause => .unhandled (.rejected cause)
  | .fault (.notText node) => .unhandled (.notText node)
  | .fault (.malformed cause) => .failed (options.input ++ ": " ++ cause.message)

/-- Convert a markup document. Only faults of the file system are handled. -/
def Options.convertDocument (options : Options) (source : Files.Source) (ctx : Context) :
    Except Halt (List (Record Text) × Context) :=
  match source.text with
  | .error (.encoding fault) => .error (.unhandled (.encoding fault))
  | .error (.unreadable .holdsZero) => .error (.unhandled (.path .holdsZero))
  | .error (.unreadable (.unencodable cause)) => .error (.unhandled (.path (.unencodable cause)))
  | .error e => .error (.failed ("Cannot read " ++ options.input ++ ": " ++ e.message))
  | .ok markup =>
    match convertMarkup markup options.skipMalformed ctx with
    | (.error failure, _) => .error (haltOf options failure)
    | (.ok records, ctx) => .ok (records, ctx)

/-- Convert a batch of events. -/
def Options.convertBatch (options : Options) (source : Files.Source) (ctx : Context) :
    Except Halt (List Conversion × Context) :=
  match source.events options.input with
  | .error e => .error (.failed ("Cannot load events from " ++ options.input ++ ": " ++ e.message))
  | .ok events =>
    match convertEvents (events.map Event.ofJson) options.skipMalformed ctx with
    | (.error failure, _) => .error (haltOf options failure)
    | (.ok conversions, ctx) => .ok (conversions, ctx)

def Options.convert (options : Options) (source : Files.Source) :
    Except Halt (Result × Context) :=
  let ctx : Context := { source := options.input }
  if options.events then (options.convertBatch source ctx).map fun r => (.batch r.1, r.2)
  else (options.convertDocument source ctx).map fun r => (.document r.1, r.2)

/-- JSON in the indentation that was asked for. A file gets it piece by piece, standard
output gets the whole text. -/
def Options.jsonText (options : Options) (room : Room) (value : Json) : Written Unhandled :=
  match options.indent, options.target with
  | none, _ => ⟨[], some .noIndentation⟩
  | some width, .file _ _ => (Json.stream room (.indented width) value).mapFault .size
  | some width, _ => .ofExcept ((Json.document room (.indented width) value).mapError .size)

/-- What is written of a result. Outlines are all made before anything is delivered;
that JSON cannot be written only shows when it is. -/
def Options.resultText (options : Options) (room : Room) (result : Result) :
    Except Halt (Written Unhandled) :=
  match options.format with
  | .outline =>
    match result.outline with
    | .error cause => .error (.unhandled (.misfit cause))
    | .ok text => .ok { text }
  | .json => .ok (options.jsonText room result.toJson)

/-- The lines about what went wrong, with a summary at the end if it was more than
information. -/
def warningsText (options : Options) (ctx : Context) : Text :=
  let collector := Collector.collect {} ctx
  let lines := (collector.reportable options.verbose).map Diagnostic.line
  let summary :=
    if Diagnostic.has .error collector.diagnostics || Diagnostic.has .warning collector.diagnostics
    then ["Warning: " ++ Diagnostic.summarize collector.diagnostics] else []
  (lines ++ summary).flatMap (· ++ "\n")

def Options.notice (options : Options) : Text :=
  match options.output with
  | .unset => []
  | .noPath => []
  | .path [] => []
  | .path path => "Successfully converted " ++ options.input ++ " to " ++ path ++ "\n"

/-- What is written of a result, where it goes and what is reported after that. -/
structure Prepared where
  target : Target
  result : Written Unhandled
  warnings : Text
  notice : Text

/-- All of a run that comes before the result is delivered. -/
def prepare (room : Room) (options : Options) (source : Files.Source) : Except Halt Prepared := do
  let (result, ctx) ← options.convert source
  let result ← options.resultText room result
  .ok { target := options.target, result, warnings := warningsText options ctx
        notice := options.notice }

/-- A text with a line feed at its end. -/
def endLine (text : Text) : Text :=
  if text.getLast? = some (.char '\n') then text else text ++ "\n"

/-- The report of a run whose result could not be delivered. -/
def undelivered (cause : Unhandled) : Report := { ending := .unhandled cause }

/-- The report of a run that has delivered its result, after what was printed by then. The
warnings come before the notice. -/
def Prepared.close (p : Prepared) (printed : Text) : Report :=
  match Utf8.encode p.notice with
  | .error cause =>
    { ending := .unhandled (.unencodable cause), stdout := printed, stderr := p.warnings }
  | .ok _ => { ending := .completed, stdout := printed ++ p.notice, stderr := p.warnings }

/-- The report of a run that prints its result. -/
def Prepared.printed (p : Prepared) : Report :=
  match p.result with
  | ⟨_, some cause⟩ => undelivered cause
  | ⟨text, none⟩ =>
    match Utf8.encode (endLine text) with
    | .error cause => undelivered (.unencodable cause)
    | .ok _ => p.close (endLine text)

/-- What a file holds to which the result has been written: nothing, if the text has no
bytes. -/
def Prepared.content (p : Prepared) : Files.Bytes :=
  (Utf8.encode p.result.text).toOption.getD []

/-- The report of a run whose file has been opened. -/
def Prepared.written (p : Prepared) : Report :=
  match Utf8.encode p.result.text, p.result.fault? with
  | .error cause, _ => undelivered (.unencodable cause)
  | .ok _, some cause => undelivered cause
  | .ok _, none => p.close []

/-- Deliver a result into a tree of files. A file is opened before the result is
written to it. -/
def Prepared.deliver (p : Prepared) (tree : Files.Tree) : Report × Files.Tree :=
  match p.target with
  | .stdout => (p.printed, tree)
  | .nowhere => (undelivered .noPath, tree)
  | .file path false =>
    match tree.write path p.content with
    | .error e => (undelivered (.path e), tree)
    | .ok tree => (p.written, tree)
  | .file path true =>
    match tree.writeWithParents path p.content with
    | (.error e, tree) => (undelivered (.path e), tree)
    | (.ok _, tree) => (p.written, tree)

/-- A run on a tree of files. -/
def run (room : Room) (words : List Text) (tree : Files.Tree) : Report × Files.Tree :=
  match Options.ofWords words with
  | .error stop => (stop.report, tree)
  | .ok options =>
    match prepare room options (tree.source options.input) with
    | .error halt => (halt.report, tree)
    | .ok prepared => prepared.deliver tree

end FlatBlocks.Command
