import FlatBlocks.Command.Run

/-! The command on the files of the machine. -/

namespace FlatBlocks.Command
open FlatBlocks.Text

/-- The room of the machine. -/
def machineRoom : Room := ⟨0xFFFFFFFFF, by decide⟩

/-- A text for the machine; half of a surrogate pair becomes a replacement character. -/
def plain (t : Text) : String :=
  String.ofList (t.map fun
    | .char c => c
    | .surrogate _ => '\uFFFD')

/-- A text for standard error; half of a surrogate pair is spelled out. -/
def spelledOut (t : Text) : String :=
  plain (t.flatMap fun c => if c.isSurrogate then numberEscape c else [c])

def faultOf : IO.Error → Files.Fault
  | .alreadyExists _ _ _ => .alreadyExists
  | .inappropriateType _ code _ => if code = 20 then .notDirectory else .isDirectory
  | .invalidArgument _ _ _ => .nameTooLong
  | _ => .notFound

def readSource (path : Text) : IO Files.Source := do
  match ← EIO.toBaseIO (IO.FS.readBinFile (plain path)) with
  | .ok bytes => return ⟨true, .ok bytes.toList⟩
  | .error e => return ⟨faultOf e == .isDirectory, .error (.system (faultOf e) path)⟩

def save (path : Text) (bytes : Files.Bytes) (makeParents : Bool) : IO Unit := do
  let directory := plain (Files.Path.parent path)
  if makeParents && directory != "" then IO.FS.createDirAll directory
  IO.FS.writeBinFile (plain path) (ByteArray.mk bytes.toArray)

def Prepared.perform (p : Prepared) : IO Report := do
  match p.target with
  | .stdout => return p.printed
  | .nowhere => return undelivered .noPath
  | .file path makeParents =>
    match ← EIO.toBaseIO (save path p.content makeParents) with
    | .ok _ => return p.written
    | .error e => return undelivered (.path (.system (faultOf e) path))

def execute (words : List Text) : IO Report := do
  match Options.ofWords words with
  | .error stop => return stop.report
  | .ok options =>
    match prepare machineRoom options (← readSource options.input) with
    | .error halt => return halt.report
    | .ok prepared => prepared.perform

/-- The exit status; a cause that is not handled is named and counts as a failure. -/
def finish (report : Report) : IO UInt32 := do
  IO.print (plain report.stdout)
  IO.eprint (spelledOut report.stderr)
  match report.ending with
  | .completed => return 0
  | .failed => return 1
  | .misused _ => return 2
  | .unhandled cause =>
    IO.eprintln (spelledOut cause.message)
    return 1

end FlatBlocks.Command

def main (words : List String) : IO UInt32 := do
  FlatBlocks.Command.finish (← FlatBlocks.Command.execute (words.map FlatBlocks.Text.ofString))
