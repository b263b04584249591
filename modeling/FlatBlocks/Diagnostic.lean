import FlatBlocks.Text.CodePoint

/-! Diagnostics: what happened to single blocks and events while many were
converted. A context gathers those of one source, a collector those of several. -/

namespace FlatBlocks

inductive Level where
  | error
  | warning
  | info
  deriving DecidableEq, Repr

def Level.label : Level → Text
  | error => "Error"
  | warning => "Warning"
  | info => "Info"

structure Diagnostic where
  level : Level
  message : Text
  source : Text
  block : Option Text := none
  event : Option Int := none
  deriving DecidableEq, Repr

namespace Diagnostic

/-- The line that reports a diagnostic, with what is known of its place. -/
def line (d : Diagnostic) : Text :=
  d.level.label ++ ": " ++ d.message ++ ": '" ++ d.source ++ "'" ++
    (match d.event with
      | some n => " event " ++ toString n
      | none => "") ++
    (match d.block with
      | some id => " block '" ++ id ++ "'"
      | none => "")

def count (level : Level) (ds : List Diagnostic) : Nat := ds.countP (·.level == level)

def counted (n : Nat) (noun : Text) : List Text :=
  if n = 0 then [] else [toString n ++ " " ++ noun ++ (if n = 1 then "" else "s")]

/-- The number of errors and of warnings, those of which there are none left out. -/
def summarize (ds : List Diagnostic) : Text :=
  match counted (count .error ds) "error" ++ counted (count .warning ds) "warning" with
  | [] => "No issues"
  | parts => List.intercalate ", " parts

/-- Whether there is a diagnostic of a level. -/
def has (level : Level) (ds : List Diagnostic) : Bool := ds.any (·.level == level)

end Diagnostic

/-- The diagnostics of one source, and the event that is being converted. -/
structure Context where
  source : Text := "<markup>"
  event : Option Int := none
  diagnostics : List Diagnostic := []
  deriving DecidableEq, Repr

namespace Context

def setEvent (ctx : Context) (event : Option Int) : Context := { ctx with event }

def add (ctx : Context) (level : Level) (message : Text) (block : Option Text) : Context :=
  { ctx with
    diagnostics := ctx.diagnostics ++ [⟨level, message, ctx.source, block, ctx.event⟩] }

end Context

/-- The diagnostics of several sources, in the order in which they were collected. -/
structure Collector where
  diagnostics : List Diagnostic := []
  deriving DecidableEq, Repr

namespace Collector

def collect (c : Collector) (ctx : Context) : Collector :=
  ⟨c.diagnostics ++ ctx.diagnostics⟩

/-- The diagnostics to show; mere information only on request. -/
def reportable (c : Collector) (includeInfo : Bool) : List Diagnostic :=
  if includeInfo then c.diagnostics else c.diagnostics.filter (·.level != .info)

end Collector

end FlatBlocks
