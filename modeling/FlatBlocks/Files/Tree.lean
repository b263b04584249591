import FlatBlocks.Files.Path

/-! Files and directories around a working directory, and what reading, writing
and making directories does to them. Every path but the last name of it has to
lead through directories. -/

namespace FlatBlocks.Files

/-- What there is at a place. -/
inductive Entry where
  | file (bytes : Bytes)
  | directory
  deriving DecidableEq, Repr

/-- A directory that is always there: the one that many levels above the working
directory, which is itself zero levels above, or the root directory. -/
inductive Base where
  | above (levels : Nat)
  | root
  deriving DecidableEq, Repr

/-- The directory around a base; there is none around the root. -/
def Base.outer : Base → Base
  | above levels => above (levels + 1)
  | root => root

/-- A place: the names on the way to it from a base. -/
structure Place where
  base : Base
  names : List Bytes
  deriving DecidableEq, Repr

/-- A file, or a directory with what is in it under each name. -/
inductive Node where
  | file (bytes : Bytes)
  | directory (children : List (Bytes × Node))
  deriving Inhabited

namespace Node

def entry : Node → Entry
  | file bytes => .file bytes
  | directory _ => .directory

def ofEntry : Entry → Node
  | .file bytes => file bytes
  | .directory => directory []

def child? (name : Bytes) : List (Bytes × Node) → Option Node
  | [] => none
  | (n, node) :: rest => if n = name then some node else child? name rest

def putChild (name : Bytes) (node : Node) : List (Bytes × Node) → List (Bytes × Node)
  | [] => [(name, node)]
  | (n, old) :: rest => if n = name then (n, node) :: rest else (n, old) :: putChild name node rest

/-- What there is under names. -/
def lookup? : Node → List Bytes → Option Entry
  | node, [] => some node.entry
  | file _, _ :: _ => none
  | directory children, name :: rest =>
    match child? name children with
    | none => none
    | some node => node.lookup? rest

/-- Put an entry under names; below a file nothing can be put. -/
def put (entry : Entry) : Node → List Bytes → Node
  | _, [] => ofEntry entry
  | file bytes, _ :: _ => file bytes
  | directory children, name :: rest =>
    let node := (child? name children).getD (directory [])
    directory (putChild name (put entry node rest) children)

mutual

/-- The files in a node that stands at a place. -/
def files (place : Place) : Node → List (Place × Bytes)
  | file bytes => [(place, bytes)]
  | directory children => filesIn place children

def filesIn (place : Place) : List (Bytes × Node) → List (Place × Bytes)
  | [] => []
  | (name, node) :: rest =>
    files ⟨place.base, place.names ++ [name]⟩ node ++ filesIn place rest

end

end Node

/-- What is in each base. -/
structure Tree where
  bases : List (Base × Node) := []

namespace Tree

def inBase? (base : Base) : List (Base × Node) → Option Node
  | [] => none
  | (b, node) :: rest => if b = base then some node else inBase? base rest

def node (tree : Tree) (base : Base) : Node := (inBase? base tree.bases).getD (.directory [])

def lookup? (tree : Tree) (place : Place) : Option Entry :=
  (tree.node place.base).lookup? place.names

def replace (base : Base) (node : Node) : List (Base × Node) → List (Base × Node)
  | [] => [(base, node)]
  | (b, old) :: rest => if b = base then (b, node) :: rest else (b, old) :: replace base node rest

def put (tree : Tree) (place : Place) (entry : Entry) : Tree :=
  ⟨replace place.base ((tree.node place.base).put entry place.names) tree.bases⟩

/-- One name on from a place. -/
def enter (place : Place) (name : Bytes) : Place :=
  if name = Path.dot then place
  else if name = Path.dots then
    if place.names = [] then ⟨place.base.outer, []⟩ else ⟨place.base, place.names.dropLast⟩
  else ⟨place.base, place.names ++ [name]⟩

/-- Look at a place, the last name of which must not be too long. -/
def look (tree : Tree) (place : Place) : Except Fault (Option Entry) :=
  if Path.maxNameLength < (place.names.getLast?.getD []).length then .error .nameTooLong
  else .ok (tree.lookup? place)

/-- The place that names lead to; all but the last have to lead to directories. -/
def walk (tree : Tree) (place : Place) : List Bytes → Except Fault Place
  | [] => .ok place
  | [name] => .ok (enter place name)
  | name :: rest =>
    match tree.look (enter place name) with
    | .error fault => .error fault
    | .ok none => .error .notFound
    | .ok (some (.file _)) => .error .notDirectory
    | .ok (some .directory) => walk tree (enter place name) rest

/-- Where a path starts. -/
def origin (bytes : Bytes) : Place :=
  ⟨if bytes.head? = some Path.slash then .root else .above 0, []⟩

/-- The place of a path, whether or not there is anything. -/
def locate (tree : Tree) (path : Text) : Except PathError Place :=
  match Path.encode path with
  | .error e => .error e
  | .ok [] => .error (.system .notFound path)
  | .ok bytes =>
    if Path.maxLength ≤ bytes.length then .error (.system .nameTooLong path)
    else (tree.walk (origin bytes) (Path.names bytes)).mapError (.system · path)

/-- The place of a path and the entry that is there. -/
def inspect (tree : Tree) (path : Text) : Except PathError (Place × Option Entry) :=
  match tree.locate path with
  | .error e => .error e
  | .ok place => ((tree.look place).map (place, ·)).mapError (.system · path)

/-- The entry that a path leads to. -/
def find (tree : Tree) (path : Text) : Except PathError Entry :=
  match tree.inspect path with
  | .error e => .error e
  | .ok (_, none) => .error (.system .notFound path)
  | .ok (_, some (.file bytes)) =>
    if Path.wantsDirectory path then .error (.system .notDirectory path) else .ok (.file bytes)
  | .ok (_, some .directory) => .ok .directory

def exists? (tree : Tree) (path : Text) : Bool := (tree.find path).isOk

def isDirectory (tree : Tree) (path : Text) : Bool :=
  match tree.find path with
  | .ok .directory => true
  | _ => false

def read (tree : Tree) (path : Text) : Except PathError Bytes :=
  match tree.find path with
  | .error e => .error e
  | .ok .directory => .error (.system .isDirectory path)
  | .ok (.file bytes) => .ok bytes

/-- Put bytes into a file, which is made if it is not there. -/
def write (tree : Tree) (path : Text) (bytes : Bytes) : Except PathError Tree :=
  match tree.locate path with
  | .error e => .error e
  | .ok place =>
    if Path.wantsDirectory path then .error (.system .isDirectory path)
    else match tree.look place with
      | .error fault => .error (.system fault path)
      | .ok (some .directory) => .error (.system .isDirectory path)
      | .ok _ => .ok (tree.put place (.file bytes))

/-- Make a directory where there is nothing. -/
def makeDirectory (tree : Tree) (path : Text) : Except PathError Tree :=
  match tree.inspect path with
  | .error e => .error e
  | .ok (_, some _) => .error (.system .alreadyExists path)
  | .ok (place, none) => .ok (tree.put place .directory)

/-- Make a directory if it is not there yet. -/
def makeLast (tree : Tree) (path : Text) : Except PathError Unit × Tree :=
  match tree.makeDirectory path with
  | .ok tree => (.ok (), tree)
  | .error e => if tree.isDirectory path then (.ok (), tree) else (.error e, tree)

/-- A path without the slash at its end. -/
def trimmed (path : Text) : Text :=
  if (Path.base path).isEmpty then Path.parent path else path

theorem trimmed_length_le (path : Text) : (trimmed path).length ≤ path.length := by
  unfold trimmed; split
  · exact Path.parent_length_le path
  · exact Nat.le_refl _

/-- Make a directory and those that lead to it. The outermost that cannot be made
is the one to blame; those made before it stay. -/
def makeDirectories (tree : Tree) (path : Text) : Except PathError Unit × Tree :=
  let own := trimmed path
  if _h : Path.base own = [] then tree.makeLast path
  else if (Path.parent own).isEmpty || tree.exists? (Path.parent own) then tree.makeLast path
  else
    match tree.makeDirectories (Path.parent own) with
    | (.error (.system .alreadyExists _), tree) =>
      if Path.base own = "." then (.ok (), tree) else tree.makeLast path
    | (.error e, tree) => (.error e, tree)
    | (.ok _, tree) => if Path.base own = "." then (.ok (), tree) else tree.makeLast path
termination_by path.length
decreasing_by exact Nat.lt_of_lt_of_le (Path.parent_length_lt _h) (trimmed_length_le path)

/-- Make sure that a directory is there; the empty path asks for nothing. -/
def ensureDirectory (tree : Tree) (path : Text) : Except PathError Unit × Tree :=
  match path with
  | [] => (.ok (), tree)
  | path => tree.makeDirectories path

/-- Write a file after making the directories that lead to it. -/
def writeWithParents (tree : Tree) (path : Text) (bytes : Bytes) :
    Except PathError Unit × Tree :=
  match tree.ensureDirectory (Path.parent path) with
  | (.error e, tree) => (.error e, tree)
  | (.ok _, tree) =>
    match tree.write path bytes with
    | .error e => (.error e, tree)
    | .ok tree => (.ok (), tree)

/-- All files. -/
def files (tree : Tree) : List (Place × Bytes) :=
  tree.bases.flatMap fun e => e.2.files ⟨e.1, []⟩

end Tree

end FlatBlocks.Files
