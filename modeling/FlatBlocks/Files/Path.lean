import FlatBlocks.Text.Utf8

/-! Paths as texts: what stands before the last slash and what after it. To the
file system a path is a sequence of bytes, and so are the names between slashes. -/

namespace FlatBlocks.Files
open FlatBlocks.Text

abbrev Bytes := List UInt8

/-- Why a path leads nowhere. -/
inductive Fault where
  | notFound
  | alreadyExists
  | notDirectory
  | isDirectory
  | nameTooLong
  deriving DecidableEq, Repr

def Fault.code : Fault → Nat
  | .notFound => 2
  | .alreadyExists => 17
  | .notDirectory => 20
  | .isDirectory => 21
  | .nameTooLong => 36

def Fault.text : Fault → Text
  | .notFound => "No such file or directory"
  | .alreadyExists => "File exists"
  | .notDirectory => "Not a directory"
  | .isDirectory => "Is a directory"
  | .nameTooLong => "File name too long"

/-- A fault of the file system and the path that was asked for, or the reason why
the file system cannot be asked. -/
inductive PathError where
  | system (fault : Fault) (path : Text)
  | holdsZero
  | unencodable (cause : Utf8.Unencodable)
  deriving DecidableEq, Repr

def PathError.message : PathError → Text
  | system fault path =>
    "[Errno " ++ toString fault.code ++ "] " ++ fault.text ++ ": " ++ quoted path
  | holdsZero => "embedded null byte"
  | unencodable cause => cause.message

namespace Path

/-- What stands after the last slash. -/
def base (path : Text) : Text := (path.reverse.takeWhile (· != .char '/')).reverse

/-- What stands before the last slash, less the slashes at its end unless it has
nothing else. -/
def parent (path : Text) : Text :=
  let head := path.reverse.dropWhile (· != .char '/')
  let stripped := head.dropWhile (· == .char '/')
  (if stripped.isEmpty then head else stripped).reverse

/-- A slash at the end of a path asks for a directory. -/
def wantsDirectory (path : Text) : Bool := path.getLast? == some (.char '/')

/-- The byte that half of a surrogate pair stands for in a path: U+DC80 to U+DCFF
stand for the bytes that are no characters. -/
def byteOf (offset : Fin 0x800) : Option UInt8 :=
  if 0x480 ≤ offset.val && offset.val ≤ 0x4FF then some (offset.val - 0x400).toUInt8 else none

/-- The bytes of a path, none of which may be zero. -/
def encode (path : Text) : Except PathError Bytes :=
  match Utf8.encodeFrom byteOf 0 [] path with
  | .error cause => .error (.unencodable cause)
  | .ok bytes => if bytes.contains 0 then .error .holdsZero else .ok bytes

def slash : UInt8 := 47

def dot : Bytes := [46]

def dots : Bytes := [46, 46]

/-- The names between slashes; the path starts after those already `read`, and
`name` has been read since, last byte first. -/
def namesFrom (read : List Bytes) (name : Bytes) : Bytes → List Bytes
  | [] => (name.reverse :: read).reverse
  | b :: rest =>
    if b = slash then namesFrom (name.reverse :: read) [] rest else namesFrom read (b :: name) rest

/-- The names on the way. -/
def names (bytes : Bytes) : List Bytes := (namesFrom [] [] bytes).filter (· != [])

/-- A path has fewer bytes than this. -/
def maxLength : Nat := 4096

/-- The number of bytes that a name has at most. -/
def maxNameLength : Nat := 255

theorem parent_length_le (path : Text) : (parent path).length ≤ path.length := by
  have h1 := (List.dropWhile_sublist (· != .char '/') (l := path.reverse)).length_le
  have h2 := (List.dropWhile_sublist (· == .char '/')
    (l := path.reverse.dropWhile (· != .char '/'))).length_le
  rw [List.length_reverse] at h1
  unfold parent
  dsimp only
  split <;> rw [List.length_reverse] <;> omega

theorem parent_length_lt {path : Text} (h : base path ≠ []) :
    (parent path).length < path.length := by
  have h1 := congrArg List.length (List.takeWhile_append_dropWhile
    (p := (· != .char '/')) (l := path.reverse))
  rw [List.length_append, List.length_reverse] at h1
  have h2 := (List.dropWhile_sublist (· == .char '/')
    (l := path.reverse.dropWhile (· != .char '/'))).length_le
  have h3 : (path.reverse.takeWhile (· != .char '/')).length ≠ 0 := by
    intro h0
    exact h (by simp [base, List.length_eq_zero_iff.mp h0])
  unfold parent
  dsimp only
  split <;> rw [List.length_reverse] <;> omega

end Path

end FlatBlocks.Files
