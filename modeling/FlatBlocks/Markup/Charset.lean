import FlatBlocks.Table
import FlatBlocks.Text.Lower

/-! The encoding that a document names for itself in a `meta` element. A document
is written in UTF-8 whatever it was read from, and the name follows. -/

namespace FlatBlocks.Markup.Charset
open FlatBlocks.Text

def utf8 : Text := "utf-8"

def mark : Text := "charset="

/-- Whether a mark may follow a character, given whether it could stand in its
place. It may begin a line or follow a semicolon, with blanks before it. -/
def mayFollow (before : Bool) (c : CodePoint) : Bool :=
  c == ';' || c == '\n' || (before && isBlank c)

/-- Name UTF-8 behind every mark at such a place, instead of all up to the next
semicolon. -/
def renameFrom (before : Bool) : Text → Text
  | [] => []
  | c :: rest =>
    match _h : if before then after? mark (c :: rest) else none with
    | some named => mark ++ (utf8 ++ renameFrom false (named.dropWhile (· != .char ';')))
    | none => c :: renameFrom (mayFollow before c) rest
termination_by s => s.length
decreasing_by
  · have h : after? mark (c :: rest) = some named := by cases before <;> simp_all
    have h1 := length_of_after? h
    have h2 := length_dropWhile_le (· != .char ';') named
    have h3 : mark.length = 8 := rfl
    omega
  · simp

def rename (content : Text) : Text := renameFrom true content

/-- The value under which an attribute of an element is written: a `meta` element
names its encoding in an attribute, or at the end of a content type. -/
def written (tag : Text) (attributes : Table Text) (name value : Text) : Text :=
  if tag != "meta" then value
  else match attributes.get? "charset" with
    | some _ => if name = "charset" then utf8 else value
    | none =>
      if name = "content" && (attributes.get? "http-equiv").map lower == some "content-type" then
        rename value
      else value

end FlatBlocks.Markup.Charset
