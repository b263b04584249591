import FlatBlocks.Text.Utf8

/-! The tokens that markup text is cut into, and the elements whose content is
no markup. -/

namespace FlatBlocks.Markup
open FlatBlocks.Text

/-- An element whose content is text up to its end tag. -/
inductive RawElement where
  | script
  | style
  deriving DecidableEq, Repr

def RawElement.name : RawElement → Text
  | script => "script"
  | style => "style"

def RawElement.ofTag? (tag : Text) : Option RawElement :=
  if tag = "script" then some .script else if tag = "style" then some .style else none

/-- Tags are in small letters, and attributes stand in the order of the source
with their references resolved. Text comes in pieces, resolved as well. -/
inductive Token where
  | text (content : Text)
  | start (tag : Text) (attributes : List (Text × Text))
  | selfClosing (tag : Text) (attributes : List (Text × Text))
  | close (tag : Text)
  | comment (content : Text)
  | cdata (content : Text)
  | doctype (content : Text)
  | declaration (content : Text)
  | instruction (content : Text)
  deriving DecidableEq, Repr

/-- Why a text is refused as a whole: a marked section has to begin with the
name of a kind of section, a number must not be too long, and a short text that
could be a path needs a UTF-8 form. -/
inductive Rejection where
  | unnamedSection
  | unknownSection (name : Text)
  | tooLong (number : TooLong)
  | unencodable (cause : Utf8.Unencodable)
  deriving DecidableEq, Repr

end FlatBlocks.Markup
