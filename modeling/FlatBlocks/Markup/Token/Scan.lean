import FlatBlocks.Markup.Token
import FlatBlocks.Markup.Token.Tag

/-! Cutting markup text into tokens. The text is scanned twice: the first pass
stops at a construct that may be incomplete, the second goes on from there and
takes what it cannot read as text. Every step leaves a shorter text behind. -/

namespace FlatBlocks.Markup.Token
open FlatBlocks.Text

/-- The text before the first place where `read` succeeds, and the text that it
leaves there; the characters already `passed` come first, last one first. -/
def searchAfter (read : Text → Option Text) (passed s : Text) : Option (Text × Text) :=
  match read s with
  | some rest => some (passed.reverse, rest)
  | none => match s with
    | [] => none
    | c :: rest => searchAfter read (c :: passed) rest

def search (read : Text → Option Text) (s : Text) : Option (Text × Text) := searchAfter read [] s

/-- The bracket that closes a tag. -/
def readBracket : Text → Option Text
  | .char '>' :: rest => some rest
  | _ => none

def skipBlanks (s : Text) : Text := s.dropWhile isBlank

/-- Two hyphens and a bracket, with blanks between. -/
def readCommentEnd : Text → Option Text
  | .char '-' :: .char '-' :: rest => readBracket (skipBlanks rest)
  | _ => none

def readConditionEnd : Text → Option Text
  | .char ']' :: rest => readBracket (skipBlanks rest)
  | _ => none

def readSectionEnd : Text → Option Text
  | .char ']' :: rest => readConditionEnd (skipBlanks rest)
  | _ => none

/-- Whether a character counts as a small letter where case is ignored: the long
s counts as an s, and both Turkish forms of i as an i. -/
def matchesLetter (letter c : CodePoint) : Bool :=
  asciiLower c == letter || (letter == 's' && c == '\u017F') ||
    (letter == 'i' && (c == '\u0130' || c == '\u0131'))

def readName : Text → Text → Option Text
  | [], s => some s
  | letter :: name, c :: rest => if matchesLetter letter c then readName name rest else none
  | _ :: _, [] => none

/-- The end tag of an element with raw content, which is not passed over. -/
def readRawEnd (raw : RawElement) (s : Text) : Option Text :=
  match s with
  | .char '<' :: .char '/' :: rest =>
    match (readName raw.name (skipBlanks rest)).map skipBlanks with
    | some (.char '>' :: _) => some s
    | _ => none
  | _ => none

/-- What one step of the scanner makes of the head of the text. -/
inductive Step where
  | more (tokens : List Token) (raw : Option RawElement) (rest : Text)
  | stop (tokens : List Token) (rest : Text)
  | reject (cause : Rejection)

/-- A construct that began with a bracket. -/
inductive Construct where
  | whole (tokens : List Token) (raw : Option RawElement) (rest : Text)
  | incomplete
  | rejected (cause : Rejection)

/-- A construct of one token that ends where `read` succeeds. -/
def upTo (read : Text → Option Text) (token : Text → Token) (s : Text) :
    Construct :=
  match search read s with
  | some (content, rest) => .whole [token content] none rest
  | none => .incomplete

def isLetterOrDigit (c : CodePoint) : Bool := isAsciiLetter c || isAsciiDigit c

def isSectionNameChar (c : CodePoint) : Bool :=
  isLetterOrDigit c || c == '-' || c == '_' || c == '.'

/-- A section of character data, or any other marked section. -/
def sectionToken (content : Text) : Token :=
  if (content.take 6).map asciiUpper = "CDATA[" then
    .cdata (content.drop 6)
  else .declaration content

/-- The kinds of sections that end at two closing brackets. -/
def contentSections : List Text := ["temp", "cdata", "ignore", "include", "rcdata"]

/-- The kinds of sections that end at one closing bracket. -/
def conditionSections : List Text := ["if", "else", "endif"]

/-- A marked section, given the text after its opening square bracket. -/
def readSection (s : Text) : Construct :=
  match s with
  | [] => .incomplete
  | c :: rest =>
    if !isAsciiLetter c then .rejected .unnamedSection
    else if (skipBlanks (rest.dropWhile isSectionNameChar)).isEmpty then .incomplete
    else
      let name := (c :: rest.takeWhile isSectionNameChar).map asciiLower
      if contentSections.contains name then
        upTo readSectionEnd sectionToken s
      else if conditionSections.contains name then upTo readConditionEnd sectionToken s
      else .rejected (.unknownSection name)

/-- A declaration, given the text after its exclamation mark. The document type
is what stands after the keyword and one more character. -/
def readDeclaration (s : Text) : Construct :=
  match s with
  | .char '-' :: .char '-' :: rest => upTo readCommentEnd .comment rest
  | .char '[' :: rest => readSection rest
  | s =>
    if (s.take 7).map asciiLower = "doctype" then
      upTo readBracket (fun content => .doctype (content.drop 8)) s
    else upTo readBracket .comment s

def isEndNameChar (c : CodePoint) : Bool :=
  isLetterOrDigit c || c == '-' || c == '.' || c == ':' || c == '_'

/-- The name in an end tag that holds nothing else but blanks. -/
def soleName? (content : Text) : Option Text :=
  match skipBlanks content with
  | c :: rest =>
    if isAsciiLetter c && (rest.dropWhile isEndNameChar).all isBlank then
      some (c :: rest.takeWhile isEndNameChar)
    else none
  | [] => none

/-- An end tag, given the text after its slash. In raw content only the end tag
of the element that holds it counts. -/
def readEnd (raw : Option RawElement) (s : Text) : Construct :=
  match search readBracket s with
  | none => .incomplete
  | some (content, rest) =>
    let asText := Token.text ('<' :: '/' :: (content ++ [.char '>']))
    match raw, soleName? content with
    | some r, some name =>
      if lower name = r.name then .whole [.close (lower name)] none rest
      else .whole [asText] raw rest
    | some _, none => .whole [asText] raw rest
    | none, some name => .whole [.close (lower name)] none rest
    | none, none =>
      match content with
      | [] => .whole [] none rest
      | c :: _ =>
        if isAsciiLetter c then
          .whole [.close (lower (content.takeWhile fun c => !Tag.endsName c))] none rest
        else .whole [.comment content] none rest

/-- A start tag, given the text from its name on. -/
def readStart (s : Text) : Construct :=
  match Tag.read s with
  | .incomplete => .incomplete
  | .broken content rest => .whole [.text ('<' :: content)] none rest
  | .tooLong number => .rejected (.tooLong number)
  | .whole tag attributes true rest => .whole [.selfClosing tag attributes] none rest
  | .whole tag attributes false rest =>
    .whole [.start tag attributes] (RawElement.ofTag? tag) rest

/-- A construct that never ends is text up to the next closing bracket, or else
up to the next opening one, or else one character. -/
def takeAsText (s : Text) : Step :=
  match search readBracket s with
  | some (content, rest) => .more [.text ('<' :: (content ++ [.char '>']))] none rest
  | none =>
    match s.dropWhile (· != .char '<') with
    | [] => .more [.text ['<']] none s
    | rest => .more [.text ('<' :: s.takeWhile (· != .char '<'))] none rest

def stepConstruct (final : Bool) (s : Text) : Construct → Step
  | .whole tokens raw rest => .more tokens raw rest
  | .rejected cause => .reject cause
  | .incomplete => if final then takeAsText s else .stop [] ('<' :: s)

/-- A step at an opening bracket, given the text after it. -/
def stepBracket (final : Bool) (s : Text) : Step :=
  match s with
  | [] => .stop [] ['<']
  | .char '/' :: rest => stepConstruct final s (readEnd none rest)
  | .char '?' :: rest => stepConstruct final s (upTo readBracket .instruction rest)
  | .char '!' :: rest => stepConstruct final s (readDeclaration rest)
  | c :: _ =>
    if isAsciiLetter c then stepConstruct final s (readStart s) else .more [.text ['<']] none s

def isReferenceNameChar (c : CodePoint) : Bool :=
  isLetterOrDigit c || c == '-' || c == '.'

/-- A number after a sharp sign: the text of the reference, from its mark or its
first digit on, and what follows. Something has to follow. -/
def readNumber (s : Text) : Option (Text × Text) :=
  let (mark, digits, rest) : Text × Text × Text := match s with
    | .char 'x' :: t => ("x", t.takeWhile isHexDigit, t.dropWhile isHexDigit)
    | .char 'X' :: t => ("X", t.takeWhile isHexDigit, t.dropWhile isHexDigit)
    | t => ([], t.takeWhile isAsciiDigit, t.dropWhile isAsciiDigit)
  match digits, rest with
  | _ :: _, c :: _ => if isHexDigit c then none else some (mark ++ digits, rest)
  | _, _ => none

/-- The name of a reference that starts with a letter, and what follows. At the
end of the text the last hyphen or point ends the name. -/
def readReferenceName (s : Text) : Option (Text × Text) :=
  let name := s.takeWhile isReferenceNameChar
  match s.dropWhile isReferenceNameChar with
  | c :: rest => some (name, c :: rest)
  | [] =>
    let ending := name.reverse.takeWhile isLetterOrDigit
    match name.reverse.dropWhile isLetterOrDigit with
    | mark :: front => if front.isEmpty then none else some (front.reverse, mark :: ending.reverse)
    | [] => none

/-- A step at an ampersand, given the text after it. -/
def stepAmpersand (final : Bool) (s : Text) : Step :=
  match s with
  | [] => .stop [] ['&']
  | .char '#' :: digits =>
    match readNumber digits with
    | some (number, rest) =>
      match Reference.numericText number with
      | .ok meaning => .more [.text meaning] none (Reference.optionalSemicolon rest).2
      | .error number => .reject (.tooLong number)
    | none => if digits.contains ';' then .stop [.text ['&', '#']] digits else .stop [] ('&' :: s)
  | c :: rest =>
    if !isAsciiLetter c then .more [.text ['&']] none s
    else match readReferenceName s with
      | some (name, rest) =>
        .more [.text (Reference.namedText name)] none (Reference.optionalSemicolon rest).2
      | none => if final && rest.isEmpty then .stop [] s else .stop [] ('&' :: s)

def isPlain (c : CodePoint) : Bool := !(c == '&' || c == '<')

/-- One step at the head of a text. In raw content only the end tag matters. -/
def step (final : Bool) (raw : Option RawElement) (s : Text) : Step :=
  match raw with
  | some r =>
    match search (readRawEnd r) s with
    | some ([], .char '<' :: .char '/' :: rest) =>
      stepConstruct final ('/' :: rest) (readEnd raw rest)
    | some (before, .char '<' :: rest) =>
      if before.isEmpty then .stop [] s else .more [.text before] raw ('<' :: rest)
    | _ => .stop [] s
  | none =>
    match s with
    | [] => .stop [] []
    | .char '<' :: rest => stepBracket final rest
    | .char '&' :: rest => stepAmpersand final rest
    | s => .more [.text (s.takeWhile isPlain)] none (s.dropWhile isPlain)

end FlatBlocks.Markup.Token
