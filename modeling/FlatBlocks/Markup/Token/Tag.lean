import FlatBlocks.Markup.Reference
import FlatBlocks.Text.Lower

/-! Start tags: the name, the attributes, and where the tag ends. An attribute
begins only after a blank, a slash or a quote. -/

namespace FlatBlocks.Markup.Tag
open FlatBlocks.Text

/-- The characters that end the name of an element. -/
def endsName (c : CodePoint) : Bool :=
  isAsciiBlank c || c == '/' || c == '>' || c == '\x00'

def isQuote (c : CodePoint) : Bool := c == '"' || c == '\''

/-- An attribute may begin right behind these characters. -/
def admitsAttribute (c : CodePoint) : Bool := isQuote c || isBlank c

/-- Blanks and slashes stand between attributes, but a slash before the closing
bracket belongs to the end of the tag. -/
def opensGap : Text → Bool
  | .char '/' :: .char '>' :: _ => false
  | c :: _ => isBlank c || c == '/'
  | [] => false

def skipGap : Text → Text
  | [] => []
  | c :: rest => if opensGap (c :: rest) then skipGap rest else c :: rest

/-- A bare value ends at a blank or at the closing bracket. -/
def isBare (c : CodePoint) : Bool := !(isBlank c || c == '>')

/-- What follows the name of an attribute: its value as it is written, whether
another attribute may begin at once, and the rest. -/
structure Value where
  chars : Text
  mayFollow : Bool
  rest : Text

/-- Read equals signs and a value. A quote that is never closed is no value:
after a blank it begins another attribute; after two equals signs the second
one and what follows make a bare value; otherwise there is no value at all. -/
def readValue (s : Text) : Option Value :=
  let marked := s.dropWhile isBlank
  let signs := marked.takeWhile (· == .char '=')
  let padded := marked.dropWhile (· == .char '=')
  let valued := padded.dropWhile isBlank
  if signs.isEmpty then none
  else match valued with
    | [] => some ⟨[], false, []⟩
    | c :: rest =>
      if !isQuote c then some ⟨valued.takeWhile isBare, false, valued.dropWhile isBare⟩
      else match rest.dropWhile (· != c) with
        | _ :: after => some ⟨rest.takeWhile (· != c), true, after⟩
        | [] =>
          if (padded.head?.map isBlank).getD false then some ⟨[], true, valued⟩
          else if 2 ≤ signs.length then
            some ⟨'=' :: valued.takeWhile isBare, false, valued.dropWhile isBare⟩
          else none

def continuesAttribute (c : CodePoint) : Bool := !(isBlank c || c == '/' || c == '=' || c == '>')

def beginsAttribute (c : CodePoint) : Bool := !(isBlank c || c == '/' || c == '>')

/-- Resolve the references in the values of attributes. -/
def resolveValues : List (Text × Text) → Except TooLong (List (Text × Text))
  | [] => .ok []
  | (name, value) :: rest =>
    match Reference.resolve value with
    | .error number => .error number
    | .ok value => (resolveValues rest).map ((name, value) :: ·)

theorem skipGap_length (s : Text) : (skipGap s).length ≤ s.length := by
  induction s with
  | nil => exact Nat.le_refl _
  | cons c rest ih =>
    rw [skipGap]
    split
    · exact Nat.le_succ_of_le ih
    · exact Nat.le_refl _

theorem readValue_length {s : Text} {v : Value} (h : readValue s = some v) :
    v.rest.length ≤ s.length := by
  have hblank := length_dropWhile_le isBlank s
  have hequals := length_dropWhile_le (· == .char '=') (s.dropWhile isBlank)
  have hvalue := length_dropWhile_le isBlank ((s.dropWhile isBlank).dropWhile (· == .char '='))
  unfold readValue at h
  simp only at h
  split at h
  · cases h
  split at h
  · cases h
    exact Nat.zero_le _
  rename_i c rest hv
  -- Whatever the value is, no more is left than what begins with `c`.
  have hleft : v.rest.length ≤
      (((s.dropWhile isBlank).dropWhile (· == .char '=')).dropWhile isBlank).length := by
    split at h
    · cases h
      exact length_dropWhile_le isBare _
    split at h
    · rename_i hd
      have hquoted := length_dropWhile_le (· != c) rest
      rw [hd] at hquoted
      cases h
      rw [hv]
      exact Nat.le_succ_of_le (Nat.le_of_succ_le hquoted)
    split at h
    · cases h
      exact Nat.le_refl _
    split at h
    · cases h
      exact length_dropWhile_le isBare _
    · cases h
  omega

/-- Read attributes from here on, after those already `found`, last one first. -/
def readAttributes (found : List (Text × Text)) (mayBegin : Bool) (s : Text) :
    List (Text × Text) × Text :=
  match s with
  | [] => (found.reverse, [])
  | c :: rest =>
    if mayBegin && beginsAttribute c then
      let name := c :: rest.takeWhile continuesAttribute
      let after := rest.dropWhile continuesAttribute
      match _h : readValue after with
      | some v =>
        readAttributes ((lower name, v.chars) :: found) (v.mayFollow || opensGap v.rest)
          (skipGap v.rest)
      | none =>
        readAttributes ((lower name, []) :: found)
          (opensGap after || (name.getLast?.map isQuote).getD false) (skipGap after)
    else (found.reverse, s)
termination_by s.length
decreasing_by
  all_goals
    have h1 := length_dropWhile_le continuesAttribute rest
    simp only [List.length_cons]
  · have h2 : v.rest.length ≤ (rest.dropWhile continuesAttribute).length := readValue_length _h
    have h3 := skipGap_length v.rest
    omega
  · have h3 := skipGap_length (rest.dropWhile continuesAttribute)
    omega

theorem readAttributes_length (found : List (Text × Text)) (mayBegin : Bool) (s : Text) :
    (readAttributes found mayBegin s).2.length ≤ s.length := by
  fun_induction readAttributes found mayBegin s with
  | case1 => simp
  | case2 found mayBegin c rest hb name after v hv ih =>
    have h1 := length_dropWhile_le continuesAttribute rest
    have h2 : v.rest.length ≤ (rest.dropWhile continuesAttribute).length := readValue_length hv
    have h3 := skipGap_length v.rest
    simp only [List.length_cons]
    omega
  | case3 found mayBegin c rest hb name after hv ih =>
    have h1 := length_dropWhile_le continuesAttribute rest
    have h3 : (skipGap after).length ≤ (rest.dropWhile continuesAttribute).length :=
      skipGap_length _
    simp only [List.length_cons]
    omega
  | case4 => simp

/-- A start tag without its opening bracket. -/
inductive Reading where
  | whole (tag : Text) (attributes : List (Text × Text)) (selfClosing : Bool) (rest : Text)
  | incomplete
  /-- The tag breaks off at a character that fits nowhere. -/
  | broken (content rest : Text)
  | tooLong (number : TooLong)

/-- The attributes are resolved whether or not the tag breaks off behind them. -/
def Reading.resolved (reading : List (Text × Text) → Reading) (attributes : List (Text × Text)) :
    Reading :=
  match resolveValues attributes with
  | .error number => .tooLong number
  | .ok attributes => reading attributes

/-- Read a start tag, given the text from its name on. -/
def read (s : Text) : Reading :=
  let name := s.takeWhile fun c => !endsName c
  let after := s.dropWhile fun c => !endsName c
  let mayBegin := opensGap after || (name.getLast?.map admitsAttribute).getD false
  let (attributes, rest) := readAttributes [] mayBegin (skipGap after)
  match rest with
  | .char '>' :: rest => .resolved (.whole (lower name) · false rest) attributes
  | .char '/' :: .char '>' :: rest => .resolved (.whole (lower name) · true rest) attributes
  | [] => .incomplete
  | c :: _ =>
    if isAsciiLetter c || c == '=' || c == '/' then .incomplete
    else .resolved (fun _ => .broken (s.take (s.length - rest.length)) rest) attributes

theorem resolved_eq {reading : List (Text × Text) → Reading} {attributes : List (Text × Text)}
    {r : Reading} (h : Reading.resolved reading attributes = r) :
    (∃ number, r = .tooLong number) ∨ ∃ resolved, r = reading resolved := by
  unfold Reading.resolved at h
  split at h
  · exact .inl ⟨_, h.symm⟩
  · exact .inr ⟨_, h.symm⟩

/-- What the attributes of a tag leave. -/
theorem attributes_rest_length (s : Text) (mayBegin : Bool) :
    (readAttributes [] mayBegin (skipGap (s.dropWhile fun c => !endsName c))).2.length ≤
      s.length :=
  calc (readAttributes [] mayBegin (skipGap (s.dropWhile fun c => !endsName c))).2.length
      ≤ (skipGap (s.dropWhile fun c => !endsName c)).length := readAttributes_length _ _ _
    _ ≤ (s.dropWhile fun c => !endsName c).length := skipGap_length _
    _ ≤ s.length := length_dropWhile_le _ s

theorem read_whole_length {s rest : Text} {tag attributes selfClosing}
    (h : read s = .whole tag attributes selfClosing rest) : rest.length < s.length := by
  unfold read at h
  simp only at h
  split at h
  · rename_i hr
    have hleft := hr ▸ attributes_rest_length s _
    rcases resolved_eq h with ⟨_, h⟩ | ⟨_, h⟩
    · cases h
    · cases h
      exact hleft
  · rename_i hr
    have hleft := hr ▸ attributes_rest_length s _
    rcases resolved_eq h with ⟨_, h⟩ | ⟨_, h⟩
    · cases h
    · cases h
      exact Nat.lt_of_succ_lt hleft
  · cases h
  split at h
  · cases h
  rcases resolved_eq h with ⟨_, h⟩ | ⟨_, h⟩
  · cases h
  · cases h

theorem read_broken_length {s content rest : Text} (h : read s = .broken content rest) :
    rest.length ≤ s.length := by
  unfold read at h
  simp only at h
  split at h
  · rcases resolved_eq h with ⟨_, h⟩ | ⟨_, h⟩
    · cases h
    · cases h
  · rcases resolved_eq h with ⟨_, h⟩ | ⟨_, h⟩
    · cases h
    · cases h
  · cases h
  split at h
  · cases h
  rcases resolved_eq h with ⟨_, h⟩ | ⟨_, h⟩
  · cases h
  · cases h
    exact attributes_rest_length s _

end FlatBlocks.Markup.Tag
