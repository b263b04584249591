import FlatBlocks.Markup.Token.Stream
import FlatBlocks.Proofs.Markup.Whole.Reference

/-! # Whole texts and their tokens

The tokens of a whole text hold whole texts alone. Every reader leaves a part of what it was
given, every construct is cut from it, and so every step of the scanner keeps what it has
found and what is left whole. -/

namespace FlatBlocks.Markup
open FlatBlocks.Text

/-- Attributes whose names and values are whole. -/
def WholeEntries (attributes : List (Text × Text)) : Prop :=
  ∀ e ∈ attributes, Whole e.1 ∧ Whole e.2

namespace Tag

theorem whole_skipGap {s : Text} (h : Whole s) : Whole (skipGap s) := by
  induction s with
  | nil => exact whole_nil
  | cons c rest ih =>
    rw [skipGap]
    split
    · exact ih h.tail
    · exact h

theorem whole_readValue {s : Text} {v : Value} (hs : Whole s) (h : readValue s = some v) :
    Whole v.chars ∧ Whole v.rest := by
  have hpadded := (hs.dropWhile isBlank).dropWhile (· == .char '=')
  have hvalued := hpadded.dropWhile isBlank
  unfold readValue at h
  simp only at h
  split at h
  · cases h
  split at h
  · cases h
    exact ⟨whole_nil, whole_nil⟩
  · rename_i c rest hcut
    have hrest : Whole rest := Whole.tail (hcut ▸ hvalued)
    split at h
    · cases h
      exact ⟨hvalued.takeWhile isBare, hvalued.dropWhile isBare⟩
    split at h
    · rename_i after hafter
      cases h
      exact ⟨hrest.takeWhile _, Whole.tail (hafter ▸ hrest.dropWhile (· != c))⟩
    split at h
    · cases h
      exact ⟨whole_nil, hvalued⟩
    split at h
    · cases h
      exact ⟨(hvalued.takeWhile isBare).char '=', hvalued.dropWhile isBare⟩
    · cases h

theorem whole_readAttributes {found : List (Text × Text)} {s : Text} (hfound : WholeEntries found)
    (hs : Whole s) (mayBegin : Bool) :
    WholeEntries (readAttributes found mayBegin s).1 ∧
      Whole (readAttributes found mayBegin s).2 := by
  fun_induction readAttributes found mayBegin s with
  | case1 found mayBegin => exact ⟨fun e he => hfound e (List.mem_reverse.mp he), hs⟩
  | case2 found mayBegin c rest _ name after v hread ih =>
    have hname : Whole name := (hs.tail.takeWhile continuesAttribute).cons hs.head
    obtain ⟨hchars, hrest⟩ := whole_readValue (hs.tail.dropWhile continuesAttribute) hread
    exact ih (List.forall_mem_cons.mpr ⟨⟨whole_lower hname, hchars⟩, hfound⟩)
      (whole_skipGap hrest)
  | case3 found mayBegin c rest _ name after _ ih =>
    have hname : Whole name := (hs.tail.takeWhile continuesAttribute).cons hs.head
    exact ih (List.forall_mem_cons.mpr ⟨⟨whole_lower hname, whole_nil⟩, hfound⟩)
      (whole_skipGap (hs.tail.dropWhile continuesAttribute))
  | case4 found mayBegin c rest _ => exact ⟨fun e he => hfound e (List.mem_reverse.mp he), hs⟩

theorem whole_resolveValues {attributes resolved : List (Text × Text)}
    (hentries : WholeEntries attributes) (h : resolveValues attributes = .ok resolved) :
    WholeEntries resolved := by
  induction attributes generalizing resolved with
  | nil =>
    cases h
    exact hentries
  | cons e rest ih =>
    obtain ⟨⟨hname, hvalue⟩, hrest⟩ := List.forall_mem_cons.mp hentries
    unfold resolveValues at h
    split at h
    · cases h
    · rename_i value hresolve
      cases hothers : resolveValues rest with
      | error number => rw [hothers] at h; cases h
      | ok others =>
        rw [hothers] at h
        cases h
        exact List.forall_mem_cons.mpr
          ⟨⟨hname, Reference.whole_resolve hvalue hresolve⟩, ih hrest hothers⟩

/-- All that has been read of a start tag is whole. -/
def Reading.Whole : Reading → Prop
  | whole tag attributes _ rest => Text.Whole tag ∧ WholeEntries attributes ∧ Text.Whole rest
  | incomplete => True
  | broken content rest => Text.Whole content ∧ Text.Whole rest
  | tooLong _ => True

theorem whole_resolved {reading : List (Text × Text) → Reading} {attributes : List (Text × Text)}
    (hentries : WholeEntries attributes)
    (h : ∀ resolved, WholeEntries resolved → (reading resolved).Whole) :
    (Reading.resolved reading attributes).Whole := by
  unfold Reading.resolved
  split
  · exact trivial
  · rename_i resolved hresolve
    exact h resolved (whole_resolveValues hentries hresolve)

theorem whole_read {s : Text} (h : Whole s) : (read s).Whole := by
  have hname := whole_lower (h.takeWhile fun c => !endsName c)
  unfold read
  simp only
  have hnone : WholeEntries [] := List.forall_mem_nil _
  obtain ⟨hentries, hrest⟩ := whole_readAttributes hnone
    (whole_skipGap (h.dropWhile fun c => !endsName c))
    (opensGap (s.dropWhile fun c => !endsName c) ||
      ((s.takeWhile fun c => !endsName c).getLast?.map admitsAttribute).getD false)
  split
  · rename_i hcut
    rw [hcut] at hrest
    exact whole_resolved hentries fun _ hresolved => ⟨hname, hresolved, hrest.tail⟩
  · rename_i hcut
    rw [hcut] at hrest
    exact whole_resolved hentries fun _ hresolved => ⟨hname, hresolved, hrest.tail.tail⟩
  · exact trivial
  · split
    · exact trivial
    · exact whole_resolved hentries fun _ _ => ⟨h.take _, hrest⟩

end Tag

namespace Token

/-- A token that says nothing but characters. -/
def Whole : Token → Prop
  | text content => Text.Whole content
  | start tag attributes => Text.Whole tag ∧ WholeEntries attributes
  | selfClosing tag attributes => Text.Whole tag ∧ WholeEntries attributes
  | close tag => Text.Whole tag
  | comment content => Text.Whole content
  | cdata content => Text.Whole content
  | doctype content => Text.Whole content
  | declaration content => Text.Whole content
  | instruction content => Text.Whole content

def AllWhole (tokens : List Token) : Prop := ∀ token ∈ tokens, token.Whole

theorem allWhole_nil : AllWhole [] := fun _ h => by cases h

theorem allWhole_one {token : Token} (h : token.Whole) : AllWhole [token] := by
  intro other hm
  rw [List.mem_singleton.mp hm]
  exact h

theorem AllWhole.reverse_append {tokens found : List Token} (h : AllWhole tokens)
    (hfound : AllWhole found) : AllWhole (tokens.reverse ++ found) := by
  intro token hm
  rcases List.mem_append.mp hm with hm | hm
  · exact h token (List.mem_reverse.mp hm)
  · exact hfound token hm

def Step.Whole : Step → Prop
  | .more tokens _ rest => AllWhole tokens ∧ Text.Whole rest
  | .stop tokens rest => AllWhole tokens ∧ Text.Whole rest
  | .reject _ => True

def Construct.Whole : Construct → Prop
  | .whole tokens _ rest => AllWhole tokens ∧ Text.Whole rest
  | .incomplete => True
  | .rejected _ => True

/-! ## Readers -/

/-- A reader that leaves a part of what it was given. -/
def Keeps (read : Text → Option Text) : Prop := ∀ s rest, read s = some rest → rest <:+ s

theorem skipBlanks_suffix (s : Text) : skipBlanks s <:+ s := List.dropWhile_suffix isBlank

theorem readBracket_keeps : Keeps readBracket := by
  intro s rest h
  unfold readBracket at h
  split at h
  · cases h
    exact List.suffix_cons _ _
  · cases h

theorem readCommentEnd_keeps : Keeps readCommentEnd := by
  intro s rest h
  unfold readCommentEnd at h
  split at h
  · rename_i t
    have hleft := (readBracket_keeps _ _ h).trans (skipBlanks_suffix t)
    exact hleft.trans ((List.suffix_cons _ t).trans (List.suffix_cons _ _))
  · cases h

theorem readConditionEnd_keeps : Keeps readConditionEnd := by
  intro s rest h
  unfold readConditionEnd at h
  split at h
  · rename_i t
    exact ((readBracket_keeps _ _ h).trans (skipBlanks_suffix t)).trans (List.suffix_cons _ t)
  · cases h

theorem readSectionEnd_keeps : Keeps readSectionEnd := by
  intro s rest h
  unfold readSectionEnd at h
  split at h
  · rename_i t
    exact ((readConditionEnd_keeps _ _ h).trans (skipBlanks_suffix t)).trans (List.suffix_cons _ t)
  · cases h

theorem readRawEnd_keeps (raw : RawElement) : Keeps (readRawEnd raw) := by
  intro s rest h
  exact readRawEnd_eq h ▸ List.suffix_rfl

theorem whole_searchAfter {read : Text → Option Text} (hread : Keeps read)
    {passed s before rest : Text} (hpassed : Text.Whole passed) (hs : Text.Whole s)
    (h : searchAfter read passed s = some (before, rest)) :
    Text.Whole before ∧ Text.Whole rest := by
  induction s generalizing passed with
  | nil =>
    unfold searchAfter at h
    split at h
    · rename_i hr
      cases h
      exact ⟨hpassed.reverse, hs.sublist (hread _ _ hr).sublist⟩
    · cases h
  | cons c t ih =>
    unfold searchAfter at h
    split at h
    · rename_i hr
      cases h
      exact ⟨hpassed.reverse, hs.sublist (hread _ _ hr).sublist⟩
    · exact ih (hpassed.cons hs.head) hs.tail h

theorem whole_search {read : Text → Option Text} (hread : Keeps read) {s before rest : Text}
    (hs : Text.Whole s) (h : search read s = some (before, rest)) :
    Text.Whole before ∧ Text.Whole rest :=
  whole_searchAfter hread whole_nil hs h

/-! ## Constructs -/

theorem whole_upTo {read : Text → Option Text} (hread : Keeps read) (token : Text → Token)
    (htoken : ∀ content, Text.Whole content → (token content).Whole) {s : Text}
    (hs : Text.Whole s) :
    (upTo read token s).Whole := by
  unfold upTo
  split
  · rename_i hsearch
    obtain ⟨hcontent, hrest⟩ := whole_search hread hs hsearch
    exact ⟨allWhole_one (htoken _ hcontent), hrest⟩
  · exact trivial

theorem whole_sectionToken {content : Text} (h : Text.Whole content) :
    (sectionToken content).Whole := by
  unfold sectionToken
  split
  · exact h.drop 6
  · exact h

theorem whole_readSection {s : Text} (h : Text.Whole s) : (readSection s).Whole := by
  unfold readSection
  split
  · exact trivial
  split
  · exact trivial
  split
  · exact trivial
  simp only
  split
  · exact whole_upTo readSectionEnd_keeps sectionToken (fun _ => whole_sectionToken) h
  split
  · exact whole_upTo readConditionEnd_keeps sectionToken (fun _ => whole_sectionToken) h
  · exact trivial

theorem whole_readDeclaration {s : Text} (h : Text.Whole s) : (readDeclaration s).Whole := by
  unfold readDeclaration
  split
  · exact whole_upTo readCommentEnd_keeps .comment (fun _ hc => hc) h.tail.tail
  · exact whole_readSection h.tail
  · split
    · exact whole_upTo readBracket_keeps (fun c => .doctype (c.drop 8)) (fun _ hc => hc.drop 8) h
    · exact whole_upTo readBracket_keeps .comment (fun _ hc => hc) h

theorem whole_soleName? {content name : Text} (h : Text.Whole content)
    (hname : soleName? content = some name) : Text.Whole name := by
  unfold soleName? at hname
  split at hname
  · rename_i c rest hcut
    have hsole : Text.Whole (c :: rest) := hcut ▸ h.dropWhile isBlank
    split at hname
    · cases hname
      exact (hsole.tail.takeWhile isEndNameChar).cons hsole.head
    · cases hname
  · cases hname

theorem whole_readEnd (raw : Option RawElement) {s : Text} (h : Text.Whole s) :
    (readEnd raw s).Whole := by
  unfold readEnd
  split
  · exact trivial
  · rename_i content rest hsearch
    obtain ⟨hcontent, hrest⟩ := whole_search readBracket_keeps h hsearch
    have htext : AllWhole [.text ('<' :: '/' :: (content ++ [.char '>']))] :=
      allWhole_one (((hcontent.append (whole_nil.char '>')).char '/').char '<')
    simp only
    split
    · rename_i hname
      split
      · exact ⟨allWhole_one (whole_lower (whole_soleName? hcontent hname)), hrest⟩
      · exact ⟨htext, hrest⟩
    · exact ⟨htext, hrest⟩
    · rename_i hname
      exact ⟨allWhole_one (whole_lower (whole_soleName? hcontent hname)), hrest⟩
    · split
      · exact ⟨allWhole_nil, hrest⟩
      · split
        · exact ⟨allWhole_one (whole_lower (hcontent.takeWhile _)), hrest⟩
        · exact ⟨allWhole_one hcontent, hrest⟩

theorem whole_readStart {s : Text} (h : Text.Whole s) : (readStart s).Whole := by
  have hread := Tag.whole_read h
  unfold readStart
  split <;> rename_i hcase <;> rw [hcase] at hread
  · exact trivial
  · exact ⟨allWhole_one (hread.1.char '<'), hread.2⟩
  · exact trivial
  · exact ⟨allWhole_one (⟨hread.1, hread.2.1⟩), hread.2.2⟩
  · exact ⟨allWhole_one (⟨hread.1, hread.2.1⟩), hread.2.2⟩

/-! ## Steps -/

theorem whole_takeAsText {s : Text} (h : Text.Whole s) : (takeAsText s).Whole := by
  unfold takeAsText
  split
  · rename_i hsearch
    obtain ⟨hcontent, hrest⟩ := whole_search readBracket_keeps h hsearch
    exact ⟨allWhole_one ((hcontent.append (whole_nil.char '>')).char '<'), hrest⟩
  split
  · exact ⟨allWhole_one (whole_nil.char '<'), h⟩
  · exact ⟨allWhole_one ((h.takeWhile _).char '<'), h.dropWhile _⟩

theorem whole_stepConstruct (final : Bool) {s : Text} (h : Text.Whole s) {construct : Construct}
    (hconstruct : construct.Whole) : (stepConstruct final s construct).Whole := by
  cases construct with
  | whole tokens raw rest => exact hconstruct
  | rejected cause => exact trivial
  | incomplete =>
    rw [stepConstruct]
    split
    · exact whole_takeAsText h
    · exact ⟨allWhole_nil, h.char '<'⟩

theorem whole_stepBracket (final : Bool) {s : Text} (h : Text.Whole s) :
    (stepBracket final s).Whole := by
  unfold stepBracket
  split
  · exact ⟨allWhole_nil, whole_nil.char '<'⟩
  · exact whole_stepConstruct final h (whole_readEnd none h.tail)
  · exact whole_stepConstruct final h
      (whole_upTo readBracket_keeps .instruction (fun _ hc => hc) h.tail)
  · exact whole_stepConstruct final h (whole_readDeclaration h.tail)
  · split
    · exact whole_stepConstruct final h (whole_readStart h)
    · exact ⟨allWhole_one (whole_nil.char '<'), h⟩

theorem whole_readNumber {s number rest : Text} (hs : Text.Whole s)
    (h : readNumber s = some (number, rest)) : Text.Whole rest := by
  unfold readNumber at h
  split at h
  rename_i mark digits left hcut
  have hleft : Text.Whole left := by
    split at hcut <;> cases hcut
    · exact hs.tail.dropWhile _
    · exact hs.tail.dropWhile _
    · exact hs.dropWhile _
  split at h
  · split at h
    · cases h
    · cases h
      exact hleft
  · cases h

theorem whole_readReferenceName {s name rest : Text} (hs : Text.Whole s)
    (h : readReferenceName s = some (name, rest)) : Text.Whole name ∧ Text.Whole rest := by
  have hname := hs.takeWhile isReferenceNameChar
  have hleft := hs.dropWhile isReferenceNameChar
  have hending := (hname.reverse.takeWhile isLetterOrDigit).reverse
  have hfront := hname.reverse.dropWhile isLetterOrDigit
  unfold readReferenceName at h
  simp only at h
  split at h
  · rename_i hcut
    cases h
    exact ⟨hname, hcut ▸ hleft⟩
  split at h
  · rename_i mark front hcut
    rw [hcut] at hfront
    split at h
    · cases h
    · cases h
      exact ⟨hfront.tail.reverse, hending.cons hfront.head⟩
  · cases h

theorem whole_stepAmpersand (final : Bool) {s : Text} (h : Text.Whole s) :
    (stepAmpersand final s).Whole := by
  unfold stepAmpersand
  split
  · exact ⟨allWhole_nil, whole_nil.char '&'⟩
  · split
    · rename_i hnumber
      have hrest := (Reference.whole_optionalSemicolon (whole_readNumber h.tail hnumber)).2
      split
      · rename_i hmeaning
        exact ⟨allWhole_one (Reference.whole_numericText hmeaning), hrest⟩
      · exact trivial
    · split
      · exact ⟨allWhole_one ((whole_nil.char '#').char '&'), h.tail⟩
      · exact ⟨allWhole_nil, h.char '&'⟩
  · split
    · exact ⟨allWhole_one (whole_nil.char '&'), h⟩
    split
    · rename_i hread
      obtain ⟨hname, hrest⟩ := whole_readReferenceName h hread
      exact ⟨allWhole_one (Reference.whole_namedText hname),
        (Reference.whole_optionalSemicolon hrest).2⟩
    split
    · exact ⟨allWhole_nil, h⟩
    · exact ⟨allWhole_nil, h.char '&'⟩

theorem whole_step (final : Bool) (raw : Option RawElement) {s : Text} (h : Text.Whole s) :
    (step final raw s).Whole := by
  unfold step
  split
  · split
    · rename_i hsearch
      have hrest := (whole_search (readRawEnd_keeps _) h hsearch).2
      exact whole_stepConstruct final hrest.tail (whole_readEnd _ hrest.tail.tail)
    · rename_i hsearch
      obtain ⟨hbefore, hrest⟩ := whole_search (readRawEnd_keeps _) h hsearch
      split
      · exact ⟨allWhole_nil, h⟩
      · exact ⟨allWhole_one hbefore, hrest⟩
    · exact ⟨allWhole_nil, h⟩
  · split
    · exact ⟨allWhole_nil, whole_nil⟩
    · exact whole_stepBracket final h.tail
    · exact whole_stepAmpersand final h.tail
    · exact ⟨allWhole_one (h.takeWhile isPlain), h.dropWhile isPlain⟩

/-! ## Passes -/

theorem whole_scan {final : Bool} {found : List Token} {raw : Option RawElement} {s : Text}
    {pass : Pass} (hfound : AllWhole found) (hs : Text.Whole s)
    (h : scan final found raw s = .ok pass) : AllWhole pass.found ∧ Text.Whole pass.rest := by
  fun_induction scan final found raw s with
  | case1 found raw s tokens raw' rest hstep ih =>
    have hwhole := whole_step final raw hs
    rw [hstep] at hwhole
    exact ih (hwhole.1.reverse_append hfound) hwhole.2 h
  | case2 found raw s tokens rest hstep =>
    have hwhole := whole_step final raw hs
    rw [hstep] at hwhole
    cases h
    exact ⟨hwhole.1.reverse_append hfound, hwhole.2⟩
  | case3 => cases h

/-- The tokens of a whole text say nothing but characters. -/
theorem whole_ofText {s : Text} {tokens : List Token} (hs : Text.Whole s)
    (h : ofText s = .ok tokens) :
    AllWhole tokens := by
  unfold ofText at h
  cases hfirst : scan false [] none s with
  | error cause => rw [hfirst] at h; cases h
  | ok first =>
    obtain ⟨hfound, hrest⟩ := whole_scan allWhole_nil hs hfirst
    cases hlast : scan true first.found first.raw first.rest with
    | error cause =>
      simp only [hfirst, hlast, bind, Except.bind] at h
      cases h
    | ok last =>
      obtain ⟨hfound, hrest⟩ := whole_scan hfound hrest hlast
      simp only [hfirst, hlast, bind, Except.bind] at h
      split at h
      · cases h
        exact fun token hm => hfound token (List.mem_reverse.mp hm)
      · cases h
        intro token hm
        rcases List.mem_cons.mp (List.mem_reverse.mp hm) with rfl | hm
        · exact hrest
        · exact hfound token hm

end Token

end FlatBlocks.Markup
