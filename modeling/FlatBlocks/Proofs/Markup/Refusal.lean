import FlatBlocks.Markup.Tree
import FlatBlocks.Proofs.Markup.Scanned
import FlatBlocks.Proofs.Markup.Whole.Token

/-! # Why markup is refused

What a scanner leaves is always the end of what it was given. So the cause for which it
refuses a text can be found in the text itself: a marked section without the name of a kind
of section, or a run of decimal digits that is too long. Such a section makes the whole text
be refused, whatever has been read before the scanner comes to it. -/

namespace FlatBlocks.Markup
open FlatBlocks.Text

/-! ## Long numbers -/

/-- The digits of a number that is too long stand in a text. -/
def HoldsLong (s : Text) (number : TooLong) : Prop :=
  ∃ digits, digits <:+: s ∧ (∀ c ∈ digits, isAsciiDigit c = true) ∧
    maxDigits < digits.length ∧ number.digits = digits.length

theorem suffix_two (a b : CodePoint) (s : Text) : s <:+ a :: b :: s := ⟨[a, b], rfl⟩

namespace HoldsLong

variable {s t : Text} {number : TooLong}

theorem mono (h : HoldsLong t number) (ht : t <:+: s) : HoldsLong s number := by
  obtain ⟨digits, hin, hdigits, hlong, hnumber⟩ := h
  exact ⟨digits, hin.trans ht, hdigits, hlong, hnumber⟩

theorem of_cons {c : CodePoint} (hc : isAsciiDigit c = false) (h : HoldsLong (c :: s) number) :
    HoldsLong s number := by
  obtain ⟨digits, hin, hdigits, hlong, hnumber⟩ := h
  rcases List.infix_cons_iff.mp hin with hfront | hin
  · cases digits with
    | nil => cases hlong
    | cons d more =>
      obtain ⟨rfl, -⟩ := List.cons_prefix_cons.mp hfront
      rw [hdigits d List.mem_cons_self] at hc
      cases hc
  · exact ⟨digits, hin, hdigits, hlong, hnumber⟩

end HoldsLong

namespace Reference

theorem holdsLong_of_number {digits : Text} (hdigits : ∀ c ∈ digits, isAsciiDigit c = true)
    {e : TooLong} (h : number digits = .error e) : HoldsLong digits e := by
  unfold number at h
  split at h
  · cases h
  · cases h
  · rw [readDecimal] at h
    split at h
    · rename_i hlong
      cases h
      exact ⟨_, List.infix_rfl, hdigits, hlong, rfl⟩
    · cases h

theorem number_marked {mark : CodePoint} (hmark : mark = 'x' ∨ mark = 'X') (digits : Text) :
    ∃ n, number (mark :: digits) = .ok n := by
  rcases hmark with rfl | rfl <;> exact ⟨_, rfl⟩

theorem optionalSemicolon_suffix (s : Text) : (optionalSemicolon s).2 <:+ s := by
  unfold optionalSemicolon
  split
  · exact List.suffix_cons _ _
  · exact List.suffix_rfl

theorem isAsciiDigit_takeWhile {s : Text} : ∀ c ∈ s.takeWhile isAsciiDigit, isAsciiDigit c = true :=
  fun c hc => List.all_eq_true.mp List.all_takeWhile c hc

theorem numeric_cut {mark : CodePoint} (hmark : mark = 'x' ∨ mark = 'X') {s rest : Text}
    {meaning : Except TooLong Text} (h : readInValue.numeric mark s = some (meaning, rest)) :
    rest <:+ s ∧ ∀ e, meaning ≠ .error e := by
  unfold readInValue.numeric at h
  split at h
  · cases h
  · cases h
    obtain ⟨n, hn⟩ := number_marked hmark (s.takeWhile isHexDigit)
    refine ⟨(optionalSemicolon_suffix _).trans (List.dropWhile_suffix _), fun e he => ?_⟩
    rw [hn] at he
    cases he

/-- A reference in a value leaves the end of the text, and holds the number it fails with. -/
theorem readInValue_cut {s rest : Text} {meaning : Except TooLong Text}
    (h : readInValue s = some (meaning, rest)) :
    rest <:+ s ∧ ∀ e, meaning = .error e → HoldsLong s e := by
  unfold readInValue at h
  split at h
  · obtain ⟨hrest, hnone⟩ := numeric_cut (.inl rfl) h
    exact ⟨hrest.trans (suffix_two _ _ _), fun e he => absurd he (hnone e)⟩
  · obtain ⟨hrest, hnone⟩ := numeric_cut (.inr rfl) h
    exact ⟨hrest.trans (suffix_two _ _ _), fun e he => absurd he (hnone e)⟩
  · rename_i rest' _ _
    split at h
    · cases h
    · cases h
      refine ⟨(optionalSemicolon_suffix _).trans
        ((List.dropWhile_suffix _).trans (List.suffix_cons _ _)), fun e he => ?_⟩
      cases hnumber : number (rest'.takeWhile isAsciiDigit) with
      | ok n => rw [hnumber] at he; cases he
      | error e' =>
        rw [hnumber] at he
        cases he
        exact (holdsLong_of_number isAsciiDigit_takeWhile hnumber).mono
          ((List.takeWhile_prefix _).isInfix.trans (List.suffix_cons _ _).isInfix)
  · split at h
    · cases h
    · cases h
      exact ⟨(optionalSemicolon_suffix _).trans (List.drop_suffix _ _), fun e he => nomatch he⟩

theorem holdsLong_of_resolveAfter {done s : Text} {e : TooLong}
    (h : resolveAfter done s = .error e) : HoldsLong s e := by
  fun_induction resolveAfter done s with
  | case1 => cases h
  | case2 done rest meaning rest' hread ih =>
    exact (ih h).mono ((readInValue_cut hread).1.trans (List.suffix_cons _ _)).isInfix
  | case3 done rest number _ hread =>
    cases h
    exact ((readInValue_cut hread).2 _ rfl).mono (List.suffix_cons _ _).isInfix
  | case4 done rest _ ih => exact (ih h).mono (List.suffix_cons _ _).isInfix
  | case5 done c rest _ ih => exact (ih h).mono (List.suffix_cons _ _).isInfix

end Reference

/-! ## Start tags -/

namespace Tag

theorem skipGap_suffix (s : Text) : skipGap s <:+ s := by
  induction s with
  | nil => exact List.suffix_rfl
  | cons c rest ih =>
    rw [skipGap]
    split
    · exact ih.trans (List.suffix_cons _ _)
    · exact List.suffix_rfl

/-- A value is cut from the text, apart from the sign that may stand before it. -/
theorem readValue_cut {s : Text} {v : Value} (h : readValue s = some v) :
    v.rest <:+ s ∧ ∀ e, HoldsLong v.chars e → HoldsLong s e := by
  have hpadded : (s.dropWhile isBlank).dropWhile (· == .char '=') <:+ s :=
    (List.dropWhile_suffix _).trans (List.dropWhile_suffix _)
  have hvalued := (List.dropWhile_suffix isBlank).trans hpadded
  unfold readValue at h
  simp only at h
  split at h
  · cases h
  split at h
  · cases h
    exact ⟨List.nil_suffix, fun e he => he.mono (List.nil_suffix).isInfix⟩
  · rename_i c rest hcut
    have hrest : rest <:+ s := (List.suffix_cons c rest).trans (hcut ▸ hvalued)
    split at h
    · cases h
      exact ⟨(List.dropWhile_suffix _).trans hvalued, fun e he => he.mono
        ((List.takeWhile_prefix _).isInfix.trans hvalued.isInfix)⟩
    split at h
    · rename_i after hafter
      cases h
      have hleft : after <:+ rest :=
        (List.suffix_cons _ after).trans (hafter ▸ List.dropWhile_suffix _)
      exact ⟨hleft.trans hrest, fun e he => he.mono
        ((List.takeWhile_prefix _).isInfix.trans hrest.isInfix)⟩
    split at h
    · cases h
      exact ⟨hvalued, fun e he => he.mono (List.nil_suffix).isInfix⟩
    split at h
    · cases h
      exact ⟨(List.dropWhile_suffix _).trans hvalued, fun e he => (he.of_cons (by decide)).mono
        ((List.takeWhile_prefix _).isInfix.trans hvalued.isInfix)⟩
    · cases h

/-- The values of attributes hold no longer numbers than a text. -/
def CutEntries (s : Text) (entries : List (Text × Text)) : Prop :=
  ∀ e, ∀ entry ∈ entries, HoldsLong entry.2 e → HoldsLong s e

theorem readAttributes_cut {found : List (Text × Text)} {s whole : Text} (mayBegin : Bool)
    (hs : s <:+ whole) (hfound : CutEntries whole found) :
    (readAttributes found mayBegin s).2 <:+ whole ∧
      CutEntries whole (readAttributes found mayBegin s).1 := by
  fun_induction readAttributes found mayBegin s with
  | case1 found mayBegin =>
    exact ⟨hs, fun e entry hm => hfound e entry (List.mem_reverse.mp hm)⟩
  | case2 found mayBegin c rest _ name after v hread ih =>
    have hafter : after <:+ whole :=
      (List.dropWhile_suffix _).trans ((List.suffix_cons c rest).trans hs)
    obtain ⟨hrest, hchars⟩ := readValue_cut hread
    exact ih ((skipGap_suffix _).trans (hrest.trans hafter)) fun e => List.forall_mem_cons.mpr
      ⟨fun hlong => (hchars e hlong).mono hafter.isInfix, hfound e⟩
  | case3 found mayBegin c rest _ name after _ ih =>
    have hafter : after <:+ whole :=
      (List.dropWhile_suffix _).trans ((List.suffix_cons c rest).trans hs)
    exact ih ((skipGap_suffix _).trans hafter) fun e => List.forall_mem_cons.mpr
      ⟨fun hlong => hlong.mono List.nil_suffix.isInfix, hfound e⟩
  | case4 found mayBegin c rest _ =>
    exact ⟨hs, fun e entry hm => hfound e entry (List.mem_reverse.mp hm)⟩

theorem holdsLong_of_resolveValues {attributes : List (Text × Text)} {e : TooLong}
    (h : resolveValues attributes = .error e) : ∃ entry ∈ attributes, HoldsLong entry.2 e := by
  induction attributes with
  | nil => cases h
  | cons entry rest ih =>
    unfold resolveValues at h
    split at h
    · rename_i hresolve
      cases h
      exact ⟨entry, List.mem_cons_self, Reference.holdsLong_of_resolveAfter hresolve⟩
    · cases hothers : resolveValues rest with
      | ok others => rw [hothers] at h; cases h
      | error e' =>
        rw [hothers] at h
        cases h
        obtain ⟨other, hm, hlong⟩ := ih hothers
        exact ⟨other, List.mem_cons_of_mem _ hm, hlong⟩

/-- What is read of a start tag is cut from a text. -/
def Reading.Cut (s : Text) : Reading → Prop
  | whole _ _ _ rest => rest <:+ s
  | incomplete => True
  | broken _ rest => rest <:+ s
  | tooLong number => HoldsLong s number

theorem cut_resolved {s : Text} {reading : List (Text × Text) → Reading}
    {attributes : List (Text × Text)} (hcut : CutEntries s attributes)
    (h : ∀ resolved, (reading resolved).Cut s) : (Reading.resolved reading attributes).Cut s := by
  unfold Reading.resolved
  split
  · rename_i number hresolve
    obtain ⟨entry, hm, hlong⟩ := holdsLong_of_resolveValues hresolve
    exact hcut number entry hm hlong
  · exact h _

theorem cut_read (s : Text) : (read s).Cut s := by
  have hafter : skipGap (s.dropWhile fun c => !endsName c) <:+ s :=
    (skipGap_suffix _).trans (List.dropWhile_suffix _)
  have hnone : CutEntries s [] := fun _ => List.forall_mem_nil _
  unfold read
  simp only
  obtain ⟨hrest, hentries⟩ := readAttributes_cut
    (opensGap (s.dropWhile fun c => !endsName c) ||
      ((s.takeWhile fun c => !endsName c).getLast?.map admitsAttribute).getD false) hafter hnone
  split
  · rename_i hcut
    rw [hcut] at hrest
    exact cut_resolved hentries fun _ => (List.suffix_cons _ _).trans hrest
  · rename_i hcut
    rw [hcut] at hrest
    exact cut_resolved hentries fun _ => (suffix_two _ _ _).trans hrest
  · exact trivial
  · split
    · exact trivial
    · exact cut_resolved hentries fun _ => hrest

end Tag

namespace Token

/-! ## Marked sections -/

/-- A marked section without the name of a kind of section, from its name on. -/
inductive Misnamed : Text → Rejection → Prop
  | unnamed {c : CodePoint} {rest : Text} (letter : isAsciiLetter c = false) :
      Misnamed (c :: rest) .unnamedSection
  | unknown {c : CodePoint} {rest name : Text} (letter : isAsciiLetter c = true)
      (more : skipBlanks (rest.dropWhile isSectionNameChar) ≠ [])
      (named : name = (c :: rest.takeWhile isSectionNameChar).map asciiLower)
      (content : name ∉ contentSections) (condition : name ∉ conditionSections) :
      Misnamed (c :: rest) (.unknownSection name)

theorem readSection_of_misnamed {s : Text} {cause : Rejection} (h : Misnamed s cause) :
    readSection s = .rejected cause := by
  cases h with
  | unnamed letter => simp [readSection, letter]
  | unknown letter more named content condition =>
    subst named
    simp only [List.map_cons] at content condition
    simp [readSection, letter, more, content, condition]

theorem scan_of_misnamed {s : Text} {cause : Rejection} (h : Misnamed s cause) (final : Bool)
    (found : List Token) :
    scan final found none (.char '<' :: .char '!' :: .char '[' :: s) = .error cause := by
  have hstep : step final none (.char '<' :: .char '!' :: .char '[' :: s) = .reject cause := by
    rw [step, stepBracket, readDeclaration, readSection_of_misnamed h, stepConstruct]
  rw [scan]
  split
  · rename_i heq
    rw [hstep] at heq
    cases heq
  · rename_i heq
    rw [hstep] at heq
    cases heq
  · rename_i heq
    rw [hstep] at heq
    cases heq
    rfl

/-- Where the scanner comes to a misnamed section, the first pass ends and there is no other. -/
theorem ofText_of_misnamed {s rest : Text} {tokens : List Token} {cause : Rejection}
    (hscanned : Scanned s tokens (.char '<' :: .char '!' :: .char '[' :: rest))
    (h : Misnamed rest cause) : ofText s = .error cause := by
  have hfirst : scan false [] none s = .error cause := by
    rw [hscanned false [], scan_of_misnamed h]
  simp only [ofText, hfirst, bind, Except.bind]

/-! ## Steps -/

/-- What in a text makes the scanner refuse it. -/
inductive Explains (s : Text) (cause : Rejection) : Prop
  | misnamed {rest : Text} (opening : .char '<' :: .char '!' :: .char '[' :: rest <:+ s)
      (named : Misnamed rest cause)
  | long {number : TooLong} (digits : HoldsLong s number) (refused : cause = .tooLong number)

theorem Explains.mono {s t : Text} {cause : Rejection} (h : Explains t cause) (ht : t <:+ s) :
    Explains s cause := by
  cases h with
  | misnamed opening named => exact .misnamed (opening.trans ht) named
  | long digits refused => exact .long (digits.mono ht.isInfix) refused

/-- A construct leaves the end of a text, or is refused for what stands in it. -/
def Construct.Cut (s : Text) : Construct → Prop
  | .whole _ _ rest => rest <:+ s
  | .incomplete => True
  | .rejected cause => Explains s cause

/-- A step leaves the end of a text, or refuses it for what stands in it. -/
def Step.Cut (s : Text) : Step → Prop
  | .more _ _ rest => rest <:+ s
  | .stop _ rest => rest <:+ s
  | .reject cause => Explains s cause

theorem Construct.Cut.mono {s t : Text} {construct : Construct} (h : construct.Cut t)
    (ht : t <:+ s) : construct.Cut s := by
  cases construct with
  | whole tokens raw rest => exact List.IsSuffix.trans h ht
  | incomplete => exact trivial
  | rejected cause => exact Explains.mono h ht

theorem Step.Cut.mono {s t : Text} {step : Step} (h : step.Cut t) (ht : t <:+ s) :
    step.Cut s := by
  cases step with
  | more tokens raw rest => exact List.IsSuffix.trans h ht
  | stop tokens rest => exact List.IsSuffix.trans h ht
  | reject cause => exact Explains.mono h ht

theorem searchAfter_suffix {read : Text → Option Text} (hread : Keeps read)
    {passed s before rest : Text} (h : searchAfter read passed s = some (before, rest)) :
    rest <:+ s := by
  induction s generalizing passed with
  | nil =>
    unfold searchAfter at h
    split at h
    · rename_i hr
      cases h
      exact hread _ _ hr
    · cases h
  | cons c t ih =>
    unfold searchAfter at h
    split at h
    · rename_i hr
      cases h
      exact hread _ _ hr
    · exact (ih h).trans (List.suffix_cons c t)

theorem search_suffix {read : Text → Option Text} (hread : Keeps read) {s before rest : Text}
    (h : search read s = some (before, rest)) : rest <:+ s := searchAfter_suffix hread h

theorem cut_upTo {read : Text → Option Text} (hread : Keeps read) (token : Text → Token)
    (s : Text) : (upTo read token s).Cut s := by
  unfold upTo
  split
  · rename_i hsearch
    exact search_suffix hread hsearch
  · exact trivial

/-- A marked section is refused for its name, or for lack of one. -/
theorem cut_readSection (s : Text) :
    (readSection s).Cut (.char '<' :: .char '!' :: .char '[' :: s) := by
  have hs : s <:+ .char '<' :: .char '!' :: .char '[' :: s :=
    ⟨[.char '<', .char '!', .char '['], rfl⟩
  unfold readSection
  split
  · exact trivial
  · rename_i c rest
    split
    · rename_i hletter
      exact .misnamed List.suffix_rfl (.unnamed (by simpa using hletter))
    · rename_i hletter
      split
      · exact trivial
      rename_i hmore
      simp only
      split
      · exact (cut_upTo readSectionEnd_keeps sectionToken _).mono hs
      · rename_i hcontent
        split
        · exact (cut_upTo readConditionEnd_keeps sectionToken _).mono hs
        · rename_i hcondition
          exact .misnamed List.suffix_rfl (.unknown (by simpa using hletter)
            (fun h => hmore (List.isEmpty_iff.mpr h)) rfl
            (fun h => hcontent (List.contains_iff_mem.mpr h))
            fun h => hcondition (List.contains_iff_mem.mpr h))

theorem cut_readDeclaration (s : Text) : (readDeclaration s).Cut (.char '<' :: .char '!' :: s) := by
  unfold readDeclaration
  split
  · exact (cut_upTo readCommentEnd_keeps .comment _).mono
      ((suffix_two _ _ _).trans (suffix_two _ _ _))
  · exact cut_readSection _
  · split
    · exact (cut_upTo readBracket_keeps _ _).mono (suffix_two _ _ _)
    · exact (cut_upTo readBracket_keeps .comment _).mono (suffix_two _ _ _)

theorem cut_readEnd (raw : Option RawElement) (s : Text) : (readEnd raw s).Cut s := by
  unfold readEnd
  split
  · exact trivial
  · rename_i content rest hsearch
    have hrest := search_suffix readBracket_keeps hsearch
    simp only
    split
    · split
      · exact hrest
      · exact hrest
    · exact hrest
    · exact hrest
    · split
      · exact hrest
      · split
        · exact hrest
        · exact hrest

theorem cut_readStart (s : Text) : (readStart s).Cut s := by
  have hread := Tag.cut_read s
  unfold readStart
  split <;> rename_i hcase <;> rw [hcase] at hread
  · exact trivial
  · exact hread
  · exact .long hread rfl
  · exact hread
  · exact hread

theorem cut_takeAsText (s : Text) : (takeAsText s).Cut s := by
  unfold takeAsText
  split
  · rename_i hsearch
    exact search_suffix readBracket_keeps hsearch
  split
  · exact List.suffix_rfl
  · exact List.dropWhile_suffix _

/-- An incomplete construct is left as it is, with its bracket. -/
theorem cut_stepConstruct (final : Bool) {s : Text} {construct : Construct}
    (h : construct.Cut (.char '<' :: s)) :
    (stepConstruct final s construct).Cut (.char '<' :: s) := by
  cases construct with
  | whole tokens raw rest => exact h
  | rejected cause => exact h
  | incomplete =>
    rw [stepConstruct]
    split
    · exact (cut_takeAsText s).mono (List.suffix_cons _ _)
    · exact List.suffix_rfl

theorem cut_stepBracket (final : Bool) (s : Text) : (stepBracket final s).Cut (.char '<' :: s) := by
  unfold stepBracket
  split
  · exact List.suffix_rfl
  · exact cut_stepConstruct final ((cut_readEnd none _).mono (suffix_two _ _ _))
  · exact cut_stepConstruct final ((cut_upTo readBracket_keeps .instruction _).mono
      (suffix_two _ _ _))
  · exact cut_stepConstruct final (cut_readDeclaration _)
  · split
    · exact cut_stepConstruct final ((cut_readStart _).mono (List.suffix_cons _ _))
    · exact List.suffix_cons _ _

/-- The digits of a number in text stand behind its mark. -/
theorem readNumber_cut {s number rest : Text} (h : readNumber s = some (number, rest)) :
    rest <:+ s ∧ ∀ e, Reference.number number = .error e → HoldsLong s e := by
  unfold readNumber at h
  split at h
  rename_i mark digits left hcut
  have hleft : left <:+ s ∧ ∀ e, Reference.number (mark ++ digits) = .error e → HoldsLong s e := by
    split at hcut
    · cases hcut
      exact ⟨(List.dropWhile_suffix _).trans (List.suffix_cons _ _), fun e he => nomatch he⟩
    · cases hcut
      exact ⟨(List.dropWhile_suffix _).trans (List.suffix_cons _ _), fun e he => nomatch he⟩
    · cases hcut
      exact ⟨List.dropWhile_suffix _, fun e he =>
        (Reference.holdsLong_of_number Reference.isAsciiDigit_takeWhile he).mono
          (List.takeWhile_prefix _).isInfix⟩
  split at h
  · split at h
    · cases h
    · cases h
      exact hleft
  · cases h

/-- At the end of a text the last mark of a name is left, with what follows it. -/
theorem readReferenceName_suffix {s name rest : Text}
    (h : readReferenceName s = some (name, rest)) : rest <:+ s := by
  unfold readReferenceName at h
  simp only at h
  split at h
  · rename_i hcut
    cases h
    exact hcut ▸ List.dropWhile_suffix _
  · rename_i hend
    split at h
    · rename_i mark front hcut
      have hname : s.takeWhile isReferenceNameChar = s := by
        have hwhole := List.takeWhile_append_dropWhile (p := isReferenceNameChar) (l := s)
        rwa [hend, List.append_nil] at hwhole
      have hparts := List.takeWhile_append_dropWhile (p := isLetterOrDigit)
        (l := (s.takeWhile isReferenceNameChar).reverse)
      have hsplit := congrArg List.reverse hparts
      rw [hcut, List.reverse_reverse, List.reverse_append, List.reverse_cons, List.append_assoc]
        at hsplit
      split at h
      · cases h
      · cases h
        exact ⟨front.reverse, hsplit.trans hname⟩
    · cases h

theorem error_of_numericText {digits : Text} {e : TooLong}
    (h : Reference.numericText digits = .error e) : Reference.number digits = .error e := by
  unfold Reference.numericText at h
  cases hnumber : Reference.number digits with
  | ok n => rw [hnumber] at h; cases h
  | error e' => rw [hnumber] at h; cases h; rfl

theorem cut_stepAmpersand (final : Bool) (s : Text) :
    (stepAmpersand final s).Cut (.char '&' :: s) := by
  unfold stepAmpersand
  split
  · exact List.suffix_rfl
  · rename_i digits
    have hdigits := suffix_two '&' '#' digits
    split
    · rename_i hnumber
      obtain ⟨hrest, hlong⟩ := readNumber_cut hnumber
      split
      · exact (Reference.optionalSemicolon_suffix _).trans (hrest.trans hdigits)
      · rename_i hmeaning
        exact .long ((hlong _ (error_of_numericText hmeaning)).mono hdigits.isInfix) rfl
    · split
      · exact hdigits
      · exact List.suffix_rfl
  · split
    · exact List.suffix_cons _ _
    split
    · rename_i hread
      exact (Reference.optionalSemicolon_suffix _).trans
        ((readReferenceName_suffix hread).trans (List.suffix_cons _ _))
    split
    · exact List.suffix_cons _ _
    · exact List.suffix_rfl

theorem cut_step (final : Bool) (raw : Option RawElement) (s : Text) :
    (step final raw s).Cut s := by
  unfold step
  split
  · split
    · rename_i hsearch
      exact (cut_stepConstruct final ((cut_readEnd _ _).mono (suffix_two _ _ _))).mono
        (search_suffix (readRawEnd_keeps _) hsearch)
    · rename_i hsearch
      split
      · exact List.suffix_rfl
      · exact search_suffix (readRawEnd_keeps _) hsearch
    · exact List.suffix_rfl
  · split
    · exact List.suffix_rfl
    · exact cut_stepBracket final _
    · exact cut_stepAmpersand final _
    · exact List.dropWhile_suffix _

/-! ## Passes -/

theorem suffix_of_scan {final : Bool} {found : List Token} {raw : Option RawElement} {s : Text}
    {pass : Pass} (h : scan final found raw s = .ok pass) : pass.rest <:+ s := by
  fun_induction scan final found raw s with
  | case1 found raw s tokens raw' rest hstep ih =>
    have hcut := cut_step final raw s
    rw [hstep] at hcut
    exact (ih h).trans hcut
  | case2 found raw s tokens rest hstep =>
    have hcut := cut_step final raw s
    rw [hstep] at hcut
    cases h
    exact hcut
  | case3 => cases h

theorem explains_of_scan {final : Bool} {found : List Token} {raw : Option RawElement} {s : Text}
    {cause : Rejection} (h : scan final found raw s = .error cause) : Explains s cause := by
  fun_induction scan final found raw s with
  | case1 found raw s tokens raw' rest hstep ih =>
    have hcut := cut_step final raw s
    rw [hstep] at hcut
    exact (ih h).mono hcut
  | case2 => cases h
  | case3 found raw s cause' hstep =>
    have hcut := cut_step final raw s
    rw [hstep] at hcut
    cases h
    exact hcut

theorem explains_of_ofText {s : Text} {cause : Rejection} (h : ofText s = .error cause) :
    Explains s cause := by
  unfold ofText at h
  cases hfirst : scan false [] none s with
  | error cause' =>
    rw [hfirst] at h
    cases h
    exact explains_of_scan hfirst
  | ok first =>
    cases hlast : scan true first.found first.raw first.rest with
    | error cause' =>
      simp only [hfirst, hlast, bind, Except.bind] at h
      cases h
      exact (explains_of_scan hlast).mono (suffix_of_scan hfirst)
    | ok last =>
      simp only [hfirst, hlast, bind, Except.bind] at h
      split at h <;> cases h

end Token

/-! ## Documents -/

/-- What makes a text be refused as markup: what the scanner refuses in it, or that it may be a
path and has no bytes. -/
inductive Refuses (s : Text) (cause : Rejection) : Prop
  | scanned (explains : Token.Explains s cause)
  | unencodable (fault : Utf8.Unencodable) (path : mayBePath s = true)
      (encoded : Utf8.encode s = .error fault) (refused : cause = .unencodable fault)

/-- A text is refused that goes on with a misnamed section after what has been scanned. -/
theorem parse_of_misnamed {before rest : Text} {tokens : List Token} {cause : Rejection}
    (hscanned : Token.Scanned (before ++ .char '<' :: .char '!' :: .char '[' :: rest) tokens
      (.char '<' :: .char '!' :: .char '[' :: rest)) (h : Token.Misnamed rest cause) :
    parse (before ++ .char '<' :: .char '!' :: .char '[' :: rest) = .error cause := by
  have hpath : mayBePath (before ++ .char '<' :: .char '!' :: .char '[' :: rest) = false := by
    simp [mayBePath]
  rw [parse, readTree, hpath, Token.ofText_of_misnamed hscanned h]
  cases Utf8.encode (before ++ .char '<' :: .char '!' :: .char '[' :: rest) with
  | error fault => rfl
  | ok bytes => rfl

theorem refuses_of_parse {s : Text} {cause : Rejection} (h : parse s = .error cause) :
    Refuses s cause := by
  have htree : readTree s = .error cause := by
    rw [parse] at h
    cases hread : readTree s with
    | ok items => rw [hread] at h; cases h
    | error cause' => rw [hread] at h; cases h; rfl
  unfold readTree at htree
  split at htree
  · rename_i fault hpath hencode
    cases htree
    exact .unencodable fault hpath hencode rfl
  · cases htokens : Token.ofText s with
    | ok tokens => rw [htokens] at htree; cases htree
    | error cause' =>
      rw [htokens] at htree
      cases htree
      exact .scanned (Token.explains_of_ofText htokens)

end FlatBlocks.Markup
