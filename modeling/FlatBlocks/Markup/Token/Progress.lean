import FlatBlocks.Markup.Token.Scan

/-! Every step of the scanner that goes on leaves a shorter text behind. -/

namespace FlatBlocks.Markup.Token
open FlatBlocks.Text

/-- A reader that never leaves more than it was given. -/
def Shrinks (read : Text → Option Text) : Prop :=
  ∀ s rest, read s = some rest → rest.length ≤ s.length

/-- A construct that leaves at most `n` characters. -/
def Construct.Within (n : Nat) (c : Construct) : Prop :=
  ∀ tokens raw rest, c = .whole tokens raw rest → rest.length ≤ n

theorem skipBlanks_length (s : Text) : (skipBlanks s).length ≤ s.length :=
  length_dropWhile_le isBlank s

/-! ## Searches -/

theorem searchAfter_length {read} (hr : Shrinks read) {passed s before rest}
    (h : searchAfter read passed s = some (before, rest)) :
    before.length + rest.length ≤ passed.length + s.length := by
  induction s generalizing passed with
  | nil =>
    unfold searchAfter at h
    split at h
    · rename_i hs
      cases h
      rw [List.length_reverse]
      exact Nat.add_le_add_left (hr _ _ hs) _
    · cases h
  | cons c t ih =>
    unfold searchAfter at h
    split at h
    · rename_i hs
      cases h
      rw [List.length_reverse]
      exact Nat.add_le_add_left (hr _ _ hs) _
    · have hlater := ih h
      simp only [List.length_cons] at hlater ⊢
      omega

theorem search_length {read} (hr : Shrinks read) {s before rest}
    (h : search read s = some (before, rest)) : before.length + rest.length ≤ s.length := by
  have hlength := searchAfter_length hr h
  rwa [List.length_nil, Nat.zero_add] at hlength

theorem search_rest_length {read} (hr : Shrinks read) {s before rest}
    (h : search read s = some (before, rest)) : rest.length ≤ s.length :=
  Nat.le_trans (Nat.le_add_left _ _) (search_length hr h)

/-! ## Ends of constructs -/

theorem readBracket_shrinks : Shrinks readBracket := by
  intro s rest h
  unfold readBracket at h
  split at h
  · cases h
    exact Nat.le_succ _
  · cases h

/-- A reader that takes a mark and leaves what another one leaves behind blanks. -/
theorem shrinks_of_mark {read next : Text → Option Text} (hnext : Shrinks next)
    (h : ∀ s rest, read s = some rest →
      ∃ mark more, s = mark ++ more ∧ next (skipBlanks more) = some rest) : Shrinks read := by
  intro s rest hread
  obtain ⟨mark, more, rfl, hmore⟩ := h s rest hread
  have hleft := Nat.le_trans (hnext _ _ hmore) (skipBlanks_length more)
  rw [List.length_append]
  exact Nat.le_add_left_of_le hleft

theorem readCommentEnd_shrinks : Shrinks readCommentEnd := by
  refine shrinks_of_mark readBracket_shrinks fun s rest h => ?_
  unfold readCommentEnd at h
  split at h
  · exact ⟨['-', '-'], _, rfl, h⟩
  · cases h

theorem readConditionEnd_shrinks : Shrinks readConditionEnd := by
  refine shrinks_of_mark readBracket_shrinks fun s rest h => ?_
  unfold readConditionEnd at h
  split at h
  · exact ⟨[']'], _, rfl, h⟩
  · cases h

theorem readSectionEnd_shrinks : Shrinks readSectionEnd := by
  refine shrinks_of_mark readConditionEnd_shrinks fun s rest h => ?_
  unfold readSectionEnd at h
  split at h
  · exact ⟨[']'], _, rfl, h⟩
  · cases h

theorem readRawEnd_eq {raw s rest} (h : readRawEnd raw s = some rest) : rest = s := by
  unfold readRawEnd at h
  split at h
  · split at h
    · cases h
      rfl
    · cases h
  · cases h

theorem readRawEnd_shrinks (raw : RawElement) : Shrinks (readRawEnd raw) := by
  intro s rest h
  exact Nat.le_of_eq (congrArg List.length (readRawEnd_eq h))

/-! ## Constructs -/

theorem Construct.Within.mono {n m : Nat} {c : Construct} (h : c.Within n) (hn : n ≤ m) :
    c.Within m := fun tokens raw rest hc => Nat.le_trans (h tokens raw rest hc) hn

theorem upTo_within {read} (hr : Shrinks read) (token : Text → Token) (s : Text) :
    (upTo read token s).Within s.length := by
  intro tokens raw rest h
  unfold upTo at h
  split at h
  · rename_i hs
    cases h
    exact search_rest_length hr hs
  · cases h

theorem readSection_within (s : Text) : (readSection s).Within s.length := by
  intro tokens raw rest h
  unfold readSection at h
  split at h
  · cases h
  split at h
  · cases h
  split at h
  · cases h
  dsimp only at h
  split at h
  · exact upTo_within readSectionEnd_shrinks _ _ _ _ _ h
  split at h
  · exact upTo_within readConditionEnd_shrinks _ _ _ _ _ h
  · cases h

theorem readDeclaration_within (s : Text) : (readDeclaration s).Within s.length := by
  intro tokens raw rest h
  unfold readDeclaration at h
  split at h
  · have hcomment := upTo_within readCommentEnd_shrinks _ _ _ _ _ h
    simp only [List.length_cons]
    omega
  · have hsection := readSection_within _ _ _ _ h
    exact Nat.le_succ_of_le hsection
  · split at h
    · exact upTo_within readBracket_shrinks _ _ _ _ _ h
    · exact upTo_within readBracket_shrinks _ _ _ _ _ h

/-- Whatever an end tag is taken for, what follows its bracket is left. -/
theorem readEnd_rest (raw : Option RawElement) {s content rest : Text}
    (hs : search readBracket s = some (content, rest)) :
    ∃ tokens raw', readEnd raw s = .whole tokens raw' rest := by
  rw [readEnd, hs]
  dsimp only
  split
  · split
    · exact ⟨_, _, rfl⟩
    · exact ⟨_, _, rfl⟩
  · exact ⟨_, _, rfl⟩
  · exact ⟨_, _, rfl⟩
  · split
    · exact ⟨_, _, rfl⟩
    · split
      · exact ⟨_, _, rfl⟩
      · exact ⟨_, _, rfl⟩

theorem readEnd_within (raw : Option RawElement) (s : Text) :
    (readEnd raw s).Within s.length := by
  intro tokens raw' rest h
  cases hs : search readBracket s with
  | none =>
    rw [readEnd, hs] at h
    cases h
  | some found =>
    obtain ⟨_, _, hrest⟩ := readEnd_rest raw hs
    cases hrest.symm.trans h
    exact search_rest_length readBracket_shrinks hs

theorem readStart_within (s : Text) : (readStart s).Within s.length := by
  intro tokens raw rest h
  unfold readStart at h
  split at h
  · cases h
  · rename_i hr
    cases h
    exact Tag.read_broken_length hr
  · cases h
  · rename_i hr
    cases h
    exact Nat.le_of_lt (Tag.read_whole_length hr)
  · rename_i hr
    cases h
    exact Nat.le_of_lt (Tag.read_whole_length hr)

/-! ## Steps -/

theorem takeAsText_length {s tokens raw rest} (h : takeAsText s = .more tokens raw rest) :
    rest.length ≤ s.length := by
  unfold takeAsText at h
  split at h
  · rename_i hs
    cases h
    exact search_rest_length readBracket_shrinks hs
  split at h
  · cases h
    exact Nat.le_refl _
  · cases h
    exact length_dropWhile_le _ s

theorem stepConstruct_length {final s c tokens raw rest} (hc : c.Within s.length)
    (h : stepConstruct final s c = .more tokens raw rest) : rest.length ≤ s.length := by
  unfold stepConstruct at h
  split at h
  · cases h
    exact hc _ _ _ rfl
  · cases h
  · split at h
    · exact takeAsText_length h
    · cases h

theorem stepBracket_length {final s tokens raw rest}
    (h : stepBracket final s = .more tokens raw rest) : rest.length ≤ s.length := by
  unfold stepBracket at h
  split at h
  · cases h
  · exact stepConstruct_length ((readEnd_within _ _).mono (Nat.le_succ _)) h
  · exact stepConstruct_length ((upTo_within readBracket_shrinks _ _).mono (Nat.le_succ _)) h
  · exact stepConstruct_length ((readDeclaration_within _).mono (Nat.le_succ _)) h
  · split at h
    · exact stepConstruct_length (readStart_within _) h
    · cases h
      exact Nat.le_refl _

theorem readNumber_length {s number rest : Text} (h : readNumber s = some (number, rest)) :
    rest.length ≤ s.length := by
  unfold readNumber at h
  split at h
  rename_i mark digits left hmark
  have hleft : left.length ≤ s.length := by
    split at hmark
    · cases hmark
      exact Nat.le_succ_of_le (length_dropWhile_le isHexDigit _)
    · cases hmark
      exact Nat.le_succ_of_le (length_dropWhile_le isHexDigit _)
    · cases hmark
      exact length_dropWhile_le isAsciiDigit s
  split at h
  · split at h
    · cases h
    · cases h
      exact hleft
  · cases h

theorem readReferenceName_length {s name rest : Text}
    (h : readReferenceName s = some (name, rest)) : rest.length ≤ s.length := by
  unfold readReferenceName at h
  dsimp only at h
  split at h
  · rename_i hd
    cases h
    rw [← hd]
    exact length_dropWhile_le _ s
  split at h
  · rename_i mark front hfront
    split at h
    · cases h
    · cases h
      -- the last mark and what follows it are part of the name that was taken
      have hname := congrArg List.length (List.takeWhile_append_dropWhile
        (p := isLetterOrDigit) (l := (s.takeWhile isReferenceNameChar).reverse))
      rw [hfront, List.length_append, List.length_reverse, List.length_cons] at hname
      have htaken := (List.takeWhile_sublist isReferenceNameChar (l := s)).length_le
      rw [List.length_cons, List.length_reverse]
      omega
  · cases h

theorem stepAmpersand_length {final s tokens raw rest}
    (h : stepAmpersand final s = .more tokens raw rest) : rest.length ≤ s.length := by
  unfold stepAmpersand at h
  split at h
  · cases h
  · split at h
    · rename_i hnumber
      split at h
      · cases h
        exact Nat.le_trans (Reference.optionalSemicolon_length _)
          (Nat.le_succ_of_le (readNumber_length hnumber))
      · cases h
    · split at h
      · cases h
      · cases h
  · split at h
    · cases h
      exact Nat.le_refl _
    split at h
    · rename_i hname
      cases h
      exact Nat.le_trans (Reference.optionalSemicolon_length _) (readReferenceName_length hname)
    · split at h
      · cases h
      · cases h

/-- A step in raw content goes on behind an end tag, or takes what stands before one. -/
theorem step_raw_length {final : Bool} {r : RawElement} {s rest : Text} {tokens : List Token}
    {raw : Option RawElement} (h : step final (some r) s = .more tokens raw rest) :
    rest.length < s.length := by
  unfold step at h
  dsimp only at h
  split at h
  · rename_i hs
    have hfound := search_rest_length (readRawEnd_shrinks _) hs
    have hend := stepConstruct_length ((readEnd_within _ _).mono (Nat.le_succ _)) h
    simp only [List.length_cons] at hfound hend
    omega
  · rename_i before t _ hs
    split at h
    · cases h
    · rename_i hbefore
      cases h
      have hfound := search_length (readRawEnd_shrinks _) hs
      have hsome : before.length ≠ 0 := by
        intro hnone
        exact hbefore (by rw [List.length_eq_zero_iff.mp hnone]; rfl)
      omega
  · cases h

theorem step_plain_length {final : Bool} {s rest : Text} {tokens : List Token}
    {raw : Option RawElement} (h : step final none s = .more tokens raw rest) :
    rest.length < s.length := by
  unfold step at h
  dsimp only at h
  split at h
  · cases h
  · exact Nat.lt_succ_of_le (stepBracket_length h)
  · exact Nat.lt_succ_of_le (stepAmpersand_length h)
  · rename_i hnil hbracket hampersand
    cases h
    cases s with
    | nil => exact absurd rfl hnil
    | cons c t =>
      have hplain : isPlain c = true := by
        simp only [isPlain, Bool.not_eq_true', Bool.or_eq_false_iff, beq_eq_false_iff_ne]
        exact ⟨fun he => hampersand t (he ▸ rfl), fun he => hbracket t (he ▸ rfl)⟩
      rw [List.dropWhile_cons_of_pos hplain, List.length_cons]
      exact Nat.lt_succ_of_le (length_dropWhile_le _ t)

theorem step_length {final raw s tokens raw' rest} (h : step final raw s = .more tokens raw' rest) :
    rest.length < s.length := by
  cases raw with
  | some r => exact step_raw_length h
  | none => exact step_plain_length h

end FlatBlocks.Markup.Token
