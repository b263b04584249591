import FlatBlocks.Markup.Token.Tag
import FlatBlocks.Proofs.Table
import FlatBlocks.Proofs.Text.Whole

/-! # Whole texts and references

No name and no number that is resolved stands for half of a surrogate pair, so references
leave a whole text whole, and so do the attributes of a start tag. -/

namespace FlatBlocks.Markup
open FlatBlocks.Text

namespace Reference

/-! ## Names and numbers -/

theorem looseSpellings_clear : ∀ e ∈ looseSpellings, e.2 < 0xD800 ∨ 0xE000 ≤ e.2 := by
  decide +kernel

theorem strictSpellings_clear : ∀ e ∈ strictSpellings, e.2 < 0xD800 ∨ 0xE000 ≤ e.2 := by
  decide +kernel

theorem pairSpellings_clear : ∀ e ∈ pairSpellings,
    (e.2.1 < 0xD800 ∨ 0xE000 ≤ e.2.1) ∧ (e.2.2 < 0xD800 ∨ 0xE000 ≤ e.2.2) := by
  decide +kernel

theorem whole_looseName {name meaning : Text} (h : looseNames.get? name = some meaning) :
    Whole meaning := by
  obtain ⟨e, he, heq⟩ := List.mem_map.mp (Table.mem_of_get? h)
  cases heq
  exact whole_nil.cons (isSurrogate_ofNat (looseSpellings_clear e he))

theorem whole_named? {name meaning : Text} (h : named? name = some meaning) : Whole meaning := by
  rw [named?, Option.or_eq_some_iff, Option.or_eq_some_iff] at h
  rcases h with h | ⟨_, h | ⟨_, h⟩⟩
  · exact whole_looseName h
  · obtain ⟨e, he, heq⟩ := List.mem_map.mp (Table.mem_of_get? h)
    cases heq
    exact whole_nil.cons (isSurrogate_ofNat (strictSpellings_clear e he))
  · obtain ⟨e, he, heq⟩ := List.mem_map.mp (Table.mem_of_get? h)
    cases heq
    obtain ⟨hfirst, hsecond⟩ := pairSpellings_clear e he
    exact (whole_nil.cons (isSurrogate_ofNat hsecond)).cons (isSurrogate_ofNat hfirst)

theorem whole_namedText {name : Text} (h : Whole name) : Whole (namedText name) := by
  unfold namedText
  cases hnamed : named? name with
  | none => exact h.char '&'
  | some meaning => exact whole_named? hnamed

theorem windows1252_clear : ∀ m ∈ windows1252, m < 0xD800 := by decide

/-- A number that some character has means a character. -/
theorem isSurrogate_remap {n : Nat} (h : isOutside n = false) :
    (CodePoint.ofNat (remap n)).isSurrogate = false := by
  have hclear : n < 0xD800 ∨ 0xE000 ≤ n := by
    simp only [isOutside, Bool.or_eq_false_iff, Bool.and_eq_false_iff, decide_eq_false_iff_not] at h
    omega
  apply isSurrogate_ofNat
  unfold remap
  split
  · exact hclear
  split
  · exact hclear
  · rename_i hm
    exact .inl (windows1252_clear _ (List.mem_of_getElem? hm))
  · exact hclear

theorem whole_ofNumber (n : Nat) : Whole [ofNumber n] := by
  unfold ofNumber
  split
  · exact whole_nil.char _
  · rename_i h
    exact whole_nil.cons (isSurrogate_remap (Bool.eq_false_iff.mpr h))

theorem whole_ofNumberInValue (n : Nat) : Whole (ofNumberInValue n) := by
  unfold ofNumberInValue
  split
  · exact whole_ofString _
  split
  · exact whole_nil
  · rename_i h _
    exact whole_nil.cons (isSurrogate_remap (Bool.eq_false_iff.mpr h))

theorem whole_numericText {digits meaning : Text} (h : numericText digits = .ok meaning) :
    Whole meaning := by
  unfold numericText at h
  cases hnumber : number digits with
  | error e => rw [hnumber] at h; cases h
  | ok n =>
    rw [hnumber] at h
    cases h
    exact whole_ofNumber n

/-! ## Attribute values -/

theorem whole_inValue? {name meaning : Text} (h : inValue? name = some meaning) :
    Whole meaning := by
  unfold inValue? at h
  split at h
  · exact whole_named? h
  · exact whole_looseName h

theorem whole_longestName {name : Text} (hname : Whole name) {n : Nat} {meaning rest : Text}
    (h : longestName name n = some (meaning, rest)) : Whole meaning ∧ Whole rest := by
  fun_induction longestName name n with
  | case1 | case2 => cases h
  | case3 n found hfound =>
    cases h
    exact ⟨whole_inValue? hfound, hname.drop _⟩
  | case4 n _ ih => exact ih h

theorem whole_namedValue {name : Text} (h : Whole name) : Whole (namedValue name) := by
  unfold namedValue
  split
  · rename_i hfound
    obtain ⟨hmeaning, hrest⟩ := whole_longestName h hfound
    exact hmeaning.append hrest
  · exact h.char '&'

theorem whole_optionalSemicolon {s : Text} (h : Whole s) :
    Whole (optionalSemicolon s).1 ∧ Whole (optionalSemicolon s).2 := by
  unfold optionalSemicolon
  split
  · exact ⟨whole_ofString ";", h.tail⟩
  · exact ⟨whole_nil, h⟩

theorem whole_map_number {digits meaning : Text}
    (h : (number digits).map ofNumberInValue = .ok meaning) : Whole meaning := by
  cases hnumber : number digits with
  | error e => rw [hnumber] at h; cases h
  | ok n =>
    rw [hnumber] at h
    cases h
    exact whole_ofNumberInValue n

theorem whole_numeric {mark : CodePoint} {s rest : Text} {meaning : Except TooLong Text}
    (hs : Whole s) (h : readInValue.numeric mark s = some (meaning, rest)) :
    (∀ m, meaning = .ok m → Whole m) ∧ Whole rest := by
  unfold readInValue.numeric at h
  split at h
  · cases h
  · cases h
    exact ⟨fun _ => whole_map_number, (whole_optionalSemicolon (hs.dropWhile _)).2⟩

theorem whole_readInValue {s rest : Text} {meaning : Except TooLong Text} (hs : Whole s)
    (h : readInValue s = some (meaning, rest)) :
    (∀ m, meaning = .ok m → Whole m) ∧ Whole rest := by
  unfold readInValue at h
  split at h
  · exact whole_numeric hs.tail.tail h
  · exact whole_numeric hs.tail.tail h
  · split at h
    · cases h
    · cases h
      exact ⟨fun _ => whole_map_number, (whole_optionalSemicolon (hs.tail.dropWhile _)).2⟩
  · split at h
    · cases h
    · cases h
      obtain ⟨hsemicolon, hrest⟩ := whole_optionalSemicolon
        (hs.drop ((s.take 32).takeWhile isNameChar).length)
      refine ⟨?_, hrest⟩
      rintro _ ⟨⟩
      exact whole_namedValue (((hs.take 32).takeWhile _).append hsemicolon)

theorem whole_resolveAfter {done s value : Text} (hdone : Whole done) (hs : Whole s)
    (h : resolveAfter done s = .ok value) : Whole value := by
  fun_induction resolveAfter done s with
  | case1 done =>
    cases h
    exact hdone.reverse
  | case2 done rest meaning rest' hread ih =>
    obtain ⟨hmeaning, hrest⟩ := whole_readInValue hs.tail hread
    exact ih ((hmeaning _ rfl).reverse.append hdone) hrest h
  | case3 => cases h
  | case4 done rest _ ih => exact ih (hdone.char '&') hs.tail h
  | case5 done c rest _ ih => exact ih (hdone.cons hs.head) hs.tail h

theorem whole_resolve {s value : Text} (hs : Whole s) (h : resolve s = .ok value) :
    Whole value := whole_resolveAfter whole_nil hs h

end Reference

end FlatBlocks.Markup
