import FlatBlocks.Proofs.Text.Utf8
import FlatBlocks.Text.Lower

/-! # Whole texts

Half of a surrogate pair comes to a text only from another text: parts of whole texts are
whole, what is spelled in characters is whole, and so are the text that is read from a file
and the small form of a whole text. -/

namespace FlatBlocks.Text

theorem whole_nil : Whole [] := fun _ hc => by cases hc

theorem Whole.append {s t : Text} (hs : Whole s) (ht : Whole t) : Whole (s ++ t) :=
  fun c hc => (List.mem_append.mp hc).elim (hs c) (ht c)

theorem Whole.cons {c : CodePoint} {t : Text} (hc : c.isSurrogate = false) (ht : Whole t) :
    Whole (c :: t) := List.forall_mem_cons.mpr ⟨hc, ht⟩

theorem Whole.char {t : Text} (c : Char) (ht : Whole t) : Whole (.char c :: t) := ht.cons rfl

theorem Whole.head {c : CodePoint} {t : Text} (h : Whole (c :: t)) : c.isSurrogate = false :=
  h c List.mem_cons_self

theorem Whole.tail {c : CodePoint} {t : Text} (h : Whole (c :: t)) : Whole t :=
  fun d hd => h d (List.mem_cons_of_mem _ hd)

theorem Whole.sublist {s t : Text} (ht : Whole t) (h : s.Sublist t) : Whole s :=
  fun c hc => ht c (h.subset hc)

theorem Whole.reverse {t : Text} (h : Whole t) : Whole t.reverse :=
  fun c hc => h c (List.mem_reverse.mp hc)

theorem Whole.takeWhile {t : Text} (h : Whole t) (p : CodePoint → Bool) : Whole (t.takeWhile p) :=
  h.sublist (List.takeWhile_sublist p)

theorem Whole.dropWhile {t : Text} (h : Whole t) (p : CodePoint → Bool) : Whole (t.dropWhile p) :=
  h.sublist (List.dropWhile_sublist p)

theorem Whole.take {t : Text} (h : Whole t) (n : Nat) : Whole (t.take n) :=
  h.sublist (List.take_sublist n t)

theorem Whole.drop {t : Text} (h : Whole t) (n : Nat) : Whole (t.drop n) :=
  h.sublist (List.drop_sublist n t)

theorem whole_flatten {texts : List Text} (h : ∀ t ∈ texts, Whole t) : Whole texts.flatten := by
  intro c hc
  obtain ⟨t, ht, hc⟩ := List.mem_flatten.mp hc
  exact h t ht c hc

theorem whole_intercalate {between : Text} {texts : List Text} (hbetween : Whole between)
    (h : ∀ t ∈ texts, Whole t) : Whole (List.intercalate between texts) := by
  induction texts with
  | nil => exact whole_nil
  | cons t rest ih =>
    obtain ⟨ht, hrest⟩ := List.forall_mem_cons.mp h
    cases rest with
    | nil =>
      rw [List.intercalate_singleton]
      exact ht
    | cons s rest =>
      rw [List.intercalate_cons_cons]
      exact (ht.append hbetween).append (ih hrest)

theorem whole_of_intercalate {between : Text} {texts : List Text}
    (h : Whole (List.intercalate between texts)) : ∀ t ∈ texts, Whole t := by
  induction texts with
  | nil => exact List.forall_mem_nil _
  | cons t rest ih =>
    cases rest with
    | nil =>
      rw [List.intercalate_singleton] at h
      exact List.forall_mem_singleton.mpr h
    | cons s rest =>
      rw [List.intercalate_cons_cons] at h
      have hfirst := h.sublist (List.sublist_append_left _ _)
      have hothers := h.sublist (List.sublist_append_right _ _)
      exact List.forall_mem_cons.mpr
        ⟨hfirst.sublist (List.sublist_append_left _ _), ih hothers⟩

theorem whole_ofString (s : String) : Whole (ofString s) := by
  intro c hc
  obtain ⟨_, _, rfl⟩ := List.mem_map.mp hc
  rfl

theorem isSurrogate_ofNat {n : Nat} (h : n < 0xD800 ∨ 0xE000 ≤ n) :
    (CodePoint.ofNat n).isSurrogate = false := by
  rw [CodePoint.ofNat, dif_neg (by omega)]
  rfl

/-! ## Texts of files -/

namespace Utf8

theorem whole_decodeFrom {position : Nat} {read t : Text} {pending : Option Pending}
    {bytes : List UInt8} (hread : Whole read) (h : decodeFrom position read pending bytes = .ok t) :
    Whole t := by
  fun_induction decodeFrom position read pending bytes with
  | case1 position read =>
    cases h
    exact hread.reverse
  | case2 | case3 | case6 | case9 => cases h
  | case4 position read b rest bits hopening ih => exact ih (hread.char _) h
  | case7 position read b rest p low high hin bits hdue ih => exact ih (hread.char _) h
  | case5 position read b rest bits due hmore hopening ih => exact ih hread h
  | case8 position read b rest p low high hin bits due hmore hdue ih => exact ih hread h

/-- What is decoded is whole: every sequence of bytes that is complete gives a character. -/
theorem whole_decode {bytes : List UInt8} {t : Text} (h : decode bytes = .ok t) : Whole t :=
  whole_decodeFrom whole_nil h

theorem whole_of_encodeFrom {position : Nat} {written bytes : List UInt8} {t : Text}
    (h : encodeFrom (fun _ => none) position written t = .ok bytes) : Whole t := by
  induction t generalizing position written with
  | nil => exact whole_nil
  | cons c rest ih =>
    cases c with
    | char c =>
      rw [encodeFrom] at h
      exact (ih h).char c
    | surrogate offset => cases h

/-- Only whole texts have a UTF-8 form. -/
theorem whole_of_encode {bytes : List UInt8} {t : Text} (h : encode t = .ok bytes) : Whole t :=
  whole_of_encodeFrom h

theorem whole_unifyLinesAfter {read t : Text} (hread : Whole read) (h : Whole t) :
    Whole (unifyLinesAfter read t) := by
  fun_induction unifyLinesAfter read t with
  | case1 read => exact hread.reverse
  | case2 read rest ih => exact ih (hread.char _) h.tail.tail
  | case3 read c rest hpair ih =>
    refine ih ?_ h.tail
    split
    · exact hread.char _
    · exact hread.cons h.head

theorem whole_unifyLines {t : Text} (h : Whole t) : Whole (unifyLines t) :=
  whole_unifyLinesAfter whole_nil h

end Utf8

/-! ## Small forms -/

/-- No run of small forms reaches the surrogates. -/
theorem smallForms_clear : ∀ r ∈ smallForms, (r.last : Int) + r.shift < 0xD800 ∨
    0xE000 ≤ (r.first : Int) + r.shift := by
  decide +kernel

theorem whole_smallForm {c : CodePoint} (h : c.isSurrogate = false) : Whole (smallForm c) := by
  unfold smallForm
  split
  · cases c with
    | char c => exact whole_nil.char _
    | surrogate offset => cases h
  split
  · exact whole_ofString _
  split
  · rename_i r hr
    have hcovers := List.find?_some hr
    simp only [CaseRun.covers, Bool.and_eq_true, decide_eq_true_eq] at hcovers
    have hclear := smallForms_clear r (List.mem_of_find?_eq_some hr)
    exact whole_nil.cons (isSurrogate_ofNat (by omega))
  · exact whole_nil.cons h

theorem whole_lower {t : Text} (h : Whole t) : Whole (lower t) := by
  have hafter : ∀ before, Whole (lowerAfter before t) := by
    induction t with
    | nil => exact fun _ => whole_nil
    | cons c rest ih =>
      intro before
      rw [lowerAfter]
      refine Whole.append ?_ (ih h.tail _)
      split
      · split
        · exact whole_ofString _
        · exact whole_ofString _
      · exact whole_smallForm h.head
  exact hafter []

end FlatBlocks.Text
