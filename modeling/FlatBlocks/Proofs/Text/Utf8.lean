import FlatBlocks.Text.Utf8
import Mathlib.Data.List.Basic

/-! # Reading UTF-8 back

A text of characters has a UTF-8 form, and from it the text is read back. The form of a
character is a first byte, which says how much is to follow, and up to three more; the
reader takes these bytes one at a time. -/

namespace FlatBlocks.Text

/-- A text made of characters alone. -/
def Whole (t : Text) : Prop := ∀ c ∈ t, c.isSurrogate = false

theorem toNat_bounds {c : CodePoint} (h : c.isSurrogate = false) :
    c.toNat < 0xD800 ∨ 0xE000 ≤ c.toNat ∧ c.toNat < 0x110000 := by
  cases c with
  | char c =>
    have hvalid := c.valid
    simp only [UInt32.isValidChar, Nat.isValidChar] at hvalid
    show c.val.toNat < _ ∨ _ ≤ c.val.toNat ∧ c.val.toNat < _
    omega
  | surrogate _ => cases h

namespace Utf8

/-- The UTF-8 form of the characters of a text. -/
def formOf (t : Text) : List UInt8 :=
  t.flatMap fun
    | .char c => encodeChar c
    | .surrogate _ => []

theorem encodeFrom_eq (byteOf : Fin 0x800 → Option UInt8) (position : Nat) (written : List UInt8)
    {t : Text} (h : Whole t) :
    encodeFrom byteOf position written t = .ok (written.reverse ++ formOf t) := by
  induction t generalizing position written with
  | nil => simp [encodeFrom, formOf]
  | cons c rest ih =>
    obtain ⟨hc, hrest⟩ := List.forall_mem_cons.mp h
    cases c with
    | char c =>
      rw [encodeFrom, ih _ _ hrest]
      simp [formOf]
    | surrogate offset => cases hc

theorem encode_eq {t : Text} (h : Whole t) : encode t = .ok (formOf t) :=
  encodeFrom_eq _ 0 [] h

/-! ## The bytes of one character -/

theorem toNat_toUInt8 {n : Nat} (h : n < 256) : n.toUInt8.toNat = n := by
  rw [UInt8.toNat_ofNat']
  omega

/-- The first of two bytes. -/
theorem opening_two {k : Nat} (h : 2 ≤ k) (h' : k < 32) :
    opening (0xC0 + k).toUInt8 = some (k, [(0x80, 0xBF)]) := by
  have hall : ∀ k : Fin 32, 2 ≤ k.val →
      opening (0xC0 + k.val).toUInt8 = some (k.val, [(0x80, 0xBF)]) := by decide
  exact hall ⟨k, h'⟩ h

/-- The first of three bytes. The second one must not make the form too long, nor that of half
of a pair. -/
theorem opening_three {k : Nat} (h : k < 16) :
    opening (0xE0 + k).toUInt8 = some (k, [(if k = 0 then 0xA0 else 0x80,
      if k = 13 then 0x9F else 0xBF), (0x80, 0xBF)]) := by
  have hall : ∀ k : Fin 16, opening (0xE0 + k.val).toUInt8 =
      some (k.val, [(if k.val = 0 then 0xA0 else 0x80, if k.val = 13 then 0x9F else 0xBF),
        (0x80, 0xBF)]) := by decide
  exact hall ⟨k, h⟩

/-- The first of four bytes. The second one must not make the form too long, nor the number too
large. -/
theorem opening_four {k : Nat} (h : k < 5) :
    opening (0xF0 + k).toUInt8 = some (k, [(if k = 0 then 0x90 else 0x80,
      if k = 4 then 0x8F else 0xBF), (0x80, 0xBF), (0x80, 0xBF)]) := by
  have hall : ∀ k : Fin 5, opening (0xF0 + k.val).toUInt8 =
      some (k.val, [(if k.val = 0 then 0x90 else 0x80, if k.val = 4 then 0x8F else 0xBF),
        (0x80, 0xBF), (0x80, 0xBF)]) := by decide
  exact hall ⟨k, h⟩

section
variable (position : Nat) (read : Text) {rest : List UInt8} {low high : Nat}

theorem decodeFrom_first {b : UInt8} {bits : Nat} {due : Nat × Nat} {more : List (Nat × Nat)}
    (h : opening b = some (bits, due :: more)) :
    decodeFrom position read none (b :: rest) =
      decodeFrom (position + 1) read (some ⟨b, 1, bits, due :: more⟩) rest := by
  rw [decodeFrom, h]

theorem decodeFrom_due {d : Nat} (hlow : low ≤ 0x80 + d) (hhigh : 0x80 + d ≤ high)
    (hd : d < 64) (first : UInt8) (taken bits : Nat) (due : Nat × Nat) (more : List (Nat × Nat)) :
    decodeFrom position read (some ⟨first, taken, bits, (low, high) :: due :: more⟩)
        ((0x80 + d).toUInt8 :: rest) =
      decodeFrom (position + 1) read (some ⟨first, taken + 1, bits * 64 + d, due :: more⟩)
        rest := by
  rw [decodeFrom]
  simp only [toNat_toUInt8 (show 0x80 + d < 256 by omega)]
  rw [if_pos (by simp [hlow, hhigh]), Nat.add_sub_cancel_left]

theorem decodeFrom_last {d : Nat} (hlow : low ≤ 0x80 + d) (hhigh : 0x80 + d ≤ high)
    (hd : d < 64) (first : UInt8) (taken bits : Nat) :
    decodeFrom position read (some ⟨first, taken, bits, [(low, high)]⟩)
        ((0x80 + d).toUInt8 :: rest) =
      decodeFrom (position + 1) (.char (Char.ofNat (bits * 64 + d)) :: read) none rest := by
  rw [decodeFrom]
  simp only [toNat_toUInt8 (show 0x80 + d < 256 by omega)]
  rw [if_pos (by simp [hlow, hhigh]), Nat.add_sub_cancel_left]

end

/-- The bytes of a character are read as the character. -/
theorem decodeFrom_encodeChar (position : Nat) (read : Text) (c : Char) (rest : List UInt8) :
    decodeFrom position read none (encodeChar c ++ rest) =
      decodeFrom (position + (encodeChar c).length) (.char c :: read) none rest := by
  have hbounds : c.toNat < 0xD800 ∨ 0xE000 ≤ c.toNat ∧ c.toNat < 0x110000 :=
    toNat_bounds (c := .char c) rfl
  have hchar : ∀ bits, bits = c.toNat → Char.ofNat bits = c := by
    rintro bits rfl
    exact Char.ofNat_toNat c
  unfold encodeChar
  simp only
  split
  · rename_i hone
    have hopening : opening c.toNat.toUInt8 = some (c.toNat, []) := by
      simp only [opening, toNat_toUInt8 (show c.toNat < 256 by omega), hone, if_true]
    rw [List.cons_append, List.nil_append, decodeFrom, hopening]
    simp [Char.ofNat_toNat]
  split
  · rw [List.cons_append, List.cons_append, List.nil_append,
      decodeFrom_first position read (opening_two (by omega) (by omega)),
      decodeFrom_last _ read (by omega) (by omega) (by omega), hchar _ (by omega)]
    rfl
  split
  · rw [List.cons_append, List.cons_append, List.cons_append, List.nil_append,
      decodeFrom_first position read (opening_three (by omega)),
      decodeFrom_due _ read (by split <;> omega) (by split <;> omega) (by omega),
      decodeFrom_last _ read (by omega) (by omega) (by omega), hchar _ (by omega)]
    rfl
  · rw [List.cons_append, List.cons_append, List.cons_append, List.cons_append, List.nil_append,
      decodeFrom_first position read (opening_four (by omega)),
      decodeFrom_due _ read (by split <;> omega) (by split <;> omega) (by omega),
      decodeFrom_due _ read (by omega) (by omega) (by omega),
      decodeFrom_last _ read (by omega) (by omega) (by omega), hchar _ (by omega)]
    rfl

/-! ## Whole texts -/

theorem decodeFrom_formOf (position : Nat) (read : Text) {t : Text} (h : Whole t) :
    decodeFrom position read none (formOf t) = .ok (read.reverse ++ t) := by
  induction t generalizing position read with
  | nil => simp [formOf, decodeFrom]
  | cons c rest ih =>
    obtain ⟨hc, hrest⟩ := List.forall_mem_cons.mp h
    cases c with
    | char c =>
      have hform : formOf (.char c :: rest) = encodeChar c ++ formOf rest := rfl
      rw [hform, decodeFrom_encodeChar, ih _ _ hrest]
      simp
    | surrogate offset => cases hc

/-- A text of characters is read back from its UTF-8 form. -/
theorem decode_formOf {t : Text} (h : Whole t) : decode (formOf t) = .ok t :=
  decodeFrom_formOf 0 [] h

/-- Without carriage returns line ends are unified already. -/
theorem unifyLinesAfter_eq (read : Text) {t : Text} (h : .char '\x0d' ∉ t) :
    unifyLinesAfter read t = read.reverse ++ t := by
  induction t generalizing read with
  | nil => simp [unifyLinesAfter]
  | cons c rest ih =>
    obtain ⟨hc, hrest⟩ := not_or.mp (mt List.mem_cons.mpr h)
    rw [unifyLinesAfter, ih _ hrest, if_neg (Ne.symm hc)]
    · simp
    · exact fun _ heq _ => hc heq.symm

theorem unifyLines_eq {t : Text} (h : .char '\x0d' ∉ t) : unifyLines t = t :=
  unifyLinesAfter_eq [] h

end Utf8

end FlatBlocks.Text
