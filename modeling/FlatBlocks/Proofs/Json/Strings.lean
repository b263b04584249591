import FlatBlocks.Json.Reader
import FlatBlocks.Json.Writer
import FlatBlocks.Proofs.Text.Utf8
import Mathlib.Data.List.Basic

/-! # Strings in JSON

A string that was written is read back as it was, whatever characters it is made of. The
reader takes one escape after the other, so it is enough to know what it makes of the
escape of one character. A character beyond U+FFFF is written as two escapes, which the
reader takes at once. -/

namespace FlatBlocks.Json
open FlatBlocks.Text

/-! ## Hexadecimal digits -/

theorem isHexDigit_digitChar {d : Nat} (h : d < 16) : isHexDigit (Nat.digitChar d) = true := by
  have hall : ∀ d : Fin 16, isHexDigit (Nat.digitChar d) = true := by decide
  exact hall ⟨d, h⟩

theorem all_hex (width n : Nat) : (hex width n).all isHexDigit = true := by
  induction width generalizing n with
  | zero => rfl
  | succ width ih => simp [hex, ih, isHexDigit_digitChar (Nat.mod_lt n (by decide : 0 < 16))]

theorem length_hex (width n : Nat) : (hex width n).length = width := by
  induction width generalizing n with
  | zero => rfl
  | succ width ih => simp [hex, ih]

theorem readFourHex_hex {n : Nat} (h : n < 0x10000) (rest : Text) :
    readFourHex (hex 4 n ++ rest) = some (n, rest) := by
  obtain ⟨a, b, c, d, hdigits⟩ : ∃ a b c d, hex 4 n = [a, b, c, d] :=
    ⟨_, _, _, _, rfl⟩
  have hall := all_hex 4 n
  have hvalue := ofDigits_hex 4 n h
  rw [hdigits] at hall hvalue
  rw [hdigits]
  show (if [a, b, c, d].all isHexDigit = true then _ else _) = _
  rw [if_pos hall, hvalue]
  rfl

/-- The digits of an escape, when the string goes on. -/
theorem readUnit_hex {n : Nat} (h : n < 0x10000) {rest : Text} (hrest : rest ≠ []) :
    readUnit (.char 'u' :: (hex 4 n ++ rest)) = .ok (n, rest) := by
  obtain ⟨next, more, rfl⟩ := List.exists_cons_of_ne_nil hrest
  unfold readUnit
  rw [List.drop_succ_cons, List.drop_zero, readFourHex_hex h]

theorem readUnicode_hex {n : Nat} (h : n < 0x10000) (hhigh : isHighSurrogate n = false)
    {rest : Text} (hrest : rest ≠ []) :
    readUnicode (.char 'u' :: (hex 4 n ++ rest)) = .ok (.ofNat n, rest) := by
  unfold readUnicode
  rw [readUnit_hex h hrest]
  simp [hhigh, bind, Except.bind]

/-- Two halves of a pair are taken at once. -/
theorem readUnicode_pair {high low : Nat} (hhigh : isHighSurrogate high = true)
    (hlow : isLowSurrogate low = true) {rest : Text} (hrest : rest ≠ []) :
    readUnicode (.char 'u' :: (hex 4 high ++ .char '\\' :: .char 'u' :: (hex 4 low ++ rest))) =
      .ok (.ofNat (0x10000 + (high - 0xD800) * 1024 + (low - 0xDC00)), rest) := by
  have hlong : ¬ (hex 4 low ++ rest).length < 5 := by
    have := List.length_pos_iff.mpr hrest
    rw [List.length_append, length_hex]
    omega
  have hhigh' : high < 0x10000 := by
    simp only [isHighSurrogate, Bool.and_eq_true, decide_eq_true_eq] at hhigh
    omega
  have hlow' : low < 0x10000 := by
    simp only [isLowSurrogate, Bool.and_eq_true, decide_eq_true_eq] at hlow
    omega
  unfold readUnicode
  rw [readUnit_hex hhigh' (List.cons_ne_nil _ _)]
  simp only [hhigh, hlong, if_false, readUnit_hex hlow' hrest, hlow, if_true, bind, Except.bind]

/-! ## One character after the other -/

section
variable (opening read : Text) {rest : Text}

theorem readStringFrom_quote :
    readStringFrom opening read (.char '"' :: rest) = .ok (read.reverse, rest) := by
  rw [readStringFrom]

theorem readStringFrom_simple {c e : CodePoint} (h : simpleEscape c = some e) :
    readStringFrom opening read (.char '\\' :: c :: rest) =
      readStringFrom opening (e :: read) rest := by
  have hu : c ≠ .char 'u' := by
    rintro rfl
    cases h
  rw [readStringFrom]
  · rw [h]
  · exact hu

theorem readStringFrom_unicode {c : CodePoint} {more : Text}
    (h : readUnicode (.char 'u' :: rest) = .ok (c, more)) :
    readStringFrom opening read (.char '\\' :: .char 'u' :: rest) =
      readStringFrom opening (c :: read) more := by
  rw [readStringFrom]
  split
  · simp_all
  · simp_all

theorem readStringFrom_plain {c : CodePoint} (hquote : c ≠ .char '"') (hslash : c ≠ .char '\\')
    (h : 32 ≤ c.toNat) :
    readStringFrom opening read (c :: rest) = readStringFrom opening (c :: read) rest := by
  rw [readStringFrom]
  · rw [if_neg (by omega)]
  · exact hquote
  · exact fun _ hc _ => hslash hc
  · exact fun hc _ => hslash hc
  · exact fun _ _ hc _ => hslash hc

end

/-! ## Escapes -/

/-- The code points that are written as a backslash and a letter, each with its letter. -/
def shortEscapes : List (CodePoint × CodePoint) :=
  [(.char '"', .char '"'), (.char '\\', .char '\\'), (.char '\n', .char 'n'),
    (.char '\x0d', .char 'r'), (.char '\t', .char 't'), (.char '\x08', .char 'b'),
    (.char '\x0c', .char 'f')]

theorem escapePoint_short : ∀ e ∈ shortEscapes,
    escapePoint e.1 = [.char '\\', e.2] ∧ simpleEscape e.2 = some e.1 := by
  decide +kernel

theorem escapePoint_long {c : CodePoint} (h : c ∉ shortEscapes.map Prod.fst) :
    escapePoint c =
      if 32 ≤ c.toNat && c.toNat < 127 then [c]
      else if c.toNat < 0x10000 then hexEscape c.toNat
      else hexEscape (0xD800 + (c.toNat - 0x10000) / 1024) ++
        hexEscape (0xDC00 + (c.toNat - 0x10000) % 1024) := by
  simp only [shortEscapes, List.map_cons, List.map_nil, List.mem_cons, List.not_mem_nil, or_false,
    not_or] at h
  simp only [escapePoint, h, if_false]

theorem hexEscape_append (n : Nat) (rest : Text) :
    hexEscape n ++ rest = .char '\\' :: .char 'u' :: (hex 4 n ++ rest) := rfl

section
variable (opening read : Text) {c : CodePoint} {rest : Text}

/-- A character that is no surrogate is read from the escape with its number. -/
theorem readStringFrom_hexEscape (hc : c.isSurrogate = false) (hsmall : c.toNat < 0x10000)
    (hrest : rest ≠ []) :
    readStringFrom opening read (hexEscape c.toNat ++ rest) =
      readStringFrom opening (c :: read) rest := by
  have hbounds := toNat_bounds hc
  have hhigh : isHighSurrogate c.toNat = false := by
    simp only [isHighSurrogate, Bool.and_eq_false_iff, decide_eq_false_iff_not]
    omega
  have hread := readUnicode_hex hsmall hhigh hrest
  rw [CodePoint.ofNat_toNat] at hread
  rw [hexEscape_append]
  exact readStringFrom_unicode opening read hread

/-- A character beyond U+FFFF is read from the escapes of the halves of its pair. -/
theorem readStringFrom_pair (hc : c.isSurrogate = false) (hlarge : 0x10000 ≤ c.toNat)
    (hrest : rest ≠ []) :
    readStringFrom opening read (hexEscape (0xD800 + (c.toNat - 0x10000) / 1024) ++
        (hexEscape (0xDC00 + (c.toNat - 0x10000) % 1024) ++ rest)) =
      readStringFrom opening (c :: read) rest := by
  have hbounds := toNat_bounds hc
  have hhigh : isHighSurrogate (0xD800 + (c.toNat - 0x10000) / 1024) = true := by
    simp only [isHighSurrogate, Bool.and_eq_true, decide_eq_true_eq]
    omega
  have hlow : isLowSurrogate (0xDC00 + (c.toNat - 0x10000) % 1024) = true := by
    simp only [isLowSurrogate, Bool.and_eq_true, decide_eq_true_eq]
    omega
  have hsum : 0x10000 + (0xD800 + (c.toNat - 0x10000) / 1024 - 0xD800) * 1024 +
      (0xDC00 + (c.toNat - 0x10000) % 1024 - 0xDC00) = c.toNat := by omega
  have hread := readUnicode_pair hhigh hlow hrest
  rw [hsum, CodePoint.ofNat_toNat] at hread
  rw [hexEscape_append, hexEscape_append]
  exact readStringFrom_unicode opening read hread

/-- What is read of the escape of a character, when the string goes on. -/
theorem readStringFrom_escapePoint (hc : c.isSurrogate = false) (hrest : rest ≠ []) :
    readStringFrom opening read (escapePoint c ++ rest) =
      readStringFrom opening (c :: read) rest := by
  by_cases hshort : c ∈ shortEscapes.map Prod.fst
  · obtain ⟨e, he, rfl⟩ := List.mem_map.mp hshort
    obtain ⟨hwritten, hread⟩ := escapePoint_short e he
    rw [hwritten]
    exact readStringFrom_simple opening read hread
  rw [escapePoint_long hshort]
  split
  · rename_i hprintable
    simp only [Bool.and_eq_true, decide_eq_true_eq] at hprintable
    refine readStringFrom_plain opening read ?_ ?_ hprintable.1
    · rintro rfl
      exact hshort (by decide)
    · rintro rfl
      exact hshort (by decide)
  split
  · rename_i hsmall
    exact readStringFrom_hexEscape opening read hc hsmall hrest
  · rename_i hlarge
    rw [List.append_assoc]
    exact readStringFrom_pair opening read hc (by omega) hrest

end

/-! ## Whole strings -/

theorem readStringFrom_escaped (opening read : Text) {s : Text} (hs : Whole s) (rest : Text) :
    readStringFrom opening read (s.flatMap escapePoint ++ .char '"' :: rest) =
      .ok (read.reverse ++ s, rest) := by
  induction s generalizing read with
  | nil => rw [List.flatMap_nil, List.nil_append, readStringFrom_quote, List.append_nil]
  | cons c s ih =>
    obtain ⟨hc, hs⟩ := List.forall_mem_cons.mp hs
    rw [List.flatMap_cons, List.append_assoc,
      readStringFrom_escapePoint opening read hc (by simp), ih (c :: read) hs]
    simp

/-- A string that was written is read back. -/
theorem readString_writeString {s : Text} (hs : Whole s) (rest : Text) :
    readString (writeString s ++ rest) = .ok (s, rest) := by
  have hwritten : writeString s ++ rest =
      .char '"' :: (s.flatMap escapePoint ++ .char '"' :: rest) := by
    simp [writeString]
  rw [hwritten, readString, List.drop_succ_cons, List.drop_zero, readStringFrom_escaped _ [] hs]
  rfl

/-! ## What strings are written with -/

/-- ASCII without control characters. -/
def isPlain (c : CodePoint) : Bool := 32 ≤ c.toNat && c.toNat < 127

theorem all_isPlain_hex (width n : Nat) : (hex width n).all isPlain = true := by
  have hdigit : ∀ d : Fin 16, isPlain (Nat.digitChar d) = true := by decide
  induction width generalizing n with
  | zero => rfl
  | succ width ih =>
    rw [hex, List.all_append, ih]
    simpa using hdigit ⟨n % 16, Nat.mod_lt n (by decide)⟩

theorem all_isPlain_hexEscape (n : Nat) : (hexEscape n).all isPlain = true := by
  rw [hexEscape, List.all_append, all_isPlain_hex]
  decide

theorem all_isPlain_escapePoint (c : CodePoint) : (escapePoint c).all isPlain = true := by
  by_cases hshort : c ∈ shortEscapes.map Prod.fst
  · have hall : ∀ e ∈ shortEscapes, (escapePoint e.1).all isPlain = true := by decide +kernel
    obtain ⟨e, he, rfl⟩ := List.mem_map.mp hshort
    exact hall e he
  rw [escapePoint_long hshort]
  split
  · rename_i hplain
    simpa [isPlain] using hplain
  split
  · exact all_isPlain_hexEscape _
  · rw [List.all_append, all_isPlain_hexEscape, all_isPlain_hexEscape]
    rfl

theorem all_isPlain_writeString (s : Text) : (writeString s).all isPlain = true := by
  have hflat : (s.flatMap escapePoint).all isPlain = true := by
    rw [List.all_flatMap, List.all_eq_true]
    exact fun c _ => all_isPlain_escapePoint c
  simp only [writeString, List.all_cons, List.all_append, hflat]
  decide

end FlatBlocks.Json
