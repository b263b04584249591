import FlatBlocks.Markup.Token.Scan

/-! # Words

A word is a text of small ASCII letters. Wherever a name may stand in markup, a word is
read whole and stays as it is, since none of the characters that end a name is a letter. -/

namespace FlatBlocks.Markup
open FlatBlocks.Text

def isSmallLetter (c : CodePoint) : Bool := 97 ≤ c.toNat && c.toNat ≤ 122

def isWord (text : Text) : Bool := !text.isEmpty && text.all isSmallLetter

/-! ## Small letters -/

section
variable {c : CodePoint} (h : isSmallLetter c = true)
include h

theorem ne_of_isSmallLetter {d : CodePoint} (hd : isSmallLetter d = false) : c ≠ d := by
  rintro rfl
  rw [h] at hd
  cases hd

theorem beq_of_isSmallLetter {d : CodePoint} (hd : isSmallLetter d = false) : (c == d) = false :=
  beq_false_of_ne (ne_of_isSmallLetter h hd)

theorem range_of_isSmallLetter : 97 ≤ c.toNat ∧ c.toNat ≤ 122 := by
  simpa [isSmallLetter] using h

theorem isBlank_of_isSmallLetter : isBlank c = false := by
  obtain ⟨hlow, hhigh⟩ := range_of_isSmallLetter h
  simp only [isBlank, Bool.or_eq_false_iff, Bool.and_eq_false_iff, decide_eq_false_iff_not,
    beq_eq_false_iff_ne]
  omega

theorem isAsciiBlank_of_isSmallLetter : isAsciiBlank c = false := by
  cases hb : isAsciiBlank c with
  | false => rfl
  | true => rw [← isBlank_of_isAsciiBlank hb, isBlank_of_isSmallLetter h]

theorem isAsciiLetter_of_isSmallLetter : isAsciiLetter c = true := by
  obtain ⟨hlow, hhigh⟩ := range_of_isSmallLetter h
  simp [isAsciiLetter, hlow, hhigh]

theorem asciiLower_of_isSmallLetter : asciiLower c = c := by
  cases c with
  | surrogate offset => rfl
  | char c =>
    obtain ⟨hlow, hhigh⟩ := range_of_isSmallLetter h
    have hn : ¬ (c.val ≥ 'A'.val ∧ c.val ≤ 'Z'.val) := by
      rintro ⟨-, hu⟩
      have hle : c.toNat ≤ 90 := hu
      have hge : 97 ≤ c.toNat := hlow
      omega
    exact congrArg CodePoint.char (dif_neg hn)

theorem smallForm_of_isSmallLetter : smallForm c = [c] := by
  obtain ⟨hlow, hhigh⟩ := range_of_isSmallLetter h
  rw [smallForm, if_pos (by omega), asciiLower_of_isSmallLetter h]

end

/-! ## Words -/

/-- What holds of every small letter and fails for the next code point cuts letters off. -/
theorem cut_letters {letters : Text} (h : ∀ c ∈ letters, isSmallLetter c = true)
    {p : CodePoint → Bool} (hp : ∀ c, isSmallLetter c = true → p c = true) {d : CodePoint}
    (hd : p d = false) (rest : Text) : (letters ++ d :: rest).takeWhile p = letters ∧
      (letters ++ d :: rest).dropWhile p = d :: rest := by
  have hall : ∀ c ∈ letters, p c = true := fun c hc => hp c (h c hc)
  rw [List.takeWhile_append_of_pos hall, List.dropWhile_append_of_pos hall]
  simp [hd]

section
variable {word : Text} (h : isWord word = true)
include h

theorem letters_of_isWord : ∀ c ∈ word, isSmallLetter c = true := by
  have hall : word.all isSmallLetter = true := (Bool.and_eq_true_iff.mp h).2
  exact List.all_eq_true.mp hall

theorem exists_cons_of_isWord : ∃ c rest, word = c :: rest ∧ isSmallLetter c = true ∧
    ∀ d ∈ rest, isSmallLetter d = true := by
  have hall := letters_of_isWord h
  cases word with
  | nil => cases h
  | cons c rest =>
    exact ⟨c, rest, rfl, hall c List.mem_cons_self, fun d hd => hall d (List.mem_cons_of_mem _ hd)⟩

theorem lower_of_isWord : lower word = word := by
  have hall := letters_of_isWord h
  clear h
  have hafter : ∀ before, lowerAfter before word = word := by
    induction word with
    | nil => exact fun _ => rfl
    | cons c rest ih =>
      intro before
      have hc := hall c List.mem_cons_self
      rw [lowerAfter, if_neg (ne_of_isSmallLetter hc (by decide)), smallForm_of_isSmallLetter hc,
        ih (fun d hd => hall d (List.mem_cons_of_mem _ hd))]
      rfl
  exact hafter []

end

end FlatBlocks.Markup
