import FlatBlocks.Markup.Print
import FlatBlocks.Proofs.Markup.Word

/-! # Escapes

A text is written with each of its code points spelled out, either as itself or as a named
reference. Resolving the references of a value that is written so gives the value again,
and the quote around it never occurs inside. -/

namespace FlatBlocks.Markup
open FlatBlocks.Text

/-- A spelling of a code point that text and values read alike. -/
inductive Spelled (c : CodePoint) : Text → Prop
  | plain (h : Token.isPlain c = true) : Spelled c [c]
  | named (name : Text) (word : isWord name = true) (short : name.length < 32)
      (inText : Reference.namedText name = [c])
      (inValue : Reference.namedValue (name ++ [.char ';']) = [c]) :
      Spelled c ('&' :: (name ++ [.char ';']))

theorem spelled_escapePoint (c : CodePoint) : Spelled c (Item.escapePoint c) := by
  unfold Item.escapePoint
  split
  · rename_i h
    subst h
    exact .named "amp" (by decide) (by decide) (by decide +kernel) (by decide +kernel)
  · rename_i hamp
    split
    · rename_i h
      subst h
      exact .named "lt" (by decide) (by decide) (by decide +kernel) (by decide +kernel)
    · rename_i hlt
      split
      · rename_i h
        subst h
        exact .named "gt" (by decide) (by decide) (by decide +kernel) (by decide +kernel)
      · exact .plain (by simp [Token.isPlain, hamp, hlt])

/-- A code point of a value that holds both kinds of quotes. -/
def escapeInQuotes (c : CodePoint) : Text := (Item.escapePoint c).flatMap Item.escapeQuote

theorem spelled_escapeInQuotes (c : CodePoint) : Spelled c (escapeInQuotes c) := by
  by_cases h : c = '"'
  · subst h
    exact .named "quot" (by decide) (by decide) (by decide +kernel) (by decide +kernel)
  · have hsame : escapeInQuotes c = Item.escapePoint c := by
      unfold escapeInQuotes Item.escapePoint
      split
      · decide
      · split
        · decide
        · split
          · decide
          · simp [Item.escapeQuote, h]
    rw [hsame]
    exact spelled_escapePoint c

/-! ## Values -/

theorem readInValue_word {name meaning : Text} (h : isWord name = true) (hshort : name.length < 32)
    (hmeaning : Reference.namedValue (name ++ [.char ';']) = meaning) (rest : Text) :
    Reference.readInValue (name ++ .char ';' :: rest) = some (.ok meaning, rest) := by
  have htake : (name ++ .char ';' :: rest).take 32 = name ++ .char ';' :: rest.take
      (31 - name.length) := by
    rw [List.take_append, List.take_of_length_le (by omega),
      show 32 - name.length = (31 - name.length) + 1 by omega, List.take_succ_cons]
  have hname : ((name ++ .char ';' :: rest).take 32).takeWhile Reference.isNameChar = name := by
    rw [htake]
    refine (cut_letters (letters_of_isWord h) ?_ (by decide) _).1
    intro c hc
    simp (disch := decide) only [Reference.isNameChar, beq_of_isSmallLetter hc, Bool.or_false,
      Bool.not_false]
  obtain ⟨c, tail, rfl, hc, -⟩ := exists_cons_of_isWord h
  have hsharp : c ≠ '#' := ne_of_isSmallLetter hc (by decide)
  simp only [List.cons_append] at hname ⊢
  unfold Reference.readInValue
  split
  · simp_all
  · simp_all
  · simp_all
  · rw [hname, ← hmeaning]
    simp only [List.length_cons, List.drop_succ_cons, List.drop_left, Reference.optionalSemicolon]
    rfl

theorem resolveAfter_spelled {c : CodePoint} {spelling : Text} (h : Spelled c spelling)
    (done rest : Text) : Reference.resolveAfter done (spelling ++ rest) =
      Reference.resolveAfter (c :: done) rest := by
  cases h with
  | plain hplain =>
    have hamp : c ≠ '&' := by
      rintro rfl
      cases hplain
    rw [List.singleton_append, Reference.resolveAfter]
    exact fun h => hamp h
  | named name word short inText inValue =>
    have hread := readInValue_word word short inValue rest
    rw [List.cons_append, List.append_assoc, List.singleton_append, Reference.resolveAfter]
    split
    · rename_i heq
      rw [hread] at heq
      cases heq
      rfl
    · rename_i heq
      rw [hread] at heq
      cases heq
    · rename_i heq
      rw [hread] at heq
      cases heq

theorem resolve_spelled {spell : CodePoint → Text} (h : ∀ c, Spelled c (spell c)) (value : Text) :
    Reference.resolve (value.flatMap spell) = .ok value := by
  have hafter : ∀ done, Reference.resolveAfter done (value.flatMap spell) =
      .ok (done.reverse ++ value) := by
    induction value with
    | nil => intro done; rw [List.flatMap_nil, Reference.resolveAfter, List.append_nil]
    | cons c rest ih =>
      intro done
      rw [List.flatMap_cons, resolveAfter_spelled (h c), ih]
      simp
  exact hafter []

/-- The quote around a value. -/
def quoteOf (value : Text) : CodePoint :=
  if value.contains '"' && !value.contains '\'' then '\'' else '"'

/-- What stands between the quotes around a value. -/
def quotedChars (value : Text) : Text :=
  if value.contains '"' && value.contains '\'' then value.flatMap escapeInQuotes
  else Item.escape value

theorem isQuote_quoteOf (value : Text) : Tag.isQuote (quoteOf value) = true := by
  unfold quoteOf
  split <;> rfl

theorem printValue_eq (value : Text) :
    Item.printValue value = quoteOf value :: (quotedChars value ++ [quoteOf value]) := by
  have hflat : (Item.escape value).flatMap Item.escapeQuote = value.flatMap escapeInQuotes :=
    List.flatMap_assoc
  unfold Item.printValue quoteOf quotedChars
  by_cases hdouble : value.contains '"' = true
  · by_cases hsingle : value.contains '\'' = true
    · simp only [hdouble, hsingle, hflat, if_true, Bool.not_true, Bool.and_false, Bool.and_true,
        Bool.false_eq_true, if_false]
    · simp only [hdouble, hsingle, if_true, if_false, Bool.true_and, Bool.not_false,
        Bool.false_eq_true]
  · simp only [hdouble, Bool.false_eq_true, if_false, Bool.false_and]

theorem resolve_quotedChars (value : Text) : Reference.resolve (quotedChars value) = .ok value := by
  unfold quotedChars
  split
  · exact resolve_spelled spelled_escapeInQuotes value
  · exact resolve_spelled spelled_escapePoint value

/-- A quote in what is escaped was there before. -/
theorem mem_escape {value : Text} {q : CodePoint} (hq : Tag.isQuote q = true)
    (h : q ∈ Item.escape value) : q ∈ value := by
  obtain ⟨c, hc, hin⟩ := List.mem_flatMap.mp h
  have hquote : q = '"' ∨ q = '\'' := by simpa [Tag.isQuote] using hq
  unfold Item.escapePoint at hin
  split at hin
  · rcases hquote with rfl | rfl <;> simp [Text.ofString, Text.ofChars] at hin
  · split at hin
    · rcases hquote with rfl | rfl <;> simp [Text.ofString, Text.ofChars] at hin
    · split at hin
      · rcases hquote with rfl | rfl <;> simp [Text.ofString, Text.ofChars] at hin
      · rw [List.mem_singleton.mp hin]
        exact hc

theorem quoteOf_notMem (value : Text) : quoteOf value ∉ quotedChars value := by
  have hdouble : ('"' : CodePoint) ∉ value.flatMap escapeInQuotes := by
    intro h
    obtain ⟨c, hc, hin⟩ := List.mem_flatMap.mp h
    obtain ⟨d, _, hin⟩ := List.mem_flatMap.mp hin
    unfold Item.escapeQuote at hin
    split at hin
    · simp [Text.ofString, Text.ofChars] at hin
    · rename_i hne
      exact hne (List.mem_singleton.mp hin).symm
  unfold quoteOf quotedChars
  by_cases hboth : (value.contains '"' && value.contains '\'') = true
  · have hsingle := (Bool.and_eq_true_iff.mp hboth).2
    rw [if_pos hboth, hsingle, Bool.not_true, Bool.and_false]
    exact hdouble
  · rw [if_neg hboth]
    intro h
    split at h
    · rename_i hc
      have hin := List.contains_iff_mem.mpr (mem_escape rfl h)
      obtain ⟨hdouble, hsingle⟩ := Bool.and_eq_true_iff.mp hc
      rw [hin] at hsingle
      cases hsingle
    · rename_i hc
      have hin := List.contains_iff_mem.mpr (mem_escape rfl h)
      rw [hin, Bool.true_and] at hboth hc
      cases hsingle : List.contains value ('\'' : CodePoint) with
      | true => exact hboth hsingle
      | false => exact hc (by rw [hsingle]; rfl)

end FlatBlocks.Markup
