import FlatBlocks.Proofs.Markup.Escape

/-! # Start tags

A start tag whose name and attribute names are words is read back from what is written for
it, whatever the values of its attributes are. -/

namespace FlatBlocks.Markup
open FlatBlocks.Text

theorem readValue_quoted {q : CodePoint} (hq : Tag.isQuote q = true) {chars : Text}
    (hin : q ∉ chars) (rest : Text) :
    Tag.readValue (.char '=' :: q :: (chars ++ q :: rest)) = some ⟨chars, true, rest⟩ := by
  have hblank : isBlank q = false ∧ (q == .char '=') = false := by
    have hquote : q = '"' ∨ q = '\'' := by simpa [Tag.isQuote] using hq
    rcases hquote with rfl | rfl <;> decide
  have hother : ∀ c ∈ chars, (c != q) = true := by
    intro c hc
    simpa using fun he : c = q => hin (he ▸ hc)
  have htake : (chars ++ q :: rest).takeWhile (· != q) = chars := by
    rw [List.takeWhile_append_of_pos hother]; simp
  have hdrop : (chars ++ q :: rest).dropWhile (· != q) = q :: rest := by
    rw [List.dropWhile_append_of_pos hother]; simp
  have hequals : isBlank (.char '=') = false := by decide
  simp [Tag.readValue, hequals, hblank, hq, htake, hdrop]

theorem skipGap_word {name : Text} (h : isWord name = true) (rest : Text) :
    Tag.skipGap (name ++ rest) = name ++ rest := by
  obtain ⟨c, tail, rfl, hc, -⟩ := exists_cons_of_isWord h
  have hslash : c ≠ '/' := ne_of_isSmallLetter hc (by decide)
  have hgap : Tag.opensGap (c :: (tail ++ rest)) = false := by
    unfold Tag.opensGap
    split
    · rfl
    · rename_i heq
      cases heq
      simp [isBlank_of_isSmallLetter hc, hslash]
    · rfl
  rw [List.cons_append, Tag.skipGap, hgap]
  rfl

theorem skipGap_bracket (rest : Text) : Tag.skipGap (.char '>' :: rest) = .char '>' :: rest := by
  have hgap : Tag.opensGap (.char '>' :: rest) = false := rfl
  rw [Tag.skipGap, hgap]
  rfl

/-- No attribute begins at the bracket that closes the tag. -/
theorem readAttributes_bracket (found : List (Text × Text)) (mayBegin : Bool) (rest : Text) :
    Tag.readAttributes found mayBegin (.char '>' :: rest) =
      (found.reverse, .char '>' :: rest) := by
  have hbracket : Tag.beginsAttribute (.char '>') = false := by decide
  rw [Tag.readAttributes, hbracket, Bool.and_false]
  simp

theorem readAttributes_entry {name chars : Text} {q : CodePoint} (h : isWord name = true)
    (hq : Tag.isQuote q = true) (hin : q ∉ chars) (found : List (Text × Text)) (rest : Text) :
    Tag.readAttributes found true (name ++ .char '=' :: q :: (chars ++ q :: rest)) =
      Tag.readAttributes ((name, chars) :: found) true (Tag.skipGap rest) := by
  have hlower := lower_of_isWord h
  obtain ⟨c, tail, rfl, hc, htail⟩ := exists_cons_of_isWord h
  have hbegins : Tag.beginsAttribute c = true := by
    simp (disch := decide) only [Tag.beginsAttribute, isBlank_of_isSmallLetter hc,
      beq_of_isSmallLetter hc, Bool.or_false, Bool.not_false]
  obtain ⟨htake, hdrop⟩ := cut_letters (p := Tag.continuesAttribute) (d := .char '=') htail
    (fun d hd => by
      simp (disch := decide) only [Tag.continuesAttribute, isBlank_of_isSmallLetter hd,
        beq_of_isSmallLetter hd, Bool.or_false, Bool.not_false])
    (by decide) (q :: (chars ++ q :: rest))
  have hvalue := readValue_quoted hq hin rest
  rw [List.cons_append, Tag.readAttributes]
  simp only [hbegins, Bool.and_self, if_true, htake, hlower]
  split
  · rename_i v hv
    rw [hdrop, hvalue] at hv
    cases hv
    rfl
  · rename_i hv
    rw [hdrop, hvalue] at hv
    cases hv

/-! ## Whole tags -/

/-- Attributes that are written with their own values, under names that are words. -/
structure Writable (tag : Text) (attributes entries : List (Text × Text)) : Prop where
  words : ∀ e ∈ entries, isWord e.1 = true
  values : ∀ e ∈ entries, Item.writtenValue tag attributes e.1 e.2 = e.2

theorem Writable.tail {tag : Text} {attributes rest : List (Text × Text)} {e : Text × Text}
    (h : Writable tag attributes (e :: rest)) : Writable tag attributes rest :=
  ⟨fun d hd => h.words d (List.mem_cons_of_mem _ hd),
    fun d hd => h.values d (List.mem_cons_of_mem _ hd)⟩

/-- An attribute as it is found in its tag, with its references. -/
def asFound (e : Text × Text) : Text × Text := (e.1, quotedChars e.2)

theorem resolveValues_asFound (entries : List (Text × Text)) :
    Tag.resolveValues (entries.map asFound) = .ok entries := by
  induction entries with
  | nil => rfl
  | cons e rest ih =>
    simp only [List.map_cons, asFound, Tag.resolveValues, resolve_quotedChars]
    rw [ih]
    rfl

section
variable {tag : Text} {attributes : List (Text × Text)}

theorem printAttribute_append {e : Text × Text}
    (hvalue : Item.writtenValue tag attributes e.1 e.2 = e.2) (rest : Text) :
    Item.printAttribute tag attributes e ++ rest = .char ' ' :: (e.1 ++ .char '=' ::
      quoteOf e.2 :: (quotedChars e.2 ++ quoteOf e.2 :: rest)) := by
  simp [Item.printAttribute, hvalue, printValue_eq]

/-- Attributes are read one after the other, up to the end of the tag. -/
theorem readAttributes_print {entries : List (Text × Text)} (h : Writable tag attributes entries)
    (found : List (Text × Text)) (rest : Text) :
    Tag.readAttributes found true (Tag.skipGap
        (entries.flatMap (Item.printAttribute tag attributes) ++ .char '>' :: rest)) =
      (found.reverse ++ entries.map asFound, .char '>' :: rest) := by
  induction entries generalizing found with
  | nil =>
    rw [List.flatMap_nil, List.nil_append, skipGap_bracket, readAttributes_bracket, List.map_nil,
      List.append_nil]
  | cons e more ih =>
    have hword := h.words e List.mem_cons_self
    have hvalue := h.values e List.mem_cons_self
    rw [List.flatMap_cons, List.append_assoc, printAttribute_append hvalue, Tag.skipGap,
      if_pos (by rfl), skipGap_word hword,
      readAttributes_entry hword (isQuote_quoteOf e.2) (quoteOf_notMem e.2), ih h.tail]
    simp [asFound]

theorem read_printed (htag : isWord tag = true) {entries : List (Text × Text)}
    (h : Writable tag attributes entries) (rest : Text) :
    Tag.read (tag ++ (entries.flatMap (Item.printAttribute tag attributes) ++ .char '>' :: rest)) =
      .whole tag entries false rest := by
  have hletter : ∀ c, isSmallLetter c = true → (!Tag.endsName c) = true := by
    intro c hc
    simp (disch := decide) only [Tag.endsName, isAsciiBlank_of_isSmallLetter hc,
      beq_of_isSmallLetter hc, Bool.or_false, Bool.not_false]
  have hresolved : Tag.resolveValues (entries.map asFound) = .ok entries :=
    resolveValues_asFound entries
  cases entries with
  | nil =>
    obtain ⟨htake, hdrop⟩ := cut_letters (letters_of_isWord htag) hletter
      (d := .char '>') (by decide) rest
    simp only [List.flatMap_nil, List.nil_append, Tag.read, htake, hdrop, skipGap_bracket,
      readAttributes_bracket, lower_of_isWord htag, Tag.Reading.resolved, List.reverse_nil,
      Tag.resolveValues]
  | cons e more =>
    have hvalue := h.values e List.mem_cons_self
    have hread := readAttributes_print h [] rest
    rw [List.flatMap_cons, List.append_assoc, printAttribute_append hvalue] at hread ⊢
    obtain ⟨htake, hdrop⟩ := cut_letters (letters_of_isWord htag) hletter
      (d := .char ' ') (by decide) (e.1 ++ .char '=' :: quoteOf e.2 :: (quotedChars e.2 ++
        quoteOf e.2 :: (more.flatMap (Item.printAttribute tag attributes) ++ .char '>' :: rest)))
    have hgap : ∀ s, Tag.opensGap (.char ' ' :: s) = true := fun _ => rfl
    simp only [Tag.read, htake, hdrop, hgap, Bool.true_or, hread, List.reverse_nil, List.nil_append,
      lower_of_isWord htag, Tag.Reading.resolved, hresolved]

end

end FlatBlocks.Markup
