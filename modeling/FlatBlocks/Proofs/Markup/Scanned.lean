import FlatBlocks.Markup.Token.Stream
import FlatBlocks.Proofs.Markup.StartTag

/-! # Scanning what was written

Start tags, end tags and escaped texts are cut into the tokens that they were written for,
in either pass of the scanner. An escaped text may come in several pieces, which together
are the text. -/

namespace FlatBlocks.Markup.Token
open FlatBlocks.Text

/-- Outside of raw content a text is cut into tokens, up to a rest. -/
def Scanned (s : Text) (tokens : List Token) (rest : Text) : Prop :=
  ∀ final found, scan final found none s = scan final (tokens.reverse ++ found) none rest

namespace Scanned

theorem refl (s : Text) : Scanned s [] s := fun _ _ => rfl

theorem trans {s rest last : Text} {tokens more : List Token} (h : Scanned s tokens rest)
    (hmore : Scanned rest more last) : Scanned s (tokens ++ more) last := by
  intro final found
  rw [h final found, hmore final, List.reverse_append, List.append_assoc]

theorem of_step {s rest : Text} {tokens : List Token}
    (h : ∀ final, step final none s = .more tokens none rest) : Scanned s tokens rest := by
  intro final found
  rw [scan]
  split
  · rename_i heq
    rw [h final] at heq
    cases heq
    rfl
  · rename_i heq
    rw [h final] at heq
    cases heq
  · rename_i heq
    rw [h final] at heq
    cases heq

end Scanned

theorem scan_nil (final : Bool) (found : List Token) :
    scan final found none [] = .ok ⟨found, none, []⟩ := by
  rw [scan]
  split
  · rename_i heq
    cases heq
  · rename_i heq
    cases heq
    rfl
  · rename_i heq
    cases heq

/-- A text that leaves no rest has these tokens. -/
theorem ofText_of_scanned {s : Text} {tokens : List Token} (h : Scanned s tokens []) :
    ofText s = .ok tokens := by
  have hfirst : scan false [] none s = .ok ⟨tokens.reverse, none, []⟩ := by
    rw [h false [], List.append_nil, scan_nil]
  simp only [ofText, hfirst, bind, Except.bind, scan_nil]
  simp

/-! ## Texts -/

/-- Whether a code point is written as itself. -/
def isOwn (c : CodePoint) : Bool := Item.escapePoint c == [c]

theorem step_plain {c : CodePoint} (h : isPlain c = true) (final : Bool) (s : Text) :
    step final none (c :: s) =
      .more [.text ((c :: s).takeWhile isPlain)] none ((c :: s).dropWhile isPlain) := by
  have hne : c ≠ '&' ∧ c ≠ '<' := by simpa [isPlain] using h
  rw [step]
  · exact List.cons_ne_nil c s
  · intro rest heq
    exact hne.2 (List.cons.inj heq).1
  · intro rest heq
    exact hne.1 (List.cons.inj heq).1

theorem scanned_reference {name meaning : Text} (h : isWord name = true)
    (hmeaning : Reference.namedText name = meaning) (rest : Text) :
    Scanned (.char '&' :: (name ++ .char ';' :: rest)) [.text meaning] rest := by
  apply Scanned.of_step
  intro final
  obtain ⟨htake, hdrop⟩ := cut_letters (p := isReferenceNameChar) (letters_of_isWord h)
    (fun c hc => by simp [isReferenceNameChar, isLetterOrDigit, isAsciiLetter_of_isSmallLetter hc])
    (d := .char ';') (by decide) rest
  have hname : readReferenceName (name ++ .char ';' :: rest) = some (name, .char ';' :: rest) := by
    rw [readReferenceName, htake, hdrop]
  obtain ⟨c, tail, rfl, hc, -⟩ := exists_cons_of_isWord h
  have hsharp : c ≠ '#' := ne_of_isSmallLetter hc (by decide)
  rw [List.cons_append] at hname ⊢
  rw [step, stepAmpersand]
  · simp [isAsciiLetter_of_isSmallLetter hc, hname, hmeaning, Reference.optionalSemicolon]
  · exact hsharp

/-- A run of plain code points ends where the next one is escaped, or with the text. -/
theorem cut_run (content rest : Text) :
    (Item.escape content ++ .char '<' :: rest).takeWhile isPlain = content.takeWhile isOwn ∧
      (Item.escape content ++ .char '<' :: rest).dropWhile isPlain =
        Item.escape (content.dropWhile isOwn) ++ .char '<' :: rest := by
  have hangle : isPlain (.char '<') = false := by decide
  have hamp : isPlain (.char '&') = false := by decide
  induction content with
  | nil => simp [Item.escape, hangle]
  | cons c tail ih =>
    have hescape : Item.escape (c :: tail) = Item.escapePoint c ++ Item.escape tail :=
      List.flatMap_cons
    rw [hescape]
    have hspelled := spelled_escapePoint c
    generalize hp : Item.escapePoint c = spelling at hspelled
    cases hspelled with
    | plain hplain =>
      have hown : isOwn c = true := by simp [isOwn, hp]
      simp [hplain, hown, ih]
    | named name word short inText inValue =>
      have hown : isOwn c = false := by
        obtain ⟨d, more, rfl, -, -⟩ := exists_cons_of_isWord word
        simp [isOwn, hp]
      simp [hamp, hown, hescape, hp]

/-- An escaped text that a bracket follows is scanned to pieces of the text. -/
theorem scanned_escape : ∀ content : Text, ∃ pieces : List Text, pieces.flatten = content ∧
    ∀ rest, Scanned (Item.escape content ++ .char '<' :: rest) (pieces.map .text)
      (.char '<' :: rest)
  | [] => ⟨[], rfl, fun _ => .refl _⟩
  | c :: tail => by
    have hescape : Item.escape (c :: tail) = Item.escapePoint c ++ Item.escape tail :=
      List.flatMap_cons
    have hspelled := spelled_escapePoint c
    generalize hp : Item.escapePoint c = spelling at hspelled
    cases hspelled with
    | plain hplain =>
      have hshort : (tail.dropWhile isOwn).length ≤ tail.length := length_dropWhile_le isOwn tail
      obtain ⟨pieces, hpieces, hscanned⟩ := scanned_escape (tail.dropWhile isOwn)
      have hown : isOwn c = true := by simp [isOwn, hp]
      refine ⟨(c :: tail.takeWhile isOwn) :: pieces, ?_, fun rest => ?_⟩
      · rw [List.flatten_cons, hpieces, List.cons_append, List.takeWhile_append_dropWhile]
      · obtain ⟨htake, hdrop⟩ := cut_run (c :: tail) rest
        rw [List.takeWhile_cons_of_pos hown, hescape, hp] at htake
        rw [List.dropWhile_cons_of_pos hown, hescape, hp] at hdrop
        have hrun : Scanned (Item.escape (c :: tail) ++ .char '<' :: rest)
            [.text (c :: tail.takeWhile isOwn)]
            (Item.escape (tail.dropWhile isOwn) ++ .char '<' :: rest) := by
          apply Scanned.of_step
          intro final
          rw [hescape, hp, ← htake, ← hdrop]
          exact step_plain hplain final _
        exact hrun.trans (hscanned rest)
    | named name word short inText inValue =>
      obtain ⟨pieces, hpieces, hscanned⟩ := scanned_escape tail
      refine ⟨[c] :: pieces, by rw [List.flatten_cons, hpieces]; rfl, fun rest => ?_⟩
      have href := scanned_reference word inText (Item.escape tail ++ .char '<' :: rest)
      rw [hescape, hp]
      simpa using href.trans (hscanned rest)
termination_by content => content.length

/-! ## Tags -/

theorem scanned_start {tag : Text} (htag : isWord tag = true)
    (hraw : RawElement.ofTag? tag = none) {attributes entries : List (Text × Text)}
    (h : Writable tag attributes entries) (rest : Text) :
    Scanned (.char '<' :: (tag ++
        (entries.flatMap (Item.printAttribute tag attributes) ++ .char '>' :: rest)))
      [.start tag entries] rest := by
  apply Scanned.of_step
  intro final
  have hread := read_printed htag h rest
  obtain ⟨c, tail, rfl, hc, -⟩ := exists_cons_of_isWord htag
  rw [List.cons_append] at hread ⊢
  rw [step, stepBracket, if_pos (isAsciiLetter_of_isSmallLetter hc), readStart, hread]
  · simp only [stepConstruct, hraw]
  · exact ne_of_isSmallLetter hc (by decide)
  · exact ne_of_isSmallLetter hc (by decide)
  · exact ne_of_isSmallLetter hc (by decide)

theorem searchAfter_bracket {s : Text} (h : ∀ c ∈ s, c ≠ '>') (passed rest : Text) :
    searchAfter readBracket passed (s ++ .char '>' :: rest) = some (passed.reverse ++ s, rest) := by
  induction s generalizing passed with
  | nil =>
    rw [List.nil_append, searchAfter, List.append_nil]
    rfl
  | cons c tail ih =>
    have hnone : readBracket (c :: (tail ++ .char '>' :: rest)) = none := by
      unfold readBracket
      split
      · rename_i heq
        cases heq
        exact absurd rfl (h _ List.mem_cons_self)
      · rfl
    rw [List.cons_append, searchAfter, hnone]
    simp only
    rw [ih fun d hd => h d (List.mem_cons_of_mem _ hd)]
    simp

theorem soleName?_word {name : Text} (h : isWord name = true) : soleName? name = some name := by
  obtain ⟨c, tail, rfl, hc, htail⟩ := exists_cons_of_isWord h
  have hall : ∀ d ∈ tail, isEndNameChar d = true := by
    intro d hd
    simp [isEndNameChar, isLetterOrDigit, isAsciiLetter_of_isSmallLetter (htail d hd)]
  have htake : (tail ++ []).takeWhile isEndNameChar = tail ++ [].takeWhile isEndNameChar :=
    List.takeWhile_append_of_pos hall
  have hdrop : (tail ++ []).dropWhile isEndNameChar = [].dropWhile isEndNameChar :=
    List.dropWhile_append_of_pos hall
  rw [List.append_nil] at htake hdrop
  have hskip : skipBlanks (c :: tail) = c :: tail :=
    List.dropWhile_cons_of_neg (by simp [isBlank_of_isSmallLetter hc])
  simp [soleName?, hskip, htake, hdrop, isAsciiLetter_of_isSmallLetter hc]

theorem scanned_end {tag : Text} (htag : isWord tag = true) (rest : Text) :
    Scanned (Item.endTag tag ++ rest) [.close tag] rest := by
  apply Scanned.of_step
  intro final
  have hsearch : search readBracket (tag ++ .char '>' :: rest) = some (tag, rest) :=
    searchAfter_bracket (fun c hc => ne_of_isSmallLetter (letters_of_isWord htag c hc) (by decide))
      [] rest
  have hend : Item.endTag tag ++ rest =
      .char '<' :: .char '/' :: (tag ++ .char '>' :: rest) := by simp [Item.endTag]
  rw [hend, step, stepBracket, readEnd, hsearch]
  simp only [soleName?_word htag, lower_of_isWord htag, stepConstruct]

end FlatBlocks.Markup.Token
