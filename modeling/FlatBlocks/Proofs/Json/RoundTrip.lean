import FlatBlocks.Proofs.Json.Strings
import FlatBlocks.Proofs.Table

/-! # Reading what was written

A value without numbers is read back from its text in every layout, if the texts in it are
made of characters and no object has a key twice. What a layout puts between the parts of
a value are blanks, which the reader skips, and every step of the reader is paid for by a
character of the text. -/

namespace FlatBlocks.Json
open FlatBlocks.Text

/-- A value of texts made of characters, in which no object has a key twice. -/
inductive Plain : Json → Prop
  | null : Plain .null
  | bool (value : Bool) : Plain (.bool value)
  | str {s : Text} (whole : Whole s) : Plain (.str s)
  | arr {items : List Json} (plain : ∀ item ∈ items, Plain item) : Plain (.arr items)
  | obj {entries : List (Text × Json)} (distinct : (Table.keys entries).Nodup)
      (whole : ∀ e ∈ entries, Whole e.1) (plain : ∀ e ∈ entries, Plain e.2) : Plain (.obj entries)

/-! ## Blanks -/

section
variable {blanks : Text} {c : CodePoint}

theorem skipBlanks_append (h : ∀ b ∈ blanks, isJsonBlank b = true) (hc : isJsonBlank c = false)
    (rest : Text) : skipBlanks (blanks ++ c :: rest) = c :: rest := by
  rw [skipBlanks, List.dropWhile_append_of_pos h, List.dropWhile_cons_of_neg (by simp [hc])]

theorem skipBlanks_cons (hc : isJsonBlank c = false) (rest : Text) :
    skipBlanks (c :: rest) = c :: rest := by
  rw [skipBlanks, List.dropWhile_cons_of_neg (by simp [hc])]

end

theorem mem_copies {t : Text} {count : Int} {c : CodePoint} (h : c ∈ copies t count) : c ∈ t := by
  obtain ⟨piece, hpiece, hc⟩ := List.mem_flatten.mp h
  rwa [List.eq_of_mem_replicate hpiece] at hc

theorem blank_of_mem_lineBreak {layout : Layout} {level : Nat} :
    ∀ c ∈ layout.lineBreak level, isJsonBlank c = true := by
  cases layout with
  | oneLine => simp [Layout.lineBreak]
  | indented width =>
    intro c hc
    rcases List.mem_cons.mp hc with rfl | hc
    · rfl
    · obtain rfl : c = .char ' ' := List.mem_singleton.mp (mem_copies hc)
      rfl

/-- A separator is a comma and blanks. -/
theorem separator_eq (layout : Layout) (level : Nat) :
    ∃ blanks, layout.separator level = .char ',' :: blanks ∧
      ∀ c ∈ blanks, isJsonBlank c = true := by
  cases layout with
  | oneLine => exact ⟨[.char ' '], rfl, by decide⟩
  | indented width => exact ⟨_, rfl, blank_of_mem_lineBreak⟩

/-! ## Values -/

/-- What a value begins with is no blank, no mark of a byte order and closes nothing. -/
theorem write_head (layout : Layout) (level : Nat) {value : Json} (h : Plain value) :
    ∃ c rest, write layout level value = c :: rest ∧ isJsonBlank c = false ∧
      c ≠ .char '\uFEFF' ∧ c ≠ .char ']' := by
  cases h with
  | null => exact ⟨.char 'n', _, rfl, by decide⟩
  | bool value =>
    cases value with
    | true => exact ⟨.char 't', _, rfl, by decide⟩
    | false => exact ⟨.char 'f', _, rfl, by decide⟩
  | str => exact ⟨.char '"', _, rfl, by decide⟩
  | @arr items =>
    cases items with
    | nil => exact ⟨.char '[', _, rfl, by decide⟩
    | cons item items => exact ⟨.char '[', _, rfl, by decide⟩
  | @obj entries =>
    cases entries with
    | nil => exact ⟨.char '\x7b', _, rfl, by decide⟩
    | cons e entries => exact ⟨.char '\x7b', _, rfl, by decide⟩

theorem skipBlanks_write (layout : Layout) (level : Nat) {value : Json} (h : Plain value)
    {blanks : Text} (hblanks : ∀ b ∈ blanks, isJsonBlank b = true) (rest : Text) :
    skipBlanks (blanks ++ (write layout level value ++ rest)) =
      write layout level value ++ rest := by
  obtain ⟨c, more, hhead, hblank, -⟩ := write_head layout level h
  rw [hhead, List.cons_append, skipBlanks_append hblanks hblank]

theorem skipBlanks_writeString {blanks : Text} (hblanks : ∀ b ∈ blanks, isJsonBlank b = true)
    (key rest : Text) :
    skipBlanks (blanks ++ (writeString key ++ rest)) = writeString key ++ rest :=
  skipBlanks_append hblanks (c := .char '"') (by decide) _

/-- A value is read back wherever it stands, with two steps for each character. -/
def ReadBack (layout : Layout) (value : Json) : Prop :=
  ∀ (level fuel : Nat) (rest : Text), 2 * (write layout level value).length ≤ fuel →
    readValue fuel (write layout level value ++ rest) = .ok (value, rest)

section
variable {layout : Layout} {level : Nat} {close : Text}

/-- The items of an array from one on, up to the bracket. -/
theorem readItems_write (hclose : ∀ c ∈ close, isJsonBlank c = true) (rest : Text)
    {item : Json} {items : List Json} (hplain : ∀ i ∈ item :: items, Plain i)
    (h : ∀ i ∈ item :: items, ReadBack layout i) {read : List Json} {fuel : Nat}
    (hfuel : 2 * (write layout level item).length +
      2 * (writeItems layout level items).length + 1 ≤ fuel) :
    readItems fuel read (write layout level item ++ (writeItems layout level items ++
      (close ++ .char ']' :: rest))) = .ok (.arr (read.reverse ++ item :: items), rest) := by
  induction items generalizing item read fuel with
  | nil =>
    obtain ⟨fuel, rfl⟩ : ∃ f, fuel = f + 1 := ⟨fuel - 1, by omega⟩
    obtain ⟨hread, -⟩ := List.forall_mem_cons.mp h
    rw [readItems, hread level fuel _ (by omega), writeItems, List.nil_append]
    simp only [skipBlanks_append hclose (c := .char ']') (by decide)]
    simp
  | cons second items ih =>
    obtain ⟨fuel, rfl⟩ : ∃ f, fuel = f + 1 := ⟨fuel - 1, by omega⟩
    obtain ⟨-, hplain⟩ := List.forall_mem_cons.mp hplain
    obtain ⟨hread, h⟩ := List.forall_mem_cons.mp h
    obtain ⟨blanks, hseparator, hblanks⟩ := separator_eq layout level
    rw [writeItems, hseparator] at hfuel ⊢
    simp only [List.length_cons, List.length_append] at hfuel
    rw [readItems, hread level fuel _ (by omega)]
    simp only [List.cons_append, List.append_assoc, skipBlanks_cons (c := .char ',') (by decide)]
    rw [skipBlanks_write layout level (hplain second List.mem_cons_self) hblanks,
      ih hplain h (by omega)]
    simp

/-- How the entries of an object are read on after one of them, which makes for a table. -/
def readOn (fuel : Nat) (read : Table Json) (rest : Text) : Except Stop (Json × Text) :=
  match skipBlanks rest with
  | .char '\x7d' :: rest => .ok (.obj read, rest)
  | .char ',' :: rest => readEntries fuel read (skipBlanks rest)
  | rest => .error ⟨.comma, rest⟩

theorem readOn_close {fuel : Nat} {read : Table Json} {rest more : Text}
    (h : skipBlanks rest = .char '\x7d' :: more) :
    readOn fuel read rest = .ok (.obj read, more) := by
  simp only [readOn, h]

theorem readOn_comma {fuel : Nat} {read : Table Json} {rest more : Text}
    (h : skipBlanks rest = .char ',' :: more) :
    readOn fuel read rest = readEntries fuel read (skipBlanks more) := by
  simp only [readOn, h]

/-- An entry is read up to what follows its value. -/
theorem readEntries_entry {key : Text} (hkey : Whole key) {value : Json} (hplain : Plain value)
    (h : ReadBack layout value) {fuel : Nat} (hfuel : 2 * (write layout level value).length ≤ fuel)
    (read : Table Json) (rest : Text) :
    readEntries (fuel + 1) read
        (writeString key ++ (.char ':' :: .char ' ' :: (write layout level value ++ rest))) =
      readOn fuel (read.put key value) rest := by
  have hstring := readString_writeString hkey
    (.char ':' :: .char ' ' :: (write layout level value ++ rest))
  have hblank : ∀ b ∈ [CodePoint.char ' '], isJsonBlank b = true := by decide
  have hskip : skipBlanks (.char ' ' :: (write layout level value ++ rest)) =
      write layout level value ++ rest := skipBlanks_write layout level hplain hblank rest
  rw [writeString, List.cons_append] at hstring ⊢
  rw [readEntries, hstring]
  simp only [skipBlanks_cons (c := .char ':') (by decide), hskip, h level fuel rest hfuel]
  rfl

theorem put_of_distinct {read entries : Table Json} {key : Text} {value : Json}
    (h : (Table.keys (read ++ (key, value) :: entries)).Nodup) :
    read.put key value = read ++ [(key, value)] := by
  apply Table.put_of_notMem
  intro hmem
  rw [Table.keys, List.map_append] at h
  exact (List.nodup_append.mp h).2.2 key hmem key (by simp) rfl

/-- The entries of an object from one on, up to the bracket. -/
theorem readEntries_write (hclose : ∀ c ∈ close, isJsonBlank c = true) (rest : Text)
    {key : Text} {value : Json} {entries : List (Text × Json)}
    (hwhole : ∀ e ∈ (key, value) :: entries, Whole e.1)
    (hplain : ∀ e ∈ (key, value) :: entries, Plain e.2)
    (h : ∀ e ∈ (key, value) :: entries, ReadBack layout e.2) {read : Table Json} {fuel : Nat}
    (hdistinct : (Table.keys (read ++ (key, value) :: entries)).Nodup)
    (hfuel : 2 * (write layout level value).length +
      2 * (writeEntries layout level entries).length + 1 ≤ fuel) :
    readEntries fuel read (writeString key ++ (.char ':' :: .char ' ' ::
      (write layout level value ++ (writeEntries layout level entries ++
        (close ++ .char '\x7d' :: rest))))) =
      .ok (.obj (read ++ (key, value) :: entries), rest) := by
  induction entries generalizing key value read fuel with
  | nil =>
    obtain ⟨fuel, rfl⟩ : ∃ f, fuel = f + 1 := ⟨fuel - 1, by omega⟩
    obtain ⟨hkey, -⟩ := List.forall_mem_cons.mp hwhole
    obtain ⟨hvalue, -⟩ := List.forall_mem_cons.mp hplain
    obtain ⟨hread, -⟩ := List.forall_mem_cons.mp h
    have hsteps : 2 * (write layout level value).length ≤ fuel := by omega
    rw [readEntries_entry hkey hvalue hread hsteps, writeEntries, List.nil_append,
      put_of_distinct hdistinct, readOn_close (skipBlanks_append hclose (by decide) rest)]
  | cons second entries ih =>
    obtain ⟨fuel, rfl⟩ : ∃ f, fuel = f + 1 := ⟨fuel - 1, by omega⟩
    obtain ⟨hkey, hwhole⟩ := List.forall_mem_cons.mp hwhole
    obtain ⟨hvalue, hplain⟩ := List.forall_mem_cons.mp hplain
    obtain ⟨hread, h⟩ := List.forall_mem_cons.mp h
    obtain ⟨blanks, hseparator, hblanks⟩ := separator_eq layout level
    rw [writeEntries, hseparator] at hfuel ⊢
    simp only [List.length_cons, List.length_append] at hfuel
    have hsteps : 2 * (write layout level value).length ≤ fuel := by omega
    rw [readEntries_entry hkey hvalue hread hsteps, put_of_distinct hdistinct]
    simp only [List.cons_append, List.append_assoc]
    rw [readOn_comma (skipBlanks_cons (by decide) _), skipBlanks_writeString hblanks,
      ih hwhole hplain h (by simpa using hdistinct) (by omega)]
    simp

/-- A value has a text, so there is a step to begin with. -/
theorem readBack_of_succ {value : Json} (hplain : Plain value)
    (h : ∀ (level fuel : Nat) (rest : Text), 2 * (write layout level value).length ≤ fuel + 1 →
      readValue (fuel + 1) (write layout level value ++ rest) = .ok (value, rest)) :
    ReadBack layout value := by
  intro level fuel rest hfuel
  obtain ⟨c, more, hhead, -⟩ := write_head layout level hplain
  have hlength : (write layout level value).length = more.length + 1 := by
    rw [hhead, List.length_cons]
  obtain ⟨steps, rfl⟩ : ∃ f, fuel = f + 1 := ⟨fuel - 1, by omega⟩
  exact h level steps rest hfuel

theorem readValue_items {s items : Text} (fuel : Nat) (h : skipBlanks s = items)
    (hhead : items.head? ≠ some (.char ']')) :
    readValue (fuel + 1) (.char '[' :: s) = readItems fuel [] items := by
  subst h
  rw [readValue]
  split
  · rename_i heq
    exact absurd (by rw [heq]; rfl) hhead
  · rfl

theorem readValue_entries {s entries : Text} (fuel : Nat) (h : skipBlanks s = entries)
    (hhead : entries.head? ≠ some (.char '\x7d')) :
    readValue (fuel + 1) (.char '\x7b' :: s) = readEntries fuel [] entries := by
  subst h
  rw [readValue]
  split
  · rename_i heq
    exact absurd (by rw [heq]; rfl) hhead
  · rfl

/-- Values without numbers are read back. -/
theorem readBack {value : Json} (h : Plain value) : ReadBack layout value := by
  induction h with
  | null => exact readBack_of_succ .null fun level fuel rest _ => rfl
  | bool value =>
    refine readBack_of_succ (.bool value) fun level fuel rest _ => ?_
    cases value with
    | true => rfl
    | false => rfl
  | str hs =>
    refine readBack_of_succ (.str hs) fun level fuel rest _ => ?_
    have hstring := readString_writeString hs rest
    rw [write]
    rw [writeString, List.cons_append] at hstring ⊢
    rw [readValue, readScalar, hstring]
    · rfl
    · simp
    · simp
  | @arr items hplain ih =>
    refine readBack_of_succ (.arr hplain) fun level fuel rest hfuel => ?_
    cases items with
    | nil => rfl
    | cons item items =>
      have htext : write layout level (.arr (item :: items)) ++ rest =
          .char '[' :: (layout.lineBreak (level + 1) ++ (write layout (level + 1) item ++
            (writeItems layout (level + 1) items ++ (layout.lineBreak level ++
              .char ']' :: rest)))) := by
        simp [write]
      rw [write] at hfuel
      simp only [List.length_cons, List.length_append] at hfuel
      have hitem := hplain item List.mem_cons_self
      have hhead : ∀ more, (write layout (level + 1) item ++ more).head? ≠ some (.char ']') := by
        obtain ⟨c, _, hhead, _, _, hc⟩ := write_head layout (level + 1) hitem
        simp [hhead, hc]
      rw [htext, readValue_items fuel
        (skipBlanks_write layout (level + 1) hitem blank_of_mem_lineBreak _) (hhead _)]
      exact readItems_write blank_of_mem_lineBreak rest hplain ih (by omega)
  | @obj entries hdistinct hwhole hplain ih =>
    refine readBack_of_succ (.obj hdistinct hwhole hplain) fun level fuel rest hfuel => ?_
    cases entries with
    | nil => rfl
    | cons e entries =>
      obtain ⟨key, value⟩ := e
      have htext : write layout level (.obj ((key, value) :: entries)) ++ rest =
          .char '\x7b' :: (layout.lineBreak (level + 1) ++ (writeString key ++ (.char ':' ::
            .char ' ' :: (write layout (level + 1) value ++
              (writeEntries layout (level + 1) entries ++
                (layout.lineBreak level ++ .char '\x7d' :: rest)))))) := by
        simp [write]
      rw [write] at hfuel
      simp only [List.length_cons, List.length_append] at hfuel
      rw [htext, readValue_entries fuel (skipBlanks_writeString blank_of_mem_lineBreak key _)
        (by simp [writeString])]
      exact readEntries_write blank_of_mem_lineBreak rest hwhole hplain ih hdistinct (by omega)

end

/-! ## Documents -/

/-- A document is read back from its text. -/
theorem parse_render (layout : Layout) {value : Json} (h : Plain value) :
    parse (render layout value) = .ok value := by
  obtain ⟨c, more, hhead, hblank, hmark, _⟩ := write_head layout 0 h
  have hback : ReadBack layout value := readBack h
  have hread := hback 0 (2 * (write layout 0 value).length + 2) [] (by omega)
  rw [List.append_nil] at hread
  have hskip : skipBlanks (write layout 0 value) = write layout 0 value := by
    rw [hhead, skipBlanks_cons hblank]
  have hdocument : readDocument (write layout 0 value) = .ok value := by
    unfold readDocument
    split
    · rename_i heq
      exact absurd (List.cons.inj (hhead.symm.trans heq)).1 hmark
    · rw [hskip, hread]
      rfl
  rw [render, parse, hdocument]
  rfl

/-! ## The characters of a document -/

/-- Characters of ASCII, and no control characters but line feeds. -/
def Ascii (t : Text) : Prop := ∀ c ∈ t, isPlain c = true ∨ c = .char '\n'

section
variable {first second : Text}

theorem Ascii.append (h : Ascii first) (h' : Ascii second) : Ascii (first ++ second) :=
  fun c hc => (List.mem_append.mp hc).elim (h c) (h' c)

theorem Ascii.cons {c : CodePoint} (hc : isPlain c = true) (h : Ascii first) :
    Ascii (c :: first) := List.forall_mem_cons.mpr ⟨.inl hc, h⟩

theorem ascii_of_plain (h : first.all isPlain = true) : Ascii first :=
  fun c hc => .inl (List.all_eq_true.mp h c hc)

end

theorem ascii_lineBreak (layout : Layout) (level : Nat) : Ascii (layout.lineBreak level) := by
  cases layout with
  | oneLine => exact ascii_of_plain rfl
  | indented width =>
    intro c hc
    rcases List.mem_cons.mp hc with rfl | hc
    · exact .inr rfl
    · obtain rfl : c = .char ' ' := List.mem_singleton.mp (mem_copies hc)
      exact .inl (by decide)

theorem ascii_separator (layout : Layout) (level : Nat) : Ascii (layout.separator level) := by
  cases layout with
  | oneLine => exact ascii_of_plain rfl
  | indented width => exact (ascii_lineBreak (.indented width) level).cons (by decide)

theorem ascii_writeString (s : Text) : Ascii (writeString s) :=
  ascii_of_plain (all_isPlain_writeString s)

theorem ascii_writeItems (layout : Layout) (level : Nat) {items : List Json}
    (h : ∀ item ∈ items, Ascii (write layout level item)) :
    Ascii (writeItems layout level items) := by
  induction items with
  | nil => exact ascii_of_plain rfl
  | cons item items ih =>
    obtain ⟨hitem, hitems⟩ := List.forall_mem_cons.mp h
    rw [writeItems]
    exact (ascii_separator layout level).append (hitem.append (ih hitems))

theorem ascii_writeEntries (layout : Layout) (level : Nat) {entries : List (Text × Json)}
    (h : ∀ e ∈ entries, Ascii (write layout level e.2)) :
    Ascii (writeEntries layout level entries) := by
  induction entries with
  | nil => exact ascii_of_plain rfl
  | cons e entries ih =>
    obtain ⟨hvalue, hentries⟩ := List.forall_mem_cons.mp h
    rw [writeEntries]
    exact (ascii_separator layout level).append ((ascii_writeString e.1).append
      (((hvalue.append (ih hentries)).cons (by decide)).cons (by decide)))

/-- A value without numbers, whatever texts are in it. -/
inductive Numberless : Json → Prop
  | null : Numberless .null
  | bool (value : Bool) : Numberless (.bool value)
  | str (s : Text) : Numberless (.str s)
  | arr {items : List Json} (all : ∀ item ∈ items, Numberless item) : Numberless (.arr items)
  | obj {entries : List (Text × Json)} (all : ∀ e ∈ entries, Numberless e.2) :
      Numberless (.obj entries)

theorem Plain.numberless {value : Json} (h : Plain value) : Numberless value := by
  induction h with
  | null => exact .null
  | bool value => exact .bool value
  | @str s _ => exact .str s
  | arr _ ih => exact .arr ih
  | obj _ _ _ ih => exact .obj ih

theorem ascii_write (layout : Layout) {value : Json} (h : Numberless value) :
    ∀ level, Ascii (write layout level value) := by
  induction h with
  | null => exact fun level => ascii_of_plain rfl
  | bool value =>
    cases value with
    | true => exact fun level => ascii_of_plain rfl
    | false => exact fun level => ascii_of_plain rfl
  | str s =>
    intro level
    rw [write]
    exact ascii_writeString s
  | @arr items _ ih =>
    intro level
    cases items with
    | nil => exact ascii_of_plain rfl
    | cons item items =>
      obtain ⟨hitem, hitems⟩ := List.forall_mem_cons.mp ih
      have hrest := ascii_writeItems layout (level + 1) fun i hi => hitems i hi (level + 1)
      have hclose : Ascii (layout.lineBreak level ++ [.char ']']) :=
        (ascii_lineBreak layout level).append (ascii_of_plain (by decide))
      rw [write]
      exact ((ascii_lineBreak layout (level + 1)).append
        ((hitem (level + 1)).append (hrest.append hclose))).cons (by decide)
  | @obj entries _ ih =>
    intro level
    cases entries with
    | nil => exact ascii_of_plain rfl
    | cons e entries =>
      obtain ⟨hvalue, hentries⟩ := List.forall_mem_cons.mp ih
      have hrest := ascii_writeEntries layout (level + 1) fun i hi => hentries i hi (level + 1)
      have hclose : Ascii (layout.lineBreak level ++ [.char '\x7d']) :=
        (ascii_lineBreak layout level).append (ascii_of_plain (by decide))
      have hentry := ((hvalue (level + 1)).append (hrest.append hclose)).cons
        (c := .char ' ') (by decide)
      rw [write]
      exact ((ascii_lineBreak layout (level + 1)).append
        ((ascii_writeString e.1).append (hentry.cons (by decide)))).cons (by decide)

end FlatBlocks.Json
