import FlatBlocks.Proofs.Block.Reach

/-! # What an outline follows

An outline follows the ids at which its stacks start, and the links of the blocks that it
prints. Of an id that it follows to a record it prints the block, or it marks that as met
again. A block is printed once, so what is followed twice is marked; and where nothing is
followed twice, nothing is marked, whether links lead in circles or not. -/

namespace FlatBlocks.Block.Outline

/-- The id of the block that a line marks as met again. -/
def Line.mark? : Line Text → Option Text
  | cycle _ id => some id
  | _ => none

/-- The ids that lines mark, in order. -/
def marks (lines : List (Line Text)) : List Text := lines.filterMap Line.mark?

theorem marks_append (first second : List (Line Text)) :
    marks (first ++ second) = marks first ++ marks second := List.filterMap_append

theorem marks_repeated (level : Int) {id : Text} (h : id ≠ []) :
    marks (repeated level id) = [id] := by
  have hid : ¬ Label.isBlank id = true := mt List.isEmpty_iff.mp h
  rw [repeated, if_neg hid]
  rfl

/-- The ids that a walk follows: its sources, and the links of the blocks that it prints. -/
def followed (task : Task Text) (lines : List (Line Text)) : List Text :=
  task.sources ++ (headings lines).flatMap (·.2.links)

/-! ## What each step follows -/

section
variable (level : Int) (lines more : List (Line Text))

theorem followed_single (task : Task Text) {line : Line Text} (h : line.heading? = none) :
    followed task [line] = task.sources := by
  rw [followed, headings, List.filterMap_cons_none h, List.filterMap_nil, List.flatMap_nil,
    List.append_nil]

theorem followed_nil (task : Task Text) : followed task [] = task.sources := List.append_nil _

/-- Behind a marker no link counts as followed: it has been, where its block was printed. -/
theorem followed_again (id : Text) (next : Option Text) :
    (followed (.stack level (some id)) (.cycle level id :: lines)).Sublist
      (id :: followed (.next level next) lines) :=
  (List.sublist_append_right _ _).cons_cons id

theorem followed_enter (id : Text) (record : Record Text) :
    (followed (.stack level (some id)) (.heading level id record :: (lines ++ more))).Perm
      (id :: (followed (.inputs level record.inputs) lines ++
        followed (.next level record.next) more)) := by
  rw [List.perm_iff_count]
  intro key
  simp only [followed, Task.sources, headings_cons_heading, headings_append, List.flatMap_cons,
    List.flatMap_append, Record.links, List.count_append, List.count_cons, Option.toList_some,
    List.count_nil]
  omega

theorem followed_input (name : Text) (link : Link Text) (links : Table (Link Text)) :
    (followed (.inputs level ((name, link) :: links)) (.input level name :: (lines ++ more))).Perm
      (followed (.stack (level + 2) (some link.block)) lines ++
        followed (.inputs level links) more) := by
  rw [List.perm_iff_count]
  intro key
  simp only [followed, Task.sources, headings_cons_input, headings_append, List.flatMap_append,
    Table.values, List.map_cons, List.count_append, List.count_cons, Option.toList_some,
    List.count_nil]
  omega

theorem followed_paragraph (start : Text) (starts : List Text) :
    (followed (.paragraphs (start :: starts)) (lines ++ more)).Perm
      (followed (.stack 0 (some start)) lines ++ followed (.paragraphs starts) more) := by
  rw [List.perm_iff_count]
  intro key
  simp only [followed, Task.sources, headings_append, List.flatMap_append, List.count_append,
    List.count_cons, Option.toList_some, List.count_nil]
  omega

end

section
variable {records : Table (Record Text)} {task : Task Text} {visited after : List Text}
  {lines : List (Line Text)}

/-! ## What is followed is printed or marked -/

/-- Each time that a walk follows an id to a record, it prints the block or marks it. -/
theorem Walk.count_followed_le (h : Walk records task visited lines after) {key : Text}
    (hkey : key ≠ []) (hknown : (records.get? key).isSome) :
    (followed task lines).count key ≤ (printedIds lines).count key + (marks lines).count key := by
  induction h with
  | nothing | last | noInputs | noParagraphs => simp [followed_nil, Task.sources, Table.values]
  | @blank level id visited hid =>
    have hne : id ≠ key := by
      rintro rfl
      exact hkey (List.isEmpty_iff.mp hid)
    simp [followed_nil, Task.sources, hne]
  | @missing level id visited hid hr =>
    have hne : id ≠ key := by
      rintro rfl
      rw [key_text] at hr
      rw [hr] at hknown
      cases hknown
    have hheading : (Line.missing (α := Text) level id).heading? = none := rfl
    simp [followed_single _ hheading, Task.sources, hne]
  | @again level id record visited after lines hid hr hv rest ih =>
    have hcount := (followed_again level lines id record.next).count_le key
    show _ ≤ (printedIds lines).count key + (id :: marks lines).count key
    rw [List.count_cons] at hcount ⊢
    omega
  | @enter level id record visited between after inner more hid hr hv inputs rest ihinputs ihrest =>
    rw [(followed_enter level inner more id record).count_eq]
    show _ ≤ (id :: printedIds (inner ++ more)).count key + (marks (inner ++ more)).count key
    simp only [marks_append, printedIds_append, List.count_cons, List.count_append]
    omega
  | @repeated level id visited hv =>
    by_cases hne : id = key
    · subst hne
      simp [followed, Task.sources, headings_repeated, marks_repeated level hkey]
    · simp [followed, Task.sources, headings_repeated, hne]
  | chain _ _ ih => exact ih
  | @input level name link links visited between after lines more first others ihfirst ihothers =>
    rw [(followed_input level lines more name link links).count_eq]
    show _ ≤ (printedIds (lines ++ more)).count key + (marks (lines ++ more)).count key
    simp only [marks_append, printedIds_append, List.count_append]
    omega
  | @paragraph start starts visited between after lines more first others ihfirst ihothers =>
    rw [(followed_paragraph lines more start starts).count_eq]
    simp only [marks_append, printedIds_append, List.count_append]
    omega

/-! ## Where nothing is followed twice -/

theorem Walk.known_after (h : Walk records task visited lines after)
    (hknown : ∀ key ∈ visited, (records.get? key).isSome) :
    ∀ key ∈ after, (records.get? key).isSome := by
  intro key hk
  rw [h.after_eq_printed, List.mem_append, List.mem_reverse] at hk
  rcases hk with hk | hk
  · obtain ⟨e, he, rfl⟩ := List.mem_map.mp hk
    exact Option.isSome_of_eq_some (h.get?_of_heading e he)
  · exact hknown key hk

/-- What has been visited has records, and of the ids that are to be followed to records, none
stands twice or has been visited. -/
structure Once (records : Table (Record Text)) (visited ids : List Text) : Prop where
  known : ∀ key ∈ visited, (records.get? key).isSome
  once : ∀ key, (records.get? key).isSome → visited.count key + ids.count key ≤ 1

/-- Nothing is marked in the lines, and only what is followed is printed, as often at most. -/
structure Unmarked (records : Table (Record Text)) (ids : List Text)
    (lines : List (Line Text)) : Prop where
  marks : marks lines = []
  printed : ∀ key, (records.get? key).isSome → (printedIds lines).count key ≤ ids.count key

namespace Once
variable {ids first second : List Text}

theorem perm (h : Once records visited first) (hperm : first.Perm second) :
    Once records visited second :=
  ⟨h.known, fun key hk => hperm.count_eq key ▸ h.once key hk⟩

theorem notMem (h : Once records visited ids) {id : Text} (hv : id ∈ visited) : id ∉ ids := by
  intro hid
  have hcount := h.once id (h.known id hv)
  have hvisited := List.count_pos_iff.mpr hv
  have hfollowed := List.count_pos_iff.mpr hid
  omega

theorem enter {id : Text} (h : Once records visited (id :: ids)) (hr : (records.get? id).isSome) :
    Once records (id :: visited) ids := by
  refine ⟨List.forall_mem_cons.mpr ⟨hr, h.known⟩, ?_⟩
  intro key hk
  have hcount := h.once key hk
  rw [List.count_cons] at hcount ⊢
  omega

theorem left (h : Once records visited (first ++ second)) : Once records visited first := by
  refine ⟨h.known, ?_⟩
  intro key hk
  have hcount := h.once key hk
  rw [List.count_append] at hcount
  omega

/-- What is left to be followed after a walk has not been visited by it. -/
theorem right (h : Once records visited (first ++ second))
    (hwalk : Walk records task visited lines after) (hlines : Unmarked records first lines) :
    Once records after second := by
  refine ⟨hwalk.known_after h.known, ?_⟩
  intro key hk
  have hcount := h.once key hk
  have hprinted := hlines.printed key hk
  rw [List.count_append] at hcount
  rw [hwalk.after_eq_printed, List.count_append, List.count_reverse]
  omega

end Once

namespace Unmarked
variable {first second : List Text} {more : List (Line Text)}

theorem perm (h : Unmarked records first lines) (hperm : first.Perm second) :
    Unmarked records second lines :=
  ⟨h.marks, fun key hk => hperm.count_eq key ▸ h.printed key hk⟩

theorem append (h : Unmarked records first lines) (h' : Unmarked records second more) :
    Unmarked records (first ++ second) (lines ++ more) := by
  refine ⟨?_, ?_⟩
  · rw [marks_append, h.marks, h'.marks]
    rfl
  · intro key hk
    have hfirst := h.printed key hk
    have hsecond := h'.printed key hk
    rw [printedIds_append, List.count_append, List.count_append]
    omega

theorem heading (h : Unmarked records first lines) (level : Int) (id : Text)
    (record : Record Text) : Unmarked records (id :: first) (.heading level id record :: lines) := by
  refine ⟨h.marks, ?_⟩
  intro key hk
  have hfirst := h.printed key hk
  show (id :: printedIds lines).count key ≤ _
  rw [List.count_cons, List.count_cons]
  omega

end Unmarked

/-- A walk that follows nothing twice, and nothing to where it has been, marks nothing. -/
theorem Walk.unmarked (h : Walk records task visited lines after)
    (honce : Once records visited (followed task lines)) :
    Unmarked records (followed task lines) lines := by
  induction h with
  | nothing | blank | missing | last | noInputs | noParagraphs =>
    exact ⟨rfl, fun _ _ => Nat.zero_le _⟩
  | @again level id record visited after lines hid hr hv rest ih =>
    exact absurd (List.mem_append_left _ (by simp [Task.sources])) (honce.notMem hv)
  | @enter level id record visited between after inner more hid hr hv inputs rest ihinputs ihrest =>
    have hperm := followed_enter level inner more id record
    have hinner := (honce.perm hperm).enter (Option.isSome_of_eq_some hr)
    have hinputs := ihinputs hinner.left
    have hrest := ihrest (hinner.right inputs hinputs)
    exact ((hinputs.append hrest).heading level id record).perm hperm.symm
  | @repeated level id visited hv =>
    exact absurd (List.mem_append_left _ (by simp [Task.sources])) (honce.notMem hv)
  | chain _ _ ih => exact ih honce
  | @input level name link links visited between after lines more first others ihfirst ihothers =>
    have hperm := followed_input level lines more name link links
    have hlines := honce.perm hperm
    have hfirst := ihfirst hlines.left
    have hothers := ihothers (hlines.right first hfirst)
    have hall := (hfirst.append hothers).perm hperm.symm
    exact ⟨hall.marks, hall.printed⟩
  | @paragraph start starts visited between after lines more first others ihfirst ihothers =>
    have hperm := followed_paragraph lines more start starts
    have hlines := honce.perm hperm
    have hfirst := ihfirst hlines.left
    have hothers := ihothers (hlines.right first hfirst)
    exact (hfirst.append hothers).perm hperm.symm

end

end FlatBlocks.Block.Outline
