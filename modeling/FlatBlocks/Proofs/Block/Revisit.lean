import FlatBlocks.Proofs.Block.Walk

/-! # Where printing meets a block again

A marker stands for a block that has been visited. When a stack comes to such a block, the
marker ends it. When a slot holds one, or a stack starts at one, the marker comes first and
the stack goes on with the block behind it, if there is one: the marker is all that is printed
exactly if nothing comes next. So a block that is plugged into itself has its continuation
printed in its own slot, and a marker where the continuation belongs. -/

namespace FlatBlocks.Block.Outline
open FlatBlocks.Text

section
variable {α : Type u} [Label α] {records : Table (Record α)} {level : Int} {visited : List Text}

theorem Line.text_ne_nil (line : Line α) : line.text ≠ [] := by
  cases line <;> simp [Line.text, Text.ofString, Text.ofChars]

theorem Rendered.text_eq_nil {r : Rendered α visited} : r.text = [] ↔ r.lines = [] := by
  rw [Rendered.text, List.flatMap_eq_nil_iff]
  constructor
  · intro h
    exact List.eq_nil_iff_forall_not_mem.mpr fun line hl => line.text_ne_nil (h line hl)
  · intro h line hl
    rw [h] at hl
    cases hl

/-- A block is printed as one line or more. -/
theorem block_lines_ne_nil (level : Int) (visited : List Text) (id : α) :
    (block records level visited id).lines ≠ [] := by
  cases hr : records.get? (Label.key id) with
  | none => simp [block_of_missing hr, Rendered.of]
  | some record =>
    by_cases hv : Label.key id ∈ visited
    · simp [block_of_visited hr hv, Rendered.of]
    · simp [(block_of_new level hr hv).1]

theorem stack_lines_eq_nil {start : α} :
    (stack records level visited (some start)).lines = [] ↔ Label.isBlank start = true := by
  constructor
  · intro h
    apply Classical.byContradiction
    intro hid
    rw [(stack_of_block records level visited hid).1] at h
    exact block_lines_ne_nil level visited start (List.append_eq_nil_iff.mp h).1
  · intro hid
    rw [stack_of_blank hid]
    rfl

/-- Nothing is printed behind a block exactly if nothing comes next. -/
theorem follow_text_eq_nil {next : Option α} :
    (follow records level visited next).text = [] ↔ next.all Label.isBlank = true := by
  rw [Rendered.text_eq_nil]
  cases next with
  | none => simp [follow, Rendered.of]
  | some id =>
    by_cases hv : Label.key id ∈ visited
    · simp [follow, hv, Rendered.of, repeated]
    · simp [follow, hv, stack_lines_eq_nil]

theorem follow_after_of_last {next : Option α} (h : next.all Label.isBlank = true) :
    (follow records level visited next).after = visited := by
  cases next with
  | none => rfl
  | some id =>
    have hid : Label.isBlank id = true := h
    by_cases hv : Label.key id ∈ visited
    · simp [follow, hv, Rendered.of]
    · simp [follow, hv, stack_of_blank hid, Rendered.of]

theorem follow_of_visited {id : α} (hid : ¬ Label.isBlank id = true)
    (hv : Label.key id ∈ visited) :
    follow records level visited (some id) = .of [.cycle level id] := by
  simp [follow, hv, repeated, hid]

theorem follow_of_new {id : α} (hv : Label.key id ∉ visited) :
    follow records level visited (some id) = stack records level visited (some id) := by
  simp [follow, hv]

theorem text_of_visited (level : Int) {id : α} {record : Record α}
    (hid : ¬ Label.isBlank id = true) (hr : records.get? (Label.key id) = some record)
    (hv : Label.key id ∈ visited) :
    (stack records level visited (some id)).text =
      (Line.cycle level id).text ++ (follow records level visited record.next).text := by
  rw [Rendered.text, (stack_of_visited level hid hr hv).1, List.flatMap_cons]
  rfl

/-- The stack goes on behind the marker if the next block is new. -/
theorem stack_of_visited_before_new (level : Int) {id next : α} {record : Record α}
    (hid : ¬ Label.isBlank id = true) (hr : records.get? (Label.key id) = some record)
    (hv : Label.key id ∈ visited) (hnext : record.next = some next)
    (hnew : Label.key next ∉ visited) :
    (stack records level visited (some id)).text =
        (Line.cycle level id).text ++ (stack records level visited (some next)).text ∧
      (stack records level visited (some id)).after =
        (stack records level visited (some next)).after := by
  have htext := text_of_visited level hid hr hv
  obtain ⟨_, hafter⟩ := stack_of_visited level hid hr hv
  rw [hnext, follow_of_new hnew] at htext hafter
  exact ⟨htext, hafter⟩

/-- A stack whose first block leads to one that has been visited ends with the marker of that. -/
theorem text_of_closed (level : Int) {source id : α} {record : Record α}
    (hsource : ¬ Label.isBlank source = true) (hr : records.get? (Label.key source) = some record)
    (hnext : record.next = some id) (hid : ¬ Label.isBlank id = true)
    (hv : Label.key id ∈ (block records level visited source).after) :
    (stack records level visited (some source)).text =
        (block records level visited source).text ++ (Line.cycle level id).text ∧
      (stack records level visited (some source)).after =
        (block records level visited source).after := by
  obtain ⟨hlines, hafter⟩ := stack_of_block records level visited hsource
  rw [hr, Option.bind_some, hnext, follow_of_visited hid hv] at hlines hafter
  refine ⟨?_, hafter⟩
  rw [Rendered.text, hlines, List.flatMap_append]
  simp [Rendered.of, Rendered.text]

/-- What the inputs of a block print, slot by slot. -/
theorem text_of_inputs (name : Text) (label id : α) (rest : Table (Link α)) :
    (inputs records level visited ((name, ⟨label, id⟩) :: rest)).text =
      (Line.input (α := α) level name).text ++
        (stack records (level + 2) visited (some id)).text ++
        (inputs records level (stack records (level + 2) visited (some id)).after rest).text := by
  rw [inputs]
  simp only [Rendered.text, List.flatMap_cons, List.flatMap_append, List.append_assoc]

/-- A block that a stack starts at has been visited afterwards. -/
theorem mem_after_of_start {id : α} {record : Record α} (hid : ¬ Label.isBlank id = true)
    (hr : records.get? (Label.key id) = some record) (hv : Label.key id ∉ visited) :
    Label.key id ∈ (stack records level visited (some id)).after := by
  obtain ⟨_, hafter⟩ := stack_of_new level hid hr hv
  rw [hafter]
  apply Rendered.grows
  exact (inputs records level (Label.key id :: visited) record.inputs).grows _ List.mem_cons_self

/-- **A block that is plugged into itself** has its continuation printed in its own slot, where
that is visited, and at the end of its stack a marker for it. -/
theorem stack_of_plugged_into_itself (level : Int) {id next : α} {record : Record α}
    {name : Text} {label : α} {rest : Table (Link α)}
    (hid : ¬ Label.isBlank id = true) (hr : records.get? (Label.key id) = some record)
    (hv : Label.key id ∉ visited) (hslot : record.inputs = (name, ⟨label, id⟩) :: rest)
    (hnext : record.next = some next) (hn : ¬ Label.isBlank next = true)
    (hknown : records.contains (Label.key next)) (hnew : Label.key next ∉ Label.key id :: visited) :
    let continuation := stack records (level + 2) (Label.key id :: visited) (some next)
    (stack records level visited (some id)).text =
      (Line.heading level id record).text ++ (Line.input (α := α) level name).text ++
        (Line.cycle (level + 2) id).text ++ continuation.text ++
        (inputs records level continuation.after rest).text ++ (Line.cycle level next).text := by
  intro continuation
  obtain ⟨_, hfound⟩ := Option.isSome_iff_exists.mp hknown
  obtain ⟨htext, hafter⟩ := stack_of_visited_before_new (level + 2) hid hr
    (List.mem_cons_self (a := Label.key id) (l := visited)) hnext hnew
  obtain ⟨hlines, hbetween⟩ := block_of_new level hr hv
  have hblock : (block records level visited id).text =
      (Line.heading level id record).text ++
        (inputs records level (Label.key id :: visited) record.inputs).text := by
    rw [Rendered.text, hlines, List.flatMap_cons]
    rfl
  have hseen : Label.key next ∈ (block records level visited id).after := by
    rw [hbetween, hslot, inputs]
    apply (inputs records level _ rest).grows
    rw [hafter]
    exact mem_after_of_start hn hfound hnew
  obtain ⟨hprinted, _⟩ := text_of_closed level hid hr hnext hn hseen
  rw [hprinted, hblock, hslot, text_of_inputs, htext, hafter]
  simp only [List.append_assoc, continuation]

/-- **The marker of a visited block comes alone exactly if nothing comes next.** The block itself
is printed as the marker. A stack that starts at it, in a slot or not, goes on with what comes
next: a second marker, or the whole stack from there on, which is visited on the way. -/
theorem marker_at_visited (level : Int) {id : α} {record : Record α}
    (hid : ¬ Label.isBlank id = true) (hr : records.get? (Label.key id) = some record)
    (hv : Label.key id ∈ visited) :
    let printed := stack records level visited (some id)
    let marker := (Line.cycle level id).text
    (block records level visited id).text = marker ∧
      (block records level visited id).after = visited ∧
      (printed.text = marker ↔ record.next.all Label.isBlank = true) ∧
      (record.next.all Label.isBlank = true → printed.after = visited) ∧
      ∀ next, record.next = some next → ¬ Label.isBlank next = true →
        (Label.key next ∈ visited →
          printed.text = marker ++ (Line.cycle level next).text ∧ printed.after = visited) ∧
        (Label.key next ∉ visited →
          printed.text = marker ++ (stack records level visited (some next)).text ∧
            printed.after = (stack records level visited (some next)).after ∧
            (records.contains (Label.key next) → Label.key next ∈ printed.after)) := by
  intro printed marker
  have htext : printed.text = marker ++ (follow records level visited record.next).text :=
    text_of_visited level hid hr hv
  have hafter : printed.after = (follow records level visited record.next).after :=
    (stack_of_visited level hid hr hv).2
  refine ⟨?_, ?_, ?_, ?_, ?_⟩
  · rw [block_of_visited hr hv]
    simp [Rendered.text, Rendered.of, marker]
  · rw [block_of_visited hr hv]
    rfl
  · rw [htext, List.append_right_eq_self]
    exact follow_text_eq_nil
  · intro hlast
    rw [hafter, follow_after_of_last hlast]
  · intro next hnext hn
    rw [hnext] at htext hafter
    constructor
    · intro hseen
      rw [follow_of_visited hn hseen] at htext hafter
      exact ⟨by simpa [Rendered.text, Rendered.of] using htext, hafter⟩
    · intro hnew
      obtain ⟨htext, hafter⟩ := stack_of_visited_before_new level hid hr hv hnext hnew
      refine ⟨htext, hafter, fun hknown => ?_⟩
      obtain ⟨_, hfound⟩ := Option.isSome_iff_exists.mp hknown
      exact hafter ▸ mem_after_of_start hn hfound hnew

end

/-- A block with another one behind it. -/
def pair : Table (Record Text) :=
  [("a", { id := "a", opcode := "x", next := some "b" }), ("b", { id := "b", opcode := "y" })]

theorem marker_before_second :
    let printed := stack pair 0 ["a"] (some ("a" : Text))
    pair.get? "a" = some { id := "a", opcode := "x", next := some "b" } ∧
      printed.text = (Line.cycle (α := Text) 0 "a").text ++
        (stack pair 0 ["a"] (some ("b" : Text))).text ∧
      ("b" : Text) ∈ printed.after := by
  have hr : pair.get? "a" = some { id := "a", opcode := "x", next := some "b" } := rfl
  have hid : ¬ Label.isBlank ("a" : Text) = true := by decide
  have hv : ("a" : Text) ∈ (["a"] : List Text) := List.mem_cons_self
  obtain ⟨-, -, -, -, hmore⟩ := marker_at_visited 0 hid hr hv
  obtain ⟨htext, -, hmem⟩ := (hmore "b" rfl (by decide)).2 (by decide)
  exact ⟨hr, htext, hmem rfl⟩

/-- The marker is not all that is printed, and more is visited. -/
theorem not_marker_alone :
    ¬ ∀ (records : Table (Record Text)) (level : Int) (visited : List Text) (id : Text),
      ¬ Label.isBlank id = true → records.contains id → id ∈ visited →
        (stack records level visited (some id)).text = (Line.cycle level id).text ∧
          (stack records level visited (some id)).after = visited := by
  intro h
  have hid : ¬ Label.isBlank ("a" : Text) = true := by decide
  have hr : pair.get? "a" = some { id := "a", opcode := "x", next := some "b" } := rfl
  have hv : ("a" : Text) ∈ (["a"] : List Text) := List.mem_cons_self
  obtain ⟨htext, _⟩ := h pair 0 ["a"] "a" hid rfl hv
  rw [text_of_visited 0 hid hr hv, List.append_right_eq_self, follow_text_eq_nil] at htext
  exact absurd htext (by decide)

end FlatBlocks.Block.Outline
