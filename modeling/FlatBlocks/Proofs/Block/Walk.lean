import FlatBlocks.Block.Outline
import Mathlib.Data.List.Basic

/-! # Walks through records

What printing a stack does, as steps: a block that has not been visited is entered, its
inputs are walked through and then the stack goes on with its next block; for any other
block a marker is printed. The outline is what such a walk prints, so that what each step
preserves holds of outlines of any records. -/

namespace FlatBlocks.Block.Outline

variable {α : Type u} [Label α]

/-- What is to be printed: a stack, what follows a block in its stack, the inputs of a
block, or one stack after the other. -/
inductive Task (α : Type u) where
  | stack (level : Int) (start : Option α)
  | next (level : Int) (next : Option α)
  | inputs (level : Int) (links : Table (Link α))
  | paragraphs (starts : List α)

/-- A task, the keys that have been visited before it, the lines that it prints and the
keys that have been visited after it. -/
inductive Walk (records : Table (Record α)) :
    Task α → List Text → List (Line α) → List Text → Prop
  | nothing {level : Int} {visited : List Text} :
      Walk records (.stack level none) visited [] visited
  | blank {level : Int} {id : α} {visited : List Text} (hid : Label.isBlank id = true) :
      Walk records (.stack level (some id)) visited [] visited
  | missing {level : Int} {id : α} {visited : List Text} (hid : ¬ Label.isBlank id = true)
      (hr : records.get? (Label.key id) = none) :
      Walk records (.stack level (some id)) visited [.missing level id] visited
  | again {level : Int} {id : α} {record : Record α} {visited after : List Text}
      {lines : List (Line α)} (hid : ¬ Label.isBlank id = true)
      (hr : records.get? (Label.key id) = some record) (hv : Label.key id ∈ visited)
      (rest : Walk records (.next level record.next) visited lines after) :
      Walk records (.stack level (some id)) visited (.cycle level id :: lines) after
  | enter {level : Int} {id : α} {record : Record α} {visited between after : List Text}
      {inner more : List (Line α)} (hid : ¬ Label.isBlank id = true)
      (hr : records.get? (Label.key id) = some record) (hv : Label.key id ∉ visited)
      (inputs : Walk records (.inputs level record.inputs) (Label.key id :: visited) inner between)
      (rest : Walk records (.next level record.next) between more after) :
      Walk records (.stack level (some id)) visited
        (.heading level id record :: (inner ++ more)) after
  | last {level : Int} {visited : List Text} :
      Walk records (.next level none) visited [] visited
  | repeated {level : Int} {id : α} {visited : List Text} (hv : Label.key id ∈ visited) :
      Walk records (.next level (some id)) visited (repeated level id) visited
  | chain {level : Int} {id : α} {visited after : List Text} {lines : List (Line α)}
      (hv : Label.key id ∉ visited)
      (rest : Walk records (.stack level (some id)) visited lines after) :
      Walk records (.next level (some id)) visited lines after
  | noInputs {level : Int} {visited : List Text} :
      Walk records (.inputs level []) visited [] visited
  | input {level : Int} {name : Text} {link : Link α} {links : Table (Link α)}
      {visited between after : List Text} {lines more : List (Line α)}
      (first : Walk records (.stack (level + 2) (some link.block)) visited lines between)
      (others : Walk records (.inputs level links) between more after) :
      Walk records (.inputs level ((name, link) :: links)) visited
        (.input level name :: (lines ++ more)) after
  | noParagraphs {visited : List Text} : Walk records (.paragraphs []) visited [] visited
  | paragraph {start : α} {starts : List α} {visited between after : List Text}
      {lines more : List (Line α)}
      (first : Walk records (.stack 0 (some start)) visited lines between)
      (others : Walk records (.paragraphs starts) between more after) :
      Walk records (.paragraphs (start :: starts)) visited (lines ++ more) after

/-! ## The outline is a walk -/

section
variable {records : Table (Record α)} {level : Int} {visited : List Text}

/-- What is printed below a block and its inputs. -/
def follow (records : Table (Record α)) (level : Int) (visited : List Text) (next : Option α) :
    Rendered α visited :=
  match next with
  | none => .of []
  | some id =>
    if visited.contains (Label.key id) then .of (repeated level id)
    else stack records level visited (some id)

theorem stack_of_blank {id : α} (hid : Label.isBlank id = true) :
    stack records level visited (some id) = .of [] := by
  rw [stack, if_pos hid]

theorem stack_of_missing {id : α} (hid : ¬ Label.isBlank id = true)
    (hr : records.get? (Label.key id) = none) :
    stack records level visited (some id) = .of [.missing level id] := by
  rw [stack, if_neg hid]
  split
  · rfl
  · simp_all

theorem stack_of_visited (level : Int) {id : α} {record : Record α}
    (hid : ¬ Label.isBlank id = true) (hr : records.get? (Label.key id) = some record)
    (hv : Label.key id ∈ visited) :
    (stack records level visited (some id)).lines =
        .cycle level id :: (follow records level visited record.next).lines ∧
      (stack records level visited (some id)).after =
        (follow records level visited record.next).after := by
  rw [stack, if_neg hid]
  split
  · simp_all
  · rename_i found hfound
    obtain rfl : record = found := Option.some.inj (hr.symm.trans hfound)
    rw [dif_pos hv]
    cases hnext : record.next with
    | none => exact ⟨rfl, rfl⟩
    | some next =>
      by_cases hn : Label.key next ∈ visited
      · simp [hn, follow, Rendered.of]
      · simp [hn, follow]

theorem stack_of_new (level : Int) {id : α} {record : Record α}
    (hid : ¬ Label.isBlank id = true) (hr : records.get? (Label.key id) = some record)
    (hv : Label.key id ∉ visited) :
    let inner := inputs records level (Label.key id :: visited) record.inputs
    (stack records level visited (some id)).lines =
        .heading level id record :: (inner.lines ++
          (follow records level inner.after record.next).lines) ∧
      (stack records level visited (some id)).after =
        (follow records level inner.after record.next).after := by
  intro inner
  rw [stack, if_neg hid]
  split
  · simp_all
  · rename_i found hfound
    obtain rfl : record = found := Option.some.inj (hr.symm.trans hfound)
    rw [dif_neg hv]
    simp only
    cases hnext : record.next with
    | none => simp [follow, Rendered.of, inner]
    | some next =>
      by_cases hn : Label.key next ∈ inner.after
      · simp [hn, follow, Rendered.of, inner]
      · simp [hn, follow, inner]

theorem block_of_missing {id : α} (hr : records.get? (Label.key id) = none) :
    block records level visited id = .of [.missing level id] := by
  rw [block, hr]

theorem block_of_visited {id : α} {record : Record α}
    (hr : records.get? (Label.key id) = some record) (hv : Label.key id ∈ visited) :
    block records level visited id = .of [.cycle level id] := by
  rw [block, hr]
  exact if_pos hv

theorem block_of_new (level : Int) {id : α} {record : Record α}
    (hr : records.get? (Label.key id) = some record) (hv : Label.key id ∉ visited) :
    let inner := inputs records level (Label.key id :: visited) record.inputs
    (block records level visited id).lines = .heading level id record :: inner.lines ∧
      (block records level visited id).after = inner.after := by
  simp only [block, hr, if_neg hv, and_self]

/-- A stack is its first block and then what follows that. -/
theorem stack_of_block (records : Table (Record α)) (level : Int) (visited : List Text) {id : α}
    (hid : ¬ Label.isBlank id = true) :
    let first := block records level visited id
    let rest := follow records level first.after ((records.get? (Label.key id)).bind Record.next)
    (stack records level visited (some id)).lines = first.lines ++ rest.lines ∧
      (stack records level visited (some id)).after = rest.after := by
  simp only
  cases hr : records.get? (Label.key id) with
  | none =>
    rw [stack_of_missing hid hr, block_of_missing hr]
    exact ⟨rfl, rfl⟩
  | some record =>
    by_cases hv : Label.key id ∈ visited
    · obtain ⟨hlines, hafter⟩ := stack_of_visited level hid hr hv
      rw [hlines, hafter, block_of_visited hr hv]
      exact ⟨rfl, rfl⟩
    · obtain ⟨hfirst, hbetween⟩ := block_of_new level hr hv
      obtain ⟨hlines, hafter⟩ := stack_of_new level hid hr hv
      rw [hlines, hafter, hfirst, hbetween]
      exact ⟨rfl, rfl⟩

theorem walk_follow {next : Option α}
    (h : ∀ id, next = some id → Label.key id ∉ visited →
      Walk records (.stack level (some id)) visited (stack records level visited (some id)).lines
        (stack records level visited (some id)).after) :
    Walk records (.next level next) visited (follow records level visited next).lines
      (follow records level visited next).after := by
  cases next with
  | none => exact .last
  | some id =>
    unfold follow
    by_cases hv : Label.key id ∈ visited
    · simp only [List.contains_iff_mem.mpr hv, if_true]
      exact .repeated hv
    · simp only [List.contains_iff_mem, hv, if_false]
      exact .chain hv (h id rfl hv)

/-- A visited block leaves a marker, if the stack can be walked on from its next block. -/
theorem walk_of_visited {id : α} {record : Record α} (hid : ¬ Label.isBlank id = true)
    (hr : records.get? (Label.key id) = some record) (hv : Label.key id ∈ visited)
    (h : ∀ next, record.next = some next → Label.key next ∉ visited →
      Walk records (.stack level (some next)) visited
        (stack records level visited (some next)).lines
        (stack records level visited (some next)).after) :
    Walk records (.stack level (some id)) visited (stack records level visited (some id)).lines
      (stack records level visited (some id)).after := by
  obtain ⟨hlines, hafter⟩ := stack_of_visited level hid hr hv
  rw [hlines, hafter]
  exact .again hid hr hv (walk_follow h)

/-- A new block is entered, if its inputs can be walked through and the stack on from them. -/
theorem walk_of_new {id : α} {record : Record α} (inner : Rendered α (Label.key id :: visited))
    (hinner : inner = inputs records level (Label.key id :: visited) record.inputs)
    (hid : ¬ Label.isBlank id = true) (hr : records.get? (Label.key id) = some record)
    (hv : Label.key id ∉ visited)
    (hinputs : Walk records (.inputs level record.inputs) (Label.key id :: visited) inner.lines
      inner.after)
    (h : ∀ next, record.next = some next → Label.key next ∉ inner.after →
      Walk records (.stack level (some next)) inner.after
        (stack records level inner.after (some next)).lines
        (stack records level inner.after (some next)).after) :
    Walk records (.stack level (some id)) visited (stack records level visited (some id)).lines
      (stack records level visited (some id)).after := by
  obtain ⟨hlines, hafter⟩ := stack_of_new level hid hr hv
  rw [hlines, hafter]
  subst hinner
  exact .enter hid hr hv hinputs (walk_follow h)

end

section
variable (records : Table (Record α))

theorem walk_stack_and_inputs :
    (∀ (level : Int) (visited : List Text) (start : Option α),
      Walk records (.stack level start) visited (stack records level visited start).lines
        (stack records level visited start).after) ∧
    ∀ (level : Int) (visited : List Text) (links : Table (Link α)),
      Walk records (.inputs level links) visited (inputs records level visited links).lines
        (inputs records level visited links).after := by
  apply stack.mutual_induct records
  case case1 =>
    intro level visited
    rw [stack]
    exact .nothing
  case case2 =>
    intro level visited id hid
    rw [stack_of_blank hid]
    exact .blank hid
  case case3 =>
    intro level visited id hid hr
    rw [stack_of_missing hid hr]
    exact .missing hid hr
  case case4 =>
    intro level visited id hid record hr hv hnext
    exact walk_of_visited hid hr hv (by simp [hnext])
  case case5 =>
    intro level visited id hid record hr hv next hnext hn
    exact walk_of_visited hid hr hv (by simp [hnext, hn])
  case case6 =>
    intro level visited id hid record hr hv next hnext hn ih
    refine walk_of_visited hid hr hv ?_
    rintro other hother -
    obtain rfl : next = other := Option.some.inj (hnext.symm.trans hother)
    exact ih
  case case7 =>
    intro level visited id hid record hr hv inner _ hnext ih
    exact walk_of_new inner rfl hid hr hv ih (by simp [hnext])
  case case8 =>
    intro level visited id hid record hr hv inner _ next hnext hn ih
    exact walk_of_new inner rfl hid hr hv ih (by simp [hnext, hn])
  case case9 =>
    intro level visited id hid record hr hv inner _ next hnext hn ih ihnext _
    refine walk_of_new inner rfl hid hr hv ih ?_
    rintro other hother -
    obtain rfl : next = other := Option.some.inj (hnext.symm.trans hother)
    exact ihnext
  case case10 =>
    intro level visited
    rw [inputs]
    exact .noInputs
  case case11 =>
    intro level visited name link rest first ihfirst ihrest _
    rw [inputs]
    exact .input ihfirst ihrest

/-- Printing a stack is walking through it. -/
theorem walk_stack (level : Int) (visited : List Text) (start : Option α) :
    Walk records (.stack level start) visited (stack records level visited start).lines
      (stack records level visited start).after :=
  (walk_stack_and_inputs records).1 level visited start

theorem walk_paragraphs (starts : List α) (visited : List Text) :
    ∃ after, Walk records (.paragraphs starts) visited
      (paragraphs records visited starts).flatten after := by
  induction starts generalizing visited with
  | nil => exact ⟨visited, .noParagraphs⟩
  | cons start rest ih =>
    obtain ⟨after, hrest⟩ := ih (stack records 0 visited (some start)).after
    exact ⟨after, .paragraph (walk_stack records 0 visited (some start)) hrest⟩

end

/-! ## What walks have in common -/

/-- A task leaves no choice. -/
theorem Walk.det {records : Table (Record α)} {task : Task α} {visited after after' : List Text}
    {lines lines' : List (Line α)} (h : Walk records task visited lines after)
    (h' : Walk records task visited lines' after') : lines = lines' ∧ after = after' := by
  induction h generalizing lines' after' with
  | nothing => cases h'; exact ⟨rfl, rfl⟩
  | blank hid =>
    cases h' with
    | blank _ => exact ⟨rfl, rfl⟩
    | missing hid' _ | again hid' _ _ _ | enter hid' _ _ _ _ => exact absurd hid hid'
  | missing hid hr =>
    cases h' with
    | blank hid' => exact absurd hid' hid
    | missing _ _ => exact ⟨rfl, rfl⟩
    | again _ hr' _ _ | enter _ hr' _ _ _ => rw [hr] at hr'; cases hr'
  | again hid hr hv _ ih =>
    cases h' with
    | blank hid' => exact absurd hid' hid
    | missing _ hr' => rw [hr] at hr'; cases hr'
    | again _ hr' _ rest' =>
      obtain rfl := Option.some.inj (hr.symm.trans hr')
      obtain ⟨rfl, rfl⟩ := ih rest'
      exact ⟨rfl, rfl⟩
    | enter _ _ hv' _ _ => exact absurd hv hv'
  | enter hid hr hv _ _ ihinputs ihrest =>
    cases h' with
    | blank hid' => exact absurd hid' hid
    | missing _ hr' => rw [hr] at hr'; cases hr'
    | again _ _ hv' _ => exact absurd hv' hv
    | enter _ hr' _ inputs' rest' =>
      obtain rfl := Option.some.inj (hr.symm.trans hr')
      obtain ⟨rfl, rfl⟩ := ihinputs inputs'
      obtain ⟨rfl, rfl⟩ := ihrest rest'
      exact ⟨rfl, rfl⟩
  | last => cases h'; exact ⟨rfl, rfl⟩
  | repeated hv =>
    cases h' with
    | repeated _ => exact ⟨rfl, rfl⟩
    | chain hv' _ => exact absurd hv hv'
  | chain hv _ ih =>
    cases h' with
    | repeated hv' => exact absurd hv' hv
    | chain _ rest' => exact ih rest'
  | noInputs => cases h'; exact ⟨rfl, rfl⟩
  | input _ _ ihfirst ihothers =>
    cases h' with
    | input first' others' =>
      obtain ⟨rfl, rfl⟩ := ihfirst first'
      obtain ⟨rfl, rfl⟩ := ihothers others'
      exact ⟨rfl, rfl⟩
  | noParagraphs => cases h'; exact ⟨rfl, rfl⟩
  | paragraph _ _ ihfirst ihothers =>
    cases h' with
    | paragraph first' others' =>
      obtain ⟨rfl, rfl⟩ := ihfirst first'
      obtain ⟨rfl, rfl⟩ := ihothers others'
      exact ⟨rfl, rfl⟩

/-- The block that a line prints: the id under which it was met, and its record. -/
def Line.heading? : Line α → Option (α × Record α)
  | heading _ id record => some (id, record)
  | _ => none

/-- The blocks that lines print, in order. -/
def headings (lines : List (Line α)) : List (α × Record α) := lines.filterMap Line.heading?

omit [Label α] in
theorem headings_append (first second : List (Line α)) :
    headings (first ++ second) = headings first ++ headings second := List.filterMap_append

omit [Label α] in
theorem headings_cons_heading (level : Int) (id : α) (record : Record α) (lines : List (Line α)) :
    headings (.heading level id record :: lines) = (id, record) :: headings lines := rfl

omit [Label α] in
theorem headings_cons_input (level : Int) (name : Text) (lines : List (Line α)) :
    headings (.input level name :: lines) = headings lines := rfl

omit [Label α] in
theorem headings_cons_cycle (level : Int) (id : α) (lines : List (Line α)) :
    headings (.cycle level id :: lines) = headings lines := rfl

theorem headings_repeated (level : Int) (id : α) : headings (repeated level id) = [] := by
  unfold repeated
  split <;> rfl

/-- The ids of the blocks that lines print, in order. -/
def printedIds (lines : List (Line α)) : List α := (headings lines).map Prod.fst

omit [Label α] in
theorem printedIds_append (first second : List (Line α)) :
    printedIds (first ++ second) = printedIds first ++ printedIds second := by
  rw [printedIds, headings_append, List.map_append]
  rfl

section
variable {records : Table (Record α)} {task : Task α} {visited after : List Text}
  {lines : List (Line α)}

/-- What has been visited since are the blocks that were printed. -/
theorem Walk.after_eq (h : Walk records task visited lines after) :
    after = ((headings lines).map fun e => Label.key e.1).reverse ++ visited := by
  induction h with
  | nothing | blank | missing | last | noInputs | noParagraphs => rfl
  | again _ _ _ _ ih => rw [headings_cons_cycle, ih]
  | enter _ _ _ _ _ ihinputs ihrest =>
    rw [ihrest, ihinputs, headings_cons_heading, headings_append]
    simp
  | repeated _ => rw [headings_repeated]; rfl
  | chain _ _ ih => exact ih
  | input _ _ ihfirst ihothers =>
    rw [ihothers, ihfirst, headings_cons_input, headings_append]
    simp
  | paragraph _ _ ihfirst ihothers =>
    rw [ihothers, ihfirst, headings_append]
    simp

theorem Walk.mem_after (h : Walk records task visited lines after) {key : Text}
    (hk : key ∈ visited) : key ∈ after := by
  rw [h.after_eq]
  exact List.mem_append_right _ hk

/-- No block is visited twice. -/
theorem Walk.nodup (h : Walk records task visited lines after) (hv : visited.Nodup) :
    after.Nodup := by
  induction h with
  | nothing | blank | missing | last | noInputs | noParagraphs | repeated => exact hv
  | again _ _ _ _ ih => exact ih hv
  | enter _ _ hnew _ _ ihinputs ihrest => exact ihrest (ihinputs (List.nodup_cons.mpr ⟨hnew, hv⟩))
  | chain _ _ ih => exact ih hv
  | input _ _ ihfirst ihothers => exact ihothers (ihfirst hv)
  | paragraph _ _ ihfirst ihothers => exact ihothers (ihfirst hv)

/-- A block that is printed stands in the records. -/
theorem Walk.get?_of_heading (h : Walk records task visited lines after) :
    ∀ e ∈ headings lines, records.get? (Label.key e.1) = some e.2 := by
  induction h with
  | nothing | blank | missing | last | noInputs | noParagraphs => simp [headings, Line.heading?]
  | again _ _ _ _ ih => exact ih
  | enter _ hr _ _ _ ihinputs ihrest =>
    intro e he
    rw [headings_cons_heading, headings_append] at he
    rcases List.mem_cons.mp he with rfl | he
    · exact hr
    · exact (List.mem_append.mp he).elim (ihinputs e) (ihrest e)
  | repeated _ => simp [headings_repeated]
  | chain _ _ ih => exact ih
  | input _ _ ihfirst ihothers =>
    intro e he
    rw [headings_cons_input, headings_append] at he
    exact (List.mem_append.mp he).elim (ihfirst e) (ihothers e)
  | paragraph _ _ ihfirst ihothers =>
    intro e he
    rw [headings_append] at he
    exact (List.mem_append.mp he).elim (ihfirst e) (ihothers e)

end

end FlatBlocks.Block.Outline
