import FlatBlocks.Proofs.Block.Reach
import Mathlib.Logic.Relation

/-! # Printing comes to an end

Printing as a recursion without a measure: a block prints the stacks in its inputs, a stack
its first block and then, unless that has been visited, the stack of the next one. A call
need not visit anything new, for a stack may start at a visited block and still go on; but
the block it goes on with is new then. So calls nest about twice as deep as there are blocks
to be visited, whatever circles the links form, and what has been visited then was visited
before or is reached from the start. -/

namespace FlatBlocks.Block.Outline

section
variable {α : Type u} [Label α]

/-- Lines, and the keys that have been visited when they have been printed. -/
structure Printout (α : Type u) where
  lines : List (Line α)
  after : List Text

def Rendered.printout {visited : List Text} (r : Rendered α visited) : Printout α :=
  ⟨r.lines, r.after⟩

/-! ## Printing without a measure -/

/-- The inputs of a block, given what prints the stacks in them. -/
def inputsBy (plugged : List Text → α → Option (Printout α)) (level : Int)
    (visited : List Text) : Table (Link α) → Option (Printout α)
  | [] => some ⟨[], visited⟩
  | (name, link) :: rest =>
    (plugged visited link.block).bind fun first =>
      (inputsBy plugged level first.after rest).map fun others =>
        ⟨.input level name :: (first.lines ++ others.lines), others.after⟩

/-- A block, given what prints the stacks in its inputs. -/
def blockBy (plugged : List Text → α → Option (Printout α)) (records : Table (Record α))
    (level : Int) (visited : List Text) (id : α) : Option (Printout α) :=
  match records.get? (Label.key id) with
  | none => some ⟨[.missing level id], visited⟩
  | some record =>
    if visited.contains (Label.key id) then some ⟨[.cycle level id], visited⟩
    else (inputsBy plugged level (Label.key id :: visited) record.inputs).map fun inner =>
      ⟨.heading level id record :: inner.lines, inner.after⟩

/-- A stack whose first block has been printed, given what prints the rest of it. -/
def followBy (further : List Text → α → Option (Printout α)) (level : Int)
    (first : Printout α) : Option α → Option (Printout α)
  | none => some first
  | some next =>
    if first.after.contains (Label.key next) then some ⟨first.lines ++ repeated level next, first.after⟩
    else (further first.after next).map fun rest => ⟨first.lines ++ rest.lines, rest.after⟩

/-- A stack, unless calls for it nest deeper than a number. -/
def stackWithin (records : Table (Record α)) :
    Nat → Int → List Text → Option α → Option (Printout α)
  | _, _, visited, none => some ⟨[], visited⟩
  | 0, _, _, some _ => none
  | depth + 1, level, visited, some id =>
    if Label.isBlank id then some ⟨[], visited⟩
    else
      (blockBy (fun visited id => stackWithin records depth (level + 2) visited (some id))
          records level visited id).bind fun first =>
        followBy (fun visited next => stackWithin records depth level visited (some next)) level
          first ((records.get? (Label.key id)).bind Record.next)

/-- A block, unless the calls in it nest deeper than a number. -/
def blockWithin (records : Table (Record α)) (depth : Nat) (level : Int) (visited : List Text)
    (id : α) : Option (Printout α) :=
  blockBy (fun visited id => stackWithin records depth (level + 2) visited (some id)) records
    level visited id

variable {records : Table (Record α)} {visited : List Text}

theorem inputsBy_eq {plugged : List Text → α → Option (Printout α)} {level : Int} {bound : Nat}
    (h : ∀ visited id, unvisited records visited ≤ bound →
      plugged visited id = some (stack records (level + 2) visited (some id)).printout)
    (links : Table (Link α)) (hbound : unvisited records visited ≤ bound) :
    inputsBy plugged level visited links =
      some (inputs records level visited links).printout := by
  induction links generalizing visited with
  | nil =>
    rw [inputs]
    rfl
  | cons entry rest ih =>
    obtain ⟨name, link⟩ := entry
    have hgrows := (stack records (level + 2) visited (some link.block)).grows
    have hrest := ih (Nat.le_trans (unvisited_le hgrows) hbound)
    rw [inputsBy, h visited link.block hbound, inputs]
    simp only [Option.bind_some, Rendered.printout] at hrest ⊢
    rw [hrest]
    rfl

theorem blockBy_eq {plugged : List Text → α → Option (Printout α)} {level : Int}
    (h : ∀ between id, unvisited records between < unvisited records visited →
      plugged between id = some (stack records (level + 2) between (some id)).printout) (id : α) :
    blockBy plugged records level visited id =
      some (block records level visited id).printout := by
  unfold blockBy
  cases hr : records.get? (Label.key id) with
  | none => rw [block_of_missing hr]; rfl
  | some record =>
    by_cases hv : Label.key id ∈ visited
    · rw [block_of_visited hr hv]
      exact if_pos (List.contains_iff_mem.mpr hv)
    · have hless := unvisited_cons_lt hr hv
      have hinputs := inputsBy_eq
        (fun between id hle => h between id (Nat.lt_of_le_of_lt hle hless))
        record.inputs (Nat.le_refl _)
      obtain ⟨hlines, hafter⟩ := block_of_new level hr hv
      simp only [List.contains_iff_mem, if_neg hv, hinputs, Option.map_some, Rendered.printout,
        hlines, hafter]

theorem followBy_eq {further : List Text → α → Option (Printout α)} {level : Int}
    (first : Rendered α visited) {next : Option α}
    (h : ∀ id, next = some id → Label.key id ∉ first.after →
      further first.after id = some (stack records level first.after (some id)).printout) :
    followBy further level first.printout next =
      some ⟨first.lines ++ (follow records level first.after next).lines,
        (follow records level first.after next).after⟩ := by
  cases next with
  | none => simp [followBy, follow, Rendered.of, Rendered.printout]
  | some id =>
    by_cases hv : Label.key id ∈ first.after
    · simp [followBy, follow, Rendered.of, Rendered.printout, hv]
    · simp [followBy, follow, Rendered.printout, hv, h id rfl hv]

/-- How deep the calls for a stack nest at most. -/
def nesting (records : Table (Record α)) (visited : List Text) (start : α) : Nat :=
  2 * unvisited records visited + if visited.contains (Label.key start) then 2 else 1

theorem nesting_le (records : Table (Record α)) (visited : List Text) (start : α) :
    nesting records visited start ≤ 2 * unvisited records visited + 2 := by
  unfold nesting
  split <;> omega

theorem lt_nesting (records : Table (Record α)) (visited : List Text) (start : α) :
    2 * unvisited records visited < nesting records visited start := by
  unfold nesting
  split <;> omega

/-- Calls nest less deep for what follows a block, for it is entered or leads to a new one. -/
theorem nesting_next {id next : α} {record : Record α} (level : Int)
    (hr : records.get? (Label.key id) = some record)
    (hn : Label.key next ∉ (block records level visited id).after) :
    nesting records (block records level visited id).after next < nesting records visited id := by
  simp only [nesting, List.contains_iff_mem]
  rw [if_neg hn]
  by_cases hv : Label.key id ∈ visited
  · rw [if_pos hv, block_of_visited hr hv]
    simp [Rendered.of]
  · obtain ⟨_, hafter⟩ := block_of_new level hr hv
    have hless := unvisited_cons_lt hr hv
    have hgrows : unvisited records
        (inputs records level (Label.key id :: visited) record.inputs).after ≤
          unvisited records (Label.key id :: visited) :=
      unvisited_le (inputs records level (Label.key id :: visited) record.inputs).grows
    rw [if_neg hv, hafter]
    omega

theorem stackWithin_some {depth : Nat} {level : Int} {start : α}
    (h : nesting records visited start ≤ depth) :
    stackWithin records depth level visited (some start) =
      some (stack records level visited (some start)).printout := by
  induction depth generalizing level visited start with
  | zero => exact absurd (lt_nesting records visited start) (by omega)
  | succ depth ih =>
    rw [stackWithin]
    by_cases hid : Label.isBlank start = true
    · rw [if_pos hid, stack_of_blank hid]
      rfl
    · have hplugged : ∀ between id, unvisited records between < unvisited records visited →
          stackWithin records depth (level + 2) between (some id) =
            some (stack records (level + 2) between (some id)).printout := by
        intro between id hless
        have := nesting_le records between id
        have := lt_nesting records visited start
        exact ih (by omega)
      have hfurther : ∀ next, (records.get? (Label.key start)).bind Record.next = some next →
          Label.key next ∉ (block records level visited start).after →
          stackWithin records depth level (block records level visited start).after (some next) =
            some (stack records level (block records level visited start).after
              (some next)).printout := by
        intro next hnext hn
        obtain ⟨record, hr, _⟩ := Option.bind_eq_some_iff.mp hnext
        have := nesting_next level hr hn
        exact ih (by omega)
      obtain ⟨hlines, hafter⟩ := stack_of_block records level visited hid
      rw [if_neg hid, blockBy_eq hplugged, Option.bind_some, followBy_eq _ hfurther,
        Rendered.printout, hlines, hafter]

theorem stackWithin_eq (depth : Nat) (level : Int) (start : Option α)
    (h : 2 * unvisited records visited + 2 ≤ depth) :
    stackWithin records depth level visited start =
      some (stack records level visited start).printout := by
  cases start with
  | none =>
    rw [stackWithin, stack]
    rfl
  | some start => exact stackWithin_some (Nat.le_trans (nesting_le records visited start) h)

theorem blockWithin_eq (depth : Nat) (level : Int) (id : α)
    (h : 2 * unvisited records visited ≤ depth) :
    blockWithin records depth level visited id =
      some (block records level visited id).printout := by
  apply blockBy_eq
  intro between start hless
  have := nesting_le records between start
  exact stackWithin_some (by omega)

end

/-! ## What is visited -/

section
variable {records : Table (Record Text)} {visited : List Text}

/-- A record of the first key links to the second one. -/
def Leads (records : Table (Record Text)) (source target : Text) : Prop :=
  ∃ r, records.get? source = some r ∧ target ∈ r.links

/-- What has been visited before stays so, and what is added has a record and is reached from
the start through links. -/
structure Adds (records : Table (Record Text)) (start : Option Text)
    (visited after : List Text) : Prop where
  keeps : ∀ key ∈ visited, key ∈ after
  known : ∀ key ∈ after, key ∉ visited → key ∈ records.keys
  reached : ∀ key ∈ after, key ∉ visited →
    ∃ id, start = some id ∧ Relation.ReflTransGen (Leads records) id key

/-- A task whose sources are reached from the start adds nothing else. -/
theorem Walk.adds {task : Task Text} {after : List Text} {lines : List (Line Text)}
    {start : Option Text} (h : Walk records task visited lines after)
    (hsources : ∀ source ∈ task.sources,
      ∃ id, start = some id ∧ Relation.ReflTransGen (Leads records) id source) :
    Adds records start visited after := by
  have hnew : ∀ key ∈ after, key ∉ visited → ∃ e ∈ headings lines, e.1 = key := by
    intro key hk hv
    rw [h.after_eq] at hk
    rcases List.mem_append.mp hk with hk | hk
    · exact List.mem_map.mp (List.mem_reverse.mp hk)
    · exact absurd hk hv
  refine ⟨fun key hk => h.mem_after hk, ?_, ?_⟩
  · intro key hk hv
    obtain ⟨e, he, rfl⟩ := hnew key hk hv
    exact List.mem_map_of_mem (Table.mem_of_get? (h.get?_of_heading e he))
  · intro key hk hv
    obtain ⟨e, he, rfl⟩ := hnew key hk hv
    refine h.forall_headings ?_ hsources e he
    rintro id r ⟨first, hfirst, hpath⟩ hr target ht
    exact ⟨first, hfirst, hpath.tail ⟨r, hr, ht⟩⟩

theorem adds_stack (level : Int) (start : Option Text) :
    Adds records start visited (stack records level visited start).after := by
  apply (walk_stack records level visited start).adds
  intro source hs
  exact ⟨source, Option.mem_toList.mp hs, .refl⟩

/-- The block that is entered counts among what is added. -/
theorem Adds.of_entered {after : List Text} {id : Text} {record : Record Text}
    (hr : records.get? id = some record)
    (h : Adds records (some id) (id :: visited) after) :
    Adds records (some id) visited after := by
  refine ⟨fun key hk => h.keeps key (List.mem_cons_of_mem _ hk), ?_, ?_⟩
  · intro key hk hv
    by_cases heq : key = id
    · exact heq ▸ List.mem_map_of_mem (Table.mem_of_get? hr)
    · exact h.known key hk (by simp [heq, hv])
  · intro key hk hv
    by_cases heq : key = id
    · exact ⟨id, rfl, heq ▸ .refl⟩
    · exact h.reached key hk (by simp [heq, hv])

theorem adds_block (level : Int) (id : Text) :
    Adds records (some id) visited (block records level visited id).after := by
  have hnothing : Adds records (some id) visited visited :=
    ⟨fun _ hk => hk, fun _ hk hv => absurd hk hv, fun _ hk hv => absurd hk hv⟩
  cases hr : records.get? id with
  | none =>
    rw [block_of_missing hr]
    exact hnothing
  | some record =>
    by_cases hv : id ∈ visited
    · rw [block_of_visited hr hv]
      exact hnothing
    · obtain ⟨_, hafter⟩ := block_of_new level hr hv
      rw [hafter]
      refine .of_entered hr ?_
      apply ((walk_stack_and_inputs records).2 level (id :: visited) record.inputs).adds
      intro source hs
      exact ⟨id, rfl, .single ⟨record, hr, List.mem_append_left _ hs⟩⟩

/-- **Printing comes to an end.** Whatever the links are, printing without a measure returns what
printing returns, as soon as calls may nest twice as deep as there are records to be visited and
two calls deeper. What has been visited then was visited before, or it has a record and is
reached from the start through links. -/
theorem printing_ends (records : Table (Record Text)) (level : Int) (visited : List Text) :
    (∀ start depth, 2 * unvisited records visited + 2 ≤ depth →
      stackWithin records depth level visited start =
        some (stack records level visited start).printout) ∧
      (∀ id depth, 2 * unvisited records visited ≤ depth →
        blockWithin records depth level visited id =
          some (block records level visited id).printout) ∧
      (∀ start, Adds records start visited (stack records level visited start).after) ∧
      ∀ id, Adds records (some id) visited (block records level visited id).after :=
  ⟨fun start depth h => stackWithin_eq depth level start h,
    fun id depth h => blockWithin_eq depth level id h,
    adds_stack level, adds_block level⟩

/-- Two blocks that follow each other, one of which is plugged into itself and into the other. -/
def circling : Table (Record Text) :=
  [("a", { id := "a", opcode := "x", inputs := [("V", ⟨"V", "a"⟩)], next := some "b" }),
    ("b", { id := "b", opcode := "y", inputs := [("W", ⟨"W", "a"⟩)], next := some "a" })]

theorem printing_of_circling :
    2 * unvisited circling ["b"] + 2 ≤ 4 ∧
      stackWithin circling 4 0 ["b"] (some "b") =
        some (stack circling 0 ["b"] (some "b")).printout ∧
      (stack circling 0 ["b"] (some "b")).after = (["a", "b"] : List Text) ∧
      Adds circling (some "b") ["b"] ["a", "b"] := by
  obtain ⟨hstack, _, hadds, _⟩ := printing_ends circling 0 ["b"]
  have hbound : 2 * unvisited circling ["b"] + 2 ≤ 4 := by decide
  have hprintout := hstack (some "b") 4 hbound
  have hafter : (stackWithin circling 4 0 ["b"] (some "b")).map Printout.after =
      some (["a", "b"] : List Text) := rfl
  rw [hprintout] at hafter
  have hafter : (stack circling 0 ["b"] (some "b")).after = (["a", "b"] : List Text) :=
    Option.some.inj hafter
  exact ⟨hbound, hprintout, hafter, hafter ▸ hadds (some "b")⟩

end

end FlatBlocks.Block.Outline
