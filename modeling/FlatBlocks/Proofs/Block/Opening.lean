import FlatBlocks.Proofs.Block.Nesting
import FlatBlocks.Proofs.Block.Network
import FlatBlocks.Proofs.Block.Revisit

/-! # How stacks open

An outline has a paragraph for each top-level record, in the order of the records. It opens
with the line of the record or, if the block has been printed in an earlier paragraph, with
its marker. An empty id refers to no block, though, and a conversion takes it as it takes any
other: the stack under it is left out, and nothing but a blank paragraph is there for it. -/

namespace FlatBlocks.Block.Outline
open Markup (Node)

/-! ## Paragraphs one after the other -/

section
variable {α : Type u} [Label α] (records : Table (Record α))

/-- What paragraphs print depends on earlier ones by what these have visited. -/
theorem paragraphs_append (first second : List α) (visited : List Text) :
    ∃ between,
      Walk records (.paragraphs first) visited (paragraphs records visited first).flatten between ∧
        paragraphs records visited (first ++ second) =
          paragraphs records visited first ++ paragraphs records between second := by
  induction first generalizing visited with
  | nil => exact ⟨visited, .noParagraphs, rfl⟩
  | cons start rest ih =>
    obtain ⟨between, hwalk, hrest⟩ := ih (stack records 0 visited (some start)).after
    refine ⟨between, .paragraph (walk_stack records 0 visited (some start)) hwalk, ?_⟩
    rw [List.cons_append, paragraphs, hrest]
    rfl

theorem length_paragraphs (starts : List α) (visited : List Text) :
    (paragraphs records visited starts).length = starts.length := by
  induction starts generalizing visited with
  | nil => rfl
  | cons start rest ih => rw [paragraphs, List.length_cons, List.length_cons, ih]

end

/-! ## The first line of a stack -/

section
variable {α : Type u} [Label α] {records : Table (Record α)}

/-- A stack opens with its first block, or with the marker that this has been visited. -/
theorem head?_stack (level : Int) (visited : List Text) {id : α} {record : Record α}
    (hid : ¬ Label.isBlank id = true) (hr : records.get? (Label.key id) = some record) :
    (stack records level visited (some id)).lines.head? =
      some (if visited.contains (Label.key id) then .cycle level id
        else .heading level id record) := by
  by_cases hv : Label.key id ∈ visited
  · rw [(stack_of_visited level hid hr hv).1, if_pos (List.contains_iff_mem.mpr hv)]
    rfl
  · rw [(stack_of_new level hid hr hv).1, if_neg (mt List.contains_iff_mem.mp hv)]
    rfl

theorem text_prefix_of_head? {lines : List (Line α)} {line : Line α}
    (h : lines.head? = some line) : line.text <+: lines.flatMap Line.text := by
  obtain ⟨rest, rfl⟩ := List.head?_eq_some_iff.mp h
  exact List.prefix_append _ _

end

/-! ## The paragraphs of records -/

section
variable {records : List (Record Text)}

/-- The paragraph of a top-level record is its stack, where what earlier paragraphs print has
been visited. -/
theorem paragraph_of_top (hids : (records.map Record.id).Nodup) {i : Nat} {r : Record Text}
    (hr : (records.filter (·.topLevel))[i]? = some r) :
    ∃ visited, (ofRecords records)[i]? =
        some (stack (tableOf records) 0 visited (some r.id)).lines ∧
      ∀ id, id ∈ visited ↔ id ∈ printedIds ((ofRecords records).take i).flatten := by
  obtain ⟨hi, rfl⟩ := List.getElem?_eq_some_iff.mp hr
  generalize hsplit : records.filter (·.topLevel) = top at hi ⊢
  have hstarts : starts records =
      (top.take i).map Record.id ++ top[i].id :: (top.drop (i + 1)).map Record.id := by
    rw [starts_of_nodup hids, hsplit, ← List.map_cons, ← List.drop_eq_getElem_cons hi,
      ← List.map_append, List.take_append_drop]
  obtain ⟨visited, hwalk, hparagraphs⟩ := paragraphs_append (tableOf records)
    ((top.take i).map Record.id) (top[i].id :: (top.drop (i + 1)).map Record.id) []
  rw [← hstarts, paragraphs] at hparagraphs
  have hlength : (paragraphs (tableOf records) [] ((top.take i).map Record.id)).length = i := by
    rw [length_paragraphs, List.length_map, List.length_take]
    omega
  refine ⟨visited, ?_, ?_⟩
  · rw [ofRecords, hparagraphs, List.getElem?_append_right (by omega), hlength, Nat.sub_self]
    rfl
  · intro id
    rw [ofRecords, hparagraphs, List.take_left' hlength, hwalk.after_eq_printed, List.append_nil,
      List.mem_reverse]

/-- **Each top-level record has a paragraph**, which opens with the line of the record, or with
its marker if an earlier paragraph has printed the block. Only the paragraph of an empty id is
empty: the stack that starts there is not printed. -/
theorem paragraph_opens {roots : List Node} (h : flatten roots = .ok records) :
    render records = List.intercalate "\n" ((ofRecords records).map (·.flatMap Line.text)) ∧
      (ofRecords records).length = (records.filter (·.topLevel)).length ∧
      ∀ (i : Nat) (r : Record Text), (records.filter (·.topLevel))[i]? = some r →
        ∃ paragraph, (ofRecords records)[i]? = some paragraph ∧
          let text := paragraph.flatMap Line.text
          let earlier := printedIds ((ofRecords records).take i).flatten
          (text = [] ↔ r.id = []) ∧
            (r.id ≠ [] → r.id ∉ earlier → (title r ++ "\n" : Text) <+: text) ∧
            (r.id ≠ [] → r.id ∈ earlier →
              ("<cycle at " ++ r.id ++ ">\n" : Text) <+: text) := by
  have hids := distinct_of_flatten h
  refine ⟨rfl, ?_, ?_⟩
  · rw [ofRecords, length_paragraphs, starts_of_nodup hids, List.length_map]
  · intro i r hr
    obtain ⟨visited, hparagraph, hvisited⟩ := paragraph_of_top hids hr
    have hmem : r ∈ records := (List.mem_filter.mp (List.mem_of_getElem? hr)).1
    have hknown := (get?_tableOf_eq_some_iff hids).mpr ⟨hmem, rfl⟩
    have hopens : r.id ≠ [] →
        (stack (tableOf records) 0 visited (some r.id)).lines.head? =
          some (if visited.contains r.id then .cycle 0 r.id else .heading 0 r.id r) := by
      intro hid
      exact head?_stack 0 visited (mt List.isEmpty_iff.mp hid) hknown
    refine ⟨_, hparagraph, ?_, ?_, ?_⟩
    · rw [← Rendered.text, Rendered.text_eq_nil, stack_lines_eq_nil]
      exact List.isEmpty_iff
    · intro hid hnew
      have hopens := hopens hid
      rw [← hvisited, ← List.contains_iff_mem] at hnew
      rw [if_neg hnew] at hopens
      exact text_prefix_of_head? hopens
    · intro hid hseen
      have hopens := hopens hid
      rw [← hvisited, ← List.contains_iff_mem] at hseen
      rw [if_pos hseen] at hopens
      exact text_prefix_of_head? hopens

end

/-- Two roots, the second of which has the id of a block that comes next in the first. -/
def resumed : List Node :=
  [.element "block" [("id", "a"), ("type", "x")]
      [.element "next" [] [.element "block" [("id", "b"), ("type", "y")] []]],
    .element "block" [("id", "b"), ("type", "z")] []]

theorem paragraphs_of_resumed :
    let records : List (Record Text) :=
      [{ id := "a", opcode := "x", next := some "b", topLevel := true },
        { id := "b", opcode := "z", topLevel := true }]
    flatten resumed = .ok records ∧ (ofRecords records).length = 2 ∧
      ∃ first second, (ofRecords records)[0]? = some first ∧
        (ofRecords records)[1]? = some second ∧
        ("x\n" : Text) <+: first.flatMap Line.text ∧
        ("<cycle at b>\n" : Text) <+: second.flatMap Line.text := by
  intro records
  have h : flatten resumed = .ok records := by decide +kernel
  obtain ⟨_, hlength, hopens⟩ := paragraph_opens h
  obtain ⟨first, hfirst, _, hheading, _⟩ := hopens 0 _ rfl
  obtain ⟨second, hsecond, _, _, hmarker⟩ := hopens 1 _ rfl
  have hprinted : printedIds ((ofRecords records).take 1).flatten = (["a", "b"] : List Text) := by
    have hprintout : stackWithin (tableOf records) 6 0 [] (some ("a" : Text)) =
        some (stack (tableOf records) 0 [] (some ("a" : Text))).printout :=
      stackWithin_eq 6 0 _ (by decide)
    have hids : (stackWithin (tableOf records) 6 0 [] (some ("a" : Text))).map
        (fun p => printedIds p.lines) = some (["a", "b"] : List Text) := rfl
    rw [hprintout] at hids
    exact (congrArg printedIds (List.append_nil _)).trans (Option.some.inj hids)
  refine ⟨h, hlength, first, second, hfirst, hsecond, hheading (by decide) (by decide), ?_⟩
  exact hmarker (by decide) (hprinted ▸ by decide)

/-- A block whose id is empty. -/
def blankId : List Node := [.element "block" [("id", ""), ("type", "x")] []]

theorem no_opening_of_blank :
    ¬ ∀ (roots : List Node) (records : List (Record Text)), flatten roots = .ok records →
      ∀ (i : Nat) (r : Record Text), (records.filter (·.topLevel))[i]? = some r →
        ∃ paragraph, (ofRecords records)[i]? = some paragraph ∧
          ((title r ++ "\n" : Text) <+: paragraph.flatMap Line.text ∨
            ("<cycle at " ++ r.id ++ ">\n" : Text) <+: paragraph.flatMap Line.text) := by
  intro hall
  have h : flatten blankId = .ok [{ id := "", opcode := "x", topLevel := true }] := by decide +kernel
  obtain ⟨paragraph, hparagraph, hopens⟩ := hall _ _ h 0 _ rfl
  obtain ⟨visited, hstack, _⟩ := paragraph_of_top (distinct_of_flatten h) (i := 0) rfl
  obtain rfl := Option.some.inj (hparagraph.symm.trans hstack)
  rw [stack_of_blank rfl] at hopens
  rcases hopens with hopens | hopens
  · exact absurd (List.prefix_nil.mp hopens) (by decide)
  · exact absurd (List.prefix_nil.mp hopens) (by decide)

end FlatBlocks.Block.Outline
