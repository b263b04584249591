import FlatBlocks.Proofs.Block.Link
import FlatBlocks.Proofs.Block.Walk
import Mathlib.Data.List.Nodup

/-! # What an outline reaches

An outline prints the records that can be reached from the top-level ones through links,
each of them once, whatever the links are: they may lead in circles, meet or lead nowhere.
A walk passes on to everything that its sources lead to, because a block that it enters
is done with before it returns; blocks that were entered before and whose stacks are
still to be walked on are left to those who entered them. -/

namespace FlatBlocks.Block.Outline

/-- The ids at which a task starts. -/
def Task.sources : Task Text → List Text
  | .stack _ start => start.toList
  | .next _ id => id.toList
  | .inputs _ links => links.values.map Link.block
  | .paragraphs starts => starts

section
variable {records : Table (Record Text)} {task : Task Text} {visited between after : List Text}
  {lines : List (Line Text)}

theorem Walk.after_eq_printed (h : Walk records task visited lines after) :
    after = (printedIds lines).reverse ++ visited := h.after_eq

/-- What holds of the sources and is passed on along links holds of all that is printed. -/
theorem Walk.forall_headings {P : Text → Prop}
    (hlink : ∀ id r, P id → records.get? id = some r → ∀ target ∈ r.links, P target)
    (h : Walk records task visited lines after) (hsources : ∀ id ∈ task.sources, P id) :
    ∀ e ∈ headings lines, P e.1 := by
  induction h with
  | nothing | blank | missing | last | noInputs | noParagraphs => simp [headings, Line.heading?]
  | repeated _ => simp [headings_repeated]
  | again _ hr _ _ ih =>
    refine ih fun target ht => ?_
    exact hlink _ _ (hsources _ (by simp [Task.sources])) hr target (List.mem_append_right _ ht)
  | @enter level id record _ _ _ _ _ _ hr _ _ _ ihinputs ihrest =>
    have hid : P id := hsources id (by simp [Task.sources])
    intro e he
    rw [headings_cons_heading, headings_append] at he
    rcases List.mem_cons.mp he with rfl | he
    · exact hid
    · rcases List.mem_append.mp he with he | he
      · exact ihinputs (fun t ht => hlink _ _ hid hr t (List.mem_append_left _ ht)) e he
      · exact ihrest (fun t ht => hlink _ _ hid hr t (List.mem_append_right _ ht)) e he
  | chain _ _ ih => exact ih hsources
  | input _ _ ihfirst ihothers =>
    have hsources := List.forall_mem_cons.mp hsources
    intro e he
    rw [headings_cons_input, headings_append] at he
    rcases List.mem_append.mp he with he | he
    · exact ihfirst (by simpa [Task.sources] using hsources.1) e he
    · exact ihothers hsources.2 e he
  | paragraph _ _ ihfirst ihothers =>
    have hsources := List.forall_mem_cons.mp hsources
    intro e he
    rw [headings_append] at he
    rcases List.mem_append.mp he with he | he
    · exact ihfirst (by simpa [Task.sources] using hsources.1) e he
    · exact ihothers hsources.2 e he

/-- What has been visited between two points links to nothing but what has been visited by the
second one, as far as there are records. -/
def Closed (records : Table (Record Text)) (visited after : List Text) : Prop :=
  ∀ id ∈ after, id ∉ visited → ∀ r, records.get? id = some r →
    ∀ target ∈ r.links, (records.get? target).isSome → target ∈ after

theorem Closed.refl (records : Table (Record Text)) (visited : List Text) :
    Closed records visited visited :=
  fun _ hid hnew => absurd hid hnew

theorem Closed.trans (h : Closed records visited between) (h' : Closed records between after)
    (hsub : ∀ id ∈ between, id ∈ after) : Closed records visited after := by
  intro id hid hnew r hr target ht hsome
  by_cases hb : id ∈ between
  · exact hsub target (h id hb hnew r hr target ht hsome)
  · exact h' id hid hb r hr target ht hsome

/-- A walk visits its sources, and all that is linked to from what it visits. -/
theorem Walk.closed (hids : (records.get? []).isNone)
    (h : Walk records task visited lines after) :
    (∀ id ∈ task.sources, (records.get? id).isSome → id ∈ after) ∧
      Closed records visited after := by
  induction h with
  | nothing | last | noInputs | noParagraphs =>
    exact ⟨by simp [Task.sources, Table.values], .refl _ _⟩
  | @blank level id visited hid =>
    refine ⟨?_, .refl _ _⟩
    intro source hs hsome
    obtain rfl : source = id := by simpa [Task.sources] using hs
    obtain rfl : source = [] := by simpa using hid
    rw [Option.isNone_iff_eq_none.mp hids] at hsome
    cases hsome
  | @missing level id visited hid hr =>
    refine ⟨?_, .refl _ _⟩
    intro source hs hsome
    obtain rfl : source = id := by simpa [Task.sources] using hs
    rw [key_text] at hr
    rw [hr] at hsome
    cases hsome
  | @again level id record visited after lines hid hr hv rest ih =>
    refine ⟨?_, ih.2⟩
    intro source hs _
    obtain rfl : source = id := by simpa [Task.sources] using hs
    exact rest.mem_after hv
  | @enter level id record visited between after inner more hid hr hv inputs rest ihinputs ihrest =>
    have hid : id ∈ between := inputs.mem_after List.mem_cons_self
    refine ⟨?_, ?_⟩
    · intro source hs _
      obtain rfl : source = id := by simpa [Task.sources] using hs
      exact rest.mem_after hid
    · intro key hk hnew r hr' target ht hsome
      by_cases hkey : key = id
      · subst hkey
        obtain rfl : record = r := Option.some.inj (hr.symm.trans hr')
        rcases List.mem_append.mp ht with ht | ht
        · exact rest.mem_after (ihinputs.1 target ht hsome)
        · exact ihrest.1 target ht hsome
      · have hlater := ihinputs.2.trans ihrest.2 fun key hk => rest.mem_after hk
        exact hlater key hk (by simp [hkey, hnew]) r hr' target ht hsome
  | @repeated level id visited hv =>
    refine ⟨?_, .refl _ _⟩
    intro source hs _
    obtain rfl : source = id := by simpa [Task.sources] using hs
    exact hv
  | chain _ _ ih => exact ih
  | input first others ihfirst ihothers =>
    refine ⟨?_, ihfirst.2.trans ihothers.2 fun key hk => others.mem_after hk⟩
    intro source hs hsome
    rcases List.mem_cons.mp hs with rfl | hs
    · exact others.mem_after (ihfirst.1 _ (by simp [Task.sources]) hsome)
    · exact ihothers.1 source hs hsome
  | paragraph first others ihfirst ihothers =>
    refine ⟨?_, ihfirst.2.trans ihothers.2 fun key hk => others.mem_after hk⟩
    intro source hs hsome
    rcases List.mem_cons.mp hs with rfl | hs
    · exact others.mem_after (ihfirst.1 _ (by simp [Task.sources]) hsome)
    · exact ihothers.1 source hs hsome

end

/-! ## Outlines -/

/-- Of several records with an id the last one counts. -/
def last? (records : List (Record Text)) (id : Text) : Option (Record Text) :=
  records.reverse.find? (·.id == id)

/-- The ids of the records that are reached from the top-level ones through links. -/
inductive Reachable (records : List (Record Text)) : Text → Prop
  | top {id : Text} {r : Record Text} (hr : last? records id = some r)
      (htop : r.topLevel = true) : Reachable records id
  | link {source target : Text} {r s : Record Text} (hsource : Reachable records source)
      (hr : last? records source = some r) (ht : target ∈ r.links)
      (hs : last? records target = some s) : Reachable records target

/-- The blocks that an outline prints, in order. -/
def printed (records : List (Record Text)) : List (Text × Record Text) :=
  headings (ofRecords records).flatten

theorem mem_of_last? {records : List (Record Text)} {id : Text} {r : Record Text}
    (h : last? records id = some r) : r ∈ records ∧ r.id = id :=
  ⟨List.mem_reverse.mp (List.mem_of_find?_eq_some h), by simpa using List.find?_some h⟩

theorem firstId?_eq {records : List (Record Text)} {id : Text} (h : id ∈ records.map Record.id) :
    firstId? records id = some id := by
  obtain ⟨r, hr, hid⟩ := List.mem_map.mp h
  obtain ⟨first, hfirst⟩ : ∃ first, records.find? (fun r => Label.key r.id == id) = some first :=
    Option.isSome_iff_exists.mp (List.find?_isSome.mpr ⟨r, hr, by simpa using hid⟩)
  have hsame := List.find?_some hfirst
  rw [firstId?, hfirst]
  exact congrArg some (by simpa using hsame)

theorem starts_eq (records : List (Record Text)) :
    starts records = Table.keys ((tableOf records).filter (·.2.topLevel)) := by
  have hfirst : ∀ id ∈ Table.keys ((tableOf records).filter (·.2.topLevel)),
      firstId? records id = some id := by
    intro id hid
    obtain ⟨e, he, rfl⟩ := List.mem_map.mp hid
    have he := (List.mem_filter.mp he).1
    apply firstId?_eq
    rw [← mem_ids_tableOf, Table.map_values (keyed_tableOf records)]
    exact List.mem_map_of_mem he
  rw [starts, List.filterMap_congr hfirst]
  exact List.filterMap_some

theorem mem_starts {records : List (Record Text)} {id : Text} :
    id ∈ starts records ↔ ∃ r, last? records id = some r ∧ r.topLevel = true := by
  rw [starts_eq, last?, ← get?_tableOf]
  constructor
  · intro h
    obtain ⟨e, he, rfl⟩ := List.mem_map.mp h
    obtain ⟨he, htop⟩ := List.mem_filter.mp he
    exact ⟨e.2, Table.get?_of_mem (nodup_keys_tableOf records) he, htop⟩
  · rintro ⟨r, hr, htop⟩
    exact List.mem_map.mpr ⟨(id, r), List.mem_filter.mpr ⟨Table.mem_of_get? hr, htop⟩, rfl⟩

theorem starts_of_nodup {records : List (Record Text)} (h : (records.map Record.id).Nodup) :
    starts records = (records.filter (·.topLevel)).map Record.id := by
  rw [starts_eq, tableOf_of_nodup h, List.filter_map, Table.keys, List.map_map]
  rfl

section
variable {records : List (Record Text)}

theorem walk_ofRecords (records : List (Record Text)) :
    ∃ after, Walk (tableOf records) (.paragraphs (starts records)) []
      (ofRecords records).flatten after :=
  walk_paragraphs (tableOf records) (starts records) []

theorem nodup_printedIds (records : List (Record Text)) :
    (printedIds (ofRecords records).flatten).Nodup := by
  obtain ⟨after, hwalk⟩ := walk_ofRecords records
  have hnodup := hwalk.nodup List.nodup_nil
  rw [hwalk.after_eq_printed, List.append_nil, List.nodup_reverse] at hnodup
  exact hnodup

/-- Of several records with an id it is the last one that is printed. -/
theorem last?_of_printed {e : Text × Record Text} (he : e ∈ printed records) :
    last? records e.1 = some e.2 := by
  obtain ⟨after, hwalk⟩ := walk_ofRecords records
  rw [last?, ← get?_tableOf]
  exact hwalk.get?_of_heading e he

theorem reachable_of_printed {e : Text × Record Text} (he : e ∈ printed records) :
    Reachable records e.1 := by
  obtain ⟨after, hwalk⟩ := walk_ofRecords records
  -- links that lead to no record are followed, too, but nothing is printed there
  refine hwalk.forall_headings
    (P := fun id => ∀ r, last? records id = some r → Reachable records id)
    ?_ ?_ e he e.2 (last?_of_printed he)
  · intro source r hsource hr target ht s hs
    rw [get?_tableOf] at hr
    exact .link (hsource r hr) hr ht hs
  · intro start hstart _ _
    obtain ⟨r, hr, htop⟩ := mem_starts.mp hstart
    exact .top hr htop

theorem get?_nil_of_named (hnames : ∀ r ∈ records, r.id ≠ []) :
    ((tableOf records).get? []).isNone := by
  rw [Option.isNone_iff_eq_none, Option.eq_none_iff_forall_ne_some]
  intro r hr
  obtain ⟨hmem, hid⟩ := mem_of_last? ((get?_tableOf records []).symm.trans hr)
  exact hnames r hmem hid

theorem mem_printedIds_of_reachable (hnames : ∀ r ∈ records, r.id ≠ []) {id : Text}
    (h : Reachable records id) : id ∈ printedIds (ofRecords records).flatten := by
  obtain ⟨after, hwalk⟩ := walk_ofRecords records
  obtain ⟨hstarts, hclosed⟩ := hwalk.closed (get?_nil_of_named hnames)
  have hget : ∀ {id r}, last? records id = some r → (tableOf records).get? id = some r :=
    fun h => (get?_tableOf records _).trans h
  have hafter : id ∈ after := by
    induction h with
    | top hr htop =>
      exact hstarts _ (mem_starts.mpr ⟨_, hr, htop⟩) (Option.isSome_of_eq_some (hget hr))
    | link _ hr ht hs ih =>
      exact hclosed _ ih List.not_mem_nil _ (hget hr) _ ht (Option.isSome_of_eq_some (hget hs))
  rw [hwalk.after_eq_printed, List.append_nil, List.mem_reverse] at hafter
  exact hafter

end

/-- **An outline prints what can be reached, and that once.** If no id is blank, the blocks that
are printed are those of the records reached from the top-level ones, whatever the links are; no
id is printed twice, and of several records with an id it is the last one that is printed. -/
theorem printed_once_iff_reachable {records : List (Record Text)}
    (h : ∀ r ∈ records, r.id ≠ []) :
    ((printed records).map Prod.fst).Nodup ∧
      (∀ id, id ∈ (printed records).map Prod.fst ↔ Reachable records id) ∧
      ∀ e ∈ printed records, last? records e.1 = some e.2 := by
  refine ⟨nodup_printedIds records, fun id => ⟨?_, mem_printedIds_of_reachable h⟩,
    fun e he => last?_of_printed he⟩
  intro hid
  obtain ⟨e, he, rfl⟩ := List.mem_map.mp hid
  exact reachable_of_printed he

/-- Two stacks that run into each other and into themselves, with a record that is replaced and
one that is linked to from nowhere. -/
def tangled : List (Record Text) :=
  [{ id := "a", opcode := "x", inputs := [("V", ⟨"V", "b"⟩)], next := some "c", topLevel := true },
    { id := "b", opcode := "y", next := some "a" },
    { id := "c", opcode := "z", topLevel := true },
    { id := "d", opcode := "z", next := some "b" },
    { id := "c", opcode := "w", inputs := [("V", ⟨"V", "lost"⟩)], next := some "c" }]

/-- What can be reached in it: the last record with the id `c` leads to no other. -/
theorem reachable_tangled (id : Text) :
    Reachable tangled id ↔ id ∈ (["a", "b", "c"] : List Text) := by
  constructor
  · intro h
    induction h with
    | top hr htop =>
      have hall : ∀ r ∈ tangled, r.topLevel = true → r.id ∈ (["a", "b", "c"] : List Text) := by
        decide +kernel
      obtain ⟨hmem, rfl⟩ := mem_of_last? hr
      exact hall _ hmem htop
    | link _ hr ht hs ih =>
      have hall : ∀ r ∈ tangled, r.id ∈ (["a", "b", "c"] : List Text) → ∀ target ∈ r.links,
          target ∈ (["a", "b", "c"] : List Text) ∨ last? tangled target = none := by
        decide +kernel
      obtain ⟨hmem, rfl⟩ := mem_of_last? hr
      refine (hall _ hmem ih _ ht).resolve_right ?_
      rw [hs]
      exact Option.some_ne_none _
  · intro h
    have htop : Reachable tangled "a" := .top rfl rfl
    obtain rfl | rfl | rfl : id = "a" ∨ id = "b" ∨ id = "c" := by simpa using h
    · exact htop
    · exact .link htop rfl (by decide +kernel) rfl
    · exact .link htop rfl (by decide +kernel) rfl

theorem printed_of_tangled :
    (∀ r ∈ tangled, r.id ≠ []) ∧
      ((printed tangled).map Prod.fst).Perm (["a", "b", "c"] : List Text) := by
  have hids : ∀ r ∈ tangled, r.id ≠ [] := by decide +kernel
  obtain ⟨hnodup, hreached, _⟩ := printed_once_iff_reachable hids
  refine ⟨hids, (List.perm_ext_iff_of_nodup hnodup (by decide +kernel)).mpr ?_⟩
  exact fun id => (hreached id).trans (reachable_tangled id)

end FlatBlocks.Block.Outline
