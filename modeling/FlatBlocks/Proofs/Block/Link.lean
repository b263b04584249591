import FlatBlocks.Block.Label
import FlatBlocks.Proofs.Block.Content
import Mathlib.Logic.Relation

/-! # Links between records

When records are registered one after the other and each links to later ones only, the
table that they leave is closed under links, and no record of it can reach itself. The
reason is an order that survives every overwriting: from an id of the table a link leads
to an id that was last registered later. -/

namespace FlatBlocks.Block
open Markup (Node)

/-- The ids that a record links to: those of its inputs, and that of the next block. -/
def Record.links (r : Record Text) : List Text := r.inputs.values.map Link.block ++ r.next.toList

/-- Each entry of a record is under its own name. -/
structure Record.Named (r : Record Text) : Prop where
  fields : ∀ e ∈ r.fields, e.1 = e.2.name
  inputs : ∀ e ∈ r.inputs, e.1 = e.2.name

/-- Each record links to later ones only. -/
inductive Onward : List (Record Text) → Prop
  | nil : Onward []
  | cons {r : Record Text} {rest : List (Record Text)}
      (links : ∀ target ∈ r.links, target ∈ rest.map Record.id)
      (tail : Onward rest) : Onward (r :: rest)

namespace Onward

theorem append {first second : List (Record Text)} (hfirst : Onward first)
    (hsecond : Onward second) : Onward (first ++ second) := by
  induction hfirst with
  | nil => exact hsecond
  | cons links _ ih =>
    refine .cons ?_ ih
    intro target ht
    exact List.map_append ▸ List.mem_append_left _ (links target ht)

theorem flatMap {α : Type} {f : α → List (Record Text)} {items : List α}
    (h : ∀ item ∈ items, Onward (f item)) : Onward (items.flatMap f) := by
  induction items with
  | nil => exact .nil
  | cons item rest ih =>
    exact (h item List.mem_cons_self).append (ih fun i hi => h i (List.mem_cons_of_mem _ hi))

theorem links_later {before after : List (Record Text)} {r : Record Text}
    (h : Onward (before ++ r :: after)) : ∀ target ∈ r.links, target ∈ after.map Record.id := by
  induction before with
  | nil =>
    cases h with
    | cons links _ => exact links
  | cons first rest ih =>
    cases h with
    | cons _ tail => exact ih tail

end Onward

/-! ## The records of visits -/

theorem named_recordOf (topLevel : Bool) (node : Node) : (recordOf topLevel node).Named :=
  ⟨Table.keyed_ofList Field.name _, Table.keyed_ofList Link.name _⟩

theorem held_of_inputOf? {child : Node} {link : Link Text} (h : inputOf? child = some link) :
    ∃ block, held? child = some block ∧ block.get? "id" = some link.block := by
  unfold inputOf? at h
  split at h
  · rename_i hrole
    obtain ⟨name, _, h⟩ := Option.bind_eq_some_iff.mp h
    obtain ⟨block, hblock, h⟩ := Option.bind_eq_some_iff.mp h
    obtain ⟨target, htarget, h⟩ := Option.bind_eq_some_iff.mp h
    cases h
    exact ⟨block, by rw [held?_slot hrole, hblock], htarget⟩
  · cases h

theorem held_of_nextOf? {child : Node} {target : Text} (h : nextOf? child = some target) :
    ∃ block, held? child = some block ∧ block.get? "id" = some target := by
  unfold nextOf? at h
  split at h
  · rename_i hrole
    obtain ⟨block, hblock, htarget⟩ := Option.bind_eq_some_iff.mp h
    exact ⟨block, by rw [held?_slot hrole, hblock], htarget⟩
  · cases h

/-- The record of an element links to blocks plugged into it. -/
theorem plug_of_link {topLevel : Bool} {node : Node} {target : Text}
    (h : target ∈ (recordOf topLevel node).links) :
    ∃ block ∈ plugs node, block.get? "id" = some target := by
  rcases List.mem_append.mp h with h | h
  · obtain ⟨link, hl, rfl⟩ := List.mem_map.mp h
    obtain ⟨e, he, rfl⟩ := List.mem_map.mp (Table.mem_of_mem_values_ofList hl)
    obtain ⟨link, hgiven, rfl⟩ := List.mem_map.mp he
    obtain ⟨child, hc, hlink⟩ := List.mem_filterMap.mp hgiven
    obtain ⟨block, hheld, hid⟩ := held_of_inputOf? hlink
    exact ⟨block, List.mem_filterMap.mpr ⟨child, hc, hheld⟩, hid⟩
  · have hlast : (node.children.filterMap nextOf?).getLast?.or none = some target :=
      Option.mem_toList.mp h
    rw [Option.or_none] at hlast
    obtain ⟨child, hc, hn⟩ := List.mem_filterMap.mp (List.mem_of_getLast? hlast)
    obtain ⟨block, hheld, hid⟩ := held_of_nextOf? hn
    exact ⟨block, List.mem_filterMap.mpr ⟨child, hc, hheld⟩, hid⟩

/-- What is visited inside an element is visited after it. -/
theorem onward_visitsAt (node : Node) :
    ∀ depth, Onward ((visitsAt depth node).map Visit.record) := by
  induction node using plugs_induction with
  | step node ih =>
    intro depth
    rw [visitsAt_eq, List.map_cons, List.map_flatMap]
    refine .cons ?_ (.flatMap fun block hb => ih block hb (depth + 1))
    intro target ht
    obtain ⟨block, hb, hid⟩ := plug_of_link ht
    have hfirst : (recordOf (depth + 1 == 0) block) ∈
        (visitsAt (depth + 1) block).map Visit.record := by
      rw [visitsAt_eq]
      exact List.mem_cons_self
    refine List.mem_map.mpr ⟨_, List.mem_flatMap.mpr ⟨block, hb, hfirst⟩, ?_⟩
    show (block.get? "id").getD "" = target
    rw [hid]
    rfl

/-! ## Tables of records -/

section
variable {records : List (Record Text)}

theorem keyed_tableOf (records : List (Record Text)) : ∀ e ∈ tableOf records, e.1 = e.2.id :=
  Table.keyed_ofList Record.id records

theorem nodup_keys_tableOf (records : List (Record Text)) : (tableOf records).keys.Nodup :=
  Table.nodup_keys_ofList _

/-- Records that differ in their ids make up the table as they are. -/
theorem tableOf_of_nodup (h : (records.map Record.id).Nodup) :
    tableOf records = records.map fun r => (r.id, r) := by
  apply Table.ofList_of_nodup
  rw [List.map_map]
  exact h

theorem mem_ids_tableOf {id : Text} :
    id ∈ (tableOf records).values.map Record.id ↔ id ∈ records.map Record.id := by
  rw [Table.map_values (keyed_tableOf records), tableOf, Table.keys_ofList, List.mem_eraseDups,
    List.map_map]
  rfl

theorem get?_tableOf_eq_some_iff (h : (records.map Record.id).Nodup) {id : Text}
    {r : Record Text} : (tableOf records).get? id = some r ↔ r ∈ records ∧ r.id = id := by
  have hmem : (id, r) ∈ tableOf records ↔ r ∈ records ∧ r.id = id := by
    rw [tableOf_of_nodup h, List.mem_map]
    constructor
    · rintro ⟨other, ho, heq⟩
      cases heq
      exact ⟨ho, rfl⟩
    · rintro ⟨hr, rfl⟩
      exact ⟨r, hr, rfl⟩
  rw [← hmem]
  exact ⟨Table.mem_of_get?, fun hr => Table.get?_of_mem (nodup_keys_tableOf records) hr⟩

/-- Looking an id up is searching the records from behind. -/
theorem get?_tableOf (records : List (Record Text)) (id : Text) :
    (tableOf records).get? id = records.reverse.find? (·.id == id) := by
  rw [tableOf, Table.get?_ofList, List.filter_map, List.getLast?_map, Option.map_map,
    List.getLast?_filter]
  exact Option.map_id'

/-- A record of the table is the last one of its id. -/
theorem last_of_mem_tableOf {r : Record Text} (h : r ∈ (tableOf records).values) :
    ∃ before after, records = before ++ r :: after ∧ r.id ∉ after.map Record.id := by
  obtain ⟨⟨key, r⟩, he, rfl⟩ := List.mem_map.mp h
  obtain rfl : key = r.id := keyed_tableOf records _ he
  have hget := Table.get?_of_mem (nodup_keys_tableOf records) he
  rw [get?_tableOf] at hget
  obtain ⟨_, after, before, hsplit, hafter⟩ := List.find?_eq_some_iff_append.mp hget
  refine ⟨before.reverse, after.reverse, ?_, ?_⟩
  · rw [← List.reverse_reverse records, hsplit]
    simp
  · intro hm
    obtain ⟨other, ho, hid⟩ := List.mem_map.mp hm
    have hne := hafter other (List.mem_reverse.mp ho)
    simp [hid] at hne

/-- How many registrations come after the last one of an id. -/
def sinceLast (records : List (Record Text)) (id : Text) : Nat :=
  (records.map Record.id).reverse.idxOf id

/-- A link leads to an id that was last registered later. -/
theorem sinceLast_lt_of_link (h : Onward records) {r : Record Text}
    (hr : r ∈ (tableOf records).values) {target : Text} (ht : target ∈ r.links) :
    sinceLast records target < sinceLast records r.id := by
  obtain ⟨before, after, rfl, hlast⟩ := last_of_mem_tableOf hr
  have hafter : target ∈ (after.map Record.id).reverse :=
    List.mem_reverse.mpr (h.links_later target ht)
  have hids : ((before ++ r :: after).map Record.id).reverse =
      (after.map Record.id).reverse ++ r.id :: (before.map Record.id).reverse := by simp
  unfold sinceLast
  rw [hids, List.idxOf_append_of_mem hafter,
    List.idxOf_append_of_notMem (mt List.mem_reverse.mp hlast)]
  have := List.idxOf_lt_length_of_mem hafter
  omega

end

/-- Of a list of records: no two have one id, each entry is under its own name, and links
lead to records of the list. -/
structure Consistent (records : List (Record Text)) : Prop where
  distinct : (records.map Record.id).Nodup
  named : ∀ r ∈ records, r.Named
  closed : ∀ r ∈ records, ∀ target ∈ r.links, ∃ other ∈ records, other.id = target

/-- A record of the first id links to the second id. -/
def Points (records : List (Record Text)) (source target : Text) : Prop :=
  ∃ r ∈ records, r.id = source ∧ target ∈ r.links

/-- No id is reached from itself by one link or more. -/
def Acyclic (records : List (Record Text)) : Prop :=
  ∀ id, ¬ Relation.TransGen (Points records) id id

theorem Onward.consistent {records : List (Record Text)} (h : Onward records)
    (hnamed : ∀ r ∈ records, r.Named) : Consistent (tableOf records).values := by
  refine ⟨?_, ?_, ?_⟩
  · rw [Table.map_values (keyed_tableOf records)]
    exact nodup_keys_tableOf records
  · intro r hr
    obtain ⟨before, after, rfl, _⟩ := last_of_mem_tableOf hr
    exact hnamed r (List.mem_append_right _ List.mem_cons_self)
  · intro r hr target ht
    obtain ⟨before, after, rfl, _⟩ := last_of_mem_tableOf hr
    have hafter := h.links_later target ht
    have hmem : target ∈ (before ++ r :: after).map Record.id := by
      rw [List.map_append]
      exact List.mem_append_right _ (List.mem_cons_of_mem _ hafter)
    exact List.mem_map.mp (mem_ids_tableOf.mpr hmem)

theorem Onward.acyclic {records : List (Record Text)} (h : Onward records) :
    Acyclic (tableOf records).values := by
  -- along a path the last registration moves forward, so that the path never closes
  have hpath : ∀ source target, Relation.TransGen (Points (tableOf records).values) source target →
      sinceLast records target < sinceLast records source := by
    intro source target path
    induction path with
    | single hlink =>
      obtain ⟨r, hr, rfl, ht⟩ := hlink
      exact sinceLast_lt_of_link h hr ht
    | tail _ hlink ih =>
      obtain ⟨r, hr, rfl, ht⟩ := hlink
      exact Nat.lt_trans (sinceLast_lt_of_link h hr ht) ih
  intro id hcycle
  exact Nat.lt_irrefl _ (hpath id id hcycle)

end FlatBlocks.Block
