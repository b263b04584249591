import FlatBlocks.Proofs.Block.Network
import Mathlib.Data.List.Perm.Basic
import Mathlib.Data.List.Nodup
import Mathlib.Data.List.Pairwise

/-! # Forests of records

Where nothing is given twice, nothing is overwritten. The records are then those of the
visited elements one by one, and their links, taken all together, are the ids of the
elements that are plugged in somewhere. Hence each of these is linked to once, and the
records form a forest under the root blocks. -/

namespace FlatBlocks.Block
open Markup (Node)

/-- No id is given to two elements, and in no element is a name given to two inputs or are
there two next blocks. -/
structure Unambiguous (roots : List Node) : Prop where
  ids : ((visits roots).map (·.node.get? "id")).Nodup
  inputs : ∀ v ∈ visits roots,
    ((v.node.children.filter (Role.of · == .slot true)).map (·.get? "name")).Nodup
  next : ∀ v ∈ visits roots, (v.node.children.filter (Role.of · == .slot false)).length ≤ 1

/-! ## The links of one record -/

/-- The id under which the record of an element is put. -/
def idOf (node : Node) : Text := (node.get? "id").getD ""

/-- What children link to is what they hold, the next blocks moved behind the inputs. -/
theorem given_perm_held {children : List Node} (h : ∀ child ∈ children, Gives child) :
    ((children.filterMap inputOf?).map Link.block ++ children.filterMap nextOf?).Perm
      ((children.filterMap held?).map idOf) := by
  induction children with
  | nil => exact .nil
  | cons child rest ih =>
    have hchild := h child List.mem_cons_self
    have ih := ih fun c hc => h c (List.mem_cons_of_mem _ hc)
    cases hrole : Role.of child with
    | field => simpa [inputOf?, nextOf?, held?, hrole] using ih
    | other => simpa [inputOf?, nextOf?, held?, hrole] using ih
    | slot named =>
      cases named with
      | true =>
        have hnext : nextOf? child = none := by simp [nextOf?, hrole]
        simp only [Gives, hrole] at hchild
        obtain ⟨link, hlink⟩ := Option.isSome_iff_exists.mp hchild
        obtain ⟨block, hheld, hid⟩ := held_of_inputOf? hlink
        have hsame : idOf block = link.block := by rw [idOf, hid]; rfl
        rw [List.filterMap_cons_some hlink, List.filterMap_cons_none hnext,
          List.filterMap_cons_some hheld, List.map_cons, List.map_cons, hsame]
        exact ih.cons link.block
      | false =>
        have hinput : inputOf? child = none := by simp [inputOf?, hrole]
        simp only [Gives, hrole] at hchild
        obtain ⟨target, hnext⟩ := Option.isSome_iff_exists.mp hchild
        obtain ⟨block, hheld, hid⟩ := held_of_nextOf? hnext
        have hsame : idOf block = target := by rw [idOf, hid]; rfl
        rw [List.filterMap_cons_none hinput, List.filterMap_cons_some hnext,
          List.filterMap_cons_some hheld, List.map_cons, hsame]
        exact List.perm_middle.trans (ih.cons target)

/-- The inputs of children have the names of the children. -/
theorem names_of_inputs {children : List Node} (h : ∀ child ∈ children, Gives child) :
    ((children.filterMap inputOf?).map fun link => some link.name) =
      (children.filter (Role.of · == .slot true)).map (·.get? "name") := by
  induction children with
  | nil => rfl
  | cons child rest ih =>
    have hchild := h child List.mem_cons_self
    have ih := ih fun c hc => h c (List.mem_cons_of_mem _ hc)
    by_cases hrole : Role.of child = .slot true
    · simp only [Gives, hrole] at hchild
      obtain ⟨link, hlink⟩ := Option.isSome_iff_exists.mp hchild
      rw [List.filterMap_cons_some hlink, List.filter_cons_of_pos (by simp [hrole]), List.map_cons,
        List.map_cons, ih, name_of_inputOf? hlink]
    · have hnone : inputOf? child = none := by
        unfold inputOf?
        split
        · contradiction
        · rfl
      rw [List.filterMap_cons_none hnone, List.filter_cons_of_neg (by simp [hrole]), ih]

theorem length_nexts {children : List Node} (h : ∀ child ∈ children, Gives child) :
    (children.filterMap nextOf?).length =
      (children.filter (Role.of · == .slot false)).length := by
  rw [List.length_filterMap_eq_countP, ← List.countP_eq_length_filter]
  exact List.countP_congr fun child hc => by rw [isSome_nextOf? (h child hc)]

theorem toList_getLast? {α : Type} {l : List α} (h : l.length ≤ 1) : l.getLast?.toList = l := by
  match l, h with
  | [], _ => rfl
  | [a], _ => rfl

/-- The record of an element in which nothing is given twice links to each block plugged into it. -/
theorem links_perm_plugs {node : Node} (topLevel : Bool)
    (h : ∀ child ∈ node.children, Gives child)
    (hinputs : ((node.children.filter (Role.of · == .slot true)).map (·.get? "name")).Nodup)
    (hnext : (node.children.filter (Role.of · == .slot false)).length ≤ 1) :
    (recordOf topLevel node).links.Perm ((plugs node).map idOf) := by
  have hnames : (((node.children.filterMap inputOf?).map fun link => (link.name, link)).map
      Prod.fst).Nodup := by
    rw [← names_of_inputs h] at hinputs
    rw [List.map_map]
    exact List.Nodup.of_map some (by rwa [List.map_map])
  have hlinks : (recordOf topLevel node).links =
      (node.children.filterMap inputOf?).map Link.block ++ node.children.filterMap nextOf? := by
    show (Table.ofList ((node.children.filterMap inputOf?).map
      fun link => (link.name, link))).values.map Link.block ++
        ((node.children.filterMap nextOf?).getLast?.or none).toList = _
    rw [Table.ofList_of_nodup hnames, Table.values, List.map_map, List.map_map, Option.or_none,
      toList_getLast? (by rw [length_nexts h]; exact hnext)]
    rfl
  rw [hlinks]
  exact given_perm_held h

/-! ## The links of all records -/

/-- What is plugged into the visited elements is what is visited inside the first one. -/
theorem plugs_perm_inner (node : Node) :
    ((visited node).flatMap plugs).Perm ((plugs node).flatMap visited) := by
  induction node using plugs_induction with
  | step node ih =>
    have hinner : (plugs node).flatMap visited =
        (plugs node).flatMap fun block => block :: (plugs block).flatMap visited :=
      List.flatMap_congr fun block _ => visited_eq block
    have hplugs : (visited node).flatMap plugs =
        (plugs node).map id ++ (plugs node).flatMap fun block => (visited block).flatMap plugs := by
      rw [visited_eq, List.flatMap_cons, List.flatMap_assoc, List.map_id]
    rw [hplugs, hinner]
    exact (List.map_append_flatMap_perm (plugs node) id _).trans
      (List.Perm.flatMap_left _ fun block hb => (ih block hb).cons block)

/-- The visits that are not of roots. -/
def innerVisits (roots : List Node) : List Visit := (visits roots).filter (!·.topLevel)

theorem topVisits_eq (roots : List Node) :
    (visits roots).filter (·.topLevel) = (rootBlocks roots).map (⟨·, true⟩) := by
  have hroot : ∀ root, (visitsFrom root).filter (·.topLevel) = [⟨root, true⟩] := by
    intro root
    rw [visitsFrom, List.filter_cons_of_pos rfl, List.filter_map]
    simp [Function.comp_def]
  rw [visits, List.filter_flatMap, List.map_eq_flatMap]
  exact List.flatMap_congr fun root _ => hroot root

theorem nodes_of_innerVisits (roots : List Node) :
    (innerVisits roots).map Visit.node =
      (rootBlocks roots).flatMap fun root => (plugs root).flatMap visited := by
  have hroot : ∀ root, ((visitsFrom root).filter (!·.topLevel)).map Visit.node =
      (plugs root).flatMap visited := by
    intro root
    rw [visitsFrom, List.filter_cons_of_neg (by simp), List.filter_map]
    simp [Function.comp_def]
  rw [innerVisits, visits, List.filter_flatMap, List.map_flatMap]
  exact List.flatMap_congr fun root _ => hroot root

/-- All links taken together are the ids of the elements that are not roots. -/
theorem links_perm_inner {roots : List Node} (h : Unambiguous roots)
    (hchecked : (rootChecks roots).findSome? Check.fault? = none) :
    (((visits roots).map Visit.record).flatMap Record.links).Perm
      ((innerVisits roots).map fun v => v.record.id) := by
  -- what is plugged into visited elements is all that is visited, but for the roots
  have hlinks : (((visits roots).map Visit.record).flatMap Record.links).Perm
      ((visits roots).flatMap fun v => (plugs v.node).map idOf) := by
    rw [List.flatMap_map]
    apply List.Perm.flatMap_left
    intro v hv
    have hchildren := children_of_checked (checked_of_visits hchecked hv)
    exact links_perm_plugs v.topLevel (fun child hc => gives_of_checked (hchildren child hc))
      (h.inputs v hv) (h.next v hv)
  have hplugs : ((visits roots).flatMap fun v => (plugs v.node).map idOf) =
      (((rootBlocks roots).flatMap fun root => (visited root).flatMap plugs).map idOf) := by
    rw [← List.flatMap_assoc, ← nodes_of_visits, List.map_flatMap, List.flatMap_map]
  have hinner : ((innerVisits roots).map fun v => v.record.id) =
      ((rootBlocks roots).flatMap fun root => (plugs root).flatMap visited).map idOf := by
    rw [← nodes_of_innerVisits, List.map_map]
    rfl
  rw [hinner]
  refine hlinks.trans ?_
  rw [hplugs]
  exact (List.Perm.flatMap_left _ fun root _ => plugs_perm_inner root).map idOf

/-! ## Forests -/

/-- Top-level records are linked to by none, each other record is linked to once by one
record, and links lead to later records. -/
structure Forest (records : List (Record Text)) : Prop where
  free : ∀ r ∈ records, r.topLevel = true → ∀ other ∈ records, r.id ∉ other.links
  owned : ∀ r ∈ records, r.topLevel = false → ∃ owner ∈ records, owner.links.count r.id = 1 ∧
    ∀ other ∈ records, r.id ∈ other.links → other = owner
  onward : Onward records

section
variable {records : List (Record Text)} (hids : (records.map Record.id).Nodup)
  (hlinks : (records.flatMap Record.links).Perm ((records.filter (!·.topLevel)).map Record.id))
include hids hlinks

theorem linked_iff {r : Record Text} (hr : r ∈ records) :
    (∃ other ∈ records, r.id ∈ other.links) ↔ r.topLevel = false := by
  rw [← List.mem_flatMap, hlinks.mem_iff]
  constructor
  · intro hm
    obtain ⟨inner, hi, hid⟩ := List.mem_map.mp hm
    obtain ⟨hi, htop⟩ := List.mem_filter.mp hi
    obtain rfl : inner = r := List.inj_on_of_nodup_map hids hi hr hid
    simpa using htop
  · intro htop
    exact List.mem_map_of_mem (List.mem_filter.mpr ⟨hr, by simp [htop]⟩)

/-- No id is among the links twice. -/
theorem nodup_links : (records.flatMap Record.links).Nodup :=
  hlinks.nodup_iff.mpr (hids.sublist (List.filter_sublist.map Record.id))

theorem owner_of_linked {r : Record Text} (hr : ∃ other ∈ records, r.id ∈ other.links) :
    ∃ owner ∈ records, owner.links.count r.id = 1 ∧
      ∀ other ∈ records, r.id ∈ other.links → other = owner := by
  obtain ⟨owner, ho, hlink⟩ := hr
  obtain ⟨hnodup, hdisjoint⟩ := List.nodup_flatMap.mp (nodup_links hids hlinks)
  refine ⟨owner, ho, List.count_eq_one_of_mem (hnodup owner ho) hlink, ?_⟩
  intro other hother hlinked
  by_contra hne
  have hsymm : Std.Symm (Function.onFun List.Disjoint Record.links) :=
    ⟨fun _ _ h => List.disjoint_symm h⟩
  have hapart : List.Disjoint other.links owner.links := hdisjoint.forall hother ho hne
  exact hapart hlinked hlink

end

theorem ids_of_visits {roots : List Node} (h : (rootChecks roots).findSome? Check.fault? = none) :
    (((visits roots).map Visit.record).map Record.id).map some =
      (visits roots).map (·.node.get? "id") := by
  rw [List.map_map, List.map_map]
  apply List.map_congr_left
  intro v hv
  exact (complete_of_checked (checked_of_visits h hv)).id.symm

/-- **Where nothing is given twice, the records are a forest.** There is one complete record for
each visited element, in the order of the visits. The top-level records are those of the root
blocks in their order, and no link leads to them. To each other record leads one link of one
record, and links lead to later records only. -/
theorem forest_of_unambiguous {roots : List Node} {records : List (Record Text)}
    (h : flatten roots = .ok records) (hu : Unambiguous roots) :
    records = (visits roots).map Visit.record ∧
      (∀ v ∈ visits roots, Complete v v.record) ∧
      (records.map Record.id).Nodup ∧
      records.filter (·.topLevel) = (rootBlocks roots).map (recordOf true) ∧
      Forest records := by
  have hchecked := checked_of_flatten h
  have hids : (((visits roots).map Visit.record).map Record.id).Nodup :=
    List.Nodup.of_map some (ids_of_visits hchecked ▸ hu.ids)
  have hrecords : records = (visits roots).map Visit.record := by
    have hkeys : ((((visits roots).map Visit.record).map fun r => (Label.key r.id, r)).map
        Prod.fst).Nodup := by rw [List.map_map]; exact hids
    rw [flatten_eq_tableOf h, tableOf, Table.ofList_of_nodup hkeys, Table.values, List.map_map]
    exact List.map_id _
  subst hrecords
  have hlinks : (((visits roots).map Visit.record).flatMap Record.links).Perm
      ((((visits roots).map Visit.record).filter (!·.topLevel)).map Record.id) := by
    rw [List.filter_map, List.map_map]
    exact links_perm_inner hu hchecked
  refine ⟨rfl, fun v hv => complete_of_checked (checked_of_visits hchecked hv), hids, ?_, ?_⟩
  · rw [List.filter_map]
    show ((visits roots).filter (·.topLevel)).map Visit.record = _
    rw [topVisits_eq, List.map_map]
    rfl
  · refine ⟨?_, ?_, onward_visits roots⟩
    · intro r hr htop other ho hlink
      have hlow := (linked_iff hids hlinks hr).mp ⟨other, ho, hlink⟩
      rw [htop] at hlow
      cases hlow
    · intro r hr htop
      exact owner_of_linked hids hlinks ((linked_iff hids hlinks hr).mpr htop)

/-- A root with a next block in front of its inputs, one of which holds a shadow beside its
block, and another root. -/
def bushy : List Node :=
  [.element "block" [("id", "a"), ("type", "x")]
      [.element "next" [] [.element "block" [("id", "b"), ("type", "y")] []],
        .element "value" [("name", "V")]
          [.element "shadow" [("id", "s"), ("type", "z")] [],
            .element "block" [("id", "c"), ("type", "z")] []],
        .element "statement" [("name", "S")] [.element "shadow" [("id", "d"), ("type", "z")] []]],
    .element "block" [("id", "e"), ("type", "x")] []]

theorem forest_of_bushy :
    Unambiguous bushy ∧ ∃ records, flatten bushy = .ok records ∧
      records.map Record.id = ["a", "b", "c", "d", "e"] ∧
      records.map Record.links = ([["c", "d", "b"], [], [], [], []] : List (List Text)) ∧
      Forest records := by
  have hu : Unambiguous bushy := ⟨by decide +kernel, by decide +kernel, by decide +kernel⟩
  obtain ⟨records, h⟩ : ∃ records, flatten bushy = .ok records :=
    flatten_ok_iff.mpr (by decide +kernel)
  obtain ⟨hrecords, _, _, _, hforest⟩ := forest_of_unambiguous h hu
  refine ⟨hu, records, h, ?_, ?_, hforest⟩
  · rw [hrecords]
    decide +kernel
  · rw [hrecords]
    decide +kernel

end FlatBlocks.Block
