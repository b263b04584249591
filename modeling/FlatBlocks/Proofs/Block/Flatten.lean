import FlatBlocks.Proofs.Block.Log

/-! # The records of a list of roots

Flattening a list of roots gives the verdict of its checks. When all of them pass,
the records are what the complete records of the visited elements leave in a table. -/

namespace FlatBlocks.Block
open Markup (Node)

/-- Flattening fails with the first check that fails, and otherwise gives what the
visits leave in a table. -/
theorem flatten_eq_verdict (roots : List Node) :
    flatten roots = Check.verdict (rootChecks roots)
      (Table.ofList ((visits roots).map Visit.entry)).values := by
  rw [flatten, addRoots_eq]
  cases h : (rootChecks roots).findSome? Check.fault? with
  | some fault => rw [Check.verdict_of_some h, Check.verdict_of_some h]
  | none =>
    rw [Check.verdict_of_none h, Check.verdict_of_none h, rootLog_of_checked h]
    simp only [Registry.records]
    rw [Registry.table_addAll, List.map_map]
    rfl

theorem checked_of_flatten {roots : List Node} {records : List (Record Text)}
    (h : flatten roots = .ok records) : (rootChecks roots).findSome? Check.fault? = none := by
  rw [flatten_eq_verdict] at h
  cases hc : (rootChecks roots).findSome? Check.fault? with
  | none => rfl
  | some fault => rw [Check.verdict_of_some hc] at h; cases h

theorem records_of_flatten {roots : List Node} {records : List (Record Text)}
    (h : flatten roots = .ok records) :
    records = (Table.ofList ((visits roots).map Visit.entry)).values := by
  have hchecked := checked_of_flatten h
  rw [flatten_eq_verdict, Check.verdict_of_none hchecked] at h
  exact (Except.ok.inj h).symm

theorem flatten_ok_iff {roots : List Node} :
    (∃ records, flatten roots = .ok records) ↔
      (rootChecks roots).findSome? Check.fault? = none := by
  constructor
  · rintro ⟨records, h⟩
    exact checked_of_flatten h
  · intro h
    rw [flatten_eq_verdict, Check.verdict_of_none h]
    exact ⟨_, rfl⟩

/-- What is visited passes its own checks, if all checks are passed. -/
theorem checked_of_visits {roots : List Node} {v : Visit}
    (h : (rootChecks roots).findSome? Check.fault? = none) (hv : v ∈ visits roots) :
    (checks v.node).findSome? Check.fault? = none := by
  have hn : v.node ∈ (rootBlocks roots).flatMap visited :=
    nodes_of_visits roots ▸ List.mem_map_of_mem hv
  obtain ⟨root, hr, hn⟩ := List.mem_flatMap.mp hn
  have hroot := Check.findSome?_flatMap_eq_none.mp h root hr
  exact forall_visited (fun _ => plugs_of_checked) hroot v.node hn

theorem complete_of_checked {v : Visit} (h : (checks v.node).findSome? Check.fault? = none) :
    Complete v v.record := by
  obtain ⟨id, hid⟩ := id_of_checked h
  obtain ⟨opcode, htype⟩ := type_of_checked h
  exact complete_record hid htype fun child hc => gives_of_checked (children_of_checked h child hc)

/-- **The records are those of the last visits.** Their list is what putting the record
of each visited element under its id leaves in a table: ids stand in the order of their
first visits, and under an id stands the record of the last visited element with it.
That record is complete, whatever has been put under the same id before or since. -/
theorem flatten_records_of_visits {roots : List Node} {records : List (Record Text)}
    (h : flatten roots = .ok records) :
    records = ((visits roots).foldl
        (fun table v => Table.put table v.record.id v.record) []).values ∧
      records.map Record.id = ((visits roots).map fun v => v.record.id).eraseDups ∧
      (∀ id, records.find? (·.id == id) =
        ((visits roots).filter (·.record.id == id)).getLast?.map Visit.record) ∧
      ∀ v ∈ visits roots, Complete v v.record := by
  have hchecked := checked_of_flatten h
  have hrecords := records_of_flatten h
  have hmap : (visits roots).map Visit.entry =
      ((visits roots).map Visit.record).map fun r => (r.id, r) := by rw [List.map_map]; rfl
  have hkeyed := Table.keyed_ofList Record.id ((visits roots).map Visit.record)
  refine ⟨?_, ?_, ?_, fun v hv => complete_of_checked (checked_of_visits hchecked hv)⟩
  · rw [hrecords, Table.ofList, List.foldl_map]
    rfl
  · rw [hrecords, hmap, Table.map_values hkeyed, ← hmap, Table.keys_ofList, List.map_map]
    rfl
  · intro id
    rw [hrecords, hmap, Table.find?_values hkeyed, ← hmap, Table.get?_ofList, List.filter_map,
      List.getLast?_map, Option.map_map]
    rfl

/-- A block with a field and an input, whose next block has its id again. -/
def reused : Node :=
  .element "block" [("id", "a"), ("type", "x")]
    [.element "field" [("name", "F")] [.ofText "v"],
      .element "value" [("name", "V")] [.element "block" [("id", "b"), ("type", "z")] []],
      .element "next" [] [.element "block" [("id", "a"), ("type", "y")] []]]

theorem records_of_reused :
    flatten [reused] = .ok [{ id := "a", opcode := "y" }, { id := "b", opcode := "z" }] ∧
      ((visits [reused]).filter (·.record.id == ("a" : Text))).getLast?.map Visit.record =
        some { id := "a", opcode := "y" } ∧
      ∀ v ∈ visits [reused], Complete v v.record := by
  have h : flatten [reused] = .ok [{ id := "a", opcode := "y" }, { id := "b", opcode := "z" }] := by
    decide +kernel
  obtain ⟨_, _, hlast, hcomplete⟩ := flatten_records_of_visits h
  exact ⟨h, (hlast "a").symm, hcomplete⟩

end FlatBlocks.Block
