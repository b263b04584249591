import FlatBlocks.Proofs.Block.Dropping
import FlatBlocks.Proofs.Block.Link
import FlatBlocks.Proofs.Block.Trail

/-! # The network of records

Whatever is done with a registry, its records come from visits that each link to later
ones only. A call keeps it so, a failed one included, and so does leaving roots out.
Hence links always lead to records that are there, and never in a circle. -/

namespace FlatBlocks.Block
open Markup (Node)

theorem named_of_visits (visits : List Visit) : ∀ r ∈ visits.map Visit.record, r.Named := by
  intro r hr
  obtain ⟨v, _, rfl⟩ := List.mem_map.mp hr
  exact named_recordOf v.topLevel v.node

theorem onward_flatMap_visitsAt (depth : Int) (nodes : List Node) :
    Onward ((nodes.flatMap (visitsAt depth)).map Visit.record) := by
  rw [List.map_flatMap]
  exact .flatMap fun node _ => onward_visitsAt node depth

theorem onward_trailVisits (depth : Int) (trail : List Stage) :
    Onward ((trailVisits depth trail).map Visit.record) := by
  induction trail generalizing depth with
  | nil => exact .nil
  | cons s rest ih =>
    rw [trailVisits, List.map_append]
    exact (onward_visitsAt s.cut depth).append (ih (depth + 1))

/-- A call, failed or not, registers the records of visits that link to later ones only. -/
theorem visits_of_log (call : Call) :
    ∃ visits : List Visit, call.log = visits.map Visit.record ∧ Onward call.log := by
  cases h : call.checks.findSome? Check.fault? with
  | none =>
    have hlog := logUntil_of_checked call.depth (Check.findSome?_flatMap_eq_none.mp h) []
    rw [List.append_nil, logUntil, List.append_nil] at hlog
    refine ⟨_, hlog, ?_⟩
    rw [Call.log, hlog]
    exact onward_flatMap_visitsAt call.depth call.targets
  | some fault =>
    obtain ⟨done, node, rest, trail, _, _, _, hlog⟩ := exists_trail_of_fault h
    refine ⟨_, hlog, ?_⟩
    rw [hlog, List.map_append]
    exact (onward_flatMap_visitsAt call.depth done).append (onward_trailVisits call.depth trail)

/-! ## Sequences of calls -/

/-- The registry after calls, whether they fail or not. -/
def afterCalls (registry : Registry) (calls : List Call) : Registry :=
  calls.foldl (fun registry call => (call.run registry).2) registry

/-- The table of a registry is that of records with named entries, each of which links to
later ones only. -/
def Registry.Grown (registry : Registry) : Prop :=
  ∃ records, registry.table = tableOf records ∧ Onward records ∧ ∀ r ∈ records, r.Named

theorem grown_run {registry : Registry} (h : registry.Grown) (call : Call) :
    (call.run registry).2.Grown := by
  obtain ⟨records, htable, honward, hnamed⟩ := h
  obtain ⟨visits, hlog, hlater⟩ := visits_of_log call
  refine ⟨records ++ call.log, ?_, honward.append hlater, ?_⟩
  · rw [table_of_run, htable]
    show Table.merge (Table.merge [] _) _ = Table.merge [] _
    rw [← Table.merge_append, List.map_append]
    rfl
  · intro r hr
    rcases List.mem_append.mp hr with hr | hr
    · exact hnamed r hr
    · exact named_of_visits visits r (hlog ▸ hr)

theorem grown_afterCalls {registry : Registry} (h : registry.Grown) (calls : List Call) :
    (afterCalls registry calls).Grown := by
  induction calls generalizing registry with
  | nil => exact h
  | cons call rest ih => exact ih (grown_run h call)

theorem grown_empty : ({} : Registry).Grown := ⟨[], rfl, .nil, by simp⟩

/-! ## Lists of roots -/

theorem onward_visits (roots : List Node) : Onward ((visits roots).map Visit.record) := by
  rw [visits_eq]
  exact onward_flatMap_visitsAt 0 (rootBlocks roots)

theorem tableOf_visits (visits : List Visit) :
    Table.ofList (visits.map Visit.entry) = tableOf (visits.map Visit.record) := by
  rw [tableOf, List.map_map]
  rfl

theorem flatten_eq_tableOf {roots : List Node} {records : List (Record Text)}
    (h : flatten roots = .ok records) :
    records = (tableOf ((visits roots).map Visit.record)).values := by
  rw [← tableOf_visits]
  exact records_of_flatten h

theorem distinct_of_flatten {roots : List Node} {records : List (Record Text)}
    (h : flatten roots = .ok records) : (records.map Record.id).Nodup := by
  rw [flatten_eq_tableOf h, Table.map_values (keyed_tableOf _)]
  exact nodup_keys_tableOf _

theorem acyclic_of_flatten {roots : List Node} {records : List (Record Text)}
    (h : flatten roots = .ok records) : Acyclic records := by
  rw [flatten_eq_tableOf h]
  exact (onward_visits roots).acyclic

theorem flattenEach_eq_tableOf {roots : List Node} {ctx : Context} {records : List (Record Text)}
    (h : (flattenEach roots ctx).1 = .ok records) :
    records = (tableOf ((visits (keptRoots roots)).map Visit.record)).values := by
  unfold flattenEach at h
  split at h
  · cases h
  · rename_i table after hmerge
    cases h
    have htable : (mergeRoots [] ctx roots).1 = .ok table := by rw [hmerge]
    rw [table_of_mergeRoots htable, ← tableOf_visits]
    rfl

/-- **Records are always consistent.** After any calls on a registry, failed ones among them,
each record is under its own id, fields and inputs are under their own names, and every link
leads to a record. The same holds of what flattening roots one at a time gives, and it gives
something whenever all nodes but elements have texts. -/
theorem consistent_after_calls :
    (∀ calls : List Call, (∀ e ∈ (afterCalls {} calls).table, e.1 = e.2.id) ∧
        Consistent (afterCalls {} calls).records) ∧
      ∀ (roots : List Node) (ctx : Context),
        (∀ records, (flattenEach roots ctx).1 = .ok records → Consistent records) ∧
        ((∀ root ∈ roots, root.Texted) → ∃ records, (flattenEach roots ctx).1 = .ok records) := by
  refine ⟨?_, ?_⟩
  · intro calls
    obtain ⟨records, htable, honward, hnamed⟩ := grown_afterCalls grown_empty calls
    unfold Registry.records
    rw [htable]
    exact ⟨keyed_tableOf records, honward.consistent hnamed⟩
  · intro roots ctx
    refine ⟨?_, ?_⟩
    · intro records h
      rw [flattenEach_eq_tableOf h]
      exact (onward_visits _).consistent (named_of_visits _)
    · intro htexted
      rw [flattenEach_eq htexted]
      exact ⟨_, rfl⟩

/-- A block with another one next, and then another child. -/
def pair (first second : Text) (last : Node) : Node :=
  .element "block" [("id", first), ("type", "x")]
    [.element "next" [] [.element "block" [("id", second), ("type", "y")] []], last]

/-- First one block is next to another, then the other to the one, and then a field without a
name is met. -/
def turned : List Call :=
  [.addRoots [pair "a" "b" (.ofText "")], .visit (pair "b" "a" (.ofText "")) 2,
    .visit (pair "c" "d" (.element "field" [] [])) 0]

theorem consistent_after_turned :
    Consistent [{ id := "a", opcode := "y" }, { id := "b", opcode := "x", next := some "a" },
        { id := "c", opcode := "x", next := some "d", topLevel := true },
        { id := "d", opcode := "y" }] ∧
      Consistent [{ id := "a", opcode := "x", next := some "b", topLevel := true },
        { id := "b", opcode := "y" }] := by
  obtain ⟨hcalls, heach⟩ := consistent_after_calls
  refine ⟨?_, ?_⟩
  · have hrecords : (afterCalls {} turned).records =
        [{ id := "a", opcode := "y" }, { id := "b", opcode := "x", next := some "a" },
          { id := "c", opcode := "x", next := some "d", topLevel := true },
          { id := "d", opcode := "y" }] := by decide +kernel
    exact hrecords ▸ (hcalls turned).2
  · refine (heach [pair "a" "b" (.ofText ""), pair "b" "a" (.element "field" [] [])] {}).1 _ ?_
    decide +kernel

/-- **Links never lead in a circle**, neither in what flattening gives, all roots at once or one
at a time, nor in a registry after any calls, failed ones among them. -/
theorem acyclic_after_calls :
    (∀ calls : List Call, Acyclic (afterCalls {} calls).records) ∧
      (∀ (roots : List Node) (records : List (Record Text)), flatten roots = .ok records →
        Acyclic records) ∧
      ∀ (roots : List Node) (ctx : Context) (records : List (Record Text)),
        (flattenEach roots ctx).1 = .ok records → Acyclic records := by
  refine ⟨?_, ?_, ?_⟩
  · intro calls
    obtain ⟨records, htable, honward, _⟩ := grown_afterCalls grown_empty calls
    unfold Registry.records
    rw [htable]
    exact honward.acyclic
  · intro roots records h
    rw [flatten_eq_tableOf h]
    exact (onward_visits roots).acyclic
  · intro roots ctx records h
    rw [flattenEach_eq_tableOf h]
    exact (onward_visits _).acyclic

theorem acyclic_after_turned :
    (afterCalls {} turned).records.map (fun r => (r.id, r.links)) =
        ([("a", []), ("b", ["a"]), ("c", ["d"]), ("d", [])] : List (Text × List Text)) ∧
      Acyclic (afterCalls {} turned).records ∧
      Acyclic [{ id := "a", opcode := "x", next := some "b", topLevel := true },
        { id := "b", opcode := "y" }] := by
  obtain ⟨hcalls, hflatten, _⟩ := acyclic_after_calls
  refine ⟨by decide +kernel, hcalls turned, hflatten [pair "a" "b" (.ofText "")] _ ?_⟩
  decide +kernel

end FlatBlocks.Block
