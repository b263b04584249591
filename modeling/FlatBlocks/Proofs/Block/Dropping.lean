import FlatBlocks.Proofs.Block.Failure

/-! # Flattening roots one at a time

A root block is kept if flattening it alone succeeds. Merging the tables of the kept
roots gives the table that flattening all of them at once fills, and a root that is
dropped leaves nothing behind but its report. -/

namespace FlatBlocks.Block
open Markup (Node)

def Fault.message : Fault → Text
  | malformed cause => cause.message
  | notText refusal => refusal.message

/-- The fault of a root that is flattened alone. -/
def faultAlone? (root : Node) : Option Fault :=
  match flatten [root] with
  | .ok _ => none
  | .error fault => some fault

/-- The root blocks that can be flattened alone. -/
def keptRoots (roots : List Node) : List Node :=
  (rootBlocks roots).filter fun root => (faultAlone? root).isNone

/-- The report of a root that is dropped for its fault. -/
def report (ctx : Context) (root : Node) (fault : Fault) : Diagnostic :=
  { level := .error
    message := "Dropped top-level block (" ++ fault.message ++ ")"
    source := ctx.source
    block := root.get? "id"
    event := ctx.event }

/-- The reports of the root blocks that cannot be flattened alone. -/
def reports (ctx : Context) (roots : List Node) : List Diagnostic :=
  (rootBlocks roots).filterMap fun root => (faultAlone? root).map (report ctx root)

/-! ## One root after the other -/

theorem faultAlone?_eq {root : Node} (h : root.hasTag "block" = true) :
    faultAlone? root = (checks root).findSome? Check.fault? := by
  have hchecks : rootChecks [root] = checks root := by
    rw [rootChecks_cons_block [] h]
    exact List.append_nil _
  rw [faultAlone?, flatten_eq_verdict, hchecks, Check.verdict]
  cases (checks root).findSome? Check.fault? <;> rfl

theorem keptRoots_cons_other {root : Node} (rest : List Node)
    (h : ¬ root.hasTag "block" = true) : keptRoots (root :: rest) = keptRoots rest := by
  rw [keptRoots, rootBlocks_cons_other rest h]; rfl

theorem keptRoots_cons_kept {root : Node} (rest : List Node) (hblock : root.hasTag "block" = true)
    (h : faultAlone? root = none) : keptRoots (root :: rest) = root :: keptRoots rest := by
  rw [keptRoots, rootBlocks_cons_block rest hblock, List.filter_cons_of_pos (by rw [h]; rfl)]; rfl

theorem keptRoots_cons_dropped {root : Node} {fault : Fault} (rest : List Node)
    (hblock : root.hasTag "block" = true) (h : faultAlone? root = some fault) :
    keptRoots (root :: rest) = keptRoots rest := by
  rw [keptRoots, rootBlocks_cons_block rest hblock, List.filter_cons_of_neg (by rw [h]; simp)]; rfl

theorem reports_cons_other (ctx : Context) {root : Node} (rest : List Node)
    (h : ¬ root.hasTag "block" = true) : reports ctx (root :: rest) = reports ctx rest := by
  rw [reports, rootBlocks_cons_other rest h]; rfl

theorem reports_cons_block (ctx : Context) {root : Node} (rest : List Node)
    (h : root.hasTag "block" = true) :
    reports ctx (root :: rest) =
      ((faultAlone? root).map (report ctx root)).toList ++ reports ctx rest := by
  rw [reports, rootBlocks_cons_block rest h, List.filterMap_cons]
  cases faultAlone? root <;> rfl

/-- A block root that passes its checks leaves the entries of its visits. -/
theorem table_of_visit {root : Node} (h : (checks root).findSome? Check.fault? = none) :
    (Registry.addAll {} (log 0 root)).table = Table.ofList ((visitsFrom root).map Visit.entry) := by
  rw [Registry.table_addAll, log_eq_visits h, List.map_map]
  rfl

theorem mergeRoots_eq {roots : List Node} (h : ∀ root ∈ roots, root.Texted)
    (table : Table (Record Text)) (ctx : Context) :
    mergeRoots table ctx roots =
      (.ok (table.merge ((visits (keptRoots roots)).map Visit.entry)),
        { ctx with diagnostics := ctx.diagnostics ++ reports ctx roots }) := by
  induction roots generalizing table ctx with
  | nil => simp [mergeRoots, keptRoots, reports, rootBlocks, visits]
  | cons root rest ih =>
    have ih := ih fun r hr => h r (List.mem_cons_of_mem _ hr)
    unfold mergeRoots
    by_cases hblock : root.hasTag "block" = true
    · have halone := faultAlone?_eq hblock
      rw [if_pos hblock, visit_eq root 0 {}, reports_cons_block ctx rest hblock]
      cases hcheck : (checks root).findSome? Check.fault? with
      | none =>
        rw [hcheck] at halone
        rw [Check.verdict_of_none hcheck]
        simp only
        rw [ih, keptRoots_cons_kept rest hblock halone, visits_cons_block _ hblock, List.map_append,
          Table.merge_append, table_of_visit hcheck, Table.merge_ofList, halone]
        rfl
      | some fault =>
        -- no refusal of a text comes up in such a tree
        obtain ⟨cause, rfl⟩ : ∃ cause, fault = .malformed cause := by
          rw [Check.findSome?_of_texted (texted_of_checks (h root List.mem_cons_self))] at hcheck
          obtain ⟨cause, _, rfl⟩ := Option.map_eq_some_iff.mp hcheck
          exact ⟨cause, rfl⟩
        rw [hcheck] at halone
        rw [Check.verdict_of_some hcheck]
        simp only
        rw [ih, keptRoots_cons_dropped rest hblock halone, halone]
        simp only [Context.add, List.append_assoc]
        rfl
    · rw [if_neg hblock, ih, keptRoots_cons_other rest hblock, reports_cons_other ctx rest hblock]

/-- Whatever table comes out is that of the kept roots. -/
theorem table_of_mergeRoots {roots : List Node} {table result : Table (Record Text)} {ctx : Context}
    (h : (mergeRoots table ctx roots).1 = .ok result) :
    result = table.merge ((visits (keptRoots roots)).map Visit.entry) := by
  induction roots generalizing table ctx with
  | nil =>
    cases h
    rfl
  | cons root rest ih =>
    unfold mergeRoots at h
    by_cases hblock : root.hasTag "block" = true
    · have halone := faultAlone?_eq hblock
      rw [if_pos hblock, visit_eq root 0 {}] at h
      cases hcheck : (checks root).findSome? Check.fault? with
      | none =>
        rw [hcheck] at halone
        rw [Check.verdict_of_none hcheck] at h
        rw [ih h, keptRoots_cons_kept rest hblock halone, visits_cons_block _ hblock,
          List.map_append, Table.merge_append, table_of_visit hcheck, Table.merge_ofList]
      | some fault =>
        rw [hcheck] at halone
        rw [Check.verdict_of_some hcheck] at h
        cases fault with
        | malformed cause => rw [ih h, keptRoots_cons_dropped rest hblock halone]
        | notText refusal => cases h
    · rw [if_neg hblock] at h
      rw [ih h, keptRoots_cons_other rest hblock]

theorem flattenEach_eq {roots : List Node} (h : ∀ root ∈ roots, root.Texted) (ctx : Context) :
    flattenEach roots ctx =
      (.ok (Table.ofList ((visits (keptRoots roots)).map Visit.entry)).values,
        { ctx with diagnostics := ctx.diagnostics ++ reports ctx roots }) := by
  rw [flattenEach, mergeRoots_eq h]
  rfl

/-! ## The kept roots -/

theorem rootBlocks_keptRoots (roots : List Node) :
    rootBlocks (keptRoots roots) = keptRoots roots := by
  apply List.filter_eq_self.mpr
  intro root hr
  exact (List.mem_filter.mp (List.mem_filter.mp hr).1).2

/-- All kept roots pass their checks. -/
theorem checked_keptRoots (roots : List Node) :
    (rootChecks (keptRoots roots)).findSome? Check.fault? = none := by
  rw [rootChecks, rootBlocks_keptRoots]
  apply Check.findSome?_flatMap_eq_none.mpr
  intro root hr
  obtain ⟨hroot, halone⟩ := List.mem_filter.mp hr
  rwa [faultAlone?_eq (List.mem_filter.mp hroot).2, Option.isNone_iff_eq_none] at halone

theorem reports_eq_nil_iff (ctx : Context) {roots : List Node} :
    reports ctx roots = [] ↔ (rootChecks roots).findSome? Check.fault? = none := by
  rw [reports, List.filterMap_eq_nil_iff, rootChecks, Check.findSome?_flatMap_eq_none]
  simp only [Option.map_eq_none_iff]
  apply forall₂_congr
  intro root hr
  rw [faultAlone?_eq (List.mem_filter.mp hr).2]

/-- If there is nothing to report, all root blocks are kept. -/
theorem visits_keptRoots {ctx : Context} {roots : List Node} (h : reports ctx roots = []) :
    visits (keptRoots roots) = visits roots := by
  have hall : keptRoots roots = rootBlocks roots := by
    apply List.filter_eq_self.mpr
    intro root hr
    have halone := List.filterMap_eq_nil_iff.mp h root hr
    rw [Option.isNone_iff_eq_none]
    exact Option.map_eq_none_iff.mp halone
  rw [visits, rootBlocks_keptRoots, hall, visits]

theorem flatten_keptRoots (roots : List Node) :
    flatten (keptRoots roots) =
      .ok (Table.ofList ((visits (keptRoots roots)).map Visit.entry)).values := by
  rw [flatten_eq_verdict, Check.verdict_of_none (checked_keptRoots roots)]

/-- **Flattening each root is flattening the kept ones.** It gives the same records in the
same order and never fails. The context gains the report of each dropped root, in the order
of the roots, and nothing else, so that it gains nothing at all if and only if all roots
can be flattened at once, which then gives the same. -/
theorem flattenEach_eq_flatten_kept {roots : List Node} (h : ∀ root ∈ roots, root.Texted)
    (ctx : Context) :
    (∃ records, flatten (keptRoots roots) = .ok records ∧
        flattenEach roots ctx =
          (.ok records, { ctx with diagnostics := ctx.diagnostics ++ reports ctx roots })) ∧
      ((flattenEach roots ctx).2.diagnostics = ctx.diagnostics ↔
        ∃ records, flatten roots = .ok records) ∧
      ∀ records, flatten roots = .ok records → flattenEach roots ctx = (.ok records, ctx) := by
  rw [flattenEach_eq h, flatten_ok_iff, ← reports_eq_nil_iff ctx]
  refine ⟨⟨_, flatten_keptRoots roots, rfl⟩, List.append_right_eq_self, ?_⟩
  intro records hflatten
  have hnone : reports ctx roots = [] := (reports_eq_nil_iff ctx).mpr (checked_of_flatten hflatten)
  rw [hnone, visits_keptRoots hnone, List.append_nil, records_of_flatten hflatten]

/-- Two roots of one id, and between them one without a type. -/
def mixed : List Markup.Item :=
  [.element "block" [("id", "a"), ("type", "x")] [], .text "then",
    .element "block" [("id", "b")] [], .element "Block" [("id", "a"), ("type", "y")] []]

theorem flattenEach_mixed :
    (∀ root ∈ Markup.Item.forestToNodes mixed, root.Texted) ∧
      flattenEach (Markup.Item.forestToNodes mixed) { event := some 3 } =
        (.ok [{ id := "a", opcode := "y", topLevel := true }],
          { event := some 3
            diagnostics := [
              { level := .error
                message := "Dropped top-level block (Malformed markup: " ++
                  "<block> in block 'b' is missing its 'type' attribute)"
                source := "<markup>"
                block := some "b"
                event := some 3 }] }) := by
  have htexted := Markup.Item.texted_forestToNodes mixed
  obtain ⟨⟨records, hkept, heach⟩, _⟩ := flattenEach_eq_flatten_kept htexted { event := some 3 }
  have hrecords : flatten (keptRoots (Markup.Item.forestToNodes mixed)) =
      .ok [{ id := "a", opcode := "y", topLevel := true }] := by decide +kernel
  rw [hrecords] at hkept
  cases hkept
  refine ⟨htexted, heach.trans ?_⟩
  decide +kernel

end FlatBlocks.Block
