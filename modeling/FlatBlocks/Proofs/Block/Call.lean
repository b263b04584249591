import FlatBlocks.Proofs.Block.Flatten

/-! # Calls on a registry

A registry is used by adding lists of roots to it and by visiting single elements at
any depth. Such a call visits its targets one after the other until one of them fails
a check, gives the verdict of the checks on all of them, and registers their logs. -/

namespace FlatBlocks.Block
open Markup (Node)

inductive Call where
  | addRoots (roots : List Node)
  | visit (node : Node) (depth : Int)

/-- The records that targets register, up to the first one that fails a check. -/
def logUntil (depth : Int) : List Node → List (Record Text)
  | [] => []
  | node :: rest =>
    log depth node ++
      if ((checks node).findSome? Check.fault?).isNone then logUntil depth rest else []

namespace Call

/-- The verdict of a call, and the registry that it leaves. -/
def run (registry : Registry) : Call → Except Fault Unit × Registry
  | addRoots roots => Block.addRoots roots registry
  | visit node depth =>
    ((Block.visit node depth registry).1.map fun _ => (), (Block.visit node depth registry).2)

/-- The elements that are visited, unless one before them fails. -/
def targets : Call → List Node
  | addRoots roots => rootBlocks roots
  | visit node _ => [node]

def depth : Call → Int
  | addRoots _ => 0
  | visit _ depth => depth

def checks (call : Call) : List Check := call.targets.flatMap Block.checks

def log (call : Call) : List (Record Text) := logUntil call.depth call.targets

end Call

theorem rootLog_eq (roots : List Node) : rootLog roots = logUntil 0 (rootBlocks roots) := by
  induction roots with
  | nil => rfl
  | cons root rest ih =>
    unfold rootLog
    by_cases hblock : root.hasTag "block" = true
    · rw [if_pos hblock, rootBlocks_cons_block rest hblock, ih]
      rfl
    · rw [if_neg hblock, rootBlocks_cons_other rest hblock, ih]

theorem logUntil_singleton (depth : Int) (node : Node) :
    logUntil depth [node] = log depth node := by
  simp [logUntil]

/-- **A call gives its verdict and registers its log**, whatever is registered before. -/
theorem run_call (call : Call) (registry : Registry) :
    call.run registry = (Check.verdict call.checks (), registry.addAll call.log) := by
  cases call with
  | addRoots roots =>
    show addRoots roots registry = _
    rw [addRoots_eq, rootLog_eq]
    rfl
  | visit node depth =>
    have hchecks : (Call.visit node depth).checks = checks node := List.flatMap_singleton _ _
    have hlog : (Call.visit node depth).log = log depth node := logUntil_singleton depth node
    show ((visit node depth registry).1.map fun _ => (), (visit node depth registry).2) = _
    rw [visit_eq node depth registry, hchecks, hlog]
    cases h : (checks node).findSome? Check.fault? with
    | none => rw [Check.verdict_of_none h, Check.verdict_of_none h]; rfl
    | some fault => rw [Check.verdict_of_some h, Check.verdict_of_some h]; rfl

theorem fault_of_run {call : Call} {registry : Registry} {fault : Fault}
    (h : (call.run registry).1 = .error fault) :
    call.checks.findSome? Check.fault? = some fault := by
  rw [run_call] at h
  cases hc : call.checks.findSome? Check.fault? with
  | none => rw [Check.verdict_of_none hc] at h; cases h
  | some first =>
    rw [Check.verdict_of_some hc] at h
    cases h
    rfl

theorem table_of_run (call : Call) (registry : Registry) :
    (call.run registry).2.table = registry.table.merge (call.log.map fun r => (r.id, r)) := by
  rw [run_call, Registry.table_addAll]

/-- Targets that pass their checks register the complete records of all that is visited. -/
theorem logUntil_of_checked {targets : List Node} (depth : Int)
    (h : ∀ node ∈ targets, (checks node).findSome? Check.fault? = none) (rest : List Node) :
    logUntil depth (targets ++ rest) =
      (targets.flatMap (visitsAt depth)).map Visit.record ++ logUntil depth rest := by
  induction targets with
  | nil => rfl
  | cons node more ih =>
    have hnode := h node List.mem_cons_self
    have ih := ih fun n hn => h n (List.mem_cons_of_mem _ hn)
    rw [List.cons_append, logUntil, hnode, log_eq_visitsAt node depth hnode, ih,
      List.flatMap_cons, List.map_append, List.append_assoc]
    rfl

end FlatBlocks.Block
