import FlatBlocks.Proofs.Block.Call

/-! # What a failed call leaves behind

On the way to a fault some elements are entered but not read to the end. Each of them
is left as if it had only the children before the one in which the fault lies. All other
elements that are visited before the fault are left complete, and no record is left for
an element whose own id or type is missing. -/

namespace FlatBlocks.Block
open Markup (Node)

/-! ## The way to a fault -/

/-- An element in which a fault lies, and its children before the one in which it lies. -/
structure Stage where
  node : Node
  read : List Node

namespace Stage

/-- The element with only the children that were read. -/
def cut (s : Stage) : Node := { s.node with children := s.read }

/-- The element and all that is visited inside the children that were read. -/
def nodes (s : Stage) : List Node := s.node :: (plugs s.cut).flatMap visited

/-- The id and the type of the element have been read, and then its children up to one of them. -/
structure Reaches (s : Stage) (id : Text) (child : Node) : Prop where
  hasId : s.node.get? "id" = some id
  hasType : ∃ opcode, s.node.get? "type" = some opcode
  isNext : ∃ rest, s.node.children = s.read ++ child :: rest
  sound : ∀ c ∈ s.read, (childChecks id c).findSome? Check.fault? = none

end Stage

/-- The way from an element to the fault in it, through the elements that are entered. -/
inductive FailsAlong : Node → Fault → List Stage → Prop
  | noId {node : Node} (hid : node.get? "id" = none) :
    FailsAlong node (.malformed (.missingAttribute node.lowerTag "id" none)) []
  | noType {node : Node} {id : Text} (hid : node.get? "id" = some id)
      (htype : node.get? "type" = none) :
    FailsAlong node (.malformed (.missingAttribute node.lowerTag "type" (some id))) []
  /-- The child itself is at fault. -/
  | child {s : Stage} {id : Text} {child : Node} {fault : Fault} (hs : s.Reaches id child)
      (hown : (ownChecks id child).findSome? Check.fault? = some fault) :
    FailsAlong s.node fault [s]
  /-- The fault lies in what the child holds. -/
  | inside {s : Stage} {id : Text} {child block : Node} {fault : Fault} {trail : List Stage}
      (hs : s.Reaches id child) (hown : (ownChecks id child).findSome? Check.fault? = none)
      (hheld : held? child = some block) (hblock : FailsAlong block fault trail) :
    FailsAlong s.node fault (s :: trail)

/-- The visits that a failed visit comes down to: those of the elements on the way to the
fault, each with only the children that were read. -/
def trailVisits (depth : Int) : List Stage → List Visit
  | [] => []
  | s :: trail => visitsAt depth s.cut ++ trailVisits (depth + 1) trail

/-- The first item whose checks fail, and those before it. -/
theorem exists_first_fault {α : Type} (checksOf : α → List Check) {items : List α} {fault : Fault}
    (h : (items.flatMap checksOf).findSome? Check.fault? = some fault) :
    ∃ before item rest, items = before ++ item :: rest ∧
      (∀ earlier ∈ before, (checksOf earlier).findSome? Check.fault? = none) ∧
      (checksOf item).findSome? Check.fault? = some fault := by
  rw [Check.findSome?_flatMap] at h
  obtain ⟨before, item, rest, hsplit, hitem, hbefore⟩ := List.findSome?_eq_some_iff.mp h
  exact ⟨before, item, rest, hsplit, hbefore, hitem⟩

namespace Stage.Reaches

variable {s : Stage} {id : Text} {child : Node} {fault : Fault} (hs : s.Reaches id child)
include hs

theorem cut_id : s.cut.get? "id" = some id := hs.hasId

theorem cut_type : ∃ opcode, s.cut.get? "type" = some opcode := hs.hasType

/-- What was read of an element passes its checks. -/
theorem checked_cut : (checks s.cut).findSome? Check.fault? = none := by
  obtain ⟨opcode, htype⟩ := hs.cut_type
  rw [findSome?_checks hs.cut_id htype]
  exact Check.findSome?_flatMap_eq_none.mpr hs.sound

/-- The fault of the child that is reached is the fault of the element. -/
theorem fault_of_child (hchild : (childChecks id child).findSome? Check.fault? = some fault) :
    (checks s.node).findSome? Check.fault? = some fault := by
  obtain ⟨opcode, htype⟩ := hs.hasType
  obtain ⟨rest, hsplit⟩ := hs.isNext
  rw [findSome?_checks hs.hasId htype, hsplit, List.flatMap_append, List.findSome?_append,
    Check.findSome?_flatMap_eq_none.mpr hs.sound, Option.none_or, List.flatMap_cons,
    List.findSome?_append, hchild]
  rfl

/-- An element with a fault is left as it was cut, and then comes what the child at fault leaves. -/
theorem log_eq_cut (hchild : (childChecks id child).findSome? Check.fault? = some fault)
    (depth : Int) {inner : List (Record Text)}
    (hinner : ∀ rest, (reached id (child :: rest)).flatMap (heldLog depth) = inner) :
    log depth s.node = log depth s.cut ++ inner := by
  obtain ⟨opcode, htype⟩ := hs.hasType
  obtain ⟨rest, hsplit⟩ := hs.isNext
  have hcut : log depth s.cut =
      (blank (depth == 0) s.cut).fill s.read :: s.read.flatMap (heldLog depth) := by
    obtain ⟨same, hsame⟩ := hs.cut_type
    rw [Block.log_eq depth hs.cut_id hsame]
    show (blank (depth == 0) s.cut).fill (readable id s.read) ::
      (reached id s.read).flatMap (heldLog depth) = _
    rw [readable_of_sound hs.sound, reached_of_sound hs.sound]
  rw [Block.log_eq depth hs.hasId htype, hsplit, readable_append hs.sound,
    readable_cons_faulty rest hchild, List.append_nil, reached_append hs.sound,
    List.flatMap_append, hinner rest, hcut]
  rfl

end Stage.Reaches

/-- A slot whose own checks pass has the fault of what it holds. -/
theorem fault_of_held {id : Text} {child block : Node}
    (hown : (ownChecks id child).findSome? Check.fault? = none) (hheld : held? child = some block) :
    (childChecks id child).findSome? Check.fault? = (checks block).findSome? Check.fault? := by
  rw [childChecks, List.findSome?_append, hown, Option.none_or, hheld]
  rfl

/-- Every fault of an element has a way to it. -/
theorem exists_trail (node : Node) : ∀ fault, (checks node).findSome? Check.fault? = some fault →
    ∃ trail, FailsAlong node fault trail := by
  induction node using plugs_induction with
  | step node ih =>
    intro fault h
    cases hid : node.get? "id" with
    | none =>
      rw [findSome?_checks_of_no_id hid] at h
      cases h
      exact ⟨[], .noId hid⟩
    | some id =>
      cases htype : node.get? "type" with
      | none =>
        rw [findSome?_checks_of_no_type hid htype] at h
        cases h
        exact ⟨[], .noType hid htype⟩
      | some opcode =>
        rw [findSome?_checks hid htype] at h
        obtain ⟨read, child, rest, hsplit, hread, hchild⟩ := exists_first_fault (childChecks id) h
        have hs : Stage.Reaches ⟨node, read⟩ id child :=
          ⟨hid, ⟨opcode, htype⟩, ⟨rest, hsplit⟩, hread⟩
        -- the fault is one of the child's own, or it lies deeper
        cases hown : (ownChecks id child).findSome? Check.fault? with
        | some own =>
          obtain rfl : own = fault := Option.some.inj ((fault_of_own hown).symm.trans hchild)
          exact ⟨_, .child hs hown⟩
        | none =>
          cases hheld : held? child with
          | none =>
            rw [childChecks, List.findSome?_append, hown, hheld] at hchild
            cases hchild
          | some block =>
            have hmem : child ∈ node.children := hsplit ▸ List.mem_append_right _ List.mem_cons_self
            obtain ⟨trail, htrail⟩ := ih block (List.mem_filterMap.mpr ⟨child, hmem, hheld⟩) fault
              (fault_of_held hown hheld ▸ hchild)
            exact ⟨_, .inside hs hown hheld htrail⟩

namespace FailsAlong

variable {node : Node} {fault : Fault} {trail : List Stage} (h : FailsAlong node fault trail)
include h

theorem fault_eq : (checks node).findSome? Check.fault? = some fault := by
  induction h with
  | noId hid => exact findSome?_checks_of_no_id hid
  | noType hid htype => exact findSome?_checks_of_no_type hid htype
  | child hs hown => exact hs.fault_of_child (fault_of_own hown)
  | inside hs hown hheld _ ih => exact hs.fault_of_child ((fault_of_held hown hheld).trans ih)

/-- A failed visit leaves what the visits along its trail leave. -/
theorem log_eq (depth : Int) : log depth node = (trailVisits depth trail).map Visit.record := by
  induction h generalizing depth with
  | noId hid => exact log_of_no_id depth hid
  | noType _ htype => exact log_of_no_type depth htype
  | @child s id child fault hs hown =>
    have hinner : ∀ rest, (reached id (child :: rest)).flatMap (heldLog depth) = [] := by
      intro rest
      rw [reached_cons_own rest hown]
      rfl
    rw [hs.log_eq_cut (fault_of_own hown) depth hinner, log_eq_visitsAt s.cut depth hs.checked_cut,
      trailVisits, trailVisits, List.append_nil, List.append_nil]
  | @inside s id child block fault trail hs hown hheld hblock ih =>
    have hchild := (fault_of_held hown hheld).trans hblock.fault_eq
    have hinner : ∀ rest, (reached id (child :: rest)).flatMap (heldLog depth) =
        log (depth + 1) block := by
      intro rest
      rw [reached_cons_held rest hown hchild]
      simp [heldLog, hheld]
    rw [hs.log_eq_cut hchild depth hinner, log_eq_visitsAt s.cut depth hs.checked_cut, ih,
      trailVisits, List.map_append]

/-- All that is visited along a trail passes its checks. -/
theorem checked (depth : Int) :
    ∀ v ∈ trailVisits depth trail, (checks v.node).findSome? Check.fault? = none := by
  induction h generalizing depth with
  | noId _ => exact fun v hv => by cases hv
  | noType _ _ => exact fun v hv => by cases hv
  | child hs _ =>
    intro v hv
    rw [trailVisits, trailVisits, List.append_nil] at hv
    exact checked_of_visitsAt hs.checked_cut depth v hv
  | inside hs _ _ _ ih =>
    intro v hv
    rcases List.mem_append.mp hv with hv | hv
    · exact checked_of_visitsAt hs.checked_cut depth v hv
    · exact ih (depth + 1) v hv

end FailsAlong

/-! ## The elements that are entered -/

/-- The element whose type a check asks for. -/
def Check.entered? : Check → Option Node
  | required node name _ => if name = "type" then some node else none
  | content _ _ _ => none
  | plug _ _ _ => none

/-- The elements whose types are found before the first fault. -/
def entered (checks : List Check) : List Node :=
  (checks.takeWhile fun check => check.fault?.isNone).filterMap Check.entered?

theorem entered_append_of_none {first : List Check} (h : first.findSome? Check.fault? = none)
    (second : List Check) :
    entered (first ++ second) = first.filterMap Check.entered? ++ entered second := by
  have hpass : ∀ check ∈ first, check.fault?.isNone = true := by
    intro check hm
    rw [List.findSome?_eq_none_iff.mp h check hm]
    rfl
  rw [entered, List.takeWhile_append_of_pos hpass, List.filterMap_append]
  rfl

theorem entered_append_of_some {first : List Check} {fault : Fault}
    (h : first.findSome? Check.fault? = some fault) (second : List Check) :
    entered (first ++ second) = entered first := by
  obtain ⟨passed, failed, rest, rfl, hfailed, hpassed⟩ := List.findSome?_eq_some_iff.mp h
  have hnone : passed.findSome? Check.fault? = none := List.findSome?_eq_none_iff.mpr hpassed
  rw [List.append_assoc, entered_append_of_none hnone, entered_append_of_none hnone]
  simp [entered, hfailed]

/-- What is entered before the first item whose checks fail, and then in that item. -/
theorem entered_flatMap {α : Type} {checksOf : α → List Check} {before : List α} {item : α}
    {fault : Fault} (hbefore : ∀ earlier ∈ before, (checksOf earlier).findSome? Check.fault? = none)
    (hitem : (checksOf item).findSome? Check.fault? = some fault) (rest : List α) :
    entered ((before ++ item :: rest).flatMap checksOf) =
      (before.flatMap fun earlier => (checksOf earlier).filterMap Check.entered?) ++
        entered (checksOf item) := by
  rw [List.flatMap_append, List.flatMap_cons,
    entered_append_of_none (Check.findSome?_flatMap_eq_none.mpr hbefore),
    entered_append_of_some hitem, List.filterMap_flatMap]

/-- The checks on a field or slot itself ask for no type. -/
theorem entered?_of_ownChecks {block : Text} {child : Node} {check : Check}
    (h : check ∈ ownChecks block child) : check.entered? = none := by
  have hname : ("name" : Text) ≠ "type" := by decide
  unfold ownChecks at h
  split at h
  · rcases List.mem_pair.mp h with rfl | rfl
    · rw [Check.entered?, if_neg hname]
    · rfl
  · rcases List.mem_pair.mp h with rfl | rfl
    · rw [Check.entered?, if_neg hname]
    · rfl
  · rw [List.mem_singleton.mp h]; rfl
  · cases h

theorem entered_ownChecks (block : Text) (child : Node) : entered (ownChecks block child) = [] :=
  List.filterMap_eq_nil_iff.mpr fun _ hm =>
    entered?_of_ownChecks ((List.takeWhile_prefix _).subset hm)

theorem entered?_childChecks (block : Text) (child : Node) :
    (childChecks block child).filterMap Check.entered? =
      (((held? child).map checks).getD []).filterMap Check.entered? := by
  rw [childChecks, List.filterMap_append,
    List.filterMap_eq_nil_iff.mpr fun _ => entered?_of_ownChecks, List.nil_append]

/-- Among children, types are asked for of the elements that these hold. -/
theorem entered?_children (block : Text) (children : List Node) :
    (children.flatMap fun child => (childChecks block child).filterMap Check.entered?) =
      (children.filterMap held?).flatMap fun inner => (checks inner).filterMap Check.entered? := by
  induction children with
  | nil => rfl
  | cons child rest ih =>
    rw [List.flatMap_cons, ih, entered?_childChecks]
    cases hheld : held? child with
    | none => rw [List.filterMap_cons_none hheld]; rfl
    | some inner => rw [List.filterMap_cons_some hheld]; rfl

/-- The checks on an element ask for the types of all elements that are visited. -/
theorem entered?_checks (node : Node) : (checks node).filterMap Check.entered? = visited node := by
  induction node using plugs_induction with
  | step node ih =>
    have hid : ∀ block, Check.entered? (.required node "id" block) = none := by
      intro block
      rw [Check.entered?, if_neg (by decide)]
    have htype : ∀ block, Check.entered? (.required node "type" block) = some node := by
      intro block
      rw [Check.entered?, if_pos rfl]
    rw [checks_eq, visited_eq, List.filterMap_cons_none (hid _), List.filterMap_cons_some (htype _),
      List.filterMap_flatMap, entered?_children]
    exact congrArg (node :: ·) (List.flatMap_congr ih)

/-- Before the fault, types are found of the element, then of what is visited in the children
that were read, then in the child at fault. -/
theorem Stage.Reaches.entered_eq {s : Stage} {id : Text} {child : Node} {fault : Fault}
    (hs : s.Reaches id child)
    (hchild : (childChecks id child).findSome? Check.fault? = some fault) :
    entered (checks s.node) = s.nodes ++ entered (childChecks id child) := by
  obtain ⟨opcode, htype⟩ := hs.hasType
  obtain ⟨rest, hsplit⟩ := hs.isNext
  have hown : [Check.required s.node "id" none, .required s.node "type" (some id)].findSome?
      Check.fault? = none := by
    rw [List.findSome?_cons, Check.fault?_required_some none hs.hasId, List.findSome?_cons,
      Check.fault?_required_some (some id) htype, List.findSome?_nil]
  have hplugs : (s.read.filterMap held?).flatMap
      (fun inner => (checks inner).filterMap Check.entered?) = (plugs s.cut).flatMap visited :=
    List.flatMap_congr fun inner _ => entered?_checks inner
  have hchecks : checks s.node =
      [.required s.node "id" none, .required s.node "type" (some id)] ++
        (s.read ++ child :: rest).flatMap (childChecks id) := by
    rw [checks_eq, hs.hasId, hsplit]
    rfl
  rw [hchecks, entered_append_of_none hown, entered_flatMap hs.sound hchild, entered?_children,
    hplugs, ← List.append_assoc]
  rfl

theorem FailsAlong.entered_eq {node : Node} {fault : Fault} {trail : List Stage}
    (h : FailsAlong node fault trail) : entered (checks node) = trail.flatMap Stage.nodes := by
  induction h with
  | @noId node hid =>
    rw [checks_eq]
    simp [entered, Check.fault?, Check.holds, hid]
  | @noType node id hid htype =>
    have hname : ("id" : Text) ≠ "type" := by decide
    rw [checks_eq]
    simp [entered, Check.fault?, Check.holds, Check.refusal?, Check.entered?, hid, htype, hname]
  | @child s id child fault hs hown =>
    rw [hs.entered_eq (fault_of_own hown), childChecks, entered_append_of_some hown,
      entered_ownChecks]
    simp
  | @inside s id child block fault trail hs hown hheld hblock ih =>
    rw [hs.entered_eq ((fault_of_held hown hheld).trans hblock.fault_eq), childChecks,
      entered_append_of_none hown, List.filterMap_eq_nil_iff.mpr fun _ => entered?_of_ownChecks,
      hheld, List.flatMap_cons, ← ih]
    rfl

/-! ## Calls that fail -/

/-- What visits leave in a table: each puts its record, which is complete, under its id. -/
structure Leaves (before : Table (Record Text)) (visits : List Visit)
    (after : Table (Record Text)) : Prop where
  puts : after = visits.foldl (fun table v => Table.put table v.record.id v.record) before
  complete : ∀ v ∈ visits, Complete v v.record
  others : ∀ id, (∀ v ∈ visits, v.record.id ≠ id) → after.get? id = before.get? id
  order : before.keys <+: after.keys

theorem leaves_merge (before : Table (Record Text)) {visits : List Visit}
    (h : ∀ v ∈ visits, (checks v.node).findSome? Check.fault? = none) :
    Leaves before visits (before.merge (visits.map Visit.entry)) := by
  refine ⟨?_, fun v hv => complete_of_checked (h v hv), ?_, Table.keys_prefix_merge _ _⟩
  · rw [Table.merge, List.foldl_map]
    rfl
  · intro id hid
    apply Table.get?_merge_of_notMem
    intro hm
    obtain ⟨e, he, rfl⟩ := List.mem_map.mp hm
    obtain ⟨v, hv, rfl⟩ := List.mem_map.mp he
    exact hid v hv rfl

/-- The targets of a failed call that are visited before the one that fails, and the way to its
fault: what they leave is the log of the call. -/
theorem exists_trail_of_fault {call : Call} {fault : Fault}
    (h : call.checks.findSome? Check.fault? = some fault) :
    ∃ done node rest trail, call.targets = done ++ node :: rest ∧
      (∀ earlier ∈ done, (checks earlier).findSome? Check.fault? = none) ∧
      FailsAlong node fault trail ∧
      call.log = (done.flatMap (visitsAt call.depth) ++ trailVisits call.depth trail).map
        Visit.record := by
  obtain ⟨done, node, rest, hsplit, hdone, hnode⟩ := exists_first_fault checks h
  obtain ⟨trail, htrail⟩ := exists_trail node fault hnode
  refine ⟨done, node, rest, trail, hsplit, hdone, htrail, ?_⟩
  rw [Call.log, hsplit, logUntil_of_checked call.depth hdone, logUntil, hnode,
    htrail.log_eq call.depth, List.map_append]
  simp

/-- **What a failed call leaves behind.** The targets before the one that fails are left
complete, and along the way to the fault each element is left with only the children that were
read. These visits put one record each, in the order in which the types of their elements were
found before the fault. All other entries stay as they were, and known keys keep their places. -/
theorem left_by_failed_call (call : Call) (registry : Registry) {fault : Fault}
    (h : (call.run registry).1 = .error fault) :
    ∃ done node rest trail, call.targets = done ++ node :: rest ∧
      (∀ earlier ∈ done, (checks earlier).findSome? Check.fault? = none) ∧
      FailsAlong node fault trail ∧
      entered call.checks = done.flatMap visited ++ trail.flatMap Stage.nodes ∧
      Leaves registry.table (done.flatMap (visitsAt call.depth) ++ trailVisits call.depth trail)
        (call.run registry).2.table := by
  obtain ⟨done, node, rest, trail, hsplit, hdone, htrail, hlog⟩ :=
    exists_trail_of_fault (fault_of_run h)
  refine ⟨done, node, rest, trail, hsplit, hdone, htrail, ?_, ?_⟩
  · have hvisited : (done.flatMap fun earlier => (checks earlier).filterMap Check.entered?) =
        done.flatMap visited := List.flatMap_congr fun earlier _ => entered?_checks earlier
    rw [Call.checks, hsplit, entered_flatMap hdone htrail.fault_eq, hvisited, htrail.entered_eq]
  · have hchecked : ∀ v ∈ done.flatMap (visitsAt call.depth) ++ trailVisits call.depth trail,
        (checks v.node).findSome? Check.fault? = none := by
      intro v hv
      rcases List.mem_append.mp hv with hv | hv
      · obtain ⟨earlier, he, hv⟩ := List.mem_flatMap.mp hv
        exact checked_of_visitsAt (hdone earlier he) call.depth v hv
      · exact htrail.checked call.depth v hv
    rw [table_of_run, hlog, List.map_map]
    exact leaves_merge registry.table hchecked

/-- A block that holds another one and then one of its own id, in which a field is empty. -/
def halted : Node :=
  .element "block" [("id", "a"), ("type", "x")]
    [.element "value" [("name", "V")] [.element "block" [("id", "b"), ("type", "y")] []],
      .element "next" []
        [.element "block" [("id", "a"), ("type", "z")]
          [.element "field" [("name", "F")] [.ofText "1"],
            .element "field" [("name", "G")] []]]]

def stocked : Registry :=
  ({} : Registry).addAll
    [{ id := "c", opcode := "w", next := some "b" }, { id := "b", opcode := "w" }]

theorem left_by_halted :
    ((Call.visit halted 0).run stocked).1 = .error (.malformed (.emptyField "G" "a")) ∧
      ((Call.visit halted 0).run stocked).2.records =
        [{ id := "c", opcode := "w", next := some "b" }, { id := "b", opcode := "y" },
          { id := "a", opcode := "z", fields := [("F", ⟨"F", "1"⟩)] }] ∧
      ∃ trail, FailsAlong halted (.malformed (.emptyField "G" "a")) trail ∧
        entered (checks halted) = trail.flatMap Stage.nodes ∧
        Leaves stocked.table (trailVisits 0 trail) ((Call.visit halted 0).run stocked).2.table := by
  have herror : ((Call.visit halted 0).run stocked).1 =
      .error (.malformed (.emptyField "G" "a")) := by decide +kernel
  refine ⟨herror, by decide +kernel, ?_⟩
  obtain ⟨done, node, rest, trail, htargets, _, htrail, hentered, hleaves⟩ :=
    left_by_failed_call (.visit halted 0) stocked herror
  obtain ⟨rfl, rfl, rfl⟩ : done = [] ∧ node = halted ∧ rest = [] := by
    cases done with
    | nil => cases htargets; exact ⟨rfl, rfl, rfl⟩
    | cons first more => cases more <;> cases htargets
  exact ⟨trail, htrail, by simpa [Call.checks, Call.targets] using hentered, hleaves⟩

end FlatBlocks.Block
