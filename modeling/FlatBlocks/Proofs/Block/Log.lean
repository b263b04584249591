import FlatBlocks.Proofs.Block.Check
import FlatBlocks.Proofs.Block.Registry

/-! # What a visit gives and what it leaves behind

A visit of an element, whatever is registered before it, gives the verdict of the
checks on the element, and it registers a list of records that depends on the tree
alone: the log. The log has an entry for each element whose id and type were read,
with the record as the visit left it. Up to the first check that fails these are the
complete records of the visited elements; an element on the way to the failing check
has the record that the children before it give. -/

namespace FlatBlocks.Block
open Markup (Node)

/-! ## The log -/

/-- Whether a child passes all checks on it and on what it holds. -/
def sound (block : Text) (child : Node) : Bool :=
  ((childChecks block child).findSome? Check.fault?).isNone

/-- The children before the first one that fails a check. -/
def readable (block : Text) (children : List Node) : List Node := children.takeWhile (sound block)

/-- The readable children, and the first one that fails if it fails inside what it holds. -/
def reached (block : Text) : List Node → List Node
  | [] => []
  | child :: rest =>
    if sound block child then child :: reached block rest
    else if ((ownChecks block child).findSome? Check.fault?).isNone then [child]
    else []

theorem mem_of_mem_reached {block : Text} {child : Node} {children : List Node}
    (h : child ∈ reached block children) : child ∈ children := by
  induction children with
  | nil => cases h
  | cons first rest ih =>
    unfold reached at h
    split at h
    · rcases List.mem_cons.mp h with h | h
      · exact h ▸ List.mem_cons_self
      · exact List.mem_cons_of_mem _ (ih h)
    · split at h
      · exact List.mem_singleton.mp h ▸ List.mem_cons_self
      · cases h

/-- The records that the visit of an element registers, in the order of registration. -/
def log (depth : Int) (node : Node) : List (Record Text) :=
  match node.get? "id", node.get? "type" with
  | some id, some _ =>
    (blank (depth == 0) node).fill (readable id node.children) ::
      (reached id node.children).attach.flatMap fun child =>
        match _h : held? child.val with
        | none => []
        | some block => log (depth + 1) block
  | _, _ => []
termination_by sizeOf node
decreasing_by
  exact Nat.lt_trans (sizeOf_held?_lt _h)
    (Node.sizeOf_lt_of_mem_children (mem_of_mem_reached child.property))

/-- The records that come from what a child holds. -/
def heldLog (depth : Int) (child : Node) : List (Record Text) :=
  ((held? child).map (log (depth + 1))).getD []

theorem log_eq {node : Node} {id opcode : Text} (depth : Int) (hid : node.get? "id" = some id)
    (htype : node.get? "type" = some opcode) :
    log depth node = (blank (depth == 0) node).fill (readable id node.children) ::
      (reached id node.children).flatMap (heldLog depth) := by
  rw [log, hid, htype]
  simp only
  rw [List.flatMap_subtype (g := heldLog depth), List.unattach_attach]
  intro child _
  unfold heldLog
  split <;> rename_i h <;> rw [h] <;> rfl

theorem log_of_no_id {node : Node} (depth : Int) (hid : node.get? "id" = none) :
    log depth node = [] := by
  rw [log, hid]

theorem log_of_no_type {node : Node} (depth : Int) (htype : node.get? "type" = none) :
    log depth node = [] := by
  rw [log, htype]
  cases node.get? "id" <;> rfl

/-! ## Children one by one -/

section
variable {block : Text} {child : Node} (rest : List Node)

theorem readable_cons_sound (h : (childChecks block child).findSome? Check.fault? = none) :
    readable block (child :: rest) = child :: readable block rest := by
  simp [readable, sound, h]

theorem reached_cons_sound (h : (childChecks block child).findSome? Check.fault? = none) :
    reached block (child :: rest) = child :: reached block rest := by
  simp [reached, sound, h]

theorem readable_cons_faulty {fault : Fault}
    (h : (childChecks block child).findSome? Check.fault? = some fault) :
    readable block (child :: rest) = [] := by
  simp [readable, sound, h]

/-- A child that fails one of its own checks is not entered. -/
theorem reached_cons_own {fault : Fault}
    (h : (ownChecks block child).findSome? Check.fault? = some fault) :
    reached block (child :: rest) = [] := by
  simp [reached, sound, childChecks, List.findSome?_append, h]

/-- A child that fails inside what it holds is entered. -/
theorem reached_cons_held {fault : Fault}
    (hown : (ownChecks block child).findSome? Check.fault? = none)
    (h : (childChecks block child).findSome? Check.fault? = some fault) :
    reached block (child :: rest) = [child] := by
  simp [reached, sound, h, hown]

theorem fault_of_own {fault : Fault}
    (h : (ownChecks block child).findSome? Check.fault? = some fault) :
    (childChecks block child).findSome? Check.fault? = some fault := by
  simp [childChecks, List.findSome?_append, h]

end

/-! ## Visits -/

/-- What a visit of an element is to give and to leave behind, at any depth and
whatever is registered before it. -/
def Logged (node : Node) : Prop :=
  ∀ (depth : Int) (registry : Registry),
    visit node depth registry =
      (Check.verdict (checks node) (recordOf (depth == 0) node),
        registry.addAll (log depth node))

section
variable {depth : Int} {child : Node} (hheld : ∀ block, held? child = some block → Logged block)
include hheld

/-- Reading a slot whose own checks pass is visiting what it holds. -/
theorem visitChildren_cons_slot {record : Record Text} {inner : Node} {named : Bool}
    {name : Option Text} (rest : List Node) (number : Nat) (registry : Registry)
    (hrole : Role.of child = .slot named) (hname : slotName child named record.id = .ok name)
    (he : effective? child = some inner) :
    visitChildren (child :: rest) depth number record registry =
      match (checks inner).findSome? Check.fault? with
      | some fault => (.error fault, registry.addAll (heldLog depth child))
      | none =>
        let linked := record.link name ((inner.get? "id").getD "")
        visitChildren rest depth number linked
          ((registry.addAll (heldLog depth child)).amend number linked) := by
  have hin : held? child = some inner := by rw [held?_slot hrole, he]
  have hlog : heldLog depth child = log (depth + 1) inner := by simp [heldLog, hin]
  rw [visitChildren, hrole]
  simp only [hname]
  split
  · rename_i hnone; rw [he] at hnone; cases hnone
  · rename_i block hblock
    rw [he] at hblock
    cases hblock
    rw [hheld inner hin (depth + 1) registry, hlog]
    cases hinner : (checks inner).findSome? Check.fault? with
    | some fault => rw [Check.verdict_of_some hinner]
    | none => rw [Check.verdict_of_none hinner]; rfl

/-- A child that fails a check ends the reading, after what it holds has been entered. -/
theorem visitChildren_cons_faulty {record : Record Text} {fault : Fault} (rest : List Node)
    (number : Nat) (registry : Registry)
    (h : (childChecks record.id child).findSome? Check.fault? = some fault) :
    visitChildren (child :: rest) depth number record registry =
      (.error fault,
        registry.addAll ((reached record.id (child :: rest)).flatMap (heldLog depth))) := by
  cases hrole : Role.of child with
  | other => rw [childChecks_of_other hrole] at h; cases h
  | field =>
    rcases readField_cases record.id hrole with ⟨_, _, _, hown⟩ | ⟨cause, hread, hown⟩
    · rw [childChecks_of_field hrole, hown] at h; cases h
    · obtain rfl : cause = fault := Option.some.inj ((fault_of_own hown).symm.trans h)
      rw [visitChildren, hrole, reached_cons_own rest hown]
      simp only [hread, List.flatMap_nil, Registry.addAll_nil]
  | slot named =>
    rcases slot_cases record.id hrole with
      ⟨cause, hname, hown⟩ | ⟨name, hname, he, hown⟩ | ⟨name, inner, hname, he, hown⟩
    · obtain rfl : .malformed cause = fault := Option.some.inj ((fault_of_own hown).symm.trans h)
      rw [visitChildren, hrole, reached_cons_own rest hown]
      simp only [hname, List.flatMap_nil, Registry.addAll_nil]
    · obtain rfl := Option.some.inj ((fault_of_own hown).symm.trans h)
      rw [visitChildren, hrole, reached_cons_own rest hown]
      simp only [hname, List.flatMap_nil, Registry.addAll_nil]
      split
      · rfl
      · rename_i hsome; rw [he] at hsome; cases hsome
    · have hinner : (checks inner).findSome? Check.fault? = some fault := by
        simpa [childChecks_of_slot hrole he, List.findSome?_append, hown] using h
      rw [visitChildren_cons_slot hheld rest number registry hrole hname he, hinner,
        reached_cons_held rest hown h]
      simp

/-- A child that passes its checks goes into the record. With `later` registered
since, the record might as well have been registered with the child in it. -/
theorem visitChildren_cons_sound {record : Record Text} (rest : List Node) (registry : Registry)
    (later : List (Record Text))
    (h : (childChecks record.id child).findSome? Check.fault? = none) :
    ∃ filled : Record Text, filled.id = record.id ∧
      (∀ children, record.fill (child :: children) = filled.fill children) ∧
      visitChildren (child :: rest) depth registry.registered record
          ((registry.add record).addAll later) =
        visitChildren rest depth registry.registered filled
          ((registry.add filled).addAll (later ++ heldLog depth child)) := by
  cases hrole : Role.of child with
  | other =>
    refine ⟨record, rfl, fun children => record.fill_cons_other children hrole, ?_⟩
    rw [visitChildren, hrole]
    simp [heldLog, held?, hrole]
  | field =>
    rcases readField_cases record.id hrole with ⟨field, hread, hf, _⟩ | ⟨_, _, hown⟩
    · refine ⟨record.putField field, rfl, fun children => record.fill_cons_field children hf, ?_⟩
      have hput : (record.putField field).id = record.id := rfl
      rw [visitChildren, hrole]
      simp only [hread]
      rw [Registry.amend_registered registry later hput]
      simp [heldLog, held?, hrole]
    · rw [fault_of_own hown] at h; cases h
  | slot named =>
    rcases slot_cases record.id hrole with
      ⟨cause, _, hown⟩ | ⟨name, _, _, hown⟩ | ⟨name, inner, hname, he, hown⟩
    · rw [fault_of_own hown] at h; cases h
    · rw [fault_of_own hown] at h; cases h
    · have hinner : (checks inner).findSome? Check.fault? = none := by
        simpa [childChecks_of_slot hrole he, List.findSome?_append, hown] using h
      obtain ⟨id, hid⟩ := id_of_checked hinner
      have hlink : (record.link name id).id = record.id := by cases name <;> rfl
      refine ⟨record.link name id, hlink,
        fun children => fill_of_checked_slot record children hrole hname he hid, ?_⟩
      rw [visitChildren_cons_slot hheld rest _ _ hrole hname he, hinner]
      simp only [hid, Option.getD_some]
      rw [← Registry.addAll_append, Registry.amend_registered registry _ hlink]

end

/-- Reading children into a record that has been registered, with `later` registered
since: the log of the element is that of its readable children. -/
theorem visitChildren_eq (depth : Int) (registry : Registry) (children : List Node)
    (hheld : ∀ child ∈ children, ∀ block, held? child = some block → Logged block)
    (record : Record Text) (later : List (Record Text)) :
    visitChildren children depth registry.registered record
        ((registry.add record).addAll later) =
      (Check.verdict (children.flatMap (childChecks record.id)) (record.fill children),
        (registry.add (record.fill (readable record.id children))).addAll
          (later ++ (reached record.id children).flatMap (heldLog depth))) := by
  induction children generalizing record later with
  | nil => simp [visitChildren, readable, reached]
  | cons child rest ih =>
    have hchild := hheld child List.mem_cons_self
    have ih := ih fun c hc => hheld c (List.mem_cons_of_mem _ hc)
    cases hcheck : (childChecks record.id child).findSome? Check.fault? with
    | some fault =>
      rw [visitChildren_cons_faulty hchild rest _ _ hcheck, List.flatMap_cons,
        Check.verdict_append_of_some hcheck, readable_cons_faulty rest hcheck, Record.fill_nil,
        Registry.addAll_append]
    | none =>
      obtain ⟨filled, hid, hfill, hstep⟩ :=
        visitChildren_cons_sound hchild rest registry later hcheck
      rw [hstep, ih filled, hid, List.flatMap_cons, Check.verdict_append_of_none hcheck,
        readable_cons_sound rest hcheck, reached_cons_sound rest hcheck, List.flatMap_cons,
        hfill, hfill, List.append_assoc]

/-- **A visit gives its verdict and registers its log.** -/
theorem visit_eq (node : Node) : Logged node := by
  induction node using plugs_induction with
  | step node ih =>
    intro depth registry
    rw [visit]
    cases hid : node.get? "id" with
    | none =>
      rw [Check.verdict_of_some (findSome?_checks_of_no_id hid), log_of_no_id depth hid]
      simp [require, hid]
    | some id =>
      cases htype : node.get? "type" with
      | none =>
        rw [Check.verdict_of_some (findSome?_checks_of_no_type hid htype),
          log_of_no_type depth htype]
        simp [require, hid, htype]
      | some opcode =>
        have hblank : blank (depth == 0) node = { id, opcode, topLevel := depth == 0 } := by
          simp [blank, hid, htype]
        have hread := visitChildren_eq depth registry node.children
          (fun child hc block hb => ih block (List.mem_filterMap.mpr ⟨child, hc, hb⟩))
          (blank (depth == 0) node) []
        rw [Registry.addAll_nil, hblank] at hread
        simp only [require, hid, htype, hread]
        rw [log_eq depth hid htype, ← hblank, Check.verdict, Check.verdict,
          findSome?_checks hid htype, recordOf, hblank]
        rfl

/-! ## Roots -/

/-- The records that the root blocks register, up to the first root that fails a check. -/
def rootLog : List Node → List (Record Text)
  | [] => []
  | root :: rest =>
    if root.hasTag "block" then
      log 0 root ++ if ((checks root).findSome? Check.fault?).isNone then rootLog rest else []
    else rootLog rest

/-- Adding roots gives the verdict of their checks and registers their log. -/
theorem addRoots_eq (roots : List Node) (registry : Registry) :
    addRoots roots registry =
      (Check.verdict (rootChecks roots) (), registry.addAll (rootLog roots)) := by
  induction roots generalizing registry with
  | nil => rfl
  | cons root rest ih =>
    unfold addRoots rootLog
    by_cases hblock : root.hasTag "block" = true
    · rw [if_pos hblock, if_pos hblock, visit_eq root 0 registry, rootChecks_cons_block rest hblock]
      cases hroot : (checks root).findSome? Check.fault? with
      | some fault =>
        rw [Check.verdict_of_some hroot, Check.verdict_append_of_some hroot]
        simp
      | none =>
        rw [Check.verdict_of_none hroot, Check.verdict_append_of_none hroot]
        simp [ih, Registry.addAll_append]
    · rw [if_neg hblock, if_neg hblock, ih, rootChecks_cons_other rest hblock]

/-! ## The log of what passes its checks -/

section
variable {block : Text} {children : List Node}
  (h : ∀ child ∈ children, (childChecks block child).findSome? Check.fault? = none)
include h

theorem readable_append (rest : List Node) :
    readable block (children ++ rest) = children ++ readable block rest := by
  induction children with
  | nil => rfl
  | cons child more ih =>
    rw [List.cons_append, readable_cons_sound _ (h child List.mem_cons_self),
      ih fun c hc => h c (List.mem_cons_of_mem _ hc), List.cons_append]

theorem reached_append (rest : List Node) :
    reached block (children ++ rest) = children ++ reached block rest := by
  induction children with
  | nil => rfl
  | cons child more ih =>
    rw [List.cons_append, reached_cons_sound _ (h child List.mem_cons_self),
      ih fun c hc => h c (List.mem_cons_of_mem _ hc), List.cons_append]

theorem readable_of_sound : readable block children = children := by
  simpa [readable] using readable_append h []

theorem reached_of_sound : reached block children = children := by
  simpa [reached] using reached_append h []

end

theorem heldLog_flatMap (depth : Int) (children : List Node) :
    children.flatMap (heldLog depth) = (children.filterMap held?).flatMap (log (depth + 1)) := by
  induction children with
  | nil => rfl
  | cons child rest ih => cases hh : held? child <;> simp [heldLog, hh, ih]

/-- An element that passes its checks is registered complete, before what is plugged into it. -/
theorem log_of_checked {node : Node} (depth : Int)
    (h : (checks node).findSome? Check.fault? = none) :
    log depth node = recordOf (depth == 0) node :: (plugs node).flatMap (log (depth + 1)) := by
  obtain ⟨id, hid⟩ := id_of_checked h
  obtain ⟨opcode, htype⟩ := type_of_checked h
  have hchildren := children_of_checked h
  rw [hid, Option.getD_some] at hchildren
  rw [log_eq depth hid htype, readable_of_sound hchildren, reached_of_sound hchildren,
    heldLog_flatMap, recordOf, plugs]

theorem plugs_of_checked {node : Node} (h : (checks node).findSome? Check.fault? = none) :
    ∀ block ∈ plugs node, (checks block).findSome? Check.fault? = none := by
  intro block hb
  obtain ⟨child, hc, hheld⟩ := List.mem_filterMap.mp hb
  exact held_of_checked hheld (children_of_checked h child hc)

/-- All that is visited inside an element that passes its checks passes its own. -/
theorem checked_of_visitsAt {node : Node} (h : (checks node).findSome? Check.fault? = none)
    (depth : Int) : ∀ v ∈ visitsAt depth node, (checks v.node).findSome? Check.fault? = none := by
  intro v hv
  have hn : v.node ∈ visited node := nodes_of_visitsAt node depth ▸ List.mem_map_of_mem hv
  exact forall_visited (fun _ => plugs_of_checked) h v.node hn

/-- The log of an element that passes its checks holds the complete records of all that is
visited. -/
theorem log_eq_visitsAt (node : Node) : ∀ depth : Int,
    (checks node).findSome? Check.fault? = none →
    log depth node = (visitsAt depth node).map Visit.record := by
  induction node using plugs_induction with
  | step node ih =>
    intro depth h
    have hinner : (plugs node).flatMap (log (depth + 1)) =
        (plugs node).flatMap fun block => (visitsAt (depth + 1) block).map Visit.record := by
      apply List.flatMap_congr
      intro block hb
      exact ih block hb (depth + 1) (plugs_of_checked h block hb)
    rw [log_of_checked depth h, visitsAt_eq, hinner, List.map_cons, List.map_flatMap]
    rfl

theorem log_eq_visits {root : Node} (h : (checks root).findSome? Check.fault? = none) :
    log 0 root = (visitsFrom root).map Visit.record := by
  rw [visitsFrom_eq]
  exact log_eq_visitsAt root 0 h

theorem rootLog_of_checked {roots : List Node}
    (h : (rootChecks roots).findSome? Check.fault? = none) :
    rootLog roots = (visits roots).map Visit.record := by
  induction roots with
  | nil => rfl
  | cons root rest ih =>
    unfold rootLog
    by_cases hblock : root.hasTag "block" = true
    · rw [rootChecks_cons_block rest hblock, List.findSome?_append, Option.or_eq_none_iff] at h
      rw [if_pos hblock, h.1, log_eq_visits h.1, ih h.2, visits_cons_block rest hblock,
        List.map_append]
      rfl
    · rw [rootChecks_cons_other rest hblock] at h
      rw [if_neg hblock, ih h, visits_cons_other rest hblock]

end FlatBlocks.Block
