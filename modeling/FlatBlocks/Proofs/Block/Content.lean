import FlatBlocks.Block.Record
import FlatBlocks.Proofs.Block.Visited
import FlatBlocks.Proofs.Table
import Mathlib.Data.List.Basic

/-! The record of an element as its own attributes and children give it. Fields and
inputs keep the last entry of a name at the place of the first one, and the last next
block counts. Whatever else is visited has no part in it. -/

namespace FlatBlocks.Block
open Markup (Node)

/-- The field that a child gives: its name and the text of its first child. -/
def fieldOf? (child : Node) : Option (Field Text) :=
  match Role.of child with
  | .field => do
    let name ← child.get? "name"
    let first ← child.children.head?
    let value ← first.text
    some ⟨name, value⟩
  | _ => none

/-- The input that a child gives: its name and the id of the block plugged into it. -/
def inputOf? (child : Node) : Option (Link Text) :=
  match Role.of child with
  | .slot true => do
    let name ← child.get? "name"
    let block ← effective? child
    let target ← block.get? "id"
    some ⟨name, target⟩
  | _ => none

/-- The id of the next block that a child gives. -/
def nextOf? (child : Node) : Option Text :=
  match Role.of child with
  | .slot false => (effective? child).bind (·.get? "id")
  | _ => none

/-- A child gives what its role promises. -/
def Gives (child : Node) : Prop :=
  match Role.of child with
  | .field => (fieldOf? child).isSome
  | .slot true => (inputOf? child).isSome
  | .slot false => (nextOf? child).isSome
  | .other => True

/-- Put what children give into a record. -/
def Record.fill (record : Record Text) (children : List Node) : Record Text :=
  { record with
    inputs := record.inputs.merge ((children.filterMap inputOf?).map fun link => (link.name, link))
    fields := record.fields.merge ((children.filterMap fieldOf?).map fun field =>
      (field.name, field))
    next := (children.filterMap nextOf?).getLast?.or record.next }

/-- The record of an element before its children are read. -/
def blank (topLevel : Bool) (node : Node) : Record Text :=
  { id := (node.get? "id").getD "", opcode := (node.get? "type").getD "", topLevel }

/-- The complete record of an element. -/
def recordOf (topLevel : Bool) (node : Node) : Record Text :=
  (blank topLevel node).fill node.children

def Visit.record (v : Visit) : Record Text := recordOf v.topLevel v.node

/-- What a visit puts into a table. -/
def Visit.entry (v : Visit) : Text × Record Text := (v.record.id, v.record)

namespace Record

@[simp] theorem fill_id (record : Record Text) (children : List Node) :
    (record.fill children).id = record.id := rfl

@[simp] theorem fill_nil (record : Record Text) : record.fill [] = record := rfl

theorem fill_cons_other (record : Record Text) {child : Node} (rest : List Node)
    (h : Role.of child = .other) : record.fill (child :: rest) = record.fill rest := by
  simp [fill, fieldOf?, inputOf?, nextOf?, h]

theorem fill_cons_field (record : Record Text) {child : Node} (rest : List Node)
    {field : Field Text} (h : fieldOf? child = some field) :
    record.fill (child :: rest) = (record.putField field).fill rest := by
  have hrole : Role.of child = .field := by
    unfold fieldOf? at h
    split at h
    · assumption
    · cases h
  simp [fill, putField, h, inputOf?, nextOf?, hrole]

theorem fill_cons_input (record : Record Text) {child : Node} (rest : List Node)
    {link : Link Text} (h : inputOf? child = some link) :
    record.fill (child :: rest) = (record.link (some link.name) link.block).fill rest := by
  have hrole : Role.of child = .slot true := by
    unfold inputOf? at h
    split at h
    · assumption
    · cases h
  simp [fill, Record.link, h, fieldOf?, nextOf?, hrole]

theorem fill_cons_next (record : Record Text) {child : Node} (rest : List Node)
    {target : Text} (h : nextOf? child = some target) :
    record.fill (child :: rest) = (record.link none target).fill rest := by
  have hrole : Role.of child = .slot false := by
    unfold nextOf? at h
    split at h
    · assumption
    · cases h
  have hlast : ∀ later : List Text,
      (target :: later).getLast?.or record.next = later.getLast?.or (some target) := by
    intro later
    cases later with
    | nil => rfl
    | cons t later => simp [List.getLast?_cons]
  simp [fill, Record.link, h, fieldOf?, inputOf?, hrole, hlast]

end Record

/-! ## What a complete record holds -/

/-- What the record of a visited element is to hold, said of the children one by one. -/
structure Complete (v : Visit) (r : Record Text) : Prop where
  id : v.node.get? "id" = some r.id
  opcode : v.node.get? "type" = some r.opcode
  topLevel : r.topLevel = v.topLevel
  fieldNames : r.fields.keys =
    ((v.node.children.filter (Role.of · == .field)).filterMap (·.get? "name")).eraseDups
  inputNames : r.inputs.keys =
    ((v.node.children.filter (Role.of · == .slot true)).filterMap (·.get? "name")).eraseDups
  field : ∀ name, r.fields.get? name = (v.node.children.filter fun child =>
    Role.of child == .field && child.get? "name" == some name).getLast?.bind fieldOf?
  input : ∀ name, r.inputs.get? name = (v.node.children.filter fun child =>
    Role.of child == .slot true && child.get? "name" == some name).getLast?.bind inputOf?
  next : r.next = (v.node.children.filter (Role.of · == .slot false)).getLast?.bind nextOf?

theorem getLast?_filterMap {α β : Type} (f : α → Option β) (p : α → Bool) (l : List α)
    (h : ∀ a ∈ l, p a = (f a).isSome) :
    (l.filterMap f).getLast? = (l.filter p).getLast?.bind f := by
  induction l using List.reverseRecOn with
  | nil => rfl
  | append_singleton l a ih =>
    have ih := ih fun b hb => h b (List.mem_append_left _ hb)
    have ha := h a (by simp)
    cases hf : f a with
    | none => simp [hf, ha, ih]
    | some b => simp [hf, ha]

/-- What items give under their names, for items of one role that all give something. -/
theorem ofList_named {α β : Type} (role : α → Bool) (nameOf : α → Option Text)
    (f : α → Option β) (name : β → Text) (items : List α)
    (hyes : ∀ a ∈ items, role a → ∃ b, f a = some b ∧ nameOf a = some (name b))
    (hno : ∀ a ∈ items, role a = false → f a = none) :
    (Table.ofList ((items.filterMap f).map fun b => (name b, b))).keys =
        ((items.filter role).filterMap nameOf).eraseDups ∧
      ∀ key, (Table.ofList ((items.filterMap f).map fun b => (name b, b))).get? key =
        (items.filter fun a => role a && nameOf a == some key).getLast?.bind f := by
  constructor
  · rw [Table.keys_ofList]
    congr 1
    rw [List.map_map, List.filterMap_filter, List.map_filterMap]
    apply List.filterMap_congr
    intro a ha
    cases hr : role a with
    | true =>
      obtain ⟨b, hf, hn⟩ := hyes a ha hr
      simp [hf, hn]
    | false => simp [hno a ha hr]
  · intro key
    let g : α → Option β := fun a => (f a).filter (name · == key)
    have hg : ((items.filterMap f).map fun b => (name b, b)).filter (·.1 == key) =
        (items.filterMap g).map fun b => (name b, b) := by
      rw [List.filter_map, List.filter_filterMap]; rfl
    have hp : ∀ a ∈ items, (role a && nameOf a == some key) = (g a).isSome := by
      intro a ha
      cases hr : role a with
      | true =>
        obtain ⟨b, hf, hn⟩ := hyes a ha hr
        by_cases hk : name b = key <;> simp [g, hf, hn, hk]
      | false => simp [g, hno a ha hr]
    rw [Table.get?_ofList, hg, List.getLast?_map, Option.map_map,
      getLast?_filterMap g _ items hp]
    cases hl : (items.filter fun a => role a && nameOf a == some key).getLast? with
    | none => rfl
    | some a =>
      have hm := List.mem_filter.mp (List.mem_of_getLast? hl)
      obtain ⟨hr, hk⟩ := Bool.and_eq_true_iff.mp hm.2
      obtain ⟨b, hf, hn⟩ := hyes a hm.1 hr
      have hk : name b = key := by simpa [hn] using hk
      simp [g, hf, hk]

theorem name_of_fieldOf? {child : Node} {field : Field Text} (h : fieldOf? child = some field) :
    child.get? "name" = some field.name := by
  unfold fieldOf? at h
  split at h
  · obtain ⟨name, hname, h⟩ := Option.bind_eq_some_iff.mp h
    obtain ⟨first, _, h⟩ := Option.bind_eq_some_iff.mp h
    obtain ⟨value, _, h⟩ := Option.bind_eq_some_iff.mp h
    cases h
    exact hname
  · cases h

theorem name_of_inputOf? {child : Node} {link : Link Text} (h : inputOf? child = some link) :
    child.get? "name" = some link.name := by
  unfold inputOf? at h
  split at h
  · obtain ⟨name, hname, h⟩ := Option.bind_eq_some_iff.mp h
    obtain ⟨block, _, h⟩ := Option.bind_eq_some_iff.mp h
    obtain ⟨target, _, h⟩ := Option.bind_eq_some_iff.mp h
    cases h
    exact hname
  · cases h

/-- A child that gives what it promises gives a next block if it is a slot for one. -/
theorem isSome_nextOf? {child : Node} (h : Gives child) :
    (Role.of child == .slot false) = (nextOf? child).isSome := by
  unfold Gives at h
  cases hr : Role.of child with
  | field => simp [nextOf?, hr]
  | other => simp [nextOf?, hr]
  | slot named =>
    cases named with
    | true => simp [nextOf?, hr]
    | false => simp_all

/-- If all children give what they promise, the record of a visit is complete. -/
theorem complete_record {v : Visit} {id opcode : Text} (hid : v.node.get? "id" = some id)
    (htype : v.node.get? "type" = some opcode) (h : ∀ child ∈ v.node.children, Gives child) :
    Complete v v.record := by
  have hfields := ofList_named (Role.of · == .field) (·.get? "name") fieldOf? Field.name
    v.node.children
    (by
      intro child hc hrole
      have hg := h child hc
      simp only [Gives, beq_iff_eq.mp hrole] at hg
      obtain ⟨field, hf⟩ := Option.isSome_iff_exists.mp hg
      exact ⟨field, hf, name_of_fieldOf? hf⟩)
    (by
      intro child _ hrole
      cases hr : Role.of child <;> simp_all [fieldOf?])
  have hinputs := ofList_named (Role.of · == .slot true) (·.get? "name") inputOf? Link.name
    v.node.children
    (by
      intro child hc hrole
      have hg := h child hc
      simp only [Gives, beq_iff_eq.mp hrole] at hg
      obtain ⟨link, hl⟩ := Option.isSome_iff_exists.mp hg
      exact ⟨link, hl, name_of_inputOf? hl⟩)
    (by
      intro child _ hrole
      unfold inputOf?
      split
      · simp_all
      · rfl)
  refine ⟨?_, ?_, rfl, hfields.1, hinputs.1, hfields.2, hinputs.2, ?_⟩
  · simp [Visit.record, recordOf, blank, hid]
  · simp [Visit.record, recordOf, Record.fill, blank, htype]
  · show (v.node.children.filterMap nextOf?).getLast?.or none = _
    rw [Option.or_none]
    exact getLast?_filterMap _ _ _ fun child hc => isSome_nextOf? (h child hc)

end FlatBlocks.Block
