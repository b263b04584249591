import FlatBlocks.Proofs.Block.Dropping
import FlatBlocks.Proofs.Block.Link
import FlatBlocks.Proofs.Block.Payload
import FlatBlocks.Proofs.Block.Walk
import FlatBlocks.Proofs.Markup.Whole.Tree

/-! # Records that can be written

The records of nodes that say nothing but characters can be written, whether all roots are
flattened at once or one at a time. The outline of such records is a whole text: every step
of a walk prints texts of the records. -/

namespace FlatBlocks.Block
open FlatBlocks.Text
open Markup (Node)

/-! ## The record of an element -/

theorem whole_of_get? {node : Node} (h : node.Whole) {name value : Text}
    (hvalue : node.get? name = some value) : Whole value :=
  (h.attributes _ (Table.mem_of_get? hvalue)).2

theorem whole_of_plugs {node : Node} (h : node.Whole) : ∀ block ∈ plugs node, block.Whole := by
  intro block hb
  obtain ⟨child, hc, hblock⟩ := exists_child_of_mem_plugs hb
  exact (h.child hc).child hblock

theorem whole_of_fieldOf? {child : Node} (h : child.Whole) {field : Field Text}
    (hfield : fieldOf? child = some field) : Whole field.name ∧ Whole field.value := by
  refine ⟨whole_of_get? h (name_of_fieldOf? hfield), ?_⟩
  unfold fieldOf? at hfield
  split at hfield
  · obtain ⟨name, _, hfield⟩ := Option.bind_eq_some_iff.mp hfield
    obtain ⟨first, hfirst, hfield⟩ := Option.bind_eq_some_iff.mp hfield
    obtain ⟨value, hvalue, hfield⟩ := Option.bind_eq_some_iff.mp hfield
    cases hfield
    exact (h.child (List.mem_of_mem_head? hfirst)).text value hvalue
  · cases hfield

theorem whole_of_inputOf? {node child : Node} (h : node.Whole) (hc : child ∈ node.children)
    {link : Link Text} (hlink : inputOf? child = some link) :
    Whole link.name ∧ Whole link.block := by
  obtain ⟨block, hheld, hid⟩ := held_of_inputOf? hlink
  have hblock := whole_of_plugs h block (List.mem_filterMap.mpr ⟨child, hc, hheld⟩)
  exact ⟨whole_of_get? (h.child hc) (name_of_inputOf? hlink), whole_of_get? hblock hid⟩

/-- An entry of a table of named values. -/
theorem mem_of_mem_named {α : Type} {name : α → Text} {values : List α} {e : Text × α}
    (h : e ∈ Table.ofList (values.map fun v => (name v, v))) : e.1 = name e.2 ∧ e.2 ∈ values := by
  refine ⟨Table.keyed_ofList name values e h, ?_⟩
  rcases Table.mem_of_mem_merge (t := []) h with h | h
  · cases h
  · obtain ⟨v, hv, rfl⟩ := List.mem_map.mp h
    exact hv

theorem writable_recordOf (topLevel : Bool) {node : Node} (h : node.Whole) :
    (recordOf topLevel node).Writable := by
  have hattribute : ∀ name, Whole ((node.get? name).getD "") := by
    intro name
    cases hvalue : node.get? name with
    | none => exact whole_nil
    | some value => exact whole_of_get? h hvalue
  have hinput : ∀ e ∈ (recordOf topLevel node).inputs,
      Whole e.1 ∧ Whole e.2.name ∧ Whole e.2.block := by
    intro e he
    obtain ⟨hkey, he⟩ := mem_of_mem_named he
    obtain ⟨child, hc, hlink⟩ := List.mem_filterMap.mp he
    obtain ⟨hname, hblock⟩ := whole_of_inputOf? h hc hlink
    exact ⟨hkey ▸ hname, hname, hblock⟩
  have hfield : ∀ e ∈ (recordOf topLevel node).fields,
      Whole e.1 ∧ Whole e.2.name ∧ Whole e.2.value := by
    intro e he
    obtain ⟨hkey, he⟩ := mem_of_mem_named he
    obtain ⟨child, hc, hfield⟩ := List.mem_filterMap.mp he
    obtain ⟨hname, hvalue⟩ := whole_of_fieldOf? (h.child hc) hfield
    exact ⟨hkey ▸ hname, hname, hvalue⟩
  have hnext : ∀ t ∈ (recordOf topLevel node).next, Whole t := by
    intro t ht
    have hlink : t ∈ (recordOf topLevel node).links :=
      List.mem_append_right _ (Option.mem_toList.mpr ht)
    obtain ⟨block, hb, hid⟩ := plug_of_link hlink
    exact whole_of_get? (whole_of_plugs h block hb) hid
  refine ⟨?_, Table.nodup_keys_ofList _, Table.nodup_keys_ofList _⟩
  intro t ht
  simp only [Record.texts, List.mem_append, List.mem_flatMap, List.mem_cons, List.not_mem_nil,
    or_false, Option.mem_toList] at ht
  rcases ht with (((rfl | rfl) | ⟨e, he, hin⟩) | ⟨e, he, hin⟩) | hin
  · exact hattribute "id"
  · exact hattribute "type"
  · obtain ⟨hkey, hname, hblock⟩ := hinput e he
    rcases hin with rfl | rfl | rfl <;> assumption
  · obtain ⟨hkey, hname, hvalue⟩ := hfield e he
    rcases hin with rfl | rfl | rfl <;> assumption
  · exact hnext t hin

/-! ## The records of a list of roots -/

section
variable {roots : List Node} (h : ∀ root ∈ roots, root.Whole)
include h

theorem whole_of_visits : ∀ v ∈ visits roots, v.node.Whole := by
  intro v hv
  have hn : v.node ∈ (rootBlocks roots).flatMap visited :=
    nodes_of_visits roots ▸ List.mem_map_of_mem hv
  obtain ⟨root, hr, hn⟩ := List.mem_flatMap.mp hn
  exact forall_visited (fun _ => whole_of_plugs) (h root (List.mem_filter.mp hr).1) v.node hn

theorem writable_of_visits :
    ∀ r ∈ (Table.ofList ((visits roots).map Visit.entry)).values, r.Writable := by
  intro r hr
  obtain ⟨e, he, rfl⟩ := List.mem_map.mp (Table.mem_of_mem_values_ofList hr)
  obtain ⟨v, hv, rfl⟩ := List.mem_map.mp he
  exact writable_recordOf v.topLevel (whole_of_visits h v hv)

theorem writable_of_flatten {records : List (Record Text)}
    (hflatten : flatten roots = .ok records) :
    ∀ r ∈ records, r.Writable := records_of_flatten hflatten ▸ writable_of_visits h

end

theorem writable_of_keptRoots {roots : List Node} (h : ∀ root ∈ roots, root.Whole) :
    ∀ r ∈ (Table.ofList ((visits (keptRoots roots)).map Visit.entry)).values, r.Writable :=
  writable_of_visits fun root hr => h root (List.mem_filter.mp (List.mem_filter.mp hr).1).1

/-! ## Outlines -/

namespace Outline

/-- What is still to be printed refers to whole ids alone. -/
def Task.Whole : Task Text → Prop
  | stack _ start => ∀ id ∈ start, Text.Whole id
  | .next _ following => ∀ id ∈ following, Text.Whole id
  | inputs _ links => ∀ e ∈ links, Text.Whole e.1 ∧ Text.Whole e.2.block
  | paragraphs starts => ∀ id ∈ starts, Text.Whole id

theorem whole_indentation (level : Int) : Text.Whole (indentation level) :=
  whole_flatten fun _ ht => List.eq_of_mem_replicate ht ▸ whole_ofString _

theorem whole_title {record : Record Text} (h : record.Writable) : Text.Whole (title record) := by
  have hfields : Text.Whole (formatFields record) := by
    refine whole_intercalate (whole_ofString " ") fun t ht => ?_
    obtain ⟨field, hf, rfl⟩ := List.mem_map.mp ht
    obtain ⟨e, he, rfl⟩ := List.mem_map.mp hf
    obtain ⟨_, hname, hvalue⟩ := h.field e he
    exact ((((whole_ofString "[").append hname).append (whole_ofString ": ")).append hvalue).append
      (whole_ofString "]")
  unfold title
  split
  · exact h.opcode
  · exact h.opcode.append (hfields.char ' ')

theorem whole_heading (level : Int) (id : Text) {record : Record Text} (h : record.Writable) :
    Text.Whole (Line.heading level id record).text :=
  ((whole_indentation level).append (whole_title h)).append (whole_ofString "\n")

theorem whole_input (level : Int) {name : Text} (h : Text.Whole name) :
    Text.Whole (Line.input level name : Line Text).text :=
  (((whole_indentation level).append (whole_ofString _)).append h).append (whole_ofString ":\n")

theorem whole_missing (level : Int) {id : Text} (h : Text.Whole id) :
    Text.Whole (Line.missing level id).text :=
  (((whole_indentation level).append (whole_ofString _)).append h).append (whole_ofString ">\n")

theorem whole_cycle (level : Int) {id : Text} (h : Text.Whole id) :
    Text.Whole (Line.cycle level id).text :=
  (((whole_indentation level).append (whole_ofString _)).append h).append (whole_ofString ">\n")

/-- A walk prints whole lines. -/
theorem Walk.whole {records : Table (Record Text)} (hrecords : ∀ e ∈ records, e.2.Writable)
    {task : Task Text} {visited after : List Text} {lines : List (Line Text)}
    (walk : Walk records task visited lines after) (htask : task.Whole) :
    ∀ line ∈ lines, Text.Whole line.text := by
  have hnext : ∀ {key : Text} {record : Record Text} (level : Int),
      records.get? key = some record → (Task.next level record.next).Whole :=
    fun _ hr => (hrecords _ (Table.mem_of_get? hr)).next
  induction walk with
  | nothing | blank | last | noInputs | noParagraphs => exact List.forall_mem_nil _
  | missing _ _ => exact List.forall_mem_singleton.mpr (whole_missing _ (htask _ rfl))
  | again _ hr _ _ ih =>
    exact List.forall_mem_cons.mpr ⟨whole_cycle _ (htask _ rfl), ih (hnext _ hr)⟩
  | enter _ hr _ _ _ ihinputs ihrest =>
    have hrecord := hrecords _ (Table.mem_of_get? hr)
    refine List.forall_mem_cons.mpr ⟨whole_heading _ _ hrecord, ?_⟩
    refine List.forall_mem_append.mpr ⟨ihinputs ?_, ihrest (hnext _ hr)⟩
    exact fun e he => ⟨(hrecord.input e he).1, (hrecord.input e he).2.2⟩
  | repeated _ =>
    unfold Outline.repeated
    split
    · exact List.forall_mem_nil _
    · exact List.forall_mem_singleton.mpr (whole_cycle _ (htask _ rfl))
  | chain _ _ ih => exact ih htask
  | input _ _ ihfirst ihothers =>
    obtain ⟨⟨hname, hblock⟩, hlinks⟩ := List.forall_mem_cons.mp htask
    refine List.forall_mem_cons.mpr ⟨whole_input _ hname, List.forall_mem_append.mpr ⟨?_, ?_⟩⟩
    · exact ihfirst (by rintro _ ⟨⟩; exact hblock)
    · exact ihothers hlinks
  | paragraph _ _ ihfirst ihothers =>
    obtain ⟨hstart, hstarts⟩ := List.forall_mem_cons.mp htask
    exact List.forall_mem_append.mpr
      ⟨ihfirst (by rintro _ ⟨⟩; exact hstart), ihothers hstarts⟩

/-- The outline of records that can be written is a whole text. -/
theorem whole_render {records : List (Record Text)} (h : ∀ r ∈ records, r.Writable) :
    Text.Whole (render records) := by
  have htable : ∀ e ∈ tableOf records, e.2.Writable := by
    intro e he
    exact h e.2 (mem_of_mem_named he).2
  have hstarts : ∀ id ∈ starts records, Text.Whole id := by
    intro id hid
    obtain ⟨key, _, hfirst⟩ := List.mem_filterMap.mp hid
    obtain ⟨r, hr, rfl⟩ := Option.map_eq_some_iff.mp hfirst
    exact (h r (List.mem_of_find?_eq_some hr)).id
  obtain ⟨_, walk⟩ := @walk_paragraphs Text _ (tableOf records) (starts records) []
  refine whole_intercalate (whole_ofString "\n") fun t ht => ?_
  obtain ⟨lines, hlines, rfl⟩ := List.mem_map.mp ht
  intro c hc
  obtain ⟨line, hline, hc⟩ := List.mem_flatMap.mp hc
  exact walk.whole htable hstarts line (List.mem_flatten.mpr ⟨lines, hlines, hline⟩) c hc

end Outline

end FlatBlocks.Block
