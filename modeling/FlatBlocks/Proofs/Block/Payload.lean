import FlatBlocks.Block.Payload
import FlatBlocks.Proofs.Files.Save
import FlatBlocks.Proofs.Text.Whole

/-! # Records and their JSON text

Reading back the text of some records, or the file in which they were saved, gives the
same records in the same order, in every layout. There is such a text if and only if there
is room for it. The object of a record keeps all there is in it, the order of its inputs and
fields included. -/

namespace FlatBlocks.Block
open FlatBlocks.Text

/-! ## One record -/

/-- All texts in a record. -/
def Record.texts (r : Record Text) : List Text :=
  [r.id, r.opcode] ++ r.inputs.flatMap (fun e => [e.1, e.2.name, e.2.block]) ++
    r.fields.flatMap (fun e => [e.1, e.2.name, e.2.value]) ++ r.next.toList

/-- A record of texts that are made of characters, in which no name is given twice. -/
structure Record.Writable (r : Record Text) : Prop where
  whole : ∀ t ∈ r.texts, Whole t
  inputs : r.inputs.keys.Nodup
  fields : r.fields.keys.Nodup

namespace Record.Writable

variable {r : Record Text} (h : r.Writable)
include h

theorem id : Whole r.id := h.whole _ (by simp [texts])

theorem opcode : Whole r.opcode := h.whole _ (by simp [texts])

theorem input : ∀ e ∈ r.inputs, Whole e.1 ∧ Whole e.2.name ∧ Whole e.2.block := by
  intro e he
  refine ⟨h.whole _ ?_, h.whole _ ?_, h.whole _ ?_⟩
  all_goals
    refine List.mem_append_left _ (List.mem_append_left _ (List.mem_append_right _ ?_))
    exact List.mem_flatMap.mpr ⟨e, he, by simp⟩

theorem field : ∀ e ∈ r.fields, Whole e.1 ∧ Whole e.2.name ∧ Whole e.2.value := by
  intro e he
  refine ⟨h.whole _ ?_, h.whole _ ?_, h.whole _ ?_⟩
  all_goals
    refine List.mem_append_left _ (List.mem_append_right _ ?_)
    exact List.mem_flatMap.mpr ⟨e, he, by simp⟩

theorem next : ∀ t ∈ r.next, Whole t := fun t ht =>
  h.whole t (List.mem_append_right _ (Option.mem_toList.mpr ht))

end Record.Writable

/-- An object of entries is read entry by entry. -/
theorem readEntries_map {α : Type} {key : Text} {toJson : α → Json} {pair : α → Json × Json}
    (hentry : ∀ value, readEntry key (toJson value) = .ok (pair value)) (table : Table α) :
    readEntries key (table.map fun e => (e.1, toJson e.2)) =
      .ok (table.map fun e => (e.1, pair e.2)) := by
  induction table with
  | nil => rfl
  | cons e rest ih =>
    rw [List.map_cons, readEntries, hentry, ih]
    rfl

/-- What is read of the object of a record: null in the place of the next id counts as none. -/
theorem ofJson_toJson (r : Record Json) :
    Record.ofJson r.toJson = .ok { r with next := nextOf r.toJson } := by
  have hread : Record.ofJson r.toJson = (do
      let inputs ← readTable r.toJson "inputs" "block"
      let fields ← readTable r.toJson "fields" "value"
      .ok { id := r.id, opcode := r.opcode
            next := nextOf r.toJson
            inputs := inputs.map fun e => (e.1, ⟨e.2.1, e.2.2⟩)
            fields := fields.map fun e => (e.1, ⟨e.2.1, e.2.2⟩)
            topLevel := !!r.topLevel }) := rfl
  have hlink (link : Link Json) : readEntry "block" link.toJson = .ok (link.name, link.block) := rfl
  have hfield (field : Field Json) :
      readEntry "value" field.toJson = .ok (field.name, field.value) := rfl
  have hinputs : readTable r.toJson "inputs" "block" =
      .ok (r.inputs.map fun e => (e.1, e.2.name, e.2.block)) := readEntries_map hlink r.inputs
  have hfields : readTable r.toJson "fields" "value" =
      .ok (r.fields.map fun e => (e.1, e.2.name, e.2.value)) := readEntries_map hfield r.fields
  rw [hread, hinputs, hfields, Bool.not_not]
  simp [bind, Except.bind, List.map_map, Function.comp_def]

theorem nextOf_toJson {r : Record Json} (h : r.next ≠ some .null) : nextOf r.toJson = r.next := by
  have hget : r.toJson.get? "next" = some (r.next.getD .null) := rfl
  rw [nextOf, hget]
  cases hnext : r.next with
  | none => rfl
  | some next =>
    rw [Option.getD_some]
    split
    · rename_i heq
      exact absurd (hnext.trans heq) h
    · rfl

/-- Reading an object of a record and writing it again changes nothing. -/
theorem toJson_ofJson_toJson (r : Record Json) :
    ∃ read, Record.ofJson r.toJson = .ok read ∧ read.toJson = r.toJson := by
  refine ⟨_, ofJson_toJson r, ?_⟩
  by_cases h : r.next = some .null
  · have hget : r.toJson.get? "next" = some .null := by
      show some (r.next.getD .null) = _
      rw [h, Option.getD_some]
    have hnone : nextOf r.toJson = none := by rw [nextOf, hget]
    rw [hnone, Record.toJson, Record.toJson, h]
    rfl
  · rw [nextOf_toJson h]

/-! ## Records of texts -/

theorem ofJson_loose (r : Record Text) : Record.ofJson r.loose.toJson = .ok r.loose := by
  have hnext : r.loose.next ≠ some .null := by
    show r.next.map Json.str ≠ some .null
    cases r.next <;> simp
  rw [ofJson_toJson, nextOf_toJson hnext]

/-- Different records of texts are different as records of JSON values. -/
theorem loose_injective : Function.Injective Record.loose := by
  have hstr : Function.Injective Json.str := fun s t h => Json.str.inj h
  have hlink : Function.Injective fun e : Text × Link Text => (e.1, e.2.map Json.str) := by
    rintro ⟨key, name, block⟩ ⟨key', name', block'⟩ h
    simpa [Link.map, hstr.eq_iff] using h
  have hfield : Function.Injective fun e : Text × Field Text => (e.1, e.2.map Json.str) := by
    rintro ⟨key, name, value⟩ ⟨key', name', value'⟩ h
    simpa [Field.map, hstr.eq_iff] using h
  rintro ⟨id, opcode, inputs, fields, next, topLevel⟩
    ⟨id', opcode', inputs', fields', next', topLevel'⟩ h
  simp only [Record.loose, Record.map, Record.mk.injEq] at h ⊢
  obtain ⟨hid, hopcode, hinputs, hfields, hnext, htop⟩ := h
  exact ⟨hstr hid, hstr hopcode, List.map_injective_iff.mpr hlink hinputs,
    List.map_injective_iff.mpr hfield hfields, Option.map_injective hstr hnext, htop⟩

theorem plain_table {α : Type} {table : Table α} (toJson : α → Json) (hkeys : table.keys.Nodup)
    (hwhole : ∀ e ∈ table, Whole e.1) (hplain : ∀ e ∈ table, Json.Plain (toJson e.2)) :
    Json.Plain (.obj (table.map fun e => (e.1, toJson e.2))) := by
  refine .obj ?_ ?_ ?_
  · rw [Table.keys, List.map_map]
    exact hkeys
  · intro entry hentry
    obtain ⟨e, he, rfl⟩ := List.mem_map.mp hentry
    exact hwhole e he
  · intro entry hentry
    obtain ⟨e, he, rfl⟩ := List.mem_map.mp hentry
    exact hplain e he

theorem plain_pair (second : String) (hne : Text.ofString "name" ≠ Text.ofString second)
    {s t : Text} (hs : Whole s) (ht : Whole t) :
    Json.Plain (.obj [("name", .str s), (Text.ofString second, .str t)]) :=
  .obj (by simpa [Table.keys] using hne) (by simp [whole_ofString])
    (by simp [Json.Plain.str hs, Json.Plain.str ht])

/-- The object of a record that can be written is one that is read back. -/
theorem plain_toJson {r : Record Text} (h : r.Writable) : Json.Plain r.loose.toJson := by
  have hinputs : Json.Plain (.obj (r.loose.inputs.map fun e => (e.1, e.2.toJson))) := by
    show Json.Plain (.obj ((r.inputs.map _).map _))
    rw [List.map_map]
    exact plain_table (fun link => (link.map Json.str).toJson) h.inputs
      (fun e he => (h.input e he).1)
      fun e he => plain_pair "block" (by decide) (h.input e he).2.1 (h.input e he).2.2
  have hfields : Json.Plain (.obj (r.loose.fields.map fun e => (e.1, e.2.toJson))) := by
    show Json.Plain (.obj ((r.fields.map _).map _))
    rw [List.map_map]
    exact plain_table (fun field => (field.map Json.str).toJson) h.fields
      (fun e he => (h.field e he).1)
      fun e he => plain_pair "value" (by decide) (h.field e he).2.1 (h.field e he).2.2
  have hnext : Json.Plain (r.loose.next.getD .null) := by
    show Json.Plain ((r.next.map Json.str).getD .null)
    cases hnext : r.next with
    | none => exact .null
    | some next => exact .str (h.next next hnext)
  refine .obj ?_ ?_ ?_
  · show (["id", "opcode", "inputs", "fields", "next", "topLevel"] : List Text).Nodup
    decide
  · simp [whole_ofString]
  · have hids : Json.Plain r.loose.id ∧ Json.Plain r.loose.opcode := ⟨.str h.id, .str h.opcode⟩
    simp [hids, hinputs, hfields, hnext, Json.Plain.bool]

theorem plain_payload {records : List (Record Text)} (h : ∀ r ∈ records, r.Writable) :
    Json.Plain (payload records) := by
  refine .arr ?_
  intro item hitem
  obtain ⟨r, hr, rfl⟩ := List.mem_map.mp hitem
  exact plain_toJson (h r hr)

/-- There are no numbers in the objects of records of texts, whatever these hold. -/
theorem numberless_payload (records : List (Record Text)) :
    Json.Numberless (payload records) := by
  have hpair (first second s t : Text) :
      Json.Numberless (.obj [(first, .str s), (second, .str t)]) :=
    .obj (by simp [Json.Numberless.str])
  refine .arr fun item hitem => ?_
  obtain ⟨r, _, rfl⟩ := List.mem_map.mp hitem
  have hinputs : Json.Numberless (.obj (r.loose.inputs.map fun e => (e.1, e.2.toJson))) := by
    refine .obj fun entry hentry => ?_
    obtain ⟨_, hlink, rfl⟩ := List.mem_map.mp hentry
    obtain ⟨e, _, rfl⟩ := List.mem_map.mp hlink
    exact hpair _ _ e.2.name e.2.block
  have hfields : Json.Numberless (.obj (r.loose.fields.map fun e => (e.1, e.2.toJson))) := by
    refine .obj fun entry hentry => ?_
    obtain ⟨_, hfield, rfl⟩ := List.mem_map.mp hentry
    obtain ⟨e, _, rfl⟩ := List.mem_map.mp hfield
    exact hpair _ _ e.2.name e.2.value
  have hnext : Json.Numberless (r.loose.next.getD .null) := by
    show Json.Numberless ((r.next.map Json.str).getD .null)
    cases r.next with
    | none => exact .null
    | some next => exact .str next
  have hids : Json.Numberless r.loose.id ∧ Json.Numberless r.loose.opcode := ⟨.str _, .str _⟩
  exact .obj (by simp [hids, hinputs, hfields, hnext, Json.Numberless.bool])

/-- What is read of the items of a JSON value. -/
def recordsIn : Json → List (Except Misfit (Record Json))
  | .arr items => items.map Record.ofJson
  | _ => []

/-- From a value just these records are read, in their order. -/
def Restores (value : Json) (records : List (Record Text)) : Prop :=
  recordsIn value = records.map fun r => .ok r.loose

theorem restores_payload (records : List (Record Text)) :
    Restores (payload records) records := by
  show (records.map fun r => r.loose.toJson).map Record.ofJson = _
  rw [List.map_map]
  exact List.map_congr_left fun r _ => ofJson_loose r

/-! ## Texts and files -/

/-- From whatever has been written of records in a layout, these records are read. -/
structure Restored (room : Room) (layout : Json.Layout) (records : List (Record Text)) :
    Prop where
  text : ∀ text, Json.toText room layout (payload records) = .ok text →
    ∃ value, Json.parse text = .ok value ∧ Restores value records
  file : ∀ (tree after : Files.Tree) (path : Text), tree.Grounded →
    tree.save room path layout (payload records) = (.ok (), after) →
      ∀ default, ∃ value, (after.source path).json default = .ok value ∧ Restores value records

/-- **Records are restored from what was written of them**, from the text and from the file, in
every layout and whatever room there is. There is a text if and only if there is room for it and
for the spaces of one level; then a file is refused only because of its path. In a width that
cannot be counted nothing is written. No two records are written alike, and writing undoes
reading for all objects of records, whatever values are in these. -/
theorem restored_of_written {records : List (Record Text)} (h : ∀ r ∈ records, r.Writable)
    (room : Room) (layout : Json.Layout) :
    Restored room layout records ∧
      ((∃ text, Json.toText room layout (payload records) = .ok text) ↔
        Json.Fits room layout (payload records)) ∧
      (Json.Fits room layout (payload records) →
        ∀ (tree after : Files.Tree) (path : Text) (e : Files.SaveError),
          tree.save room path layout (payload records) = (.error e, after) →
            ∃ error, e = .path error) ∧
      (¬ layout.Counted → Json.toText room layout (payload records) = .error .noIndex ∧
        ∀ (tree : Files.Tree) (path : Text),
          (tree.save room path layout (payload records)).1 ≠ .ok ()) ∧
      Function.Injective Record.loose ∧
      ∀ r : Record Json, ∃ read, Record.ofJson r.toJson = .ok read ∧ read.toJson = r.toJson := by
  have hplain := plain_payload h
  -- A list of records is no string, so its text is that of a document.
  have htext : Json.toText room layout (payload records) =
      Json.document room layout (payload records) := rfl
  simp only [htext]
  refine ⟨⟨fun text hwritten => ?_, fun tree after path hg hsave default => ?_⟩, ?_, ?_, ?_,
    loose_injective, toJson_ofJson_toJson⟩
  · obtain ⟨_, rfl⟩ := Json.document_eq_ok_iff.mp hwritten
    exact ⟨payload records, Json.parse_render layout hplain, restores_payload records⟩
  · exact ⟨payload records, Files.json_of_save hg hplain hsave default, restores_payload records⟩
  · simp only [Json.document_eq_ok_iff, exists_and_left, exists_eq, and_true]
  · intro hfits tree after path e hsave
    exact Files.save_error hfits hsave
  · intro hlayout
    exact ⟨Json.document_of_not_counted hlayout, fun tree path => Files.save_of_not_counted hlayout⟩

/-- A record with texts that JSON has to escape, two of them as names. -/
def escaped : Record Text :=
  { id := "a\"\\"
    opcode := "\n\t "
    inputs := [("é", ⟨"é", "😀"⟩), ("A", ⟨"A", ""⟩)]
    fields := [("", ⟨"", "/"⟩)]
    next := some "\u2028"
    topLevel := true }

/-- Room for that record on one line, and with each item on a line of its own. -/
def page : Room := ⟨400, by decide⟩

theorem restored_of_escaped :
    (∀ r ∈ [escaped], r.Writable) ∧
      (∃ text, Json.toText page (.indented 2) (payload [escaped]) = .ok text ∧
        ∃ value, Json.parse text = .ok value ∧ recordsIn value = [.ok escaped.loose]) ∧
      ∃ after, Files.Tree.save page {} "out/a.json" .oneLine (payload [escaped]) =
          (.ok (), after) ∧
        ∃ value, (after.source "out/a.json").json .null = .ok value ∧
          recordsIn value = [.ok escaped.loose] := by
  have hwritable : ∀ r ∈ [escaped], r.Writable := by
    intro r hr
    obtain rfl : r = escaped := List.mem_singleton.mp hr
    exact ⟨by unfold Whole; decide +kernel, by decide +kernel, by decide +kernel⟩
  have hsaved : (Files.Tree.save page {} "out/a.json" .oneLine (payload [escaped])).1 = .ok () := by
    decide +kernel
  have hfits : Json.Fits page (.indented 2) (payload [escaped]) := by
    refine ⟨?_, by decide +kernel⟩
    rintro width ⟨⟩
    decide
  obtain ⟨hwide, hiff, _⟩ := restored_of_written hwritable page (.indented 2)
  obtain ⟨hline, _⟩ := restored_of_written hwritable page .oneLine
  obtain ⟨text, htext⟩ := hiff.mpr hfits
  refine ⟨hwritable, ⟨text, htext, hwide.text text htext⟩, _, Prod.ext hsaved rfl, ?_⟩
  exact hline.file {} _ "out/a.json" Files.Tree.grounded_empty (Prod.ext hsaved rfl) .null

/-- No text is written with an indentation of more spaces than can be counted. -/
theorem no_text_of_wide :
    Json.toText page (.indented 100000000000000000000) (payload []) = .error .noIndex ∧
      ¬ ∃ room : Room, ∀ (records : List (Record Text)) (layout : Json.Layout),
        (∀ r ∈ records, r.Writable) →
          ∃ text, Json.toText room layout (payload records) = .ok text := by
  have hfault (room : Room) :
      Json.toText room (.indented 100000000000000000000) (payload []) = .error .noIndex := rfl
  refine ⟨hfault page, ?_⟩
  rintro ⟨room, h⟩
  obtain ⟨text, htext⟩ := h [] (.indented 100000000000000000000) (by simp)
  rw [hfault] at htext
  cases htext

end FlatBlocks.Block
