import FlatBlocks.Block.Outline.Loose
import FlatBlocks.Block.Payload
import FlatBlocks.Proofs.Block.Walk
import FlatBlocks.Proofs.Table

/-! # Outlines under other labels

An outline depends on ids only by which of them are one, and on what is shown by its text.
Labels may be replaced by others if different ids stay different, the same ones are blank and
all are shown alike. So records of texts have the same outline as records of JSON values. -/

namespace FlatBlocks.Block.Outline
open FlatBlocks.Text

variable {α β : Type}

/-- A table under other keys, of records with other labels. -/
def relabelled (f : α → β) (rekey : Text → Text) (records : Table (Record α)) :
    Table (Record β) := records.map fun e => (rekey e.1, e.2.map f)

def Line.map (f : α → β) : Line α → Line β
  | heading level id record => .heading level (f id) (record.map f)
  | input level name => .input level name
  | missing level id => .missing level (f id)
  | cycle level id => .cycle level (f id)

def Task.map (f : α → β) : Task α → Task β
  | stack level start => .stack level (start.map f)
  | .next level id => .next level (id.map f)
  | inputs level links => .inputs level (links.map fun e => (e.1, e.2.map f))
  | paragraphs starts => .paragraphs (starts.map f)

/-! ## Tables -/

section
variable (f : α → β) {rekey : Text → Text} (h : Function.Injective rekey)
include h

theorem get?_relabelled (records : Table (Record α)) (key : Text) :
    (relabelled f rekey records).get? (rekey key) = (records.get? key).map (Record.map f) := by
  induction records with
  | nil => rfl
  | cons e rest ih =>
    unfold relabelled at ih ⊢
    rw [List.map_cons, Table.get?_cons, Table.get?_cons, ih]
    by_cases he : e.1 = key
    · rw [if_pos (congrArg rekey he), if_pos he]
      rfl
    · rw [if_neg (fun heq => he (h heq)), if_neg he]

theorem relabelled_put (records : Table (Record α)) (key : Text) (record : Record α) :
    relabelled f rekey (records.put key record) =
      (relabelled f rekey records).put (rekey key) (record.map f) := by
  induction records with
  | nil => rfl
  | cons e rest ih =>
    unfold relabelled at ih ⊢
    by_cases he : e.1 = key
    · simp [Table.put, he]
    · have hne : rekey e.1 ≠ rekey key := fun heq => he (h heq)
      simp [Table.put, he, hne, ih]

theorem relabelled_ofList (entries : List (Text × Record α)) :
    relabelled f rekey (Table.ofList entries) =
      Table.ofList (entries.map fun e => (rekey e.1, e.2.map f)) := by
  have hfold : ∀ records : Table (Record α),
      relabelled f rekey (entries.foldl (fun t e => t.put e.1 e.2) records) =
        (entries.map fun e => (rekey e.1, e.2.map f)).foldl (fun t e => t.put e.1 e.2)
          (relabelled f rekey records) := by
    induction entries with
    | nil => exact fun _ => rfl
    | cons e rest ih =>
      intro records
      rw [List.foldl_cons, ih, relabelled_put f h, List.map_cons, List.foldl_cons]
  exact hfold []

end

/-! ## Walks -/

variable [Label α] [Label β]

/-- Other labels under which nothing changes but the keys, which stay apart. -/
structure Relabels (f : α → β) (rekey : Text → Text) : Prop where
  injective : Function.Injective rekey
  key : ∀ a, Label.key (f a) = rekey (Label.key a)
  shown : ∀ a, Label.shown (f a) = Label.shown a
  isBlank : ∀ a, Label.isBlank (f a) = Label.isBlank a

section
variable {f : α → β} {rekey : Text → Text} (h : Relabels f rekey)
include h

theorem mem_map_key (id : α) (visited : List Text) :
    Label.key (f id) ∈ visited.map rekey ↔ Label.key id ∈ visited := by
  rw [h.key, List.mem_map_of_injective h.injective]

theorem map_repeated (level : Int) (id : α) :
    (repeated level id).map (Line.map f) = repeated level (f id) := by
  unfold repeated
  rw [h.isBlank]
  cases Label.isBlank id <;> rfl

/-- What is walked through is walked through in the same way under other labels. -/
theorem Walk.map {records : Table (Record α)} {task : Task α} {visited after : List Text}
    {lines : List (Line α)} (walk : Walk records task visited lines after) :
    Walk (relabelled f rekey records) (task.map f) (visited.map rekey)
      (lines.map (Line.map f)) (after.map rekey) := by
  have hget : ∀ id, (relabelled f rekey records).get? (Label.key (f id)) =
      (records.get? (Label.key id)).map (Record.map f) := by
    intro id
    rw [h.key, get?_relabelled f h.injective]
  induction walk with
  | nothing => exact .nothing
  | blank hid => exact .blank (by rwa [h.isBlank])
  | missing hid hr => exact .missing (by rwa [h.isBlank]) (by rw [hget, hr]; rfl)
  | again hid hr hv _ ih =>
    have hfound := (hget _).trans (congrArg (Option.map (Record.map f)) hr)
    exact .again (by rwa [h.isBlank]) hfound ((mem_map_key h _ _).mpr hv) ih
  | @enter _ id record visited between _ inner more hid hr hv _ _ ihinputs ihrest =>
    have hfound := (hget id).trans (congrArg (Option.map (Record.map f)) hr)
    have hnew : Label.key (f id) ∉ visited.map rekey :=
      fun hin => hv ((mem_map_key h id visited).mp hin)
    rw [List.map_cons, ← h.key] at ihinputs
    rw [List.map_cons, List.map_append]
    exact .enter (by rwa [h.isBlank]) hfound hnew ihinputs ihrest
  | last => exact .last
  | repeated hv =>
    rw [map_repeated h]
    exact .repeated ((mem_map_key h _ _).mpr hv)
  | chain hv _ ih => exact .chain (fun hin => hv ((mem_map_key h _ _).mp hin)) ih
  | noInputs => exact .noInputs
  | input _ _ ihfirst ihothers =>
    rw [List.map_cons, List.map_append]
    exact .input ihfirst ihothers
  | noParagraphs => exact .noParagraphs
  | paragraph _ _ ihfirst ihothers =>
    rw [List.map_append]
    exact .paragraph ihfirst ihothers

/-- A stack has the same lines under other labels. -/
theorem stack_relabelled (records : Table (Record α)) (visited : List Text) (start : α) :
    (stack (relabelled f rekey records) 0 (visited.map rekey) (some (f start))).lines =
        (stack records 0 visited (some start)).lines.map (Line.map f) ∧
      (stack (relabelled f rekey records) 0 (visited.map rekey) (some (f start))).after =
        (stack records 0 visited (some start)).after.map rekey :=
  (walk_stack _ 0 _ _).det (Walk.map h (walk_stack records 0 visited (some start)))

theorem paragraphs_relabelled (records : Table (Record α)) (visited : List Text)
    (starts : List α) :
    paragraphs (relabelled f rekey records) (visited.map rekey) (starts.map f) =
      (paragraphs records visited starts).map (·.map (Line.map f)) := by
  induction starts generalizing visited with
  | nil => rfl
  | cons start rest ih =>
    obtain ⟨hlines, hafter⟩ := stack_relabelled h records visited start
    rw [List.map_cons, paragraphs, paragraphs, List.map_cons, hlines, hafter, ih]

/-! ## Outlines -/

theorem formatField_map (field : Field α) : formatField (field.map f) = formatField field := by
  simp only [formatField, Field.map, h.shown]

theorem title_map (record : Record α) : title (record.map f) = title record := by
  have hfields : formatFields (record.map f) = formatFields record := by
    have hvalues : (record.map f).fields.values = record.fields.values.map (Field.map f) := by
      simp [Record.map, Table.values]
    rw [formatFields, formatFields, hvalues, List.map_map]
    exact congrArg _ (List.map_congr_left fun field _ => formatField_map h field)
  rw [title, title, hfields]
  simp only [Record.map, h.shown]

theorem text_map (line : Line α) : (line.map f).text = line.text := by
  cases line with
  | heading level id record => simp only [Line.map, Line.text, title_map h]
  | input level name => rfl
  | missing level id => simp only [Line.map, Line.text, h.shown]
  | cycle level id => simp only [Line.map, Line.text, h.shown]

theorem tableOf_map (records : List (Record α)) :
    tableOf (records.map (Record.map f)) = relabelled f rekey (tableOf records) := by
  rw [tableOf, tableOf, relabelled_ofList f h.injective, List.map_map, List.map_map]
  refine congrArg Table.ofList (List.map_congr_left fun r _ => ?_)
  exact Prod.ext (h.key r.id) rfl

theorem firstId?_map (records : List (Record α)) (key : Text) :
    firstId? (records.map (Record.map f)) (rekey key) = (firstId? records key).map f := by
  have hsame : ∀ r : Record α,
      (Label.key (r.map f).id == rekey key) = (Label.key r.id == key) := by
    intro r
    rw [Bool.eq_iff_iff, beq_iff_eq, beq_iff_eq]
    show Label.key (f r.id) = _ ↔ _
    rw [h.key, h.injective.eq_iff]
  rw [firstId?, firstId?, List.find?_map, Option.map_map, Option.map_map]
  simp only [Function.comp_def, hsame]
  rfl

theorem starts_map (records : List (Record α)) :
    starts (records.map (Record.map f)) = (starts records).map f := by
  rw [starts, starts, tableOf_map h, relabelled, List.filter_map, Table.keys, Table.keys,
    List.map_map, List.filterMap_map, List.map_filterMap, List.filterMap_map]
  exact List.filterMap_congr fun e _ => firstId?_map h records e.1

/-- Records have the same outline under other labels. -/
theorem render_map (records : List (Record α)) :
    render (records.map (Record.map f)) = render records := by
  have hparagraphs : ofRecords (records.map (Record.map f)) =
      (ofRecords records).map (·.map (Line.map f)) := by
    rw [ofRecords, ofRecords, tableOf_map h, starts_map h]
    exact paragraphs_relabelled h (tableOf records) [] (starts records)
  rw [render, render, hparagraphs, joined, joined, List.map_map]
  refine congrArg _ (List.map_congr_left fun lines _ => ?_)
  rw [Function.comp_apply, List.flatMap_map]
  exact List.flatMap_congr fun line _ => text_map h line

end

/-! ## Texts as JSON values -/

theorem relabels_str : Relabels Json.str ('"' :: ·) where
  injective := fun _ _ h => (List.cons.inj h).2
  key _ := rfl
  shown _ := rfl
  isBlank s := Bool.and_true s.isEmpty

theorem clearLinks_loose (r : Record Text) : clearLinks r.loose = r.loose := by
  have hclear : ∀ s : Text, clear (.str s) = .str s := by
    intro s
    have hplain : isCollection (.str s) = false := rfl
    rw [clear, hplain, Bool.and_false]
    rfl
  simp [clearLinks, Record.loose, Record.map, Link.map, hclear]

/-- The outline of records of texts, and that of the same records as JSON values. -/
theorem render_loose (records : List (Record Text)) :
    render ((records.map Record.loose).map clearLinks) = render records := by
  have hsame : (records.map Record.loose).map clearLinks = records.map (Record.map Json.str) := by
    rw [List.map_map]
    exact List.map_congr_left fun r _ => clearLinks_loose r
  rw [hsame]
  exact render_map relabels_str records

end FlatBlocks.Block.Outline
