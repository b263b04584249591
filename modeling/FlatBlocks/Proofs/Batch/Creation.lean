import FlatBlocks.Proofs.Batch.Skipping
import FlatBlocks.Proofs.Block.Writable

/-! # Batches of creations

A batch of events that all create something converts to what the markup of each event
converts to alone, or fails as the first of them does. Of markup that is accepted only a
malformed block can make a conversion fail, and its records can be written. -/

namespace FlatBlocks
open Block (Record Fault Malformed)
open Markup (Node)
open FlatBlocks.Text

/-! ## The markup of one block -/

/-- The records that a markup text is converted to, or why it is not. -/
def recordsOf (skip : Bool) (markup : Text) : Except Failure (List (Record Text)) :=
  (convertMarkup markup skip {}).1

section
variable {markup : Text} {nodes : List Node} (hparse : Markup.parse markup = .ok nodes)
  {skip : Bool}
include hparse

/-- What was reported before has no part in the records. -/
theorem records_of_convertMarkup (ctx : Context) :
    (convertMarkup markup skip ctx).1 = recordsOf skip markup := by
  have hnodes := Markup.texted_of_parse hparse
  cases skip <;> simp [recordsOf, convertMarkup, hparse, Block.flattenEach_eq hnodes]

theorem malformed_of_recordsOf {failure : Failure} (h : recordsOf skip markup = .error failure) :
    ∃ cause, failure = .fault (.malformed cause) := by
  have hnodes := Markup.texted_of_parse hparse
  cases skip with
  | true => simp [recordsOf, convertMarkup, hparse, Block.flattenEach_eq hnodes] at h
  | false =>
    have hflatten : (Block.flatten nodes).mapError Failure.fault = .error failure := by
      simpa [recordsOf, convertMarkup, hparse] using h
    rw [Block.flatten_eq_verdict,
      Block.Check.verdict_of_texted (Block.texted_of_rootChecks hnodes)] at hflatten
    split at hflatten
    · cases hflatten
    · rename_i cause _
      cases hflatten
      exact ⟨cause, rfl⟩

theorem writable_of_recordsOf (hmarkup : Whole markup) {records : List (Record Text)}
    (h : recordsOf skip markup = .ok records) : ∀ r ∈ records, r.Writable := by
  have hnodes := Markup.texted_of_parse hparse
  have hwhole := Markup.whole_of_parse hmarkup hparse
  cases skip with
  | true =>
    simp only [recordsOf, convertMarkup, hparse, Block.flattenEach_eq hnodes, if_true] at h
    cases h
    exact Block.writable_of_keptRoots hwhole
  | false =>
    cases hflatten : Block.flatten nodes with
    | error fault => simp [recordsOf, convertMarkup, hparse, hflatten, Except.mapError] at h
    | ok all =>
      obtain rfl : all = records := by
        simpa [recordsOf, convertMarkup, hparse, hflatten, Except.mapError] using h
      exact Block.writable_of_flatten hwhole hflatten

end

/-! ## Creations -/

/-- A block and the markup from which it is created. -/
structure Creation where
  block : Text
  markup : Text
  deriving DecidableEq, Repr

namespace Creation

/-- The object of the event. -/
def toJson (c : Creation) : Json :=
  .obj [("blockId", .str c.block), ("xml", .obj [("outerHTML", .str c.markup)])]

theorem plain_toJson {c : Creation} (hblock : Whole c.block) (hmarkup : Whole c.markup) :
    Json.Plain c.toJson := by
  have hxml : Json.Plain (.obj [("outerHTML", .str c.markup)]) :=
    .obj (by simp [Table.keys]) (by simp [whole_ofString]) (by simp [Json.Plain.str hmarkup])
  refine .obj ?_ ?_ ?_
  · show (["blockId", "xml"] : List Text).Nodup
    decide
  · simp [whole_ofString]
  · simp [Json.Plain.str hblock, hxml]

theorem ofJson_toJson (c : Creation) : Event.ofJson c.toJson = creating c.block c.markup := rfl

/-- What the creation is converted to. -/
def converted (skip : Bool) (c : Creation) : Except Failure Conversion :=
  (recordsOf skip c.markup).map fun records => ⟨c.block, records⟩

variable {skip : Bool}

theorem converted_eq_ok_iff {c : Creation} {conversion : Conversion} :
    c.converted skip = .ok conversion ↔
      recordsOf skip c.markup = .ok conversion.records ∧ c.block = conversion.block := by
  obtain ⟨block, records⟩ := conversion
  unfold converted
  cases recordsOf skip c.markup with
  | error failure => simp [Except.map]
  | ok all => simp [Except.map, and_comm]

theorem converted_eq_error_iff {c : Creation} {failure : Failure} :
    c.converted skip = .error failure ↔ recordsOf skip c.markup = .error failure := by
  unfold converted
  cases recordsOf skip c.markup <;> simp [Except.map]

/-- From any position on and whatever is done, events that create are converted one by one. -/
theorem convertFrom_creations {batch : List Creation}
    (h : ∀ c ∈ batch, ∃ nodes, Markup.parse c.markup = .ok nodes) (index : Nat)
    (done : List Conversion) (ctx : Context) :
    (convertFrom index skip done ctx (batch.map fun c => creating c.block c.markup)).1 =
      (batch.mapM (converted skip)).map (done.reverse ++ ·) := by
  induction batch generalizing index done ctx with
  | nil => simp [convertFrom, pure, Except.pure, Except.map]
  | cons c rest ih =>
    obtain ⟨⟨nodes, hparse⟩, hrest⟩ := List.forall_mem_cons.mp h
    have hcreate : (creating c.block c.markup).isCreate = true := rfl
    have hmarkup : (creating c.block c.markup).markup = c.markup := rfl
    have hblock : (creating c.block c.markup).block?.getD "" = c.block := rfl
    have hrecords : (convertMarkup c.markup skip (ctx.setEvent (some index))).1 =
        recordsOf skip c.markup := records_of_convertMarkup hparse _
    rw [List.map_cons, convertFrom, List.mapM_cons, hcreate, if_pos rfl, hmarkup, hblock, converted,
      ← hrecords]
    cases convertMarkup c.markup skip (ctx.setEvent (some index)) with
    | mk result after =>
      cases result with
      | error failure => rfl
      | ok records =>
        simp only [ih hrest, List.reverse_cons, List.append_assoc]
        simp only [Except.map, bind, Except.bind]
        cases rest.mapM (converted skip) <;> simp [pure, Except.pure]

theorem convertEvents_creations {batch : List Creation}
    (h : ∀ c ∈ batch, ∃ nodes, Markup.parse c.markup = .ok nodes) (ctx : Context) :
    (convertEvents (batch.map fun c => creating c.block c.markup) skip ctx).1 =
      batch.mapM (converted skip) := by
  rw [convertEvents, convertFrom_creations h]
  cases batch.mapM (converted skip) <;> rfl

end Creation

end FlatBlocks
