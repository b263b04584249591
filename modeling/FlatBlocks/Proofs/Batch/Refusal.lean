import FlatBlocks.Proofs.Batch.Creation
import FlatBlocks.Proofs.FieldText
import FlatBlocks.Proofs.Markup.Refusal

/-! # Conversions that fail

A batch fails as the first of its events that fails. If malformed blocks are left out, markup
that is refused is all that can fail, and what it is refused for stands in the markup. -/

namespace FlatBlocks
open Block (Record)

/-! ## Markup -/

section
variable {markup : Text} {skip : Bool}

/-- Whatever the markup, what was reported before has no part in the records. -/
theorem fst_convertMarkup (markup : Text) (skip : Bool) (ctx : Context) :
    (convertMarkup markup skip ctx).1 = recordsOf skip markup := by
  cases hparse : Markup.parse markup with
  | ok nodes => exact records_of_convertMarkup hparse ctx
  | error cause => simp [recordsOf, convertMarkup, hparse]

theorem recordsOf_of_rejected {cause : Markup.Rejection} (h : Markup.parse markup = .error cause)
    (skip : Bool) : recordsOf skip markup = .error (.rejected cause) := by
  simp [recordsOf, convertMarkup, h]

/-- Markup fails for being refused, or for a malformed block that is not left out. -/
theorem failure_of_recordsOf {failure : Failure} (h : recordsOf skip markup = .error failure) :
    (∃ cause, Markup.parse markup = .error cause ∧ failure = .rejected cause) ∨
      skip = false ∧ ∃ cause, failure = .fault (.malformed cause) := by
  cases hparse : Markup.parse markup with
  | error cause =>
    rw [recordsOf_of_rejected hparse] at h
    exact .inl ⟨cause, rfl, (Except.error.inj h).symm⟩
  | ok nodes =>
    refine .inr ⟨?_, malformed_of_recordsOf hparse h⟩
    cases skip with
    | false => rfl
    | true =>
      simp [recordsOf, convertMarkup, hparse,
        Block.flattenEach_eq (Markup.texted_of_parse hparse)] at h

/-- If malformed blocks are left out, markup only fails for being refused. -/
theorem recordsOf_true_eq_error_iff {failure : Failure} : recordsOf true markup = .error failure ↔
    ∃ cause, Markup.parse markup = .error cause ∧ failure = .rejected cause := by
  constructor
  · intro h
    refine (failure_of_recordsOf h).resolve_right ?_
    rintro ⟨hskip, -⟩
    cases hskip
  · rintro ⟨cause, hparse, rfl⟩
    exact recordsOf_of_rejected hparse true

end

/-! ## Batches -/

namespace Event

/-- What converting an event fails with. -/
def failure? (skip : Bool) (event : Event) : Option Failure :=
  if event.isCreate then
    match recordsOf skip event.markup with
    | .error failure => some failure
    | .ok _ => none
  else none

/-- What the markup of an event is refused for. -/
def rejection? (event : Event) : Option Markup.Rejection :=
  if event.isCreate then
    match Markup.parse event.markup with
    | .error cause => some cause
    | .ok _ => none
  else none

theorem recordsOf_of_failure? {skip : Bool} {event : Event} {failure : Failure}
    (h : event.failure? skip = some failure) :
    recordsOf skip event.markup = .error failure := by
  unfold failure? at h
  split at h
  · split at h
    · rename_i hrecords
      cases h
      exact hrecords
    · cases h
  · cases h

theorem failure?_true (event : Event) :
    event.failure? true = event.rejection?.map Failure.rejected := by
  unfold failure? rejection?
  split
  · cases hparse : Markup.parse event.markup with
    | error cause => rw [recordsOf_of_rejected hparse]; rfl
    | ok nodes =>
      cases hrecords : recordsOf true event.markup with
      | ok records => rfl
      | error failure =>
        obtain ⟨cause, hrefused, _⟩ := recordsOf_true_eq_error_iff.mp hrecords
        rw [hparse] at hrefused
        cases hrefused
  · rfl

end Event

/-- From any position on and whatever is done, events fail as the first of them that fails. -/
theorem convertFrom_error_iff {skip : Bool} {events : List Event} {failure : Failure}
    (index : Nat) (done : List Conversion) (ctx : Context) :
    (convertFrom index skip done ctx events).1 = .error failure ↔
      events.findSome? (Event.failure? skip) = some failure := by
  induction events generalizing index done ctx with
  | nil => simp [convertFrom]
  | cons event rest ih =>
    rw [convertFrom, List.findSome?_cons]
    cases hcreate : event.isCreate with
    | false =>
      rw [if_neg Bool.false_ne_true, ih, Event.failure?, hcreate]
      rfl
    | true =>
      have hrecords := fst_convertMarkup event.markup skip (ctx.setEvent (some index))
      rw [if_pos rfl, Event.failure?, hcreate, if_pos rfl, ← hrecords]
      cases convertMarkup event.markup skip (ctx.setEvent (some index)) with
      | mk result after =>
        cases result with
        | error failure' => simp
        | ok records => exact ih _ _ _

theorem convertEvents_error_iff {skip : Bool} {events : List Event} {failure : Failure}
    (ctx : Context) : (convertEvents events skip ctx).1 = .error failure ↔
      events.findSome? (Event.failure? skip) = some failure := convertFrom_error_iff 0 [] ctx

/-- Markup is read to a tree, unless something in it is refused; and it is refused where the
scanner comes to a misnamed section. If malformed blocks are left out, nothing else makes a
conversion fail, be it of one text or of a batch of events. -/
theorem fails_iff_refused (markup : Text) (events : List Event) (ctx : Context) :
    ((∃ nodes, Markup.parse markup = .ok nodes) ∨
      ∃ cause, Markup.parse markup = .error cause ∧ Markup.Refuses markup cause) ∧
    (∀ before tokens rest cause, markup = before ++ .char '<' :: .char '!' :: .char '[' :: rest →
      Markup.Token.Scanned markup tokens (.char '<' :: .char '!' :: .char '[' :: rest) →
      Markup.Token.Misnamed rest cause → Markup.parse markup = .error cause) ∧
    (∀ failure, (convertMarkup markup true ctx).1 = .error failure ↔
      ∃ cause, Markup.parse markup = .error cause ∧ failure = .rejected cause) ∧
    (∀ failure, (convertEvents events true ctx).1 = .error failure ↔
      ∃ cause, events.findSome? Event.rejection? = some cause ∧ failure = .rejected cause) := by
  refine ⟨?_, ?_, fun failure => ?_, fun failure => ?_⟩
  · cases hparse : Markup.parse markup with
    | ok nodes => exact .inl ⟨nodes, rfl⟩
    | error cause => exact .inr ⟨cause, rfl, Markup.refuses_of_parse hparse⟩
  · rintro before tokens rest cause rfl hscanned hmisnamed
    exact Markup.parse_of_misnamed hscanned hmisnamed
  · rw [fst_convertMarkup, recordsOf_true_eq_error_iff]
  · have hfirst : events.findSome? (Event.failure? true) =
        (events.findSome? Event.rejection?).map Failure.rejected := by
      rw [List.map_findSome?, funext Event.failure?_true]
      rfl
    rw [convertEvents_error_iff, hfirst, Option.map_eq_some_iff]
    simp only [eq_comm]

/-- A block, and a section of no kind that there is. -/
def beforeSection : Text := "<block id=\"a\" type=\"x\"></block><![x]>"

/-- The scanner comes to the section behind the block. -/
theorem fails_iff_refused_beforeSection :
    Markup.Token.Misnamed "x]>" (.unknownSection "x") ∧
      Markup.parse beforeSection = .error (.unknownSection "x") := by
  have hmisnamed : Markup.Token.Misnamed "x]>" (.unknownSection "x") :=
    .unknown (by decide) (by decide) (by decide) (by decide) (by decide)
  have hblock := composed_block "a" "x"
  have hcut : beforeSection =
      (Markup.Item.element "block" (blockAttributes "a" "x") []).print false ++ "<![x]>" := by
    rw [Markup.Item.print_element hblock.plain, sortAttributes_block]
    decide +kernel
  have hempty : ∀ rest, Markup.Token.Scanned (Markup.Item.printForest false [] ++ .char '<' :: rest)
      [] (.char '<' :: rest) := by
    intro rest
    rw [Markup.Item.printForest]
    exact .refl _
  have hscanned : Markup.Token.Scanned beforeSection
      [.start "block" (Markup.Item.sortAttributes (blockAttributes "a" "x")), .close "block"]
      "<![x]>" := by
    rw [hcut]
    exact Markup.scanned_element hblock.plain hblock.writable hempty "<![x]>"
  exact ⟨hmisnamed,
    (fails_iff_refused beforeSection [] {}).2.1 _ _ _ _ hcut hscanned hmisnamed⟩

/-- The section makes the whole text be refused, and the block is lost. -/
theorem refused_beforeSection :
    (¬ ∃ nodes, Markup.parse beforeSection = .ok nodes) ∧
      (convertMarkup beforeSection true {}).1 = .error (.rejected (.unknownSection "x")) ∧
      (convertEvents [creating "a" beforeSection] true {}).1 =
        .error (.rejected (.unknownSection "x")) := by
  refine ⟨?_, by decide +kernel, by decide +kernel⟩
  rintro ⟨nodes, hparse⟩
  have hrefused : (Markup.parse beforeSection).isOk = false := by decide +kernel
  rw [hparse] at hrefused
  cases hrefused

end FlatBlocks
