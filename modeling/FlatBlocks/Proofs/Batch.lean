import FlatBlocks.Convert
import FlatBlocks.Proofs.Block.Dropping

/-! # Converting a batch event by event

Each event of a batch is converted on its own: what it brings and what is reported of it
depend on the event, its position and the source alone. A batch strings these together
and stops at the first event that fails. -/

namespace FlatBlocks
open Block (Record)
open Markup (Node)

/-! ## A single event -/

namespace Event

/-- A context without diagnostics, at an event of a source. -/
def place (source : Text) (index : Nat) : Context := { source, event := some (index : Int) }

/-- Flatten each root of the markup of an event. The reports bear its position. -/
def flattenEach (event : Event) (source : Text) (index : Nat) :
    Except Failure (List (Record Text)) × List Diagnostic :=
  match Markup.parse event.markup with
  | .error cause => (.error (.rejected cause), [])
  | .ok nodes =>
    match Block.flattenEach nodes (place source index) with
    | (.error refusal, ctx) => (.error (.fault (.notText refusal)), ctx.diagnostics)
    | (.ok records, ctx) => (.ok records, ctx.diagnostics)

/-- The records of an event, and the faults in it that are reported: those of the adapted
event, or with `skip` those of each of its roots. -/
def outcome (skip : Bool) (source : Text) (index : Nat) (event : Event) :
    Except Failure (Option (List (Record Text))) × List Diagnostic :=
  match event.adapt, skip with
  | .ok none, _ => (.ok none, [])
  | _, true =>
    let (records, errors) := event.flattenEach source index
    (records.map some, errors)
  | adapted, false => (adapted, [])

/-- The entry of an event in the results, if it has one. -/
def converted? (skip : Bool) (source : Text) (index : Nat) (event : Event) : Option Json :=
  match event.outcome skip source index with
  | (.ok (some records), _) =>
    some (.obj [("blockId", (event.block?.map .str).getD .null),
      ("blocks", .arr (records.map fun r => r.loose.toJson))])
  | _ => none

/-- The diagnostics of an event: that it was skipped, or the reported faults and then
whether no record came out. -/
def reports (skip : Bool) (source : Text) (index : Nat) (event : Event) : List Diagnostic :=
  match event.outcome skip source index with
  | (.ok none, _) => [⟨.info, skippedMessage, source, none, some (index : Int)⟩]
  | (.ok (some records), errors) => errors ++
    if records.isEmpty then [⟨.warning, noBlocksMessage, source, none, some (index : Int)⟩] else []
  | (.error _, errors) => errors

variable {event : Event} {skip : Bool} {source : Text} {index : Nat}

theorem outcome_of_other (h : event.isCreate = false) :
    event.outcome skip source index = (.ok none, []) := by
  simp [outcome, adapt, h]

theorem outcome_strict : event.outcome false source index = (event.adapt, []) := by
  unfold outcome
  split <;> simp_all

theorem adapt_eq_flatten {nodes : List Node} (h : event.isCreate = true)
    (hparse : Markup.parse event.markup = .ok nodes) :
    event.adapt = ((Block.flatten nodes).mapError .fault).map some := by
  simp [adapt, h, flattenMarkup, hparse]

/-- Flattening each root of an event whose markup is read gives records, and no other
diagnostics than the reports of the dropped roots. -/
theorem outcome_each {nodes : List Node} (h : event.isCreate = true)
    (hparse : Markup.parse event.markup = .ok nodes) (index : Nat) (ctx : Context) :
    ∃ records, event.outcome true ctx.source index =
        (.ok (some records), Block.reports (place ctx.source index) nodes) ∧
      Block.flattenEach nodes (ctx.setEvent (some (index : Int))) = (.ok records,
        { ctx with
          event := some (index : Int)
          diagnostics := ctx.diagnostics ++ Block.reports (place ctx.source index) nodes }) := by
  have htexted := Markup.texted_of_parse hparse
  refine ⟨_, ?_, Block.flattenEach_eq htexted _⟩
  have heach : event.flattenEach ctx.source index =
      (.ok (Table.ofList ((Block.visits (Block.keptRoots nodes)).map Block.Visit.entry)).values,
        Block.reports (place ctx.source index) nodes) := by
    unfold flattenEach
    rw [hparse]
    simp only [Block.flattenEach_eq htexted]
    rfl
  unfold outcome
  rw [adapt_eq_flatten h hparse, heach]
  cases Block.flatten nodes <;> rfl

/-- Converting the markup of a create event gives the outcome of the event, unless the event
cannot be adapted and malformed roots are not skipped. -/
theorem convertMarkup_of_create {nodes : List Node} (h : event.isCreate = true)
    (hparse : Markup.parse event.markup = .ok nodes) (skip : Bool) (index : Nat) (ctx : Context) :
    (∃ records errors, event.outcome skip ctx.source index = (.ok (some records), errors) ∧
      convertMarkup event.markup skip (ctx.setEvent (some (index : Int))) = (.ok records,
        { ctx with event := some (index : Int), diagnostics := ctx.diagnostics ++ errors })) ∨
    (∃ failure, skip = false ∧ event.adapt = .error failure ∧
      convertMarkup event.markup skip (ctx.setEvent (some (index : Int))) =
        (.error failure, ctx.setEvent (some (index : Int)))) := by
  cases skip with
  | true =>
    obtain ⟨records, hout, heach⟩ := outcome_each h hparse index ctx
    refine Or.inl ⟨records, _, hout, ?_⟩
    simp only [convertMarkup, hparse, if_true, heach]
  | false =>
    have hadapt := adapt_eq_flatten h hparse
    cases hflatten : Block.flatten nodes with
    | ok records =>
      rw [hflatten] at hadapt
      refine Or.inl ⟨records, [], ?_, ?_⟩
      · rw [outcome_strict, hadapt]; rfl
      · simp [convertMarkup, hparse, hflatten, Except.mapError, Context.setEvent]
    | error fault =>
      rw [hflatten] at hadapt
      refine Or.inr ⟨.fault fault, rfl, hadapt, ?_⟩
      simp [convertMarkup, hparse, hflatten, Except.mapError]

end Event

/-! ## One event after the other -/

open Event

/-- The reports of the events from a position on. -/
def reportsFrom (skip : Bool) (source : Text) (index : Nat) (events : List Event) :
    List Diagnostic :=
  (events.zipIdx index).flatMap fun e => e.1.reports skip source e.2

/-- The entries of the events from a position on. -/
def entriesFrom (skip : Bool) (source : Text) (index : Nat) (events : List Event) : List Json :=
  (events.zipIdx index).filterMap fun e => e.1.converted? skip source e.2

theorem reportsFrom_cons (skip : Bool) (source : Text) (index : Nat) (event : Event)
    (rest : List Event) :
    reportsFrom skip source index (event :: rest) =
      event.reports skip source index ++ reportsFrom skip source (index + 1) rest := rfl

theorem entriesFrom_cons (skip : Bool) (source : Text) (index : Nat) (event : Event)
    (rest : List Event) :
    entriesFrom skip source index (event :: rest) =
      (event.converted? skip source index).toList ++ entriesFrom skip source (index + 1) rest := by
  rw [entriesFrom, List.zipIdx_cons, List.filterMap_cons]
  cases event.converted? skip source index <;> rfl

/-- The markup of an event is read, if it matters. -/
def Readable (event : Event) : Prop :=
  event.isCreate = true → ∃ nodes, Markup.parse event.markup = .ok nodes

section
variable {skip : Bool} {event : Event} (index : Nat) (done : List Conversion) (ctx : Context)

/-- An event that does not fail puts at most one entry and its reports. -/
theorem convertFrom_cons_ok (rest : List Event) (hread : Readable event)
    (hok : skip = true ∨ ∃ records, event.adapt = .ok records) :
    ∃ made : Option Conversion, made.map Conversion.toJson = event.converted? skip ctx.source index ∧
      convertFrom index skip done ctx (event :: rest) =
        convertFrom (index + 1) skip (made.toList ++ done)
          { ctx with
            event := some (index : Int)
            diagnostics := ctx.diagnostics ++ event.reports skip ctx.source index } rest := by
  rw [convertFrom]
  cases hcreate : event.isCreate with
  | false =>
    have hout : event.outcome skip ctx.source index = (.ok none, []) := outcome_of_other hcreate
    refine ⟨none, ?_, ?_⟩
    · simp [converted?, hout]
    · simp [reports, hout, Context.add, Context.setEvent]
  | true =>
    obtain ⟨nodes, hparse⟩ := hread hcreate
    rcases convertMarkup_of_create hcreate hparse skip index ctx with
      ⟨records, errors, hout, hconvert⟩ | ⟨failure, rfl, hadapt, _⟩
    · obtain ⟨block, hblock⟩ : ∃ block, event.block? = some block := by
        simp only [isCreate, Bool.and_eq_true] at hcreate
        exact Option.isSome_iff_exists.mp hcreate.1.2
      refine ⟨some ⟨event.block?.getD "", records⟩, ?_, ?_⟩
      · simp [converted?, hout, hblock, Conversion.toJson, Block.payload]
      · simp only [if_true, hconvert, reports, hout]
        cases records with
        | nil => simp [Context.add]
        | cons record records => simp
    · rcases hok with hskip | ⟨records, hok⟩
      · cases hskip
      · rw [hok] at hadapt; cases hadapt

/-- A run over events that do not fail, up to a position, goes on with what is left. -/
theorem convertFrom_append (before rest : List Event) (hread : ∀ event ∈ before, Readable event)
    (hok : skip = true ∨ ∀ event ∈ before, ∃ records, event.adapt = .ok records) :
    ∃ (made : List Conversion) (last : Option Int),
      made.map Conversion.toJson = entriesFrom skip ctx.source index before ∧
      convertFrom index skip done ctx (before ++ rest) =
        convertFrom (index + before.length) skip (made.reverse ++ done)
          { ctx with
            event := last
            diagnostics := ctx.diagnostics ++ reportsFrom skip ctx.source index before } rest := by
  induction before generalizing index done ctx with
  | nil => exact ⟨[], ctx.event, rfl, by simp [reportsFrom]⟩
  | cons event before ih =>
    have hfirst : skip = true ∨ ∃ records, event.adapt = .ok records :=
      hok.imp id fun h => h event List.mem_cons_self
    have hrest : skip = true ∨ ∀ event ∈ before, ∃ records, event.adapt = .ok records :=
      hok.imp id fun h e he => h e (List.mem_cons_of_mem _ he)
    obtain ⟨made, hmade, hstep⟩ := convertFrom_cons_ok index done ctx (before ++ rest)
      (hread event List.mem_cons_self) hfirst
    obtain ⟨others, last, hothers, hrun⟩ := ih (index + 1) (made.toList ++ done)
      { ctx with
        event := some (index : Int)
        diagnostics := ctx.diagnostics ++ event.reports skip ctx.source index }
      (fun e he => hread e (List.mem_cons_of_mem _ he)) hrest
    refine ⟨made.toList ++ others, last, ?_, ?_⟩
    · rw [entriesFrom_cons, ← hmade, ← hothers]
      cases made <;> rfl
    · have hreverse : (made.toList ++ others).reverse = others.reverse ++ made.toList := by
        cases made <;> simp
      rw [List.cons_append, hstep, hrun, reportsFrom_cons, hreverse, List.append_assoc,
        List.append_assoc, List.length_cons, Nat.add_assoc, Nat.add_comm 1]

/-- A run stops at an event that cannot be adapted, unless malformed roots are skipped. -/
theorem convertFrom_cons_error {failure : Failure} (rest : List Event) (hread : Readable event)
    (h : event.adapt = .error failure) :
    convertFrom index false done ctx (event :: rest) =
      (.error failure, ctx.setEvent (some (index : Int))) := by
  rw [convertFrom]
  cases hcreate : event.isCreate with
  | false => simp [adapt, hcreate] at h
  | true =>
    obtain ⟨nodes, hparse⟩ := hread hcreate
    rcases convertMarkup_of_create hcreate hparse false index ctx with
      ⟨records, errors, hout, _⟩ | ⟨_, _, hadapt, hconvert⟩
    · rw [outcome_strict, h] at hout
      cases hout
    · rw [h] at hadapt
      cases hadapt
      simp only [if_true, hconvert]

end

/-- Whatever is reported of an event bears its position. -/
theorem event_of_reports {event : Event} (hread : Readable event) {skip : Bool} {source : Text}
    {index : Nat} : ∀ d ∈ event.reports skip source index, d.event = some (index : Int) := by
  intro d hd
  cases hcreate : event.isCreate with
  | false =>
    have hout : event.outcome skip source index = (.ok none, []) := outcome_of_other hcreate
    rw [reports, hout] at hd
    rw [List.mem_singleton.mp hd]
  | true =>
    obtain ⟨nodes, hparse⟩ := hread hcreate
    have herrors : ∀ e ∈ (event.outcome skip source index).2, e.event = some (index : Int) := by
      intro e he
      cases skip with
      | false => rw [outcome_strict] at he; cases he
      | true =>
        obtain ⟨records, hout, _⟩ := outcome_each hcreate hparse index { source }
        rw [hout] at he
        obtain ⟨root, _, hroot⟩ := List.mem_filterMap.mp he
        obtain ⟨fault, _, rfl⟩ := Option.map_eq_some_iff.mp hroot
        rfl
    unfold reports at hd
    split at hd <;> rename_i hout
    · rw [List.mem_singleton.mp hd]
    · rw [hout] at herrors
      rcases List.mem_append.mp hd with hd | hd
      · exact herrors d hd
      · split at hd
        · rw [List.mem_singleton.mp hd]
        · cases hd
    · rw [hout] at herrors
      exact herrors d hd

/-! ## The whole batch -/

section
variable {events : List Event} {skip : Bool}

theorem convertEvents_of_ok (h : ∀ event ∈ events, Readable event) (ctx : Context)
    (hok : skip = true ∨ ∀ event ∈ events, ∃ records, event.adapt = .ok records) :
    ∃ results, results.map Conversion.toJson = entriesFrom skip ctx.source 0 events ∧
      convertEvents events skip ctx = (.ok results,
        { ctx with
          event := none
          diagnostics := ctx.diagnostics ++ reportsFrom skip ctx.source 0 events }) := by
  obtain ⟨made, last, hmade, hrun⟩ :=
    convertFrom_append 0 [] ctx events [] h hok
  refine ⟨made, hmade, ?_⟩
  rw [List.append_nil] at hrun
  rw [convertEvents, hrun, convertFrom, List.append_nil, List.reverse_reverse]
  rfl

theorem convertEvents_of_error {before after : List Event} {event : Event} {failure : Failure}
    (h : ∀ e ∈ before ++ event :: after, Readable e) (ctx : Context)
    (hok : ∀ earlier ∈ before, ∃ records, earlier.adapt = .ok records)
    (hfailure : event.adapt = .error failure) :
    convertEvents (before ++ event :: after) false ctx = (.error failure,
      { ctx with
        event := some (before.length : Int)
        diagnostics := ctx.diagnostics ++ reportsFrom false ctx.source 0 before }) := by
  obtain ⟨made, last, _, hrun⟩ :=
    convertFrom_append 0 [] ctx before (event :: after)
      (fun e he => h e (List.mem_append_left _ he)) (Or.inr hok)
  have hread := h event (List.mem_append_right _ List.mem_cons_self)
  rw [convertEvents, hrun, convertFrom_cons_error _ _ _ after hread hfailure, Nat.zero_add]
  rfl

/-- Where some event cannot be adapted, there is a first such event. -/
theorem exists_first_error (h : ∃ event ∈ events, ∃ failure, event.adapt = .error failure) :
    ∃ before event after failure, events = before ++ event :: after ∧
      (∀ earlier ∈ before, ∃ records, earlier.adapt = .ok records) ∧
      event.adapt = .error failure := by
  induction events with
  | nil => obtain ⟨_, hm, _⟩ := h; cases hm
  | cons event rest ih =>
    cases hadapt : event.adapt with
    | error failure => exact ⟨[], event, rest, failure, rfl, (fun _ he => by cases he), hadapt⟩
    | ok records =>
      obtain ⟨bad, hm, failure, hbad⟩ := h
      rcases List.mem_cons.mp hm with rfl | hm
      · rw [hbad] at hadapt; cases hadapt
      · obtain ⟨before, first, after, failure, rfl, hok, hfirst⟩ := ih ⟨bad, hm, failure, hbad⟩
        refine ⟨event :: before, first, after, failure, rfl, ?_, hfirst⟩
        exact List.forall_mem_cons.mpr ⟨⟨records, hadapt⟩, hok⟩

end

/-- **A batch is converted event by event.** If no event fails, its results are the entries
of the events in order, the context gains the reports of each event, and no event is current.
A run fails only when malformed roots are not skipped, and then with the first event that
cannot be adapted: the context has the reports of the events before it and names it. -/
theorem convertEvents_event_by_event {events : List Event}
    (h : ∀ event ∈ events, Readable event) (skip : Bool) (ctx : Context) :
    ((skip = true ∨ ∀ event ∈ events, ∃ records, event.adapt = .ok records) →
      ∃ results, results.map Conversion.toJson = entriesFrom skip ctx.source 0 events ∧
        convertEvents events skip ctx = (.ok results,
          { ctx with
            event := none
            diagnostics := ctx.diagnostics ++ reportsFrom skip ctx.source 0 events })) ∧
      (∀ before event after failure, skip = false → events = before ++ event :: after →
        (∀ earlier ∈ before, ∃ records, earlier.adapt = .ok records) →
        event.adapt = .error failure →
        convertEvents events skip ctx = (.error failure,
          { ctx with
            event := some (before.length : Int)
            diagnostics := ctx.diagnostics ++ reportsFrom skip ctx.source 0 before })) ∧
      ((∃ failure, (convertEvents events skip ctx).1 = .error failure) ↔
        skip = false ∧ ∃ event ∈ events, ∃ failure, event.adapt = .error failure) ∧
      ∀ event ∈ events, ∀ index, ∀ d ∈ event.reports skip ctx.source index,
        d.event = some (index : Int) := by
  refine ⟨convertEvents_of_ok h ctx, ?_, ⟨?_, ?_⟩,
    fun event he index => event_of_reports (h event he)⟩
  · rintro before event after failure rfl rfl hok hfailure
    exact convertEvents_of_error h ctx hok hfailure
  · rintro ⟨failure, hfailure⟩
    by_contra hnone
    have hok : skip = true ∨ ∀ event ∈ events, ∃ records, event.adapt = .ok records := by
      cases skip with
      | true => exact Or.inl rfl
      | false =>
        refine Or.inr fun event he => ?_
        cases hadapt : event.adapt with
        | ok records => exact ⟨records, rfl⟩
        | error failure => exact absurd ⟨rfl, event, he, failure, hadapt⟩ hnone
    obtain ⟨results, _, hrun⟩ := convertEvents_of_ok h ctx hok
    rw [hrun] at hfailure
    cases hfailure
  · rintro ⟨rfl, hbad⟩
    obtain ⟨before, event, after, failure, rfl, hok, hfailure⟩ := exists_first_error hbad
    exact ⟨failure, by rw [convertEvents_of_error h ctx hok hfailure]⟩

/-- An event that creates nothing, one that creates a block, and one whose block lacks a type. -/
def oneMissing : List Event :=
  [.null,
    .object [("blockId", .text "a"),
      ("xml", .object [("outerHTML", .text "<block id=\"a\" type=\"x\"></block>")])],
    .object [("blockId", .text "b"), ("xml", .object [("outerHTML", .text "<block id=\"b\">")])]]

theorem convertEvents_oneMissing :
    (∀ event ∈ oneMissing, Readable event) ∧
      convertEvents oneMissing false {} =
        (.error (.fault (.malformed (.missingAttribute "block" "type" (some "b")))),
          { event := some 2
            diagnostics := [⟨.info, skippedMessage, "<markup>", none, some 0⟩] }) ∧
      ∃ results, results.map Conversion.toJson = entriesFrom true "<markup>" 0 oneMissing ∧
        convertEvents oneMissing true {} =
          (.ok results, { diagnostics := reportsFrom true "<markup>" 0 oneMissing }) := by
  have hread : ∀ event ∈ oneMissing, Readable event := by
    intro event he _
    have hok : (Markup.parse event.markup).isOk = true := by
      revert event
      decide +kernel
    cases hparse : Markup.parse event.markup with
    | ok nodes => exact ⟨nodes, rfl⟩
    | error cause => rw [hparse] at hok; cases hok
  have hok : ∀ earlier ∈ oneMissing.take 2, ∃ records, earlier.adapt = .ok records :=
    List.forall_mem_cons.mpr ⟨⟨none, rfl⟩,
      List.forall_mem_cons.mpr ⟨⟨some [{ id := "a", opcode := "x", topLevel := true }],
        by decide +kernel⟩, fun _ he => by cases he⟩⟩
  obtain ⟨_, hfails, _⟩ := convertEvents_event_by_event hread false {}
  obtain ⟨hreturns, _⟩ := convertEvents_event_by_event hread true {}
  refine ⟨hread, ?_, hreturns (Or.inl rfl)⟩
  rw [hfails (oneMissing.take 2) _ []
    (.fault (.malformed (.missingAttribute "block" "type" (some "b")))) rfl rfl hok
    (by decide +kernel)]
  decide +kernel

end FlatBlocks
