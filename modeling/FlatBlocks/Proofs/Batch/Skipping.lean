import FlatBlocks.Proofs.Batch
import FlatBlocks.Proofs.Block.Payload

/-! # Leaving malformed blocks out

A run that leaves malformed blocks out never fails. Where a strict run succeeds it does the
same, and where a strict run fails it has done the same up to the event at fault, of which
it reports an error before it goes on. -/

namespace FlatBlocks
open Block (Record)
open Markup (Node)

/-- Different conversions are written differently. -/
theorem Conversion.toJson_injective : Function.Injective Conversion.toJson := by
  have hrecord : Function.Injective fun r : Record Text => r.loose.toJson := by
    intro r s h
    have hread := congrArg Record.ofJson h
    rw [Block.ofJson_loose, Block.ofJson_loose] at hread
    exact Block.loose_injective (Except.ok.inj hread)
  rintro ⟨block, records⟩ ⟨block', records'⟩ h
  simp only [toJson, Block.payload, Json.obj.injEq, List.cons.injEq, Prod.mk.injEq, true_and,
    and_true, Json.str.injEq, Json.arr.injEq] at h
  obtain ⟨rfl, hrecords⟩ := h
  rw [List.map_injective_iff.mpr hrecord hrecords]

/-! ## A single event -/

namespace Event

variable {event : Event} (source : Text) (index : Nat)

/-- An event that can be adapted comes to the same in both kinds of runs. -/
theorem outcome_of_adapted (hread : Readable event) {records : Option (List (Record Text))}
    (h : event.adapt = .ok records) (skip : Bool) :
    event.outcome skip source index = (.ok records, []) := by
  cases hcreate : event.isCreate with
  | false =>
    rw [adapt, hcreate] at h
    cases h
    exact outcome_of_other hcreate
  | true =>
    cases skip with
    | false => rw [outcome_strict, h]
    | true =>
      obtain ⟨nodes, hparse⟩ := hread hcreate
      rw [adapt_eq_flatten hcreate hparse] at h
      cases hflatten : Block.flatten nodes with
      | error fault => rw [hflatten] at h; cases h
      | ok all =>
        rw [hflatten] at h
        cases h
        obtain ⟨each, hout, heach⟩ := outcome_each hcreate hparse index { source }
        have hnone : Block.reports (place source index) nodes = [] :=
          (Block.reports_eq_nil_iff _).mpr (Block.checked_of_flatten hflatten)
        rw [Block.flattenEach_eq (Markup.texted_of_parse hparse), Block.visits_keptRoots hnone,
          ← Block.records_of_flatten hflatten] at heach
        obtain rfl : all = each := Except.ok.inj (congrArg Prod.fst heach)
        rw [hout, hnone]

theorem converted?_of_adapted (hread : Readable event)
    {records : Option (List (Record Text))} (h : event.adapt = .ok records) :
    event.converted? true source index = event.converted? false source index := by
  unfold converted?
  rw [outcome_of_adapted source index hread h, outcome_of_adapted source index hread h]

theorem reports_of_adapted (hread : Readable event)
    {records : Option (List (Record Text))} (h : event.adapt = .ok records) :
    event.reports true source index = event.reports false source index := by
  unfold reports
  rw [outcome_of_adapted source index hread h, outcome_of_adapted source index hread h]

/-- Of an event that cannot be adapted an error is reported first. -/
theorem reports_of_failure (hread : Readable event) {failure : Failure}
    (h : event.adapt = .error failure) :
    ∃ first more, event.reports true source index = first :: more ∧ first.level = .error := by
  cases hcreate : event.isCreate with
  | false => rw [adapt, hcreate] at h; cases h
  | true =>
    obtain ⟨nodes, hparse⟩ := hread hcreate
    obtain ⟨records, hout, _⟩ := outcome_each hcreate hparse index { source }
    have hsome : Block.reports (place source index) nodes ≠ [] := by
      intro hnone
      have hchecked := (Block.reports_eq_nil_iff _).mp hnone
      rw [adapt_eq_flatten hcreate hparse, Block.flatten_eq_verdict,
        Block.Check.verdict_of_none hchecked] at h
      cases h
    obtain ⟨first, more, hmore⟩ := List.exists_cons_of_ne_nil hsome
    refine ⟨first, more ++ if records.isEmpty then
      [⟨.warning, noBlocksMessage, source, none, some (index : Int)⟩] else [], ?_, ?_⟩
    · rw [reports, hout]
      exact congrArg (· ++ _) hmore
    · have hm : first ∈ Block.reports (place source index) nodes := hmore ▸ List.mem_cons_self
      obtain ⟨root, _, hroot⟩ := List.mem_filterMap.mp hm
      obtain ⟨fault, _, rfl⟩ := Option.map_eq_some_iff.mp hroot
      rfl

end Event

/-! ## Events in a row -/

theorem reportsFrom_append (skip : Bool) (source : Text) (index : Nat)
    (before rest : List Event) :
    reportsFrom skip source index (before ++ rest) =
      reportsFrom skip source index before ++
        reportsFrom skip source (index + before.length) rest := by
  rw [reportsFrom, List.zipIdx_append, List.flatMap_append]
  rfl

theorem entriesFrom_append (skip : Bool) (source : Text) (index : Nat)
    (before rest : List Event) :
    entriesFrom skip source index (before ++ rest) =
      entriesFrom skip source index before ++
        entriesFrom skip source (index + before.length) rest := by
  rw [entriesFrom, List.zipIdx_append, List.filterMap_append]
  rfl

section
variable {events : List Event} (hread : ∀ event ∈ events, Readable event)
  (hok : ∀ event ∈ events, ∃ records, event.adapt = .ok records) (source : Text) (index : Nat)
include hread hok

theorem reportsFrom_of_adapted :
    reportsFrom true source index events = reportsFrom false source index events := by
  refine List.flatMap_congr fun e he => ?_
  have hm := List.fst_mem_of_mem_zipIdx he
  obtain ⟨records, hadapt⟩ := hok e.1 hm
  exact Event.reports_of_adapted source _ (hread e.1 hm) hadapt

theorem entriesFrom_of_adapted :
    entriesFrom true source index events = entriesFrom false source index events := by
  refine List.filterMap_congr fun e he => ?_
  have hm := List.fst_mem_of_mem_zipIdx he
  obtain ⟨records, hadapt⟩ := hok e.1 hm
  exact Event.converted?_of_adapted source _ (hread e.1 hm) hadapt

end

/-- All events can be adapted, or there is a first one that cannot. -/
theorem adapted_or_first_error (events : List Event) :
    (∀ event ∈ events, ∃ records, event.adapt = .ok records) ∨
      ∃ before event rest failure, events = before ++ event :: rest ∧
        (∀ earlier ∈ before, ∃ records, earlier.adapt = .ok records) ∧
        event.adapt = .error failure := by
  by_cases hbad : ∃ event ∈ events, ∃ failure, event.adapt = .error failure
  · exact Or.inr (exists_first_error hbad)
  · refine Or.inl fun event he => ?_
    cases hadapt : event.adapt with
    | ok records => exact ⟨records, rfl⟩
    | error failure => exact absurd ⟨event, he, failure, hadapt⟩ hbad

/-! ## The whole batch -/

section
variable {events : List Event} (h : ∀ event ∈ events, Readable event) (ctx : Context)
include h

theorem convertEvents_skipping :
    ∃ results, results.map Conversion.toJson = entriesFrom true ctx.source 0 events ∧
      convertEvents events true ctx = (.ok results,
        { ctx with
          event := none
          diagnostics := ctx.diagnostics ++ reportsFrom true ctx.source 0 events }) :=
  convertEvents_of_ok h ctx (Or.inl rfl)

theorem convertEvents_strict (hok : ∀ event ∈ events, ∃ records, event.adapt = .ok records) :
    ∃ results, results.map Conversion.toJson = entriesFrom false ctx.source 0 events ∧
      convertEvents events false ctx = (.ok results,
        { ctx with
          event := none
          diagnostics := ctx.diagnostics ++ reportsFrom false ctx.source 0 events }) :=
  convertEvents_of_ok h ctx (Or.inr hok)

/-- If all events can be adapted, both kinds of runs come to the same. -/
theorem convertEvents_skip_of_adapted
    (hok : ∀ event ∈ events, ∃ records, event.adapt = .ok records) :
    convertEvents events true ctx = convertEvents events false ctx := by
  obtain ⟨results, hresults, hskip⟩ := convertEvents_skipping h ctx
  obtain ⟨built, hbuilt, hstrict⟩ := convertEvents_strict h ctx hok
  rw [entriesFrom_of_adapted h hok, ← hbuilt] at hresults
  rw [hskip, hstrict, reportsFrom_of_adapted h hok,
    List.map_injective_iff.mpr Conversion.toJson_injective hresults]

end

/-- What a run that leaves malformed blocks out has done when it has dealt with the first event
that cannot be adapted. -/
theorem convertEvents_skip_past {before rest : List Event} {event : Event} {failure : Failure}
    (h : ∀ e ∈ before ++ event :: rest, Readable e) (ctx : Context)
    (hok : ∀ earlier ∈ before, ∃ records, earlier.adapt = .ok records)
    (hfailure : event.adapt = .error failure) :
    ∃ built reached results after first more,
      convertEvents before false ctx = (.ok built, reached) ∧
      convertEvents (before ++ event :: rest) false ctx =
        (.error failure, reached.setEvent (some (before.length : Int))) ∧
      convertEvents (before ++ event :: rest) true ctx = (.ok results, after) ∧
      built <+: results ∧ after.diagnostics = reached.diagnostics ++ first :: more ∧
      first.level = .error ∧ first.event = some (before.length : Int) := by
  have hbefore : ∀ e ∈ before, Readable e := fun e he => h e (List.mem_append_left _ he)
  have hevent : Readable event := h event (List.mem_append_right _ List.mem_cons_self)
  obtain ⟨built, hbuilt, hstrict⟩ := convertEvents_strict hbefore ctx hok
  obtain ⟨results, hresults, hskip⟩ := convertEvents_skipping h ctx
  obtain ⟨first, more, hreports, hlevel⟩ :=
    Event.reports_of_failure ctx.source (0 + before.length) hevent hfailure
  refine ⟨built, _, results, _, first,
    more ++ reportsFrom true ctx.source (0 + before.length + 1) rest,
    hstrict, convertEvents_of_error h ctx hok hfailure, hskip, ?_, ?_, hlevel, ?_⟩
  · rw [entriesFrom_append, entriesFrom_of_adapted hbefore hok, ← hbuilt] at hresults
    exact (List.prefix_map_iff_of_injective Conversion.toJson_injective).mp ⟨_, hresults.symm⟩
  · simp only
    rw [reportsFrom_append, reportsFrom_of_adapted hbefore hok, reportsFrom_cons, hreports,
      List.cons_append, List.append_assoc]
  · have hplace := event_of_reports hevent first (hreports ▸ List.mem_cons_self)
    rwa [Nat.zero_add] at hplace

/-- **Leaving malformed blocks out goes on from where a strict run fails.** Such a run never
fails. If the strict run on the same events and from the same context returns, both give the
same results and the same diagnostics. If the strict run fails, it does so at the first event
that cannot be adapted: what it had built from the events before are the first results of the
other run, its diagnostics are the first diagnostics there, and the next one is an error at
that event. -/
theorem skipping_goes_on {events : List Event} (h : ∀ event ∈ events, Readable event)
    (ctx : Context) :
    ∃ results after, convertEvents events true ctx = (.ok results, after) ∧
      (∀ strict final, convertEvents events false ctx = (.ok strict, final) →
        results = strict ∧ after = final) ∧
      ∀ failure final, convertEvents events false ctx = (.error failure, final) →
        ∃ before event rest built reached first more, events = before ++ event :: rest ∧
          event.adapt = .error failure ∧
          convertEvents before false ctx = (.ok built, reached) ∧
          final = reached.setEvent (some (before.length : Int)) ∧
          built <+: results ∧
          after.diagnostics = final.diagnostics ++ first :: more ∧
          first.level = .error ∧ first.event = some (before.length : Int) := by
  rcases adapted_or_first_error events with hok | ⟨before, event, rest, failure, rfl, hok, hbad⟩
  · obtain ⟨strict, _, hstrict⟩ := convertEvents_strict h ctx hok
    refine ⟨strict, _, (convertEvents_skip_of_adapted h ctx hok).trans hstrict, ?_, ?_⟩
    · intro other final hother
      rw [hstrict] at hother
      cases hother
      exact ⟨rfl, rfl⟩
    · intro failure final hother
      rw [hstrict] at hother
      cases hother
  · obtain ⟨built, reached, results, after, first, more, hbuilt, hstrict, hskip, hprefix, hmore,
      hfirst⟩ := convertEvents_skip_past h ctx hok hbad
    refine ⟨results, after, hskip, ?_, ?_⟩
    · intro other final hother
      rw [hstrict] at hother
      cases hother
    · intro failure' final hother
      rw [hstrict] at hother
      cases hother
      exact ⟨before, event, rest, built, reached, first, more, rfl, hbad, hbuilt, rfl, hprefix,
        hmore, hfirst⟩

/-- The event that creates a block from markup. -/
def creating (block markup : Text) : Event :=
  .object [("blockId", .text block), ("xml", .object [("outerHTML", .text markup)])]

/-- A block, an event that creates nothing, and two blocks of which the first lacks a type. -/
def patchy : List Event :=
  [creating "a" "<block id=\"a\" type=\"x\"></block>", .null,
    creating "b" "<block id=\"b\"></block><block id=\"c\" type=\"y\"></block>"]

theorem skipping_patchy :
    (∀ event ∈ patchy, Readable event) ∧
      ∃ results after, convertEvents patchy true {} = (.ok results, after) ∧
        convertEvents patchy false {} =
          (.error (.fault (.malformed (.missingAttribute "block" "type" (some "b")))),
            { event := some 2
              diagnostics := [⟨.info, skippedMessage, "<markup>", none, some 1⟩] }) ∧
        [⟨"a", [{ id := "a", opcode := "x", topLevel := true }]⟩] <+: results ∧
        ∃ first, [⟨.info, skippedMessage, "<markup>", none, some 1⟩, first] <+: after.diagnostics ∧
          first.level = .error ∧ first.event = some 2 := by
  have hread : ∀ event ∈ patchy, Readable event := by
    intro event he _
    apply Markup.accepted_of_isOk
    revert event
    decide +kernel
  have hstrict : convertEvents patchy false {} =
      (.error (.fault (.malformed (.missingAttribute "block" "type" (some "b")))),
        { event := some 2
          diagnostics := [⟨.info, skippedMessage, "<markup>", none, some 1⟩] }) := by
    decide +kernel
  have hbefore : (convertEvents (patchy.take 2) false {}).1 =
      .ok [⟨"a", [{ id := "a", opcode := "x", topLevel := true }]⟩] := by decide +kernel
  obtain ⟨results, after, hskip, _, hfails⟩ := skipping_goes_on hread {}
  obtain ⟨before, event, rest, built, reached, first, more, hsplit, _, hbuilt, hfinal, hprefix,
    hmore, hlevel, hplace⟩ := hfails _ _ hstrict
  have hlength : before.length = 2 := by
    have hevent := congrArg Context.event hfinal
    simp only [Context.setEvent, Option.some.injEq] at hevent
    omega
  have htake : patchy.take 2 = before := by rw [hsplit, ← hlength, List.take_left]
  rw [htake, hbuilt] at hbefore
  cases hbefore
  refine ⟨hread, results, after, hskip, hstrict, hprefix, first, ⟨more, ?_⟩, hlevel, ?_⟩
  · rw [hmore]
    rfl
  · rw [hplace, hlength]
    rfl

end FlatBlocks
