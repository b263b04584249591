import FlatBlocks.Proofs.Batch.Refusal
import FlatBlocks.Proofs.Command.Effects

/-! # What a run does not handle

A run that prints its result completes or reports an error, unless its input cannot be
converted for a reason that it does not handle, or what it is converted to cannot be printed:
an outline with half of a surrogate pair in it, which only events lead to, or JSON for which
there is no indentation or no room. -/

namespace FlatBlocks.Command
open FlatBlocks.Text
open Block (Record)

/-- An input that cannot be converted, which a run does not handle. -/
inductive Unconverted (options : Options) (source : Files.Source) : Unhandled → Prop
  | undecodable {bytes : Files.Bytes} {fault : Utf8.Fault} (document : options.events = false)
      (content : source.content = .ok bytes) (decoded : Utf8.decode bytes = .error fault) :
      Unconverted options source (.encoding fault)
  | holdsZero (document : options.events = false) (content : source.content = .error .holdsZero) :
      Unconverted options source (.path .holdsZero)
  | unencodable {cause : Utf8.Unencodable} (document : options.events = false)
      (content : source.content = .error (.unencodable cause)) :
      Unconverted options source (.path (.unencodable cause))
  | refused {markup : Text} {cause : Markup.Rejection} (document : options.events = false)
      (text : source.text = .ok markup) (parsed : Markup.parse markup = .error cause) :
      Unconverted options source (.rejected cause)
  | refusedEvent {events : List Json} {cause : Markup.Rejection} (batch : options.events = true)
      (loaded : source.events options.input = .ok events)
      (first : (events.map Event.ofJson).findSome? (Event.failure? options.skipMalformed) =
        some (.rejected cause)) : Unconverted options source (.rejected cause)

/-- A result that cannot be printed. -/
inductive Unprintable (room : Room) (options : Options) : Result → Unhandled → Prop
  /-- Some text in the records or the id of a block holds half of a surrogate pair. -/
  | unencodable {conversions : List Conversion} {cause : Utf8.Unencodable}
      (format : options.format = .outline)
      (encoded : Utf8.encode (endLine (Result.batch conversions).drawn) = .error cause) :
      Unprintable room options (.batch conversions) (.unencodable cause)
  | noIndentation {result : Result} (format : options.format = .json)
      (indent : options.indent = none) : Unprintable room options result .noIndentation
  | size {result : Result} {width : Int} {fault : SizeFault} (format : options.format = .json)
      (indent : options.indent = some width)
      (document : Json.document room (.indented width) result.toJson = .error fault) :
      Unprintable room options result (.size fault)

/-- What ends a run that prints its result, without a report. -/
inductive Escapes (room : Room) (options : Options) (source : Files.Source) (cause : Unhandled) :
    Prop
  | unconverted (input : Unconverted options source cause)
  | unprintable {result : Result} {after : Context}
      (converted : options.convert source = .ok (result, after))
      (output : Unprintable room options result cause)

/-! ## Conversions -/

/-- Malformed blocks are reported; of what conversions fail with, refused markup alone is not. -/
theorem haltOf_eq_unhandled_iff {options : Options} {skip : Bool} {markup : Text}
    {failure : Failure} (hfailure : recordsOf skip markup = .error failure) {cause : Unhandled} :
    haltOf options failure = .unhandled cause ↔
      ∃ refusal, failure = .rejected refusal ∧ cause = .rejected refusal := by
  rcases failure_of_recordsOf hfailure with ⟨refusal, _, rfl⟩ | ⟨_, malformed, rfl⟩
  · simp [haltOf, eq_comm]
  · simp [haltOf]

section
variable {options : Options} {source : Files.Source} {cause : Unhandled}

/-- Why a text cannot be had from a source. -/
theorem text_eq_error {e : Files.LoadError} (h : source.text = .error e) :
    (∃ refusal, source.content = .error refusal ∧ e = .unreadable refusal) ∨
      ∃ bytes fault, source.content = .ok bytes ∧ Utf8.decode bytes = .error fault ∧
        e = .encoding fault := by
  unfold Files.Source.text at h
  cases hcontent : source.content with
  | error refusal =>
    rw [hcontent] at h
    cases h
    exact .inl ⟨refusal, rfl, rfl⟩
  | ok bytes =>
    rw [hcontent] at h
    simp only at h
    split at h
    · rename_i fault hdecode
      cases h
      exact .inr ⟨bytes, fault, rfl, hdecode, rfl⟩
    · cases h

theorem convertDocument_unhandled_iff (hmode : options.events = false) (ctx : Context) :
    options.convertDocument source ctx = .error (.unhandled cause) ↔
      Unconverted options source cause := by
  unfold Options.convertDocument
  constructor
  · intro h
    cases htext : source.text with
    | error e =>
      rw [htext] at h
      rcases text_eq_error htext with
        ⟨refusal, hcontent, rfl⟩ | ⟨bytes, fault, hcontent, hdecode, rfl⟩
      · cases refusal with
        | system fault path => cases h
        | holdsZero =>
          cases h
          exact .holdsZero hmode hcontent
        | unencodable fault =>
          cases h
          exact .unencodable hmode hcontent
      · cases h
        exact .undecodable hmode hcontent hdecode
    | ok markup =>
      rw [htext] at h
      have hrecords := fst_convertMarkup markup options.skipMalformed ctx
      simp only at h
      split at h
      · rename_i failure after hconvert
        rw [hconvert] at hrecords
        obtain ⟨refusal, rfl, rfl⟩ :=
          (haltOf_eq_unhandled_iff hrecords.symm).mp (Except.error.inj h)
        rcases failure_of_recordsOf hrecords.symm with ⟨_, hparse, hsame⟩ | ⟨_, _, hsame⟩
        · cases hsame
          exact .refused hmode htext hparse
        · cases hsame
      · cases h
  · intro h
    cases h with
    | undecodable _ content decoded => simp [Files.Source.text, content, decoded]
    | holdsZero _ content => simp [Files.Source.text, content]
    | unencodable _ content => simp [Files.Source.text, content]
    | refused _ text parsed => simp [text, convertMarkup, parsed, haltOf]
    | refusedEvent batch =>
      rw [hmode] at batch
      cases batch

theorem convertBatch_unhandled_iff (hmode : options.events = true) (ctx : Context) :
    options.convertBatch source ctx = .error (.unhandled cause) ↔
      Unconverted options source cause := by
  unfold Options.convertBatch
  constructor
  · intro h
    cases hevents : source.events options.input with
    | error e =>
      rw [hevents] at h
      cases h
    | ok events =>
      rw [hevents] at h
      simp only at h
      split at h
      · rename_i failure after hconvert
        have hfirst := (convertEvents_error_iff ctx).mp (congrArg Prod.fst hconvert)
        obtain ⟨event, _, hevent⟩ := List.exists_of_findSome?_eq_some hfirst
        obtain ⟨refusal, rfl, rfl⟩ :=
          (haltOf_eq_unhandled_iff (Event.recordsOf_of_failure? hevent)).mp (Except.error.inj h)
        exact .refusedEvent hmode hevents hfirst
      · cases h
  · intro h
    cases h with
    | undecodable document => cases hmode.symm.trans document
    | holdsZero document => cases hmode.symm.trans document
    | unencodable document => cases hmode.symm.trans document
    | refused document => cases hmode.symm.trans document
    | refusedEvent _ loaded first =>
      have herror := (convertEvents_error_iff ctx).mpr first
      rw [loaded]
      simp only
      split
      · rename_i hconvert
        rw [hconvert] at herror
        cases herror
        rfl
      · rename_i hconvert
        rw [hconvert] at herror
        cases herror

theorem convert_unhandled_iff :
    options.convert source = .error (.unhandled cause) ↔ Unconverted options source cause := by
  unfold Options.convert
  cases hmode : options.events with
  | false =>
    simp only [Bool.false_eq_true, if_false, map_eq_error_iff]
    exact convertDocument_unhandled_iff hmode _
  | true =>
    simp only [if_true, map_eq_error_iff]
    exact convertBatch_unhandled_iff hmode _

/-! ## Results -/

theorem whole_text {markup : Text} (h : source.text = .ok markup) : Whole markup := by
  unfold Files.Source.text at h
  split at h
  · cases h
  · split at h
    · cases h
    · rename_i hdecode
      cases h
      exact Utf8.whole_unifyLines (Utf8.whole_decode hdecode)

/-- The text of a document is whole, so its records can be written. -/
theorem writable_of_convert {records : List (Record Text)} {after : Context}
    (h : options.convert source = .ok (.document records, after)) : ∀ r ∈ records, r.Writable := by
  unfold Options.convert at h
  split at h
  · cases hbatch : options.convertBatch source { source := options.input } with
    | error halt => simp [hbatch, Except.map] at h
    | ok result => simp [hbatch, Except.map] at h
  · cases hdocument : options.convertDocument source { source := options.input } with
    | error halt => simp [hdocument, Except.map] at h
    | ok result =>
      obtain ⟨rfl, _⟩ : result.1 = records ∧ result.2 = after := by
        simpa [hdocument, Except.map] using h
      unfold Options.convertDocument at hdocument
      split at hdocument
      · cases hdocument
      · cases hdocument
      · cases hdocument
      · cases hdocument
      · rename_i markup htext
        have hrecords := fst_convertMarkup markup options.skipMalformed { source := options.input }
        split at hdocument
        · cases hdocument
        · rename_i hconvert
          rw [hconvert] at hrecords
          cases hdocument
          cases hparse : Markup.parse markup with
          | error cause =>
            rw [recordsOf_of_rejected hparse] at hrecords
            cases hrecords
          | ok nodes => exact writable_of_recordsOf hparse (whole_text htext) hrecords.symm

end

/-- JSON is printed in ASCII, whatever is in the records. -/
theorem numberless_result (result : Result) : Json.Numberless result.toJson := by
  cases result with
  | document records => exact Block.numberless_payload records
  | batch conversions =>
    refine .arr fun item hitem => ?_
    obtain ⟨c, _, rfl⟩ := List.mem_map.mp hitem
    exact .obj (by simp [Json.Numberless.str, Block.numberless_payload])

/-! ## Printing -/

/-- Half of a surrogate pair in the id of an event keeps its outline from being printed. -/
theorem unprintable_of_block {options : Options} (hformat : options.format = .outline)
    {conversions : List Conversion} {c : Conversion} (hc : c ∈ conversions)
    (hblock : ¬ Whole c.block) (room : Room) :
    ∃ cause, Unprintable room options (.batch conversions) (.unencodable cause) := by
  cases hencode : Utf8.encode (endLine (Result.batch conversions).drawn) with
  | error cause => exact ⟨cause, .unencodable hformat hencode⟩
  | ok bytes =>
    have hdrawn := whole_of_endLine (Utf8.whole_of_encode hencode)
    have hheaded : Whole (headed c) := whole_of_intercalate hdrawn _ (List.mem_map_of_mem hc)
    have hline := hheaded.sublist ((List.sublist_append_left _ _).trans
      (List.sublist_append_left _ _))
    exact absurd (hline.sublist (List.sublist_append_right _ _)) hblock

section
variable {p : Prepared}

theorem printed_of_fault {cause : Unhandled} (h : p.result.fault? = some cause) :
    p.printed = undelivered cause := by
  obtain ⟨target, ⟨text, fault?⟩, warnings, notice⟩ := p
  cases h
  rfl

theorem printed_of_unencodable {text : Text} {cause : Utf8.Unencodable} (h : p.result = { text })
    (hencode : Utf8.encode (endLine text) = .error cause) :
    p.printed = undelivered (.unencodable cause) := by
  rw [Prepared.printed, h]
  simp only [hencode]

theorem ending_printed_of_encoded {text : Text} {bytes : Files.Bytes} (h : p.result = { text })
    (hencode : Utf8.encode (endLine text) = .ok bytes) (hnotice : p.notice = []) :
    p.printed.ending = .completed := by
  rw [Prepared.printed, h]
  simp only [hencode]
  exact ending_close (hnotice ▸ whole_nil) _

theorem ending_printed_of_whole {text : Text} (h : p.result = { text }) (hwhole : Whole text)
    (hnotice : p.notice = []) : p.printed.ending = .completed :=
  ending_printed_of_encoded h (Utf8.encode_eq (whole_endLine hwhole)) hnotice

/-- A result is printed, or the run is not completed. -/
theorem ending_printed (p : Prepared) :
    p.printed.ending = .completed ∨ ∃ cause, p.printed.ending = .unhandled cause := by
  unfold Prepared.printed
  split
  · exact .inr ⟨_, rfl⟩
  split
  · exact .inr ⟨_, rfl⟩
  · unfold Prepared.close
    split
    · exact .inr ⟨_, rfl⟩
    · exact .inl rfl

end

section
variable {room : Room} {options : Options} {result : Result} {p : Prepared}
  (hnotice : p.notice = []) {cause : Unhandled}
include hnotice

theorem printed_outline_iff (hformat : options.format = .outline)
    (hresult : p.result = { text := result.drawn })
    (hrecords : ∀ records, result = .document records → ∀ r ∈ records, r.Writable) :
    p.printed.ending = .unhandled cause ↔ Unprintable room options result cause := by
  have hjson : options.format ≠ .json := by
    rw [hformat]
    nofun
  cases result with
  | document records =>
    have hwhole : Whole (Result.document records).drawn :=
      Block.Outline.whole_render (hrecords records rfl)
    rw [ending_printed_of_whole hresult hwhole hnotice]
    refine ⟨nofun, fun h => ?_⟩
    cases h with
    | noIndentation format => exact absurd format hjson
    | size format => exact absurd format hjson
  | batch conversions =>
    cases hencode : Utf8.encode (endLine (Result.batch conversions).drawn) with
    | error fault =>
      rw [printed_of_unencodable hresult hencode]
      constructor
      · rintro ⟨⟩
        exact .unencodable hformat hencode
      · intro h
        cases h with
        | unencodable _ encoded =>
          cases hencode.symm.trans encoded
          rfl
        | noIndentation format => exact absurd format hjson
        | size format => exact absurd format hjson
    | ok bytes =>
      rw [ending_printed_of_encoded hresult hencode hnotice]
      refine ⟨nofun, fun h => ?_⟩
      cases h with
      | unencodable _ encoded => cases hencode.symm.trans encoded
      | noIndentation format => exact absurd format hjson
      | size format => exact absurd format hjson

theorem printed_json_iff (hformat : options.format = .json) (htarget : options.target = .stdout)
    (hresult : p.result = options.jsonText room result.toJson) :
    p.printed.ending = .unhandled cause ↔ Unprintable room options result cause := by
  have houtline : options.format ≠ .outline := fun h => by cases hformat.symm.trans h
  rw [Options.jsonText, htarget] at hresult
  cases hindent : options.indent with
  | none =>
    rw [hindent] at hresult
    rw [printed_of_fault (congrArg Written.fault? hresult)]
    constructor
    · rintro ⟨⟩
      exact .noIndentation hformat hindent
    · intro h
      cases h with
      | unencodable format => exact absurd format houtline
      | noIndentation => rfl
      | size _ indent => cases hindent.symm.trans indent
  | some width =>
    rw [hindent] at hresult
    cases hdocument : Json.document room (.indented width) result.toJson with
    | error fault =>
      simp only [hdocument] at hresult
      rw [printed_of_fault (congrArg Written.fault? hresult)]
      constructor
      · rintro ⟨⟩
        exact .size hformat hindent hdocument
      · intro h
        cases h with
        | unencodable format => exact absurd format houtline
        | noIndentation _ indent => cases hindent.symm.trans indent
        | size _ indent document =>
          cases hindent.symm.trans indent
          cases hdocument.symm.trans document
          rfl
    | ok text =>
      simp only [hdocument] at hresult
      obtain ⟨_, rfl⟩ := Json.document_eq_ok_iff.mp hdocument
      have hwhole := Files.whole_of_ascii
        (Json.ascii_write (.indented width) (numberless_result result) 0)
      rw [ending_printed_of_whole hresult hwhole hnotice]
      refine ⟨fun hcompleted => (by cases hcompleted), fun h => ?_⟩
      cases h with
      | unencodable format => exact absurd format houtline
      | noIndentation _ indent => cases hindent.symm.trans indent
      | size _ indent document =>
        cases hindent.symm.trans indent
        cases hdocument.symm.trans document

end

theorem printed_unhandled_iff {room : Room} {options : Options} {result : Result} {p : Prepared}
    (hof : p.Of options (options.writing room result)) (htarget : options.target = .stdout)
    (hrecords : ∀ records, result = .document records → ∀ r ∈ records, r.Writable)
    {cause : Unhandled} :
    p.printed.ending = .unhandled cause ↔ Unprintable room options result cause := by
  have hnotice : p.notice = [] := hof.notice.trans (notice_of_stdout htarget)
  cases hformat : options.format with
  | outline =>
    exact printed_outline_iff hnotice hformat
      (hof.result.trans (writing_outline hformat room result)) hrecords
  | json =>
    exact printed_json_iff hnotice hformat htarget
      (hof.result.trans (writing_json hformat room result))

/-! ## Runs -/

section
variable {room : Room} {options : Options} {source : Files.Source} {cause : Unhandled}

theorem escapes_of_halt {halt : Halt} (h : options.convert source = .error halt) :
    Escapes room options source cause ↔ halt = .unhandled cause := by
  constructor
  · rintro (hinput | ⟨hconverted, _⟩)
    · exact Except.error.inj (h.symm.trans (convert_unhandled_iff.mpr hinput))
    · cases h.symm.trans hconverted
  · rintro rfl
    exact .unconverted (convert_unhandled_iff.mp h)

theorem escapes_of_result {result : Result} {after : Context}
    (h : options.convert source = .ok (result, after)) :
    Escapes room options source cause ↔ Unprintable room options result cause := by
  constructor
  · rintro (hinput | ⟨hconverted, houtput⟩)
    · cases h.symm.trans (convert_unhandled_iff.mpr hinput)
    · cases h.symm.trans hconverted
      exact houtput
  · exact .unprintable h

end

/-- A run that prints its result changes no file. It completes or reports an error, unless its
input cannot be converted for a reason that it does not handle, or its result cannot be
printed. -/
theorem run_to_stdout {words : List Text} {options : Options}
    (hwords : Options.ofWords words = .ok options) (htarget : options.target = .stdout)
    (room : Room) (tree : Files.Tree) :
    (run room words tree).2 = tree ∧
      ((run room words tree).1.ending = .completed ∨
        ((run room words tree).1.ending.status = some 1 ∧ (run room words tree).1.stdout = [] ∧
          ∃ message, (run room words tree).1.stderr = "Error: " ++ message ++ "\n") ∨
        ∃ cause, (run room words tree).1.ending = .unhandled cause) ∧
      ∀ cause, (run room words tree).1.ending = .unhandled cause ↔
        Escapes room options (tree.source options.input) cause := by
  cases stages room words tree with
  | stopped stop hread =>
    rw [hwords] at hread
    cases hread
  | halted options' halt hread hconverted houtcome =>
    obtain rfl : options = options' := Except.ok.inj (hwords.symm.trans hread)
    simp only [houtcome, escapes_of_halt hconverted]
    cases halt with
    | failed message =>
      exact ⟨trivial, .inr (.inl ⟨rfl, rfl, message, rfl⟩), by simp [Halt.report]⟩
    | unhandled cause => exact ⟨trivial, .inr (.inr ⟨cause, rfl⟩), by simp [Halt.report]⟩
  | prepared options' result after p hread hconverted hready houtcome =>
    obtain rfl : options = options' := Except.ok.inj (hwords.symm.trans hread)
    have hdelivered : p.deliver tree = (p.printed, tree) := by
      rw [Prepared.deliver, hready.target, htarget]
    have hunhandled (cause : Unhandled) : p.printed.ending = .unhandled cause ↔
        Unprintable room options result cause := by
      refine printed_unhandled_iff hready htarget ?_
      rintro records rfl
      exact writable_of_convert hconverted
    simp only [houtcome, hdelivered, escapes_of_result hconverted]
    exact ⟨trivial, (ending_printed p).imp_right .inr, hunhandled⟩

/-- A byte that no character starts with. -/
def noCharacter : Utf8.Fault := ⟨.startByte, 0, 1, 0xFF⟩

/-- A file that consists of that byte. -/
def besideNoCharacter : Files.Tree :=
  ⟨[(.above 0, .directory [(Utf8.formOf "in", .file [0xFF])])]⟩

/-- The options of a run on a document. -/
def onDocument : Options := { input := "in" }

/-- An event whose id is half of a surrogate pair. -/
def halfNamed : Creation := ⟨[.surrogate 0], "<block id='a' type='x'></block>"⟩

/-- The options of a run that draws the blocks of events. -/
def onHalfNamed : Options := { events := true, format := .outline, input := "events" }

def halfNamedFile : Files.Tree :=
  oneFile "events" (Json.render .oneLine (.arr [halfNamed.toJson]))

/-- The ids that the conversions of a batch are for. -/
def Result.blocks : Result → List Text
  | .document _ => []
  | .batch conversions => conversions.map Conversion.block

/-- What the event is converted to keeps its id. -/
theorem convert_halfNamed : ∃ conversions after,
    onHalfNamed.convert (halfNamedFile.source "events") = .ok (.batch conversions, after) ∧
      ∃ c ∈ conversions, ¬ Whole c.block := by
  have hblocks : (onHalfNamed.convert (halfNamedFile.source "events")).map
      (fun p => p.1.blocks) = .ok [[.surrogate 0]] := by decide +kernel
  cases hconvert : onHalfNamed.convert (halfNamedFile.source "events") with
  | error halt =>
    rw [hconvert] at hblocks
    cases hblocks
  | ok p =>
    rw [hconvert] at hblocks
    have hbatch : p.1.blocks = [[.surrogate 0]] := Except.ok.inj hblocks
    obtain ⟨records | conversions, after⟩ := p
    · cases hbatch
    · obtain ⟨c, rfl, hblock⟩ := List.map_eq_singleton_iff.mp hbatch
      exact ⟨[c], after, rfl, c, List.mem_singleton_self c,
        fun hwhole => by cases (hblock ▸ hwhole).head⟩

theorem run_to_stdout_noCharacter :
    (Options.ofWords ["in"] = .ok onDocument ∧ onDocument.target = .stdout ∧
      (run smallRoom ["in"] besideNoCharacter).1.ending = .unhandled (.encoding noCharacter)) ∧
    Options.ofWords ["events", "--events", "--format", "outline"] = .ok onHalfNamed ∧
      onHalfNamed.target = .stdout ∧
      ∃ cause, (run smallRoom ["events", "--events", "--format", "outline"] halfNamedFile).1.ending =
        .unhandled (.unencodable cause) := by
  have hwords : Options.ofWords ["in"] = .ok onDocument := by decide +kernel
  have hinput : Unconverted onDocument (besideNoCharacter.source onDocument.input)
      (.encoding noCharacter) := .undecodable rfl rfl (by decide +kernel)
  have hevents : Options.ofWords ["events", "--events", "--format", "outline"] =
      .ok onHalfNamed := by decide +kernel
  obtain ⟨conversions, after, hconverted, c, hc, hblock⟩ := convert_halfNamed
  have hformat : onHalfNamed.format = .outline := rfl
  obtain ⟨cause, houtput⟩ := unprintable_of_block hformat hc hblock smallRoom
  refine ⟨⟨hwords, rfl, ?_⟩, hevents, rfl, cause, ?_⟩
  · exact ((run_to_stdout hwords rfl smallRoom besideNoCharacter).2.2 _).mpr (.unconverted hinput)
  · exact ((run_to_stdout hevents rfl smallRoom halfNamedFile).2.2 _).mpr
      (.unprintable hconverted houtput)

/-- Where a document is no UTF-8, a run neither completes nor reports an error. -/
theorem run_noCharacter :
    (run smallRoom ["in"] besideNoCharacter).1.ending ≠ .completed ∧
      (run smallRoom ["in"] besideNoCharacter).1.ending.status ≠ some 1 ∧
      (run smallRoom ["in"] besideNoCharacter).1.stderr = [] := by
  decide +kernel

end FlatBlocks.Command
