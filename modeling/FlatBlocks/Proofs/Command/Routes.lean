import FlatBlocks.Proofs.Batch.Creation
import FlatBlocks.Proofs.Block.Relabel
import FlatBlocks.Proofs.Command.Delivery
import FlatBlocks.Proofs.Lists

/-! # Events and markup files

A run on a file of events fails if and only if a run on the markup of one of them does.
Otherwise it delivers what the runs on the markup deliver: their outlines, each below a line
with the id of its block, or the values in their documents, each beside the id. -/

namespace FlatBlocks.Command
open FlatBlocks.Text
open Block (Record)

/-- A call of the command on a file with the markup of a creation. -/
structure Call extends Creation where
  words : List Text
  options : Options
  tree : Files.Tree

def Call.run (room : Room) (c : Call) : Report × Files.Tree := Command.run room c.words c.tree

/-- A call on markup that is accepted, in the format and with the treatment of malformed
blocks that some settings ask for. Its file holds the markup in UTF-8. -/
structure Call.Fits (settings : Settings) (c : Call) : Prop where
  block : Whole c.block
  markup : Whole c.markup
  noReturn : .char '\x0d' ∉ c.markup
  accepted : ∃ nodes, Markup.parse c.markup = .ok nodes
  words : Options.ofWords c.words = .ok c.options
  noEvents : c.options.events = false
  format : c.options.format = settings.format
  skipMalformed : c.options.skipMalformed = settings.skipMalformed
  file : c.tree.read c.options.input = .ok (Utf8.formOf c.markup)

/-- A value can be laid out, if it is to be. -/
def Options.LaysOut (options : Options) (room : Room) (value : Json) : Prop :=
  options.format = .json →
    ∃ width, options.indent = some width ∧ Json.Fits room (.indented width) value

/-- What the input is converted to can be laid out and put where it is to go. -/
structure Options.Ready (options : Options) (room : Room) (tree : Files.Tree) : Prop where
  grounded : tree.Grounded
  place : options.target.Open tree
  layout : ∀ result after, options.convert (tree.source options.input) = .ok (result, after) →
    options.LaysOut room result.toJson

/-! ## Results -/

/-- The records of a conversion are read back as they are. -/
theorem readBack_eq (c : Conversion) : Result.readBack c = .ok (c.records.map Record.loose) := by
  rw [Result.readBack]
  induction c.records with
  | nil => rfl
  | cons r rest ih =>
    rw [List.map_cons, List.mapM_cons, ih, Block.ofJson_loose]
    rfl

/-- The outline of the records of a conversion, below a line with its id. -/
def headed (c : Conversion) : Text := "# " ++ c.block ++ "\n" ++ Block.Outline.render c.records

theorem outlineOf_eq (c : Conversion) : Result.outlineOf c = .ok (headed c) := by
  rw [Result.outlineOf, readBack_eq]
  show Except.ok ("# " ++ c.block ++ "\n" ++
    Block.Outline.render ((c.records.map Record.loose).map Block.Outline.clearLinks)) = _
  rw [Block.Outline.render_loose]
  rfl

/-- The outline of a result. -/
def Result.drawn : Result → Text
  | document records => Block.Outline.render records
  | batch conversions => List.intercalate "\n" (conversions.map headed)

theorem outline_eq (result : Result) : result.outline = .ok result.drawn := by
  cases result with
  | document records => rfl
  | batch conversions =>
    have hall : conversions.mapM Result.outlineOf = .ok (conversions.map headed) := by
      rw [funext outlineOf_eq]
      exact List.mapM_pure
    rw [Result.outline, hall]
    rfl

/-- What is written of a result. -/
def Options.writing (options : Options) (room : Room) (result : Result) : Written Unhandled :=
  match options.format with
  | .outline => { text := result.drawn }
  | .json => options.jsonText room result.toJson

/-- No record of a result is refused when it is read back. -/
theorem resultText_eq (options : Options) (room : Room) (result : Result) :
    options.resultText room result = .ok (options.writing room result) := by
  unfold Options.resultText Options.writing
  rw [outline_eq]
  cases options.format with
  | outline => rfl
  | json => rfl

theorem writing_outline {options : Options} (h : options.format = .outline) (room : Room)
    (result : Result) : options.writing room result = { text := result.drawn } := by
  rw [Options.writing, h]

theorem writing_json {options : Options} (h : options.format = .json) (room : Room)
    (result : Result) : options.writing room result = options.jsonText room result.toJson := by
  rw [Options.writing, h]

/-- JSON for which there is room is written to its end, wherever it goes. -/
theorem Options.LaysOut.jsonText_eq {options : Options} {room : Room} {value : Json}
    (h : options.LaysOut room value) (hformat : options.format = .json) :
    ∃ width, options.jsonText room value = { text := Json.render (.indented width) value } := by
  obtain ⟨width, hindent, hfits⟩ := h hformat
  refine ⟨width, ?_⟩
  have hstream := Json.stream_of_fits hfits
  have hdocument := Json.document_eq_ok_iff.mpr ⟨hfits, rfl⟩
  rw [jsonText, hindent]
  cases options.target with
  | file path makeParents =>
    simp only [hstream]
    rfl
  | stdout | nowhere =>
    simp only [hdocument]
    rfl

/-! ## Runs -/

/-- A delivery that comes of what is written, with its warnings left open. -/
structure Prepared.Of (p : Prepared) (options : Options) (result : Written Unhandled) : Prop where
  target : p.target = options.target
  result : p.result = result
  notice : p.notice = options.notice

section
variable {room : Room} {words : List Text} {options : Options} {tree : Files.Tree}
  (hwords : Options.ofWords words = .ok options)
include hwords

theorem run_of_halt {halt : Halt}
    (h : options.convert (tree.source options.input) = .error halt) :
    run room words tree = (halt.report, tree) := by
  have hprepare : prepare room options (tree.source options.input) = .error halt := by
    rw [prepare, h]
    rfl
  rw [run, hwords]
  simp only [hprepare]

theorem run_of_result {result : Result} {after : Context}
    (h : options.convert (tree.source options.input) = .ok (result, after)) :
    ∃ p : Prepared, p.Of options (options.writing room result) ∧
      run room words tree = p.deliver tree := by
  refine ⟨⟨options.target, options.writing room result, warningsText options after,
    options.notice⟩, ⟨rfl, rfl, rfl⟩, ?_⟩
  have hprepare : prepare room options (tree.source options.input) = .ok ⟨options.target,
      options.writing room result, warningsText options after, options.notice⟩ := by
    rw [prepare, h]
    show (options.resultText room result).bind _ = _
    rw [resultText_eq]
    rfl
  rw [run, hwords]
  simp only [hprepare]

end

/-- A whole text that is ready is delivered. -/
theorem Prepared.Of.delivered {p : Prepared} {options : Options} {room : Room} {tree : Files.Tree}
    {text : Text} (h : p.Of options { text }) (hready : options.Ready room tree)
    (hwhole : Whole text) : Delivered options (p.deliver tree) text := by
  have hnotice : p.target = .stdout → p.notice = [] := by
    intro hstdout
    rw [h.notice]
    exact notice_of_stdout (h.target ▸ hstdout)
  obtain ⟨hending, hholds⟩ := delivered_of_open (h.target ▸ hready.place) hready.grounded
    hnotice h.result hwhole
  exact ⟨h.notice ▸ hending, h.target ▸ hholds⟩

/-- A document is delivered that reads back as its value. -/
theorem Prepared.Of.delivered_document {p : Prepared} {options : Options} {room : Room}
    {tree : Files.Tree} {result : Result} (h : p.Of options (options.writing room result))
    (hready : options.Ready room tree) (hlayout : options.LaysOut room result.toJson)
    (hformat : options.format = .json) (hplain : Json.Plain result.toJson) :
    ∃ document, Delivered options (p.deliver tree) document ∧
      Json.parse document = .ok result.toJson := by
  obtain ⟨width, hdocument⟩ := hlayout.jsonText_eq hformat
  rw [writing_json hformat, hdocument] at h
  exact ⟨_, h.delivered hready (Files.whole_of_ascii (Json.ascii_write _ hplain.numberless 0)),
    Json.parse_render _ hplain⟩

/-! ## Runs on markup -/

namespace Call

variable {settings : Settings} {c : Call} (h : c.Fits settings)
include h

theorem Fits.text : (c.tree.source c.options.input).text = .ok c.markup := by
  unfold Files.Source.text Files.Tree.source
  simp only [h.file, Utf8.decode_formOf h.markup, Utf8.unifyLines_eq h.noReturn]

/-- The conversion of the file, whatever comes of its markup. -/
theorem Fits.convert_eq {result : Except Failure (List (Record Text))}
    (hresult : recordsOf settings.skipMalformed c.markup = result) :
    ∃ after, c.options.convert (c.tree.source c.options.input) = match result with
      | .error failure => .error (haltOf c.options failure)
      | .ok records => .ok (.document records, after) := by
  obtain ⟨nodes, hparse⟩ := h.accepted
  have hconvert := (records_of_convertMarkup hparse { source := c.options.input }).trans hresult
  rw [← h.skipMalformed] at hconvert
  refine ⟨(convertMarkup c.markup c.options.skipMalformed { source := c.options.input }).2, ?_⟩
  rw [Options.convert, h.noEvents, Options.convertDocument, h.text]
  simp only [Bool.false_eq_true, if_false]
  rw [← hconvert]
  split <;> rename_i hpair <;> rw [hpair] <;> rfl

theorem run_of_failure (room : Room) {failure : Failure}
    (hfailure : recordsOf settings.skipMalformed c.markup = .error failure) :
    (c.run room).1.ending = .failed := by
  obtain ⟨nodes, hparse⟩ := h.accepted
  obtain ⟨cause, rfl⟩ := malformed_of_recordsOf hparse hfailure
  obtain ⟨_, hconvert⟩ := h.convert_eq hfailure
  rw [run, run_of_halt h.words hconvert]
  rfl

theorem run_of_records (room : Room) {records : List (Record Text)}
    (hrecords : recordsOf settings.skipMalformed c.markup = .ok records) :
    ∃ p : Prepared, p.Of c.options (c.options.writing room (.document records)) ∧
      c.run room = p.deliver c.tree := by
  obtain ⟨_, hconvert⟩ := h.convert_eq hrecords
  exact run_of_result h.words hconvert

theorem failed_iff (room : Room) : (c.run room).1.ending.status = some 1 ↔
    ∃ failure, recordsOf settings.skipMalformed c.markup = .error failure := by
  cases hrecords : recordsOf settings.skipMalformed c.markup with
  | error failure => simp [run_of_failure h room hrecords, Ending.status]
  | ok records =>
    obtain ⟨p, _, hrun⟩ := run_of_records h room hrecords
    simp [hrun, status_deliver p c.tree]

theorem writable {records : List (Record Text)}
    (hrecords : recordsOf settings.skipMalformed c.markup = .ok records) :
    ∀ r ∈ records, r.Writable := by
  obtain ⟨nodes, hparse⟩ := h.accepted
  exact writable_of_recordsOf hparse h.markup hrecords

variable {room : Room} {records : List (Record Text)}
  (hrecords : recordsOf settings.skipMalformed c.markup = .ok records)
  (hready : c.options.Ready room c.tree)
include hrecords hready

theorem delivers_outline (hformat : settings.format = .outline) :
    Delivered c.options (c.run room) (Block.Outline.render records) := by
  obtain ⟨p, hof, hrun⟩ := run_of_records h room hrecords
  rw [writing_outline (h.format.trans hformat)] at hof
  rw [hrun]
  exact hof.delivered hready (Block.Outline.whole_render (writable h hrecords))

theorem delivers_document (hformat : settings.format = .json) :
    ∃ document, Delivered c.options (c.run room) document ∧
      Json.parse document = .ok (Block.payload records) := by
  obtain ⟨after, hconvert⟩ := h.convert_eq hrecords
  obtain ⟨p, hof, hrun⟩ := run_of_result h.words hconvert
  rw [run, hrun]
  exact hof.delivered_document hready (hready.layout _ after hconvert) (h.format.trans hformat)
    (Block.plain_payload (writable h hrecords))

end Call

/-! ## Runs on events -/

/-- Whole ids above outlines of records that can be written. -/
theorem whole_headed {c : Conversion} (hblock : Whole c.block)
    (hrecords : ∀ r ∈ c.records, r.Writable) : Whole (headed c) :=
  (((whole_ofString "# ").append hblock).append (whole_ofString "\n")).append
    (Block.Outline.whole_render hrecords)

theorem plain_conversion {c : Conversion} (hblock : Whole c.block)
    (hrecords : ∀ r ∈ c.records, r.Writable) : Json.Plain c.toJson := by
  refine .obj ?_ ?_ ?_
  · show (["blockId", "blocks"] : List Text).Nodup
    decide
  · simp [whole_ofString]
  · simp [Json.Plain.str hblock, Block.plain_payload hrecords]

/-- Each result is that of the call at its place. -/
theorem results_of_calls {batch : List Call} {skip : Bool} {results : List Conversion}
    (h : (batch.map Call.toCreation).mapM (Creation.converted skip) = .ok results) :
    List.Forall₂ (fun c r => c ∈ batch ∧ c.block = r.block ∧
      recordsOf skip c.markup = .ok r.records) batch results := by
  refine (List.forall₂_and_left _ _).mpr ⟨fun c hc => hc, ?_⟩
  refine (List.forall₂_map_left_iff.mp (forall₂_of_mapM_ok h)).imp fun c r hone => ?_
  obtain ⟨hrecords, hblock⟩ := Creation.converted_eq_ok_iff.mp hone
  exact ⟨hblock, hrecords⟩

/-- A run on a file of events that create. -/
structure OnEvents (batch : List Call) (words : List Text) (options : Options)
    (tree : Files.Tree) : Prop where
  words : Options.ofWords words = .ok options
  events : options.events = true
  file : (tree.source options.input).json .null =
    .ok (.arr (batch.map fun c => c.toCreation.toJson))
  fits : ∀ c ∈ batch, c.Fits options.toSettings

namespace OnEvents

variable {batch : List Call} {words : List Text} {options : Options} {tree : Files.Tree}
  (h : OnEvents batch words options tree)
include h

theorem loaded : (tree.source options.input).events options.input =
    .ok (batch.map fun c => c.toCreation.toJson) := by
  have hexists : (tree.source options.input).exists? = true := by
    by_contra hno
    have hfile := h.file
    rw [Files.Source.json, if_neg hno] at hfile
    cases hfile
  unfold Files.Source.events
  rw [if_pos hexists, h.file]
  rfl

theorem converted (ctx : Context) :
    (convertEvents ((batch.map fun c => c.toCreation.toJson).map Event.ofJson)
      options.skipMalformed ctx).1 =
        (batch.map Call.toCreation).mapM (Creation.converted options.skipMalformed) := by
  have haccepted : ∀ c ∈ batch.map Call.toCreation,
      ∃ nodes, Markup.parse c.markup = .ok nodes := by
    intro c hc
    obtain ⟨call, hcall, rfl⟩ := List.mem_map.mp hc
    exact (h.fits call hcall).accepted
  rw [← Creation.convertEvents_creations haccepted ctx, List.map_map, List.map_map]
  rfl

/-- The conversion of the events, whatever comes of them. -/
theorem convert_eq {result : Except Failure (List Conversion)}
    (hresult : (batch.map Call.toCreation).mapM (Creation.converted options.skipMalformed) =
      result) :
    ∃ after, options.convert (tree.source options.input) = match result with
      | .error failure => .error (haltOf options failure)
      | .ok results => .ok (.batch results, after) := by
  have hconvert := (h.converted { source := options.input }).trans hresult
  refine ⟨(convertEvents ((batch.map fun c => c.toCreation.toJson).map Event.ofJson)
    options.skipMalformed { source := options.input }).2, ?_⟩
  rw [Options.convert, h.events, if_pos rfl, Options.convertBatch, h.loaded]
  simp only
  rw [← hconvert]
  split <;> rename_i hpair <;> rw [hpair] <;> rfl

theorem run_of_failure (room : Room) {failure : Failure}
    (hfailure : (batch.map Call.toCreation).mapM (Creation.converted options.skipMalformed) =
      .error failure) :
    (run room words tree).1.ending = .failed ∧
      ∃ c ∈ batch, recordsOf options.skipMalformed c.markup = .error failure := by
  obtain ⟨creation, hm, hcreation⟩ := exists_of_mapM_error hfailure
  obtain ⟨c, hc, rfl⟩ := List.mem_map.mp hm
  have hrecords := Creation.converted_eq_error_iff.mp hcreation
  obtain ⟨nodes, hparse⟩ := (h.fits c hc).accepted
  obtain ⟨cause, rfl⟩ := malformed_of_recordsOf hparse hrecords
  obtain ⟨_, hconvert⟩ := h.convert_eq hfailure
  rw [run_of_halt h.words hconvert]
  exact ⟨rfl, c, hc, hrecords⟩

theorem run_of_results (room : Room) {results : List Conversion}
    (hresults : (batch.map Call.toCreation).mapM (Creation.converted options.skipMalformed) =
      .ok results) :
    ∃ p : Prepared, p.Of options (options.writing room (.batch results)) ∧
      run room words tree = p.deliver tree := by
  obtain ⟨after, hconvert⟩ := h.convert_eq hresults
  exact run_of_result h.words hconvert

/-- The run fails if and only if one of the calls does. -/
theorem failed_iff (room : Room) : (run room words tree).1.ending.status = some 1 ↔
    ∃ c ∈ batch, (c.run room).1.ending.status = some 1 := by
  have hcalls : (∃ c ∈ batch, (c.run room).1.ending.status = some 1) ↔
      ∃ c ∈ batch, ∃ failure, recordsOf options.skipMalformed c.markup = .error failure :=
    exists_congr fun c => and_congr_right fun hc => Call.failed_iff (h.fits c hc) room
  rw [hcalls]
  cases hresults : (batch.map Call.toCreation).mapM
      (Creation.converted options.skipMalformed) with
  | error failure =>
    obtain ⟨hending, c, hc, hrecords⟩ := h.run_of_failure room hresults
    exact ⟨fun _ => ⟨c, hc, failure, hrecords⟩, fun _ => by rw [hending]; rfl⟩
  | ok results =>
    obtain ⟨p, _, hrun⟩ := h.run_of_results room hresults
    refine ⟨fun hstatus => absurd (hrun ▸ hstatus) (status_deliver p tree), ?_⟩
    rintro ⟨c, hc, failure, hfailure⟩
    obtain ⟨r, _, _, hrecords⟩ := exists_of_forall₂ (results_of_calls hresults) c hc
    rw [hrecords] at hfailure
    cases hfailure

/-- What results hold is whole and can be written. -/
theorem writable_results {results : List Conversion}
    (hresults : (batch.map Call.toCreation).mapM (Creation.converted options.skipMalformed) =
      .ok results) :
    ∀ r ∈ results, Whole r.block ∧ ∀ record ∈ r.records, record.Writable := by
  intro r hr
  obtain ⟨c, hc, hblock, hrecords⟩ := exists_of_forall₂ (results_of_calls hresults).flip r hr
  exact ⟨hblock ▸ (h.fits c hc).block, Call.writable (h.fits c hc) hrecords⟩

section
variable {room : Room} (hready : options.Ready room tree) {results : List Conversion}
  (hresults : (batch.map Call.toCreation).mapM (Creation.converted options.skipMalformed) =
    .ok results)
include hready hresults

theorem delivers_outlines (hformat : options.format = .outline) :
    Delivered options (run room words tree) (List.intercalate "\n" (results.map headed)) := by
  obtain ⟨p, hof, hrun⟩ := h.run_of_results room hresults
  rw [writing_outline hformat] at hof
  rw [hrun]
  refine hof.delivered hready (whole_intercalate (whole_ofString "\n") fun t ht => ?_)
  obtain ⟨r, hr, rfl⟩ := List.mem_map.mp ht
  obtain ⟨hblock, hrecords⟩ := h.writable_results hresults r hr
  exact whole_headed hblock hrecords

theorem delivers_document (hformat : options.format = .json) :
    ∃ document, Delivered options (run room words tree) document ∧
      Json.parse document = .ok (.arr (results.map Conversion.toJson)) := by
  have hplain : Json.Plain (.arr (results.map Conversion.toJson)) := by
    refine .arr fun item hitem => ?_
    obtain ⟨r, hr, rfl⟩ := List.mem_map.mp hitem
    obtain ⟨hblock, hrecords⟩ := h.writable_results hresults r hr
    exact plain_conversion hblock hrecords
  obtain ⟨after, hconvert⟩ := h.convert_eq hresults
  obtain ⟨p, hof, hrun⟩ := run_of_result h.words hconvert
  rw [hrun]
  exact hof.delivered_document hready (hready.layout _ after hconvert) hformat hplain

end

end OnEvents

/-- **A run on events and runs on their markup agree.** The one fails if and only if one of the
others does. Otherwise, if all of them are ready to deliver, the outlines of the events are those
of the markup, each below a line with the id of its block, and the value in the document of the
events holds those in the documents of the markup, each beside the id. -/
theorem routes_agree {batch : List Call} {words : List Text} {options : Options}
    {tree : Files.Tree} (h : OnEvents batch words options tree) (room : Room) :
    ((run room words tree).1.ending.status = some 1 ↔
        ∃ c ∈ batch, (c.run room).1.ending.status = some 1) ∧
      ((∀ c ∈ batch, (c.run room).1.ending.status ≠ some 1) →
        options.Ready room tree → (∀ c ∈ batch, c.options.Ready room c.tree) →
        (options.format = .outline → ∃ outlines,
          List.Forall₂ (fun c outline => Delivered c.options (c.run room) outline)
            batch outlines ∧
          Delivered options (run room words tree) (List.intercalate "\n"
            (List.zipWith (fun c outline => "# " ++ c.block ++ "\n" ++ outline)
              batch outlines))) ∧
        (options.format = .json → ∃ payloads document,
          List.Forall₂ (fun c payload => ∃ document, Delivered c.options (c.run room) document ∧
            Json.parse document = .ok payload) batch payloads ∧
          Delivered options (run room words tree) document ∧
          Json.parse document = .ok (.arr (List.zipWith
            (fun c payload => .obj [("blockId", .str c.block), ("blocks", payload)])
              batch payloads)))) := by
  refine ⟨h.failed_iff room, fun hnone hready hcalls => ?_⟩
  obtain ⟨results, hresults⟩ : ∃ results, (batch.map Call.toCreation).mapM
      (Creation.converted options.skipMalformed) = .ok results := by
    cases hresults : (batch.map Call.toCreation).mapM
        (Creation.converted options.skipMalformed) with
    | ok results => exact ⟨results, rfl⟩
    | error failure =>
      obtain ⟨_, c, hc, hrecords⟩ := h.run_of_failure room hresults
      exact absurd ((Call.failed_iff (h.fits c hc) room).mpr ⟨failure, hrecords⟩) (hnone c hc)
  have hall := results_of_calls hresults
  refine ⟨fun hformat => ?_, fun hformat => ?_⟩
  · refine ⟨results.map fun r => Block.Outline.render r.records,
      List.forall₂_map_right_iff.mpr (hall.imp fun c r hone => ?_), ?_⟩
    · obtain ⟨hc, _, hrecords⟩ := hone
      exact Call.delivers_outline (h.fits c hc) hrecords (hcalls c hc) hformat
    · rw [List.zipWith_map_right, zipWith_eq_map_of_forall₂ hall fun c r hone => ?_]
      · exact h.delivers_outlines hready hresults hformat
      · rw [hone.2.1]
        rfl
  · obtain ⟨document, hdelivered, hparse⟩ := h.delivers_document hready hresults hformat
    refine ⟨results.map fun r => Block.payload r.records, document,
      List.forall₂_map_right_iff.mpr (hall.imp fun c r hone => ?_), hdelivered, ?_⟩
    · obtain ⟨hc, _, hrecords⟩ := hone
      exact Call.delivers_document (h.fits c hc) hrecords (hcalls c hc) hformat
    · rw [List.zipWith_map_right, zipWith_eq_map_of_forall₂ hall fun c r hone => ?_]
      · exact hparse
      · rw [hone.2.1]
        rfl

/-! ## Two creations -/

/-- A tree with one file in the working directory. -/
def oneFile (name content : Text) : Files.Tree :=
  ⟨[(.above 0, .directory [(Utf8.formOf name, .file (Utf8.formOf content))])]⟩

theorem grounded_oneFile (name content : Text) : (oneFile name content).Grounded := by
  intro base
  cases base with
  | above levels => cases levels <;> rfl
  | root => rfl

/-- A call for the outline of markup in a file, in which malformed blocks are left out. -/
def outlineCall (c : Creation) : Call where
  toCreation := c
  words := ["--format", "outline", "--skip-malformed", "-o", "out", "in"]
  options := { output := .path "out", format := .outline, skipMalformed := true, input := "in" }
  tree := oneFile "in" c.markup

/-- A block with a field, and one without a type beside one whose type is a reference. -/
def twoCreations : List Creation :=
  [⟨"a", "<block id='x' type='t'><field name='F'>v</field></block>"⟩,
    ⟨"\"b\"", "<block id='y'></block><block id='z' type='&eacute;'></block>"⟩]

/-- The options of a run on the events. -/
def onEvents : Options :=
  { events := true, output := .path "out", format := .outline, skipMalformed := true
    input := "events" }

def eventsWords : List Text :=
  ["events", "--events", "--format", "outline", "--skip-malformed", "-o", "out"]

def eventsFile : Files.Tree :=
  oneFile "events" (Json.render .oneLine (.arr (twoCreations.map Creation.toJson)))

theorem onEvents_twoCreations :
    OnEvents (twoCreations.map outlineCall) eventsWords onEvents eventsFile := by
  have hwhole : ∀ c ∈ twoCreations, Whole c.block ∧ Whole c.markup ∧ .char '\x0d' ∉ c.markup := by
    unfold Whole
    decide +kernel
  have haccepted : ∀ c ∈ twoCreations, (Markup.parse c.markup).isOk = true := by decide +kernel
  have hwords : ∀ c ∈ twoCreations,
      Options.ofWords (outlineCall c).words = .ok (outlineCall c).options := by decide +kernel
  have hplain : Json.Plain (.arr (twoCreations.map Creation.toJson)) := by
    refine .arr fun item hitem => ?_
    obtain ⟨c, hc, rfl⟩ := List.mem_map.mp hitem
    exact Creation.plain_toJson (hwhole c hc).1 (hwhole c hc).2.1
  have hread : eventsFile.read "events" =
      .ok (Utf8.formOf (Json.render .oneLine (.arr (twoCreations.map Creation.toJson)))) := rfl
  refine ⟨by decide +kernel, rfl, ?_, ?_⟩
  · rw [List.map_map]
    exact Files.json_of_read hplain hread .null
  · intro call hcall
    obtain ⟨c, hc, rfl⟩ := List.mem_map.mp hcall
    obtain ⟨hblock, hmarkup, hreturn⟩ := hwhole c hc
    exact ⟨hblock, hmarkup, hreturn, Markup.accepted_of_isOk (haccepted c hc), hwords c hc,
      rfl, rfl, rfl, rfl⟩

/-- Room for small documents. -/
def smallRoom : Room := ⟨4096, by decide⟩

theorem routes_agree_twoCreations :
    OnEvents (twoCreations.map outlineCall) eventsWords onEvents eventsFile ∧
      (run smallRoom eventsWords eventsFile).1.ending = .completed ∧
      ∃ outlines,
        List.Forall₂ (fun c outline => Delivered c.options (c.run smallRoom) outline)
          (twoCreations.map outlineCall) outlines ∧
        Delivered onEvents (run smallRoom eventsWords eventsFile) (List.intercalate "\n"
          (List.zipWith (fun c outline => "# " ++ c.block ++ "\n" ++ outline)
            (twoCreations.map outlineCall) outlines)) := by
  have hrecords : ∀ c ∈ twoCreations.map outlineCall, (recordsOf true c.markup).isOk = true := by
    decide +kernel
  have hnone : ∀ c ∈ twoCreations.map outlineCall,
      (c.run smallRoom).1.ending.status ≠ some 1 := by
    intro c hc hstatus
    obtain ⟨failure, hfailure⟩ :=
      (Call.failed_iff (onEvents_twoCreations.fits c hc) smallRoom).mp hstatus
    have hok := hrecords c hc
    rw [show recordsOf true c.markup = .error failure from hfailure] at hok
    cases hok
  have hready : onEvents.Ready smallRoom eventsFile :=
    ⟨grounded_oneFile _ _, ⟨_, rfl⟩, fun _ _ _ => nofun⟩
  have hcalls : ∀ c ∈ twoCreations.map outlineCall, c.options.Ready smallRoom c.tree := by
    intro call hcall
    obtain ⟨c, hc, rfl⟩ := List.mem_map.mp hcall
    exact ⟨grounded_oneFile _ _, ⟨_, rfl⟩, fun _ _ _ => nofun⟩
  have hnotice : Whole onEvents.notice := by
    unfold Whole
    decide +kernel
  obtain ⟨_, hdeliver⟩ := routes_agree onEvents_twoCreations smallRoom
  obtain ⟨outlines, houtlines, hdelivered⟩ := (hdeliver hnone hready hcalls).1 rfl
  exact ⟨onEvents_twoCreations, hdelivered.ending hnotice, outlines, houtlines, hdelivered⟩

end FlatBlocks.Command
