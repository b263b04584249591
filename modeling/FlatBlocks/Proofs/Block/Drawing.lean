import FlatBlocks.Proofs.Block.Forest
import FlatBlocks.Proofs.Block.Reach

/-! # Drawing trees

Where nothing is given twice, the outline of the records of some roots is what is read
off the trees of the roots directly: no element is met twice, so no marker is printed and
each block stands where its element does. The walk through the records keeps to the
elements of one tree while it is drawn, so what has been visited are at every point the
elements that have been drawn. -/

namespace FlatBlocks.Block.Outline
open Markup (Node)

/-! ## What is drawn -/

/-- The name of a child that is a slot for an input, and the block plugged into it. -/
def namedPlug? (child : Node) : Option (Text × Node) :=
  match Role.of child with
  | .slot true => do
    let name ← child.get? "name"
    let block ← effective? child
    some (name, block)
  | _ => none

/-- The block that a child gives as the next one. -/
def nextPlug? (child : Node) : Option Node :=
  match Role.of child with
  | .slot false => effective? child
  | _ => none

/-- The inputs of an element, in document order. -/
def inputPlugs (node : Node) : List (Text × Node) := node.children.filterMap namedPlug?

/-- What comes next to an element, wherever it stands among the children. -/
def nextPlugs (node : Node) : List Node := node.children.filterMap nextPlug?

/-- The fields of an element, each where its name is first given, with the value given last. -/
def shownFields (node : Node) : List (Field Text) :=
  let given := node.children.filterMap fieldOf?
  (given.map Field.name).eraseDups.filterMap fun name => given.reverse.find? (·.name == name)

def fieldDrawing (field : Field Text) : Text := " [" ++ field.name ++ ": " ++ field.value ++ "]"

/-- The type of an element and its fields. -/
def headline (node : Node) : Text :=
  (node.get? "type").getD "" ++ (shownFields node).flatMap fieldDrawing

/-- What a line of a level starts with. -/
def margin (level : Nat) : Text := List.replicate (4 * level) (.char ' ')

theorem namedPlug?_eq_some {child block : Node} {name : Text}
    (h : namedPlug? child = some (name, block)) :
    Role.of child = .slot true ∧ child.get? "name" = some name ∧ effective? child = some block := by
  unfold namedPlug? at h
  split at h
  · rename_i hrole
    obtain ⟨name, hname, h⟩ := Option.bind_eq_some_iff.mp h
    obtain ⟨block, hblock, h⟩ := Option.bind_eq_some_iff.mp h
    cases h
    exact ⟨hrole, hname, hblock⟩
  · cases h

theorem nextPlug?_eq_some {child block : Node} (h : nextPlug? child = some block) :
    Role.of child = .slot false ∧ effective? child = some block := by
  unfold nextPlug? at h
  split at h
  · rename_i hrole
    exact ⟨hrole, h⟩
  · cases h

theorem mem_plugs_of_inputPlugs {node : Node} {plug : Text × Node} (h : plug ∈ inputPlugs node) :
    plug.2 ∈ plugs node := by
  obtain ⟨child, hc, hplug⟩ := List.mem_filterMap.mp h
  obtain ⟨hrole, _, hblock⟩ := namedPlug?_eq_some hplug
  exact List.mem_filterMap.mpr ⟨child, hc, by rw [held?_slot hrole, hblock]⟩

theorem mem_plugs_of_nextPlugs {node block : Node} (h : block ∈ nextPlugs node) :
    block ∈ plugs node := by
  obtain ⟨child, hc, hplug⟩ := List.mem_filterMap.mp h
  obtain ⟨hrole, hblock⟩ := nextPlug?_eq_some hplug
  exact List.mem_filterMap.mpr ⟨child, hc, by rw [held?_slot hrole, hblock]⟩

/-- The name of an input of a block, and below it the drawing of its stack. -/
def inputDrawing (level : Nat) (name stack : Text) : Text :=
  margin (level + 1) ++ name ++ ":\n" ++ stack

/-- The drawing of the stack that starts with an element. -/
def drawing (level : Nat) (node : Node) : Text :=
  margin level ++ headline node ++ "\n" ++
    ((inputPlugs node).attach.flatMap fun ⟨plug, _⟩ =>
      inputDrawing level plug.1 (drawing (level + 2) plug.2)) ++
    (nextPlugs node).attach.flatMap fun ⟨block, _⟩ => drawing level block
termination_by sizeOf node
decreasing_by
  · exact sizeOf_lt_of_mem_plugs (mem_plugs_of_inputPlugs ‹_›)
  · exact sizeOf_lt_of_mem_plugs (mem_plugs_of_nextPlugs ‹_›)

theorem drawing_eq (level : Nat) (node : Node) :
    drawing level node = margin level ++ headline node ++ "\n" ++
      ((inputPlugs node).flatMap fun plug =>
        inputDrawing level plug.1 (drawing (level + 2) plug.2)) ++
      (nextPlugs node).flatMap (drawing level) := by
  rw [drawing,
    List.flatMap_subtype (g := fun plug : Text × Node =>
      inputDrawing level plug.1 (drawing (level + 2) plug.2)) (fun _ _ => rfl),
    List.unattach_attach, List.flatMap_subtype (g := drawing level) (fun _ _ => rfl),
    List.unattach_attach]

/-! ## What a record keeps of its element -/

/-- A child holds a block for an input, a next block, or none. -/
theorem plug_cases {child : Node} (h : Gives child) :
    (∃ name block, namedPlug? child = some (name, block) ∧ nextPlug? child = none ∧
      inputOf? child = some ⟨name, idOf block⟩ ∧ nextOf? child = none ∧
      held? child = some block) ∨
    (∃ block, namedPlug? child = none ∧ nextPlug? child = some block ∧
      inputOf? child = none ∧ nextOf? child = some (idOf block) ∧ held? child = some block) ∨
    (namedPlug? child = none ∧ nextPlug? child = none ∧
      inputOf? child = none ∧ nextOf? child = none ∧ held? child = none) := by
  cases hrole : Role.of child with
  | field => simp [namedPlug?, nextPlug?, inputOf?, nextOf?, held?, hrole]
  | other => simp [namedPlug?, nextPlug?, inputOf?, nextOf?, held?, hrole]
  | slot named =>
    cases named with
    | true =>
      simp only [Gives, hrole] at h
      obtain ⟨link, hlink⟩ := Option.isSome_iff_exists.mp h
      obtain ⟨block, hheld, hid⟩ := held_of_inputOf? hlink
      have heffective : effective? child = some block := by rw [← held?_slot hrole, hheld]
      refine .inl ⟨link.name, block, ?_, ?_, ?_, ?_, hheld⟩
      · simp [namedPlug?, hrole, name_of_inputOf? hlink, heffective]
      · simp [nextPlug?, hrole]
      · simp [hlink, idOf, hid]
      · simp [nextOf?, hrole]
    | false =>
      simp only [Gives, hrole] at h
      obtain ⟨target, hnext⟩ := Option.isSome_iff_exists.mp h
      obtain ⟨block, hheld, hid⟩ := held_of_nextOf? hnext
      have heffective : effective? child = some block := by rw [← held?_slot hrole, hheld]
      refine .inr (.inl ⟨block, ?_, ?_, ?_, ?_, hheld⟩)
      · simp [namedPlug?, hrole]
      · simp [nextPlug?, hrole, heffective]
      · simp [inputOf?, hrole]
      · simp [hnext, idOf, hid]

/-- The link to the block of an input. -/
def linkTo (plug : Text × Node) : Link Text := ⟨plug.1, idOf plug.2⟩

section
variable {children : List Node} (h : ∀ child ∈ children, Gives child)
include h

theorem inputOf?_eq : children.filterMap inputOf? = (children.filterMap namedPlug?).map linkTo := by
  rw [List.map_filterMap]
  apply List.filterMap_congr
  intro child hc
  obtain ⟨name, block, hplug, _, hlink, _⟩ | ⟨block, hplug, _, hlink, _⟩ | ⟨hplug, _, hlink, _⟩ :=
    plug_cases (h child hc)
  all_goals rw [hplug, hlink]; rfl

theorem nextOf?_eq : children.filterMap nextOf? = (children.filterMap nextPlug?).map idOf := by
  rw [List.map_filterMap]
  apply List.filterMap_congr
  intro child hc
  obtain ⟨_, block, _, hplug, _, hnext, _⟩ | ⟨block, _, hplug, _, hnext, _⟩ |
    ⟨_, hplug, _, hnext, _⟩ := plug_cases (h child hc)
  all_goals rw [hplug, hnext]; rfl

/-- The inputs and then what is next are all that is plugged in. -/
theorem plugs_perm_held : ((children.filterMap namedPlug?).map Prod.snd ++
    children.filterMap nextPlug?).Perm (children.filterMap held?) := by
  induction children with
  | nil => exact .nil
  | cons child rest ih =>
    have ih := ih fun c hc => h c (List.mem_cons_of_mem _ hc)
    obtain ⟨name, block, hnamed, hnext, _, _, hheld⟩ | ⟨block, hnamed, hnext, _, _, hheld⟩ |
      ⟨hnamed, hnext, _, _, hheld⟩ := plug_cases (h child List.mem_cons_self)
    · rw [List.filterMap_cons_some hnamed, List.filterMap_cons_none hnext,
        List.filterMap_cons_some hheld, List.map_cons]
      exact ih.cons block
    · rw [List.filterMap_cons_none hnamed, List.filterMap_cons_some hnext,
        List.filterMap_cons_some hheld]
      exact List.perm_middle.trans (ih.cons block)
    · rw [List.filterMap_cons_none hnamed, List.filterMap_cons_none hnext,
        List.filterMap_cons_none hheld]
      exact ih

end

theorem fields_of_record (topLevel : Bool) (node : Node) :
    (recordOf topLevel node).fields.values = shownFields node :=
  Table.values_ofList_named Field.name _

theorem intercalate_eq_flatMap (separator first : Text) (rest : List Text) :
    List.intercalate separator (first :: rest) = first ++ rest.flatMap (separator ++ ·) := by
  induction rest generalizing first with
  | nil => simp [List.intercalate]
  | cons second rest ih =>
    have hstep : List.intercalate separator (first :: second :: rest) =
        first ++ separator ++ List.intercalate separator (second :: rest) := by
      simp [List.intercalate, List.intersperse]
    rw [hstep, ih, List.flatMap_cons, List.append_assoc, List.append_assoc]

/-- The title of a record is the headline of its element. -/
theorem title_of_record (topLevel : Bool) (node : Node) :
    title (recordOf topLevel node) = headline node := by
  have hopcode : Label.shown (recordOf topLevel node).opcode = (node.get? "type").getD "" := rfl
  have hfields : formatFields (recordOf topLevel node) =
      List.intercalate " " ((shownFields node).map formatField) := by
    rw [formatFields, fields_of_record]
  unfold title headline
  rw [hfields, hopcode]
  cases shownFields node with
  | nil => simp [List.intercalate]
  | cons field rest =>
    rw [List.map_cons, intercalate_eq_flatMap, List.flatMap_map, List.flatMap_cons]
    rfl

theorem indentation_eq (level : Nat) : indentation level = margin level := by
  show (List.replicate level unit).flatten = _
  induction level with
  | zero => rfl
  | succ level ih => rw [List.replicate_succ, List.flatten_cons, ih]; rfl

/-! ## Walks that draw -/

/-- A line that stands for a block that is not there or has been printed. -/
def Line.isMarker : Line Text → Bool
  | heading _ _ _ => false
  | input _ _ => false
  | missing _ _ => true
  | cycle _ _ => true

/-- A walk prints a text without markers, and visits none but the given elements. -/
def Draws (records : Table (Record Text)) (task : Task Text) (before : List Text)
    (nodes : List Node) (text : Text) : Prop :=
  ∃ lines after, Walk records task before lines after ∧ lines.flatMap Line.text = text ∧
    (∀ line ∈ lines, line.isMarker = false) ∧ ∀ id ∈ after, id ∈ before ∨ id ∈ nodes.map idOf

/-- Elements that have ids of their own and have not been visited. -/
structure Fresh (before : List Text) (nodes : List Node) : Prop where
  nodup : (nodes.map idOf).Nodup
  unseen : ∀ node ∈ nodes, idOf node ∉ before

namespace Fresh
variable {before after : List Text} {first second : List Node}

theorem perm (h : Fresh before first) (hperm : first.Perm second) : Fresh before second :=
  ⟨(hperm.map idOf).nodup_iff.mp h.nodup, fun node hn => h.unseen node (hperm.mem_iff.mpr hn)⟩

theorem left (h : Fresh before (first ++ second)) : Fresh before first :=
  ⟨(List.nodup_append.mp (List.map_append ▸ h.nodup)).1,
    fun node hn => h.unseen node (List.mem_append_left _ hn)⟩

/-- What comes after some elements is fresh still when these have been visited. -/
theorem right (h : Fresh before (first ++ second))
    (hafter : ∀ id ∈ after, id ∈ before ∨ id ∈ first.map idOf) : Fresh after second := by
  obtain ⟨_, hsecond, hapart⟩ := List.nodup_append.mp (List.map_append ▸ h.nodup)
  refine ⟨hsecond, ?_⟩
  intro node hn hid
  rcases hafter _ hid with hid | hid
  · exact h.unseen node (List.mem_append_right _ hn) hid
  · exact hapart _ hid _ (List.mem_map_of_mem hn) rfl

end Fresh

/-- An element whose record is in a table, with nothing given twice. -/
structure Drawable (records : Table (Record Text)) (node : Node) : Prop where
  id : idOf node ≠ []
  record : ∃ topLevel, records.get? (idOf node) = some (recordOf topLevel node)
  gives : ∀ child ∈ node.children, Gives child
  inputs : ((node.children.filter (Role.of · == .slot true)).map (·.get? "name")).Nodup
  next : (node.children.filter (Role.of · == .slot false)).length ≤ 1

namespace Drawable
variable {records : Table (Record Text)} {node : Node} (h : Drawable records node)
include h

theorem inputs_of_record (topLevel : Bool) :
    (recordOf topLevel node).inputs = (inputPlugs node).map fun plug => (plug.1, linkTo plug) := by
  have hnames : (((node.children.filterMap inputOf?).map fun link => (link.name, link)).map
      Prod.fst).Nodup := by
    rw [List.map_map]
    apply List.Nodup.of_map some
    rw [List.map_map]
    exact names_of_inputs h.gives ▸ h.inputs
  show Table.ofList ((node.children.filterMap inputOf?).map fun link => (link.name, link)) = _
  rw [Table.ofList_of_nodup hnames, inputOf?_eq h.gives, List.map_map]
  rfl

theorem next_of_record (topLevel : Bool) :
    (recordOf topLevel node).next.toList = (nextPlugs node).map idOf := by
  show ((node.children.filterMap nextOf?).getLast?.or none).toList = _
  rw [Option.or_none, toList_getLast? (by rw [length_nexts h.gives]; exact h.next),
    nextOf?_eq h.gives]
  rfl

theorem visited_perm :
    ((inputPlugs node).flatMap (fun plug => visited plug.2) ++
      (nextPlugs node).flatMap visited).Perm ((plugs node).flatMap visited) := by
  rw [← List.flatMap_map Prod.snd, ← List.flatMap_append]
  exact (plugs_perm_held h.gives).flatMap_right visited

end Drawable

section
variable {records : Table (Record Text)}

/-- What has been visited after two drawings, one after the other. -/
theorem visited_by_both {before between after : List Text} {first second : List Node}
    (hbetween : ∀ id ∈ between, id ∈ before ∨ id ∈ first.map idOf)
    (hafter : ∀ id ∈ after, id ∈ between ∨ id ∈ second.map idOf) :
    ∀ id ∈ after, id ∈ before ∨ id ∈ (first ++ second).map idOf := by
  intro id hid
  rw [List.map_append, List.mem_append]
  rcases hafter id hid with hid | hid
  · exact (hbetween id hid).imp_right .inl
  · exact .inr (.inr hid)

/-- The stack of an element can be drawn wherever it is come to. -/
def StackDrawn (records : Table (Record Text)) (node : Node) : Prop :=
  ∀ (level : Nat) (before : List Text), Fresh before (visited node) →
    Draws records (.stack level (some (idOf node))) before (visited node) (drawing level node)

theorem draws_inputs (level : Nat) {inputs : List (Text × Node)}
    (h : ∀ plug ∈ inputs, StackDrawn records plug.2) {before : List Text}
    (hfresh : Fresh before (inputs.flatMap fun plug => visited plug.2)) :
    Draws records (.inputs level (inputs.map fun plug => (plug.1, linkTo plug))) before
      (inputs.flatMap fun plug => visited plug.2)
      (inputs.flatMap fun plug => inputDrawing level plug.1 (drawing (level + 2) plug.2)) := by
  induction inputs generalizing before with
  | nil => exact ⟨[], before, .noInputs, rfl, by simp, fun id hid => .inl hid⟩
  | cons plug rest ih =>
    obtain ⟨hplug, hrest⟩ := List.forall_mem_cons.mp h
    obtain ⟨lines, between, hfirst, htext, hclean, hbetween⟩ :=
      hplug (level + 2) before hfresh.left
    obtain ⟨more, after, hothers, hmore, hclean', hafter⟩ := ih hrest (hfresh.right hbetween)
    have hname : Line.text (.input level plug.1 : Line Text) =
        margin (level + 1) ++ plug.1 ++ ":\n" := by
      rw [Line.text, indentation_eq, margin, margin, Nat.mul_succ, List.replicate_add]
      rfl
    refine ⟨.input level plug.1 :: (lines ++ more), after, .input hfirst hothers, ?_, ?_, ?_⟩
    · rw [List.flatMap_cons, List.flatMap_cons, List.flatMap_append, htext, hmore, hname,
        inputDrawing, List.append_assoc _ (drawing _ _)]
    · intro line hline
      rcases List.mem_cons.mp hline with rfl | hline
      · rfl
      · exact (List.mem_append.mp hline).elim (hclean line) (hclean' line)
    · exact visited_by_both hbetween hafter

theorem draws_next (level : Nat) {nexts : List Node} {next : Option Text}
    (hnext : next.toList = nexts.map idOf) (h : ∀ block ∈ nexts, StackDrawn records block)
    {before : List Text} (hfresh : Fresh before (nexts.flatMap visited)) :
    Draws records (.next level next) before (nexts.flatMap visited)
      (nexts.flatMap (drawing level)) := by
  cases next with
  | none =>
    obtain rfl : nexts = [] := List.map_eq_nil_iff.mp hnext.symm
    exact ⟨[], before, .last, rfl, by simp, fun id hid => .inl hid⟩
  | some id =>
    obtain ⟨block, rfl, rfl⟩ : ∃ block, nexts = [block] ∧ idOf block = id :=
      List.map_eq_singleton_iff.mp hnext.symm
    rw [List.flatMap_singleton] at hfresh ⊢
    rw [List.flatMap_singleton]
    obtain ⟨lines, after, hwalk, htext, hclean, hafter⟩ := h block (by simp) level before hfresh
    have hnew : idOf block ∉ before :=
      hfresh.unseen block (visited_eq block ▸ List.mem_cons_self)
    exact ⟨lines, after, .chain hnew hwalk, htext, hclean, hafter⟩

/-- An element is drawn when all that is visited inside it can be. -/
theorem draws_stack {node : Node} (h : ∀ inner ∈ visited node, Drawable records inner) :
    StackDrawn records node := by
  induction node using plugs_induction with
  | step node ih =>
    intro level before hfresh
    have hplugs : ∀ block ∈ plugs node, StackDrawn records block := by
      intro block hb
      exact ih block hb fun inner hi => h inner (mem_visited.mpr (.inr ⟨block, hb, hi⟩))
    have hnode : Drawable records node := h node (mem_visited.mpr (.inl rfl))
    obtain ⟨topLevel, hrecord⟩ := hnode.record
    rw [visited_eq] at hfresh
    have hself : idOf node ∉ before := hfresh.unseen node List.mem_cons_self
    -- inside the element all is fresh, in the order of the record as in that of the document
    have hinner : Fresh (idOf node :: before) ((inputPlugs node).flatMap (fun plug =>
        visited plug.2) ++ (nextPlugs node).flatMap visited) := by
      have hplugged : Fresh before ([node] ++ (plugs node).flatMap visited) := hfresh
      refine (hplugged.right ?_).perm hnode.visited_perm.symm
      intro id hid
      exact (List.mem_cons.mp hid).elim (fun hid => .inr (by simp [hid])) .inl
    obtain ⟨lines, between, hinputs, htext, hclean, hbetween⟩ := draws_inputs level
      (fun plug hp => hplugs plug.2 (mem_plugs_of_inputPlugs hp)) hinner.left
    obtain ⟨more, after, hnext, hmore, hclean', hafter⟩ := draws_next level
      (hnode.next_of_record topLevel) (fun block hb => hplugs block (mem_plugs_of_nextPlugs hb))
      (hinner.right hbetween)
    rw [← hnode.inputs_of_record topLevel] at hinputs
    refine ⟨_, after, .enter (by simpa using hnode.id) hrecord hself hinputs hnext, ?_, ?_, ?_⟩
    · rw [drawing_eq, List.flatMap_cons, List.flatMap_append, htext, hmore, Line.text,
        title_of_record, indentation_eq, ← List.append_assoc]
    · intro line hline
      rcases List.mem_cons.mp hline with rfl | hline
      · rfl
      · exact (List.mem_append.mp hline).elim (hclean line) (hclean' line)
    · intro id hid
      rw [visited_eq, List.map_cons, List.mem_cons]
      rcases visited_by_both hbetween hafter id hid with hid | hid
      · exact (List.mem_cons.mp hid).elim (fun hid => .inr (.inl hid)) .inl
      · exact .inr (.inr ((hnode.visited_perm.map idOf).mem_iff.mp hid))

/-- Stacks that are printed one after the other are the drawings of their elements. -/
theorem paragraphs_eq {roots : List Node} (h : ∀ root ∈ roots, StackDrawn records root)
    {before : List Text} (hfresh : Fresh before (roots.flatMap visited)) :
    (paragraphs records before (roots.map idOf)).map (·.flatMap Line.text) =
        roots.map (drawing 0) ∧
      ∀ line ∈ (paragraphs records before (roots.map idOf)).flatten, line.isMarker = false := by
  induction roots generalizing before with
  | nil => exact ⟨rfl, by simp [paragraphs]⟩
  | cons root rest ih =>
    obtain ⟨hroot, hrest⟩ := List.forall_mem_cons.mp h
    obtain ⟨lines, after, hwalk, htext, hclean, hafter⟩ := hroot 0 before hfresh.left
    obtain ⟨hlines, hafter'⟩ := (walk_stack records 0 before (some (idOf root))).det hwalk
    obtain ⟨htexts, hclean'⟩ := ih hrest (hfresh.right (hafter' ▸ hafter))
    rw [List.map_cons, paragraphs]
    refine ⟨?_, ?_⟩
    · rw [List.map_cons, List.map_cons, htexts, hlines, htext]
    · intro line hline
      rcases List.mem_append.mp (List.flatten_cons ▸ hline) with hline | hline
      · exact hclean line (hlines ▸ hline)
      · exact hclean' line hline

end

/-! ## Outlines of roots -/

section
variable {roots : List Node} {records : List (Record Text)}

theorem nodup_ids_of_visits (h : flatten roots = .ok records) (hu : Unambiguous roots) :
    ((visits roots).map fun v => idOf v.node).Nodup := by
  have hids : (((visits roots).map Visit.record).map Record.id).Nodup :=
    List.Nodup.of_map some (ids_of_visits (checked_of_flatten h) ▸ hu.ids)
  rwa [List.map_map] at hids

theorem tableOf_of_unambiguous (h : flatten roots = .ok records) (hu : Unambiguous roots) :
    tableOf records = (visits roots).map Visit.entry := by
  have hkeys : (((visits roots).map Visit.entry).map Prod.fst).Nodup := by
    rw [List.map_map]
    exact nodup_ids_of_visits h hu
  have hvisits : tableOf ((visits roots).map Visit.record) = (visits roots).map Visit.entry := by
    rw [← tableOf_visits, Table.ofList_of_nodup hkeys]
  have hrecords : records = (visits roots).map Visit.record := by
    rw [flatten_eq_tableOf h, hvisits, Table.values, List.map_map]
    rfl
  rw [hrecords, hvisits]

theorem starts_of_unambiguous (h : flatten roots = .ok records) (hu : Unambiguous roots) :
    starts records = (rootBlocks roots).map idOf := by
  rw [starts_eq, tableOf_of_unambiguous h hu, List.filter_map, Table.keys, List.map_map]
  show ((visits roots).filter (·.topLevel)).map _ = _
  rw [topVisits_eq, List.map_map]
  rfl

theorem drawable_of_visits (h : flatten roots = .ok records) (hu : Unambiguous roots)
    (hids : ∀ v ∈ visits roots, v.node.get? "id" ≠ some []) {v : Visit} (hv : v ∈ visits roots) :
    Drawable (tableOf records) v.node := by
  have hchecked := checked_of_visits (checked_of_flatten h) hv
  refine ⟨?_, ⟨v.topLevel, ?_⟩, ?_, hu.inputs v hv, hu.next v hv⟩
  · obtain ⟨id, hid⟩ := id_of_checked hchecked
    intro hempty
    rw [idOf, hid] at hempty
    exact hids v hv (hid.trans (congrArg some hempty))
  · have hentry : v.entry ∈ tableOf records := by
      rw [tableOf_of_unambiguous h hu]
      exact List.mem_map_of_mem hv
    exact Table.get?_of_mem (nodup_keys_tableOf records) hentry
  · exact fun child hc => gives_of_checked (children_of_checked hchecked child hc)

/-- **The outline of the records of some roots is the drawing of the roots**, if ids are given
once and none of them is empty, and no element has two inputs of one name or two next blocks.
There is no marker in it. -/
theorem render_eq_drawings (h : flatten roots = .ok records) (hu : Unambiguous roots)
    (hids : ∀ v ∈ visits roots, v.node.get? "id" ≠ some []) :
    render records = List.intercalate "\n" ((rootBlocks roots).map (drawing 0)) ∧
      ∀ line ∈ (ofRecords records).flatten, line.isMarker = false := by
  have hnodes : ∀ node ∈ (rootBlocks roots).flatMap visited, ∃ v ∈ visits roots, v.node = node :=
    fun node hn => List.mem_map.mp (nodes_of_visits roots ▸ hn)
  have hdrawn : ∀ root ∈ rootBlocks roots, StackDrawn (tableOf records) root := by
    intro root hroot
    apply draws_stack
    intro inner hi
    obtain ⟨v, hv, rfl⟩ := hnodes inner (List.mem_flatMap.mpr ⟨root, hroot, hi⟩)
    exact drawable_of_visits h hu hids hv
  have hfresh : Fresh [] ((rootBlocks roots).flatMap visited) := by
    refine ⟨?_, by simp⟩
    rw [← nodes_of_visits, List.map_map]
    exact nodup_ids_of_visits h hu
  obtain ⟨htexts, hclean⟩ := paragraphs_eq hdrawn hfresh
  rw [← starts_of_unambiguous h hu] at htexts hclean
  refine ⟨?_, hclean⟩
  rw [render, joined, ← htexts]
  rfl

end

/-- A block whose next block stands before its fields, one of which is given twice, and before
its input, into which two blocks are plugged; and another root. -/
def looped : List Node :=
  [.element "block" [("id", "a"), ("type", "loop")]
      [.element "next" [] [.element "block" [("id", "d"), ("type", "stop")] []],
        .element "field" [("name", "N")] [.ofText "1"],
        .element "field" [("name", "M")] [.ofText "x"],
        .element "field" [("name", "N")] [.ofText "2"],
        .element "statement" [("name", "DO")]
          [.element "block" [("id", "b"), ("type", "turn")]
            [.element "next" [] [.element "shadow" [("id", "c"), ("type", "wait")] []]]]],
    .element "block" [("id", "e"), ("type", "show")] []]

theorem render_looped :
    ∃ records, flatten looped = .ok records ∧ Unambiguous looped ∧
      render records =
        "loop [N: 2] [M: x]\n    DO:\n        turn\n        wait\nstop\n\nshow\n" := by
  have hu : Unambiguous looped := ⟨by decide +kernel, by decide +kernel, by decide +kernel⟩
  obtain ⟨records, h⟩ : ∃ records, flatten looped = .ok records :=
    flatten_ok_iff.mpr (by decide +kernel)
  obtain ⟨hrender, _⟩ := render_eq_drawings h hu (by decide +kernel)
  refine ⟨records, h, hu, ?_⟩
  rw [hrender]
  decide +kernel

end FlatBlocks.Block.Outline
