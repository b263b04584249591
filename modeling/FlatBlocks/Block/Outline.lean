import FlatBlocks.Block.Label

/-! Records as an indented outline. A stack is printed from its first block on
along the next links; the stacks plugged into a block's inputs come below it.
Every block is printed once; where it is met again a marker stands for it. The
number of blocks that are not yet visited bounds the recursion, whatever cycles
the links form. -/

namespace FlatBlocks.Block.Outline
open FlatBlocks.Text

variable {α : Type u} [Label α]

/-- A line of an outline: a block that was met under an id, the name of one of its
inputs, or a marker for a block that is not there or has been printed. -/
inductive Line (α : Type u) where
  | heading (level : Int) (id : α) (record : Record α)
  | input (level : Int) (name : Text)
  | missing (level : Int) (id : α)
  | cycle (level : Int) (id : α)

def unit : Text := "    "

def indentation (level : Int) : Text := copies unit level

def formatField (field : Field α) : Text :=
  "[" ++ Label.shown field.name ++ ": " ++ Label.shown field.value ++ "]"

def formatFields (record : Record α) : Text :=
  List.intercalate " " (record.fields.values.map formatField)

/-- The opcode of a record, and its fields if it has any. -/
def title (record : Record α) : Text :=
  match formatFields record with
  | [] => Label.shown record.opcode
  | fields => Label.shown record.opcode ++ .char ' ' :: fields

/-- The text of a line; the name of an input stands one level below its block. -/
def Line.text : Line α → Text
  | heading level _ record => indentation level ++ title record ++ "\n"
  | input level name => indentation level ++ unit ++ name ++ ":\n"
  | missing level id => indentation level ++ "<missing block " ++ Label.shown id ++ ">\n"
  | cycle level id => indentation level ++ "<cycle at " ++ Label.shown id ++ ">\n"

/-- The lines of an outline and the keys of the ids that have been visited by then. -/
structure Rendered (α : Type u) (visited : List Text) where
  lines : List (Line α)
  after : List Text
  grows : ∀ key ∈ visited, key ∈ after

def Rendered.text {visited : List Text} (r : Rendered α visited) : Text :=
  r.lines.flatMap Line.text

/-- Lines after which as many blocks are visited as before. -/
def Rendered.of {visited : List Text} (lines : List (Line α)) : Rendered α visited :=
  ⟨lines, visited, fun _ h => h⟩

/-- The number of records that have not been visited. -/
def unvisited (records : Table (Record α)) (visited : List Text) : Nat :=
  records.keys.countP fun key => !visited.contains key

omit [Label α] in
theorem unvisited_le {records : Table (Record α)} {visited after : List Text}
    (h : ∀ key ∈ visited, key ∈ after) : unvisited records after ≤ unvisited records visited := by
  apply List.countP_mono_left
  intro key _ hk
  simp only [Bool.not_eq_true', List.contains_eq_mem, decide_eq_false_iff_not] at hk ⊢
  exact fun hv => hk (h key hv)

omit [Label α] in
theorem unvisited_cons_lt {records : Table (Record α)} {visited : List Text} {key : Text}
    {record : Record α} (hr : records.get? key = some record) (hv : key ∉ visited) :
    unvisited records (key :: visited) < unvisited records visited := by
  have hm : key ∈ records.keys := by
    apply Classical.byContradiction
    intro hn
    rw [(Table.get?_eq_none_iff records key).mpr hn] at hr
    cases hr
  have count_lt : ∀ ks : List Text, key ∈ ks →
      ks.countP (fun k => !(key :: visited).contains k) <
        ks.countP fun k => !visited.contains k := by
    intro ks
    induction ks with
    | nil => intro h; cases h
    | cons k rest ih =>
      intro h
      have hle : rest.countP (fun k => !(key :: visited).contains k) ≤
          rest.countP fun k => !visited.contains k := by
        apply List.countP_mono_left
        intro x _ hx
        simp_all
      by_cases hk : k = key
      · subst hk
        simp [hv]
        simp at hle
        omega
      · have hm' : key ∈ rest := by
          rcases List.mem_cons.mp h with he | hr
          · exact absurd he.symm hk
          · exact hr
        have := ih hm'
        simp [List.countP_cons, hk] at this ⊢
        omega
  exact count_lt _ hm

/-- The marker that a block is met again, unless its id is blank. -/
def repeated (level : Int) (id : α) : List (Line α) :=
  if Label.isBlank id then [] else [.cycle level id]

mutual

/-- The stack that starts at an id, if there is one. -/
def stack (records : Table (Record α)) (level : Int) (visited : List Text) (start : Option α) :
    Rendered α visited :=
  match start with
  | none => .of []
  | some id =>
    if Label.isBlank id then .of []
    else match _hr : records.get? (Label.key id) with
      | none => .of [.missing level id]
      | some record =>
        if _hv : Label.key id ∈ visited then
          match record.next with
          | none => .of [.cycle level id]
          | some next =>
            if _hn : Label.key next ∈ visited then .of (.cycle level id :: repeated level next)
            else
              let more := stack records level visited (some next)
              ⟨.cycle level id :: more.lines, more.after, more.grows⟩
        else
          let inner := inputs records level (Label.key id :: visited) record.inputs
          let lines := .heading level id record :: inner.lines
          have grows : ∀ key ∈ visited, key ∈ inner.after :=
            fun key h => inner.grows key (List.mem_cons_of_mem _ h)
          match record.next with
          | none => ⟨lines, inner.after, grows⟩
          | some next =>
            if Label.key next ∈ inner.after then
              ⟨lines ++ repeated level next, inner.after, grows⟩
            else
              let more := stack records level inner.after (some next)
              ⟨lines ++ more.lines, more.after, fun key h => more.grows key (grows key h)⟩
termination_by
  (unvisited records visited,
    if start.any (fun id => visited.contains (Label.key id)) then 1 else 0, 0)
decreasing_by
  · exact Prod.Lex.right _ (Prod.Lex.left _ _ (by simp [_hv, _hn]))
  · exact Prod.Lex.left _ _ (unvisited_cons_lt _hr _hv)
  · exact Prod.Lex.left _ _
      (Nat.lt_of_le_of_lt (unvisited_le inner.grows) (unvisited_cons_lt _hr _hv))

/-- The inputs of a block, each with the stack plugged into it. -/
def inputs (records : Table (Record α)) (level : Int) (visited : List Text)
    (links : Table (Link α)) : Rendered α visited :=
  match links with
  | [] => .of []
  | (name, link) :: rest =>
    let first := stack records (level + 2) visited (some link.block)
    let others := inputs records level first.after rest
    ⟨.input level name :: (first.lines ++ others.lines), others.after,
      fun key h => others.grows key (first.grows key h)⟩
termination_by (unvisited records visited, 2, links.length)
decreasing_by
  · exact Prod.Lex.right _ (Prod.Lex.left _ _ (by split <;> decide))
  · exact Prod.Lex.right' _ (unvisited_le first.grows) (Prod.Lex.right _ (by simp))

end

/-- A single block and the stacks plugged into its inputs. -/
def block (records : Table (Record α)) (level : Int) (visited : List Text) (id : α) :
    Rendered α visited :=
  match records.get? (Label.key id) with
  | none => .of [.missing level id]
  | some record =>
    if Label.key id ∈ visited then .of [.cycle level id]
    else
      let inner := inputs records level (Label.key id :: visited) record.inputs
      ⟨.heading level id record :: inner.lines, inner.after,
        fun key h => inner.grows key (List.mem_cons_of_mem _ h)⟩

/-- The stacks that start at the given ids, with one set of visited ids for all. -/
def paragraphs (records : Table (Record α)) (visited : List Text) :
    List α → List (List (Line α))
  | [] => []
  | start :: rest =>
    let first := stack records 0 visited (some start)
    first.lines :: paragraphs records first.after rest

/-- The id under which a key first stands among records. -/
def firstId? (records : List (Record α)) (key : Text) : Option α :=
  (records.find? fun r => Label.key r.id == key).map Record.id

/-- The ids of all top-level blocks. -/
def starts (records : List (Record α)) : List α :=
  (Table.keys ((tableOf records).filter (·.2.topLevel))).filterMap (firstId? records)

/-- The stacks of all top-level blocks. -/
def ofRecords (records : List (Record α)) : List (List (Line α)) :=
  paragraphs (tableOf records) [] (starts records)

/-- The text of paragraphs, with a line feed between them. -/
def joined (paragraphs : List (List (Line α))) : Text :=
  List.intercalate "\n" (paragraphs.map (·.flatMap Line.text))

/-- The outline of records, a paragraph for each stack. -/
def render (records : List (Record α)) : Text := joined (ofRecords records)

end FlatBlocks.Block.Outline
