import FlatBlocks.Json.Writer
import Mathlib.Data.List.Basic

/-! # Documents in pieces

The pieces in which a document is written make up its text. Nothing that is made on the way
is longer than that text, but for the spaces of one level: where there is room for both,
the document is written to its end. Where writing breaks off, what has been written is a
beginning of the text. -/

namespace FlatBlocks.Json
open FlatBlocks.Text

/-! ## Steps -/

/-- The length of the text that is made in a step. -/
def Step.length (layout : Layout) : Step → Nat
  | separator level => (layout.separator level).length
  | piece text => text.length

theorem length_copies (t : Text) (count : Int) :
    (copies t count).length = count.toNat * t.length := by
  rw [copies, List.length_flatten, List.map_replicate, List.sum_replicate_nat]

theorem length_lineBreak (width : Int) (level : Nat) :
    ((Layout.indented width).lineBreak level).length = width.toNat * level + 1 := by
  have hcount : (width * level).toNat = width.toNat * level := by
    have hlevel : 0 ≤ (level : Int) := Int.natCast_nonneg level
    rcases Int.le_total 0 width with hwidth | hwidth
    · rw [Int.toNat_mul hwidth hlevel, Int.toNat_natCast]
    · have hnone : width * level ≤ 0 := Int.mul_nonpos_of_nonpos_of_nonneg hwidth hlevel
      rw [Int.toNat_of_nonpos hnone, Int.toNat_of_nonpos hwidth, Nat.zero_mul]
  rw [Layout.lineBreak, List.length_cons, length_copies, hcount]
  exact congrArg (· + 1) (Nat.mul_one _)

theorem length_separator (width : Int) (level : Nat) :
    ((Layout.indented width).separator level).length = width.toNat * level + 2 :=
  congrArg (· + 1) (length_lineBreak width level)

/-- Steps that write a text, in none of which anything longer is made. -/
structure Covers (layout : Layout) (taken : List Step) (t : Text) : Prop where
  text : taken.flatMap Step.text = t
  length : ∀ step ∈ taken, step.length layout ≤ t.length

namespace Covers

variable {layout : Layout} {taken more : List Step} {s t : Text}

theorem nil : Covers layout [] [] := ⟨rfl, List.forall_mem_nil _⟩

theorem append (h : Covers layout taken s) (h' : Covers layout more t) :
    Covers layout (taken ++ more) (s ++ t) := by
  refine ⟨by rw [List.flatMap_append, h.text, h'.text], List.forall_mem_append.mpr ⟨?_, ?_⟩⟩
  · intro step hstep
    exact Nat.le_trans (h.length step hstep) (by simp)
  · intro step hstep
    exact Nat.le_trans (h'.length step hstep) (by simp)

theorem piece (t : Text) : Covers layout [.piece t] t :=
  ⟨List.append_nil t, List.forall_mem_singleton.mpr (Nat.le_refl _)⟩

theorem cons (p : Text) (h : Covers layout taken t) :
    Covers layout (.piece p :: taken) (p ++ t) := (piece p).append h

theorem pieces (p t : Text) : Covers layout [.piece p, .piece t] (p ++ t) := (piece t).cons p

/-- A separator is made in front of steps that write more than it. -/
theorem separator {level : Nat} (h : Covers layout taken t)
    (hlength : (layout.separator level).length ≤ t.length) :
    Covers layout (.separator level :: taken) t :=
  ⟨h.text, List.forall_mem_cons.mpr ⟨hlength, h.length⟩⟩

end Covers

theorem length_separator_le (layout : Layout) (level : Nat) :
    (layout.separator level).length ≤ (layout.lineBreak level).length + 2 := by
  cases layout with
  | oneLine => exact Nat.le_refl _
  | indented width => exact Nat.le_succ _

mutual

theorem covers_steps (layout : Layout) (level : Nat) (before : Text) :
    ∀ value, Covers layout (steps layout level before value) (before ++ write layout level value)
  | .null => .piece _
  | .bool _ => .piece _
  | .int _ => .piece _
  | .real _ => .piece _
  | .str _ => .piece _
  | .arr [] => .pieces before _
  | .arr (item :: items) => by
    have hitem := covers_steps layout (level + 1) ('[' :: layout.lineBreak (level + 1)) item
    have hitems := hitem.append ((covers_itemSteps layout (level + 1) items).append
      (.pieces (layout.lineBreak level) [.char ']']))
    rw [List.cons_append, List.cons_append, List.append_assoc] at hitems
    rw [steps, write]
    refine .cons before (hitems.separator ?_)
    have hseparator := length_separator_le layout (level + 1)
    simp only [List.length_cons, List.length_append]
    omega
  | .obj [] => .pieces before _
  | .obj ((key, value) :: entries) => by
    have hvalue := covers_steps layout (level + 1) [] value
    have hentries := hvalue.append ((covers_entrySteps layout (level + 1) entries).append
      (.pieces (layout.lineBreak level) [.char '\x7d']))
    have hentry := ((hentries.cons [.char ':', .char ' ']).cons (writeString key)).cons
      (layout.lineBreak (level + 1))
    rw [steps, write]
    refine .cons before (.cons ['\x7b'] (hentry.separator ?_))
    have hseparator := length_separator_le layout (level + 1)
    simp only [List.length_cons, List.length_append]
    omega

theorem covers_itemSteps (layout : Layout) (level : Nat) :
    ∀ items, Covers layout (itemSteps layout level items) (writeItems layout level items)
  | [] => .nil
  | item :: items => by
    rw [itemSteps, writeItems, ← List.append_assoc]
    exact (covers_steps layout level (layout.separator level) item).append
      (covers_itemSteps layout level items)

theorem covers_entrySteps (layout : Layout) (level : Nat) :
    ∀ entries, Covers layout (entrySteps layout level entries) (writeEntries layout level entries)
  | [] => .nil
  | (key, value) :: entries => by
    rw [entrySteps, writeEntries]
    refine .cons _ (.cons _ (.cons [.char ':', .char ' '] ?_))
    exact (covers_steps layout level [] value).append (covers_entrySteps layout level entries)

end

/-! ## Documents -/

section
variable {room : Room} {layout : Layout}

/-- A step succeeds if there is room for what is made in it. -/
theorem Step.fault?_eq_none {step : Step} (h : step.length layout ≤ room.longest) :
    step.fault? room layout = none := by
  cases step with
  | piece text => exact room.fault?_eq_none_iff.mpr h
  | separator level =>
    cases layout with
    | oneLine => rfl
    | indented width =>
      have hlength : width.toNat * level + 2 ≤ room.longest := length_separator width level ▸ h
      rw [Step.fault?, Layout.separatorFault?, Option.or_eq_none_iff]
      exact ⟨room.fault?_eq_none_iff.mpr (by omega), room.fault?_eq_none_iff.mpr hlength⟩

theorem follow_of_succeed {taken : List Step} (h : ∀ step ∈ taken, step.fault? room layout = none) :
    follow room layout taken = { text := taken.flatMap Step.text } := by
  induction taken with
  | nil => rfl
  | cons step rest ih =>
    obtain ⟨hstep, hrest⟩ := List.forall_mem_cons.mp h
    rw [follow, hstep, List.flatMap_cons]
    simp only [ih hrest]

/-- What the steps write up to the first that fails is a beginning of what they all write, and
all of it if none of them fails. -/
theorem follow_begins (room : Room) (layout : Layout) (taken : List Step) :
    ∃ rest, taken.flatMap Step.text = (follow room layout taken).text ++ rest ∧
      ((follow room layout taken).fault? = none → rest = []) := by
  induction taken with
  | nil => exact ⟨[], rfl, fun _ => rfl⟩
  | cons step more ih =>
    obtain ⟨rest, htext, hrest⟩ := ih
    rw [follow]
    cases hstep : step.fault? room layout with
    | some fault => exact ⟨_, rfl, nofun⟩
    | none => exact ⟨rest, by rw [List.flatMap_cons, htext, List.append_assoc], hrest⟩

/-- All on one line, or a width that can be counted and of which there is room for as many
spaces. -/
def Layout.Usable (room : Room) (layout : Layout) : Prop :=
  ∀ width, layout = .indented width → -(indexBound : Int) ≤ width ∧ width ≤ room.longest

/-- All on one line, or a width that can be counted. -/
def Layout.Counted (layout : Layout) : Prop :=
  ∀ width, layout = .indented width → -(indexBound : Int) ≤ width ∧ width < indexBound

theorem Layout.usable_iff : layout.Usable room ↔ layout.fault? room = none := by
  cases layout with
  | oneLine => simp [Usable, fault?]
  | indented width =>
    have hindexed := room.indexed
    simp only [Usable, fault?, copiesFault?, indented.injEq, forall_eq', Bool.or_eq_true,
      decide_eq_true_eq, Nat.one_mul]
    split
    · simp only [reduceCtorEq, iff_false]
      omega
    · rw [room.fault?_eq_none_iff]
      omega

theorem Layout.fault?_of_not_counted (h : ¬ layout.Counted) :
    layout.fault? room = some .noIndex := by
  cases layout with
  | oneLine => exact absurd nofun h
  | indented width =>
    simp only [Counted, indented.injEq, forall_eq'] at h
    rw [fault?, copiesFault?, if_pos]
    simp only [Bool.or_eq_true, decide_eq_true_eq]
    omega

/-- There is room for a document in a layout, and for the spaces of one level. -/
structure Fits (room : Room) (layout : Layout) (value : Json) : Prop where
  usable : layout.Usable room
  length : (render layout value).length ≤ room.longest

section
variable {value : Json}

/-- A document for which there is room is written to its end. -/
theorem stream_of_fits (h : Fits room layout value) :
    stream room layout value = { text := render layout value } := by
  have hcovers := covers_steps layout 0 [] value
  rw [List.nil_append] at hcovers
  rw [stream, Layout.usable_iff.mp h.usable]
  simp only [render, ← hcovers.text]
  exact follow_of_succeed fun step hstep =>
    Step.fault?_eq_none (Nat.le_trans (hcovers.length step hstep) h.length)

/-- What has been written of a document is a beginning of its text, and all of it if nothing
fails. -/
theorem stream_begins (room : Room) (layout : Layout) (value : Json) :
    ∃ rest, render layout value = (stream room layout value).text ++ rest ∧
      ((stream room layout value).fault? = none → rest = []) := by
  have htext := (covers_steps layout 0 [] value).text
  rw [List.nil_append] at htext
  rw [stream]
  cases layout.fault? room with
  | some fault => exact ⟨_, rfl, nofun⟩
  | none =>
    obtain ⟨rest, hbegins, hrest⟩ := follow_begins room layout (steps layout 0 [] value)
    exact ⟨rest, htext.symm.trans hbegins, hrest⟩

theorem stream_of_succeed (h : (stream room layout value).fault? = none) :
    layout.Usable room ∧ (stream room layout value).text = render layout value := by
  refine ⟨Layout.usable_iff.mpr ?_, ?_⟩
  · cases hfault : layout.fault? room with
    | none => rfl
    | some fault =>
      rw [stream, hfault] at h
      cases h
  · obtain ⟨rest, htext, hrest⟩ := stream_begins room layout value
    rw [htext, hrest h, List.append_nil]

theorem stream_of_not_counted (h : ¬ layout.Counted) :
    stream room layout value = ⟨[], some .noIndex⟩ := by
  rw [stream, Layout.fault?_of_not_counted h]

/-- There is a text of a document if and only if there is room for it. -/
theorem document_eq_ok_iff {text : Text} :
    document room layout value = .ok text ↔ Fits room layout value ∧ text = render layout value := by
  constructor
  · intro h
    unfold document at h
    split at h
    · cases h
    · rename_i written hstream
      obtain ⟨husable, htext⟩ := stream_of_succeed (congrArg Written.fault? hstream)
      rw [hstream] at htext
      unfold Room.hold at h
      split at h
      · cases h
      · rename_i hroom
        cases h
        exact ⟨⟨husable, htext ▸ room.fault?_eq_none_iff.mp hroom⟩, htext⟩
  · rintro ⟨hfits, rfl⟩
    rw [document, stream_of_fits hfits]
    simp only [Room.hold, room.fault?_eq_none_iff.mpr hfits.length]

/-- Four spaces fit into the room, and the line with an item in it does not. -/
example : document ⟨4, by decide⟩ (.indented 4) (.arr []) = .ok "[]" ∧
    document ⟨4, by decide⟩ (.indented 4) (.arr [.null]) = .error .noRoom := by decide

theorem document_of_not_counted (h : ¬ layout.Counted) :
    document room layout value = .error .noIndex := by
  rw [document, stream_of_not_counted h]

end

end

end FlatBlocks.Json
