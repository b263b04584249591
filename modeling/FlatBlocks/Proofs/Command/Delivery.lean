import FlatBlocks.Command.Run
import FlatBlocks.Proofs.Files.Tree
import FlatBlocks.Proofs.Text.Whole

/-! # Delivering results

A result that is ready never makes a run fail. If the place where it is to go can be
written, the run leaves the result there, and completes if its notice can be printed. -/

namespace FlatBlocks.Command
open FlatBlocks.Text

/-! ## Places -/

namespace Target

/-- A result can be put here. -/
def Open (tree : Files.Tree) : Target → Prop
  | stdout => True
  | file path false => ∃ after, tree.write path [] = .ok after
  | file path true => ∃ after, tree.writeWithParents path [] = (.ok (), after)
  | nowhere => False

/-- A run has left a text here. -/
def Holds (outcome : Report × Files.Tree) (text : Text) : Target → Prop
  | stdout => outcome.1.stdout = endLine text
  | file path _ => Whole text ∧ outcome.2.find path = .ok (.file (Utf8.formOf text))
  | nowhere => False

end Target

/-- A run has delivered a text. It has completed, unless its notice cannot be printed. -/
structure Delivered (options : Options) (outcome : Report × Files.Tree) (text : Text) : Prop where
  ending : Whole options.notice → outcome.1.ending = .completed
  holds : options.target.Holds outcome text

/-- Whether a file can be written does not depend on what is written. -/
theorem write_of_write {tree after : Files.Tree} {path : Text} {bytes : Files.Bytes}
    (h : tree.write path bytes = .ok after) (other : Files.Bytes) :
    ∃ written, tree.write path other = .ok written := by
  obtain ⟨place, found, hlocate, hwants, hlook, hfound, _⟩ := Files.Tree.write_cases h
  refine ⟨tree.put place (.file other), ?_⟩
  unfold Files.Tree.write
  rw [hlocate]
  simp only [hwants, hlook, Bool.false_eq_true, if_false]

theorem writeWithParents_of_writeWithParents {tree after : Files.Tree} {path : Text}
    {bytes : Files.Bytes} (h : tree.writeWithParents path bytes = (.ok (), after))
    (other : Files.Bytes) : ∃ written, tree.writeWithParents path other = (.ok (), written) := by
  unfold Files.Tree.writeWithParents at h ⊢
  split at h
  · cases h
  · rename_i made _
    split at h
    · cases h
    · rename_i hwrite
      obtain ⟨written, hother⟩ := write_of_write hwrite other
      exact ⟨written, by rw [hother]⟩

/-! ## Deliveries -/

section
variable (p : Prepared) (tree : Files.Tree)

theorem status_undelivered (cause : Unhandled) :
    (undelivered cause).ending.status ≠ some 1 := by
  simp [undelivered, Ending.status]

theorem status_close (printed : Text) : (p.close printed).ending.status ≠ some 1 := by
  unfold Prepared.close
  cases Utf8.encode p.notice with
  | error cause => simp [Ending.status]
  | ok bytes => simp [Ending.status]

theorem status_printed : p.printed.ending.status ≠ some 1 := by
  unfold Prepared.printed
  split
  · exact status_undelivered _
  · split
    · exact status_undelivered _
    · exact status_close p _

theorem status_written : p.written.ending.status ≠ some 1 := by
  unfold Prepared.written
  split
  · exact status_undelivered _
  · exact status_undelivered _
  · exact status_close p _

/-- Once the result is ready nothing can be wrong with the input. -/
theorem status_deliver : (p.deliver tree).1.ending.status ≠ some 1 := by
  unfold Prepared.deliver
  split
  · exact status_printed p
  · exact status_undelivered _
  · split
    · exact status_undelivered _
    · exact status_written p
  · split
    · exact status_undelivered _
    · exact status_written p

end

theorem whole_endLine {text : Text} (h : Whole text) : Whole (endLine text) := by
  unfold endLine
  split
  · exact h
  · exact h.append (whole_ofString _)

theorem whole_of_endLine {text : Text} (h : Whole (endLine text)) : Whole text := by
  unfold endLine at h
  split at h
  · exact h
  · exact h.sublist (List.sublist_append_left _ _)

section
variable {p : Prepared} {tree : Files.Tree} {text : Text}

theorem ending_close (h : Whole p.notice) (printed : Text) :
    (p.close printed).ending = .completed := by
  rw [Prepared.close, Utf8.encode_eq h]

theorem stdout_close (h : p.notice = []) (printed : Text) : (p.close printed).stdout = printed := by
  rw [Prepared.close, h]
  exact List.append_nil printed

theorem printed_eq (hresult : p.result = { text }) (hwhole : Whole text) :
    p.printed = p.close (endLine text) := by
  rw [Prepared.printed, hresult]
  simp only [Utf8.encode_eq (whole_endLine hwhole)]

theorem written_eq (hresult : p.result = { text }) (hwhole : Whole text) :
    p.content = Utf8.formOf text ∧ p.written = p.close [] := by
  rw [Prepared.content, Prepared.written, hresult, Utf8.encode_eq hwhole]
  exact ⟨rfl, rfl⟩

/-- A text that is ready is delivered to a place that can be written. -/
theorem delivered_of_open (hopen : p.target.Open tree) (hg : tree.Grounded)
    (hnotice : p.target = .stdout → p.notice = []) (hresult : p.result = { text })
    (hwhole : Whole text) :
    (Whole p.notice → (p.deliver tree).1.ending = .completed) ∧
      p.target.Holds (p.deliver tree) text := by
  obtain ⟨hcontent, hwritten⟩ := written_eq hresult hwhole
  unfold Prepared.deliver
  cases htarget : p.target with
  | stdout =>
    rw [printed_eq hresult hwhole]
    exact ⟨fun h => ending_close h _, stdout_close (hnotice htarget) _⟩
  | nowhere =>
    rw [htarget] at hopen
    exact hopen.elim
  | file path makeParents =>
    rw [htarget] at hopen
    cases makeParents with
    | false =>
      obtain ⟨_, hempty⟩ := hopen
      obtain ⟨after, hwrite⟩ := write_of_write hempty (Utf8.formOf text)
      simp only [hcontent, hwrite, hwritten]
      exact ⟨fun h => ending_close h _, hwhole, Files.Tree.find_of_write hg hwrite⟩
    | true =>
      obtain ⟨_, hempty⟩ := hopen
      obtain ⟨after, hwrite⟩ := writeWithParents_of_writeWithParents hempty (Utf8.formOf text)
      simp only [hcontent, hwrite, hwritten]
      exact ⟨fun h => ending_close h _, hwhole, Files.Tree.find_of_writeWithParents hg hwrite⟩

end

/-- Nothing else is printed where the result is. -/
theorem notice_of_stdout {options : Options} (h : options.target = .stdout) :
    options.notice = [] := by
  unfold Options.target at h
  unfold Options.notice
  split at h <;> simp_all

end FlatBlocks.Command
