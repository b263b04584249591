import FlatBlocks.Proofs.Command.Routes
import FlatBlocks.Proofs.Files.Changes

/-! # What a run changes

A run that reports an error has printed nothing else and has changed no file and no directory.
A run that completes has changed at most the file that it was to write, and has made at most
directories that lead to it. -/

namespace FlatBlocks.Command
open FlatBlocks.Text

/-! ## Stages of a run -/

/-- How far a run has come when nothing more can be wrong with its input. -/
inductive Stages (room : Room) (words : List Text) (tree : Files.Tree) : Prop
  | stopped (stop : Stop) (read : Options.ofWords words = .error stop)
      (outcome : run room words tree = (stop.report, tree))
  | halted (options : Options) (halt : Halt) (read : Options.ofWords words = .ok options)
      (converted : options.convert (tree.source options.input) = .error halt)
      (outcome : run room words tree = (halt.report, tree))
  | prepared (options : Options) (result : Result) (after : Context) (p : Prepared)
      (read : Options.ofWords words = .ok options)
      (converted : options.convert (tree.source options.input) = .ok (result, after))
      (ready : p.Of options (options.writing room result))
      (outcome : run room words tree = p.deliver tree)

theorem stages (room : Room) (words : List Text) (tree : Files.Tree) : Stages room words tree := by
  cases hwords : Options.ofWords words with
  | error stop => exact .stopped stop hwords (by rw [run, hwords])
  | ok options =>
    cases hconvert : options.convert (tree.source options.input) with
    | error halt => exact .halted options halt hwords hconvert (run_of_halt hwords hconvert)
    | ok result =>
      obtain ⟨p, hof, hrun⟩ := run_of_result hwords hconvert
      exact .prepared options result.1 result.2 p hwords hconvert hof hrun

/-! ## Deliveries -/

/-- A delivery that completes changes what writing to its path changes. -/
theorem altered_of_deliver {p : Prepared} {tree : Files.Tree}
    (hcompleted : (p.deliver tree).1.ending = .completed) {place : Files.Place}
    (hchanged : (p.deliver tree).2.lookup? place ≠ tree.lookup? place) :
    ∃ path makeParents, p.target = .file path makeParents ∧
      Files.Altered path p.content tree (p.deliver tree).2 place := by
  unfold Prepared.deliver at hcompleted hchanged ⊢
  cases htarget : p.target with
  | stdout =>
    rw [htarget] at hchanged
    exact absurd rfl hchanged
  | nowhere =>
    rw [htarget] at hchanged
    exact absurd rfl hchanged
  | file path makeParents =>
    refine ⟨path, makeParents, rfl, ?_⟩
    rw [htarget] at hcompleted hchanged
    cases makeParents with
    | false =>
      dsimp only at hcompleted hchanged ⊢
      split at hcompleted
      · cases hcompleted
      · rename_i after hwrite
        simp only [hwrite] at hchanged ⊢
        exact Files.Tree.altered_of_write hwrite hchanged
    | true =>
      dsimp only at hcompleted hchanged ⊢
      split at hcompleted
      · cases hcompleted
      · rename_i after hwrite
        simp only [hwrite] at hchanged ⊢
        exact Files.Tree.altered_of_writeWithParents hwrite hchanged

theorem output_of_target {options : Options} {path : Text} {makeParents : Bool}
    (h : options.target = .file path makeParents) : options.output = .path path := by
  unfold Options.target at h
  split at h <;> simp_all

/-! ## Runs -/

/-- A run that fails says so, and has done nothing else. A run that completes has written a file
where it was told to, if anything, and has made directories on the way there. -/
theorem run_leaves (room : Room) (words : List Text) (tree : Files.Tree) :
    ((run room words tree).1.ending.status = some 1 →
      (∃ message, (run room words tree).1.stderr = "Error: " ++ message ++ "\n") ∧
        (run room words tree).1.stdout = [] ∧ (run room words tree).2 = tree) ∧
    ((run room words tree).1.ending = .completed → ∀ place,
      (run room words tree).2.lookup? place ≠ tree.lookup? place →
        ∃ options path bytes, Options.ofWords words = .ok options ∧
          options.output = .path path ∧
          Files.Altered path bytes tree (run room words tree).2 place) := by
  cases stages room words tree with
  | stopped stop _ hrun =>
    rw [hrun]
    refine ⟨fun hfailed => ?_, fun _ _ hchanged => absurd rfl hchanged⟩
    cases stop <;> simp [Stop.report, Ending.status] at hfailed
  | halted options halt _ _ hrun =>
    rw [hrun]
    refine ⟨fun hfailed => ?_, fun _ _ hchanged => absurd rfl hchanged⟩
    cases halt with
    | failed message => exact ⟨⟨message, rfl⟩, rfl, rfl⟩
    | unhandled cause => simp [Halt.report, Ending.status] at hfailed
  | prepared options result after p hwords _ hof hrun =>
    rw [hrun]
    refine ⟨fun hfailed => absurd hfailed (status_deliver p tree),
      fun hcompleted place hchanged => ?_⟩
    obtain ⟨path, makeParents, htarget, haltered⟩ := altered_of_deliver hcompleted hchanged
    exact ⟨options, path, p.content, hwords, output_of_target (hof.target ▸ htarget), haltered⟩

/-- Words for a run that is to write a file into a directory. -/
def intoDirectory : List Text := ["in", "--output", "o/p"]

/-- A file with a block, and no directory. -/
def besideBlock : Files.Tree := oneFile "in" "<block id='a' type='t'></block>"

/-- A run fails where there is nothing to read, and makes the directory where there is a block. -/
theorem run_leaves_intoDirectory :
    ((run smallRoom intoDirectory {}).1.ending.status = some 1 ∧ (run smallRoom intoDirectory {}).2 = {}) ∧
      (run smallRoom intoDirectory besideBlock).1.ending = .completed ∧
      (run smallRoom intoDirectory besideBlock).2.lookup? ⟨.above 0, [Utf8.formOf "o"]⟩ =
        some .directory ∧
      ∃ options path bytes, Options.ofWords intoDirectory = .ok options ∧
        options.output = .path path ∧
        Files.Altered path bytes besideBlock (run smallRoom intoDirectory besideBlock).2
          ⟨.above 0, [Utf8.formOf "o"]⟩ := by
  have hfailed : (run smallRoom intoDirectory {}).1.ending.status = some 1 := by decide +kernel
  have hcompleted : (run smallRoom intoDirectory besideBlock).1.ending = .completed := by decide +kernel
  have hmade : (run smallRoom intoDirectory besideBlock).2.lookup? ⟨.above 0, [Utf8.formOf "o"]⟩ =
      some .directory := by decide +kernel
  have hnone : besideBlock.lookup? ⟨.above 0, [Utf8.formOf "o"]⟩ = none := by decide +kernel
  refine ⟨⟨hfailed, ((run_leaves smallRoom intoDirectory {}).1 hfailed).2.2⟩, hcompleted, hmade, ?_⟩
  refine (run_leaves smallRoom intoDirectory besideBlock).2 hcompleted _ fun hkept => ?_
  rw [hmade, hnone] at hkept
  cases hkept

end FlatBlocks.Command
