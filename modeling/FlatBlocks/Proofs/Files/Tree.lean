import FlatBlocks.Files.Tree
import Mathlib.Data.List.Basic

/-! # Reading files back

A file that was written under a path is read back under it. Writing changes what there is
at the place of the file and below, and no directory on the way to it is there. So the
path leads to the same place afterwards, as long as the bases are directories. -/

namespace FlatBlocks.Files

/-! ## Nodes -/

namespace Node

theorem child?_putChild_self (name : Bytes) (node : Node) (children : List (Bytes × Node)) :
    child? name (putChild name node children) = some node := by
  induction children with
  | nil => simp [putChild, child?]
  | cons c rest ih => by_cases h : c.1 = name <;> simp [putChild, child?, h, ih]

theorem child?_putChild_of_ne {name other : Bytes} (node : Node) (children : List (Bytes × Node))
    (h : name ≠ other) : child? other (putChild name node children) = child? other children := by
  induction children with
  | nil => simp [putChild, child?, h]
  | cons c rest ih =>
    by_cases hc : c.1 = name
    · subst hc
      simp [putChild, child?, h]
    · simp [putChild, child?, hc, ih]

theorem lookup?_nil (node : Node) : node.lookup? [] = some node.entry := by
  cases node <;> rfl

theorem lookup?_cons (children : List (Bytes × Node)) (name : Bytes) (rest : List Bytes) :
    (directory children).lookup? (name :: rest) =
      (child? name children).bind (·.lookup? rest) := by
  rw [lookup?]
  cases child? name children <;> rfl

theorem entry_ofEntry (entry : Entry) : (ofEntry entry).entry = entry := by
  cases entry <;> rfl

theorem entry_of_lookup? {node : Node} {names : List Bytes} {name : Bytes} {entry : Entry}
    (h : node.lookup? (name :: names) = some entry) :
    ∃ children child, node = directory children ∧ child? name children = some child ∧
      child.lookup? names = some entry := by
  cases node with
  | file bytes => cases h
  | directory children =>
    rw [lookup?_cons] at h
    obtain ⟨child, hchild, h⟩ := Option.bind_eq_some_iff.mp h
    exact ⟨children, child, rfl, hchild, h⟩

/-- What is above an entry is a directory. -/
theorem lookup?_of_append {node : Node} {first second : List Bytes} {entry : Entry}
    (h : node.lookup? (first ++ second) = some entry) (hsecond : second ≠ []) :
    node.lookup? first = some .directory := by
  induction first generalizing node with
  | nil =>
    obtain ⟨name, rest, rfl⟩ := List.exists_cons_of_ne_nil hsecond
    obtain ⟨children, _, rfl, _⟩ := entry_of_lookup? h
    rfl
  | cons name first ih =>
    obtain ⟨children, child, rfl, hchild, h⟩ := entry_of_lookup? h
    rw [lookup?_cons, hchild]
    exact ih h

section
variable {node : Node} {parent : List Bytes} (name : Bytes) (entry : Entry)

/-- What is put into a directory is there. -/
theorem lookup?_put_self (h : node.lookup? parent = some .directory) :
    (node.put entry (parent ++ [name])).lookup? (parent ++ [name]) = some entry := by
  induction parent generalizing node with
  | nil =>
    cases node with
    | file bytes => cases h
    | directory children =>
      rw [List.nil_append, put, lookup?_cons, child?_putChild_self, Option.bind_some, put,
        lookup?_nil, entry_ofEntry]
  | cons n parent ih =>
    obtain ⟨children, child, rfl, hchild, h⟩ := entry_of_lookup? h
    rw [List.cons_append, put, lookup?_cons, child?_putChild_self, hchild]
    exact ih h

/-- What is put into a directory changes nothing but what is there and below. -/
theorem lookup?_put_other (h : node.lookup? parent = some .directory) {other : List Bytes}
    (hother : ¬ parent ++ [name] <+: other) :
    (node.put entry (parent ++ [name])).lookup? other = node.lookup? other := by
  induction parent generalizing node other with
  | nil =>
    cases node with
    | file bytes => cases h
    | directory children =>
      cases other with
      | nil => rfl
      | cons m rest =>
        have hne : name ≠ m := by
          rintro rfl
          exact hother ⟨rest, rfl⟩
        rw [List.nil_append, put, lookup?_cons, lookup?_cons, child?_putChild_of_ne _ _ hne]
  | cons n parent ih =>
    obtain ⟨children, child, rfl, hchild, h⟩ := entry_of_lookup? h
    cases other with
    | nil => rfl
    | cons m rest =>
      rw [List.cons_append, put, lookup?_cons, lookup?_cons, hchild]
      by_cases hm : n = m
      · subst hm
        have hrest : ¬ parent ++ [name] <+: rest := by
          intro hprefix
          exact hother (List.cons_prefix_cons.mpr ⟨rfl, hprefix⟩)
        rw [child?_putChild_self, hchild]
        exact ih h hrest
      · rw [child?_putChild_of_ne _ _ hm]

end

end Node

/-! ## Trees -/

namespace Tree

theorem inBase?_replace (base other : Base) (node : Node) (bases : List (Base × Node)) :
    inBase? other (replace base node bases) =
      if base = other then some node else inBase? other bases := by
  induction bases with
  | nil => simp [replace, inBase?]
  | cons b rest ih =>
    by_cases hb : b.1 = base
    · subst hb
      by_cases h : b.1 = other <;> simp [replace, inBase?, h]
    · rw [replace, if_neg hb]
      by_cases h : b.1 = other
      · have hne : base ≠ other := fun heq => hb (h.trans heq.symm)
        simp [inBase?, h, hne]
      · simp [inBase?, h, ih]

theorem node_put (tree : Tree) (place : Place) (entry : Entry) (base : Base) :
    (tree.put place entry).node base =
      if place.base = base then (tree.node place.base).put entry place.names
      else tree.node base := by
  rw [node, put, inBase?_replace]
  split
  · rfl
  · rfl

/-- Each base is a directory. -/
def Grounded (tree : Tree) : Prop := ∀ base, tree.lookup? ⟨base, []⟩ = some .directory

/-- A place in a directory. -/
def Enclosed (tree : Tree) (place : Place) : Prop :=
  ∃ parent name, place.names = parent ++ [name] ∧
    tree.lookup? ⟨place.base, parent⟩ = some .directory

theorem grounded_empty : ({} : Tree).Grounded := fun _ => rfl

section
variable {tree : Tree} {place : Place} (entry : Entry)

theorem lookup?_put_self (h : tree.Enclosed place) :
    (tree.put place entry).lookup? place = some entry := by
  obtain ⟨parent, name, hnames, hparent⟩ := h
  rw [lookup?, node_put, if_pos rfl, hnames]
  exact Node.lookup?_put_self name entry hparent

theorem lookup?_put_other (h : tree.Enclosed place) {other : Place}
    (hother : place.base = other.base → ¬ place.names <+: other.names) :
    (tree.put place entry).lookup? other = tree.lookup? other := by
  obtain ⟨parent, name, hnames, hparent⟩ := h
  rw [lookup?, node_put]
  split
  · rename_i hbase
    have hprefix := hother hbase
    rw [hnames] at hprefix ⊢
    rw [Node.lookup?_put_other name entry hparent hprefix, hbase]
    rfl
  · rfl

theorem grounded_put (hg : tree.Grounded) (h : tree.Enclosed place) :
    (tree.put place entry).Grounded := by
  intro base
  rw [lookup?_put_other entry h, hg base]
  intro _ hprefix
  obtain ⟨parent, name, hnames, _⟩ := h
  rw [hnames] at hprefix
  simpa using hprefix.length_le

/-- A directory is neither at nor below a place where there is none. -/
theorem notPrefix_of_directory (hfree : tree.lookup? place ≠ some .directory) {other : Place}
    (hother : tree.lookup? other = some .directory) (hbase : place.base = other.base) :
    ¬ place.names <+: other.names := by
  rintro ⟨rest, hrest⟩
  apply hfree
  rw [lookup?, ← hrest, ← hbase] at hother
  cases rest with
  | nil => rwa [List.append_nil] at hother
  | cons name rest => exact Node.lookup?_of_append hother (List.cons_ne_nil _ _)

end

/-! ## Walks -/

section
variable {tree : Tree}

theorem lookup?_of_look {place : Place} {found : Option Entry}
    (h : tree.look place = .ok found) : tree.lookup? place = found := by
  unfold look at h
  split at h
  · cases h
  · exact Except.ok.inj h

/-- How a place can lie: in a directory, at a base, or in a base that is no directory. -/
inductive Lies (tree : Tree) (place : Place) : Prop
  | enclosed (parent : tree.Enclosed place)
  | base (names : place.names = [])
  | blocked (name : Bytes) (names : place.names = [name])
      (base : tree.lookup? ⟨place.base, []⟩ ≠ some .directory)

/-- A place that is entered from a directory or from a base is a directory or lies so. -/
theorem lies_of_enter {place : Place} {name : Bytes}
    (hplace : tree.lookup? place = some .directory ∨ place.names = [])
    (hfree : tree.lookup? (enter place name) ≠ some .directory) :
    tree.Lies (enter place name) := by
  unfold enter at hfree ⊢
  split at hfree
  · rename_i hdot
    rw [if_pos hdot]
    exact .base (hplace.resolve_left hfree)
  rename_i hdot
  rw [if_neg hdot]
  split at hfree
  · rename_i hdots
    rw [if_pos hdots]
    split at hfree
    · rename_i hnames
      rw [if_pos hnames]
      exact .base rfl
    · rename_i hnames
      have hdirectory := hplace.resolve_right hnames
      rw [lookup?, ← List.dropLast_append_getLast hnames] at hdirectory
      exact absurd (Node.lookup?_of_append hdirectory (List.cons_ne_nil _ _)) hfree
  · rename_i hdots
    rw [if_neg hdots]
    by_cases hdirectory : tree.lookup? place = some .directory
    · exact .enclosed ⟨place.names, name, rfl, hdirectory⟩
    · obtain ⟨base, names⟩ := place
      obtain rfl : names = [] := hplace.resolve_left hdirectory
      exact .blocked name rfl hdirectory

theorem lies_of_walk {place target : Place} {names : List Bytes}
    (hplace : tree.lookup? place = some .directory ∨ place.names = [])
    (h : tree.walk place names = .ok target) (hfree : tree.lookup? target ≠ some .directory) :
    tree.Lies target := by
  fun_induction tree.walk place names with
  | case1 place =>
    cases h
    exact .base (hplace.resolve_left hfree)
  | case2 place name =>
    cases h
    exact lies_of_enter hplace hfree
  | case3 | case4 | case5 => cases h
  | case6 place name rest _ hlook ih => exact ih (.inl (lookup?_of_look hlook)) h

/-- Where the bases are directories, a place that is none lies in a directory. -/
theorem Lies.enclosed_of_grounded {place : Place} (h : tree.Lies place) (hg : tree.Grounded)
    (hfree : tree.lookup? place ≠ some .directory) : tree.Enclosed place := by
  obtain ⟨base, names⟩ := place
  cases h with
  | enclosed parent => exact parent
  | base hnames =>
    obtain rfl : names = [] := hnames
    exact absurd (hg base) hfree
  | blocked _ _ hbase => exact absurd (hg base) hbase

/-- A walk to a place passes by nothing that is put there. -/
theorem walk_put (entry : Entry) {place target : Place} (henclosed : tree.Enclosed target)
    (hfree : tree.lookup? target ≠ some .directory) {names : List Bytes}
    (h : tree.walk place names = .ok target) :
    (tree.put target entry).walk place names = .ok target := by
  fun_induction tree.walk place names with
  | case1 place => exact h
  | case2 place name => exact h
  | case3 | case4 | case5 => cases h
  | case6 place name rest hrest hlook ih =>
    have hkept : (tree.put target entry).look (enter place name) = .ok (some .directory) := by
      have hdirectory := lookup?_of_look hlook
      unfold look at hlook ⊢
      split at hlook
      · cases hlook
      · rename_i hshort
        rw [if_neg hshort, lookup?_put_other entry henclosed
          (notPrefix_of_directory hfree hdirectory), hdirectory]
    rw [walk, hkept]
    · exact ih h
    · exact hrest

/-- A path leads to a place by a walk from the root or from the working directory. -/
theorem locate_ok_iff {path : Text} {place : Place} :
    tree.locate path = .ok place ↔ ∃ bytes, Path.encode path = .ok bytes ∧ bytes ≠ [] ∧
      bytes.length < Path.maxLength ∧ tree.walk (origin bytes) (Path.names bytes) = .ok place := by
  unfold locate
  cases hencode : Path.encode path with
  | error e => simp
  | ok bytes =>
    cases bytes with
    | nil => simp
    | cons b bytes =>
      simp only [Except.ok.injEq, exists_eq_left', ne_eq, reduceCtorEq, not_false_eq_true, true_and]
      split
      · rename_i hlong
        simp only [reduceCtorEq, false_iff]
        exact fun h => absurd hlong (Nat.not_le.mpr h.1)
      · rename_i hshort
        rw [List.length_cons] at hshort
        cases hwalk : tree.walk (origin (b :: bytes)) (Path.names (b :: bytes)) with
        | error fault => simp [Except.mapError]
        | ok found => simp [Except.mapError, Nat.not_le.mp hshort]

theorem lies_of_locate {path : Text} {place : Place} (h : tree.locate path = .ok place)
    (hfree : tree.lookup? place ≠ some .directory) : tree.Lies place := by
  obtain ⟨bytes, _, _, _, hwalk⟩ := locate_ok_iff.mp h
  exact lies_of_walk (.inr rfl) hwalk hfree

theorem enclosed_of_locate (hg : tree.Grounded) {path : Text} {place : Place}
    (h : tree.locate path = .ok place) (hfree : tree.lookup? place ≠ some .directory) :
    tree.Enclosed place := (lies_of_locate h hfree).enclosed_of_grounded hg hfree

theorem locate_put (entry : Entry) {path : Text} {place : Place} (henclosed : tree.Enclosed place)
    (hfree : tree.lookup? place ≠ some .directory) (h : tree.locate path = .ok place) :
    (tree.put place entry).locate path = .ok place := by
  obtain ⟨bytes, hencode, hne, hshort, hwalk⟩ := locate_ok_iff.mp h
  exact locate_ok_iff.mpr ⟨bytes, hencode, hne, hshort, walk_put entry henclosed hfree hwalk⟩

end

/-! ## Writing and making directories -/

section
variable {tree after : Tree} {path : Text}

theorem inspect_ok_iff {place : Place} {found : Option Entry} :
    tree.inspect path = .ok (place, found) ↔
      tree.locate path = .ok place ∧ tree.look place = .ok found := by
  unfold inspect
  cases hlocate : tree.locate path with
  | error e => simp
  | ok p =>
    show (((tree.look p).map (p, ·)).mapError (PathError.system · path) = _) ↔ _
    cases hlook : tree.look p with
    | error fault =>
      simp only [Except.map, Except.mapError, reduceCtorEq, Except.ok.injEq, false_iff]
      rintro ⟨rfl, h⟩
      rw [hlook] at h
      cases h
    | ok f =>
      simp only [Except.map, Except.mapError, Except.ok.injEq, Prod.mk.injEq]
      constructor
      · rintro ⟨rfl, rfl⟩
        exact ⟨rfl, hlook⟩
      · rintro ⟨rfl, h⟩
        exact ⟨rfl, Except.ok.inj (hlook.symm.trans h)⟩

/-- What a written file leaves in a tree. -/
theorem write_cases {bytes : Bytes} (h : tree.write path bytes = .ok after) :
    ∃ place found, tree.locate path = .ok place ∧ Path.wantsDirectory path = false ∧
      tree.look place = .ok found ∧ found ≠ some .directory ∧
      after = tree.put place (.file bytes) := by
  unfold write at h
  split at h
  · cases h
  · rename_i place hlocate
    split at h
    · cases h
    · rename_i hwants
      split at h
      · cases h
      · cases h
      · rename_i found hfound hlook
        cases h
        exact ⟨place, found, hlocate, by simpa using hwants, hlook, hfound, rfl⟩

/-- A file is found under the path that it was written under. -/
theorem find_of_write (hg : tree.Grounded) {bytes : Bytes}
    (h : tree.write path bytes = .ok after) : after.find path = .ok (.file bytes) := by
  obtain ⟨place, found, hlocate, hwants, hlook, hfound, rfl⟩ := write_cases h
  have hfree : tree.lookup? place ≠ some .directory := lookup?_of_look hlook ▸ hfound
  have henclosed := enclosed_of_locate hg hlocate hfree
  have hlook' : (tree.put place (.file bytes)).look place = .ok (some (.file bytes)) := by
    unfold look at hlook ⊢
    split at hlook
    · cases hlook
    · rename_i hshort
      rw [if_neg hshort, lookup?_put_self _ henclosed]
  have hinspect := inspect_ok_iff.mpr ⟨locate_put _ henclosed hfree hlocate, hlook'⟩
  unfold find
  rw [hinspect, hwants]
  rfl

theorem grounded_makeDirectory (hg : tree.Grounded) (h : tree.makeDirectory path = .ok after) :
    after.Grounded := by
  unfold makeDirectory at h
  split at h
  · cases h
  · cases h
  · rename_i place hinspect
    obtain ⟨hlocate, hlook⟩ := inspect_ok_iff.mp hinspect
    have hfree : tree.lookup? place ≠ some .directory := by
      rw [lookup?_of_look hlook]
      exact Option.some_ne_none _ |>.symm
    cases h
    exact grounded_put _ hg (enclosed_of_locate hg hlocate hfree)

theorem grounded_makeLast (hg : tree.Grounded) : (tree.makeLast path).2.Grounded := by
  unfold makeLast
  split
  · rename_i after h
    exact grounded_makeDirectory hg h
  · split
    · exact hg
    · exact hg

/-- Making directories leaves the bases as they are, also where it fails. -/
theorem grounded_makeDirectories (hg : tree.Grounded) : (tree.makeDirectories path).2.Grounded := by
  fun_induction tree.makeDirectories path with
  | case1 | case2 => exact grounded_makeLast hg
  | case3 _ _ _ _ _ made hmade _ ih =>
    rw [hmade] at ih
    exact ih
  | case4 _ _ _ _ _ made hmade _ ih =>
    rw [hmade] at ih
    exact grounded_makeLast ih
  | case5 _ _ _ _ _ made _ hmade ih =>
    rw [hmade] at ih
    exact ih
  | case6 _ _ _ _ _ made hmade _ ih =>
    rw [hmade] at ih
    exact ih
  | case7 _ _ _ _ _ made hmade _ ih =>
    rw [hmade] at ih
    exact grounded_makeLast ih

theorem grounded_ensureDirectory (hg : tree.Grounded) :
    (tree.ensureDirectory path).2.Grounded := by
  unfold ensureDirectory
  split
  · exact hg
  · exact grounded_makeDirectories hg

/-- A file is found under the path that it was written under, once the directories on the way
have been made. -/
theorem find_of_writeWithParents (hg : tree.Grounded) {bytes : Bytes}
    (h : tree.writeWithParents path bytes = (.ok (), after)) :
    after.find path = .ok (.file bytes) := by
  have hmade : (tree.ensureDirectory (Path.parent path)).2.Grounded := grounded_ensureDirectory hg
  unfold writeWithParents at h
  split at h
  · cases h
  · rename_i made hensure
    rw [hensure] at hmade
    split at h
    · cases h
    · rename_i written hwrite
      cases h
      exact find_of_write hmade hwrite

end

end Tree

end FlatBlocks.Files
