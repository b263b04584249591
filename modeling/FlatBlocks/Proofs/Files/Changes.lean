import FlatBlocks.Proofs.Files.Tree

/-! # What writing changes

A file that is written changes what there is at its place. A directory that is made for it is
new, and the path leads through it. All other places stay as they are, whatever the tree holds
and also where a base is no directory. -/

namespace FlatBlocks.Files
open FlatBlocks.Text

/-! ## Bytes of paths -/

namespace Path

/-- The bytes that stand for a code point of a path, if there are any. -/
def pointBytes : CodePoint → Bytes
  | .char c => Utf8.encodeChar c
  | .surrogate offset => (byteOf offset).toList

theorem encodeFrom_ok_iff {path : Text} {position : Nat} {written bytes : Bytes} :
    Utf8.encodeFrom byteOf position written path = .ok bytes ↔
      (∀ offset, .surrogate offset ∈ path → (byteOf offset).isSome = true) ∧
        bytes = written.reverse ++ path.flatMap pointBytes := by
  induction path generalizing position written with
  | nil =>
    rw [Utf8.encodeFrom, List.flatMap_nil, List.append_nil, Except.ok.injEq]
    exact ⟨fun h => ⟨fun _ ho => (List.not_mem_nil ho).elim, h.symm⟩, fun h => h.2.symm⟩
  | cons c rest ih =>
    cases c with
    | char c => simp [Utf8.encodeFrom, ih, pointBytes]
    | surrogate offset =>
      rw [Utf8.encodeFrom]
      cases hbyte : byteOf offset with
      | none => simp [hbyte]
      | some b => simp [ih, pointBytes, hbyte]

theorem encode_ok_iff {path : Text} {bytes : Bytes} : encode path = .ok bytes ↔
    (∀ offset, .surrogate offset ∈ path → (byteOf offset).isSome = true) ∧
      bytes = path.flatMap pointBytes ∧ 0 ∉ bytes := by
  unfold encode
  cases hencode : Utf8.encodeFrom byteOf 0 [] path with
  | error cause =>
    simp only [reduceCtorEq, false_iff]
    rintro ⟨hbyte, -, -⟩
    rw [encodeFrom_ok_iff.mpr ⟨hbyte, rfl⟩] at hencode
    cases hencode
  | ok found =>
    obtain ⟨hbyte, hfound⟩ := encodeFrom_ok_iff.mp hencode
    obtain rfl : found = path.flatMap pointBytes := hfound
    dsimp only
    by_cases hzero : 0 ∈ path.flatMap pointBytes
    · rw [if_pos (List.contains_iff_mem.mpr hzero)]
      simp only [reduceCtorEq, false_iff]
      rintro ⟨-, rfl, hno⟩
      exact hno hzero
    · rw [if_neg fun h => hzero (List.contains_iff_mem.mp h), Except.ok.injEq]
      exact ⟨fun h => ⟨hbyte, h.symm, h ▸ hzero⟩, fun h => h.2.1.symm⟩

theorem pointBytes_slash : pointBytes (.char '/') = [slash] := by decide

/-! ## Names of paths -/

theorem namesFrom_eq (read : List Bytes) (name bytes : Bytes) :
    namesFrom read name bytes = read.reverse ++ namesFrom [] name bytes := by
  induction bytes generalizing read name with
  | nil => simp [namesFrom]
  | cons b rest ih =>
    rw [namesFrom, namesFrom]
    split
    · rw [ih, ih [name.reverse]]
      simp
    · exact ih read (b :: name)

theorem namesFrom_slash (read : List Bytes) (name front back : Bytes) :
    namesFrom read name (front ++ slash :: back) =
      namesFrom read name front ++ namesFrom [] [] back := by
  induction front generalizing read name with
  | nil =>
    have hcut : namesFrom read name (slash :: back) = namesFrom (name.reverse :: read) [] back := by
      rw [namesFrom, if_pos rfl]
    rw [List.nil_append, hcut, namesFrom_eq, namesFrom]
  | cons b rest ih =>
    rw [List.cons_append, namesFrom, namesFrom]
    split
    · exact ih _ _
    · exact ih _ _

/-- A slash parts the names before it from those after it. -/
theorem names_slash (front back : Bytes) :
    names (front ++ slash :: back) = names front ++ names back := by
  rw [names, namesFrom_slash, List.filter_append]
  rfl

/-! ## Ways -/

theorem flatMap_pointBytes_ne_nil {path : Text} (h : path ≠ [])
    (hbyte : ∀ offset, .surrogate offset ∈ path → (byteOf offset).isSome = true) :
    path.flatMap pointBytes ≠ [] := by
  obtain ⟨c, rest, rfl⟩ := List.exists_cons_of_ne_nil h
  intro hnone
  have hpoint : pointBytes c = [] := (List.append_eq_nil_iff.mp hnone).1
  cases c with
  | char c =>
    rw [pointBytes, Utf8.encodeChar] at hpoint
    split_ifs at hpoint
  | surrogate offset =>
    obtain ⟨b, hb⟩ := Option.isSome_iff_exists.mp (hbyte offset List.mem_cons_self)
    rw [pointBytes, hb] at hpoint
    cases hpoint

/-- The way of a path goes on where that of another ends. -/
def Extends (path front : Text) : Prop :=
  ∀ bytes, encode path = .ok bytes → ∃ first, encode front = .ok first ∧
    Tree.origin first = Tree.origin bytes ∧ names first <+: names bytes

namespace Extends

theorem refl (path : Text) : Extends path path :=
  fun bytes h => ⟨bytes, h, rfl, List.prefix_rfl⟩

theorem trans {path middle front : Text} (h : Extends path middle) (hm : Extends middle front) :
    Extends path front := by
  intro bytes hbytes
  obtain ⟨second, hsecond, horigin, hnames⟩ := h bytes hbytes
  obtain ⟨first, hfirst, horigin', hnames'⟩ := hm second hsecond
  exact ⟨first, hfirst, horigin'.trans horigin, hnames'.trans hnames⟩

/-- The bytes of a path begin with those of the text at its front. -/
theorem of_append {front rest : Text} (hfront : front ≠ [])
    (h : names (front.flatMap pointBytes) <+: names ((front ++ rest).flatMap pointBytes)) :
    Extends (front ++ rest) front := by
  intro bytes hbytes
  obtain ⟨hbyte, rfl, hzero⟩ := encode_ok_iff.mp hbytes
  have hown : ∀ offset, .surrogate offset ∈ front → (byteOf offset).isSome = true :=
    fun offset ho => hbyte offset (List.mem_append_left _ ho)
  rw [List.flatMap_append] at hzero ⊢
  refine ⟨_, encode_ok_iff.mpr ⟨hown, rfl, fun ho => hzero (List.mem_append_left _ ho)⟩, ?_, ?_⟩
  · rw [Tree.origin, Tree.origin,
      List.head?_append_of_ne_nil _ (flatMap_pointBytes_ne_nil hfront hown)]
  · rwa [List.flatMap_append] at h

theorem of_slash {path front rest : Text} (hfront : front ≠ [])
    (hpath : path = front ++ .char '/' :: rest) : Extends path front := by
  rw [hpath]
  refine of_append hfront ?_
  rw [List.flatMap_append, List.flatMap_cons, pointBytes_slash, List.singleton_append, names_slash]
  exact List.prefix_append _ _

theorem of_slash_before {path front rest : Text}
    (hpath : path = (front ++ [.char '/']) ++ rest) : Extends path (front ++ [.char '/']) := by
  rw [hpath]
  refine of_append (by simp) ?_
  have hcut : (front ++ [CodePoint.char '/']).flatMap pointBytes =
      front.flatMap pointBytes ++ [slash] := by
    rw [List.flatMap_append, List.flatMap_singleton, pointBytes_slash]
  rw [hcut, List.flatMap_append, hcut, List.append_assoc, List.singleton_append, names_slash,
    names_slash]
  exact (List.prefix_append_right_inj _).mpr List.nil_prefix

end Extends

/-- A path goes on behind what stands before its last slash. -/
theorem extends_parent {path : Text} (h : parent path ≠ []) : Extends path (parent path) := by
  generalize hhead : path.reverse.dropWhile (· != .char '/') = head
  have hpath : head.reverse ++ base path = path := by
    rw [base, ← hhead, ← List.reverse_append, List.takeWhile_append_dropWhile, List.reverse_reverse]
  have hfirst : head.head? = some (.char '/') := by
    cases hc : head.head? with
    | none => exact absurd (by simp [parent, hhead, List.head?_eq_none_iff.mp hc]) h
    | some c =>
      have hstop := List.head?_dropWhile_not (· != .char '/') path.reverse
      rw [hhead, hc] at hstop
      simpa using hstop
  obtain ⟨front, rfl⟩ : ∃ front, head = .char '/' :: front := List.head?_eq_some_iff.mp hfirst
  by_cases hall : (front.dropWhile (· == .char '/')).isEmpty = true
  · have hparent : parent path = front.reverse ++ [.char '/'] := by
      simp [parent, hhead, hall]
    rw [hparent]
    have hcut : path = (front.reverse ++ [.char '/']) ++ base path := by
      rw [← List.reverse_cons, hpath]
    exact Extends.of_slash_before hcut
  · have hparent : parent path = (front.dropWhile (· == .char '/')).reverse := by
      simp [parent, hhead, hall]
    obtain ⟨more, hmore⟩ : ∃ more, (.char '/' :: front.takeWhile (· == .char '/')).reverse =
        CodePoint.char '/' :: more := by
      obtain ⟨c, more, hmore⟩ := List.exists_cons_of_ne_nil
        (l := (CodePoint.char '/' :: front.takeWhile (· == .char '/')).reverse) (by simp)
      have hc : c ∈ CodePoint.char '/' :: front.takeWhile (· == .char '/') :=
        List.mem_reverse.mp (hmore ▸ List.mem_cons_self)
      rcases List.mem_cons.mp hc with rfl | hc
      · exact ⟨more, hmore⟩
      · obtain rfl : c = .char '/' := by simpa using List.all_eq_true.mp List.all_takeWhile c hc
        exact ⟨more, hmore⟩
    have hcut : path = parent path ++ .char '/' :: (more ++ base path) := by
      rw [hparent, ← List.cons_append, ← hmore, ← List.append_assoc, ← List.reverse_append,
        List.cons_append, List.takeWhile_append_dropWhile, hpath]
    exact Extends.of_slash h hcut

end Path

/-! ## Changes in a node -/

namespace Node

/-- There is nothing below what has been put somewhere, or has not. -/
theorem lookup?_put_below (entry : Entry) (node : Node) (names : List Bytes) {rest : List Bytes}
    (h : rest ≠ []) : (node.put entry names).lookup? (names ++ rest) = none := by
  obtain ⟨name, more, rfl⟩ := List.exists_cons_of_ne_nil h
  induction names generalizing node with
  | nil => cases entry <;> rfl
  | cons n names ih =>
    cases node with
    | file bytes => rfl
    | directory children =>
      rw [put, List.cons_append, lookup?_cons, child?_putChild_self]
      exact ih _

theorem lookup?_append_of_free {node : Node} {names rest : List Bytes} (h : rest ≠ [])
    (hfree : node.lookup? names ≠ some .directory) : node.lookup? (names ++ rest) = none := by
  cases hfound : node.lookup? (names ++ rest) with
  | none => rfl
  | some entry => exact absurd (lookup?_of_append hfound h) hfree

/-- Nothing is put below a node that is no directory. -/
theorem put_of_blocked {node : Node} (h : node.lookup? [] ≠ some .directory) (entry : Entry)
    (name : Bytes) (rest : List Bytes) : node.put entry (name :: rest) = node := by
  cases node with
  | file bytes => rfl
  | directory children => exact absurd rfl h

end Node

/-! ## Changes in a tree -/

namespace Tree

/-- The place that names lead to. -/
def reach (place : Place) (names : List Bytes) : Place := names.foldl enter place

section
variable {tree : Tree}

theorem reach_of_walk {place target : Place} {names : List Bytes}
    (h : tree.walk place names = .ok target) : reach place names = target := by
  fun_induction tree.walk place names with
  | case1 place => exact Except.ok.inj h
  | case2 place name => exact Except.ok.inj h
  | case3 | case4 | case5 => cases h
  | case6 place name rest _ _ ih => exact ih h

section
variable {place : Place} (hlies : tree.Lies place) (entry : Entry)
include hlies

/-- What is put at a place is there, unless nothing can be there. -/
theorem lookup?_put_or : (tree.put place entry).lookup? place = some entry ∨
    (tree.put place entry).lookup? place = tree.lookup? place := by
  cases hlies with
  | enclosed parent => exact .inl (lookup?_put_self entry parent)
  | base names =>
    refine .inl ?_
    rw [lookup?, node_put, if_pos rfl, names, Node.put, Node.lookup?_nil, Node.entry_ofEntry]
  | blocked name names base =>
    refine .inr ?_
    rw [lookup?, lookup?, node_put, if_pos rfl, names, Node.put_of_blocked base]

/-- What is put where there is no directory changes nothing anywhere else. -/
theorem lookup?_put_of_ne (hfree : tree.lookup? place ≠ some .directory) {other : Place}
    (hother : other ≠ place) : (tree.put place entry).lookup? other = tree.lookup? other := by
  by_cases hbelow : place.base = other.base ∧ place.names <+: other.names
  · obtain ⟨hbase, rest, hrest⟩ := hbelow
    have hne : rest ≠ [] := by
      rintro rfl
      rw [List.append_nil] at hrest
      exact hother (by cases place; cases other; simp_all)
    rw [lookup?, lookup?, node_put, if_pos hbase, ← hrest, ← hbase,
      Node.lookup?_put_below entry _ _ hne, Node.lookup?_append_of_free hne hfree]
  · cases hlies with
    | enclosed parent =>
      exact lookup?_put_other entry parent fun hbase hnames => hbelow ⟨hbase, hnames⟩
    | base names =>
      have hbase : place.base ≠ other.base :=
        fun hbase => hbelow ⟨hbase, names ▸ List.nil_prefix⟩
      rw [lookup?, node_put, if_neg hbase]
      rfl
    | blocked name names base =>
      rw [lookup?, node_put]
      split
      · rename_i hbase
        rw [lookup?, ← hbase, names, Node.put_of_blocked base]
      · rfl

/-- A place that changes is the one where something has been put. -/
theorem eq_of_put_changed (hfree : tree.lookup? place ≠ some .directory) {other : Place}
    (hchanged : (tree.put place entry).lookup? other ≠ tree.lookup? other) :
    other = place ∧ (tree.put place entry).lookup? other = some entry := by
  have hplace : other = place := by
    by_contra hother
    exact hchanged (lookup?_put_of_ne hlies entry hfree hother)
  subst hplace
  exact ⟨rfl, (lookup?_put_or hlies entry).resolve_right hchanged⟩

end

end

end Tree

/-! ## Changes by writing -/

/-- A path leads to a place. -/
def LeadsTo (path : Text) (place : Place) : Prop :=
  ∃ bytes, Path.encode path = .ok bytes ∧
    Tree.reach (Tree.origin bytes) (Path.names bytes) = place

/-- A path leads through a place or to it: the first names of the path lead there. -/
def LeadsBy (path : Text) (place : Place) : Prop :=
  ∃ bytes front, Path.encode path = .ok bytes ∧ front <+: Path.names bytes ∧
    Tree.reach (Tree.origin bytes) front = place

theorem LeadsTo.leadsBy {path : Text} {place : Place} (h : LeadsTo path place) :
    LeadsBy path place := by
  obtain ⟨bytes, hencode, hplace⟩ := h
  exact ⟨bytes, _, hencode, List.prefix_rfl, hplace⟩

theorem LeadsBy.of_extends {path front : Text} {place : Place} {bytes : Bytes}
    (hencode : Path.encode path = .ok bytes) (hfront : Path.Extends path front)
    (h : LeadsBy front place) : LeadsBy path place := by
  obtain ⟨first, hfirst, horigin, hnames⟩ := hfront bytes hencode
  obtain ⟨first', names, hfirst', hprefix, hplace⟩ := h
  obtain rfl : first = first' := Except.ok.inj (hfirst.symm.trans hfirst')
  exact ⟨bytes, names, hencode, hprefix.trans hnames, horigin ▸ hplace⟩

/-- What has come of a place when bytes have been written to a path. -/
inductive Altered (path : Text) (bytes : Bytes) (before after : Tree) (place : Place) : Prop
  | written (leads : LeadsTo path place) (free : before.lookup? place ≠ some .directory)
      (now : after.lookup? place = some (.file bytes))
  | made (leads : LeadsBy path place) (short : ¬ LeadsTo path place)
      (free : before.lookup? place = none) (now : after.lookup? place = some .directory)

/-- All that has changed are new directories that a path leads through or to. -/
def Paved (path : Text) (before after : Tree) : Prop :=
  ∀ place, after.lookup? place ≠ before.lookup? place →
    LeadsBy path place ∧ before.lookup? place = none ∧ after.lookup? place = some .directory

namespace Paved

theorem refl (path : Text) (tree : Tree) : Paved path tree tree := fun _ h => absurd rfl h

theorem trans {path : Text} {before middle after : Tree} (h : Paved path before middle)
    (hm : Paved path middle after) : Paved path before after := by
  intro place hchanged
  by_cases hfirst : middle.lookup? place = before.lookup? place
  · rw [← hfirst] at hchanged ⊢
    exact hm place hchanged
  · obtain ⟨hleads, hnone, hmade⟩ := h place hfirst
    by_cases hsecond : after.lookup? place = middle.lookup? place
    · exact ⟨hleads, hnone, hsecond.trans hmade⟩
    · obtain ⟨_, hfree, _⟩ := hm place hsecond
      rw [hmade] at hfree
      cases hfree

theorem of_extends {path front : Text} {before after : Tree} {bytes : Bytes}
    (hencode : Path.encode path = .ok bytes) (hfront : Path.Extends path front)
    (h : Paved front before after) : Paved path before after := by
  intro place hchanged
  obtain ⟨hleads, hmade⟩ := h place hchanged
  exact ⟨hleads.of_extends hencode hfront, hmade⟩

end Paved

namespace Tree

section
variable {tree after : Tree} {path : Text}

theorem leadsTo_of_locate {place : Place} (h : tree.locate path = .ok place) :
    LeadsTo path place := by
  obtain ⟨bytes, hencode, _, _, hwalk⟩ := locate_ok_iff.mp h
  exact ⟨bytes, hencode, reach_of_walk hwalk⟩

/-- Writing changes nothing but the file that the path leads to. -/
theorem altered_of_write {bytes : Bytes} (h : tree.write path bytes = .ok after) {place : Place}
    (hchanged : after.lookup? place ≠ tree.lookup? place) :
    Altered path bytes tree after place := by
  obtain ⟨target, found, hlocate, _, hlook, hfound, rfl⟩ := write_cases h
  have hfree : tree.lookup? target ≠ some .directory := lookup?_of_look hlook ▸ hfound
  obtain ⟨rfl, hput⟩ := eq_of_put_changed (lies_of_locate hlocate hfree) _ hfree hchanged
  exact .written (leadsTo_of_locate hlocate) hfree hput

theorem paved_makeDirectory (h : tree.makeDirectory path = .ok after) : Paved path tree after := by
  unfold makeDirectory at h
  split at h
  · cases h
  · cases h
  · rename_i target hinspect
    obtain ⟨hlocate, hlook⟩ := inspect_ok_iff.mp hinspect
    have hnone : tree.lookup? target = none := lookup?_of_look hlook
    have hfree : tree.lookup? target ≠ some .directory := by
      rw [hnone]
      exact fun hd => nomatch hd
    cases h
    intro place hchanged
    obtain ⟨rfl, hput⟩ := eq_of_put_changed (lies_of_locate hlocate hfree) _ hfree hchanged
    exact ⟨(leadsTo_of_locate hlocate).leadsBy, hnone, hput⟩

theorem paved_makeLast : Paved path tree (tree.makeLast path).2 := by
  unfold makeLast
  split
  · rename_i after h
    exact paved_makeDirectory h
  · split
    · exact .refl path tree
    · exact .refl path tree

theorem extends_trimmed (h : trimmed path ≠ []) : Path.Extends path (trimmed path) := by
  unfold trimmed at h ⊢
  split
  · rename_i hbase
    rw [if_pos hbase] at h
    exact Path.extends_parent h
  · exact .refl path

/-- What is made for the directory around a path is on the way of the path. -/
theorem paved_of_outer {bytes : Bytes} (hencode : Path.encode path = .ok bytes) {made : Bool}
    (houter : ¬ ((Path.parent (trimmed path)).isEmpty || made) = true)
    (h : ∀ {first : Bytes}, Path.encode (Path.parent (trimmed path)) = .ok first →
      Paved (Path.parent (trimmed path)) tree after) : Paved path tree after := by
  have hparent : Path.parent (trimmed path) ≠ [] := by
    intro hnone
    rw [hnone] at houter
    exact houter rfl
  have hown : trimmed path ≠ [] := by
    intro hnone
    rw [hnone] at hparent
    exact hparent rfl
  have hextends := (extends_trimmed hown).trans (Path.extends_parent hparent)
  obtain ⟨first, hfirst, _⟩ := hextends bytes hencode
  exact (h hfirst).of_extends hencode hextends

/-- Making directories makes those that the path leads through and to, also where it fails. -/
theorem paved_makeDirectories {bytes : Bytes} (hencode : Path.encode path = .ok bytes) :
    Paved path tree (tree.makeDirectories path).2 := by
  fun_induction tree.makeDirectories path generalizing bytes with
  | case1 | case2 => exact paved_makeLast
  | case3 _ _ _ houter _ made hmade =>
    rename_i ih
    rw [hmade] at ih
    exact paved_of_outer hencode houter ih
  | case4 _ _ _ houter _ made hmade =>
    rename_i ih
    rw [hmade] at ih
    exact (paved_of_outer hencode houter ih).trans paved_makeLast
  | case5 _ _ _ houter _ made _ hmade =>
    rename_i ih
    rw [hmade] at ih
    exact paved_of_outer hencode houter ih
  | case6 _ _ _ houter _ made hmade =>
    rename_i ih
    rw [hmade] at ih
    exact paved_of_outer hencode houter ih
  | case7 _ _ _ houter _ made hmade =>
    rename_i ih
    rw [hmade] at ih
    exact (paved_of_outer hencode houter ih).trans paved_makeLast

/-- Writing a file together with the directories around it changes the file and makes directories
that the path leads through. -/
theorem altered_of_writeWithParents {bytes : Bytes}
    (h : tree.writeWithParents path bytes = (.ok (), after)) {place : Place}
    (hchanged : after.lookup? place ≠ tree.lookup? place) :
    Altered path bytes tree after place := by
  unfold writeWithParents at h
  split at h
  · cases h
  rename_i made hensure
  split at h
  · cases h
  rename_i written hwrite
  cases h
  obtain ⟨target, found, hlocate, _, hlook, hfound, _⟩ := write_cases hwrite
  obtain ⟨whole, hencode, htarget⟩ := leadsTo_of_locate hlocate
  have hpaved : Paved path tree made := by
    unfold ensureDirectory at hensure
    split at hensure
    · cases hensure
      exact .refl path _
    · rename_i hparent
      have hextends := Path.extends_parent hparent
      obtain ⟨first, hfirst, _⟩ := hextends whole hencode
      have hmade : Paved (Path.parent path) tree (tree.makeDirectories (Path.parent path)).2 :=
        paved_makeDirectories hfirst
      rw [hensure] at hmade
      exact hmade.of_extends hencode hextends
  by_cases hfirst : made.lookup? place = tree.lookup? place
  · rw [← hfirst] at hchanged
    cases altered_of_write hwrite hchanged with
    | written leads free now => exact .written leads (hfirst ▸ free) now
    | made leads short free now => exact .made leads short (hfirst ▸ free) now
  · obtain ⟨hleads, hnone, hmade⟩ := hpaved place hfirst
    -- What has been made is not in the way of the file, so writing has left it as it is.
    have hshort : ¬ LeadsTo path place := by
      rintro ⟨whole', hencode', rfl⟩
      obtain rfl : whole = whole' := Except.ok.inj (hencode.symm.trans hencode')
      rw [htarget, lookup?_of_look hlook] at hmade
      exact hfound hmade
    have hkept : after.lookup? place = made.lookup? place := by
      by_contra hsecond
      cases altered_of_write hwrite hsecond with
      | written leads => exact hshort leads
      | made _ _ free =>
        rw [hmade] at free
        cases free
    exact .made hleads hshort hnone (hkept.trans hmade)

end

end Tree

end FlatBlocks.Files
