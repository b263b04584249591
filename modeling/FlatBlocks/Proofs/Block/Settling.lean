import FlatBlocks.Proofs.Block.Nesting

/-! # What is done with when a block is marked

While a block is being printed, what it leads to is visited. Where links never lead in a
circle, none of that leads back to the block, so that whatever a walk meets again is done
with: it has been visited, and so has all that it leads to. -/

namespace FlatBlocks.Block.Outline

/-! ## Markers and what has been visited -/

/-- The blocks that lines mark, each with the ids that have been visited by then. -/
def marked : List Text → List (Line Text) → List (List Text × Text)
  | _, [] => []
  | seen, .heading _ id _ :: rest => marked (id :: seen) rest
  | seen, .input _ _ :: rest => marked seen rest
  | seen, .missing _ _ :: rest => marked seen rest
  | seen, .cycle _ id :: rest => (seen, id) :: marked seen rest

theorem marked_append (seen : List Text) (first second : List (Line Text)) :
    marked seen (first ++ second) =
      marked seen first ++ marked ((printedIds first).reverse ++ seen) second := by
  induction first generalizing seen with
  | nil => rfl
  | cons line rest ih =>
    cases line with
    | heading level id record =>
      have hprinted : (printedIds (.heading level id record :: rest)).reverse ++ seen =
          (printedIds rest).reverse ++ id :: seen := by
        show (id :: printedIds rest).reverse ++ seen = _
        simp
      rw [List.cons_append, marked, marked, ih, hprinted]
    | input level name => exact ih seen
    | missing level id => exact ih seen
    | cycle level id =>
      rw [List.cons_append, marked, marked, ih]
      rfl

/-! ## What is done with -/

section
variable {records : Table (Record Text)} {task : Task Text} {active visited after ids : List Text}
  {lines : List (Line Text)} {id : Text} {record : Record Text}

/-- A key with a record is reached from another one through links. -/
def Reaches (records : Table (Record Text)) (source target : Text) : Prop :=
  Relation.ReflTransGen (Leads records) source target ∧ (records.get? target).isSome

/-- What is reached from a block is that block, or it is reached from a block that this links to. -/
theorem Reaches.cases_head {source target : Text} (h : Reaches records source target) :
    source = target ∨ ∃ r, records.get? source = some r ∧
      ∃ next ∈ r.links, (records.get? next).isSome ∧ Reaches records next target := by
  obtain ⟨hpath, hknown⟩ := h
  rcases Relation.ReflTransGen.cases_head hpath with rfl | ⟨next, ⟨r, hr, hn⟩, hrest⟩
  · exact .inl rfl
  · refine .inr ⟨r, hr, next, hn, ?_, hrest, hknown⟩
    rcases Relation.ReflTransGen.cases_head hrest with rfl | ⟨_, ⟨s, hs, _⟩, _⟩
    · exact hknown
    · exact Option.isSome_of_eq_some hs

/-- No path leads from the given ids to an active one, that of a block that is being printed. -/
def Avoids (records : Table (Record Text)) (active ids : List Text) : Prop :=
  ∀ id ∈ ids, ∀ key ∈ active, ¬ Relation.ReflTransGen (Leads records) id key

/-- What has been visited is settled unless it is active: all that it leads to has been visited,
too. -/
def Settled (records : Table (Record Text)) (active visited : List Text) : Prop :=
  ∀ key ∈ visited, key ∉ active → ∀ target, Reaches records key target → target ∈ visited

theorem Avoids.notMem (h : Avoids records active ids) (hid : id ∈ ids) : id ∉ active :=
  fun ha => h id hid id ha .refl

theorem Avoids.subset {fewer : List Text} (h : Avoids records active ids) (hsub : fewer ⊆ ids) :
    Avoids records active fewer := fun id hid => h id (hsub hid)

/-- Where links never lead in a circle, those of a block lead back neither to it nor to what its own
id avoids. -/
theorem Avoids.links (hacyclic : ∀ id, ¬ Relation.TransGen (Leads records) id id)
    (h : Avoids records active [id]) (hr : records.get? id = some record) :
    Avoids records (id :: active) record.links := by
  intro next hn key hk hpath
  have hlead : Leads records id next := ⟨record, hr, hn⟩
  rcases List.mem_cons.mp hk with rfl | hk
  · exact hacyclic key (.head' hlead hpath)
  · exact h id List.mem_cons_self key hk (.head hlead hpath)

theorem Avoids.of_cons {key : Text} (h : Avoids records (key :: active) ids) :
    Avoids records active ids := fun id hid other ho => h id hid other (List.mem_cons_of_mem _ ho)

/-- A block that is entered need not be settled, for it is active. -/
theorem Settled.enter (h : Settled records active visited) (id : Text) :
    Settled records (id :: active) (id :: visited) := by
  intro key hk hna target ht
  rw [List.mem_cons, not_or] at hna
  have hv : key ∈ visited := (List.mem_cons.mp hk).resolve_left hna.1
  exact List.mem_cons_of_mem _ (h key hv hna.2 target ht)

/-- A block is no longer active once the blocks that it links to have been visited: these are not
active either, so they are settled. -/
theorem Settled.leave (h : Settled records (id :: active) after)
    (hr : records.get? id = some record) (hid : id ∈ after)
    (hlinks : Avoids records (id :: active) record.links)
    (hvisited : ∀ next ∈ record.links, (records.get? next).isSome → next ∈ after) :
    Settled records active after := by
  intro key hk hna target ht
  by_cases hkey : key = id
  · subst hkey
    rcases ht.cases_head with rfl | ⟨r, hr', next, hn, hknown, hrest⟩
    · exact hid
    · obtain rfl : record = r := Option.some.inj (hr.symm.trans hr')
      exact h next (hvisited next hn hknown) (hlinks.notMem hn) target hrest
  · exact h key hk (by simp [hkey, hna]) target ht

/-- Each block that is marked has been settled by then. -/
def MarksSettled (records : Table (Record Text)) (visited : List Text)
    (lines : List (Line Text)) : Prop :=
  ∀ m ∈ marked visited lines, ∀ target, Reaches records m.2 target → target ∈ m.1

theorem MarksSettled.append {more : List (Line Text)} (h : MarksSettled records visited lines)
    (hwalk : Walk records task visited lines after) (h' : MarksSettled records after more) :
    MarksSettled records visited (lines ++ more) := by
  rw [hwalk.after_eq_printed] at h'
  unfold MarksSettled
  rw [marked_append]
  exact List.forall_mem_append.mpr ⟨h, h'⟩

/-- Where links never lead in a circle, a walk leaves settled what it visits, and what it marks has
been settled, as long as its sources do not lead back to active blocks. -/
theorem Walk.settled (hblank : (records.get? []).isNone)
    (hacyclic : ∀ id, ¬ Relation.TransGen (Leads records) id id)
    (h : Walk records task visited lines after) (havoids : Avoids records active task.sources)
    (hsettled : Settled records active visited) :
    Settled records active after ∧ MarksSettled records visited lines := by
  induction h generalizing active with
  | nothing | blank | missing | last | noInputs | noParagraphs =>
    exact ⟨hsettled, by simp [MarksSettled, marked]⟩
  | @again level id record visited after lines hid hr hv rest ih =>
    have hlinks := (havoids.links hacyclic hr).of_cons
    obtain ⟨hafter, hmarks⟩ := ih (hlinks.subset (List.subset_append_right _ _)) hsettled
    have hself : id ∉ active := havoids.notMem List.mem_cons_self
    exact ⟨hafter, List.forall_mem_cons.mpr ⟨hsettled id hv hself, hmarks⟩⟩
  | @enter level id record visited between after inner more _ hr hv inputs rest ihinputs ihrest =>
    -- the block is active while its slots are walked through and its stack is walked on
    have hlinks := havoids.links hacyclic hr
    obtain ⟨hbetween, hinner⟩ :=
      ihinputs (hlinks.subset (List.subset_append_left _ _)) (hsettled.enter id)
    obtain ⟨hafter, hmore⟩ := ihrest (hlinks.subset (List.subset_append_right _ _)) hbetween
    have hid : id ∈ after := rest.mem_after (inputs.mem_after List.mem_cons_self)
    refine ⟨hafter.leave hr hid hlinks ?_, ?_⟩
    · intro next hn hknown
      rcases List.mem_append.mp hn with hn | hn
      · exact rest.mem_after ((inputs.closed hblank).1 next hn hknown)
      · exact (rest.closed hblank).1 next hn hknown
    · exact hinner.append inputs hmore
  | @repeated level id visited hv =>
    refine ⟨hsettled, ?_⟩
    have hself := hsettled id hv (havoids.notMem List.mem_cons_self)
    unfold Outline.repeated
    split
    · simp [MarksSettled, marked]
    · exact List.forall_mem_singleton.mpr hself
  | chain _ _ ih => exact ih havoids hsettled
  | input first others ihfirst ihothers =>
    obtain ⟨hbetween, hlines⟩ :=
      ihfirst (havoids.subset (List.cons_subset_cons _ (List.nil_subset _))) hsettled
    obtain ⟨hafter, hmore⟩ := ihothers (havoids.subset (List.subset_cons_self _ _)) hbetween
    exact ⟨hafter, hlines.append first hmore⟩
  | paragraph first others ihfirst ihothers =>
    obtain ⟨hbetween, hlines⟩ :=
      ihfirst (havoids.subset (List.cons_subset_cons _ (List.nil_subset _))) hsettled
    obtain ⟨hafter, hmore⟩ := ihothers (havoids.subset (List.subset_cons_self _ _)) hbetween
    exact ⟨hafter, hlines.append first hmore⟩

end

end FlatBlocks.Block.Outline
