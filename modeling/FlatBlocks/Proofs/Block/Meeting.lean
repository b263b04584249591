import FlatBlocks.Proofs.Block.Following
import FlatBlocks.Proofs.Block.Network
import FlatBlocks.Proofs.Block.Settling
import FlatBlocks.Proofs.Lists

/-! # Where links meet

A block is marked as a cycle where an outline meets it again, and there is such a place
exactly if two links lead to one record. They need not be part of a circle: two slots that
share a block have it marked as well. Where links never lead in a circle, though, no marker
stands for a block that is still being printed: the block stands above it with all that it
leads to. -/

namespace FlatBlocks.Block.Outline
open Markup (Node)

/-- Two links of records that are reached lead to an id, those of one record or of two. -/
inductive Shared (records : List (Record Text)) (id : Text) : Prop
  | within {r : Record Text} (hr : r ∈ records) (hreached : Reachable records r.id)
      (htwice : 2 ≤ r.links.count id) : Shared records id
  | between {r s : Record Text} (hr : r ∈ records) (hs : s ∈ records) (hne : r.id ≠ s.id)
      (hrreached : Reachable records r.id) (hsreached : Reachable records s.id)
      (hrlink : id ∈ r.links) (hslink : id ∈ s.links) : Shared records id

section
variable {records : List (Record Text)}

theorem followed_ofRecords (records : List (Record Text)) :
    followed (.paragraphs (starts records)) (ofRecords records).flatten =
      starts records ++ (printed records).flatMap (·.2.links) := rfl

theorem record_of_printed {e : Text × Record Text} (he : e ∈ printed records) :
    e.2 ∈ records ∧ e.2.id = e.1 := mem_of_last? (last?_of_printed he)

/-! ## Records that differ in their ids -/

section
variable (hids : (records.map Record.id).Nodup)
include hids

theorem leads_tableOf : Leads (tableOf records) = Points records := by
  funext source target
  apply propext
  constructor
  · rintro ⟨r, hr, ht⟩
    obtain ⟨hmem, hid⟩ := (get?_tableOf_eq_some_iff hids).mp hr
    exact ⟨r, hmem, hid, ht⟩
  · rintro ⟨r, hmem, hid, ht⟩
    exact ⟨r, (get?_tableOf_eq_some_iff hids).mpr ⟨hmem, hid⟩, ht⟩

theorem isSome_get?_tableOf {r : Record Text} (hr : r ∈ records) :
    ((tableOf records).get? r.id).isSome :=
  Option.isSome_of_eq_some ((get?_tableOf_eq_some_iff hids).mpr ⟨hr, rfl⟩)

theorem last?_of_mem {r : Record Text} (hr : r ∈ records) : last? records r.id = some r := by
  rw [last?, ← get?_tableOf]
  exact (get?_tableOf_eq_some_iff hids).mpr ⟨hr, rfl⟩

theorem nodup_starts : (starts records).Nodup := by
  rw [starts_of_nodup hids]
  exact hids.sublist (List.filter_sublist.map _)

theorem id_mem_starts_iff {r : Record Text} (hr : r ∈ records) :
    r.id ∈ starts records ↔ r.topLevel = true := by
  rw [mem_starts, last?_of_mem hids hr]
  constructor
  · rintro ⟨other, ho, htop⟩
    exact Option.some.inj ho ▸ htop
  · intro htop
    exact ⟨r, rfl, htop⟩

theorem mem_headings_of_mem {lines : List (Line Text)} (hsub : headings lines ⊆ printed records)
    {r : Record Text} (hr : r ∈ records) (h : r.id ∈ printedIds lines) :
    (r.id, r) ∈ headings lines := by
  obtain ⟨⟨id, other⟩, he, rfl⟩ := List.mem_map.mp h
  obtain ⟨hmem, hid⟩ := record_of_printed (hsub he)
  obtain rfl : other = r := List.inj_on_of_nodup_map hids hmem hr hid
  exact he

end

/-! ## How often links lead to an id -/

section
variable (hids : (records.map Record.id).Nodup)
include hids

theorem count_links_le_one {id : Text} (h : ¬ Shared records id) :
    ((printed records).flatMap (·.2.links)).count id ≤ 1 := by
  have hreached : ∀ e ∈ printed records, Reachable records e.2.id := by
    intro e he
    rw [(record_of_printed he).2]
    exact reachable_of_printed he
  apply count_flatMap_le_one
  · exact (nodup_printedIds records).of_map
  · intro e he
    have hmem := (record_of_printed he).1
    exact Nat.le_of_not_lt fun htwice => h (.within hmem (hreached e he) htwice)
  · intro e he other ho hlink holink
    obtain ⟨hmem, hid⟩ := record_of_printed he
    obtain ⟨homem, hoid⟩ := record_of_printed ho
    by_cases heq : e.2.id = other.2.id
    · have hrecord := List.inj_on_of_nodup_map hids hmem homem heq
      exact Prod.ext (hid.symm.trans (heq.trans hoid)) hrecord
    · exact absurd (.between hmem homem heq (hreached e he) (hreached other ho) hlink holink) h

variable (hnames : ∀ r ∈ records, r.id ≠ [])
include hnames

theorem two_le_count_links {id : Text} (h : Shared records id) :
    2 ≤ ((printed records).flatMap (·.2.links)).count id := by
  have hprinted : ∀ r ∈ records, Reachable records r.id → (r.id, r) ∈ printed records := by
    intro r hr hreached
    have hid := mem_printedIds_of_reachable hnames hreached
    exact mem_headings_of_mem hids (List.Subset.refl _) hr hid
  cases h with
  | @within r hr hreached htwice =>
    have hsub : [(r.id, r)] ⊆ printed records :=
      List.cons_subset.mpr ⟨hprinted r hr hreached, List.nil_subset _⟩
    have hcount := count_flatMap_le_of_subset (·.2.links) (List.nodup_singleton _) hsub id
    rw [List.flatMap_singleton] at hcount
    exact Nat.le_trans htwice hcount
  | @between r s hr hs hne hrreached hsreached hrlink hslink =>
    have hpair : [(r.id, r), (s.id, s)].Nodup := by simp [hne]
    have hsub : [(r.id, r), (s.id, s)] ⊆ printed records :=
      List.cons_subset.mpr ⟨hprinted r hr hrreached,
        List.cons_subset.mpr ⟨hprinted s hs hsreached, List.nil_subset _⟩⟩
    have hcount := count_flatMap_le_of_subset (·.2.links) hpair hsub id
    have hrcount : 0 < r.links.count id := List.count_pos_iff.mpr hrlink
    have hscount : 0 < s.links.count id := List.count_pos_iff.mpr hslink
    rw [List.flatMap_cons, List.flatMap_singleton, List.count_append] at hcount
    simp only at hcount
    omega

/-! ## Where markers stand -/

theorem mem_marks_of_shared {r : Record Text} (hr : r ∈ records) (h : Shared records r.id) :
    r.id ∈ marks (ofRecords records).flatten := by
  obtain ⟨after, hwalk⟩ := walk_ofRecords records
  have hcount := hwalk.count_followed_le (hnames r hr) (isSome_get?_tableOf hids hr)
  have htwice := two_le_count_links hids hnames h
  have honce := List.nodup_iff_count_le_one.mp (nodup_printedIds records) r.id
  rw [followed_ofRecords, List.count_append] at hcount
  exact List.count_pos_iff.mp (by omega)

/-- Where links never lead in a circle, a block is marked when it has been printed with all that
it leads to. -/
theorem printed_before_mark (hacyclic : Acyclic records) {before rest : List (Line Text)}
    {level : Int} {id : Text}
    (hlines : (ofRecords records).flatten = before ++ .cycle level id :: rest) {r : Record Text}
    (hr : r ∈ records) (hpath : Relation.ReflTransGen (Points records) id r.id) :
    (r.id, r) ∈ headings before := by
  obtain ⟨after, hwalk⟩ := walk_ofRecords records
  have hcircles : ∀ id, ¬ Relation.TransGen (Leads (tableOf records)) id id := by
    rw [leads_tableOf hids]
    exact hacyclic
  obtain ⟨_, hmarks⟩ := hwalk.settled (get?_nil_of_named hnames) hcircles
    (fun _ _ _ hk => absurd hk List.not_mem_nil) (fun _ hk => absurd hk List.not_mem_nil)
  have hmarked :
      ((printedIds before).reverse ++ [], id) ∈ marked [] (ofRecords records).flatten := by
    rw [hlines, marked_append]
    exact List.mem_append_right _ List.mem_cons_self
  have hpath := leads_tableOf hids ▸ hpath
  have hseen := hmarks _ hmarked r.id ⟨hpath, isSome_get?_tableOf hids hr⟩
  rw [List.append_nil, List.mem_reverse] at hseen
  refine mem_headings_of_mem hids ?_ hr hseen
  rw [printed, hlines, headings_append]
  exact List.subset_append_left _ _

end

/-- Where no link leads to a top-level record and none is shared, nothing is followed twice. -/
theorem once_of_not_shared (hids : (records.map Record.id).Nodup)
    (hfree : ∀ r ∈ records, r.topLevel = true → ∀ other ∈ records, r.id ∉ other.links)
    (h : ∀ r ∈ records, ¬ Shared records r.id) :
    Once (tableOf records) []
      (followed (.paragraphs (starts records)) (ofRecords records).flatten) := by
  refine ⟨fun _ hk => absurd hk List.not_mem_nil, ?_⟩
  intro key hknown
  obtain ⟨r, hr⟩ := Option.isSome_iff_exists.mp hknown
  obtain ⟨hmem, rfl⟩ := (get?_tableOf_eq_some_iff hids).mp hr
  have hstart := List.nodup_iff_count_le_one.mp (nodup_starts hids) r.id
  have hlinks := count_links_le_one hids (h r hmem)
  rw [List.count_nil, Nat.zero_add, followed_ofRecords, List.count_append]
  by_cases htop : r.topLevel = true
  · have hunlinked : ((printed records).flatMap (·.2.links)).count r.id = 0 := by
      rw [List.count_eq_zero, List.mem_flatMap]
      rintro ⟨e, he, hlink⟩
      exact hfree r hmem htop e.2 (record_of_printed he).1 hlink
    omega
  · have hlower : (starts records).count r.id = 0 :=
      List.count_eq_zero.mpr (mt (id_mem_starts_iff hids hmem).mp htop)
    omega

/-- **There is a marker exactly if two links lead to one record.** If ids differ and are not blank
and no link leads to a top-level record, nothing is marked unless a record is linked to twice, by
one reached record or by two, and every such record is marked. The links that meet need not be
part of a circle. Where links never lead in a circle, as in what a conversion gives, a marked
block is not being printed: it stands above its marker, and so does all that it leads to. -/
theorem marked_where_links_meet (hids : (records.map Record.id).Nodup)
    (hnames : ∀ r ∈ records, r.id ≠ [])
    (hfree : ∀ r ∈ records, r.topLevel = true → ∀ other ∈ records, r.id ∉ other.links) :
    let lines := (ofRecords records).flatten
    (marks lines = [] ↔ ∀ r ∈ records, ¬ Shared records r.id) ∧
      (∀ r ∈ records, Shared records r.id → r.id ∈ marks lines) ∧
      (∀ roots, flatten roots = .ok records → Acyclic records) ∧
      (Acyclic records → ∀ before level id rest, lines = before ++ .cycle level id :: rest →
        ∀ r ∈ records, Relation.ReflTransGen (Points records) id r.id →
          (r.id, r) ∈ headings before) := by
  intro lines
  have hmarks : ∀ r ∈ records, Shared records r.id → r.id ∈ marks lines :=
    fun _ hr h => mem_marks_of_shared hids hnames hr h
  obtain ⟨after, hwalk⟩ := walk_ofRecords records
  refine ⟨⟨?_, ?_⟩, hmarks, fun _ h => acyclic_of_flatten h, ?_⟩
  · intro hnone r hr h
    have hmark := hmarks r hr h
    rw [hnone] at hmark
    cases hmark
  · intro h
    exact (hwalk.unmarked (once_of_not_shared hids hfree h)).marks
  · intro hacyclic before level id rest hlines r hr hpath
    exact printed_before_mark hids hnames hacyclic hlines hr hpath

end

/-- A stack with a slot, which goes on with the block that the stack in the slot ends with. -/
def braided : List Node :=
  [.element "block" [("id", "a"), ("type", "x")]
    [.element "value" [("name", "V")] [.element "block" [("id", "b"), ("type", "y")]
        [.element "next" [] [.element "block" [("id", "d"), ("type", "w")] []]]],
      .element "next" [] [.element "block" [("id", "c"), ("type", "z")]
        [.element "next" [] [.element "block" [("id", "d"), ("type", "w")] []]]]]]

theorem marked_of_braided :
    let records : List (Record Text) :=
      [{ id := "a", opcode := "x", inputs := [("V", ⟨"V", "b"⟩)], next := some "c",
          topLevel := true },
        { id := "b", opcode := "y", next := some "d" }, { id := "d", opcode := "w" },
        { id := "c", opcode := "z", next := some "d" }]
    let lines := (ofRecords records).flatten
    ((records.map Record.id).Nodup ∧ (∀ r ∈ records, r.id ≠ []) ∧
        ∀ r ∈ records, r.topLevel = true → ∀ other ∈ records, r.id ∉ other.links) ∧
      ("d" : Text) ∈ marks lines ∧
      ∀ before level rest, lines = before ++ .cycle level ("d" : Text) :: rest →
        (("d" : Text), { id := "d", opcode := "w" }) ∈ headings before := by
  intro records lines
  have h : flatten braided = .ok records := by decide +kernel
  have hids : (records.map Record.id).Nodup := by decide +kernel
  have hnames : ∀ r ∈ records, r.id ≠ [] := by decide +kernel
  have hfree : ∀ r ∈ records, r.topLevel = true → ∀ other ∈ records, r.id ∉ other.links := by
    decide +kernel
  obtain ⟨_, hmarks, hacyclic, habove⟩ := marked_where_links_meet hids hnames hfree
  have ha : Reachable records "a" := .top rfl rfl
  have hb : Reachable records "b" := .link ha rfl List.mem_cons_self rfl
  have hc : Reachable records "c" :=
    .link ha rfl (List.mem_cons_of_mem _ List.mem_cons_self) rfl
  have hrecord : ∀ i (hi : i < records.length), records[i] ∈ records :=
    fun _ hi => List.getElem_mem hi
  have hshared : Shared records "d" :=
    .between (hrecord 1 (by decide)) (hrecord 3 (by decide)) (by decide) hb hc
      List.mem_cons_self List.mem_cons_self
  have hd := hrecord 2 (by decide)
  refine ⟨⟨hids, hnames, hfree⟩, hmarks _ hd hshared, ?_⟩
  intro before level rest hlines
  exact habove (hacyclic braided h) before level "d" rest hlines _ hd .refl

/-- Two slots of a block with one and the same block in them. -/
def doubled : List Node :=
  [.element "block" [("id", "a"), ("type", "x")]
    [.element "value" [("name", "V")] [.element "block" [("id", "c"), ("type", "z")] []],
      .element "value" [("name", "W")] [.element "block" [("id", "c"), ("type", "z")] []]]]

/-- A marker without a circle. -/
theorem marked_without_circle :
    ¬ ∀ records : List (Record Text), Acyclic records → (records.map Record.id).Nodup →
      (∀ r ∈ records, r.id ≠ []) →
      (∀ r ∈ records, r.topLevel = true → ∀ other ∈ records, r.id ∉ other.links) →
        marks (ofRecords records).flatten = [] := by
  intro hall
  let records : List (Record Text) :=
    [{ id := "a", opcode := "x", inputs := [("V", ⟨"V", "c"⟩), ("W", ⟨"W", "c"⟩)],
        topLevel := true },
      { id := "c", opcode := "z" }]
  have h : flatten doubled = .ok records := by decide +kernel
  have hids : (records.map Record.id).Nodup := distinct_of_flatten h
  have hnames : ∀ r ∈ records, r.id ≠ [] := by decide +kernel
  have hshared : Shared records "c" :=
    .within (r := records[0]) (by decide +kernel) (.top rfl rfl) (by decide +kernel)
  have hmark := mem_marks_of_shared hids hnames (r := records[1]) (by decide +kernel) hshared
  rw [hall records (acyclic_of_flatten h) hids hnames (by decide +kernel)] at hmark
  cases hmark

end FlatBlocks.Block.Outline
