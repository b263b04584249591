import FlatBlocks.Table
import Mathlib.Data.List.Basic
import Mathlib.Data.List.Induction

/-! Laws of putting entries into a table. Putting a list of entries one after the
other leaves the keys in the order in which they first occur in the list, each with
the value that occurs last. Merging a table that was built from a list puts the
entries of the list themselves. -/

namespace FlatBlocks.Table

variable {α : Type u} {β : Type v}

theorem put_put_self (t : Table α) (key : Text) (first second : α) :
    (t.put key first).put key second = t.put key second := by
  induction t with
  | nil => simp [put]
  | cons e rest ih => by_cases h : e.1 = key <;> simp [put, h, ih]

/-- Replacing the value of a known key commutes with putting another key. -/
theorem put_comm (t : Table α) {key other : Text} (value more : α) (hne : key ≠ other)
    (hm : key ∈ t.keys) :
    (t.put other more).put key value = (t.put key value).put other more := by
  induction t with
  | nil => simp [keys] at hm
  | cons e rest ih =>
    by_cases hk : e.1 = key
    · have ho : e.1 ≠ other := fun h => hne (hk ▸ h)
      simp [put, hk, hne]
    · have hr : key ∈ keys rest := by
        rcases List.mem_cons.mp hm with h | h
        · exact absurd h.symm hk
        · exact h
      by_cases ho : e.1 = other
      · simp [put, ho, hne.symm]
      · simp [put, hk, ho, ih hr]

theorem mem_keys_put {t : Table α} {key other : Text} {value : α} :
    other ∈ (t.put key value).keys ↔ other ∈ t.keys ∨ other = key := by
  rw [keys_put]
  split
  · rename_i h
    exact ⟨Or.inl, fun ho => ho.elim id fun he => he ▸ h⟩
  · simp

theorem mem_of_mem_put {t : Table α} {key : Text} {value : α} {e : Text × α}
    (h : e ∈ t.put key value) : e ∈ t ∨ e = (key, value) := by
  induction t with
  | nil => exact Or.inr (List.mem_singleton.mp h)
  | cons first rest ih =>
    by_cases hk : first.1 = key
    · simp only [put, hk, if_true] at h
      rcases List.mem_cons.mp h with h | h
      · exact Or.inr h
      · exact Or.inl (List.mem_cons_of_mem _ h)
    · simp only [put, hk, if_false] at h
      rcases List.mem_cons.mp h with h | h
      · exact Or.inl (h ▸ List.mem_cons_self)
      · exact (ih h).imp_left (List.mem_cons_of_mem _)

/-- Each entry of a table that is keyed by a function of its values stays so. -/
theorem keyed_put {name : α → Text} {t : Table α} {value : α}
    (h : ∀ e ∈ t, e.1 = name e.2) : ∀ e ∈ t.put (name value) value, e.1 = name e.2 := by
  induction t with
  | nil => simp [put]
  | cons e rest ih =>
    obtain ⟨he, hr⟩ := List.forall_mem_cons.mp h
    by_cases hk : e.1 = name value
    · simp only [put, hk, if_true]
      exact List.forall_mem_cons.mpr ⟨rfl, hr⟩
    · simp only [put, hk, if_false]
      exact List.forall_mem_cons.mpr ⟨he, ih hr⟩

theorem map_put (t : Table α) (key : Text) (value : α) (f : α → β) :
    ((t.put key value).map fun e => (e.1, f e.2)) =
      put (t.map fun e => (e.1, f e.2)) key (f value) := by
  induction t with
  | nil => rfl
  | cons e rest ih => by_cases h : e.1 = key <;> simp [put, h, ih]

/-! ## Putting a list of entries -/

@[simp] theorem merge_nil (t : Table α) : merge t [] = t := rfl

@[simp] theorem merge_cons (t : Table α) (e : Text × α) (rest : List (Text × α)) :
    merge t (e :: rest) = merge (t.put e.1 e.2) rest := rfl

theorem merge_append (t : Table α) (first second : List (Text × α)) :
    merge t (first ++ second) = merge (merge t first) second := List.foldl_append

theorem mem_of_mem_merge {t : Table α} {entries : List (Text × α)} {e : Text × α}
    (h : e ∈ merge t entries) : e ∈ t ∨ e ∈ entries := by
  induction entries generalizing t with
  | nil => exact Or.inl h
  | cons first rest ih =>
    rcases ih h with hm | hm
    · rcases mem_of_mem_put hm with hm | hm
      · exact Or.inl hm
      · exact Or.inr (hm ▸ List.mem_cons_self)
    · exact Or.inr (List.mem_cons_of_mem _ hm)

theorem nodup_keys_merge {t : Table α} (h : t.keys.Nodup) (entries : List (Text × α)) :
    (merge t entries).keys.Nodup := by
  induction entries generalizing t with
  | nil => exact h
  | cons e rest ih => exact ih (nodup_keys_put h e.1 e.2)

theorem keys_prefix_merge (t : Table α) (entries : List (Text × α)) :
    t.keys <+: (merge t entries).keys := by
  induction entries generalizing t with
  | nil => exact List.prefix_rfl
  | cons e rest ih =>
    refine List.IsPrefix.trans ?_ (ih (t.put e.1 e.2))
    rw [keys_put]
    split
    · exact List.prefix_rfl
    · exact List.prefix_append _ _

theorem get?_merge_of_notMem (t : Table α) {entries : List (Text × α)} {key : Text}
    (h : key ∉ keys entries) : (merge t entries).get? key = t.get? key := by
  induction entries generalizing t with
  | nil => rfl
  | cons e rest ih =>
    obtain ⟨hne, hrest⟩ : key ≠ e.1 ∧ key ∉ keys rest := by simpa [keys] using h
    rw [merge_cons, ih _ hrest, get?_put_of_ne _ _ (Ne.symm hne)]

/-- A known key that is not among the entries may be put before or after them. -/
theorem put_merge (t : Table α) (entries : List (Text × α)) {key : Text} (value : α)
    (hm : key ∈ t.keys) (hn : key ∉ keys entries) :
    (merge t entries).put key value = merge (t.put key value) entries := by
  induction entries generalizing t with
  | nil => rfl
  | cons e rest ih =>
    obtain ⟨hne, hrest⟩ : key ≠ e.1 ∧ key ∉ keys rest := by simpa [keys] using hn
    rw [merge_cons, merge_cons, ih (t.put e.1 e.2) (mem_keys_put.mpr (Or.inl hm)) hrest,
      put_comm t value e.2 hne hm]

theorem merge_put (t : Table α) {u : Table α} (key : Text) (value : α) (h : u.keys.Nodup) :
    t.merge (u.put key value) = (t.merge u).put key value := by
  induction u generalizing t with
  | nil => rfl
  | cons e rest ih =>
    obtain ⟨hn, hrest⟩ := List.nodup_cons.mp h
    by_cases he : e.1 = key
    · subst he
      have hm : e.1 ∈ (t.put e.1 e.2).keys := mem_keys_put.mpr (Or.inr rfl)
      simp only [put, if_true]
      rw [merge_cons, merge_cons, put_merge _ rest value hm hn, put_put_self]
    · simp only [put, he, if_false]
      rw [merge_cons, merge_cons, ih _ hrest]

/-- Merging a table into which entries were put is merging it and then putting them. -/
theorem merge_merge (t : Table α) {u : Table α} (h : u.keys.Nodup) (entries : List (Text × α)) :
    t.merge (u.merge entries) = (t.merge u).merge entries := by
  induction entries generalizing u with
  | nil => rfl
  | cons e rest ih => rw [merge_cons, ih (nodup_keys_put h e.1 e.2), merge_put t _ _ h]; rfl

theorem merge_ofList (t : Table α) (entries : List (Text × α)) :
    t.merge (ofList entries) = t.merge entries :=
  merge_merge t (by simp [keys]) entries

/-! ## What a list of entries leaves in a table -/

theorem ofList_concat (entries : List (Text × α)) (e : Text × α) :
    ofList (entries ++ [e]) = (ofList entries).put e.1 e.2 := by
  rw [ofList, List.foldl_append]
  rfl

theorem put_of_notMem {t : Table α} {key : Text} (value : α) (h : key ∉ t.keys) :
    t.put key value = t ++ [(key, value)] := by
  induction t with
  | nil => rfl
  | cons e rest ih =>
    obtain ⟨hne, hrest⟩ : key ≠ e.1 ∧ key ∉ keys rest := by simpa [keys] using h
    rw [put, if_neg (Ne.symm hne), ih hrest, List.cons_append]

/-- Entries of different keys make up the table as they are. -/
theorem ofList_of_nodup {entries : List (Text × α)} (h : (entries.map Prod.fst).Nodup) :
    ofList entries = entries := by
  induction entries using List.reverseRecOn with
  | nil => rfl
  | append_singleton entries e ih =>
    rw [List.map_append] at h
    obtain ⟨hentries, _, hdisjoint⟩ := List.nodup_append.mp h
    have hn : e.1 ∉ keys entries := fun hm => hdisjoint e.1 hm e.1 (by simp) rfl
    rw [ofList_concat, ih hentries, put_of_notMem e.2 hn]

/-- Keys stand in the order of their first occurrence. -/
theorem keys_ofList (entries : List (Text × α)) :
    (ofList entries).keys = (entries.map Prod.fst).eraseDups := by
  induction entries using List.reverseRecOn with
  | nil => rfl
  | append_singleton entries e ih =>
    rw [ofList_concat, keys_put, ih, List.map_append, List.eraseDups_append]
    by_cases h : e.1 ∈ entries.map Prod.fst
    · simp [List.mem_eraseDups, h, List.removeAll]
    · simp [List.mem_eraseDups, h, List.removeAll, List.eraseDups_cons]

/-- A key has the value of its last occurrence. -/
theorem get?_ofList (entries : List (Text × α)) (key : Text) :
    (ofList entries).get? key = (entries.filter (·.1 == key)).getLast?.map Prod.snd := by
  induction entries using List.reverseRecOn with
  | nil => rfl
  | append_singleton entries e ih =>
    rw [ofList_concat, get?_put, ih]
    by_cases h : e.1 = key <;> simp [h]

theorem keyed_ofList (name : α → Text) (values : List α) :
    ∀ e ∈ ofList (values.map fun v => (name v, v)), e.1 = name e.2 := by
  have keyed_merge : ∀ t : Table α, (∀ e ∈ t, e.1 = name e.2) →
      ∀ e ∈ merge t (values.map fun v => (name v, v)), e.1 = name e.2 := by
    induction values with
    | nil => exact fun t h => h
    | cons v rest ih => exact fun t h => ih _ (keyed_put h)
  exact keyed_merge [] (by simp)

theorem mem_of_mem_values_ofList {entries : List (Text × α)} {value : α}
    (h : value ∈ (ofList entries).values) : value ∈ entries.map Prod.snd := by
  obtain ⟨e, he, rfl⟩ := List.mem_map.mp h
  rcases mem_of_mem_merge (t := []) he with he | he
  · cases he
  · exact List.mem_map_of_mem he

/-- In a table that is keyed by a function of its values, looking a key up is searching them. -/
theorem find?_values {name : α → Text} {t : Table α} (h : ∀ e ∈ t, e.1 = name e.2) (key : Text) :
    t.values.find? (name · == key) = t.get? key := by
  induction t with
  | nil => rfl
  | cons e rest ih =>
    obtain ⟨he, hr⟩ := List.forall_mem_cons.mp h
    have ih := ih hr
    simp only [values] at ih
    by_cases hk : e.1 = key
    · simp [values, get?, ← he, hk]
    · simp [values, get?, ← he, hk, ih]

theorem get?_of_mem {t : Table α} (h : t.keys.Nodup) {e : Text × α} (he : e ∈ t) :
    t.get? e.1 = some e.2 := by
  induction t with
  | nil => cases he
  | cons first rest ih =>
    obtain ⟨hn, hrest⟩ := List.nodup_cons.mp h
    rcases List.mem_cons.mp he with rfl | he
    · simp [get?]
    · have hne : first.1 ≠ e.1 := by
        intro heq
        exact hn (heq ▸ List.mem_map_of_mem he)
      rw [get?, if_neg hne]
      exact ih hrest he

theorem mem_of_get? {t : Table α} {key : Text} {value : α} (h : t.get? key = some value) :
    (key, value) ∈ t := by
  induction t with
  | nil => cases h
  | cons e rest ih =>
    obtain ⟨k, v⟩ := e
    rw [get?_cons] at h
    split at h
    · rename_i hk
      cases h
      exact hk ▸ List.mem_cons_self
    · exact List.mem_cons_of_mem _ (ih h)

theorem nodup_keys_ofList (entries : List (Text × α)) : (ofList entries).keys.Nodup :=
  nodup_keys_merge (t := []) List.nodup_nil entries

/-- The values of a table are what is found under its keys. -/
theorem values_eq {t : Table α} (h : t.keys.Nodup) : t.values = t.keys.filterMap t.get? := by
  have hfound : ∀ e ∈ t, t.get? e.1 = some e.2 := fun e he => get?_of_mem h he
  rw [values, keys, List.filterMap_map, ← List.filterMap_eq_map]
  exact List.filterMap_congr fun e he => (hfound e he).symm

/-- Of values of one name the last one stands in the place of the first one. -/
theorem values_ofList_named (name : α → Text) (values : List α) :
    (ofList (values.map fun v => (name v, v))).values =
      (values.map name).eraseDups.filterMap fun key => values.reverse.find? (name · == key) := by
  rw [values_eq (nodup_keys_ofList _), keys_ofList, List.map_map]
  apply List.filterMap_congr
  intro key _
  rw [get?_ofList, List.filter_map, List.getLast?_map, Option.map_map, List.getLast?_filter]
  exact Option.map_id'

theorem map_values {name : α → Text} {t : Table α} (h : ∀ e ∈ t, e.1 = name e.2) :
    t.values.map name = t.keys := by
  simp only [values, keys, List.map_map]
  exact List.map_congr_left fun e he => (h e he).symm

end FlatBlocks.Table
