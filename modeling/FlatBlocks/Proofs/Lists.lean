import Mathlib.Data.List.Flatten
import Mathlib.Data.List.Forall2
import Mathlib.Data.List.Perm.Subperm

/-! # Lists

How often something stands in lists that are joined, and what becomes of a list when a
function that can fail is applied to its items. -/

namespace FlatBlocks

/-! ## How often something stands in a list -/

theorem count_flatMap_le_of_subset {α β : Type} [BEq β] [LawfulBEq β] {few all : List α}
    (f : α → List β) (hnodup : few.Nodup) (hsub : few ⊆ all) (b : β) :
    (few.flatMap f).count b ≤ (all.flatMap f).count b := by
  obtain ⟨some, hperm, hsublist⟩ := List.subperm_of_subset hnodup hsub
  rw [← (hperm.flatMap_right f).count_eq]
  exact (hsublist.flatMap f).count_le b

/-- What stands once at most in each of several lists, and in no two of them, stands once at most
in all of them. -/
theorem count_flatMap_le_one {α β : Type} [BEq β] [LawfulBEq β] {items : List α} (f : α → List β)
    {b : β} (hnodup : items.Nodup) (hone : ∀ i ∈ items, (f i).count b ≤ 1)
    (hsame : ∀ i ∈ items, ∀ j ∈ items, b ∈ f i → b ∈ f j → i = j) :
    (items.flatMap f).count b ≤ 1 := by
  induction items with
  | nil => exact Nat.zero_le 1
  | cons item rest ih =>
    obtain ⟨hitem, hrest⟩ := List.nodup_cons.mp hnodup
    rw [List.flatMap_cons, List.count_append]
    by_cases hb : b ∈ f item
    · have hnone : (rest.flatMap f).count b = 0 := by
        rw [List.count_eq_zero, List.mem_flatMap]
        rintro ⟨other, ho, hbo⟩
        have heq := hsame item List.mem_cons_self other (List.mem_cons_of_mem _ ho) hb hbo
        exact hitem (heq ▸ ho)
      have := hone item List.mem_cons_self
      omega
    · have := ih hrest (fun i hi => hone i (List.mem_cons_of_mem _ hi))
        fun i hi j hj => hsame i (List.mem_cons_of_mem _ hi) j (List.mem_cons_of_mem _ hj)
      rw [List.count_eq_zero.mpr hb]
      omega

/-! ## Results that can fail -/

theorem map_eq_error_iff {α β ε : Type} {f : α → β} {x : Except ε α} {e : ε} :
    x.map f = .error e ↔ x = .error e := by
  cases x <;> simp [Except.map]

section
variable {α β ε : Type} {f : α → Except ε β}

/-- What fails in a list fails for one of its items. -/
theorem exists_of_mapM_error {items : List α} {e : ε} (h : items.mapM f = .error e) :
    ∃ a ∈ items, f a = .error e := by
  induction items with
  | nil => cases h
  | cons a rest ih =>
    rw [List.mapM_cons] at h
    cases ha : f a with
    | error e' =>
      rw [ha] at h
      cases h
      exact ⟨a, List.mem_cons_self, ha⟩
    | ok b =>
      rw [ha] at h
      cases hrest : rest.mapM f with
      | error e' =>
        rw [hrest] at h
        cases h
        obtain ⟨a', hm, ha'⟩ := ih hrest
        exact ⟨a', List.mem_cons_of_mem _ hm, ha'⟩
      | ok others =>
        rw [hrest] at h
        cases h

theorem forall₂_of_mapM_ok {items : List α} {results : List β} (h : items.mapM f = .ok results) :
    List.Forall₂ (fun a b => f a = .ok b) items results := by
  induction items generalizing results with
  | nil =>
    cases h
    exact .nil
  | cons a rest ih =>
    rw [List.mapM_cons] at h
    cases ha : f a with
    | error e => rw [ha] at h; cases h
    | ok b =>
      rw [ha] at h
      cases hrest : rest.mapM f with
      | error e => rw [hrest] at h; cases h
      | ok others =>
        rw [hrest] at h
        cases h
        exact .cons ha (ih hrest)

theorem exists_of_forall₂ {R : α → β → Prop} {items : List α} {results : List β}
    (h : List.Forall₂ R items results) : ∀ a ∈ items, ∃ b, R a b := by
  induction h with
  | nil => exact List.forall_mem_nil _
  | cons ha _ ih => exact List.forall_mem_cons.mpr ⟨⟨_, ha⟩, ih⟩

theorem zipWith_eq_map_of_forall₂ {γ : Type} {R : α → β → Prop} {both : α → β → γ} {one : β → γ}
    {items : List α} {results : List β} (h : List.Forall₂ R items results)
    (hsame : ∀ a b, R a b → both a b = one b) :
    List.zipWith both items results = results.map one := by
  induction h with
  | nil => rfl
  | cons ha _ ih => rw [List.zipWith_cons_cons, List.map_cons, hsame _ _ ha, ih]

end

end FlatBlocks
