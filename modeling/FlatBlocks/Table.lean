import FlatBlocks.Text.CodePoint

/-! Tables from text keys to values that remember the order in which their keys
were first put. Putting a value under a known key replaces the value and keeps
the position; putting it under a new key appends it. -/

namespace FlatBlocks

/-- The entries of a table in the order of their first insertion. -/
abbrev Table (α : Type u) := List (Text × α)

namespace Table

variable {α : Type u} {β : Type v}

def get? : Table α → Text → Option α
  | [], _ => none
  | (k, v) :: rest, key => if k = key then some v else get? rest key

def contains (t : Table α) (key : Text) : Bool := (t.get? key).isSome

def keys (t : Table α) : List Text := t.map Prod.fst

def values (t : Table α) : List α := t.map Prod.snd

/-- Replace in place or append. -/
def put : Table α → Text → α → Table α
  | [], key, value => [(key, value)]
  | (k, v) :: rest, key, value =>
    if k = key then (k, value) :: rest else (k, v) :: put rest key value

/-- Put every entry of a list, the later ones winning. -/
def ofList (entries : List (Text × α)) : Table α :=
  entries.foldl (fun t e => t.put e.1 e.2) []

/-- The first table, with every entry of the second put into it in order. -/
def merge (t u : Table α) : Table α := u.foldl (fun t e => t.put e.1 e.2) t

@[simp] theorem get?_nil (key : Text) : get? ([] : Table α) key = none := rfl

theorem get?_cons (k key : Text) (v : α) (rest : Table α) :
    get? ((k, v) :: rest) key = if k = key then some v else get? rest key := rfl

@[simp] theorem get?_put_self (t : Table α) (key : Text) (value : α) :
    (t.put key value).get? key = some value := by
  induction t with
  | nil => simp [put, get?]
  | cons e rest ih => by_cases h : e.1 = key <;> simp [put, get?, h, ih]

theorem get?_put_of_ne (t : Table α) {key other : Text} (value : α) (h : key ≠ other) :
    (t.put key value).get? other = t.get? other := by
  induction t with
  | nil => simp [put, get?, h]
  | cons e rest ih =>
    by_cases he : e.1 = key
    · subst he; simp [put, get?, h]
    · simp [put, get?, he, ih]

theorem get?_put (t : Table α) (key other : Text) (value : α) :
    (t.put key value).get? other = if key = other then some value else t.get? other := by
  by_cases h : key = other
  · subst h; simp
  · simp [get?_put_of_ne t value h, h]

/-- A known key keeps its place and a new one goes to the end. -/
theorem keys_put (t : Table α) (key : Text) (value : α) :
    (t.put key value).keys = if key ∈ t.keys then t.keys else t.keys ++ [key] := by
  induction t with
  | nil => simp [put, keys]
  | cons e rest ih =>
    by_cases he : e.1 = key
    · subst he; simp [put, keys]
    · have hk : key ≠ e.1 := fun h => he h.symm
      simp only [put, he, if_false]
      by_cases hm : key ∈ keys rest
      · simp only [hm, if_true] at ih
        simp [keys] at hm ih ⊢
        simp [ih, hm]
      · simp only [hm, if_false] at ih
        simp [keys] at hm ih ⊢
        simp [ih, hm, hk]

theorem get?_eq_none_iff (t : Table α) (key : Text) :
    t.get? key = none ↔ key ∉ t.keys := by
  induction t with
  | nil => simp [keys]
  | cons e rest ih =>
    by_cases he : e.1 = key
    · subst he; simp [get?, keys]
    · have hk : key ≠ e.1 := fun h => he h.symm
      simp only [keys] at ih
      simp [get?, keys, he, hk, ih]

theorem nodup_keys_put {t : Table α} (h : t.keys.Nodup) (key : Text) (value : α) :
    (t.put key value).keys.Nodup := by
  rw [keys_put]
  split
  · exact h
  · rename_i hn
    exact List.nodup_append.mpr ⟨h, by simp, by
      intro a ha b hb; simp only [List.mem_singleton] at hb; subst hb
      exact fun he => hn (he ▸ ha)⟩

end Table

end FlatBlocks
