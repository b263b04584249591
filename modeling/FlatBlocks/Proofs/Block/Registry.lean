import FlatBlocks.Block.Registry
import FlatBlocks.Proofs.Table

/-! Registering one record after the other. A record that is amended after others
were registered might as well have been registered in its amended form: either it
is still in place, or a later record has taken its place and hides both forms. -/

namespace FlatBlocks.Block.Registry

/-- Register records in order. -/
def addAll (registry : Registry) (records : List (Record Text)) : Registry :=
  records.foldl add registry

@[simp] theorem addAll_nil (registry : Registry) : registry.addAll [] = registry := rfl

@[simp] theorem addAll_cons (registry : Registry) (r : Record Text) (rest : List (Record Text)) :
    registry.addAll (r :: rest) = (registry.add r).addAll rest := rfl

theorem addAll_append (registry : Registry) (first second : List (Record Text)) :
    registry.addAll (first ++ second) = (registry.addAll first).addAll second :=
  List.foldl_append

theorem table_add (registry : Registry) (r : Record Text) :
    (registry.add r).table = registry.table.put r.id r :=
  Table.map_put registry.entries r.id (registry.registered, r) Prod.snd

/-- What a list of records puts into a table. -/
theorem table_addAll (registry : Registry) (records : List (Record Text)) :
    (registry.addAll records).table = registry.table.merge (records.map fun r => (r.id, r)) := by
  induction records generalizing registry with
  | nil => rfl
  | cons r rest ih => rw [addAll_cons, ih, table_add]; rfl

/-- A registration that has just been made is still in place. -/
theorem amend_add_self (registry : Registry) {record amended : Record Text}
    (h : amended.id = record.id) :
    (registry.add record).amend registry.registered amended = registry.add amended := by
  simp [amend, add, h, Table.put_put_self]

/-- Amending an earlier registration commutes with a new one. -/
theorem amend_add (registry : Registry) {number : Nat} (r amended : Record Text)
    (h : number < registry.registered) :
    (registry.add r).amend number amended = (registry.amend number amended).add r := by
  by_cases hid : r.id = amended.id
  · have hlate : (registry.add r).amend number amended = registry.add r := by
      have hne : ¬ registry.registered = number := by omega
      simp [amend, add, hid, hne]
    rw [hlate]
    unfold amend
    split
    · split
      · simp [add, hid, Table.put_put_self]
      · rfl
    · rfl
  · have hget : (registry.add r).entries.get? amended.id = registry.entries.get? amended.id :=
      Table.get?_put_of_ne _ _ hid
    unfold amend
    rw [hget]
    split
    · rename_i n earlier hfound
      have hm : amended.id ∈ registry.entries.keys := by
        by_contra hn
        rw [(Table.get?_eq_none_iff _ _).mpr hn] at hfound
        cases hfound
      split
      · simp [add, Table.put_comm _ _ _ (Ne.symm hid) hm]
      · rfl
    · rfl

theorem amend_addAll (registry : Registry) {number : Nat} (records : List (Record Text))
    (amended : Record Text) (h : number < registry.registered) :
    (registry.addAll records).amend number amended =
      (registry.amend number amended).addAll records := by
  induction records generalizing registry with
  | nil => rfl
  | cons r rest ih =>
    have hnext : number < (registry.add r).registered := Nat.lt_succ_of_lt h
    rw [addAll_cons, addAll_cons, ih _ hnext, amend_add _ _ _ h]

/-- A record that is amended after others were registered might as well have been
registered as amended. -/
theorem amend_registered (registry : Registry) {record amended : Record Text}
    (records : List (Record Text)) (h : amended.id = record.id) :
    ((registry.add record).addAll records).amend registry.registered amended =
      (registry.add amended).addAll records := by
  rw [amend_addAll _ _ _ (Nat.lt_succ_self _), amend_add_self _ h]

end FlatBlocks.Block.Registry
