import Mathlib.Algebra.BigOperators.Group.Finset.Basic
import Mathlib.Algebra.GroupWithZero.Nat
import QuicHost.Table

/-!
# The values of a table

The values are what look-ups find. `Table.total` adds a quantity up over all values.
Seen through `get?` it is a sum over any finite set that holds the keys, so two tables
that differ in the values of one key have totals that differ by as much.
-/

namespace QuicHost.Table

open Finset

variable {κ α : Type}

/-- A quantity added up over all values. -/
def total (t : Table κ α) (f : α → Nat) : Nat := (t.values.map f).sum

@[simp] theorem total_empty (f : α → Nat) : (∅ : Table κ α).total f = 0 := rfl

variable [DecidableEq κ]

theorem mem_values_iff {t : Table κ α} {v : α} : v ∈ t.values ↔ ∃ k, t.get? k = some v := by
  simp only [values, List.mem_map, Prod.exists, exists_eq_right, get?_eq_some_iff]

/-- What a change makes of the value that is stored is all that matters. -/
theorem modify_congr {t : Table κ α} {k : κ} {f g : α → α}
    (h : ∀ v, t.get? k = some v → f v = g v) : t.modify k f = t.modify k g := by
  refine Table.ext (List.map_congr_left fun e he => ?_)
  dsimp only
  split
  · next heq =>
    subst heq
    rw [h e.2 (get?_eq_some_iff.2 he)]
  · rfl

/-- The total is a sum over any set of keys that leaves none out. -/
theorem total_eq_sum {t : Table κ α} (f : α → Nat) {ks : Finset κ} (h : t.keys.toFinset ⊆ ks) :
    t.total f = ∑ k ∈ ks, (t.get? k).elim 0 f := by
  have hentries : t.values.map f = t.keys.map fun k => (t.get? k).elim 0 f := by
    rw [values, keys, List.map_map, List.map_map]
    refine List.map_congr_left fun e he => ?_
    have : t.get? e.1 = some e.2 := get?_eq_some_iff.2 he
    simp [this]
  have houtside : ∀ k ∈ ks, k ∉ t.keys.toFinset → (t.get? k).elim 0 f = 0 := by
    intro k _ hk
    rw [get?_eq_none_iff.2 (mt List.mem_toFinset.2 hk)]
    rfl
  have hnodup : t.keys.Nodup := t.nodup
  rw [total, hentries, ← List.sum_toFinset _ hnodup, sum_subset h houtside]

/-- If two tables agree at every key but one, their totals differ by what they
hold there. -/
theorem total_add_of_eq_except {t t' : Table κ α} {f : α → Nat} {k : κ}
    (h : ∀ k', k' ≠ k → (t'.get? k').elim 0 f = (t.get? k').elim 0 f) :
    t'.total f + (t.get? k).elim 0 f = t.total f + (t'.get? k).elim 0 f := by
  obtain ⟨ks, hk, hsub, hsub'⟩ :
      ∃ ks : Finset κ, k ∈ ks ∧ t.keys.toFinset ⊆ ks ∧ t'.keys.toFinset ⊆ ks :=
    ⟨Insert.insert k (t.keys.toFinset ∪ t'.keys.toFinset), mem_insert_self _ _,
      subset_union_left.trans (subset_insert _ _), subset_union_right.trans (subset_insert _ _)⟩
  have hrest : ∑ i ∈ ks.erase k, (t'.get? i).elim 0 f = ∑ i ∈ ks.erase k, (t.get? i).elim 0 f :=
    sum_congr rfl fun i hi => h i (ne_of_mem_erase hi)
  rw [total_eq_sum f hsub, total_eq_sum f hsub', ← add_sum_erase ks _ hk,
    ← add_sum_erase ks _ hk, hrest]
  omega

end QuicHost.Table
