import Mathlib.Data.List.Perm.Subperm
import QuicHost.Arena

/-!
# Counting the values of an arena

The size of an arena is the number of its numbers in use, so it is compared by
asking which numbers are in use.

An endpoint keeps no more connections than its settings allow, and this is the number
that is meant. It is compared by `size_le_of_subset`, also between arenas of different
values, and an insertion adds one at most.
-/

namespace QuicHost.Arena

variable {α β : Type}

theorem nodup_keys (a : Arena α) : a.keys.Nodup := List.nodup_range.filter _

theorem size_le_of_subset {a : Arena α} {b : Arena β} (h : a.keys ⊆ b.keys) : a.size ≤ b.size :=
  (List.subperm_of_subset a.nodup_keys h).length_le

/-- What is inserted is one more. -/
theorem size_insert_le (a : Arena α) (v : α) : (a.insert v).size ≤ a.size + 1 := by
  have hsubset : (a.insert v).keys ⊆ a.next :: a.keys := by
    intro k hk
    rw [mem_keys_iff, get?_insert] at hk
    split at hk
    · next heq => exact List.mem_cons.2 (.inl heq)
    · exact List.mem_cons_of_mem _ (mem_keys_iff.2 hk)
  exact (List.subperm_of_subset (a.insert v).nodup_keys hsubset).length_le

/-- A value is set under a key that is there. -/
theorem size_set_le (a : Arena α) (k : Nat) (v : α) : (a.set k v).size ≤ a.size := by
  apply size_le_of_subset
  intro j hj
  rw [mem_keys_iff, get?_set] at hj
  split at hj
  · next h => exact mem_keys_iff.2 (h.1 ▸ h.2)
  · exact mem_keys_iff.2 hj

/-- Removing a key adds none. -/
theorem size_erase_le (a : Arena α) (k : Nat) : (a.erase k).size ≤ a.size := by
  apply size_le_of_subset
  intro j hj
  rw [mem_keys_iff, get?_erase] at hj
  split at hj
  · cases hj
  · exact mem_keys_iff.2 hj

end QuicHost.Arena
