/-!
# Arenas

An arena keeps values under small numbers that it hands out itself. A number is
free again once its value is erased, and the number freed last is handed out
first. The arena is the row of its slots with the free numbers in the order in
which they will be used; that they are just the empty slots is part of the type,
so what is inserted never meets a value that is there.

`get?` is the observation through which every operation is described.
-/

namespace QuicHost

/-- Values under numbers chosen by the arena. -/
structure Arena (α : Type) where
  /-- the slots, by number -/
  slots : List (Option α)
  /-- the numbers of the empty slots, the next one first -/
  free : List Nat
  /-- the free numbers are those of the empty slots -/
  mem_free_iff : ∀ k, k ∈ free ↔ slots[k]? = some none
  /-- no number is free twice -/
  free_nodup : free.Nodup

namespace Arena

variable {α : Type}

instance : EmptyCollection (Arena α) where
  emptyCollection := { slots := [], free := [], mem_free_iff := by simp, free_nodup := by simp }

instance : Inhabited (Arena α) := ⟨∅⟩

/-- The value under a number. -/
def get? (a : Arena α) (k : Nat) : Option α := a.slots[k]?.join

/-- The number under which the next value will be kept. -/
def next (a : Arena α) : Nat := a.free.headD a.slots.length

/-- The numbers in use, ascending. -/
def keys (a : Arena α) : List Nat := (List.range a.slots.length).filter fun k => (a.get? k).isSome

/-- The number of values. -/
def size (a : Arena α) : Nat := a.keys.length

/-- Keeps a value under the next number. -/
def insert (a : Arena α) (v : α) : Arena α :=
  match hf : a.free with
  | [] =>
    { slots := a.slots ++ [some v]
      free := []
      mem_free_iff := by
        intro k
        have h := a.mem_free_iff k
        rw [hf] at h
        rw [List.getElem?_append]
        split
        · exact h
        · rcases k - a.slots.length with _ | n <;> simp
      free_nodup := by simp }
  | k :: rest =>
    { slots := a.slots.set k (some v)
      free := rest
      mem_free_iff := by
        intro j
        have h := a.mem_free_iff j
        have hn := a.free_nodup
        rw [hf] at h hn
        rw [List.nodup_cons] at hn
        rw [List.getElem?_set]
        split
        · next hkj =>
          subst hkj
          split <;> simp [hn.1]
        · next hkj => rw [← h]; simp [Ne.symm hkj]
      free_nodup := by
        have hn := a.free_nodup
        rw [hf, List.nodup_cons] at hn
        exact hn.2 }

/-- Replaces the value under a number, if there is one. -/
def set (a : Arena α) (k : Nat) (v : α) : Arena α :=
  if h : (a.get? k).isSome then
    { slots := a.slots.set k (some v)
      free := a.free
      mem_free_iff := by
        intro j
        rw [a.mem_free_iff j, List.getElem?_set]
        split
        · next hkj =>
          subst hkj
          simp only [get?] at h
          split
          · rcases hs : a.slots[k]? with _ | _ | x <;> simp [hs] at h ⊢
          · next hk => simp [List.getElem?_eq_none (Nat.le_of_not_lt hk)]
        · rfl
      free_nodup := a.free_nodup }
  else a

/-- Empties the slot of a number. -/
def erase (a : Arena α) (k : Nat) : Arena α :=
  if h : (a.get? k).isSome then
    { slots := a.slots.set k none
      free := k :: a.free
      mem_free_iff := by
        intro j
        have hk : k < a.slots.length := by
          simp only [get?] at h
          rcases hs : a.slots[k]? with _ | x
          · simp [hs] at h
          · exact (List.getElem?_eq_some_iff.mp hs).1
        rw [List.mem_cons, a.mem_free_iff j, List.getElem?_set]
        split
        · next hkj => subst hkj; simp [hk]
        · next hkj => simp [Ne.symm hkj]
      free_nodup := by
        rw [List.nodup_cons]
        refine ⟨fun hm => ?_, a.free_nodup⟩
        rw [a.mem_free_iff] at hm
        simp [get?, hm] at h }
  else a

/-! ## Look-up after each operation -/

@[simp] theorem get?_empty (k : Nat) : (∅ : Arena α).get? k = none := rfl

/-- The next number is not in use. -/
theorem get?_next (a : Arena α) : a.get? a.next = none := by
  rcases hf : a.free with _ | ⟨k, rest⟩
  · simp [get?, next, hf]
  · have h := (a.mem_free_iff k).mp (by simp [hf])
    simp [get?, next, hf, h]

theorem get?_insert (a : Arena α) (v : α) (k : Nat) :
    (a.insert v).get? k = if k = a.next then some v else a.get? k := by
  unfold insert
  split
  · next hf =>
    simp only [get?, next, hf, List.headD_nil, List.getElem?_append]
    split
    · next h => simp [show k ≠ a.slots.length by omega]
    · next h =>
      split
      · next hk => simp [hk]
      · next hk =>
        obtain ⟨n, hn⟩ : ∃ n, k - a.slots.length = n + 1 := ⟨k - a.slots.length - 1, by omega⟩
        simp [hn, List.getElem?_eq_none (Nat.le_of_not_lt h)]
  · next j rest hf =>
    have hj : j < a.slots.length :=
      (List.getElem?_eq_some_iff.mp ((a.mem_free_iff j).mp (by simp [hf]))).1
    simp only [get?, next, hf, List.headD_cons, List.getElem?_set]
    by_cases hk : j = k
    · subst hk; simp [hj]
    · simp [hk, Ne.symm hk]

theorem get?_set (a : Arena α) (k : Nat) (v : α) (j : Nat) :
    (a.set k v).get? j = if j = k ∧ (a.get? k).isSome = true then some v else a.get? j := by
  unfold set
  split
  · next h =>
    have hk : k < a.slots.length := by
      simp only [get?] at h
      rcases hs : a.slots[k]? with _ | x
      · simp [hs] at h
      · exact (List.getElem?_eq_some_iff.mp hs).1
    by_cases hj : k = j
    · subst hj; rw [if_pos ⟨rfl, h⟩]; simp [get?, hk]
    · simp [get?, hj, Ne.symm hj]
  · next h => simp [h]

theorem get?_erase (a : Arena α) (k j : Nat) :
    (a.erase k).get? j = if j = k then none else a.get? j := by
  unfold erase
  split
  · next h =>
    by_cases hj : k = j
    · subst hj
      simp only [get?, List.getElem?_set_self']
      rcases a.slots[k]? with _ | x <;> simp
    · simp [get?, hj, Ne.symm hj]
  · next h =>
    split
    · next hj => subst hj; simpa using h
    · rfl

theorem mem_keys_iff {a : Arena α} {k : Nat} : k ∈ a.keys ↔ (a.get? k).isSome = true := by
  simp only [keys, List.mem_filter, List.mem_range, and_iff_right_iff_imp, get?]
  intro h
  rcases hs : a.slots[k]? with _ | x
  · simp [hs] at h
  · exact (List.getElem?_eq_some_iff.mp hs).1

end Arena

end QuicHost
