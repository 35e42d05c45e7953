/-!
# Tables with distinct keys

A table maps finitely many keys to values. It is the list of its entries
together with the fact that no key occurs twice, so a look-up finds the one
entry there is, and sums or counts over the entries are sums over a list.
Entries stand in the order in which their keys were inserted; whoever needs
another order sorts a view.

`get?` is the observation through which every operation is described.
-/

namespace QuicHost

/-- A finite map as the list of its entries. -/
@[ext] structure Table (κ α : Type) where
  /-- the entries, in order of insertion -/
  entries : List (κ × α)
  /-- no key occurs twice -/
  nodup : (entries.map Prod.fst).Nodup
deriving DecidableEq

namespace Table

variable {κ α β : Type}

instance : EmptyCollection (Table κ α) where
  emptyCollection := { entries := [], nodup := by simp }

instance : Inhabited (Table κ α) := ⟨∅⟩

/-- The keys, in order of insertion. -/
def keys (t : Table κ α) : List κ := t.entries.map Prod.fst

/-- The values, in order of insertion of their keys. -/
def values (t : Table κ α) : List α := t.entries.map Prod.snd

/-- The number of entries. -/
def size (t : Table κ α) : Nat := t.entries.length

/-- Whether the table has no entry. -/
def isEmpty (t : Table κ α) : Bool := t.entries.isEmpty

/-- Changes every value; the keys stay. -/
def map (t : Table κ α) (f : κ → α → β) : Table κ β where
  entries := t.entries.map fun e => (e.1, f e.1 e.2)
  nodup := by simpa [List.map_map, Function.comp_def] using t.nodup

variable [DecidableEq κ]

/-- The value stored under `k`. -/
def get? (t : Table κ α) (k : κ) : Option α := t.entries.lookup k

/-- Whether `k` has a value. -/
def contains (t : Table κ α) (k : κ) : Bool := (t.get? k).isSome

/-- Removes the entry of `k`, if there is one. -/
def erase (t : Table κ α) (k : κ) : Table κ α where
  entries := t.entries.filter fun e => e.1 ≠ k
  nodup := t.nodup.sublist ((List.filter_sublist).map _)

/-- Stores `v` under `k`, in place of what was stored there. -/
def insert (t : Table κ α) (k : κ) (v : α) : Table κ α where
  entries := (t.erase k).entries ++ [(k, v)]
  nodup := by
    rw [List.map_append, List.nodup_append]
    refine ⟨(t.erase k).nodup, by simp, ?_⟩
    simp only [erase, List.mem_map, List.mem_filter, decide_eq_true_eq]
    rintro _ ⟨e, he, rfl⟩ x hx rfl
    simp_all

/-- Changes the value stored under `k`, if there is one, in its place. -/
def modify (t : Table κ α) (k : κ) (f : α → α) : Table κ α :=
  t.map fun k' v => if k' = k then f v else v

/-! ## Look-up after each operation -/

theorem get?_eq_some_iff {t : Table κ α} {k : κ} {v : α} :
    t.get? k = some v ↔ (k, v) ∈ t.entries := by
  obtain ⟨entries, nodup⟩ := t
  simp only [get?]
  induction entries with
  | nil => simp
  | cons e rest ih =>
    obtain ⟨a, b⟩ := e
    simp only [List.map_cons, List.nodup_cons] at nodup
    by_cases h : k = a
    · subst h
      have hnot : (k, v) ∉ rest := fun hm => nodup.1 (List.mem_map_of_mem hm)
      simp [hnot, eq_comm]
    · have hne : (k == a) = false := by simp [h]
      rw [List.lookup_cons, hne]
      simp [ih nodup.2, h]

theorem get?_eq_none_iff {t : Table κ α} {k : κ} : t.get? k = none ↔ k ∉ t.keys := by
  simp only [Option.eq_none_iff_forall_not_mem, Option.mem_def, get?_eq_some_iff,
    keys, List.mem_map,
    not_exists, not_and]
  exact ⟨fun h e he hk => h e.2 (hk ▸ he), fun h v hv => h _ hv rfl⟩

@[simp] theorem get?_empty (k : κ) : (∅ : Table κ α).get? k = none := rfl

theorem get?_map (t : Table κ α) (f : κ → α → β) (k : κ) :
    (t.map f).get? k = (t.get? k).map (f k) := by
  obtain ⟨entries, nodup⟩ := t
  simp only [get?, map]
  clear nodup
  induction entries with
  | nil => rfl
  | cons e rest ih =>
    obtain ⟨a, b⟩ := e
    by_cases h : k = a
    · subst h; simp
    · have hne : (k == a) = false := by simp [h]
      simp [List.lookup_cons, hne, ih]

theorem get?_modify (t : Table κ α) (k : κ) (f : α → α) (k' : κ) :
    (t.modify k f).get? k' = if k' = k then (t.get? k').map f else t.get? k' := by
  rw [modify, get?_map]
  split <;> simp

theorem get?_erase (t : Table κ α) (k k' : κ) :
    (t.erase k).get? k' = if k' = k then none else t.get? k' := by
  apply Option.ext
  intro v
  rw [get?_eq_some_iff]
  split
  · next h => simp [erase, h]
  · next h => simp [get?_eq_some_iff, erase, h]

theorem get?_insert (t : Table κ α) (k : κ) (v : α) (k' : κ) :
    (t.insert k v).get? k' = if k' = k then some v else t.get? k' := by
  apply Option.ext
  intro w
  rw [get?_eq_some_iff]
  split
  · next h => simp [insert, erase, h, eq_comm]
  · next h => simp [get?_eq_some_iff, insert, erase, h]

end Table

end QuicHost
