import QuicHost.Proofs.Stream.Census
import QuicHost.Proofs.Stream.Histories

/-!
# How streams are numbered

Streams are opened in two ways. The application opens the next stream of a direction, and
learns its identifier from the answer; the peer opens all streams of a class up to the one
it names, and the application is told of each. In every history the identifiers of each
class are given out in order and without a gap (`Numbered`, `Deeds.numbers`).

Numbering is kept by the deeds of a history: those that open streams continue the
numbers, and all others open none (`OpensNone`). Which identifiers were given out is
then known from the two counters alone (`Numbered.mem_iff`).
-/

namespace QuicHost

namespace Occurrence

/-- The stream that the application opened. -/
def own? : Occurrence → Option StreamId
  | opened id => some id
  | _ => none

/-- The stream that the peer opened. -/
def peers? : Occurrence → Option StreamId
  | told (.streamOpened id) => some id
  | _ => none

/-- The peer's streams are named by what is told. -/
theorem eq_told_of_peers? {o : Occurrence} {id : StreamId} (h : o.peers? = some id) :
    o = told (.streamOpened id) := by
  unfold peers? at h
  split at h
  · obtain rfl := Option.some.inj h
    rfl
  · cases h

/-- Whether something happened that opens no stream. -/
def OpensNone (o : Occurrence) : Prop := o.own? = none ∧ o.peers? = none

end Occurrence

/-! ## Identifiers in order

The identifiers of a class between two indices, in order. Two such ranges that meet make
one. -/

/-- Of a list of identifiers, those of one direction are the identifiers of a
class with the indices from `lo` up to `hi`, in order. -/
structure Numbered (side : Side) (d : Direction) (lo hi : Nat) (ids : List StreamId) : Prop where
  le : lo ≤ hi
  /-- one identifier for each index, in order -/
  ids : ids.filter (·.direction = d) =
    (List.range' lo (hi - lo)).map (StreamId.ofParts side d)

namespace Numbered

variable {side : Side} {d : Direction} {lo mid hi : Nat} {ids ids' : List StreamId}

theorem nil (side : Side) (d : Direction) (n : Nat) : Numbered side d n n [] where
  le := Nat.le_refl n
  ids := by
    rw [Nat.sub_self]
    rfl

/-- Two ranges that meet. -/
theorem append (h : Numbered side d lo mid ids) (h' : Numbered side d mid hi ids') :
    Numbered side d lo hi (ids ++ ids') where
  le := Nat.le_trans h.le h'.le
  ids := by
    have hle := h.le
    have hle' := h'.le
    have hstart : lo + (mid - lo) = mid := by omega
    have hlength : mid - lo + (hi - mid) = hi - lo := by omega
    have hjoin : List.range' lo (mid - lo) ++ List.range' (lo + (mid - lo)) (hi - mid) =
        List.range' lo (mid - lo + (hi - mid)) := List.range'_append_1
    rw [hstart, hlength] at hjoin
    rw [List.filter_append, h.ids, h'.ids, ← List.map_append, hjoin]

/-- The identifiers of a class, one after the other. -/
theorem range' (side : Side) (d : Direction) (lo n : Nat) :
    Numbered side d lo (lo + n) ((List.range' lo n).map (StreamId.ofParts side d)) where
  le := Nat.le_add_right lo n
  ids := by
    have hall : ∀ id ∈ (List.range' lo n).map (StreamId.ofParts side d),
        decide (id.direction = d) = true := by
      intro id hmem
      obtain ⟨m, -, rfl⟩ := List.mem_map.1 hmem
      rw [StreamId.direction_ofParts]
      exact decide_eq_true rfl
    rw [List.filter_eq_self.2 hall, Nat.add_sub_cancel_left]

/-- Identifiers of the other direction do not count. -/
theorem other (side : Side) {d' : Direction} (hd : d' ≠ d) (lo n m : Nat) :
    Numbered side d m m ((List.range' lo n).map (StreamId.ofParts side d')) where
  le := Nat.le_refl m
  ids := by
    have hnone : ∀ id ∈ (List.range' lo n).map (StreamId.ofParts side d'),
        ¬ decide (id.direction = d) = true := by
      intro id hmem
      obtain ⟨k, -, rfl⟩ := List.mem_map.1 hmem
      rw [StreamId.direction_ofParts, decide_eq_true_eq]
      exact hd
    rw [List.filter_eq_nil_iff.2 hnone, Nat.sub_self]
    rfl

/-- Who is on the list of all, has an index that was given out. -/
theorem mem_iff (h : Numbered side d 0 hi ids) (hhi : hi ≤ 0x4000000000000000) {id : StreamId}
    (hd : id.direction = d) : id ∈ ids ↔ id.initiator = side ∧ id.index < hi := by
  have hfilter : id ∈ ids ↔ id ∈ ids.filter (·.direction = d) := by
    rw [List.mem_filter]
    exact (and_iff_left (decide_eq_true hd)).symm
  rw [hfilter, h.ids, List.mem_map]
  constructor
  · rintro ⟨n, hn, rfl⟩
    rw [List.mem_range'_1] at hn
    rw [StreamId.index_ofParts (by omega)]
    exact ⟨StreamId.initiator_ofParts _ _ _, by omega⟩
  · rintro ⟨hside, hindex⟩
    refine ⟨id.index, List.mem_range'_1.2 (by omega), StreamId.ext_parts ?_ ?_ ?_⟩
    · rw [StreamId.initiator_ofParts, hside]
    · rw [StreamId.direction_ofParts, hd]
    · exact StreamId.index_ofParts (by omega) _ _

/-- The identifiers of one direction ascend. -/
theorem ascending (h : Numbered side d 0 hi ids) (hhi : hi ≤ 0x4000000000000000) :
    (ids.filter (·.direction = d)).Pairwise (·.value < ·.value) := by
  rw [h.ids, List.pairwise_map]
  apply List.Pairwise.imp_of_mem _ List.pairwise_lt_range'
  intro n m hn hm hlt
  rw [List.mem_range'_1] at hn hm
  have hvalue (k : Nat) (hk : k < 0x4000000000000000) :
      (StreamId.ofParts side d k).value = 4 * k + 2 * d.bit + side.bit := by
    rw [StreamId.value_eq, StreamId.index_ofParts hk, StreamId.direction_ofParts,
      StreamId.initiator_ofParts]
  rw [hvalue n (by omega), hvalue m (by omega)]
  omega

end Numbered

/-! ## Which streams are opened

Every deed numbers the streams that it opens, and only opening moves a counter. -/

namespace Stream

/-- A change of a stream opens none. -/
theorem Turn.opensNone {st st' : Stream} {id : StreamId} {os : List Occurrence}
    (h : st.Turn id os st') {o : Occurrence} (ho : o ∈ os) : o.OpensNone := by
  cases h with
  | @filled half _ added _ fin _ _ _ _ =>
    obtain ⟨e, hmem, rfl⟩ := List.mem_map.1 ho
    rcases RecvHalf.mem_fillTells hmem with ⟨-, rfl⟩ | ⟨-, -, rfl⟩
    · exact ⟨rfl, rfl⟩
    · exact ⟨rfl, rfl⟩
  | stopped _ _ =>
    obtain rfl := List.mem_singleton.1 ho
    exact ⟨rfl, rfl⟩
  | ended _ _ _ _ =>
    obtain rfl := List.mem_singleton.1 ho
    exact ⟨rfl, rfl⟩
  | abandoned _ _ =>
    obtain rfl := List.mem_singleton.1 ho
    exact ⟨rfl, rfl⟩
  | refused _ _ _ =>
    obtain rfl := List.mem_singleton.1 ho
    exact ⟨rfl, rfl⟩
  | _ => cases ho

end Stream

namespace StreamSet

section

variable {s s' : StreamSet} {os : List Occurrence} {id : StreamId} {st st' : Stream}

/-- The end of a stream opens none. -/
theorem farewell_opensNone {o : Occurrence} (h : o ∈ (s.farewell id).map .told) :
    o.OpensNone := by
  obtain ⟨e, hmem, rfl⟩ := List.mem_map.1 h
  rcases s.farewell_eq id with hnil | ⟨-, -, es, heq, havailable⟩
  · rw [hnil] at hmem
    cases hmem
  rw [heq] at hmem
  rcases List.mem_append.1 hmem with hmem | hmem
  · obtain rfl := havailable e hmem
    exact ⟨rfl, rfl⟩
  · obtain rfl := List.mem_singleton.1 hmem
    exact ⟨rfl, rfl⟩

theorem Stirs.opensNone {es : List Event} (h : s.Stirs es s') {o : Occurrence}
    (ho : o ∈ es.map .told) : o.OpensNone := by
  obtain ⟨e, hmem, rfl⟩ := List.mem_map.1 ho
  rcases h.told e hmem with ⟨d, rfl⟩ | ⟨id, half, rfl, -, -⟩
  · exact ⟨rfl, rfl⟩
  · exact ⟨rfl, rfl⟩

/-- The identifiers of the streams that are opened between `s` and `s'` are those
between the next ones, in order. -/
structure Numbers (s : StreamSet) (os : List Occurrence) (s' : StreamSet) : Prop where
  /-- our streams of a direction, as the application has opened them -/
  own : ∀ d, Numbered s.side d (s.nextLocal.get d) (s'.nextLocal.get d)
    (os.filterMap (·.own?))
  /-- the peer's, as the application has heard of them -/
  peers : ∀ d, Numbered s.side.opposite d (s.nextRemote.get d) (s'.nextRemote.get d)
    (os.filterMap (·.peers?))

/-- Where nothing is opened the counters stay. -/
theorem numbers_of_opensNone (hlocal : s'.nextLocal = s.nextLocal)
    (hremote : s'.nextRemote = s.nextRemote) (hnone : ∀ o ∈ os, o.OpensNone) :
    s.Numbers os s' := by
  have hown : os.filterMap (·.own?) = [] :=
    List.filterMap_eq_nil_iff.2 fun o ho => (hnone o ho).1
  have hpeers : os.filterMap (·.peers?) = [] :=
    List.filterMap_eq_nil_iff.2 fun o ho => (hnone o ho).2
  constructor
  · intro d
    rw [hown, hlocal]
    exact Numbered.nil _ _ _
  · intro d
    rw [hpeers, hremote]
    exact Numbered.nil _ _ _

/-- The numbers go on where they stopped. -/
theorem Numbers.trans {s'' : StreamSet} {os' : List Occurrence} (h : s.Numbers os s')
    (h' : s'.Numbers os' s'') (hside : s'.side = s.side) : s.Numbers (os ++ os') s'' where
  own d := by
    have hrest := h'.own d
    rw [hside] at hrest
    rw [List.filterMap_append]
    exact (h.own d).append hrest
  peers d := by
    have hrest := h'.peers d
    rw [hside] at hrest
    rw [List.filterMap_append]
    exact (h.peers d).append hrest

/-- The stream that we open has the next number of ours. -/
theorem numbers_openStream (hok : (s.openStream d).1 = .ok id) :
    s.Numbers [.opened id] (s.openStream d).2 := by
  rcases s.openStream_eq d with ⟨e, heq⟩ | ⟨-, -, heq⟩
  · rw [heq] at hok
    cases hok
  rw [heq] at hok ⊢
  obtain rfl := Except.ok.inj hok
  constructor
  · intro d'
    simp only [PerDirection.get_set]
    by_cases hd : d' = d
    · subst hd
      rw [if_pos rfl]
      exact Numbered.range' s.side d' (s.nextLocal.get d') 1
    · rw [if_neg hd]
      exact Numbered.other s.side (Ne.symm hd) (s.nextLocal.get d) 1 _
  · intro d'
    exact Numbered.nil _ _ _

/-- The streams that the peer opens have its next numbers, in order, up to the one it named. -/
theorem numbers_ensureOpen (hs : s.Orderly) (hopen : s.ensureOpen id = .ok (some s')) :
    s.Numbers (((s.unopened id).map .streamOpened).map .told) s' := by
  have hown : (((s.unopened id).map Event.streamOpened).map Occurrence.told).filterMap
      (·.own?) = [] := by
    refine List.filterMap_eq_nil_iff.2 fun o ho => ?_
    obtain ⟨e, -, rfl⟩ := List.mem_map.1 ho
    rfl
  have hpeers : (((s.unopened id).map Event.streamOpened).map Occurrence.told).filterMap
      (·.peers?) = s.unopened id := by
    rw [List.filterMap_map, List.filterMap_map]
    exact List.filterMap_some
  rcases ensureOpen_eq_some hopen with ⟨⟨st, hget⟩, rfl⟩ | ⟨next, count, opened, -, hlocal, rfl,
    hle, -, -, hadds, rfl⟩
  · rw [unopened_of_get? hs hget]
    exact numbers_of_opensNone rfl rfl nofun
  constructor
  · intro d
    rw [hown, hadds.nextLocal]
    exact Numbered.nil _ _ _
  · intro d
    rw [hpeers, unopened, if_neg hlocal]
    simp only [PerDirection.get_set]
    -- the peer's counter of this direction moves to just after `id`, and the other one
    -- stays
    by_cases hd : d = id.direction
    · subst hd
      have hnumbered := Numbered.range' s.side.opposite id.direction
        (s.nextRemote.get id.direction) (id.index + 1 - s.nextRemote.get id.direction)
      rw [if_pos rfl]
      rwa [Nat.add_sub_cancel' (by omega)] at hnumbered
    · rw [if_neg hd]
      exact Numbered.other s.side.opposite (Ne.symm hd) _ _ _

/-- An occurrence numbers the streams that it opens. -/
theorem Deed.numbers (hs : s.Orderly) (h : s.Deed os s') : s.Numbers os s' := by
  cases h with
  | opened hok => exact numbers_openStream hok
  | named _ _ hopen => exact numbers_ensureOpen hs hopen
  | @turned id _ _ _ s₁ _ _ hturn hturns =>
    have hkeeps := hturns.toKeeps.trans (keeps_reap s₁ id)
    refine numbers_of_opensNone hkeeps.nextLocal hkeeps.nextRemote fun o ho => ?_
    rcases List.mem_append.1 ho with ho | ho
    · exact hturn.opensNone ho
    · exact farewell_opensNone ho
  | stirred _ hstirs =>
    exact numbers_of_opensNone hstirs.nextLocal hstirs.nextRemote fun o ho => hstirs.opensNone ho
  | left id h _ => exact numbers_of_opensNone rfl rfl nofun
  | taken =>
    refine numbers_of_opensNone rfl rfl fun o ho => ?_
    obtain rfl := List.mem_singleton.1 ho
    exact ⟨rfl, rfl⟩
  | frozen =>
    refine numbers_of_opensNone rfl rfl fun o ho => ?_
    obtain rfl := List.mem_singleton.1 ho
    exact ⟨rfl, rfl⟩

/-- Occurrences number the streams that they open, by induction on them. -/
theorem Deeds.numbers (hs : s.Orderly) (h : s.Deeds os s') : s.Numbers os s' := by
  induction h with
  | refl => exact numbers_of_opensNone rfl rfl nofun
  | tail hdeeds hdeed ih =>
    obtain ⟨hmid, hages⟩ := hdeeds.orderly hs
    exact ih.trans (hdeed.numbers hmid) hages.side

end

end StreamSet

end QuicHost
