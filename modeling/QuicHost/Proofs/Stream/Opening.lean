import QuicHost.Proofs.Stream.View

/-!
# Opening streams

Streams are opened by the application, one at a time, and by the peer, who opens
all streams of a class up to the one it names. Either way only identifiers that
were never used are taken, and each becomes a stream as the view has shown it
all along: opening leaves the view alone (`opens_openStream`,
`opens_of_ensureOpen`).
-/

namespace QuicHost

namespace StreamId

/-- The two low bits of an identifier are direction and initiator, and the rest is the
index. -/
theorem value_eq (id : StreamId) :
    id.value = 4 * id.index + 2 * id.direction.bit + id.initiator.bit := by
  simp only [index, direction, initiator]
  split <;> split <;> simp only [Direction.bit, Side.bit] <;> omega

/-- Identifiers of one class differ in their index. -/
theorem ext_parts {a b : StreamId} (hside : a.initiator = b.initiator)
    (hdir : a.direction = b.direction) (hindex : a.index = b.index) : a = b := by
  have ha := a.value_eq
  have hb := b.value_eq
  rw [hside, hdir, hindex, ← hb] at ha
  cases a
  cases b
  exact congrArg StreamId.mk ha

theorem isLocal_ofParts (side : Side) (d : Direction) (n : Nat) : (ofParts side d n).IsLocal side :=
  initiator_ofParts side d n

theorem not_isLocal_ofParts_opposite (side : Side) (d : Direction) (n : Nat) :
    ¬ (ofParts side.opposite d n).IsLocal side := by
  rw [IsLocal, initiator_ofParts]
  exact side.opposite_ne

theorem initiator_of_not_isLocal {id : StreamId} {side : Side} (h : ¬ id.IsLocal side) :
    id.initiator = side.opposite := by
  rw [IsLocal] at h
  revert h
  cases id.initiator <;> cases side <;> simp [Side.opposite]

/-- An identifier that fits has an index of at most sixty bits. -/
theorem index_lt_of_fits {id : StreamId} (h : id.Fits) : id.index < 0x4000000000000000 := by
  simp only [Fits, maxWord] at h
  simp only [index]
  omega

/-- An index that is small enough makes an identifier that fits. -/
theorem fits_of_index_lt {id : StreamId} (h : id.index < 0x4000000000000000) : id.Fits := by
  simp only [index] at h
  simp only [Fits, maxWord]
  omega

end StreamId

namespace StreamSet

/-! ## Adding streams

A chain of additions to the table, with the identifiers that were added. Each is new, and
the stream under it is what a new stream is. -/

/-- `s'` has gained the streams `ids`, each as a new one, and nothing else of it
has changed. -/
structure Adds (s s' : StreamSet) (ids : List StreamId) : Prop extends SameSetup s s' where
  sendWindow : s'.sendWindow = s.sendWindow
  recvWindow : s'.recvWindow = s.recvWindow
  nextLocal : s'.nextLocal = s.nextLocal
  nextRemote : s'.nextRemote = s.nextRemote
  counts : s'.liveLocal = s.liveLocal ∧ s'.liveRemote = s.liveRemote ∧ s'.peerMax = s.peerMax ∧
    s'.localMax = s.localMax
  parked : s'.parked = s.parked
  /-- the application hears of some of them -/
  told : ∃ heard : List StreamId, s'.events = s.events ++ heard.map .streamOpened
  /-- the streams that are new -/
  new : ∀ id ∈ ids, s'.streams.get? id = some (s.newStream id)
  /-- all others are as they were -/
  old : ∀ id ∉ ids, s'.streams.get? id = s.streams.get? id

/-- Nothing is gained by opening nothing. -/
theorem adds_nil (s : StreamSet) : s.Adds s [] where
  toSameSetup := .refl s
  sendWindow := rfl
  recvWindow := rfl
  nextLocal := rfl
  nextRemote := rfl
  counts := ⟨rfl, rfl, rfl, rfl⟩
  parked := rfl
  told := ⟨[], (List.append_nil _).symm⟩
  new _ h := by cases h
  old _ _ := rfl

/-- Adding one stream adds that stream. -/
theorem adds_addStream (s : StreamSet) (id : StreamId) : s.Adds (s.addStream id) [id] where
  toSameSetup := ⟨rfl, rfl, rfl, rfl⟩
  sendWindow := rfl
  recvWindow := rfl
  nextLocal := rfl
  nextRemote := rfl
  counts := ⟨rfl, rfl, rfl, rfl⟩
  parked := rfl
  told := ⟨[], (List.append_nil _).symm⟩
  new id' h := by
    obtain rfl := List.mem_singleton.1 h
    simp only [addStream, Table.get?_insert, ↓reduceIte]
  old id' h := by
    simp only [addStream, Table.get?_insert, mt List.mem_singleton.2 h, ↓reduceIte]

/-- What is added first and what is added then. -/
theorem Adds.append {s s' s'' : StreamSet} {ids ids' : List StreamId} (h : s.Adds s' ids)
    (h' : s'.Adds s'' ids') : s.Adds s'' (ids ++ ids') where
  toSameSetup := h.toSameSetup.trans h'.toSameSetup
  sendWindow := h'.sendWindow.trans h.sendWindow
  recvWindow := h'.recvWindow.trans h.recvWindow
  nextLocal := h'.nextLocal.trans h.nextLocal
  nextRemote := h'.nextRemote.trans h.nextRemote
  counts := by
    obtain ⟨hlocal, hremote, hpeer, hown⟩ := h.counts
    obtain ⟨hlocal', hremote', hpeer', hown'⟩ := h'.counts
    exact ⟨hlocal'.trans hlocal, hremote'.trans hremote, hpeer'.trans hpeer, hown'.trans hown⟩
  parked := h'.parked.trans h.parked
  told := by
    obtain ⟨heard, hevents⟩ := h.told
    obtain ⟨heard', hevents'⟩ := h'.told
    refine ⟨heard ++ heard', ?_⟩
    rw [hevents', hevents, List.append_assoc, List.map_append]
  new id hid := by
    by_cases hmem : id ∈ ids'
    · rw [h'.new id hmem, h.toSameSetup.newStream]
    · rw [h'.old id hmem, h.new id ((List.mem_append.1 hid).resolve_right hmem)]
  old id hid := by
    simp only [List.mem_append, not_or] at hid
    rw [h'.old id hid.2, h.old id hid.1]

/-- Opening a stream of the peer adds the stream with that index. -/
theorem adds_openRemote (s : StreamSet) (d : Direction) (index : Nat) :
    s.Adds (s.openRemote d index) [StreamId.ofParts s.side.opposite d index] := by
  have hadds := adds_addStream s (StreamId.ofParts s.side.opposite d index)
  exact { hadds with told := ⟨[StreamId.ofParts s.side.opposite d index], rfl⟩ }

/-- Opening the streams of the peer up to one adds them in order, by induction on the
indices. -/
theorem adds_foldl_openRemote (d : Direction) (indices : List Nat) (s : StreamSet) :
    s.Adds (indices.foldl (fun s index => s.openRemote d index) s)
      (indices.map (StreamId.ofParts s.side.opposite d)) := by
  induction indices generalizing s with
  | nil => exact adds_nil s
  | cons index rest ih =>
    have hfirst := adds_openRemote s d index
    have hrest := ih (s.openRemote d index)
    rw [hfirst.side] at hrest
    exact hfirst.append hrest

/-! ## Taking identifiers

Both sides take the next indices of a class, and the counter moves past them. The view
shows the same before and after, for it has shown a new stream under these identifiers all
along. -/

/-- Streams were opened, which changes nothing in the view. -/
structure Opens (s s' : StreamSet) : Prop extends SameSetup s s' where
  view : s'.view = s.view
  orderly : s'.Orderly
  parked : s'.parked = s.parked
  limits : s'.peerMax = s.peerMax ∧ s'.localMax = s.localMax
  /-- the application hears of some of the streams -/
  told : ∃ heard : List StreamId, s'.events = s.events ++ heard.map .streamOpened
  /-- identifiers stay used -/
  used : ∀ {id}, s.Used id → s'.Used id
  /-- streams that were opened before are as they were -/
  old : ∀ {id}, s.Used id → s'.streams.get? id = s.streams.get? id
  /-- the others are new -/
  new : ∀ {id st}, ¬ s.Used id → s'.streams.get? id = some st → st = s.newStream id

/-- Nothing needs to be opened. -/
theorem Opens.refl {s : StreamSet} (hs : s.Orderly) : s.Opens s where
  toSameSetup := .refl s
  view := rfl
  orderly := hs
  parked := rfl
  limits := ⟨rfl, rfl⟩
  told := ⟨[], (List.append_nil _).symm⟩
  used h := h
  old _ := rfl
  new h hget := absurd (hs.used hget) h

section

variable {s s₁ s' : StreamSet} {ids : List StreamId}

/-- Streams that were added under unused identifiers, and are counted as used
from now on, were opened. -/
theorem opens_of_adds (hs : s.Orderly) (hadds : s.Adds s₁ ids) (hsetup : s₁.SameSetup s')
    (hstreams : s'.streams = s₁.streams)
    (hwindows : s'.sendWindow = s₁.sendWindow ∧ s'.recvWindow = s₁.recvWindow)
    (hqueue : s'.parked = s₁.parked ∧ s'.events = s₁.events)
    (hlimits : s'.peerMax = s₁.peerMax ∧ s'.localMax = s₁.localMax)
    (hused : ∀ id, s'.Used id ↔ s.Used id ∨ id ∈ ids)
    (hnew : ∀ id ∈ ids, ¬ s.Used id ∧ id.Fits)
    (hnext : ∀ d, s'.nextLocal.get d ≤ 0x1000000000000000) : s.Opens s' := by
  have hsetup' := hadds.toSameSetup.trans hsetup
  -- a stream that was just added looks as the one that would have been created on first
  -- mention
  have hpeek : ∀ id, s'.peek id = s.peek id := by
    intro id
    simp only [peek, hused, hstreams, hsetup'.newStream]
    by_cases hid : id ∈ ids
    · rw [hadds.new id hid, if_pos (.inr hid), if_neg (hnew id hid).1]
    · simp only [hadds.old id hid, hid, or_false]
  obtain ⟨-, -, hpeer, hown⟩ := hadds.counts
  refine ⟨hsetup', ?_, ⟨?_, ?_, hnext⟩, hqueue.1.trans hadds.parked,
    ⟨hlimits.1.trans hpeer, hlimits.2.trans hown⟩, ?_, fun {id} hid =>
      (hused id).2 (.inl hid), ?_, ?_⟩
  · simp only [view, hpeek, hwindows.1, hwindows.2, hadds.sendWindow, hadds.recvWindow]
  · intro id st hget
    rw [hstreams] at hget
    by_cases hid : id ∈ ids
    · exact (hused id).2 (.inr hid)
    · rw [hadds.old id hid] at hget
      exact (hused id).2 (.inl (hs.used hget))
  · intro id st hget
    rw [hstreams] at hget
    by_cases hid : id ∈ ids
    · exact (hnew id hid).2
    · rw [hadds.old id hid] at hget
      exact hs.fits hget
  · rw [hqueue.2]
    exact hadds.told
  · intro id hid
    rw [hstreams, hadds.old id fun hmem => (hnew id hmem).1 hid]
  · intro id st hid hget
    rw [hstreams] at hget
    by_cases hmem : id ∈ ids
    · rw [hadds.new id hmem] at hget
      exact (Option.some.inj hget).symm
    · rw [hadds.old id hmem] at hget
      exact absurd (hs.used hget) hid

end

/-- What opening a stream may come to: it is refused and nothing happens, or the
next stream of the direction is added, as far as the peer's limit allows. -/
theorem openStream_eq (s : StreamSet) (d : Direction) :
    (∃ e, s.openStream d = (.error e, s)) ∨
      s.liveLocal.get d < s.peerMax.get d ∧
        (StreamId.ofParts s.side d (s.nextLocal.get d)).value ≤ StreamId.maxValue ∧
        s.openStream d = (.ok (StreamId.ofParts s.side d (s.nextLocal.get d)),
          { s.addStream (StreamId.ofParts s.side d (s.nextLocal.get d)) with
            nextLocal := s.nextLocal.set d (s.nextLocal.get d + 1)
            liveLocal := s.liveLocal.set d (s.liveLocal.get d + 1) }) := by
  rw [openStream]
  split
  · exact .inl ⟨_, rfl⟩
  split
  · exact .inl ⟨_, rfl⟩
  next havailable =>
  simp only
  split
  · exact .inl ⟨_, rfl⟩
  next hvalue =>
  rw [available] at havailable
  exact .inr ⟨by omega, Nat.not_lt.1 hvalue, rfl⟩

/-- Whatever `openStream` answers, the view stays. -/
theorem opens_openStream {s : StreamSet} (hs : s.Orderly) (d : Direction) :
    s.Opens (s.openStream d).2 := by
  rcases s.openStream_eq d with ⟨e, heq⟩ | ⟨-, hvalue, heq⟩
  · rw [heq]
    exact .refl hs
  rw [heq]
  have hnext := hs.nextLocal_le d
  have hindex := StreamId.index_ofParts (n := s.nextLocal.get d) (by omega) s.side d
  have hvalue_eq := (StreamId.ofParts s.side d (s.nextLocal.get d)).value_eq
  -- the identifier fits, so its index does, and reading the index back out of the
  -- identifier is exact
  have hlt : s.nextLocal.get d < 0x1000000000000000 := by
    rw [hindex] at hvalue_eq
    simp only [StreamId.maxValue] at hvalue
    omega
  refine opens_of_adds hs (adds_addStream s _) ⟨rfl, rfl, rfl, rfl⟩ rfl ⟨rfl, rfl⟩ ⟨rfl, rfl⟩
    ⟨rfl, rfl⟩ ?_ ?_ ?_
  · -- used from now on: what was used, and the one that was taken
    intro id
    simp only [List.mem_singleton, Used, nextIndex, addStream, PerDirection.get_set]
    by_cases hlocal : id.IsLocal s.side
    · by_cases hdir : id.direction = d
      · simp only [hlocal, hdir, ↓reduceIte]
        constructor
        · intro h
          rcases Nat.lt_or_eq_of_le (Nat.lt_succ_iff.1 h) with h | h
          · exact .inl h
          · refine .inr (StreamId.ext_parts ?_ ?_ ?_)
            · rw [StreamId.initiator_ofParts]; exact hlocal
            · rw [StreamId.direction_ofParts]; exact hdir
            · rw [hindex]; exact h
        · rintro (h | rfl)
          · omega
          · rw [hindex]; omega
      · simp only [hlocal, hdir, ↓reduceIte]
        refine ⟨.inl, fun h => h.resolve_right ?_⟩
        rintro rfl
        exact hdir (StreamId.direction_ofParts _ _ _)
    · simp only [hlocal, ↓reduceIte]
      refine ⟨.inl, fun h => h.resolve_right ?_⟩
      rintro rfl
      exact hlocal (StreamId.isLocal_ofParts _ _ _)
  · intro id hid
    obtain rfl := List.mem_singleton.1 hid
    constructor
    · simp only [Used, nextIndex, StreamId.isLocal_ofParts, StreamId.direction_ofParts,
        hindex, ↓reduceIte,
        Nat.lt_irrefl, not_false_eq_true]
    · exact StreamId.fits_of_index_lt (by rw [hindex]; omega)
  · intro d'
    simp only [PerDirection.get_set]
    have := hs.nextLocal_le d'
    split <;> omega

/-! ## Streams that the peer names

The peer names a stream of its own, and all up to it are opened. Of one of ours it may
only name what we have opened. -/

section

variable {s s' : StreamSet} {id : StreamId}

/-- The identifiers that are taken when the peer names a stream: those of its
class that are unused, up to the one it named. -/
theorem mem_opened_iff (side : Side) (d : Direction) {next index : Nat} (hle : next ≤ index)
    (hindex : index < 0x4000000000000000) (id : StreamId) :
    id ∈ (List.range' next (index - next + 1)).map (StreamId.ofParts side.opposite d) ↔
      ¬ id.IsLocal side ∧ id.direction = d ∧ next ≤ id.index ∧ id.index ≤ index := by
  simp only [List.mem_map, List.mem_range'_1]
  constructor
  · rintro ⟨n, ⟨hn, hn'⟩, rfl⟩
    rw [StreamId.index_ofParts (by omega), StreamId.direction_ofParts]
    exact ⟨StreamId.not_isLocal_ofParts_opposite side d n, rfl, hn, by omega⟩
  · rintro ⟨hlocal, hdir, hn, hn'⟩
    refine ⟨id.index, ⟨hn, by omega⟩, StreamId.ext_parts ?_ ?_ ?_⟩
    · rw [StreamId.initiator_ofParts, StreamId.initiator_of_not_isLocal hlocal]
    · rw [StreamId.direction_ofParts, hdir]
    · rw [StreamId.index_ofParts (by omega)]

/-- What naming a stream may come to if it is not refused and the stream is not
gone: the stream is live, or it is opened with all unused ones below it, as far
as the limit allows. -/
theorem ensureOpen_eq_some (h : s.ensureOpen id = .ok (some s')) :
    (∃ st, s.streams.get? id = some st) ∧ s' = s ∨
      ∃ next count opened, s.streams.get? id = none ∧ ¬ id.IsLocal s.side ∧
        next = s.nextRemote.get id.direction ∧ next ≤ id.index ∧ count = id.index - next + 1 ∧
        s.liveRemote.get id.direction + count ≤ s.localMax.get id.direction ∧
        s.Adds opened
          ((List.range' next count).map (StreamId.ofParts s.side.opposite id.direction)) ∧
        s' = { opened with
          nextRemote := s.nextRemote.set id.direction (id.index + 1)
          liveRemote := s.liveRemote.set id.direction
            (s.liveRemote.get id.direction + count) } := by
  rw [ensureOpen] at h
  split at h
  · next hlive =>
    obtain rfl := Option.some.inj (Except.ok.inj h)
    exact .inl ⟨Option.isSome_iff_exists.1 hlive, rfl⟩
  next hlive =>
  simp only at h
  -- own streams are never opened by the peer, and neither is what was opened before
  split at h
  · split at h <;> cases h
  next hlocal =>
  split at h
  · cases h
  next hnext =>
  split at h
  · cases h
  next hlimit =>
  obtain rfl := Option.some.inj (Except.ok.inj h)
  rw [Table.contains, Bool.not_eq_true, Option.isSome_eq_false_iff,
    Option.isNone_iff_eq_none] at hlive
  exact .inr ⟨_, _, _, hlive, hlocal, rfl, Nat.not_lt.1 hnext, rfl, Nat.not_lt.1 hlimit,
    adds_foldl_openRemote id.direction _ s, rfl⟩

/-- When the peer names a stream that is not gone, the stream is live afterwards
and the view stays. -/
theorem opens_of_ensureOpen (hs : s.Orderly) (hid : id.Fits) (h : s.ensureOpen id = .ok (some s')) :
    s.Opens s' := by
  rcases ensureOpen_eq_some h with ⟨-, rfl⟩ | ⟨next, count, opened, -, hlocal, rfl, hle, rfl, -,
    hadds, rfl⟩
  · exact .refl hs
  have hindex := StreamId.index_lt_of_fits hid
  have hmem := mem_opened_iff s.side id.direction hle hindex
  refine opens_of_adds hs hadds ⟨rfl, rfl, rfl, rfl⟩ rfl ⟨rfl, rfl⟩ ⟨rfl, rfl⟩ ⟨rfl, rfl⟩ ?_ ?_ ?_
  · -- used from now on: what was used, and all of the class up to the one that was named
    intro id'
    rw [hmem]
    simp only [Used, nextIndex, PerDirection.get_set, hadds.side, hadds.nextLocal]
    by_cases hlocal' : id'.IsLocal s.side
    · simp only [hlocal', ↓reduceIte, not_true_eq_false, false_and, or_false]
    · by_cases hdir : id'.direction = id.direction
      · simp only [hlocal', hdir, ↓reduceIte, not_false_eq_true, true_and]
        omega
      · simp only [hlocal', hdir, ↓reduceIte, false_and, and_false, or_false]
  · intro id' hid'
    obtain ⟨hlocal', hdir, hge, hle'⟩ := (hmem id').1 hid'
    constructor
    · simp only [Used, nextIndex, hlocal', hdir, ↓reduceIte]
      omega
    · exact StreamId.fits_of_index_lt (by omega)
  · intro d
    rw [hadds.nextLocal]
    exact hs.nextLocal_le d

/-- A stream that the peer names is live afterwards, unless it is gone. -/
theorem live_of_ensureOpen (hid : id.Fits) (h : s.ensureOpen id = .ok (some s')) :
    ∃ st, s'.streams.get? id = some st := by
  rcases ensureOpen_eq_some h with ⟨hlive, rfl⟩ | ⟨next, count, opened, -, hlocal, rfl, hle, rfl, -,
    hadds, rfl⟩
  · exact hlive
  · have hmem := (mem_opened_iff s.side id.direction hle (StreamId.index_lt_of_fits hid) id).2
      ⟨hlocal, rfl, hle, Nat.le_refl _⟩
    exact ⟨_, hadds.new id hmem⟩

/-- A stream that the peer names in vain is gone. -/
theorem peek_of_ensureOpen_eq_none (h : s.ensureOpen id = .ok none) : s.peek id = none := by
  rw [ensureOpen] at h
  split at h
  · cases h
  next hlive =>
  have hget : s.streams.get? id = none := by
    simpa only [Table.contains, Bool.not_eq_true, Option.isSome_eq_false_iff,
      Option.isNone_iff_eq_none]
      using hlive
  have hused : s.Used id := by
    simp only at h
    simp only [Used, nextIndex]
    split at h
    · next hlocal =>
      split at h
      · cases h
      · rw [if_pos hlocal]
        omega
    · next hlocal =>
      split at h
      · rw [if_neg hlocal]
        assumption
      · split at h <;> cases h
  rw [peek, if_pos hused, hget]

/-- The violations with which a named stream is refused. It was never opened. -/
theorem error_of_ensureOpen {e : TransportError} (h : s.ensureOpen id = .error e) :
    (e = .violation .streamStateError ∨ e = .violation .streamLimitError) ∧ ¬ s.Used id := by
  rw [ensureOpen] at h
  split at h
  · cases h
  simp only at h
  split at h
  · next hlocal =>
    split at h
    · next hnext =>
      refine ⟨.inl (Except.error.inj h).symm, ?_⟩
      rw [Used, nextIndex, if_pos hlocal]
      exact Nat.not_lt.2 hnext
    · cases h
  · next hlocal =>
    split at h
    · cases h
    next hnext =>
    split at h
    · refine ⟨.inr (Except.error.inj h).symm, ?_⟩
      rw [Used, nextIndex, if_neg hlocal]
      exact hnext
    · cases h

end

end StreamSet

end QuicHost
