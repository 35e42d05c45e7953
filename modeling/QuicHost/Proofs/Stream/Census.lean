import Mathlib.Data.Finset.Card
import Mathlib.Data.Finset.Dedup
import QuicHost.Proofs.Stream.Steps

/-!
# The number of live streams

Either side counts the live streams of each class, its own and the peer's, and
the counters are right (`Census.steps`). What a counter does not show is which
streams are live, and the two sides do not agree on this: a stream may be gone at
one end while the other still holds it.

This is the only way in which a stream that one side was free to open can exceed
the limit of the other (`available_le_lagging`): if it does, as many streams of
its class were gone at the side that opened it, and are not gone at the other, as
that side still had room for.
-/

namespace QuicHost

theorem Side.ne_iff {a b : Side} : a ≠ b ↔ a = b.opposite := by cases a <;> cases b <;> decide

/-- How many streams parameters allow. -/
def TransportParameters.maxStreams (p : TransportParameters) : PerDirection :=
  ⟨p.initialMaxStreamsBidi, p.initialMaxStreamsUni⟩

namespace StreamSet

open Finset

/-- The live streams of a class. -/
def living (s : StreamSet) (side : Side) (d : Direction) : Finset StreamId :=
  s.streams.keys.toFinset.filter fun id => id.initiator = side ∧ id.direction = d

/-- How many streams of a class are counted as live. -/
def liveCount (s : StreamSet) (side : Side) (d : Direction) : Nat :=
  if side = s.side then s.liveLocal.get d else s.liveRemote.get d

/-- The counters are right. -/
def Census (s : StreamSet) : Prop := ∀ side d, s.liveCount side d = (s.living side d).card

/-- Whether a stream was opened and is gone. -/
def Gone (s : StreamSet) (id : StreamId) : Prop := s.Used id ∧ s.streams.get? id = none

instance (s : StreamSet) (id : StreamId) : Decidable (s.Gone id) :=
  inferInstanceAs (Decidable (_ ∧ _))

section

variable {s s' : StreamSet} {id : StreamId} {side : Side} {d : Direction}

theorem mem_living_iff : id ∈ s.living side d ↔
    (∃ st, s.streams.get? id = some st) ∧ id.initiator = side ∧ id.direction = d := by
  have hkeys : id ∈ s.streams.keys ↔ ∃ st, s.streams.get? id = some st := by
    rw [← Option.ne_none_iff_exists', ne_eq, Table.get?_eq_none_iff, not_not]
  rw [living, Finset.mem_filter, List.mem_toFinset, hkeys]

/-- There is nothing to count in a new set. -/
theorem census_new (side : Side) (own : TransportParameters) : (new side own).Census := by
  intro side' d
  have hcount : (new side own).liveCount side' d = 0 := by
    rw [liveCount]
    cases d <;> exact ite_self _
  have hnone : (new side own).living side' d = ∅ := by
    refine Finset.eq_empty_of_forall_notMem fun id hmem => ?_
    obtain ⟨⟨st, hget⟩, -⟩ := mem_living_iff.1 hmem
    cases hget
  rw [hcount, hnone, Finset.card_empty]

/-! ## Steps that open and remove nothing

The census is about the table of streams and four counters. A step that changes neither
which streams are live nor a counter leaves it as it is. -/

/-- The same streams are live and counted. -/
structure Still (s s' : StreamSet) : Prop where
  /-- whoever is live stays so, and nobody joins -/
  live : ∀ id, (s'.streams.get? id).isSome = (s.streams.get? id).isSome
  liveLocal : s'.liveLocal = s.liveLocal
  liveRemote : s'.liveRemote = s.liveRemote
  side : s'.side = s.side

/-- A change to anything but the table and the counters leaves the census alone. -/
theorem still_of_streams_eq (hstreams : s'.streams = s.streams)
    (hlocal : s'.liveLocal = s.liveLocal) (hremote : s'.liveRemote = s.liveRemote)
    (hside : s'.side = s.side) : s.Still s' :=
  ⟨fun _ => by rw [hstreams], hlocal, hremote, hside⟩

theorem Still.refl (s : StreamSet) : s.Still s := still_of_streams_eq rfl rfl rfl rfl

theorem Still.trans {s'' : StreamSet} (h : s.Still s') (h' : s'.Still s'') : s.Still s'' where
  live id := (h'.live id).trans (h.live id)
  liveLocal := h'.liveLocal.trans h.liveLocal
  liveRemote := h'.liveRemote.trans h.liveRemote
  side := h'.side.trans h.side

/-- The census is about the live streams and the counters, which stay. -/
theorem Still.census (h : s.Still s') (hc : s.Census) : s'.Census := by
  intro side d
  have hliving : s'.living side d = s.living side d := by
    ext id
    rw [mem_living_iff, mem_living_iff, ← Option.isSome_iff_exists, ← Option.isSome_iff_exists,
      h.live]
  rw [hliving, ← hc side d, liveCount, liveCount, h.liveLocal, h.liveRemote, h.side]

/-- A stream that changes stays live. -/
theorem still_modify (s : StreamSet) (id : StreamId) (f : Stream → Stream) :
    s.Still { s with streams := s.streams.modify id f } := by
  refine ⟨fun id' => ?_, rfl, rfl, rfl⟩
  rw [Table.get?_modify]
  split
  · next heq => rw [heq, Option.isSome_map]
  · rfl

theorem still_map (s : StreamSet) (f : StreamId → Stream → Stream) :
    s.Still { s with streams := s.streams.map f } := by
  refine ⟨fun id' => ?_, rfl, rfl, rfl⟩
  rw [Table.get?_map, Option.isSome_map]

theorem still_setSend (s : StreamSet) (id : StreamId) (h : SendHalf) : s.Still (s.setSend id h) :=
  still_modify s id _

theorem still_raisePeerMax (s : StreamSet) (d : Direction) (n : Nat) :
    s.Still (s.raisePeerMax d n) := by
  rw [raisePeerMax, announceAvailable]
  split_ifs <;> exact still_of_streams_eq rfl rfl rfl rfl

theorem still_park (s : StreamSet) (id : StreamId) (h : SendHalf) : s.Still (s.park id h) := by
  rw [park]
  split
  · exact .refl s
  · exact (still_setSend s id _).trans (still_of_streams_eq rfl rfl rfl rfl)

theorem still_wakeParked (s : StreamSet) : s.Still s.wakeParked := by
  rw [wakeParked]
  split
  · exact .refl s
  · exact (still_map s _).trans (still_of_streams_eq rfl rfl rfl rfl)

/-- A write removes nothing, also where it ends a half. -/
theorem still_write (s : StreamSet) (id : StreamId) (data : Bytes) (fin : Bool) :
    s.Still (s.write id data fin).2 := by
  rw [write]
  split
  · exact .refl s
  next h _ =>
  simp only
  have hparked (short : Prop) [Decidable short] : s.Still (if short then s.park id h else s) := by
    split
    · exact still_park s id h
    · exact .refl s
  split
  · exact hparked _
  · exact ((hparked _).trans (still_setSend _ id _)).trans (still_of_streams_eq rfl rfl rfl rfl)

/-- A half that was abandoned stays until its stream is reaped. -/
theorem still_abandonSend (s : StreamSet) (id : StreamId) (h : SendHalf) :
    s.Still (s.abandonSend id h) := by
  simp only [abandonSend]
  split
  · exact (still_setSend s id _).trans (still_of_streams_eq rfl rfl rfl rfl)
  · exact still_setSend s id _

/-- A limit for one stream is not about how many there are. -/
theorem still_onMaxStreamData (s : StreamSet) (id : StreamId) (limit : Nat) :
    s.Still (s.onMaxStreamData id limit) := by
  rw [onMaxStreamData]
  split
  · exact .refl s
  split
  · exact .refl s
  split
  · exact .refl s
  simp only
  split
  · exact (still_setSend s id _).trans (still_of_streams_eq rfl rfl rfl rfl)
  · exact still_setSend s id _

/-- A limit for the connection is not about how many streams there are. -/
theorem still_onMaxData (s : StreamSet) (limit : Nat) : s.Still (s.onMaxData limit) := by
  rw [onMaxData]
  split
  · exact .refl s
  · have hlift : s.Still { s with sendWindow := s.sendWindow.extend limit } :=
      still_of_streams_eq rfl rfl rfl rfl
    exact hlift.trans (still_wakeParked _)

theorem still_onMaxStreams (s : StreamSet) (d : Direction) (n : Nat) :
    s.Still (s.onMaxStreams d n) := by
  rw [onMaxStreams]
  split
  · exact .refl s
  · exact still_raisePeerMax s d n

/-- The completed handshake opens no stream. -/
theorem still_onHandshakeCompleted (s : StreamSet) (peer : TransportParameters) :
    s.Still (s.onHandshakeCompleted peer) := by
  rw [onHandshakeCompleted]
  split
  · exact .refl s
  · have hraised : s.Still (s.raise peer) :=
      (still_map s _).trans (still_of_streams_eq rfl rfl rfl rfl)
    exact ((hraised.trans (still_raisePeerMax _ _ _)).trans (still_raisePeerMax _ _ _)).trans
      (still_wakeParked _)

/-! ## Opening and removing

Opening a stream makes one more live and counts it; removing one counts it no more. The
streams that the peer opens are counted together, as many as there are new identifiers up
to the one it named. -/

/-- Streams that were opened are counted. -/
theorem Census.adds (hs : s.Orderly) (hc : s.Census) {ids : List StreamId} (hadds : s.Adds s' ids)
    (hnodup : ids.Nodup) (hids : ∀ id ∈ ids, ¬ s.Used id ∧ id.initiator = side ∧ id.direction = d)
    (side' : Side) (d' : Direction) : (s'.living side' d').card =
      s.liveCount side' d' + if side' = side ∧ d' = d then ids.length else 0 := by
  have hlive (id : StreamId) : (∃ st, s'.streams.get? id = some st) ↔
      (∃ st, s.streams.get? id = some st) ∨ id ∈ ids := by
    by_cases hmem : id ∈ ids
    · rw [hadds.new id hmem]
      exact iff_of_true ⟨_, rfl⟩ (.inr hmem)
    · rw [hadds.old id hmem]
      exact (or_iff_left hmem).symm
  rw [hc side' d']
  split
  · next hclass =>
    obtain ⟨rfl, rfl⟩ := hclass
    have hunion : s'.living side' d' = s.living side' d' ∪ ids.toFinset := by
      ext id
      rw [mem_union, mem_living_iff, mem_living_iff, hlive, List.mem_toFinset]
      constructor
      · rintro ⟨hold | hnew, hclass⟩
        · exact .inl ⟨hold, hclass⟩
        · exact .inr hnew
      · rintro (⟨hold, hclass⟩ | hnew)
        · exact ⟨.inl hold, hclass⟩
        · exact ⟨.inr hnew, (hids id hnew).2⟩
    -- what is added was not used, so none of it is counted yet
    have hdisjoint : Disjoint (s.living side' d') ids.toFinset := by
      rw [Finset.disjoint_left]
      intro id hmem hnew
      obtain ⟨⟨st, hget⟩, -⟩ := mem_living_iff.1 hmem
      exact (hids id (List.mem_toFinset.1 hnew)).1 (hs.used hget)
    rw [hunion, card_union_of_disjoint hdisjoint, List.toFinset_card_of_nodup hnodup]
  · next hclass =>
    have hsame : s'.living side' d' = s.living side' d' := by
      ext id
      rw [mem_living_iff, mem_living_iff, hlive]
      constructor
      · rintro ⟨hold | hnew, hclass'⟩
        · exact ⟨hold, hclass'⟩
        · obtain ⟨-, hinitiator, hdirection⟩ := hids id hnew
          exact absurd ⟨hclass'.1.symm.trans hinitiator, hclass'.2.symm.trans hdirection⟩ hclass
      · rintro ⟨hold, hclass'⟩
        exact ⟨.inl hold, hclass'⟩
    rw [hsame, Nat.add_zero]

theorem fits_of_value_le (h : id.value ≤ StreamId.maxValue) : id.Fits := by
  simp only [StreamId.maxValue] at h
  simp only [StreamId.Fits, maxWord]
  omega

/-- The identifier of the next stream is unused, and its index is the next one. -/
theorem next_openStream (hs : s.Orderly) (d : Direction) :
    (StreamId.ofParts s.side d (s.nextLocal.get d)).index = s.nextLocal.get d ∧
      ¬ s.Used (StreamId.ofParts s.side d (s.nextLocal.get d)) := by
  have hnext := hs.nextLocal_le d
  have hindex := StreamId.index_ofParts (n := s.nextLocal.get d) (by omega) s.side d
  refine ⟨hindex, ?_⟩
  simp only [Used, nextIndex, StreamId.isLocal_ofParts, StreamId.direction_ofParts, hindex,
    ↓reduceIte, Nat.lt_irrefl, not_false_eq_true]

/-- A stream that we open is live, and counted: its identifier is new, so that the set of
live ones grows by it. -/
theorem Census.openStream (hs : s.Orderly) (hc : s.Census) (d : Direction) :
    (s.openStream d).2.Census := by
  rcases s.openStream_eq d with ⟨e, heq⟩ | ⟨-, -, heq⟩
  · rw [heq]
    exact hc
  rw [heq]
  intro side' d'
  have hadds := adds_addStream s (StreamId.ofParts s.side d (s.nextLocal.get d))
  have hunused : ∀ id ∈ [StreamId.ofParts s.side d (s.nextLocal.get d)],
      ¬ s.Used id ∧ id.initiator = s.side ∧ id.direction = d := by
    intro id hmem
    obtain rfl := List.mem_singleton.1 hmem
    exact ⟨(next_openStream hs d).2, StreamId.initiator_ofParts _ _ _,
      StreamId.direction_ofParts _ _ _⟩
  have hcard := hc.adds hs hadds (List.nodup_singleton _) hunused side' d'
  refine Eq.trans ?_ hcard.symm
  simp only [liveCount, addStream, PerDirection.get_set, List.length_singleton]
  by_cases hside : side' = s.side
  · by_cases hd : d' = d
    · simp only [hside, hd, and_self, ↓reduceIte]
    · simp only [hside, hd, and_false, ↓reduceIte, Nat.add_zero]
  · simp only [hside, false_and, ↓reduceIte, Nat.add_zero]

/-- The identifiers that are taken when the peer names a stream are different. -/
theorem nodup_opened (side : Side) (d : Direction) (next count : Nat)
    (hle : next + count ≤ 0x4000000000000000) :
    ((List.range' next count).map (StreamId.ofParts side d)).Nodup := by
  refine List.Nodup.map_on (fun n hn m hm heq => ?_) List.nodup_range'
  rw [List.mem_range'_1] at hn hm
  have hindex := congrArg StreamId.index heq
  rwa [StreamId.index_ofParts (by omega), StreamId.index_ofParts (by omega)] at hindex

/-- The streams that the peer opens are live, and counted as many as they are. By what
`Opens` says they are the ones with the indices up to the one named. -/
theorem Census.ensureOpen (hs : s.Orderly) (hc : s.Census) (hid : id.Fits)
    (h : s.ensureOpen id = .ok (some s')) : s'.Census := by
  rcases ensureOpen_eq_some h with ⟨-, rfl⟩ | ⟨next, count, opened, -, hlocal, rfl, hle, rfl, -,
    hadds, rfl⟩
  · exact hc
  have hindex := StreamId.index_lt_of_fits hid
  have hinitiator := StreamId.initiator_of_not_isLocal hlocal
  have hnodup := nodup_opened s.side.opposite id.direction (s.nextRemote.get id.direction)
    (id.index - s.nextRemote.get id.direction + 1) (by omega)
  intro side' d'
  -- opening `id` opens the streams of its class below it as well, each of them new
  have hunused : ∀ id' ∈ (List.range' (s.nextRemote.get id.direction)
      (id.index - s.nextRemote.get id.direction + 1)).map
        (StreamId.ofParts s.side.opposite id.direction),
      ¬ s.Used id' ∧ id'.initiator = s.side.opposite ∧ id'.direction = id.direction := by
    intro id' hmem
    obtain ⟨hlocal', hdir, hge, -⟩ := (mem_opened_iff s.side id.direction hle hindex id').1 hmem
    refine ⟨?_, StreamId.initiator_of_not_isLocal hlocal', hdir⟩
    simp only [Used, nextIndex, hlocal', hdir, ↓reduceIte]
    omega
  have hcard := hc.adds hs hadds hnodup hunused side' d'
  refine Eq.trans ?_ hcard.symm
  obtain ⟨hliveLocal, -⟩ := hadds.counts
  simp only [liveCount, hadds.side, hliveLocal, PerDirection.get_set, List.length_map,
    List.length_range']
  by_cases hside : side' = s.side
  · simp only [hside, ↓reduceIte, (s.side.opposite_ne).symm, false_and, Nat.add_zero]
  · have hother := Side.ne_iff.1 hside
    by_cases hd : d' = id.direction
    · simp only [hother, hd, Side.opposite_ne, ↓reduceIte, and_self]
    · simp only [hother, hd, Side.opposite_ne, ↓reduceIte, and_false, Nat.add_zero]

/-- What removing a stream does to the counters. -/
theorem liveCount_removeStream (s : StreamSet) (id : StreamId) (side : Side) (d : Direction) :
    (s.removeStream id).liveCount side d =
      s.liveCount side d - if side = id.initiator ∧ d = id.direction then 1 else 0 := by
  -- the two counters are kept by who opened the stream, and a stream of the other side
  -- never moves ours
  by_cases hlocal : id.IsLocal s.side
  · have hsides : (s.removeStream id).side = s.side ∧
        (s.removeStream id).liveRemote = s.liveRemote ∧ (s.removeStream id).liveLocal =
          s.liveLocal.set id.direction (s.liveLocal.get id.direction - 1) := by
      simp only [removeStream, hlocal, ↓reduceIte, announceAvailable]
      split_ifs <;> exact ⟨rfl, rfl, rfl⟩
    obtain ⟨hside, hremote, hliveLocal⟩ := hsides
    have hinitiator : id.initiator = s.side := hlocal
    rw [liveCount, liveCount, hside, hremote, hliveLocal, PerDirection.get_set, hinitiator]
    split
    · next heq =>
      by_cases hd : d = id.direction
      · simp only [heq, hd, ↓reduceIte, and_self]
      · simp only [hd, ↓reduceIte, and_false, Nat.sub_zero]
    · next hother => simp only [hother, false_and, ↓reduceIte, Nat.sub_zero]
  · have hsides : (s.removeStream id).side = s.side ∧
        (s.removeStream id).liveLocal = s.liveLocal ∧ (s.removeStream id).liveRemote =
          s.liveRemote.set id.direction (s.liveRemote.get id.direction - 1) := by
      simp only [removeStream, hlocal, ↓reduceIte]
      exact ⟨rfl, rfl, rfl⟩
    obtain ⟨hside, hliveLocal, hremote⟩ := hsides
    rw [liveCount, liveCount, hside, hliveLocal, hremote, PerDirection.get_set]
    simp only [StreamId.initiator_of_not_isLocal hlocal, ← Side.ne_iff]
    split
    · next heq => simp only [heq, ne_eq, not_true_eq_false, false_and, ↓reduceIte, Nat.sub_zero]
    · next hother =>
      by_cases hd : d = id.direction
      · simp only [hother, hd, ne_eq, not_false_eq_true, and_self, ↓reduceIte]
      · simp only [hd, ↓reduceIte, and_false, Nat.sub_zero]

/-- A stream that is removed was live, and is counted no more. -/
theorem Census.reap (hc : s.Census) (id : StreamId) : (s.reap id).Census := by
  rw [StreamSet.reap]
  split
  · next hdone =>
    obtain ⟨st, hget, -⟩ := Option.any_eq_true _ _ |>.1 hdone
    have hlive (id' : StreamId) : (∃ st, (s.removeStream id).streams.get? id' = some st) ↔
        id' ≠ id ∧ ∃ st, s.streams.get? id' = some st := by
      obtain ⟨_, _, _, heq⟩ := s.removeStream_eq id
      rw [heq, Table.get?_erase]
      split
      · next hsame => simp only [reduceCtorEq, exists_false, hsame, ne_eq, not_true_eq_false,
          false_and]
      · next hother => simp only [ne_eq, hother, not_false_eq_true, true_and]
    intro side d
    rw [liveCount_removeStream, hc side d]
    -- the count falls in the class of `id` and stays in the other three
    by_cases hclass : side = id.initiator ∧ d = id.direction
    · obtain ⟨rfl, rfl⟩ := hclass
      have herase : (s.removeStream id).living id.initiator id.direction =
          (s.living id.initiator id.direction).erase id := by
        ext id'
        rw [mem_erase, mem_living_iff, mem_living_iff, hlive, and_assoc]
      rw [herase, card_erase_of_mem (mem_living_iff.2 ⟨⟨st, hget⟩, rfl, rfl⟩)]
      simp only [and_self, ↓reduceIte]
    · have hsame : (s.removeStream id).living side d = s.living side d := by
        ext id'
        rw [mem_living_iff, mem_living_iff, hlive]
        constructor
        · rintro ⟨⟨-, hold⟩, hin⟩
          exact ⟨hold, hin⟩
        · rintro ⟨hold, hin⟩
          refine ⟨⟨?_, hold⟩, hin⟩
          rintro rfl
          exact hclass ⟨hin.1.symm, hin.2.symm⟩
      rw [hsame, if_neg hclass, Nat.sub_zero]
  · exact hc

/-- Every step leaves the counters right. -/
theorem Census.quiet (hs : s.Orderly) (hc : s.Census) (h : s.Quiet s') : s'.Census := by
  cases h with
  | opened _ => exact hc.openStream hs _
  | named hid hopen => exact hc.ensureOpen hs hid hopen
  | recv id h => exact (still_modify s id _).census hc
  | recvWindow w => exact (still_of_streams_eq rfl rfl rfl rfl).census hc
  | told _ _ => exact (still_of_streams_eq rfl rfl rfl rfl).census hc
  | acked n _ => exact (still_setSend s _ _).census hc
  | reaped id => exact hc.reap id

/-- One step keeps the counters right. -/
theorem Census.step (hs : s.Orderly) (hc : s.Census) (h : s.Step s') : s'.Census := by
  cases h with
  | quiet h => exact hc.quiet hs h
  | written id data fin => exact (still_write s id data fin).census hc
  | abandoned _ _ => exact (still_abandonSend s _ _).census hc
  | raised id limit => exact (still_onMaxStreamData s id limit).census hc
  | raisedAll limit => exact (still_onMaxData s limit).census hc
  | allowed d n => exact (still_onMaxStreams s d n).census hc
  | completed peer => exact (still_onHandshakeCompleted s peer).census hc
  | taken => exact (still_of_streams_eq rfl rfl rfl rfl).census hc
  | frozen => exact (still_of_streams_eq rfl rfl rfl rfl).census hc

theorem Census.steps (hs : s.Orderly) (hc : s.Census) (h : s.Steps s') : s'.Census := by
  induction h with
  | refl => exact hc
  | tail hsteps hstep ih => exact ih.step (Steps.orderly hs hsteps).1 hstep

end

/-! ## Limits on the number of streams

How many streams of its own a side has open is within what the other allows, which is what
some report said. -/

section

variable {s s' : StreamSet} {id : StreamId} {d : Direction}

/-- A stream is refused for the limit only if it was not opened, and opening it
with all unused ones below would exceed the limit. -/
theorem ensureOpen_eq_limit (h : s.ensureOpen id = .error (.violation .streamLimitError)) :
    s.streams.get? id = none ∧ ¬ id.IsLocal s.side ∧
      s.nextRemote.get id.direction ≤ id.index ∧
      s.localMax.get id.direction < s.liveRemote.get id.direction +
        (id.index - s.nextRemote.get id.direction + 1) := by
  rw [ensureOpen] at h
  split at h
  · cases h
  next hlive =>
  rw [Table.contains, Bool.not_eq_true, Option.isSome_eq_false_iff,
    Option.isNone_iff_eq_none] at hlive
  simp only at h
  -- an own stream and one that was opened before fail too, but with another error
  split at h
  · split at h
    · cases h
    · cases h
  next hlocal =>
  split at h
  · cases h
  next hnext =>
  split at h
  · next hlimit => exact ⟨hlive, hlocal, Nat.not_lt.1 hnext, hlimit⟩
  · cases h

/-! ### What the peer allows

The limit on streams is raised by two reports and by nothing else. -/

/-- How many streams an operation says that we may keep open. -/
def Operation.allows (d : Direction) : Operation → Nat
  | .handshakeCompleted peer => peer.maxStreams.get d
  | .maxStreams d' n => if d' = d then n else 0
  | _ => 0

/-- Only a report of the peer's limits says how many streams it admits. -/
theorem Quiet.peerMax_eq (h : s.Quiet s') : s'.peerMax = s.peerMax := by
  cases h with
  | @opened d _ _ =>
    rcases s.openStream_eq d with ⟨e, heq⟩ | ⟨-, -, heq⟩
    · rw [heq]
    · rw [heq]
      rfl
  | named _ hopen =>
    rcases ensureOpen_eq_some hopen with ⟨-, rfl⟩ | ⟨_, _, _, -, -, -, -, -, -, hadds, rfl⟩
    · rfl
    · exact hadds.counts.2.2.1
  | recv id h => rfl
  | recvWindow w => rfl
  | told _ _ => rfl
  | acked n _ => rfl
  | reaped id =>
    rw [reap]
    split
    · obtain ⟨_, _, _, heq⟩ := s.removeStream_eq id
      rw [heq]
    · rfl

/-- Only a report of the peer's limits says how many streams it admits. -/
theorem Quietly.peerMax_eq (h : s.Quietly s') : s'.peerMax = s.peerMax := by
  induction h with
  | refl => rfl
  | tail _ hstep ih => rw [hstep.peerMax_eq, ih]

/-- Abandoning a half leaves the peer's limit on streams alone. -/
theorem Abandons.peerMax_eq (h : s.Abandons id s') : s'.peerMax = s.peerMax := by
  obtain @⟨mid, half, hbefore, -, -, hafter⟩ := h
  have habandoned : (mid.abandonSend id half).peerMax = mid.peerMax := by
    simp only [abandonSend]
    split <;> rfl
  rw [hafter.peerMax_eq, habandoned, hbefore.peerMax_eq]

/-- A write leaves the peer's limit on streams alone. -/
theorem peerMax_write (s : StreamSet) (id : StreamId) (data : Bytes) (fin : Bool) :
    (s.write id data fin).2.peerMax = s.peerMax := by
  have hpark (h : SendHalf) : (s.park id h).peerMax = s.peerMax := by
    rw [park]
    split <;> rfl
  rw [write]
  split
  · rfl
  next h _ =>
  simp only
  split
  · split
    · exact hpark h
    · rfl
  · change (if _ then s.park id h else s).peerMax = s.peerMax
    split
    · exact hpark h
    · rfl

theorem peerMax_wakeParked (s : StreamSet) : s.wakeParked.peerMax = s.peerMax := by
  rw [wakeParked]
  split <;> rfl

/-- A limit on bytes is none on the number of streams. -/
theorem peerMax_onMaxStreamData (s : StreamSet) (id : StreamId) (limit : Nat) :
    (s.onMaxStreamData id limit).peerMax = s.peerMax := by
  rw [onMaxStreamData]
  split
  · rfl
  split
  · rfl
  split
  · rfl
  simp only
  split <;> rfl

/-- The limit rises to what was announced, for the direction it was announced for. -/
theorem peerMax_raisePeerMax (s : StreamSet) (d d' : Direction) (n : Nat) :
    (s.raisePeerMax d n).peerMax.get d' ≤ max (s.peerMax.get d') (if d = d' then n else 0) := by
  have hraised : (s.raisePeerMax d n).peerMax =
      if n ≤ s.peerMax.get d then s.peerMax else s.peerMax.set d n := by
    rw [raisePeerMax, announceAvailable]
    split_ifs <;> rfl
  rw [hraised]
  split
  · exact Nat.le_max_left _ _
  · rw [PerDirection.get_set]
    simp only [eq_comm (a := d')]
    split
    · exact Nat.le_max_right _ _
    · exact Nat.le_max_left _ _

/-- The number of streams that we may keep open rises to what an operation says,
if at all. -/
theorem peerMax_perform (s : StreamSet) {op : Operation} (hop : op.Fits) (d : Direction) :
    (s.perform op).2.peerMax.get d ≤ max (s.peerMax.get d) (op.allows d) := by
  have hsame {s' : StreamSet} (h : s'.peerMax = s.peerMax) (n : Nat) :
      s'.peerMax.get d ≤ max (s.peerMax.get d) n := h ▸ Nat.le_max_left _ _
  cases op with
  | openStream d => exact hsame (quietly_openStream s d).peerMax_eq _
  | write id data fin => exact hsame (peerMax_write s id data fin) _
  | read id maxLen => exact hsame (quietly_read s id maxLen).peerMax_eq _
  | resetStream id =>
    exact hsame ((resetStream_steps s id).elim (·.peerMax_eq) (·.2.peerMax_eq)) _
  | stopSending id => exact hsame (quietly_stopSending s id).peerMax_eq _
  -- the handshake raises the two limits one after the other, so each direction passes the
  -- other's raise first
  | handshakeCompleted peer =>
    simp only [perform, onHandshakeCompleted, Operation.allows]
    split
    · exact Nat.le_max_left _ _
    rw [peerMax_wakeParked]
    refine Nat.le_trans (peerMax_raisePeerMax _ _ _ _) (Nat.max_le.2 ⟨?_, ?_⟩)
    · refine Nat.le_trans (peerMax_raisePeerMax _ _ _ _) (Nat.max_le.2 ⟨Nat.le_max_left _ _, ?_⟩)
      cases d with
      | bidi => exact Nat.le_max_right _ _
      | uni => exact Nat.zero_le _
    · cases d with
      | bidi => exact Nat.zero_le _
      | uni => exact Nat.le_max_right _ _
  | streamData id offset data fin =>
    exact hsame (quietly_onStreamData hop offset data fin).peerMax_eq _
  | streamReset id errorCode finalSize =>
    exact hsame (quietly_onStreamReset hop errorCode finalSize).peerMax_eq _
  | peerStop id errorCode =>
    exact hsame ((onStopSending_steps hop errorCode).elim (·.peerMax_eq) (·.2.peerMax_eq)) _
  | maxStreamData id limit => exact hsame (peerMax_onMaxStreamData s id limit) _
  | maxData limit =>
    refine hsame ?_ _
    simp only [perform, onMaxData]
    split
    · rfl
    · exact peerMax_wakeParked _
  | maxStreams d' n =>
    simp only [perform, onMaxStreams, Operation.allows]
    split
    · exact Nat.le_max_left _ _
    · exact peerMax_raisePeerMax s d' d n
  | streamAcked id n => exact hsame (quietly_onStreamAcked s id n).peerMax_eq _
  | takeEvents => exact hsame rfl _
  | freeze => exact hsame rfl _

/-- A limit on streams comes from an operation that announced it, by induction on the run. -/
theorem peerMax_after {n : Nat} {ops : List Operation} (hs : s.peerMax.get d ≤ n)
    (hops : ∀ op ∈ ops, op.Fits ∧ op.allows d ≤ n) : (s.after ops).peerMax.get d ≤ n := by
  induction ops generalizing s with
  | nil => exact hs
  | cons op rest ih =>
    rw [List.forall_mem_cons] at hops
    obtain ⟨⟨hfits, hallows⟩, hrest⟩ := hops
    exact ih (Nat.le_trans (peerMax_perform s hfits d) (Nat.max_le.2 ⟨hs, hallows⟩)) hrest

/-! ### Two sides

A stream may be gone for the side that opened it and not for the other. How many such
streams there are bounds how far the sides can disagree. -/

/-- When a stream is refused for the limit, there are more streams of its class
than the limit that are not gone: the live ones, and those that would be opened. -/
theorem exists_held_of_refused {r : StreamSet} (hr : r.Orderly) (hc : r.Census) (hid : id.Fits)
    (hrefused : r.ensureOpen id = .error (.violation .streamLimitError)) :
    ∃ held : Finset StreamId, r.localMax.get id.direction < held.card ∧
      ∀ id' ∈ held, id'.initiator = r.side.opposite ∧ id'.direction = id.direction ∧
        id'.index ≤ id.index ∧ ¬ r.Gone id' := by
  have hindex := StreamId.index_lt_of_fits hid
  obtain ⟨-, -, hnext, hlimit⟩ := ensureOpen_eq_limit hrefused
  have hused {id' : StreamId} (hinitiator : id'.initiator = r.side.opposite)
      (hdirection : id'.direction = id.direction) :
      r.Used id' ↔ id'.index < r.nextRemote.get id.direction := by
    have hremote : ¬ id'.IsLocal r.side := by
      rw [StreamId.IsLocal, hinitiator]
      exact r.side.opposite_ne
    simp only [Used, nextIndex, hremote, hdirection, ↓reduceIte]
  have hnodup := nodup_opened r.side.opposite id.direction (r.nextRemote.get id.direction)
    (id.index - r.nextRemote.get id.direction + 1) (by omega)
  have hmem := mem_opened_iff r.side id.direction hnext hindex
  -- the streams that accepting `id` would open: from the first unused one up to `id` itself
  generalize hnew : (List.range' (r.nextRemote.get id.direction)
    (id.index - r.nextRemote.get id.direction + 1)).map
      (StreamId.ofParts r.side.opposite id.direction) = unopened at hnodup hmem
  have hlive {id' : StreamId} (h : id' ∈ r.living r.side.opposite id.direction) :
      id'.initiator = r.side.opposite ∧ id'.direction = id.direction ∧
        id'.index < r.nextRemote.get id.direction ∧ ¬ r.Gone id' := by
    obtain ⟨⟨st, hget⟩, hinitiator, hdirection⟩ := mem_living_iff.1 h
    refine ⟨hinitiator, hdirection, (hused hinitiator hdirection).1 (hr.used hget), fun hgone => ?_⟩
    rw [hgone.2] at hget
    cases hget
  -- held: what is live together with what would be opened; both are counted against the
  -- limit
  refine ⟨r.living r.side.opposite id.direction ∪ unopened.toFinset, ?_, fun id' hin => ?_⟩
  · have hdisjoint : Disjoint (r.living r.side.opposite id.direction) unopened.toFinset := by
      rw [Finset.disjoint_left]
      intro id' hin hun
      obtain ⟨-, -, hlt, -⟩ := hlive hin
      obtain ⟨-, -, hge, -⟩ := (hmem id').1 (List.mem_toFinset.1 hun)
      omega
    have hcount := hc r.side.opposite id.direction
    rw [liveCount, if_neg r.side.opposite_ne] at hcount
    rwa [card_union_of_disjoint hdisjoint, List.toFinset_card_of_nodup hnodup, ← hcount, ← hnew,
      List.length_map, List.length_range']
  · rcases mem_union.1 hin with hin | hun
    · obtain ⟨hinitiator, hdirection, hlt, hkept⟩ := hlive hin
      exact ⟨hinitiator, hdirection, by omega, hkept⟩
    · obtain ⟨hlocal, hdirection, hge, hle⟩ := (hmem id').1 (List.mem_toFinset.1 hun)
      have hinitiator := StreamId.initiator_of_not_isLocal hlocal
      refine ⟨hinitiator, hdirection, hle, fun hgone => ?_⟩
      have hlt := (hused hinitiator hdirection).1 hgone.1
      omega

/-- The streams that `x` has opened in a direction and that are gone there, but
not at the other side `r`. -/
def lagging (x r : StreamSet) (d : Direction) : Finset StreamId :=
  ((Finset.range (x.nextLocal.get d)).image (StreamId.ofParts x.side d)).filter fun id =>
    x.Gone id ∧ ¬ r.Gone id

/-- A stream that is gone for its opener and not for the other side lags. -/
theorem mem_lagging {x r : StreamSet} (hx : x.Orderly) (hinitiator : id.initiator = x.side)
    (hgone : x.Gone id) (hkept : ¬ r.Gone id) : id ∈ lagging x r id.direction := by
  have hlocal : id.IsLocal x.side := hinitiator
  have hindex := hgone.1
  rw [Used, nextIndex, if_pos hlocal] at hindex
  have hnext := hx.nextLocal_le id.direction
  have hid : StreamId.ofParts x.side id.direction id.index = id :=
    StreamId.ext_parts ((StreamId.initiator_ofParts _ _ _).trans hinitiator.symm)
      (StreamId.direction_ofParts _ _ _) (StreamId.index_ofParts (by omega) _ _)
  exact mem_filter.2 ⟨mem_image.2 ⟨id.index, mem_range.2 hindex, hid⟩, hgone, hkept⟩

/-- One side opens a stream, and the other refuses it for the limit. Then as many
streams are gone at the one and not at the other as the one had room for. -/
theorem available_le_lagging {x r : StreamSet} (hx : x.Orderly) (hcx : x.Census) (hr : r.Orderly)
    (hcr : r.Census) (hside : r.side = x.side.opposite)
    (hmax : ∀ d, x.peerMax.get d ≤ r.localMax.get d) (hopen : (x.openStream d).1 = .ok id)
    (hrefused : r.ensureOpen id = .error (.violation .streamLimitError)) :
    x.available d ≤ (lagging x r d).card := by
  rcases x.openStream_eq d with ⟨e, heq⟩ | ⟨-, hvalue, heq⟩
  · rw [heq] at hopen
    cases hopen
  rw [heq] at hopen
  obtain rfl := Except.ok.inj hopen
  obtain ⟨hindex, -⟩ := next_openStream hx d
  generalize hid : StreamId.ofParts x.side d (x.nextLocal.get d) = id at *
  have hinitiator : id.initiator = x.side := hid ▸ StreamId.initiator_ofParts _ _ _
  obtain rfl : id.direction = d := hid ▸ StreamId.direction_ofParts _ _ _
  obtain ⟨held, hover, hheld⟩ := exists_held_of_refused hr hcr (fits_of_value_le hvalue) hrefused
  rw [hside, Side.opposite_opposite] at hheld
  -- what the other side holds is the new stream, or live at this side, or lags behind
  have hcover : held ⊆ insert id (x.living x.side id.direction) ∪ lagging x r id.direction := by
    intro id' hin
    obtain ⟨hinitiator', hdirection, hle, hkept⟩ := hheld id' hin
    rw [mem_union, mem_insert]
    by_cases heq : id' = id
    · exact .inl (.inl heq)
    have hother : id'.index ≠ id.index := fun hsame =>
      heq (StreamId.ext_parts (hinitiator'.trans hinitiator.symm) hdirection hsame)
    have hlocal : id'.IsLocal x.side := hinitiator'
    have hused : x.Used id' := by
      rw [Used, nextIndex, if_pos hlocal, hdirection]
      omega
    rcases hget : x.streams.get? id' with _ | st
    · exact .inr (hdirection ▸ mem_lagging hx hinitiator' ⟨hused, hget⟩ hkept)
    · exact .inl (.inr (mem_living_iff.2 ⟨⟨st, hget⟩, hinitiator', hdirection⟩))
  have hown := hcx x.side id.direction
  rw [liveCount, if_pos rfl] at hown
  have hcard := (card_le_card hcover).trans (card_union_le _ _)
  have hinsert := card_insert_le id (x.living x.side id.direction)
  have hbound := hmax id.direction
  rw [available]
  omega

end

end StreamSet

end QuicHost
