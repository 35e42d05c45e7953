import Mathlib.Algebra.GroupWithZero.Nat
import QuicHost.Proofs.Stream.Changes
import QuicHost.Proofs.Stream.Histories
import QuicHost.Proofs.Stream.Retrying

/-!
# Halves that agree with themselves

How far a half has come is said more than once: by its state, by the end that was
accepted or the final size that is known, by the counters, by what is in the buffer,
and by the mark of a half that was stopped. The accounts agree at all times
(`SendHalf.Coherent`, `RecvHalf.Coherent`), because each change of a half keeps them in
agreement. There is one exception, which is the engine's to make: a half that has ended
forgets what was acknowledged when the sum is too large for a word.

States move in one direction (`SendState.Step`, `RecvState.Step`).
-/

namespace QuicHost

open Relation

/-! ## The way of a state

The states of both halves and the steps between them, as a relation on states alone. No
step leads back, and no step leaves an end. -/

/-- One step of a sending half towards its end. -/
inductive SendState.Step : SendState → SendState → Prop where
  /-- data is accepted -/
  | begun : Step .ready .send
  /-- the end is accepted -/
  | finished : Step .send .dataSent
  /-- everything is acknowledged -/
  | acknowledged : Step .dataSent .dataRecvd
  /-- the half is abandoned before it has ended -/
  | abandoned {s : SendState} : s.isTerminal = false → Step s .resetSent

/-- Any number of steps. -/
abbrev SendState.Moves : SendState → SendState → Prop := ReflTransGen SendState.Step

/-- One step of a receiving half towards its end. -/
inductive RecvState.Step : RecvState → RecvState → Prop where
  /-- the final size becomes known -/
  | sized : Step .recv .sizeKnown
  /-- everything is read -/
  | consumed : Step .sizeKnown .dataRecvd
  /-- the half is abandoned before it has ended -/
  | abandoned {s : RecvState} : s.isTerminal = false → Step s .resetRecvd

/-- Any number of steps. -/
abbrev RecvState.Moves : RecvState → RecvState → Prop := ReflTransGen RecvState.Step

theorem SendState.eq_of_isWritable {s : SendState} (h : s.isWritable = true) :
    s = .ready ∨ s = .send := by
  cases s <;> simp_all [isWritable]

/-- The end is the end. -/
theorem SendState.Moves.eq_of_isTerminal {s s' : SendState} (h : s.Moves s')
    (hend : s.isTerminal = true) : s' = s := by
  rcases h.cases_head with heq | ⟨_, hstep, -⟩
  · exact heq.symm
  · cases hstep with
    | abandoned hlive =>
      rw [hend] at hlive
      cases hlive
    | _ => cases hend

/-- No step leaves a state in which a half has ended. -/
theorem RecvState.Moves.eq_of_isTerminal {s s' : RecvState} (h : s.Moves s')
    (hend : s.isTerminal = true) : s' = s := by
  rcases h.cases_head with heq | ⟨_, hstep, -⟩
  · exact heq.symm
  · cases hstep with
    | abandoned hlive =>
      rw [hend] at hlive
      cases hlive
    | _ => cases hend

/-! ## Tidy buffers

A buffer counts its bytes and holds no empty chunk. The second is what makes the end of
the data visible: a buffer that counts nothing has no chunks either. -/

/-- The counter is right, and there are no empty chunks. -/
structure RecvBuffer.Tidy (b : RecvBuffer) : Prop where
  /-- the counter of what is buffered -/
  counted : b.buffered = (b.chunks.map List.length).sum
  /-- every chunk has a byte at least -/
  filled : ∀ chunk ∈ b.chunks, chunk ≠ []

namespace RecvBuffer

variable {b : RecvBuffer}

theorem counts_iff : b.Counts ↔ b.buffered = (b.chunks.map List.length).sum := by
  rw [Counts, contents, List.length_flatten]

/-- Nothing is counted only if there is nothing. -/
theorem Tidy.chunks_eq_nil (h : b.Tidy) (hnone : b.buffered = 0) : b.chunks = [] := by
  have hcounted := h.counted
  cases hchunks : b.chunks with
  | nil => rfl
  | cons front rest =>
    have hfront := List.length_pos_iff.2 (h.filled front (hchunks ▸ List.mem_cons_self))
    rw [hnone, hchunks, List.map_cons, List.sum_cons] at hcounted
    omega

theorem tidy_discard (b : RecvBuffer) : b.discard.Tidy := ⟨rfl, nofun⟩

/-- Only as much of a chunk is taken off as leaves something of it. -/
theorem filled_splitChunks {chunks : List Bytes} (h : ∀ chunk ∈ chunks, chunk ≠ []) (want : Nat) :
    ∀ chunk ∈ (splitChunks want chunks).2, chunk ≠ [] := by
  induction chunks generalizing want with
  | nil => exact nofun
  | cons front rest ih =>
    rw [List.forall_mem_cons] at h
    rw [splitChunks]
    split
    · next hlt =>
      refine List.forall_mem_cons.2 ⟨fun hnil => ?_, h.2⟩
      rw [List.drop_eq_nil_iff] at hnil
      omega
    · exact ih h.2 _

/-- What is left after a read is counted, and the chunk that was cut is not empty. -/
theorem Tidy.read (h : b.Tidy) (n : Nat) : (b.read n).2.Tidy := by
  refine ⟨counts_iff.1 (read_eq (counts_iff.2 h.counted) n).2.2.1, ?_⟩
  have hfilled := h.filled
  rw [RecvBuffer.read]
  dsimp only
  split
  · exact hfilled
  split
  · exact hfilled
  next front rest hchunks =>
  rw [hchunks] at hfilled
  split
  · next hlt =>
    refine List.forall_mem_cons.2 ⟨fun hnil => ?_, (List.forall_mem_cons.1 hfilled).2⟩
    rw [List.drop_eq_nil_iff] at hnil
    omega
  split
  · exact (List.forall_mem_cons.1 hfilled).2
  · exact filled_splitChunks (hchunks ▸ hfilled) _

/-- What is put into the buffer ends behind what was delivered before, so there is
something of it. -/
theorem Tidy.insert (h : b.Tidy) {b' : RecvBuffer} {offset added : Nat} {data : Bytes} {fin : Bool}
    (hinsert : b.insert offset data fin = .ok (added, b')) : b'.Tidy := by
  obtain ⟨hoffset, -, hcontents, hbuffered, -⟩ := insert_eq_ok hinsert
  have hcounts : b.buffered = b.contents.length := counts_iff.2 h.counted
  refine ⟨counts_iff.1 ?_, ?_⟩
  · rw [Counts, hcontents, List.length_append, hbuffered, hcounts]
  simp only [RecvBuffer.insert] at hinsert
  split at hinsert
  · cases hinsert
  split at hinsert
  · cases hinsert
  -- noting the size comes first and moves neither the chunks nor the next offset
  have hsame : (if fin then { b with finalSize := some (offset + data.length) } else b).chunks =
        b.chunks ∧
      (if fin then { b with finalSize := some (offset + data.length) } else b).nextOffset =
        b.nextOffset := by
    cases fin <;> exact ⟨rfl, rfl⟩
  rw [hsame.2] at hinsert
  split at hinsert
  · obtain ⟨-, rfl⟩ := Prod.mk.inj (Except.ok.inj hinsert)
    rw [hsame.1]
    exact h.filled
  · next hnew =>
    obtain ⟨-, rfl⟩ := Prod.mk.inj (Except.ok.inj hinsert)
    dsimp only
    rw [hsame.1]
    refine List.forall_mem_append.2 ⟨h.filled, fun chunk hchunk => ?_⟩
    rw [List.mem_singleton.1 hchunk, Ne, List.drop_eq_nil_iff]
    omega

end RecvBuffer

/-! ## Coherent halves

What a state says about the buffer of its half. Each change of a half is a move of its
state and leaves the half coherent; the changes are those of `SendHalf.Change` and
`RecvHalf.Change`, one case for each. -/

/-- The state of a sending half agrees with what was accepted and acknowledged. That
everything stays acknowledged takes sums that fit a word. -/
structure SendHalf.Coherent (fits : Prop) (h : SendHalf) : Prop where
  /-- nothing was written yet -/
  ready : h.state = .ready → h.buffer.accepted = 0 ∧ h.buffer.fin = false
  /-- something was written, and there will be more -/
  send : h.state = .send → 0 < h.buffer.accepted ∧ h.buffer.fin = false
  /-- the end was written -/
  dataSent : h.state = .dataSent → h.buffer.fin = true
  /-- and everything is acknowledged -/
  dataRecvd : h.state = .dataRecvd →
    h.buffer.fin = true ∧ (fits → h.buffer.acked = h.buffer.accepted)

/-- The state of a receiving half agrees with what is known of the end and with what
is in the buffer. -/
structure RecvHalf.Coherent (h : RecvHalf) : Prop where
  tidy : h.buffer.Tidy
  /-- the end is not known -/
  recv : h.state = .recv ↔ h.state.isTerminal = false ∧ h.buffer.finalSize = none
  /-- the end is known, and there may be data on the way to it -/
  sizeKnown : h.state = .sizeKnown → ∃ size, h.buffer.finalSize = some size
  /-- a half that has ended holds nothing -/
  ended : h.state.isTerminal = true → h.buffer.chunks = [] ∧ h.buffer.buffered = 0
  /-- we gave it up before the end was known -/
  stopped : h.stopped = true → h.state = .resetRecvd ∧ h.buffer.finalSize = none

namespace SendHalf

variable {fits : Prop} {h h' : SendHalf}

theorem coherent_ofLimit (limit : Nat) : (SendHalf.ofLimit limit).Coherent fits :=
  ⟨fun _ => ⟨rfl, rfl⟩, nofun, nofun, nofun⟩

/-- Every change of a sending half is a move of its state, or leaves the state alone. -/
theorem Change.moves (hc : h.Change fits h') : h.state.Moves h'.state := by
  cases hc with
  | accepted n fin hwritable =>
    have hbegun : h.state.Moves .send := by
      rcases SendState.eq_of_isWritable hwritable with hstate | hstate
      · rw [hstate]
        exact .single .begun
      · rw [hstate]
    rw [accept]
    dsimp only
    split
    · exact hbegun.tail .finished
    split
    · exact hbegun
    · exact .refl
  | abandoned hlive => exact .single (.abandoned hlive)
  | acknowledged n _ =>
    rw [acknowledge]
    dsimp only
    split
    · next hall =>
      rw [hall.1]
      exact .single .acknowledged
    · exact .refl
  | credited w => exact .refl

/-- Accepting keeps the state in step with what was accepted. -/
theorem Coherent.accept (hh : h.Coherent fits) (hwritable : h.state.isWritable = true) (n : Nat)
    (fin : Bool) : (h.accept n fin).Coherent fits := by
  -- nothing behind the end was accepted so far
  have hopen : h.buffer.fin = false := by
    rcases SendState.eq_of_isWritable hwritable with hstate | hstate
    · exact (hh.ready hstate).2
    · exact (hh.send hstate).2
  cases fin with
  | true => exact ⟨nofun, nofun, fun _ => rfl, nofun⟩
  | false =>
    by_cases hn : 0 < n
    · have hstate : (h.accept n false).state = .send := if_pos hn
      have haccepted : (h.accept n false).buffer.accepted = h.buffer.accepted + n := rfl
      refine ⟨fun h => ?_, fun _ => ⟨by omega, hopen⟩, fun h => ?_, fun h => ?_⟩ <;>
      · rw [hstate] at h
        cases h
    · obtain rfl := Nat.eq_zero_of_not_pos hn
      exact ⟨hh.ready, hh.send, hh.dataSent, hh.dataRecvd⟩

/-- Acknowledging keeps the state in step with what was acknowledged. A sum that wraps could
take back what was acknowledged before, hence the condition. -/
theorem Coherent.acknowledge (hh : h.Coherent fits) {n : Nat} (hcan : fits → h.CanCount n) :
    (h.acknowledge n).Coherent fits := by
  by_cases hall : h.state = .dataSent ∧ (h.buffer.acknowledge n).isFullyAcked = true
  · have hstate : (h.acknowledge n).state = .dataRecvd := if_pos hall
    have hfull := hall.2
    rw [SendBuffer.isFullyAcked, Bool.and_eq_true, beq_iff_eq] at hfull
    refine ⟨fun h => ?_, fun h => ?_, fun h => ?_, fun _ => ⟨hfull.1, fun _ => hfull.2⟩⟩ <;>
    · rw [hstate] at h
      cases h
  · have hstate : (h.acknowledge n).state = h.state := if_neg hall
    refine ⟨fun h => hh.ready (hstate ▸ h), fun h => hh.send (hstate ▸ h),
      fun h => hh.dataSent (hstate ▸ h), fun hend => ?_⟩
    -- what was acknowledged in full stays so, unless the sum begins at zero again
    obtain ⟨hfin, hacked⟩ := hh.dataRecvd (hstate ▸ hend)
    refine ⟨hfin, fun hfits => Nat.min_eq_right ?_⟩
    rw [wrap_of_le (hcan hfits), ← hacked hfits]
    exact Nat.le_add_right _ n

theorem Change.coherent (hc : h.Change fits h') (hh : h.Coherent fits) : h'.Coherent fits := by
  cases hc with
  | accepted n fin hwritable => exact hh.accept hwritable n fin
  | abandoned _ => exact ⟨nofun, nofun, nofun, nofun⟩
  | acknowledged n hcan => exact hh.acknowledge hcan
  | credited w => exact ⟨hh.ready, hh.send, hh.dataSent, hh.dataRecvd⟩

theorem Coherent.changes (hh : h.Coherent fits) (hchanges : ReflTransGen (Change fits) h h') :
    h'.Coherent fits := by
  induction hchanges with
  | refl => exact hh
  | tail _ hchange ih => exact hchange.coherent ih

end SendHalf

namespace RecvHalf

variable {h h' : RecvHalf}

theorem coherent_ofWindow (window : Nat) : (RecvHalf.ofWindow window).Coherent where
  tidy := ⟨rfl, nofun⟩
  recv := ⟨fun _ => ⟨rfl, rfl⟩, fun _ => rfl⟩
  sizeKnown := nofun
  ended := nofun
  stopped := nofun

theorem state_take (h : RecvHalf) (n : Nat) :
    (h.take n).2.state = if (h.take n).1.fin then .dataRecvd else h.state := rfl

/-- The end is reported when its place is known and nothing is left. -/
theorem state_of_fin {n : Nat} (hfin : (h.take n).1.fin = true) :
    h.state = .sizeKnown ∧ (h.take n).2.buffer.buffered = 0 := by
  have hboth : (h.state == .sizeKnown && (h.take n).2.buffer.isEmpty) = true := hfin
  rw [Bool.and_eq_true, beq_iff_eq] at hboth
  exact ⟨hboth.1, beq_iff_eq.1 hboth.2⟩

/-- Every change of a receiving half is a move of its state, or leaves the state alone. -/
theorem Change.moves (hc : h.Change h') : h.state.Moves h'.state := by
  cases hc with
  | credited w => exact .refl
  | taken n _ =>
    rw [state_take]
    split
    · next hfin =>
      rw [(state_of_fin hfin).1]
      exact .single .consumed
    · exact .refl
  | stopped hlive => exact .single (.abandoned hlive)
  | settled upTo isFinal _ => exact .refl
  | closed finalSize _ hlive => exact .single (.abandoned hlive)
  | filled _ hlive _ =>
    rw [fill]
    dsimp only
    split
    · cases hstate : h.state with
      | recv => exact .single .sized
      | sizeKnown => exact .refl
      | _ =>
        rw [hstate] at hlive
        cases hlive
    · exact .refl

/-- A live half whose end is known is in the state that says so. -/
theorem Coherent.state_of_finalSize (hh : h.Coherent) (hlive : h.state.isTerminal = false)
    {size : Nat} (hsize : h.buffer.finalSize = some size) : h.state = .sizeKnown := by
  cases hstate : h.state with
  | sizeKnown => rfl
  | recv =>
    rw [(hh.recv.1 hstate).2] at hsize
    cases hsize
  | _ =>
    rw [hstate] at hlive
    cases hlive

/-- A half that has ended has nothing to take. -/
theorem Coherent.live_of_isWaiting (hh : h.Coherent) (hwaiting : h.isWaiting = false) :
    h.state.isTerminal = false := by
  rw [← Bool.not_eq_true]
  intro hend
  rw [isWaiting, RecvBuffer.isEmpty, (hh.ended hend).2] at hwaiting
  cases hstate : h.state with
  | sizeKnown =>
    rw [hstate] at hend
    cases hend
  | _ =>
    rw [hstate] at hwaiting
    cases hwaiting

/-- A read leaves a coherent half: with the last byte it reports the end, and nothing is
left. -/
theorem Coherent.take (hh : h.Coherent) (hwaiting : h.isWaiting = false) (n : Nat) :
    (h.take n).2.Coherent := by
  have htidy : (h.take n).2.buffer.Tidy := hh.tidy.read n
  have hsize : (h.take n).2.buffer.finalSize = h.buffer.finalSize :=
    RecvBuffer.finalSize_read h.buffer n
  have hlive := hh.live_of_isWaiting hwaiting
  have hstate := h.state_take n
  -- a stopped half has ended, and a half that has ended has nothing to take
  have hgoing : h.stopped = false := by
    rw [← Bool.not_eq_true]
    intro hstopped
    rw [(hh.stopped hstopped).1] at hlive
    cases hlive
  have hstopped : (h.take n).2.stopped = false := hgoing
  split at hstate
  · next hfin =>
    obtain ⟨-, hnone⟩ := state_of_fin hfin
    refine ⟨htidy, ?_, ?_, fun _ => ⟨htidy.chunks_eq_nil hnone, hnone⟩, ?_⟩
    · rw [hstate]
      exact iff_of_false (by decide) fun hboth => absurd hboth.1 (by decide)
    · rw [hstate]
      exact nofun
    · rw [hstopped]
      exact nofun
  · refine ⟨htidy, ?_, ?_, ?_, ?_⟩
    · rw [hstate, hsize]
      exact hh.recv
    · rw [hstate, hsize]
      exact hh.sizeKnown
    · rw [hstate, hlive]
      exact nofun
    · rw [hstopped]
      exact nofun

/-- Data leaves a coherent half: the end it may bring is the one that the buffer now knows. -/
theorem Coherent.fill (hh : h.Coherent) (hgoing : h.stopped = false)
    (hlive : h.state.isTerminal = false) {offset added : Nat} {data : Bytes} {fin : Bool}
    {buffer : RecvBuffer} (hinsert : h.buffer.insert offset data fin = .ok (added, buffer)) :
    (h.fill buffer fin).Coherent := by
  have htidy : (h.fill buffer fin).buffer.Tidy := hh.tidy.insert hinsert
  have hstopped : ¬ (h.fill buffer fin).stopped = true := Bool.eq_false_iff.1 hgoing
  obtain ⟨-, -, -, -, -, hafter⟩ := RecvBuffer.insert_eq_ok hinsert
  have hsize : (h.fill buffer fin).buffer.finalSize =
    if fin then some (offset + data.length) else h.buffer.finalSize := hafter
  -- with a final size, known before or now, the half is in the one state
  have hknown {size : Nat} (hfin : (h.fill buffer fin).buffer.finalSize = some size)
      (hstate : (h.fill buffer fin).state = .sizeKnown) : (h.fill buffer fin).Coherent := by
    refine ⟨htidy, ?_, fun _ => ⟨size, hfin⟩, ?_, fun h => absurd h hstopped⟩
    · rw [hstate, hfin]
      exact iff_of_false (by decide) fun hboth => absurd hboth.2 (Option.some_ne_none size)
    · rw [hstate]
      exact fun hend => absurd hend (by decide)
  cases fin with
  | true =>
    refine hknown hsize ?_
    cases hbefore : h.buffer.finalSize with
    | none => simp [RecvHalf.fill, hbefore]
    | some size => simpa [RecvHalf.fill, hbefore] using hh.state_of_finalSize hlive hbefore
  | false =>
    have hstate : (h.fill buffer false).state = h.state := rfl
    refine ⟨htidy, ?_, ?_, ?_, fun h => absurd h hstopped⟩
    · rw [hstate, hsize]
      exact hh.recv
    · rw [hstate, hsize]
      exact hh.sizeKnown
    · rw [hstate, hlive]
      exact fun hend => absurd hend Bool.false_ne_true

/-- A half that was abandoned is coherent, whatever it was before. -/
theorem coherent_of_discarded {b : RecvBuffer} (hstate : h.state = .resetRecvd)
    (hbuffer : h.buffer = b.discard)
    (hstopped : h.stopped = true → h.buffer.finalSize = none) : h.Coherent := by
  have hlive : ¬ h.state.isTerminal = false := by
    rw [hstate]
    decide
  refine ⟨hbuffer ▸ b.tidy_discard, ?_, ?_, fun _ => ?_, fun h => ⟨hstate, hstopped h⟩⟩
  · rw [hstate] at hlive ⊢
    exact iff_of_false (by decide) fun hboth => hlive hboth.1
  · rw [hstate]
    exact nofun
  · rw [hbuffer]
    exact ⟨rfl, rfl⟩

/-- Every change of a receiving half keeps it coherent. -/
theorem Change.coherent (hc : h.Change h') (hh : h.Coherent) : h'.Coherent := by
  cases hc with
  | credited w => exact ⟨hh.tidy, hh.recv, hh.sizeKnown, hh.ended, hh.stopped⟩
  | taken n hwaiting => exact hh.take hwaiting n
  | stopped _ => exact coherent_of_discarded rfl rfl Option.isNone_iff_eq_none.1
  | settled upTo isFinal hstopped =>
    exact ⟨hh.tidy, hh.recv, hh.sizeKnown, hh.ended, fun _ => hh.stopped hstopped⟩
  | closed finalSize hgoing _ =>
    exact coherent_of_discarded rfl rfl fun hstopped =>
      absurd hstopped (Bool.eq_false_iff.1 hgoing)
  | filled hgoing hlive hinsert => exact hh.fill hgoing hlive hinsert

theorem Coherent.changes (hh : h.Coherent) (hchanges : ReflTransGen Change h h') :
    h'.Coherent := by
  induction hchanges with
  | refl => exact hh
  | tail _ hchange ih => exact hchange.coherent ih

end RecvHalf

end QuicHost
