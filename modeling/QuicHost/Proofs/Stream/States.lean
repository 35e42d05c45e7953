import QuicHost.Proofs.Stream.Coherence

/-!
# The states of a stream

Whatever is done with a set of streams, and refused on the way, the halves of every live
stream agree with themselves, and a half that a stream has stays with it while it lives.
Its state moves in one direction (`states_follow_course`).

When everything has stopped but reading, one move is left, from the known size to the
end, and it belongs to the read that reports the end (`status?_perform_of_frozen`).

That everything is acknowledged of a half whose data was received in full takes the word
of the engine. A sum that is too large for a word makes the half forget it
(`received_not_acked`).
-/

namespace QuicHost

open Relation

/-! ## Streams

Coherence and moves for both halves of a stream, and along a run. A half that a stream has
stays with it, so that its state can be followed for as long as the stream lives. -/

/-- Both halves of a stream are coherent. -/
structure Stream.Coherent (fits : Prop) (st : Stream) : Prop where
  send : ∀ h, st.send = some h → h.Coherent fits
  recv : ∀ h, st.recv = some h → h.Coherent

/-- The same halves are there, and each has moved on, if at all. -/
structure StreamStatus.Moves (a b : StreamStatus) : Prop where
  send : Option.Rel SendState.Moves a.send b.send
  recv : Option.Rel RecvState.Moves a.recv b.recv

/-- What stays, and came of what was there before, is related to it. -/
theorem rel_map_of_stays {α β : Type} {f : α → β} {R : β → β → Prop} {o o' : Option α}
    (hstays : o.isSome = true → o'.isSome = true)
    (hcame : ∀ b, o' = some b → ∃ a, o = some a ∧ R (f a) (f b)) :
    Option.Rel R (o.map f) (o'.map f) := by
  cases hafter : o' with
  | none =>
    rcases hbefore : o with _ | a
    · exact .none
    · rw [hbefore, hafter] at hstays
      exact absurd (hstays rfl) Bool.false_ne_true
  | some b =>
    obtain ⟨a, rfl, hab⟩ := hcame b hafter
    exact .some hab

/-- What is related to nothing but itself stays. -/
theorem eq_some_of_rel {α : Type} {R : α → α → Prop} {o o' : Option α} {a : α}
    (h : Option.Rel R o o') (ho : o = some a) (hlast : ∀ b, R a b → b = a) : o' = some a := by
  subst ho
  cases h with
  | some hab => rw [hlast _ hab]

/-- Whatever half there was is there. -/
structure Stream.Retains (st st' : Stream) : Prop where
  send : st.send.isSome = true → st'.send.isSome = true
  recv : st.recv.isSome = true → st'.recv.isSome = true

namespace Stream

theorem Retains.refl (st : Stream) : st.Retains st := ⟨id, id⟩

theorem Retains.trans {st st' st'' : Stream} (h : st.Retains st') (h' : st'.Retains st'') :
    st.Retains st'' :=
  ⟨h'.send ∘ h.send, h'.recv ∘ h.recv⟩

/-- A turn changes halves and removes none. -/
theorem Turn.retains {st st' : Stream} {id : StreamId} {os : List Occurrence}
    (h : st.Turn id os st') : st.Retains st' := by
  cases h with
  | written _ _ _ _ _ => exact ⟨fun _ => rfl, fun hrecv => hrecv⟩
  | abandoned _ _ => exact ⟨fun _ => rfl, fun hrecv => hrecv⟩
  | refused _ _ _ => exact ⟨fun _ => rfl, fun hrecv => hrecv⟩
  | acked _ _ => exact ⟨fun _ => rfl, fun hrecv => hrecv⟩
  | _ => exact ⟨fun hsend => hsend, fun _ => rfl⟩

/-- Raised limits remove no half. -/
theorem Stirred.retains {st st' : Stream} (h : st.Stirred st') : st.Retains st' where
  send hsend := by
    rw [← Option.isSome_map (f := (·.state)), h.state, Option.isSome_map]
    exact hsend
  recv hrecv := by
    rw [h.recv]
    exact hrecv

end Stream

namespace StreamSet

section

variable {s s' : StreamSet} {os : List Occurrence} {id : StreamId} {st st' : Stream}

/-- No deed takes a half from a stream that stays. -/
theorem Deed.retains (hs : s.Orderly) (h : s.Deed os s') (hget : s.streams.get? id = some st)
    (hget' : s'.streams.get? id = some st') : st.Retains st' := by
  have hsame (heq : s'.streams.get? id = s.streams.get? id) : st.Retains st' := by
    obtain rfl := Option.some.inj (hget'.symm.trans (heq.trans hget))
    exact .refl _
  -- both streams are live, so whatever is opened in between is neither of them
  cases h with
  | opened _ => exact hsame ((opens_openStream hs _).old (hs.used hget))
  | named hid _ hopen => exact hsame ((opens_of_ensureOpen hs hid hopen).old (hs.used hget))
  | @turned id' _ _ _ s₁ _ hbefore hturn hturns =>
    have hmid := get?_of_get?_reap hget'
    rw [hturns.streams] at hmid
    split at hmid
    · next heq =>
      subst heq
      obtain rfl := Option.some.inj (hget.symm.trans hbefore)
      obtain rfl := Option.some.inj hmid
      exact hturn.retains
    · obtain rfl := Option.some.inj (hget.symm.trans hmid)
      exact .refl _
  | stirred _ hstirs =>
    obtain ⟨half, hbefore, hstirred⟩ := hstirs.stream hget'
    obtain rfl := Option.some.inj (hget.symm.trans hbefore)
    exact hstirred.retains
  | left id' h _ =>
    rw [setRecv, Table.get?_modify] at hget'
    split at hget'
    · rw [hget, Option.map_some] at hget'
      obtain rfl := Option.some.inj hget'
      exact ⟨fun hsend => hsend, fun _ => rfl⟩
    · obtain rfl := Option.some.inj (hget.symm.trans hget')
      exact .refl _
  | taken => exact hsame rfl
  | frozen => exact hsame rfl

/-- A stream that is live before and after has the halves it had. -/
theorem Deeds.retains (hs : s.Orderly) (h : s.Deeds os s') (hget : s.streams.get? id = some st)
    (hget' : s'.streams.get? id = some st') : st.Retains st' := by
  induction h generalizing st' with
  | refl =>
    obtain rfl := Option.some.inj (hget.symm.trans hget')
    exact .refl _
  | @tail _ _ mid _ hdeeds hdeed ih =>
    obtain ⟨hmid, hages⟩ := hdeeds.orderly hs
    -- a stream that had gone meanwhile would not be back
    rcases hbetween : mid.streams.get? id with _ | st₁
    · rw [(hdeed.orderly hmid).2.gone (hages.used (hs.used hget)) hbetween] at hget'
      cases hget'
    · exact (ih hbetween).trans (hdeed.retains hmid hbetween hget')

/-- The halves of a stream move on while it lives. -/
theorem moves_after (hs : s.Orderly) (hq : s.Queued) {ops : List Operation}
    (hops : ∀ op ∈ ops, op.Fits) (hget : s.streams.get? id = some st)
    (hget' : (s.after ops).streams.get? id = some st') : st.status.Moves st'.status := by
  have hretains := (deeds_after hs hq hops).retains hs hget hget'
  have hchanges := changes_after hs hops fun _ hacks => hacks
  have hs' := orderly_after hs hops
  refine ⟨rel_map_of_stays hretains.send fun h' hsend' => ?_,
    rel_map_of_stays hretains.recv fun h' hrecv' => ?_⟩
  · obtain ⟨plain, hbefore, hchange⟩ := hchanges.send (view_send_of_send hs' hget' hsend')
    rw [view_send_of_get? hs hget] at hbefore
    obtain ⟨h, hsend, rfl⟩ := Option.map_eq_some_iff.1 hbefore
    exact ⟨h, hsend, hchange.lift' SendHalf.state fun _ _ hc => hc.moves⟩
  · obtain ⟨h, hbefore, hchange⟩ := hchanges.recv (view_recv_of_recv hs' hget' hrecv')
    rw [view_recv_of_get? hs hget] at hbefore
    exact ⟨h, hbefore, hchange.lift' RecvHalf.state fun _ _ hc => hc.moves⟩

end

/-- Live streams are coherent after every run, with everything that this says about sums
if the acknowledgements on the stream fit a word. -/
theorem coherent_after {side : Side} {own : TransportParameters} {ops : List Operation}
    (hops : ∀ op ∈ ops, op.Fits) {id : StreamId} {st : Stream}
    (hget : ((new side own).after ops).streams.get? id = some st) :
    st.Coherent (∀ e ∈ (new side own).trace ops, e.AckFits id) where
  send h hsend := by
    obtain ⟨limit, hchanges⟩ := exists_changes_of_send hops hget hsend
    have hplain := (SendHalf.coherent_ofLimit limit).changes hchanges
    exact ⟨hplain.ready, hplain.send, hplain.dataSent, hplain.dataRecvd⟩
  recv h hrecv := by
    obtain ⟨window, hchanges⟩ := exists_changes_of_recv hops hget hrecv
    exact (RecvHalf.coherent_ofWindow window).changes hchanges

/-! ## When everything has stopped

Nothing changes any more but by reading, and reading moves one state, once. -/

/-- The status after a receiving half was replaced. -/
theorem status?_setRecv (s : StreamSet) (id id' : StreamId) (h : RecvHalf) :
    (s.setRecv id h).status? id' =
      if id' = id then (s.status? id).map ({ · with recv := some h.state }) else s.status? id' := by
  rw [status?, status?, setRecv, Table.get?_modify]
  split
  · next heq =>
    rw [heq, Option.map_map, Option.map_map]
    rfl
  · rfl

/-- Whether a step reads to the end of a stream. -/
def Entry.ReadsEnd (e : Entry) (id : StreamId) : Prop :=
  ∃ maxLen out, e.op = .read id maxLen ∧ e.answer = .read (.ok out) ∧ out.fin = true

section

variable {s : StreamSet} (hfrozen : s.frozen = true)

include hfrozen

/-- Only reading goes on. -/
theorem streams_perform_of_frozen {op : Operation} (hop : ∀ id maxLen, op ≠ .read id maxLen) :
    (s.perform op).2.streams = s.streams := by
  cases op with
  | openStream d => rw [perform, openStream, if_pos hfrozen]
  | write id data fin => rw [perform, write, writableHalf, if_pos hfrozen]
  | read id maxLen => exact absurd rfl (hop id maxLen)
  | resetStream id => rw [perform, resetStream, if_pos hfrozen]
  | stopSending id => rw [perform, stopSending, if_pos hfrozen]
  | handshakeCompleted peer => rw [perform, onHandshakeCompleted, if_pos hfrozen]
  | streamData id offset data fin => rw [perform, onStreamData, onNamed_of_frozen hfrozen]
  | streamReset id errorCode finalSize => rw [perform, onStreamReset, onNamed_of_frozen hfrozen]
  | peerStop id errorCode => rw [perform, onStopSending, onNamed_of_frozen hfrozen]
  | maxStreamData id limit => rw [perform, onMaxStreamData, if_pos hfrozen]
  | maxData limit => rw [perform, onMaxData, if_pos (.inl hfrozen)]
  | maxStreams d n => rw [perform, onMaxStreams, if_pos hfrozen]
  | streamAcked id n => rw [perform, onStreamAcked, if_pos hfrozen]
  | takeEvents => rfl
  | freeze => rfl

/-- A read is refused and changes nothing, or it takes from the half. -/
theorem read_of_frozen (id : StreamId) (maxLen : Nat) :
    (∃ e, s.read id maxLen = (.error e, s)) ∨
      ∃ st h, s.streams.get? id = some st ∧ st.recv = some h ∧
        s.read id maxLen = (.ok (h.take maxLen).1, s.setRecv id (h.take maxLen).2) := by
  rw [read]
  split
  · exact .inl ⟨_, rfl⟩
  split
  · exact .inl ⟨_, rfl⟩
  next st hget =>
  split
  · exact .inl ⟨_, rfl⟩
  next h hrecv =>
  split
  · exact .inl ⟨_, rfl⟩
  · exact .inr ⟨st, h, hget, hrecv, rfl⟩

/-- The one change of state that is left: a read that reports the end ends the
half. -/
theorem status?_perform_of_frozen (op : Operation) (id : StreamId) :
    ((s.entry op).ReadsEnd id ∧ ∃ send, s.status? id = some ⟨send, some .sizeKnown⟩ ∧
        (s.perform op).2.status? id = some ⟨send, some .dataRecvd⟩) ∨
      ¬ (s.entry op).ReadsEnd id ∧ (s.perform op).2.status? id = s.status? id := by
  -- a frozen set answers reads and leaves the streams alone otherwise
  by_cases hread : ∃ id' maxLen, op = .read id' maxLen
  · obtain ⟨id', maxLen, rfl⟩ := hread
    rcases read_of_frozen hfrozen id' maxLen with ⟨e, heq⟩ | ⟨st, h, hget, hrecv, heq⟩
    · refine .inr ⟨fun hends => ?_, ?_⟩
      · obtain ⟨_, out, -, hanswer, -⟩ := hends
        rw [entry, perform, heq] at hanswer
        cases hanswer
      · rw [perform, heq]
    have hanswers : (s.entry (.read id' maxLen)).answer = .read (.ok (h.take maxLen).1) := by
      rw [entry, perform, heq]
    have hstatus : s.status? id' = some ⟨st.send.map (·.state), some h.state⟩ := by
      rw [status?, hget, Option.map_some, Stream.status, hrecv, Option.map_some]
    have hafter : (s.perform (.read id' maxLen)).2.status? id =
        (s.setRecv id' (h.take maxLen).2).status? id := by
      rw [perform, heq]
    rw [hafter, status?_setRecv, hstatus, Option.map_some, RecvHalf.state_take]
    by_cases hfin : id = id' ∧ (h.take maxLen).1.fin = true
    · obtain ⟨rfl, hfin⟩ := hfin
      rw [if_pos rfl, if_pos hfin, hstatus, (RecvHalf.state_of_fin hfin).1]
      exact .inl ⟨⟨maxLen, _, rfl, hanswers, hfin⟩, _, rfl, rfl⟩
    · refine .inr ⟨fun hends => hfin ?_, ?_⟩
      · obtain ⟨_, out, hop, hanswer, hend⟩ := hends
        obtain ⟨rfl, rfl⟩ := Operation.read.inj hop
        obtain rfl := Except.ok.inj (Answer.read.inj (hanswers.symm.trans hanswer))
        exact ⟨rfl, hend⟩
      · split
        · next hid =>
          rw [if_neg fun hend => hfin ⟨hid, hend⟩, hid, hstatus]
        · rfl
  · refine .inr ⟨fun hends => ?_, ?_⟩
    · obtain ⟨maxLen, out, hop, -⟩ := hends
      exact hread ⟨id, maxLen, hop⟩
    · rw [status?, streams_perform_of_frozen hfrozen fun id' maxLen hop => hread ⟨id', maxLen, hop⟩]
      rfl

end

/-- Reading is all that goes on after the end. -/
theorem frozen_after {s : StreamSet} (hs : s.Orderly) {ops : List Operation}
    (hops : ∀ op ∈ ops, op.Fits) (hfreeze : .freeze ∈ ops) : (s.after ops).frozen = true := by
  obtain ⟨ops₁, ops₂, rfl⟩ := List.append_of_mem hfreeze
  rw [List.forall_mem_append, List.forall_mem_cons] at hops
  have hmid := orderly_freeze (orderly_after hs hops.1)
  rw [after_append]
  exact (steps_after _ hops.2.2).frozen_eq hmid rfl

/-! ## All runs

The three parts together. That what was acknowledged stays so takes sums that fit, which
is a condition on the run. -/

/-- **One course for every stream.** Whatever was done with a set of streams, refused
or not, the states of a live stream agree with all that is counted and held for it.
One of these agreements takes the word of the engine: a half whose data was received in
full has everything acknowledged, as long as no acknowledgement on the stream made a sum
that is too large for a word.

While the stream lives its halves stay, and their states go one way, on which the
terminal ones are the last. Once everything has stopped, a state changes in one case
only: the read that reports the end takes the half from the known size to the end. -/
theorem states_follow_course (side : Side) (own : TransportParameters) (ops : List Operation)
    (hops : ∀ op ∈ ops, op.Fits) :
    let s := (new side own).after ops
    let fits (id : StreamId) := ∀ e ∈ (new side own).trace ops, e.AckFits id
    (∀ id st, s.streams.get? id = some st → st.Coherent (fits id)) ∧
      (∀ more : List Operation, (∀ op ∈ more, op.Fits) → ∀ id a b, s.status? id = some a →
        (s.after more).status? id = some b →
          a.Moves b ∧
          (∀ state, a.send = some state → state.isTerminal = true → b.send = some state) ∧
          ∀ state, a.recv = some state → state.isTerminal = true → b.recv = some state) ∧
      (.freeze ∈ ops → ∀ op id,
        (s.entry op).ReadsEnd id ∧ (∃ send, s.status? id = some ⟨send, some .sizeKnown⟩ ∧
            (s.perform op).2.status? id = some ⟨send, some .dataRecvd⟩) ∨
          ¬ (s.entry op).ReadsEnd id ∧ (s.perform op).2.status? id = s.status? id) := by
  intro s fits
  have hs : s.Orderly := orderly_after (orderly_new side own) hops
  have hq : s.Queued := queued_after side own hops
  -- coherence, the moves with what is final, and what remains to happen after a freeze
  refine ⟨fun id st hget => coherent_after hops hget, fun more hmore id a b ha hb => ?_,
    fun hfreeze op id => ?_⟩
  · obtain ⟨st, hget, rfl⟩ := Option.map_eq_some_iff.1 ha
    obtain ⟨st', hget', rfl⟩ := Option.map_eq_some_iff.1 hb
    have hmoves := moves_after hs hq hmore hget hget'
    exact ⟨hmoves,
      fun _ hsend hend => eq_some_of_rel hmoves.send hsend fun _ h => h.eq_of_isTerminal hend,
      fun _ hrecv hend => eq_some_of_rel hmoves.recv hrecv fun _ h => h.eq_of_isTerminal hend⟩
  · exact status?_perform_of_frozen (frozen_after (orderly_new side own) hops hfreeze) op id

/-- The peer sends a whole stream in two pieces, the second of which repeats a byte;
two writes go the other way, of which the second ends our half, and one of the bytes is
acknowledged; one byte is read, and everything stops. -/
def stoppedShort : List Operation :=
  [.handshakeCompleted {}, .streamData ⟨0⟩ 0 [1, 2] false, .streamData ⟨0⟩ 1 [2, 3] true,
    .write ⟨0⟩ [4] false, .write ⟨0⟩ [5] true, .streamAcked ⟨0⟩ 1, .read ⟨0⟩ 1, .freeze]

/-- The next write is refused. The rest is read, which ends the half, and once more,
which is refused. -/
theorem states_follow_course_stopped :
    let s := (new .server {}).after stoppedShort
    let fits := ∀ e ∈ (new .server {}).trace stoppedShort, e.AckFits ⟨0⟩
    let more := [.write ⟨0⟩ [6] true, .read ⟨0⟩ 9, .read ⟨0⟩ 9]
    (∀ op ∈ stoppedShort, op.Fits) ∧ (∀ op ∈ more, op.Fits) ∧ .freeze ∈ stoppedShort ∧
      s.status? ⟨0⟩ = some ⟨some .dataSent, some .sizeKnown⟩ ∧
      (fits ∧ ∃ st, s.streams.get? ⟨0⟩ = some st ∧ st.Coherent fits) ∧
      (s.after more).status? ⟨0⟩ = some ⟨some .dataSent, some .dataRecvd⟩ ∧
      StreamStatus.Moves ⟨some .dataSent, some .sizeKnown⟩ ⟨some .dataSent, some .dataRecvd⟩ ∧
      (s.entry (.read ⟨0⟩ 9)).ReadsEnd ⟨0⟩ ∧
      (s.perform (.read ⟨0⟩ 9)).2.status? ⟨0⟩ = some ⟨some .dataSent, some .dataRecvd⟩ := by
  intro s fits more
  have hfits : fits := by decide
  have hops : ∀ op ∈ stoppedShort, op.Fits := by decide
  have hmore : ∀ op ∈ more, op.Fits := by decide
  have hfreeze : .freeze ∈ stoppedShort := by simp [stoppedShort]
  have hbefore : s.status? ⟨0⟩ = some ⟨some .dataSent, some .sizeKnown⟩ := by decide
  have hafter : (s.after more).status? ⟨0⟩ = some ⟨some .dataSent, some .dataRecvd⟩ := by decide
  have hends : (s.entry (.read ⟨0⟩ 9)).ReadsEnd ⟨0⟩ := ⟨9, ⟨[2, 3], true⟩, rfl, by rfl, rfl⟩
  obtain ⟨hcoherent, hmoves, hfrozen⟩ := states_follow_course .server {} stoppedShort hops
  obtain ⟨st, hget, -⟩ := Option.map_eq_some_iff.1 hbefore
  refine ⟨hops, hmore, hfreeze, hbefore, ⟨hfits, st, hget, hcoherent _ st hget⟩, hafter,
    (hmoves more hmore _ _ _ hbefore hafter).1, hends, ?_⟩
  rcases hfrozen hfreeze (.read ⟨0⟩ 9) ⟨0⟩ with ⟨-, send, hknown, hended⟩ | ⟨hnot, -⟩
  · obtain rfl := (StreamStatus.mk.inj (Option.some.inj (hbefore.symm.trans hknown))).1
    exact hended
  · exact absurd hends hnot

/-- Four bytes and the end are acknowledged. The peer has not ended its half, so the
stream lives on, and the engine reports as many bytes as a word can say. -/
def ackedTwice : List Operation :=
  [.handshakeCompleted {}, .streamData ⟨0⟩ 0 [1] false, .write ⟨0⟩ [1, 2, 3, 4] true,
    .streamAcked ⟨0⟩ 4, .streamAcked ⟨0⟩ maxWord]

/-- The half has ended with everything acknowledged, and now a byte is missing. -/
theorem received_not_acked :
    (∀ op ∈ ackedTwice, op.Fits) ∧
      (((new .server {}).after ackedTwice).sendHalf? ⟨0⟩).map (fun h =>
        (h.state, h.buffer.accepted, h.buffer.acked)) = some (.dataRecvd, 4, 3) := by
  decide

end StreamSet

end QuicHost
