import QuicHost.Proofs.Stream.Buffer
import QuicHost.Proofs.Stream.Halves

/-!
# Effects

For every call and every report, what it may answer and which view it leaves.
These relations say all that an operation does to the halves of streams and to
the windows of the connection, guards included; what is proved about runs is
proved from them, by one case for each way in which an operation can end.

That the operations have these effects is proved elsewhere (`onStreamData_outcome` and its
like). Here stands what follows from an effect alone: what an operation leaves alone.
-/

namespace QuicHost

namespace View

/-! ## Calls

What the application does, each call as a relation between its answer and the views before
and after it. A refused call leaves the view alone, whatever the reason. -/

/-- A write is refused, or it accepts what there is credit for. -/
inductive Write (v : View) (id : StreamId) (data : Bytes) (fin : Bool) :
    Except CallError WriteOutcome → View → Prop where
  /-- nothing was accepted -/
  | refused (e : CallError) : v.Write id data fin (.error e) v
  /-- the first `n` bytes were accepted, and the end with them if they are all -/
  | accepted {h : SendHalf} {n : Nat} : v.send id = some h → h.state.isWritable = true →
    n = min data.length (min h.window.credit v.sendWindow.credit) →
    v.Write id data fin (.ok ⟨data.take n, fin && decide (n = data.length)⟩)
      { v.setSend id (h.accept n (fin && decide (n = data.length))) with
        sendWindow := v.sendWindow.reserve n }

/-- A read is refused, or it takes bytes out of the buffer; they are credit for
the peer unless everything else has stopped. -/
inductive Read (v : View) (frozen : Bool) (id : StreamId) (maxLen : Nat) :
    Except CallError ReadOutcome → View → Prop where
  /-- nothing was read -/
  | refused (e : CallError) : v.Read frozen id maxLen (.error e) v
  /-- what was left was read -/
  | left {h : RecvHalf} : frozen = true → v.recv id = some h → h.isWaiting = false →
    v.Read frozen id maxLen (.ok (h.take maxLen).1) (v.setRecv id (h.take maxLen).2)
  /-- bytes were read -/
  | taken {h : RecvHalf} {v' : View} : frozen = false → v.recv id = some h →
      h.state.isTerminal = false →
    h.isWaiting = false →
    Reaped ((v.setRecv id ((h.take maxLen).2.release (h.take maxLen).1.data.length)).release
      (h.take maxLen).1.data.length) id v' →
    v.Read frozen id maxLen (.ok (h.take maxLen).1) v'

/-- Abandoning the sending half is refused, or the half ends. -/
inductive Reset (v : View) (id : StreamId) : Except CallError Unit → View → Prop where
  /-- nothing was abandoned -/
  | refused (e : CallError) : v.Reset id (.error e) v
  /-- the half was abandoned -/
  | abandoned {h : SendHalf} {v' : View} : v.send id = some h → h.state.isTerminal = false →
    Reaped (v.setSend id h.abandon) id v' → v.Reset id (.ok ()) v'

/-- Abandoning the receiving half is refused, or the half ends and what was not
read is credit for the peer. -/
inductive Stop (v : View) (id : StreamId) : Except CallError Nat → View → Prop where
  /-- nothing was abandoned -/
  | refused (e : CallError) : v.Stop id (.error e) v
  /-- the half was abandoned -/
  | abandoned {h : RecvHalf} {v' : View} : v.recv id = some h → h.state.isTerminal = false →
    Reaped ((v.setRecv id h.stop).release h.buffer.buffered) id v' →
    v.Stop id (.ok h.buffer.buffered) v'

/-! A refused call leaves the view alone. -/

theorem Read.eq_of_error {v v' : View} {frozen : Bool} {id : StreamId} {maxLen : Nat}
    {e : CallError} (h : v.Read frozen id maxLen (.error e) v') : v' = v := by
  cases h
  rfl

theorem Stop.eq_of_error {v v' : View} {id : StreamId} {e : CallError}
    (h : v.Stop id (.error e) v') : v' = v := by
  cases h
  rfl

/-! ## Reports

What the peer does. The order of the cases is the order in which the code decides, and
each case carries the guards that lead to it, so that a proof by cases knows why it is
where it is. -/

/-- Counting the peer's bytes up to an offset: either credit is overrun, or both
windows count. -/
inductive Count (v : View) (id : StreamId) (h : RecvHalf) (upTo : Nat) :
    Except TransportError RecvHalf → View → Prop where
  /-- the stream's credit does not reach as far -/
  | beyondStream : h.window.limit < upTo →
      v.Count id h upTo (.error (.violation .flowControlError)) v
  /-- the connection's credit does not reach as far -/
  | beyondConnection : upTo ≤ h.window.limit →
    v.recvWindow.limit < wrap (v.recvWindow.received + (upTo - h.window.received)) →
    v.Count id h upTo (.error (.violation .flowControlError)) (v.setRecv id (h.reach upTo))
  /-- the bytes were counted -/
  | counted : upTo ≤ h.window.limit →
    wrap (v.recvWindow.received + (upTo - h.window.received)) ≤ v.recvWindow.limit ∨
      upTo ≤ h.window.received →
    v.Count id h upTo (.ok (h.reach upTo))
      ((v.setRecv id (h.reach upTo)).receive (upTo - h.window.received))

/-- The half that counting answers with is the one that reaches the offset. -/
theorem Count.eq_reach {v v' : View} {id : StreamId} {h h' : RecvHalf} {upTo : Nat}
    (hc : v.Count id h upTo (.ok h') v') : h' = h.reach upTo := by
  cases hc
  rfl

/-- What is counted is within the limit of the stream. -/
theorem Count.le_limit {v v' : View} {id : StreamId} {h h' : RecvHalf} {upTo : Nat}
    (hc : v.Count id h upTo (.ok h') v') : upTo ≤ h.window.limit := by
  cases hc with
  | counted hle _ => exact hle

/-- What is counted on the stream arrives on the connection. -/
theorem Count.recvWindow_eq {v v' : View} {id : StreamId} {h h' : RecvHalf} {upTo : Nat}
    (hc : v.Count id h upTo (.ok h') v') :
    v'.recvWindow = v.recvWindow.arrive (upTo - h.window.received) := by
  cases hc
  rfl

/-- Counting on a stream that we asked the peer to stop: what is counted is
credit again. -/
inductive Settle (v : View) (id : StreamId) (h : RecvHalf) (upTo : Nat) (isFinal : Bool) :
    Except TransportError Nat → View → Prop where
  /-- the stream was said to end before what was counted -/
  | misplaced : isFinal = true → upTo < h.window.received →
    v.Settle id h upTo isFinal (.error (.violation .finalSizeError)) v
  /-- credit is overrun -/
  | overrun {e : TransportError} {v' : View} : v.Count id h upTo (.error e) v' →
    v.Settle id h upTo isFinal (.error e) v'
  /-- the bytes were counted -/
  | settled {v' v'' : View} : (isFinal = true → h.window.received ≤ upTo) →
    v.Count id h upTo (.ok (h.reach upTo)) v' →
    Reaped ((v'.setRecv id (h.settle upTo isFinal)).grant (upTo - h.window.received)) id v'' →
    v.Settle id h upTo isFinal (.ok (upTo - h.window.received)) v''

/-- Data is ignored or refused, counted on a stopped stream, or it runs into the
limits, does not fit, or goes into the buffer. -/
inductive Data (v : View) (frozen : Bool) (id : StreamId) (offset : Nat) (data : Bytes)
    (fin : Bool) :
    Except TransportError Nat → View → Prop where
  /-- everything has stopped, or the stream is gone or has ended -/
  | ignored : (∀ h, frozen = false → v.recv id = some h → h.stopped = false ∧
      h.state.isTerminal = true) →
    v.Data frozen id offset data fin (.ok 0) v
  /-- the stream, not opened so far, cannot be opened, or not sent on -/
  | refused {e : TransportError} : e = .violation .streamStateError ∨
      e = .violation .streamLimitError →
    (∀ h, v.recv id = some h → ∃ window, h = .ofWindow window) →
    v.Data frozen id offset data fin (.error e) v
  /-- no offset can express where the data ends -/
  | unsized {h : RecvHalf} : v.recv id = some h → maxWord < offset + data.length →
    v.Data frozen id offset data fin (.error (.violation .flowControlError)) v
  /-- the data was counted, or not, on a stopped stream -/
  | settled {h : RecvHalf} {r : Except TransportError Nat} {v' : View} : frozen = false →
    v.recv id = some h → offset + data.length ≤ maxWord → h.stopped = true →
    v.Settle id h (offset + data.length) fin r v' → v.Data frozen id offset data fin r v'
  /-- credit is overrun -/
  | overrun {h : RecvHalf} {e : TransportError} {v' : View} : v.recv id = some h →
    v.Count id h (offset + data.length) (.error e) v' →
    v.Data frozen id offset data fin (.error e) v'
  /-- the buffer refuses the data -/
  | misfit {h : RecvHalf} {e : TransportError} {v' : View} : v.recv id = some h →
    v.Count id h (offset + data.length) (.ok (h.reach (offset + data.length))) v' →
    h.buffer.insert offset data fin = .error e → h.stopped = false →
    v.Data frozen id offset data fin (.error e) v'
  /-- the data went into the buffer -/
  | filled {h : RecvHalf} {added : Nat} {buffer : RecvBuffer} {v' : View} : frozen = false →
    v.recv id = some h → h.stopped = false → h.state.isTerminal = false →
    v.Count id h (offset + data.length) (.ok (h.reach (offset + data.length))) v' →
    h.buffer.insert offset data fin = .ok (added, buffer) →
    v.Data frozen id offset data fin (.ok 0)
      (v'.setRecv id ((h.reach (offset + data.length)).fill buffer fin))

/-- That the peer abandoned its half is ignored or refused, settles a stopped
stream, contradicts what is known of the stream, runs into the limits, or ends
the half. -/
inductive PeerReset (v : View) (frozen : Bool) (id : StreamId) (finalSize : Nat) :
    Except TransportError Nat → View → Prop where
  /-- everything has stopped, or the stream is gone or has ended -/
  | ignored : (∀ h, frozen = false → v.recv id = some h → h.stopped = false ∧
      h.state.isTerminal = true) →
    v.PeerReset frozen id finalSize (.ok 0) v
  /-- the stream, not opened so far, cannot be opened, or not sent on -/
  | refused {e : TransportError} : e = .violation .streamStateError ∨
      e = .violation .streamLimitError →
    (∀ h, v.recv id = some h → ∃ window, h = .ofWindow window) →
    v.PeerReset frozen id finalSize (.error e) v
  /-- the length was counted, or not, on a stopped stream -/
  | settled {h : RecvHalf} {r : Except TransportError Nat} {v' : View} : frozen = false →
    v.recv id = some h → h.stopped = true → v.Settle id h finalSize true r v' →
    v.PeerReset frozen id finalSize r v'
  /-- the length lies before what was received, or is another than the one known -/
  | misplaced {h : RecvHalf} : v.recv id = some h →
    finalSize < h.window.received ∨ h.buffer.finalSize.any (· ≠ finalSize) = true →
    v.PeerReset frozen id finalSize (.error (.violation .finalSizeError)) v
  /-- credit is overrun -/
  | overrun {h : RecvHalf} {e : TransportError} {v' : View} : v.recv id = some h →
    v.Count id h finalSize (.error e) v' → v.PeerReset frozen id finalSize (.error e) v'
  /-- the half has ended -/
  | ended {h : RecvHalf} {v' v'' : View} : frozen = false → v.recv id = some h →
    h.stopped = false → h.state.isTerminal = false → h.window.received ≤ finalSize →
    h.buffer.finalSize.any (· ≠ finalSize) = false →
    v.Count id h finalSize (.ok (h.reach finalSize)) v' →
    Reaped ((v'.setRecv id (h.close finalSize)).release (finalSize - h.window.consumed)) id v'' →
    v.PeerReset frozen id finalSize (.ok (finalSize - h.window.consumed)) v''

/-- That the peer wants no more is ignored or refused, or our half is abandoned. -/
inductive PeerStop (v : View) (id : StreamId) : Except TransportError Bool → View → Prop where
  /-- everything has stopped, or the stream is gone or has ended -/
  | ignored : v.PeerStop id (.ok false) v
  /-- the stream cannot be opened, or we do not send on it -/
  | refused {e : TransportError} : e = .violation .streamStateError ∨
      e = .violation .streamLimitError →
    v.PeerStop id (.error e) v
  /-- our half was abandoned -/
  | abandoned {h : SendHalf} {v' : View} : v.send id = some h → h.state.isTerminal = false →
    Reaped (v.setSend id h.abandon) id v' → v.PeerStop id (.ok true) v'

/-- A limit for one stream is stale, or the limit rises. -/
inductive Raise (v : View) (id : StreamId) (limit : Nat) : View → Prop where
  /-- nothing changed -/
  | stale : v.Raise id limit v
  /-- the limit rose -/
  | raised {h : SendHalf} : v.send id = some h → h.window.limit < limit →
    v.Raise id limit (v.setSend id (h.extend limit))

/-- A limit for the connection is stale, or the limit rises. -/
inductive RaiseAll (v : View) (limit : Nat) : View → Prop where
  /-- nothing changed -/
  | stale : v.RaiseAll limit v
  /-- the limit rose -/
  | raised : v.RaiseAll limit { v with sendWindow := v.sendWindow.extend limit }

/-- An acknowledgement is ignored, or it is counted, which may end the half. -/
inductive Acked (v : View) (id : StreamId) (n : Nat) : View → Prop where
  /-- everything has stopped, or the stream is not live -/
  | ignored : v.Acked id n v
  /-- the bytes were counted -/
  | counted {h : SendHalf} {v' : View} : v.send id = some h →
    Reaped (v.setSend id (h.acknowledge n)) id v' → v.Acked id n v'

/-- Limits for sending were set, and nothing else has changed. -/
structure Handshake (v v' : View) : Prop where
  /-- every half gets a limit, and keeps all else -/
  send : ∀ id, ∃ limit, v'.send id = (v.send id).map fun h => { h with window.limit := limit }
  consumed : v'.sendWindow.consumed = v.sendWindow.consumed
  recv : v'.recv = v.recv
  recvWindow : v'.recvWindow = v.recvWindow

/-- Counting is refused for exceeding a limit, and for nothing else. -/
theorem Count.violation {v v' : View} {id : StreamId} {e : TransportError} {h : RecvHalf}
    {upTo : Nat} (hc : v.Count id h upTo (.error e) v') : e = .violation .flowControlError := by
  cases hc <;> rfl

/-! ## What is left alone

Operations on sending halves leave receiving halves alone, and the other way
round; but a stream that is over goes with both. -/

/-- Receiving halves and their window are as they were, but for streams that are
over. -/
structure SparesRecv (v v' : View) : Prop where
  recvWindow : v'.recvWindow = v.recvWindow
  /-- the half is the same, or the stream was done and is gone -/
  recv : ∀ id, v'.recv id = v.recv id ∨
    v'.recv id = none ∧ ∀ h, v.recv id = some h →
      h.state.isTerminal = true ∧ h.buffer.buffered = 0 ∧ h.stopped = false

/-- Sending halves and their window are as they were, but for streams that are
over. -/
structure SparesSend (v v' : View) : Prop where
  sendWindow : v'.sendWindow = v.sendWindow
  /-- the half is the same, or the stream was done and is gone -/
  send : ∀ id, v'.send id = v.send id ∨
    v'.send id = none ∧ ∀ h, v.send id = some h → h.state.isTerminal = true

section

variable {v v' v'' : View} {id : StreamId}

/-- Nothing is touched where both the window and the halves are as they were. -/
theorem sparesRecv_of_eq (hwindow : v'.recvWindow = v.recvWindow) (hrecv : v'.recv = v.recv) :
    v.SparesRecv v' :=
  ⟨hwindow, fun id => .inl (congrFun hrecv id)⟩

/-- Nothing is touched where both the window and the halves are as they were. -/
theorem sparesSend_of_eq (hwindow : v'.sendWindow = v.sendWindow) (hsend : v'.send = v.send) :
    v.SparesSend v' :=
  ⟨hwindow, fun id => .inl (congrFun hsend id)⟩

/-- No receiving half is new. -/
theorem SparesRecv.recv_eq (h : v.SparesRecv v') {half : RecvHalf}
    (hrecv : v'.recv id = some half) : v.recv id = some half := by
  rcases h.recv id with heq | ⟨hnone, -⟩
  · rw [← heq, hrecv]
  · rw [hnone] at hrecv
    cases hrecv

/-- No sending half is new. -/
theorem SparesSend.send_eq (h : v.SparesSend v') {half : SendHalf}
    (hsend : v'.send id = some half) : v.send id = some half := by
  rcases h.send id with heq | ⟨hnone, -⟩
  · rw [← heq, hsend]
  · rw [hnone] at hsend
    cases hsend

/-- Reaping removes at most a stream that is over, which both relations allow. -/
theorem Reaped.sparesRecv (h : v.Reaped id v') : v.SparesRecv v' := by
  cases h with
  | kept => exact sparesRecv_of_eq rfl rfl
  | gone hdone =>
    refine ⟨rfl, fun id' => ?_⟩
    rw [recv_drop]
    split
    · next heq =>
      subst heq
      exact .inr ⟨rfl, hdone.recv⟩
    · exact .inl rfl

/-- Removing a stream that is done spares the sending halves of the others. -/
theorem Reaped.sparesSend (h : v.Reaped id v') : v.SparesSend v' := by
  cases h with
  | kept => exact sparesSend_of_eq rfl rfl
  | gone hdone =>
    refine ⟨rfl, fun id' => ?_⟩
    rw [send_drop]
    split
    · next heq =>
      subst heq
      exact .inr ⟨rfl, hdone.send⟩
    · exact .inl rfl

theorem SparesRecv.of_eq (h : v'.SparesRecv v'') (hwindow : v'.recvWindow = v.recvWindow)
    (hrecv : v'.recv = v.recv) : v.SparesRecv v'' :=
  ⟨h.recvWindow.trans hwindow, fun id => by rw [← hrecv]; exact h.recv id⟩

theorem SparesSend.of_eq (h : v'.SparesSend v'') (hwindow : v'.sendWindow = v.sendWindow)
    (hsend : v'.send = v.send) : v.SparesSend v'' :=
  ⟨h.sendWindow.trans hwindow, fun id => by rw [← hsend]; exact h.send id⟩

theorem Write.sparesRecv {data : Bytes} {fin : Bool} {r : Except CallError WriteOutcome}
    (h : v.Write id data fin r v') : v.SparesRecv v' := by
  cases h <;> exact sparesRecv_of_eq rfl rfl

theorem Reset.sparesRecv {r : Except CallError Unit} (h : v.Reset id r v') : v.SparesRecv v' := by
  cases h with
  | refused e => exact sparesRecv_of_eq rfl rfl
  | abandoned _ _ hreaped => exact hreaped.sparesRecv.of_eq rfl rfl

theorem PeerStop.sparesRecv {r : Except TransportError Bool} (h : v.PeerStop id r v') :
    v.SparesRecv v' := by
  cases h with
  | ignored => exact sparesRecv_of_eq rfl rfl
  | refused _ => exact sparesRecv_of_eq rfl rfl
  | abandoned _ _ hreaped => exact hreaped.sparesRecv.of_eq rfl rfl

theorem Raise.sparesRecv {limit : Nat} (h : v.Raise id limit v') : v.SparesRecv v' := by
  cases h <;> exact sparesRecv_of_eq rfl rfl

theorem RaiseAll.sparesRecv {limit : Nat} (h : v.RaiseAll limit v') : v.SparesRecv v' := by
  cases h <;> exact sparesRecv_of_eq rfl rfl

theorem Acked.sparesRecv {n : Nat} (h : v.Acked id n v') : v.SparesRecv v' := by
  cases h with
  | ignored => exact sparesRecv_of_eq rfl rfl
  | counted _ hreaped => exact hreaped.sparesRecv.of_eq rfl rfl

theorem Handshake.sparesRecv (h : v.Handshake v') : v.SparesRecv v' :=
  sparesRecv_of_eq h.recvWindow h.recv

theorem Read.sparesSend {frozen : Bool} {maxLen : Nat} {r : Except CallError ReadOutcome}
    (h : v.Read frozen id maxLen r v') : v.SparesSend v' := by
  cases h with
  | refused e => exact sparesSend_of_eq rfl rfl
  | left _ _ _ => exact sparesSend_of_eq rfl rfl
  | taken _ _ _ _ hreaped => exact hreaped.sparesSend.of_eq rfl rfl

theorem Stop.sparesSend {r : Except CallError Nat} (h : v.Stop id r v') : v.SparesSend v' := by
  cases h with
  | refused e => exact sparesSend_of_eq rfl rfl
  | abandoned _ _ hreaped => exact hreaped.sparesSend.of_eq rfl rfl

theorem Count.sparesSend {h : RecvHalf} {upTo : Nat} {r : Except TransportError RecvHalf}
    (hc : v.Count id h upTo r v') : v'.sendWindow = v.sendWindow ∧ v'.send = v.send := by
  cases hc <;> exact ⟨rfl, rfl⟩

/-- Counting on a stopped stream touches nothing that is sent. -/
theorem Settle.sparesSend {h : RecvHalf} {upTo : Nat} {isFinal : Bool}
    {r : Except TransportError Nat} (hs : v.Settle id h upTo isFinal r v') : v.SparesSend v' := by
  cases hs with
  | misplaced _ _ => exact sparesSend_of_eq rfl rfl
  | overrun hcount => exact sparesSend_of_eq hcount.sparesSend.1 hcount.sparesSend.2
  | settled _ hcount hreaped =>
    exact hreaped.sparesSend.of_eq hcount.sparesSend.1 hcount.sparesSend.2

/-- Data that arrives touches nothing that is sent, whichever way it ends. -/
theorem Data.sparesSend {frozen : Bool} {offset : Nat} {data : Bytes} {fin : Bool}
    {r : Except TransportError Nat} (h : v.Data frozen id offset data fin r v') :
    v.SparesSend v' := by
  cases h with
  | ignored _ => exact sparesSend_of_eq rfl rfl
  | refused _ => exact sparesSend_of_eq rfl rfl
  | unsized _ _ => exact sparesSend_of_eq rfl rfl
  | settled _ _ _ _ hsettle => exact hsettle.sparesSend
  | overrun _ hcount => exact sparesSend_of_eq hcount.sparesSend.1 hcount.sparesSend.2
  | misfit _ hcount _ => exact sparesSend_of_eq hcount.sparesSend.1 hcount.sparesSend.2
  | filled _ _ _ _ hcount _ => exact sparesSend_of_eq hcount.sparesSend.1 hcount.sparesSend.2

/-- The end of the peer's half touches nothing that is sent. -/
theorem PeerReset.sparesSend {frozen : Bool} {finalSize : Nat} {r : Except TransportError Nat}
    (h : v.PeerReset frozen id finalSize r v') : v.SparesSend v' := by
  cases h with
  | ignored _ => exact sparesSend_of_eq rfl rfl
  | refused _ => exact sparesSend_of_eq rfl rfl
  | settled _ _ _ hsettle => exact hsettle.sparesSend
  | misplaced _ _ => exact sparesSend_of_eq rfl rfl
  | overrun _ hcount => exact sparesSend_of_eq hcount.sparesSend.1 hcount.sparesSend.2
  | ended _ _ _ _ _ _ hcount hreaped =>
    exact hreaped.sparesSend.of_eq hcount.sparesSend.1 hcount.sparesSend.2

end

/-! An operation on one stream leaves the receiving halves of the others alone.
-/

section

variable {v v' : View} {id id' : StreamId} (hne : id' ≠ id)

include hne

theorem Reaped.recv_of_ne (h : v.Reaped id v') : v'.recv id' = v.recv id' := by
  cases h with
  | kept => rfl
  | gone _ => rw [recv_drop, if_neg hne]

theorem Read.recv_of_ne {frozen : Bool} {maxLen : Nat} {r : Except CallError ReadOutcome}
    (h : v.Read frozen id maxLen r v') : v'.recv id' = v.recv id' := by
  cases h with
  | refused e => rfl
  | left _ _ _ => rw [recv_setRecv, if_neg hne]
  | taken _ _ _ _ hreaped => rw [hreaped.recv_of_ne hne, recv_release, recv_setRecv, if_neg hne]

theorem Stop.recv_of_ne {r : Except CallError Nat} (h : v.Stop id r v') :
    v'.recv id' = v.recv id' := by
  cases h with
  | refused e => rfl
  | abandoned _ _ hreaped => rw [hreaped.recv_of_ne hne, recv_release, recv_setRecv, if_neg hne]

theorem Count.recv_of_ne {h : RecvHalf} {upTo : Nat} {r : Except TransportError RecvHalf}
    (hc : v.Count id h upTo r v') : v'.recv id' = v.recv id' := by
  cases hc with
  | beyondStream _ => rfl
  | beyondConnection _ _ => rw [recv_setRecv, if_neg hne]
  | counted _ _ => rw [recv_receive, recv_setRecv, if_neg hne]

/-- Counting on a stopped stream touches no half of another stream. -/
theorem Settle.recv_of_ne {h : RecvHalf} {upTo : Nat} {isFinal : Bool}
    {r : Except TransportError Nat} (hs : v.Settle id h upTo isFinal r v') :
    v'.recv id' = v.recv id' := by
  cases hs with
  | misplaced _ _ => rfl
  | overrun hcount => exact hcount.recv_of_ne hne
  | settled _ hcount hreaped =>
    rw [hreaped.recv_of_ne hne, recv_grant, recv_setRecv, if_neg hne, hcount.recv_of_ne hne]

/-- Data touches no half of another stream, whichever way it ends. -/
theorem Data.recv_of_ne {frozen : Bool} {offset : Nat} {data : Bytes} {fin : Bool}
    {r : Except TransportError Nat} (h : v.Data frozen id offset data fin r v') :
    v'.recv id' = v.recv id' := by
  cases h with
  | ignored _ => rfl
  | refused _ => rfl
  | unsized _ _ => rfl
  | settled _ _ _ _ hsettle => exact hsettle.recv_of_ne hne
  | overrun _ hcount => exact hcount.recv_of_ne hne
  | misfit _ hcount _ => exact hcount.recv_of_ne hne
  | filled _ _ _ _ hcount _ => rw [recv_setRecv, if_neg hne, hcount.recv_of_ne hne]

/-- The end of the peer's half touches no half of another stream. -/
theorem PeerReset.recv_of_ne {frozen : Bool} {finalSize : Nat} {r : Except TransportError Nat}
    (h : v.PeerReset frozen id finalSize r v') : v'.recv id' = v.recv id' := by
  cases h with
  | ignored _ => rfl
  | refused _ => rfl
  | settled _ _ _ hsettle => exact hsettle.recv_of_ne hne
  | misplaced _ _ => rfl
  | overrun _ hcount => exact hcount.recv_of_ne hne
  | ended _ _ _ _ _ _ hcount hreaped =>
    rw [hreaped.recv_of_ne hne, recv_release, recv_setRecv, if_neg hne, hcount.recv_of_ne hne]

end

end View

end QuicHost
