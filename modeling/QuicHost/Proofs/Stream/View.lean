import Mathlib.Logic.Function.Basic
import Mathlib.Tactic.SplitIfs
import QuicHost.Stream.Calls
import QuicHost.Stream.Peer

/-!
# What an operation can change about streams

A `View` is what most statements about streams are about: the halves of every
stream and the two windows of the connection, without queues, counters and
events. In a view a stream that was not opened yet already stands as it will be
when it is opened, so that opening streams changes nothing. A stream that is
gone has no halves.

`Orderly` says that live streams were opened, under identifiers that fit a word.
It makes the view of a set determined by its live streams (`view_send_of_get?`,
`view_recv_of_get?`), and each of the steps that operations are made of is then
one change of the view.
-/

namespace QuicHost

/-- Whether the identifier fits a word, as every identifier on the wire does. -/
def StreamId.Fits (id : StreamId) : Prop := id.value ≤ maxWord

instance (id : StreamId) : Decidable id.Fits := inferInstanceAs (Decidable (_ ≤ _))

/-- The half without its place in the queue of those that wait for credit. -/
def SendHalf.plain (h : SendHalf) : SendHalf := { h with blocked := false }

/-! ## Views

What can be seen of a set of streams from the outside: both halves of every stream and the
windows of the connection. A stream that is not yet there is seen as it will be when it
comes, so that opening a stream does not show. -/

/-- The halves of all streams and the windows of the connection. -/
structure View where
  /-- the sending half of each stream -/
  send : StreamId → Option SendHalf
  /-- the receiving half of each stream -/
  recv : StreamId → Option RecvHalf
  /-- credit the peer granted for the whole connection -/
  sendWindow : SendWindow
  /-- credit we granted for the whole connection -/
  recvWindow : RecvWindow

namespace View

/-- Replaces a sending half. -/
def setSend (v : View) (id : StreamId) (h : SendHalf) : View :=
  { v with send := Function.update v.send id (some h) }

/-- Replaces a receiving half. -/
def setRecv (v : View) (id : StreamId) (h : RecvHalf) : View :=
  { v with recv := Function.update v.recv id (some h) }

/-- Removes a stream. -/
def drop (v : View) (id : StreamId) : View :=
  { v with send := Function.update v.send id none, recv := Function.update v.recv id none }

@[simp] theorem send_setSend (v : View) (id id' : StreamId) (h : SendHalf) :
    (v.setSend id h).send id' = if id' = id then some h else v.send id' := by
  simp [setSend, Function.update_apply]

@[simp] theorem recv_setSend (v : View) (id : StreamId) (h : SendHalf) :
    (v.setSend id h).recv = v.recv :=
  rfl

@[simp] theorem sendWindow_setSend (v : View) (id : StreamId) (h : SendHalf) :
    (v.setSend id h).sendWindow = v.sendWindow := rfl

@[simp] theorem recvWindow_setSend (v : View) (id : StreamId) (h : SendHalf) :
    (v.setSend id h).recvWindow = v.recvWindow := rfl

@[simp] theorem send_setRecv (v : View) (id : StreamId) (h : RecvHalf) :
    (v.setRecv id h).send = v.send :=
  rfl

@[simp] theorem recv_setRecv (v : View) (id id' : StreamId) (h : RecvHalf) :
    (v.setRecv id h).recv id' = if id' = id then some h else v.recv id' := by
  simp [setRecv, Function.update_apply]

@[simp] theorem sendWindow_setRecv (v : View) (id : StreamId) (h : RecvHalf) :
    (v.setRecv id h).sendWindow = v.sendWindow := rfl

@[simp] theorem recvWindow_setRecv (v : View) (id : StreamId) (h : RecvHalf) :
    (v.setRecv id h).recvWindow = v.recvWindow := rfl

@[simp] theorem setRecv_setRecv (v : View) (id : StreamId) (h h' : RecvHalf) :
    (v.setRecv id h).setRecv id h' = v.setRecv id h' := by
  simp [setRecv]

@[simp] theorem setSend_setSend (v : View) (id : StreamId) (h h' : SendHalf) :
    (v.setSend id h).setSend id h' = v.setSend id h' := by
  simp [setSend]

theorem setSend_of_eq {v : View} {id : StreamId} {h : SendHalf} (hv : v.send id = some h) :
    v.setSend id h = v := by
  simp [setSend, ← hv]

@[simp] theorem send_drop (v : View) (id id' : StreamId) :
    (v.drop id).send id' = if id' = id then none else v.send id' := by
  simp [drop, Function.update_apply]

@[simp] theorem recv_drop (v : View) (id id' : StreamId) :
    (v.drop id).recv id' = if id' = id then none else v.recv id' := by
  simp [drop, Function.update_apply]

@[simp] theorem sendWindow_drop (v : View) (id : StreamId) :
    (v.drop id).sendWindow = v.sendWindow :=
  rfl

@[simp] theorem recvWindow_drop (v : View) (id : StreamId) :
    (v.drop id).recvWindow = v.recvWindow :=
  rfl

/-- Whether a stream is over: its halves have ended, and nothing is left to read
or to count. -/
structure Done (v : View) (id : StreamId) : Prop where
  /-- the sending half has ended -/
  send : ∀ h, v.send id = some h → h.state.isTerminal = true
  /-- the receiving half has ended, and nothing is left of it -/
  recv : ∀ h, v.recv id = some h →
    h.state.isTerminal = true ∧ h.buffer.buffered = 0 ∧ h.stopped = false

/-- The views that may follow when the end of a stream is noticed: a stream that
is over may go. -/
inductive Reaped (v : View) (id : StreamId) : View → Prop where
  /-- the stream stays -/
  | kept : Reaped v id v
  /-- the stream was over and goes -/
  | gone : v.Done id → Reaped v id (v.drop id)

end View

namespace StreamSet

/-! ## The view of a set of streams

A stream that was used is seen as it is, or not at all when it is gone; any other as a new
one. The invariant under which this makes sense is that every live stream was used. -/

/-- Whether the stream was opened at some time. -/
def Used (s : StreamSet) (id : StreamId) : Prop := id.index < s.nextIndex id

instance (s : StreamSet) (id : StreamId) : Decidable (s.Used id) :=
  inferInstanceAs (Decidable (_ < _))

/-- A stream as it is, or as it will be when it is opened. -/
def peek (s : StreamSet) (id : StreamId) : Option Stream :=
  if s.Used id then s.streams.get? id else some (s.newStream id)

/-- The view of a set of streams. -/
def view (s : StreamSet) : View where
  send id := ((s.peek id).bind (·.send)).map SendHalf.plain
  recv id := (s.peek id).bind (·.recv)
  sendWindow := s.sendWindow
  recvWindow := s.recvWindow

/-- Live streams were opened, and identifiers are not exhausted beyond what can
be told. -/
structure Orderly (s : StreamSet) : Prop where
  /-- live streams were opened -/
  used : ∀ {id : StreamId} {st : Stream}, s.streams.get? id = some st → s.Used id
  /-- live streams have identifiers that fit a word -/
  fits : ∀ {id : StreamId} {st : Stream}, s.streams.get? id = some st → id.Fits
  /-- the indices of our own streams stay below what an identifier can hold -/
  nextLocal_le : ∀ d, s.nextLocal.get d ≤ 0x1000000000000000

theorem orderly_new (side : Side) (own : TransportParameters) :
    (StreamSet.new side own).Orderly where
  used h := by cases h
  fits h := by cases h
  nextLocal_le d := by cases d <;> exact Nat.zero_le _

section

variable {s : StreamSet} {id : StreamId} {st : Stream}

theorem peek_of_get? (hs : s.Orderly) (h : s.streams.get? id = some st) : s.peek id = some st := by
  rw [peek, if_pos (hs.used h), h]

theorem view_send_of_get? (hs : s.Orderly) (h : s.streams.get? id = some st) :
    s.view.send id = st.send.map SendHalf.plain := by
  simp only [view, peek_of_get? hs h, Option.bind_some]

theorem view_recv_of_get? (hs : s.Orderly) (h : s.streams.get? id = some st) :
    s.view.recv id = st.recv := by
  simp only [view, peek_of_get? hs h, Option.bind_some]

theorem view_send_of_send (hs : s.Orderly) (hget : s.streams.get? id = some st) {h : SendHalf}
    (hsend : st.send = some h) : s.view.send id = some h.plain := by
  rw [view_send_of_get? hs hget, hsend, Option.map_some]

theorem view_recv_of_recv (hs : s.Orderly) (hget : s.streams.get? id = some st) {h : RecvHalf}
    (hrecv : st.recv = some h) : s.view.recv id = some h := by
  rw [view_recv_of_get? hs hget, hrecv]

/-- What the view shows of a stream that was not opened yet: its halves are
fresh. -/
theorem peek_of_not_used (h : ¬ s.Used id) : s.peek id = some (s.newStream id) := if_neg h

/-- A stream that was never used is seen as it will be when it is opened. -/
theorem eq_of_view_recv_of_not_used {h : RecvHalf} (hused : ¬ s.Used id)
    (hrecv : s.view.recv id = some h) : h = .ofWindow (recvWindowFor s.side s.localParams id) := by
  simp only [view, peek_of_not_used hused, newStream, Option.bind_some] at hrecv
  split at hrecv
  · exact (Option.some.inj hrecv).symm
  · cases hrecv

/-- A stream that was never used is seen as it will be when it is opened. -/
theorem eq_of_view_send_of_not_used {h : SendHalf} (hused : ¬ s.Used id)
    (hsend : s.view.send id = some h) : h = .ofLimit (sendLimitFor s.side s.peerParams id) := by
  simp only [view, peek_of_not_used hused, newStream, Option.bind_some] at hsend
  split at hsend
  · exact (Option.some.inj hsend).symm
  · cases hsend

end

/-! ### The beginning

A new set of streams is orderly, and shows every stream as new. -/

section

variable {side : Side} {own : TransportParameters} {id : StreamId}

/-- Nothing has been used in a new set. -/
theorem not_used_new (side : Side) (own : TransportParameters) (id : StreamId) :
    ¬ (new side own).Used id := by
  have hnext : (new side own).nextIndex id = 0 := by
    simp only [nextIndex, new]
    cases id.direction <;> exact ite_self _
  rw [Used, hnext]
  exact Nat.not_lt_zero _

/-- In the beginning every receiving half is fresh. -/
theorem eq_of_view_recv_new {h : RecvHalf} (hrecv : (new side own).view.recv id = some h) :
    h = .ofWindow (recvWindowFor side own id) :=
  eq_of_view_recv_of_not_used (not_used_new side own id) hrecv

/-- In the beginning nothing may be sent. -/
theorem eq_of_view_send_new {h : SendHalf} (hsend : (new side own).view.send id = some h) :
    h = .ofLimit 0 :=
  eq_of_view_send_of_not_used (not_used_new side own id) hsend

end

/-! ### What waits to be read

The bytes that wait on all streams are those that wait on the live ones, for nothing waits
on a stream that is not there. -/

/-- The bytes of a stream that wait to be read. -/
def unread (s : StreamSet) (id : StreamId) : Bytes :=
  ((s.streams.get? id).bind (·.recv)).elim [] (·.buffer.contents)

/-- The number of bytes of a stream that wait to be read, as the stream counts
them. -/
def buffered (s : StreamSet) (id : StreamId) : Nat :=
  ((s.streams.get? id).bind (·.recv)).elim 0 (·.buffer.buffered)

/-- What is observed of a stream is what the view shows; a stream that was not
opened holds nothing. -/
theorem unread_eq {s : StreamSet} (hs : s.Orderly) (id : StreamId) :
    s.unread id = (s.view.recv id).elim [] (·.buffer.contents) ∧
      s.buffered id = (s.view.recv id).elim 0 (·.buffer.buffered) := by
  rw [unread, buffered]
  rcases hget : s.streams.get? id with _ | st
  · rcases hrecv : s.view.recv id with _ | h
    · exact ⟨rfl, rfl⟩
    · have hused : ¬ s.Used id := by
        intro hused
        simp only [view, peek, hused, ↓reduceIte, hget, Option.bind_none] at hrecv
        cases hrecv
      rw [eq_of_view_recv_of_not_used hused hrecv]
      exact ⟨rfl, rfl⟩
  · rw [view_recv_of_get? hs hget]
    exact ⟨rfl, rfl⟩

/-! ## Steps that leave the counters of identifiers alone

Most steps neither open a stream nor bring one back. What was used, and hence what is seen
of streams that are not live, is the same before and after them. -/

/-- What is settled between the two sides is the same in `s` and `s'`. -/
structure SameSetup (s s' : StreamSet) : Prop where
  side : s'.side = s.side
  localParams : s'.localParams = s.localParams
  peerParams : s'.peerParams = s.peerParams
  frozen : s'.frozen = s.frozen

namespace SameSetup

variable {s s' s'' : StreamSet}

theorem refl (s : StreamSet) : s.SameSetup s := ⟨rfl, rfl, rfl, rfl⟩

theorem trans (h : s.SameSetup s') (h' : s'.SameSetup s'') : s.SameSetup s'' :=
  ⟨h'.side.trans h.side, h'.localParams.trans h.localParams, h'.peerParams.trans h.peerParams,
    h'.frozen.trans h.frozen⟩

/-- What a stream is like when it is opened depends on the setup alone. -/
theorem newStream (h : s.SameSetup s') (id : StreamId) : s'.newStream id = s.newStream id := by
  simp only [StreamSet.newStream, h.side, h.localParams, h.peerParams]

end SameSetup

/-- `s'` may have lost streams of `s` and changed others, and has opened none. -/
structure Keeps (s s' : StreamSet) : Prop extends SameSetup s s' where
  nextLocal : s'.nextLocal = s.nextLocal
  nextRemote : s'.nextRemote = s.nextRemote
  localMax : s'.localMax = s.localMax
  /-- whoever is live now was live before -/
  live : ∀ {id : StreamId} {st' : Stream}, s'.streams.get? id = some st' →
    ∃ st, s.streams.get? id = some st

namespace Keeps

variable {s s' s'' : StreamSet}

theorem refl (s : StreamSet) : s.Keeps s := ⟨⟨rfl, rfl, rfl, rfl⟩, rfl, rfl, rfl, fun h => ⟨_, h⟩⟩

theorem trans (h : s.Keeps s') (h' : s'.Keeps s'') : s.Keeps s'' where
  toSameSetup := h.toSameSetup.trans h'.toSameSetup
  nextLocal := h'.nextLocal.trans h.nextLocal
  nextRemote := h'.nextRemote.trans h.nextRemote
  localMax := h'.localMax.trans h.localMax
  live hl := by
    obtain ⟨_, hl'⟩ := h'.live hl
    exact h.live hl'

/-- Which streams were used is a matter of the counters, which are kept. -/
theorem used_iff (h : s.Keeps s') (id : StreamId) : s'.Used id ↔ s.Used id := by
  simp only [Used, nextIndex, h.side, h.nextLocal, h.nextRemote]

/-- Order is about identifiers and counters, and both are kept. -/
theorem orderly (h : s.Keeps s') (hs : s.Orderly) : s'.Orderly where
  used hl := by
    obtain ⟨_, hl'⟩ := h.live hl
    exact (h.used_iff _).2 (hs.used hl')
  fits hl := by
    obtain ⟨_, hl'⟩ := h.live hl
    exact hs.fits hl'
  nextLocal_le d := by
    rw [h.nextLocal]
    exact hs.nextLocal_le d

/-- The view after a step that opens no stream is determined by what the step
does to live streams. -/
theorem peek_eq (h : s.Keeps s') (id : StreamId) :
    s'.peek id = if s.Used id then s'.streams.get? id else some (s.newStream id) := by
  simp only [peek, h.used_iff, h.toSameSetup.newStream]

end Keeps

/-! ## The elementary steps

Each step that operations are made of, with what it does to the view. Replacing a half
replaces what is seen of it. Everything that is about events, the queue or the counting of
streams does not show. -/

section

variable {s : StreamSet} {id : StreamId} {st : Stream}

/-- A change to a stream that is there neither opens nor removes one. -/
theorem keeps_modify (s : StreamSet) (id : StreamId) (f : Stream → Stream) :
    s.Keeps { s with streams := s.streams.modify id f } where
  toSameSetup := ⟨rfl, rfl, rfl, rfl⟩
  nextLocal := rfl
  nextRemote := rfl
  localMax := rfl
  live {id' st'} hl := by
    rw [Table.get?_modify] at hl
    split at hl
    · obtain ⟨st, hst, -⟩ := Option.map_eq_some_iff.1 hl
      exact ⟨st, hst⟩
    · exact ⟨st', hl⟩

theorem keeps_setSend (s : StreamSet) (id : StreamId) (h : SendHalf) : s.Keeps (s.setSend id h) :=
  keeps_modify s id _

theorem keeps_setRecv (s : StreamSet) (id : StreamId) (h : RecvHalf) : s.Keeps (s.setRecv id h) :=
  keeps_modify s id _

/-- Changing a live stream changes what is seen of it and of no other stream. -/
theorem peek_modify (hs : s.Orderly) (hget : s.streams.get? id = some st) (f : Stream → Stream)
    (id' : StreamId) :
    { s with streams := s.streams.modify id f }.peek id' =
      if id' = id then some (f st) else s.peek id' := by
  rw [(keeps_modify s id f).peek_eq, Table.get?_modify]
  by_cases h : id' = id
  · subst h
    simp only [if_pos (hs.used hget), hget, ↓reduceIte, Option.map_some]
  · simp only [h, ↓reduceIte, peek]

/-- The half that is put into the set is the half that is seen. -/
theorem view_setSend (hs : s.Orderly) (hget : s.streams.get? id = some st) (h : SendHalf) :
    (s.setSend id h).view = s.view.setSend id h.plain := by
  have hpeek := peek_modify hs hget fun st => { st with send := some h }
  have hrecv := view_recv_of_get? hs hget
  simp only [view, View.mk.injEq, View.setSend, setSend, and_true]
  refine ⟨funext fun id' => ?_, funext fun id' => ?_⟩
  · rw [hpeek id', Function.update_apply]
    split <;> simp
  · rw [hpeek id']
    split
    · next h => subst h; simpa [view] using hrecv.symm
    · rfl

/-- The half that is put into the set is the half that is seen. -/
theorem view_setRecv (hs : s.Orderly) (hget : s.streams.get? id = some st) (h : RecvHalf) :
    (s.setRecv id h).view = s.view.setRecv id h := by
  have hpeek := peek_modify hs hget fun st => { st with recv := some h }
  have hsend := view_send_of_get? hs hget
  simp only [view, View.mk.injEq, View.setRecv, setRecv, and_true]
  refine ⟨funext fun id' => ?_, funext fun id' => ?_⟩
  · rw [hpeek id']
    split
    · next h => subst h; simpa [view] using hsend.symm
    · rfl
  · rw [hpeek id', Function.update_apply]
    split <;> simp

/-! ### Queues, events and counters

None of these is part of a view. -/

theorem view_events (s : StreamSet) (events : List Event) :
    ({ s with events := events } : StreamSet).view = s.view := rfl

@[simp] theorem view_emit (s : StreamSet) (e : Event) : (s.emit e).view = s.view := rfl

@[simp] theorem view_takeEvents (s : StreamSet) : s.takeEvents.2.view = s.view := rfl

@[simp] theorem view_unpark (s : StreamSet) (id : StreamId) : (s.unpark id).view = s.view := rfl

@[simp] theorem view_freeze (s : StreamSet) : s.freeze.view = s.view := rfl

theorem keeps_sendWindow (s : StreamSet) (w : SendWindow) : s.Keeps { s with sendWindow := w } :=
  ⟨⟨rfl, rfl, rfl, rfl⟩, rfl, rfl, rfl, fun h => ⟨_, h⟩⟩

theorem keeps_recvWindow (s : StreamSet) (w : RecvWindow) : s.Keeps { s with recvWindow := w } :=
  ⟨⟨rfl, rfl, rfl, rfl⟩, rfl, rfl, rfl, fun h => ⟨_, h⟩⟩

theorem keeps_events (s : StreamSet) (events : List Event) : s.Keeps { s with events := events } :=
  ⟨⟨rfl, rfl, rfl, rfl⟩, rfl, rfl, rfl, fun h => ⟨_, h⟩⟩

theorem keeps_emit (s : StreamSet) (e : Event) : s.Keeps (s.emit e) := keeps_events s _

theorem keeps_unpark (s : StreamSet) (id : StreamId) : s.Keeps (s.unpark id) :=
  ⟨⟨rfl, rfl, rfl, rfl⟩, rfl, rfl, rfl, fun h => ⟨_, h⟩⟩

theorem keeps_takeEvents (s : StreamSet) : s.Keeps s.takeEvents.2 := keeps_events s []

/-- Parking a stream marks it and queues it, and opens or removes nothing. -/
theorem keeps_park (s : StreamSet) (id : StreamId) (h : SendHalf) : s.Keeps (s.park id h) := by
  rw [park]
  split
  · exact .refl s
  · exact (keeps_setSend s id { h with blocked := true }).trans
      ⟨⟨rfl, rfl, rfl, rfl⟩, rfl, rfl, rfl, fun h => ⟨_, h⟩⟩

/-- Neither the mark of a parked stream nor the queue is in view. -/
theorem view_park (hs : s.Orderly) (hget : s.streams.get? id = some st) {h : SendHalf}
    (hsend : st.send = some h) : (s.park id h).view = s.view := by
  rw [park]
  split
  · rfl
  · have hview := view_send_of_send hs hget hsend
    exact (view_setSend hs hget _).trans (View.setSend_of_eq hview)

theorem keeps_abandonSend (s : StreamSet) (id : StreamId) (h : SendHalf) :
    s.Keeps (s.abandonSend id h) := by
  simp only [abandonSend]
  split
  · exact (keeps_setSend s id _).trans (keeps_unpark _ id)
  · exact keeps_setSend s id _

theorem view_abandonSend (hs : s.Orderly) (hget : s.streams.get? id = some st) (h : SendHalf) :
    (s.abandonSend id h).view = s.view.setSend id h.abandon := by
  simp only [abandonSend]
  split
  · rw [view_unpark, view_setSend hs hget]; rfl
  · rw [view_setSend hs hget]; rfl

theorem keeps_raisePeerMax (s : StreamSet) (d : Direction) (n : Nat) :
    s.Keeps (s.raisePeerMax d n) := by
  simp only [raisePeerMax, announceAvailable]
  split_ifs <;> exact ⟨⟨rfl, rfl, rfl, rfl⟩, rfl, rfl, rfl, fun h => ⟨_, h⟩⟩

@[simp] theorem view_raisePeerMax (s : StreamSet) (d : Direction) (n : Nat) :
    (s.raisePeerMax d n).view = s.view := by
  simp only [raisePeerMax, announceAvailable]
  split_ifs <;> rfl

/-! ### Waking

Waking walks through the queue and takes marks away. The mark is the one part of a sending
half that is not in view. -/

/-- Waking the parked streams takes marks away and tells of it. -/
theorem keeps_wakeParked (s : StreamSet) : s.Keeps s.wakeParked := by
  rw [wakeParked]
  split
  · exact .refl s
  · refine ⟨⟨rfl, rfl, rfl, rfl⟩, rfl, rfl, rfl, fun hl => ?_⟩
    rw [Table.get?_map] at hl
    obtain ⟨st, hst, -⟩ := Option.map_eq_some_iff.1 hl
    exact ⟨st, hst⟩

/-- Waking is not in view: by induction on the queue, each step takes a mark away. -/
@[simp] theorem view_wakeParked (s : StreamSet) : s.wakeParked.view = s.view := by
  have hkeeps := keeps_wakeParked s
  by_cases hcredit : s.sendWindow.credit = 0
  · rw [wakeParked, if_pos hcredit]
  have hpeek : ∀ id, s.wakeParked.peek id = (s.peek id).map fun st =>
      if s.Used id ∧ id ∈ s.parked.filter (fun id => (s.streamCredit? id).any (0 < ·)) then
        { st with send := st.send.map ({ · with blocked := false }) } else st := by
    intro id
    rw [hkeeps.peek_eq, peek, wakeParked, if_neg hcredit]
    by_cases hused : s.Used id
    · simp only [hused, ↓reduceIte, Table.get?_map, true_and]
    · simp only [hused, ↓reduceIte, false_and, Option.map_some]
  have hwindow : s.wakeParked.sendWindow = s.sendWindow ∧
      s.wakeParked.recvWindow = s.recvWindow := by
    rw [wakeParked, if_neg hcredit]
    exact ⟨rfl, rfl⟩
  simp only [view, View.mk.injEq, hwindow, and_true, hpeek]
  refine ⟨funext fun id => ?_, funext fun id => ?_⟩
  · rcases s.peek id with _ | ⟨_ | h, _⟩
    · rfl
    · simp only [Option.map_some, Option.bind_some]
      split <;> rfl
    · simp only [Option.map_some, Option.bind_some]
      split <;> rfl
  · rcases s.peek id with _ | st
    · rfl
    · simp only [Option.map_some, Option.bind_some]
      split <;> rfl

/-! ### Reaping

A stream that is done on both sides is removed. In view it is gone, for it was used. -/

/-- What removing a stream may change: the table, the counts of live streams, and what is to
be told. -/
theorem removeStream_eq (s : StreamSet) (id : StreamId) : ∃ liveLocal liveRemote events,
    s.removeStream id = { s with
      streams := s.streams.erase id
      liveLocal := liveLocal
      liveRemote := liveRemote
      events := events } := by
  simp only [removeStream, announceAvailable]
  split_ifs <;> exact ⟨_, _, _, rfl⟩

/-- A stream that is removed was used, and stays so. -/
theorem keeps_reap (s : StreamSet) (id : StreamId) : s.Keeps (s.reap id) := by
  rw [reap]
  split
  · obtain ⟨l, r, ev, h⟩ := s.removeStream_eq id
    rw [h]
    refine ⟨⟨rfl, rfl, rfl, rfl⟩, rfl, rfl, rfl, fun {id' st'} hl => ?_⟩
    rw [Table.get?_erase] at hl
    split at hl
    · cases hl
    · exact ⟨st', hl⟩
  · exact .refl s

/-- A stream that is done is done in the view. -/
theorem done_of_isDone (hs : s.Orderly) (hget : s.streams.get? id = some st)
    (hdone : st.isDone = true) : s.view.Done id := by
  simp only [Stream.isDone, Stream.status, StreamStatus.isTerminal, Bool.and_eq_true,
    Option.all_eq_true, Option.map_eq_some_iff, RecvBuffer.isEmpty, beq_iff_eq,
    Bool.not_eq_true'] at hdone
  obtain ⟨⟨hsend, hrecv⟩, hrest⟩ := hdone
  constructor
  · intro h hh
    rw [view_send_of_get? hs hget] at hh
    obtain ⟨h', hh', rfl⟩ := Option.map_eq_some_iff.1 hh
    exact hsend _ ⟨h', hh', rfl⟩
  · intro h hh
    rw [view_recv_of_get? hs hget] at hh
    exact ⟨hrecv _ ⟨h, hh, rfl⟩, hrest h hh⟩

/-- Reaping does to the view what the relation says: the stream named is gone if it is done. -/
theorem reaped_reap (hs : s.Orderly) (id : StreamId) : s.view.Reaped id (s.reap id).view := by
  have hkeeps := keeps_reap s id
  rw [reap] at hkeeps ⊢
  split
  · next hdone =>
    rw [if_pos hdone] at hkeeps
    obtain ⟨st, hget, hdone⟩ := Option.any_eq_true _ _ |>.1 hdone
    obtain ⟨l, r, ev, heq⟩ := s.removeStream_eq id
    have hpeek : ∀ id', (s.removeStream id).peek id' = if id' = id then none else s.peek id' := by
      intro id'
      rw [hkeeps.peek_eq, heq, Table.get?_erase, peek]
      by_cases h : id' = id
      · subst h
        simp only [if_pos (hs.used hget), ↓reduceIte]
      · simp only [h, ↓reduceIte]
    have hview : (s.removeStream id).view = s.view.drop id := by
      have hwindow : (s.removeStream id).sendWindow = s.sendWindow ∧
          (s.removeStream id).recvWindow = s.recvWindow := by
        rw [heq]
        exact ⟨rfl, rfl⟩
      simp only [view, View.drop, View.mk.injEq, hwindow, and_true]
      refine ⟨funext fun id' => ?_, funext fun id' => ?_⟩ <;>
      · rw [hpeek id', Function.update_apply]
        split <;> rfl
    rw [hview]
    exact .gone (done_of_isDone hs hget hdone)
  · exact .kept

end

end StreamSet

end QuicHost
