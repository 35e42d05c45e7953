import QuicHost.Proofs.Connection.Closing
import QuicHost.Proofs.Stream.Histories
import QuicHost.Proofs.Stream.Predicting
import QuicHost.Proofs.Table

/-!
# Whoever is refused leaves no trace

An application asks for something (`Request`) and is refused. Then nothing has happened:
not to the connection, not to its streams and events, not to the engine and not to the
state of the application (`refusal_leaves_no_trace`). One refusal has an effect, on which
the application may rely: a write that finds no credit waits for it (`await`), and its
stream is reported writable when credit comes.

Whether a stream waits is told by its mark and by the queue, and these agree throughout a
session, whatever the host does and the engine reports (`Queued`).
-/

namespace QuicHost

/-! ## Calls on streams

A call that is refused has found out so before it changed anything. Only a write that
finds no credit has parked its stream by then. -/

namespace StreamSet

section

variable {s : StreamSet} {id : StreamId} {e : CallError}

/-- A stream waits for credit: it is marked, and stands at the end of the queue, unless
it stands in the queue already. -/
def await (s : StreamSet) (id : StreamId) : StreamSet :=
  if id ∈ s.parked then s
  else { s with
    streams := s.streams.modify id fun st =>
      { st with send := st.send.map ({ · with blocked := true }) }
    parked := s.parked ++ [id] }

theorem openStream_refused {d : Direction} (h : (s.openStream d).1 = .error e) :
    s.openStream d = (.error e, s) := by
  rcases s.openStream_deeds d with ⟨-, hsame⟩ | ⟨id, hok, -⟩
  · exact Prod.ext h hsame
  · rw [hok] at h
    cases h

/-- The streams are as they were when nothing can be read. -/
theorem read_refused {maxLen : Nat} (h : (s.read id maxLen).1 = .error e) :
    s.read id maxLen = (.error e, s) := by
  refine Prod.ext h ?_
  revert h
  rw [read]
  split
  · exact fun _ => rfl
  split
  · exact fun _ => rfl
  split
  · exact fun _ => rfl
  dsimp only
  split
  · split
    · exact fun _ => rfl
    · intro h
      cases h
  split
  · exact fun _ => rfl
  split
  · exact fun _ => rfl
  · intro h
    cases h

/-- The streams are as they were when nothing can be abandoned. -/
theorem resetStream_refused (h : (s.resetStream id).1 = .error e) :
    s.resetStream id = (.error e, s) := by
  rcases s.resetStream_deeds id with ⟨-, hsame⟩ | ⟨hok, -⟩
  · exact Prod.ext h hsame
  · rw [hok] at h
    cases h

theorem stopSending_refused (h : (s.stopSending id).1 = .error e) :
    s.stopSending id = (.error e, s) := by
  rcases s.stopSending_deeds id with ⟨-, hsame⟩ | ⟨⟨n, hok⟩, -⟩
  · exact Prod.ext h hsame
  · rw [hok] at h
    cases h

/-- Whoever is parked waits: their mark tells whether they stand in the queue. -/
theorem park_eq_await (hq : s.Queued) {h : SendHalf} (hfrozen : s.frozen = false)
    (hsend : s.sendHalf? id = some h) : s.park id h = s.await id := by
  obtain ⟨st, hget, hst⟩ := sendHalf?_eq_some hsend
  have hmark := hq.blocked hfrozen hsend
  rw [park, await]
  by_cases hblocked : h.blocked = true
  · rw [if_pos hblocked, if_pos (hmark.1 hblocked)]
  · have hmarked (st' : Stream) (hget' : s.streams.get? id = some st') :
        { st' with send := some { h with blocked := true } } =
          { st' with send := st'.send.map ({ · with blocked := true }) } := by
      obtain rfl := Option.some.inj (hget.symm.trans hget')
      rw [hst]
      rfl
    rw [if_neg hblocked, if_neg (mt hmark.2 hblocked), setSend, Table.modify_congr hmarked]

/-- A write that is refused for want of credit parks its stream. A stream that stands in the
queue is marked already, so that parking it again leaves no trace. -/
theorem write_refused (hq : s.Queued) {data : Bytes} {fin : Bool}
    (h : (s.write id data fin).1 = .error e) :
    s.write id data fin = (.error e, if e = .flowControlBlocked then s.await id else s) := by
  refine Prod.ext h ?_
  cases hhalf : s.writableHalf id with
  | error e' =>
    rw [write_of_writableHalf hhalf] at h ⊢
    obtain rfl := Except.error.inj h
    exact (if_neg (ne_blocked_of_writableHalf hhalf)).symm
  | ok half =>
    obtain ⟨-, st, hget, hst⟩ := writableHalf_eq_ok hhalf
    have hpark := park_eq_await hq (frozen_of_writableHalf hhalf)
      ((sendHalf?_of_get? hget).trans hst)
    rw [write, hhalf] at h ⊢
    dsimp only at h ⊢
    split at h
    · next hblocked =>
      obtain rfl := Except.error.inj h
      rw [if_pos hblocked, if_pos hblocked.1]
      exact hpark
    · cases h

end

end StreamSet

namespace Connection

open StreamSet

variable {ε σ : Type}

/-! ## What a refusal leaves

A connection adds nothing to what its streams do on a refused call: no event is queued,
nothing is delivered and the engine is not told. -/

variable {c : Connection ε σ} {w : σ} {id : StreamId} {e : CallError}

/-- A connection that opens no stream is as it was. -/
theorem openStream_refused {d : Direction} (h : (c.openStream d).1 = .error e) :
    c.openStream d = (.error e, c) := by
  revert h
  rw [openStream]
  split
  · intro h
    obtain rfl := Except.error.inj h
    rfl
  rcases hcall : c.streams.openStream d with ⟨e' | id, s⟩
  · obtain ⟨-, rfl⟩ :=
      Prod.mk.inj (hcall.symm.trans (StreamSet.openStream_refused (congrArg Prod.fst hcall)))
    intro h
    obtain rfl := Except.error.inj h
    rfl
  · intro h
    cases h

section

variable [PacketEngine ε]

/-- A connection that accepts no bytes is as it was, but for the stream that waits. -/
theorem write_refused (hq : c.streams.Queued) {data : Bytes} {fin : Bool}
    (h : (c.write id data fin).1 = .error e) : c.write id data fin = (.error e,
      if e = .flowControlBlocked then { c with streams := c.streams.await id } else c) := by
  revert h
  rw [write]
  split
  · intro h
    obtain rfl := Except.error.inj h
    rfl
  rcases hcall : c.streams.write id data fin with ⟨e' | out, s⟩
  · obtain ⟨-, rfl⟩ :=
      Prod.mk.inj (hcall.symm.trans (StreamSet.write_refused hq (congrArg Prod.fst hcall)))
    intro h
    obtain rfl := Except.error.inj h
    dsimp only
    split <;> rfl
  · dsimp only
    split <;> (intro h; cases h)

/-- A connection that hands out no bytes is as it was, and delivers nothing. -/
theorem read_refused {maxLen : Nat} (h : (c.read id maxLen w).1.1 = .error e) :
    c.read id maxLen w = ((.error e, c), w) := by
  revert h
  rw [read]
  rcases hcall : c.streams.read id maxLen with ⟨e' | out, s⟩
  · obtain ⟨-, rfl⟩ :=
      Prod.mk.inj (hcall.symm.trans (StreamSet.read_refused (congrArg Prod.fst hcall)))
    intro h
    obtain rfl := Except.error.inj h
    rfl
  · intro h
    cases h

/-- A connection that abandons nothing is as it was, and delivers nothing. -/
theorem resetStream_refused {errorCode : Nat}
    (h : (c.resetStream id errorCode w).1.1 = .error e) :
    c.resetStream id errorCode w = ((.error e, c), w) := by
  revert h
  rw [resetStream]
  split
  · intro h
    obtain rfl := Except.error.inj h
    rfl
  rcases hcall : c.streams.resetStream id with ⟨e' | _, s⟩
  · obtain ⟨-, rfl⟩ :=
      Prod.mk.inj (hcall.symm.trans (StreamSet.resetStream_refused (congrArg Prod.fst hcall)))
    intro h
    obtain rfl := Except.error.inj h
    rfl
  · intro h
    cases h

/-- A connection that stops nothing is as it was, and delivers nothing. -/
theorem stopSending_refused {errorCode : Nat}
    (h : (c.stopSending id errorCode w).1.1 = .error e) :
    c.stopSending id errorCode w = ((.error e, c), w) := by
  revert h
  rw [stopSending]
  split
  · intro h
    obtain rfl := Except.error.inj h
    rfl
  rcases hcall : c.streams.stopSending id with ⟨e' | n, s⟩
  · obtain ⟨-, rfl⟩ :=
      Prod.mk.inj (hcall.symm.trans (StreamSet.stopSending_refused (congrArg Prod.fst hcall)))
    intro h
    obtain rfl := Except.error.inj h
    rfl
  · intro h
    cases h

/-- A connection that was closing already is as it was. -/
theorem close_refused {errorCode : Nat} {reason : Bytes} {now : Instant}
    (h : (c.close errorCode reason now w).1.1 = .error e) :
    c.close errorCode reason now w = ((.error e, c), w) := by
  revert h
  cases hstate : c.state with
  | closed =>
    simp only [close, hstate]
    intro h
    obtain rfl := Except.error.inj h
    rfl
  | _ =>
    simp only [close, hstate]
    intro h
    cases h

/-! ## Requests

The seven things that an application may ask for, as one function, so that a statement can
be about whatever was refused. -/

/-- What an application may ask of a connection. -/
inductive Request where
  /-- to open a stream -/
  | openStream (d : Direction)
  /-- to write -/
  | write (id : StreamId) (data : Bytes) (fin : Bool)
  /-- to read -/
  | read (id : StreamId) (maxLen : Nat)
  /-- to abandon a sending half -/
  | resetStream (id : StreamId) (errorCode : Nat)
  /-- to abandon a receiving half -/
  | stopSending (id : StreamId) (errorCode : Nat)
  /-- to be told how much could be written -/
  | sendCapacity (id : StreamId)
  /-- to close the connection -/
  | close (errorCode : Nat) (reason : Bytes) (now : Instant)

/-- The error of an answer that is one. -/
def error? {α : Type} : Except CallError α → Option CallError
  | .error e => some e
  | .ok _ => none

theorem error?_eq_some {α : Type} {r : Except CallError α} (h : error? r = some e) :
    r = .error e := by
  cases r with
  | error e' => exact congrArg Except.error (Option.some.inj h)
  | ok _ => cases h

/-- Asks for something. Answers the error with which it was refused, if it was. -/
def Moment.ask (m : Moment ε σ) : Request → Option CallError × Moment ε σ
  | .openStream d =>
    let (r, c) := m.connection.openStream d
    (error? r, ⟨c, m.world⟩)
  | .write id data fin =>
    let (r, c) := m.connection.write id data fin
    (error? r, ⟨c, m.world⟩)
  | .read id maxLen =>
    let ((r, c), w) := m.connection.read id maxLen m.world
    (error? r, ⟨c, w⟩)
  | .resetStream id errorCode =>
    let ((r, c), w) := m.connection.resetStream id errorCode m.world
    (error? r, ⟨c, w⟩)
  | .stopSending id errorCode =>
    let ((r, c), w) := m.connection.stopSending id errorCode m.world
    (error? r, ⟨c, w⟩)
  | .sendCapacity id => (error? (m.connection.sendCapacity id), m)
  | .close errorCode reason now =>
    let ((r, c), w) := m.connection.close errorCode reason now m.world
    (error? r, ⟨c, w⟩)

/-- How matters stand after a refusal: as before, except that a stream on which a write
was blocked waits for credit. -/
def Moment.afterRefusal (m : Moment ε σ) : Request → CallError → Moment ε σ
  | .write id _ _, .flowControlBlocked =>
    { m with connection.streams := m.connection.streams.await id }
  | _, _ => m

/-- Whoever is refused leaves the connection as it was, unless they wait for credit. -/
theorem ask_refused {m : Moment ε σ} (hq : m.connection.streams.Queued) {request : Request}
    (h : (m.ask request).1 = some e) : (m.ask request).2 = m.afterRefusal request e := by
  cases request with
  | openStream d =>
    rw [Moment.ask] at h ⊢
    rw [openStream_refused (error?_eq_some h)]
    rfl
  | write id data fin =>
    rw [Moment.ask] at h ⊢
    rw [write_refused hq (error?_eq_some h)]
    cases e <;> rfl
  | read id maxLen =>
    rw [Moment.ask] at h ⊢
    rw [read_refused (error?_eq_some h)]
    rfl
  | resetStream id errorCode =>
    rw [Moment.ask] at h ⊢
    rw [resetStream_refused (error?_eq_some h)]
    rfl
  | stopSending id errorCode =>
    rw [Moment.ask] at h ⊢
    rw [stopSending_refused (error?_eq_some h)]
    rfl
  | sendCapacity id => rfl
  | close errorCode reason now =>
    rw [Moment.ask] at h ⊢
    rw [close_refused (error?_eq_some h)]
    rfl

end

/-! ## The result

The queue and the marks agree throughout a session, so that waiting for credit is exactly
what a refused write leaves. -/

/-- **Whoever is refused leaves no trace.** Over any engine and from any connection that
may be reached, let an application ask for anything and be refused. Then the connection
with all its parts is as it was before, and so is the state of the application; except
that a stream on which a write was blocked is marked, and has joined the end of the queue
if it did not stand there before. -/
theorem refusal_leaves_no_trace [PacketEngine ε] (side : Side) (settings : ConnectionSettings)
    (scid dcid : ConnectionId) (engine : ε) (now : Instant) (w : σ) (past : List (Action ε σ))
    (hpast : ∀ e ∈ ((Session.begin side settings scid dcid engine now w).steps past).history,
      e.Fits) (request : Request) (e : CallError) :
    let m := ((Session.begin side settings scid dcid engine now w).steps past).moment
    (m.ask request).1 = some e → (m.ask request).2 = m.afterRefusal request e := by
  intro m
  have hbegun := Session.sound_begin side settings scid dcid engine now w
  have hkept : m.connection.streams.Orderly ∧ m.connection.streams.Queued := by
    refine Session.keeps_steps (P := fun s => s.Orderly ∧ s.Queued) (fun hop ⟨hs, hq⟩ =>
      ⟨orderly_perform hs hop, hq.steps hs (steps_perform _ hop)⟩) ?_ hbegun.fits past hpast
    rw [Session.streams_begin]
    exact ⟨orderly_new side _, queued_new side _⟩
  exact ask_refused hkept.2

/-- The credit of the connection is spent, and no further stream may be opened. -/
def spent : List (Action ScriptedEngine Unit) :=
  [.modifyEngine (·.expectDatagram (.ok [.handshakeCompleted
      { initialMaxData := 2, initialMaxStreamDataUni := 9, initialMaxStreamsUni := 1 }])),
    .ingest [] ⟨0⟩, .openStream .uni, .write ⟨2⟩ [1, 2] false]

/-- Neither a stream nor a byte is to be had, and the stream waits. -/
theorem refusal_leaves_no_trace_spent :
    let m := ((Session.begin .client {} ⟨[], by decide⟩ ⟨[], by decide⟩
      ({} : ScriptedEngine) ⟨0⟩ ()).steps spent).moment
    (m.ask (.openStream .uni)).2 = m ∧
      (m.ask (.write ⟨2⟩ [3] true)).2 =
        { m with connection.streams := m.connection.streams.await ⟨2⟩ } ∧
      m.connection.streams.parked = [] ∧
      (m.connection.streams.await ⟨2⟩).parked = [⟨2⟩] := by
  have hrefused := refusal_leaves_no_trace .client {} ⟨[], by decide⟩ ⟨[], by decide⟩
    ({} : ScriptedEngine) ⟨0⟩ () spent (by decide)
  exact ⟨hrefused (.openStream .uni) .streamLimitExceeded (by decide),
    hrefused (.write ⟨2⟩ [3] true) .flowControlBlocked (by decide), by decide, by decide⟩

end Connection

end QuicHost
