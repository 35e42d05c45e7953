import QuicHost.Proofs.Stream.Outcome

/-!
# Runs of a set of streams

An `Operation` is one call of the application or one report of the engine. A run
performs operations one after the other; its trace keeps, for each, the streams
it met and what it answered.

Everything that is said about runs is proved from what one operation does, by induction
on the list of operations: `after_append` cuts a run in two, and `trace_eq_append` finds
for an entry of the trace the operations before it and those behind it. The first
invariant to be carried along is that streams stay orderly (`orderly_after`).
-/

namespace QuicHost.StreamSet

/-- What can be done with the streams of a connection. -/
inductive Operation where
  /-- the application opens a stream -/
  | openStream (d : Direction)
  /-- the application writes -/
  | write (id : StreamId) (data : Bytes) (fin : Bool)
  /-- the application reads -/
  | read (id : StreamId) (maxLen : Nat)
  /-- the application abandons a sending half -/
  | resetStream (id : StreamId)
  /-- the application abandons a receiving half -/
  | stopSending (id : StreamId)
  /-- the handshake is complete -/
  | handshakeCompleted (peer : TransportParameters)
  /-- the peer sent data -/
  | streamData (id : StreamId) (offset : Nat) (data : Bytes) (fin : Bool)
  /-- the peer abandoned its half -/
  | streamReset (id : StreamId) (errorCode finalSize : Nat)
  /-- the peer wants no more of a stream -/
  | peerStop (id : StreamId) (errorCode : Nat)
  /-- the peer raised the limit of a stream -/
  | maxStreamData (id : StreamId) (limit : Nat)
  /-- the peer raised the limit of the connection -/
  | maxData (limit : Nat)
  /-- the peer raised the number of streams -/
  | maxStreams (d : Direction) (n : Nat)
  /-- the peer acknowledged bytes -/
  | streamAcked (id : StreamId) (n : Nat)
  /-- the events are taken -/
  | takeEvents
  /-- the connection is over -/
  | freeze

/-- What an operation answers. -/
inductive Answer where
  /-- there is nothing to answer -/
  | none
  /-- answer to opening -/
  | opened (r : Except CallError StreamId)
  /-- answer to writing -/
  | written (r : Except CallError WriteOutcome)
  /-- answer to reading -/
  | read (r : Except CallError ReadOutcome)
  /-- answer to abandoning a sending half -/
  | abandoned (r : Except CallError Unit)
  /-- answer to abandoning a receiving half -/
  | stopped (r : Except CallError Nat)
  /-- answer to data and to an abandoned half: credit handed back -/
  | credited (r : Except TransportError Nat)
  /-- answer to the peer's wish for no more: whether our half was abandoned -/
  | peerStopped (r : Except TransportError Bool)
  /-- the events taken -/
  | events (taken : List Event)

/-- Performs one operation. -/
def perform (s : StreamSet) : Operation → Answer × StreamSet
  | .openStream d => (.opened (s.openStream d).1, (s.openStream d).2)
  | .write id data fin => (.written (s.write id data fin).1, (s.write id data fin).2)
  | .read id maxLen => (.read (s.read id maxLen).1, (s.read id maxLen).2)
  | .resetStream id => (.abandoned (s.resetStream id).1, (s.resetStream id).2)
  | .stopSending id => (.stopped (s.stopSending id).1, (s.stopSending id).2)
  | .handshakeCompleted peer => (.none, s.onHandshakeCompleted peer)
  | .streamData id offset data fin =>
    (.credited (s.onStreamData id offset data fin).1, (s.onStreamData id offset data fin).2)
  | .streamReset id errorCode finalSize =>
    (.credited (s.onStreamReset id errorCode finalSize).1,
      (s.onStreamReset id errorCode finalSize).2)
  | .peerStop id errorCode =>
    (.peerStopped (s.onStopSending id errorCode).1, (s.onStopSending id errorCode).2)
  | .maxStreamData id limit => (.none, s.onMaxStreamData id limit)
  | .maxData limit => (.none, s.onMaxData limit)
  | .maxStreams d n => (.none, s.onMaxStreams d n)
  | .streamAcked id n => (.none, s.onStreamAcked id n)
  | .takeEvents => (.events s.takeEvents.1, s.takeEvents.2)
  | .freeze => (.none, s.freeze)

/-- The streams after a run. -/
def after (s : StreamSet) (ops : List Operation) : StreamSet :=
  ops.foldl (fun s op => (s.perform op).2) s

/-- One step of a run. -/
structure Entry where
  /-- the streams before the step -/
  before : StreamSet
  /-- the operation performed -/
  op : Operation
  /-- its answer -/
  answer : Answer

/-- The step that performs an operation. -/
def entry (s : StreamSet) (op : Operation) : Entry := ⟨s, op, (s.perform op).1⟩

/-- The steps of a run. -/
def trace (s : StreamSet) : List Operation → List Entry
  | [] => []
  | op :: rest => ⟨s, op, (s.perform op).1⟩ :: (s.perform op).2.trace rest

/-- Whether the peer names its stream by an identifier that fits a word. -/
def Operation.Fits : Operation → Prop
  | .streamData id _ _ _ => id.Fits
  | .streamReset id _ _ => id.Fits
  | .peerStop id _ => id.Fits
  | _ => True

instance : DecidablePred Operation.Fits := fun op => by
  cases op <;> unfold Operation.Fits <;> infer_instance

theorem orderly_freeze {s : StreamSet} (hs : s.Orderly) : s.freeze.Orderly :=
  ⟨hs.used, hs.fits, hs.nextLocal_le⟩

/-- Every operation leaves the streams orderly. -/
theorem orderly_perform {s : StreamSet} (hs : s.Orderly) {op : Operation} (hop : op.Fits) :
    (s.perform op).2.Orderly := by
  cases op with
  | openStream d => exact (opens_openStream hs d).orderly
  | write id data fin => exact (write_outcome hs id data fin).1.orderly
  | read id maxLen => exact (read_outcome hs id maxLen).1.orderly
  | resetStream id => exact (resetStream_outcome hs id).1.orderly
  | stopSending id => exact (stopSending_outcome hs id).1.orderly
  | handshakeCompleted peer => exact (setup_onHandshakeCompleted hs peer).1
  | streamData id offset data fin => exact (onStreamData_outcome hs hop offset data fin).1.orderly
  | streamReset id errorCode finalSize =>
    exact (onStreamReset_outcome hs hop errorCode finalSize).1.orderly
  | peerStop id errorCode => exact (onStopSending_outcome hs hop errorCode).1.orderly
  | maxStreamData id limit => exact (onMaxStreamData_outcome hs id limit).1.orderly
  | maxData limit => exact (onMaxData_outcome hs limit).1.orderly
  | maxStreams d n => exact (onMaxStreams_outcome hs d n).1.orderly
  | streamAcked id n => exact (onStreamAcked_outcome hs id n).1.orderly
  | takeEvents => exact (keeps_takeEvents s).orderly hs
  | freeze => exact orderly_freeze hs

/-- A run leaves the streams orderly, by induction on it. -/
theorem orderly_after {s : StreamSet} (hs : s.Orderly) {ops : List Operation}
    (hops : ∀ op ∈ ops, op.Fits) : (s.after ops).Orderly := by
  induction ops generalizing s with
  | nil => exact hs
  | cons op rest ih =>
    have hstep := orderly_perform hs (hops op List.mem_cons_self)
    exact ih hstep fun op hop => hops op (List.mem_cons_of_mem _ hop)

/-! ## Runs in parts

A run can be cut anywhere: what holds after the first part is what the second begins with. -/

theorem after_append (s : StreamSet) (ops more : List Operation) :
    s.after (ops ++ more) = (s.after ops).after more :=
  List.foldl_append

/-- The streams that a step leaves. -/
def Entry.after (e : Entry) : StreamSet := (e.before.perform e.op).2

/-- Whoever cuts a trace at some step cuts the run there. -/
theorem trace_eq_append {s : StreamSet} {ops : List Operation} {earlier later : List Entry}
    {e : Entry} (h : s.trace ops = earlier ++ e :: later) :
    ∃ ops₁ ops₂, ops = ops₁ ++ e.op :: ops₂ ∧ earlier = s.trace ops₁ ∧ e.before = s.after ops₁ ∧
      e.answer = (e.before.perform e.op).1 ∧ later = e.after.trace ops₂ := by
  induction earlier generalizing s ops with
  | nil =>
    cases ops with
    | nil => cases h
    | cons op rest =>
      obtain ⟨rfl, rfl⟩ := List.cons.inj h
      exact ⟨[], rest, rfl, rfl, rfl, rfl, rfl⟩
  | cons first earlier ih =>
    cases ops with
    | nil => cases h
    | cons op rest =>
      obtain ⟨rfl, htail⟩ := List.cons.inj h
      obtain ⟨ops₁, ops₂, rfl, rfl, hbefore, hanswer, hlater⟩ := ih htail
      exact ⟨op :: ops₁, ops₂, rfl, rfl, hbefore, hanswer, hlater⟩

end QuicHost.StreamSet
