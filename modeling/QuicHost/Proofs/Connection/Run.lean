import Mathlib.Logic.Relation
import QuicHost.Connection.Calls
import QuicHost.Connection.Drive
import QuicHost.Engine.Scripted
import QuicHost.Proofs.Stream.Outcome

/-!
# Runs of a connection

A `Call` is anything the host can do with a connection over the scripted engine,
or with the engine's script. A run makes calls one after the other; its history
keeps them with their answers.

What most statements are about is the core of a connection: its streams and its
engine. While the connection is open, every call but the few that speak to the
peer at once moves the core by `Core.Quiet` steps. One step is one operation on
the streams together with what it means for the engine, so that the two never
part company between steps.
-/

namespace QuicHost

/-- Whether the streams a callback names have identifiers that fit a word. -/
def Callback.Fits : Callback → Prop
  | .streamData id _ _ _ => id.Fits
  | .streamReset id _ _ => id.Fits
  | .stopSending id _ => id.Fits
  | _ => True

instance : DecidablePred Callback.Fits := fun c => by
  cases c <;> unfold Callback.Fits <;> infer_instance

/-- The callbacks a reaction records. -/
def Reaction.callbacks : Reaction → List Callback
  | .ok callbacks => callbacks
  | .error _ => []

/-- The bounds within which the engine is driven: the length of the longest
datagram, and the number of datagrams of one poll. -/
def EngineAdapter.bounds {ε : Type} (a : EngineAdapter ε) : Nat × Nat :=
  (a.maxUdpPayloadSize, a.maxDatagramsPerPoll)

/-- The bounds the host has set. -/
def ConnectionSettings.bounds (s : ConnectionSettings) : Nat × Nat :=
  (s.maxUdpPayloadSize, s.maxDatagramsPerPoll)

/-- What a run keeps to: the callbacks the engine may report, all of which name
streams by identifiers that fit a word, the streams whose sending halves the
application may abandon, and the bounds of the engine. -/
structure Scope where
  /-- whether the engine may report a callback -/
  callback : Callback → Prop
  /-- whether the application may abandon the sending half of a stream -/
  reset : StreamId → Prop
  /-- the bounds within which the engine is driven -/
  bounds : Nat × Nat
  /-- identifiers fit a word -/
  fits : ∀ c, callback c → c.Fits

/-- Anything may happen within the given bounds. -/
def Scope.all (bounds : Nat × Nat) : Scope := ⟨Callback.Fits, fun _ => True, bounds, fun _ h => h⟩

namespace ScriptedEngine

/-- Grants bytes on the connection, unless that is none. -/
def grant (e : ScriptedEngine) (n : Nat) : ScriptedEngine :=
  if n = 0 then e else e.extendConnection n

/-- Grants bytes on a stream and on the connection, unless that is none. -/
def grantRead (e : ScriptedEngine) (id : StreamId) (n : Nat) : ScriptedEngine :=
  if n = 0 then e else (e.extendStream id n).extendConnection n

/-- What the engine has to send and what it granted are the same in `e` and
`e'`. -/
structure SameBooks (e e' : ScriptedEngine) : Prop where
  outbound : e'.outbound = e.outbound
  closeFrame : e'.closeFrame = e.closeFrame
  closeSent : e'.closeSent = e.closeSent
  writeFailure : e'.writeFailure = e.writeFailure
  streamCredits : e'.streamCredits = e.streamCredits
  connectionCredit : e'.connectionCredit = e.connectionCredit

theorem SameBooks.refl (e : ScriptedEngine) : e.SameBooks e := ⟨rfl, rfl, rfl, rfl, rfl, rfl⟩

theorem SameBooks.trans {e e' e'' : ScriptedEngine} (h : e.SameBooks e') (h' : e'.SameBooks e'') :
    e.SameBooks e'' :=
  ⟨h'.outbound.trans h.outbound, h'.closeFrame.trans h.closeFrame,
    h'.closeSent.trans h.closeSent, h'.writeFailure.trans h.writeFailure,
    h'.streamCredits.trans h.streamCredits, h'.connectionCredit.trans h.connectionCredit⟩

end ScriptedEngine

/-! ## The core

The streams and the engine together, and the steps in which an open connection moves them.
A step that was refused is a step as well, for it may have parked a stream or opened some. -/

/-- The streams of a connection with its engine. -/
structure Core where
  /-- the streams -/
  streams : StreamSet
  /-- the engine -/
  engine : ScriptedEngine

namespace Core

/-- One step of an open connection that hands nothing to the peer and takes
nothing from the application. -/
inductive Quiet (p : Scope) (k : Core) : Core → Prop where
  /-- events are taken -/
  | events : Quiet p k ⟨k.streams.takeEvents.2, k.engine⟩
  /-- the engine reads, runs its timers, or gets a new script -/
  | engine {e : ScriptedEngine} : k.engine.SameBooks e → Quiet p k ⟨k.streams, e⟩
  /-- a stream is opened, or not -/
  | opened (d : Direction) : Quiet p k ⟨(k.streams.openStream d).2, k.engine⟩
  /-- a write was refused -/
  | writeRefused {id : StreamId} {data : Bytes} {fin : Bool} {e : CallError} :
    (k.streams.write id data fin).1 = .error e →
      Quiet p k ⟨(k.streams.write id data fin).2, k.engine⟩
  /-- a read was refused -/
  | readRefused {id : StreamId} {maxLen : Nat} {e : CallError} :
    (k.streams.read id maxLen).1 = .error e → Quiet p k ⟨(k.streams.read id maxLen).2, k.engine⟩
  /-- bytes were read -/
  | read {id : StreamId} {maxLen : Nat} {out : ReadOutcome} :
    (k.streams.read id maxLen).1 = .ok out →
    Quiet p k ⟨(k.streams.read id maxLen).2, k.engine.grantRead id out.data.length⟩
  /-- abandoning a sending half was refused -/
  | resetRefused {id : StreamId} {e : CallError} :
    (k.streams.resetStream id).1 = .error e → Quiet p k ⟨(k.streams.resetStream id).2, k.engine⟩
  /-- a sending half was abandoned -/
  | reset {id : StreamId} (errorCode : Nat) : p.reset id →
    (k.streams.resetStream id).1 = .ok () →
    Quiet p k ⟨(k.streams.resetStream id).2, k.engine.shutdownWrite id errorCode⟩
  /-- abandoning a receiving half was refused -/
  | stopRefused {id : StreamId} {e : CallError} :
    (k.streams.stopSending id).1 = .error e → Quiet p k ⟨(k.streams.stopSending id).2, k.engine⟩
  /-- a receiving half was abandoned -/
  | stopped {id : StreamId} (errorCode : Nat) {n : Nat} :
    (k.streams.stopSending id).1 = .ok n →
    Quiet p k ⟨(k.streams.stopSending id).2, (k.engine.shutdownRead id errorCode).grant n⟩
  /-- the handshake is complete -/
  | handshake (peer : TransportParameters) :
      Quiet p k ⟨k.streams.onHandshakeCompleted peer, k.engine⟩
  /-- data was taken in -/
  | data {id : StreamId} {offset : Nat} {data : Bytes} {fin : Bool} {n : Nat} :
    p.callback (.streamData id offset data fin) →
    (k.streams.onStreamData id offset data fin).1 = .ok n →
    Quiet p k ⟨(k.streams.onStreamData id offset data fin).2, k.engine.grant n⟩
  /-- the peer abandoned its half -/
  | peerReset {id : StreamId} {errorCode finalSize n : Nat} :
    p.callback (.streamReset id errorCode finalSize) →
    (k.streams.onStreamReset id errorCode finalSize).1 = .ok n →
    Quiet p k ⟨(k.streams.onStreamReset id errorCode finalSize).2, k.engine.grant n⟩
  /-- the peer wants no more of a stream, which means nothing any more -/
  | peerStopIgnored {id : StreamId} {errorCode : Nat} : p.callback (.stopSending id errorCode) →
    (k.streams.onStopSending id errorCode).1 = .ok false →
    Quiet p k ⟨(k.streams.onStopSending id errorCode).2, k.engine⟩
  /-- the peer wants no more of a stream, and our half was abandoned -/
  | peerStop {id : StreamId} {errorCode : Nat} : p.callback (.stopSending id errorCode) →
    (k.streams.onStopSending id errorCode).1 = .ok true →
    Quiet p k ⟨(k.streams.onStopSending id errorCode).2, k.engine.shutdownWrite id errorCode⟩
  /-- the peer raised the limit of a stream -/
  | maxStreamData (id : StreamId) (limit : Nat) :
      Quiet p k ⟨k.streams.onMaxStreamData id limit, k.engine⟩
  /-- the peer raised the limit of the connection -/
  | maxData (limit : Nat) : Quiet p k ⟨k.streams.onMaxData limit, k.engine⟩
  /-- the peer raised the number of streams -/
  | maxStreams (d : Direction) (n : Nat) : Quiet p k ⟨k.streams.onMaxStreams d n, k.engine⟩
  /-- the peer acknowledged bytes -/
  | acked (id : StreamId) (n : Nat) : Quiet p k ⟨k.streams.onStreamAcked id n, k.engine⟩

/-- Any number of such steps. -/
abbrev Quietly (p : Scope) : Core → Core → Prop := Relation.ReflTransGen (Quiet p)

variable {p : Scope} {k k' : Core}

/-- Whether the streams are orderly and in motion. -/
structure Sound (k : Core) : Prop where
  orderly : k.streams.Orderly
  frozen : k.streams.frozen = false

theorem Sound.follows (h : k.Sound) (hf : k.streams.Follows k'.streams) : k'.Sound :=
  ⟨hf.orderly, hf.frozen.trans h.frozen⟩

/-- A quiet step leaves the streams orderly and in motion. One case for each step. -/
theorem Sound.quiet (h : k.Sound) (hq : k.Quiet p k') : k'.Sound := by
  have hs := h.orderly
  cases hq with
  | events => exact h.follows ((StreamSet.keeps_takeEvents _).follows hs)
  | engine _ => exact ⟨hs, h.frozen⟩
  | opened d => exact h.follows (StreamSet.opens_openStream hs d).follows
  | writeRefused _ => exact h.follows (StreamSet.write_outcome hs _ _ _).1
  | readRefused _ => exact h.follows (StreamSet.read_outcome hs _ _).1
  | read _ => exact h.follows (StreamSet.read_outcome hs _ _).1
  | resetRefused _ => exact h.follows (StreamSet.resetStream_outcome hs _).1
  | reset _ _ _ => exact h.follows (StreamSet.resetStream_outcome hs _).1
  | stopRefused _ => exact h.follows (StreamSet.stopSending_outcome hs _).1
  | stopped _ _ => exact h.follows (StreamSet.stopSending_outcome hs _).1
  | handshake peer =>
    obtain ⟨horderly, -, -, hfrozen, -⟩ := StreamSet.setup_onHandshakeCompleted hs peer
    exact ⟨horderly, hfrozen.trans h.frozen⟩
  | data hp _ => exact h.follows (StreamSet.onStreamData_outcome hs (p.fits _ hp) _ _ _).1
  | peerReset hp _ => exact h.follows (StreamSet.onStreamReset_outcome hs (p.fits _ hp) _ _).1
  | peerStopIgnored hp _ => exact h.follows (StreamSet.onStopSending_outcome hs (p.fits _ hp) _).1
  | peerStop hp _ => exact h.follows (StreamSet.onStopSending_outcome hs (p.fits _ hp) _).1
  | maxStreamData id limit => exact h.follows (StreamSet.onMaxStreamData_outcome hs id limit).1
  | maxData limit => exact h.follows (StreamSet.onMaxData_outcome hs limit).1
  | maxStreams d n => exact h.follows (StreamSet.onMaxStreams_outcome hs d n).1
  | acked id n => exact h.follows (StreamSet.onStreamAcked_outcome hs id n).1

theorem Quietly.sound (h : k.Quietly p k') (hsound : k.Sound) : k'.Sound := by
  induction h with
  | refl => exact hsound
  | tail _ hq ih => exact ih.quiet hq

/-- What every step keeps, as long as the core is sound, any number of steps
keep. -/
theorem Quietly.keeps {P : Core → Prop} (hstep : ∀ {k k'}, k.Sound → P k → k.Quiet p k' → P k')
    (hsound : k.Sound) (hk : P k) (h : k.Quietly p k') : P k' := by
  induction h with
  | refl => exact hk
  | tail hbefore hq ih => exact hstep (Quietly.sound hbefore hsound) ih hq

end Core

namespace Connection

variable {σ : Type}

/-- The core of a connection. -/
def core (c : Connection ScriptedEngine σ) : Core := ⟨c.streams, c.adapter.engine⟩

/-! ## Calls

What a host can do with a connection over the scripted engine, and with its script. -/

/-- What the host can do with a connection and with the script of its engine. -/
inductive Call (σ : Type) where
  /-- opens a stream -/
  | openStream (d : Direction)
  /-- writes on a stream -/
  | write (id : StreamId) (data : Bytes) (fin : Bool)
  /-- reads from a stream -/
  | read (id : StreamId) (maxLen : Nat)
  /-- abandons a sending half -/
  | resetStream (id : StreamId) (errorCode : Nat)
  /-- abandons a receiving half -/
  | stopSending (id : StreamId) (errorCode : Nat)
  /-- closes the connection -/
  | close (errorCode : Nat) (reason : Bytes) (now : Instant)
  /-- hands over a datagram that arrived -/
  | ingest (datagram : Bytes) (now : Instant)
  /-- asks for datagrams to be sent -/
  | produceDatagrams (now : Instant)
  /-- says that a deadline has come -/
  | onTimeout (now : Instant)
  /-- delivers events to handlers -/
  | flush
  /-- fetches an event -/
  | pollEvent
  /-- changes the handlers -/
  | modifyDispatcher (f : EventDispatcher σ → EventDispatcher σ)
  /-- scripts the reaction to a datagram -/
  | expectDatagram (r : Reaction)
  /-- scripts the reaction to a run of the timers -/
  | expectTimeout (r : Reaction)
  /-- scripts a callback -/
  | pushCallback (callback : Callback)
  /-- scripts a failure of the next attempt to write -/
  | failNextWrite (error : EngineError)
  /-- scripts the engine's deadline -/
  | setExpiry (t : Option Instant)

/-- What a call answers. -/
inductive Answer where
  /-- there is nothing to answer -/
  | none
  /-- the stream opened -/
  | opened (r : Except CallError StreamId)
  /-- the number of bytes accepted -/
  | written (r : Except CallError Nat)
  /-- the bytes read -/
  | read (r : Except CallError ReadOutcome)
  /-- whether the call was refused -/
  | done (r : Except CallError Unit)
  /-- the datagrams to be sent -/
  | datagrams (sent : List Bytes)
  /-- the number of events delivered -/
  | delivered (n : Nat)
  /-- the event fetched -/
  | event (e : Option Event)

/-- Changes the script of the engine. -/
def modifyScript (c : Connection ScriptedEngine σ) (f : ScriptedEngine → ScriptedEngine) :
    Connection ScriptedEngine σ :=
  { c with adapter := c.adapter.modifyEngine f }

/-- Makes a call. Handlers act on the application's state `w`. -/
def perform (c : Connection ScriptedEngine σ) (w : σ) :
    Call σ → Answer × Connection ScriptedEngine σ × σ
  | .openStream d => (.opened (c.openStream d).1, (c.openStream d).2, w)
  | .write id data fin => (.written (c.write id data fin).1, (c.write id data fin).2, w)
  | .read id maxLen =>
    let ((r, c), w) := c.read id maxLen w
    (.read r, c, w)
  | .resetStream id errorCode =>
    let ((r, c), w) := c.resetStream id errorCode w
    (.done r, c, w)
  | .stopSending id errorCode =>
    let ((r, c), w) := c.stopSending id errorCode w
    (.done r, c, w)
  | .close errorCode reason now =>
    let ((r, c), w) := c.close errorCode reason now w
    (.done r, c, w)
  | .ingest datagram now =>
    let ((r, c), w) := c.ingest datagram now w
    (.done r, c, w)
  | .produceDatagrams now =>
    let ((sent, c), w) := c.produceDatagrams now w
    (.datagrams sent, c, w)
  | .onTimeout now =>
    let (c, w) := c.onTimeout now w
    (.none, c, w)
  | .flush =>
    let ((n, c), w) := c.flush w
    (.delivered n, c, w)
  | .pollEvent =>
    let ((e, c), w) := c.pollEvent w
    (.event e, c, w)
  | .modifyDispatcher f => (.none, c.modifyDispatcher f, w)
  | .expectDatagram r => (.none, c.modifyScript (·.expectDatagram r), w)
  | .expectTimeout r => (.none, c.modifyScript (·.expectTimeout r), w)
  | .pushCallback callback => (.none, c.modifyScript (·.pushCallback callback), w)
  | .failNextWrite error => (.none, c.modifyScript (·.failNextWrite error), w)
  | .setExpiry t => (.none, c.modifyScript (·.setExpiry t), w)

/-- The callbacks a call puts into the script. -/
def Call.scripted : Call σ → List Callback
  | .expectDatagram r => r.callbacks
  | .expectTimeout r => r.callbacks
  | .pushCallback callback => [callback]
  | _ => []

/-- Whether the script names streams by identifiers that fit a word. -/
def Call.Fits (call : Call σ) : Prop := ∀ callback ∈ call.scripted, callback.Fits

instance : DecidablePred (Call.Fits : Call σ → Prop) := fun call =>
  inferInstanceAs (Decidable (∀ callback ∈ call.scripted, callback.Fits))

/-! ## Runs

Calls one after the other, with a history of answers. -/

/-- A call with its answer. -/
structure Exchange (σ : Type) where
  /-- the call -/
  call : Call σ
  /-- the answer -/
  answer : Answer

/-- A run: the connection with the application's state, and what was called and
answered, oldest first. -/
structure Run (σ : Type) where
  /-- the connection -/
  connection : Connection ScriptedEngine σ
  /-- the application's state -/
  world : σ
  /-- what was called and answered -/
  history : List (Exchange σ) := []

namespace Run

/-- Makes a further call. -/
def step (r : Run σ) (call : Call σ) : Run σ :=
  let (answer, connection, world) := r.connection.perform r.world call
  ⟨connection, world, r.history ++ [⟨call, answer⟩]⟩

/-- Makes calls one after the other. -/
def steps (r : Run σ) (calls : List (Call σ)) : Run σ := calls.foldl step r

/-- A run that has just begun, with a new connection over an engine without a
script. -/
def begin (side : Side) (settings : ConnectionSettings) (scid dcid : ConnectionId) (now : Instant)
    (w : σ) : Run σ :=
  ⟨Connection.new side settings scid dcid {} now, w, []⟩

end Run

end Connection

end QuicHost
