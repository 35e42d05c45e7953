import QuicHost.Proofs.Connection.Attending
import QuicHost.Proofs.Connection.Batching
import QuicHost.Proofs.Connection.Closing

/-!
# What a connection hears from its engine

A connection turns to its engine with a datagram, or when the engine's deadline has
come. The engine records callbacks, behind those that wait already, or fails. Whatever
waits after a datagram is taken, also if the engine rejected it, and acted on before the
failure is. When the timers of the engine were run, it is taken only if they did not
fail; else it waits on, and the failure is acted on alone.

What is waiting afterwards follows from what acting may say to the engine
(`Attends`): none of it makes the scripted engine record anything.
-/

namespace QuicHost

namespace ScriptedEngine

/-- The callbacks that a reaction records. -/
def reported : Option Reaction → List Callback
  | some (.ok callbacks) => callbacks
  | _ => []

/-- The failure that a reaction is, if it is one. -/
def failure? : Option Reaction → Option EngineError
  | some (.error e) => some e
  | _ => none

theorem reported_of_failure {r : Option Reaction} {e : EngineError} (h : failure? r = some e) :
    reported r = [] := by
  rcases r with _ | error | callbacks
  · cases h
  · rfl
  · cases h

/-- What is answered when the engine may have failed. -/
def outcomeOf : Option EngineError → Except EngineError Unit
  | none => .ok ()
  | some e => .error e

/-- What is recorded comes behind what waits. -/
theorem react_eq (e : ScriptedEngine) (r : Option Reaction) :
    e.react r = (outcomeOf (failure? r), { e with callbacks := e.callbacks ++ reported r }) := by
  rcases r with _ | error | callbacks
  · simp only [react, failure?, reported, outcomeOf, List.append_nil]
  · simp only [react, failure?, reported, outcomeOf, List.append_nil]
  · rfl

/-- What reading a datagram does to the engine, whether it fails or not: one reaction is
taken, and what it records waits. -/
theorem readDatagram_eq (e : ScriptedEngine) (datagram : Bytes) :
    e.readDatagram datagram = (outcomeOf (failure? e.datagramReactions.head?),
      { e with
        received := e.received ++ [datagram]
        datagramReactions := e.datagramReactions.tail
        callbacks := e.callbacks ++ reported e.datagramReactions.head? }) := react_eq _ _

/-- What running the timers does to the engine, whether it fails or not. -/
theorem handleExpiry_eq (e : ScriptedEngine) :
    e.handleExpiry = (outcomeOf (failure? e.timeoutReactions.head?),
      { e with
        expiry := none
        timeoutReactions := e.timeoutReactions.tail
        callbacks := e.callbacks ++ reported e.timeoutReactions.head? }) := react_eq _ _

theorem callbacks_close (e : ScriptedEngine) (errorCode : Nat) (reason : Bytes) :
    (e.close errorCode reason).callbacks = e.callbacks := by
  rw [close]
  split <;> rfl

/-- Nothing that a connection says of its own accord is recorded. -/
theorem callbacks_of_told {e e' : ScriptedEngine} (h : Connection.Told e e')
    (hempty : e.callbacks = []) : e'.callbacks = [] := by
  cases h with
  | drained => rfl
  | extended n => exact hempty
  | shut id errorCode => exact hempty
  | closed errorCode reason => exact (e.callbacks_close errorCode reason).trans hempty

/-- Nothing that a connection says to its engine leaves callbacks behind. -/
theorem callbacks_of_tells {e e' : ScriptedEngine}
    (h : Relation.ReflTransGen Connection.Told e e') (hempty : e.callbacks = []) :
    e'.callbacks = [] := by
  induction h with
  | refl => exact hempty
  | tail _ htold ih => exact callbacks_of_told htold ih

end ScriptedEngine

namespace Connection

open ScriptedEngine (reported failure? outcomeOf)

variable {ε σ : Type}

/-! ## Acting

Acting on callbacks and then on a failure. Whatever this says to the engine leaves no
callbacks behind there. -/

section

variable [PacketEngine ε]

/-- The connection when it has acted on callbacks, in their order until it was closing,
and then on a failure of the engine, if there was one. -/
def acted (c : Connection ε σ) (now : Instant) (callbacks : List Callback)
    (failure : Option EngineError) : Connection ε σ :=
  match failure with
  | none => c.applyCallbacks now callbacks
  | some e => (c.applyCallbacks now callbacks).onTransportError e.toTransport now

/-- Acting on callbacks and on a failure says to the engine only what a connection may say. -/
theorem attends_acted (c : Connection ε σ) (now : Instant) (callbacks : List Callback)
    (failure : Option EngineError) : c.Attends (c.acted now callbacks failure) := by
  cases failure with
  | none => exact c.attends_applyCallbacks now callbacks
  | some e =>
    exact (c.attends_applyCallbacks now callbacks).trans (attends_onTransportError _ _ now)

/-- Callbacks are acted on one after the other, all of them unless the connection is
closing meanwhile. -/
theorem heeded_spec (c : Connection ε σ) (now : Instant) (callbacks : List Callback) :
    c.heeded now callbacks <+: callbacks ∧
      (c.heeded now callbacks = callbacks ∨
        (c.applyCallbacks now callbacks).state.isClosing = true) := by
  induction callbacks generalizing c with
  | nil => exact ⟨List.prefix_rfl, .inl rfl⟩
  | cons callback rest ih =>
    rw [heeded, applyCallbacks]
    split
    · next hclosing => exact ⟨List.nil_prefix, .inr hclosing⟩
    · obtain ⟨hfront, hall⟩ := ih (c.heed now callback).pump
      refine ⟨(List.prefix_cons_inj callback).2 hfront, hall.imp_left fun heq => ?_⟩
      rw [heq]

end

/-- How matters stand when a connection has delivered its events. -/
def delivered (c : Connection ε σ) (w : σ) : Moment ε σ := ⟨(c.flush w).1.2, (c.flush w).2⟩

/-- The callbacks that wait with the engine. -/
def waiting (c : Connection ScriptedEngine σ) : List Callback := c.adapter.engine.callbacks

section

variable {c : Connection ScriptedEngine σ} {now : Instant} {w : σ}

theorem waiting_acted (h : c.waiting = []) (now : Instant) (callbacks : List Callback)
    (failure : Option EngineError) : (c.acted now callbacks failure).waiting = [] :=
  ScriptedEngine.callbacks_of_tells (c.attends_acted now callbacks failure).engine h

/-- A failure leaves alone what waits. -/
theorem waiting_onTransportError (c : Connection ScriptedEngine σ) (e : TransportError)
    (now : Instant) : (c.onTransportError e now).waiting = c.waiting := by
  have hfinish (c' : Connection ScriptedEngine σ) (reason : CloseReason) :
      (c'.finishWith reason).waiting = c'.waiting := by
    rw [finishWith, finish]
    split <;> rfl
  have hclose (c' : Connection ScriptedEngine σ) (reason : CloseReason) :
      (c'.announceClose reason now).waiting = c'.waiting := by
    rw [announceClose, enterDraining]
    split <;> exact ScriptedEngine.callbacks_close _ _ _
  have hreported : (c.reportError e).waiting = c.waiting := rfl
  rw [onTransportError_eq]
  cases e with
  | resourceExhausted => exact (hfinish _ _).trans hreported
  | protocolViolation code =>
    dsimp only
    split
    · exact hreported
    · exact (hclose _ _).trans hreported
  | handshakeFailure code =>
    dsimp only
    split
    · exact (hfinish _ _).trans hreported
    · exact hreported
  | malformedPacket => exact hreported
  | versionMismatch => exact hreported

/-! ## Datagrams

What the engine reports of a datagram joins what waited with it, and all of it is taken,
failure or not. -/

/-- The connection when its engine has read a datagram and the callbacks are taken. If
the engine accepted the datagram, the connection has heard of the peer. -/
def afterReading (c : Connection ScriptedEngine σ) (datagram : Bytes) (now : Instant) :
    Connection ScriptedEngine σ :=
  let read := { c.counted datagram with
    adapter := c.adapter.modifyEngine fun e =>
      { (e.readDatagram datagram).2 with callbacks := [] } }
  match failure? c.adapter.engine.datagramReactions.head? with
  | none => read.hear now
  | some _ => read

theorem waiting_hear (c : Connection ScriptedEngine σ) (now : Instant) :
    (c.hear now).waiting = c.waiting := by
  rw [hear, touch]
  split <;> rfl

/-- The callbacks are taken after a datagram, whether the engine accepted it or not. -/
theorem waiting_afterReading (c : Connection ScriptedEngine σ) (datagram : Bytes)
    (now : Instant) : (c.afterReading datagram now).waiting = [] := by
  rw [afterReading]
  split
  · exact waiting_hear _ now
  · rfl

/-- What waited and what the engine recorded is acted on, and then its failure. -/
theorem process_eq (c : Connection ScriptedEngine σ) (datagram : Bytes) (now : Instant) :
    (c.counted datagram).process datagram now =
      (c.afterReading datagram now).acted now
        (c.waiting ++ reported c.adapter.engine.datagramReactions.head?)
        (failure? c.adapter.engine.datagramReactions.head?) := by
  have hread : PacketEngine.readDatagram (c.counted datagram).adapter.engine datagram now =
      c.adapter.engine.readDatagram datagram := rfl
  rw [process, EngineAdapter.ingest, hread, afterReading, EngineAdapter.modifyEngine,
    ScriptedEngine.readDatagram_eq]
  cases failure? c.adapter.engine.datagramReactions.head? <;> rfl

/-- An open connection counts the datagram, processes it, and delivers. -/
theorem ingest_of_open (hopen : c.state.isClosing = false) (datagram : Bytes) (now : Instant)
    (w : σ) :
    c.ingest datagram now w =
      ((c.counted datagram).process datagram now).flushWith (.ok ()) w := by
  have hdraining : (c.counted datagram).state ≠ .draining := fun hdraining =>
    Bool.eq_false_iff.1 hopen (isClosing_iff.2 (.inl hdraining))
  rw [ingest, if_neg (ne_closed_of_open hopen)]
  exact congrFun (if_neg hdraining) w

/-! ## Timers

The engine's timer is run when it is due and nothing has closed the connection before. If
running it fails, what waits with the engine stays there. -/

/-- The connection when its engine has run its timers. The callbacks are taken if they
did not fail. -/
def afterRunning (c : Connection ScriptedEngine σ) : Connection ScriptedEngine σ :=
  { c with
    timers := c.currentTimers.clear .engine
    adapter := c.adapter.modifyEngine fun e =>
      match failure? e.timeoutReactions.head? with
      | none => { e.handleExpiry.2 with callbacks := [] }
      | some _ => e.handleExpiry.2 }

theorem waiting_afterRunning (h : failure? c.adapter.engine.timeoutReactions.head? = none) :
    c.afterRunning.waiting = [] := by
  rw [afterRunning, EngineAdapter.modifyEngine, h]
  rfl

/-- They are left behind when the timers have failed. -/
theorem waiting_afterRunning_of_failure {e : EngineError}
    (h : failure? c.adapter.engine.timeoutReactions.head? = some e) :
    c.afterRunning.waiting = c.waiting := by
  have hcallbacks : c.adapter.engine.handleExpiry.2.callbacks = c.adapter.engine.callbacks := by
    rw [ScriptedEngine.handleExpiry_eq, ScriptedEngine.reported_of_failure h, List.append_nil]
  rw [afterRunning, EngineAdapter.modifyEngine, h]
  exact hcallbacks

/-- Whether the engine of a connection is the one to run when a deadline has come: it is
due, and there was no silence that closes the connection first. -/
def IsEngineDue (c : Connection ε σ) [PacketEngine ε] (now : Instant) : Prop :=
  c.timers.isDue now .idle = false ∧ c.currentTimers.isDue now .engine = true

/-- What the engine recorded is acted on if its timers did not fail, and else their
failure. -/
theorem timedOut_of_engineDue (hfit : c.TimersFit) (hopen : c.state.isClosing = false)
    (hdue : c.IsEngineDue now) :
    c.timedOut now =
      match failure? c.adapter.engine.timeoutReactions.head? with
      | none => c.afterRunning.acted now
          (c.waiting ++ reported c.adapter.engine.timeoutReactions.head?) none
      | some e => c.afterRunning.acted now [] (some e) := by
  have hrun : PacketEngine.handleExpiry c.adapter.engine now = c.adapter.engine.handleExpiry := rfl
  rw [timedOut_of_open hfit hopen, if_neg (Bool.eq_false_iff.1 hdue.1), if_pos hdue.2,
    runEngineTimer, EngineAdapter.handleExpiry, hrun, afterRunning, EngineAdapter.modifyEngine,
    ScriptedEngine.handleExpiry_eq]
  cases failure? c.adapter.engine.timeoutReactions.head? <;> rfl

/-! ## The result

Each way of turning to the engine, and that a session leaves nothing waiting unless
running the timers has failed. -/

/-- A connection has acted on callbacks, and then on a failure if there was one, and has
delivered its events. It acted on all callbacks in their order, or was closing before the
last; and nothing waits with its engine. -/
structure HearsOut (c : Connection ScriptedEngine σ) (now : Instant) (callbacks : List Callback)
    (failure : Option EngineError) (w : σ) (m : Moment ScriptedEngine σ) : Prop where
  /-- what has become of the connection and of the application -/
  acted : m = (c.acted now callbacks failure).delivered w
  /-- the callbacks that were acted on are the first ones -/
  inOrder : c.heeded now callbacks <+: callbacks
  /-- they are all of them, or the connection was closing before the last -/
  all : c.heeded now callbacks = callbacks ∨ (c.applyCallbacks now callbacks).state.isClosing = true
  /-- nothing waits with the engine -/
  waiting : m.connection.waiting = []

/-- A connection with nothing left at its engine that acts on callbacks and a failure has
heard its engine out. -/
theorem hearsOut (h : c.waiting = []) (now : Instant) (callbacks : List Callback)
    (failure : Option EngineError) (w : σ) :
    c.HearsOut now callbacks failure w ((c.acted now callbacks failure).delivered w) where
  acted := rfl
  inOrder := (c.heeded_spec now callbacks).1
  all := (c.heeded_spec now callbacks).2
  waiting := waiting_acted h now callbacks failure

/-- A datagram is such a case: what waited and what it brings are acted on together. -/
theorem hearsOut_ingest {m : Moment ScriptedEngine σ}
    (hopen : m.connection.state.isClosing = false) (datagram : Bytes) (now : Instant) :
    (m.connection.afterReading datagram now).HearsOut now
      (m.connection.waiting ++ reported m.connection.adapter.engine.datagramReactions.head?)
      (failure? m.connection.adapter.engine.datagramReactions.head?) m.world
      (m.perform (.ingest datagram now)).2 := by
  rw [Moment.perform, ingest_of_open hopen, process_eq]
  exact hearsOut (waiting_afterReading _ datagram now) now _ _ m.world

/-- The engine of a closing connection is not asked. -/
theorem adapter_of_closing {m : Moment ScriptedEngine σ} (hfit : m.connection.TimersFit)
    (hclosing : m.connection.state.isClosing = true) (now : Instant) :
    (∀ datagram, (m.perform (.ingest datagram now)).2.connection.adapter = m.connection.adapter) ∧
      (m.perform (.onTimeout now)).2.connection.adapter = m.connection.adapter := by
  rcases isClosing_iff.1 hclosing with hdraining | hclosed
  · have hlive := ne_closed_of_draining hdraining
    refine ⟨fun datagram => ?_, ?_⟩
    · rw [Moment.perform, ingest, if_neg hlive]
      dsimp only
      rw [if_pos hdraining]
      rfl
    · rw [Moment.perform, onTimeout_eq hlive, timedOut_of_draining hfit hdraining]
      split
      · rw [finish_eq hlive]
        rfl
      · rfl
  · refine ⟨fun datagram => ?_, ?_⟩
    · rw [Moment.perform, ingest, if_pos hclosed]
      rfl
    · rw [Moment.perform, onTimeout, if_pos hclosed]
      rfl

/-- **A connection hears its engine out, unless its timers fail.** Whatever was done to a
connection over the scripted engine, and whatever was done to its engine: if it is open,
it acts on a datagram by taking all callbacks that waited and those that the engine
recorded now, and acting on them in their order before it acts on the failure of the
engine, if it failed. Nothing waits afterwards. The same is true when a deadline has come
and the engine runs its timers without a failure. But if they fail, the connection acts
on the failure alone, and what waited waits on. A closing connection leaves its engine as
it is. -/
theorem hears_engine_out (side : Side) (settings : ConnectionSettings) (scid dcid : ConnectionId)
    (engine : ScriptedEngine) (now₀ : Instant) (w₀ : σ)
    (actions : List (Action ScriptedEngine σ)) (now : Instant) :
    let m := ((Session.begin side settings scid dcid engine now₀ w₀).steps actions).moment
    let c := m.connection
    let reaction := c.adapter.engine.timeoutReactions.head?
    let timedOut := (m.perform (.onTimeout now)).2
    (c.state.isClosing = false → ∀ datagram,
      let reaction := c.adapter.engine.datagramReactions.head?
      (c.afterReading datagram now).HearsOut now (c.waiting ++ reported reaction)
        (failure? reaction) m.world (m.perform (.ingest datagram now)).2) ∧
    (c.state.isClosing = false → c.IsEngineDue now → failure? reaction = none →
      c.afterRunning.HearsOut now (c.waiting ++ reported reaction) none m.world timedOut) ∧
    (c.state.isClosing = false → c.IsEngineDue now → ∀ e, failure? reaction = some e →
      timedOut = (c.afterRunning.acted now [] (some e)).delivered m.world ∧
        timedOut.connection.waiting = c.waiting) ∧
    (c.state.isClosing = true →
      (∀ datagram, (m.perform (.ingest datagram now)).2.connection.adapter = c.adapter) ∧
        timedOut.connection.adapter = c.adapter) := by
  intro m c reaction timedOut
  have hbegun := Session.sound_begin side settings scid dcid engine now₀ w₀
  have hfit : c.TimersFit := Session.timersFit_steps hbegun.fits actions
  have hran (hopen : c.state.isClosing = false) (hdue : c.IsEngineDue now) :
      timedOut = (c.timedOut now).delivered m.world := by
    have heq := onTimeout_eq (ne_closed_of_open hopen) now m.world
    exact congrArg (fun r => (⟨r.1, r.2⟩ : Moment ScriptedEngine σ)) heq
  -- a datagram, the timer that ran well, the timer that failed, and a connection that no
  -- longer listens
  refine ⟨fun hopen datagram => hearsOut_ingest hopen datagram now, fun hopen hdue hnone => ?_,
    fun hopen hdue e hfailed => ?_, fun hclosing => adapter_of_closing hfit hclosing now⟩
  · rw [hran hopen hdue, timedOut_of_engineDue hfit hopen hdue, hnone]
    exact hearsOut (waiting_afterRunning hnone) now _ none m.world
  · rw [hran hopen hdue, timedOut_of_engineDue hfit hopen hdue, hfailed]
    refine ⟨rfl, ?_⟩
    exact (waiting_onTransportError _ e.toTransport now).trans
      (waiting_afterRunning_of_failure hfailed)

/-- A client whose engine was given a script. -/
abbrev scripted (f : ScriptedEngine → ScriptedEngine) (more : List (Action ScriptedEngine Unit)) :
    Moment ScriptedEngine Unit :=
  ((Session.begin .client {} .empty .empty {} ⟨0⟩ ()).steps (.modifyEngine f :: more)).moment

/-- The engine has credit to report when it rejects a datagram, and when its timers run.
Both times it is acted on. It waits when the timers fail, and when the connection is
closed. -/
theorem hears_engine_out_crediting :
    let f (e : ScriptedEngine) := ((e.pushCallback (.maxData 10)).expectDatagram
      (.error .malformed)).setExpiry (some ⟨20⟩)
    let rejected := ((scripted f []).perform (.ingest [0] ⟨10⟩)).2
    let timedOut := ((scripted f []).perform (.onTimeout ⟨20⟩)).2
    let failed := ((scripted (fun e => (f e).expectTimeout (.error .malformed)) []).perform
      (.onTimeout ⟨20⟩)).2
    let closed := ((scripted f [.close 0 [] ⟨0⟩]).perform (.onTimeout ⟨20⟩)).2
    (rejected.connection.waiting = [] ∧ rejected.connection.streams.sendWindow.limit = 10) ∧
      (timedOut.connection.waiting = [] ∧ timedOut.connection.streams.sendWindow.limit = 10) ∧
      failed.connection.waiting = [.maxData 10] ∧ closed.connection.waiting = [.maxData 10] := by
  intro f rejected timedOut failed closed
  have hheard (g : ScriptedEngine → ScriptedEngine) (more : List (Action ScriptedEngine Unit)) :=
    hears_engine_out .client {} .empty .empty {} ⟨0⟩ () (.modifyEngine g :: more)
  obtain ⟨-, hran, -⟩ := hheard f [] ⟨20⟩
  obtain ⟨-, -, hfailed, -⟩ := hheard (fun e => (f e).expectTimeout (.error .malformed)) [] ⟨20⟩
  obtain ⟨-, -, -, hclosed⟩ := hheard f [.close 0 [] ⟨0⟩] ⟨20⟩
  refine ⟨⟨((hheard f [] ⟨10⟩).1 rfl [0]).waiting, rfl⟩,
    ⟨(hran rfl ⟨rfl, rfl⟩ rfl).waiting, rfl⟩, ?_, ?_⟩
  · exact (hfailed rfl ⟨rfl, rfl⟩ .malformed rfl).2
  · have hclosing : (scripted f [.close 0 [] ⟨0⟩]).connection.state.isClosing = true := rfl
    have hkept := (hclosed hclosing).2
    have hwaiting : (scripted f [.close 0 [] ⟨0⟩]).connection.waiting = [.maxData 10] := rfl
    rw [waiting, hkept]
    exact hwaiting

/-- The engine has more credit to report when its timers fail. The connection stays open,
and the credit waits with the engine. -/
theorem left_behind_by_failed_timers :
    let m := scripted (fun e => ((e.pushCallback (.maxData 10)).expectTimeout
      (.error .malformed)).setExpiry (some ⟨20⟩)) []
    let timedOut := (m.perform (.onTimeout ⟨20⟩)).2
    m.connection.state.isClosing = false ∧ m.connection.IsEngineDue ⟨20⟩ ∧
      timedOut.connection.waiting = [.maxData 10] ∧
      timedOut.connection.streams.sendWindow.limit = 0 ∧
      timedOut.connection.stats.transportErrors = 1 :=
  ⟨rfl, ⟨rfl, rfl⟩, rfl, rfl, rfl⟩

end

end Connection

end QuicHost
