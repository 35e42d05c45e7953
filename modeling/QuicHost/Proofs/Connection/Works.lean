import QuicHost.Proofs.Connection.Session
import QuicHost.Proofs.Stream.Reading

/-!
# What actions do to streams

Whatever is done to a connection, its streams perform operations, and nothing else
happens to them (`works_perform`). An open connection passes on the calls of the
application and heeds what the engine reports; a closing one takes events, freezes
the streams at its end, and lets them be read.

An engine may report a close in the middle of other things. The callbacks behind it
are dropped: `heeded` tells which callbacks are acted on, given how the connection
stands when each of them is met.
-/

namespace QuicHost

/-- Whether an operation is about no stream in particular: events are taken, or
everything stops. -/
def StreamSet.Operation.isUpkeep : Operation → Bool
  | .takeEvents => true
  | .freeze => true
  | _ => false

/-- Upkeep names no stream. -/
theorem StreamSet.Operation.fits_of_isUpkeep {op : Operation} (h : op.isUpkeep = true) :
    op.Fits := by
  cases op <;> first | exact trivial | cases h

/-- Upkeep leaves alone what streams offer. -/
theorem StreamSet.Operation.spares_of_isUpkeep {op : Operation} (h : op.isUpkeep = true) :
    op.spares = true := by
  cases op <;> first | rfl | cases h

/-- The operation that a callback asks of the streams. -/
def Callback.operation? : Callback → Option StreamSet.Operation
  | .handshakeCompleted peer => some (.handshakeCompleted peer)
  | .streamData id offset data fin => some (.streamData id offset data fin)
  | .streamReset id errorCode finalSize => some (.streamReset id errorCode finalSize)
  | .stopSending id errorCode => some (.peerStop id errorCode)
  | .maxStreamData id limit => some (.maxStreamData id limit)
  | .maxData limit => some (.maxData limit)
  | .maxStreams d n => some (.maxStreams d n)
  | .streamAcked id n => some (.streamAcked id n)
  | .connectionClose _ _ => none

/-- A callback that fits asks for an operation that fits. -/
theorem Callback.Fits.operation {callback : Callback} (h : callback.Fits)
    {op : StreamSet.Operation} (hop : callback.operation? = some op) : op.Fits := by
  cases callback <;> cases hop <;> exact h

namespace Connection

open StreamSet

variable {ε σ : Type}

/-! ## Upkeep

What happens to streams on behalf of no operation: their events are taken to be told, and
at the end everything stops. All that a connection does about timers, closing and telling
comes to this. -/

/-- Nothing happens to streams but upkeep. -/
abbrev Upkeep : StreamSet → StreamSet → Prop := Works (·.isUpkeep = true)

section

variable {c : Connection ε σ}

/-- To take the events is upkeep. -/
theorem upkeep_takeEvents (s : StreamSet) : Upkeep s s.takeEvents.2 :=
  Works.single s .takeEvents rfl

/-- What the streams tell is taken to be queued. -/
theorem upkeep_pump (c : Connection ε σ) : Upkeep c.streams c.pump.streams :=
  upkeep_takeEvents c.streams

/-- Delivering takes what the streams tell. -/
theorem upkeep_flush (c : Connection ε σ) (w : σ) :
    Upkeep c.streams (c.flush w).1.2.streams :=
  upkeep_takeEvents c.streams

/-- So does fetching an event. -/
theorem upkeep_pollEvent (c : Connection ε σ) (w : σ) :
    Upkeep c.streams (c.pollEvent w).1.2.streams :=
  upkeep_takeEvents c.streams

/-- The idle timer is not about streams. -/
theorem streams_touch (c : Connection ε σ) (now : Instant) : (c.touch now).streams = c.streams := by
  rw [touch]
  split <;> rfl

/-- A session begins without streams. -/
theorem Session.streams_begin (side : Side) (settings : ConnectionSettings)
    (scid dcid : ConnectionId) (engine : ε) (now : Instant) (w : σ) :
    (begin side settings scid dcid engine now w).connection.streams =
      .new side settings.localParameters := by
  rw [begin, connection, Connection.new, streams_touch]

/-- A connection that begins to drain does no more to its streams than to take their events. -/
theorem upkeep_enterDraining (c : Connection ε σ) (reason : CloseReason) (now : Instant) :
    Upkeep c.streams (c.enterDraining reason now).streams := by
  rw [enterDraining]
  split
  · exact .refl
  · exact upkeep_takeEvents c.streams

/-- A connection that has drained stops its streams. -/
theorem upkeep_finish (c : Connection ε σ) : Upkeep c.streams c.finish.streams := by
  rw [finish]
  split
  · exact .refl
  · have hfrozen : Upkeep c.streams c.streams.freeze :=
      Works.single c.streams .freeze rfl
    exact hfrozen.trans (upkeep_takeEvents c.streams.freeze)

/-- A connection that fails stops its streams. -/
theorem upkeep_finishWith (c : Connection ε σ) (reason : CloseReason) :
    Upkeep c.streams (c.finishWith reason).streams :=
  upkeep_finish { c with closeReason := some reason }

/-- Silence stops the streams, or takes their events. -/
theorem upkeep_onIdleTimeout (c : Connection ε σ) (now : Instant) :
    Upkeep c.streams (c.onIdleTimeout now).streams := by
  rw [onIdleTimeout]
  split
  · exact c.upkeep_finishWith _
  split
  · exact c.upkeep_enterDraining _ now
  · exact .refl

variable [PacketEngine ε]

/-- Nor does one that closes. -/
theorem upkeep_announceClose (c : Connection ε σ) (reason : CloseReason) (now : Instant) :
    Upkeep c.streams (c.announceClose reason now).streams := by
  rw [announceClose, enterDraining]
  split
  · exact .refl
  · exact upkeep_takeEvents c.streams

/-- A failure stops the streams, or takes their events. -/
theorem upkeep_onTransportError (c : Connection ε σ) (e : TransportError) (now : Instant) :
    Upkeep c.streams (c.onTransportError e now).streams := by
  have hreported : Upkeep c.streams (c.reportError e).streams := upkeep_takeEvents c.streams
  rw [onTransportError_eq]
  cases e with
  | resourceExhausted => exact hreported.trans (upkeep_finishWith _ _)
  | protocolViolation code =>
    dsimp only
    split
    · exact hreported
    · exact hreported.trans (upkeep_announceClose _ _ now)
  | handshakeFailure code =>
    dsimp only
    split
    · exact hreported.trans (upkeep_finishWith _ _)
    · exact hreported
  | malformedPacket => exact hreported
  | versionMismatch => exact hreported

end

/-! ## Callbacks

A callback performs its own operation, and upkeep around it. The callbacks that are
reported together are acted on until the connection closes; `heeded` computes which, since
closing depends on how each finds the connection. -/

/-- Whether an operation is upkeep, or one of some callbacks asks for it. -/
def AskedBy (callbacks : List Callback) (op : Operation) : Prop :=
  op.isUpkeep = true ∨ ∃ callback ∈ callbacks, callback.operation? = some op

/-- Upkeep is among what callbacks ask for, whatever they are. -/
theorem Upkeep.askedBy {s s' : StreamSet} (h : Upkeep s s') (callbacks : List Callback) :
    s.Works (AskedBy callbacks) s' :=
  h.mono fun _ hop => .inl hop

/-- What some callbacks ask for, more of them ask for. -/
theorem AskedBy.mono {callbacks more : List Callback} {op : Operation} (h : AskedBy callbacks op)
    (hmore : callbacks ⊆ more) : AskedBy more op := by
  rcases h with hop | ⟨callback, hmem, hop⟩
  · exact .inl hop
  · exact .inr ⟨callback, hmore hmem, hop⟩

section

variable [PacketEngine ε]

/-- A connection that has acted on one callback. If the streams refuse it, the
peer has violated the protocol. -/
def heed (c : Connection ε σ) (now : Instant) (callback : Callback) : Connection ε σ :=
  match c.applyCallback now callback with
  | (.ok (), c) => c
  | (.error e, c) => c.onTransportError e now

/-- The callbacks, out of those reported, that a connection acts on: it stops when
it is closing. -/
def heeded (c : Connection ε σ) (now : Instant) : List Callback → List Callback
  | [] => []
  | callback :: rest =>
    if c.state.isClosing then [] else callback :: (c.heed now callback).pump.heeded now rest

/-- Acting on callbacks is acting on those that are heeded, one after the other: the test
for closing is moved into the list. -/
theorem applyCallbacks_eq (c : Connection ε σ) (now : Instant) (callbacks : List Callback) :
    c.applyCallbacks now callbacks =
      (c.heeded now callbacks).foldl (fun c callback => (c.heed now callback).pump) c := by
  induction callbacks generalizing c with
  | nil => rfl
  | cons callback rest ih =>
    rw [applyCallbacks, heeded]
    split
    · rfl
    · exact ih (c.heed now callback).pump

theorem streams_extendConnection (c : Connection ε σ) (released : Nat) :
    (c.extendConnection released).streams = c.streams := by
  rw [extendConnection]
  split <;> rfl

/-- Acting on a callback performs its operation. The other thing that happens is that events
are taken, in between. -/
theorem works_applyCallback (c : Connection ε σ) (now : Instant) (callback : Callback) :
    c.streams.Works (AskedBy [callback]) (c.applyCallback now callback).2.streams := by
  have hasked (op : Operation) (hop : callback.operation? = some op) :
      c.streams.Works (AskedBy [callback]) (c.streams.perform op).2 :=
    Works.single c.streams op (.inr ⟨callback, List.mem_singleton_self _, hop⟩)
  -- each callback asks for the operation of its name, the handshake for the events of the
  -- set before it; a close asks for upkeep only
  cases callback with
  | handshakeCompleted peer =>
    change c.streams.Works _ (c.completeHandshake peer now).streams
    rw [completeHandshake]
    split
    · exact .refl
    · have htold := (upkeep_takeEvents c.streams).askedBy [.handshakeCompleted peer]
      dsimp only
      rw [emit, pump]
      dsimp only
      rw [streams_touch]
      exact htold.trans (Works.single c.streams.takeEvents.2 (.handshakeCompleted peer)
        (.inr ⟨_, List.mem_singleton_self _, rfl⟩))
  | streamData id offset data fin =>
    have hop := hasked (.streamData id offset data fin) rfl
    change c.streams.Works _ (c.streams.onStreamData id offset data fin).2 at hop
    rw [applyCallback]
    rcases heq : c.streams.onStreamData id offset data fin with ⟨e | released, s⟩
    · rwa [heq] at hop
    · rw [heq] at hop
      dsimp only
      rwa [streams_extendConnection]
  | streamReset id errorCode finalSize =>
    have hop := hasked (.streamReset id errorCode finalSize) rfl
    change c.streams.Works _ (c.streams.onStreamReset id errorCode finalSize).2 at hop
    rw [applyCallback]
    rcases heq : c.streams.onStreamReset id errorCode finalSize with ⟨e | released, s⟩
    · rwa [heq] at hop
    · rw [heq] at hop
      dsimp only
      rwa [streams_extendConnection]
  | stopSending id errorCode =>
    have hop := hasked (.peerStop id errorCode) rfl
    change c.streams.Works _ (c.streams.onStopSending id errorCode).2 at hop
    rw [applyCallback]
    rcases heq : c.streams.onStopSending id errorCode with ⟨e | _ | _, s⟩
    · rwa [heq] at hop
    · rwa [heq] at hop
    · rwa [heq] at hop
  | maxStreamData id limit => exact hasked (.maxStreamData id limit) rfl
  | maxData limit => exact hasked (.maxData limit) rfl
  | maxStreams d n => exact hasked (.maxStreams d n) rfl
  | streamAcked id n => exact hasked (.streamAcked id n) rfl
  | connectionClose errorCode reason => exact (c.upkeep_enterDraining _ now).askedBy _

/-- A callback that is refused fails the connection after its operation. -/
theorem works_heed (c : Connection ε σ) (now : Instant) (callback : Callback) :
    c.streams.Works (AskedBy [callback]) (c.heed now callback).pump.streams := by
  have happlied := c.works_applyCallback now callback
  have hpumped := (c.heed now callback).upkeep_pump.askedBy [callback]
  refine Relation.ReflTransGen.trans ?_ hpumped
  rw [heed]
  rcases heq : c.applyCallback now callback with ⟨e | _, c'⟩
  · rw [heq] at happlied
    exact happlied.trans ((c'.upkeep_onTransportError e now).askedBy _)
  · rw [heq] at happlied
    exact happlied

/-- What callbacks do to streams is what those that are heeded ask for. -/
theorem works_applyCallbacks (c : Connection ε σ) (now : Instant) (callbacks : List Callback) :
    c.streams.Works (AskedBy (c.heeded now callbacks))
      (c.applyCallbacks now callbacks).streams := by
  rw [applyCallbacks_eq]
  induction c.heeded now callbacks generalizing c with
  | nil => exact .refl
  | cons callback rest ih =>
    have hfirst : c.streams.Works (AskedBy (callback :: rest))
        (c.heed now callback).pump.streams :=
      (c.works_heed now callback).mono fun _ hop => hop.mono (by simp)
    exact hfirst.trans ((ih _).mono fun _ hop => hop.mono (List.subset_cons_self _ _))

/-! ## Datagrams and timers

Where callbacks come from. A failure of the engine is acted on after the callbacks, and
adds upkeep. -/

/-- The callbacks that a connection acts on when it hands a datagram to the
engine. -/
def heededOf (c : Connection ε σ) (datagram : Bytes) (now : Instant) : List Callback :=
  match c.adapter.ingest datagram now with
  | (.ok callbacks, adapter) =>
    let state := if c.state = .initiating then .handshaking else c.state
    ({ c with adapter := adapter, state := state }.touch now).heeded now callbacks
  | (.error _, adapter) =>
    let (callbacks, adapter) := adapter.drainCallbacks
    { c with adapter := adapter }.heeded now callbacks

/-- What a datagram makes the streams do is asked for by the callbacks heeded. -/
theorem works_process (c : Connection ε σ) (datagram : Bytes) (now : Instant) :
    c.streams.Works (AskedBy (c.heededOf datagram now)) (c.process datagram now).streams := by
  rw [process, heededOf]
  rcases c.adapter.ingest datagram now with ⟨e | callbacks, a⟩
  · dsimp only
    have happlied := works_applyCallbacks { c with adapter := a.drainCallbacks.2 } now
      a.drainCallbacks.1
    exact happlied.trans ((upkeep_onTransportError _ e now).askedBy _)
  · dsimp only
    have happlied := works_applyCallbacks ({ c with
      adapter := a
      state := if c.state = ConnectionState.initiating then .handshaking else c.state }.touch now)
      now callbacks
    rwa [streams_touch] at happlied

/-- The callbacks that a connection acts on when the engine's timers run. -/
def heededOnExpiry (c : Connection ε σ) (now : Instant) : List Callback :=
  match c.adapter.handleExpiry now with
  | (.ok callbacks, adapter) => { c with adapter := adapter }.heeded now callbacks
  | (.error _, _) => []

/-- What the engine's timer makes the streams do is asked for by the callbacks heeded. -/
theorem works_runEngineTimer (c : Connection ε σ) (now : Instant) :
    c.streams.Works (AskedBy (c.heededOnExpiry now)) (c.runEngineTimer now).streams := by
  rw [runEngineTimer, heededOnExpiry]
  rcases c.adapter.handleExpiry now with ⟨e | callbacks, a⟩
  · exact (upkeep_onTransportError { c with adapter := a } e now).askedBy _
  · exact works_applyCallbacks { c with adapter := a } now callbacks

/-- The connection with one more datagram counted. -/
def counted (c : Connection ε σ) (datagram : Bytes) : Connection ε σ :=
  { c with
    stats.datagramsReceived := c.stats.datagramsReceived + 1
    stats.bytesReceived := c.stats.bytesReceived + datagram.length }

/-- The callbacks that a connection acts on in the course of an action. -/
def Action.heeded (c : Connection ε σ) : Action ε σ → List Callback
  | ingest datagram now =>
    if c.state.isClosing then [] else (c.counted datagram).heededOf datagram now
  | onTimeout now =>
    -- silence closes the connection before the engine's timers are run
    if c.state.isClosing || c.timers.isDue now .idle || !c.currentTimers.isDue now .engine then []
    else { c with timers := c.currentTimers.clear .engine }.heededOnExpiry now
  | _ => []

/-- Of the timers only the engine's asks for anything. On a closing connection it is not
armed, and silence stops it. -/
theorem works_timedOut {c : Connection ε σ} (hfit : c.TimersFit) (hlive : c.state ≠ .closed)
    (now : Instant) :
    c.streams.Works (AskedBy ((Action.onTimeout now).heeded c)) (c.timedOut now).streams := by
  cases hopen : c.state.isClosing with
  | true =>
    rw [timedOut_of_draining hfit ((isClosing_iff.1 hopen).resolve_right hlive)]
    split
    · exact c.upkeep_finish.askedBy _
    · exact .refl
  | false =>
    rw [timedOut_of_open hfit hopen]
    split
    · exact (c.upkeep_onIdleTimeout now).askedBy _
    next hidle =>
    split
    · next hengine =>
      rw [Bool.not_eq_true] at hidle
      rw [Action.heeded, hopen, hidle, hengine]
      exact works_runEngineTimer { c with timers := c.currentTimers.clear .engine } now
    · exact .refl

/-! ## Actions

What each action of a host may ask of the streams. A closing connection passes nothing on
but reads. -/

/-- The operations that an action may ask of the streams. -/
inductive Action.Asks (c : Connection ε σ) : Action ε σ → Operation → Prop where
  /-- upkeep -/
  | upkeep {a : Action ε σ} {op : Operation} : op.isUpkeep = true → Asks c a op
  /-- reading is always possible -/
  | read (id : StreamId) (maxLen : Nat) : Asks c (.read id maxLen) (.read id maxLen)
  /-- a stream is opened -/
  | openStream (d : Direction) : c.state.isClosing = false →
    Asks c (.openStream d) (.openStream d)
  /-- the application writes -/
  | write (id : StreamId) (data : Bytes) (fin : Bool) : c.state.isClosing = false →
    Asks c (.write id data fin) (.write id data fin)
  /-- a sending half is abandoned -/
  | resetStream (id : StreamId) (errorCode : Nat) : c.state.isClosing = false →
    Asks c (.resetStream id errorCode) (.resetStream id)
  /-- a receiving half is abandoned -/
  | stopSending (id : StreamId) (errorCode : Nat) : c.state.isClosing = false →
    Asks c (.stopSending id errorCode) (.stopSending id)
  /-- the connection acts on a callback -/
  | heeded {a : Action ε σ} {callback : Callback} {op : Operation} : callback ∈ a.heeded c →
    callback.operation? = some op → Asks c a op

variable {c : Connection ε σ} {a : Action ε σ} {s s' : StreamSet}

/-- Upkeep is among what any action asks for. -/
theorem Upkeep.asks (h : Upkeep s s') : s.Works (a.Asks c) s' := h.mono fun _ hop => .upkeep hop

/-- What the callbacks heeded ask for, the action asks for. -/
theorem AskedBy.asks {op : Operation} (h : AskedBy (a.heeded c) op) : a.Asks c op := by
  rcases h with hop | ⟨callback, hmem, hop⟩
  · exact .upkeep hop
  · exact .heeded hmem hop

/-- The same for any number of operations. -/
theorem asks_of_askedBy (h : s.Works (AskedBy (a.heeded c)) s') : s.Works (a.Asks c) s' :=
  h.mono fun _ => AskedBy.asks

/-- Granting credit is the engine's business. -/
theorem streams_returnCredit (c : Connection ε σ) (id : StreamId) (n : Nat) :
    (c.returnCredit id n).streams = c.streams := by
  rw [returnCredit]
  split <;> rfl

/-- A connection reads as its streams do, and takes the events. -/
theorem upkeep_read (c : Connection ε σ) (id : StreamId) (maxLen : Nat) (w : σ) :
    (c.read id maxLen w).1.1.toOption = (c.streams.read id maxLen).1.toOption ∧
      Upkeep (c.streams.read id maxLen).2 (c.read id maxLen w).1.2.streams := by
  rw [read]
  rcases c.streams.read id maxLen with ⟨e | out, s⟩
  · exact ⟨rfl, .refl⟩
  · refine ⟨rfl, ?_⟩
    have hflushed := ({ c with streams := s }.returnCredit id out.data.length).upkeep_flush w
    rwa [streams_returnCredit] at hflushed

/-- What an action does to the streams is what it may ask for. -/
theorem works_perform (m : Moment ε σ) (hfit : m.connection.TimersFit) (a : Action ε σ) :
    m.connection.streams.Works (a.Asks m.connection) (m.perform a).2.connection.streams := by
  have hasked {a : Action ε σ} {op : Operation} (h : a.Asks m.connection op) :
      m.connection.streams.Works (a.Asks m.connection) (m.connection.streams.perform op).2 :=
    Works.single m.connection.streams op h
  have hflush (c : Connection ε σ) {a : Action ε σ}
      (h : m.connection.streams.Works (a.Asks m.connection) c.streams) :
      m.connection.streams.Works (a.Asks m.connection) (c.flush m.world).1.2.streams :=
    h.trans (c.upkeep_flush m.world).asks
  have hopen (h : ¬ m.connection.state.isClosing = true) : m.connection.state.isClosing = false :=
    Bool.eq_false_iff.2 h
  -- a call asks for its own operation and the flush after it only for upkeep; what is
  -- refused on the way asks for nothing
  cases a with
  | openStream d =>
    rw [Moment.perform, openStream]
    split
    · exact .refl
    next h =>
    have hop := hasked (.openStream d (hopen h))
    change Works _ _ (m.connection.streams.openStream d).2 at hop
    rcases heq : m.connection.streams.openStream d with ⟨e | id, s⟩
    · rwa [heq] at hop
    · rwa [heq] at hop
  | write id data fin =>
    rw [Moment.perform, write]
    split
    · exact .refl
    next h =>
    have hop := hasked (.write id data fin (hopen h))
    change Works _ _ (m.connection.streams.write id data fin).2 at hop
    rcases heq : m.connection.streams.write id data fin with ⟨e | out, s⟩
    · rwa [heq] at hop
    · rw [heq] at hop
      dsimp only
      split
      · exact hop
      · exact hop
  | read id maxLen =>
    have hop := hasked (.read id maxLen)
    exact hop.trans (m.connection.upkeep_read id maxLen m.world).2.asks
  | resetStream id errorCode =>
    rw [Moment.perform, resetStream]
    split
    · exact .refl
    next h =>
    have hop := hasked (.resetStream id errorCode (hopen h))
    change Works _ _ (m.connection.streams.resetStream id).2 at hop
    rcases heq : m.connection.streams.resetStream id with ⟨e | _, s⟩
    · rwa [heq] at hop
    · rw [heq] at hop
      exact hflush _ hop
  | stopSending id errorCode =>
    rw [Moment.perform, stopSending]
    split
    · exact .refl
    next h =>
    have hop := hasked (.stopSending id errorCode (hopen h))
    change Works _ _ (m.connection.streams.stopSending id).2 at hop
    rcases heq : m.connection.streams.stopSending id with ⟨e | released, s⟩
    · rwa [heq] at hop
    · rw [heq] at hop
      exact hflush _ hop
  | close errorCode reason now =>
    have hclosed := hflush _ (m.connection.upkeep_announceClose
      ⟨.localClose, errorCode, reason⟩ now).asks (a := .close errorCode reason now)
    rw [Moment.perform, close]
    cases m.connection.state with
    | draining => exact .refl
    | closed => exact .refl
    | _ => exact hclosed
  | ingest datagram now =>
    rw [Moment.perform, ingest]
    split
    · exact .refl
    next hlive =>
    dsimp only
    split
    · exact .refl
    next hdraining =>
    refine hflush _ (asks_of_askedBy ?_)
    have hprocessed := (m.connection.counted datagram).works_process datagram now
    -- past both guards the connection hears its callbacks, so what it heeds is what the
    -- engine reported
    have hrunning : ¬ m.connection.state.isClosing = true := fun hclosing =>
      (isClosing_iff.1 hclosing).elim hdraining hlive
    rw [Action.heeded, if_neg hrunning]
    exact hprocessed
  | produceDatagrams now =>
    rw [Moment.perform, produceDatagrams]
    split
    · rcases m.connection.adapter.produceDatagrams now with ⟨e | datagrams, a⟩
      · exact hflush _ (upkeep_onTransportError { m.connection with adapter := a } e now).asks
      · exact .refl
    · exact .refl
  | onTimeout now =>
    by_cases hlive : m.connection.state = .closed
    · rw [Moment.perform, onTimeout, if_pos hlive]
      exact .refl
    · rw [Moment.perform, onTimeout_eq hlive]
      exact hflush _ (asks_of_askedBy (works_timedOut hfit hlive now))
  | flush => exact (m.connection.upkeep_flush m.world).asks
  | pollEvent => exact (m.connection.upkeep_pollEvent m.world).asks
  | setConnectionHandler h => exact .refl
  | setDefaultStreamHandler h => exact .refl
  | setStreamHandler id h => exact .refl
  | removeStreamHandler id => exact .refl
  | modifyEngine f => exact .refl

end

end Connection

end QuicHost
