import QuicHost.Proofs.Connection.Session
import QuicHost.Proofs.Dispatcher.Feeding

/-!
# When events are delivered

Whatever a host does with a connection, the connection does its work first, which
queues events and delivers none (`Queues`), and then it may deliver all that is
queued, once (`Comes`). So every action has one delivery loop at most, and all
that is known about the loop is known about actions (`Moment.Delivers`).

A connection that is over has nothing queued and takes nothing more. It is silent
from then on, whoever holds it.
-/

namespace QuicHost.Connection

variable {ε σ : Type}

/-! ## Work that delivers nothing

All parts of an action but delivery. They feed the dispatcher, and whoever ends the
connection seals it. -/

/-- Nothing is delivered. Events may be queued, and whoever ends has queued the
last one. -/
structure Queues (c c' : Connection ε σ) : Prop where
  /-- events were queued, and at most handlers of streams were dropped -/
  fed : c.dispatcher.Fed c'.dispatcher
  /-- whoever ends has sealed the dispatcher -/
  closed : c'.state = .closed → c.state = .closed ∨ c'.dispatcher.sealed = true

section

variable {c c' c'' : Connection ε σ} {now : Instant}

theorem Queues.of_same (hdispatcher : c'.dispatcher = c.dispatcher)
    (hstate : c'.state = .closed → c.state = .closed) : c.Queues c' :=
  ⟨hdispatcher ▸ .refl, fun h => .inl (hstate h)⟩

theorem Queues.refl (c : Connection ε σ) : c.Queues c := .of_same rfl fun h => h

/-- What is fed in each part is fed in both. -/
theorem Queues.trans (h : c.Queues c') (h' : c'.Queues c'') : c.Queues c'' := by
  refine ⟨h.fed.trans h'.fed, fun hclosed => ?_⟩
  rcases h'.closed hclosed with hclosed | hsealed
  · rcases h.closed hclosed with hclosed | hsealed
    · exact .inl hclosed
    · exact .inr (h'.fed.of_sealed hsealed).1
  · exact .inr hsealed

theorem queues_pump (c : Connection ε σ) : c.Queues c.pump :=
  ⟨EventDispatcher.fed_foldl_push _ _, .inl⟩

theorem queues_emit (c : Connection ε σ) (e : Event) : c.Queues (c.emit e) :=
  ⟨c.queues_pump.fed.push e, .inl⟩

theorem queues_touch (c : Connection ε σ) (now : Instant) : c.Queues (c.touch now) := by
  rw [touch]
  split
  · exact .refl c
  · exact .of_same rfl fun h => h

/-- That the connection drains is queued. -/
theorem queues_enterDraining (c : Connection ε σ) (reason : CloseReason) (now : Instant) :
    c.Queues (c.enterDraining reason now) := by
  cases hopen : c.state.isClosing with
  | true =>
    have hsame : c.enterDraining reason now = c := if_pos hopen
    rw [hsame]
    exact .refl c
  | false =>
    rw [enterDraining_eq hopen]
    exact ⟨c.queues_pump.fed.push _, fun h => ConnectionState.noConfusion h⟩

/-- Whoever ends seals the queue behind the last event. -/
theorem queues_finishWith (c : Connection ε σ) (reason : CloseReason) :
    c.Queues (c.finishWith reason) := by
  by_cases hclosed : c.state = .closed
  · have hsame : c.finishWith reason = { c with closeReason := some reason } := if_pos hclosed
    rw [hsame]
    exact .of_same rfl fun h => h
  · rw [finishWith_eq hclosed]
    exact ⟨.sealWith .refl _, fun _ => .inr (EventDispatcher.sealed_sealWith _ _)⟩

/-- Whoever has drained seals the queue behind the last event. -/
theorem queues_finish (c : Connection ε σ) : c.Queues c.finish := by
  by_cases hclosed : c.state = .closed
  · have hsame : c.finish = c := if_pos hclosed
    rw [hsame]
    exact .refl c
  · rw [finish_eq hclosed]
    exact ⟨.sealWith .refl _, fun _ => .inr (EventDispatcher.sealed_sealWith _ _)⟩

/-- Silence queues that the connection drains, or the last event. -/
theorem queues_onIdleTimeout (c : Connection ε σ) (now : Instant) :
    c.Queues (c.onIdleTimeout now) := by
  rw [onIdleTimeout]
  split
  · exact c.queues_finishWith _
  split
  · exact c.queues_enterDraining _ now
  · exact .refl c

/-- That the handshake is complete is queued. -/
theorem queues_completeHandshake [PacketEngine ε] (c : Connection ε σ)
    (peer : TransportParameters) (now : Instant) : c.Queues (c.completeHandshake peer now) := by
  cases hnew : c.handshakeComplete with
  | true =>
    have hsame : c.completeHandshake peer now = c := if_pos hnew
    rw [hsame]
    exact .refl c
  | false =>
    rw [completeHandshake_eq hnew]
    exact ⟨c.queues_pump.fed.push _, fun h => ConnectionState.noConfusion h⟩

variable [PacketEngine ε]

/-- A failure is queued, and what follows from it. -/
theorem queues_onTransportError (c : Connection ε σ) (e : TransportError) (now : Instant) :
    c.Queues (c.onTransportError e now) := by
  have hcounted : c.Queues
      { c with stats.transportErrors := c.stats.transportErrors + 1 } := .of_same rfl fun h => h
  have hreported : c.Queues (c.reportError e) := hcounted.trans (queues_emit _ _)
  rw [onTransportError_eq]
  cases e with
  | resourceExhausted => exact hreported.trans (queues_finishWith _ _)
  | protocolViolation code =>
    dsimp only
    split
    · exact hreported
    · have hannounced : c.Queues { c.reportError (.protocolViolation code) with
          adapter := (c.reportError (.protocolViolation code)).adapter.modifyEngine fun e =>
            PacketEngine.close e code []
          closePending := true } := hreported.trans (.of_same rfl fun h => h)
      exact hannounced.trans (queues_enterDraining _ _ now)
  | handshakeFailure code =>
    dsimp only
    split
    · exact hreported.trans (queues_finishWith _ _)
    · exact hreported
  | malformedPacket => exact hreported
  | versionMismatch => exact hreported

theorem queues_extendConnection (c : Connection ε σ) (released : Nat) :
    c.Queues (c.extendConnection released) := by
  rw [extendConnection]
  split
  · exact .refl c
  · exact .of_same rfl fun h => h

/-- Acting on a callback delivers nothing. -/
theorem queues_applyCallback (c : Connection ε σ) (now : Instant) (callback : Callback) :
    c.Queues (c.applyCallback now callback).2 := by
  have hstreams (s : StreamSet) : c.Queues { c with streams := s } := .of_same rfl fun h => h
  cases callback with
  | handshakeCompleted peer => exact c.queues_completeHandshake peer now
  | streamData id offset data fin =>
    rw [applyCallback]
    rcases c.streams.onStreamData id offset data fin with ⟨e | released, s⟩
    · exact hstreams s
    · exact (hstreams s).trans (queues_extendConnection _ released)
  | streamReset id errorCode finalSize =>
    rw [applyCallback]
    rcases c.streams.onStreamReset id errorCode finalSize with ⟨e | released, s⟩
    · exact hstreams s
    · exact (hstreams s).trans (queues_extendConnection _ released)
  | stopSending id errorCode =>
    rw [applyCallback]
    rcases c.streams.onStopSending id errorCode with ⟨e | _ | _, s⟩
    · exact hstreams s
    · exact hstreams s
    · exact .of_same rfl fun h => h
  | connectionClose errorCode reason => exact c.queues_enterDraining _ now
  | _ => exact hstreams _

/-- Acting on callbacks delivers nothing, by induction on their list. -/
theorem queues_applyCallbacks (c : Connection ε σ) (now : Instant) (callbacks : List Callback) :
    c.Queues (c.applyCallbacks now callbacks) := by
  induction callbacks generalizing c with
  | nil => exact .refl c
  | cons callback rest ih =>
    have happlied := c.queues_applyCallback now callback
    rw [applyCallbacks]
    split
    · exact .refl c
    · rcases heq : c.applyCallback now callback with ⟨e | _, c'⟩ <;> rw [heq] at happlied
      · exact ((happlied.trans (c'.queues_onTransportError e now)).trans
          (queues_pump _)).trans (ih _)
      · exact (happlied.trans (queues_pump c')).trans (ih _)

/-- Processing a datagram delivers nothing. -/
theorem queues_process (c : Connection ε σ) (datagram : Bytes) (now : Instant) :
    c.Queues (c.process datagram now) := by
  rw [process]
  rcases c.adapter.ingest datagram now with ⟨e | callbacks, a⟩
  · have hdrained : c.Queues { c with adapter := a.drainCallbacks.2 } := .of_same rfl fun h => h
    exact (hdrained.trans (queues_applyCallbacks _ now _)).trans (queues_onTransportError _ e now)
  · have hbegun : c.Queues { c with
        adapter := a
        state := if c.state = .initiating then .handshaking else c.state } := by
      refine .of_same rfl fun h => ?_
      dsimp only at h
      split at h
      · cases h
      · exact h
    exact (hbegun.trans (queues_touch _ now)).trans (queues_applyCallbacks _ now callbacks)

/-- Running the engine's timer delivers nothing. -/
theorem queues_runEngineTimer (c : Connection ε σ) (now : Instant) :
    c.Queues (c.runEngineTimer now) := by
  rw [runEngineTimer]
  rcases c.adapter.handleExpiry now with ⟨e | callbacks, a⟩
  · have hran : c.Queues { c with adapter := a } := .of_same rfl fun h => h
    exact hran.trans (queues_onTransportError _ e now)
  · have hran : c.Queues { c with adapter := a } := .of_same rfl fun h => h
    exact hran.trans (queues_applyCallbacks _ now callbacks)

/-- A timer delivers nothing. -/
theorem queues_fire (c : Connection ε σ) (now : Instant) (timer : Timer) :
    c.Queues (c.fire now timer) := by
  have hcleared (timers : Deadlines) : c.Queues { c with timers := timers } :=
    .of_same rfl fun h => h
  rw [fire.eq_def]
  split
  · exact .refl c
  · cases timer with
    | drain => exact c.queues_finish
    | idle => exact (hcleared _).trans (queues_onIdleTimeout _ now)
    | engine =>
      dsimp only
      split
      · exact hcleared _
      · exact (hcleared _).trans (queues_runEngineTimer _ now)

/-- Timers deliver nothing, by induction on those that are due. -/
theorem queues_timedOut (c : Connection ε σ) (now : Instant) : c.Queues (c.timedOut now) := by
  have hfired (timers : List Timer) : ∀ c : Connection ε σ,
      c.Queues (timers.foldl (fun c timer => c.fire now timer) c) := by
    induction timers with
    | nil => exact .refl
    | cons timer rest ih => exact fun c => (c.queues_fire now timer).trans (ih _)
  have hcurrent : c.Queues { c with timers := c.currentTimers } := .of_same rfl fun h => h
  exact hcurrent.trans (hfired _ _)

/-! ## What an action comes to

Each action is work, and then one delivery or none. A connection that ends in an action
has delivered in the same action. -/

/-- Whether an action installs a handler. -/
def Action.installs : Action ε σ → Bool
  | setConnectionHandler _ => true
  | setDefaultStreamHandler _ => true
  | setStreamHandler _ _ => true
  | _ => false

/-- The connection does its work, and then it may deliver all that is queued. It
never ends without delivering. -/
inductive Comes (m : Moment ε σ) : Moment ε σ → Prop where
  /-- nothing is delivered -/
  | quiet {c : Connection ε σ} (hfed : m.connection.dispatcher.Fed c.dispatcher)
      (hclosed : c.state = .closed → m.connection.state = .closed) : Comes m ⟨c, m.world⟩
  /-- everything is delivered -/
  | flushed {c : Connection ε σ} (hqueues : m.connection.Queues c) :
      Comes m ⟨(c.flush m.world).1.2, (c.flush m.world).2⟩
  /-- everything is delivered, and an event fetched -/
  | polled : Comes m ⟨(m.connection.pollEvent m.world).1.2, (m.connection.pollEvent m.world).2⟩

omit [PacketEngine ε] in
theorem comes_of_same {m : Moment ε σ} (hdispatcher : c.dispatcher = m.connection.dispatcher)
    (hstate : c.state = m.connection.state) : Comes m ⟨c, m.world⟩ :=
  .quiet (hdispatcher ▸ .refl) fun h => hstate.symm.trans h

theorem comes_openStream (m : Moment ε σ) (d : Direction) :
    Comes m (m.perform (.openStream d)).2 := by
  rw [Moment.perform, openStream]
  split
  · exact comes_of_same rfl rfl
  · rcases m.connection.streams.openStream d with ⟨e | id, s⟩ <;> exact comes_of_same rfl rfl

/-- Writing delivers nothing. -/
theorem comes_write (m : Moment ε σ) (id : StreamId) (data : Bytes) (fin : Bool) :
    Comes m (m.perform (.write id data fin)).2 := by
  rw [Moment.perform, write]
  split
  · exact comes_of_same rfl rfl
  · rcases m.connection.streams.write id data fin with ⟨e | out, s⟩
    · exact comes_of_same rfl rfl
    · dsimp only
      split <;> exact comes_of_same rfl rfl

/-- A read delivers what it brings, which may be the end of its stream. -/
theorem comes_read (m : Moment ε σ) (id : StreamId) (maxLen : Nat) :
    Comes m (m.perform (.read id maxLen)).2 := by
  rw [Moment.perform, read]
  rcases m.connection.streams.read id maxLen with ⟨e | out, s⟩
  · exact comes_of_same rfl rfl
  · refine .flushed (c := returnCredit _ id out.data.length) ?_
    rw [returnCredit]
    split <;> exact .of_same rfl fun h => h

/-- Abandoning a sending half may end a stream, which is delivered. -/
theorem comes_resetStream (m : Moment ε σ) (id : StreamId) (errorCode : Nat) :
    Comes m (m.perform (.resetStream id errorCode)).2 := by
  rw [Moment.perform, resetStream]
  split
  · exact comes_of_same rfl rfl
  · rcases m.connection.streams.resetStream id with ⟨e | _, s⟩
    · exact comes_of_same rfl rfl
    · exact .flushed (.of_same rfl fun h => h)

/-- Stopping a receiving half may end a stream, which is delivered. -/
theorem comes_stopSending (m : Moment ε σ) (id : StreamId) (errorCode : Nat) :
    Comes m (m.perform (.stopSending id errorCode)).2 := by
  rw [Moment.perform, stopSending]
  split
  · exact comes_of_same rfl rfl
  · rcases m.connection.streams.stopSending id with ⟨e | released, s⟩
    · exact comes_of_same rfl rfl
    · exact .flushed (.of_same rfl fun h => h)

/-- Closing is told at once. -/
theorem comes_close (m : Moment ε σ) (errorCode : Nat) (reason : Bytes) (now : Instant) :
    Comes m (m.perform (.close errorCode reason now)).2 := by
  have hannounced : m.connection.Queues
      (m.connection.announceClose ⟨.localClose, errorCode, reason⟩ now) := by
    have hsaid : m.connection.Queues { m.connection with
        adapter := m.connection.adapter.modifyEngine fun e => PacketEngine.close e errorCode reason
        closePending := true } := .of_same rfl fun h => h
    exact hsaid.trans (queues_enterDraining _ _ now)
  have htold := Comes.flushed hannounced
  rw [Moment.perform, close]
  cases m.connection.state with
  | closed => exact comes_of_same rfl rfl
  | draining => exact comes_of_same rfl rfl
  | _ => exact htold

/-- What a datagram brings is delivered after all of it was acted on. -/
theorem comes_ingest (m : Moment ε σ) (datagram : Bytes) (now : Instant) :
    Comes m (m.perform (.ingest datagram now)).2 := by
  rw [Moment.perform, ingest]
  split
  · exact comes_of_same rfl rfl
  dsimp only
  split
  · exact comes_of_same rfl rfl
  · have hcounted : m.connection.Queues { m.connection with
        stats.datagramsReceived := m.connection.stats.datagramsReceived + 1
        stats.bytesReceived := m.connection.stats.bytesReceived + datagram.length } :=
      .of_same rfl fun h => h
    exact .flushed (hcounted.trans (queues_process _ datagram now))

/-- Handing out datagrams delivers if the engine fails. -/
theorem comes_produceDatagrams (m : Moment ε σ) (now : Instant) :
    Comes m (m.perform (.produceDatagrams now)).2 := by
  rw [Moment.perform, produceDatagrams]
  split
  · rcases m.connection.adapter.produceDatagrams now with ⟨e | datagrams, a⟩
    · have hasked : m.connection.Queues { m.connection with adapter := a } :=
        .of_same rfl fun h => h
      exact .flushed (hasked.trans (queues_onTransportError _ e now))
    · refine .quiet .refl fun h => ?_
      dsimp only at h
      split at h
      · cases h
      · exact h
  · exact comes_of_same rfl rfl

/-- What timers bring is delivered after all of them have fired. -/
theorem comes_onTimeout (m : Moment ε σ) (now : Instant) :
    Comes m (m.perform (.onTimeout now)).2 := by
  rw [Moment.perform]
  by_cases hclosed : m.connection.state = .closed
  · rw [onTimeout, if_pos hclosed]
    exact comes_of_same rfl rfl
  · rw [onTimeout_eq hclosed]
    exact .flushed (m.connection.queues_timedOut now)

/-- Every action comes to work and then a delivery. To install a handler changes who is
delivered to, and stands apart. -/
theorem comes_perform (m : Moment ε σ) {a : Action ε σ} (hinstalls : a.installs = false) :
    Comes m (m.perform a).2 := by
  cases a with
  | openStream d => exact comes_openStream m d
  | write id data fin => exact comes_write m id data fin
  | read id maxLen => exact comes_read m id maxLen
  | resetStream id errorCode => exact comes_resetStream m id errorCode
  | stopSending id errorCode => exact comes_stopSending m id errorCode
  | close errorCode reason now => exact comes_close m errorCode reason now
  | ingest datagram now => exact comes_ingest m datagram now
  | produceDatagrams now => exact comes_produceDatagrams m now
  | onTimeout now => exact comes_onTimeout m now
  | flush => exact .flushed (.refl _)
  | pollEvent => exact .polled
  | setConnectionHandler h => cases hinstalls
  | setDefaultStreamHandler h => cases hinstalls
  | setStreamHandler id h => cases hinstalls
  | removeStreamHandler id => exact .quiet (.removeStreamHandler .refl id) fun h => h
  | modifyEngine f => exact comes_of_same rfl rfl

end

/-! ## What is delivered

What one delivery hands out, whichever action it belongs to. -/

/-- What is delivered between two moments: nothing, or in one loop all that is
queued by then. -/
inductive Moment.Delivers (m m' : Moment ε σ) : List EventDispatcher.Delivery → Prop where
  /-- nothing -/
  | none (hfed : m.connection.dispatcher.Fed m'.connection.dispatcher)
      (hworld : m'.world = m.world) : Delivers m m' []
  /-- everything, after which an event may be fetched from the mailbox -/
  | all {d d' : EventDispatcher σ} {log : List EventDispatcher.Delivery}
      (hfed : m.connection.dispatcher.Fed d) (hempties : d.Empties m.world log d' m'.world)
      (hafter : m'.connection.dispatcher =
        { d' with mailbox := m'.connection.dispatcher.mailbox }) : Delivers m m' log

section

variable {m m' : Moment ε σ} {log : List EventDispatcher.Delivery}

/-- Whatever an action comes to, there is a list of what it delivers. -/
theorem Comes.exists_delivers (h : Comes m m') : ∃ log, m.Delivers m' log := by
  cases h with
  | quiet hfed _ => exact ⟨[], .none hfed rfl⟩
  | @flushed c hqueues =>
    exact ⟨_, .all (hqueues.fed.trans c.queues_pump.fed)
      (c.pump.dispatcher.empties_rounds m.world) rfl⟩
  | polled =>
    exact ⟨_, .all m.connection.queues_pump.fed
      (m.connection.pump.dispatcher.empties_rounds m.world) rfl⟩

namespace Moment.Delivers

/-- Everybody who was told is told. -/
theorem unattended (h : m.Delivers m' log) (hm : m.connection.dispatcher.Unattended) :
    m'.connection.dispatcher.Unattended ∧
      m'.connection.dispatcher.connectionHandler = m.connection.dispatcher.connectionHandler := by
  cases h with
  | none hfed _ => exact ⟨hm.alike hfed.alike, hfed.alike.connectionHandler⟩
  | all hfed hempties hafter =>
    obtain ⟨hunattended, hconnection⟩ := (hm.alike hfed.alike).empties hempties
    rw [hafter]
    exact ⟨⟨hunattended.defaultStream, hunattended.streams⟩,
      hconnection.trans hfed.alike.connectionHandler⟩

/-- Every delivery is counted. -/
theorem delivered (h : m.Delivers m' log) :
    m'.connection.eventsDelivered = m.connection.eventsDelivered + log.length := by
  rw [eventsDelivered, eventsDelivered]
  cases h with
  | none hfed _ => exact hfed.alike.delivered
  | all hfed hempties hafter => rw [hafter, hempties.delivered, hfed.alike.delivered]

end Moment.Delivers

/-! ## Connections that are over

A connection that is over was sealed and has delivered, so that nothing is queued. It is
mute from then on. -/

/-- Whether nothing is queued, and nothing will be. -/
structure Hushed (c : Connection ε σ) : Prop where
  sealed : c.dispatcher.sealed = true
  queue : c.dispatcher.queue = []

theorem Hushed.fed {c c' : Connection ε σ} (h : c.Hushed)
    (hfed : c.dispatcher.Fed c'.dispatcher) : c'.Hushed := by
  obtain ⟨hsealed, hqueue⟩ := hfed.of_sealed h.sealed
  exact ⟨hsealed, hqueue.trans h.queue⟩

/-- Nothing is delivered any more. -/
theorem Moment.Delivers.hushed (h : m.Delivers m' log) (hm : m.connection.Hushed) :
    m'.connection.Hushed ∧ m'.world = m.world ∧ log = [] := by
  cases h with
  | none hfed hworld => exact ⟨hm.fed hfed, hworld, rfl⟩
  | all hfed hempties hafter =>
    obtain ⟨hsealed, hqueue⟩ := hfed.of_sealed hm.sealed
    obtain ⟨hnil, rfl, hworld⟩ := hempties.eq_of_queue_eq_nil (hqueue.trans hm.queue)
    refine ⟨⟨?_, ?_⟩, hworld, hnil⟩ <;> rw [hafter]
    · exact hsealed
    · exact hqueue.trans hm.queue

/-- Whether a connection that is over has said its last word. -/
def Rested (c : Connection ε σ) : Prop := c.state = .closed → c.Hushed

/-- Whoever ends delivers the last word. -/
theorem Comes.rested (h : Comes m m') (hm : m.connection.Rested) : m'.connection.Rested := by
  -- once everything is delivered, it is enough to be sealed
  have hemptied {c : Connection ε σ} (hsealed : c.dispatcher.sealed = true) :
      (c.pump.dispatcher.dispatch m.world).1.2.sealed = true ∧
        (c.pump.dispatcher.dispatch m.world).1.2.queue = [] := by
    have hempties := c.pump.dispatcher.empties_rounds m.world
    exact ⟨hempties.passages.sealed.trans (c.queues_pump.fed.of_sealed hsealed).1,
      hempties.queue⟩
  cases h with
  | quiet hfed hclosed => exact fun h => (hm (hclosed h)).fed hfed
  | @flushed c hqueues =>
    intro h
    have hsealed : c.dispatcher.sealed = true := by
      rcases hqueues.closed h with hclosed | hsealed
      · exact (hqueues.fed.of_sealed (hm hclosed).sealed).1
      · exact hsealed
    exact ⟨(hemptied hsealed).1, (hemptied hsealed).2⟩
  | polled =>
    intro h
    have hsealed := (hm h).sealed
    exact ⟨(hemptied hsealed).1, (hemptied hsealed).2⟩

variable [PacketEngine ε]

/-- Whatever is done then, nobody is told anything, not even a new handler. -/
theorem Hushed.perform (h : m.connection.Hushed) (a : Action ε σ) :
    (m.perform a).2.connection.Hushed ∧ (m.perform a).2.world = m.world ∧
      (m.perform a).2.connection.eventsDelivered = m.connection.eventsDelivered := by
  cases hinstalls : a.installs with
  | true =>
    cases a with
    | setConnectionHandler handle => exact ⟨⟨h.sealed, h.queue⟩, rfl, rfl⟩
    | setDefaultStreamHandler handle => exact ⟨⟨h.sealed, h.queue⟩, rfl, rfl⟩
    | setStreamHandler id handle => exact ⟨⟨h.sealed, h.queue⟩, rfl, rfl⟩
    | _ => cases hinstalls
  | false =>
    obtain ⟨log, hdelivers⟩ := (comes_perform m hinstalls).exists_delivers
    obtain ⟨hhushed, hworld, rfl⟩ := hdelivers.hushed h
    exact ⟨hhushed, hworld, hdelivers.delivered⟩

/-- Whether a connection tells nobody anything any more, whatever is done with it. -/
def Mute (c : Connection ε σ) : Prop :=
  ∀ (w : σ) (actions : List (Action ε σ)),
    ((⟨⟨c, w⟩, []⟩ : Session ε σ).steps actions).moment.world = w ∧
    ((⟨⟨c, w⟩, []⟩ : Session ε σ).steps actions).connection.eventsDelivered = c.eventsDelivered

/-- Whoever is hushed stays mute, by induction on the actions. -/
theorem Session.mute_of_hushed {s : Session ε σ} (h : s.connection.Hushed)
    (actions : List (Action ε σ)) : (s.steps actions).moment.world = s.moment.world ∧
      (s.steps actions).connection.eventsDelivered = s.connection.eventsDelivered := by
  induction actions generalizing s with
  | nil => exact ⟨rfl, rfl⟩
  | cons a rest ih =>
    obtain ⟨hhushed, hworld, hdelivered⟩ := Hushed.perform (m := s.moment) h a
    obtain ⟨hworld', hdelivered'⟩ := ih (s := s.step a) hhushed
    exact ⟨hworld'.trans hworld, hdelivered'.trans hdelivered⟩

theorem Hushed.mute {c : Connection ε σ} (h : c.Hushed) : c.Mute :=
  fun w actions => Session.mute_of_hushed (s := ⟨⟨c, w⟩, []⟩) h actions

end

end QuicHost.Connection
