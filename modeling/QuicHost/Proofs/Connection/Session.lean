import QuicHost.Proofs.Connection.Causes
import QuicHost.Proofs.Connection.Run

/-!
# Sessions with any engine

A session is a connection over any engine whatsoever, together with everything
its host has done with it. The host may do what it likes at any time it likes; it
may also get hold of the engine and change it behind the connection's back.

`Outcome` says what one action comes to: a chain of moves, whose causes the
action may have, and then a delivery of events, which moves the connection no
more.
-/

namespace QuicHost.Connection

variable {ε σ : Type}

/-! ## Actions

Everything that a host can do with a connection, and with the handlers of its application. -/

/-- What a host can do with a connection. -/
inductive Action (ε σ : Type) where
  /-- opens a stream -/
  | openStream (d : Direction)
  /-- writes on a stream -/
  | write (id : StreamId) (data : Bytes) (fin : Bool)
  /-- reads from a stream -/
  | read (id : StreamId) (maxLen : Nat)
  /-- abandons a sending half -/
  | resetStream (id : StreamId) (errorCode : Nat)
  /-- abandons a receiving half -/
  | stopSending (id : StreamId) (errorCode : Nat)
  /-- closes the connection -/
  | close (errorCode : Nat) (reason : Bytes) (now : Instant)
  /-- hands over a datagram that arrived -/
  | ingest (datagram : Bytes) (now : Instant)
  /-- asks for datagrams to be sent -/
  | produceDatagrams (now : Instant)
  /-- says that a deadline has come -/
  | onTimeout (now : Instant)
  /-- delivers events to handlers -/
  | flush
  /-- fetches an event -/
  | pollEvent
  /-- installs the handler for events about the connection -/
  | setConnectionHandler (h : EventHandler σ)
  /-- installs the handler for streams without a handler of their own -/
  | setDefaultStreamHandler (h : EventHandler σ)
  /-- installs the handler of one stream -/
  | setStreamHandler (id : StreamId) (h : EventHandler σ)
  /-- removes the handler of one stream -/
  | removeStreamHandler (id : StreamId)
  /-- changes the engine -/
  | modifyEngine (f : ε → ε)

/-- The event that an answer hands out. -/
def Answer.event? : Answer → Option Event
  | .event e => e
  | _ => Option.none

/-- A connection and the application's state, on which handlers act. -/
structure Moment (ε σ : Type) where
  /-- the connection -/
  connection : Connection ε σ
  /-- the application's state -/
  world : σ

namespace Action

/-- The time that the host tells. Actions without one do nothing for which it
would matter. -/
def now : Action ε σ → Instant
  | close _ _ now => now
  | ingest _ now => now
  | produceDatagrams now => now
  | onTimeout now => now
  | _ => ⟨0⟩

/-- What happens to the handlers before anything else. -/
def equip : Action ε σ → EventDispatcher σ → EventDispatcher σ
  | setConnectionHandler h, d => d.setConnectionHandler h
  | setDefaultStreamHandler h, d => d.setDefaultStreamHandler h
  | setStreamHandler id h, d => d.setStreamHandler id h
  | removeStreamHandler id, d => d.removeStreamHandler id
  | _, d => d

/-- Whether a handler that is installed writes down what it is handed. -/
def Notes (note : σ → List Event) : Action ε σ → Prop
  | setConnectionHandler h => EventDispatcher.Notes note h
  | setDefaultStreamHandler h => EventDispatcher.Notes note h
  | setStreamHandler _ h => EventDispatcher.Notes note h
  | _ => True

end Action

section

variable [PacketEngine ε]

/-- Acts on a connection. -/
def Moment.perform (m : Moment ε σ) : Action ε σ → Answer × Moment ε σ
  | .openStream d =>
    let r := m.connection.openStream d
    (.opened r.1, ⟨r.2, m.world⟩)
  | .write id data fin =>
    let r := m.connection.write id data fin
    (.written r.1, ⟨r.2, m.world⟩)
  | .read id maxLen =>
    let r := m.connection.read id maxLen m.world
    (.read r.1.1, ⟨r.1.2, r.2⟩)
  | .resetStream id errorCode =>
    let r := m.connection.resetStream id errorCode m.world
    (.done r.1.1, ⟨r.1.2, r.2⟩)
  | .stopSending id errorCode =>
    let r := m.connection.stopSending id errorCode m.world
    (.done r.1.1, ⟨r.1.2, r.2⟩)
  | .close errorCode reason now =>
    let r := m.connection.close errorCode reason now m.world
    (.done r.1.1, ⟨r.1.2, r.2⟩)
  | .ingest datagram now =>
    let r := m.connection.ingest datagram now m.world
    (.done r.1.1, ⟨r.1.2, r.2⟩)
  | .produceDatagrams now =>
    let r := m.connection.produceDatagrams now m.world
    (.datagrams r.1.1, ⟨r.1.2, r.2⟩)
  | .onTimeout now =>
    let r := m.connection.onTimeout now m.world
    (.none, ⟨r.1, r.2⟩)
  | .flush =>
    let r := m.connection.flush m.world
    (.delivered r.1.1, ⟨r.1.2, r.2⟩)
  | .pollEvent =>
    let r := m.connection.pollEvent m.world
    (.event r.1.1, ⟨r.1.2, r.2⟩)
  | .modifyEngine f =>
    (.none, ⟨{ m.connection with adapter := m.connection.adapter.modifyEngine f }, m.world⟩)
  | a => (.none, ⟨m.connection.modifyDispatcher a.equip, m.world⟩)

/-! ## Sessions

A session keeps what was done, with the state before each action, so that statements about
whole sessions can speak of any moment in them. -/

/-- An action, and what it was done to. -/
structure Entry (ε σ : Type) where
  /-- what it was done to -/
  before : Moment ε σ
  /-- the action -/
  action : Action ε σ

namespace Entry

/-- What came of the action. -/
def after (e : Entry ε σ) : Moment ε σ := (e.before.perform e.action).2

/-- What was answered. -/
def answer (e : Entry ε σ) : Answer := (e.before.perform e.action).1

end Entry

/-- A connection with the application's state and all that was done so far,
oldest first. -/
structure Session (ε σ : Type) where
  /-- how matters stand -/
  moment : Moment ε σ
  /-- what was done -/
  history : List (Entry ε σ) := []

namespace Session

/-- The connection. -/
def connection (s : Session ε σ) : Connection ε σ := s.moment.connection

/-- Does one more thing. -/
def step (s : Session ε σ) (a : Action ε σ) : Session ε σ :=
  ⟨(s.moment.perform a).2, s.history ++ [⟨s.moment, a⟩]⟩

/-- Does one thing after the other. -/
def steps (s : Session ε σ) (actions : List (Action ε σ)) : Session ε σ := actions.foldl step s

theorem steps_concat (s : Session ε σ) (actions : List (Action ε σ)) (a : Action ε σ) :
    s.steps (actions ++ [a]) = (s.steps actions).step a :=
  List.foldl_concat ..

/-- The history tells what was done. -/
theorem actions_steps (s : Session ε σ) (actions : List (Action ε σ)) :
    (s.steps actions).history.map (·.action) = s.history.map (·.action) ++ actions := by
  induction actions generalizing s with
  | nil => exact (List.append_nil _).symm
  | cons a rest ih =>
    have hstep := ih (s.step a)
    rw [step, List.map_append, List.append_assoc] at hstep
    exact hstep

end Session

end

/-- A session that has just begun, with a new connection. -/
def Session.begin (side : Side) (settings : ConnectionSettings) (scid dcid : ConnectionId)
    (engine : ε) (now : Instant) (w : σ) : Session ε σ :=
  ⟨⟨Connection.new side settings scid dcid engine now, w⟩, []⟩

/-! ## Delivering

What is delivered was pending, or is the report of a failed handler. Neither changes where
the connection stands. -/

/-- Events are handed out by the handlers, or by the answer, and nothing else
happens. -/
structure Tells (c : Connection ε σ) (w : σ) (answer : Answer) (m : Moment ε σ) : Prop where
  /-- the connection is as it was -/
  rests : c.Rests m.connection
  /-- what the handlers heard had waited, or tells no end -/
  noted : ∀ {note : σ → List Event}, c.dispatcher.NotedBy note →
    ∃ heard, note m.world = note w ++ heard ∧ ∀ e ∈ heard, e ∈ c.pending ∨ e.reason? = none
  /-- and so had what the answer tells -/
  answered : ∀ e, answer.event? = some e → e ∈ c.pending ∨ e.reason? = none

section

variable {c c' : Connection ε σ} {w : σ} {answer : Answer}

/-- Nothing is delivered, and nothing is heard. -/
theorem tells_quiet (c : Connection ε σ) (w : σ) (hanswer : answer.event? = none) :
    c.Tells w answer ⟨c, w⟩ where
  rests := .refl c
  noted _ := ⟨[], (List.append_nil _).symm, List.forall_mem_nil _⟩
  answered e he := by
    rw [hanswer] at he
    cases he

/-- What may be handed out was pending. -/
theorem pending_of_mayHand {e : Event} (he : c.pump.dispatcher.MayHand e) :
    e ∈ c.pending ∨ e.reason? = none := by
  rcases he with he | ⟨failure, rfl⟩
  · exact .inl (c.pending_pump.2 e (List.mem_append_right _ (List.mem_append_left _ he)))
  · exact .inr rfl

/-- What is delivered was pending, or tells nothing of the end. -/
theorem tells_flush (c : Connection ε σ) (w : σ) (hanswer : answer.event? = none) :
    c.Tells w answer ⟨(c.flush w).1.2, (c.flush w).2⟩ where
  rests := c.rests_flush w
  noted hnoted := by
    obtain ⟨-, heard, heq, hheard⟩ :=
      (c.pump.dispatcher.hands_dispatch w).noted (c.rests_pump.noted hnoted)
    exact ⟨heard, heq, fun e he => pending_of_mayHand (hheard e he)⟩
  answered e he := by
    rw [hanswer] at he
    cases he

/-- What is fetched was pending, or tells nothing of the end. -/
theorem tells_pollEvent (c : Connection ε σ) (w : σ) :
    c.Tells w (.event (c.pollEvent w).1.1) ⟨(c.pollEvent w).1.2, (c.pollEvent w).2⟩ where
  rests := c.rests_pollEvent w
  noted hnoted := by
    obtain ⟨-, heard, heq, hheard⟩ :=
      (c.pump.dispatcher.hands_pollEvent w).1.noted (c.rests_pump.noted hnoted)
    exact ⟨heard, heq, fun e he => pending_of_mayHand (hheard e he)⟩
  answered e he := by
    rcases (c.pump.dispatcher.hands_pollEvent w).2 e he with he | he
    · exact .inl (c.pending_pump.2 e (List.mem_append_right _ (List.mem_append_right _ he)))
    · exact pending_of_mayHand he

end

/-! ## What one action comes to

Every action is a chain of moves followed by a delivery. The causes of the moves are those
that the action may give; in particular an engine that accepts a datagram gives one. -/

/-- To open a stream leaves the connection where it stands. -/
theorem rests_openStream (c : Connection ε σ) (d : Direction) : c.Rests (c.openStream d).2 := by
  have hconfined := StreamSet.confined_openStream c.streams d
  rw [openStream]
  split
  · exact .refl c
  · rcases heq : c.streams.openStream d with ⟨e | id, s⟩
    · rw [heq] at hconfined
      exact rests_of_confined hconfined c.adapter c.stats
    · rw [heq] at hconfined
      exact rests_of_confined hconfined c.adapter _

section

variable [PacketEngine ε]

/-- Whether the action hands over a datagram that the engine of an open
connection accepts. -/
def Action.isHeard (a : Action ε σ) (c : Connection ε σ) : Bool :=
  match a with
  | ingest datagram now =>
    !c.state.isClosing && (PacketEngine.readDatagram c.engine datagram now).1.isOk
  | _ => false

/-- The causes that an action may give the moves of a connection. -/
inductive Action.Gives (c : Connection ε σ) : Action ε σ → Cause → Prop where
  /-- the application closes the connection -/
  | close {errorCode : Nat} {reason : Bytes} {now : Instant} : c.state.isClosing = false →
    Gives c (.close errorCode reason now) (.drained ⟨.localClose, errorCode, reason⟩)
  /-- the engine accepts a datagram -/
  | heard {a : Action ε σ} : a.isHeard c = true → Gives c a .heard
  /-- the engine has read a datagram -/
  | ingest {datagram : Bytes} {now : Instant} {k : Cause} : c.state.isClosing = false →
    k.Given (c.adapter.ingest datagram now).1 → Gives c (.ingest datagram now) k
  /-- the engine has failed to write a datagram -/
  | produceDatagrams {now : Instant} {e : TransportError} {k : Cause} : c.maySend = true →
    (c.adapter.produceDatagrams now).1 = .error e → k.Follows e → Gives c (.produceDatagrams now) k
  /-- a timer is due -/
  | onTimeout {now : Instant} {k : Cause} : k.Due c now → Gives c (.onTimeout now) k

/-- What an action comes to: a chain of moves, and a delivery of events. -/
structure Outcome (m : Moment ε σ) (a : Action ε σ) (ks : List Cause) (c : Connection ε σ) :
    Prop where
  /-- what becomes of the connection, before anything is delivered -/
  moves : (m.connection.modifyDispatcher a.equip).Moves a.now ks c
  /-- every move has a cause that the action gives -/
  gives : ∀ k ∈ ks, a.Gives m.connection k
  /-- a datagram or a timer that is heard is a cause -/
  heard : a.isHeard m.connection = true → .heard ∈ ks
  /-- the delivery at the end -/
  tells : c.Tells m.world (m.perform a).1 (m.perform a).2

variable {c c' : Connection ε σ} {w : σ}

/-- To write leaves the connection where it stands. -/
theorem rests_write (c : Connection ε σ) (id : StreamId) (data : Bytes) (fin : Bool) :
    c.Rests (c.write id data fin).2 := by
  have hconfined := StreamSet.confined_write c.streams id data fin
  rw [write]
  split
  · exact .refl c
  · rcases heq : c.streams.write id data fin with ⟨e | out, s⟩
    · rw [heq] at hconfined
      exact rests_of_confined hconfined c.adapter c.stats
    · rw [heq] at hconfined
      dsimp only
      split
      · exact rests_of_confined hconfined _ c.stats
      · exact rests_of_confined hconfined c.adapter c.stats

theorem rests_returnCredit (c : Connection ε σ) (id : StreamId) (n : Nat) :
    c.Rests (c.returnCredit id n) := by
  rw [returnCredit]
  split
  · exact .refl c
  · exact c.rests_adapter _

/-- Reading moves nothing, however much is read. -/
theorem tells_read (c : Connection ε σ) (id : StreamId) (maxLen : Nat) (w : σ) :
    ∃ c', c.Rests c' ∧ c'.Tells w (.read (c.read id maxLen w).1.1)
      ⟨(c.read id maxLen w).1.2, (c.read id maxLen w).2⟩ := by
  have hconfined := StreamSet.confined_read c.streams id maxLen
  rw [read]
  rcases heq : c.streams.read id maxLen with ⟨e | out, s⟩
  · rw [heq] at hconfined
    exact ⟨_, rests_of_confined hconfined c.adapter c.stats, tells_quiet _ w rfl⟩
  · rw [heq] at hconfined
    exact ⟨_, (rests_of_confined hconfined c.adapter c.stats).trans (rests_returnCredit _ id _),
      tells_flush _ w rfl⟩

/-- To abandon a sending half leaves the connection where it stands, and what the streams
tell of it is delivered. -/
theorem tells_resetStream (c : Connection ε σ) (id : StreamId) (errorCode : Nat) (w : σ) :
    ∃ c', c.Rests c' ∧ c'.Tells w (.done (c.resetStream id errorCode w).1.1)
      ⟨(c.resetStream id errorCode w).1.2, (c.resetStream id errorCode w).2⟩ := by
  have hconfined := StreamSet.confined_resetStream c.streams id
  rw [resetStream]
  split
  · exact ⟨c, .refl c, tells_quiet c w rfl⟩
  · rcases heq : c.streams.resetStream id with ⟨e | _, s⟩
    · rw [heq] at hconfined
      exact ⟨_, rests_of_confined hconfined c.adapter c.stats, tells_quiet _ w rfl⟩
    · rw [heq] at hconfined
      exact ⟨_, rests_of_confined hconfined _ c.stats, tells_flush _ w rfl⟩

/-- To stop a receiving half leaves the connection where it stands, and what the streams
tell of it is delivered. -/
theorem tells_stopSending (c : Connection ε σ) (id : StreamId) (errorCode : Nat) (w : σ) :
    ∃ c', c.Rests c' ∧ c'.Tells w (.done (c.stopSending id errorCode w).1.1)
      ⟨(c.stopSending id errorCode w).1.2, (c.stopSending id errorCode w).2⟩ := by
  have hconfined := StreamSet.confined_stopSending c.streams id
  rw [stopSending]
  split
  · exact ⟨c, .refl c, tells_quiet c w rfl⟩
  · rcases heq : c.streams.stopSending id with ⟨e | released, s⟩
    · rw [heq] at hconfined
      exact ⟨_, rests_of_confined hconfined c.adapter c.stats, tells_quiet _ w rfl⟩
    · rw [heq] at hconfined
      exact ⟨_, rests_of_confined hconfined _ c.stats, tells_flush _ w rfl⟩

/-- The adapter accepts a datagram exactly if the engine does. -/
theorem isOk_of_ingest (a : EngineAdapter ε) (datagram : Bytes) (now : Instant) :
    (∃ callbacks, (a.ingest datagram now).1 = .ok callbacks) ↔
      (PacketEngine.readDatagram a.engine datagram now).1.isOk = true := by
  rw [EngineAdapter.ingest]
  rcases PacketEngine.readDatagram a.engine datagram now with ⟨e | _, engine⟩
  · exact ⟨nofun, nofun⟩
  · exact ⟨fun _ => rfl, fun _ => ⟨_, rfl⟩⟩

/-- An action that moves nothing, and tells. -/
theorem Outcome.of_rests {m : Moment ε σ} {a : Action ε σ} (hequip : a.equip = id)
    (hheard : a.isHeard m.connection = false) (hrests : m.connection.Rests c)
    (htells : c.Tells m.world (m.perform a).1 (m.perform a).2) : Outcome m a [] c where
  moves := by
    rw [hequip]
    exact hrests.moves
  gives := List.forall_mem_nil _
  heard h := by
    rw [hheard] at h
    cases h
  tells := htells

/-- Closing is a move, or is refused. -/
theorem outcome_close (m : Moment ε σ) (errorCode : Nat) (reason : Bytes) (now : Instant) :
    ∃ ks c, Outcome m (.close errorCode reason now) ks c := by
  have hrefused (r : Except CallError Unit)
      (hperform : m.perform (.close errorCode reason now) = (.done r, m)) :
      ∃ ks c, Outcome m (.close errorCode reason now) ks c := by
    refine ⟨[], m.connection, .of_rests rfl rfl (.refl _) ?_⟩
    rw [hperform]
    exact tells_quiet _ _ rfl
  -- an open connection says that it closes, and drains
  have hclosed (hopen : m.connection.state.isClosing = false)
      (hperform : m.perform (.close errorCode reason now) =
        let c := m.connection.announceClose ⟨.localClose, errorCode, reason⟩ now
        (.done (.ok ()), ⟨(c.flush m.world).1.2, (c.flush m.world).2⟩)) :
      ∃ ks c, Outcome m (.close errorCode reason now) ks c := by
    have hmove : m.connection.Move now [.drained ⟨.localClose, errorCode, reason⟩]
        (m.connection.announceClose ⟨.localClose, errorCode, reason⟩ now) :=
      .drained _ true _ hopen
    refine ⟨_, _, hmove.single, fun k hk => ?_,
      fun h => absurd h Bool.false_ne_true, ?_⟩
    · obtain rfl := List.mem_singleton.1 hk
      exact .close hopen
    · rw [hperform]
      exact tells_flush _ m.world rfl
  rw [Moment.perform, close] at hrefused hclosed
  cases hstate : m.connection.state <;> rw [hstate] at hrefused hclosed
  case draining => exact hrefused _ rfl
  case closed => exact hrefused _ rfl
  all_goals exact hclosed rfl rfl

/-- Taking in a datagram is a chain of moves: the peer is heard of, and then each callback
is acted on. -/
theorem outcome_ingest (m : Moment ε σ) (datagram : Bytes) (now : Instant) :
    ∃ ks c, Outcome m (.ingest datagram now) ks c := by
  have hdeaf (hclosing : m.connection.state.isClosing = true) :
      (Action.ingest datagram now).isHeard m.connection = false := by
    rw [Action.isHeard, hclosing]
    rfl
  let received : ConnectionStats := { m.connection.stats with
    datagramsReceived := m.connection.stats.datagramsReceived + 1
    bytesReceived := m.connection.stats.bytesReceived + datagram.length }
  have hcounted := m.connection.rests_stats received
  by_cases hclosed : m.connection.state = .closed
  · refine ⟨[], m.connection, .of_rests rfl (hdeaf (isClosing_iff.2 (.inr hclosed))) (.refl _) ?_⟩
    rw [Moment.perform, ingest, if_pos hclosed]
    exact tells_quiet _ _ rfl
  by_cases hdraining : m.connection.state = .draining
  · have habsorbed := m.connection.rests_stats
      { received with datagramsAbsorbed := received.datagramsAbsorbed + 1 }
    refine ⟨[], _, .of_rests rfl (hdeaf (isClosing_iff.2 (.inl hdraining))) habsorbed ?_⟩
    rw [Moment.perform, ingest, if_neg hclosed]
    dsimp only
    rw [if_pos hdraining]
    exact tells_quiet _ _ rfl
  have hopen : m.connection.state.isClosing = false := by
    rw [← Bool.not_eq_true, isClosing_iff]
    exact fun h => h.elim hdraining hclosed
  obtain ⟨ks, hmoves, hheard, hks⟩ :=
    moves_process (hcounted.isClosing.trans hopen) datagram now
  refine ⟨ks, _, hcounted.moves.trans hmoves, fun k hk => ?_, fun h => hheard.2 ?_, ?_⟩
  · rcases hks k hk with rfl | hgiven
    · refine .heard ?_
      rw [Action.isHeard, hopen]
      exact (isOk_of_ingest _ datagram now).1 (hheard.1 hk)
    · exact .ingest hopen hgiven
  · rw [Action.isHeard, Bool.and_eq_true] at h
    exact (isOk_of_ingest _ datagram now).2 h.2
  · rw [Moment.perform, ingest, if_neg hclosed]
    dsimp only
    rw [if_neg hdraining]
    exact tells_flush _ m.world rfl

/-- Handing out datagrams moves the connection only if the engine fails. -/
theorem outcome_produceDatagrams (m : Moment ε σ) (now : Instant) :
    ∃ ks c, Outcome m (.produceDatagrams now) ks c := by
  by_cases hmay : m.connection.maySend = true
  · have hlive : m.connection.state ≠ .closed := by
      intro hclosed
      rw [maySend, hclosed] at hmay
      cases hmay
    -- a failing engine is a cause of closing; datagrams are none, and at most end the
    -- sending of the closing
    rcases heq : m.connection.adapter.produceDatagrams now with ⟨e | datagrams, a⟩
    · have hperform : m.perform (.produceDatagrams now) =
          let c := { m.connection with adapter := a }.onTransportError e now
          (.datagrams [], ⟨(c.flush m.world).1.2, (c.flush m.world).2⟩) := by
        rw [Moment.perform, produceDatagrams, if_pos hmay, heq]
        rfl
      obtain ⟨ks, hmoves, hks⟩ :=
        moves_onTransportError (c := { m.connection with adapter := a }) hlive e now
      refine ⟨ks, _, (m.connection.rests_adapter a).moves.trans hmoves, fun k hk => ?_,
      fun h => absurd h Bool.false_ne_true, ?_⟩
      · exact .produceDatagrams hmay (congrArg Prod.fst heq) (hks k hk)
      · rw [hperform]
        exact tells_flush _ m.world rfl
    · have hsent := rests_of_confined (c := m.connection) (.refl _) a { m.connection.stats with
        datagramsSent := m.connection.stats.datagramsSent + datagrams.length
        bytesSent := m.connection.stats.bytesSent + datagrams.flatten.length }
      have hperform : ∃ c,
          m.perform (.produceDatagrams now) = (.datagrams datagrams, ⟨c, m.world⟩) ∧
          m.connection.Rests c := by
        rw [Moment.perform, produceDatagrams, if_pos hmay, heq]
        refine ⟨_, rfl, { hsent with state := ?_, closePending := fun h => ?_ }⟩
        · dsimp only
          split
          · next h => exact .inr ⟨h.1, rfl⟩
          · exact .inl rfl
        · exact (Bool.and_eq_true _ _ ▸ h).1
      obtain ⟨c, hperform, hrests⟩ := hperform
      refine ⟨[], c, .of_rests rfl rfl hrests ?_⟩
      rw [hperform]
      exact tells_quiet c _ rfl
  · refine ⟨[], m.connection, .of_rests rfl rfl (.refl _) ?_⟩
    rw [Moment.perform, produceDatagrams, if_neg hmay]
    exact tells_quiet _ _ rfl

/-- A timeout is a chain of moves, one for each timer that is due. -/
theorem outcome_onTimeout (m : Moment ε σ) (hfit : m.connection.TimersFit) (now : Instant) :
    ∃ ks c, Outcome m (.onTimeout now) ks c := by
  by_cases hclosed : m.connection.state = .closed
  · refine ⟨[], m.connection, .of_rests rfl rfl (.refl _) ?_⟩
    rw [Moment.perform, onTimeout, if_pos hclosed]
    exact tells_quiet _ _ rfl
  · obtain ⟨ks, hmoves, hks⟩ := moves_timedOut hfit hclosed now
    refine ⟨ks, _, hmoves, fun k hk => .onTimeout (hks k hk),
      fun h => absurd h Bool.false_ne_true, ?_⟩
    rw [Moment.perform, onTimeout_eq hclosed]
    exact tells_flush _ m.world rfl

/-- Every action comes to something. -/
theorem outcome_perform (m : Moment ε σ) (hfit : m.connection.TimersFit) (a : Action ε σ) :
    ∃ ks c, Outcome m a ks c := by
  have hequipped (heq : m.perform a = (.none, ⟨m.connection.modifyDispatcher a.equip, m.world⟩))
      (hheard : a.isHeard m.connection = false) : ∃ ks c, Outcome m a ks c := by
    refine ⟨[], _, .refl, List.forall_mem_nil _, fun h => ?_, ?_⟩
    · rw [hheard] at h
      cases h
    · rw [heq]
      exact tells_quiet _ _ rfl
  cases a with
  | openStream d =>
    exact ⟨[], _, .of_rests rfl rfl (m.connection.rests_openStream d) (tells_quiet _ _ rfl)⟩
  | write id data fin =>
    exact ⟨[], _, .of_rests rfl rfl (m.connection.rests_write id data fin)
      (tells_quiet _ _ rfl)⟩
  | read id maxLen =>
    obtain ⟨c, hrests, htells⟩ := m.connection.tells_read id maxLen m.world
    exact ⟨[], c, .of_rests rfl rfl hrests htells⟩
  | resetStream id errorCode =>
    obtain ⟨c, hrests, htells⟩ := m.connection.tells_resetStream id errorCode m.world
    exact ⟨[], c, .of_rests rfl rfl hrests htells⟩
  | stopSending id errorCode =>
    obtain ⟨c, hrests, htells⟩ := m.connection.tells_stopSending id errorCode m.world
    exact ⟨[], c, .of_rests rfl rfl hrests htells⟩
  | close errorCode reason now => exact outcome_close m errorCode reason now
  | ingest datagram now => exact outcome_ingest m datagram now
  | produceDatagrams now => exact outcome_produceDatagrams m now
  | onTimeout now => exact outcome_onTimeout m hfit now
  | flush => exact ⟨[], _, .of_rests rfl rfl (.refl _) (tells_flush _ m.world rfl)⟩
  | pollEvent => exact ⟨[], _, .of_rests rfl rfl (.refl _) (tells_pollEvent _ m.world)⟩
  | setConnectionHandler h => exact hequipped rfl rfl
  | setDefaultStreamHandler h => exact hequipped rfl rfl
  | setStreamHandler id h => exact hequipped rfl rfl
  | removeStreamHandler id => exact hequipped rfl rfl
  | modifyEngine f =>
    exact ⟨[], _, .of_rests rfl rfl (m.connection.rests_adapter _) (tells_quiet _ _ rfl)⟩

end

end QuicHost.Connection
