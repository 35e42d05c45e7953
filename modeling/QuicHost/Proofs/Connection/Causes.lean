import QuicHost.Proofs.Connection.Moves

/-!
# What makes a connection move

Whatever a function of a connection does is a chain of moves, and the causes of
these moves are known from what the engine answers. Callbacks complete the
handshake or close the connection, and never end it on the spot; that is left to
the engine's failures and to the timers. A violation found in a callback is
raised while callbacks are applied, and closes the connection like a failure.

When timers are due, the first one that moves the connection is also the last:
a connection that is closing runs its engine no more.
-/

namespace QuicHost

namespace Connection

variable {ε σ : Type}

section

variable {c c' c'' : Connection ε σ} {now : Instant} {ks ks' : List Cause}

/-! ## What the causes are

Causes by where they come from: a failure of the transport, a callback, the answer of an
engine, or a timer. -/

/-- The causes that a failure of the transport may be. -/
inductive Cause.Follows (e : TransportError) : Cause → Prop where
  /-- violations close the connection -/
  | violation {code : Nat} : e = .protocolViolation code →
    Follows e (.drained ⟨.transportFailure, code, []⟩)
  /-- handshakes fail -/
  | handshake {code : Nat} : e = .handshakeFailure code →
    Follows e (.failed ⟨.handshakeFailed, code, []⟩)
  /-- resources run out -/
  | exhausted : e = .resourceExhausted → Follows e .exhausted

/-- The causes that callbacks may be: neither silence, nor the end. -/
inductive Cause.Reported : Cause → Prop where
  /-- the handshake is complete -/
  | completed : Reported .completed
  /-- the peer closes the connection, or broke the protocol -/
  | drained {reason : CloseReason} : reason.kind ≠ .idleTimeout → Reported (.drained reason)

/-- What follows from a violation could have been reported. -/
theorem Cause.Follows.reported {e : TransportError} (he : e.IsViolation) {k : Cause}
    (h : k.Follows e) : k.Reported := by
  obtain ⟨code, rfl⟩ := he
  cases h with
  | violation _ => exact .drained (by simp)
  | handshake heq => cases heq
  | exhausted heq => cases heq

/-- The causes that an engine may give by its answer: what it reports, and how it
fails. -/
def Cause.Given {α : Type} (answer : Except TransportError α) (k : Cause) : Prop :=
  k.Reported ∨ ∃ e, answer = .error e ∧ k.Follows e

/-- What an engine gives is not merely that the peer was heard of. -/
theorem Cause.Given.ne_heard {α : Type} {answer : Except TransportError α} {k : Cause}
    (h : k.Given answer) : k ≠ .heard := by
  rintro rfl
  rcases h with h | ⟨e, -, h⟩
  · cases h
  · cases h

/-- Callbacks do not end a connection. -/
theorem Moves.not_closed (h : c.Moves now ks c') (hks : ∀ k ∈ ks, k.Reported)
    (hc : c.state ≠ .closed) : c'.state ≠ .closed := by
  induction h with
  | refl => exact hc
  | @tail ks ks' c₁ c₂ _ hmove ih =>
    rw [List.forall_mem_append] at hks
    have hc₁ := ih hks.1
    cases hmove with
    | rests hrests =>
      rcases hrests.state with heq | ⟨-, heq⟩
      · rwa [heq]
      · rw [heq]
        exact nofun
    | heard hopen =>
      rw [touch_eq hopen]
      exact hc₁
    | completed peer hopen hnew =>
      rw [completeHandshake_eq hnew]
      exact nofun
    | drained a announced reason hopen =>
      rw [enterDraining_eq (by exact hopen)]
      exact nofun
    | finished _ => cases hks.2 _ (List.mem_singleton_self _)
    | failed reason _ => cases hks.2 _ (List.mem_singleton_self _)
    | exhausted _ => cases hks.2 _ (List.mem_singleton_self _)

/-! ## Silence

The idle timer is the only one that is set on an open connection, apart from the engine's.
What its expiry means depends on how far the handshake has come. -/

/-- The reason with which silence ends a connection. -/
def silence : CloseReason := ⟨.idleTimeout, TransportErrorCode.noError.code, []⟩

theorem onIdleTimeout_of_handshaking (h : c.state.isHandshaking = true) (now : Instant) :
    c.onIdleTimeout now = c.finishWith silence :=
  if_pos h

theorem onIdleTimeout_of_active (h : c.state = .active) (now : Instant) :
    c.onIdleTimeout now = c.enterDraining silence now := by
  rw [onIdleTimeout, h]
  rfl

/-- An open connection past the handshake is active. -/
theorem active_of_open (hopen : c.state.isClosing = false)
    (h : ¬ c.state.isHandshaking = true) : c.state = .active := by
  cases hstate : c.state with
  | active => rfl
  | initiating => exact absurd (congrArg ConnectionState.isHandshaking hstate) h
  | handshaking => exact absurd (congrArg ConnectionState.isHandshaking hstate) h
  | draining => cases hopen.symm.trans (congrArg ConnectionState.isClosing hstate)
  | closed => cases hopen.symm.trans (congrArg ConnectionState.isClosing hstate)

/-- A connection that was active begins to drain, any other fails. -/
def silenced (c : Connection ε σ) : Cause :=
  if c.state.isHandshaking then .failed silence else .drained silence

/-- Silence is one move, for the cause that the state gives it. -/
theorem move_onIdleTimeout (hopen : c.state.isClosing = false) (now : Instant) :
    c.Move now [c.silenced] (c.onIdleTimeout now) := by
  rw [silenced]
  split
  · next h =>
    rw [onIdleTimeout_of_handshaking h]
    exact .failed silence h
  · next h =>
    rw [onIdleTimeout_of_active (active_of_open hopen h)]
    exact .drained c.adapter c.closePending silence hopen

/-- What silence does to an open connection does not depend on its timers. -/
theorem onIdleTimeout_timers (hopen : c.state.isClosing = false) (d : Deadlines) (now : Instant) :
    { c with timers := d }.onIdleTimeout now = c.onIdleTimeout now := by
  have hlive := ne_closed_of_open hopen
  simp only [onIdleTimeout, finishWith, finish, enterDraining, hopen, if_neg hlive]
  cases hstate : c.state with
  | initiating => rfl
  | handshaking => rfl
  | active => rfl
  | draining => rw [hstate] at hopen; cases hopen
  | closed => exact absurd hstate hlive

/-- Either way the connection is closing, and the engine's timer is not armed. -/
theorem onIdleTimeout_closing (hopen : c.state.isClosing = false) (now : Instant) :
    (c.onIdleTimeout now).state.isClosing = true ∧ (c.onIdleTimeout now).timers.engine = none := by
  by_cases h : c.state.isHandshaking = true
  · rw [onIdleTimeout_of_handshaking h, finishWith_eq (ne_closed_of_open hopen)]
    exact ⟨rfl, rfl⟩
  · rw [onIdleTimeout_of_active (active_of_open hopen h), enterDraining_eq hopen]
    exact ⟨rfl, rfl⟩

/-- Whether the timers that are armed fit the state. -/
structure TimersFit (c : Connection ε σ) : Prop where
  /-- the drain timer is armed only while the connection drains -/
  drain : c.timers.drain ≠ none → c.state = .draining
  /-- the other two stop when the connection begins to close -/
  closing : c.state.isClosing = true → c.timers.idle = none ∧ c.timers.engine = none

theorem TimersFit.drain_eq_none (h : c.TimersFit) (hopen : c.state.isClosing = false) :
    c.timers.drain = none := by
  by_contra hdrain
  rw [h.drain hdrain] at hopen
  cases hopen

/-- Where state and timers stay they still fit. -/
theorem TimersFit.rests (h : c.TimersFit) (hrests : c.Rests c') : c'.TimersFit where
  drain hdrain := by
    rw [hrests.drain] at hdrain
    exact (hrests.state_eq_iff rfl).2 (h.drain hdrain)
  closing hclosing := by
    rw [hrests.isClosing] at hclosing
    rw [hrests.idle, hrests.engine hclosing]
    exact h.closing hclosing

/-- Every move leaves timers that fit: the drain timer is started with draining, and all
others stopped. -/
theorem TimersFit.move (h : c.TimersFit) (hmove : c.Move now ks c') : c'.TimersFit := by
  cases hmove with
  | rests hrests => exact h.rests hrests
  | heard hopen =>
    rw [touch_eq hopen]
    exact ⟨h.drain, fun hclosing => absurd hclosing (Bool.eq_false_iff.1 hopen)⟩
  | completed peer hopen hnew =>
    rw [completeHandshake_eq hnew]
    exact ⟨fun hdrain => absurd (h.drain_eq_none hopen) hdrain, nofun⟩
  | drained a announced reason hopen =>
    rw [enterDraining_eq (by exact hopen)]
    exact ⟨fun _ => rfl, fun _ => ⟨rfl, rfl⟩⟩
  | finished hdraining =>
    rw [finish_eq (ne_closed_of_draining hdraining)]
    exact ⟨fun hdrain => absurd rfl hdrain, fun _ => ⟨rfl, rfl⟩⟩
  | failed reason hhandshaking =>
    rw [finishWith_eq (ne_closed_of_open (open_of_handshaking hhandshaking))]
    exact ⟨fun hdrain => absurd rfl hdrain, fun _ => ⟨rfl, rfl⟩⟩
  | exhausted hlive =>
    rw [finishWith_eq hlive]
    exact ⟨fun hdrain => absurd rfl hdrain, fun _ => ⟨rfl, rfl⟩⟩

theorem TimersFit.moves (h : c.TimersFit) (hmoves : c.Moves now ks c') : c'.TimersFit :=
  Moves.keeps TimersFit.move h hmoves

/-! ## Failures and callbacks

Every failure and every callback is a chain of moves for causes that follow from it. -/

variable [PacketEngine ε]

/-- A failure of the transport is no move, or one for a cause that follows from it. -/
theorem moves_onTransportError (hopen : c.state ≠ .closed) (e : TransportError) (now : Instant) :
    ∃ ks, c.Moves now ks (c.onTransportError e now) ∧ ∀ k ∈ ks, k.Follows e := by
  have hreported : c.Moves now [] (c.reportError e) := (c.rests_reportError e).moves
  rw [onTransportError_eq]
  -- three kinds can end a connection; the other two are reported and no more
  cases e with
  | resourceExhausted =>
    refine ⟨_, hreported.tail (.exhausted hopen), fun k hk => ?_⟩
    obtain rfl := List.mem_singleton.1 hk
    exact .exhausted rfl
  | protocolViolation code =>
    dsimp only
    split
    · exact ⟨[], hreported, List.forall_mem_nil _⟩
    · next hclosing =>
      rw [Bool.not_eq_true] at hclosing
      refine ⟨_, hreported.tail (.drained _ true _ hclosing), fun k hk => ?_⟩
      obtain rfl := List.mem_singleton.1 hk
      exact .violation rfl
  | handshakeFailure code =>
    dsimp only
    split
    · next hhandshaking =>
      refine ⟨_, hreported.tail (.failed _ hhandshaking), fun k hk => ?_⟩
      obtain rfl := List.mem_singleton.1 hk
      exact .handshake rfl
    · exact ⟨[], hreported, List.forall_mem_nil _⟩
  | malformedPacket => exact ⟨[], hreported, List.forall_mem_nil _⟩
  | versionMismatch => exact ⟨[], hreported, List.forall_mem_nil _⟩

/-- A callback is applied, or refused as a violation that changes nothing about
where the connection stands. -/
theorem moves_applyCallback (hopen : c.state.isClosing = false) (now : Instant)
    (callback : Callback) :
    (∃ ks c', c.applyCallback now callback = (.ok (), c') ∧ c.Moves now ks c' ∧
      ∀ k ∈ ks, k.Reported) ∨
    ∃ e c', c.applyCallback now callback = (.error e, c') ∧ c.Rests c' ∧ e.IsViolation := by
  have hrests {s : StreamSet} (h : c.streams.Confined s) (a : EngineAdapter ε) :
      c.Rests { c with streams := s, adapter := a } :=
    rests_of_confined h a c.stats
  -- what the streams took in without a word moves nothing
  have htaken {s : StreamSet} (h : c.streams.Confined s)
      (heq : c.applyCallback now callback = (.ok (), { c with streams := s })) :
      ∃ ks c', c.applyCallback now callback = (.ok (), c') ∧ c.Moves now ks c' ∧
        ∀ k ∈ ks, k.Reported :=
    ⟨[], _, heq, (hrests h c.adapter).moves, List.forall_mem_nil _⟩
  cases callback with
  | handshakeCompleted peer =>
    refine .inl ?_
    rw [applyCallback]
    cases hnew : c.handshakeComplete with
    | true =>
      have hsame : c.completeHandshake peer now = c := if_pos hnew
      rw [hsame]
      exact ⟨[], c, rfl, .refl, List.forall_mem_nil _⟩
    | false =>
      refine ⟨_, _, rfl, (Move.completed peer hopen hnew).single, fun k hk => ?_⟩
      obtain rfl := List.mem_singleton.1 hk
      exact .completed
  | streamData id offset data fin =>
    have hconfined := StreamSet.confined_onStreamData c.streams id offset data fin
    rw [applyCallback]
    rcases heq : c.streams.onStreamData id offset data fin with ⟨e | released, s⟩
    · rw [heq] at hconfined
      exact .inr ⟨e, _, rfl, hrests hconfined c.adapter,
        (StreamSet.error_of_onStreamData (congrArg Prod.fst heq)).isViolation⟩
    · rw [heq] at hconfined
      exact .inl ⟨[], _, rfl, ((hrests hconfined c.adapter).trans
        (rests_extendConnection _ released)).moves, List.forall_mem_nil _⟩
  | streamReset id errorCode finalSize =>
    have hconfined := StreamSet.confined_onStreamReset c.streams id errorCode finalSize
    rw [applyCallback]
    rcases heq : c.streams.onStreamReset id errorCode finalSize with ⟨e | released, s⟩
    · rw [heq] at hconfined
      exact .inr ⟨e, _, rfl, hrests hconfined c.adapter,
        (StreamSet.error_of_onStreamReset (congrArg Prod.fst heq)).isViolation⟩
    · rw [heq] at hconfined
      exact .inl ⟨[], _, rfl, ((hrests hconfined c.adapter).trans
        (rests_extendConnection _ released)).moves, List.forall_mem_nil _⟩
  | stopSending id errorCode =>
    have hconfined := StreamSet.confined_onStopSending c.streams id errorCode
    rw [applyCallback]
    rcases heq : c.streams.onStopSending id errorCode with ⟨e | _ | _, s⟩
    · rw [heq] at hconfined
      exact .inr ⟨e, _, rfl, hrests hconfined c.adapter,
        (StreamSet.error_of_onStopSending (congrArg Prod.fst heq)).isViolation⟩
    · rw [heq] at hconfined
      exact .inl ⟨[], _, rfl, (hrests hconfined c.adapter).moves, List.forall_mem_nil _⟩
    · rw [heq] at hconfined
      exact .inl ⟨[], _, rfl, (hrests hconfined _).moves, List.forall_mem_nil _⟩
  | maxStreamData id limit =>
    exact .inl (htaken (StreamSet.confined_onMaxStreamData _ id limit) rfl)
  | maxData limit => exact .inl (htaken (StreamSet.confined_onMaxData _ limit) rfl)
  | maxStreams d n => exact .inl (htaken (StreamSet.confined_onMaxStreams _ d n) rfl)
  | streamAcked id n => exact .inl (htaken (StreamSet.confined_onStreamAcked _ id n) rfl)
  | connectionClose errorCode reason =>
    refine .inl ⟨_, _, rfl,
      (Move.drained c.adapter c.closePending ⟨.peerClose, errorCode, reason⟩ hopen).single,
      fun k hk => ?_⟩
    obtain rfl := List.mem_singleton.1 hk
    exact .drained (by simp)

/-- Callbacks are applied until the connection is closing. -/
theorem moves_applyCallbacks (c : Connection ε σ) (now : Instant) (callbacks : List Callback) :
    ∃ ks, c.Moves now ks (c.applyCallbacks now callbacks) ∧ ∀ k ∈ ks, k.Reported := by
  induction callbacks generalizing c with
  | nil => exact ⟨[], .refl, List.forall_mem_nil _⟩
  | cons callback rest ih =>
    rw [applyCallbacks]
    split
    · exact ⟨[], .refl, List.forall_mem_nil _⟩
    next hopen =>
    rw [Bool.not_eq_true] at hopen
    have hrest {ks : List Cause} {c₁ : Connection ε σ} (hmoves : c.Moves now ks c₁)
        (hks : ∀ k ∈ ks, k.Reported) :
        ∃ ks, c.Moves now ks (c₁.pump.applyCallbacks now rest) ∧ ∀ k ∈ ks, k.Reported := by
      obtain ⟨ks', hmoves', hks'⟩ := ih c₁.pump
      refine ⟨ks ++ ks', (hmoves.rests (rests_pump c₁)).trans hmoves', ?_⟩
      rw [List.forall_mem_append]
      exact ⟨hks, hks'⟩
    rcases moves_applyCallback hopen now callback with ⟨ks, c', heq, hmoves, hks⟩ |
      ⟨e, c', heq, hrests, hviolation⟩
    · rw [heq]
      exact hrest hmoves hks
    · -- a callback that is refused closes the connection, which ends nothing yet
      rw [heq]
      have hlive := ne_closed_of_open (hrests.isClosing.trans hopen)
      obtain ⟨ks, hmoves, hks⟩ := moves_onTransportError hlive e now
      exact hrest (hrests.moves.trans hmoves) fun k hk => (hks k hk).reported hviolation

/-! ## Datagrams

A datagram is heard, and then its callbacks are acted on; or the engine fails, and the
callbacks that it had left are acted on before the failure. -/

/-- A datagram is taken in. The idle timer starts anew if the engine accepts it. -/
theorem moves_process (hopen : c.state.isClosing = false) (datagram : Bytes) (now : Instant) :
    ∃ ks, c.Moves now ks (c.process datagram now) ∧
      (.heard ∈ ks ↔ ∃ callbacks, (c.adapter.ingest datagram now).1 = .ok callbacks) ∧
      ∀ k ∈ ks, k = .heard ∨ k.Given (c.adapter.ingest datagram now).1 := by
  rw [process]
  rcases c.adapter.ingest datagram now with ⟨e | callbacks, a⟩
  -- the engine failed: what it reported before is applied first, then the failure
  · dsimp only
    have hrests := c.rests_adapter a.drainCallbacks.2
    obtain ⟨ks, hmoves, hks⟩ :=
      moves_applyCallbacks { c with adapter := a.drainCallbacks.2 } now a.drainCallbacks.1
    have hlive := hmoves.not_closed hks (ne_closed_of_open hopen)
    obtain ⟨ks', hmoves', hks'⟩ := moves_onTransportError hlive e now
    have hgiven : ∀ k ∈ ks ++ ks', k.Given (.error e : Except TransportError (List Callback)) := by
      rw [List.forall_mem_append]
      exact ⟨fun k hk => .inl (hks k hk), fun k hk => .inr ⟨e, rfl, hks' k hk⟩⟩
    refine ⟨ks ++ ks', hrests.moves.trans (hmoves.trans hmoves'), ⟨fun hheard => ?_, nofun⟩,
      fun k hk => .inr (hgiven k hk)⟩
    exact absurd rfl (hgiven _ hheard).ne_heard
  · dsimp only
    have hbegun := c.rests_begun a
    obtain ⟨ks, hmoves, hks⟩ := moves_applyCallbacks
      (Connection.touch { c with
        adapter := a
        state := if c.state = .initiating then .handshaking else c.state } now) now callbacks
    refine ⟨_, (hbegun.moves.tail (.heard (hbegun.isClosing.trans hopen))).trans hmoves,
      ⟨fun _ => ⟨callbacks, rfl⟩, fun _ => List.mem_cons_self⟩, fun k hk => ?_⟩
    rcases List.mem_cons.1 hk with rfl | hk
    · exact .inl rfl
    · exact .inr (.inl (hks k hk))

/-- The engine's timers run. -/
theorem moves_runEngineTimer (hopen : c.state.isClosing = false) (now : Instant) :
    ∃ ks, c.Moves now ks (c.runEngineTimer now) ∧
      ∀ k ∈ ks, k.Given (c.adapter.handleExpiry now).1 := by
  rw [runEngineTimer]
  rcases c.adapter.handleExpiry now with ⟨e | callbacks, a⟩
  · obtain ⟨ks, hmoves, hks⟩ := moves_onTransportError
      (c := { c with adapter := a }) (ne_closed_of_open hopen) e now
    exact ⟨ks, (c.rests_adapter a).moves.trans hmoves, fun k hk => .inr ⟨e, rfl, hks k hk⟩⟩
  · obtain ⟨ks, hmoves, hks⟩ := moves_applyCallbacks { c with adapter := a } now callbacks
    exact ⟨ks, (c.rests_adapter a).moves.trans hmoves, fun k hk => .inl (hks k hk)⟩

/-! ## Timers

The timers that are due are handled in a fixed order. Whoever has closed the connection
leaves nothing for those that come later. -/

/-- The connection after all timers that are due were handled, before anybody is
told. -/
def timedOut (c : Connection ε σ) (now : Instant) : Connection ε σ :=
  (c.currentTimers.expired now).foldl (fun c timer => c.fire now timer)
    { c with timers := c.currentTimers }

/-- The timers are handled in a fixed order, if they are due. -/
theorem foldl_expired {α : Type} (d : Deadlines) (now : Instant) (f : α → Timer → α) (a : α) :
    (d.expired now).foldl f a =
      let drained := if d.isDue now .drain then f a .drain else a
      let idled := if d.isDue now .idle then f drained .idle else drained
      if d.isDue now .engine then f idled .engine else idled := by
  rw [Deadlines.expired, Timer.all]
  cases hdrain : d.isDue now .drain <;> cases hidle : d.isDue now .idle <;>
    cases hengine : d.isDue now .engine <;> simp [hdrain, hidle, hengine]

/-- The engine's timer means nothing any more to a connection that is closing. -/
theorem fire_engine_of_closing (hclosing : c.state.isClosing = true)
    (hengine : c.timers.engine = none) (now : Instant) : c.fire now .engine = c := by
  have hcleared : c.timers.clear .engine = c.timers :=
    congrArg (fun t => { c.timers with engine := t }) hengine.symm
  rw [fire]
  split
  · rfl
  · dsimp only
    rw [if_pos hclosing, hcleared]

/-- While the connection is open, its drain timer is not armed, and its idle timer is
not the engine's matter. -/
theorem TimersFit.isDue_of_open (hfit : c.TimersFit) (hopen : c.state.isClosing = false)
    (now : Instant) : c.currentTimers.isDue now .drain = false ∧
      c.currentTimers.isDue now .idle = c.timers.isDue now .idle := by
  have hupdated : c.currentTimers = c.timers.update .engine c.adapter.expiry :=
    if_neg (Bool.eq_false_iff.1 hopen)
  rw [hupdated]
  exact ⟨congrArg (Option.any _) (hfit.drain_eq_none hopen), rfl⟩

/-- Once the connection is closing, only its drain timer can be due. -/
theorem TimersFit.isDue_of_closing (hfit : c.TimersFit) (hclosing : c.state.isClosing = true)
    (now : Instant) : c.currentTimers = c.timers ∧ ¬ c.timers.isDue now .idle = true ∧
      ¬ c.timers.isDue now .engine = true := by
  obtain ⟨hidle, hengine⟩ := hfit.closing hclosing
  have hquiet (timer : Timer) (h : c.timers.get timer = none) :
      ¬ c.timers.isDue now timer = true := by
    rw [Deadlines.isDue, h]
    exact Bool.false_ne_true
  exact ⟨if_pos hclosing, hquiet .idle hidle, hquiet .engine hengine⟩

theorem fire_idle_of_open (hopen : c.state.isClosing = false) (now : Instant) :
    { c with timers := c.currentTimers }.fire now .idle = c.onIdleTimeout now := by
  rw [fire, if_neg (ne_closed_of_open hopen)]
  exact onIdleTimeout_timers hopen _ now

/-- Silence closes or ends an open connection, and then the engine does not run. -/
theorem timedOut_of_open (hfit : c.TimersFit) (hopen : c.state.isClosing = false) (now : Instant) :
    c.timedOut now =
      if c.timers.isDue now .idle then c.onIdleTimeout now
      else if c.currentTimers.isDue now .engine then
        { c with timers := c.currentTimers.clear .engine }.runEngineTimer now
      else { c with timers := c.currentTimers } := by
  obtain ⟨hdrain, hidle⟩ := hfit.isDue_of_open hopen now
  rw [timedOut, foldl_expired]
  dsimp only
  rw [hdrain, hidle, if_neg Bool.false_ne_true]
  by_cases hdue : c.timers.isDue now .idle = true
  · -- the engine's timer finds the connection closing
    simp only [if_pos hdue]
    obtain ⟨hclosing, hengine⟩ := onIdleTimeout_closing hopen now
    rw [fire_idle_of_open hopen, fire_engine_of_closing hclosing hengine, ite_self]
  · simp only [if_neg hdue]
    split
    · rw [fire, if_neg (ne_closed_of_open hopen)]
      exact if_neg (Bool.eq_false_iff.1 hopen)
    · rfl

/-- Draining lasts until its timer is due, and is over then. -/
theorem timedOut_of_draining (hfit : c.TimersFit) (hdraining : c.state = .draining)
    (now : Instant) : c.timedOut now = if c.timers.isDue now .drain then c.finish else c := by
  have hclosing : c.state.isClosing = true := by rw [hdraining]; rfl
  obtain ⟨hcurrent, hidle, hengine⟩ := hfit.isDue_of_closing hclosing now
  rw [timedOut, foldl_expired, hcurrent]
  dsimp only
  rw [if_neg hengine, if_neg hidle]
  split
  · exact if_neg (ne_closed_of_draining hdraining)
  · rfl

theorem onTimeout_eq (hlive : c.state ≠ .closed) (now : Instant) (w : σ) :
    c.onTimeout now w = (((c.timedOut now).flush w).1.2, ((c.timedOut now).flush w).2) := by
  rw [onTimeout, if_neg hlive]
  rfl

/-- The causes that a timer may give. -/
inductive Cause.Due (c : Connection ε σ) (now : Instant) : Cause → Prop where
  /-- there was silence for too long -/
  | silence : c.state.isClosing = false → c.timers.isDue now .idle = true → Due c now c.silenced
  /-- it has drained for long enough -/
  | finished : c.state = .draining → Due c now .finished
  /-- the engine's timers ran -/
  | engine {k : Cause} : c.state.isClosing = false → k.Given (c.adapter.handleExpiry now).1 →
    Due c now k

/-- The engine of an open connection is about to run its timers. -/
theorem rests_cleared (c : Connection ε σ) (hopen : c.state.isClosing = false) :
    c.Rests { c with timers := c.currentTimers.clear .engine } := by
  refine { c.rests_currentTimers with engine := fun hclosing => ?_ }
  rw [hopen] at hclosing
  cases hclosing

/-- The moves that timers make, each for a cause that is due. On an open connection silence
comes first, and then nothing is left of the engine's timer. -/
theorem moves_timedOut (hfit : c.TimersFit) (hlive : c.state ≠ .closed) (now : Instant) :
    ∃ ks, c.Moves now ks (c.timedOut now) ∧ ∀ k ∈ ks, k.Due c now := by
  cases hopen : c.state.isClosing with
  | true =>
    have hdraining := (isClosing_iff.1 hopen).resolve_right hlive
    rw [timedOut_of_draining hfit hdraining]
    split
    · refine ⟨_, (Move.finished hdraining).single, fun k hk => ?_⟩
      obtain rfl := List.mem_singleton.1 hk
      exact .finished hdraining
    · exact ⟨[], .refl, List.forall_mem_nil _⟩
  | false =>
    rw [timedOut_of_open hfit hopen]
    split
    · next hidle =>
      refine ⟨_, (move_onIdleTimeout hopen now).single, fun k hk => ?_⟩
      obtain rfl := List.mem_singleton.1 hk
      exact .silence hopen hidle
    split
    · have hcleared := c.rests_cleared hopen
      obtain ⟨ks, hmoves, hks⟩ := moves_runEngineTimer (hcleared.isClosing.trans hopen) now
      exact ⟨ks, hcleared.moves.trans hmoves, fun k hk => .engine hopen (hks k hk)⟩
    · exact ⟨[], c.rests_currentTimers.moves, List.forall_mem_nil _⟩

end

end Connection

end QuicHost
