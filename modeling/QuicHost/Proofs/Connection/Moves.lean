import QuicHost.Connection.Calls
import QuicHost.Connection.Drive
import QuicHost.Proofs.Dispatcher
import QuicHost.Proofs.Stream.Confined

/-!
# How a connection moves

Everything that a connection does, over any engine, is a chain of moves. Most
moves change nothing about where the connection stands (`Rests`). The others are
few, and each has a cause: the engine has heard something, the handshake is
complete, the connection begins to drain or ends. What a call does is told by the
causes of its moves; which causes it may have depends on what the engine answers.

What a run keeps is proved once for each kind of move, and never for each call.
-/

namespace QuicHost

/-- The reason that an event about the end of the connection carries. -/
def Event.reason? : Event → Option CloseReason
  | draining reason => some reason
  | connectionClosed reason _ => some reason
  | _ => none

theorem Event.reason?_eq_none {e : Event} (h : e.isStreams = true) : e.reason? = none := by
  cases e <;> first | rfl | cases h

namespace Connection

variable {ε σ : Type}

/-- The events that nobody has been handed yet. -/
def pending (c : Connection ε σ) : List Event :=
  c.streams.events ++ (c.dispatcher.queue ++ c.dispatcher.mailbox)

/-- The reason with which exhausted resources end a connection. -/
def exhaustion : CloseReason :=
  ⟨.transportFailure, TransportErrorCode.internalError.code, []⟩

/-! ## Moves

What a connection does, in moves with causes. Rests are moves without a cause, so that
every step of the code is a chain of moves. -/

/-- Nothing changes about where the connection stands, except that the handshake
may begin, that the closing may have been sent, and that an open connection has
looked up when the engine wants to run. Handlers that write down what they are
handed go on doing so. -/
structure Rests (c c' : Connection ε σ) : Prop where
  settings : c'.settings = c.settings
  /-- the state, but for the handshake that may begin -/
  state : c'.state = c.state ∨ c.state = .initiating ∧ c'.state = .handshaking
  handshakeComplete : c'.handshakeComplete = c.handshakeComplete
  /-- the closing may have been sent, and is not asked for again -/
  closePending : c'.closePending = true → c.closePending = true
  closeReason : c'.closeReason = c.closeReason
  idleTimeout : c'.idleTimeout = c.idleTimeout
  drain : c'.timers.drain = c.timers.drain
  idle : c'.timers.idle = c.timers.idle
  /-- an open connection may have looked up when the engine wants to run -/
  engine : c.state.isClosing = true → c'.timers.engine = c.timers.engine
  frozen : c'.streams.frozen = c.streams.frozen
  peerParams : c'.streams.peerParams = c.streams.peerParams
  sealed : c'.dispatcher.sealed = c.dispatcher.sealed
  /-- events may have been taken out or added, but none that tells an end -/
  pending : ∀ e ∈ c'.pending, e ∈ c.pending ∨ e.reason? = none
  /-- handlers that write down what they are handed go on doing so -/
  noted : ∀ {note : σ → List Event}, c.dispatcher.NotedBy note → c'.dispatcher.NotedBy note

/-- What moves a connection on. -/
inductive Cause where
  /-- the engine has accepted a datagram -/
  | heard
  /-- the handshake is complete -/
  | completed
  /-- the connection begins to drain -/
  | drained (reason : CloseReason)
  /-- it has drained for long enough -/
  | finished
  /-- the handshake has failed, or took too long -/
  | failed (reason : CloseReason)
  /-- the engine has run out of resources -/
  | exhausted
deriving DecidableEq

/-- What a connection does at a time, with its cause. -/
inductive Move (now : Instant) (c : Connection ε σ) : List Cause → Connection ε σ → Prop where
  /-- it stays where it stands -/
  | rests {c' : Connection ε σ} : c.Rests c' → Move now c [] c'
  /-- the idle timer starts anew -/
  | heard : c.state.isClosing = false → Move now c [.heard] (c.touch now)
  /-- it becomes active -/
  | completed (peer : TransportParameters) : c.state.isClosing = false →
    c.handshakeComplete = false → Move now c [.completed] (c.completeHandshake peer now)
  /-- it begins to drain, and may tell the engine -/
  | drained (a : EngineAdapter ε) (announced : Bool) (reason : CloseReason) :
    c.state.isClosing = false → Move now c [.drained reason]
      ({ c with adapter := a, closePending := announced }.enterDraining reason now)
  /-- it ends after it has drained -/
  | finished : c.state = .draining → Move now c [.finished] c.finish
  /-- it ends before it became active -/
  | failed (reason : CloseReason) : c.state.isHandshaking = true →
    Move now c [.failed reason] (c.finishWith reason)
  /-- it ends on the spot -/
  | exhausted : c.state ≠ .closed → Move now c [.exhausted] (c.finishWith exhaustion)

/-- A chain of moves. -/
inductive Moves (now : Instant) (c : Connection ε σ) : List Cause → Connection ε σ → Prop where
  /-- nothing happens -/
  | refl : Moves now c [] c
  /-- one more move -/
  | tail {ks ks' : List Cause} {c' c'' : Connection ε σ} : Moves now c ks c' →
    Move now c' ks' c'' → Moves now c (ks ++ ks') c''

section

variable {c c' c'' : Connection ε σ} {now : Instant} {ks ks' : List Cause}

theorem Move.single (h : c.Move now ks c') : c.Moves now ks c' := Moves.refl.tail h

/-- Chains are joined, and their causes with them. -/
theorem Moves.trans (h : c.Moves now ks c') (h' : c'.Moves now ks' c'') :
    c.Moves now (ks ++ ks') c'' := by
  induction h' with
  | refl => rwa [List.append_nil]
  | tail _ hmove ih =>
    rw [← List.append_assoc]
    exact ih.tail hmove

/-- What every move keeps, a chain of moves keeps. -/
theorem Moves.keeps {P : Connection ε σ → Prop}
    (hstep : ∀ {c c' : Connection ε σ} {ks : List Cause}, P c → c.Move now ks c' → P c') (h : P c)
    (hmoves : c.Moves now ks c') : P c' := by
  induction hmoves with
  | refl => exact h
  | tail _ hmove ih => exact hstep ih hmove

theorem Rests.moves (h : c.Rests c') : c.Moves now [] c' := (Move.rests h).single

/-- What a move without a cause comes after has the same causes. -/
theorem Moves.rests (h : c.Moves now ks c') (h' : c'.Rests c'') : c.Moves now ks c'' := by
  have hlast : c'.Moves now [] c'' := h'.moves
  have htrans := h.trans hlast
  rwa [List.append_nil] at htrans

theorem Rests.refl (c : Connection ε σ) : c.Rests c :=
  ⟨rfl, .inl rfl, rfl, fun h => h, rfl, rfl, rfl, rfl, fun _ => rfl, rfl, rfl, rfl,
    fun _ he => .inl he, fun hnoted => hnoted⟩

theorem isClosing_iff : c.state.isClosing = true ↔ c.state = .draining ∨ c.state = .closed := by
  cases c.state <;> simp [ConnectionState.isClosing]

theorem ne_closed_of_open (hopen : c.state.isClosing = false) : c.state ≠ .closed := by
  intro hclosed
  rw [hclosed] at hopen
  cases hopen

theorem ne_closed_of_draining (h : c.state = .draining) : c.state ≠ .closed := by
  rw [h]
  decide

/-- A handshake belongs to an open connection. -/
theorem open_of_handshaking (h : c.state.isHandshaking = true) : c.state.isClosing = false := by
  rw [← Bool.not_eq_true, isClosing_iff]
  rintro (hstate | hstate)
  · rw [hstate] at h
    cases h
  · rw [hstate] at h
    cases h

/-- A connection that is closing and has nothing to say about it, or has said it. -/
structure Silent (c : Connection ε σ) : Prop where
  closing : c.state.isClosing = true
  closePending : c.closePending = false

/-- Such a connection has nothing to send. -/
theorem Silent.maySend (h : c.Silent) : c.maySend = false := by
  rw [Connection.maySend]
  rcases isClosing_iff.1 h.closing with hstate | hstate
  · rw [hstate]
    exact h.closePending
  · rw [hstate]

theorem Rests.isClosing (h : c.Rests c') : c'.state.isClosing = c.state.isClosing := by
  rcases h.state with heq | ⟨heq, heq'⟩
  · rw [heq]
  · rw [heq, heq']
    rfl

/-- A state that no handshake leads to. -/
theorem Rests.state_eq_iff (h : c.Rests c') {s : ConnectionState} (hs : s.isHandshaking = false) :
    c'.state = s ↔ c.state = s := by
  rcases h.state with heq | ⟨heq, heq'⟩
  · rw [heq]
  · rw [heq, heq']
    constructor
    · rintro rfl
      cases hs
    · rintro rfl
      cases hs

/-! ## What leaves the connection where it stands

Delivering, queuing, counting and talking to the engine. Since rests compose, whatever is
made of these is a rest. -/

/-- Streams and the engine do their work. -/
theorem rests_of_confined {s : StreamSet} (h : c.streams.Confined s) (a : EngineAdapter ε)
    (stats : ConnectionStats) :
    c.Rests { c with streams := s, adapter := a, stats := stats } where
  settings := rfl
  state := .inl rfl
  handshakeComplete := rfl
  closePending h := h
  closeReason := rfl
  idleTimeout := rfl
  drain := rfl
  idle := rfl
  engine _ := rfl
  frozen := h.frozen
  peerParams := h.peerParams
  sealed := rfl
  pending e he := by
    rcases List.mem_append.1 he with he | he
    · rcases h.told e he with he | hstreams
      · exact .inl (List.mem_append_left _ he)
      · exact .inr (Event.reason?_eq_none hstreams)
    · exact .inl (List.mem_append_right _ he)
  noted hnoted := hnoted

theorem rests_adapter (c : Connection ε σ) (a : EngineAdapter ε) :
    c.Rests { c with adapter := a } :=
  rests_of_confined (.refl c.streams) a c.stats

theorem rests_stats (c : Connection ε σ) (stats : ConnectionStats) :
    c.Rests { c with stats := stats } :=
  rests_of_confined (.refl c.streams) c.adapter stats

/-- The first datagram begins the handshake. -/
theorem rests_begun (c : Connection ε σ) (a : EngineAdapter ε) :
    c.Rests { c with
      adapter := a
      state := if c.state = .initiating then .handshaking else c.state } := by
  refine { rests_adapter c a with state := ?_ }
  dsimp only
  split
  · next hinitiating => exact .inr ⟨hinitiating, rfl⟩
  · exact .inl rfl

/-- The dispatcher does its work. -/
theorem rests_dispatcher {d : EventDispatcher σ} (hsealed : d.sealed = c.dispatcher.sealed)
    (hpending : ∀ e ∈ d.queue ++ d.mailbox, e ∈ c.pending ∨ e.reason? = none)
    (hnoted : ∀ {note : σ → List Event}, c.dispatcher.NotedBy note → d.NotedBy note) :
    c.Rests { c with dispatcher := d } where
  settings := rfl
  state := .inl rfl
  handshakeComplete := rfl
  closePending h := h
  closeReason := rfl
  idleTimeout := rfl
  drain := rfl
  idle := rfl
  engine _ := rfl
  frozen := rfl
  peerParams := rfl
  sealed := hsealed
  pending e he := by
    rcases List.mem_append.1 he with he | he
    · exact .inl (List.mem_append_left _ he)
    · exact hpending e he
  noted := hnoted

/-- Pushing events adds them to the queue and to nothing else, unless the dispatcher is
sealed. -/
theorem queue_foldl_push (d : EventDispatcher σ) (es : List Event) :
    (es.foldl (·.push ·) d).sealed = d.sealed ∧ (es.foldl (·.push ·) d).mailbox = d.mailbox ∧
      ∀ e ∈ (es.foldl (·.push ·) d).queue, e ∈ d.queue ∨ e ∈ es := by
  induction es generalizing d with
  | nil => exact ⟨rfl, rfl, fun _ he => .inl he⟩
  | cons first rest ih =>
    obtain ⟨hsealed, hmailbox, hqueue⟩ := ih (d.push first)
    refine ⟨hsealed.trans (EventDispatcher.sealed_push d first), hmailbox.trans ?_, fun e he => ?_⟩
    · rw [EventDispatcher.push]
      split <;> rfl
    · rcases hqueue e he with he | he
      · rw [EventDispatcher.push] at he
        split at he
        · exact .inl he
        · rcases List.mem_append.1 he with he | he
          · exact .inl he
          · exact .inr (List.mem_singleton.1 he ▸ List.mem_cons_self)
      · exact .inr (List.mem_cons_of_mem _ he)

/-- Events of the streams go on into the queue. -/
theorem pending_pump (c : Connection ε σ) : c.pump.dispatcher.sealed = c.dispatcher.sealed ∧
    ∀ e ∈ c.pump.pending, e ∈ c.pending := by
  obtain ⟨hsealed, hmailbox, hqueue⟩ := queue_foldl_push c.dispatcher c.streams.events
  refine ⟨hsealed, fun e he => ?_⟩
  rcases List.mem_append.1 he with he | he
  · cases he
  rcases List.mem_append.1 he with he | he
  · rcases hqueue e he with he | he
    · exact List.mem_append_right _ (List.mem_append_left _ he)
    · exact List.mem_append_left _ he
  · have he' : e ∈ (c.streams.events.foldl (·.push ·) c.dispatcher).mailbox := he
    rw [hmailbox] at he'
    exact List.mem_append_right _ (List.mem_append_right _ he')

theorem notedBy_foldl_push {note : σ → List Event} {d : EventDispatcher σ} (h : d.NotedBy note)
    (es : List Event) : (es.foldl (·.push ·) d).NotedBy note := by
  induction es generalizing d with
  | nil => exact h
  | cons first rest ih => exact ih (h.push first)

/-- Queuing what the streams tell changes nothing about where the connection stands. -/
theorem rests_pump (c : Connection ε σ) : c.Rests c.pump := by
  obtain ⟨hsealed, hpending⟩ := c.pending_pump
  exact ⟨rfl, .inl rfl, rfl, fun h => h, rfl, rfl, rfl, rfl, fun _ => rfl, rfl, rfl,
    hsealed, fun e he => .inl (hpending e he), fun hnoted => notedBy_foldl_push hnoted _⟩

/-- A handshake that begins in one of two parts begins in both together. -/
theorem Rests.trans (h : c.Rests c') (h' : c'.Rests c'') : c.Rests c'' where
  settings := h'.settings.trans h.settings
  state := by
    rcases h.state with heq | ⟨heq, heq'⟩
    · rw [← heq]
      exact h'.state
    · rcases h'.state with hsame | ⟨hinitiating, -⟩
      · exact .inr ⟨heq, hsame.trans heq'⟩
      · rw [heq'] at hinitiating
        cases hinitiating
  handshakeComplete := h'.handshakeComplete.trans h.handshakeComplete
  closePending hpending := h.closePending (h'.closePending hpending)
  closeReason := h'.closeReason.trans h.closeReason
  idleTimeout := h'.idleTimeout.trans h.idleTimeout
  drain := h'.drain.trans h.drain
  idle := h'.idle.trans h.idle
  engine hclosing := (h'.engine (h.isClosing.trans hclosing)).trans (h.engine hclosing)
  frozen := h'.frozen.trans h.frozen
  peerParams := h'.peerParams.trans h.peerParams
  sealed := h'.sealed.trans h.sealed
  pending e he := by
    rcases h'.pending e he with he | hnone
    · exact h.pending e he
    · exact .inr hnone
  noted hnoted := h'.noted (h.noted hnoted)

theorem sealed_emit (c : Connection ε σ) (e : Event) :
    (c.emit e).dispatcher.sealed = c.dispatcher.sealed :=
  (EventDispatcher.sealed_push _ e).trans c.pending_pump.1

theorem notedBy_emit {note : σ → List Event} (h : c.dispatcher.NotedBy note) (e : Event) :
    (c.emit e).dispatcher.NotedBy note :=
  (c.rests_pump.noted h).push e

/-- An event is queued, unless the connection has said its last word. -/
theorem pending_emit (c : Connection ε σ) (e : Event) :
    ∀ e' ∈ (c.emit e).pending, e' ∈ c.pending ∨ e' = e := by
  intro e' he'
  have hpush : e' ∈ c.pump.pending ∨ e' = e := by
    change e' ∈ c.pump.streams.events ++ ((c.pump.dispatcher.push e).queue ++
      (c.pump.dispatcher.push e).mailbox) at he'
    rw [EventDispatcher.push] at he'
    split at he'
    · exact .inl he'
    · simp only [List.mem_append, List.mem_singleton] at he'
      simp only [pending, List.mem_append]
      tauto
  rcases hpush with he' | rfl
  · exact .inl (c.pending_pump.2 e' he')
  · exact .inr rfl

/-- An event that tells nothing about the end changes nothing about it. -/
theorem rests_emit (c : Connection ε σ) {e : Event} (he : e.reason? = none) :
    c.Rests (c.emit e) := by
  refine ⟨rfl, .inl rfl, rfl, fun h => h, rfl, rfl, rfl, rfl, fun _ => rfl, rfl, rfl,
    c.sealed_emit e, fun e' he' => ?_, fun hnoted => notedBy_emit hnoted e⟩
  rcases c.pending_emit e e' he' with he' | rfl
  · exact .inl he'
  · exact .inr he

/-- The dispatcher hands out what is pending. -/
theorem rests_of_hands {d : EventDispatcher σ} {w w' : σ}
    (h : c.dispatcher.Hands c.dispatcher.MayHand w d w') : c.Rests { c with dispatcher := d } := by
  have hmay {e : Event} (he : c.dispatcher.MayHand e) : e ∈ c.pending ∨ e.reason? = none := by
    rcases he with he | ⟨failure, rfl⟩
    · exact .inl (List.mem_append_right _ (List.mem_append_left _ he))
    · exact .inr rfl
  refine rests_dispatcher h.sealed (fun e he => ?_) fun hnoted => (h.noted hnoted).1
  rcases List.mem_append.1 he with he | he
  · rcases h.queue e he with he | he
    · exact .inl (List.mem_append_right _ (List.mem_append_left _ he))
    · exact hmay he
  · rcases h.mailbox e he with he | he
    · exact .inl (List.mem_append_right _ (List.mem_append_right _ he))
    · exact hmay he

/-- Delivering changes nothing about where the connection stands. -/
theorem rests_flush (c : Connection ε σ) (w : σ) : c.Rests (c.flush w).1.2 :=
  c.rests_pump.trans (rests_of_hands (c.pump.dispatcher.hands_dispatch w))

theorem rests_pollEvent (c : Connection ε σ) (w : σ) : c.Rests (c.pollEvent w).1.2 :=
  c.rests_pump.trans (rests_of_hands (c.pump.dispatcher.hands_pollEvent w).1)

/-! ## The moves that have a cause

Each of them as one change of the connection, under the guard that the code has at this
place. -/

theorem touch_eq (hopen : c.state.isClosing = false) (now : Instant) :
    c.touch now =
      { c with timers := c.timers.update .idle (c.idleTimeout.map now.saturatingAdd) } :=
  if_neg (Bool.eq_false_iff.1 hopen)

/-- The connection as the completed handshake leaves it, before anything is told. -/
def activate (c : Connection ε σ) (peer : TransportParameters) (now : Instant) : Connection ε σ :=
  let idleTimeout := negotiateIdleTimeout c.settings.idleTimeout peer.idleTimeout
  { c with
    handshakeComplete := true
    idleTimeout := idleTimeout
    state := .active
    timers := c.timers.update .idle (idleTimeout.map now.saturatingAdd)
    streams.peerParams := some peer }

/-- What the completed handshake changes: where the connection stands, what is told, and the
streams. -/
theorem completeHandshake_eq (hnew : c.handshakeComplete = false) (peer : TransportParameters)
    (now : Instant) :
    c.completeHandshake peer now = { (c.activate peer now).emit .handshakeCompleted with
      streams := c.streams.takeEvents.2.onHandshakeCompleted peer } :=
  if_neg (Bool.eq_false_iff.1 hnew)

/-- The streams that are waiting for the handshake are told. -/
theorem rests_completeHandshake (hnew : c.handshakeComplete = false)
    (hfrozen : c.streams.frozen = false) (peer : TransportParameters) (now : Instant) :
    (c.activate peer now).Rests (c.completeHandshake peer now) := by
  have htold : (c.activate peer now).Rests ((c.activate peer now).emit .handshakeCompleted) :=
    rests_emit _ rfl
  have hraised : ((c.activate peer now).emit .handshakeCompleted).streams.Confined
      (c.streams.takeEvents.2.onHandshakeCompleted peer) :=
    StreamSet.confined_onHandshakeCompleted (s := c.streams.takeEvents.2) hfrozen peer
  rw [completeHandshake_eq hnew]
  exact htold.trans (rests_of_confined hraised _ _)

/-- What changes when an open connection begins to drain. -/
theorem enterDraining_eq (hopen : c.state.isClosing = false) (reason : CloseReason)
    (now : Instant) :
    c.enterDraining reason now = { c with
      state := .draining
      timers := (∅ : Deadlines).set .drain (now.saturatingAdd c.settings.drainTimeout)
      closeReason := some reason }.emit (.draining reason) :=
  if_neg (Bool.eq_false_iff.1 hopen)

/-- What changes when a connection is over. -/
theorem finish_eq (hopen : c.state ≠ .closed) :
    c.finish = { c with
      streams := c.streams.freeze.takeEvents.2
      state := .closed
      timers := ∅
      closePending := false
      dispatcher := c.dispatcher.sealWith (.connectionClosed
        (c.closeReason.getD ⟨.localClose, TransportErrorCode.noError.code, []⟩)
        c.streams.writesIncomplete) } :=
  if_neg hopen

/-- What changes when a connection is over for a reason of its own. -/
theorem finishWith_eq (hopen : c.state ≠ .closed) (reason : CloseReason) :
    c.finishWith reason = { c with
      streams := c.streams.freeze.takeEvents.2
      state := .closed
      timers := ∅
      closePending := false
      closeReason := some reason
      dispatcher := c.dispatcher.sealWith
        (.connectionClosed reason c.streams.writesIncomplete) } :=
  if_neg hopen

/-- Handlers go on writing down what they are handed. -/
theorem Move.noted (h : c.Move now ks c') {note : σ → List Event}
    (hnoted : c.dispatcher.NotedBy note) : c'.dispatcher.NotedBy note := by
  cases h with
  | rests hrests => exact hrests.noted hnoted
  | heard hopen =>
    rw [touch_eq hopen]
    exact hnoted
  | completed peer hopen hnew =>
    rw [completeHandshake_eq hnew]
    exact notedBy_emit (c := c.activate peer now) hnoted _
  | drained a announced reason hopen =>
    rw [enterDraining_eq (by exact hopen)]
    exact notedBy_emit hnoted _
  | finished hdraining =>
    rw [finish_eq (ne_closed_of_draining hdraining)]
    exact hnoted.sealWith _
  | failed reason hhandshaking =>
    rw [finishWith_eq (ne_closed_of_open (open_of_handshaking hhandshaking))]
    exact hnoted.sealWith _
  | exhausted hlive =>
    rw [finishWith_eq hlive]
    exact hnoted.sealWith _

theorem Moves.noted (h : c.Moves now ks c') {note : σ → List Event}
    (hnoted : c.dispatcher.NotedBy note) : c'.dispatcher.NotedBy note :=
  Moves.keeps (fun hnoted hmove => hmove.noted hnoted) hnoted h

/-- The connection with one more failure counted and reported. -/
def reportError (c : Connection ε σ) (e : TransportError) : Connection ε σ :=
  { c with stats.transportErrors := c.stats.transportErrors + 1 }.emit (.transportError e)

theorem rests_reportError (c : Connection ε σ) (e : TransportError) :
    c.Rests (c.reportError e) := by
  have hcounted := c.rests_stats
    { c.stats with transportErrors := c.stats.transportErrors + 1 }
  have hnone : (Event.transportError e).reason? = none := rfl
  exact hcounted.trans (rests_emit _ hnone)

variable [PacketEngine ε]

/-- A failure is reported before anything is done about it. -/
theorem onTransportError_eq (c : Connection ε σ) (e : TransportError) (now : Instant) :
    c.onTransportError e now =
      match e with
      | .resourceExhausted => (c.reportError e).finishWith ⟨.transportFailure, e.closeCode, []⟩
      | .protocolViolation code =>
        if (c.reportError e).state.isClosing then c.reportError e
        else (c.reportError e).announceClose ⟨.transportFailure, code, []⟩ now
      | .handshakeFailure code =>
        if (c.reportError e).state.isHandshaking then (c.reportError e).finishWith
          ⟨.handshakeFailed, code, []⟩
        else c.reportError e
      | _ => c.reportError e := rfl

/-- The engine's own deadline is looked up. -/
theorem rests_currentTimers (c : Connection ε σ) :
    c.Rests { c with timers := c.currentTimers } := by
  have htimers : c.currentTimers.drain = c.timers.drain ∧ c.currentTimers.idle = c.timers.idle ∧
      (c.state.isClosing = true → c.currentTimers.engine = c.timers.engine) := by
    rw [currentTimers]
    split
    · exact ⟨rfl, rfl, fun _ => rfl⟩
    · next hopen => exact ⟨rfl, rfl, fun hclosing => (hopen hclosing).elim⟩
  exact ⟨rfl, .inl rfl, rfl, fun h => h, rfl, rfl, htimers.1, htimers.2.1, htimers.2.2, rfl, rfl,
    rfl, fun _ he => .inl he, fun hnoted => hnoted⟩

/-- Granting credit changes nothing about where the connection stands. -/
theorem rests_extendConnection (c : Connection ε σ) (released : Nat) :
    c.Rests (c.extendConnection released) := by
  rw [extendConnection]
  split
  · exact .refl c
  · exact c.rests_adapter _

end

end Connection

end QuicHost
