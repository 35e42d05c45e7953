import QuicHost.Proofs.Connection.Moves
import QuicHost.Proofs.Connection.Run

/-!
# Open and ending connections

A connection is open until something closes it, and then it is ending for ever.
While it is open, what a call does to the core is a number of quiet steps; when it
is ending, all that it may still say is why.

Every function a call is made of is shown to *advance* the connection in this
sense, and functions that advance can be chained. Here are those that tell events, arm
timers, end the connection and act on callbacks. A callback of an open connection is
acted on, or it is a violation, which closes the connection (`Takes`).
-/

namespace QuicHost

namespace ScriptedEngine

/-- The closing was not asked for, and the script keeps to its scope. -/
structure Sound (p : Scope) (e : ScriptedEngine) : Prop where
  closeFrame : e.closeFrame = none
  callbacks : ∀ c ∈ e.callbacks, p.callback c
  datagramReactions : ∀ r ∈ e.datagramReactions, ∀ c ∈ r.callbacks, p.callback c
  timeoutReactions : ∀ r ∈ e.timeoutReactions, ∀ c ∈ r.callbacks, p.callback c

variable {p : Scope}

/-- The closing and the script are the same in `e` and `e'`. -/
structure SameScript (e e' : ScriptedEngine) : Prop where
  closeFrame : e'.closeFrame = e.closeFrame
  callbacks : e'.callbacks = e.callbacks
  datagramReactions : e'.datagramReactions = e.datagramReactions
  timeoutReactions : e'.timeoutReactions = e.timeoutReactions

theorem SameScript.refl (e : ScriptedEngine) : e.SameScript e := ⟨rfl, rfl, rfl, rfl⟩

theorem SameScript.trans {e e' e'' : ScriptedEngine} (h : e.SameScript e')
    (h' : e'.SameScript e'') : e.SameScript e'' :=
  ⟨h'.closeFrame.trans h.closeFrame, h'.callbacks.trans h.callbacks,
    h'.datagramReactions.trans h.datagramReactions, h'.timeoutReactions.trans h.timeoutReactions⟩

theorem SameScript.sound {e e' : ScriptedEngine} (h : e.SameScript e') (he : e.Sound p) :
    e'.Sound p where
  closeFrame := h.closeFrame.trans he.closeFrame
  callbacks := by rw [h.callbacks]; exact he.callbacks
  datagramReactions := by rw [h.datagramReactions]; exact he.datagramReactions
  timeoutReactions := by rw [h.timeoutReactions]; exact he.timeoutReactions

theorem sameScript_grant (e : ScriptedEngine) (n : Nat) : e.SameScript (e.grant n) := by
  rw [grant]
  split <;> exact ⟨rfl, rfl, rfl, rfl⟩

theorem sameScript_grantRead (e : ScriptedEngine) (id : StreamId) (n : Nat) :
    e.SameScript (e.grantRead id n) := by
  rw [grantRead]
  split <;> exact ⟨rfl, rfl, rfl, rfl⟩

/-- Abandoning a half changes what waits to be sent, not the script. -/
theorem sameScript_shutdownWrite (e : ScriptedEngine) (id : StreamId) (errorCode : Nat) :
    e.SameScript (e.shutdownWrite id errorCode) := ⟨rfl, rfl, rfl, rfl⟩

/-- Asking the peer to stop changes what waits to be sent, not the script. -/
theorem sameScript_shutdownRead (e : ScriptedEngine) (id : StreamId) (errorCode : Nat) :
    e.SameScript (e.shutdownRead id errorCode) := ⟨rfl, rfl, rfl, rfl⟩

/-- A reaction records callbacks and does nothing else. -/
theorem react_outcome (e : ScriptedEngine) {r : Option Reaction}
    (hr : ∀ reaction, r = some reaction → (∀ c ∈ reaction.callbacks, p.callback c)) :
    (e.Sound p → (e.react r).2.Sound p) ∧ e.SameBooks (e.react r).2 := by
  rcases r with _ | error | callbacks
  · exact ⟨id, .refl e⟩
  · exact ⟨id, .refl e⟩
  · refine ⟨fun he => ⟨he.closeFrame, fun c hc => ?_, he.datagramReactions, he.timeoutReactions⟩,
      rfl, rfl, rfl, rfl, rfl, rfl⟩
    rcases List.mem_append.1 hc with hc | hc
    · exact he.callbacks c hc
    · exact hr _ rfl c hc

/-- A datagram takes one reaction off the script, and what is left is still within the
scope. -/
theorem readDatagram_outcome {e : ScriptedEngine} (he : e.Sound p) (datagram : Bytes) :
    (e.readDatagram datagram).2.Sound p ∧ e.SameBooks (e.readDatagram datagram).2 := by
  rw [readDatagram]
  have hhead : ∀ reaction, e.datagramReactions.head? = some reaction →
      (∀ c ∈ reaction.callbacks, p.callback c) :=
    fun reaction hr => he.datagramReactions reaction (List.mem_of_head? hr)
  have htaken : e.SameBooks { e with
      received := e.received ++ [datagram]
      datagramReactions := e.datagramReactions.tail } := ⟨rfl, rfl, rfl, rfl, rfl, rfl⟩
  obtain ⟨hsound, hbooks⟩ := react_outcome _ hhead
  exact ⟨hsound ⟨he.closeFrame, he.callbacks,
    fun r hr => he.datagramReactions r (List.mem_of_mem_tail hr), he.timeoutReactions⟩,
    htaken.trans hbooks⟩

/-- A timer takes one reaction off the script. -/
theorem handleExpiry_outcome {e : ScriptedEngine} (he : e.Sound p) :
    e.handleExpiry.2.Sound p ∧ e.SameBooks e.handleExpiry.2 := by
  rw [handleExpiry]
  have hhead : ∀ reaction, e.timeoutReactions.head? = some reaction →
      (∀ c ∈ reaction.callbacks, p.callback c) :=
    fun reaction hr => he.timeoutReactions reaction (List.mem_of_head? hr)
  have htaken : e.SameBooks { e with
      expiry := none
      timeoutReactions := e.timeoutReactions.tail } := ⟨rfl, rfl, rfl, rfl, rfl, rfl⟩
  obtain ⟨hsound, hbooks⟩ := react_outcome _ hhead
  exact ⟨hsound ⟨he.closeFrame, he.callbacks, he.datagramReactions,
    fun r hr => he.timeoutReactions r (List.mem_of_mem_tail hr)⟩,
    htaken.trans hbooks⟩

/-- Callbacks that were drained fit, and none are left. -/
theorem drained_outcome {e : ScriptedEngine} (he : e.Sound p) :
    ({ e with callbacks := [] } : ScriptedEngine).Sound p ∧
      e.SameBooks { e with callbacks := [] } :=
  ⟨⟨he.closeFrame, fun _ h => (List.not_mem_nil h).elim, he.datagramReactions, he.timeoutReactions⟩,
    rfl, rfl, rfl, rfl, rfl, rfl⟩

end ScriptedEngine

namespace EngineAdapter

variable {p : Scope}

/-- What the engine took in is drained unless it failed. -/
theorem drainUnlessFailed_outcome {a : EngineAdapter ScriptedEngine} (ha : a.engine.Sound p)
    (result : Except EngineError Unit) :
    ∃ engine, (a.drainUnlessFailed result).2 = { a with engine := engine } ∧ engine.Sound p ∧
      a.engine.SameBooks engine ∧
      ∀ callbacks, (a.drainUnlessFailed result).1 = .ok callbacks →
        ∀ c ∈ callbacks, p.callback c := by
  rcases result with e | _
  · exact ⟨a.engine, rfl, ha, .refl _, nofun⟩
  · obtain ⟨hsound, hbooks⟩ := ScriptedEngine.drained_outcome ha
    refine ⟨_, rfl, hsound, hbooks, fun callbacks h => ?_⟩
    obtain rfl := Except.ok.inj h
    exact ha.callbacks

/-- The adapter hands the datagram to the engine, which stays sound, and the callbacks it
answers with are within the scope. -/
theorem ingest_outcome {a : EngineAdapter ScriptedEngine} (ha : a.engine.Sound p) (datagram : Bytes)
    (now : Instant) :
    ∃ engine, (a.ingest datagram now).2 = { a with engine := engine } ∧ engine.Sound p ∧
      a.engine.SameBooks engine ∧
      ∀ callbacks, (a.ingest datagram now).1 = .ok callbacks → ∀ c ∈ callbacks, p.callback c := by
  obtain ⟨hread, hreadBooks⟩ := ScriptedEngine.readDatagram_outcome ha datagram
  obtain ⟨engine, heq, hsound, hbooks, hfits⟩ := drainUnlessFailed_outcome
    (a := { a with engine := (a.engine.readDatagram datagram).2 }) hread
      (a.engine.readDatagram datagram).1
  exact ⟨engine, heq, hsound, hreadBooks.trans hbooks, hfits⟩

/-- The adapter lets the engine's timers run, as it does for a datagram. -/
theorem handleExpiry_outcome {a : EngineAdapter ScriptedEngine} (ha : a.engine.Sound p)
    (now : Instant) :
    ∃ engine, (a.handleExpiry now).2 = { a with engine := engine } ∧ engine.Sound p ∧
      a.engine.SameBooks engine ∧
      ∀ callbacks, (a.handleExpiry now).1 = .ok callbacks → ∀ c ∈ callbacks, p.callback c := by
  obtain ⟨hrun, hrunBooks⟩ := ScriptedEngine.handleExpiry_outcome ha
  obtain ⟨engine, heq, hsound, hbooks, hfits⟩ := drainUnlessFailed_outcome
    (a := { a with engine := a.engine.handleExpiry.2 }) hrun a.engine.handleExpiry.1
  exact ⟨engine, heq, hsound, hrunBooks.trans hbooks, hfits⟩

end EngineAdapter

namespace Connection

variable {σ : Type} {p : Scope} {c c' c'' : Connection ScriptedEngine σ}

/-- The connection is not closing, neither is its engine, and the streams are in
motion. -/
structure IsOpen (p : Scope) (c : Connection ScriptedEngine σ) : Prop where
  state : c.state.isClosing = false
  closePending : c.closePending = false
  /-- the engine keeps to the scope, and was not asked to close -/
  engine : c.adapter.engine.Sound p
  bounds : c.adapter.bounds = p.bounds
  /-- the streams are orderly and in motion -/
  core : c.core.Sound

/-- The connection is closing. If the closing is not sent yet, it fits a frame. -/
structure IsEnding (bounds : Nat × Nat) (c : Connection ScriptedEngine σ) : Prop where
  state : c.state.isClosing = true
  bounds : c.adapter.bounds = bounds
  /-- the closing that waits to be sent -/
  announced : c.closePending = true → ∃ errorCode reason,
    c.adapter.engine.closeFrame = some (.connectionClose errorCode reason) ∧
      reason.length ≤ Frame.maxPayload

/-- What a connection may become: an ending one stays so, and silent if it was; an
open one ends or takes quiet steps. -/
structure Advances (p : Scope) (c c' : Connection ScriptedEngine σ) : Prop where
  /-- nothing opens a connection again -/
  ending : c.IsEnding p.bounds → c'.IsEnding p.bounds
  /-- nothing makes a silent connection speak -/
  silent : c.Silent → c'.Silent
  /-- an open connection ends, or goes on by quiet steps -/
  running : c.IsOpen p → c'.IsEnding p.bounds ∨ c'.IsOpen p ∧ c.core.Quietly p c'.core

namespace Advances

theorem refl (c : Connection ScriptedEngine σ) : c.Advances p c :=
  ⟨id, id, fun h => .inr ⟨h, .refl⟩⟩

/-- What may become of what a connection may become. -/
theorem trans (h : c.Advances p c') (h' : c'.Advances p c'') : c.Advances p c'' := by
  refine ⟨fun he => h'.ending (h.ending he), fun hs => h'.silent (h.silent hs), fun ho => ?_⟩
  rcases h.running ho with he | ⟨ho', hq⟩
  · exact .inl (h'.ending he)
  rcases h'.running ho' with he | ⟨ho'', hq'⟩
  · exact .inl he
  · exact .inr ⟨ho'', hq.trans hq'⟩

/-- A connection whose standing and closing are as before advances by quiet
steps. -/
theorem of_quietly (hstate : c'.state.isClosing = c.state.isClosing)
    (hpending : c'.closePending = c.closePending)
    (hframe : c'.adapter.engine.closeFrame = c.adapter.engine.closeFrame)
    (hbounds : c'.adapter.bounds = c.adapter.bounds)
    (hsound : c.adapter.engine.Sound p → c'.adapter.engine.Sound p)
    (hquiet : c.core.Quietly p c'.core) : c.Advances p c' := by
  refine ⟨?_, fun h => ⟨hstate.trans h.closing, hpending.trans h.closePending⟩, ?_⟩
  · rintro ⟨hclosing, hbounds', hannounced⟩
    exact ⟨hstate.trans hclosing, hbounds.trans hbounds', by rwa [hpending, hframe]⟩
  · rintro ⟨hopen, hpending', hengine, hbounds', hcore⟩
    exact .inr ⟨⟨hstate.trans hopen, hpending.trans hpending', hsound hengine,
      hbounds.trans hbounds',
      hquiet.sound hcore⟩, hquiet⟩

/-- A connection with the same core and the same standing. -/
theorem of_eq (hstate : c'.state.isClosing = c.state.isClosing)
    (hpending : c'.closePending = c.closePending) (hbounds : c'.adapter.bounds = c.adapter.bounds)
    (hcore : c'.core = c.core) : c.Advances p c' := by
  have hengine : c'.adapter.engine = c.adapter.engine := congrArg Core.engine hcore
  refine of_quietly hstate hpending (by rw [hengine]) hbounds (by rw [hengine]; exact id) ?_
  rw [hcore]

end Advances

/-! ## Events, timers and the end

What a connection does besides its streams: it queues and delivers events, sets timers,
and ends. None of it is a step of the streams while the connection is open. -/

theorem advances_pump (c : Connection ScriptedEngine σ) : c.Advances p c.pump :=
  .of_quietly rfl rfl rfl rfl id (.single .events)

theorem advances_emit (c : Connection ScriptedEngine σ) (e : Event) : c.Advances p (c.emit e) :=
  c.advances_pump.trans (.of_eq rfl rfl rfl rfl)

theorem advances_flush (c : Connection ScriptedEngine σ) (w : σ) : c.Advances p (c.flush w).1.2 :=
  c.advances_pump.trans (.of_eq rfl rfl rfl rfl)

theorem advances_flushWith {α : Type} (c : Connection ScriptedEngine σ) (answer : α) (w : σ) :
    c.Advances p (c.flushWith answer w).1.2 :=
  c.advances_flush w

theorem advances_touch (c : Connection ScriptedEngine σ) (now : Instant) :
    c.Advances p (c.touch now) := by
  rw [touch]
  split
  · exact .refl c
  · exact .of_eq rfl rfl rfl rfl

/-- Whoever is not ending begins to. -/
theorem isEnding_enterDraining (hopen : c.state.isClosing = false)
    (hbounds : c.adapter.bounds = p.bounds)
    (hannounced : c.closePending = true → ∃ errorCode reason,
      c.adapter.engine.closeFrame = some (.connectionClose errorCode reason) ∧
        reason.length ≤ Frame.maxPayload)
    (reason : CloseReason) (now : Instant) : (c.enterDraining reason now).IsEnding p.bounds := by
  rw [enterDraining, if_neg (Bool.eq_false_iff.1 hopen)]
  exact ⟨rfl, hbounds, hannounced⟩

/-- To begin to drain is to end. -/
theorem advances_enterDraining (c : Connection ScriptedEngine σ) (reason : CloseReason)
    (now : Instant) : c.Advances p (c.enterDraining reason now) := by
  refine ⟨fun h => ?_, fun h => ?_, fun h => ?_⟩
  · rwa [enterDraining, if_pos h.state]
  · rwa [enterDraining, if_pos h.closing]
  · refine .inl (isEnding_enterDraining h.state h.bounds (fun hpending => ?_) reason now)
    rw [h.closePending] at hpending
    cases hpending

/-- A connection that has finished is ending, and one that was closed is as it was. -/
theorem isEnding_finish (hbounds : c.adapter.bounds = p.bounds)
    (h : c.state = .closed → c.IsEnding p.bounds) : c.finish.IsEnding p.bounds := by
  rw [finish]
  split
  · next hclosed => exact h hclosed
  · exact ⟨rfl, hbounds, fun hpending => by cases hpending⟩

/-- A connection that finishes is over, or was. -/
theorem advances_finish (c : Connection ScriptedEngine σ) : c.Advances p c.finish := by
  refine ⟨fun h => isEnding_finish h.bounds fun _ => h, fun h => ?_, fun h => ?_⟩
  · rw [finish]
    split
    · exact h
    · exact ⟨rfl, rfl⟩
  · refine .inl (isEnding_finish h.bounds fun hclosed => ?_)
    have := h.state
    rw [hclosed] at this
    cases this

theorem advances_finishWith (c : Connection ScriptedEngine σ) (reason : CloseReason) :
    c.Advances p (c.finishWith reason) := by
  have hnamed : c.Advances p { c with closeReason := some reason } := .of_eq rfl rfl rfl rfl
  exact hnamed.trans (advances_finish _)

/-- The closing is queued as one frame, whatever the reason. -/
theorem isEnding_announceClose (h : c.IsOpen p) (reason : CloseReason) (now : Instant) :
    (c.announceClose reason now).IsEnding p.bounds := by
  rw [announceClose]
  refine isEnding_enterDraining ?_ ?_ (fun _ => ?_) reason now
  · exact h.state
  · exact h.bounds
  -- the reason is cut to what a frame can hold
  refine ⟨reason.errorCode, reason.reason.take Frame.maxPayload, ?_, List.length_take_le _ _⟩
  change (c.adapter.engine.close reason.errorCode reason.reason).closeFrame = _
  rw [ScriptedEngine.close, ScriptedEngine.isClosing, h.engine.closeFrame]
  rfl

theorem advances_reportError (c : Connection ScriptedEngine σ) (e : TransportError) :
    c.Advances p (c.reportError e) := by
  have hcounted : c.Advances p { c with stats.transportErrors := c.stats.transportErrors + 1 } :=
    .of_eq rfl rfl rfl rfl
  exact hcounted.trans (advances_emit _ _)

/-- A failure of the transport ends an open connection, or is told and nothing else. -/
theorem advances_onTransportError (c : Connection ScriptedEngine σ) (e : TransportError)
    (now : Instant) : c.Advances p (c.onTransportError e now) := by
  have hreported : c.Advances p (c.reportError e) := c.advances_reportError e
  rw [onTransportError_eq]
  split
  · exact hreported.trans (advances_finishWith _ _)
  · split
    · exact hreported
    · next hopen =>
      exact hreported.trans ⟨fun h => absurd h.state hopen, fun h => absurd h.closing hopen,
        fun h => .inl (isEnding_announceClose h _ now)⟩
  · split
    · exact hreported.trans (advances_finishWith _ _)
    · exact hreported
  · exact hreported

/-- A violation closes an open connection. -/
theorem isEnding_of_violation (h : c.IsOpen p) (code : TransportErrorCode) (now : Instant) :
    (c.onTransportError (.violation code) now).IsEnding p.bounds := by
  have hreported : (c.reportError (.violation code)).IsOpen p :=
    ((c.advances_reportError _).running h).elim (fun hend =>
      absurd hend.state (Bool.eq_false_iff.1 h.state))
      (·.1)
  rw [TransportError.violation] at hreported ⊢
  rw [onTransportError_eq]
  dsimp only
  rw [if_neg (Bool.eq_false_iff.1 hreported.state)]
  exact isEnding_announceClose hreported _ now

/-- Silence ends an open connection. -/
theorem advances_onIdleTimeout (c : Connection ScriptedEngine σ) (now : Instant) :
    c.Advances p (c.onIdleTimeout now) := by
  rw [onIdleTimeout]
  split
  · exact advances_finishWith _ _
  split
  · exact advances_enterDraining _ _ _
  · exact .refl _

/-! ## Callbacks

Every callback is one quiet step of the core, or an end. A callback that the streams
refuse is a violation, which ends the connection. -/

/-- New streams and a new engine of an open connection that stands where it
stood. -/
theorem advances_core (streams : StreamSet) {engine : ScriptedEngine}
    (hsame : c.adapter.engine.SameScript engine) (hquiet : c.core.Quiet p ⟨streams, engine⟩) :
    c.Advances p { c with streams := streams, adapter := { c.adapter with engine := engine } } :=
  .of_quietly rfl rfl hsame.closeFrame rfl hsame.sound (.single hquiet)

/-- What granting credit changes: the engine, and the list of events by nothing. -/
theorem extendConnection_eq (c : Connection ScriptedEngine σ) (n : Nat) :
    c.extendConnection n =
      { c with adapter := { c.adapter with engine := c.adapter.engine.grant n } } := by
  rw [extendConnection, ScriptedEngine.grant]
  split <;> rfl

/-- The handshake is complete once; a second report of it has no effect. -/
theorem running_completeHandshake (h : c.IsOpen p) (peer : TransportParameters) (now : Instant) :
    (c.completeHandshake peer now).IsEnding p.bounds ∨
      (c.completeHandshake peer now).IsOpen p ∧
        c.core.Quietly p (c.completeHandshake peer now).core := by
  rw [completeHandshake]
  split
  · exact .inr ⟨h, .refl⟩
  generalize hactive : ({ c with
    handshakeComplete := true
    idleTimeout := negotiateIdleTimeout c.settings.idleTimeout peer.idleTimeout
    state := .active } : Connection ScriptedEngine σ) = active
  have hopen : active.IsOpen p ∧ active.core = c.core := by
    subst hactive
    exact ⟨⟨rfl, h.closePending, h.engine, h.bounds, h.core⟩, rfl⟩
  rw [← hopen.2]
  have htold : active.Advances p ((active.touch now).emit .handshakeCompleted) :=
    (active.advances_touch now).trans (advances_emit _ _)
  exact (htold.trans (advances_core _ (.refl _) (.handshake peer))).running hopen.1

/-- A callback lets an open connection end or take quiet steps, or it is a
violation. -/
inductive Takes (p : Scope) (c : Connection ScriptedEngine σ) :
    Except TransportError Unit × Connection ScriptedEngine σ → Prop where
  /-- the connection ends or takes quiet steps -/
  | acted {c' : Connection ScriptedEngine σ} : c'.IsEnding p.bounds ∨ c'.IsOpen p ∧
      c.core.Quietly p c'.core →
    c.Takes p (.ok (), c')
  /-- the peer has violated the protocol -/
  | violated {code : TransportErrorCode} {c' : Connection ScriptedEngine σ} : c'.IsOpen p →
    c.Takes p (.error (.violation code), c')

/-- The streams of an open connection may change as long as they stay orderly. -/
theorem IsOpen.follows (h : c.IsOpen p) {streams : StreamSet}
    (hfollows : c.streams.Follows streams) : { c with streams := streams }.IsOpen p :=
  ⟨h.state, h.closePending, h.engine, h.bounds, h.core.follows hfollows⟩

/-- The connection after a report that hands back credit, which the engine is to
grant, or is refused. -/
def credited (c : Connection ScriptedEngine σ) :
    Except TransportError Nat × StreamSet → Except TransportError Unit × Connection ScriptedEngine σ
  | (.error e, streams) => (.error e, { c with streams := streams })
  | (.ok released, streams) => (.ok (), { c with streams := streams }.extendConnection released)

/-- A report that is refused is a violation. One that is not hands back credit, which the
engine grants. -/
theorem takes_credited (h : c.IsOpen p) {answer : Except TransportError Nat × StreamSet}
    (hfollows : c.streams.Follows answer.2)
    (hviolation : ∀ e, answer.1 = .error e → ∃ code, e = .violation code)
    (hquiet : ∀ n, answer.1 = .ok n → c.core.Quiet p ⟨answer.2, c.adapter.engine.grant n⟩) :
    c.Takes p (c.credited answer) := by
  rcases answer with ⟨e | released, streams⟩
  · obtain ⟨code, rfl⟩ := hviolation e rfl
    exact .violated (h.follows hfollows)
  · have hgranted := advances_core _ (c.adapter.engine.sameScript_grant released)
      (hquiet released rfl)
    rw [credited, extendConnection_eq]
    exact .acted (hgranted.running h)

/-- The step lemma of a connection: whatever a callback is, an open connection ends, takes a
quiet step, or has found a violation. -/
theorem takes_applyCallback (h : c.IsOpen p) {callback : Callback} (hp : p.callback callback)
    (now : Instant) : c.Takes p (c.applyCallback now callback) := by
  have hs : c.streams.Orderly := h.core.orderly
  cases callback with
  | handshakeCompleted peer => exact .acted (running_completeHandshake h peer now)
  | streamData id offset data fin =>
    have hfollows := (StreamSet.onStreamData_outcome hs (p.fits _ hp) offset data fin).1
    exact takes_credited h hfollows (fun e he => (StreamSet.error_of_onStreamData he).violation)
      fun n hn => .data hp hn
  | streamReset id errorCode finalSize =>
    have hfollows := (StreamSet.onStreamReset_outcome hs (p.fits _ hp) errorCode finalSize).1
    exact takes_credited h hfollows (fun e he => (StreamSet.error_of_onStreamReset he).violation)
      fun n hn => .peerReset hp hn
  | stopSending id errorCode =>
    have hfollows := (StreamSet.onStopSending_outcome hs (p.fits _ hp) errorCode).1
    rw [applyCallback]
    rcases hanswer : c.streams.onStopSending id errorCode with ⟨e | stopped, streams⟩
    · rw [hanswer] at hfollows
      obtain ⟨code, rfl⟩ :=
        (StreamSet.error_of_onStopSending (congrArg Prod.fst hanswer)).violation
      exact .violated (h.follows hfollows)
    -- the peer's stop is passed on to the engine only when it ended a sending half
    cases stopped with
    | false =>
      have hquiet : c.core.Quiet p ⟨(c.streams.onStopSending id errorCode).2, c.adapter.engine⟩ :=
        .peerStopIgnored hp (congrArg Prod.fst hanswer)
      rw [hanswer] at hquiet
      exact .acted ((advances_core _ (.refl _) hquiet).running h)
    | true =>
      have hquiet : c.core.Quiet p
          ⟨(c.streams.onStopSending id errorCode).2, c.adapter.engine.shutdownWrite id errorCode⟩ :=
        .peerStop hp (congrArg Prod.fst hanswer)
      rw [hanswer] at hquiet
      have hsame := c.adapter.engine.sameScript_shutdownWrite id errorCode
      exact .acted ((advances_core _ hsame hquiet).running h)
  | maxStreamData id limit =>
    exact .acted ((advances_core _ (.refl _) (.maxStreamData id limit)).running h)
  | maxData limit => exact .acted ((advances_core _ (.refl _) (.maxData limit)).running h)
  | maxStreams d n => exact .acted ((advances_core _ (.refl _) (.maxStreams d n)).running h)
  | streamAcked id n => exact .acted ((advances_core _ (.refl _) (.acked id n)).running h)
  | connectionClose errorCode reason => exact .acted ((advances_enterDraining c _ now).running h)

/-- Callbacks are acted on until the connection closes, by induction on their list. -/
theorem advances_applyCallbacks (now : Instant) {callbacks : List Callback}
    (hfits : ∀ callback ∈ callbacks, p.callback callback) (c : Connection ScriptedEngine σ) :
    c.Advances p (c.applyCallbacks now callbacks) := by
  induction callbacks generalizing c with
  | nil => exact .refl c
  | cons callback rest ih =>
    rw [List.forall_mem_cons] at hfits
    rw [applyCallbacks]
    split
    · exact .refl c
    next hopen =>
    refine ⟨fun h => absurd h.state hopen, fun h => absurd h.closing hopen, fun h => ?_⟩
    have hpumped : ∀ c' : Connection ScriptedEngine σ,
        c'.Advances p (c'.pump.applyCallbacks now rest) :=
      fun c' => (advances_pump c').trans (ih hfits.2 c'.pump)
    have htakes := takes_applyCallback h hfits.1 now
    generalize c.applyCallback now callback = answer at htakes ⊢
    cases htakes with
    | @acted c' hout =>
      rcases hout with hend | ⟨hopen', hquiet⟩
      · exact .inl ((hpumped c').ending hend)
      · rcases (hpumped c').running hopen' with hend | ⟨hopen'', hquiet'⟩
        · exact .inl hend
        · exact .inr ⟨hopen'', hquiet.trans hquiet'⟩
    | @violated code c' hopen' =>
      -- the violation is answered by closing, so whatever follows finds the connection ending
      exact .inl ((hpumped _).ending (isEnding_of_violation hopen' code now))

end Connection

end QuicHost
