import QuicHost.Proofs.Connection.Farewell

/-!
# How the peer learns that a connection closes

A connection that closes on its own account queues a closing for the peer: when the
application closes it, and when the peer has violated the protocol. The first time that
the host asks for datagrams, the engine writes the closing, alone in its datagram, and
later it writes nothing (`closing_told`). Neither data that waits, nor the number of
datagrams of one poll, nor anything else that is done meanwhile can prevent it, as long
as the connection drains.

The length of a datagram can. Whatever the engine has written, the connection takes the
closing for sent once the host has asked. A closing that does not fit into a datagram is
not written then, and never will be (`closing_untold`).
-/

namespace QuicHost

namespace Connection

variable {σ : Type}

section

variable {bounds : Nat × Nat} {c c' c'' : Connection ScriptedEngine σ}

/-! ## An open connection

While the connection is open nothing is queued for the peer. Whatever makes it drain on
its own account queues a closing at that moment, and everything else leaves the connection
poised as it was. -/

/-- What closing makes of an open connection. -/
theorem announceClose_of_open (hopen : c.state.isClosing = false) (reason : CloseReason)
    (now : Instant) : (c.announceClose reason now).state = .draining ∧
      (c.announceClose reason now).closeReason = some reason ∧
      (c.announceClose reason now).engine.writeFailure = c.engine.writeFailure := by
  rw [announceClose, enterDraining_eq (by exact hopen)]
  refine ⟨rfl, rfl, ?_⟩
  change (c.engine.close reason.errorCode reason.reason).writeFailure = _
  rw [ScriptedEngine.close]
  split <;> rfl

namespace Poised

/-- To drain for a reason that is the peer's is to drain quietly. -/
theorem enterDraining (h : c.Poised bounds) {reason : CloseReason} (hforeign : ¬ reason.isOwn)
    (now : Instant) : (c.enterDraining reason now).Poised bounds := by
  cases hopen : c.state.isClosing with
  | true => rwa [Connection.enterDraining, if_pos hopen]
  | false =>
    rw [enterDraining_eq hopen]
    exact .quiet reason rfl hforeign rfl

/-- The closing is queued. -/
theorem announceClose (h : c.Poised bounds) (hopen : c.state.isClosing = false)
    {reason : CloseReason}
    (hkind : reason.kind = .localClose ∨ reason.kind = .transportFailure ∧ reason.reason = [])
    (now : Instant) : (c.announceClose reason now).Poised bounds := by
  have heq := h.farewell_eq hopen
  have hnone : c.adapter.engine.closeFrame = none := congrArg Farewell.frame heq
  have hsent : c.adapter.engine.closeSent = false := congrArg Farewell.sent heq
  have hbounds : c.adapter.bounds = bounds := congrArg Farewell.bounds heq
  have hclose : c.adapter.engine.close reason.errorCode reason.reason =
      { c.adapter.engine with closeFrame := some (.closing reason), outbound := [] } := by
    rw [ScriptedEngine.close, ScriptedEngine.isClosing, hnone]
    rfl
  rw [Connection.announceClose, enterDraining_eq (by exact hopen)]
  refine .announced reason rfl hkind ?_
  change Farewell.mk true (some reason)
    (c.adapter.engine.close reason.errorCode reason.reason).closeFrame
    (c.adapter.engine.close reason.errorCode reason.reason).closeSent c.adapter.bounds = _
  rw [hclose, hsent, hbounds]

theorem finishWith (c : Connection ScriptedEngine σ) (reason : CloseReason) :
    (c.finishWith reason).Poised bounds :=
  .closed (c.state_finishWith reason)

/-- A violation queues the closing; other failures are told, or end everything at once. -/
theorem onTransportError (h : c.Poised bounds) (e : TransportError) (now : Instant) :
    (c.onTransportError e now).Poised bounds := by
  have hreported := h.bides (c.bides_reportError e)
  rw [onTransportError_eq]
  cases e with
  | resourceExhausted => exact finishWith _ _
  | protocolViolation code =>
    dsimp only
    split
    · exact hreported
    · next hopen => exact hreported.announceClose (Bool.eq_false_iff.2 hopen) (.inr ⟨rfl, rfl⟩) now
  | handshakeFailure code =>
    dsimp only
    split
    · exact finishWith _ _
    · exact hreported
  | malformedPacket => exact hreported
  | versionMismatch => exact hreported

/-- Silence is no reason to tell the peer anything. -/
theorem onIdleTimeout (h : c.Poised bounds) (now : Instant) :
    (c.onIdleTimeout now).Poised bounds := by
  rw [Connection.onIdleTimeout]
  split
  · exact finishWith _ _
  split
  · exact h.enterDraining (fun hown => by rcases hown with hown | hown <;> cases hown) now
  · exact h

/-- The completed handshake queues no closing. -/
theorem completeHandshake (h : c.Poised bounds) (hopen : c.state.isClosing = false)
    (peer : TransportParameters) (now : Instant) :
    (c.completeHandshake peer now).Poised bounds := by
  rw [Connection.completeHandshake]
  split
  · exact h
  · let active : Connection ScriptedEngine σ := { c with
      handshakeComplete := true
      idleTimeout := negotiateIdleTimeout c.settings.idleTimeout peer.idleTimeout
      state := .active }
    have hactive : active.Poised bounds := h.stays hopen rfl rfl
    exact (hactive.bides (bides_touch active now)).bides ⟨rfl, rfl, rfl⟩

/-- An open connection acts on a callback. -/
theorem heed (h : c.Poised bounds) (hopen : c.state.isClosing = false) (now : Instant)
    (callback : Callback) : (c.heed now callback).Poised bounds := by
  have hcredited (s : StreamSet) (n : Nat) :
      ({ c with streams := s }.extendConnection n).Poised bounds := by
    rw [extendConnection_eq]
    exact h.bides (c.bides_of_defers s (c.adapter.engine.defers_grant n))
  have hrefused (s : StreamSet) (e : TransportError) :
      ({ c with streams := s }.onTransportError e now).Poised bounds :=
    onTransportError (h.bides (c.bides_streams s)) e now
  -- a callback is either refused, which announces the violation, or leaves the closing
  -- alone
  rw [Connection.heed]
  cases callback with
  | handshakeCompleted peer => exact h.completeHandshake hopen peer now
  | streamData id offset data fin =>
    rw [applyCallback]
    rcases c.streams.onStreamData id offset data fin with ⟨e | n, s⟩
    · exact hrefused s e
    · exact hcredited s n
  | streamReset id errorCode finalSize =>
    rw [applyCallback]
    rcases c.streams.onStreamReset id errorCode finalSize with ⟨e | n, s⟩
    · exact hrefused s e
    · exact hcredited s n
  | stopSending id errorCode =>
    rw [applyCallback]
    rcases c.streams.onStopSending id errorCode with ⟨e | _ | _, s⟩
    · exact hrefused s e
    · exact h.bides (c.bides_streams s)
    · have hreset : c.adapter.engine.Defers (c.adapter.engine.shutdownWrite id errorCode) :=
        ⟨rfl, rfl, rfl⟩
      exact h.bides (c.bides_of_defers s hreset)
  | maxStreamData id limit => exact h.bides (c.bides_streams _)
  | maxData limit => exact h.bides (c.bides_streams _)
  | maxStreams d n => exact h.bides (c.bides_streams _)
  | streamAcked id n => exact h.bides (c.bides_streams _)
  | connectionClose errorCode reason =>
    exact h.enterDraining (fun hown => by rcases hown with hown | hown <;> cases hown) now

/-- Acting on callbacks keeps the closing in order, by induction on them. -/
theorem applyCallbacks (h : c.Poised bounds) (now : Instant) (callbacks : List Callback) :
    (c.applyCallbacks now callbacks).Poised bounds := by
  induction callbacks generalizing c with
  | nil => exact h
  | cons callback rest ih =>
    rw [Connection.applyCallbacks]
    split
    · exact h
    · next hopen =>
      exact ih ((h.heed (Bool.eq_false_iff.2 hopen) now callback).bides (bides_pump _))

/-- What a datagram brings keeps the closing in order. -/
theorem process (h : c.Poised bounds) (hopen : c.state.isClosing = false) (datagram : Bytes)
    (now : Instant) : (c.process datagram now).Poised bounds := by
  have hdefers := c.adapter.defers_ingest datagram now
  rw [Connection.process]
  generalize c.adapter.ingest datagram now = answer at hdefers ⊢
  obtain ⟨e | callbacks, a⟩ := answer
  · have hdrained := h.bides (bides_adapter hdefers.drainCallbacks)
    exact (hdrained.applyCallbacks now _).onTransportError e now
  · let begun : Connection ScriptedEngine σ := { c with
      adapter := a
      state := if c.state = .initiating then .handshaking else c.state }
    have hstays : begun.state.isClosing = false := (c.rests_begun a).isClosing.trans hopen
    have hfarewell : begun.farewell = c.farewell := (bides_adapter hdefers).farewell
    have hbegun : begun.Poised bounds := h.stays hopen hstays hfarewell
    exact (hbegun.bides (bides_touch begun now)).applyCallbacks now callbacks

/-- What the engine's timer brings keeps the closing in order. -/
theorem runEngineTimer (h : c.Poised bounds) (now : Instant) :
    (c.runEngineTimer now).Poised bounds := by
  have hdefers := c.adapter.defers_handleExpiry now
  rw [Connection.runEngineTimer]
  generalize c.adapter.handleExpiry now = answer at hdefers ⊢
  obtain ⟨e | callbacks, a⟩ := answer
  · exact onTransportError (h.bides (bides_adapter hdefers)) e now
  · exact applyCallbacks (h.bides (bides_adapter hdefers)) now callbacks

/-- Any timer keeps the closing in order. -/
theorem fire (h : c.Poised bounds) (now : Instant) (timer : Timer) :
    (c.fire now timer).Poised bounds := by
  unfold Connection.fire
  split
  · exact h
  cases timer with
  | drain => exact h.lingers c.lingers_finish
  | idle =>
    have hcleared : Poised bounds { c with timers := c.timers.clear .idle } :=
      h.bides ⟨rfl, rfl, rfl⟩
    exact hcleared.onIdleTimeout now
  | engine =>
    have hcleared : Poised bounds { c with timers := c.timers.clear .engine } :=
      h.bides ⟨rfl, rfl, rfl⟩
    dsimp only
    split
    · exact hcleared
    · exact hcleared.runEngineTimer now

theorem fires (h : c.Poised bounds) (now : Instant) (timers : List Timer) :
    (timers.foldl (fun c timer => c.fire now timer) c).Poised bounds := by
  induction timers generalizing c with
  | nil => exact h
  | cons timer rest ih => exact ih (h.fire now timer)

/-- An open connection hands out datagrams without a closing in them. -/
theorem produceDatagrams (h : c.Poised bounds) (hopen : c.state.isClosing = false) (now : Instant)
    (w : σ) : (c.produceDatagrams now w).1.2.Poised bounds := by
  have heq := h.farewell_eq hopen
  have hpending : c.closePending = false := congrArg Farewell.pending heq
  have hnone : c.adapter.engine.closeFrame = none := congrArg Farewell.frame heq
  have hspeaks := ScriptedEngine.speaks_pull c.adapter.maxUdpPayloadSize now
    c.adapter.maxDatagramsPerPoll c.adapter.engine
  have hsend := maySend_of_open hopen
  let drawn : Connection ScriptedEngine σ := { c with
    adapter := { c.adapter with engine := (EngineAdapter.pull c.adapter.maxUdpPayloadSize
      now c.adapter.maxDatagramsPerPoll c.adapter.engine).2 } }
  have hfarewell : drawn.farewell = c.farewell := by
    simp only [drawn, farewell, hspeaks.closeFrame, hspeaks.closeSent hnone]
    rfl
  have hdrawn : drawn.Poised bounds := h.stays hopen hopen hfarewell
  rcases produceDatagrams_outcome c now w hsend with ⟨e, -, -, hc⟩ | ⟨datagrams, -, hc⟩
  · rw [hc]
    exact (hdrawn.onTransportError e now).bides (bides_flush _ w)
  · rw [hc]
    refine hdrawn.stays hopen ((isClosing_ite_handshaking c _).trans hopen) ?_
    have hkept : (c.closePending && c.state != .draining) = c.closePending := by
      rw [hpending]
      rfl
    change Farewell.mk (c.closePending && c.state != .draining) drawn.closeReason
      drawn.adapter.engine.closeFrame drawn.adapter.engine.closeSent drawn.adapter.bounds = _
    rw [hkept]
    rfl

/-- Whatever is called while a connection is open. -/
theorem perform (h : c.Poised bounds) (hopen : c.state.isClosing = false) (w : σ)
    (call : Call σ) : (c.perform w call).2.1.Poised bounds := by
  have hlive := ne_closed_of_open hopen
  -- three calls can end an open connection: a close, a datagram and a timer; a pull can
  -- only meet a failure of the engine
  cases call with
  | openStream d => exact h.bides (c.bides_openStream d)
  | write id data fin => exact h.bides (c.bides_write id data fin)
  | read id maxLen => exact h.bides (c.bides_read id maxLen w)
  | resetStream id errorCode => exact h.bides (c.bides_resetStream id errorCode w)
  | stopSending id errorCode => exact h.bides (c.bides_stopSending id errorCode w)
  | close errorCode reason now =>
    have hannounced : (c.announceClose ⟨.localClose, errorCode, reason⟩ now).Poised bounds :=
      h.announceClose hopen (.inl rfl) now
    change (c.close errorCode reason now w).1.2.Poised bounds
    rw [close_of_open hopen]
    exact hannounced.bides (bides_flush _ w)
  | ingest datagram now =>
    have hdraining : c.state ≠ .draining := fun heq =>
      Bool.eq_false_iff.1 hopen (isClosing_iff.2 (.inl heq))
    have hcounted : (c.counted datagram).Poised bounds := h.bides ⟨rfl, rfl, rfl⟩
    change (c.ingest datagram now w).1.2.Poised bounds
    rw [ingest, if_neg hlive]
    dsimp only
    rw [if_neg hdraining]
    exact (hcounted.process hopen datagram now).bides (bides_flush _ w)
  | produceDatagrams now => exact h.produceDatagrams hopen now w
  | onTimeout now =>
    have harmed : Poised bounds { c with timers := c.currentTimers } := h.bides ⟨rfl, rfl, rfl⟩
    change (c.onTimeout now w).1.Poised bounds
    rw [onTimeout, if_neg hlive]
    exact (harmed.fires now _).bides (bides_flush _ w)
  | failNextWrite error => exact h.stays hopen hopen rfl
  | _ => exact h.bides ⟨rfl, rfl, rfl⟩

end Poised

/-! ## Asking for datagrams

The first time that somebody asks a draining connection, the closing goes out, if it fits;
after that nothing does. -/

/-- A connection that has its closing to send hands it out, or nothing if it is too long,
and has nothing to send from then on. -/
theorem produceDatagrams_of_announced {reason : CloseReason} (hdraining : c.state = .draining)
    (hfarewell : c.farewell = ⟨true, some reason, some (.closing reason), false, bounds⟩)
    (hfailure : c.adapter.engine.writeFailure = none) (hcount : 0 < bounds.2) (now : Instant)
    (w : σ) :
    (c.produceDatagrams now w).1.1 = (Frame.closing reason).alone bounds.1 ∧
      (c.produceDatagrams now w).1.2.state = .draining ∧
      (c.produceDatagrams now w).1.2.maySend = false := by
  obtain rfl : c.adapter.bounds = bounds := congrArg Farewell.bounds hfarewell
  have hpending : c.closePending = true := congrArg Farewell.pending hfarewell
  have hsend : c.maySend = true := by
    rw [Connection.maySend, hdraining]
    exact hpending
  have hpulled : (EngineAdapter.pull c.adapter.maxUdpPayloadSize now c.adapter.maxDatagramsPerPoll
      c.adapter.engine).1 = .ok ((Frame.closing reason).alone c.adapter.bounds.1) :=
    ScriptedEngine.pull_of_unsent (congrArg Farewell.frame hfarewell)
      (congrArg Farewell.sent hfarewell) hfailure now hcount
  rcases produceDatagrams_outcome c now w hsend with ⟨e, herror, -⟩ | ⟨datagrams, hok, hc⟩
  · rw [hpulled] at herror
    cases herror
  · rw [hpulled] at hok
    obtain rfl := Except.ok.inj hok
    have hstays : (c.produceDatagrams now w).1.2.state = .draining := by
      rw [hc]
      exact (if_neg fun h => by rw [hdraining] at h; cases h.1).trans hdraining
    refine ⟨by rw [hc], hstays, ?_⟩
    rw [Connection.maySend, hstays, hc]
    -- the closing counts as sent, whatever was written
    change (c.closePending && c.state != .draining) = false
    rw [hdraining]
    exact Bool.and_false _

/-- A closing connection that has nothing to send is never going to. -/
theorem maySend_perform (hclosing : c.state.isClosing = true) (hnone : c.maySend = false) (w : σ)
    (call : Call σ) : (c.perform w call).2.1.maySend = false := by
  cases hmute : call.isMute with
  | true => exact (lingers_perform hclosing w hmute).maySend hnone
  | false =>
    cases call with
    | produceDatagrams now =>
      change (c.produceDatagrams now w).1.2.maySend = false
      rw [produceDatagrams, if_neg (Bool.eq_false_iff.1 hnone)]
      exact hnone
    | failNextWrite error => exact hnone
    | _ => cases hmute

end

/-! ## Runs

The same over runs: calls that neither ask for datagrams nor make the engine fail may come
between closing and asking. -/

namespace Run

/-- What the host is handed when it asks for datagrams. -/
def polled (r : Run σ) (now : Instant) : List Bytes :=
  (r.connection.produceDatagrams now r.world).1.1

/-- However matters go on: if the connection still drains when the host first asks for
datagrams, it is handed what `first` says, and nothing ever after. -/
def PollsOnce (r : Run σ) (first : List Bytes → Prop) : Prop :=
  ∀ between : List (Call σ), (∀ call ∈ between, call.isMute = true) →
    (r.steps between).connection.state = .draining → ∀ now,
      first ((r.steps between).polled now) ∧ ∀ later now',
        (((r.steps between).step (.produceDatagrams now)).steps later).polled now' = []

end Run

/-- The closing for a reason, alone in one datagram. -/
def Says (reason : CloseReason) (sent : List Bytes) : Prop :=
  ∃ d, sent = [d] ∧ Frame.decodeAll d =
    [.connectionClose (Frame.word reason.errorCode) (reason.reason.take Frame.maxPayload)]

section

variable {bounds : Nat × Nat} {r : Run σ}

/-- Mute calls leave the closing of a draining connection alone, or end the connection. By
induction on them. -/
theorem lingers_steps (hclosing : r.connection.state.isClosing = true) {calls : List (Call σ)}
    (hmute : ∀ call ∈ calls, call.isMute = true) :
    r.connection.Lingers (r.steps calls).connection := by
  induction calls generalizing r with
  | nil => exact .refl _
  | cons call rest ih =>
    rw [List.forall_mem_cons] at hmute
    have hfirst : r.connection.Lingers (r.step call).connection :=
      lingers_perform hclosing r.world hmute.1
    exact hfirst.trans (ih (hfirst.isClosing hclosing) hmute.2)

/-- A closing connection that has nothing to send hands out nothing ever. -/
theorem polled_of_closing (hclosing : r.connection.state.isClosing = true)
    (hnone : r.connection.maySend = false) (calls : List (Call σ)) (now : Instant) :
    (r.steps calls).polled now = [] := by
  induction calls generalizing r with
  | nil =>
    change (r.connection.produceDatagrams now r.world).1.1 = []
    rw [produceDatagrams, if_neg (Bool.eq_false_iff.1 hnone)]
    rfl
  | cons call rest ih =>
    exact ih (r := r.step call) (closing_perform hclosing r.world call)
      (maySend_perform hclosing hnone r.world call)

/-- A connection is poised to tell of its closing for as long as it is open. -/
theorem poised_steps (h : r.connection.state.isClosing = true ∨ r.connection.Poised bounds)
    (calls : List (Call σ)) :
    (r.steps calls).connection.state.isClosing = true ∨
      (r.steps calls).connection.Poised bounds := by
  induction calls generalizing r with
  | nil => exact h
  | cons call rest ih =>
    refine ih (r := r.step call) ?_
    cases hopen : r.connection.state.isClosing with
    | true => exact .inl (closing_perform hopen r.world call)
    | false =>
      have hpoised := h.resolve_left (Bool.eq_false_iff.1 hopen)
      exact .inr (hpoised.perform hopen r.world call)

/-- Whoever has its closing to send is asked for it once. -/
theorem pollsOnce_of_announced {reason : CloseReason} (hdraining : r.connection.state = .draining)
    (hfarewell : r.connection.farewell =
      ⟨true, some reason, some (.closing reason), false, bounds⟩)
    (hfailure : r.connection.adapter.engine.writeFailure = none) (hcount : 0 < bounds.2) :
    r.PollsOnce (· = (Frame.closing reason).alone bounds.1) := by
  intro between hmute hstays now
  have hbides := (lingers_steps (isClosing_iff.2 (.inl hdraining)) hmute).resolve_left
    (ne_closed_of_draining hstays)
  obtain ⟨hsent, hstate, hnone⟩ := produceDatagrams_of_announced hstays
    (hbides.farewell.trans hfarewell) (hbides.failure.trans hfailure) hcount now
    (r.steps between).world
  exact ⟨hsent, polled_of_closing (r := (r.steps between).step (.produceDatagrams now))
    (isClosing_iff.2 (.inl hstate)) hnone⟩

theorem Run.PollsOnce.imp {first first' : List Bytes → Prop} (h : r.PollsOnce first)
    (himp : ∀ sent, first sent → first' sent) : r.PollsOnce first' :=
  fun between hmute hdraining now => (h between hmute hdraining now).imp_left (himp _)

theorem says_alone {maxLen : Nat} {reason : CloseReason}
    (hfits : (Frame.closing reason).encode.length ≤ maxLen) :
    Says reason ((Frame.closing reason).alone maxLen) :=
  ⟨_, if_pos hfits, Frame.decodeAll_encode (Frame.short_closing reason)⟩

end

/-- **How the peer is told.** Over the scripted engine, with valid settings, an open
connection is closed by the application or finds that the peer violates the protocol.
Whatever waits to be sent and whatever is done meanwhile, the first datagrams that the
host then asks for are the closing alone, with the code, and there are never any more, as
long as the closing fits into a datagram. It always fits after a violation. If it does not
fit, no datagram is ever handed out again. -/
theorem closing_told (side : Side) (settings : ConnectionSettings) (hvalid : settings.Valid)
    (scid dcid : ConnectionId) (start : Instant) (w : σ) (calls : List (Call σ))
    (hopen : ((Run.begin side settings scid dcid start w).steps
      calls).connection.state.isClosing = false) (call : Call σ) :
    let r := (Run.begin side settings scid dcid start w).steps calls
    let r' := r.step call
    (∀ errorCode reason now, call = .close errorCode reason now →
      r'.connection.state = .draining ∧
        r'.connection.closeReason = some ⟨.localClose, errorCode, reason⟩ ∧
        r'.connection.engine.writeFailure = r.connection.engine.writeFailure) ∧
      ∀ reason, r'.connection.state = .draining → r'.connection.closeReason = some reason →
        reason.isOwn → r'.connection.engine.writeFailure = none →
        let length := Frame.closeHeaderLength + min reason.reason.length Frame.maxPayload
        (length ≤ settings.maxUdpPayloadSize → r'.PollsOnce (Says reason)) ∧
          (settings.maxUdpPayloadSize < length → r'.PollsOnce (· = [])) ∧
          (reason.kind = .transportFailure → length ≤ settings.maxUdpPayloadSize) := by
  intro r r'
  have hbegin : (Run.begin side settings scid dcid start w).connection.Poised settings.bounds :=
    .running rfl rfl
  -- an open connection is poised: should it begin to close by itself, the announcement is
  -- queued at once
  have hpoised := (poised_steps (.inr hbegin) calls).resolve_left (Bool.eq_false_iff.1 hopen)
  obtain ⟨⟨hsize, -⟩, hcount, -⟩ := ConnectionSettings.valid_iff.1 hvalid
  constructor
  · rintro errorCode reason now rfl
    have hafter : r'.connection = ((r.connection.announceClose ⟨.localClose, errorCode, reason⟩
        now).flushWith (.ok () : Except CallError Unit) r.world).1.2 := by
      change (r.connection.close errorCode reason now r.world).1.2 = _
      rw [close_of_open hopen]
    rw [hafter]
    exact announceClose_of_open hopen ⟨.localClose, errorCode, reason⟩ now
  intro reason hdraining hreason hown hfailure length
  have hpoised' : r'.connection.Poised settings.bounds := hpoised.perform hopen r.world call
  obtain ⟨hkind, hfarewell⟩ := hpoised'.farewell_of_isOwn hdraining hreason hown
  have hpolls := pollsOnce_of_announced hdraining hfarewell hfailure hcount
  have hlength := Frame.length_encode_closing reason
  refine ⟨fun hfits => hpolls.imp ?_, fun hlong => hpolls.imp ?_, fun hviolation => ?_⟩
  · rintro _ rfl
    exact says_alone (hlength ▸ hfits)
  · rintro _ rfl
    exact if_neg (by rw [hlength]; exact Nat.not_le.2 hlong)
  -- what a violation announces carries no reason text, so it always fits the smallest
  -- payload that is allowed
  · rcases hkind with hlocal | ⟨-, hnone⟩
    · rw [hviolation] at hlocal
      cases hlocal
    · have hshort : length = Frame.closeHeaderLength := by
        simp only [length, hnone]
        rfl
      rw [hshort]
      exact Nat.le_trans (by decide) hsize

/-- Data waits to be sent, and the engine is about to find a violation. -/
def waitingToSend : List (Call Unit) :=
  [.expectDatagram (.ok [.handshakeCompleted ({} : ConnectionSettings).localParameters]),
    .ingest [] ⟨0⟩, .openStream .bidi, .write ⟨0⟩ [1, 2, 3] true,
    .expectDatagram (.error (.protocol 9))]

/-- The closing goes out alone: the data that waited is not sent. -/
theorem closing_told_waiting :
    let r := (Run.begin .client {} ⟨[], by decide⟩ ⟨[], by decide⟩ ⟨0⟩ ()).steps waitingToSend
    (r.step (.close 5 [6, 7] ⟨1⟩)).PollsOnce (Says ⟨.localClose, 5, [6, 7]⟩) ∧
      (r.step (.ingest [] ⟨1⟩)).PollsOnce (Says ⟨.transportFailure, 9, []⟩) := by
  intro r
  have htold := closing_told .client {} (by decide) ⟨[], by decide⟩ ⟨[], by decide⟩ ⟨0⟩ ()
    waitingToSend (by decide)
  constructor
  · obtain ⟨hclosed, hpolls⟩ := htold (.close 5 [6, 7] ⟨1⟩)
    obtain ⟨hdraining, hreason, hfailure⟩ := hclosed 5 [6, 7] ⟨1⟩ rfl
    exact (hpolls _ hdraining hreason (.inl rfl) (hfailure.trans (by decide))).1 (by decide)
  · obtain ⟨-, hpolls⟩ := htold (.ingest [] ⟨1⟩)
    exact (hpolls _ (by decide) (by decide) (.inr rfl) (by decide)).1 (by decide)

/-- With a reason of 1190 bytes, the closing is one byte longer than the datagrams that
the settings allow. It is not written when the host asks for datagrams, and is forgotten. -/
theorem closing_untold :
    let r := (Run.begin .client {} ⟨[], by decide⟩ ⟨[], by decide⟩ ⟨0⟩ ()).step
      (.close 5 (List.replicate 1190 0) ⟨1⟩ : Call Unit)
    ({} : ConnectionSettings).Valid ∧ r.connection.state = .draining ∧
      r.connection.engine.writeFailure = none ∧ r.polled ⟨2⟩ = [] ∧
      (r.step (.produceDatagrams ⟨2⟩)).polled ⟨3⟩ = [] := by
  decide +kernel

end Connection

end QuicHost
