import QuicHost.Proofs.Connection.Books

/-!
# Whether everything written has arrived

When a connection ends, its last event says whether bytes are missing. It tells the truth
about the books that are kept of a session from outside (`flag_tells_loss`), whatever has
become of the streams by then, if no sum of acknowledgements was too large for a word. One
that is makes a stream forget what was acknowledged, and the last event then reports a
loss where nothing is missing (`flag_tells_no_loss`).

There are two proofs side by side. The streams and the books agree at any time
(`reckons_steps`), so the flag that the streams would give is the one the books give.
And the last event is queued at the moment of the end, with nothing before it that could
change the streams any more (`concluded_perform`), and says no more and no less from
then on (`Audited`).
-/

namespace QuicHost

open StreamSet

namespace Connection

variable {ε σ : Type}

section

variable [PacketEngine ε]

variable {c c' : Connection ε σ} {m : Moment ε σ} {ps : List Posting} {now : Instant}
  {callbacks : List Callback}

/-! ## The end

Whatever ends a connection freezes the streams, asks whether bytes are missing, and leaves
the answer as the only thing to tell. There are four ways to end: after draining, by
failing, by exhaustion, and by silence before the handshake is complete. -/

/-- If a failure ends the connection, the last event is all it has to tell: the streams have
stopped, and the queue is emptied for it. -/
theorem Coherent.concluded_onTransportError (h : c.Coherent) (hlive : c.state ≠ .closed)
    {e : TransportError} (hended : (c.onTransportError e now).state = .closed) :
    (c.onTransportError e now).Concluded := by
  have hreported := h.rests (c.rests_reportError e)
  have hstays : (c.reportError e).state ≠ .closed := hlive
  rw [onTransportError_eq] at hended ⊢
  cases e with
  | resourceExhausted => exact hreported.concluded_finishWith hstays _
  | protocolViolation code =>
    dsimp only at hended
    split at hended
    · exact absurd hended hstays
    · next hopen =>
      rw [announceClose, enterDraining_eq (by exact Bool.eq_false_iff.2 hopen)] at hended
      cases hended
  | handshakeFailure code =>
    dsimp only at hended ⊢
    split at hended
    · next hhandshaking =>
      rw [if_pos hhandshaking]
      exact hreported.concluded_finishWith hstays _
    · exact absurd hended hstays
  | malformedPacket => exact absurd hended hstays
  | versionMismatch => exact absurd hended hstays

/-- Callbacks end no connection. -/
theorem applyCallbacks_ne_closed (hlive : c.state ≠ .closed) (now : Instant)
    (callbacks : List Callback) : (c.applyCallbacks now callbacks).state ≠ .closed := by
  obtain ⟨ks, hmoves, hks⟩ := moves_applyCallbacks c now callbacks
  exact hmoves.not_closed hks hlive

/-- Acting on callbacks keeps a connection coherent, for it is a chain of moves. -/
theorem Coherent.applyCallbacks (h : c.Coherent) (now : Instant) (callbacks : List Callback) :
    (c.applyCallbacks now callbacks).Coherent := by
  obtain ⟨ks, hmoves, -⟩ := moves_applyCallbacks c now callbacks
  exact h.moves hmoves

/-- A datagram that ends the connection leaves it with its end to tell. -/
theorem Coherent.concluded_process (h : c.Coherent) (hopen : c.state.isClosing = false)
    {datagram : Bytes} (hended : (c.process datagram now).state = .closed) :
    (c.process datagram now).Concluded := by
  have hlive := ne_closed_of_open hopen
  rw [process] at hended ⊢
  generalize c.adapter.ingest datagram now = answer at hended ⊢
  obtain ⟨e | callbacks, a⟩ := answer
  · have happlied := (h.rests (c.rests_adapter a.drainCallbacks.2)).applyCallbacks now
      a.drainCallbacks.1
    exact happlied.concluded_onTransportError (applyCallbacks_ne_closed
      (c := { c with adapter := a.drainCallbacks.2 }) hlive now _) hended
  · have hbegun := (h.begin hopen a now).2
    exact absurd hended (applyCallbacks_ne_closed (ne_closed_of_open hbegun) now callbacks)

/-- The engine's timer that ends the connection leaves it with its end to tell. -/
theorem Coherent.concluded_runEngineTimer (h : c.Coherent) (hlive : c.state ≠ .closed)
    (hended : (c.runEngineTimer now).state = .closed) : (c.runEngineTimer now).Concluded := by
  rw [runEngineTimer] at hended ⊢
  generalize c.adapter.handleExpiry now = answer at hended ⊢
  obtain ⟨e | callbacks, a⟩ := answer
  · exact (h.rests (c.rests_adapter a)).concluded_onTransportError hlive hended
  · exact absurd hended (applyCallbacks_ne_closed (c := { c with adapter := a }) hlive now _)

/-- Timers that end the connection leave it with its end to tell. -/
theorem Coherent.concluded_timedOut (h : c.Coherent) (hfit : c.TimersFit)
    (hlive : c.state ≠ .closed) (hended : (c.timedOut now).state = .closed) :
    (c.timedOut now).Concluded := by
  cases hopen : c.state.isClosing with
  | true =>
    have hdraining := (isClosing_iff.1 hopen).resolve_right hlive
    rw [timedOut_of_draining hfit hdraining] at hended ⊢
    split at hended
    · next hdue =>
      rw [if_pos hdue]
      exact h.concluded_finish hdraining
    · exact absurd hended hlive
  | false =>
    rw [timedOut_of_open hfit hopen] at hended ⊢
    split at hended
    · next hidle =>
      rw [if_pos hidle]
      by_cases hhandshaking : c.state.isHandshaking = true
      · rw [onIdleTimeout_of_handshaking hhandshaking]
        exact h.concluded_finishWith hlive _
      -- an idle connection that was active drains first, so it is not closed by this
      · rw [onIdleTimeout_of_active (active_of_open hopen hhandshaking),
          enterDraining_eq hopen] at hended
        cases hended
    next hidle =>
    rw [if_neg hidle]
    split at hended
    · next hengine =>
      rw [if_pos hengine]
      exact (h.rests (c.rests_cleared hopen)).concluded_runEngineTimer hlive hended
    · exact absurd hended hlive

/-- Whoever ends has only the last event to tell, and delivers it. -/
theorem Coherent.concluded_perform (h : m.connection.Coherent) (hfit : m.connection.TimersFit)
    (hlive : m.connection.state ≠ .closed) {a : Action ε σ}
    (hended : (m.perform a).2.connection.state = .closed) :
    ∃ ks c, m.connection.Moves a.now ks c ∧ c.Concluded ∧ (m.perform a).1.event? = none ∧
      (m.perform a).2 = ⟨(c.flush m.world).1.2, (c.flush m.world).2⟩ := by
  have hflushed (c : Connection ε σ) (hended : (c.flush m.world).1.2.state = .closed) :
      c.state = .closed := hended
  -- most actions cannot end a connection
  have hnever (hgives : ∀ k, a.Gives m.connection k → k.Reported) : False := by
    obtain ⟨ks, c, houtcome⟩ := outcome_perform m hfit a
    have hstays := (houtcome.moves.rests houtcome.tells.rests).not_closed
      (fun k hk => hgives k (houtcome.gives k hk)) hlive
    exact hstays hended
  cases a with
  | ingest datagram now =>
    cases hopen : m.connection.state.isClosing with
    | true =>
      refine (hnever fun k hgives => ?_).elim
      cases hgives with
      | heard hheard =>
        rw [Action.isHeard, hopen] at hheard
        cases hheard
      | ingest hopen' _ => exact absurd hopen (Bool.eq_false_iff.1 hopen')
    | false =>
      have hdraining : m.connection.state ≠ .draining := fun heq =>
        Bool.eq_false_iff.1 hopen (isClosing_iff.2 (.inl heq))
      have hcounted : m.connection.Rests (m.connection.counted datagram) :=
        m.connection.rests_stats _
      obtain ⟨ks, hmoves, -, -⟩ := moves_process (hcounted.isClosing.trans hopen) datagram now
      rw [Moment.perform, ingest, if_neg hlive] at hended ⊢
      dsimp only at hended ⊢
      rw [if_neg hdraining] at hended ⊢
      exact ⟨_, _, hcounted.moves.trans hmoves,
        (h.rests hcounted).concluded_process hopen (hflushed _ hended), rfl, rfl⟩
  | produceDatagrams now =>
    rw [Moment.perform, produceDatagrams] at hended ⊢
    split at hended
    · next hmay =>
      rw [if_pos hmay]
      generalize m.connection.adapter.produceDatagrams now = answer at hended ⊢
      obtain ⟨e | datagrams, a⟩ := answer
      · have hrests := m.connection.rests_adapter a
        obtain ⟨ks, hmoves, -⟩ := moves_onTransportError (c := { m.connection with adapter := a })
          hlive e now
        exact ⟨_, _, hrests.moves.trans hmoves,
          (h.rests hrests).concluded_onTransportError hlive (hflushed _ hended), rfl, rfl⟩
      · dsimp only [pure, StateT.pure] at hended
        split at hended
        · cases hended
        · exact absurd hended hlive
    · exact absurd hended hlive
  | onTimeout now =>
    rw [Moment.perform, onTimeout_eq hlive] at hended ⊢
    obtain ⟨ks, hmoves, -⟩ := moves_timedOut hfit hlive now
    exact ⟨_, _, hmoves, h.concluded_timedOut hfit hlive (hflushed _ hended), rfl, rfl⟩
  | close errorCode reason now =>
    refine (hnever fun k hgives => ?_).elim
    cases hgives with
    | close _ => exact .drained (by simp)
    | heard hheard => cases hheard
  | _ =>
    refine (hnever fun k hgives => ?_).elim
    cases hgives with
    | heard hheard => cases hheard

/-! ## Sessions

The audit along a session: the streams reckon with what was posted, what waits to be told
about the end is true, and so is what was told. -/

variable {s : Session ε σ} {a : Action ε σ} {note : σ → List Event} {e : Entry ε σ}

theorem Session.postings_step (s : Session ε σ) (a : Action ε σ) :
    (s.step a).postings = s.postings ++ Entry.postings ⟨s.moment, a⟩ := by
  rw [Session.postings, step, List.flatMap_append, List.flatMap_cons, List.flatMap_nil,
    List.append_nil]
  rfl

theorem Session.SumsFit.of_step (h : (s.step a).SumsFit) : s.SumsFit := by
  rw [SumsFit, postings_step] at h
  exact Posting.AllFit.of_append h

/-- An action posts what the streams count. On a closing connection nothing is posted, and
nothing counts. -/
theorem Session.Sound.reckons_step (hsound : s.Sound)
    (hr : s.connection.streams.Reckons s.postings) (hfits : Entry.Fits ⟨s.moment, a⟩) :
    (s.step a).connection.streams.Reckons (s.step a).postings := by
  rw [s.postings_step a]
  exact reckons_perform hsound.coherent hsound.fits hr hfits

/-- What holds of a session at any time: the streams have counted what was posted, and
what was told about the end is true. -/
structure Session.Audited (note : σ → List Event) (s : Session ε σ) : Prop where
  /-- the streams agree with the books -/
  reckons : s.connection.streams.Reckons s.postings
  /-- a last event that still waits tells the truth -/
  pending : ∀ reason lost, .connectionClosed reason lost ∈ s.connection.pending →
    s.SumsFit → (lost = true ↔ s.Loses)
  /-- every action that told a last event told the truth -/
  discloses : ∀ e ∈ s.history, e.Discloses note s

/-- Once a session is over, its books are closed. -/
theorem Session.Audited.loses_step (h : s.Audited note)
    (hr : (s.step a).connection.streams.Reckons (s.step a).postings)
    (hclosing : s.connection.state.isClosing = true) (hsums : (s.step a).SumsFit) :
    (s.step a).Loses ↔ s.Loses := by
  have hsame : (s.step a).postings = s.postings := by
    rw [postings_step, postings_of_closing hclosing, List.append_nil]
  rw [Loses, hr.exists_isShort_iff hsums, hsame, Loses,
    h.reckons.exists_isShort_iff hsums.of_step]

/-- Whatever is told about the end in the course of an action was pending before, and
the session was over, or the action ended it. -/
theorem Session.Sound.pending_of_tells (hsound : s.Sound)
    (hnoted : s.connection.dispatcher.NotedBy note) (hnotes : a.Notes note) :
    ∃ heard, note (s.step a).moment.world = note s.moment.world ++ heard ∧
      ∀ reason lost, Entry.Tells ⟨s.moment, a⟩ heard (.connectionClosed reason lost) →
        (s.step a).connection.state = .closed ∧ (s.connection.state = .closed →
          .connectionClosed reason lost ∈ s.connection.pending) := by
  obtain ⟨ks, c, houtcome⟩ := outcome_perform s.moment hsound.fits a
  have htells := houtcome.tells
  obtain ⟨heard, heq, hheard⟩ := htells.noted (houtcome.moves.noted (notedBy_equip hnoted hnotes))
  refine ⟨heard, heq, fun reason lost htold => ?_⟩
  have hpending : .connectionClosed reason lost ∈ c.pending := by
    have hor : .connectionClosed reason lost ∈ c.pending ∨
        (Event.connectionClosed reason lost).reason? = none := by
      rcases htold with hmem | hanswered | hmem
      · exact hheard _ hmem
      · exact htells.answered _ hanswered
      · exact htells.rests.pending _ hmem
    exact hor.resolve_right (Option.some_ne_none reason)
  have hended := ((hsound.coherent.equip a).moves houtcome.moves).ended reason lost hpending
  refine ⟨(htells.rests.state_eq_iff rfl).2 hended, fun hclosed => ?_⟩
  have hequipped : (s.connection.modifyDispatcher a.equip).pending = s.connection.pending := by
    cases a <;> rfl
  rw [← hequipped]
  exact (houtcome.moves.pending_of_closed hclosed _ hpending).resolve_right
    (Option.some_ne_none reason)

/-- The latest action discloses what it has to. -/
theorem Session.Audited.discloses_last (h : s.Audited note) (hsound : s.Sound)
    (hnoted : s.connection.dispatcher.NotedBy note) (hnotes : a.Notes note)
    (hr : (s.step a).connection.streams.Reckons (s.step a).postings) :
    Entry.Discloses note ⟨s.moment, a⟩ (s.step a) := by
  by_cases hends : s.connection.state ≠ .closed ∧ (s.step a).connection.state = .closed
  · -- the last event is queued alone, with the flag that the streams have in the end
    obtain ⟨ks, c, hmoves, hconcluded, hanswer, hafter⟩ :=
      hsound.coherent.concluded_perform hsound.fits hends.1 hends.2
    obtain ⟨heard, heq, ⟨reason, lost, htells⟩, hflag⟩ :=
      hconcluded.flush s.moment.world (hmoves.noted hnoted)
    have hconnection : (c.flush s.moment.world).1.2 = (s.step a).connection :=
      congrArg Moment.connection hafter.symm
    have hworld : (c.flush s.moment.world).2 = (s.step a).moment.world :=
      congrArg Moment.world hafter.symm
    rw [hconnection] at htells hflag
    rw [hworld] at heq
    refine ⟨heard, heq, fun _ _ => ⟨reason, lost, htells.imp_right .inr⟩,
      fun reason lost htold => ⟨hends.2, fun hsums => ?_⟩⟩
    have hpending := htold.imp_right fun hor => hor.resolve_left fun hanswered => by
      rw [Entry.answer, hanswer] at hanswered
      cases hanswered
    rw [hflag reason lost hpending]
    exact hr.writesIncomplete_iff hsums
  · obtain ⟨heard, heq, htold⟩ := hsound.pending_of_tells hnoted hnotes
    refine ⟨heard, heq, fun hlive hended => absurd ⟨hlive, hended⟩ hends,
      fun reason lost htells => ?_⟩
    obtain ⟨hended, hpending⟩ := htold reason lost htells
    have hclosed : s.connection.state = .closed :=
      Decidable.byContradiction fun hlive => hends ⟨hlive, hended⟩
    refine ⟨hended, fun hsums => ?_⟩
    rw [h.loses_step hr (isClosing_iff.2 (.inr hclosed)) hsums]
    exact h.pending reason lost (hpending hclosed) hsums.of_step

/-- One more action keeps the audit: what was told before is still true, and what is told
now is true. -/
theorem Session.Audited.step (h : s.Audited note) (hsound : s.Sound)
    (hnoted : s.connection.dispatcher.NotedBy note) (hnotes : a.Notes note)
    (hfits : Entry.Fits ⟨s.moment, a⟩) : (s.step a).Audited note := by
  have hr := hsound.reckons_step h.reckons hfits
  have hlast := h.discloses_last hsound hnoted hnotes hr
  refine ⟨hr, fun reason lost hpending => ?_, fun e he => ?_⟩
  · obtain ⟨heard, -, -, htrue⟩ := hlast
    exact (htrue reason lost (.inr (.inr hpending))).2
  rcases List.mem_append.1 he with he | he
  · -- what was told about the end was told when it had come
    obtain ⟨heard, heq, hends, htrue⟩ := h.discloses e he
    refine ⟨heard, heq, hends, fun reason lost htells => ?_⟩
    obtain ⟨hclosed, hiff⟩ := htrue reason lost htells
    have hclosing : s.connection.state.isClosing = true := isClosing_iff.2 (.inr hclosed)
    refine ⟨((hsound.coherent.perform hsound.fits a).2.leads.closed hclosed).1, fun hsums => ?_⟩
    rw [h.loses_step hr hclosing hsums]
    exact hiff hsums.of_step
  · obtain rfl := List.mem_singleton.1 he
    exact hlast

/-- The streams have counted what was posted, at any time. -/
theorem Session.reckons_steps (side : Side) (settings : ConnectionSettings)
    (scid dcid : ConnectionId) (engine : ε) (now : Instant) (w : σ) (actions : List (Action ε σ))
    (hfits : ∀ e ∈ ((begin side settings scid dcid engine now w).steps actions).history, e.Fits) :
    let s := (begin side settings scid dcid engine now w).steps actions
    s.connection.streams.Reckons s.postings := by
  refine Sound.keeps (P := fun s => (∀ e ∈ s.history, e.Fits) →
    s.connection.streams.Reckons s.postings) (fun a hsound hs hfits => ?_)
    (sound_begin side settings scid dcid engine now w)
    (fun _ => reckons_begin side settings scid dcid engine now w) actions hfits
  rw [step, List.forall_mem_append] at hfits
  exact hsound.reckons_step (hs hfits.1) (hfits.2 _ (List.mem_singleton_self _))

/-- The audit holds at any time, by induction on the actions. -/
theorem Session.audited_steps (side : Side) (settings : ConnectionSettings)
    (scid dcid : ConnectionId) (engine : ε) (now : Instant) (w : σ) (actions : List (Action ε σ))
    (hfits : ∀ e ∈ ((begin side settings scid dcid engine now w).steps actions).history, e.Fits)
    (hnotes : ∀ e ∈ ((begin side settings scid dcid engine now w).steps actions).history,
      e.action.Notes note) :
    ((begin side settings scid dcid engine now w).steps actions).Audited note := by
  refine Sound.keeps (P := fun s => (∀ e ∈ s.history, e.Fits) →
    (∀ e ∈ s.history, e.action.Notes note) → s.Audited note) (fun a hsound hs hfits hnotes => ?_)
    (sound_begin side settings scid dcid engine now w) (fun _ _ => ?_) actions hfits hnotes
  · rw [step, List.forall_mem_append] at hfits hnotes
    exact (hs hfits.1 hnotes.1).step hsound (hsound.truthful note hnotes.1).1
      (hnotes.2 _ (List.mem_singleton_self _)) (hfits.2 _ (List.mem_singleton_self _))
  · refine ⟨reckons_begin side settings scid dcid engine now w, fun reason lost hpending => ?_,
      List.forall_mem_nil _⟩
    rw [begin, connection, Connection.new, touch_eq rfl] at hpending
    cases hpending

/-- **The flag of the last event.** Over any engine, and whatever is done to a connection
and by whom: the streams that are live show missing bytes exactly if, by the books, bytes
are missing on any stream that was ever opened and never reset. The action that ends the
connection tells the last event, and whatever last event is told, to a handler, in an
answer or into the mailbox, says whether bytes are missing. What is acknowledged on a
stream has to fit a word together with what was acknowledged there before. -/
theorem flag_tells_loss (side : Side) (settings : ConnectionSettings) (scid dcid : ConnectionId)
    (engine : ε) (now : Instant) (w : σ) (actions : List (Action ε σ))
    (hfits : ∀ e ∈ ((Session.begin side settings scid dcid engine now w).steps actions).history,
      e.Fits) :
    let s := (Session.begin side settings scid dcid engine now w).steps actions
    (s.SumsFit → (s.connection.streams.writesIncomplete = true ↔ s.Loses)) ∧
      ∀ note, (∀ a ∈ actions, a.Notes note) → ∀ e ∈ s.history, e.Discloses note s := by
  refine ⟨fun hsums => ?_, fun note hnotes => ?_⟩
  · exact (Session.reckons_steps side settings scid dcid engine now w actions
      hfits).writesIncomplete_iff hsums
  · refine (Session.audited_steps side settings scid dcid engine now w actions hfits
      fun e he => hnotes _ ?_).discloses
    have hdone := List.mem_map_of_mem (f := (·.action)) he
    rwa [Session.actions_steps] at hdone

end

/-- Of three streams, one is acknowledged to the end and is gone, one is reset with bytes
missing, and one is missing a byte when the connection has drained. -/
def closedWithByteMissing : List (Action ScriptedEngine (List Event)) :=
  [.setConnectionHandler fun e w => (.ok (), w ++ [e]),
    .modifyEngine (·.expectDatagram (.ok [.handshakeCompleted
      ({} : ConnectionSettings).localParameters])),
    .ingest [] ⟨0⟩, .openStream .uni, .openStream .uni, .openStream .uni,
    .write ⟨2⟩ [1, 2, 3] true, .write ⟨6⟩ [4, 5] false, .write ⟨10⟩ [6, 7] true,
    .resetStream ⟨6⟩ 0,
    .modifyEngine (·.expectDatagram (.ok [.streamAcked ⟨2⟩ 3, .streamAcked ⟨6⟩ 2,
      .streamAcked ⟨10⟩ 1])),
    .ingest [] ⟨1⟩, .close 7 [] ⟨2⟩, .onTimeout ⟨10000000000⟩]

/-- The stream with a byte missing is the one that is neither gone nor reset. -/
theorem flag_tells_loss_missing :
    let s := (Session.begin .client {} ⟨[], by decide⟩ ⟨[], by decide⟩ ({} : ScriptedEngine) ⟨0⟩
      []).steps closedWithByteMissing
    ((∀ e ∈ s.history, e.Fits) ∧ s.SumsFit) ∧
      s.moment.world.getLast? = some (.connectionClosed ⟨.localClose, 7, []⟩ true) ∧
      s.Loses ∧ ∀ e ∈ s.history, e.Discloses id s := by
  have hfits : ∀ e ∈ ((Session.begin .client {} ⟨[], by decide⟩ ⟨[], by decide⟩
      ({} : ScriptedEngine) ⟨0⟩ []).steps closedWithByteMissing).history, e.Fits := by decide
  have hsums : ((Session.begin .client {} ⟨[], by decide⟩ ⟨[], by decide⟩
      ({} : ScriptedEngine) ⟨0⟩ []).steps closedWithByteMissing).SumsFit := by decide
  obtain ⟨hflag, hdiscloses⟩ := flag_tells_loss .client {} ⟨[], by decide⟩ ⟨[], by decide⟩
    ({} : ScriptedEngine) ⟨0⟩ [] closedWithByteMissing hfits
  refine ⟨⟨hfits, hsums⟩, by decide, (hflag hsums).1 (by decide), hdiscloses id ?_⟩
  simp [closedWithByteMissing, Action.Notes, EventDispatcher.Notes]

/-- A byte of four is acknowledged, and then as many as a word can say. -/
def closedAfterLargeSum : List (Action ScriptedEngine (List Event)) :=
  [.setConnectionHandler fun e w => (.ok (), w ++ [e]),
    .modifyEngine (·.expectDatagram (.ok [.handshakeCompleted
      ({} : ConnectionSettings).localParameters])),
    .ingest [] ⟨0⟩, .openStream .uni, .write ⟨2⟩ [1, 2, 3, 4] false,
    .modifyEngine (·.expectDatagram (.ok [.streamAcked ⟨2⟩ 1, .streamAcked ⟨2⟩ maxWord])),
    .ingest [] ⟨1⟩, .close 7 [] ⟨2⟩, .onTimeout ⟨10000000000⟩]

/-- The books miss nothing, but the stream has forgotten what was acknowledged. -/
theorem flag_tells_no_loss :
    let s := (Session.begin .client {} ⟨[], by decide⟩ ⟨[], by decide⟩ ({} : ScriptedEngine) ⟨0⟩
      []).steps closedAfterLargeSum
    (∀ e ∈ s.history, e.Fits) ∧ (Tally.of ⟨2⟩ s.postings).acked = 4 ∧ ¬ s.Loses ∧
      s.moment.world.getLast? = some (.connectionClosed ⟨.localClose, 7, []⟩ true) := by
  intro s
  refine ⟨by decide, by decide, ?_, by decide⟩
  rintro ⟨id, -, hshort⟩
  have hposted : ∀ p ∈ s.postings, p.streamId = ⟨2⟩ := by decide
  by_cases hid : id = ⟨2⟩
  · subst hid
    revert hshort
    decide
  · exact Tally.not_isShort_of_forall_ne
      (fun p hp heq => hid (heq.symm.trans (hposted p hp))) hshort

end Connection

end QuicHost
