import QuicHost.Proofs.Connection.Session

/-!
# Where a connection stands

A connection keeps its state in several places: the state itself, whether the
handshake is complete, whether the closing is to be sent, why the connection
ends, whether the streams are frozen and whether the dispatcher is sealed.
`Coherent` says how they agree, and that nothing which is still to be told
contradicts them. Every move keeps it.

A connection only goes on. What it has ended for stands from then on, unless the
engine runs out of resources while it is to send the closing; and then the
reason given before is never told.
-/

namespace QuicHost

/-- How far a connection has come. -/
def ConnectionState.rank : ConnectionState → Nat
  | initiating => 0
  | handshaking => 1
  | active => 2
  | draining => 3
  | closed => 4

theorem ConnectionState.isClosing_iff_rank {s : ConnectionState} :
    s.isClosing = true ↔ draining.rank ≤ s.rank := by
  cases s <;> decide

theorem ConnectionState.rank_le_closed (s : ConnectionState) : s.rank ≤ closed.rank := by
  cases s <;> decide

namespace Connection

variable {ε σ : Type}

/-- What a connection says about where it stands agrees. -/
structure Coherent (c : Connection ε σ) : Prop where
  /-- active after the handshake and before the closing -/
  active : c.state = .active ↔ c.handshakeComplete = true ∧ c.state.isClosing = false
  /-- a reason is kept exactly by those that are closing -/
  reasoned : c.closeReason.isSome = true ↔ c.state = .draining ∨ c.state = .closed
  /-- the streams stand still exactly when the connection is over -/
  frozen : c.streams.frozen = true ↔ c.state = .closed
  /-- and no event can be added exactly then -/
  sealed : c.dispatcher.sealed = true ↔ c.state = .closed
  /-- the closing is sent while the connection drains -/
  announced : c.closePending = true → c.state = .draining
  /-- every end that waits to be told is told with the reason that is kept -/
  pending : ∀ e ∈ c.pending, ∀ reason, e.reason? = some reason → c.closeReason = some reason
  /-- the last event waits only if the connection is over -/
  ended : ∀ reason lost, .connectionClosed reason lost ∈ c.pending → c.state = .closed

section

variable {c c' : Connection ε σ} {now : Instant} {k : Cause} {ks : List Cause}

/-- What goes with an open connection. -/
structure Unclosed (c : Connection ε σ) : Prop where
  closeReason : c.closeReason = none
  frozen : c.streams.frozen = false
  sealed : c.dispatcher.sealed = false
  closePending : c.closePending = false
  pending : ∀ e ∈ c.pending, e.reason? = none

/-- What coherence means for an open connection. -/
theorem Coherent.unclosed (h : c.Coherent) (hopen : c.state.isClosing = false) : c.Unclosed := by
  have hlive := ne_closed_of_open hopen
  have hreason : c.closeReason = none := by
    rw [← Option.not_isSome_iff_eq_none, h.reasoned, ← isClosing_iff, hopen]
    exact Bool.false_ne_true
  refine ⟨hreason, ?_, ?_, ?_, fun e he => ?_⟩
  · rw [← Bool.not_eq_true, h.frozen]
    exact hlive
  · rw [← Bool.not_eq_true, h.sealed]
    exact hlive
  · rw [← Bool.not_eq_true]
    intro hannounced
    rw [h.announced hannounced] at hopen
    cases hopen
  · rw [Option.eq_none_iff_forall_ne_some]
    intro reason hsome
    rw [h.pending e he reason hsome] at hreason
    cases hreason

/-- Where the connection stays where it stands, what it says agrees as before. -/
theorem Coherent.rests (h : c.Coherent) (hrests : c.Rests c') : c'.Coherent where
  active := by
    rw [hrests.state_eq_iff rfl, hrests.handshakeComplete, hrests.isClosing]
    exact h.active
  reasoned := by
    rw [hrests.closeReason, hrests.state_eq_iff rfl, hrests.state_eq_iff rfl]
    exact h.reasoned
  frozen := by
    rw [hrests.frozen, hrests.state_eq_iff rfl]
    exact h.frozen
  sealed := by
    rw [hrests.sealed, hrests.state_eq_iff rfl]
    exact h.sealed
  announced hpending := by
    rw [hrests.state_eq_iff rfl]
    exact h.announced (hrests.closePending hpending)
  pending e he reason hreason := by
    rw [hrests.closeReason]
    rcases hrests.pending e he with he | hnone
    · exact h.pending e he reason hreason
    · rw [hnone] at hreason
      cases hreason
  ended reason lost he := by
    rw [hrests.state_eq_iff rfl]
    rcases hrests.pending _ he with he | hnone
    · exact h.ended reason lost he
    · cases hnone

theorem Coherent.touch (h : c.Coherent) (hopen : c.state.isClosing = false) (now : Instant) :
    (c.touch now).Coherent := by
  rw [touch_eq hopen]
  exact ⟨h.active, h.reasoned, h.frozen, h.sealed, h.announced, h.pending, h.ended⟩

/-- A connection that becomes active says so. -/
theorem Coherent.completeHandshake (h : c.Coherent) (hopen : c.state.isClosing = false)
    (hnew : c.handshakeComplete = false) (peer : TransportParameters) (now : Instant) :
    (c.completeHandshake peer now).Coherent := by
  have hunclosed := h.unclosed hopen
  have hactive : (c.activate peer now).Coherent := by
    refine ⟨⟨fun _ => ⟨rfl, rfl⟩, fun _ => rfl⟩, ?_, ?_, ?_, fun hannounced => ?_, h.pending,
      fun reason lost he => ?_⟩
    · simp [activate, hunclosed.closeReason]
    · simp [activate, hunclosed.frozen]
    · simp [activate, hunclosed.sealed]
    · exact absurd hannounced (Bool.eq_false_iff.1 hunclosed.closePending)
    · cases hunclosed.pending _ he
  exact hactive.rests (rests_completeHandshake hnew hunclosed.frozen peer now)

/-- A connection that begins to drain has a reason, which is the one it tells. -/
theorem Coherent.enterDraining (h : c.Coherent) (hopen : c.state.isClosing = false)
    (a : EngineAdapter ε) (announced : Bool) (reason : CloseReason) (now : Instant) :
    ({ c with adapter := a, closePending := announced }.enterDraining reason now).Coherent := by
  have hunclosed := h.unclosed hopen
  rw [enterDraining_eq (by exact hopen)]
  -- the reason that is told is the one and only
  have hpending {c₁ : Connection ε σ} (heq : c₁.pending = c.pending) :
      ∀ e ∈ (c₁.emit (.draining reason)).pending, e.reason? = none ∨ e = .draining reason := by
    intro e he
    rcases c₁.pending_emit _ e he with he | rfl
    · exact .inl (hunclosed.pending e (heq ▸ he))
    · exact .inr rfl
  refine ⟨⟨nofun, fun hactive => by cases hactive.2⟩, ⟨fun _ => .inl rfl, fun _ => rfl⟩, ?_, ?_,
    fun _ => rfl, fun e he reason' hsome => ?_, fun reason' lost he => ?_⟩
  · refine ⟨fun hfrozen => ?_, nofun⟩
    exact absurd hfrozen (Bool.eq_false_iff.1 hunclosed.frozen)
  · rw [sealed_emit]
    refine ⟨fun hsealed => ?_, nofun⟩
    exact absurd hsealed (Bool.eq_false_iff.1 hunclosed.sealed)
  · rcases hpending rfl e he with hnone | rfl
    · rw [hnone] at hsome
      cases hsome
    · exact hsome
  · rcases hpending rfl _ he with hnone | heq
    · cases hnone
    · cases heq

/-- A connection that fails has a reason, and has stopped and sealed everything. -/
theorem Coherent.finishWith (h : c.Coherent) (hlive : c.state ≠ .closed) (reason : CloseReason) :
    (c.finishWith reason).Coherent := by
  have hsealed : c.dispatcher.sealed = false := by
    rw [← Bool.not_eq_true, h.sealed]
    exact hlive
  rw [finishWith_eq hlive, EventDispatcher.sealWith, if_neg (Bool.eq_false_iff.1 hsealed)]
  refine ⟨⟨?_, ?_⟩, ⟨fun _ => .inr rfl, fun _ => rfl⟩, ⟨fun _ => rfl, fun _ => rfl⟩,
    ⟨fun _ => rfl, fun _ => rfl⟩, ?_, fun e he reason' hsome => ?_, fun _ _ _ => rfl⟩
  · intro hactive
    cases hactive
  · rintro ⟨-, hopen⟩
    cases hopen
  · intro hpending
    cases hpending
  · obtain rfl := List.mem_singleton.1 he
    exact hsome

/-- What a connection drains for is what it ends for. -/
theorem Coherent.finish (h : c.Coherent) (hdraining : c.state = .draining) : c.finish.Coherent := by
  obtain ⟨reason, hreason⟩ := Option.isSome_iff_exists.1 (h.reasoned.2 (.inl hdraining))
  have hsame : c.finish = c.finishWith reason := by
    rw [Connection.finishWith, ← hreason]
  rw [hsame]
  exact h.finishWith (ne_closed_of_draining hdraining) reason

/-- Every move keeps a connection coherent. One case for each kind of move. -/
theorem Coherent.move (h : c.Coherent) (hmove : c.Move now ks c') : c'.Coherent := by
  cases hmove with
  | rests hrests => exact h.rests hrests
  | heard hopen => exact h.touch hopen now
  | completed peer hopen hnew => exact h.completeHandshake hopen hnew peer now
  | drained a announced reason hopen => exact h.enterDraining hopen a announced reason now
  | finished hdraining => exact h.finish hdraining
  | failed reason hhandshaking =>
    exact h.finishWith (ne_closed_of_open (open_of_handshaking hhandshaking)) reason
  | exhausted hlive => exact h.finishWith hlive exhaustion

theorem Coherent.moves (h : c.Coherent) (hmoves : c.Moves now ks c') : c'.Coherent :=
  Moves.keeps Coherent.move h hmoves

/-! ## Onward

Ranks do not fall, and reasons stand but for exhaustion. Both are proved of single moves,
and then of chains. -/

/-- No move goes back. -/
theorem Move.rank_le (h : c.Move now ks c') : c.state.rank ≤ c'.state.rank := by
  have hopen_le (hopen : c.state.isClosing = false) : c.state.rank ≤ 2 := by
    cases hstate : c.state with
    | draining =>
      rw [hstate] at hopen
      cases hopen
    | closed =>
      rw [hstate] at hopen
      cases hopen
    | _ => decide
  -- an open state has rank two at most, draining three and closed four
  cases h with
  | rests hrests =>
    rcases hrests.state with heq | ⟨heq, heq'⟩
    · exact Nat.le_of_eq (congrArg ConnectionState.rank heq.symm)
    · rw [heq, heq']
      decide
  | heard hopen =>
    have hsame : (c.touch now).state = c.state := by rw [touch_eq hopen]
    exact Nat.le_of_eq (congrArg ConnectionState.rank hsame.symm)
  | completed peer hopen hnew =>
    rw [completeHandshake_eq hnew]
    exact hopen_le hopen
  | drained a announced reason hopen =>
    rw [enterDraining_eq (by exact hopen)]
    exact Nat.le_succ_of_le (hopen_le hopen)
  | finished hdraining =>
    rw [finish_eq (ne_closed_of_draining hdraining)]
    exact c.state.rank_le_closed
  | failed reason hhandshaking =>
    rw [finishWith_eq (ne_closed_of_open (open_of_handshaking hhandshaking))]
    exact c.state.rank_le_closed
  | exhausted hlive =>
    rw [finishWith_eq hlive]
    exact c.state.rank_le_closed

theorem Moves.rank_le (h : c.Moves now ks c') : c.state.rank ≤ c'.state.rank :=
  Moves.keeps (fun hle hmove => Nat.le_trans hle hmove.rank_le) (Nat.le_refl _) h

/-- A reason stands, unless resources run out. -/
theorem Coherent.move_closeReason (h : c.Coherent) (hmove : c.Move now ks c') {reason : CloseReason}
    (hreason : c.closeReason = some reason) :
    c'.closeReason = some reason ∨ .exhausted ∈ ks ∧ c'.closeReason = some exhaustion := by
  have hclosing : c.state.isClosing = true := by
    rw [isClosing_iff, ← h.reasoned, hreason]
    rfl
  cases hmove with
  | rests hrests => exact .inl (hrests.closeReason.trans hreason)
  | heard hopen => exact absurd hclosing (Bool.eq_false_iff.1 hopen)
  | completed peer hopen hnew => exact absurd hclosing (Bool.eq_false_iff.1 hopen)
  | drained a announced reason' hopen => exact absurd hclosing (Bool.eq_false_iff.1 hopen)
  | finished hdraining =>
    rw [finish_eq (ne_closed_of_draining hdraining)]
    exact .inl hreason
  | failed reason' hhandshaking =>
    exact absurd hclosing (Bool.eq_false_iff.1 (open_of_handshaking hhandshaking))
  | exhausted hlive =>
    rw [finishWith_eq hlive]
    exact .inr ⟨List.mem_singleton_self _, rfl⟩

/-- A reason stands, unless the engine runs out of resources while the connection drains. -/
theorem Coherent.moves_closeReason (h : c.Coherent) (hmoves : c.Moves now ks c')
    {reason : CloseReason} (hreason : c.closeReason = some reason) :
    c'.closeReason = some reason ∨ .exhausted ∈ ks ∧ c'.closeReason = some exhaustion := by
  induction hmoves with
  | refl => exact .inl hreason
  | tail hbefore hmove ih =>
    have hcoherent := h.moves hbefore
    rcases ih with heq | ⟨hmem, heq⟩
    · rcases hcoherent.move_closeReason hmove heq with heq' | ⟨hmem, heq'⟩
      · exact .inl heq'
      · exact .inr ⟨List.mem_append_right _ hmem, heq'⟩
    · -- once they have run out, they cannot do so for another reason
      refine .inr ⟨List.mem_append_left _ hmem, ?_⟩
      rcases hcoherent.move_closeReason hmove heq with heq' | ⟨-, heq'⟩
      · exact heq'
      · exact heq'

/-- What is over stays as it is. -/
theorem Move.closeReason_of_closed (h : c.Move now ks c') (hclosed : c.state = .closed) :
    c'.state = .closed ∧ c'.closeReason = c.closeReason := by
  have hclosing := isClosing_iff.2 (.inr hclosed)
  cases h with
  | rests hrests => exact ⟨(hrests.state_eq_iff rfl).2 hclosed, hrests.closeReason⟩
  | heard hopen => exact absurd hclosing (Bool.eq_false_iff.1 hopen)
  | completed peer hopen hnew => exact absurd hclosing (Bool.eq_false_iff.1 hopen)
  | drained a announced reason hopen => exact absurd hclosing (Bool.eq_false_iff.1 hopen)
  | finished hdraining => exact absurd hclosed (ne_closed_of_draining hdraining)
  | failed reason hhandshaking =>
    exact absurd hclosing (Bool.eq_false_iff.1 (open_of_handshaking hhandshaking))
  | exhausted hlive => exact absurd hclosed hlive

theorem Moves.closeReason_of_closed (h : c.Moves now ks c') (hclosed : c.state = .closed) :
    c'.state = .closed ∧ c'.closeReason = c.closeReason := by
  refine Moves.keeps (P := fun c' => c'.state = .closed ∧ c'.closeReason = c.closeReason)
    (fun hover hmove => ?_) ⟨hclosed, rfl⟩ h
  obtain ⟨hclosed', hsame⟩ := hmove.closeReason_of_closed hover.1
  exact ⟨hclosed', hsame.trans hover.2⟩

end

/-! ## Sessions

Every action of a session leads on, and so does every part of it; and what is handed out
about the end agrees with where the connection stands. -/

/-- Handlers are no part of coherence. -/
theorem Coherent.equip {c : Connection ε σ} (h : c.Coherent) (a : Action ε σ) :
    (c.modifyDispatcher a.equip).Coherent := by
  have hkept : (a.equip c.dispatcher).sealed = c.dispatcher.sealed ∧
      (c.modifyDispatcher a.equip).pending = c.pending := by
    cases a <;> exact ⟨rfl, rfl⟩
  refine ⟨h.active, h.reasoned, h.frozen, ?_, h.announced, ?_, ?_⟩
  · rw [modifyDispatcher, hkept.1]
    exact h.sealed
  · rw [hkept.2]
    exact h.pending
  · rw [hkept.2]
    exact h.ended

/-- A handler that is installed writes down what it is handed, by assumption. -/
theorem notedBy_equip {a : Action ε σ} {note : σ → List Event} {d : EventDispatcher σ}
    (h : d.NotedBy note) (ha : a.Notes note) : (a.equip d).NotedBy note := by
  cases a with
  | setConnectionHandler handle => exact h.setConnectionHandler ha
  | setDefaultStreamHandler handle => exact h.setDefaultStreamHandler ha
  | setStreamHandler id handle => exact h.setStreamHandler id ha
  | removeStreamHandler id => exact h.removeStreamHandler id
  | _ => exact h

section

variable [PacketEngine ε] {m : Moment ε σ} {a : Action ε σ} {s : Session ε σ}
  {c c' : Connection ε σ} {note : σ → List Event}

/-- An action leaves the timers fitting, and takes the connection on. -/
theorem TimersFit.perform (h : m.connection.TimersFit) (a : Action ε σ) :
    (m.perform a).2.connection.TimersFit ∧
      m.connection.state.rank ≤ (m.perform a).2.connection.state.rank := by
  obtain ⟨ks, c, houtcome⟩ := outcome_perform m h a
  have hequipped : (m.connection.modifyDispatcher a.equip).TimersFit := ⟨h.drain, h.closing⟩
  have hmoves := houtcome.moves.rests houtcome.tells.rests
  exact ⟨hequipped.moves hmoves, hmoves.rank_le⟩

/-- Whether an action runs an engine that has run out of resources. -/
def Action.Exhausts (c : Connection ε σ) : Action ε σ → Prop
  | ingest datagram now => c.state.isClosing = false ∧
    (c.adapter.ingest datagram now).1 = .error .resourceExhausted
  | produceDatagrams now => c.maySend = true ∧
    (c.adapter.produceDatagrams now).1 = .error .resourceExhausted
  | onTimeout now => c.state.isClosing = false ∧
    (c.adapter.handleExpiry now).1 = .error .resourceExhausted
  | _ => False

theorem Cause.Follows.eq_resourceExhausted {e : TransportError} (h : Cause.exhausted.Follows e) :
    e = .resourceExhausted := by
  cases h with
  | exhausted heq => exact heq

theorem Cause.Given.eq_resourceExhausted {α : Type} {answer : Except TransportError α}
    (h : Cause.exhausted.Given answer) : answer = .error .resourceExhausted := by
  rcases h with hreported | ⟨e, heq, hfollows⟩
  · cases hreported
  · rw [heq, hfollows.eq_resourceExhausted]

/-- Only an engine that has run out of resources gives exhaustion as a cause. -/
theorem Action.Gives.exhausts (h : a.Gives c .exhausted) : a.Exhausts c := by
  cases h with
  | ingest hopen hgiven => exact ⟨hopen, hgiven.eq_resourceExhausted⟩
  | produceDatagrams hmay herror hfollows =>
    rw [hfollows.eq_resourceExhausted] at herror
    exact ⟨hmay, herror⟩
  | onTimeout hdue =>
    generalize hk : Cause.exhausted = k at hdue
    cases hdue with
    | silence _ _ =>
      rw [silenced] at hk
      split at hk
      · cases hk
      · cases hk
    | finished _ => cases hk
    | engine hopen hgiven =>
      rw [← hk] at hgiven
      exact ⟨hopen, hgiven.eq_resourceExhausted⟩

/-- Within an action, a connection goes on from `c` to `c'`, and what it ends for
stands. -/
structure Entry.Leads (e : Entry ε σ) (c c' : Connection ε σ) : Prop where
  /-- never back -/
  rank : c.state.rank ≤ c'.state.rank
  /-- the reason stays, unless the engine runs out of resources -/
  reason : ∀ reason, c.closeReason = some reason → c'.closeReason = some reason ∨
    e.action.Exhausts e.before.connection ∧ c'.closeReason = some exhaustion
  /-- nothing changes any more once it is over -/
  closed : c.state = .closed → c'.state = .closed ∧ c'.closeReason = c.closeReason

/-- An action takes a connection on, and so does every part of it. -/
structure Entry.Onward (e : Entry ε σ) : Prop where
  /-- from before the action to after it -/
  leads : e.Leads e.before.connection e.after.connection
  /-- and from every moment within the action to its end, each of them coherent -/
  chain : ∃ ks c, Outcome e.before e.action ks c ∧
    ∀ ks₁ ks₂ c₁, ks = ks₁ ++ ks₂ →
      (e.before.connection.modifyDispatcher e.action.equip).Moves e.action.now ks₁ c₁ →
      c₁.Moves e.action.now ks₂ c → c₁.Coherent ∧ e.Leads c₁ c

/-- What an action hands out about the end is true, and the last word still is when
the connection stands at `c`. -/
def Entry.Truthful (note : σ → List Event) (e : Entry ε σ) (c : Connection ε σ) : Prop :=
  ∃ heard, note e.after.world = note e.before.world ++ heard ∧
    ∀ event, event ∈ heard ∨ e.answer.event? = some event →
      (∀ reason, event = .draining reason → e.after.connection.closeReason = some reason) ∧
      ∀ reason lost, event = .connectionClosed reason lost →
        c.state = .closed ∧ c.closeReason = some reason

/-- A chain of moves leads on. -/
theorem Coherent.leads {e : Entry ε σ} {now : Instant} {ks : List Cause} (h : c.Coherent)
    (hmoves : c.Moves now ks c')
    (hexhausts : .exhausted ∈ ks → e.action.Exhausts e.before.connection) : e.Leads c c' where
  rank := hmoves.rank_le
  reason reason hreason := by
    rcases h.moves_closeReason hmoves hreason with heq | ⟨hmem, heq⟩
    · exact .inl heq
    · exact .inr ⟨hexhausts hmem, heq⟩
  closed := hmoves.closeReason_of_closed

/-- One action keeps everything. -/
theorem Coherent.perform (h : m.connection.Coherent) (hfits : m.connection.TimersFit)
    (a : Action ε σ) : (m.perform a).2.connection.Coherent ∧ Entry.Onward ⟨m, a⟩ := by
  obtain ⟨ks, c, houtcome⟩ := outcome_perform m hfits a
  have hequipped := h.equip a
  have hexhausts (hmem : .exhausted ∈ ks) : a.Exhausts m.connection :=
    (houtcome.gives _ hmem).exhausts
  have hwhole := houtcome.moves.rests houtcome.tells.rests
  refine ⟨hequipped.moves hwhole, ⟨?_, ks, c, houtcome, ?_⟩⟩
  · obtain ⟨hrank, hreason, hclosed⟩ := hequipped.leads (e := ⟨m, a⟩) hwhole hexhausts
    exact ⟨hrank, hreason, hclosed⟩
  · rintro ks₁ ks₂ c₁ rfl hmoves hmoves'
    have hcoherent := hequipped.moves hmoves
    exact ⟨hcoherent, hcoherent.leads hmoves' fun hmem =>
      hexhausts (List.mem_append_right _ hmem)⟩

/-- What one action hands out is true. -/
theorem Coherent.truthful (h : m.connection.Coherent) (hfits : m.connection.TimersFit)
    (hnoted : m.connection.dispatcher.NotedBy note) (ha : a.Notes note) :
    (m.perform a).2.connection.dispatcher.NotedBy note ∧
      Entry.Truthful note ⟨m, a⟩ (m.perform a).2.connection := by
  obtain ⟨ks, c, houtcome⟩ := outcome_perform m hfits a
  have hcoherent := (h.equip a).moves houtcome.moves
  have hrests := houtcome.tells.rests
  have hnoted' := houtcome.moves.noted (notedBy_equip hnoted ha)
  obtain ⟨heard, heq, hheard⟩ := houtcome.tells.noted hnoted'
  refine ⟨hrests.noted hnoted', heard, heq, fun event hevent => ?_⟩
  -- all that is handed out was pending when the moves were over
  have htold (reason : CloseReason) (hreason : event.reason? = some reason) :
      event ∈ c.pending := by
    have hpending : event ∈ c.pending ∨ event.reason? = none := by
      rcases hevent with hevent | hevent
      · exact hheard event hevent
      · exact houtcome.tells.answered event hevent
    refine hpending.resolve_right fun hnone => ?_
    rw [hnone] at hreason
    cases hreason
  refine ⟨?_, ?_⟩
  · rintro reason rfl
    exact hrests.closeReason.trans (hcoherent.pending _ (htold reason rfl) reason rfl)
  · rintro reason lost rfl
    have hmem := htold reason rfl
    exact ⟨(hrests.state_eq_iff rfl).2 (hcoherent.ended reason lost hmem),
      hrests.closeReason.trans (hcoherent.pending _ hmem reason rfl)⟩

/-- What was true stays true, for a connection that is over stays as it is. -/
theorem Entry.Truthful.later {e : Entry ε σ} (h : e.Truthful note c)
    (hclosed : c.state = .closed → c'.state = .closed ∧ c'.closeReason = c.closeReason) :
    e.Truthful note c' := by
  obtain ⟨heard, heq, hheard⟩ := h
  refine ⟨heard, heq, fun event hevent => ?_⟩
  obtain ⟨hdraining, hended⟩ := hheard event hevent
  refine ⟨hdraining, fun reason lost hlast => ?_⟩
  obtain ⟨hstate, hreason⟩ := hended reason lost hlast
  obtain ⟨hstate', hsame⟩ := hclosed hstate
  exact ⟨hstate', hsame.trans hreason⟩

/-- What holds of a session at any time. -/
structure Session.Sound (s : Session ε σ) : Prop where
  coherent : s.connection.Coherent
  fits : s.connection.TimersFit
  /-- every action took the connection on -/
  onward : ∀ e ∈ s.history, e.Onward
  /-- what handlers noted and answers told about the end is true -/
  truthful : ∀ note, (∀ e ∈ s.history, e.action.Notes note) →
    s.connection.dispatcher.NotedBy note ∧ ∀ e ∈ s.history, e.Truthful note s.connection

/-- One more action keeps the session sound: its outcome is a chain of moves, each of which
keeps the connection coherent. -/
theorem Session.Sound.step (h : s.Sound) (a : Action ε σ) : (s.step a).Sound := by
  obtain ⟨hcoherent, honward⟩ := h.coherent.perform h.fits a
  refine ⟨hcoherent, (TimersFit.perform h.fits a).1, ?_, fun note hnotes => ?_⟩
  · rw [Session.step, List.forall_mem_append]
    refine ⟨h.onward, fun e he => ?_⟩
    obtain rfl := List.mem_singleton.1 he
    exact honward
  · rw [Session.step, List.forall_mem_append] at hnotes
    obtain ⟨hnoted, htruthful⟩ := h.truthful note hnotes.1
    obtain ⟨hnoted', hlast⟩ := h.coherent.truthful h.fits hnoted
      (hnotes.2 _ (List.mem_singleton_self _))
    refine ⟨hnoted', ?_⟩
    rw [Session.step, List.forall_mem_append]
    refine ⟨fun e he => (htruthful e he).later honward.leads.closed, fun e he => ?_⟩
    obtain rfl := List.mem_singleton.1 he
    exact hlast

/-- What every action keeps, a session keeps. -/
theorem Session.Sound.keeps {P : Session ε σ → Prop}
    (hstep : ∀ {s : Session ε σ} (a : Action ε σ), s.Sound → P s → P (s.step a)) (hsound : s.Sound)
    (h : P s) (actions : List (Action ε σ)) : P (s.steps actions) := by
  induction actions generalizing s with
  | nil => exact h
  | cons a rest ih => exact ih (hsound.step a) (hstep a hsound h)

/-- A session is sound at any time, by induction on its actions. -/
theorem Session.Sound.steps (h : s.Sound) (actions : List (Action ε σ)) :
    (s.steps actions).Sound :=
  h.keeps (fun a hsound _ => hsound.step a) h actions

/-- A session is sound at its beginning. -/
theorem Session.sound_begin (side : Side) (settings : ConnectionSettings) (scid dcid : ConnectionId)
    (engine : ε) (now : Instant) (w : σ) :
    (Session.begin side settings scid dcid engine now w).Sound := by
  have hcoherent :
      (Connection.new side settings scid dcid engine now : Connection ε σ).Coherent := by
    rw [Connection.new]
    refine Coherent.touch ?_ rfl now
    -- nothing is told yet
    have hnothing (e : Event) : ¬ e ∈ ([] ++ ([] ++ []) : List Event) := List.not_mem_nil
    exact ⟨⟨nofun, fun h => by cases h.1⟩, ⟨nofun, fun h => by rcases h with h | h <;> cases h⟩,
      ⟨nofun, nofun⟩, ⟨nofun, nofun⟩, nofun, fun e he => (hnothing e he).elim,
      fun _ _ he => (hnothing _ he).elim⟩
  have hfits : (Connection.new side settings scid dcid engine now : Connection ε σ).TimersFit := by
    rw [Connection.new, touch_eq rfl]
    exact ⟨fun hdrain => absurd rfl hdrain, nofun⟩
  have hnoted (note : σ → List Event) :
      (Connection.new side settings scid dcid engine now : Connection ε σ).dispatcher.NotedBy
        note := by
    rw [Connection.new, touch_eq rfl]
    exact ⟨nofun, nofun, nofun⟩
  refine ⟨hcoherent, hfits, fun e he => ?_, fun note _ => ⟨hnoted note, fun e he => ?_⟩⟩
  · exact (List.not_mem_nil he).elim
  · exact (List.not_mem_nil he).elim

/-- **One story of every connection.** Whatever the engine does, and whatever is done to
a connection at whatever time: what it says about where it stands agrees, every action
takes it on and never back, what it ends for stands unless the engine runs out of
resources, and what is told about the end is true. -/
theorem coherent_throughout (side : Side) (settings : ConnectionSettings) (scid dcid : ConnectionId)
    (engine : ε) (now : Instant) (w : σ) (actions : List (Action ε σ)) :
    let s := (Session.begin side settings scid dcid engine now w).steps actions
    s.connection.Coherent ∧ (∀ e ∈ s.history, e.Onward) ∧
      ∀ note, (∀ a ∈ actions, a.Notes note) →
        ∀ e ∈ s.history, e.Truthful note s.connection := by
  have hsound := (Session.sound_begin side settings scid dcid engine now w).steps actions
  refine ⟨hsound.coherent, hsound.onward, fun note hnotes => (hsound.truthful note ?_).2⟩
  intro e he
  have hdone := List.mem_map_of_mem (f := (·.action)) he
  rw [Session.actions_steps] at hdone
  exact hnotes _ hdone

end

/-- A connection whose events are written down is closed, and then its engine has
no memory left to send the closing. -/
def closedWithoutMemory : List (Action ScriptedEngine (List Event)) :=
  [.setConnectionHandler fun e w => (.ok (), w ++ [e]),
    .modifyEngine (·.expectDatagram (.ok [.handshakeCompleted
      ({} : ConnectionSettings).localParameters])),
    .ingest [] ⟨0⟩, .close 7 [] ⟨1⟩, .modifyEngine (·.failNextWrite .outOfMemory),
    .produceDatagrams ⟨2⟩]

/-- The reason changes once, to that of the exhaustion. -/
theorem coherent_throughout_exhausted :
    let s := (Session.begin .client {} ⟨[], by decide⟩ ⟨[], by decide⟩ ({} : ScriptedEngine) ⟨0⟩
      []).steps closedWithoutMemory
    s.moment.world = [.handshakeCompleted, .streamsAvailable .bidi, .streamsAvailable .uni,
      .draining ⟨.localClose, 7, []⟩, .connectionClosed exhaustion false] ∧
      ∀ e ∈ s.history, e.Truthful id s.connection := by
  obtain ⟨-, -, htruthful⟩ := coherent_throughout .client {} ⟨[], by decide⟩ ⟨[], by decide⟩
    ({} : ScriptedEngine) ⟨0⟩ [] closedWithoutMemory
  refine ⟨by decide, htruthful id ?_⟩
  simp [closedWithoutMemory, Action.Notes, EventDispatcher.Notes]

end Connection

end QuicHost
