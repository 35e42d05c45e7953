import QuicHost.Proofs.Connection.Standing

/-!
# When a connection gives up

A connection is patient with a silent peer for its idle timeout, and drains for
the time it was told to. Both are counted from points in time that the host has
told: `Clock` keeps them, and a session reads them off what was done
(`Session.clock`). However late or early the host says it is, the deadlines are
those of the clock, to the tick.

The proof lets the clock tick with the causes of moves (`Clock.ticks`), each of
which sets one deadline anew, and compares this with the history in the end.
-/

namespace QuicHost.Connection

variable {ε σ : Type}

/-! ## Clocks

A clock has two hands: when there was last a sign of life, and when draining began. It
ticks with causes, all others leaving it as it is. -/

/-- The times that deadlines are counted from. -/
structure Clock where
  /-- when there was last a sign of life -/
  heard : Instant
  /-- when draining began -/
  drained : Option Instant

/-- Whether draining begins. -/
def Cause.isDrained : Cause → Bool
  | drained _ => true
  | _ => false

namespace Clock

/-- The clock after a move with a given cause. -/
def tick (now : Instant) (clock : Clock) : Cause → Clock
  | .heard => { clock with heard := now }
  | .completed => { clock with heard := now }
  | .drained _ => { clock with drained := some now }
  | _ => clock

/-- The clock after moves with given causes. -/
def ticks (clock : Clock) (now : Instant) (ks : List Cause) : Clock := ks.foldl (tick now) clock

theorem ticks_append (clock : Clock) (now : Instant) (ks ks' : List Cause) :
    clock.ticks now (ks ++ ks') = (clock.ticks now ks).ticks now ks' :=
  List.foldl_append

/-- The clock shows when there was last a sign of life. -/
theorem heard_ticks (clock : Clock) (now : Instant) (ks : List Cause) :
    (clock.ticks now ks).heard =
      if .heard ∈ ks ∨ .completed ∈ ks then now else clock.heard := by
  induction ks generalizing clock with
  | nil => simp [ticks]
  | cons k rest ih =>
    have hrest : (clock.ticks now (k :: rest)).heard = _ := ih (clock.tick now k)
    rw [hrest]
    cases k <;> simp [tick]

/-- The clock shows when draining began last, which is once. -/
theorem drained_ticks (clock : Clock) (now : Instant) (ks : List Cause) :
    (clock.ticks now ks).drained =
      if ks.any (·.isDrained) then some now else clock.drained := by
  induction ks generalizing clock with
  | nil => simp [ticks]
  | cons k rest ih =>
    have hrest : (clock.ticks now (k :: rest)).drained = _ := ih (clock.tick now k)
    rw [hrest]
    cases k <;> simp [tick, Cause.isDrained]

end Clock

/-! ## Deadlines

The timers that are armed are those of the clock, to the tick. The idle timer belongs to
an open connection and the drain timer to a draining one, so that either hand matters in
its own state only. -/

theorem isDue_iff (d : Deadlines) (now : Instant) (timer : Timer) :
    d.isDue now timer = true ↔ ∃ t, d.get timer = some t ∧ t ≤ now := by
  cases h : d.get timer <;> simp [Deadlines.isDue, h]

theorem deadlines_eq {d : Deadlines} {drain idle engine : Option Instant} (hdrain : d.drain = drain)
    (hidle : d.idle = idle) (hengine : d.engine = engine) : d = ⟨drain, idle, engine⟩ := by
  rw [← hdrain, ← hidle, ← hengine]

/-- The idle timeout in force: our own until the peer has announced its own, and
what both agree on from then on. -/
def idleTimeoutWith (settings : ConnectionSettings) : Option TransportParameters → Option Duration
  | none => settings.idleTimeout
  | some peer => negotiateIdleTimeout settings.idleTimeout peer.idleTimeout

/-- When the patience with a silent peer ends, given the idle timeout in force. -/
def Clock.idleDeadline (clock : Clock) (idleTimeout : Option Duration) : Option Instant :=
  idleTimeout.map clock.heard.saturatingAdd

/-- When draining ends. -/
def Clock.drainDeadline (clock : Clock) (settings : ConnectionSettings) : Option Instant :=
  clock.drained.map (·.saturatingAdd settings.drainTimeout)

/-- The deadlines that are armed are those of the clock. -/
structure Timed (clock : Clock) (c : Connection ε σ) : Prop where
  /-- the bound on silence is the one in force -/
  inForce : c.idleTimeout = idleTimeoutWith c.settings c.streams.peerParams
  /-- counted from when the peer was last heard -/
  idle : c.state.isClosing = false → c.timers.idle = c.idleTimeout.map clock.heard.saturatingAdd
  /-- counted from when the connection began to drain -/
  drain : c.state = .draining → ∃ entered, clock.drained = some entered ∧
    c.timers.drain = some (entered.saturatingAdd c.settings.drainTimeout)

section

variable {c c' : Connection ε σ} {clock : Clock} {now : Instant} {ks : List Cause}

/-- A connection that stays where it stands keeps its deadlines. -/
theorem Timed.rests (h : c.Timed clock) (hrests : c.Rests c') : c'.Timed clock where
  inForce := by
    rw [hrests.idleTimeout, hrests.peerParams, hrests.settings]
    exact h.inForce
  idle hopen := by
    rw [hrests.idle, hrests.idleTimeout]
    exact h.idle (hrests.isClosing.symm.trans hopen)
  drain hdraining := by
    rw [hrests.drain, hrests.settings]
    exact h.drain ((hrests.state_eq_iff rfl).1 hdraining)

/-- A cause sets the clock, and the move arms the deadline that goes with it. -/
theorem Timed.move (h : c.Timed clock) (hcoherent : c.Coherent) (hmove : c.Move now ks c') :
    c'.Timed (clock.ticks now ks) := by
  have hnever {P : Prop} (hopen : c.state.isClosing = false) (hdraining : c.state = .draining) :
      P := by
    rw [hdraining] at hopen
    cases hopen
  -- the clock follows the same cases: heard restarts it, completed takes over the peer's
  -- bound, drained notes the time
  cases hmove with
  | rests hrests => exact h.rests hrests
  | heard hopen =>
    rw [touch_eq hopen]
    exact ⟨h.inForce, fun _ => rfl, fun hdraining => hnever hopen hdraining⟩
  | completed peer hopen hnew =>
    have hactive : (c.activate peer now).Timed (clock.ticks now [.completed]) :=
      ⟨rfl, fun _ => rfl, nofun⟩
    exact hactive.rests (rests_completeHandshake hnew (hcoherent.unclosed hopen).frozen peer now)
  | drained a announced reason hopen =>
    rw [enterDraining_eq (by exact hopen)]
    exact ⟨h.inForce, nofun, fun _ => ⟨now, rfl, rfl⟩⟩
  | finished hdraining =>
    rw [finish_eq (ne_closed_of_draining hdraining)]
    exact ⟨h.inForce, nofun, nofun⟩
  | failed reason hhandshaking =>
    rw [finishWith_eq (ne_closed_of_open (open_of_handshaking hhandshaking))]
    exact ⟨h.inForce, nofun, nofun⟩
  | exhausted hlive =>
    rw [finishWith_eq hlive]
    exact ⟨h.inForce, nofun, nofun⟩

/-- The deadlines are those of the clock after any chain of moves, by induction on it. -/
theorem Timed.moves (h : c.Timed clock) (hcoherent : c.Coherent) (hmoves : c.Moves now ks c') :
    c'.Timed (clock.ticks now ks) := by
  induction hmoves with
  | refl => exact h
  | tail hbefore hmove ih =>
    rw [Clock.ticks_append]
    exact ih.move (hcoherent.moves hbefore) hmove

theorem timed_new (side : Side) (settings : ConnectionSettings) (scid dcid : ConnectionId)
    (engine : ε) (created : Instant) (drained : Option Instant) :
    (Connection.new side settings scid dcid engine created : Connection ε σ).Timed
      ⟨created, drained⟩ := by
  rw [Connection.new, touch_eq rfl]
  exact ⟨rfl, fun _ => rfl, fun hdraining => by cases hdraining⟩

theorem Timed.isDue_idle (h : c.Timed clock) (hopen : c.state.isClosing = false)
    (now : Instant) : c.timers.isDue now .idle = true ↔
      ∃ t, clock.idleDeadline c.idleTimeout = some t ∧ t ≤ now := by
  have hget : c.timers.get .idle = clock.idleDeadline c.idleTimeout := h.idle hopen
  rw [isDue_iff, hget]

/-- Draining is over exactly when the clock says so. -/
theorem Timed.isDue_drain (h : c.Timed clock) (hdraining : c.state = .draining)
    (now : Instant) : c.timers.isDue now .drain = true ↔
      ∃ t, clock.drainDeadline c.settings = some t ∧ t ≤ now := by
  obtain ⟨entered, hentered, hdrain⟩ := h.drain hdraining
  have hget : c.timers.get .drain = clock.drainDeadline c.settings := by
    rw [Clock.drainDeadline, hentered]
    exact hdrain
  rw [isDue_iff, hget]

/-! ## What the causes leave behind

What can be seen of a chain of moves afterwards: whether the handshake became complete in
it, whether draining began, and for which reason. This is how a history tells the clock
without knowing of causes. -/

/-- The handshake becomes complete through one cause, once. -/
theorem Move.handshakeComplete (h : c.Move now ks c') :
    (c'.handshakeComplete = true ↔ c.handshakeComplete = true ∨ .completed ∈ ks) ∧
      (.completed ∈ ks → c.handshakeComplete = false) := by
  cases h with
  | rests hrests =>
    rw [hrests.handshakeComplete]
    simp
  | heard hopen =>
    rw [touch_eq hopen]
    simp
  | completed peer hopen hnew =>
    rw [completeHandshake_eq hnew]
    exact ⟨⟨fun _ => .inr (List.mem_singleton_self _), fun _ => rfl⟩, fun _ => hnew⟩
  | drained a announced reason hopen =>
    rw [enterDraining_eq (by exact hopen)]
    simp [emit, pump]
  | finished hdraining =>
    rw [finish_eq (ne_closed_of_draining hdraining)]
    simp
  | failed reason hhandshaking =>
    rw [finishWith_eq (ne_closed_of_open (open_of_handshaking hhandshaking))]
    simp
  | exhausted hlive =>
    rw [finishWith_eq hlive]
    simp

/-- The handshake is completed once. -/
theorem Moves.handshakeComplete (h : c.Moves now ks c') :
    (c'.handshakeComplete = true ↔ c.handshakeComplete = true ∨ .completed ∈ ks) ∧
      (.completed ∈ ks → c.handshakeComplete = false) := by
  induction h with
  | refl => simp
  | @tail ks ks' c₁ c₂ _ hmove ih =>
    obtain ⟨hiff, hnew⟩ := ih
    obtain ⟨hiff', hnew'⟩ := hmove.handshakeComplete
    rw [List.mem_append, hiff', hiff, or_assoc]
    refine ⟨Iff.rfl, ?_⟩
    rintro (hmem | hmem)
    · exact hnew hmem
    · have hincomplete := hnew' hmem
      rw [← Bool.not_eq_true, hiff] at hincomplete
      exact Bool.not_eq_true _ ▸ fun hcomplete => hincomplete (.inl hcomplete)

/-- A connection drains through one cause. -/
theorem Move.isDrained (h : c.Move now ks c') (hdraining : c'.state = .draining) :
    ks.any (·.isDrained) = !c.state.isClosing := by
  cases h with
  | rests hrests =>
    rw [(hrests.state_eq_iff rfl).1 hdraining]
    rfl
  | heard hopen =>
    rw [touch_eq hopen] at hdraining
    cases hopen.symm.trans (congrArg ConnectionState.isClosing hdraining)
  | completed peer hopen hnew =>
    rw [completeHandshake_eq hnew] at hdraining
    cases hdraining
  | drained a announced reason hopen =>
    rw [hopen]
    rfl
  | finished hdraining' =>
    rw [finish_eq (ne_closed_of_draining hdraining')] at hdraining
    cases hdraining
  | failed reason hhandshaking =>
    rw [finishWith_eq (ne_closed_of_open (open_of_handshaking hhandshaking))] at hdraining
    cases hdraining
  | exhausted hlive =>
    rw [finishWith_eq hlive] at hdraining
    cases hdraining

/-- Draining begins when an open connection comes to drain. -/
theorem Moves.isDrained (h : c.Moves now ks c') (hdraining : c'.state = .draining) :
    ks.any (·.isDrained) = !c.state.isClosing := by
  induction h with
  | refl =>
    rw [hdraining]
    rfl
  | @tail ks ks' c₁ c₂ hbefore hmove ih =>
    rw [List.any_append, hmove.isDrained hdraining]
    cases hclosing : c₁.state.isClosing with
    | true =>
      -- it was draining already, as it is not over
      have hrank := hmove.rank_le
      rw [hdraining] at hrank
      have hdraining₁ : c₁.state = .draining := by
        refine (isClosing_iff.1 hclosing).resolve_right fun hclosed => ?_
        rw [hclosed] at hrank
        exact absurd hrank (by decide)
      rw [ih hdraining₁, Bool.not_true, Bool.or_false]
    | false =>
      have hopen : c.state.isClosing = false := by
        rw [← Bool.not_eq_true, ConnectionState.isClosing_iff_rank] at hclosing ⊢
        exact fun hrank => hclosing (Nat.le_trans hrank hbefore.rank_le)
      rw [hopen, Bool.not_false, Bool.or_true]

/-- The reason that goes with a cause. -/
def Cause.reason? : Cause → Option CloseReason
  | drained reason => some reason
  | failed reason => some reason
  | exhausted => some exhaustion
  | _ => none

/-- A reason comes from a cause. -/
theorem Move.reason (h : c.Move now ks c') {reason : CloseReason}
    (hreason : c'.closeReason = some reason) :
    c.closeReason = some reason ∨ ∃ k ∈ ks, k.reason? = some reason := by
  cases h with
  | rests hrests => exact .inl (hrests.closeReason.symm.trans hreason)
  | heard hopen =>
    rw [touch_eq hopen] at hreason
    exact .inl hreason
  | completed peer hopen hnew =>
    rw [completeHandshake_eq hnew] at hreason
    exact .inl hreason
  | drained a announced reason' hopen =>
    rw [enterDraining_eq (by exact hopen)] at hreason
    exact .inr ⟨_, List.mem_singleton_self _, hreason⟩
  | finished hdraining =>
    rw [finish_eq (ne_closed_of_draining hdraining)] at hreason
    exact .inl hreason
  | failed reason' hhandshaking =>
    rw [finishWith_eq (ne_closed_of_open (open_of_handshaking hhandshaking))] at hreason
    exact .inr ⟨_, List.mem_singleton_self _, hreason⟩
  | exhausted hlive =>
    rw [finishWith_eq hlive] at hreason
    exact .inr ⟨_, List.mem_singleton_self _, hreason⟩

/-- What a connection ends for, it has ended for before, or a cause says. -/
theorem Moves.reason (h : c.Moves now ks c') {reason : CloseReason}
    (hreason : c'.closeReason = some reason) :
    c.closeReason = some reason ∨ ∃ k ∈ ks, k.reason? = some reason := by
  induction h with
  | refl => exact .inl hreason
  | tail _ hmove ih =>
    rcases hmove.reason hreason with hreason' | ⟨k, hk, hsome⟩
    · rcases ih hreason' with hbefore | ⟨k, hk, hsome⟩
      · exact .inl hbefore
      · exact .inr ⟨k, List.mem_append_left _ hk, hsome⟩
    · exact .inr ⟨k, List.mem_append_right _ hk, hsome⟩

/-- No move changes the settings. -/
theorem Move.settings (h : c.Move now ks c') : c'.settings = c.settings := by
  cases h with
  | rests hrests => exact hrests.settings
  | heard hopen => rw [touch_eq hopen]
  | completed peer hopen hnew =>
    rw [completeHandshake_eq hnew]
    rfl
  | drained a announced reason hopen =>
    rw [enterDraining_eq (by exact hopen)]
    rfl
  | finished hdraining => rw [finish_eq (ne_closed_of_draining hdraining)]
  | failed reason hhandshaking =>
    rw [finishWith_eq (ne_closed_of_open (open_of_handshaking hhandshaking))]
  | exhausted hlive => rw [finishWith_eq hlive]

theorem Moves.settings (h : c.Moves now ks c') : c'.settings = c.settings :=
  Moves.keeps (fun hsame hmove => hmove.settings.trans hsame) rfl h

/-- Silence is kept. -/
theorem Silent.move (h : c.Silent) (hmove : c.Move now ks c') : c'.Silent := by
  cases hmove with
  | rests hrests =>
    refine ⟨hrests.isClosing.trans h.closing, ?_⟩
    rw [← Bool.not_eq_true]
    exact fun hpending => Bool.eq_false_iff.1 h.closePending (hrests.closePending hpending)
  | heard hopen => exact absurd h.closing (Bool.eq_false_iff.1 hopen)
  | completed peer hopen hnew => exact absurd h.closing (Bool.eq_false_iff.1 hopen)
  | drained a announced reason hopen => exact absurd h.closing (Bool.eq_false_iff.1 hopen)
  | finished hdraining =>
    rw [finish_eq (ne_closed_of_draining hdraining)]
    exact ⟨rfl, rfl⟩
  | failed reason hhandshaking =>
    exact absurd h.closing (Bool.eq_false_iff.1 (open_of_handshaking hhandshaking))
  | exhausted hlive =>
    rw [finishWith_eq hlive]
    exact ⟨rfl, rfl⟩

theorem Silent.moves (h : c.Silent) (hmoves : c.Moves now ks c') : c'.Silent :=
  Moves.keeps Silent.move h hmoves

end

/-! ## Sessions

The clock of a history and the clock of the moves agree, action by action. -/

section

variable [PacketEngine ε] {m : Moment ε σ} {a : Action ε σ} {s : Session ε σ}
  {c : Connection ε σ}

/-- Whether there is a sign of life: the engine of an open connection accepts a
datagram, or the handshake becomes complete. -/
def Entry.isHeard (e : Entry ε σ) : Bool :=
  e.action.isHeard e.before.connection ||
    !e.before.connection.handshakeComplete && e.after.connection.handshakeComplete

/-- Whether an open connection begins to drain. -/
def Entry.isDrained (e : Entry ε σ) : Bool :=
  !e.before.connection.state.isClosing && e.after.connection.state == .draining

/-- The clock after an action. -/
def Clock.log (clock : Clock) (e : Entry ε σ) : Clock where
  heard := if e.isHeard then e.action.now else clock.heard
  drained := if e.isDrained then some e.action.now else clock.drained

/-- The clock of a session with a connection that was created at a given time. -/
def Session.clock (created : Instant) (s : Session ε σ) : Clock :=
  s.history.foldl Clock.log ⟨created, none⟩

theorem Session.clock_step (created : Instant) (s : Session ε σ) (a : Action ε σ) :
    (s.step a).clock created = (s.clock created).log ⟨s.moment, a⟩ := by
  rw [Session.clock, Session.step, List.foldl_append]
  rfl

/-- The engine is heard exactly when it accepts a datagram. -/
theorem Outcome.heard_iff {ks : List Cause} (h : Outcome m a ks c) :
    .heard ∈ ks ↔ a.isHeard m.connection = true := by
  refine ⟨fun hmem => ?_, h.heard⟩
  generalize hk : Cause.heard = k at hmem
  cases h.gives k hmem with
  | heard hheard => exact hheard
  | close _ => cases hk
  | ingest _ hgiven => exact absurd hk.symm hgiven.ne_heard
  | produceDatagrams _ _ hfollows =>
    rw [← hk] at hfollows
    cases hfollows
  | onTimeout hdue =>
    cases hdue with
    | silence _ _ =>
      rw [silenced] at hk
      split at hk
      · cases hk
      · cases hk
    | finished _ => cases hk
    | engine _ hgiven => exact absurd hk.symm hgiven.ne_heard

/-- There was a sign of life exactly when the causes say so. -/
theorem Outcome.isHeard_iff {ks : List Cause} (h : Outcome m a ks c) :
    Entry.isHeard ⟨m, a⟩ = true ↔ .heard ∈ ks ∨ .completed ∈ ks := by
  have hcompleted : .completed ∈ ks ↔ m.connection.handshakeComplete = false ∧
      (m.perform a).2.connection.handshakeComplete = true := by
    obtain ⟨hiff, hnew⟩ := h.moves.handshakeComplete
    rw [h.tells.rests.handshakeComplete, hiff]
    constructor
    · intro hmem
      exact ⟨hnew hmem, .inr hmem⟩
    · rintro ⟨hincomplete, hcomplete | hmem⟩
      · cases hincomplete.symm.trans hcomplete
      · exact hmem
  rw [Entry.isHeard, Bool.or_eq_true, Bool.and_eq_true, Bool.not_eq_true', h.heard_iff, hcompleted]
  rfl

/-- What the causes make of the clock is what the history tells. -/
theorem Timed.perform {clock : Clock} (h : m.connection.Timed clock)
    (hcoherent : m.connection.Coherent) (hfits : m.connection.TimersFit) (a : Action ε σ) :
    (m.perform a).2.connection.Timed (clock.log ⟨m, a⟩) := by
  obtain ⟨ks, c, houtcome⟩ := outcome_perform m hfits a
  have hrests := houtcome.tells.rests
  have hequipped : (m.connection.modifyDispatcher a.equip).Timed clock :=
    ⟨h.inForce, h.idle, h.drain⟩
  have hticked := (hequipped.moves (hcoherent.equip a) houtcome.moves).rests hrests
  refine ⟨hticked.inForce, fun hopen => ?_, fun hdraining => ?_⟩
  · have hheard : (clock.log ⟨m, a⟩).heard = (clock.ticks a.now ks).heard := by
      rw [Clock.heard_ticks]
      simp only [Clock.log, houtcome.isHeard_iff]
    rw [hheard]
    exact hticked.idle hopen
  · have hdrained : (clock.log ⟨m, a⟩).drained = (clock.ticks a.now ks).drained := by
      have hany := houtcome.moves.isDrained ((hrests.state_eq_iff rfl).1 hdraining)
      have hentry : Entry.isDrained ⟨m, a⟩ = !m.connection.state.isClosing := by
        rw [Entry.isDrained, Entry.after, hdraining]
        exact Bool.and_true _
      rw [Clock.drained_ticks, hany, Clock.log, hentry]
      rfl
    rw [hdrained]
    exact hticked.drain hdraining

/-- The deadlines are those of the clock at any time, by induction on the actions. -/
theorem Session.timed_steps {created : Instant} (hsound : s.Sound)
    (h : s.connection.Timed (s.clock created)) (actions : List (Action ε σ)) :
    (s.steps actions).connection.Timed ((s.steps actions).clock created) := by
  refine hsound.keeps (P := fun s => s.connection.Timed (s.clock created))
    (fun {s} a hsound h => ?_) h actions
  rw [Session.clock_step]
  exact h.perform hsound.coherent hsound.fits a

theorem Session.settings_steps (hsound : s.Sound) (actions : List (Action ε σ)) :
    (s.steps actions).connection.settings = s.connection.settings := by
  refine hsound.keeps (P := fun s' => s'.connection.settings = s.connection.settings)
    (fun {s'} a hsound h => ?_) rfl actions
  obtain ⟨ks, c, houtcome⟩ := outcome_perform s'.moment hsound.fits a
  exact (houtcome.tells.rests.settings.trans houtcome.moves.settings).trans h

theorem Session.silent_steps (hsound : s.Sound) (h : s.connection.Silent)
    (actions : List (Action ε σ)) : (s.steps actions).connection.Silent := by
  refine hsound.keeps (P := fun s => s.connection.Silent) (fun {s} a hsound h => ?_) h actions
  obtain ⟨ks, c, houtcome⟩ := outcome_perform s.moment hsound.fits a
  have hequipped : (s.connection.modifyDispatcher a.equip).Silent := ⟨h.closing, h.closePending⟩
  exact hequipped.moves (houtcome.moves.rests houtcome.tells.rests)

/-! ## Giving up

What a timeout does at a given time, read off the deadlines: an open connection gives up
exactly when it was silent for too long, and a draining one is over exactly when it has
drained for long enough. -/

/-- The deadlines that count are those of the clock. -/
structure Punctual (settings : ConnectionSettings) (clock : Clock) (c : Connection ε σ) : Prop where
  /-- the bound on silence is the one in force -/
  inForce : c.idleTimeout = idleTimeoutWith settings c.streams.peerParams
  /-- an open connection waits for silence, and for what its engine wants -/
  waiting : c.state.isClosing = false →
    c.currentTimers = ⟨none, clock.idleDeadline c.idleTimeout, PacketEngine.expiry c.engine⟩
  /-- a draining one waits for the end of draining -/
  draining : c.state = .draining → clock.drained.isSome = true ∧
    c.currentTimers = ⟨clock.drainDeadline settings, none, none⟩
  /-- one that is over waits for nothing -/
  closed : c.state = .closed → c.nextDeadline = none

/-- What it means for a session that the host says it is `now`. -/
structure Session.TimesOut (settings : ConnectionSettings) (clock : Clock) (s : Session ε σ)
    (now : Instant) : Prop where
  /-- it ends for silence exactly if the bound has passed -/
  idle : s.connection.state.isClosing = false →
    ((∃ reason, (s.step (.onTimeout now)).connection.closeReason = some reason ∧
      reason.kind = .idleTimeout) ↔
        ∃ t, clock.idleDeadline s.connection.idleTimeout = some t ∧ t ≤ now)
  /-- before the handshake is complete, it is over at once -/
  early : s.connection.state.isHandshaking = true →
    (∃ t, clock.idleDeadline s.connection.idleTimeout = some t ∧ t ≤ now) →
    (s.step (.onTimeout now)).connection.state = .closed
  /-- afterwards it drains, without a word to the peer, now or later -/
  active : s.connection.state = .active →
    (∃ t, clock.idleDeadline s.connection.idleTimeout = some t ∧ t ≤ now) →
    (s.step (.onTimeout now)).connection.state = .draining ∧
      (s.step (.onTimeout now)).connection.adapter = s.connection.adapter ∧
      ∀ later now' w,
        (((s.step (.onTimeout now)).steps later).connection.produceDatagrams now' w).1.1 = []
  /-- draining ends exactly if its time has passed -/
  draining : s.connection.state = .draining →
    ((s.step (.onTimeout now)).connection.state = .closed ↔
      ∃ t, clock.drainDeadline settings = some t ∧ t ≤ now) ∧
    ((s.step (.onTimeout now)).connection.state = .draining ∨
      (s.step (.onTimeout now)).connection.state = .closed)

/-- Which deadlines count follows from the state, since the timers fit it. -/
theorem punctual_of_timed {clock : Clock} (h : c.Timed clock) (hfits : c.TimersFit) :
    c.Punctual c.settings clock where
  inForce := h.inForce
  waiting hopen := by
    rw [currentTimers, if_neg (Bool.eq_false_iff.1 hopen)]
    exact deadlines_eq (hfits.drain_eq_none hopen) (h.idle hopen) rfl
  draining hdraining := by
    obtain ⟨entered, hentered, hdrain⟩ := h.drain hdraining
    have hclosing : c.state.isClosing = true := isClosing_iff.2 (.inl hdraining)
    obtain ⟨hidle, hengine⟩ := hfits.closing hclosing
    rw [currentTimers, if_pos hclosing, Clock.drainDeadline, hentered]
    exact ⟨rfl, deadlines_eq hdrain hidle hengine⟩
  closed hclosed := by
    have hclosing : c.state.isClosing = true := isClosing_iff.2 (.inr hclosed)
    obtain ⟨hidle, hengine⟩ := hfits.closing hclosing
    have hdrain : c.timers.drain = none := by
      by_contra hdrain
      cases hclosed.symm.trans (hfits.drain hdrain)
    rw [nextDeadline, currentTimers, if_pos hclosing, deadlines_eq hdrain hidle hengine]
    rfl

/-- When all timers that are due were handled, events are delivered. -/
theorem connection_onTimeout (hlive : s.connection.state ≠ .closed) (now : Instant) :
    (s.step (.onTimeout now)).connection =
      ((s.connection.timedOut now).flush s.moment.world).1.2 := by
  have htimeout := onTimeout_eq hlive now s.moment.world
  rw [Session.connection] at htimeout
  rw [Session.connection, Session.step, Moment.perform, htimeout]
  rfl

/-- Nothing but silence is taken for silence. -/
theorem kind_of_given {α : Type} {answer : Except TransportError α} {k : Cause}
    (h : k.Given answer) {reason : CloseReason} (hreason : k.reason? = some reason) :
    reason.kind ≠ .idleTimeout := by
  rcases h with hreported | ⟨e, -, hfollows⟩
  · cases hreported with
    | completed => cases hreason
    | drained hkind =>
      obtain rfl := Option.some.inj hreason
      exact hkind
  · cases hfollows with
    | violation _ =>
      obtain rfl := Option.some.inj hreason
      exact nofun
    | handshake _ =>
      obtain rfl := Option.some.inj hreason
      exact nofun
    | exhausted _ =>
      obtain rfl := Option.some.inj hreason
      exact nofun

/-- A connection that has patience left does not end for silence. -/
theorem kind_of_not_idle (hsound : s.Sound) (hopen : s.connection.state.isClosing = false)
    {now : Instant} (hidle : ¬ s.connection.timers.isDue now .idle = true) {reason : CloseReason}
    (hreason : (s.step (.onTimeout now)).connection.closeReason = some reason) :
    reason.kind ≠ .idleTimeout := by
  have hlive := ne_closed_of_open hopen
  obtain ⟨ks, hmoves, hdue⟩ := moves_timedOut hsound.fits hlive now
  rw [connection_onTimeout hlive] at hreason
  rcases hmoves.reason hreason with hbefore | ⟨k, hk, hsome⟩
  · rw [(hsound.coherent.unclosed hopen).closeReason] at hbefore
    cases hbefore
  · cases hdue k hk with
    | silence _ hdue => exact absurd hdue hidle
    | finished _ => cases hsome
    | engine _ hgiven => exact kind_of_given hgiven hsome

/-- A connection whose patience is over ends for silence, whatever else is due. -/
theorem connection_of_idle (hsound : s.Sound) (hopen : s.connection.state.isClosing = false)
    {now : Instant} (hidle : s.connection.timers.isDue now .idle = true) :
    (s.step (.onTimeout now)).connection =
      ((s.connection.onIdleTimeout now).flush s.moment.world).1.2 := by
  rw [connection_onTimeout (ne_closed_of_open hopen), timedOut_of_open hsound.fits hopen,
    if_pos hidle]

/-- Draining lasts exactly until its deadline. -/
theorem state_of_draining (hsound : s.Sound) (hdraining : s.connection.state = .draining)
    (now : Instant) : (s.step (.onTimeout now)).connection.state =
      if s.connection.timers.isDue now .drain then .closed else .draining := by
  have hlive : s.connection.state ≠ .closed := ne_closed_of_draining hdraining
  rw [connection_onTimeout hlive, timedOut_of_draining hsound.fits hdraining]
  split
  · rw [finish_eq hlive]
    rfl
  · exact hdraining

/-- What a timeout does follows from which deadlines have come: one case for each state. -/
theorem timesOut_of_timed {clock : Clock} (hsound : s.Sound) (h : s.connection.Timed clock)
    (now : Instant) : s.TimesOut s.connection.settings clock now where
  idle hopen := by
    rw [← h.isDue_idle hopen]
    constructor
    · rintro ⟨reason, hreason, hkind⟩
      -- no other cause gives this kind: what the engine reports at a timer is of another
      -- one
      by_contra hidle
      exact kind_of_not_idle hsound hopen hidle hreason hkind
    · intro hidle
      rw [connection_of_idle hsound hopen hidle]
      by_cases hhandshaking : s.connection.state.isHandshaking = true
      · rw [onIdleTimeout_of_handshaking hhandshaking, finishWith_eq (ne_closed_of_open hopen)]
        exact ⟨silence, rfl, rfl⟩
      · rw [onIdleTimeout_of_active (active_of_open hopen hhandshaking), enterDraining_eq hopen]
        exact ⟨silence, rfl, rfl⟩
  early hhandshaking hdue := by
    have hopen := open_of_handshaking hhandshaking
    rw [connection_of_idle hsound hopen ((h.isDue_idle hopen now).2 hdue),
      onIdleTimeout_of_handshaking hhandshaking, finishWith_eq (ne_closed_of_open hopen)]
    rfl
  active hactive hdue := by
    have hopen : s.connection.state.isClosing = false := congrArg ConnectionState.isClosing hactive
    have hdrained : (s.step (.onTimeout now)).connection =
        ((s.connection.enterDraining silence now).flush s.moment.world).1.2 := by
      rw [connection_of_idle hsound hopen ((h.isDue_idle hopen now).2 hdue),
        onIdleTimeout_of_active hactive]
    rw [enterDraining_eq hopen] at hdrained
    have hsilent : (s.step (.onTimeout now)).connection.Silent := by
      rw [hdrained]
      exact ⟨rfl, (hsound.coherent.unclosed hopen).closePending⟩
    refine ⟨by rw [hdrained]; rfl, by rw [hdrained]; rfl, fun later now' w => ?_⟩
    -- the closing was never announced, so there is nothing to pull at any later time either
    have hstill := Session.silent_steps (hsound.step _) hsilent later
    rw [produceDatagrams, if_neg (Bool.eq_false_iff.1 hstill.maySend)]
    rfl
  draining hdraining := by
    rw [← h.isDue_drain hdraining, state_of_draining hsound hdraining]
    split
    · next hdue => exact ⟨⟨fun _ => hdue, fun _ => rfl⟩, .inr rfl⟩
    · next hdue =>
      refine ⟨⟨fun hclosed => ?_, fun h => absurd h hdue⟩, .inl rfl⟩
      cases hclosed

/-- **Deadlines are kept.** Whatever the engine does, and whatever is done to a
connection at whatever time, the deadlines that count are those of the clock, and they
decide what becomes of the connection when they have come. -/
theorem deadlines_kept (side : Side) (settings : ConnectionSettings) (scid dcid : ConnectionId)
    (engine : ε) (created : Instant) (w : σ) (actions : List (Action ε σ)) :
    let s := (Session.begin side settings scid dcid engine created w).steps actions
    s.connection.Punctual settings (s.clock created) ∧
      ∀ now, s.TimesOut settings (s.clock created) now := by
  have hbegun := Session.sound_begin side settings scid dcid engine created w
  have hsettings := Session.settings_steps hbegun actions
  have hsound := hbegun.steps actions
  have htimed := Session.timed_steps hbegun
    (timed_new side settings scid dcid engine created none) actions
  have hsame : (Session.begin side settings scid dcid engine created w :
      Session ε σ).connection.settings = settings := by
    rw [Session.begin, Session.connection, Connection.new, touch_eq rfl]
  rw [hsame] at hsettings
  intro s
  have hpunctual := punctual_of_timed htimed hsound.fits
  have htimesOut (now : Instant) := timesOut_of_timed hsound htimed now
  rw [hsettings] at hpunctual
  simp only [hsettings] at htimesOut
  exact ⟨hpunctual, htimesOut⟩

end

/-- The handshake is complete after five nanoseconds, and then nothing is heard. -/
def greeted : List (Action ScriptedEngine Unit) :=
  [.modifyEngine (·.expectDatagram (.ok [.handshakeCompleted
    ({} : ConnectionSettings).localParameters])), .ingest [] ⟨5⟩]

/-- The handshake is a sign of life, from which the timeout is counted. -/
theorem deadlines_kept_greeted :
    let s := (Session.begin .client {} ⟨[], by decide⟩ ⟨[], by decide⟩ ({} : ScriptedEngine) ⟨0⟩
      ()).steps greeted
    (s.step (.onTimeout ⟨30000000005⟩)).connection.state = .draining ∧
      ¬ ∃ reason, (s.step (.onTimeout ⟨30000000004⟩)).connection.closeReason = some reason ∧
        reason.kind = .idleTimeout := by
  obtain ⟨-, htimesOut⟩ := deadlines_kept .client {} ⟨[], by decide⟩ ⟨[], by decide⟩
    ({} : ScriptedEngine) ⟨0⟩ () greeted
  refine ⟨((htimesOut ⟨30000000005⟩).active (by decide) ⟨⟨30000000005⟩, by decide, by decide⟩).1,
    mt ((htimesOut ⟨30000000004⟩).idle (by decide)).1 ?_⟩
  rintro ⟨t, heq, hle⟩
  obtain rfl : ⟨30000000005⟩ = t := Option.some.inj heq
  exact absurd hle (by decide)

end QuicHost.Connection
