import QuicHost.Engine.Forced
import QuicHost.Proofs.Connection.Attending
import QuicHost.Proofs.Connection.Standing

/-!
# Connections that wait

A host sleeps until the deadline of a connection and then runs its timers. This
ends well only if no deadline is left that has come already, or the host would run
the timers for ever at the same time. Timers that are due together make it less
than clear: silence arms the timer for draining, and an engine that runs may
complete the handshake, which starts the idle timer anew, or reach the end.

A connection keeps its own timers `Ahead` of the time in whatever it does, because
the times it waits for are not empty (`Patient`) and the clock has ticks left. Of
the engine nothing is needed but that, when it has run, it `Sleeps`.
-/

namespace QuicHost

namespace Deadlines

variable {d : Deadlines} {now : Instant}

/-- A timer is armed when it is set. -/
theorem mem_armed_iff {timer : Timer} {t : Instant} :
    (timer, t) ∈ d.armed ↔ d.get timer = some t := by
  have hall : timer ∈ Timer.all := by cases timer <;> decide
  simp only [armed, List.mem_filterMap, Option.map_eq_some_iff, Prod.mk.injEq]
  constructor
  · rintro ⟨_, -, _, hget, rfl, rfl⟩
    exact hget
  · exact fun hget => ⟨timer, hall, t, hget, rfl, rfl⟩

/-- The earliest of several is one of them, and none is earlier. By induction on the others. -/
theorem foldl_earlier (e : Timer × Instant) (rest : List (Timer × Instant)) :
    rest.foldl earlier e ∈ e :: rest ∧ ∀ e' ∈ e :: rest, (rest.foldl earlier e).2 ≤ e'.2 := by
  induction rest generalizing e with
  | nil =>
    refine ⟨List.mem_singleton_self e, fun e' he' => ?_⟩
    rw [List.mem_singleton.1 he']
    exact Nat.le_refl _
  | cons first rest ih =>
    obtain ⟨hmem, hle⟩ := ih (earlier e first)
    have hfirst := hle _ List.mem_cons_self
    have hearlier : (earlier e first = e ∨ earlier e first = first) ∧
        (earlier e first).2 ≤ e.2 ∧ (earlier e first).2 ≤ first.2 := by
      simp only [earlier, Instant.lt_iff, Instant.le_iff]
      split
      · exact ⟨.inr rfl, by omega, Nat.le_refl _⟩
      · exact ⟨.inl rfl, Nat.le_refl _, by omega⟩
    refine ⟨?_, fun e' he' => ?_⟩
    · rcases List.mem_cons.1 hmem with heq | hmem
      · rcases hearlier.1 with hsame | hsame
        · exact List.mem_cons.2 (.inl (heq.trans hsame))
        · exact List.mem_cons_of_mem _ (List.mem_cons.2 (.inl (heq.trans hsame)))
      · exact List.mem_cons_of_mem _ (List.mem_cons_of_mem _ hmem)
    · rcases List.mem_cons.1 he' with rfl | he'
      · exact Nat.le_trans hfirst hearlier.2.1
      · rcases List.mem_cons.1 he' with rfl | he'
        · exact Nat.le_trans hfirst hearlier.2.2
        · exact hle e' (List.mem_cons_of_mem _ he')

/-- The first deadline is that of a timer, and no other is before it. -/
theorem next?_eq_some {e : Timer × Instant} (h : d.next? = some e) :
    d.get e.1 = some e.2 ∧ ∀ timer t, d.get timer = some t → e.2 ≤ t := by
  rw [next?] at h
  rcases harmed : d.armed with _ | ⟨first, rest⟩
  · rw [harmed] at h
    cases h
  · rw [harmed] at h
    obtain rfl := Option.some.inj h
    obtain ⟨hmem, hle⟩ := foldl_earlier first rest
    rw [← harmed] at hmem hle
    exact ⟨mem_armed_iff.1 hmem, fun timer t hget => hle (timer, t) (mem_armed_iff.2 hget)⟩

/-- If no timer comes next, none is set. -/
theorem next?_eq_none (h : d.next? = none) (timer : Timer) : d.get timer = none := by
  rw [next?] at h
  rcases harmed : d.armed with _ | ⟨first, rest⟩
  · rw [Option.eq_none_iff_forall_ne_some]
    intro t hget
    have hmem := mem_armed_iff.2 hget
    rw [harmed] at hmem
    cases hmem
  · rw [harmed] at h
    cases h

/-- No deadline has come just if the first has not. -/
theorem forall_lt_iff : (∀ timer t, d.get timer = some t → now < t) ↔
    ∀ e, d.next? = some e → now < e.2 := by
  refine ⟨fun h e he => h e.1 e.2 (next?_eq_some he).1, fun h timer t hget => ?_⟩
  cases hnext : d.next? with
  | none =>
    rw [next?_eq_none hnext timer] at hget
    cases hget
  | some e => exact Nat.lt_of_lt_of_le (h e hnext) ((next?_eq_some hnext).2 timer t hget)

end Deadlines

/-- There is time before what comes later. -/
theorem Instant.lt_saturatingAdd {now : Instant} {d : Duration} (hlast : now < .last)
    (hd : 0 < d.nanos) : now < now.saturatingAdd d := by
  rw [lt_iff] at hlast ⊢
  rw [nanos_saturatingAdd]
  change now.nanos < maxWord at hlast
  omega

/-- A timeout of no milliseconds means none at all. -/
theorem pos_of_timeoutOfMillis {ms : Nat} {d : Duration} (h : timeoutOfMillis ms = some d) :
    0 < d.nanos := by
  cases ms with
  | zero => cases h
  | succ ms =>
    obtain rfl := Option.some.inj h
    exact Nat.mul_pos (Nat.succ_pos ms) (by decide)

/-- What both agree on is one of the two that were announced. -/
theorem negotiateIdleTimeout_eq_some {a b : Option Duration} {d : Duration}
    (h : negotiateIdleTimeout a b = some d) : a = some d ∨ b = some d := by
  rcases a with _ | a <;> rcases b with _ | b
  · cases h
  · exact .inr h
  · exact .inl h
  · obtain rfl := Option.some.inj h
    simp only [Option.some.injEq, Duration.min]
    rcases Nat.le_total a.nanos b.nanos with hle | hle
    · exact .inl (congrArg Duration.mk (Nat.min_eq_left hle).symm)
    · exact .inr (congrArg Duration.mk (Nat.min_eq_right hle).symm)

namespace Connection

variable {ε σ : Type}

/-! ## The connection's own timers

Timers are set ahead of the time at which they are set. Both durations are positive, and
adding them stays below the end of time as long as there is something left of it. -/

/-- The times for which a connection waits are not empty. -/
structure Patient (c : Connection ε σ) : Prop where
  idle : ∀ d, c.idleTimeout = some d → 0 < d.nanos
  drain : 0 < c.settings.drainTimeout.nanos

/-- The timers that the connection sets itself are not due. -/
structure Ahead (now : Instant) (c : Connection ε σ) : Prop where
  drain : ∀ t, c.timers.drain = some t → now < t
  idle : ∀ t, c.timers.idle = some t → now < t

section

variable {c c' : Connection ε σ} {now : Instant} {ks : List Cause}

theorem patient_new (side : Side) {settings : ConnectionSettings} (hvalid : settings.Valid)
    (scid dcid : ConnectionId) (engine : ε) (created : Instant) :
    (Connection.new side settings scid dcid engine created : Connection ε σ).Patient := by
  rw [Connection.new, touch_eq rfl]
  have hdrain : 0 < settings.drainTimeoutMs := (ConnectionSettings.valid_iff.1 hvalid).2.2.1
  exact ⟨fun d hd => pos_of_timeoutOfMillis hd, Nat.mul_pos hdrain (by decide)⟩

theorem Patient.rests (h : c.Patient) (hrests : c.Rests c') : c'.Patient := by
  refine ⟨?_, ?_⟩
  · rw [hrests.idleTimeout]
    exact h.idle
  · rw [hrests.settings]
    exact h.drain

/-- The timeout that both sides agree on is not empty either. -/
theorem Patient.move (h : c.Patient) (hmove : c.Move now ks c') : c'.Patient := by
  cases hmove with
  | rests hrests => exact h.rests hrests
  | heard hopen =>
    rw [touch_eq hopen]
    exact ⟨h.idle, h.drain⟩
  | completed peer hopen hnew =>
    rw [completeHandshake_eq hnew]
    refine ⟨fun d hd => ?_, h.drain⟩
    rcases negotiateIdleTimeout_eq_some hd with hours | htheirs
    · exact pos_of_timeoutOfMillis hours
    · exact pos_of_timeoutOfMillis htheirs
  | drained a announced reason hopen =>
    rw [enterDraining_eq (by exact hopen)]
    exact ⟨h.idle, h.drain⟩
  | finished hdraining =>
    rw [finish_eq (ne_closed_of_draining hdraining)]
    exact ⟨h.idle, h.drain⟩
  | failed reason hhandshaking =>
    rw [finishWith_eq (ne_closed_of_open (open_of_handshaking hhandshaking))]
    exact ⟨h.idle, h.drain⟩
  | exhausted hlive =>
    rw [finishWith_eq hlive]
    exact ⟨h.idle, h.drain⟩

theorem Patient.moves (h : c.Patient) (hmoves : c.Moves now ks c') : c'.Patient :=
  Moves.keeps Patient.move h hmoves

/-- Whatever is done to a connection, it stays patient. -/
theorem Patient.perform [PacketEngine ε] {m : Moment ε σ} (h : m.connection.Patient)
    (hfit : m.connection.TimersFit) (a : Action ε σ) : (m.perform a).2.connection.Patient := by
  obtain ⟨ks, c, houtcome⟩ := outcome_perform m hfit a
  have hequipped : (m.connection.modifyDispatcher a.equip).Patient := ⟨h.idle, h.drain⟩
  exact hequipped.moves (houtcome.moves.rests houtcome.tells.rests)

theorem ahead_of_empty (h : c.timers = ∅) : c.Ahead now := by
  refine ⟨fun t ht => ?_, fun t ht => ?_⟩ <;> rw [h] at ht <;> cases ht

/-- The idle timer starts anew. -/
theorem lt_of_restarted (hlast : now < .last) {idleTimeout : Option Duration}
    (hpos : ∀ d, idleTimeout = some d → 0 < d.nanos) {t : Instant}
    (ht : idleTimeout.map now.saturatingAdd = some t) : now < t := by
  obtain ⟨d, hd, rfl⟩ := Option.map_eq_some_iff.1 ht
  exact Instant.lt_saturatingAdd hlast (hpos d hd)

/-- A connection that begins to drain now drains for a while. -/
theorem ahead_enterDraining (hpatient : c.Patient) (hlast : now < .last)
    (hopen : c.state.isClosing = false) (reason : CloseReason) :
    (c.enterDraining reason now).Ahead now := by
  rw [enterDraining_eq hopen]
  refine ⟨fun t ht => ?_, nofun⟩
  obtain rfl := Option.some.inj ht
  exact Instant.lt_saturatingAdd hlast hpatient.drain

/-- Every move sets timers ahead of the time, or leaves them. -/
theorem Ahead.move (h : c.Ahead now) (hpatient : c.Patient) (hlast : now < .last)
    (hmove : c.Move now ks c') : c'.Ahead now := by
  have hpatient' := hpatient.move hmove
  -- a timer is set anew, and then lies ahead, or was ahead before; closing clears them all
  cases hmove with
  | rests hrests =>
    refine ⟨?_, ?_⟩
    · rw [hrests.drain]
      exact h.drain
    · rw [hrests.idle]
      exact h.idle
  | heard hopen =>
    rw [touch_eq hopen]
    exact ⟨h.drain, fun t ht => lt_of_restarted hlast hpatient.idle ht⟩
  | completed peer hopen hnew =>
    rw [completeHandshake_eq hnew] at hpatient' ⊢
    exact ⟨h.drain, fun t ht => lt_of_restarted hlast hpatient'.idle ht⟩
  | drained a announced reason hopen =>
    exact ahead_enterDraining (c := { c with adapter := a, closePending := announced })
      ⟨hpatient.idle, hpatient.drain⟩ hlast hopen reason
  | finished hdraining =>
    rw [finish_eq (ne_closed_of_draining hdraining)]
    exact ahead_of_empty rfl
  | failed reason hhandshaking =>
    rw [finishWith_eq (ne_closed_of_open (open_of_handshaking hhandshaking))]
    exact ahead_of_empty rfl
  | exhausted hlive =>
    rw [finishWith_eq hlive]
    exact ahead_of_empty rfl

/-- Timers that are set now are set ahead, by induction on the moves. At the last instant
there is nothing ahead, which the condition excludes. -/
theorem Ahead.moves (h : c.Ahead now) (hpatient : c.Patient) (hlast : now < .last)
    (hmoves : c.Moves now ks c') : c'.Ahead now := by
  induction hmoves with
  | refl => exact h
  | tail hbefore hmove ih => exact ih.move (hpatient.moves hbefore) hlast hmove

/-- Silence leaves the timer for draining, or none. -/
theorem ahead_onIdleTimeout (hpatient : c.Patient) (hlast : now < .last)
    (hopen : c.state.isClosing = false) : (c.onIdleTimeout now).Ahead now := by
  by_cases hhandshaking : c.state.isHandshaking = true
  · rw [onIdleTimeout_of_handshaking hhandshaking, finishWith_eq (ne_closed_of_open hopen)]
    exact ahead_of_empty rfl
  · rw [onIdleTimeout_of_active (active_of_open hopen hhandshaking)]
    exact ahead_enterDraining hpatient hlast hopen silence

theorem not_isDue {d : Deadlines} {timer : Timer} (h : ¬ d.isDue now timer = true) {t : Instant}
    (ht : d.get timer = some t) : now < t := by
  rw [Deadlines.isDue, ht, Option.any_some, decide_eq_true_eq] at h
  exact Nat.lt_of_not_le h

theorem ahead_of_not_due (hfit : c.TimersFit) (hopen : c.state.isClosing = false)
    (hidle : ¬ c.timers.isDue now .idle = true) : c.Ahead now := by
  refine ⟨fun t ht => ?_, fun t ht => not_isDue hidle ht⟩
  rw [hfit.drain_eq_none hopen] at ht
  cases ht

end

/-! ## What is kept

Regular connections are what every session keeps, whatever the host and the engine do. -/

/-- A connection whose timers fit its state, and which waits for times that are not
empty. -/
structure Regular (c : Connection ε σ) : Prop where
  fits : c.TimersFit
  patient : c.Patient

theorem regular_new (side : Side) {settings : ConnectionSettings} (hvalid : settings.Valid)
    (scid dcid : ConnectionId) (engine : ε) (created : Instant) :
    (Connection.new side settings scid dcid engine created : Connection ε σ).Regular := by
  refine ⟨?_, patient_new side hvalid scid dcid engine created⟩
  rw [Connection.new, touch_eq rfl]
  exact ⟨fun hdrain => absurd rfl hdrain, fun hclosing => absurd hclosing Bool.false_ne_true⟩

/-- Handlers do not matter for this. -/
theorem Regular.modifyDispatcher {c : Connection ε σ} (h : c.Regular)
    (f : EventDispatcher σ → EventDispatcher σ) : (c.modifyDispatcher f).Regular :=
  ⟨⟨h.fits.drain, h.fits.closing⟩, ⟨h.patient.idle, h.patient.drain⟩⟩

/-- Whatever is done to a connection, it stays regular. -/
theorem Regular.perform [PacketEngine ε] {m : Moment ε σ} (h : m.connection.Regular)
    (a : Action ε σ) : (m.perform a).2.connection.Regular :=
  ⟨(h.fits.perform a).1, h.patient.perform h.fits a⟩

/-! ## Waiting

To wait is to have no timer that is due. It follows from what the own timers and the
engine say each for itself. -/

section

variable [PacketEngine ε] {c c' : Connection ε σ} {now : Instant}

/-- An engine that does not want to run yet. -/
def Sleeps (now : Instant) (e : ε) : Prop :=
  ∀ t, PacketEngine.expiry e = some t → now < t

/-- No timer is due. -/
def Waits (now : Instant) (c : Connection ε σ) : Prop :=
  ∀ timer t, c.currentTimers.get timer = some t → now < t

/-- To wait is to have a next deadline ahead, or none. -/
theorem waits_iff : c.Waits now ↔ ∀ t, c.nextDeadline = some t → now < t := by
  rw [Waits, Deadlines.forall_lt_iff, nextDeadline]
  constructor
  · rintro h t ht
    obtain ⟨e, he, rfl⟩ := Option.map_eq_some_iff.1 ht
    exact h e he
  · exact fun h e he => h e.2 (by rw [he]; rfl)

/-- While no timer is due, there is time to wait. -/
theorem Waits.nextTimeout_pos (h : c.Waits now) {d : Duration} (hd : c.nextTimeout now = some d) :
    0 < d.nanos := by
  obtain ⟨e, he, rfl⟩ := Option.map_eq_some_iff.1 hd
  have hlt := Deadlines.forall_lt_iff.1 h e he
  exact Nat.sub_pos_of_lt hlt

/-- A connection waits when its own timers and its engine do. -/
theorem waits_of_ahead (hfit : c.TimersFit) (hahead : c.Ahead now)
    (hengine : c.state.isClosing = false → Sleeps now c.adapter.engine) : c.Waits now := by
  intro timer t ht
  rw [currentTimers] at ht
  split at ht
  · next hclosing =>
    cases timer with
    | drain => exact hahead.drain t ht
    | idle => exact hahead.idle t ht
    | engine => cases (hfit.closing hclosing).2.symm.trans ht
  · next hopen =>
    cases timer with
    | drain => exact hahead.drain t ht
    | idle => exact hahead.idle t ht
    | engine => exact hengine (Bool.eq_false_iff.2 hopen) t ht

/-- A connection that is over waits for nothing. -/
theorem waits_of_closed (hfit : c.TimersFit) (hclosed : c.state = .closed) : c.Waits now := by
  have hclosing := isClosing_iff.2 (.inr hclosed)
  refine waits_of_ahead hfit ⟨fun t ht => ?_, fun t ht => ?_⟩
    fun h => absurd hclosing (Bool.eq_false_iff.1 h)
  · have hdraining := hfit.drain (ht ▸ Option.some_ne_none t)
    cases hclosed.symm.trans hdraining
  · cases (hfit.closing hclosing).1.symm.trans ht

/-- The connection is as it was, except that events may have been delivered. -/
structure Unmoved (c c' : Connection ε σ) : Prop where
  state : c'.state = c.state
  currentTimers : c'.currentTimers = c.currentTimers
  adapter : c'.adapter = c.adapter
  /-- events may have been taken from the streams -/
  streams : c'.streams = c.streams ∨ c'.streams = c.streams.takeEvents.2

/-- Timers that are not due change nothing. -/
theorem unmoved_onTimeout (h : c.Waits now) (w : σ) : c.Unmoved (c.onTimeout now w).1 := by
  by_cases hclosed : c.state = .closed
  · rw [onTimeout, if_pos hclosed]
    exact ⟨rfl, rfl, rfl, .inl rfl⟩
  have hnone : c.currentTimers.expired now = [] := by
    rw [List.eq_nil_iff_forall_not_mem]
    intro timer hmem
    obtain ⟨t, hget, hle⟩ := Deadlines.mem_expired_iff.1 hmem
    exact absurd hle (Nat.not_le_of_lt (h timer t hget))
  have hsame : c.timedOut now = { c with timers := c.currentTimers } := by
    rw [timedOut, hnone]
    rfl
  have hcurrent : currentTimers { c with timers := c.currentTimers } = c.currentTimers := by
    simp only [currentTimers]
    split <;> rfl
  rw [onTimeout_eq hclosed, hsame]
  exact ⟨rfl, hcurrent, rfl, .inr rfl⟩

/-! ## The engine's timer

An engine that was run sleeps, and nothing that a connection says to it wakes it. -/

variable (ε) in
/-- Engines that run when they are due: once one has run, its deadline is cleared or
lies ahead, and it takes more than being told things to change this. -/
class Timely : Prop where
  sleeps_handleExpiry (e : ε) (now : Instant) : Sleeps now (PacketEngine.handleExpiry e now).2
  sleeps_told {e e' : ε} {now : Instant} : Told e e' → Sleeps now e → Sleeps now e'

instance : Timely ScriptedEngine where
  sleeps_handleExpiry e now := by
    have hcleared : (PacketEngine.handleExpiry e now).2.expiry = none := by
      change (ScriptedEngine.handleExpiry e).2.expiry = none
      rw [ScriptedEngine.handleExpiry]
      rcases e.timeoutReactions.head? with _ | _ | _ <;> rfl
    intro t ht
    cases hcleared.symm.trans ht
  sleeps_told := fun {e _ _} htold hsleeps => by
    cases htold with
    | closed errorCode reason =>
      intro t ht
      refine hsleeps t ?_
      change (ScriptedEngine.close e errorCode reason).expiry = some t at ht
      rw [ScriptedEngine.close] at ht
      split at ht <;> exact ht
    | _ => exact hsleeps

/-- Answers that are made up change nothing about the deadline. -/
instance [Timely ε] : Timely (ForcedEngine ε) where
  sleeps_handleExpiry e now := Timely.sleeps_handleExpiry e.inner now
  sleeps_told := fun {e _ _} htold hsleeps => by
    cases htold with
    | drained => exact Timely.sleeps_told (e := e.inner) .drained hsleeps
    | extended n => exact Timely.sleeps_told (e := e.inner) (.extended n) hsleeps
    | shut id errorCode => exact Timely.sleeps_told (e := e.inner) (.shut id errorCode) hsleeps
    | closed errorCode reason =>
      exact Timely.sleeps_told (e := e.inner) (.closed errorCode reason) hsleeps

/-- What a connection says to its engine does not wake it. -/
theorem Attends.sleeps [Timely ε] (h : c.Attends c') (hsleeps : Sleeps now c.adapter.engine) :
    Sleeps now c'.adapter.engine := by
  have hengine := h.engine
  generalize c'.adapter.engine = e at hengine ⊢
  induction hengine with
  | refl => exact hsleeps
  | tail _ htold ih => exact Timely.sleeps_told htold ih

/-- An engine whose timers were run sleeps. -/
theorem sleeps_runEngineTimer [Timely ε] (c : Connection ε σ) (now : Instant) :
    Sleeps now (c.runEngineTimer now).adapter.engine := by
  have hhandled : Sleeps now (c.adapter.handleExpiry now).2.engine := by
    have hsleeps := Timely.sleeps_handleExpiry c.adapter.engine now
    rw [EngineAdapter.handleExpiry]
    rcases hresult : PacketEngine.handleExpiry c.adapter.engine now with ⟨e | _, engine⟩ <;>
      rw [hresult] at hsleeps
    · exact hsleeps
    · exact Timely.sleeps_told .drained hsleeps
  rw [runEngineTimer]
  rcases hresult : c.adapter.handleExpiry now with ⟨e | callbacks, a⟩ <;> rw [hresult] at hhandled
  · exact (attends_onTransportError { c with adapter := a } e now).sleeps hhandled
  · exact (attends_applyCallbacks { c with adapter := a } now callbacks).sleeps hhandled

/-! ## Running the timers

After a timeout the connection waits: one case for each state that it may be in before. -/

/-- A draining connection waits after a timeout, or is over. -/
theorem waits_timedOut_of_draining (h : c.Regular) (hdraining : c.state = .draining)
    (now : Instant) : (c.timedOut now).Waits now := by
  have hclosing := isClosing_iff.2 (.inl hdraining)
  rw [timedOut_of_draining h.fits hdraining]
  split
  · have hfinished : c.Move now [.finished] c.finish := .finished hdraining
    refine waits_of_closed (h.fits.move hfinished) ?_
    rw [finish_eq (ne_closed_of_draining hdraining)]
  · next hdrain =>
    refine waits_of_ahead h.fits ⟨fun t ht => not_isDue hdrain ht, fun t ht => ?_⟩
      fun hopen => absurd hclosing (Bool.eq_false_iff.1 hopen)
    cases (h.fits.closing hclosing).1.symm.trans ht

/-- Silence, or the engine, or neither is due, and either of the two leaves nothing that
is due. -/
theorem waits_timedOut_of_open [Timely ε] (h : c.Regular) (hlast : now < .last)
    (hopen : c.state.isClosing = false) : (c.timedOut now).Waits now := by
  rw [timedOut_of_open h.fits hopen]
  split
  · obtain ⟨hclosing, -⟩ := onIdleTimeout_closing hopen now
    exact waits_of_ahead (h.fits.move (move_onIdleTimeout hopen now))
      (ahead_onIdleTimeout h.patient hlast hopen)
      fun hstill => absurd hclosing (Bool.eq_false_iff.1 hstill)
  next hidle =>
  have hahead := ahead_of_not_due h.fits hopen hidle
  split
  · -- the engine runs, and whatever follows from that is done at once
    have hcleared := c.rests_cleared hopen
    obtain ⟨ks, hran, -⟩ := moves_runEngineTimer (hcleared.isClosing.trans hopen) now
    have hahead' := hahead.move h.patient hlast (.rests hcleared)
    exact waits_of_ahead ((h.fits.rests hcleared).moves hran)
      (hahead'.moves (h.patient.rests hcleared) hlast hran) fun _ => sleeps_runEngineTimer _ now
  · next hengine =>
    have hrests := c.rests_currentTimers
    refine waits_of_ahead (h.fits.rests hrests) (hahead.move h.patient hlast (.rests hrests))
      fun _ t ht => not_isDue hengine ?_
    rw [currentTimers, if_neg (Bool.eq_false_iff.1 hopen)]
    exact ht

/-- After its timers have run, a connection waits, however many of them were due. -/
theorem waits_onTimeout [Timely ε] (h : c.Regular) (hlast : now < .last) (w : σ) :
    (c.onTimeout now w).1.Waits now := by
  by_cases hclosed : c.state = .closed
  · rw [onTimeout, if_pos hclosed]
    exact waits_of_closed h.fits hclosed
  rw [onTimeout_eq hclosed]
  -- delivering events changes no timer
  change (c.timedOut now).Waits now
  cases hopen : c.state.isClosing with
  | true =>
    exact waits_timedOut_of_draining h ((isClosing_iff.1 hopen).resolve_right hclosed) now
  | false => exact waits_timedOut_of_open h hlast hopen

end

end Connection

end QuicHost
