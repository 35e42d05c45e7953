import QuicHost.Proofs.Connection.Closing
import QuicHost.Proofs.Dispatcher.Sealing
import QuicHost.Proofs.Stream.Acknowledging

/-!
# The books of a connection

The books are kept from outside, over any engine: what writes answered, which streams the
application reset, and which of the callbacks that were acted on acknowledged bytes or
gave up a stream (`Entry.postings`). The streams reckon along with the books, action by
action (`reckons_perform`), until the connection is closing; from then on nothing is
posted any more.

One clause of agreement asks that sums fit: an acknowledgement that takes what was
acknowledged past a word leaves the books and the streams apart. It stands in the
reckoning itself (`StreamSet.Reckons`), so that no lemma on the way has to mention it.
-/

namespace QuicHost

open StreamSet

/-- What a callback is posted as, given the streams that it meets. A peer that wants no
more of a stream gives it up only if our half was abandoned for it. -/
def Callback.postings (s : StreamSet) : Callback → List Posting
  | .stopSending id errorCode =>
    match (s.onStopSending id errorCode).1 with
    | .ok true => [.abandoned id]
    | _ => []
  | .streamAcked id n => [.acked id n]
  | _ => []

theorem StreamSet.Operation.isIdle_of_isUpkeep {op : Operation} (h : op.isUpkeep = true) :
    op.isIdle = true := by
  cases op <;> first | rfl | cases h

theorem StreamSet.Reckons.upkeep {s s' : StreamSet} {ps : List Posting} (hr : s.Reckons ps)
    (h : Connection.Upkeep s s') : s'.Reckons ps :=
  hr.works h fun _ hop => ⟨Operation.fits_of_isUpkeep hop, Operation.isIdle_of_isUpkeep hop⟩

namespace Connection

variable {ε σ : Type}

section

variable {c c' : Connection ε σ} {now : Instant}

/-! ## The last event

A connection that is over has one event to tell. What it says of missing bytes was asked
when everything stopped, and is asked again here, of streams that are as they were. -/

/-- A connection that has only its last event to tell, which says whether bytes are
missing. -/
structure Concluded (c : Connection ε σ) : Prop where
  events : c.streams.events = []
  mailbox : c.dispatcher.mailbox = []
  /-- the last event, with the flag that the streams give -/
  queue : ∃ reason, c.dispatcher.queue = [.connectionClosed reason c.streams.writesIncomplete]

/-- A connection that fails has only its end to tell. -/
theorem Coherent.concluded_finishWith (h : c.Coherent) (hlive : c.state ≠ .closed)
    (reason : CloseReason) : (c.finishWith reason).Concluded := by
  have hsealed : c.dispatcher.sealed = false := by
    rw [← Bool.not_eq_true, h.sealed]
    exact hlive
  rw [finishWith_eq hlive, EventDispatcher.sealWith_of_not_sealed hsealed]
  exact ⟨rfl, rfl, reason, rfl⟩

/-- A connection that has drained has only its end to tell. -/
theorem Coherent.concluded_finish (h : c.Coherent) (hdraining : c.state = .draining) :
    c.finish.Concluded := by
  obtain ⟨reason, hreason⟩ := Option.isSome_iff_exists.1 (h.reasoned.2 (.inl hdraining))
  have hsame : c.finish = c.finishWith reason := by
    rw [Connection.finishWith, ← hreason]
  rw [hsame]
  exact h.concluded_finishWith (ne_closed_of_draining hdraining) reason

/-- The last event is told, and it tells whether bytes are missing. -/
theorem Concluded.flush (h : c.Concluded) (w : σ) {note : σ → List Event}
    (hnoted : c.dispatcher.NotedBy note) :
    ∃ heard, note (c.flush w).2 = note w ++ heard ∧
      (∃ reason lost, .connectionClosed reason lost ∈ heard ∨
        .connectionClosed reason lost ∈ (c.flush w).1.2.pending) ∧
      ∀ reason lost, .connectionClosed reason lost ∈ heard ∨
          .connectionClosed reason lost ∈ (c.flush w).1.2.pending →
        lost = (c.flush w).1.2.streams.writesIncomplete := by
  obtain ⟨reason, hqueue⟩ := h.queue
  have hpump : c.pump.dispatcher = c.dispatcher := by
    rw [pump, StreamSet.takeEvents, h.events]
    rfl
  have htells : c.Tells w .none ⟨(c.flush w).1.2, (c.flush w).2⟩ := c.tells_flush w rfl
  obtain ⟨heard, heq, hheard⟩ := htells.noted hnoted
  refine ⟨heard, heq, ⟨reason, c.streams.writesIncomplete, ?_⟩, fun reason' lost htold => ?_⟩
  · obtain ⟨heard', heq', harrived⟩ := c.dispatcher.heard_of_dispatch hnoted w
    have hflush : (c.flush w).2 = (c.dispatcher.dispatch w).2 ∧
        (c.flush w).1.2.dispatcher = (c.dispatcher.dispatch w).1.2 := by
      rw [← hpump]
      exact ⟨rfl, rfl⟩
    rw [hflush.1, heq'] at heq
    obtain rfl := List.append_cancel_left heq
    refine (harrived _ (hqueue ▸ List.mem_singleton_self _)).imp_right fun hmem => ?_
    rw [← hflush.2] at hmem
    exact List.mem_append_right _ (List.mem_append_right _ hmem)
  -- what is told now was waiting before, and there is one report of the end to wait
  · have hpending : .connectionClosed reason' lost ∈ c.pending := by
      rcases htold with hmem | hmem
      · exact (hheard _ hmem).resolve_right (Option.some_ne_none reason')
      · exact (htells.rests.pending _ hmem).resolve_right (Option.some_ne_none reason')
    rw [pending, h.events, hqueue, h.mailbox] at hpending
    cases List.mem_singleton.1 hpending
    rfl

/-- What is over tells nothing new about the end. -/
theorem Moves.pending_of_closed {ks : List Cause} (h : c.Moves now ks c')
    (hclosed : c.state = .closed) :
    ∀ event ∈ c'.pending, event ∈ c.pending ∨ event.reason? = none := by
  have hclosing {c₁ : Connection ε σ} (hclosed : c₁.state = .closed) :
      ¬ c₁.state.isClosing = false :=
    fun hopen => ne_closed_of_open hopen hclosed
  refine (Moves.keeps (P := fun c₁ => c₁.state = .closed ∧
    ∀ event ∈ c₁.pending, event ∈ c.pending ∨ event.reason? = none) (fun hover hmove => ?_)
    ⟨hclosed, fun _ hevent => .inl hevent⟩ h).2
  obtain ⟨hclosed, hpending⟩ := hover
  cases hmove with
  | rests hrests =>
    refine ⟨(hrests.state_eq_iff rfl).2 hclosed, fun event hevent => ?_⟩
    exact (hrests.pending event hevent).elim (hpending event) .inr
  | heard hopen => exact absurd hopen (hclosing hclosed)
  | completed _ hopen _ => exact absurd hopen (hclosing hclosed)
  | drained _ _ _ hopen => exact absurd hopen (hclosing hclosed)
  | finished hdraining => exact absurd hclosed (ne_closed_of_draining hdraining)
  | failed _ hhandshaking => exact absurd (open_of_handshaking hhandshaking) (hclosing hclosed)
  | exhausted hlive => exact absurd hclosed hlive

/-! ## The beginning

Nothing has happened to a new connection. -/

/-- Any datagram that is accepted breaks the silence. -/
theorem Coherent.begin (h : c.Coherent) (hopen : c.state.isClosing = false) (a : EngineAdapter ε)
    (now : Instant) :
    let begun : Connection ε σ := { c with
      adapter := a
      state := if c.state = .initiating then .handshaking else c.state }
    (begun.touch now).Coherent ∧ (begun.touch now).state.isClosing = false := by
  intro begun
  have hstays : begun.state.isClosing = false := (c.rests_begun a).isClosing.trans hopen
  refine ⟨(h.rests (c.rests_begun a)).touch hstays now, ?_⟩
  rw [touch_eq hstays]
  exact hstays

theorem Session.reckons_begin (side : Side) (settings : ConnectionSettings)
    (scid dcid : ConnectionId) (engine : ε) (now : Instant) (w : σ) :
    (begin side settings scid dcid engine now w).connection.streams.Reckons [] := by
  rw [streams_begin]
  exact reckons_new side settings.localParameters

end

section

variable [PacketEngine ε]

/-! ## The books

What is posted for every action: by the application itself, or by what the engine
reported. A callback is posted when it is acted on, not when it is reported. -/

/-- What callbacks are posted as, each as it is acted on. -/
def postings (c : Connection ε σ) (now : Instant) : List Callback → List Posting
  | [] => []
  | callback :: rest =>
    if c.state.isClosing then []
    else callback.postings c.streams ++ (c.heed now callback).pump.postings now rest

/-- The connection that has handed a datagram to the engine, and the callbacks that it
is to act on. -/
def consult (c : Connection ε σ) (datagram : Bytes) (now : Instant) :
    Connection ε σ × List Callback :=
  match c.adapter.ingest datagram now with
  | (.ok callbacks, adapter) =>
    let state := if c.state = .initiating then .handshaking else c.state
    ({ c with adapter := adapter, state := state }.touch now, callbacks)
  | (.error _, adapter) =>
    let (callbacks, adapter) := adapter.drainCallbacks
    ({ c with adapter := adapter }, callbacks)

/-- The connection that has run the engine's timers, and the callbacks that it is to act
on. -/
def consultOnExpiry (c : Connection ε σ) (now : Instant) : Connection ε σ × List Callback :=
  match c.adapter.handleExpiry now with
  | (.ok callbacks, adapter) => ({ c with adapter := adapter }, callbacks)
  | (.error _, adapter) => ({ c with adapter := adapter }, [])

/-- The connection that is to act on callbacks in the course of an action, and these
callbacks. -/
def Action.report (c : Connection ε σ) : Action ε σ → Connection ε σ × List Callback
  | ingest datagram now =>
    if c.state.isClosing then (c, []) else (c.counted datagram).consult datagram now
  | onTimeout now =>
    if c.state.isClosing || c.timers.isDue now .idle || !c.currentTimers.isDue now .engine then
      (c, [])
    else { c with timers := c.currentTimers.clear .engine }.consultOnExpiry now
  | _ => (c, [])

/-- What an action is posted as: an accepted write, a stream that was reset, or what the
connection heard from the engine. -/
def Entry.postings (e : Entry ε σ) : List Posting :=
  match e.action, e.answer with
  | .write id _ _, .written (.ok n) => [.accepted id n]
  | .resetStream id _, .done (.ok ()) => [.abandoned id]
  | a, _ => (a.report e.before.connection).1.postings a.now (a.report e.before.connection).2

/-- What was posted in the course of a session. -/
def Session.postings (s : Session ε σ) : List Posting := s.history.flatMap (·.postings)

/-- Whether bytes that were accepted on a stream opened so far are missing, and the
stream was never reset. -/
def Session.Loses (s : Session ε σ) : Prop :=
  ∃ id, s.connection.streams.Used id ∧ (Tally.of id s.postings).IsShort

/-- Whether all acknowledgements of a session fit a word, each on top of those before it
on its stream. -/
def Session.SumsFit (s : Session ε σ) : Prop := Posting.AllFit s.postings

instance (s : Session ε σ) : Decidable s.SumsFit :=
  inferInstanceAs (Decidable (Posting.AllFit s.postings))

/-- Whether an event was handed to a handler, answered, or is left for later. -/
def Entry.Tells (e : Entry ε σ) (heard : List Event) (event : Event) : Prop :=
  event ∈ heard ∨ e.answer.event? = some event ∨ event ∈ e.after.connection.pending

/-- An action that ends the connection tells its last event; and whenever a last event is
told, the connection is over, and the event says whether bytes are missing as far as the
session has come, if all acknowledgements fit. -/
def Entry.Discloses (note : σ → List Event) (e : Entry ε σ) (s : Session ε σ) : Prop :=
  ∃ heard, note e.after.world = note e.before.world ++ heard ∧
    (e.before.connection.state ≠ .closed → e.after.connection.state = .closed →
      ∃ reason lost, e.Tells heard (.connectionClosed reason lost)) ∧
    ∀ reason lost, e.Tells heard (.connectionClosed reason lost) →
      s.connection.state = .closed ∧ (s.SumsFit → (lost = true ↔ s.Loses))

/-! ## The streams reckon along

Each operation is posted in the same way as the streams count it. -/

variable {c c' : Connection ε σ} {m : Moment ε σ} {ps : List Posting} {now : Instant}
  {callbacks : List Callback}

/-- A callback that is acted on is posted as it says. The streams in motion are the ones
that count, so nothing may have stopped. -/
theorem reckons_heed (hr : c.streams.Reckons ps) (hfrozen : c.streams.frozen = false)
    {callback : Callback} (hfits : callback.Fits) :
    (c.heed now callback).pump.streams.Reckons (ps ++ callback.postings c.streams) := by
  -- most callbacks ask for idle operations
  have hidle (hidle : ∀ op, callback.operation? = some op → op.isIdle = true)
      (hnone : callback.postings c.streams = []) :
      (c.heed now callback).pump.streams.Reckons (ps ++ callback.postings c.streams) := by
    rw [hnone, List.append_nil]
    refine hr.works (c.works_heed now callback) fun op hop => ?_
    rcases hop with hupkeep | ⟨callback', hmem, hop⟩
    · exact ⟨Operation.fits_of_isUpkeep hupkeep, Operation.isIdle_of_isUpkeep hupkeep⟩
    · obtain rfl := List.mem_singleton.1 hmem
      exact ⟨hfits.operation hop, hidle op hop⟩
  cases callback with
  | stopSending id errorCode =>
    have hstopped := hr.onStopSending hfits errorCode
    refine Reckons.upkeep ?_ (upkeep_pump _)
    rw [heed, applyCallback, Callback.postings]
    rcases heq : c.streams.onStopSending id errorCode with ⟨e | _ | _, s⟩
    · rw [heq] at hstopped
      exact Reckons.upkeep hstopped (upkeep_onTransportError { c with streams := s } e now)
    · rwa [heq] at hstopped
    · rwa [heq] at hstopped
  | streamAcked id n =>
    exact Reckons.upkeep (hr.onStreamAcked hfrozen id n)
      (upkeep_pump (c.heed now (.streamAcked id n)))
  | _ => exact hidle (fun op hop => by cases hop <;> rfl) rfl

theorem Coherent.heed (h : c.Coherent) (hopen : c.state.isClosing = false) (now : Instant)
    (callback : Callback) : (c.heed now callback).pump.Coherent := by
  obtain ⟨ks, hmoves, -⟩ := moves_applyCallbacks c now [callback]
  rw [applyCallbacks, if_neg (Bool.eq_false_iff.1 hopen)] at hmoves
  exact h.moves hmoves

/-- Callbacks are posted each as it is acted on, by induction on their list. -/
theorem reckons_applyCallbacks (h : c.Coherent) (hr : c.streams.Reckons ps)
    (hfits : ∀ callback ∈ c.heeded now callbacks, callback.Fits) :
    (c.applyCallbacks now callbacks).streams.Reckons (ps ++ c.postings now callbacks) := by
  induction callbacks generalizing c ps with
  | nil =>
    rw [applyCallbacks, postings, List.append_nil]
    exact hr
  | cons callback rest ih =>
    rw [heeded] at hfits
    rw [applyCallbacks, postings]
    cases hopen : c.state.isClosing with
    | true =>
      rw [if_pos rfl, if_pos rfl, List.append_nil]
      exact hr
    | false =>
      rw [hopen, if_neg Bool.false_ne_true, List.forall_mem_cons] at hfits
      rw [if_neg Bool.false_ne_true, if_neg Bool.false_ne_true, ← List.append_assoc]
      have hfirst : (c.heed now callback).pump.streams.Reckons
          (ps ++ callback.postings c.streams) :=
        reckons_heed hr (h.unclosed hopen).frozen hfits.1
      exact ih (h.heed hopen now callback) hfirst hfits.2

/-- What a datagram brings is posted. -/
theorem reckons_process (h : c.Coherent) (hopen : c.state.isClosing = false)
    (hr : c.streams.Reckons ps) {datagram : Bytes}
    (hfits : ∀ callback ∈ c.heededOf datagram now, callback.Fits) :
    (c.process datagram now).streams.Reckons
      (ps ++ (c.consult datagram now).1.postings now (c.consult datagram now).2) := by
  rw [heededOf] at hfits
  rw [process, consult]
  generalize c.adapter.ingest datagram now = answer at hfits ⊢
  obtain ⟨e | callbacks, a⟩ := answer
  · have happlied := reckons_applyCallbacks (h.rests (c.rests_adapter a.drainCallbacks.2)) hr hfits
    exact happlied.upkeep (upkeep_onTransportError _ e now)
  · refine reckons_applyCallbacks (h.begin hopen a now).1 ?_ hfits
    rw [streams_touch]
    exact hr

/-- What the engine's timer brings is posted. -/
theorem reckons_runEngineTimer (h : c.Coherent) (hr : c.streams.Reckons ps)
    (hfits : ∀ callback ∈ c.heededOnExpiry now, callback.Fits) :
    (c.runEngineTimer now).streams.Reckons
      (ps ++ (c.consultOnExpiry now).1.postings now (c.consultOnExpiry now).2) := by
  rw [heededOnExpiry] at hfits
  rw [runEngineTimer, consultOnExpiry]
  generalize c.adapter.handleExpiry now = answer at hfits ⊢
  obtain ⟨e | callbacks, a⟩ := answer
  · rw [postings, List.append_nil]
    exact Reckons.upkeep hr (upkeep_onTransportError { c with adapter := a } e now)
  · exact reckons_applyCallbacks (h.rests (c.rests_adapter a)) hr hfits

/-- Of the timers only the engine's brings anything to post. -/
theorem reckons_timedOut (h : c.Coherent) (hfit : c.TimersFit) (hopen : c.state.isClosing = false)
    (hr : c.streams.Reckons ps)
    (hfits : ∀ callback ∈ (Action.onTimeout now).heeded c, callback.Fits) :
    (c.timedOut now).streams.Reckons (ps ++ ((Action.onTimeout now).report c).1.postings now
      ((Action.onTimeout now).report c).2) := by
  rw [Action.heeded, hopen, Bool.false_or] at hfits
  rw [Action.report, hopen, Bool.false_or, timedOut_of_open hfit hopen]
  cases hidle : c.timers.isDue now .idle with
  | true =>
    rw [if_pos rfl, Bool.true_or, if_pos rfl, postings, List.append_nil]
    exact hr.upkeep (c.upkeep_onIdleTimeout now)
  | false =>
    rw [hidle, Bool.false_or] at hfits
    rw [if_neg Bool.false_ne_true, Bool.false_or]
    cases hengine : c.currentTimers.isDue now .engine with
    | true =>
      rw [hengine, Bool.not_true, if_neg Bool.false_ne_true] at hfits
      rw [if_pos rfl, Bool.not_true, if_neg Bool.false_ne_true]
      exact reckons_runEngineTimer (h.rests (c.rests_cleared hopen)) hr hfits
    | false =>
      rw [if_neg Bool.false_ne_true, Bool.not_false, if_pos rfl, postings, List.append_nil]
      exact hr

/-! ## Actions

One case for each action on an open connection. A closing one posts nothing, for its
streams hear nothing. -/

/-- A closing connection posts nothing. -/
theorem postings_of_closing (hclosing : m.connection.state.isClosing = true) (a : Action ε σ) :
    Entry.postings ⟨m, a⟩ = [] := by
  cases a with
  | write id data fin =>
    rw [Entry.postings, Entry.answer, Moment.perform, write, if_pos hclosing]
    rfl
  | resetStream id errorCode =>
    rw [Entry.postings, Entry.answer, Moment.perform, resetStream, if_pos hclosing]
    rfl
  | ingest datagram now =>
    have hnone : (Action.ingest datagram now).report m.connection = (m.connection, []) :=
      if_pos hclosing
    rw [Entry.postings]
    dsimp only
    rw [hnone]
    rfl
  | onTimeout now =>
    have hnone : (Action.onTimeout now).report m.connection = (m.connection, []) := by
      rw [Action.report, hclosing]
      rfl
    rw [Entry.postings]
    dsimp only
    rw [hnone]
    rfl
  | _ => rfl

/-- An action that asks for idle operations only. -/
theorem reckons_of_idle (hfit : m.connection.TimersFit) (hr : m.connection.streams.Reckons ps)
    {a : Action ε σ} (hfits : Entry.Fits ⟨m, a⟩) (hposted : Entry.postings ⟨m, a⟩ = [])
    (hidle : ∀ op, a.Asks m.connection op → op.isIdle = true) :
    (m.perform a).2.connection.streams.Reckons (ps ++ Entry.postings ⟨m, a⟩) := by
  rw [hposted, List.append_nil]
  exact hr.works (works_perform m hfit a) fun op hop => ⟨fits_of_asks hfits hop, hidle op hop⟩

/-- An action on an open connection is posted. One case for each action; those without a
stream in them post nothing. -/
theorem reckons_perform_of_open (h : m.connection.Coherent) (hfit : m.connection.TimersFit)
    (hopen : m.connection.state.isClosing = false) (hr : m.connection.streams.Reckons ps)
    {a : Action ε σ} (hfits : Entry.Fits ⟨m, a⟩) :
    (m.perform a).2.connection.streams.Reckons (ps ++ Entry.postings ⟨m, a⟩) := by
  have hrunning := Bool.eq_false_iff.1 hopen
  have hlive := ne_closed_of_open hopen
  have hflush (c : Connection ε σ) {ps : List Posting} (hr : c.streams.Reckons ps) :
      (c.flush m.world).1.2.streams.Reckons ps :=
    hr.upkeep (c.upkeep_flush m.world)
  -- four actions are booked: writes, resets, and what the engine reports through a datagram
  -- or its timer
  cases a with
  | write id data fin =>
    have hwritten := hr.write id data fin
    rw [Entry.postings, Entry.answer, Moment.perform, write, if_neg hrunning]
    generalize m.connection.streams.write id data fin = answer at hwritten ⊢
    obtain ⟨e | out, s⟩ := answer
    · exact hwritten
    · dsimp only at hwritten ⊢
      split
      · exact hwritten
      · exact hwritten
  | resetStream id errorCode =>
    have hreset := hr.resetStream id
    rw [Entry.postings, Entry.answer, Moment.perform, resetStream, if_neg hrunning]
    generalize m.connection.streams.resetStream id = answer at hreset ⊢
    obtain ⟨e | _, s⟩ := answer
    · exact hreset
    · exact hflush _ hreset
  | ingest datagram now =>
    have hdraining : m.connection.state ≠ .draining := fun heq =>
      hrunning (isClosing_iff.2 (.inl heq))
    have hcounted : (m.connection.counted datagram).Coherent := h.rests (m.connection.rests_stats _)
    rw [Entry.Fits, Entry.heeded, Action.heeded, if_neg hrunning] at hfits
    rw [Entry.postings, Moment.perform, ingest, if_neg hlive]
    dsimp only
    rw [if_neg hdraining, Action.report, if_neg hrunning]
    exact hflush _ (reckons_process hcounted hopen hr hfits)
  | onTimeout now =>
    rw [Entry.postings, Moment.perform, onTimeout_eq hlive]
    exact hflush _ (reckons_timedOut h hfit hopen hr hfits)
  | _ =>
    refine reckons_of_idle hfit hr hfits rfl fun op hop => ?_
    cases hop with
    | upkeep hop => exact Operation.isIdle_of_isUpkeep hop
    | heeded hmem _ => cases hmem
    | _ => rfl

/-- After an action, the streams have counted what it is posted as. -/
theorem reckons_perform (h : m.connection.Coherent) (hfit : m.connection.TimersFit)
    (hr : m.connection.streams.Reckons ps) {a : Action ε σ} (hfits : Entry.Fits ⟨m, a⟩) :
    (m.perform a).2.connection.streams.Reckons (ps ++ Entry.postings ⟨m, a⟩) := by
  cases hclosing : m.connection.state.isClosing with
  | false => exact reckons_perform_of_open h hfit hclosing hr hfits
  | true =>
    -- what is left is reading and upkeep
    refine reckons_of_idle hfit hr hfits (postings_of_closing hclosing a) fun op hop => ?_
    cases hop with
    | upkeep hop => exact Operation.isIdle_of_isUpkeep hop
    | heeded hmem _ =>
      rw [heeded_of_closing hclosing] at hmem
      cases hmem
    | write _ _ _ hopen => exact absurd hclosing (Bool.eq_false_iff.1 hopen)
    | resetStream _ _ hopen => exact absurd hclosing (Bool.eq_false_iff.1 hopen)
    | _ => rfl

end

end Connection

end QuicHost
