import QuicHost.Connection.Figures
import QuicHost.Proofs.Connection.Closing
import QuicHost.Proofs.Connection.Granting
import QuicHost.Proofs.Stream.Fitting

/-!
# Connections and the range of a word

Everything that a connection makes its streams work out is worked out for an operation
that the action asks for, on the way that the streams take (`figured_perform`). As long
as the connection has room for one more window of a stream, and the engine reports no
acknowledgement that would leave the range of a word on top of all that was sent, a
machine works out the same, and forgets no acknowledgement (`exact_with_room`).

Nothing sees to either. Settings are valid with any window, and the engine may report
any number, so that each of the three sums in question can leave the range of a word.
What was acknowledged is forgotten then (`sums_too_large`).
-/

namespace QuicHost

namespace Callback

/-- Whether the limits for sending that a callback announces fit a word. -/
def LimitsFit : Callback → Prop
  | handshakeCompleted peer => peer.LimitsFit
  | maxStreamData _ limit => limit ≤ maxWord
  | maxData limit => limit ≤ maxWord
  | _ => True

instance : DecidablePred LimitsFit
  | handshakeCompleted peer => inferInstanceAs (Decidable peer.LimitsFit)
  | maxStreamData _ limit => Nat.decLe limit maxWord
  | maxData limit => Nat.decLe limit maxWord
  | streamData .. | streamReset .. | stopSending .. | maxStreams .. | streamAcked ..
  | connectionClose .. => .isTrue trivial

/-- The bytes that a callback says are acknowledged. -/
def acknowledged : Callback → Nat
  | streamAcked _ n => n
  | _ => 0

/-- The operation behind a callback announces the limits of the callback. -/
theorem LimitsFit.operation {callback : Callback} (h : callback.LimitsFit)
    {op : StreamSet.Operation} (hop : callback.operation? = some op) : op.LimitsFit := by
  cases callback <;> cases hop <;> exact h

end Callback

namespace StreamSet

/-- Upkeep announces no limits. -/
theorem Operation.limitsFit_of_isUpkeep {op : Operation} (h : op.isUpkeep = true) :
    op.LimitsFit := by
  cases op <;> first | exact trivial | cases h

/-- A figure of an operation of a kind, on the way from `s` to `s'`. -/
def Figured (kind : Operation → Prop) (s s' : StreamSet) (x : Int) : Prop :=
  ∃ t op, s.Works kind t ∧ kind op ∧ x ∈ op.figures t ∧ t.Works kind s'

namespace Figured

variable {kind kind' : Operation → Prop} {s t s' : StreamSet} {x : Int}

/-- A figure of an operation of one kind is one of a wider kind. -/
theorem mono (h : s.Figured kind s' x) (hkind : ∀ op, kind op → kind' op) :
    s.Figured kind' s' x := by
  obtain ⟨t, op, hbefore, hop, hx, hafter⟩ := h
  exact ⟨t, op, hbefore.mono hkind, hkind op hop, hx, hafter.mono hkind⟩

theorem before (hbefore : s.Works kind t) (h : t.Figured kind s' x) : s.Figured kind s' x := by
  obtain ⟨u, op, hu, hop, hx, hafter⟩ := h
  exact ⟨u, op, hbefore.trans hu, hop, hx, hafter⟩

theorem after (h : s.Figured kind t x) (hafter : t.Works kind s') : s.Figured kind s' x := by
  obtain ⟨u, op, hu, hop, hx, ht⟩ := h
  exact ⟨u, op, hu, hop, hx, ht.trans hafter⟩

/-- What is worked out on the way of measured streams fits a word, if there is still room
at its end, or the way leaves alone what streams offer. -/
theorem isWord (h : s.Figured kind s' x) (hs : s.Measured)
    (hkind : ∀ op, kind op → op.Fits ∧ op.LimitsFit)
    (hroom : (∀ op, kind op → op.spares = true) ∨ s'.HasRoom)
    (hacked : ∀ id n, kind (.streamAcked id n) → n + s'.sendWindow.consumed ≤ maxWord) :
    IsWord x := by
  obtain ⟨t, op, hbefore, hop, hx, hafter⟩ := h
  have ht : t.Measured := (hbefore.advances hkind hs).measured
  have hrest : t.Advances s' := hafter.advances hkind ht
  obtain ⟨hfits, hlimits⟩ := hkind op hop
  refine areWords_figures ht hfits hlimits (fun halters => ?_) (fun id n heq => ?_) x hx
  · rcases hroom with hspares | hroom
    · rw [hspares op hop] at halters
      cases halters
    · exact hrest.hasRoom hroom
  · subst heq
    exact Nat.le_trans (Nat.add_le_add_left hrest.sent n) (hacked id n hop)

end Figured

end StreamSet

namespace Connection

open StreamSet

variable {ε σ : Type} {x : Int}

/-! ## The end

When a connection is over its streams are asked for what is missing. The figures of this
are those of a freeze. -/

/-- When a connection is over it is asked for what is missing, once. -/
theorem mem_figures_of_finish {c : Connection ε σ} (hx : x ∈ c.finishFigures) :
    x ∈ Operation.freeze.figures c.streams := by
  rw [finishFigures] at hx
  split at hx
  · cases hx
  · exact hx

/-- A failure makes the streams work out something only when it ends the connection. -/
theorem mem_figures_of_error {c : Connection ε σ} {e : TransportError}
    (hx : x ∈ c.errorFigures e) : x ∈ Operation.freeze.figures c.streams := by
  cases e with
  | resourceExhausted => exact mem_figures_of_finish hx
  | handshakeFailure code =>
    rw [errorFigures] at hx
    split at hx
    · exact mem_figures_of_finish hx
    · cases hx
  | _ => cases hx

/-- What is asked at the end is asked of the streams that the end meets. -/
theorem figured_of_freeze {kind : Operation → Prop} (hkind : ∀ op, op.isUpkeep = true → kind op)
    {s s' : StreamSet} (hx : x ∈ Operation.freeze.figures s) (hafter : s.Works kind s') :
    s.Figured kind s' x :=
  ⟨s, .freeze, .refl, hkind _ rfl, hx, hafter⟩

/-! ## Callbacks

The figures of a callback are those of its operation, and of the failure that follows if
it is refused. Each is taken with the streams as they stand when the callback is met. -/

/-- What a callback makes the streams work out is worked out for the operation that it
asks for. -/
theorem mem_figures_of_callback {c : Connection ε σ} {callback : Callback}
    (hx : x ∈ c.callbackFigures callback) :
    ∃ op, callback.operation? = some op ∧ x ∈ op.figures c.streams := by
  cases callback with
  | handshakeCompleted peer =>
    rw [callbackFigures] at hx
    split at hx
    · cases hx
    · exact ⟨_, rfl, hx⟩
  | maxStreams d n => cases hx
  | connectionClose errorCode reason => cases hx
  | _ => exact ⟨_, rfl, hx⟩

theorem askedBy_of_isUpkeep (callbacks : List Callback) (op : Operation)
    (hop : op.isUpkeep = true) : AskedBy callbacks op :=
  .inl hop

section

variable [PacketEngine ε]

/-- The figures of a failure are those of the end, if it is one. -/
theorem figured_error {c : Connection ε σ} {e : TransportError} (callbacks : List Callback)
    (hx : x ∈ c.errorFigures e) (now : Instant) :
    c.streams.Figured (AskedBy callbacks) (c.onTransportError e now).streams x :=
  figured_of_freeze (askedBy_of_isUpkeep callbacks) (mem_figures_of_error hx)
    ((c.upkeep_onTransportError e now).askedBy callbacks)

/-- What acting on a callback makes the streams work out: the figures of the callback,
and those of the failure that it meets. -/
def heedFigures (c : Connection ε σ) (now : Instant) (callback : Callback) : List Int :=
  c.callbackFigures callback ++
    match c.applyCallback now callback with
    | (.ok (), _) => []
    | (.error e, c) => c.errorFigures e

/-- The figures of one callback, and those of the rest on what it leaves. -/
theorem callbacksFigures_cons {c : Connection ε σ} (hopen : ¬ c.state.isClosing = true)
    (now : Instant) (callback : Callback) (rest : List Callback) :
    c.callbacksFigures now (callback :: rest) =
      c.heedFigures now callback ++ (c.heed now callback).pump.callbacksFigures now rest := by
  rw [callbacksFigures, if_neg hopen, heedFigures, heed, List.append_assoc]
  rcases c.applyCallback now callback with ⟨e | _, c'⟩ <;> rfl

/-- The figures of acting on a callback are those of its operation. -/
theorem figured_heed (c : Connection ε σ) (now : Instant) (callback : Callback)
    (hx : x ∈ c.heedFigures now callback) :
    c.streams.Figured (AskedBy [callback]) (c.heed now callback).pump.streams x := by
  rcases List.mem_append.1 hx with hx | hx
  · obtain ⟨op, hop, hx⟩ := mem_figures_of_callback hx
    exact ⟨c.streams, op, .refl, .inr ⟨callback, List.mem_singleton_self _, hop⟩, hx,
      c.works_heed now callback⟩
  · have happlied := c.works_applyCallback now callback
    rw [heed]
    rcases heq : c.applyCallback now callback with ⟨e | _, c'⟩
    · rw [heq] at happlied hx
      exact .after (.before happlied (figured_error [callback] hx now))
        ((upkeep_pump _).askedBy [callback])
    · rw [heq] at hx
      cases hx

/-- Callbacks, by induction on their list. -/
theorem figured_callbacks (c : Connection ε σ) (now : Instant) (callbacks : List Callback)
    (hx : x ∈ c.callbacksFigures now callbacks) :
    c.streams.Figured (AskedBy (c.heeded now callbacks))
      (c.applyCallbacks now callbacks).streams x := by
  induction callbacks generalizing c with
  | nil => cases hx
  | cons callback rest ih =>
    by_cases hopen : c.state.isClosing = true
    · rw [callbacksFigures, if_pos hopen] at hx
      cases hx
    rw [callbacksFigures_cons hopen] at hx
    rw [heeded, applyCallbacks, if_neg hopen, if_neg hopen]
    have hrest := works_applyCallbacks (c.heed now callback).pump now rest
    have hmore {op : Operation} (hop : AskedBy ((c.heed now callback).pump.heeded now rest) op) :
        AskedBy (callback :: (c.heed now callback).pump.heeded now rest) op :=
      hop.mono (List.subset_cons_self _ _)
    have hfirst {op : Operation} (hop : AskedBy [callback] op) :
        AskedBy (callback :: (c.heed now callback).pump.heeded now rest) op :=
      hop.mono (by simp)
    -- a figure of the first callback stands before the rest, one of the rest behind the first
    rcases List.mem_append.1 hx with hx | hx
    · exact ((c.figured_heed now callback hx).mono fun _ => hfirst).after
        (hrest.mono fun _ => hmore)
    · exact .before ((c.works_heed now callback).mono fun _ => hfirst)
        ((ih _ hx).mono fun _ => hmore)

/-! ## Datagrams and timers

The figures of what the engine reports. Which timers fire is decided by the state, so that
the figures of a timeout are told apart in the same way. -/

/-- What a datagram brings. -/
theorem figured_process (c : Connection ε σ) (datagram : Bytes) (now : Instant)
    (hx : x ∈ c.processFigures datagram now) :
    c.streams.Figured (AskedBy (c.heededOf datagram now)) (c.process datagram now).streams x := by
  rw [processFigures] at hx
  rw [process, heededOf]
  rcases heq : c.adapter.ingest datagram now with ⟨e | callbacks, a⟩
  · rw [heq] at hx
    rcases List.mem_append.1 hx with hx | hx
    · exact (figured_callbacks _ now _ hx).after ((upkeep_onTransportError _ e now).askedBy _)
    · exact .before (works_applyCallbacks { c with adapter := a.drainCallbacks.2 } now
        a.drainCallbacks.1) (figured_error _ hx now)
  · rw [heq] at hx
    have hfigured := figured_callbacks _ now _ hx
    rwa [streams_touch] at hfigured

/-- What the engine's timer brings. -/
theorem figured_runEngineTimer (c : Connection ε σ) (now : Instant)
    (hx : x ∈ c.engineFigures now) :
    c.streams.Figured (AskedBy (c.heededOnExpiry now)) (c.runEngineTimer now).streams x := by
  rw [engineFigures] at hx
  rw [runEngineTimer, heededOnExpiry]
  rcases heq : c.adapter.handleExpiry now with ⟨e | callbacks, a⟩
  · rw [heq] at hx
    exact figured_error (c := { c with adapter := a }) [] hx now
  · rw [heq] at hx
    exact figured_callbacks _ now _ hx

/-- The figures of the timers that are due, in their order. -/
theorem firedFigures_expired (c : Connection ε σ) (d : Deadlines) (now : Instant) :
    c.firedFigures now (d.expired now) =
      let drained := if d.isDue now .drain then c.fire now .drain else c
      let idled := if d.isDue now .idle then drained.fire now .idle else drained
      (if d.isDue now .drain then c.fireFigures now .drain else []) ++
        ((if d.isDue now .idle then drained.fireFigures now .idle else []) ++
          if d.isDue now .engine then idled.fireFigures now .engine else []) := by
  rw [Deadlines.expired, Timer.all]
  cases hdrain : d.isDue now .drain <;> cases hidle : d.isDue now .idle <;>
    cases hengine : d.isDue now .engine <;> simp [hdrain, hidle, hengine, firedFigures]

section

variable {c : Connection ε σ}

/-- On a closing connection only the drain timer can fire. -/
theorem timeoutFigures_of_closing (hfit : c.TimersFit) (hclosing : c.state.isClosing = true)
    (now : Instant) :
    c.timeoutFigures now = if c.timers.isDue now .drain then c.finishFigures else [] := by
  obtain ⟨hcurrent, hidle, hengine⟩ := hfit.isDue_of_closing hclosing now
  rw [timeoutFigures, firedFigures_expired, hcurrent]
  dsimp only
  rw [if_neg hengine, if_neg hidle]
  exact List.append_nil _

/-- On an open connection silence comes before the engine's timer, and leaves none. -/
theorem timeoutFigures_of_open (hfit : c.TimersFit) (hopen : c.state.isClosing = false)
    (now : Instant) :
    c.timeoutFigures now =
      if c.timers.isDue now .idle then if c.state.isHandshaking then c.finishFigures else []
      else if c.currentTimers.isDue now .engine then
        { c with timers := c.currentTimers.clear .engine }.engineFigures now
      else [] := by
  obtain ⟨hdrain, hidle⟩ := hfit.isDue_of_open hopen now
  rw [timeoutFigures, firedFigures_expired]
  dsimp only
  rw [hdrain, hidle, if_neg Bool.false_ne_true, if_neg Bool.false_ne_true, List.nil_append]
  by_cases hdue : c.timers.isDue now .idle = true
  · -- the engine's timer finds the connection closing
    simp only [if_pos hdue, fire_idle_of_open hopen, fireFigures,
      if_pos (onIdleTimeout_closing hopen now).1, ite_self, List.append_nil]
    rfl
  · simp only [if_neg hdue, List.nil_append, fireFigures]
    rw [if_neg (Bool.eq_false_iff.1 hopen)]

/-- The figures of the timers that fire. -/
theorem figured_timedOut (hfit : c.TimersFit) (now : Instant) (hx : x ∈ c.timeoutFigures now) :
    c.streams.Figured (AskedBy ((Action.onTimeout now).heeded c)) (c.timedOut now).streams x := by
  have hfinish {s' : StreamSet} (hx : x ∈ c.finishFigures) (h : Upkeep c.streams s') :
      c.streams.Figured (AskedBy ((Action.onTimeout now).heeded c)) s' x :=
    figured_of_freeze (askedBy_of_isUpkeep _) (mem_figures_of_finish hx) (h.askedBy _)
  -- three timers can have run out: the closing one, the idle one and the engine's; the
  -- first two freeze the streams
  cases hopen : c.state.isClosing with
  | true =>
    rw [timeoutFigures_of_closing hfit hopen] at hx
    split at hx
    · next hdue =>
      by_cases hclosed : c.state = .closed
      · rw [finishFigures, if_pos hclosed] at hx
        cases hx
      · rw [timedOut_of_draining hfit ((isClosing_iff.1 hopen).resolve_right hclosed), if_pos hdue]
        exact hfinish hx c.upkeep_finish
    · cases hx
  | false =>
    rw [timeoutFigures_of_open hfit hopen] at hx
    rw [timedOut_of_open hfit hopen]
    split at hx
    · next hidle =>
      rw [if_pos hidle]
      split at hx
      · exact hfinish hx (c.upkeep_onIdleTimeout now)
      · cases hx
    next hidle =>
    rw [if_neg hidle]
    split at hx
    · next hengine =>
      rw [if_pos hengine]
      rw [Bool.not_eq_true] at hidle
      rw [Action.heeded, hopen, hidle, hengine]
      exact figured_runEngineTimer { c with timers := c.currentTimers.clear .engine } now hx
    · cases hx

end

/-! ## Actions

Every figure of an action is the figure of some operation that the action asks for, on the
way from the streams before to those after. -/

/-- What an action makes the streams work out. -/
def Action.figures (c : Connection ε σ) : Action ε σ → List Int
  | openStream d => c.openFigures d
  | write id data _ => c.writeFigures id data
  | read id maxLen => c.streams.readFigures id maxLen
  | stopSending id _ => c.stopFigures id
  | ingest datagram now => c.ingestFigures datagram now
  | produceDatagrams now => c.produceFigures now
  | onTimeout now => c.timeoutFigures now
  | _ => []

/-- Every figure of an action is one of an operation that it asks for, on the way that the
streams take. One case for each action. -/
theorem figured_perform {m : Moment ε σ} (hfit : m.connection.TimersFit) {a : Action ε σ}
    (hx : x ∈ a.figures m.connection) :
    m.connection.streams.Figured (a.Asks m.connection) (m.perform a).2.connection.streams x := by
  have hworks := works_perform m hfit a
  have hopen (h : ¬ m.connection.state.isClosing = true) : m.connection.state.isClosing = false :=
    Bool.eq_false_iff.2 h
  -- each figure of an action is one of an operation that the action asks for, in the state
  -- the operation is asked in
  cases a with
  | openStream d =>
    rw [Action.figures, openFigures] at hx
    split at hx
    · cases hx
    · next h => exact ⟨_, .openStream d, .refl, .openStream d (hopen h), hx, hworks⟩
  | write id data fin =>
    rw [Action.figures, writeFigures] at hx
    split at hx
    · cases hx
    · next h => exact ⟨_, .write id data fin, .refl, .write id data fin (hopen h), hx, hworks⟩
  | read id maxLen => exact ⟨_, .read id maxLen, .refl, .read id maxLen, hx, hworks⟩
  | stopSending id errorCode =>
    rw [Action.figures, stopFigures] at hx
    split at hx
    · cases hx
    · next h =>
      exact ⟨_, .stopSending id, .refl, .stopSending id errorCode (hopen h), hx, hworks⟩
  | ingest datagram now =>
    rw [Action.figures, ingestFigures] at hx
    split at hx
    · cases hx
    next hrunning =>
    have hlive : m.connection.state ≠ .closed ∧ m.connection.state ≠ .draining :=
      ⟨fun h => hrunning (isClosing_iff.2 (.inr h)), fun h => hrunning (isClosing_iff.2 (.inl h))⟩
    have hprocessed := figured_process (m.connection.counted datagram) datagram now hx
    have hasks : ∀ op, AskedBy ((m.connection.counted datagram).heededOf datagram now) op →
        (Action.ingest datagram now).Asks m.connection op := fun op hop => by
      refine AskedBy.asks ?_
      rwa [Action.heeded, if_neg hrunning]
    rw [Moment.perform, ingest, if_neg hlive.1]
    dsimp only
    rw [if_neg hlive.2]
    exact (hprocessed.mono hasks).after (upkeep_flush _ m.world).asks
  -- nothing is asked of the streams unless the engine fails, and then they are frozen
  | produceDatagrams now =>
    rw [Action.figures, produceFigures] at hx
    split at hx
    · split at hx
      · exact figured_of_freeze (fun _ => .upkeep) (mem_figures_of_error hx) hworks
      · cases hx
    · cases hx
  | onTimeout now =>
    by_cases hclosed : m.connection.state = .closed
    · rw [Action.figures, timeoutFigures_of_closing hfit (isClosing_iff.2 (.inr hclosed)),
        finishFigures, if_pos hclosed, ite_self] at hx
      cases hx
    · rw [Moment.perform, onTimeout_eq hclosed]
      exact ((figured_timedOut hfit now hx).mono fun _ => AskedBy.asks).after
        (upkeep_flush _ m.world).asks
  | _ => cases hx

/-! ## Sessions

The bounds along a session. Limits and what was sent only grow, so that a bound at the end
is a bound at any time before. -/

namespace Entry

/-- Whether the limits for sending that were announced fit a word. -/
def LimitsFit (e : Entry ε σ) : Prop := ∀ callback ∈ e.heeded, callback.LimitsFit

instance (e : Entry ε σ) : Decidable e.LimitsFit :=
  inferInstanceAs (Decidable (∀ callback ∈ e.heeded, callback.LimitsFit))

/-- Whether what is said to be acknowledged fits a word on top of all that was sent. -/
def AcksFit (e : Entry ε σ) : Prop :=
  ∀ callback ∈ e.heeded,
    callback.acknowledged + e.after.connection.streams.sendWindow.consumed ≤ maxWord

instance (e : Entry ε σ) : Decidable e.AcksFit :=
  inferInstanceAs (Decidable (∀ callback ∈ e.heeded, _ ≤ maxWord))

/-- Whether the connection still has room for a window of some width, or the entry leaves
alone what may be read. -/
def HasRoom (e : Entry ε σ) (width : Nat) : Prop :=
  e.action.isRead = false ∧ e.Spares ∨
    e.after.connection.streams.recvWindow.limit + width ≤ maxWord

instance (e : Entry ε σ) (width : Nat) : Decidable (e.HasRoom width) :=
  inferInstanceAs (Decidable (_ ∧ _ ∨ _))

/-- What the streams work out for the entry. -/
def figures (e : Entry ε σ) : List Int := e.action.figures e.before.connection

end Entry

section

variable {m : Moment ε σ} {a : Action ε σ} {op : Operation}

/-- The limits in the operations asked for are those of callbacks. -/
theorem limitsFit_of_asks (h : Entry.LimitsFit ⟨m, a⟩) (hop : a.Asks m.connection op) :
    op.LimitsFit := by
  cases hop with
  | upkeep hop => exact Operation.limitsFit_of_isUpkeep hop
  | heeded hmem hop => exact (h _ hmem).operation hop
  | _ => exact trivial

/-- Only a callback says that something is acknowledged. -/
theorem acknowledged_le_of_asks (h : Entry.AcksFit ⟨m, a⟩) {id : StreamId} {n : Nat}
    (hop : a.Asks m.connection (.streamAcked id n)) :
    n + (m.perform a).2.connection.streams.sendWindow.consumed ≤ maxWord := by
  cases hop with
  | upkeep hop => cases hop
  | @heeded _ callback _ hmem hop =>
    have hle := h callback hmem
    cases callback <;> cases hop
    exact hle

/-- The entry forgets no acknowledgement, if those that it counts fit. -/
theorem remembers_perform (hs : m.connection.streams.Measured) (hfit : m.connection.TimersFit)
    (hfits : Entry.Fits ⟨m, a⟩) (hlimits : Entry.LimitsFit ⟨m, a⟩) (hacks : Entry.AcksFit ⟨m, a⟩)
    (hafter : (m.perform a).2.connection.streams.Measured) :
    m.connection.streams.Remembers (m.perform a).2.connection.streams := by
  refine (works_perform m hfit a).remembers
    (fun _ hop => ⟨fits_of_asks hfits hop, limitsFit_of_asks hlimits hop⟩) hs fun op hop => ?_
  cases op with
  | streamAcked id n => exact acknowledged_le_of_asks hacks hop
  | _ => exact Nat.le_trans (Nat.le_of_eq (Nat.zero_add _)) hafter.sent_le

/-- An action keeps the streams measured, for it is made of operations. -/
theorem streamsAdvance_perform (hs : m.connection.streams.Measured) (hfit : m.connection.TimersFit)
    (hfits : Entry.Fits ⟨m, a⟩) (hlimits : Entry.LimitsFit ⟨m, a⟩) :
    m.connection.streams.Advances (m.perform a).2.connection.streams :=
  (works_perform m hfit a).advances
    (fun _ hop => ⟨fits_of_asks hfits hop, limitsFit_of_asks hlimits hop⟩) hs

/-- The figures of an action fit words: each is one of an operation on measured streams,
which had at least the room that is left. -/
theorem areWords_perform (hs : m.connection.streams.Measured) (hfit : m.connection.TimersFit)
    (hfits : Entry.Fits ⟨m, a⟩) (hlimits : Entry.LimitsFit ⟨m, a⟩)
    (hroom : a.isRead = false ∧ Entry.Spares ⟨m, a⟩ ∨
      (m.perform a).2.connection.streams.HasRoom)
    (hacks : Entry.AcksFit ⟨m, a⟩) : AreWords (a.figures m.connection) := by
  intro x hx
  refine (figured_perform hfit hx).isWord hs
    (fun _ hop => ⟨fits_of_asks hfits hop, limitsFit_of_asks hlimits hop⟩) ?_
    (fun _ _ hop => acknowledged_le_of_asks hacks hop)
  exact hroom.imp_left fun hspares _ hop => spares_of_asks hspares.2 hspares.1 hop

end

/-- A session that begins with measured streams has them measured at every moment. -/
theorem Session.advances_steps {m : Moment ε σ} (hs : m.connection.streams.Measured)
    (hfit : m.connection.TimersFit) (actions : List (Action ε σ))
    (h : ∀ e ∈ (Session.steps ⟨m, []⟩ actions).history, e.Fits ∧ e.LimitsFit) :
    m.connection.streams.Advances (Session.steps ⟨m, []⟩ actions).connection.streams ∧
      ∀ e ∈ (Session.steps ⟨m, []⟩ actions).history, e.before.connection.TimersFit ∧
        m.connection.streams.Advances e.before.connection.streams := by
  -- the last action finds what the actions before it have left
  induction actions using List.reverseRecOn with
  | nil => exact ⟨hs.advances, List.forall_mem_nil _⟩
  | append_singleton actions a ih =>
    rw [steps_concat] at h ⊢
    rw [step, List.forall_mem_append] at h
    obtain ⟨hadvances, hbefore⟩ := ih h.1
    obtain ⟨hfits, hlimits⟩ := h.2 _ (List.mem_singleton_self _)
    have hfit' := timersFit_steps (s := ⟨m, []⟩) hfit actions
    have hlast := streamsAdvance_perform hadvances.measured hfit' hfits hlimits
    refine ⟨hadvances.trans hlast, List.forall_mem_append.2 ⟨hbefore, ?_⟩⟩
    exact List.forall_mem_singleton.2 ⟨hfit', hadvances⟩

/-- Settings with nothing wrong leave room for a window of a stream, if its width fits on
top of the limit of the connection. -/
theorem hasRoom_of_valid {side : Side} {settings : ConnectionSettings} (hvalid : settings.Valid)
    {s s' : StreamSet} (hnew : s = .new side settings.localParameters) (h : s.Advances s')
    (hroom : s'.recvWindow.limit + settings.initialMaxStreamData ≤ maxWord) : s'.HasRoom := by
  have hnarrow := (ConnectionSettings.valid_iff.1 hvalid).2.2.2.1
  subst hnew
  have hwidth (id : StreamId) :
      recvWindowFor s'.side s'.localParams id = settings.initialMaxStreamData := by
    rw [h.side, h.localParams]
    exact recvWindowFor_localParameters side settings id
  refine ⟨fun id => ?_, fun id => ?_⟩
  · rw [hwidth, h.localParams]
    exact hnarrow
  · rw [hwidth]
    exact hroom

/-! ## The result

No figure of a session exceeds a word, under conditions on what the engine reports; and
for each condition a session that shows what happens without it. -/

/-- **Exact where there is room.** Whatever is done to a connection with valid settings,
over any engine that reports limits and identifiers within the range of a word: what an
action makes the streams work out fits a word, if the connection has room for one more
window of a stream and what is said to be acknowledged fits on top of all that was sent.
Actions that leave alone what may be read need no room. The capacity of a stream always
fits. What was acknowledged on a stream stays acknowledged, if what is said to be
acknowledged fits on top of all that was sent. -/
theorem exact_with_room (side : Side) (settings : ConnectionSettings) (hvalid : settings.Valid)
    (scid dcid : ConnectionId) (engine : ε) (now : Instant) (w : σ) (actions : List (Action ε σ))
    (h : ∀ e ∈ ((Session.begin side settings scid dcid engine now w).steps actions).history,
      e.Fits ∧ e.LimitsFit) :
    ∀ e ∈ ((Session.begin side settings scid dcid engine now w).steps actions).history,
      (e.HasRoom settings.initialMaxStreamData → e.AcksFit → AreWords e.figures) ∧
      (∀ id, AreWords (e.after.connection.capacityFigures id)) ∧
      (e.AcksFit → ∀ id half half', e.before.connection.streams.sendHalf? id = some half →
        e.after.connection.streams.sendHalf? id = some half' →
        half.buffer.acked ≤ half'.buffer.acked) := by
  intro e he
  have hnew := Session.streams_begin side settings scid dcid engine now w
  have hbegun := Session.sound_begin side settings scid dcid engine now w
  have hs : (Session.begin side settings scid dcid engine now w).connection.streams.Measured := by
    rw [hnew]
    exact measured_new side settings.localParameters
  obtain ⟨hfit, hbefore⟩ := (Session.advances_steps hs hbegun.fits actions h).2 e he
  obtain ⟨hfits, hlimits⟩ := h e he
  -- what the entry leaves is as well measured as what it found, which is what the capacity
  -- needs
  have hlast := streamsAdvance_perform hbefore.measured hfit hfits hlimits
  refine ⟨fun hroom hacks => ?_, fun id => ?_, fun hacks id half half' => ?_⟩
  · exact areWords_perform hbefore.measured hfit hfits hlimits
      (hroom.imp_right (hasRoom_of_valid hvalid hnew (hbefore.trans hlast))) hacks
  · rw [capacityFigures]
    split
    · exact areWords_nil
    · exact areWords_capacity hlast.measured id
  · exact (remembers_perform hbefore.measured hfit hfits hlimits hacks hlast.measured).acked_le
      hbefore.measured.windows.orderly hlast.measured.windows.orderly

end

/-- A datagram arrives from which the engine learns some things. -/
def learning (callbacks : List Callback) : List (Action ScriptedEngine Unit) :=
  [.modifyEngine (·.expectDatagram (.ok callbacks)), .ingest [] ⟨0⟩]

/-- A byte of four is acknowledged. The peer sends two bytes and resets the stream. -/
def exchanging : List (Action ScriptedEngine Unit) :=
  learning [.handshakeCompleted ({} : ConnectionSettings).localParameters]
    ++ [.openStream .bidi, .write ⟨0⟩ [1, 2, 3, 4] false]
    ++ learning [.streamAcked ⟨0⟩ 1, .streamData ⟨1⟩ 0 [5, 6] false, .streamReset ⟨1⟩ 0 9]

/-- A session of a client over the scripted engine. -/
abbrev clientWith (settings : ConnectionSettings) : Session ScriptedEngine Unit :=
  .begin .client settings .empty .empty {} ⟨0⟩ ()

/-- Everything fits, also the new limit of the connection, after nine bytes were given
back. -/
theorem exact_with_room_exchanging :
    let s := (clientWith {}).steps exchanging
    (∀ e ∈ s.history, AreWords e.figures) ∧ ∃ e ∈ s.history, 2 ^ 20 + 9 ∈ e.figures := by
  intro s
  have hexact := exact_with_room .client {} (by decide) .empty .empty ({} : ScriptedEngine) ⟨0⟩ ()
    exchanging (by decide)
  have hroom : ∀ e ∈ s.history,
      e.HasRoom ({} : ConnectionSettings).initialMaxStreamData ∧ e.AcksFit := by decide
  exact ⟨fun e he => (hexact e he).1 (hroom e he).1 (hroom e he).2, by decide⟩

/-- Nothing but numbers that fit a word goes into these sessions, and their settings are
valid, but each of them makes a sum that is too large: of acknowledged bytes, of a byte
that was read and the window on top of it, and of bytes that were received. The byte that
was acknowledged is forgotten, the limit does not rise after the byte that was read, and a
total beyond all limits is accepted. -/
theorem sums_too_large :
    let wide : ConnectionSettings := { initialMaxData := maxWord }
    let wider : ConnectionSettings := { wide with initialMaxStreamData := maxWord }
    let acked := (clientWith {}).steps (exchanging ++ learning [.streamAcked ⟨0⟩ maxWord])
    let ackedOf (s : Session ScriptedEngine Unit) :=
      (s.connection.streams.sendHalf? ⟨0⟩).map (·.buffer.acked)
    let read := (clientWith wide).steps (learning [.streamData ⟨1⟩ 0 [5] false] ++ [.read ⟨1⟩ 1])
    let reset := (clientWith wider).steps
      (learning [.streamData ⟨1⟩ 0 [5] false, .streamReset ⟨5⟩ 0 maxWord])
    (wide.Valid ∧ wider.Valid) ∧
      (∀ e ∈ acked.history ++ read.history ++ reset.history, e.Fits ∧ e.LimitsFit) ∧
      ¬ IsWord ((maxWord : Int) + 1) ∧
      ((∃ e ∈ acked.history, (maxWord : Int) + 1 ∈ e.figures) ∧
        ackedOf ((clientWith {}).steps exchanging) = some 1 ∧ ackedOf acked = some 0) ∧
      ((∃ e ∈ read.history, (maxWord : Int) + 1 ∈ e.figures) ∧
        read.connection.streams.recvWindow.limit = maxWord) ∧
      (∃ e ∈ reset.history, (maxWord : Int) + 1 ∈ e.figures) ∧
        reset.connection.state = .handshaking := by
  decide

end Connection

end QuicHost
