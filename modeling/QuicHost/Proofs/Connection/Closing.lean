import Mathlib.Data.List.Induction
import QuicHost.Proofs.Connection.Standing
import QuicHost.Proofs.Connection.Works

/-!
# What arrived can be read to the end

Two runs go on from the same connection. In one, the application only reads. In the
other it reads the same, and between the reads anything happens: the connection is
closed by whomever, drains and ends, datagrams arrive, and other calls are made. As
long as nothing brings new data and nothing is given up before the connection is
closing, all reads answer the same (`reads_survive_closing`).

The runs soon differ in their streams. A stream that was read to its end is gone in
one and may still be there in the other; credit is granted in one and not in the
other. What they have in common is what they offer to the reader, and this decides
what reads answer (`Mirrors`).
-/

namespace QuicHost

/-- Whether a callback changes what a stream offers: it brings data, or the peer
abandons its half. -/
def Callback.altersOffer : Callback → Bool
  | .streamData _ _ _ _ => true
  | .streamReset _ _ _ => true
  | _ => false

/-- Callbacks that bring no data are operations that spare what is offered. -/
theorem Callback.spares_of_altersOffer {callback : Callback} (h : callback.altersOffer = false)
    {op : StreamSet.Operation} (hop : callback.operation? = some op) : op.spares = true := by
  cases callback <;> cases hop <;> first | rfl | cases h

namespace Connection

open StreamSet

variable {ε σ : Type}

/-! ## Actions

Which actions read, which give up a receiving half, and which are refused on a closing
connection; and what was acted on and what was read, as a session shows it. -/

namespace Action

/-- Whether the action is a read. -/
def isRead : Action ε σ → Bool
  | read _ _ => true
  | _ => false

/-- Whether the action gives up a receiving half. -/
def isStop : Action ε σ → Bool
  | stopSending _ _ => true
  | _ => false

/-- What a closing connection answers to a call that it refuses. -/
def refusal? : Action ε σ → Option Answer
  | openStream _ => some (.opened (.error .connectionClosed))
  | write _ _ _ => some (.written (.error .connectionClosed))
  | resetStream _ _ => some (.done (.error .connectionClosed))
  | stopSending _ _ => some (.done (.error .connectionClosed))
  | _ => none

end Action

section

variable [PacketEngine ε]

namespace Entry

/-- The callbacks that were acted on. -/
def heeded (e : Entry ε σ) : List Callback := e.action.heeded e.before.connection

/-- Whether the callbacks that were acted on name streams by identifiers that fit a
word. -/
def Fits (e : Entry ε σ) : Prop := ∀ callback ∈ e.heeded, callback.Fits

instance (e : Entry ε σ) : Decidable e.Fits :=
  inferInstanceAs (Decidable (∀ callback ∈ e.heeded, callback.Fits))

/-- Whether the entry leaves alone what may be read: while the connection is open,
no receiving half is given up, and no callback changes what a stream offers. -/
def Spares (e : Entry ε σ) : Prop :=
  e.before.connection.state.isClosing = false →
    e.action.isStop = false ∧ ∀ callback ∈ e.heeded, callback.altersOffer = false

instance (e : Entry ε σ) : Decidable e.Spares :=
  inferInstanceAs (Decidable (_ → _ ∧ ∀ callback ∈ e.heeded, callback.altersOffer = false))

/-- What a read answered: the bytes with the mark of the end, or nothing if it was
refused. -/
def reading? (e : Entry ε σ) : Option (Option ReadOutcome) :=
  match e.answer with
  | .read r => some r.toOption
  | _ => none

end Entry

/-- A session that goes on from here, with nothing in its history. -/
def Session.resume (s : Session ε σ) : Session ε σ := ⟨s.moment, []⟩

/-- What the reads of a session answered, in order. -/
def Session.readings (s : Session ε σ) : List (Option ReadOutcome) :=
  s.history.filterMap (·.reading?)

/-- Whether everything but reading is refused, and changes nothing. -/
structure Moment.Refuses (m : Moment ε σ) : Prop where
  /-- the capacity of a stream is refused as well, which is a question and no action -/
  capacity : ∀ id, m.connection.sendCapacity id = .error .connectionClosed
  /-- what is refused leaves the moment as it was -/
  calls : ∀ (a : Action ε σ) (refusal : Answer), a.refusal? = some refusal →
    m.perform a = (refusal, m)

variable {m : Moment ε σ} {a : Action ε σ} {c : Connection ε σ} {op : Operation}

/-! ## A closing connection

Nothing but reads has an effect on a closing connection, as far as its streams are
concerned. The callbacks of its engine are dropped. -/

/-- A closing connection refuses every call but a read, and is left as it was. -/
theorem refuses_of_closing (h : m.connection.state.isClosing = true) : m.Refuses where
  capacity id := if_pos h
  calls a refusal hrefusal := by
    cases a with
    | openStream d =>
      cases hrefusal
      rw [Moment.perform, openStream, if_pos h]
    | write id data fin =>
      cases hrefusal
      rw [Moment.perform, write, if_pos h]
    | resetStream id errorCode =>
      cases hrefusal
      rw [Moment.perform, resetStream, if_pos h]
      rfl
    | stopSending id errorCode =>
      cases hrefusal
      rw [Moment.perform, stopSending, if_pos h]
      rfl
    | _ => cases hrefusal

/-- A closing connection acts on no callback. -/
theorem heeded_of_closing (h : c.state.isClosing = true) (a : Action ε σ) : a.heeded c = [] := by
  cases a with
  | ingest datagram now => rw [Action.heeded, if_pos h]
  | onTimeout now =>
    rw [Action.heeded, h]
    rfl
  | _ => rfl

/-! ## What actions leave alone

What streams offer is changed by reads, by data, and by giving up. All other operations
leave it alone, so that whole actions do. -/

/-- Operations are asked for by calls, which fit, or by callbacks, which do by assumption. -/
theorem fits_of_asks (h : Entry.Fits ⟨m, a⟩) (hop : a.Asks m.connection op) : op.Fits := by
  cases hop with
  | upkeep hop => exact Operation.fits_of_isUpkeep hop
  | heeded hmem hop => exact (h _ hmem).operation hop
  | _ => exact trivial

/-- What is asked for while nothing is read, stopped or received spares what is offered. -/
theorem spares_of_asks (h : Entry.Spares ⟨m, a⟩) (hread : a.isRead = false)
    (hop : a.Asks m.connection op) : op.spares = true := by
  cases hop with
  | upkeep hop => exact Operation.spares_of_isUpkeep hop
  | read id maxLen => cases hread
  | stopSending id errorCode hopen => cases (h hopen).1
  | @heeded _ callback _ hmem hop =>
    have hopen : m.connection.state.isClosing = false := by
      rw [← Bool.not_eq_true]
      intro hclosing
      rw [heeded_of_closing hclosing] at hmem
      cases hmem
    exact callback.spares_of_altersOffer ((h hopen).2 callback hmem) hop
  | _ => rfl

/-- What operations on streams keep, every action keeps. -/
theorem keeps_perform {P : StreamSet → Prop}
    (hstep : ∀ {s : StreamSet} {op : Operation}, op.Fits → P s → P (s.perform op).2)
    (hs : P m.connection.streams) (hfit : m.connection.TimersFit) (hfits : Entry.Fits ⟨m, a⟩) :
    P (m.perform a).2.connection.streams :=
  (works_perform m hfit a).keeps (fun hop => hstep (fits_of_asks hfits hop)) hs

/-- An action leaves the halves neat, for it is made of operations. -/
theorem neat_perform (ht : m.connection.streams.Neat) (hfit : m.connection.TimersFit)
    (hfits : Entry.Fits ⟨m, a⟩) : (m.perform a).2.connection.streams.Neat :=
  keeps_perform (fun hop hneat => (offers_perform hneat hop).1) ht hfit hfits

/-- An action that is no read and spares what may be read leaves the offers alone. -/
theorem offer_perform (ht : m.connection.streams.Neat) (hfit : m.connection.TimersFit)
    (hfits : Entry.Fits ⟨m, a⟩) (hspares : Entry.Spares ⟨m, a⟩) (hread : a.isRead = false) :
    (m.perform a).2.connection.streams.offer = m.connection.streams.offer :=
  (works_perform m hfit a).offer (fun _ => fits_of_asks hfits)
    (fun _ => spares_of_asks hspares hread) ht

/-- Only reads answer like reads. -/
theorem reading?_eq_none (hread : a.isRead = false) : Entry.reading? ⟨m, a⟩ = none := by
  cases a with
  | read id maxLen => cases hread
  | _ => rfl

/-- What a read of a connection answers and leaves is told by what is offered. -/
theorem perform_read (ht : m.connection.streams.Neat) (id : StreamId) (maxLen : Nat) :
    let m' := (m.perform (.read id maxLen)).2
    m'.connection.streams.Neat ∧
      Entry.reading? ⟨m, .read id maxLen⟩ =
        some ((m.connection.streams.offer id).read maxLen).1 ∧
      m'.connection.streams.offer =
        Function.update m.connection.streams.offer id
          ((m.connection.streams.offer id).read maxLen).2 := by
  obtain ⟨hanswer, hupkeep⟩ := m.connection.upkeep_read id maxLen m.world
  obtain ⟨hneat, hoffer, hother⟩ := offer_read ht id maxLen
  have hfits : ∀ op : Operation, op.isUpkeep = true → op.Fits :=
    fun _ => Operation.fits_of_isUpkeep
  refine ⟨hupkeep.neat hfits hneat, ?_, ?_⟩
  · rw [hoffer]
    exact congrArg some hanswer
  · have hsame := hupkeep.offer hfits (fun _ => Operation.spares_of_isUpkeep) hneat
    refine hsame.trans (funext fun id' => ?_)
    rw [Function.update_apply, hoffer]
    split
    · next heq => rw [heq]
    · next hne => exact hother id' hne

/-! ## Two runs

The run in which the application only reads, beside the run in which other things happen.
They offer the same at every read. -/

namespace Session

theorem readings_step (s : Session ε σ) (a : Action ε σ) :
    (s.step a).readings = s.readings ++ (Entry.reading? ⟨s.moment, a⟩).toList := by
  rw [readings, step, List.filterMap_append]
  rfl

/-- The two sessions offer the same to whoever reads, and have read the same. -/
structure Mirrors (alone s : Session ε σ) : Prop where
  neatAlone : alone.connection.streams.Neat
  neat : s.connection.streams.Neat
  /-- what is there to be read is the same -/
  offer : alone.connection.streams.offer = s.connection.streams.offer
  /-- what was read so far is the same -/
  readings : alone.readings = s.readings

variable {alone s : Session ε σ}

/-- A read on both sides reads the same, and leaves the same. -/
theorem Mirrors.read (h : alone.Mirrors s) (id : StreamId) (maxLen : Nat) :
    (alone.step (.read id maxLen)).Mirrors (s.step (.read id maxLen)) := by
  obtain ⟨hneatAlone, hreadAlone, hofferAlone⟩ := perform_read h.neatAlone id maxLen
  obtain ⟨hneat, hread, hoffer⟩ := perform_read h.neat id maxLen
  have hsame : alone.moment.connection.streams.offer = s.moment.connection.streams.offer := h.offer
  rw [hsame] at hreadAlone hofferAlone
  refine ⟨hneatAlone, hneat, hofferAlone.trans hoffer.symm, ?_⟩
  rw [readings_step, readings_step, hreadAlone, hread, h.readings]

/-- Anything else on one side leaves what is offered there. -/
theorem Mirrors.other (h : alone.Mirrors s) (hfit : s.connection.TimersFit) {a : Action ε σ}
    (hfits : Entry.Fits ⟨s.moment, a⟩) (hspares : Entry.Spares ⟨s.moment, a⟩)
    (hread : a.isRead = false) : alone.Mirrors (s.step a) where
  neatAlone := h.neatAlone
  neat := neat_perform h.neat hfit hfits
  offer := h.offer.trans (offer_perform h.neat hfit hfits hspares hread).symm
  readings := by
    rw [readings_step, reading?_eq_none hread]
    exact h.readings.trans (List.append_nil _).symm

/-- A session mirrors the one in which the application only reads. -/
theorem mirrors_steps (ht : m.connection.streams.Neat) (hfit : m.connection.TimersFit)
    (actions : List (Action ε σ))
    (h : ∀ e ∈ (Session.steps ⟨m, []⟩ actions).history, e.Fits ∧ e.Spares) :
    (Session.steps ⟨m, []⟩ (actions.filter (·.isRead))).Mirrors
        (Session.steps ⟨m, []⟩ actions) ∧
      (Session.steps ⟨m, []⟩ actions).connection.TimersFit := by
  -- from the end of the run: the last action is either a read of both runs or one that the
  -- mirror leaves out
  induction actions using List.reverseRecOn with
  | nil => exact ⟨⟨ht, ht, rfl, rfl⟩, hfit⟩
  | append_singleton actions a ih =>
    rw [steps_concat] at h ⊢
    rw [step, List.forall_mem_append] at h
    obtain ⟨hmirrors, hfit⟩ := ih h.1
    obtain ⟨hfits, hspares⟩ := h.2 _ (List.mem_singleton_self _)
    refine ⟨?_, (TimersFit.perform hfit a).1⟩
    rw [List.filter_append]
    cases hread : a.isRead with
    | true =>
      rw [List.filter_cons_of_pos hread, List.filter_nil, steps_concat]
      cases a with
      | read id maxLen => exact hmirrors.read id maxLen
      | _ => cases hread
    | false =>
      rw [List.filter_cons_of_neg (Bool.eq_false_iff.1 hread), List.filter_nil, List.append_nil]
      exact hmirrors.other hfit hfits hspares hread

/-- Whoever is closing stays so. -/
theorem isClosing_steps {s : Session ε σ} (hfit : s.connection.TimersFit)
    (h : s.connection.state.isClosing = true) (actions : List (Action ε σ)) :
    (s.steps actions).connection.state.isClosing = true := by
  induction actions generalizing s with
  | nil => exact h
  | cons a rest ih =>
    obtain ⟨hfit', hrank⟩ := TimersFit.perform hfit a
    rw [ConnectionState.isClosing_iff_rank] at h
    exact ih hfit' (ConnectionState.isClosing_iff_rank.2 (Nat.le_trans h hrank))

theorem timersFit_steps {s : Session ε σ} (hfit : s.connection.TimersFit)
    (actions : List (Action ε σ)) : (s.steps actions).connection.TimersFit := by
  induction actions generalizing s with
  | nil => exact hfit
  | cons a rest ih => exact ih (TimersFit.perform hfit a).1

/-- What every operation keeps is kept in any session, by induction on the actions. -/
theorem keeps_steps {P : StreamSet → Prop}
    (hstep : ∀ {s : StreamSet} {op : Operation}, op.Fits → P s → P (s.perform op).2)
    {s : Session ε σ} (hs : P s.connection.streams) (hfit : s.connection.TimersFit)
    (actions : List (Action ε σ)) (h : ∀ e ∈ (s.steps actions).history, e.Fits) :
    P (s.steps actions).connection.streams := by
  induction actions using List.reverseRecOn with
  | nil => exact hs
  | append_singleton actions a ih =>
    rw [steps_concat] at h ⊢
    rw [step, List.forall_mem_append] at h
    exact keeps_perform hstep (ih h.1) (timersFit_steps hfit actions)
      (h.2 _ (List.mem_singleton_self _))

theorem neat_steps {s : Session ε σ} (ht : s.connection.streams.Neat)
    (hfit : s.connection.TimersFit) (actions : List (Action ε σ))
    (h : ∀ e ∈ (s.steps actions).history, e.Fits) :
    (s.steps actions).connection.streams.Neat :=
  keeps_steps (P := StreamSet.Neat) (fun hop hneat => (offers_perform hneat hop).1) ht hfit
    actions h

end Session

/-! ## The result

Both runs from any moment of any session on. -/

/-- **Reading outlasts the connection.** From any connection that may be reached, over
any engine, do two things: only the reads of a list of actions, or all of it. While the
connection is open, the actions give up no receiving half, and no callback that is acted
on brings data or abandons a half; otherwise they are any, and close the connection in
any way and at any place. Then all reads answer the same bytes with the same mark of the
end, or are refused in both cases. Once the connection is closing, whatever is done
before and after, everything but reading is refused and changes nothing. -/
theorem reads_survive_closing (side : Side) (settings : ConnectionSettings)
    (scid dcid : ConnectionId) (engine : ε) (now : Instant) (w : σ) (past : List (Action ε σ))
    (hpast : ∀ e ∈ ((Session.begin side settings scid dcid engine now w).steps past).history,
      e.Fits) :
    let reached := ((Session.begin side settings scid dcid engine now w).steps past).resume
    (∀ actions, (∀ e ∈ (reached.steps actions).history, e.Fits ∧ e.Spares) →
      (reached.steps (actions.filter (·.isRead))).readings = (reached.steps actions).readings) ∧
    ∀ before after, (reached.steps before).connection.state.isClosing = true →
      (reached.steps (before ++ after)).moment.Refuses := by
  intro reached
  have hbegun := Session.sound_begin side settings scid dcid engine now w
  have hfit : reached.connection.TimersFit := (hbegun.steps past).fits
  have hneat : reached.connection.streams.Neat := by
    refine Session.neat_steps ?_ hbegun.fits past hpast
    change (Connection.new side settings scid dcid engine now : Connection ε σ).streams.Neat
    rw [Connection.new, streams_touch]
    exact neat_new side settings.localParameters
  refine ⟨fun actions hactions => ?_, fun before after hclosing => ?_⟩
  · exact (Session.mirrors_steps hneat hfit actions hactions).1.readings
  · have hfit' := Session.timersFit_steps hfit before
    rw [Session.steps, List.foldl_append]
    exact refuses_of_closing (Session.isClosing_steps hfit' hclosing after)

end

/-- The handshake is complete, and the peer has sent a whole stream. -/
def received : List (Action ScriptedEngine Unit) :=
  [.modifyEngine (·.expectDatagram (.ok [.handshakeCompleted
      ({} : ConnectionSettings).localParameters])),
    .ingest [] ⟨0⟩, .openStream .bidi,
    .modifyEngine (·.expectDatagram (.ok [.streamData ⟨0⟩ 0 [1, 2, 3] true])), .ingest [] ⟨1⟩]

/-- Between reads, the peer closes the connection, data comes too late, and the
connection ends. -/
def closedByPeer : List (Action ScriptedEngine Unit) :=
  [.read ⟨0⟩ 2,
    .modifyEngine (·.expectDatagram (.ok [.connectionClose 7 [], .streamData ⟨0⟩ 3 [4] true])),
    .ingest [] ⟨2⟩, .openStream .uni, .read ⟨0⟩ 0, .stopSending ⟨0⟩ 1, .ingest [] ⟨3⟩,
    .onTimeout ⟨100000000000⟩, .write ⟨0⟩ [5] false, .read ⟨0⟩ 5, .read ⟨0⟩ 5]

/-- What had arrived is read while the connection closes, with its end, and the data that
came too late is not. -/
theorem reads_survive_closing_by_peer :
    let reached := ((Session.begin .client {} ⟨[], by decide⟩ ⟨[], by decide⟩
      ({} : ScriptedEngine) ⟨0⟩ ()).steps received).resume
    (reached.steps closedByPeer).connection.state = .closed ∧
      (reached.steps closedByPeer).readings =
        [some ⟨[1, 2], false⟩, none, some ⟨[3], true⟩, none] ∧
      (reached.steps (closedByPeer.filter (·.isRead))).readings =
        [some ⟨[1, 2], false⟩, none, some ⟨[3], true⟩, none] ∧
      (reached.steps closedByPeer).moment.Refuses := by
  obtain ⟨hreadings, hrefuses⟩ := reads_survive_closing .client {} ⟨[], by decide⟩
    ⟨[], by decide⟩ ({} : ScriptedEngine) ⟨0⟩ () received (by decide)
  intro reached
  have hread : (reached.steps closedByPeer).readings =
      [some ⟨[1, 2], false⟩, none, some ⟨[3], true⟩, none] := by decide
  have hsame := hreadings closedByPeer (by decide)
  exact ⟨by decide, hread, hsame.trans hread,
    hrefuses (closedByPeer.take 3) (closedByPeer.drop 3) (by decide)⟩

end Connection

end QuicHost
