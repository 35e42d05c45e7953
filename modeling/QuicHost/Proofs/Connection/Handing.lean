import Mathlib.Algebra.GroupWithZero.Nat
import QuicHost.Proofs.Connection.Attending
import QuicHost.Proofs.Engine.Polling

/-!
# What the host is handed

When the host asks for datagrams, it is handed everything that the engine writes, or
nothing: if the engine fails after it has written datagrams, those are dropped, and
the connection does not keep them (`polls_all_or_nothing`). Whether they can be had
later is up to the engine, which may well take them for sent (`polls_lose_written`).

The number of datagrams that is counted as sent is that of the datagrams that were
handed out, over any session.
-/

namespace QuicHost.Connection

open EngineAdapter

variable {ε σ : Type} [PacketEngine ε]

/-- What the engine answers when the host asks for datagrams, oldest first. -/
def answers (c : Connection ε σ) (now : Instant) : List (Except EngineError Written) :=
  if c.maySend then c.adapter.answers now else []

/-- How many datagrams were handed out. -/
def Answer.datagramCount : Answer → Nat
  | .datagrams sent => sent.length
  | _ => 0

/-! ## One poll

A poll hands out what the engine writes until it has nothing, fails, or as many were
written as one poll may hold. -/

/-- How a poll of a connection that may send ends, for what the engine answers. -/
theorem produceDatagrams_cases {c : Connection ε σ} (hmay : c.maySend = true) (now : Instant)
    (w : σ) :
    (∃ e, ((c.answers now).any (fails c.adapter.maxUdpPayloadSize) = true) ∧
      c.produceDatagrams now w = ({ c with
        adapter := (c.adapter.produceDatagrams now).2 }.onTransportError e now).flushWith [] w) ∨
    (c.answers now).any (fails c.adapter.maxUdpPayloadSize) = false ∧
      ∃ c', c.produceDatagrams now w =
        ((written c.adapter.maxUdpPayloadSize (c.answers now), c'), w) ∧
        c'.stats.datagramsSent = c.stats.datagramsSent +
          (written c.adapter.maxUdpPayloadSize (c.answers now)).length := by
  have hpolled := toOption_of_polled (c.adapter.polled_produceDatagrams now).2.2
  rw [answers, if_pos hmay, produceDatagrams, if_pos hmay]
  rcases hresult : c.adapter.produceDatagrams now with ⟨e | datagrams, a⟩
  · rw [hresult] at hpolled
    split at hpolled
    · next hfails => exact .inl ⟨e, hfails, rfl⟩
    · cases hpolled
  · rw [hresult] at hpolled
    split at hpolled
    · cases hpolled
    · next hfine =>
      obtain rfl := Option.some.inj hpolled
      exact .inr ⟨Bool.eq_false_iff.2 hfine, _, rfl, rfl⟩

/-- The host is handed everything that was written, unless the engine fails. -/
theorem produceDatagrams_eq (c : Connection ε σ) (now : Instant) (w : σ) :
    (c.produceDatagrams now w).1.1 =
      if (c.answers now).any (fails c.adapter.maxUdpPayloadSize) = true then []
      else written c.adapter.maxUdpPayloadSize (c.answers now) := by
  by_cases hmay : c.maySend = true
  · rcases produceDatagrams_cases hmay now w with ⟨e, hfails, heq⟩ | ⟨hfine, c', heq, -⟩
    · rw [if_pos hfails, heq]
      rfl
    · rw [hfine, if_neg Bool.false_ne_true, heq]
  · rw [answers, if_neg hmay, produceDatagrams, if_neg hmay]
    rfl

/-! ## What is counted

Only a poll changes how many datagrams were sent. This has to be known of every part of
every action. -/

/-- Exactly what is handed out is counted. -/
theorem sent_produceDatagrams (c : Connection ε σ) (now : Instant) (w : σ) :
    (c.produceDatagrams now w).1.2.stats.datagramsSent =
      c.stats.datagramsSent + (c.produceDatagrams now w).1.1.length := by
  by_cases hmay : c.maySend = true
  · rcases produceDatagrams_cases hmay now w with ⟨e, -, heq⟩ | ⟨-, c', heq, hsent⟩
    · rw [heq]
      exact ((attends_onTransportError _ e now).trans (attends_flush _ w)).sent
    · rw [heq, hsent]
  · rw [produceDatagrams, if_neg hmay]
    rfl

theorem sent_returnCredit (c : Connection ε σ) (id : StreamId) (n : Nat) :
    (c.returnCredit id n).stats.datagramsSent = c.stats.datagramsSent := by
  rw [returnCredit]
  split <;> rfl

theorem sent_process (c : Connection ε σ) (datagram : Bytes) (now : Instant) :
    (c.process datagram now).stats.datagramsSent = c.stats.datagramsSent := by
  rw [process]
  split
  · exact ((attends_touch _ now).trans (attends_applyCallbacks _ now _)).sent
  · exact ((attends_applyCallbacks _ now _).trans (attends_onTransportError _ _ now)).sent

/-- A timer hands out no datagram. -/
theorem sent_fire (c : Connection ε σ) (now : Instant) (timer : Timer) :
    (c.fire now timer).stats.datagramsSent = c.stats.datagramsSent := by
  by_cases hclosed : c.state = .closed
  · rw [fire.eq_def, if_pos hclosed]
  rw [fire.eq_def, if_neg hclosed]
  cases timer with
  | drain => exact c.attends_finish.sent
  | idle => exact (attends_onIdleTimeout _ now).sent
  | engine =>
    dsimp only
    split
    · rfl
    rw [runEngineTimer]
    split
    · exact (attends_applyCallbacks _ now _).sent
    · exact (attends_onTransportError _ _ now).sent

/-- Timers hand out no datagram, by induction on those that are due. -/
theorem sent_timedOut (c : Connection ε σ) (now : Instant) :
    (c.timedOut now).stats.datagramsSent = c.stats.datagramsSent := by
  have hfired (timers : List Timer) (c : Connection ε σ) :
      (timers.foldl (fun c timer => c.fire now timer) c).stats.datagramsSent =
        c.stats.datagramsSent := by
    induction timers generalizing c with
    | nil => rfl
    | cons timer rest ih => exact (ih _).trans (c.sent_fire now timer)
  exact hfired _ _

/-- How many datagrams the host was handed. -/
def Entry.sent (e : Entry ε σ) : Nat := e.answer.datagramCount

/-- What is counted as sent is what is handed out. -/
theorem sent_perform (m : Moment ε σ) (a : Action ε σ) :
    (m.perform a).2.connection.stats.datagramsSent =
      m.connection.stats.datagramsSent + (Entry.mk m a).sent := by
  have hflush (c : Connection ε σ) (w : σ) :
      (c.flush w).1.2.stats.datagramsSent = c.stats.datagramsSent :=
    (c.attends_flush w).sent
  cases a with
  | openStream d =>
    change (m.connection.openStream d).2.stats.datagramsSent = _
    rw [openStream]
    split
    · rfl
    · split <;> rfl
  | write id data fin =>
    change (m.connection.write id data fin).2.stats.datagramsSent = _
    rw [write]
    split
    · rfl
    split
    · rfl
    · dsimp only
      split <;> rfl
  | read id maxLen =>
    change (m.connection.read id maxLen m.world).1.2.stats.datagramsSent = _
    rw [read]
    rcases m.connection.streams.read id maxLen with ⟨e | out, s⟩
    · rfl
    · exact (hflush _ m.world).trans (sent_returnCredit _ id _)
  | resetStream id errorCode =>
    change (m.connection.resetStream id errorCode m.world).1.2.stats.datagramsSent = _
    rw [resetStream]
    split
    · rfl
    rcases m.connection.streams.resetStream id with ⟨e | _, s⟩
    · rfl
    · exact hflush _ m.world
  | stopSending id errorCode =>
    change (m.connection.stopSending id errorCode m.world).1.2.stats.datagramsSent = _
    rw [stopSending]
    split
    · rfl
    rcases m.connection.streams.stopSending id with ⟨e | released, s⟩
    · rfl
    · exact hflush _ m.world
  | close errorCode reason now =>
    change (m.connection.close errorCode reason now m.world).1.2.stats.datagramsSent = _
    have hannounced :=
      (m.connection.attends_announceClose ⟨.localClose, errorCode, reason⟩ now).sent
    rw [close]
    cases m.connection.state with
    | closed => rfl
    | draining => rfl
    | _ => exact (hflush _ m.world).trans hannounced
  | ingest datagram now =>
    change (m.connection.ingest datagram now m.world).1.2.stats.datagramsSent = _
    rw [ingest]
    split
    · rfl
    dsimp only
    split
    · rfl
    · exact (hflush _ m.world).trans (sent_process _ datagram now)
  | produceDatagrams now => exact sent_produceDatagrams m.connection now m.world
  | onTimeout now =>
    change (m.connection.onTimeout now m.world).1.stats.datagramsSent = _
    by_cases hclosed : m.connection.state = .closed
    · rw [onTimeout, if_pos hclosed]
      rfl
    · rw [onTimeout_eq hclosed]
      exact (hflush _ m.world).trans (sent_timedOut _ now)
  -- a handler, a flush or a poll of events goes nowhere near the engine
  | _ => rfl

/-- Over a session, the count grows by the number of datagrams that are handed out. -/
theorem Session.sent_steps (s : Session ε σ) (actions : List (Action ε σ))
    (h : s.connection.stats.datagramsSent = (s.history.map Entry.sent).sum) :
    (s.steps actions).connection.stats.datagramsSent =
      ((s.steps actions).history.map Entry.sent).sum := by
  induction actions generalizing s with
  | nil => exact h
  | cons a rest ih =>
    refine ih (s.step a) ?_
    change (s.moment.perform a).2.connection.stats.datagramsSent = _
    rw [sent_perform, step, List.map_append, List.sum_append, ← h, List.map_singleton,
      List.sum_singleton]
    rfl

/-- Actions that change nothing change nothing one after the other. -/
theorem Session.moment_steps_of_fixed {s : Session ε σ} {actions : List (Action ε σ)}
    (h : ∀ a ∈ actions, (s.moment.perform a).2 = s.moment) :
    (s.steps actions).moment = s.moment := by
  induction actions generalizing s with
  | nil => rfl
  | cons a rest ih =>
    rw [List.forall_mem_cons] at h
    have hfirst : (s.step a).moment = s.moment := h.1
    have hrest := ih (s := s.step a) (hfirst ▸ h.2)
    exact hrest.trans hfirst

/-! ## Sessions

The number counted is the sum over the polls of a session. -/

/-- **What the host is handed.** Over any engine, in any session, whenever the host asks
for datagrams: if the engine does not fail meanwhile, the host is handed all datagrams
that the engine has written, in their order; and if it fails, none of them. So what was
written is handed out unless the engine has failed after it wrote something. The number
of datagrams that are counted as sent is always that of the datagrams handed out. -/
theorem polls_all_or_nothing (side : Side) (settings : ConnectionSettings)
    (scid dcid : ConnectionId) (engine : ε) (start : Instant) (w : σ)
    (actions : List (Action ε σ)) (now : Instant) :
    let s := (Session.begin side settings scid dcid engine start w).steps actions
    let maxLen := s.connection.adapter.maxUdpPayloadSize
    let answers := s.connection.answers now
    let sent := (s.connection.produceDatagrams now s.moment.world).1.1
    sent = (if answers.any (fails maxLen) = true then [] else written maxLen answers) ∧
      ((∀ d ∈ written maxLen answers, d ∈ sent) ↔
        (answers.any (fails maxLen) = true → written maxLen answers = [])) ∧
      s.connection.stats.datagramsSent = (s.history.map Entry.sent).sum := by
  intro s maxLen answers sent
  have hsent : sent =
      if answers.any (fails maxLen) = true then [] else written maxLen answers :=
    s.connection.produceDatagrams_eq now s.moment.world
  refine ⟨hsent, ?_, Session.sent_steps _ actions ?_⟩
  · rw [hsent]
    split
    · next hfails =>
      refine ⟨fun hall _ => ?_, fun hnone d hd => hnone hfails ▸ hd⟩
      exact List.eq_nil_iff_forall_not_mem.2 fun d hd => List.not_mem_nil (hall d hd)
    · next hfine => exact ⟨fun _ h => absurd h hfine, fun _ d hd => hd⟩
  · rw [Session.begin, Session.connection, Connection.new, touch_eq rfl]
    rfl

/-- An engine that writes a datagram and then fails, once. -/
def failsAfterWriting : ForcedEngine ScriptedEngine :=
  ⟨{ writeFailure := some .malformed }, [⟨[1, 2, 3], 3⟩]⟩

/-- The engine writes a datagram that nobody is handed, neither at once nor at any later
time, and no failure comes after the first. -/
theorem polls_lose_written :
    let s := Session.begin .client {} ⟨[], by decide⟩ ⟨[], by decide⟩ failsAfterWriting ⟨0⟩ ()
    written 1200 (s.connection.answers ⟨1⟩) = [[1, 2, 3]] ∧
      (s.connection.produceDatagrams ⟨1⟩ ()).1.1 = [] ∧
      ∀ (later : List Instant) (now : Instant),
        let s' := (s.step (.produceDatagrams ⟨1⟩)).steps (later.map .produceDatagrams)
        s'.connection.answers now = [.ok ⟨[], 0⟩] ∧
          (s'.connection.produceDatagrams now ()).1.1 = [] := by
  intro s
  refine ⟨by decide, by decide, fun later now => ?_⟩
  -- nothing changes any more, however often the host asks
  have hsame : ((s.step (.produceDatagrams ⟨1⟩)).steps (later.map .produceDatagrams)).moment =
      (s.step (.produceDatagrams ⟨1⟩)).moment := by
    refine Session.moment_steps_of_fixed fun a ha => ?_
    obtain ⟨t, -, rfl⟩ := List.mem_map.1 ha
    rfl
  intro s'
  rw [Session.connection, hsame]
  exact ⟨rfl, rfl⟩

end QuicHost.Connection
