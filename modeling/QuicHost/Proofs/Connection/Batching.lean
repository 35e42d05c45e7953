import QuicHost.Proofs.Connection.Blind
import QuicHost.Proofs.Dispatcher.Early

/-!
# One datagram or several

It does not matter to a connection how callbacks are spread over datagrams that
arrive at the same time. Reported with one datagram, they are acted on until the
connection is closing, and then events are delivered. Reported with a datagram
each, events are delivered after each callback, the idle timer is started again
and again, and once the connection is closing whole datagrams are dropped. As long
as no handler fails, the outcome is the same, but for what is remembered of the
datagrams themselves (`indifferent_to_batching`).

Three things make it so. What a connection does depends neither on what was
delivered already nor on datagrams (`Blind`). Delivering early changes nothing
(`dispatch_early`). And starting the idle timer twice at the same time changes
nothing: callbacks leave it as it was started, or start it themselves (`HeardAt`).
-/

namespace QuicHost

/-- The record with one more datagram, which the engine has reacted to. -/
def DatagramRecord.taken (r : DatagramRecord) (datagram : Bytes) : DatagramRecord :=
  { r with
    datagramsReceived := r.datagramsReceived + 1
    bytesReceived := r.bytesReceived + datagram.length
    received := r.received ++ [datagram]
    reactions := r.reactions.tail }

namespace Connection

open EventDispatcher (Delivery)

variable {ε σ : Type}

/-! ## Taking in datagrams

What comes of a datagram and of several, with the events delivered and the state of the
application. A datagram at a closing connection is counted and dropped. -/

/-- What comes of taking in datagrams. -/
structure Intake (σ : Type) where
  /-- what was delivered meanwhile -/
  deliveries : List Delivery
  /-- the connection afterwards -/
  connection : Connection ScriptedEngine σ
  /-- the application's state afterwards -/
  world : σ

/-- Takes in a datagram. What is queued after it was processed is delivered. A
connection that is closing processes nothing. -/
def intake (c : Connection ScriptedEngine σ) (now : Instant) (w : σ) (datagram : Bytes) :
    Intake σ where
  deliveries :=
    if c.state.isClosing then []
    else ((c.counted datagram).process datagram now).pump.dispatcher.rounds w
  connection := (c.ingest datagram now w).1.2
  world := (c.ingest datagram now w).2

/-- What comes of both, the second of which goes on from the first. -/
def Intake.andThen (first later : Intake σ) : Intake σ :=
  ⟨first.deliveries ++ later.deliveries, later.connection, later.world⟩

/-- Takes in datagrams, one after the other, all at the same time. -/
def intakes (c : Connection ScriptedEngine σ) (now : Instant) (w : σ) : List Bytes → Intake σ
  | [] => ⟨[], c, w⟩
  | datagram :: rest =>
    let first := c.intake now w datagram
    first.andThen (first.connection.intakes now first.world rest)

/-- The connection, with reactions of its engine to further datagrams. -/
def expecting (c : Connection ScriptedEngine σ) (reactions : List Reaction) :
    Connection ScriptedEngine σ :=
  c.modifyScript fun e => reactions.foldl .expectDatagram e

/-- Callbacks are reported together, with one datagram. -/
def together (c : Connection ScriptedEngine σ) (now : Instant) (w : σ) (datagram : Bytes)
    (callbacks : List Callback) : Intake σ :=
  (c.expecting [.ok callbacks]).intake now w datagram

/-- Callbacks are reported apart, each with a datagram of its own. -/
def apart (c : Connection ScriptedEngine σ) (now : Instant) (w : σ)
    (reports : List (Callback × Bytes)) : Intake σ :=
  (c.expecting (reports.map fun report => .ok [report.1])).intakes now w (reports.map Prod.snd)

/-- The connection but for what it and its engine remember of datagrams: how many
there were, which ones, and which reactions are left. -/
def sansDatagrams (c : Connection ScriptedEngine σ) : Connection ScriptedEngine σ :=
  { c with
    adapter := c.adapter.modifyEngine fun e => { e with received := [], datagramReactions := [] }
    stats.datagramsReceived := 0
    stats.bytesReceived := 0
    stats.datagramsAbsorbed := 0 }

/-- The same of what came of taking in datagrams. -/
def Intake.sansDatagrams (i : Intake σ) : Intake σ :=
  { i with connection := i.connection.sansDatagrams }

/-! ## The idle timer

A connection that was heard of now has the idle timer that it would get by being heard of
again. This makes the second datagram as good as none. -/

/-- The connection was heard of at this time, unless it is closing: its handshake
has begun, and its idle timer was started. -/
def HeardAt (now : Instant) (c : Connection ε σ) : Prop :=
  c.state.isClosing = true ∨
    c.state ≠ .initiating ∧ c.timers.idle = c.idleTimeout.map now.saturatingAdd

/-- The handshake has begun. -/
def begun (c : Connection ε σ) : Connection ε σ :=
  { c with state := if c.state = ConnectionState.initiating then .handshaking else c.state }

/-- The connection when it has heard of a datagram and not acted on it. -/
def hear (c : Connection ε σ) (now : Instant) : Connection ε σ := c.begun.touch now

section

variable {c c' : Connection ε σ} {now : Instant} {ks : List Cause}

/-- To begin the handshake is not to close. -/
theorem isClosing_begun (c : Connection ε σ) :
    c.begun.state.isClosing = c.state.isClosing := by
  rw [begun]
  dsimp only
  split
  · next h => rw [h]; rfl
  · rfl

theorem begun_eq (h : c.state ≠ .initiating) : c.begun = c := by
  rw [begun, if_neg h]

theorem begun_ne_initiating (c : Connection ε σ) : c.begun.state ≠ .initiating := by
  rw [begun]
  dsimp only
  split
  · exact nofun
  · assumption

theorem isClosing_hear (c : Connection ε σ) (now : Instant) :
    (c.hear now).state.isClosing = c.state.isClosing := by
  rw [hear, touch]
  split
  · exact c.isClosing_begun
  · exact c.isClosing_begun

theorem heardAt_hear (hopen : c.state.isClosing = false) (now : Instant) :
    (c.hear now).HeardAt now := by
  rw [hear, touch_eq (c.isClosing_begun.trans hopen)]
  exact .inr ⟨c.begun_ne_initiating, rfl⟩

/-- Hearing again at the same time changes nothing. -/
theorem HeardAt.hear_eq (h : c.HeardAt now) (hopen : c.state.isClosing = false) :
    c.hear now = c := by
  obtain ⟨hbegun, hidle⟩ := h.resolve_left (Bool.eq_false_iff.1 hopen)
  rw [hear, begun_eq hbegun, touch_eq hopen, ← hidle]
  rfl

/-- Where state and timers stay, the connection was heard of at the same time. -/
theorem HeardAt.rests (h : c.HeardAt now) (hrests : c.Rests c') : c'.HeardAt now := by
  rcases h with hclosing | ⟨hbegun, hidle⟩
  · exact .inl (hrests.isClosing.trans hclosing)
  · refine .inr ⟨?_, ?_⟩
    · rcases hrests.state with heq | ⟨-, heq⟩
      · rwa [heq]
      · rw [heq]
        exact nofun
    · rw [hrests.idle, hrests.idleTimeout, hidle]

/-- A move closes the connection, or starts the idle timer at the time at which it was heard
of. -/
theorem HeardAt.move (h : c.HeardAt now) (hmove : c.Move now ks c') : c'.HeardAt now := by
  cases hmove with
  | rests hrests => exact h.rests hrests
  | heard hopen =>
    obtain ⟨hbegun, -⟩ := h.resolve_left (Bool.eq_false_iff.1 hopen)
    rw [touch_eq hopen]
    exact .inr ⟨hbegun, rfl⟩
  | completed peer hopen hnew =>
    rw [completeHandshake_eq hnew]
    exact .inr ⟨nofun, rfl⟩
  | drained a announced reason hopen =>
    rw [enterDraining_eq (by exact hopen)]
    exact .inl rfl
  | finished hdraining =>
    rw [finish_eq (ne_closed_of_draining hdraining)]
    exact .inl rfl
  | failed reason hhandshaking =>
    rw [finishWith_eq (ne_closed_of_open (open_of_handshaking hhandshaking))]
    exact .inl rfl
  | exhausted hlive =>
    rw [finishWith_eq hlive]
    exact .inl rfl

theorem HeardAt.applyCallbacks [PacketEngine ε] (h : c.HeardAt now) (callbacks : List Callback) :
    (c.applyCallbacks now callbacks).HeardAt now := by
  obtain ⟨_, hmoves, -⟩ := c.moves_applyCallbacks now callbacks
  exact hmoves.keeps HeardAt.move h

end

/-! ## One datagram

Processing one datagram is hearing of it, acting on its callbacks, and delivering. Nothing
of this looks at the record of datagrams. -/

/-- The connection has acted on callbacks, and the events of its streams are
queued. -/
def settle [PacketEngine ε] (c : Connection ε σ) (now : Instant) (callbacks : List Callback) :
    Connection ε σ :=
  (c.applyCallbacks now callbacks).pump

/-- What is queued is delivered. -/
def delivering (c : Connection ScriptedEngine σ) (w : σ) : Intake σ :=
  ⟨c.dispatcher.rounds w, { c with dispatcher := (c.dispatcher.dispatch w).1.2 },
    (c.dispatcher.dispatch w).2⟩

section

variable {c : Connection ScriptedEngine σ} {now : Instant} {w : σ} {d : EventDispatcher σ}
  {r s : DatagramRecord} {datagram : Bytes} {callbacks : List Callback}
  {reports : List (Callback × Bytes)}

/-- Acting on callbacks does not look at the dispatcher or at the record of datagrams. -/
theorem blind_settle (c : Connection ScriptedEngine σ) (now : Instant)
    (callbacks : List Callback) : Blind (·.settle now callbacks) c :=
  (c.blind_applyCallbacks now callbacks).comp (blind_pump _)

/-- Callbacks may be acted on in two goes. -/
theorem settle_cons (hopen : c.state.isClosing = false) (now : Instant) (callback : Callback)
    (rest : List Callback) :
    c.settle now (callback :: rest) = (c.settle now [callback]).settle now rest := by
  simp only [settle, applyCallbacks_of_open hopen]
  rfl

theorem HeardAt.settle (h : c.HeardAt now) (callbacks : List Callback) :
    (c.settle now callbacks).HeardAt now :=
  (h.applyCallbacks callbacks).rests (rests_pump _)

/-- Processing a datagram for which a reaction is scripted is hearing of it, and acting on
the callbacks. -/
theorem process_recast (hr : r.reactions.head? = some (.ok callbacks)) :
    ((c.recast d r).counted datagram).process datagram now
      = ((c.hear now).recast d (r.taken datagram)).applyCallbacks now callbacks := by
  have hingest : ((c.recast d r).counted datagram).adapter.ingest datagram now
      = (.ok callbacks, c.adapter.modifyEngine (·.recast (r.taken datagram))) := by
    have hread : PacketEngine.readDatagram ((c.recast d r).counted datagram).adapter.engine
        datagram now
        = (.ok (), { c.adapter.engine.recast (r.taken datagram) with callbacks := callbacks }) := by
      change (c.adapter.engine.recast r).readDatagram datagram = _
      simp only [ScriptedEngine.readDatagram, ScriptedEngine.recast, hr, ScriptedEngine.react,
        DatagramRecord.taken, List.nil_append]
    simp only [EngineAdapter.ingest, hread]
    rfl
  rw [process, hingest, hear, ← touch_recast]
  rfl

/-- An open connection acts on a datagram and delivers. -/
theorem intake_recast (hopen : c.state.isClosing = false)
    (hr : r.reactions.head? = some (.ok callbacks)) :
    (c.recast d r).intake now w datagram
      = (((c.hear now).recast d (r.taken datagram)).settle now callbacks).delivering w := by
  have hlive : (c.recast d r).state ≠ .closed := ne_closed_of_open hopen
  have hdraining : ((c.recast d r).counted datagram).state ≠ .draining := fun hdraining =>
    Bool.eq_false_iff.1 hopen (isClosing_iff.2 (.inl hdraining))
  have hingest : (c.recast d r).ingest datagram now w
      = (((c.recast d r).counted datagram).process datagram now).flushWith (.ok ()) w := by
    rw [ingest, if_neg hlive]
    exact congrFun (if_neg hdraining) w
  rw [intake, if_neg (by exact Bool.eq_false_iff.1 hopen), hingest, process_recast hr]
  rfl

/-- A connection that is closing drops a datagram. -/
theorem intake_of_closing (hclosing : c.state.isClosing = true) (now : Instant) (w : σ)
    (datagram : Bytes) :
    ∃ c', c.intake now w datagram = ⟨[], c', w⟩ ∧ c'.sansDatagrams = c.sansDatagrams := by
  rw [intake, if_pos hclosing, ingest]
  by_cases hclosed : c.state = .closed
  · rw [if_pos hclosed]
    exact ⟨c, rfl, rfl⟩
  · have hdraining := (isClosing_iff.1 hclosing).resolve_right hclosed
    rw [if_neg hclosed]
    simp only [if_pos hdraining]
    exact ⟨_, rfl, rfl⟩

/-- A closing connection takes nothing in, but for counting. -/
theorem intakes_of_closing (hclosing : c.state.isClosing = true) (now : Instant) (w : σ)
    (datagrams : List Bytes) :
    (c.intakes now w datagrams).sansDatagrams = ⟨[], c.sansDatagrams, w⟩ := by
  induction datagrams generalizing c with
  | nil => rfl
  | cons datagram rest ih =>
    obtain ⟨c', hfirst, hsame⟩ := intake_of_closing hclosing now w datagram
    have hstill : c'.state = c.state := (congrArg state hsame :)
    rw [intakes, hfirst, ← hsame]
    exact ih ((congrArg _ hstill).trans hclosing)

theorem sansDatagrams_andThen (first later : Intake σ) :
    (first.andThen later).sansDatagrams = first.andThen later.sansDatagrams := rfl

theorem sansDatagrams_delivering (c : Connection ScriptedEngine σ) (d : EventDispatcher σ)
    (r : DatagramRecord) (w : σ) :
    ((c.recast d r).delivering w).sansDatagrams
      = ⟨d.rounds w, c.recast (d.dispatch w).1.2 {}, (d.dispatch w).2⟩ := rfl

/-! ## Several datagrams

Datagrams that come one after the other are processed one after the other; those that find
the connection closing leave no trace but in the record. -/

/-- A connection that has been heard of at this time may deliver before it acts on
further callbacks, which a datagram of their own reports. -/
theorem andThen_intake (hunfailing : d.Unfailing) (hheard : c.HeardAt now) (hpumped : c.pump = c)
    (hs : s.reactions.head? = some (.ok callbacks)) (r₁ r₂ : DatagramRecord) (w : σ)
    (datagram : Bytes) :
    (((c.recast d r₁).delivering w).andThen
        ((c.recast (d.dispatch w).1.2 s).intake now (d.dispatch w).2 datagram)).sansDatagrams
      = (((c.recast d r₂).settle now callbacks).delivering w).sansDatagrams := by
  cases hopen : c.state.isClosing with
  | true =>
    -- the datagram is dropped, and so are the callbacks
    obtain ⟨c', hdropped, hsame⟩ := intake_of_closing (c := c.recast (d.dispatch w).1.2 s) hopen
      now (d.dispatch w).2 datagram
    have hsettled : (c.recast d r₂).settle now callbacks = c.recast d r₂ := by
      rw [settle, applyCallbacks_of_closing (c := c.recast d r₂) hopen, ← hpumped]
      rfl
    rw [hdropped, hsettled, sansDatagrams_andThen]
    have hlog : d.rounds w ++ [] = d.rounds w := List.append_nil _
    exact congrArg₂ (fun log c => (⟨log, c, (d.dispatch w).2⟩ : Intake σ)) hlog hsame
  | false =>
    obtain ⟨es, hsettled⟩ := c.blind_settle now callbacks
    dsimp only at hsettled
    obtain ⟨hrounds, hdispatch⟩ := hunfailing.dispatch_early w es
    rw [intake_recast hopen hs, hheard.hear_eq hopen, hsettled, hsettled,
      sansDatagrams_andThen, sansDatagrams_delivering, sansDatagrams_delivering, hrounds,
      hdispatch]
    rfl

/-- Datagrams that report one callback each, and one that reports all of them, come
to the same. The induction goes over the datagrams: what is left to do after the
first one begins with a connection that has delivered its events, and the other
connection, which has them still queued, behaves alike. -/
theorem sansDatagrams_intakes (hunfailing : d.Unfailing) (hreports : reports ≠ [])
    (hr : ∃ more, r.reactions = (reports.map fun report => .ok [report.1]) ++ more)
    (hs : s.reactions.head? = some (.ok (reports.map Prod.fst))) :
    ((c.recast d r).intakes now w (reports.map Prod.snd)).sansDatagrams
      = ((c.recast d s).intake now w datagram).sansDatagrams := by
  -- on the reports; the last one is its own case, as the run has to leave what handling
  -- them all at once leaves
  induction reports generalizing c d r s w with
  | nil => exact absurd rfl hreports
  | cons report rest ih =>
    obtain ⟨more, hr⟩ := hr
    cases hopen : c.state.isClosing with
    | true =>
      obtain ⟨c', hdropped, hsame⟩ := intake_of_closing (c := c.recast d s) hopen now w datagram
      have hall := intakes_of_closing (c := c.recast d r) hopen now w
        ((report :: rest).map Prod.snd)
      rw [hall, hdropped]
      exact congrArg (fun c => (⟨[], c, w⟩ : Intake σ)) hsame.symm
    | false =>
      have hnext : r.reactions.head? = some (.ok [report.1]) := by rw [hr]; rfl
      obtain ⟨es, hfirst⟩ := (c.hear now).blind_settle now [report.1]
      dsimp only at hfirst
      rw [List.map_cons, intakes, intake_recast hopen hnext, intake_recast hopen hs, hfirst]
      cases rest with
      | nil =>
        rw [List.map_cons, List.map_nil, List.map_nil, hfirst, intakes, sansDatagrams_andThen]
        exact congrArg (fun log => (⟨log, _, _⟩ : Intake σ)) (List.append_nil _)
      | cons another rest =>
        have hstarted : (c.hear now).state.isClosing = false := (c.isClosing_hear now).trans hopen
        have hheard := (heardAt_hear hopen now).settle [report.1]
        have hpumped : ((c.hear now).settle now [report.1]).pump
            = (c.hear now).settle now [report.1] := rfl
        have hlater := ih (c := (c.hear now).settle now [report.1]) (r := r.taken report.2)
          (s := { reactions := [.ok ((another :: rest).map Prod.fst)] })
          (w := ((es.foldl EventDispatcher.push d).dispatch w).2)
          ((hunfailing.foldl_push es).dispatch w) (by simp)
          ⟨more, by rw [DatagramRecord.taken, hr]; rfl⟩ rfl
        -- handing over the rest after the first report is the hypothesis for a connection
        -- that was already heard
        have hstep := andThen_intake (hunfailing.foldl_push es) hheard hpumped
          (s := { reactions := [.ok ((another :: rest).map Prod.fst)] }) rfl
          (r.taken report.2) (s.taken datagram) w datagram
        rw [List.map_cons (f := Prod.fst), settle_cons (c := (c.hear now).recast _ _) hstarted,
          hfirst, ← hstep, sansDatagrams_andThen, sansDatagrams_andThen, ← hlater]
        rfl

/-! ## Reports

The script makes the engine report callbacks together or apart. Where nothing is left of
an earlier script, both come to the same callbacks. -/

/-- What a connection remembers of datagrams when its engine is to react to further
ones. -/
def record (c : Connection ScriptedEngine σ) (reactions : List Reaction) : DatagramRecord where
  datagramsReceived := c.stats.datagramsReceived
  bytesReceived := c.stats.bytesReceived
  datagramsAbsorbed := c.stats.datagramsAbsorbed
  received := c.adapter.engine.received
  reactions := reactions

/-- Expectations are queued. -/
theorem foldl_expectDatagram (e : ScriptedEngine) (reactions : List Reaction) :
    reactions.foldl .expectDatagram e
      = { e with datagramReactions := e.datagramReactions ++ reactions } := by
  induction reactions generalizing e with
  | nil => rw [List.append_nil]; rfl
  | cons first rest ih =>
    rw [List.foldl_cons, ih]
    simp only [ScriptedEngine.expectDatagram, List.append_assoc, List.singleton_append]

/-- Expecting reactions changes the record of datagrams, and nothing else. -/
theorem expecting_eq (hcallbacks : c.engine.callbacks = [])
    (hscript : c.engine.datagramReactions = []) (reactions : List Reaction) :
    c.expecting reactions = c.recast c.dispatcher (c.record reactions) := by
  have hengine : reactions.foldl .expectDatagram c.adapter.engine
      = c.adapter.engine.recast (c.record reactions) := by
    have hcallbacks' : c.adapter.engine.callbacks = [] := hcallbacks
    have hscript' : c.adapter.engine.datagramReactions = [] := hscript
    rw [foldl_expectDatagram, hscript', List.nil_append, ScriptedEngine.recast, ← hcallbacks']
    rfl
  rw [expecting, modifyScript, EngineAdapter.modifyEngine, hengine]
  rfl

/-- Datagrams in two parts. -/
theorem intakes_append (c : Connection ScriptedEngine σ) (now : Instant) (w : σ)
    (datagrams more : List Bytes) :
    c.intakes now w (datagrams ++ more)
      = (c.intakes now w datagrams).andThen ((c.intakes now w datagrams).connection.intakes now
          (c.intakes now w datagrams).world more) := by
  induction datagrams generalizing c w with
  | nil => rfl
  | cons datagram rest ih =>
    rw [List.cons_append, intakes, ih, intakes]
    simp only [Intake.andThen, List.append_assoc]

/-- Datagrams that arrive when the connection is closing have no effect. -/
theorem intakes_append_of_closing (datagrams more : List Bytes)
    (hclosing : (c.intakes now w datagrams).connection.state.isClosing = true) :
    (c.intakes now w (datagrams ++ more)).sansDatagrams
      = (c.intakes now w datagrams).sansDatagrams := by
  rw [intakes_append, sansDatagrams_andThen, intakes_of_closing hclosing]
  exact congrArg (fun log => (⟨log, _, _⟩ : Intake σ)) (List.append_nil _)

/-- Callbacks behind the ones that close the connection have no effect. -/
theorem sansDatagrams_apart_append (hcallbacks : c.engine.callbacks = [])
    (hscript : c.engine.datagramReactions = []) (hunfailing : c.dispatcher.Unfailing)
    {before : List (Callback × Bytes)} (after : List (Callback × Bytes)) (hbefore : before ≠ [])
    (hclosing : (c.apart now w before).connection.state.isClosing = true) :
    (c.apart now w (before ++ after)).sansDatagrams = (c.apart now w before).sansDatagrams := by
  rw [apart, expecting_eq hcallbacks hscript] at hclosing
  rw [apart, apart, expecting_eq hcallbacks hscript, expecting_eq hcallbacks hscript,
    List.map_append, List.map_append]
  -- the reactions to datagrams that are still to come make no difference
  have hbatch (r : DatagramRecord)
      (hr : ∃ more, r.reactions = (before.map fun report => .ok [report.1]) ++ more) :
      ((c.recast c.dispatcher r).intakes now w (before.map Prod.snd)).sansDatagrams
        = ((c.recast c.dispatcher { reactions := [.ok (before.map Prod.fst)] }).intake now w
            []).sansDatagrams :=
    sansDatagrams_intakes hunfailing hbefore hr rfl
  have hcommon := (hbatch (c.record ((before.map fun report => .ok [report.1]) ++
    after.map fun report => .ok [report.1])) ⟨_, rfl⟩).trans
      (hbatch (c.record (before.map fun report => .ok [report.1]))
        ⟨[], (List.append_nil _).symm⟩).symm
  have hstate := (congrArg (fun i : Intake σ => i.connection.state) hcommon :)
  rw [intakes_append_of_closing _ _ ((congrArg ConnectionState.isClosing hstate).trans hclosing),
    hcommon]

end

/-- **Indifference to batching.** While no handler fails, a connection over the
scripted engine, with no callbacks left and no reactions scripted, comes to the same
by datagrams that report one callback each and by a single one that reports all of
them, if they arrive at the same time: events are delivered to the same targets, in
the same order, and the application and the connection are left in the same state,
but for the record of datagrams. Once the connection is closing, further callbacks
have no effect, however they are reported. -/
theorem indifferent_to_batching (c : Connection ScriptedEngine σ) (now : Instant) (w : σ)
    (datagram : Bytes) (reports : List (Callback × Bytes)) (hcallbacks : c.engine.callbacks = [])
    (hscript : c.engine.datagramReactions = []) (hunfailing : c.dispatcher.Unfailing)
    (hreports : reports ≠ []) :
    (c.apart now w reports).sansDatagrams
        = (c.together now w datagram (reports.map Prod.fst)).sansDatagrams ∧
      ∀ before after, reports = before ++ after → before ≠ [] →
        (c.apart now w before).connection.state.isClosing = true →
          (c.apart now w reports).sansDatagrams = (c.apart now w before).sansDatagrams ∧
            (c.together now w datagram (reports.map Prod.fst)).sansDatagrams
              = (c.together now w datagram (before.map Prod.fst)).sansDatagrams := by
  have hsame (reports : List (Callback × Bytes)) (hreports : reports ≠ []) :
      (c.apart now w reports).sansDatagrams
        = (c.together now w datagram (reports.map Prod.fst)).sansDatagrams := by
    rw [apart, together, expecting_eq hcallbacks hscript, expecting_eq hcallbacks hscript]
    exact sansDatagrams_intakes hunfailing hreports ⟨[], (List.append_nil _).symm⟩ rfl
  refine ⟨hsame reports hreports, ?_⟩
  rintro before after rfl hbefore hclosing
  have hapart := sansDatagrams_apart_append hcallbacks hscript hunfailing after hbefore hclosing
  exact ⟨hapart, (hsame _ hreports).symm.trans (hapart.trans (hsame before hbefore))⟩

/-- A client whose handler counts the events. -/
def counting : Connection ScriptedEngine Nat :=
  (Connection.new .client {} .empty .empty {} ⟨0⟩).modifyDispatcher
    (·.setConnectionHandler fun _ n => (.ok (), n + 1))

/-- Counting does not fail. -/
theorem unfailing_counting : counting.dispatcher.Unfailing := by
  intro target handle hget e w
  cases target with
  | connection =>
    obtain rfl := Option.some.inj hget
    rfl
  | _ => cases hget

/-- The peer completes the handshake, and closes the connection. -/
def goodbye : List (Callback × Bytes) :=
  [(.handshakeCompleted { maxIdleTimeoutMs := 10 }, [1]), (.connectionClose 7 [], [2, 2])]

/-- Behind that, it raises a limit, which has no effect. -/
def afterthought : List (Callback × Bytes) := [(.maxData 9, [3])]

/-- The callbacks behind the closing have no effect, whether they come with it or after it. -/
theorem indifferent_to_batching_counting :
    (counting.engine.callbacks = [] ∧ counting.engine.datagramReactions = [] ∧
        counting.dispatcher.Unfailing ∧ goodbye ++ afterthought ≠ [] ∧ goodbye ≠ [] ∧
        (counting.apart ⟨5⟩ 0 goodbye).connection.state.isClosing = true) ∧
      (counting.apart ⟨5⟩ 0 (goodbye ++ afterthought)).sansDatagrams
        = (counting.together ⟨5⟩ 0 [8]
            ((goodbye ++ afterthought).map Prod.fst)).sansDatagrams ∧
      (counting.apart ⟨5⟩ 0 (goodbye ++ afterthought)).sansDatagrams
        = (counting.apart ⟨5⟩ 0 goodbye).sansDatagrams ∧
      (counting.together ⟨5⟩ 0 [8] ((goodbye ++ afterthought).map Prod.fst)).sansDatagrams
        = (counting.together ⟨5⟩ 0 [8] (goodbye.map Prod.fst)).sansDatagrams := by
  have hclosing : (counting.apart ⟨5⟩ 0 goodbye).connection.state.isClosing = true := rfl
  obtain ⟨hsame, hclosed⟩ := indifferent_to_batching counting ⟨5⟩ 0 [8]
    (goodbye ++ afterthought) rfl rfl unfailing_counting nofun
  exact ⟨⟨rfl, rfl, unfailing_counting, nofun, nofun, hclosing⟩, hsame,
    hclosed goodbye afterthought rfl nofun hclosing⟩

end Connection

end QuicHost
