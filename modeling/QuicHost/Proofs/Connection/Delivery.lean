import QuicHost.Proofs.Connection.Conveying

/-!
# What is written is sent

What a connection accepts on a stream goes out in order, once and whole
(`writes_delivered`). The bytes pass a queue that all streams share, are cut
where datagrams end, and share that queue with streams that are abandoned and
lose what they had there.

Two things carry the proof. While the connection is open, what was sent of a
stream and what waits to be sent have the tape of what was accepted, unless the
stream was abandoned; and a stream that has ended or was abandoned is shut, so
nothing is accepted behind its end.
-/

namespace QuicHost

/-- Whether the peer asks us not to send on a stream. -/
def Callback.stops (id : StreamId) : Callback → Bool
  | .stopSending id' _ => decide (id' = id)
  | _ => false

namespace Connection

variable {σ : Type}

/-! ## Runs

What is observed of a run about one stream: what was accepted, whether its end was, what
was sent, and whether there was a reason to give it up. -/

namespace Exchange

/-- The bytes accepted on a stream. -/
def accepted (id : StreamId) (x : Exchange σ) : Bytes :=
  match x.call, x.answer with
  | .write id' data _, .written (.ok n) => if id' = id then data.take n else []
  | _, _ => []

/-- Whether the end of a stream was accepted, with all that was written before
it. -/
def finishes (id : StreamId) (x : Exchange σ) : Bool :=
  match x.call, x.answer with
  | .write id' data fin, .written (.ok n) => decide (id' = id) && (fin && decide (n = data.length))
  | _, _ => false

/-- Whether the application abandoned the sending half of a stream, or the peer
asks for it in the script. -/
def resets (id : StreamId) (x : Exchange σ) : Bool :=
  match x.call, x.answer with
  | .resetStream id' _, .done (.ok ()) => decide (id' = id)
  | call, _ => call.scripted.any (·.stops id)

/-- The datagrams handed out. -/
def returned (x : Exchange σ) : List Bytes :=
  match x.answer with
  | .datagrams sent => sent
  | _ => []

end Exchange

namespace Run

/-- The bytes accepted on a stream so far, in the order of the calls. -/
def accepted (r : Run σ) (id : StreamId) : Bytes := r.history.flatMap (·.accepted id)

/-- Whether the end of a stream was accepted. -/
def finished (r : Run σ) (id : StreamId) : Bool := r.history.any (·.finishes id)

/-- The frames of all datagrams handed out so far. -/
def sent (r : Run σ) : List Frame := (r.history.flatMap (·.returned)).flatMap Frame.decodeAll

/-- Whether there was a reason to abandon a stream: the application did, or the
peer asked for it. -/
def reset (r : Run σ) (id : StreamId) : Bool := r.history.any (·.resets id)

end Run

variable {p : Scope} {c c' : Connection ScriptedEngine σ} {id : StreamId} {accepted : Bytes}
  {finished : Bool}
  {sent : List Frame}

/-- What was sent of a stream is where the accepted bytes begin; if it was
abandoned, then for a reason within the scope. -/
structure Delivered (p : Scope) (id : StreamId) (accepted : Bytes) (finished : Bool)
    (sent : List Frame) :
    Prop where
  /-- what was sent, however it was cut, is where the accepted bytes begin -/
  tape : Frame.tape id sent <+: Tape.ofData accepted finished
  /-- somebody asked for the stream to be abandoned -/
  cause : Frame.Abandoned id sent → p.reset id ∨ ∃ errorCode, p.callback (.stopSending id errorCode)

/-- What holds of a stream at any time: the frames sent say something, and they
are right as far as they go; as long as the connection is open, what is missing
waits to be sent. -/
def Delivers (p : Scope) (id : StreamId) (accepted : Bytes) (finished : Bool) (sent : List Frame)
    (c : Connection ScriptedEngine σ) : Prop :=
  (∀ f ∈ sent, ¬ f.Blank) ∧
    (c.IsEnding p.bounds ∧ Delivered p id accepted finished sent ∨
      c.IsOpen p ∧ c.core.Delivers p id accepted finished sent)

theorem delivered_of_core {k : Core} (h : k.Delivers p id accepted finished sent) :
    Delivered p id accepted finished sent :=
  ⟨h.sent_prefix, fun hgiven => h.cause (Frame.abandoned_append.2 (.inl hgiven))⟩

/-- What a connection comes to that was open, took quiet steps, and sent
nothing. -/
theorem Delivers.of_running {k : Core} (hplain : ∀ f ∈ sent, ¬ f.Blank) (hsound : k.Sound)
    (hk : k.Delivers p id accepted finished sent)
    (h : c'.IsEnding p.bounds ∨ c'.IsOpen p ∧ k.Quietly p c'.core) :
    c'.Delivers p id accepted finished sent := by
  refine ⟨hplain, ?_⟩
  rcases h with hend | ⟨hopen, hquiet⟩
  · exact .inl ⟨hend, delivered_of_core hk⟩
  · exact .inr ⟨hopen, hk.quietly hsound hquiet⟩

/-- Calls that are not loud accept nothing and hand out nothing. -/
theorem silent_perform (c : Connection ScriptedEngine σ) (w : σ) {call : Call σ}
    (hquiet : call.isLoud = false) (id : StreamId) :
    let x : Exchange σ := ⟨call, (c.perform w call).1⟩
    x.accepted id = [] ∧ x.finishes id = false ∧ x.returned = [] := by
  cases call with
  | write id data fin => cases hquiet
  | produceDatagrams now => cases hquiet
  | failNextWrite error => cases hquiet
  | _ => exact ⟨rfl, rfl, rfl⟩

/-! ### While the connection is open

Every call keeps the tape of the stream: a write adds to what waits, asking for datagrams
moves some of it to what was sent, and all else is a chain of quiet steps. -/

/-- An open connection that is asked for datagrams hands out what waits, and
stays open. If it hands out none, nothing is left. -/
theorem isOpen_produceDatagrams (h : c.IsOpen p) (hready : c.core.Ready) (hbounds : p.Roomy)
    (now : Instant) (w : σ) :
    ∃ left, (c.produceDatagrams now w).1.2.IsOpen p ∧
      (c.produceDatagrams now w).1.2.core =
        ⟨c.streams, { c.adapter.engine with outbound := left }⟩ ∧
      ScriptedEngine.Handed c.adapter.engine.outbound (c.produceDatagrams now w).1.1 left ∧
      ((c.produceDatagrams now w).1.1 = [] → left = []) := by
  have hsize : (c.adapter.maxUdpPayloadSize, c.adapter.maxDatagramsPerPoll) = p.bounds := h.bounds
  rw [Scope.Roomy, ← hsize] at hbounds
  obtain ⟨datagrams, left, hpull, hhanded, hnone⟩ :=
    ScriptedEngine.pull_outcome (e := c.adapter.engine) hbounds.1
    now c.adapter.maxDatagramsPerPoll h.engine.closeFrame hready.writeFailure hready.queued
  have hproduce := produceDatagrams_outcome c now w h.maySend
  dsimp only at hproduce
  rw [hpull] at hproduce
  rcases hproduce with ⟨e, herror, -, -⟩ | ⟨datagrams', hok, hc⟩
  · cases herror
  · obtain rfl := Except.ok.inj hok
    rw [hc]
    refine ⟨left, ⟨(isClosing_ite_handshaking c _).trans h.state, ?_, ?_, h.bounds, h.core.orderly,
      h.core.frozen⟩,
      rfl, hhanded, fun hdatagrams => hnone hbounds.2 hdatagrams⟩
    · rw [h.closePending]
      rfl
    · exact ⟨h.engine.closeFrame, h.engine.callbacks, h.engine.datagramReactions,
        h.engine.timeoutReactions⟩

/-- A write appends what it accepts to what waits. The tape of the stream, if it is not
abandoned, grows by the same. -/
theorem delivers_write (hplain : ∀ f ∈ sent, ¬ f.Blank) (h : c.IsOpen p)
    (hk : c.core.Delivers p id accepted finished sent) (id' : StreamId) (data : Bytes)
    (fin : Bool) :
    let x : Exchange σ := ⟨.write id' data fin, .written (c.write id' data fin).1⟩
    (c.write id' data fin).2.Delivers p id (accepted ++ x.accepted id)
      (finished || x.finishes id) sent := by
  have hopen := isOpen_write h id' data fin
  have hs : c.streams.Orderly := h.core.orderly
  refine ⟨hplain, .inr ⟨hopen, ?_⟩⟩
  rw [write_eq h.state]
  rcases hr : c.streams.write id' data fin with ⟨e | out, streams⟩
  · have hquiet : c.core.Quiet p ⟨(c.streams.write id' data fin).2, c.adapter.engine⟩ :=
      .writeRefused (congrArg Prod.fst hr)
    rw [hr] at hquiet
    rw [Exchange.accepted, Exchange.finishes, List.append_nil, Bool.or_false]
    exact hk.quiet h.core hquiet
  · have hok : (c.core.streams.write id' data fin).1 = .ok out := congrArg Prod.fst hr
    have hwritten := hk.write h.core hok
    have hout := (StreamSet.write_outcome hs id' data fin).2
    rw [hr] at hout
    -- what went to the engine is what the exchange counts as accepted
    have heq : out.chunk = data.take out.accepted ∧
        out.fin = (fin && decide (out.accepted = data.length)) := by
      have := hout.outcome_eq
      exact ⟨congrArg WriteOutcome.chunk this, congrArg WriteOutcome.fin this⟩
    rw [heq.1, heq.2] at hwritten
    change Core.Delivers p id _ _ sent ⟨(c.streams.write id' data fin).2, _⟩ at hwritten
    rw [hr] at hwritten
    exact hwritten

/-! ### While the connection is ending

Nothing is accepted and no data goes out any more. What was sent so far is where the
accepted bytes begin. -/

/-- A connection that is ending has nothing to send but its closing. -/
theorem IsEnding.closePending_of_maySend (h : c.IsEnding p.bounds) (hsend : c.maySend = true) :
    c.closePending = true := by
  have hclosing := h.state
  rw [maySend] at hsend
  cases hstate : c.state with
  | draining => rwa [hstate] at hsend
  | closed =>
    rw [hstate] at hsend
    cases hsend
  | _ =>
    rw [hstate] at hclosing
    cases hclosing

/-- A connection that is ending accepts nothing, and the only frame it may hand
out is its closing. -/
theorem silent_of_isEnding (h : c.IsEnding p.bounds) (w : σ) (call : Call σ) (id : StreamId) :
    let x : Exchange σ := ⟨call, (c.perform w call).1⟩
    x.accepted id = [] ∧ x.finishes id = false ∧
      ∀ f ∈ x.returned.flatMap Frame.decodeAll, ∃ errorCode reason,
        f = .connectionClose errorCode reason := by
  by_cases hquiet : call.isLoud = false
  · obtain ⟨haccepted, hfinishes, hreturned⟩ := silent_perform c w hquiet id
    refine ⟨haccepted, hfinishes, ?_⟩
    rw [hreturned]
    exact List.forall_mem_nil _
  cases call with
  | write id' data fin =>
    have hrefused : (c.perform w (.write id' data fin)).1 =
        .written (.error .connectionClosed) := by
      change Answer.written (c.write id' data fin).1 = _
      rw [write_of_isEnding h]
    dsimp only
    rw [hrefused]
    exact ⟨rfl, rfl, List.forall_mem_nil _⟩
  | produceDatagrams now =>
    refine ⟨rfl, rfl, ?_⟩
    change ∀ f ∈ (c.produceDatagrams now w).1.1.flatMap Frame.decodeAll, _
    by_cases hsend : c.maySend = true
    · obtain ⟨errorCode, reason, hframe, hreason⟩ := h.announced (h.closePending_of_maySend hsend)
      rcases produceDatagrams_outcome c now w hsend with ⟨e, -, hnone, -⟩ | ⟨datagrams, hok, hc⟩
      · rw [hnone]
        exact List.forall_mem_nil _
      · rw [hc]
        intro f hf
        obtain ⟨d, hd, hf⟩ := List.mem_flatMap.1 hf
        -- a connection that ends has only its closing to send, alone in a datagram, or
        -- nothing
        rcases ScriptedEngine.pull_of_closeFrame now _ hframe hok with rfl | ⟨-, rfl⟩
        · cases hd
        · obtain rfl := List.mem_singleton.1 hd
          have hread : Frame.decodeAll (Frame.connectionClose errorCode reason).encode = _ :=
            Frame.decodeAll_encode hreason
          rw [hread] at hf
          exact ⟨_, _, List.mem_singleton.1 hf⟩
    · rw [produceDatagrams, if_neg hsend]
      exact List.forall_mem_nil _
  | failNextWrite error => exact ⟨rfl, rfl, List.forall_mem_nil _⟩
  | _ => exact absurd rfl hquiet

/-- Frames that only close leave everything as it was delivered. -/
theorem Delivered.closing (h : Delivered p id accepted finished sent) {fs : List Frame}
    (hfs : ∀ f ∈ fs, ∃ errorCode reason, f = .connectionClose errorCode reason) :
    Delivered p id accepted finished (sent ++ fs) := by
  have htape : Frame.tape id fs = [] := by
    refine List.flatMap_eq_nil_iff.2 fun part hpart => ?_
    obtain ⟨f, hf, hdata⟩ := List.mem_filterMap.1 hpart
    obtain ⟨errorCode, reason, rfl⟩ := hfs f hf
    cases hdata
  constructor
  · rw [Frame.tape_append, htape, List.append_nil]
    exact h.tape
  · intro hgiven
    rcases Frame.abandoned_append.1 hgiven with hgiven | ⟨errorCode, hmem⟩
    · exact h.cause hgiven
    · obtain ⟨_, _, heq⟩ := hfs _ hmem
      cases heq

/-! ### Runs

The tape along a run, and at its end what a reader of the frames gets: the bytes in order,
and the end once, on the last of them. -/

/-- Whether a call makes the engine fail to write. -/
def Call.isFailure : Call σ → Bool
  | .failNextWrite _ => true
  | _ => false

/-- One call delivers. -/
theorem delivers_perform (hbounds : p.Roomy) (h : c.Delivers p id accepted finished sent) (w : σ)
    {call : Call σ} (hfail : call.isFailure = false) (hp : call.Within p (c.perform w call).1) :
    let x : Exchange σ := ⟨call, (c.perform w call).1⟩
    (c.perform w call).2.1.Delivers p id (accepted ++ x.accepted id) (finished || x.finishes id)
      (sent ++ x.returned.flatMap Frame.decodeAll) := by
  obtain ⟨hplain, ⟨hend, hdelivered⟩ | ⟨hopen, hk⟩⟩ := h
  · -- all that can still be sent is the closing, which belongs to no stream
    obtain ⟨haccepted, hfinishes, hclosing⟩ := silent_of_isEnding hend w call id
    have hfits : call.Fits := fun callback hcallback => p.fits _ (hp.scripted callback hcallback)
    dsimp only at haccepted hfinishes hclosing ⊢
    rw [haccepted, hfinishes, List.append_nil, Bool.or_false]
    refine ⟨List.forall_mem_append.2 ⟨hplain, fun f hf => ?_⟩,
      .inl ⟨isEnding_perform hend w hfits, hdelivered.closing hclosing⟩⟩
    obtain ⟨_, _, rfl⟩ := hclosing f hf
    rintro ⟨_, heq⟩
    cases heq
  -- a quiet call hands nothing over; what is left is a write and a pull
  by_cases hquiet : call.isLoud = false
  · obtain ⟨haccepted, hfinishes, hreturned⟩ := silent_perform c w hquiet id
    dsimp only at haccepted hfinishes hreturned ⊢
    rw [haccepted, hfinishes, hreturned, List.append_nil, Bool.or_false, List.flatMap_nil,
      List.append_nil]
    exact .of_running hplain hopen.core hk ((advances_perform c w hp hquiet).running hopen)
  cases call with
  | write id' data fin =>
    have hwritten := delivers_write hplain hopen hk id' data fin
    rw [← List.append_nil sent] at hwritten
    exact hwritten
  | produceDatagrams now =>
    obtain ⟨left, hopen', hcore, hhanded, -⟩ :=
      isOpen_produceDatagrams hopen hk.toReady hbounds now w
    have hsent := hk.handed hhanded
    change (c.produceDatagrams now w).1.2.Delivers p id (accepted ++ []) (finished || false)
      (sent ++ (c.produceDatagrams now w).1.1.flatMap Frame.decodeAll)
    rw [List.append_nil, Bool.or_false]
    refine ⟨List.forall_mem_append.2 ⟨hplain, hhanded.plain⟩, .inr ⟨hopen', ?_⟩⟩
    rw [hcore]
    exact hsent
  | failNextWrite error => cases hfail
  | _ => exact absurd rfl hquiet

/-- Whether the calls of a run keep to a scope. -/
def Run.Within (p : Scope) (r : Run σ) : Prop := ∀ x ∈ r.history, x.call.Within p x.answer

/-- What is known of a run about one stream. -/
def Run.Delivers (p : Scope) (id : StreamId) (r : Run σ) : Prop :=
  r.connection.Delivers p id (r.accepted id) (r.finished id) r.sent

theorem Run.history_prefix_steps (r : Run σ) (calls : List (Call σ)) :
    r.history <+: (r.steps calls).history := by
  induction calls generalizing r with
  | nil => exact List.prefix_refl _
  | cons call rest ih => exact (List.prefix_append _ _).trans (ih (r.step call))

/-- A run delivers. -/
theorem delivers_steps (hbounds : p.Roomy) {r : Run σ} (h : r.Delivers p id) {calls : List (Call σ)}
    (hfail : ∀ call ∈ calls, call.isFailure = false) (hp : (r.steps calls).Within p) :
    (r.steps calls).Delivers p id := by
  induction calls generalizing r with
  | nil => exact h
  | cons call rest ih =>
    rw [List.forall_mem_cons] at hfail
    refine ih (r := r.step call) ?_ hfail.2 hp
    have hmem : ⟨call, (r.connection.perform r.world call).1⟩ ∈ (r.steps (call :: rest)).history :=
      (Run.history_prefix_steps (r.step call) rest).subset
        (List.mem_append_right _ (List.mem_singleton.2 rfl))
    have hstep := delivers_perform hbounds h r.world hfail.1 (hp _ hmem)
    change (r.connection.perform r.world call).2.1.Delivers p id ((r.history ++ [_]).flatMap _)
      ((r.history ++ [_]).any _) (((r.history ++ [_]).flatMap _).flatMap _)
    rw [List.flatMap_append, List.any_append, List.flatMap_append, List.flatMap_append,
      List.flatMap_singleton,
      List.flatMap_singleton, List.any_cons, List.any_nil, Bool.or_false]
    exact hstep

namespace Run

/-- Calls of a longer run are those of the shorter, or new. -/
theorem call_mem_of_steps {r : Run σ} {calls : List (Call σ)} {x : Exchange σ}
    (h : x ∈ (r.steps calls).history) : x ∈ r.history ∨ x.call ∈ calls := by
  induction calls generalizing r with
  | nil => exact .inl h
  | cons call rest ih =>
    rcases ih (r := r.step call) h with hmem | hmem
    · rcases List.mem_append.1 hmem with hmem | hmem
      · exact .inl hmem
      · obtain rfl := List.mem_singleton.1 hmem
        exact .inr List.mem_cons_self
    · exact .inr (List.mem_cons_of_mem call hmem)

/-- What happens in a run. -/
def scope (r : Run σ) (bounds : Nat × Nat) : Scope where
  callback callback := callback.Fits ∧ ∃ x ∈ r.history, callback ∈ x.call.scripted
  reset id := ∃ errorCode, ⟨.resetStream id errorCode, .done (.ok ())⟩ ∈ r.history
  bounds := bounds
  fits _ h := h.1

theorem within_scope {r : Run σ} (hfits : ∀ x ∈ r.history, x.call.Fits) (bounds : Nat × Nat) :
    r.Within (r.scope bounds) := by
  rintro ⟨call, answer⟩ hx
  refine ⟨fun callback hcallback => ⟨hfits _ hx callback hcallback, _, hx, hcallback⟩, ?_⟩
  rintro id errorCode rfl rfl
  exact ⟨errorCode, hx⟩

/-- Streams are abandoned for the reasons there were. -/
theorem reset_of_scope {r : Run σ} {bounds : Nat × Nat}
    (h : (r.scope bounds).reset id ∨
      ∃ errorCode, (r.scope bounds).callback (.stopSending id errorCode)) : r.reset id = true := by
  refine List.any_eq_true.2 ?_
  rcases h with ⟨errorCode, hmem⟩ | ⟨errorCode, -, ⟨call, answer⟩, hx, hscripted⟩
  · exact ⟨_, hmem, decide_eq_true rfl⟩
  · refine ⟨_, hx, ?_⟩
    have hstops : call.scripted.any (·.stops id) = true :=
      List.any_eq_true.2 ⟨_, hscripted, decide_eq_true rfl⟩
    cases call with
    | resetStream id' errorCode' => cases hscripted
    | _ => exact hstops

/-- An open connection that is asked for datagrams again and again has nothing
left at some time. -/
theorem exists_drained (hbounds : p.Roomy) (later : Instant) {r : Run σ} (h : r.connection.IsOpen p)
    (hready : r.connection.core.Ready) :
    ∃ n, let r' := r.steps (List.replicate n (.produceDatagrams later))
      (r'.connection.produceDatagrams later r'.world).1.1 = [] := by
  induction hm : Frame.burden r.connection.adapter.engine.outbound using Nat.strongRecOn
    generalizing r with
  | _ m ih =>
    by_cases hnone : (r.connection.produceDatagrams later r.world).1.1 = []
    · exact ⟨0, hnone⟩
    obtain ⟨left, hopen, hcore, hhanded, -⟩ :=
      isOpen_produceDatagrams h hready hbounds later r.world
    have hengine : (r.step (.produceDatagrams later)).connection.adapter.engine.outbound = left :=
      congrArg (fun k => k.engine.outbound) hcore
    have hready' : (r.step (.produceDatagrams later)).connection.core.Ready := by
      change (r.connection.produceDatagrams later r.world).1.2.core.Ready
      rw [hcore]
      exact ⟨hready.writeFailure,
        (List.forall_mem_append.1 (hhanded.retells.queued hready.queued)).2⟩
    -- a datagram takes from the burden of what waits
    have hless : Frame.burden left < m := by
      have := hhanded.burden
      have := List.length_pos_iff.2 hnone
      omega
    obtain ⟨n, hn⟩ := ih (Frame.burden left) hless
      (r := r.step (.produceDatagrams later)) hopen hready'
      (by rw [hengine])
    exact ⟨n + 1, hn⟩

end Run

/-- **What is written is sent.** Of every stream, what was sent is where the accepted
bytes begin. As long as the connection is not closing, it can be asked for datagrams
until it hands out none; and then, unless the stream was abandoned, everything accepted
was sent, and if its end was accepted, the last frame of the stream announces it and no
other frame does. A stream is abandoned only if there was a reason to. -/
theorem writes_delivered (side : Side) (settings : ConnectionSettings) (hvalid : settings.Valid)
    (scid dcid : ConnectionId) (now : Instant) (w : σ) (calls : List (Call σ))
    (hfits : ∀ call ∈ calls, call.Fits) (hfail : ∀ call ∈ calls, call.isFailure = false)
    (id : StreamId) :
    let r := (Run.begin side settings scid dcid now w).steps calls
    Frame.payload id r.sent <+: r.accepted id ∧
      (Frame.Abandoned id r.sent → r.reset id = true) ∧
      (r.connection.state.isClosing = false → ∀ later,
        (∃ n, let r' := r.steps (List.replicate n (.produceDatagrams later))
          (r'.connection.produceDatagrams later r'.world).1.1 = []) ∧
        ((r.connection.produceDatagrams later r.world).1.1 = [] → ¬ Frame.Abandoned id r.sent →
          Frame.payload id r.sent = r.accepted id ∧
          if r.finished id then
            ∃ before last, Frame.carried id r.sent = before ++ [(last, true)] ∧
              ∀ part ∈ before, part.2 = false
          else ∀ part ∈ Frame.carried id r.sent, part.2 = false)) := by
  intro r
  have hmade (x : Exchange σ) (hx : x ∈ r.history) : x.call.Fits := by
    rcases Run.call_mem_of_steps hx with hbefore | hcall
    · cases hbefore
    · exact hfits _ hcall
  -- the scope of the run: what its calls asked for and its callbacks reported
  have hwithin : r.Within (r.scope settings.bounds) := Run.within_scope hmade settings.bounds
  have hbounds : (r.scope settings.bounds).Roomy := by
    obtain ⟨⟨hsize, -⟩, hcount, -⟩ := ConnectionSettings.valid_iff.1 hvalid
    exact ⟨Nat.le_trans (by decide) hsize, hcount⟩
  have hbegin : (Run.begin side settings scid dcid now w).Delivers
      (r.scope settings.bounds) id := by
    refine ⟨nofun, .inr ⟨isOpen_new side rfl scid dcid now, ⟨rfl, nofun⟩, ?_, ?_, .inl rfl⟩⟩
    · rintro (hfinished | ⟨errorCode, hmem⟩)
      · cases hfinished
      · cases hmem
    · rintro ⟨errorCode, hmem⟩
      cases hmem
  obtain ⟨hplain, hdelivers⟩ := delivers_steps hbounds hbegin hfail hwithin
  have hdelivered : Delivered (r.scope settings.bounds) id (r.accepted id) (r.finished id) r.sent :=
    hdelivers.elim (·.2) fun h => delivered_of_core h.2
  refine ⟨Frame.payload_prefix_of_tape hdelivered.tape,
    fun hgiven => Run.reset_of_scope (hdelivered.cause hgiven), fun hclosing later => ?_⟩
  -- from here on the connection is open, and what it still owes is in the engine's queue
  rcases hdelivers with ⟨hend, -⟩ | ⟨hopen, hk⟩
  · exact absurd hend.state (Bool.eq_false_iff.1 hclosing)
  refine ⟨Run.exists_drained hbounds later hopen hk.toReady, fun hnone hkept => ?_⟩
  obtain ⟨left, -, -, hhanded, hleft⟩ :=
    isOpen_produceDatagrams hopen hk.toReady hbounds later r.world
  rw [hnone] at hhanded
  obtain rfl := hleft hnone
  have hsent : Frame.tape id r.sent = Tape.ofData (r.accepted id) (r.finished id) := by
    refine hk.tape_sent (fun id' hgiven => ?_) (fun id' => (hhanded.retells.tape id').symm) hkept
    obtain ⟨errorCode, hmem⟩ := (hhanded.retells.abandoned id').2 hgiven
    cases hmem
  refine ⟨Frame.payload_of_tape hsent, ?_⟩
  split
  · next hfinished =>
    rw [hfinished] at hsent
    exact Frame.carried_eq_of_tape hplain hsent
  · next hunfinished =>
    rw [Bool.eq_false_iff.2 hunfinished] at hsent
    exact Frame.carried_of_tape_eq hsent

/-- A stream is opened when the handshake is complete, and ends behind what is
written on it in two parts. -/
def writtenInParts : List (Call Unit) :=
  [.expectDatagram (.ok [.handshakeCompleted ({} : ConnectionSettings).localParameters]),
    .ingest [] ⟨0⟩, .openStream .bidi, .write ⟨0⟩ [1, 2] false, .produceDatagrams ⟨0⟩,
    .write ⟨0⟩ [3] true, .produceDatagrams ⟨0⟩]

/-- What was written in two parts arrives as one, with one end. -/
theorem writes_delivered_in_parts :
    let r := (Run.begin .client {} ⟨[], by decide⟩ ⟨[], by decide⟩ ⟨0⟩ ()).steps writtenInParts
    Frame.payload ⟨0⟩ r.sent = [1, 2, 3] ∧
      ∃ before last, Frame.carried ⟨0⟩ r.sent = before ++ [(last, true)] ∧
        ∀ part ∈ before, part.2 = false := by
  obtain ⟨-, hreset, hdelivered⟩ :=
    writes_delivered .client {} (by decide) ⟨[], by decide⟩ ⟨[], by decide⟩ ⟨0⟩ ()
    writtenInParts (by decide) (by decide) ⟨0⟩
  have hkept := mt hreset (by decide)
  obtain ⟨hpayload, hfin⟩ := (hdelivered (by decide) ⟨0⟩).2 (by decide) hkept
  rw [if_pos (by decide)] at hfin
  exact ⟨hpayload.trans (by decide), hfin⟩

end Connection

end QuicHost
