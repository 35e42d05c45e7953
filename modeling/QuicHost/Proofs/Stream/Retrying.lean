import QuicHost.Proofs.Stream.Waking

/-!
# Whoever is woken may try again

A stream is reported writable so that a write that fell short can be tried
again. At this moment the stream has credit of both kinds; but whether it may be
written on at all depends on what happened while it waited. A stream that is
abandoned leaves the queue. A stream whose end is accepted should leave it as
well, and does not: an empty write needs no credit, so it can end a stream that
waits, and the stream is reported writable later all the same.

Apart from this, who is marked as blocked waits in the sense of `Waits`
(`Earnest.after`), and a retried write is accepted (`Woken`).
-/

namespace QuicHost.StreamSet

/-- Whether a step accepts the end of a stream that waits for credit. -/
def Entry.endsParked (id : StreamId) (e : Entry) : Bool :=
  match e.op, e.answer with
  | .write id' _ _, .written (.ok out) => id' == id && out.fin && e.before.isBlocked id
  | _, _ => false

/-- Whoever is marked as blocked waits, unless everything has ended. -/
def Earnest (s : StreamSet) (id : StreamId) : Prop :=
  s.frozen = false → s.isBlocked id = true → s.Waits id

section

variable {s s' : StreamSet} {id : StreamId} {op : Operation}

/-! ## Who waits in earnest

A stream that waits is marked, but the mark outlasts the wait if the end of the stream is
accepted meanwhile: a write of no bytes takes no credit, so nothing stops it. `Earnest`
says that this has not happened. It is an invariant of runs in which no step accepts an
end of a stream that waits. -/

/-- What has ended does not begin again. -/
theorem Step.frozen_eq (hs : s.Orderly) (h : s.Step s') (hfrozen : s.frozen = true) :
    s'.frozen = true := by
  cases h with
  | quiet h => exact (h.calm hs).frozen.trans hfrozen
  | written id data fin => exact (keeps_write s id data fin).frozen.trans hfrozen
  | abandoned _ _ => exact (keeps_abandonSend s _ _).frozen.trans hfrozen
  | raised id limit => exact (keeps_onMaxStreamData s id limit).frozen.trans hfrozen
  | raisedAll limit => exact (keeps_onMaxData s limit).frozen.trans hfrozen
  | allowed d n => exact (calm_onMaxStreams s d n).frozen.trans hfrozen
  | completed peer =>
    rw [onHandshakeCompleted_eq, if_pos hfrozen]
    exact hfrozen
  | taken => exact hfrozen
  | frozen => rfl

theorem Steps.frozen_eq (hs : s.Orderly) (h : s.Steps s') (hfrozen : s.frozen = true) :
    s'.frozen = true := by
  induction h with
  | refl => exact hfrozen
  | tail hsteps hstep ih => exact hstep.frozen_eq (Steps.orderly hs hsteps).1 ih

/-- Who was abandoned is not marked any more. -/
theorem Abandons.isBlocked_eq (hs : s.Orderly) (h : s.Abandons id s') :
    s'.isBlocked id = false := by
  obtain @⟨s₁, h, hbefore, hsend, -, hafter⟩ := h
  have hmid := (keeps_abandonSend s₁ id h).orderly (Steps.orderly hs hbefore.steps).1
  rw [Bool.eq_false_iff]
  intro hblocked
  have hmark := (hafter.calm hmid).eases.blocked hblocked
  rw [(alters_abandonSend hsend).isBlocked, if_pos rfl] at hmark
  cases hmark

/-- A stream that waits and is ended waits no more, or goes on to wait; but for
the end that is accepted from it. -/
theorem Waits.of_endsSendingOn (hw : s.Waits id) (hs : s.Orderly) (hop : op.Fits)
    (hends : (Entry.mk s op (s.perform op).1).endsSendingOn id = true)
    (hparked : (Entry.mk s op (s.perform op).1).endsParked id = false)
    (hfrozen : (s.perform op).2.frozen = false)
    (hblocked : (s.perform op).2.isBlocked id = true) : (s.perform op).2.Waits id := by
  have habandons (h : s.Abandons id (s.perform op).2) : (s.perform op).2.Waits id := by
    rw [h.isBlocked_eq hs] at hblocked
    cases hblocked
  cases op with
  -- the FIN ends a parked half without unparking it, which `hparked` rules out
  | write id' data fin =>
    have hmarked : s.isBlocked id = true := by
      obtain ⟨-, h, hsend, hmark, -⟩ := hw
      exact isBlocked_eq_true_iff.2 ⟨h, hsend, hmark⟩
    rw [StreamSet.perform] at hends hparked
    rcases hanswer : (s.write id' data fin).1 with e | out <;> rw [hanswer] at hends hparked
    · cases hends
    · have hboth : (id' == id && out.fin) = true := hends
      have hneither : (id' == id && out.fin && s.isBlocked id) = false := hparked
      rw [hboth, hmarked] at hneither
      cases hneither
  | resetStream id' =>
    rcases resetStream_steps s id' with hquiet | ⟨hok, hdone⟩
    · exact hw.calm hs (hquiet.calm hs)
    · rw [StreamSet.perform, hok] at hends
      obtain rfl : id' = id := beq_iff_eq.1 hends
      exact habandons hdone
  | peerStop id' errorCode =>
    rcases onStopSending_steps hop errorCode with hquiet | ⟨hok, hdone⟩
    · exact hw.calm hs (hquiet.calm hs)
    · rw [StreamSet.perform, hok] at hends
      obtain rfl : id' = id := beq_iff_eq.1 hends
      exact habandons hdone
  -- what is left cannot end the sending of a stream, except by freezing the set
  | freeze => cases hfrozen
  | _ => cases hends

/-- Unless the end of a stream that waits is accepted, whoever is marked waits. -/
theorem Earnest.perform (h : s.Earnest id) (hs : s.Orderly) (hq : s.Queued) (hop : op.Fits)
    (hparked : (Entry.mk s op (s.perform op).1).endsParked id = false) :
    (s.perform op).2.Earnest id := by
  intro hfrozen hblocked
  obtain ⟨hnot, hshort | hmarked⟩ := (shifts_perform hs hq hop).blocked hblocked
  · exact waits_of_isShortOn (e := ⟨s, op, (s.perform op).1⟩) rfl hshort
  · have hbefore : s.frozen = false := by
      rw [Bool.eq_false_iff] at hfrozen ⊢
      exact fun htrue => hfrozen ((steps_perform s hop).frozen_eq hs htrue)
    have hw := h hbefore hmarked
    rcases Bool.eq_false_or_eq_true ((Entry.mk s op (s.perform op).1).endsSendingOn id) with
      hends | hends
    · exact hw.of_endsSendingOn hs hop hends hparked hfrozen hblocked
    · rcases hw.perform hs hq hop hends with ⟨hstays, -⟩ | ⟨-, hone, -⟩
      · exact hstays
      · exact absurd (List.count_pos_iff.1 (by omega)) hnot

/-- Who is marked waits, after any run in which no end was accepted of a stream that waits. -/
theorem Earnest.after (h : s.Earnest id) (hs : s.Orderly) (hq : s.Queued) {ops : List Operation}
    (hops : ∀ op ∈ ops, op.Fits) (hparked : ∀ x ∈ s.trace ops, x.endsParked id = false) :
    (s.after ops).Earnest id := by
  induction ops generalizing s with
  | nil => exact h
  | cons op rest ih =>
    rw [List.forall_mem_cons] at hops
    rw [trace, List.forall_mem_cons] at hparked
    have hsteps := steps_perform s hops.1
    exact ih (h.perform hs hq hops.1 hparked.1) (hsteps.orderly hs).1 (hq.steps hs hsteps) hops.2
      hparked.2

/-! ## Who is woken

A raised limit that wakes a stream leaves it in the state it was in, with credit of its
own and of the connection. There are three such operations. For each, the walk through the
queue comes after the limit is raised, so that the credit is that of the state afterwards. -/

/-- A stream was marked and is woken: it is live, in the state that it was in,
and there is credit of both kinds. -/
structure Woken (s : StreamSet) (id : StreamId) (s' : StreamSet) : Prop where
  frozen : s.frozen = false ∧ s'.frozen = false
  /-- there is credit on the connection -/
  connection : 0 < s'.sendWindow.credit
  /-- and on the stream, whose state is what it was -/
  half : ∃ h h', s.sendHalf? id = some h ∧ s'.sendHalf? id = some h' ∧ h'.state = h.state ∧
    0 < h'.window.credit

/-- Limits are raised, and those who have credit are woken. -/
theorem woken_of_wakeParked {s₁ : StreamSet} (hfrozen : s.frozen = false)
    (hstays : s₁.frozen = false) (htold : s.Hushed s₁)
    (hhalf : ∀ h₁, s₁.sendHalf? id = some h₁ → ∃ h, s.sendHalf? id = some h ∧ h₁.state = h.state)
    (hperform : (s.perform op).2 = s₁.wakeParked) (hwoken : id ∈ s.wakes op) :
    s.Woken id (s.perform op).2 := by
  rw [wakes_of_wakeParked htold hperform] at hwoken
  obtain ⟨-, hconnection, h₁, hsend, hcredit⟩ := mem_woken_iff.1 hwoken
  obtain ⟨h, hbefore, hstate⟩ := hhalf h₁ hsend
  have hwindow : s₁.wakeParked.sendWindow = s₁.sendWindow :=
    congrArg View.sendWindow (view_wakeParked s₁)
  have hafter := s₁.sendHalf?_wakeParked id
  rw [hsend, Option.map_some, if_pos hwoken] at hafter
  rw [hperform]
  exact ⟨⟨hfrozen, (keeps_wakeParked s₁).frozen.trans hstays⟩, hwindow ▸ hconnection,
    h, _, hbefore, hafter, hstate, hcredit⟩

/-- Whoever is reported writable is woken by a report about credit. -/
theorem woken_of_mem_wakes (hs : s.Orderly) (hop : op.Fits) (hwoken : id ∈ s.wakes op) :
    s.Woken id (s.perform op).2 := by
  have hsilent (h : s.Hushed (s.perform op).2) : s.Woken id (s.perform op).2 := by
    rw [wakes_of_hushed h] at hwoken
    cases hwoken
  -- only the peer's limits and the handshake make anything writable, so every other case
  -- contradicts `hwoken`
  cases op with
  | openStream d => exact hsilent ((quietly_openStream s d).calm hs).told
  | write id' data fin =>
    rw [wakes_write] at hwoken
    cases hwoken
  | read id' maxLen => exact hsilent ((quietly_read s id' maxLen).calm hs).told
  | resetStream id' =>
    rcases resetStream_steps s id' with hquiet | ⟨-, hdone⟩
    · exact hsilent (hquiet.calm hs).told
    · exact hsilent (hdone.eases hs).2
  | stopSending id' => exact hsilent ((quietly_stopSending s id').calm hs).told
  | handshakeCompleted peer =>
    rcases s.perform_handshakeCompleted peer with hsame | ⟨hfrozen, hperform⟩
    · exact hsilent (hsame.symm ▸ .refl s)
    · have hstays : (s.inForce peer).frozen = false := (s.frozen_inForce peer).trans hfrozen
      refine woken_of_wakeParked hfrozen hstays (s.hushed_inForce peer) (fun h₁ hsend => ?_)
        hperform hwoken
      rw [sendHalf?_inForce] at hsend
      obtain ⟨h, hlive, rfl⟩ := Option.map_eq_some_iff.1 hsend
      exact ⟨h, hlive, rfl⟩
  | streamData id' offset data fin =>
    exact hsilent ((quietly_onStreamData hop offset data fin).calm hs).told
  | streamReset id' errorCode finalSize =>
    exact hsilent ((quietly_onStreamReset hop errorCode finalSize).calm hs).told
  | peerStop id' errorCode =>
    rcases onStopSending_steps hop errorCode with hquiet | ⟨-, hdone⟩
    · exact hsilent (hquiet.calm hs).told
    · exact hsilent (hdone.eases hs).2
  | maxStreamData id' limit =>
    rcases s.onMaxStreamData_eq id' limit with heq | ⟨h, hfrozen, hsend, hwake | ⟨-, -, hevents⟩⟩
    · exact hsilent (hushed_of_eq (congrArg StreamSet.events heq))
    · obtain ⟨-, hcredit, hconnection, halters, hevents⟩ := hwake
      have hwakes : s.wakes (.maxStreamData id' limit) = [id'] := wakes_of_events (.refl s) hevents
      rw [hwakes] at hwoken
      obtain rfl := List.mem_singleton.1 hwoken
      have hself := halters.half id
      rw [if_pos rfl] at hself
      exact ⟨⟨hfrozen, halters.frozen.trans hfrozen⟩, halters.sendWindow ▸ hconnection,
        h, _, hsend, hself, rfl, hcredit⟩
    · exact hsilent (hushed_of_eq hevents)
  | maxData limit =>
    rcases s.perform_maxData limit with hsame | ⟨hfrozen, hperform⟩
    · exact hsilent (hsame.symm ▸ .refl s)
    · have hstays : (s.extendAll limit).frozen = false := hfrozen
      exact woken_of_wakeParked hfrozen hstays (s.hushed_extendAll limit)
        (fun h₁ hsend => ⟨h₁, hsend, rfl⟩) hperform hwoken
  | maxStreams d n => exact hsilent (calm_onMaxStreams s d n).told
  | streamAcked id' n => exact hsilent ((quietly_onStreamAcked s id' n).calm hs).told
  | takeEvents =>
    rw [wakes_takeEvents] at hwoken
    cases hwoken
  | freeze => exact hsilent (hushed_of_eq rfl)

theorem Woken.hasCredit (h : s.Woken id s') : s'.hasCredit id = true := by
  obtain ⟨-, half, -, hsend, -, hcredit⟩ := h.half
  exact hasCredit_eq_true_iff.2 ⟨h.connection, half, hsend, hcredit⟩

/-! ## The retried write

A stream that may be written on and has credit accepts something of any write that is not
empty. How much is the smaller of both credits, which is what the capacity says. -/

/-- A live stream may be written on, and `n` bytes would be accepted. -/
structure Accepts (s : StreamSet) (id : StreamId) (n : Nat) : Prop where
  writable : ∃ h, s.sendHalf? id = some h ∧ h.state.isWritable = true
  /-- as the application can ask beforehand -/
  capacity : s.sendCapacity id = .ok n
  /-- and as it will see -/
  write (data : Bytes) (fin : Bool) : data ≠ [] →
    ∃ out, (s.write id data fin).1 = .ok out ∧ out.accepted = min data.length n

/-- What can be written to with credit accepts that much. -/
theorem accepts_of_writableHalf {h : SendHalf} (hhalf : s.writableHalf id = .ok h)
    (hcredit : 0 < s.creditFor h) : s.Accepts id (s.creditFor h) := by
  obtain ⟨hwritable, st, hget, hst⟩ := writableHalf_eq_ok hhalf
  refine ⟨⟨h, (sendHalf?_of_get? hget).trans hst, hwritable⟩, ?_, fun data fin hdata => ?_⟩
  · rw [sendCapacity, hhalf]
    rfl
  · have hlength : 0 < data.length := List.length_pos_iff.2 hdata
    rw [StreamSet.write, hhalf]
    simp only
    rw [if_neg fun hboth => by omega]
    refine ⟨_, rfl, ?_⟩
    rw [WriteOutcome.accepted, List.length_take]
    omega

/-- Who waited until it was woken may write. -/
theorem Woken.accepts (h : s.Woken id s') (hw : s.Waits id) : ∃ n, 0 < n ∧ s'.Accepts id n := by
  obtain ⟨half, half', hsend, hsend', hstate, hcredit⟩ := h.half
  obtain ⟨-, half₀, hsend₀, -, hwritable⟩ := hw
  obtain rfl := Option.some.inj (hsend.symm.trans hsend₀)
  have hhalf := writableHalf_of_sendHalf? h.frozen.2 hsend' (hstate ▸ hwritable)
  have hpositive : 0 < s'.creditFor half' := Nat.lt_min.2 ⟨hcredit, h.connection⟩
  exact ⟨_, hpositive, accepts_of_writableHalf hhalf hpositive⟩

end

/-! ## The result

Whoever is woken waited, by the order of the queue; waited in earnest, by assumption on
the run; and so may be written on. -/

/-- **No stream is woken in vain, but those that ended while they waited.** In
every run, a stream that is reported writable is live and has credit of both
kinds. If its end was never accepted while it waited, it may be written on: it
has a positive capacity, and a write of at least one byte is accepted as far as
this goes. -/
theorem woken_may_write (side : Side) (own : TransportParameters) (ops : List Operation)
    (hops : ∀ op ∈ ops, op.Fits) (id : StreamId) (earlier : List Entry) (e : Entry)
    (later : List Entry) (ht : (new side own).trace ops = earlier ++ e :: later)
    (hwoken : id ∈ e.wakes) :
    e.after.hasCredit id = true ∧
      ((∀ x ∈ earlier, x.endsParked id = false) → ∃ n, 0 < n ∧ e.after.Accepts id n) := by
  obtain ⟨ops₁, ops₂, rfl, rfl, hbefore, -, -⟩ := trace_eq_append ht
  rw [List.forall_mem_append, List.forall_mem_cons] at hops
  have hs := orderly_after (orderly_new side own) hops.1
  have hq := queued_after side own hops.1
  rw [← hbefore] at hs hq
  have hwake := woken_of_mem_wakes hs hops.2.1 hwoken
  refine ⟨hwake.hasCredit, fun hparked => ?_⟩
  -- nobody is marked at the beginning
  have hnew : (new side own).Earnest id := fun _ => nofun
  have hearnest := hnew.after (orderly_new side own) (queued_new side own) hops.1 hparked
  rw [← hbefore] at hearnest
  have hmarked := (shifts_perform hs hq hops.2.1).woken hwoken
  exact hwake.accepts (hearnest hwake.frozen.1 hmarked)

/-- A stream that waits is given nothing but its end. -/
def endingParked : List Operation :=
  [.handshakeCompleted
      { initialMaxData := 2, initialMaxStreamDataUni := 9, initialMaxStreamsUni := 1 },
    .openStream .uni, .write ⟨2⟩ [1, 2, 3] false, .write ⟨2⟩ [] true, .maxData 8]

/-- One of the two that were woken can be written on at once. -/
theorem woken_may_write_queueing :
    ∃ earlier e later, (new .client {}).trace queueing = earlier ++ e :: later ∧
      ⟨6⟩ ∈ e.wakes ∧ e.after.hasCredit ⟨6⟩ = true ∧ ∃ n, 0 < n ∧ e.after.Accepts ⟨6⟩ n := by
  obtain ⟨hcredit, haccepts⟩ := woken_may_write .client {} queueing (by decide) ⟨6⟩
    ((new .client {}).trace (queueing.take 5)) _ [] rfl (by decide)
  exact ⟨(new .client {}).trace (queueing.take 5), _, [], rfl, by decide, hcredit,
    haccepts (by decide)⟩

/-- It is reported writable afterwards, and cannot be written on. -/
theorem woken_though_ended :
    ((new .client {}).trace endingParked).map (·.wakes) = [[], [], [], [], [⟨2⟩]] ∧
      ((new .client {}).after endingParked).sendCapacity ⟨2⟩ = .error .streamClosed := by
  decide

end QuicHost.StreamSet
