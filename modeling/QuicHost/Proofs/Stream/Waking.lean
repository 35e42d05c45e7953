import QuicHost.Proofs.Stream.Queue

/-!
# Whoever waits for credit is woken, once

A write that gets less credit than it asks for parks its stream, and the stream
is reported writable by the report that brings the credit which was missing:
not before, not twice, and in the order of parking if several are woken at once
(`woken_once`).

An operation either leaves a waiting stream waiting or wakes it, and wakes it
only if it then has credit of both kinds (`Waits.perform`).
-/

namespace QuicHost.StreamSet

section

variable {s s' : StreamSet} {id : StreamId} {h : SendHalf} {op : Operation}

/-! ## A stream that waits

`Waits` says what a parked stream can rely on: it is live, marked, and will accept data.
It lasts until the stream is woken, its end is accepted, it is abandoned, or everything
stops. -/

/-- A stream waits for credit, and may be written on when it has come. -/
def Waits (s : StreamSet) (id : StreamId) : Prop :=
  s.frozen = false ∧ ∃ h, s.sendHalf? id = some h ∧ h.blocked = true ∧ h.state.isWritable = true

/-- Who waits lacks credit. -/
theorem Waits.hasCredit_eq (hw : s.Waits id) (hq : s.Queued) : s.hasCredit id = false := by
  obtain ⟨hfrozen, h, hsend, hblocked, -⟩ := hw
  rw [Bool.eq_false_iff, ne_eq, hasCredit_eq_true_iff]
  rintro ⟨hconnection, h', hsend', hstream⟩
  obtain rfl := Option.some.inj (hsend.symm.trans hsend')
  rcases hq.starved hfrozen hsend hblocked with hzero | hzero <;> omega

/-- Where no half is gone that may be written on, who waits goes on waiting. -/
theorem Waits.calm (hw : s.Waits id) (hs : s.Orderly) (h : s.Calm s') : s'.Waits id := by
  obtain ⟨hfrozen, half, hsend, hblocked, hwritable⟩ := hw
  obtain ⟨half', hsend', hstate⟩ := h.writable hsend hwritable
  refine ⟨h.frozen.trans hfrozen, half', hsend', ?_, hstate ▸ hwritable⟩
  rcases h.half hsend' with ⟨hused, -⟩ | ⟨half₀, hsend₀, hsame, -⟩
  · exact absurd (used_of_sendHalf? hs hsend) hused
  · obtain rfl := Option.some.inj (hsend.symm.trans hsend₀)
    exact hsame.trans hblocked

theorem Waits.alters_of_ne {id' : StreamId} {h' : SendHalf} {parked : List StreamId}
    {w : SendWindow} (hw : s.Waits id) (hne : id ≠ id') (h : s.Alters id' h' parked w s') :
    s'.Waits id := by
  obtain ⟨hfrozen, half, hsend, hmarks⟩ := hw
  refine ⟨h.frozen.trans hfrozen, half, ?_, hmarks⟩
  rw [h.half, if_neg hne, hsend]

/-- Who waits goes on waiting while another stream is abandoned. -/
theorem Waits.abandons_of_ne {id' : StreamId} (hw : s.Waits id) (hs : s.Orderly) (hne : id ≠ id')
    (h : s.Abandons id' s') : s'.Waits id := by
  obtain @⟨s₁, h, hbefore, hsend, -, hafter⟩ := h
  have hmid := (Steps.orderly hs hbefore.steps).1
  have hwaits := (hw.calm hs (hbefore.calm hs)).alters_of_ne hne (alters_abandonSend hsend)
  have hmid' := (keeps_abandonSend s₁ id' h).orderly hmid
  exact hwaits.calm hmid' (hafter.calm hmid')

/-- A write on a stream that waits accepts nothing. It leaves the stream waiting,
unless it was asked for nothing but the end. -/
theorem Waits.write (hw : s.Waits id) (hq : s.Queued) {id' : StreamId} {data : Bytes} {fin : Bool}
    (hends : (Entry.mk s (.write id' data fin)
      (s.perform (.write id' data fin)).1).endsSendingOn id = false) :
    (s.write id' data fin).2.Waits id := by
  rcases s.write_eq id' data fin with ⟨e, -, heq⟩ | ⟨h, n, hfrozen, hsend, hwritable, hn, hanswer,
    halters, -⟩
  · rw [heq]
    exact hw
  by_cases hne : id ≠ id'
  · exact hw.alters_of_ne hne halters
  rw [not_ne_iff] at hne
  subst hne
  obtain ⟨-, h', hsend', hblocked, -⟩ := hw
  obtain rfl := Option.some.inj (hsend.symm.trans hsend')
  -- there is no credit, so the write takes nothing
  have hzero : n = 0 := by
    rw [creditFor] at hn
    rcases hq.starved hfrozen hsend hblocked with hzero | hzero <;> omega
  have hfin : (fin && !s.fallsShort h data.length) = false := by
    by_cases hfalls : s.fallsShort h data.length = true
    · rw [hfalls, Bool.not_true, Bool.and_false]
    · rw [perform, hanswer, if_neg fun hboth => hfalls hboth.1] at hends
      simpa only [Entry.endsSendingOn, beq_self_eq_true, Bool.true_and] using hends
  rw [hfin, hzero] at halters
  have hself := halters.half id
  rw [if_pos rfl] at hself
  refine ⟨halters.frozen.trans hfrozen, _, hself, ?_, hwritable⟩
  change (h.blocked || s.fallsShort h data.length) = true
  rw [hblocked, Bool.true_or]

/-- Limits were raised: a stream that waited goes on to wait, or it is woken. -/
theorem Waits.wakeParked {s₁ : StreamSet} (hw : s₁.Waits id) (hl : s₁.Lined)
    (htold : s.Hushed s₁) (hperform : (s.perform op).2 = s₁.wakeParked) :
    (s.perform op).2.Waits id ∧ id ∉ s.wakes op ∨
      (s.perform op).2.hasCredit id = true ∧ (s.wakes op).count id = 1 := by
  obtain ⟨hfrozen, h, hsend, hblocked, hwritable⟩ := hw
  have hwindow : s₁.wakeParked.sendWindow = s₁.sendWindow :=
    congrArg View.sendWindow (view_wakeParked s₁)
  have hhalf := s₁.sendHalf?_wakeParked id
  rw [hsend, Option.map_some] at hhalf
  rw [wakes_of_wakeParked htold hperform, hperform]
  by_cases hmem : id ∈ s₁.woken
  · rw [if_pos hmem] at hhalf
    obtain ⟨-, hconnection, h', hsend', hstream⟩ := mem_woken_iff.1 hmem
    obtain rfl := Option.some.inj (hsend.symm.trans hsend')
    refine .inr ⟨hasCredit_eq_true_iff.2 ⟨hwindow ▸ hconnection, _, hhalf, hstream⟩, ?_⟩
    exact List.count_eq_one_of_mem (hl.nodup.sublist s₁.woken_sublist) hmem
  · rw [if_neg hmem] at hhalf
    have hstays := (keeps_wakeParked s₁).frozen.trans hfrozen
    exact .inl ⟨⟨hstays, h, hhalf, hblocked, hwritable⟩, hmem⟩

/-- Who waits goes on waiting until the queue is walked. -/
theorem Waits.inForce (hw : s.Waits id) (peer : TransportParameters) :
    (s.inForce peer).Waits id := by
  obtain ⟨hfrozen, h, hsend, hmarks⟩ := hw
  have hhalf := s.sendHalf?_inForce peer id
  rw [hsend] at hhalf
  refine ⟨?_, _, hhalf, hmarks⟩
  obtain ⟨_, _, heq⟩ := s.inForce_eq peer
  rw [heq]
  exact hfrozen

/-- The limit of one stream is raised: it concerns the stream that waits, or
another one. -/
theorem Waits.maxStreamData (hw : s.Waits id) (id' : StreamId) (limit : Nat) :
    (s.onMaxStreamData id' limit).Waits id ∧ id ∉ s.wakes (.maxStreamData id' limit) ∨
      (s.onMaxStreamData id' limit).hasCredit id = true ∧
        (s.wakes (.maxStreamData id' limit)).count id = 1 ∧ id' = id := by
  rcases s.onMaxStreamData_eq id' limit with heq | ⟨h, hfrozen, hsend, hwoken | ⟨-, halters,
    hevents⟩⟩
  · have hevents : (s.perform (.maxStreamData id' limit)).2.events = s.events :=
      congrArg StreamSet.events heq
    rw [wakes_of_hushed (hushed_of_eq hevents), heq]
    exact .inl ⟨hw, nofun⟩
  -- a limit for one stream wakes at most that stream
  · obtain ⟨-, hstream, hconnection, halters, hevents⟩ := hwoken
    have hwakes : s.wakes (.maxStreamData id' limit) = [id'] := wakes_of_events (.refl s) hevents
    rw [hwakes]
    by_cases hne : id ≠ id'
    · exact .inl ⟨hw.alters_of_ne hne halters, fun hmem => hne (List.mem_singleton.1 hmem)⟩
    rw [not_ne_iff] at hne
    subst hne
    have hself := halters.half id
    rw [if_pos rfl] at hself
    refine .inr ⟨hasCredit_eq_true_iff.2 ⟨?_, _, hself, hstream⟩, ?_, rfl⟩
    · rw [halters.sendWindow]
      exact hconnection
    · rw [List.count_singleton, beq_self_eq_true, if_pos rfl]
  -- nothing is woken: the marks stay as they were, the half's window is all that may differ
  · have hsame : (s.perform (.maxStreamData id' limit)).2.events = s.events := hevents
    rw [wakes_of_hushed (hushed_of_eq hsame)]
    refine .inl ⟨?_, nofun⟩
    by_cases hne : id ≠ id'
    · exact hw.alters_of_ne hne halters
    rw [not_ne_iff] at hne
    subst hne
    obtain ⟨-, h', hsend', hmarks⟩ := hw
    obtain rfl := Option.some.inj (hsend.symm.trans hsend')
    have hself := halters.half id
    rw [if_pos rfl] at hself
    exact ⟨halters.frozen.trans hfrozen, _, hself, hmarks⟩

/-- A stream that waits goes on to wait, or it is woken, once, by an operation
after which there is credit of both kinds; unless the operation ends it. -/
theorem Waits.perform (hw : s.Waits id) (hs : s.Orderly) (hq : s.Queued) (hop : op.Fits)
    (hends : (Entry.mk s op (s.perform op).1).endsSendingOn id = false) :
    (s.perform op).2.Waits id ∧ id ∉ s.wakes op ∨
      (s.perform op).2.hasCredit id = true ∧ (s.wakes op).count id = 1 ∧ op.isCredit id = true := by
  have hcalm (h : s.Calm (s.perform op).2) : (s.perform op).2.Waits id ∧ id ∉ s.wakes op := by
    refine ⟨hw.calm hs h, ?_⟩
    rw [wakes_of_hushed h.told]
    exact nofun
  have hquiet (h : s.Quietly (s.perform op).2) := hcalm (h.calm hs)
  have habandons {id' : StreamId} (hne : id ≠ id') (h : s.Abandons id' (s.perform op).2) :
      (s.perform op).2.Waits id ∧ id ∉ s.wakes op := by
    refine ⟨hw.abandons_of_ne hs hne h, ?_⟩
    rw [wakes_of_hushed (h.eases hs).2]
    exact nofun
  -- three operations lift a limit and may wake; every other one either leaves the queue of
  -- the waiting alone or drops another stream from it
  cases op with
  | openStream d => exact .inl (hquiet (quietly_openStream s d))
  | write id' data fin =>
    refine .inl ⟨hw.write hq hends, ?_⟩
    rw [wakes_write]
    exact nofun
  | read id' maxLen => exact .inl (hquiet (quietly_read s id' maxLen))
  | resetStream id' =>
    rcases resetStream_steps s id' with hq' | ⟨hok, hdone⟩
    · exact .inl (hquiet hq')
    · refine .inl (habandons ?_ hdone)
      rintro rfl
      simp only [Entry.endsSendingOn, StreamSet.perform, hok, beq_self_eq_true,
        Bool.true_eq_false] at hends
  | stopSending id' => exact .inl (hquiet (quietly_stopSending s id'))
  | handshakeCompleted peer =>
    rcases s.perform_handshakeCompleted peer with hsame | ⟨-, hperform⟩
    · exact .inl (hcalm (hsame.symm ▸ .refl s))
    rcases (hw.inForce peer).wakeParked (hq.toLined.inForce peer) (s.hushed_inForce peer)
      hperform with hstays | ⟨hhas, hone⟩
    · exact .inl hstays
    · exact .inr ⟨hhas, hone, rfl⟩
  | streamData id' offset data fin => exact .inl (hquiet (quietly_onStreamData hop offset data fin))
  | streamReset id' errorCode finalSize =>
    exact .inl (hquiet (quietly_onStreamReset hop errorCode finalSize))
  | peerStop id' errorCode =>
    rcases onStopSending_steps hop errorCode with hq' | ⟨hok, hdone⟩
    · exact .inl (hquiet hq')
    · refine .inl (habandons ?_ hdone)
      rintro rfl
      simp only [Entry.endsSendingOn, StreamSet.perform, hok, beq_self_eq_true,
        Bool.true_eq_false] at hends
  | maxStreamData id' limit =>
    rcases hw.maxStreamData id' limit with hstays | ⟨hhas, hone, hself⟩
    · exact .inl hstays
    · exact .inr ⟨hhas, hone, beq_iff_eq.2 hself⟩
  | maxData limit =>
    rcases s.perform_maxData limit with hsame | ⟨-, hperform⟩
    · exact .inl (hcalm (hsame.symm ▸ .refl s))
    have hwaits : (s.extendAll limit).Waits id := hw
    rcases hwaits.wakeParked (hq.toLined.extendAll limit) (s.hushed_extendAll limit) hperform with
      hstays | ⟨hhas, hone⟩
    · exact .inl hstays
    · exact .inr ⟨hhas, hone, rfl⟩
  | maxStreams d n => exact .inl (hcalm (calm_onMaxStreams s d n))
  | streamAcked id' n => exact .inl (hquiet (quietly_onStreamAcked s id' n))
  | takeEvents =>
    refine .inl ⟨hw, ?_⟩
    rw [wakes_takeEvents]
    exact nofun
  | freeze => simp only [Entry.endsSendingOn, Bool.true_eq_false] at hends

/-- A short write leaves its stream waiting. -/
theorem waits_of_isShortOn {e : Entry} (hanswer : e.answer = (e.before.perform e.op).1)
    (hshort : e.isShortOn id = true) : e.after.Waits id := by
  obtain ⟨s, op, answer⟩ := e
  change answer = (s.perform op).1 at hanswer
  subst hanswer
  cases op with
  | write id' data fin =>
    rcases s.write_eq id' data fin with ⟨e, he, heq⟩ | ⟨h, n, hfrozen, hsend, hwritable, hn,
      hanswer, halters, -⟩
    · rw [perform, heq] at hshort
      simp only [Entry.isShortOn, Bool.and_eq_true, beq_iff_eq] at hshort
      exact absurd hshort.2 he
    rw [isShortOn_write hn hanswer, Bool.and_eq_true, beq_iff_eq] at hshort
    obtain ⟨rfl, hfalls⟩ := hshort
    have hself := halters.half id'
    rw [if_pos rfl, hfalls, Bool.not_true, Bool.and_false] at hself
    refine ⟨halters.frozen.trans hfrozen, _, hself, Bool.or_true _, ?_⟩
    -- what was accepted in part may be written on
    rw [SendHalf.accept]
    dsimp only
    split
    · next hfalse => cases hfalse
    split
    · rfl
    · exact hwritable
  | _ => cases hshort

/-! ## Runs

Along a run the queue holds the streams in the order in which they were parked last. A
short write parks at the end, and nobody overtakes. -/

/-- A stream waits through a run in which it is not ended and never has credit. -/
theorem Waits.after (hw : s.Waits id) (hs : s.Orderly) (hq : s.Queued) {ops : List Operation}
    (hops : ∀ op ∈ ops, op.Fits) (hends : ∀ x ∈ s.trace ops, x.endsSendingOn id = false)
    (hlacks : ∀ x ∈ s.trace ops, x.after.hasCredit id = false) :
    (s.after ops).Waits id ∧ ∀ x ∈ s.trace ops, id ∉ x.wakes := by
  induction ops generalizing s with
  | nil => exact ⟨hw, List.forall_mem_nil _⟩
  | cons op rest ih =>
    rw [List.forall_mem_cons] at hops
    rw [trace, List.forall_mem_cons] at hends hlacks
    have hsteps := steps_perform s hops.1
    rcases hw.perform hs hq hops.1 hends.1 with ⟨hstays, hnot⟩ | ⟨hhas, -⟩
    · obtain ⟨hlast, hnone⟩ := ih hstays (hsteps.orderly hs).1 (hq.steps hs hsteps) hops.2 hends.2
        hlacks.2
      refine ⟨hlast, ?_⟩
      rw [trace, List.forall_mem_cons]
      exact ⟨hnot, hnone⟩
    · have hlack : (s.perform op).2.hasCredit id = false := hlacks.1
      rw [hhas] at hlack
      cases hlack

/-- Without a short write nobody begins to wait. -/
theorem not_isBlocked_after (hs : s.Orderly) (hq : s.Queued) (hfree : s.isBlocked id = false)
    {ops : List Operation} (hops : ∀ op ∈ ops, op.Fits)
    (hnone : ∀ x ∈ s.trace ops, x.isShortOn id = false) : (s.after ops).isBlocked id = false := by
  induction ops generalizing s with
  | nil => exact hfree
  | cons op rest ih =>
    rw [List.forall_mem_cons] at hops
    rw [trace, List.forall_mem_cons] at hnone
    have hsteps := steps_perform s hops.1
    refine ih (hsteps.orderly hs).1 (hq.steps hs hsteps) ?_ hops.2 hnone.2
    rw [Bool.eq_false_iff]
    intro hblocked
    rcases ((shifts_perform hs hq hops.1).blocked hblocked).2 with hshort | hbefore
    · rw [hnone.1] at hshort
      cases hshort
    · rw [hfree] at hbefore
      cases hbefore

/-- A stream that waits and that nobody ends is woken by the first step of a run
after which there is credit of both kinds. -/
theorem Waits.next (hw : s.Waits id) (hs : s.Orderly) (hq : s.Queued) {ops : List Operation}
    (hops : ∀ op ∈ ops, op.Fits) {later rest : List Entry} {next : Entry}
    (ht : s.trace ops = later ++ next :: rest)
    (hends : ∀ x ∈ later ++ [next], x.endsSendingOn id = false)
    (hlacks : ∀ x ∈ later, x.after.hasCredit id = false) :
    (∀ x ∈ later, id ∉ x.wakes) ∧
      next.wakes.count id = (if next.after.hasCredit id then 1 else 0) ∧
      (next.after.hasCredit id = true → next.op.isCredit id = true) := by
  obtain ⟨ops₁, ops₂, rfl, rfl, hbefore, hanswer, -⟩ := trace_eq_append ht
  rw [List.forall_mem_append, List.forall_mem_cons] at hops
  rw [List.forall_mem_append, List.forall_mem_singleton] at hends
  obtain ⟨hwaits, hnone⟩ := hw.after hs hq hops.1 hends.1 hlacks
  refine ⟨hnone, ?_⟩
  have hsteps := steps_after s hops.1
  rw [← hbefore] at hwaits hsteps
  have hs' := (hsteps.orderly hs).1
  have hq' := hq.steps hs hsteps
  have hlast : (Entry.mk next.before next.op (next.before.perform next.op).1).endsSendingOn id =
      false := hanswer ▸ hends.2
  rcases hwaits.perform hs' hq' hops.2.1 hlast with ⟨hstays, hnot⟩ | ⟨hhas, hone, hcredit⟩
  · have hqueued : next.after.Queued := hq'.steps hs' (steps_perform next.before hops.2.1)
    have hlack : next.after.hasCredit id = false := hstays.hasCredit_eq hqueued
    rw [hlack]
    exact ⟨List.count_eq_zero_of_not_mem hnot, nofun⟩
  · have hhas' : next.after.hasCredit id = true := hhas
    rw [hhas']
    exact ⟨hone, fun _ => hcredit⟩

/-- Who does not wait is woken only after a short write. -/
theorem exists_isShortOn_of_wakes (hs : s.Orderly) (hq : s.Queued) (hfree : s.isBlocked id = false)
    {ops : List Operation} (hops : ∀ op ∈ ops, op.Fits) {later rest : List Entry} {next : Entry}
    (ht : s.trace ops = later ++ next :: rest) (hwoken : id ∈ next.wakes) :
    ∃ x ∈ later, x.isShortOn id = true := by
  obtain ⟨ops₁, ops₂, rfl, rfl, hbefore, -, -⟩ := trace_eq_append ht
  rw [List.forall_mem_append, List.forall_mem_cons] at hops
  by_contra hnone
  have hnone' : ∀ x ∈ s.trace ops₁, x.isShortOn id = false := fun x hx =>
    Bool.eq_false_iff.2 fun hshort => hnone ⟨x, hx, hshort⟩
  have hstill := not_isBlocked_after hs hq hfree hops.1 hnone'
  have hsteps := steps_after s hops.1
  rw [← hbefore] at hstill hsteps
  have hmark := (shifts_perform (hsteps.orderly hs).1 (hq.steps hs hsteps) hops.2.1).woken hwoken
  rw [hstill] at hmark
  cases hmark

/-- The queue is in the order of parking. -/
theorem lastParked_pairwise (hs : s.Orderly) (hq : s.Queued) {t : List Entry}
    (hsorted : s.parked.Pairwise fun a b => lastParked a t < lastParked b t)
    {ops : List Operation} (hops : ∀ op ∈ ops, op.Fits) :
    (s.after ops).parked.Pairwise fun a b =>
      lastParked a (t ++ s.trace ops) < lastParked b (t ++ s.trace ops) := by
  induction ops generalizing s t with
  | nil => rwa [trace, List.append_nil]
  | cons op rest ih =>
    rw [List.forall_mem_cons] at hops
    have hsteps := steps_perform s hops.1
    have hnext : (s.perform op).2.parked.Pairwise fun a b =>
        lastParked a (t ++ [⟨s, op, (s.perform op).1⟩]) <
          lastParked b (t ++ [⟨s, op, (s.perform op).1⟩]) := by
      -- an operation either keeps a sublist of the queue, in its order, or puts one stream
      -- at its end
      rcases (shifts_perform hs hq hops.1).parked with ⟨hsub, hnone⟩ | ⟨id, hpark, hlast⟩
      · simp only [lastParked_append, hnone, Bool.false_eq_true, ↓reduceIte]
        exact hsorted.sublist hsub
      · -- the new one is parked now, and the others were before
        have hfresh : id ∉ s.parked := by
          have hnodup := (hq.steps hs hsteps).nodup
          rw [hpark, List.nodup_append] at hnodup
          exact fun hmem => hnodup.2.2 id hmem id (List.mem_singleton.2 rfl) rfl
        rw [hpark, List.pairwise_append]
        refine ⟨?_, List.pairwise_singleton _ _, fun a ha b hb => ?_⟩
        · refine hsorted.imp_of_mem fun {a b} ha hb hlt => ?_
          have hne (c : StreamId) (hc : c ∈ s.parked) : c ≠ id := fun heq => hfresh (heq ▸ hc)
          simpa only [lastParked_append, hlast, hne a ha, hne b hb, decide_false,
            Bool.false_eq_true, ↓reduceIte] using hlt
        · obtain rfl := List.mem_singleton.1 hb
          have hne : a ≠ b := fun heq => hfresh (heq ▸ ha)
          simp only [lastParked_append, hlast, hne, decide_false, decide_true, Bool.false_eq_true,
            ↓reduceIte]
          exact Nat.lt_succ_of_le (lastParked_le a t)
    have hrest := ih (hsteps.orderly hs).1 (hq.steps hs hsteps) hnext hops.2
    rwa [List.append_assoc] at hrest

end

/-! ## The result

The invariant of the queue, what one operation does to it, and the order of the runs, put
together. -/

/-- **Woken once, and in turn.** In every run: while not everything has ended, a live
stream is marked as blocked if and only if it stands in the queue, where it stands once,
and then it lacks credit of its own or the connection lacks credit.

After a short write, a stream that nobody ends is reported writable by the first
step after which there is credit of both kinds, once and not before; and this
step is a report about credit. Between two reports lies another short write. The
reports of one step are in the order in which the streams were parked. -/
theorem woken_once (side : Side) (own : TransportParameters) (ops : List Operation)
    (hops : ∀ op ∈ ops, op.Fits) :
    let s := (new side own).after ops
    let t := (new side own).trace ops
    (s.frozen = false → ∀ id h, s.sendHalf? id = some h →
      s.parked.count id = (if h.blocked then 1 else 0) ∧
      (h.blocked = true → h.window.credit = 0 ∨ s.sendWindow.credit = 0)) ∧
    (∀ id earlier e later next rest, t = earlier ++ e :: (later ++ next :: rest) →
      e.isShortOn id = true → (∀ x ∈ later ++ [next], x.endsSendingOn id = false) →
      (∀ x ∈ later, x.after.hasCredit id = false) →
      (∀ x ∈ later, id ∉ x.wakes) ∧
      next.wakes.count id = (if next.after.hasCredit id then 1 else 0) ∧
      (next.after.hasCredit id = true → next.op.isCredit id = true)) ∧
    (∀ id earlier e later next rest, t = earlier ++ e :: (later ++ next :: rest) →
      id ∈ e.wakes → id ∈ next.wakes → ∃ x ∈ later, x.isShortOn id = true) ∧
    ∀ earlier e later, t = earlier ++ e :: later →
      e.wakes.Pairwise fun a b => lastParked a earlier < lastParked b earlier := by
  intro s t
  -- what is known of the streams before and after a step, and of the run between two steps
  have hreach {ops₁ : List Operation} (hops₁ : ∀ op ∈ ops₁, op.Fits) :
      ((new side own).after ops₁).Orderly ∧ ((new side own).after ops₁).Queued :=
    ⟨orderly_after (orderly_new side own) hops₁, queued_after side own hops₁⟩
  have hcut {earlier later : List Entry} {e : Entry} (ht : t = earlier ++ e :: later) :
      ∃ ops₁ ops₂, earlier = (new side own).trace ops₁ ∧ e.before = (new side own).after ops₁ ∧
        e.answer = (e.before.perform e.op).1 ∧ later = e.after.trace ops₂ ∧
        (∀ op ∈ ops₁, op.Fits) ∧ e.op.Fits ∧ (∀ op ∈ ops₂, op.Fits) ∧
        e.after.Orderly ∧ e.after.Queued := by
    obtain ⟨ops₁, ops₂, rfl, hearlier, hbefore, hanswer, hlater⟩ := trace_eq_append ht
    rw [List.forall_mem_append, List.forall_mem_cons] at hops
    obtain ⟨hs, hq⟩ := hreach hops.1
    have hsteps := steps_perform ((new side own).after ops₁) hops.2.1
    refine ⟨ops₁, ops₂, hearlier, hbefore, hanswer, hlater, hops.1, hops.2.1, hops.2.2, ?_⟩
    rw [Entry.after, hbefore]
    exact ⟨(hsteps.orderly hs).1, hq.steps hs hsteps⟩
  refine ⟨fun hfrozen id h hsend => ?_, ?_, ?_, ?_⟩
  · have hq := queued_after side own hops
    refine ⟨?_, hq.starved hfrozen hsend⟩
    rw [hq.nodup.count]
    exact if_congr (hq.blocked hfrozen hsend).symm rfl rfl
  · intro id earlier e later next rest ht hshort hends hlacks
    obtain ⟨ops₁, ops₂, -, -, hanswer, hlater, -, -, hfits, hs, hq⟩ := hcut ht
    exact (waits_of_isShortOn hanswer hshort).next hs hq hfits hlater.symm hends hlacks
  · intro id earlier e later next rest ht hwoken hwoken'
    obtain ⟨ops₁, ops₂, -, hbefore, -, hlater, hfits₁, hfits, hfits₂, hs, hq⟩ := hcut ht
    obtain ⟨hs₁, hq₁⟩ := hreach hfits₁
    rw [← hbefore] at hs₁ hq₁
    -- who was woken waits no more
    have hfree : e.after.isBlocked id = false := Bool.eq_false_iff.2 fun hblocked =>
      ((shifts_perform hs₁ hq₁ hfits).blocked hblocked).1 hwoken
    exact exists_isShortOn_of_wakes hs hq hfree hfits₂ hlater.symm hwoken'
  · intro earlier e later ht
    obtain ⟨ops₁, -, rfl, hbefore, -, -, hfits₁, hfits, -, -, -⟩ := hcut ht
    obtain ⟨hs, hq⟩ := hreach hfits₁
    have hsorted := lastParked_pairwise (t := []) (orderly_new side own) (queued_new side own)
      List.Pairwise.nil hfits₁
    rw [← hbefore] at hs hq hsorted
    exact hsorted.sublist (shifts_perform hs hq hfits).wakes

/-- Two streams run out of credit in turn, and a limit for the connection wakes
both. -/
def queueing : List Operation :=
  [.handshakeCompleted
      { initialMaxData := 2, initialMaxStreamDataUni := 9, initialMaxStreamsUni := 2 },
    .openStream .uni, .openStream .uni, .write ⟨6⟩ [1, 2, 3] false, .write ⟨2⟩ [1] false,
    .maxData 8]

/-- The one who was parked first is woken first. -/
theorem woken_once_queueing :
    (((new .client {}).trace queueing).map (·.wakes)) = [[], [], [], [], [], [⟨6⟩, ⟨2⟩]] ∧
      lastParked ⟨6⟩ ((new .client {}).trace (queueing.take 5)) <
        lastParked ⟨2⟩ ((new .client {}).trace (queueing.take 5)) := by
  obtain ⟨-, -, -, horder⟩ := woken_once .client {} queueing (by decide)
  have hwakes : ((new .client {}).trace queueing).map (·.wakes) =
      [[], [], [], [], [], [⟨6⟩, ⟨2⟩]] := by decide
  refine ⟨hwakes, ?_⟩
  have hlast := horder ((new .client {}).trace (queueing.take 5)) _ [] rfl
  exact (List.pairwise_cons.1 hlast).1 ⟨2⟩ (List.mem_singleton.2 rfl)

end QuicHost.StreamSet
