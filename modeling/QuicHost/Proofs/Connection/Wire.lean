import QuicHost.Proofs.Connection.Delivery

/-!
# What goes onto the wire

The frames that a connection hands out, all of them in their order, keep to the
laws of `Frame.Forbids`: nothing of a stream comes behind its end or behind its
being abandoned, a stream is abandoned once and stopped once, and the closing
comes last. Every datagram consists of whole frames and is no longer than the
settings allow (`frames_lawful`).

The streams know what may still be said (`View.Permits`). While the connection is
open, what was sent and what waits is lawful, and stays so if anything is said
behind it that the streams permit; every operation that says something withdraws
the permission for what this forbids. Datagrams cut what waits in another way,
which breaks no law. Once the connection ends, only the closing is left to be
said, and after it the connection is silent.
-/

namespace QuicHost

/-- What is lawful stays so when two things are said behind it each of which
could be said, if the first does not forbid the second. -/
theorem Frame.Lawful.append_pair {fs : List Frame} {f g : Frame} (hf : Lawful (fs ++ [f]))
    (hg : Lawful (fs ++ [g])) (hfg : ¬ f.Forbids g) : Lawful (fs ++ [f, g]) := by
  rw [Lawful, List.pairwise_append] at hf hg ⊢
  refine ⟨hf.1, List.pairwise_pair.2 hfg, fun f' hf' g' hg' => ?_⟩
  rcases List.mem_pair.1 hg' with rfl | rfl
  · exact hf.2.2 f' hf' _ (List.mem_singleton.2 rfl)
  · exact hg.2.2 f' hf' _ (List.mem_singleton.2 rfl)

/-- Whether the halves of the streams permit a frame to be said. -/
def View.Permits (v : View) : Frame → Prop
  | .stream id _ _ => ¬ v.Shut id
  | .resetStream id _ => ¬ v.SendEnded id
  | .stopSending id _ => ¬ v.RecvEnded id
  | .connectionClose _ _ => True

namespace Core

variable {p : Scope} {k k' : Core} {sent : List Frame}

/-- What was sent and what waits to be sent is lawful, whatever is said next of
what the streams permit; and what waits names streams by identifiers that fit a
word. -/
structure Speaks (sent : List Frame) (k : Core) : Prop where
  queued : ∀ f ∈ k.engine.outbound, f.Queued
  /-- behind all of it, whatever the streams permit may be said next -/
  lawful : ∀ f, k.streams.view.Permits f → Frame.Lawful (sent ++ (k.engine.outbound ++ [f]))

/-- What is permitted after a step was permitted before. -/
theorem Sends.permits (h : k.Sends p k') {f : Frame} (hf : k'.streams.view.Permits f) :
    k.streams.view.Permits f := by
  cases f with
  | stream id data fin => exact mt h.shut hf
  | resetStream id errorCode => exact mt h.sendEnded hf
  | stopSending id errorCode => exact mt h.recvEnded hf
  | connectionClose errorCode reason => trivial

namespace Speaks

/-- In any case the closing may come next. -/
theorem lawful_close (h : k.Speaks sent) (errorCode : Nat) (reason : Bytes) :
    Frame.Lawful (sent ++ [.connectionClose errorCode reason]) :=
  (h.lawful (.connectionClose errorCode reason) trivial).sublist
    ((List.sublist_append_right _ _).append_left sent)

/-- Nothing is said, and nothing is permitted that was not. -/
theorem keeps (h : k.Speaks sent)
    (hpermits : ∀ {f}, k'.streams.view.Permits f → k.streams.view.Permits f)
    (hsame : k'.engine.outbound = k.engine.outbound) : k'.Speaks sent := by
  refine ⟨?_, fun f hf => ?_⟩
  · rw [hsame]
    exact h.queued
  · rw [hsame]
    exact h.lawful f (hpermits hf)

/-- Something permitted is said behind what is left of the queue, and nothing is
permitted any more that it forbids. -/
theorem tell (h : k.Speaks sent) {f : Frame} {left : List Frame}
    (hpermitted : k.streams.view.Permits f) (hfits : f.Queued)
    (hpermits : ∀ {g}, k'.streams.view.Permits g → k.streams.view.Permits g ∧ ¬ f.Forbids g)
    (hleft : left.Sublist k.engine.outbound) (hsaid : k'.engine.outbound = left ++ [f]) :
    k'.Speaks sent := by
  have hlawful (g : Frame) (hg : k.streams.view.Permits g) :
      Frame.Lawful (sent ++ left ++ [g]) := by
    rw [List.append_assoc]
    exact (h.lawful g hg).sublist ((hleft.append_right [g]).append_left sent)
  refine ⟨?_, fun g hg => ?_⟩
  · rw [hsaid, List.forall_mem_append]
    exact ⟨fun g hg => h.queued g (hleft.subset hg), List.forall_mem_singleton.2 hfits⟩
  · obtain ⟨hbefore, hfg⟩ := hpermits hg
    have hpair := (hlawful f hpermitted).append_pair (hlawful g hbefore) hfg
    rw [hsaid]
    rw [List.append_assoc] at hpair
    rwa [List.append_assoc left]

/-- A quiet step keeps the speech lawful: it asks the peer to stop, or abandons a stream,
only where neither was said. -/
theorem quiet (hsound : k.Sound) (h : k.Speaks sent) (hq : k.Quiet p k') : k'.Speaks sent := by
  have hsends := hq.sends hsound
  rcases hsends.queues with hsame | ⟨id, errorCode, hid, hlive, hend, hasked⟩ |
    ⟨id, errorCode, hid, -, hlive, hend, habandoned⟩
  · exact h.keeps hsends.permits hsame
  · refine h.tell (f := .stopSending id errorCode) hlive hid (fun hg => ⟨hsends.permits hg, ?_⟩)
      (List.Sublist.refl _) hasked
    rintro ⟨⟩
    exact hg hend
  · refine h.tell (f := .resetStream id errorCode) hlive hid (fun hg => ⟨hsends.permits hg, ?_⟩)
      List.filter_sublist habandoned
    rintro (_ | _ | _)
    · exact hg hend.shut
    · exact hg hend

theorem quietly (hsound : k.Sound) (h : k.Speaks sent) (hq : k.Quietly p k') : k'.Speaks sent :=
  Quietly.keeps quiet hsound h hq

/-- What a write accepts is said, if it is anything. -/
theorem write (hsound : k.Sound) (h : k.Speaks sent) {id : StreamId} {data : Bytes} {fin : Bool}
    {out : WriteOutcome} (hr : (k.streams.write id data fin).1 = .ok out) :
    Speaks sent ⟨(k.streams.write id data fin).2, Connection.submit k.engine id out⟩ := by
  have hwrite := (StreamSet.write_outcome hsound.orderly id data fin).2
  rw [hr] at hwrite
  have hpermits {f : Frame} (hf : (k.streams.write id data fin).2.view.Permits f) :
      k.streams.view.Permits f := by
    cases f with
    | stream id' data' fin' => exact mt (hwrite.lasts SendState.lasting_shut) hf
    | resetStream id' errorCode => exact mt (hwrite.lasts SendState.lasting_ended) hf
    | stopSending id' errorCode => exact mt hwrite.sparesRecv.recvEnded hf
    | connectionClose errorCode reason => trivial
  by_cases hsaid : 0 < out.accepted ∨ out.fin = true
  · refine h.tell (f := .stream id out.chunk out.fin) hwrite.not_shut
      (StreamSet.fits_of_write hsound.orderly hr) (fun hg => ⟨hpermits hg, fun hforbids => ?_⟩)
      (List.Sublist.refl _) (by rw [Connection.submit, if_pos hsaid]; rfl)
    -- only an end forbids anything, and then the stream is shut
    generalize hfin : out.fin = ended at hforbids
    cases hforbids with
    | ended _ _ _ _ => exact hg (hwrite.shut_of_fin hfin)
  · refine h.keeps hpermits ?_
    rw [Connection.submit, if_neg hsaid]

/-- Datagrams take from what waits. -/
theorem handed (h : k.Speaks sent) {datagrams : List Bytes} {left : List Frame}
    (hhanded : ScriptedEngine.Handed k.engine.outbound datagrams left) :
    Speaks (sent ++ datagrams.flatMap Frame.decodeAll)
      ⟨k.streams, { k.engine with outbound := left }⟩ := by
  refine ⟨(List.forall_mem_append.1 (hhanded.retells.queued h.queued)).2, fun f hf => ?_⟩
  have hretold := hhanded.retells.lawful (h.lawful f hf)
  simp only [List.append_assoc] at hretold ⊢
  exact hretold

end Speaks

end Core

namespace Connection

variable {σ : Type} {bounds : Nat × Nat} {sent : List Frame}
  {c c' : Connection ScriptedEngine σ}

/-- How a connection speaks: what it has sent is lawful, and so will be what it
may send. -/
inductive Speaks (bounds : Nat × Nat) (sent : List Frame) (c : Connection ScriptedEngine σ) :
    Prop where
  /-- it is open -/
  | running : c.IsOpen (.all bounds) → c.core.Speaks sent → Speaks bounds sent c
  /-- it is ending, and may still say so -/
  | ending : c.IsEnding bounds →
    (∀ errorCode reason, Frame.Lawful (sent ++ [.connectionClose errorCode reason])) →
    Speaks bounds sent c
  /-- it says nothing any more -/
  | silent : c.Silent → Frame.Lawful sent → Speaks bounds sent c

/-- Whatever a connection may yet send, what it has sent is lawful. -/
theorem Speaks.lawful (h : c.Speaks bounds sent) : Frame.Lawful sent := by
  cases h with
  | running _ hk => exact (hk.lawful_close 0 []).sublist (List.sublist_append_left _ _)
  | ending _ hlawful => exact (hlawful 0 []).sublist (List.sublist_append_left _ _)
  | silent _ hlawful => exact hlawful

/-- What a connection comes to that was open and took quiet steps. -/
theorem Speaks.of_running {k : Core} (hsound : k.Sound) (hk : k.Speaks sent)
    (h : c'.IsEnding bounds ∨ c'.IsOpen (.all bounds) ∧ k.Quietly (.all bounds) c'.core) :
    c'.Speaks bounds sent := by
  rcases h with hend | ⟨hopen, hquiet⟩
  · exact .ending hend hk.lawful_close
  · exact .running hopen (hk.quietly hsound hquiet)

/-- Whether a datagram consists of frames, and is not longer than allowed. -/
def Proper (bounds : Nat × Nat) (d : Bytes) : Prop := Frame.Whole d ∧ d.length ≤ bounds.1

/-! ## One call

What each call does to what was sent and what waits. Everything that waits may be said,
and what may still be said after it is decided by the states of the halves. -/

/-- What is written is of a stream that is not shut. -/
theorem speaks_write (h : c.IsOpen (.all bounds)) (hk : c.core.Speaks sent) (id : StreamId)
    (data : Bytes) (fin : Bool) : (c.write id data fin).2.Speaks bounds sent := by
  have hopen := isOpen_write h id data fin
  refine .running hopen ?_
  rw [write_eq h.state]
  rcases hr : c.streams.write id data fin with ⟨e | out, streams⟩
  · have hquiet : c.core.Quiet (.all bounds) ⟨(c.streams.write id data fin).2, c.adapter.engine⟩ :=
      .writeRefused (congrArg Prod.fst hr)
    rw [hr] at hquiet
    exact hk.quiet h.core hquiet
  · have hok : (c.core.streams.write id data fin).1 = .ok out := congrArg Prod.fst hr
    have hwritten := hk.write h.core hok
    change Core.Speaks sent ⟨(c.streams.write id data fin).2, _⟩ at hwritten
    rw [hr] at hwritten
    exact hwritten

/-- What an open connection hands out. If the engine fails, it is nothing. -/
theorem speaks_produceDatagrams (hbounds : (Scope.all bounds).Roomy) (h : c.IsOpen (.all bounds))
    (hk : c.core.Speaks sent) (now : Instant) (w : σ) :
    (c.produceDatagrams now w).1.2.Speaks bounds
        (sent ++ (c.produceDatagrams now w).1.1.flatMap Frame.decodeAll) ∧
      ∀ d ∈ (c.produceDatagrams now w).1.1, Frame.Whole d := by
  rcases hfailure : c.adapter.engine.writeFailure with _ | error
  · obtain ⟨left, hopen, hcore, hhanded, -⟩ :=
      isOpen_produceDatagrams h ⟨hfailure, hk.queued⟩ hbounds now w
    refine ⟨.running hopen ?_, hhanded.whole⟩
    rw [hcore]
    exact hk.handed hhanded
  · have hcount : c.adapter.maxDatagramsPerPoll ≠ 0 := by
      have hsize : (c.adapter.maxUdpPayloadSize, c.adapter.maxDatagramsPerPoll) = bounds := h.bounds
      have hpos := hbounds.2
      change 0 < bounds.2 at hpos
      rw [← hsize] at hpos
      exact Nat.ne_of_gt hpos
    have hproduce := produceDatagrams_outcome c now w h.maySend
    dsimp only at hproduce
    rw [ScriptedEngine.pull_of_writeFailure _ now _ hfailure, if_neg hcount] at hproduce
    rcases hproduce with ⟨e, -, hnone, hc⟩ | ⟨datagrams, hok, -⟩
    · rw [hnone, hc, List.flatMap_nil, List.append_nil]
      refine ⟨?_, List.forall_mem_nil _⟩
      -- the connection after the failure is the open one, and acts on the failure
      let drawn : Connection ScriptedEngine σ := { c with
        adapter := { c.adapter with engine := { c.adapter.engine with writeFailure := none } } }
      have hdrawn : drawn.IsOpen (.all bounds) :=
        ⟨h.state, h.closePending,
          ⟨h.engine.closeFrame, h.engine.callbacks, h.engine.datagramReactions,
            h.engine.timeoutReactions⟩,
          h.bounds, h.core.orderly, h.core.frozen⟩
      have hkept : drawn.core.Speaks sent := ⟨hk.queued, hk.lawful⟩
      exact .of_running hdrawn.core hkept
        (((advances_onTransportError _ e now).trans (advances_flush _ w)).running hdrawn)
    · cases hok

/-- What an ending connection hands out: the closing, or nothing. -/
theorem speaks_produceDatagrams_of_isEnding (h : c.IsEnding bounds)
    (hlawful : ∀ errorCode reason, Frame.Lawful (sent ++ [.connectionClose errorCode reason]))
    (now : Instant) (w : σ) :
    (c.produceDatagrams now w).1.2.Speaks bounds
        (sent ++ (c.produceDatagrams now w).1.1.flatMap Frame.decodeAll) ∧
      ∀ d ∈ (c.produceDatagrams now w).1.1, Frame.Whole d := by
  have hend : (c.produceDatagrams now w).1.2.IsEnding bounds :=
    isEnding_produceDatagrams (p := .all bounds) h now w
  have hnothing (hnone : (c.produceDatagrams now w).1.1 = []) :
      (c.produceDatagrams now w).1.2.Speaks bounds
          (sent ++ (c.produceDatagrams now w).1.1.flatMap Frame.decodeAll) ∧
        ∀ d ∈ (c.produceDatagrams now w).1.1, Frame.Whole d := by
    rw [hnone, List.flatMap_nil, List.append_nil]
    exact ⟨.ending hend hlawful, List.forall_mem_nil _⟩
  by_cases hsend : c.maySend = true
  · have hpending : c.closePending = true :=
      IsEnding.closePending_of_maySend (p := .all bounds) h hsend
    obtain ⟨errorCode, reason, hframe, hreason⟩ := h.announced hpending
    rcases produceDatagrams_outcome c now w hsend with ⟨e, -, hnone, -⟩ | ⟨datagrams, hok, hc⟩
    · exact hnothing hnone
    rcases ScriptedEngine.pull_of_closeFrame now _ hframe hok with rfl | ⟨-, rfl⟩
    · exact hnothing (by rw [hc])
    have hshort : (Frame.connectionClose errorCode reason).Short := hreason
    have hdraining : c.state = .draining := by
      rcases isClosing_iff.1 h.state with hstate | hstate
      · exact hstate
      · rw [maySend, hstate] at hsend
        cases hsend
    -- after the closing nothing may follow, and the flag that allowed it is down
    have hsilent : (c.produceDatagrams now w).1.2.Silent := by
      refine ⟨hend.state, ?_⟩
      rw [hc]
      change (c.closePending && c.state != .draining) = false
      rw [hdraining]
      exact Bool.and_false _
    rw [hc] at hsilent ⊢
    rw [List.flatMap_singleton, Frame.decodeAll_encode hshort]
    exact ⟨.silent hsilent (hlawful _ _), List.forall_mem_singleton.2 (Frame.whole_encode hshort)⟩
  · refine hnothing ?_
    rw [produceDatagrams, if_neg hsend]
    rfl

/-- A silent connection hands out nothing. -/
theorem returned_of_silent (h : c.Silent) (w : σ) (call : Call σ) :
    Exchange.returned ⟨call, (c.perform w call).1⟩ = [] := by
  cases call with
  | produceDatagrams now =>
    change (c.produceDatagrams now w).1.1 = []
    rw [produceDatagrams, if_neg (Bool.eq_false_iff.1 h.maySend)]
    rfl
  | _ => rfl

/-- Only asking for datagrams hands out any. -/
theorem returned_eq_nil (c : Connection ScriptedEngine σ) (w : σ) {call : Call σ}
    (h : ∀ now, call ≠ .produceDatagrams now) :
    Exchange.returned ⟨call, (c.perform w call).1⟩ = [] := by
  cases call with
  | produceDatagrams now => exact absurd rfl (h now)
  | _ => rfl

/-- Nothing is handed out that is longer than allowed. -/
theorem length_le_of_returned {ε : Type} [PacketEngine ε] (c : Connection ε σ) (now : Instant)
    (w : σ) : ∀ d ∈ (c.produceDatagrams now w).1.1, d.length ≤ c.adapter.maxUdpPayloadSize := by
  rw [produceDatagrams]
  split
  · rw [EngineAdapter.produceDatagrams]
    rcases hpull : EngineAdapter.pull c.adapter.maxUdpPayloadSize now
      c.adapter.maxDatagramsPerPoll c.adapter.engine with ⟨e | datagrams, engine⟩
    · exact List.forall_mem_nil _
    · exact EngineAdapter.length_le_of_pull (congrArg Prod.fst hpull)
  · exact List.forall_mem_nil _

/-- One call. -/
theorem speaks_perform (hbounds : (Scope.all bounds).Roomy) (h : c.Speaks bounds sent) (w : σ)
    {call : Call σ} (hfits : call.Fits) :
    let x : Exchange σ := ⟨call, (c.perform w call).1⟩
    (c.perform w call).2.1.Speaks bounds (sent ++ x.returned.flatMap Frame.decodeAll) ∧
      ∀ d ∈ x.returned, Proper bounds d := by
  have hquiet (hnone : Exchange.returned ⟨call, (c.perform w call).1⟩ = [])
      (hnext : (c.perform w call).2.1.Speaks bounds sent) :
      let x : Exchange σ := ⟨call, (c.perform w call).1⟩
      (c.perform w call).2.1.Speaks bounds (sent ++ x.returned.flatMap Frame.decodeAll) ∧
        ∀ d ∈ x.returned, Proper bounds d := by
    dsimp only
    rw [hnone, List.flatMap_nil, List.append_nil]
    exact ⟨hnext, List.forall_mem_nil _⟩
  -- who asks for datagrams gets proper ones
  have hproduced (now : Instant) (hsize : c.adapter.bounds = bounds)
      (hstep : (c.produceDatagrams now w).1.2.Speaks bounds
          (sent ++ (c.produceDatagrams now w).1.1.flatMap Frame.decodeAll) ∧
        ∀ d ∈ (c.produceDatagrams now w).1.1, Frame.Whole d) :
      (c.produceDatagrams now w).1.2.Speaks bounds
          (sent ++ (c.produceDatagrams now w).1.1.flatMap Frame.decodeAll) ∧
        ∀ d ∈ (c.produceDatagrams now w).1.1, Proper bounds d := by
    refine ⟨hstep.1, fun d hd => ⟨hstep.2 d hd, ?_⟩⟩
    have hlength := length_le_of_returned c now w d hd
    have hmax : c.adapter.maxUdpPayloadSize = bounds.1 := congrArg Prod.fst hsize
    rwa [hmax] at hlength
  cases h with
  | silent hsilent hlawful =>
    exact hquiet (returned_of_silent hsilent w call) (.silent (hsilent.perform w hfits) hlawful)
  | ending hend hlawful =>
    by_cases hasks : ∃ now, call = .produceDatagrams now
    · obtain ⟨now, rfl⟩ := hasks
      exact hproduced now hend.bounds (speaks_produceDatagrams_of_isEnding hend hlawful now w)
    · rw [not_exists] at hasks
      exact hquiet (returned_eq_nil c w hasks)
        (.ending (isEnding_perform (p := .all bounds) hend w hfits) hlawful)
  | running hopen hk =>
    by_cases hloud : call.isLoud = false
    · refine hquiet (silent_perform c w hloud ⟨0⟩).2.2 (.of_running hopen.core hk ?_)
      exact (advances_perform c w (hfits.within bounds _) hloud).running hopen
    cases call with
    | write id data fin => exact hquiet rfl (speaks_write hopen hk id data fin)
    | produceDatagrams now =>
      exact hproduced now hopen.bounds (speaks_produceDatagrams hbounds hopen hk now w)
    | failNextWrite error =>
      exact hquiet rfl (.running (isOpen_failNextWrite hopen error) ⟨hk.queued, hk.lawful⟩)
    | _ => exact absurd rfl hloud

/-! ## Runs

The speech stays lawful along a run, until the connection falls silent. -/

/-- The datagrams handed out so far. -/
def Run.returned (r : Run σ) : List Bytes := r.history.flatMap (·.returned)

/-- What is known of a run: what it has sent is lawful, and its datagrams are
proper. -/
def Run.Speaks (bounds : Nat × Nat) (r : Run σ) : Prop :=
  r.connection.Speaks bounds r.sent ∧ ∀ d ∈ r.returned, Proper bounds d

/-- One more call keeps the speech lawful and the datagrams proper. -/
theorem speaks_step (hbounds : (Scope.all bounds).Roomy) {r : Run σ} (h : r.Speaks bounds)
    {call : Call σ} (hfits : call.Fits) : (r.step call).Speaks bounds := by
  obtain ⟨hnext, hproper⟩ := speaks_perform hbounds h.1 r.world hfits
  have hreturned : (r.step call).returned =
      r.returned ++ Exchange.returned ⟨call, (r.connection.perform r.world call).1⟩ := by
    change (r.history ++ [_]).flatMap _ = _
    rw [List.flatMap_append, List.flatMap_singleton]
    rfl
  have hsent : (r.step call).sent = r.sent ++
      (Exchange.returned ⟨call, (r.connection.perform r.world call).1⟩).flatMap
        Frame.decodeAll := by
    change (r.step call).returned.flatMap _ = _
    rw [hreturned, List.flatMap_append]
    rfl
  refine ⟨?_, ?_⟩
  · rw [hsent]
    exact hnext
  · rw [hreturned]
    exact List.forall_mem_append.2 ⟨h.2, hproper⟩

/-- So do several, by induction on them. -/
theorem speaks_steps (hbounds : (Scope.all bounds).Roomy) {r : Run σ} (h : r.Speaks bounds)
    {calls : List (Call σ)} (hfits : ∀ call ∈ calls, call.Fits) :
    (r.steps calls).Speaks bounds := by
  induction calls generalizing r with
  | nil => exact h
  | cons call rest ih =>
    rw [List.forall_mem_cons] at hfits
    exact ih (speaks_step hbounds h hfits.1) hfits.2

/-- **Nothing is said that may not be said any more.** Whatever is called, and however
the engine fails: of all frames handed out, in their order, none comes behind one that
forbids it. So nothing of a stream comes behind its end or its being abandoned, a stream
is abandoned at most once and stopped at most once, and the closing, said at most once,
comes last. Every datagram reads back as frames with nothing left over, and is no longer
than the settings allow. -/
theorem frames_lawful (side : Side) (settings : ConnectionSettings) (hvalid : settings.Valid)
    (scid dcid : ConnectionId) (now : Instant) (w : σ) (calls : List (Call σ))
    (hfits : ∀ call ∈ calls, call.Fits) :
    let r := (Run.begin side settings scid dcid now w).steps calls
    (r.sent.Pairwise fun f g => ¬ f.Forbids g) ∧
      ∀ d ∈ r.returned, (Frame.decodeAll d).flatMap Frame.encode = d ∧
        d.length ≤ settings.maxUdpPayloadSize := by
  have hbounds : (Scope.all settings.bounds).Roomy := by
    obtain ⟨⟨hsize, -⟩, hcount, -⟩ := ConnectionSettings.valid_iff.1 hvalid
    exact ⟨Nat.le_trans (by decide) hsize, hcount⟩
  have hbegin : (Run.begin side settings scid dcid now w).Speaks settings.bounds := by
    refine ⟨.running (isOpen_new side rfl scid dcid now) ⟨nofun, fun f _ => ?_⟩, nofun⟩
    exact List.pairwise_singleton _ f
  obtain ⟨hspeaks, hproper⟩ := speaks_steps hbounds hbegin hfits
  exact ⟨hspeaks.lawful, hproper⟩

/-- A stream is written on, stopped and abandoned, and the connection is closed
while the end of the stream still waits. -/
def writtenAndAbandoned : List (Call Unit) :=
  [.expectDatagram (.ok [.handshakeCompleted ({} : ConnectionSettings).localParameters]),
    .ingest [] ⟨0⟩, .openStream .bidi, .write ⟨0⟩ [1, 2] false, .produceDatagrams ⟨0⟩,
    .write ⟨0⟩ [3] true, .stopSending ⟨0⟩ 7, .resetStream ⟨0⟩ 9, .produceDatagrams ⟨0⟩,
    .close 5 [] ⟨0⟩, .produceDatagrams ⟨0⟩, .produceDatagrams ⟨0⟩]

/-- The end that still waited is not sent once the stream is abandoned. -/
theorem frames_lawful_abandoned :
    let r := (Run.begin .client {} ⟨[], by decide⟩ ⟨[], by decide⟩ ⟨0⟩ ()).steps writtenAndAbandoned
    r.sent = [.stream ⟨0⟩ [1, 2] false, .stopSending ⟨0⟩ 7, .resetStream ⟨0⟩ 9,
        .connectionClose 5 []] ∧
      (r.sent.Pairwise fun f g => ¬ f.Forbids g) ∧
      ∀ d ∈ r.returned, (Frame.decodeAll d).flatMap Frame.encode = d ∧ d.length ≤ 1200 := by
  intro r
  have hreturned : r.returned =
      [Frame.encode (.stream ⟨0⟩ [1, 2] false),
        Frame.encode (.stopSending ⟨0⟩ 7) ++ Frame.encode (.resetStream ⟨0⟩ 9),
        Frame.encode (.connectionClose 5 [])] := by decide
  obtain ⟨hlawful, hproper⟩ :=
    frames_lawful .client {} (by decide) ⟨[], by decide⟩ ⟨[], by decide⟩ ⟨0⟩ ()
      writtenAndAbandoned (by decide)
  refine ⟨?_, hlawful, hproper⟩
  change r.returned.flatMap Frame.decodeAll = _
  rw [hreturned, List.flatMap_cons, List.flatMap_cons, List.flatMap_singleton,
    Frame.decodeAll_encode (by decide), Frame.decodeAll_encode_append (by decide),
    Frame.decodeAll_encode (by decide), Frame.decodeAll_encode (by decide)]
  rfl

end Connection

end QuicHost
