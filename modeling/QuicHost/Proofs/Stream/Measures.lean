import QuicHost.Proofs.Stream.Extents

/-!
# How large quantities become

Whatever is done with the streams of a connection, refused or not, the quantities
that they keep measure each other (`measured_perform`). What was read and what waits
were received; a limit for receiving is the window beyond what was read; no stream
has read more than the connection; and every limit for sending is one that the peer
has announced. Unlike the books on credit, this survives violations and the end of
the connection, after which bytes are read that are never given back.

What is said about receiving presumes that the connection has room for one more window
of a stream (`HasRoom`).
-/

namespace QuicHost

namespace StreamSet

/-! ## Operations

The measures of a set of streams before and after any operation. The effects of the
operations are known, so that every case is an effect on the view and the lemmas about it. -/

/-- Whether the limits for sending that an operation announces fit a word. -/
def Operation.LimitsFit : Operation → Prop
  | .handshakeCompleted peer => peer.LimitsFit
  | .maxStreamData _ limit => limit ≤ maxWord
  | .maxData limit => limit ≤ maxWord
  | _ => True

/-- The acknowledged bytes that an operation counts. -/
def Operation.acknowledged : Operation → Nat
  | .streamAcked _ n => n
  | _ => 0

/-- Whether the connection could be granted one more window of any stream. -/
def HasRoom (s : StreamSet) : Prop :=
  s.view.HasRoom (recvWindowFor s.side s.localParams) s.localParams.initialMaxData

/-- The streams are orderly and counted, neither side has overdrawn its credit, limits
for sending fit a word, and what was received is measured if there is room. -/
structure Measured (s : StreamSet) : Prop where
  windows : s.Windows
  census : s.Census
  /-- what may be sent, which needs no room -/
  capped : s.view.Capped
  /-- what may be received, which takes room for a window -/
  recv : s.HasRoom →
    s.view.Measured (recvWindowFor s.side s.localParams) s.localParams.initialMaxData

/-- A new set is measured by the windows of its own parameters. -/
theorem measured_new (side : Side) (own : TransportParameters) : (new side own).Measured where
  windows := windows_new side own
  census := census_new side own
  capped := by
    refine ⟨fun hsend => ?_, Nat.zero_le _⟩
    rw [eq_of_view_send_new hsend]
    exact ⟨Nat.zero_le _, Nat.le_refl _⟩
  recv _ := by
    refine ⟨fun hrecv => ?_, rfl, rfl⟩
    obtain rfl := eq_of_view_recv_new hrecv
    exact ⟨RecvHalf.measured_ofWindow _, Nat.le_refl _⟩

section

variable {s s' : StreamSet}

/-- Limits come from parameters, which fit words. -/
theorem sendLimitFor_le {peer : TransportParameters} (hpeer : peer.LimitsFit) (side : Side)
    (id : StreamId) :
    sendLimitFor side (some peer) id ≤ maxWord := by
  obtain ⟨-, hlocal, hremote, huni⟩ := hpeer
  simp only [sendLimitFor]
  split
  · exact huni
  · split
    · exact hremote
    · exact hlocal

/-- The peer's parameters set limits that are words, and nothing is sent. -/
theorem proceeds_onHandshakeCompleted {peer : TransportParameters} (hpeer : peer.LimitsFit) :
    s.view.Proceeds (s.onHandshakeCompleted peer).view 0 0 := by
  by_cases hfrozen : s.frozen = true
  · rw [onHandshakeCompleted, if_pos hfrozen]
    exact .refl _ 0
  rw [(keeps_onHandshakeCompleted (Bool.eq_false_iff.2 hfrozen) peer).2]
  refine ⟨fun {id h'} hsend => ?_, fun hle => Nat.max_le.2 ⟨hle, hpeer.1⟩, rfl⟩
  rw [view_send_raise] at hsend
  obtain ⟨h, hbefore, rfl⟩ := Option.map_eq_some_iff.1 hsend
  refine ⟨h, hbefore, ?_⟩
  have hlimit := sendLimitFor_le hpeer s.side id
  split
  · exact h.proceeds_extend hlimit
  · next hused =>
    rw [eq_of_view_send_of_not_used hused hbefore]
    exact ⟨fun _ _ => Nat.le_refl _, fun _ => hlimit, Nat.le_refl _⟩

/-- What an operation does to sending halves. -/
theorem proceeds_perform (hs : s.Orderly) {op : Operation} (hop : op.Fits)
    (hlimits : op.LimitsFit) : ∃ n, s.view.Proceeds (s.perform op).2.view n op.acknowledged := by
  have hspares {s' : StreamSet} (h : s.view.SparesSend s'.view) :
      ∃ n, s.view.Proceeds s'.view n 0 := ⟨0, h.proceeds⟩
  have hsame {s' : StreamSet} (hview : s'.view = s.view) : ∃ n, s.view.Proceeds s'.view n 0 :=
    hspares (View.sparesSend_of_eq (congrArg _ hview) (congrArg _ hview))
  cases op with
  | openStream d => exact hsame (opens_openStream hs d).view
  | write id data fin => exact (write_outcome hs id data fin).2.proceeds
  | read id maxLen => exact hspares (read_outcome hs id maxLen).2.sparesSend
  | resetStream id => exact ⟨0, (resetStream_outcome hs id).2.proceeds⟩
  | stopSending id => exact hspares (stopSending_outcome hs id).2.sparesSend
  | handshakeCompleted peer => exact ⟨0, proceeds_onHandshakeCompleted hlimits⟩
  | streamData id offset data fin =>
    exact hspares (onStreamData_outcome hs hop offset data fin).2.sparesSend
  | streamReset id errorCode finalSize =>
    exact hspares (onStreamReset_outcome hs hop errorCode finalSize).2.sparesSend
  | peerStop id errorCode => exact ⟨0, (onStopSending_outcome hs hop errorCode).2.proceeds⟩
  | maxStreamData id limit => exact ⟨0, (onMaxStreamData_outcome hs id limit).2.proceeds hlimits⟩
  | maxData limit => exact ⟨0, (onMaxData_outcome hs limit).2.proceeds hlimits⟩
  | maxStreams d n => exact hsame (onMaxStreams_outcome hs d n).2
  | streamAcked id n => exact ⟨0, (onStreamAcked_outcome hs id n).2.proceeds⟩
  | takeEvents => exact hsame rfl
  | freeze => exact hsame rfl

/-- What an operation does to receiving halves while there is room. -/
theorem measuredView_perform (hs : s.Orderly) {op : Operation} (hop : op.Fits)
    {width : StreamId → Nat} {wide : Nat} (hv : s.view.Measured width wide)
    (hbounded : s.view.Bounded) (hroom : s.view.HasRoom width wide) :
    (s.perform op).2.view.Measured width wide := by
  cases op with
  | openStream d =>
    rw [perform, (opens_openStream hs d).view]
    exact hv
  | write id data fin => exact hv.spares (write_outcome hs id data fin).2.sparesRecv
  | read id maxLen => exact hv.read hbounded hroom (read_outcome hs id maxLen).2
  | resetStream id => exact hv.spares (resetStream_outcome hs id).2.sparesRecv
  | stopSending id => exact hv.stop hbounded hroom (stopSending_outcome hs id).2
  | handshakeCompleted peer => exact hv.spares (onHandshakeCompleted_outcome s peer).sparesRecv
  | streamData id offset data fin =>
    exact hv.data hbounded hroom (onStreamData_outcome hs hop offset data fin).2
  | streamReset id errorCode finalSize =>
    exact hv.peerReset hbounded hroom (onStreamReset_outcome hs hop errorCode finalSize).2
  | peerStop id errorCode => exact hv.spares (onStopSending_outcome hs hop errorCode).2.sparesRecv
  | maxStreamData id limit => exact hv.spares (onMaxStreamData_outcome hs id limit).2.sparesRecv
  | maxData limit => exact hv.spares (onMaxData_outcome hs limit).2.sparesRecv
  | maxStreams d n =>
    rw [perform, (onMaxStreams_outcome hs d n).2]
    exact hv
  | streamAcked id n => exact hv.spares (onStreamAcked_outcome hs id n).2.sparesRecv
  | takeEvents => exact hv
  | freeze => exact hv

/-- Every operation leaves the streams measured. -/
theorem measured_perform (hs : s.Measured) {op : Operation} (hop : op.Fits)
    (hlimits : op.LimitsFit) : (s.perform op).2.Measured := by
  have horderly := hs.windows.orderly
  have hsteps := steps_perform s hop
  have hmoves := moves_perform horderly hop
  obtain ⟨horderly', hages⟩ := hsteps.orderly horderly
  obtain ⟨n, hproceeds⟩ := proceeds_perform horderly hop hlimits
  refine ⟨⟨horderly', hmoves.solvent hs.windows.solvent, hmoves.bounded hs.windows.bounded⟩,
    hs.census.steps horderly hsteps, hs.capped.proceeds hproceeds, fun hroom' => ?_⟩
  rw [HasRoom, hages.side, hages.localParams] at hroom'
  have hroom : s.HasRoom := hroom'.of_le hmoves.grows.connection
  rw [hages.side, hages.localParams]
  exact measuredView_perform horderly hop (hs.recv hroom) hs.windows.bounded hroom

/-- `s'` may come of measured streams `s`: what bounds the other quantities only
grows. -/
structure Advances (s s' : StreamSet) : Prop where
  measured : s'.Measured
  side : s'.side = s.side
  localParams : s'.localParams = s.localParams
  /-- the limit for receiving only grows -/
  limit : s.recvWindow.limit ≤ s'.recvWindow.limit
  /-- and so does what was sent -/
  sent : s.sendWindow.consumed ≤ s'.sendWindow.consumed

theorem Measured.advances (hs : s.Measured) : s.Advances s :=
  ⟨hs, rfl, rfl, Nat.le_refl _, Nat.le_refl _⟩

theorem Advances.trans {s'' : StreamSet} (h : s.Advances s') (h' : s'.Advances s'') :
    s.Advances s'' where
  measured := h'.measured
  side := h'.side.trans h.side
  localParams := h'.localParams.trans h.localParams
  limit := Nat.le_trans h.limit h'.limit
  sent := Nat.le_trans h.sent h'.sent

/-- Whoever has room now had room before. -/
theorem Advances.hasRoom (h : s.Advances s') (hroom : s'.HasRoom) : s.HasRoom := by
  rw [HasRoom, h.side, h.localParams] at hroom
  exact hroom.of_le h.limit

/-- One operation whose announced limits fit a word keeps the measures. -/
theorem Measured.advances_perform (hs : s.Measured) {op : Operation} (hop : op.Fits)
    (hlimits : op.LimitsFit) : s.Advances (s.perform op).2 := by
  have horderly := hs.windows.orderly
  obtain ⟨-, hages⟩ := (steps_perform s hop).orderly horderly
  have hmoves := moves_perform horderly hop
  refine ⟨measured_perform hs hop hlimits, hages.side, hages.localParams,
    hmoves.grows.connection, ?_⟩
  rw [hmoves.consumed]
  exact Nat.le_add_right _ _

/-- Any number of operations bring measured streams on. -/
theorem Works.advances {kind : Operation → Prop} (h : s.Works kind s')
    (hkind : ∀ op, kind op → op.Fits ∧ op.LimitsFit) (hs : s.Measured) : s.Advances s' :=
  h.keeps (fun hop hadvances => hadvances.trans
    (hadvances.measured.advances_perform (hkind _ hop).1 (hkind _ hop).2)) hs.advances

/-! ## What is not forgotten

As long as the sums of acknowledged bytes fit a word, what was acknowledged stays
acknowledged. -/

/-- Whatever was acknowledged on a stream of `s` is still acknowledged in `s'`. -/
def Remembers (s s' : StreamSet) : Prop :=
  ∀ id h', s'.view.send id = some h' →
    ∃ h, s.view.send id = some h ∧ h.buffer.acked ≤ h'.buffer.acked

theorem Remembers.trans {s'' : StreamSet} (h : s.Remembers s') (h' : s'.Remembers s'') :
    s.Remembers s'' := by
  intro id half'' hsend
  obtain ⟨half', hmid, hle'⟩ := h' id half'' hsend
  obtain ⟨half, hbefore, hle⟩ := h id half' hmid
  exact ⟨half, hbefore, Nat.le_trans hle hle'⟩

/-- No more is acknowledged on a stream than was sent on the connection. -/
theorem Measured.acked_le (hs : s.Measured) {id : StreamId} {h : SendHalf}
    (hsend : s.view.send id = some h) : h.buffer.acked ≤ s.sendWindow.consumed := by
  obtain ⟨-, haccepted, hacked⟩ := hs.windows.solvent.half hsend
  obtain ⟨-, hsent⟩ := hs.capped.half hsend
  rw [← haccepted] at hacked
  exact Nat.le_trans hacked hsent

/-- What was sent fits a word. -/
theorem Measured.sent_le (hs : s.Measured) : s.sendWindow.consumed ≤ maxWord :=
  Nat.le_trans hs.windows.solvent.within hs.capped.connection

/-- One operation forgets no acknowledgement, provided that the sum of an acknowledgement
with all that was ever sent fits a word. -/
theorem Measured.remembers_perform (hs : s.Measured) {op : Operation} (hop : op.Fits)
    (hlimits : op.LimitsFit) (hacks : op.acknowledged + s.sendWindow.consumed ≤ maxWord) :
    s.Remembers (s.perform op).2 := by
  obtain ⟨n, hproceeds⟩ := proceeds_perform hs.windows.orderly hop hlimits
  intro id half' hsend
  obtain ⟨half, hbefore, hhalf⟩ := hproceeds.half hsend
  have hacked := hs.acked_le hbefore
  exact ⟨half, hbefore, hhalf.acked (hs.windows.solvent.half hbefore) (by omega)⟩

/-- Any number of operations forget nothing, if what each of them counts fits on top of
all that was sent in the end. -/
theorem Works.remembers {kind : Operation → Prop} (h : s.Works kind s')
    (hkind : ∀ op, kind op → op.Fits ∧ op.LimitsFit) (hs : s.Measured)
    (hacks : ∀ op, kind op → op.acknowledged + s'.sendWindow.consumed ≤ maxWord) :
    s.Remembers s' := by
  induction h with
  | refl => exact fun _ half hsend => ⟨half, hsend, Nat.le_refl _⟩
  | tail hbefore hstep ih =>
    obtain ⟨op, hop, rfl⟩ := hstep
    have hmid := (Works.advances hbefore hkind hs).measured
    obtain ⟨hfits, hlimits⟩ := hkind op hop
    have hgrows := (hmid.advances_perform hfits hlimits).sent
    have hacks' : ∀ op, kind op → op.acknowledged + _ ≤ maxWord := fun op hop =>
      Nat.le_trans (Nat.add_le_add_left hgrows op.acknowledged) (hacks op hop)
    exact (ih hacks').trans (hmid.remembers_perform hfits hlimits (hacks' op hop))

/-- What was acknowledged stays acknowledged, as long as the stream lives. -/
theorem Remembers.acked_le (h : s.Remembers s') (hs : s.Orderly) (hs' : s'.Orderly)
    {id : StreamId} {half half' : SendHalf} (hsend : s.sendHalf? id = some half)
    (hsend' : s'.sendHalf? id = some half') : half.buffer.acked ≤ half'.buffer.acked := by
  obtain ⟨st, hget, hhalf⟩ := sendHalf?_eq_some hsend
  obtain ⟨st', hget', hhalf'⟩ := sendHalf?_eq_some hsend'
  obtain ⟨half₀, hbefore, hle⟩ := h id _ (view_send_of_send hs' hget' hhalf')
  rw [view_send_of_send hs hget hhalf] at hbefore
  obtain rfl := Option.some.inj hbefore
  exact hle

end

end StreamSet

end QuicHost
