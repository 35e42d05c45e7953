import QuicHost.Proofs.Connection.Course
import QuicHost.Proofs.Engine.Packing
import QuicHost.Proofs.Stream.Shut

/-!
# From the streams to the engine

What was sent of a stream and what waits in the engine to be sent make a tape. As long as
the stream was not abandoned, it is the tape of what the stream accepted (`Delivers`), and
every step of the core keeps it so.

A step either queues nothing of the stream, or queues its abandoning, or is a write,
whose chunk goes to the end of the queue (`Queues`, `Sends`). What is drawn from the
engine into a datagram moves from what waits to what was sent and leaves the tape as it
is (`Delivers.handed`), whatever the frames were cut into.
-/

namespace QuicHost

namespace ScriptedEngine

@[simp] theorem outbound_grant (e : ScriptedEngine) (n : Nat) :
    (e.grant n).outbound = e.outbound := by
  rw [grant]
  split <;> rfl

@[simp] theorem outbound_grantRead (e : ScriptedEngine) (id : StreamId) (n : Nat) :
    (e.grantRead id n).outbound = e.outbound := by
  rw [grantRead]
  split <;> rfl

@[simp] theorem writeFailure_grant (e : ScriptedEngine) (n : Nat) :
    (e.grant n).writeFailure = e.writeFailure := by
  rw [grant]
  split <;> rfl

@[simp] theorem writeFailure_grantRead (e : ScriptedEngine) (id : StreamId) (n : Nat) :
    (e.grantRead id n).writeFailure = e.writeFailure := by
  rw [grantRead]
  split <;> rfl

end ScriptedEngine

/-- Whether the bounds let a frame without data through, and datagrams are asked
for. -/
def Scope.Roomy (p : Scope) : Prop :=
  ScriptedEngine.controlFrameLength ≤ p.bounds.1 ∧ 0 < p.bounds.2

namespace Connection

/-- What was accepted waits behind everything else. -/
theorem tape_submit (e : ScriptedEngine) (id id' : StreamId) (out : WriteOutcome) :
    Frame.tape id' (submit e id out).outbound =
      Frame.tape id' e.outbound ++ if id = id' then Tape.ofData out.chunk out.fin else [] := by
  rw [submit]
  split
  · rw [ScriptedEngine.submitStreamData, Frame.tape_append, Frame.tape_stream]
  · next hnothing =>
    rw [not_or, Nat.not_lt, Bool.not_eq_true] at hnothing
    obtain ⟨hchunk, hfin⟩ := hnothing
    have hempty : out.chunk = [] := List.length_eq_zero_iff.1 (Nat.le_zero.1 hchunk)
    rw [hempty, hfin, Tape.ofData_nil_false, ite_self, List.append_nil]

theorem abandoned_submit (e : ScriptedEngine) (id id' : StreamId) (out : WriteOutcome) :
    Frame.Abandoned id' (submit e id out).outbound ↔ Frame.Abandoned id' e.outbound := by
  rw [submit]
  split
  · simp [ScriptedEngine.submitStreamData, Frame.Abandoned]
  · exact Iff.rfl

/-- Data that is queued is of a stream with an identifier that fits. -/
theorem queued_submit {e : ScriptedEngine} (hq : ∀ f ∈ e.outbound, f.Queued) {id : StreamId}
    (hid : id.Fits) (out : WriteOutcome) : ∀ f ∈ (submit e id out).outbound, f.Queued := by
  rw [submit]
  split
  · exact List.forall_mem_append.2 ⟨hq, List.forall_mem_singleton.2 hid⟩
  · exact hq

end Connection

namespace Core

variable {p : Scope} {k k' : Core}

/-- The engine can send, and everything that waits is of streams with
identifiers that fit a word. -/
structure Ready (k : Core) : Prop where
  writeFailure : k.engine.writeFailure = none
  queued : ∀ f ∈ k.engine.outbound, f.Queued

/-- What a quiet step does to what waits to be sent. -/
inductive Queues (p : Scope) (k k' : Core) : Prop where
  /-- nothing -/
  | same : k'.engine.outbound = k.engine.outbound → Queues p k k'
  /-- the peer is asked to stop, and the receiving half ends -/
  | asked (id : StreamId) (errorCode : Nat) : id.Fits →
    ¬ k.streams.view.RecvEnded id → k'.streams.view.RecvEnded id →
    k'.engine.outbound = k.engine.outbound ++ [.stopSending id errorCode] → Queues p k k'
  /-- a stream is abandoned, and its sending half ends -/
  | abandoned (id : StreamId) (errorCode : Nat) : id.Fits →
    p.reset id ∨ p.callback (.stopSending id errorCode) →
    ¬ k.streams.view.SendEnded id → k'.streams.view.SendEnded id →
    k'.engine.outbound = (k.engine.shutdownWrite id errorCode).outbound → Queues p k k'

/-- What a quiet step means for sending: what has come to an end stays so, and
what waits changes in one of three ways. -/
structure Sends (p : Scope) (k k' : Core) : Prop where
  /-- a state that lasts is not left -/
  lasts : ∀ {P : SendState → Prop} {id : StreamId}, SendState.Lasting P →
    k.streams.view.SendIs P id → k'.streams.view.SendIs P id
  recvEnded : ∀ {id : StreamId}, k.streams.view.RecvEnded id → k'.streams.view.RecvEnded id
  writeFailure : k'.engine.writeFailure = k.engine.writeFailure
  /-- what the step queues -/
  queues : k.Queues p k'

theorem Sends.shut (h : k.Sends p k') {id : StreamId} (hs : k.streams.view.Shut id) :
    k'.streams.view.Shut id := h.lasts SendState.lasting_shut hs

theorem Sends.sendEnded (h : k.Sends p k') {id : StreamId} (hs : k.streams.view.SendEnded id) :
    k'.streams.view.SendEnded id := h.lasts SendState.lasting_ended hs

/-- An operation that leaves the halves alone. -/
theorem sends_of_view {streams : StreamSet} {engine : ScriptedEngine}
    (hview : streams.view = k.streams.view) (hfailure : engine.writeFailure = k.engine.writeFailure)
    (hsame : engine.outbound = k.engine.outbound) : k.Sends p ⟨streams, engine⟩ := by
  refine ⟨fun _ h => ?_, fun h => ?_, hfailure, .same hsame⟩
  · change streams.view.SendIs _ _
    rwa [hview]
  · change streams.view.RecvEnded _
    rwa [hview]

/-- Every quiet step means one of the three things for sending. One case for each quiet
step, by the effect that its operation has. -/
theorem Quiet.sends (hsound : k.Sound) (hq : k.Quiet p k') : k.Sends p k' := by
  have hs := hsound.orderly
  -- only three steps queue a frame: a reset, the answer to the peer's stop, and a stop
  -- asked for; with the first two, the data of the stream that still waits is dropped
  cases hq with
  | events => exact sends_of_view rfl rfl rfl
  | engine hbooks => exact sends_of_view rfl hbooks.writeFailure hbooks.outbound
  | opened d => exact sends_of_view (StreamSet.opens_openStream hs d).view rfl rfl
  | @writeRefused id data fin e _ =>
    have hout := (StreamSet.write_outcome hs id data fin).2
    exact ⟨fun hP => hout.lasts hP, hout.sparesRecv.recvEnded, rfl, .same rfl⟩
  | @readRefused id maxLen e _ =>
    have hout := (StreamSet.read_outcome hs id maxLen).2
    exact ⟨fun _ => hout.sparesSend.lasts, hout.recvEnded, rfl, .same rfl⟩
  | @read id maxLen out _ =>
    have hout := (StreamSet.read_outcome hs id maxLen).2
    exact ⟨fun _ => hout.sparesSend.lasts, hout.recvEnded, by simp, .same (by simp)⟩
  | @resetRefused id e _ =>
    have hout := (StreamSet.resetStream_outcome hs id).2
    exact ⟨fun hP => hout.lasts hP, hout.sparesRecv.recvEnded, rfl, .same rfl⟩
  | @reset id errorCode hp hr =>
    have hout := (StreamSet.resetStream_outcome hs id).2
    rw [hr] at hout
    refine ⟨fun hP => hout.lasts hP, hout.sparesRecv.recvEnded, rfl, ?_⟩
    exact .abandoned _ errorCode (StreamSet.fits_of_resetStream hs hr) (.inl hp) hout.ends.1
      hout.ends.2 rfl
  | @stopRefused id e _ =>
    have hout := (StreamSet.stopSending_outcome hs id).2
    exact ⟨fun _ => hout.sparesSend.lasts, hout.recvEnded, rfl, .same rfl⟩
  | @stopped id errorCode n hr =>
    have hout := (StreamSet.stopSending_outcome hs id).2
    rw [hr] at hout
    refine ⟨fun _ => hout.sparesSend.lasts, hout.recvEnded,
      by simp [ScriptedEngine.shutdownRead], ?_⟩
    exact .asked id errorCode (StreamSet.fits_of_stopSending hs hr) hout.ends.1 hout.ends.2
      (by simp [ScriptedEngine.shutdownRead])
  | handshake peer =>
    have hout := StreamSet.onHandshakeCompleted_outcome k.streams peer
    exact ⟨fun _ => hout.lasts, hout.sparesRecv.recvEnded, rfl, .same rfl⟩
  | @data id offset data fin n hp _ =>
    have hout := (StreamSet.onStreamData_outcome hs (p.fits _ hp) offset data fin).2
    exact ⟨fun _ => hout.sparesSend.lasts, hout.recvEnded, by simp, .same (by simp)⟩
  | @peerReset id errorCode finalSize n hp _ =>
    have hout := (StreamSet.onStreamReset_outcome hs (p.fits _ hp) errorCode finalSize).2
    exact ⟨fun _ => hout.sparesSend.lasts, hout.recvEnded, by simp, .same (by simp)⟩
  | @peerStopIgnored id errorCode hp _ =>
    have hout := (StreamSet.onStopSending_outcome hs (p.fits _ hp) errorCode).2
    exact ⟨fun hP => hout.lasts hP, hout.sparesRecv.recvEnded, rfl, .same rfl⟩
  | @peerStop id errorCode hp hr =>
    have hout := (StreamSet.onStopSending_outcome hs (p.fits _ hp) errorCode).2
    rw [hr] at hout
    refine ⟨fun hP => hout.lasts hP, hout.sparesRecv.recvEnded, rfl, ?_⟩
    exact .abandoned _ errorCode (p.fits _ hp) (.inr hp) hout.ends.1 hout.ends.2 rfl
  | maxStreamData id limit =>
    have hout := (StreamSet.onMaxStreamData_outcome hs id limit).2
    exact ⟨fun _ => hout.lasts, hout.sparesRecv.recvEnded, rfl, .same rfl⟩
  | maxData limit =>
    have hout := (StreamSet.onMaxData_outcome hs limit).2
    exact ⟨fun _ => hout.lasts, hout.sparesRecv.recvEnded, rfl, .same rfl⟩
  | maxStreams d n => exact sends_of_view (StreamSet.onMaxStreams_outcome hs d n).2 rfl rfl
  | acked id n =>
    have hout := (StreamSet.onStreamAcked_outcome hs id n).2
    exact ⟨fun hP => hout.lasts hP, hout.sparesRecv.recvEnded, rfl, .same rfl⟩

/-- What is queued goes on to name streams by identifiers that fit a word. -/
theorem Sends.queued (h : k.Sends p k') (hq : ∀ f ∈ k.engine.outbound, f.Queued) :
    ∀ f ∈ k'.engine.outbound, f.Queued := by
  rcases h.queues with hsame | ⟨id, errorCode, hid, -, -, hasked⟩ |
    ⟨id, errorCode, hid, -, -, -, habandoned⟩
  · rw [hsame]
    exact hq
  · rw [hasked, List.forall_mem_append]
    exact ⟨hq, List.forall_mem_singleton.2 hid⟩
  · rw [habandoned]
    exact ScriptedEngine.queued_shutdownWrite hq hid errorCode

theorem Ready.sends (hk : k.Ready) (h : k.Sends p k') : k'.Ready :=
  ⟨h.writeFailure.trans hk.writeFailure, h.queued hk.queued⟩

/-! ## One stream

Fix a stream. The tape of what was sent and what waits stays what the stream has accepted,
until the stream is abandoned; then what waits is dropped and nothing is accepted any
more. -/

/-- What was accepted on a stream was sent or waits to be sent, in this order;
or the stream was abandoned, and then nothing waits and what was sent is where
the accepted bytes begin. A stream that has ended or was abandoned is shut, and
it was abandoned for a reason within the scope. -/
structure Delivers (p : Scope) (id : StreamId) (accepted : Bytes) (finished : Bool)
    (sent : List Frame)
    (k : Core) : Prop extends Ready k where
  /-- the stream takes no more data once its end or its abandoning is under way -/
  shut : finished = true ∨ Frame.Abandoned id (sent ++ k.engine.outbound) → k.streams.view.Shut id
  /-- somebody asked for the stream to be abandoned -/
  cause : Frame.Abandoned id (sent ++ k.engine.outbound) →
    p.reset id ∨ ∃ errorCode, p.callback (.stopSending id errorCode)
  /-- the frames are the accepted bytes, cut somehow, or a beginning of them -/
  tape : Frame.tape id (sent ++ k.engine.outbound) = Tape.ofData accepted finished ∨
    Frame.Abandoned id (sent ++ k.engine.outbound) ∧ Frame.tape id k.engine.outbound = [] ∧
      Frame.tape id sent <+: Tape.ofData accepted finished

namespace Delivers

variable {id : StreamId} {accepted : Bytes} {finished : Bool} {sent : List Frame}

/-- What was sent is where the accepted bytes begin. -/
theorem sent_prefix (h : k.Delivers p id accepted finished sent) :
    Frame.tape id sent <+: Tape.ofData accepted finished := by
  rcases h.tape with hall | ⟨-, -, hprefix⟩
  · rw [← hall, Frame.tape_append]
    exact List.prefix_append _ _
  · exact hprefix

/-- If nothing waits and the stream was not abandoned, everything was sent. -/
theorem tape_sent (h : k.Delivers p id accepted finished sent)
    (hnone : ∀ id, ¬ Frame.Abandoned id k.engine.outbound)
    (hempty : ∀ id, Frame.tape id k.engine.outbound = []) (habandoned : ¬ Frame.Abandoned id sent) :
    Frame.tape id sent = Tape.ofData accepted finished := by
  rcases h.tape with hall | ⟨habandoned', -, -⟩
  · rw [← hall, Frame.tape_append, hempty, List.append_nil]
  · exact absurd (Frame.abandoned_append.1 habandoned') (not_or.2 ⟨habandoned, hnone id⟩)

/-- A quiet step keeps what is delivered: data stays where it was, and only a stream that is
abandoned loses what waits. -/
theorem quiet (hsound : k.Sound) (h : k.Delivers p id accepted finished sent) (hq : k.Quiet p k') :
    k'.Delivers p id accepted finished sent := by
  have hsends := hq.sends hsound
  have hready := h.toReady.sends hsends
  rcases hsends.queues with hsame | ⟨id', errorCode, -, -, -, hasked⟩ | ⟨id', errorCode, -, hcause,
    -, hend, hgiven⟩
  · refine ⟨hready, ?_, ?_, ?_⟩
    · rw [hsame]
      exact fun hended => hsends.shut (h.shut hended)
    · rw [hsame]
      exact h.cause
    · rw [hsame]
      exact h.tape
  · have hunsaid : Frame.tape id k'.engine.outbound = Frame.tape id k.engine.outbound := by
      rw [hasked, Frame.tape_append]
      exact List.append_nil _
    have habandoned : Frame.Abandoned id (sent ++ k'.engine.outbound) ↔
        Frame.Abandoned id (sent ++ k.engine.outbound) := by
      simp [Frame.Abandoned, hasked]
    refine ⟨hready, ?_, ?_, ?_⟩
    · rw [habandoned]
      exact fun hended => hsends.shut (h.shut hended)
    · rw [habandoned]
      exact h.cause
    · rw [habandoned, Frame.tape_append, hunsaid, ← Frame.tape_append]
      exact h.tape
  · have htape : Frame.tape id k'.engine.outbound =
        if id' = id then [] else Frame.tape id k.engine.outbound := by
      rw [hgiven, ScriptedEngine.tape_shutdownWrite]
    have habandoned : Frame.Abandoned id (sent ++ k'.engine.outbound) ↔
        id' = id ∨ Frame.Abandoned id (sent ++ k.engine.outbound) := by
      rw [Frame.abandoned_append, Frame.abandoned_append, hgiven,
        ScriptedEngine.abandoned_shutdownWrite]
      exact or_left_comm
    by_cases hid : id' = id
    · subst hid
      -- what waits of the stream is dropped, and what was sent before is still a beginning
      rw [if_pos rfl] at htape
      refine ⟨hready, fun _ => hend.shut, fun _ => hcause.imp_right fun hp => ⟨errorCode, hp⟩,
        .inr ?_⟩
      exact ⟨habandoned.2 (.inl rfl), htape, h.sent_prefix⟩
    · rw [if_neg hid] at htape
      rw [or_iff_right hid] at habandoned
      refine ⟨hready, ?_, ?_, ?_⟩
      · rw [habandoned]
        exact fun hended => hsends.shut (h.shut hended)
      · rw [habandoned]
        exact h.cause
      · rw [habandoned, Frame.tape_append, htape, ← Frame.tape_append]
        exact h.tape

theorem quietly (hsound : k.Sound) (h : k.Delivers p id accepted finished sent)
    (hq : k.Quietly p k') : k'.Delivers p id accepted finished sent :=
  Quietly.keeps (fun hsound h hq => quiet hsound h hq) hsound h hq

/-- What a write accepts waits behind everything else. -/
theorem write (hsound : k.Sound) (h : k.Delivers p id accepted finished sent) {id' : StreamId}
    {data : Bytes} {fin : Bool} {out : WriteOutcome}
    (hr : (k.streams.write id' data fin).1 = .ok out) :
    Delivers p id (accepted ++ if id' = id then out.chunk else [])
      (finished || (decide (id' = id) && out.fin)) sent
      ⟨(k.streams.write id' data fin).2, Connection.submit k.engine id' out⟩ := by
  have hs := hsound.orderly
  have hwrite := (StreamSet.write_outcome hs id' data fin).2
  rw [hr] at hwrite
  have htape := Connection.tape_submit k.engine id' id out
  have habandoned : Frame.Abandoned id (sent ++ (Connection.submit k.engine id' out).outbound) ↔
      Frame.Abandoned id (sent ++ k.engine.outbound) := by
    rw [Frame.abandoned_append, Frame.abandoned_append, Connection.abandoned_submit]
  have hready : Ready ⟨(k.streams.write id' data fin).2, Connection.submit k.engine id' out⟩ := by
    refine ⟨?_, Connection.queued_submit h.queued (StreamSet.fits_of_write hs hr) out⟩
    dsimp only [Connection.submit]
    split <;> exact h.writeFailure
  by_cases hid : id' = id
  · subst hid
    -- something was accepted, so the stream had not ended
    have hopen : ¬ (finished = true ∨ Frame.Abandoned id' (sent ++ k.engine.outbound)) :=
      fun hended => hwrite.not_shut (h.shut hended)
    rw [not_or, Bool.not_eq_true] at hopen
    obtain ⟨rfl, hkept⟩ := hopen
    rw [if_pos rfl] at htape ⊢
    rw [decide_eq_true rfl, Bool.true_and, Bool.false_or]
    refine ⟨hready, fun hended => ?_, fun h => absurd (habandoned.1 h) hkept, .inl ?_⟩
    · rcases hended with hfin | hgiven
      · exact hwrite.shut_of_fin hfin
      · exact absurd (habandoned.1 hgiven) hkept
    · have hall := h.tape.resolve_right fun hgiven => hkept hgiven.1
      rw [Frame.tape_append, htape, ← List.append_assoc, ← Frame.tape_append, hall,
        ← Tape.ofData_append]
  · rw [if_neg hid, List.append_nil] at htape
    rw [if_neg hid, List.append_nil, decide_eq_false hid, Bool.false_and, Bool.or_false]
    refine ⟨hready, ?_, ?_, ?_⟩
    · rw [habandoned]
      exact fun hended => hwrite.lasts SendState.lasting_shut (h.shut hended)
    · rw [habandoned]
      exact h.cause
    · rw [habandoned, Frame.tape_append, htape, ← Frame.tape_append]
      exact h.tape

/-- Datagrams take from what waits. -/
theorem handed (h : k.Delivers p id accepted finished sent) {datagrams : List Bytes}
    {left : List Frame} (hhanded : ScriptedEngine.Handed k.engine.outbound datagrams left) :
    Delivers p id accepted finished (sent ++ datagrams.flatMap Frame.decodeAll)
      ⟨k.streams, { k.engine with outbound := left }⟩ := by
  have hretells := hhanded.retells.append sent
  rw [← List.append_assoc] at hretells
  have hqueued : ∀ f ∈ left, f.Queued :=
    (List.forall_mem_append.1 (hhanded.retells.queued h.queued)).2
  refine ⟨⟨h.writeFailure, hqueued⟩, ?_, ?_, ?_⟩
  · rw [hretells.abandoned id]
    exact h.shut
  · rw [hretells.abandoned id]
    exact h.cause
  · rw [hretells.abandoned id, hretells.tape id]
    refine h.tape.imp_right fun ⟨habandoned, hempty, hprefix⟩ => ?_
    -- of a stream that was abandoned, neither the datagrams nor what is left say anything
    have hnothing := hhanded.retells.tape id
    rw [hempty, Frame.tape_append, List.append_eq_nil_iff] at hnothing
    refine ⟨habandoned, hnothing.2, ?_⟩
    rw [Frame.tape_append, hnothing.1, List.append_nil]
    exact hprefix

end Delivers

end Core

end QuicHost
