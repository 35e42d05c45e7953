import QuicHost.Proofs.Connection.Course
import QuicHost.Proofs.Connection.Works
import QuicHost.Proofs.Engine.Packing

/-!
# What is known about the closing

A connection that drains on its own account has a closing queued that was not sent, until
somebody asks for datagrams (`Poised`). What it and its engine know about the closing is
its *farewell*. A connection that is closing does not change its farewell: whatever is
done to it, nothing becomes of the closing, or the connection is over (`Lingers`).

Both facts are about one action, and a run is an induction on its actions. The induction
is on a connection that is closing already for `Lingers`, and on one that is open for
`Poised`, which says in advance what will be queued if it should close. The engine's
part is small: it keeps what is queued and a failure that was scripted (`Defers`), and
draws the closing alone into a datagram, or nothing (`pull_of_closeSent`,
`pull_of_unsent`).
-/

namespace QuicHost

/-- Whether a connection that drains for the reason closes on its own account, and is to
tell the peer. -/
def CloseReason.isOwn (reason : CloseReason) : Prop :=
  reason.kind = .localClose ∨ reason.kind = .transportFailure

namespace Frame

/-- The bytes of a closing before its reason. -/
def closeHeaderLength : Nat := 11

/-- The closing for a reason, cut to what a frame can hold. -/
def closing (reason : CloseReason) : Frame :=
  .connectionClose reason.errorCode (reason.reason.take maxPayload)

theorem length_encode_closing (reason : CloseReason) :
    (closing reason).encode.length = closeHeaderLength + min reason.reason.length maxPayload := by
  simp [closing, encode, lengthPrefixed, closeHeaderLength]
  omega

/-- The frame alone in a datagram of at most `maxLen` bytes, or nothing if it is longer. -/
def alone (maxLen : Nat) (f : Frame) : List Bytes :=
  if f.encode.length ≤ maxLen then [f.encode] else []

theorem short_closing (reason : CloseReason) : (closing reason).Short :=
  List.length_take_le _ _

end Frame

namespace ScriptedEngine

/-- What `e` knows about the closing, `e'` knows, and it can write if `e` can. -/
structure Defers (e e' : ScriptedEngine) : Prop where
  closeFrame : e'.closeFrame = e.closeFrame
  closeSent : e'.closeSent = e.closeSent
  writeFailure : e'.writeFailure = e.writeFailure

theorem Defers.refl (e : ScriptedEngine) : e.Defers e := ⟨rfl, rfl, rfl⟩

variable {e : ScriptedEngine} {frame : Frame} {maxLen : Nat}

theorem defers_grant (e : ScriptedEngine) (n : Nat) : e.Defers (e.grant n) := by
  rw [grant]
  split <;> exact ⟨rfl, rfl, rfl⟩

theorem defers_react (e : ScriptedEngine) (r : Option Reaction) : e.Defers (e.react r).2 := by
  rcases r with _ | _ | _ <;> exact ⟨rfl, rfl, rfl⟩

theorem defers_readDatagram (e : ScriptedEngine) (datagram : Bytes) :
    e.Defers (e.readDatagram datagram).2 := by
  obtain ⟨hframe, hsent, hfailure⟩ := defers_react { e with
    received := e.received ++ [datagram]
    datagramReactions := e.datagramReactions.tail } e.datagramReactions.head?
  exact ⟨hframe, hsent, hfailure⟩

theorem defers_handleExpiry (e : ScriptedEngine) : e.Defers e.handleExpiry.2 := by
  obtain ⟨hframe, hsent, hfailure⟩ := defers_react { e with
    expiry := none
    timeoutReactions := e.timeoutReactions.tail } e.timeoutReactions.head?
  exact ⟨hframe, hsent, hfailure⟩

/-- An engine that has sent its closing has nothing to write. -/
theorem pull_of_closeSent (hframe : e.closeFrame = some frame) (hsent : e.closeSent = true)
    (hfailure : e.writeFailure = none) (now : Instant) (count : Nat) :
    EngineAdapter.pull maxLen now count e = (.ok [], e) := by
  have hwrite : PacketEngine.writeDatagram e maxLen now = (.ok ⟨[], 0⟩, e) := by
    change e.writeDatagram maxLen = _
    simp [writeDatagram, hfailure, hframe, hsent]
  cases count with
  | zero => rfl
  | succ count => rw [EngineAdapter.pull, hwrite]; rfl

/-- An engine that has not sent its closing writes it at the first opportunity, if the
datagram is long enough. -/
theorem pull_of_unsent (hframe : e.closeFrame = some frame) (hunsent : e.closeSent = false)
    (hfailure : e.writeFailure = none) (now : Instant) {count : Nat} (hcount : 0 < count) :
    (EngineAdapter.pull maxLen now count e).1 = .ok (frame.alone maxLen) := by
  rw [Frame.alone]
  obtain ⟨count, rfl⟩ := Nat.exists_eq_add_one_of_ne_zero (Nat.ne_of_gt hcount)
  by_cases hfits : frame.encode.length ≤ maxLen
  · have hwrite : PacketEngine.writeDatagram e maxLen now =
        (.ok ⟨frame.encode, frame.encode.length⟩, { e with closeSent := true }) := by
      change e.writeDatagram maxLen = _
      simp [writeDatagram, hfailure, hframe, hunsent, Nat.not_lt.2 hfits]
    have hsome : frame.encode.length ≠ 0 :=
      fun h => frame.encode_ne_nil (List.length_eq_zero_iff.1 h)
    have hpossible :
        EngineAdapter.overreports maxLen ⟨frame.encode, frame.encode.length⟩ = false := by
      simp [EngineAdapter.overreports, hfits]
    have hrest : EngineAdapter.pull maxLen now count { e with closeSent := true } =
        (.ok [], { e with closeSent := true }) :=
      pull_of_closeSent (e := { e with closeSent := true }) hframe rfl hfailure now count
    rw [EngineAdapter.pull, hwrite, if_pos hfits]
    dsimp only
    rw [if_neg hsome, hpossible, if_neg Bool.false_ne_true, hrest]
    simp
  · have hwrite : PacketEngine.writeDatagram e maxLen now = (.ok ⟨[], 0⟩, e) := by
      change e.writeDatagram maxLen = _
      simp [writeDatagram, hfailure, hframe, Nat.lt_of_not_le hfits]
    rw [EngineAdapter.pull, hwrite, if_neg hfits]
    rfl

end ScriptedEngine

namespace EngineAdapter

/-- The same engine, as far as the closing is concerned. -/
def Defers (a a' : EngineAdapter ScriptedEngine) : Prop :=
  ∃ e, a' = { a with engine := e } ∧ a.engine.Defers e

theorem Defers.drainCallbacks {a a' : EngineAdapter ScriptedEngine} (h : a.Defers a') :
    a.Defers a'.drainCallbacks.2 := by
  obtain ⟨e, rfl, hframe, hsent, hfailure⟩ := h
  exact ⟨_, rfl, hframe, hsent, hfailure⟩

theorem Defers.drainUnlessFailed {a a' : EngineAdapter ScriptedEngine} (h : a.Defers a')
    (result : Except EngineError Unit) : a.Defers (a'.drainUnlessFailed result).2 := by
  rcases result with _ | _
  · exact h
  · exact h.drainCallbacks

theorem defers_ingest (a : EngineAdapter ScriptedEngine) (datagram : Bytes) (now : Instant) :
    a.Defers (a.ingest datagram now).2 :=
  Defers.drainUnlessFailed ⟨_, rfl, a.engine.defers_readDatagram datagram⟩ _

theorem defers_handleExpiry (a : EngineAdapter ScriptedEngine) (now : Instant) :
    a.Defers (a.handleExpiry now).2 :=
  Defers.drainUnlessFailed ⟨_, rfl, a.engine.defers_handleExpiry⟩ _

end EngineAdapter

namespace Connection

variable {σ : Type}

/-! ## What is known about the closing

The farewell of a connection, and the states in which it can be as long as nobody asks for
datagrams. -/

/-- What a connection and its engine know about the closing. -/
structure Farewell where
  /-- whether it is queued and the engine is to be asked for it -/
  pending : Bool
  /-- why the connection ends -/
  reason : Option CloseReason
  /-- the closing that is queued -/
  frame : Option Frame
  /-- whether it was sent -/
  sent : Bool
  /-- the bounds within which the engine is driven -/
  bounds : Nat × Nat

/-- What is known about the closing. -/
def farewell (c : Connection ScriptedEngine σ) : Farewell where
  pending := c.closePending
  reason := c.closeReason
  frame := c.adapter.engine.closeFrame
  sent := c.adapter.engine.closeSent
  bounds := c.adapter.bounds

/-- Nobody has asked for datagrams since the connection began to drain: if it drains on
its own account, the closing is queued and not sent. -/
inductive Poised (bounds : Nat × Nat) (c : Connection ScriptedEngine σ) : Prop where
  /-- it is open, and nothing is queued -/
  | running : c.state.isClosing = false → c.farewell = ⟨false, none, none, false, bounds⟩ →
    Poised bounds c
  /-- it drains, and the peer is to be told -/
  | announced (reason : CloseReason) : c.state = .draining →
    reason.kind = .localClose ∨ reason.kind = .transportFailure ∧ reason.reason = [] →
    c.farewell = ⟨true, some reason, some (.closing reason), false, bounds⟩ → Poised bounds c
  /-- it drains, and the peer knows or does not answer -/
  | quiet (reason : CloseReason) : c.state = .draining → ¬ reason.isOwn →
    c.closeReason = some reason → Poised bounds c
  /-- it is over -/
  | closed : c.state = .closed → Poised bounds c

/-- Nothing has changed about the closing. -/
structure Bides (c c' : Connection ScriptedEngine σ) : Prop where
  state : c'.state = c.state
  farewell : c'.farewell = c.farewell
  failure : c'.adapter.engine.writeFailure = c.adapter.engine.writeFailure

/-- Nothing has changed about the closing, or the connection is over. -/
def Lingers (c c' : Connection ScriptedEngine σ) : Prop := c'.state = .closed ∨ c.Bides c'

section

variable {bounds : Nat × Nat} {c c' c'' : Connection ScriptedEngine σ}

theorem Bides.refl (c : Connection ScriptedEngine σ) : c.Bides c := ⟨rfl, rfl, rfl⟩

theorem Bides.trans (h : c.Bides c') (h' : c'.Bides c'') : c.Bides c'' :=
  ⟨h'.state.trans h.state, h'.farewell.trans h.farewell, h'.failure.trans h.failure⟩

/-- Why the connection ends is part of what is known about the closing. -/
theorem Bides.closeReason (h : c.Bides c') : c'.closeReason = c.closeReason :=
  congrArg Farewell.reason h.farewell

theorem Lingers.refl (c : Connection ScriptedEngine σ) : c.Lingers c := .inr (.refl c)

theorem Lingers.trans (h : c.Lingers c') (h' : c'.Lingers c'') : c.Lingers c'' := by
  rcases h' with hclosed | hbides'
  · exact .inl hclosed
  · exact h.imp (fun hclosed => hbides'.state.trans hclosed) (·.trans hbides')

/-- A closing connection is still closing. -/
theorem Lingers.isClosing (h : c.Lingers c') (hclosing : c.state.isClosing = true) :
    c'.state.isClosing = true := by
  rcases h with hclosed | hbides
  · rw [hclosed]
    rfl
  · rw [hbides.state]
    exact hclosing

/-- Whoever had nothing to send has nothing to send. -/
theorem Lingers.maySend (h : c.Lingers c') (hnone : c.maySend = false) : c'.maySend = false := by
  rcases h with hclosed | hbides
  · rw [Connection.maySend, hclosed]
  · have hpending : c'.closePending = c.closePending := congrArg Farewell.pending hbides.farewell
    rw [Connection.maySend, hbides.state, hpending]
    exact hnone

namespace Poised

/-- Nothing is queued on an open connection. -/
theorem farewell_eq (h : c.Poised bounds) (hopen : c.state.isClosing = false) :
    c.farewell = ⟨false, none, none, false, bounds⟩ := by
  have hclosing (hstate : c.state = .draining ∨ c.state = .closed) : False := by
    rw [isClosing_iff.2 hstate] at hopen
    cases hopen
  cases h with
  | running _ heq => exact heq
  | announced _ hstate => exact (hclosing (.inl hstate)).elim
  | quiet _ hstate => exact (hclosing (.inl hstate)).elim
  | closed hstate => exact (hclosing (.inr hstate)).elim

/-- Whoever drains on its own account has its closing to send. -/
theorem farewell_of_isOwn (h : c.Poised bounds) (hdraining : c.state = .draining)
    {reason : CloseReason} (hreason : c.closeReason = some reason) (hown : reason.isOwn) :
    (reason.kind = .localClose ∨ reason.kind = .transportFailure ∧ reason.reason = []) ∧
      c.farewell = ⟨true, some reason, some (.closing reason), false, bounds⟩ := by
  cases h with
  | running hopen _ =>
    rw [hdraining] at hopen
    cases hopen
  | announced reason' _ hkind heq =>
    have hsame : c.closeReason = some reason' := congrArg Farewell.reason heq
    obtain rfl := Option.some.inj (hreason.symm.trans hsame)
    exact ⟨hkind, heq⟩
  | quiet reason' _ hforeign hsame =>
    obtain rfl := Option.some.inj (hreason.symm.trans hsame)
    exact absurd hown hforeign
  | closed hstate => exact absurd hstate (ne_closed_of_draining hdraining)

/-- To be poised is about state and closing. -/
theorem bides (h : c.Poised bounds) (hbides : c.Bides c') : c'.Poised bounds := by
  cases h with
  | running hopen heq =>
    exact .running (by rwa [hbides.state]) (hbides.farewell.trans heq)
  | announced reason hstate hkind heq =>
    exact .announced reason (hbides.state.trans hstate) hkind (hbides.farewell.trans heq)
  | quiet reason hstate hforeign hreason =>
    exact .quiet reason (hbides.state.trans hstate) hforeign (hbides.closeReason.trans hreason)
  | closed hstate => exact .closed (hbides.state.trans hstate)

theorem lingers (h : c.Poised bounds) (hlingers : c.Lingers c') : c'.Poised bounds :=
  hlingers.elim .closed h.bides

/-- An open connection that stays open. -/
theorem stays (h : c.Poised bounds) (hopen : c.state.isClosing = false)
    (hopen' : c'.state.isClosing = false) (hfarewell : c'.farewell = c.farewell) :
    c'.Poised bounds :=
  .running hopen' (hfarewell.trans (h.farewell_eq hopen))

end Poised

/-! ## What changes nothing about the closing

Credit, streams, events and timers are no part of the farewell. All calls of the
application but closing come to this. -/

theorem bides_pump (c : Connection ScriptedEngine σ) : c.Bides c.pump := ⟨rfl, rfl, rfl⟩

theorem bides_flush (c : Connection ScriptedEngine σ) (w : σ) : c.Bides (c.flush w).1.2 :=
  ⟨rfl, rfl, rfl⟩

theorem bides_reportError (c : Connection ScriptedEngine σ) (e : TransportError) :
    c.Bides (c.reportError e) :=
  ⟨rfl, rfl, rfl⟩

theorem bides_touch (c : Connection ScriptedEngine σ) (now : Instant) : c.Bides (c.touch now) := by
  rw [touch]
  split <;> exact ⟨rfl, rfl, rfl⟩

/-- Streams change, and the engine has other things to do. -/
theorem bides_of_defers (c : Connection ScriptedEngine σ) (s : StreamSet) {e : ScriptedEngine}
    (h : c.adapter.engine.Defers e) :
    c.Bides { c with streams := s, adapter := { c.adapter with engine := e } } := by
  refine ⟨rfl, ?_, h.writeFailure⟩
  simp only [farewell, h.closeFrame, h.closeSent]
  rfl

theorem bides_adapter {a : EngineAdapter ScriptedEngine} (h : c.adapter.Defers a) :
    c.Bides { c with adapter := a } := by
  obtain ⟨e, rfl, hdefers⟩ := h
  exact c.bides_of_defers c.streams hdefers

theorem bides_streams (c : Connection ScriptedEngine σ) (s : StreamSet) :
    c.Bides { c with streams := s } :=
  c.bides_of_defers s (.refl _)

theorem bides_openStream (c : Connection ScriptedEngine σ) (d : Direction) :
    c.Bides (c.openStream d).2 := by
  rw [openStream]
  split
  · exact .refl c
  · split <;> exact ⟨rfl, rfl, rfl⟩

/-- A write leaves the closing alone. -/
theorem bides_write (c : Connection ScriptedEngine σ) (id : StreamId) (data : Bytes) (fin : Bool) :
    c.Bides (c.write id data fin).2 := by
  rw [write]
  split
  · exact .refl c
  split
  · exact c.bides_streams _
  · dsimp only
    split <;> exact ⟨rfl, rfl, rfl⟩

theorem bides_returnCredit (c : Connection ScriptedEngine σ) (id : StreamId) (n : Nat) :
    c.Bides (c.returnCredit id n) := by
  rw [returnCredit]
  split <;> exact ⟨rfl, rfl, rfl⟩

/-- A read leaves the closing alone. -/
theorem bides_read (c : Connection ScriptedEngine σ) (id : StreamId) (maxLen : Nat) (w : σ) :
    c.Bides (c.read id maxLen w).1.2 := by
  rw [read]
  rcases c.streams.read id maxLen with ⟨e | out, s⟩
  · exact c.bides_streams s
  · exact ((c.bides_streams s).trans (bides_returnCredit _ id out.data.length)).trans
      (bides_flush _ w)

/-- Abandoning a sending half leaves the closing alone. -/
theorem bides_resetStream (c : Connection ScriptedEngine σ) (id : StreamId) (errorCode : Nat)
    (w : σ) : c.Bides (c.resetStream id errorCode w).1.2 := by
  rw [resetStream]
  split
  · exact .refl c
  rcases c.streams.resetStream id with ⟨e | _, s⟩
  · exact c.bides_streams s
  · have hreset : c.adapter.engine.Defers (c.adapter.engine.shutdownWrite id errorCode) :=
      ⟨rfl, rfl, rfl⟩
    exact (c.bides_of_defers s hreset).trans (bides_flush _ w)

/-- Stopping a receiving half leaves the closing alone. -/
theorem bides_stopSending (c : Connection ScriptedEngine σ) (id : StreamId) (errorCode : Nat)
    (w : σ) : c.Bides (c.stopSending id errorCode w).1.2 := by
  rw [stopSending]
  split
  · exact .refl c
  rcases c.streams.stopSending id with ⟨e | n, s⟩
  · exact c.bides_streams s
  · have hgranted := (c.adapter.engine.shutdownRead id errorCode).defers_grant n
    exact (c.bides_of_defers s ⟨hgranted.closeFrame, hgranted.closeSent,
      hgranted.writeFailure⟩).trans (bides_flush _ w)

/-! ## A closing connection

A connection that is closing keeps its farewell or is over. No failure and no timer gives
it another reason while it drains. -/

theorem lingers_finish (c : Connection ScriptedEngine σ) : c.Lingers c.finish := by
  rw [finish]
  split
  · exact .refl c
  · exact .inl rfl

theorem state_finishWith (c : Connection ScriptedEngine σ) (reason : CloseReason) :
    (c.finishWith reason).state = .closed := by
  rw [finishWith, finish]
  split
  · next hclosed => exact hclosed
  · rfl

/-- A closing connection takes no new reason, unless it fails altogether. -/
theorem lingers_onTransportError (hclosing : c.state.isClosing = true) (e : TransportError)
    (now : Instant) : c.Lingers (c.onTransportError e now) := by
  have hreported : c.Lingers (c.reportError e) := .inr (c.bides_reportError e)
  rw [onTransportError_eq]
  cases e with
  | resourceExhausted => exact .inl (state_finishWith _ _)
  | protocolViolation code =>
    dsimp only
    rw [if_pos (hreported.isClosing hclosing)]
    exact hreported
  | handshakeFailure code =>
    dsimp only
    split
    · exact .inl (state_finishWith _ _)
    · exact hreported
  | malformedPacket => exact hreported
  | versionMismatch => exact hreported

/-- The drain timer ends a draining connection. The others have no effect on it. -/
theorem lingers_fire (hclosing : c.state.isClosing = true) (now : Instant) (timer : Timer) :
    c.Lingers (c.fire now timer) := by
  unfold fire
  split
  · exact .refl c
  cases timer with
  | drain => exact c.lingers_finish
  | idle =>
    have hcleared : c.Lingers { c with timers := c.timers.clear .idle } := .inr ⟨rfl, rfl, rfl⟩
    dsimp only
    rw [onIdleTimeout]
    split
    · exact .inl (state_finishWith _ _)
    split
    · next hactive =>
      rw [show c.state = .active from hactive] at hclosing
      cases hclosing
    · exact hcleared
  | engine =>
    dsimp only
    rw [if_pos hclosing]
    exact .inr ⟨rfl, rfl, rfl⟩

/-- Several timers, by induction on their list. -/
theorem lingers_fires (hclosing : c.state.isClosing = true) (now : Instant)
    (timers : List Timer) : c.Lingers (timers.foldl (fun c timer => c.fire now timer) c) := by
  induction timers generalizing c with
  | nil => exact .refl c
  | cons timer rest ih =>
    have hfirst := lingers_fire hclosing now timer
    exact hfirst.trans (ih (hfirst.isClosing hclosing))

/-- Whether a call neither asks for datagrams nor makes the engine fail to write. -/
def Call.isMute : Call σ → Bool
  | .produceDatagrams _ => false
  | .failNextWrite _ => false
  | _ => true

/-- A closing connection keeps its closing until it is asked for datagrams. -/
theorem lingers_perform (hclosing : c.state.isClosing = true) (w : σ) {call : Call σ}
    (hmute : call.isMute = true) : c.Lingers (c.perform w call).2.1 := by
  cases call with
  | openStream d => exact .inr (c.bides_openStream d)
  | write id data fin => exact .inr (c.bides_write id data fin)
  | read id maxLen => exact .inr (c.bides_read id maxLen w)
  | resetStream id errorCode => exact .inr (c.bides_resetStream id errorCode w)
  | stopSending id errorCode => exact .inr (c.bides_stopSending id errorCode w)
  | close errorCode reason now =>
    change c.Lingers (c.close errorCode reason now w).1.2
    obtain ⟨answer, hclose⟩ := close_of_closing hclosing errorCode reason now w
    rw [hclose]
    exact .refl c
  | ingest datagram now =>
    change c.Lingers (c.ingest datagram now w).1.2
    rw [ingest]
    split
    · exact .refl c
    -- not closed, so draining: the datagram is counted and goes no further
    · next hlive =>
      have hdraining := (isClosing_iff.1 hclosing).resolve_right hlive
      dsimp only
      rw [if_pos hdraining]
      exact .inr ⟨rfl, rfl, rfl⟩
  | onTimeout now =>
    change c.Lingers (c.onTimeout now w).1
    rw [onTimeout]
    split
    · exact .refl c
    · have harmed : c.Lingers { c with timers := c.currentTimers } := .inr ⟨rfl, rfl, rfl⟩
      exact (harmed.trans (lingers_fires (c := { c with timers := c.currentTimers }) hclosing now
        _)).trans (.inr (bides_flush _ w))
  | produceDatagrams now => cases hmute
  | failNextWrite error => cases hmute
  | _ => exact .inr ⟨rfl, rfl, rfl⟩

/-- A connection that is closing stays so. -/
theorem closing_perform (hclosing : c.state.isClosing = true) (w : σ) (call : Call σ) :
    (c.perform w call).2.1.state.isClosing = true := by
  cases hmute : call.isMute with
  | true => exact (lingers_perform hclosing w hmute).isClosing hclosing
  | false =>
    cases call with
    | produceDatagrams now =>
      change (c.produceDatagrams now w).1.2.state.isClosing = true
      cases hsend : c.maySend with
      | false =>
        rw [produceDatagrams, if_neg (Bool.eq_false_iff.1 hsend)]
        exact hclosing
      | true =>
        rcases produceDatagrams_outcome c now w hsend with ⟨e, -, -, hc⟩ | ⟨datagrams, -, hc⟩
        · rw [hc]
          let drawn : Connection ScriptedEngine σ := { c with
            adapter := { c.adapter with engine := (EngineAdapter.pull c.adapter.maxUdpPayloadSize
              now c.adapter.maxDatagramsPerPoll c.adapter.engine).2 } }
          exact (lingers_onTransportError (c := drawn) hclosing e now).isClosing hclosing
        · rw [hc]
          exact (isClosing_ite_handshaking c _).trans hclosing
    | failNextWrite error => exact hclosing
    | _ => cases hmute

end

end Connection

end QuicHost
