import Mathlib.Logic.Relation
import QuicHost.Proofs.Connection.Works

/-!
# What a connection does of its own accord

A connection acts on what its engine has learned, on failures and on silence before
it returns to its host. Whatever this comes to, it hands out no datagrams, and of
the engine it asks nothing but to be told: to hand over callbacks, to grant credit,
to abandon a sending half, or to close (`Told`). That much is `Attends`.

The relation is reflexive and transitive, so for each thing that a connection does it is
enough to name the parts it consists of. With it the count of datagrams sent is known to
move only where the host asks for datagrams, and what waits in the engine to be moved by
these four requests only.
-/

namespace QuicHost.Connection

open Relation

variable {ε σ : Type}

section

variable [PacketEngine ε]

/-- What a connection may say to its engine of its own accord. -/
inductive Told (e : ε) : ε → Prop where
  /-- the callbacks were taken -/
  | drained : Told e (PacketEngine.drainCallbacks e).2
  /-- the peer is granted more bytes on the connection -/
  | extended (n : Nat) : Told e (PacketEngine.extendConnection e n)
  /-- a sending half is abandoned -/
  | shut (id : StreamId) (errorCode : Nat) : Told e (PacketEngine.shutdownWrite e id errorCode)
  /-- the connection is closed -/
  | closed (errorCode : Nat) (reason : Bytes) : Told e (PacketEngine.close e errorCode reason)

/-- No datagrams were handed out, and the engine was told things. -/
structure Attends (c c' : Connection ε σ) : Prop where
  sent : c'.stats.datagramsSent = c.stats.datagramsSent
  /-- the engine was told things, one after the other -/
  engine : ReflTransGen Told c.adapter.engine c'.adapter.engine

variable {c c' c'' : Connection ε σ}

theorem attends_of_same (hadapter : c'.adapter = c.adapter)
    (hsent : c'.stats.datagramsSent = c.stats.datagramsSent) : c.Attends c' :=
  ⟨hsent, hadapter ▸ .refl⟩

theorem Attends.refl (c : Connection ε σ) : c.Attends c := attends_of_same rfl rfl

theorem Attends.trans (h : c.Attends c') (h' : c'.Attends c'') : c.Attends c'' :=
  ⟨h'.sent.trans h.sent, h.engine.trans h'.engine⟩

theorem attends_told (c : Connection ε σ) {f : ε → ε}
    (h : Told c.adapter.engine (f c.adapter.engine)) :
    c.Attends { c with adapter := c.adapter.modifyEngine f } :=
  ⟨rfl, .single h⟩

/-! ## Steps

What a connection does to itself tells the engine nothing, or one thing. -/

theorem attends_pump (c : Connection ε σ) : c.Attends c.pump := attends_of_same rfl rfl

theorem attends_flush (c : Connection ε σ) (w : σ) : c.Attends (c.flush w).1.2 :=
  attends_of_same rfl rfl

theorem attends_touch (c : Connection ε σ) (now : Instant) : c.Attends (c.touch now) := by
  rw [touch]
  split
  · exact .refl c
  · exact attends_of_same rfl rfl

theorem attends_enterDraining (c : Connection ε σ) (reason : CloseReason) (now : Instant) :
    c.Attends (c.enterDraining reason now) := by
  rw [enterDraining]
  split
  · exact .refl c
  · exact attends_of_same rfl rfl

theorem attends_finish (c : Connection ε σ) : c.Attends c.finish := by
  rw [finish]
  split
  · exact .refl c
  · exact attends_of_same rfl rfl

theorem attends_finishWith (c : Connection ε σ) (reason : CloseReason) :
    c.Attends (c.finishWith reason) := by
  have hnoted : c.Attends { c with closeReason := some reason } := attends_of_same rfl rfl
  exact hnoted.trans (attends_finish _)

/-- The engine is told to close, for it is the one who tells the peer. -/
theorem attends_announceClose (c : Connection ε σ) (reason : CloseReason) (now : Instant) :
    c.Attends (c.announceClose reason now) := by
  have hclosed : c.Attends { c with
      adapter := c.adapter.modifyEngine (PacketEngine.close · reason.errorCode reason.reason)
      closePending := true } :=
    ⟨rfl, .single (.closed reason.errorCode reason.reason)⟩
  exact hclosed.trans (attends_enterDraining _ reason now)

/-- A violation closes the connection; other failures tell the engine nothing. -/
theorem attends_onTransportError (c : Connection ε σ) (e : TransportError) (now : Instant) :
    c.Attends (c.onTransportError e now) := by
  have hreported : c.Attends (c.reportError e) := attends_of_same rfl rfl
  rw [onTransportError_eq]
  split
  · exact hreported.trans (attends_finishWith _ _)
  · split
    · exact hreported
    · exact hreported.trans (attends_announceClose _ _ now)
  · split
    · exact hreported.trans (attends_finishWith _ _)
    · exact hreported
  · exact hreported

/-- Silence tells the engine nothing. -/
theorem attends_onIdleTimeout (c : Connection ε σ) (now : Instant) :
    c.Attends (c.onIdleTimeout now) := by
  rw [onIdleTimeout]
  split
  · exact attends_finishWith c _
  split
  · exact attends_enterDraining c _ now
  · exact .refl c

/-- The completed handshake tells the engine nothing. -/
theorem attends_completeHandshake (c : Connection ε σ) (peer : TransportParameters)
    (now : Instant) : c.Attends (c.completeHandshake peer now) := by
  by_cases hdone : c.handshakeComplete = true
  · rw [completeHandshake, if_pos hdone]
    exact .refl c
  · rw [completeHandshake_eq (Bool.eq_false_iff.2 hdone)]
    exact attends_of_same rfl rfl

/-! ## Callbacks

Acting on callbacks tells the engine to grant credit or to abandon a half, and at a
violation to close. -/

theorem attends_extendConnection (c : Connection ε σ) (released : Nat) :
    c.Attends (c.extendConnection released) := by
  rw [extendConnection]
  split
  · exact .refl c
  · exact c.attends_told (.extended released)

/-- A callback may be answered with credit, or with the abandoning of a half. -/
theorem attends_applyCallback (c : Connection ε σ) (now : Instant) (callback : Callback) :
    c.Attends (c.applyCallback now callback).2 := by
  have hstreams (s : StreamSet) : c.Attends { c with streams := s } := attends_of_same rfl rfl
  -- the engine hears of a grant or of a shutdown at most
  cases callback with
  | handshakeCompleted peer => exact attends_completeHandshake c peer now
  | streamData id offset data fin =>
    rw [applyCallback]
    split
    · exact hstreams _
    · exact (hstreams _).trans (attends_extendConnection _ _)
  | streamReset id errorCode finalSize =>
    rw [applyCallback]
    split
    · exact hstreams _
    · exact (hstreams _).trans (attends_extendConnection _ _)
  | stopSending id errorCode =>
    rw [applyCallback]
    split
    · exact hstreams _
    · exact hstreams _
    · exact ⟨rfl, .single (.shut id errorCode)⟩
  | maxStreamData id limit => exact hstreams _
  | maxData limit => exact hstreams _
  | maxStreams direction max => exact hstreams _
  | streamAcked id n => exact hstreams _
  | connectionClose errorCode reason => exact attends_enterDraining c _ now

/-- A callback that is refused is a failure of the transport. -/
theorem attends_heed (c : Connection ε σ) (now : Instant) (callback : Callback) :
    c.Attends (c.heed now callback) := by
  have happlied := attends_applyCallback c now callback
  rw [heed]
  split
  · next heq =>
    rw [heq] at happlied
    exact happlied
  · next heq =>
    rw [heq] at happlied
    exact happlied.trans (attends_onTransportError _ _ now)

/-- Callbacks in order, by induction on their list. -/
theorem attends_applyCallbacks (c : Connection ε σ) (now : Instant) (callbacks : List Callback) :
    c.Attends (c.applyCallbacks now callbacks) := by
  rw [applyCallbacks_eq]
  generalize c.heeded now callbacks = heeded
  induction heeded generalizing c with
  | nil => exact .refl c
  | cons callback rest ih =>
    exact ((c.attends_heed now callback).trans (attends_pump _)).trans (ih _)

end

end QuicHost.Connection
