import Mathlib.Algebra.GroupWithZero.Nat
import QuicHost.Proofs.Stream.Steps

/-!
# Windows and their limits

On every stream and on the connection as a whole, a side sends no more than it
was allowed and takes in no more than it has allowed, and limits only ever rise
(`within_limits`). What was sent on a stream is what its buffer has accepted, and
what was sent on the connection is what all writes of the run have accepted,
those on streams that are gone included.

The sending side is `View.Solvent`, the receiving side `View.Bounded`; each
operation on one of them spares the other. That limits rise is `View.Lifts` and
`View.Grows`. A stream that was not opened yet has no limit that could count:
until it is opened, a handshake may give it another.
-/

namespace QuicHost

/-! ## Halves

What it means for a sending half not to have overdrawn its credit. Accepting asks for
credit first, and nothing else adds to what was sent. -/

namespace SendHalf

/-- The credit of a half was not overdrawn, and its buffer has counted the same
bytes as its window. -/
structure Solvent (h : SendHalf) : Prop where
  /-- what was sent is within the limit -/
  within : h.window.consumed ≤ h.window.limit
  /-- what was sent was accepted -/
  accepted : h.window.consumed = h.buffer.accepted
  /-- what was acknowledged was accepted -/
  acked : h.buffer.acked ≤ h.buffer.accepted

theorem solvent_ofLimit (limit : Nat) : (ofLimit limit).Solvent :=
  ⟨Nat.zero_le _, rfl, Nat.le_refl _⟩

namespace Solvent

variable {h : SendHalf} (hs : h.Solvent)

include hs

/-- What is accepted up to the credit is not overdrawn. -/
theorem accept {n : Nat} (hn : n ≤ h.window.credit) (fin : Bool) : (h.accept n fin).Solvent := by
  obtain ⟨hwithin, haccepted, hacked⟩ := hs
  rw [SendWindow.credit] at hn
  have hbuffer : (h.accept n fin).buffer.accepted = h.buffer.accepted + n ∧
      (h.accept n fin).buffer.acked = h.buffer.acked := by
    cases fin <;> exact ⟨rfl, rfl⟩
  have hconsumed : (h.accept n fin).window.consumed = h.window.consumed + n := by
    simp only [SendHalf.accept, SendWindow.consumed_reserve]
    omega
  refine ⟨?_, ?_, ?_⟩
  · rw [hconsumed]
    change h.window.consumed + n ≤ h.window.limit
    omega
  · rw [hconsumed, hbuffer.1, haccepted]
  · rw [hbuffer.1, hbuffer.2]
    omega

theorem abandon : h.abandon.Solvent := ⟨hs.within, hs.accepted, Nat.le_refl _⟩

/-- What is counted as acknowledged is clamped at what was accepted. -/
theorem acknowledge (n : Nat) : (h.acknowledge n).Solvent :=
  ⟨hs.within, hs.accepted, Nat.min_le_right _ _⟩

theorem extend (limit : Nat) : (h.extend limit).Solvent :=
  ⟨Nat.le_trans hs.within (Nat.le_max_left _ _), hs.accepted, hs.acked⟩

end Solvent

end SendHalf

namespace View

/-! ## The sending side

Every effect keeps the credit in order and raises limits, if it changes them; a write is
the only effect that sends. -/

/-- No credit was overdrawn. -/
structure Solvent (v : View) : Prop where
  /-- on no stream -/
  half : ∀ {id h}, v.send id = some h → h.Solvent
  /-- nor on the connection -/
  within : v.sendWindow.consumed ≤ v.sendWindow.limit

/-- Limits for sending have risen, if they have changed. -/
structure Lifts (v v' : View) : Prop where
  /-- those of streams -/
  half : ∀ {id h'}, v'.send id = some h' → ∃ h, v.send id = some h ∧
    h.window.limit ≤ h'.window.limit
  /-- that of the connection -/
  connection : v.sendWindow.limit ≤ v'.sendWindow.limit

section

variable {v v' : View} {id : StreamId}

/-- One half may be replaced by another that is in order. -/
theorem Solvent.setSend (hv : v.Solvent) {h : SendHalf} (hh : h.Solvent) :
    (v.setSend id h).Solvent := by
  refine ⟨fun {id' h'} hsend => ?_, hv.within⟩
  rw [send_setSend] at hsend
  split at hsend
  · obtain rfl := Option.some.inj hsend
    exact hh
  · exact hv.half hsend

/-- One half may be replaced by another with a limit no lower. -/
theorem lifts_setSend {h h' : SendHalf} (hsend : v.send id = some h)
    (hle : h.window.limit ≤ h'.window.limit) : v.Lifts (v.setSend id h') := by
  refine ⟨fun {id' half} hhalf => ?_, Nat.le_refl _⟩
  rw [send_setSend] at hhalf
  split at hhalf
  · next heq =>
    subst heq
    obtain rfl := Option.some.inj hhalf
    exact ⟨h, hsend, hle⟩
  · exact ⟨half, hhalf, Nat.le_refl _⟩

/-- An operation keeps the sending side in order, sends `n` bytes and may raise
limits. -/
structure Sends (v v' : View) (n : Nat) : Prop where
  solvent : v.Solvent → v'.Solvent
  lifts : v.Lifts v'
  /-- the connection is charged for what is sent -/
  consumed : v'.sendWindow.consumed = v.sendWindow.consumed + n

/-- What is not about sending may follow. -/
theorem Sends.spares {v'' : View} {n : Nat} (h : v.Sends v' n) (hs : v'.SparesSend v'') :
    v.Sends v'' n where
  solvent hv := by
    have hv' := h.solvent hv
    refine ⟨fun hsend => hv'.half (hs.send_eq hsend), ?_⟩
    rw [hs.sendWindow]
    exact hv'.within
  lifts := by
    refine ⟨fun hsend => h.lifts.half (hs.send_eq hsend), ?_⟩
    rw [hs.sendWindow]
    exact h.lifts.connection
  consumed := by rw [hs.sendWindow, h.consumed]

theorem Sends.refl (v : View) : v.Sends v 0 :=
  ⟨fun hv => hv, ⟨fun {_ h} hsend => ⟨h, hsend, Nat.le_refl _⟩, Nat.le_refl _⟩, rfl⟩

theorem SparesSend.sends (h : v.SparesSend v') : v.Sends v' 0 := (Sends.refl v).spares h

/-- A change to one half sends nothing as long as the window of the connection stays. -/
theorem sends_setSend {h h' : SendHalf} (hsend : v.send id = some h)
    (hsolvent : h.Solvent → h'.Solvent) (hle : h.window.limit ≤ h'.window.limit) :
    v.Sends (v.setSend id h') 0 :=
  ⟨fun hv => hv.setSend (hsolvent (hv.half hsend)), lifts_setSend hsend hle, rfl⟩

/-- The bytes that an answer to a write says were accepted. -/
def acceptedBy : Except CallError WriteOutcome → Nat
  | .ok out => out.accepted
  | .error _ => 0

/-- A write sends what it accepted, which both credits allow. -/
theorem Write.sends {data : Bytes} {fin : Bool} {r : Except CallError WriteOutcome}
    (h : v.Write id data fin r v') : v.Sends v' (acceptedBy r) := by
  cases h with
  | refused e => exact .refl v
  | @accepted h n hsend _ hn =>
    have haccepted : acceptedBy (.ok ⟨data.take n, fin && decide (n = data.length)⟩) = n := by
      rw [acceptedBy, WriteOutcome.accepted, List.length_take]
      omega
    have hstream : n ≤ h.window.credit := by omega
    have hconnection : n ≤ v.sendWindow.limit - v.sendWindow.consumed := by
      rw [← SendWindow.credit]
      omega
    rw [haccepted]
    have hset : v.Sends (v.setSend id (h.accept n (fin && decide (n = data.length)))) 0 :=
      sends_setSend hsend (fun hs => hs.accept hstream _) (Nat.le_refl _)
    refine ⟨fun hv => ⟨(hset.solvent hv).half, ?_⟩, ⟨hset.lifts.half, Nat.le_refl _⟩, ?_⟩
    · have := hv.within
      simp only [SendWindow.consumed_reserve, SendWindow.limit_reserve]
      omega
    · simp only [SendWindow.consumed_reserve]
      omega

theorem Reset.sends {r : Except CallError Unit} (h : v.Reset id r v') : v.Sends v' 0 := by
  cases h with
  | refused e => exact .refl v
  | abandoned hsend _ hreaped =>
    exact (sends_setSend hsend .abandon (Nat.le_refl _)).spares hreaped.sparesSend

/-- That the peer wants no more sends nothing. -/
theorem PeerStop.sends {r : Except TransportError Bool} (h : v.PeerStop id r v') :
    v.Sends v' 0 := by
  cases h with
  | ignored => exact .refl v
  | refused _ => exact .refl v
  | abandoned hsend _ hreaped =>
    exact (sends_setSend hsend .abandon (Nat.le_refl _)).spares hreaped.sparesSend

theorem Raise.sends {limit : Nat} (h : v.Raise id limit v') : v.Sends v' 0 := by
  cases h with
  | stale => exact .refl v
  | raised hsend _ => exact sends_setSend hsend (fun hs => hs.extend limit) (Nat.le_max_left _ _)

/-- A limit for the connection rises or is stale. -/
theorem RaiseAll.sends {limit : Nat} (h : v.RaiseAll limit v') : v.Sends v' 0 := by
  cases h with
  | stale => exact .refl v
  | raised =>
    refine ⟨fun hv => ⟨hv.half, ?_⟩, ⟨fun {_ h} hsend => ⟨h, hsend, Nat.le_refl _⟩, ?_⟩, rfl⟩
    · exact Nat.le_trans hv.within (Nat.le_max_left _ _)
    · exact Nat.le_max_left _ _

theorem Acked.sends {n : Nat} (h : v.Acked id n v') : v.Sends v' 0 := by
  cases h with
  | ignored => exact .refl v
  | counted hsend hreaped =>
    exact (sends_setSend hsend (fun hs => hs.acknowledge n) (Nat.le_refl _)).spares
      hreaped.sparesSend

end

/-! ## Limits for the peer

What the peer may send only grows. A stream that is gone cannot be overdrawn, so that its
limit counts as granted for any number of bytes. -/

/-- Whether a stream is granted `n` bytes, as far as it can still receive. -/
def Grants (v : View) (id : StreamId) (n : Nat) : Prop :=
  ∀ h, v.recv id = some h → n ≤ h.window.limit

/-- Grants are never taken back. -/
structure Grows (v v' : View) : Prop where
  /-- a stream that was granted `n` bytes keeps them -/
  stream : ∀ id n, v.Grants id n → v'.Grants id n
  connection : v.recvWindow.limit ≤ v'.recvWindow.limit

theorem Grants.mono {v : View} {id : StreamId} {n n' : Nat} (h : v.Grants id n) (hle : n' ≤ n) :
    v.Grants id n' :=
  fun half hhalf => Nat.le_trans hle (h half hhalf)

variable {v v' v'' : View} {id : StreamId}

theorem Grows.refl (v : View) : v.Grows v := ⟨fun _ _ h => h, Nat.le_refl _⟩

theorem Grows.trans (h : v.Grows v') (h' : v'.Grows v'') : v.Grows v'' :=
  ⟨fun id n hg => h'.stream id n (h.stream id n hg), Nat.le_trans h.connection h'.connection⟩

/-- One half may be replaced by another with a limit no lower. -/
theorem grows_setRecv {h h' : RecvHalf} (hrecv : v.recv id = some h)
    (hle : h.window.limit ≤ h'.window.limit) : v.Grows (v.setRecv id h') := by
  refine ⟨fun id' n hg half hhalf => ?_, Nat.le_refl _⟩
  rw [recv_setRecv] at hhalf
  split at hhalf
  · next heq =>
    subst heq
    obtain rfl := Option.some.inj hhalf
    exact Nat.le_trans (hg h hrecv) hle
  · exact hg half hhalf

theorem grows_receive (v : View) (n : Nat) : v.Grows (v.receive n) :=
  ⟨fun _ _ h => h, Nat.le_refl _⟩

theorem grows_release (v : View) (n : Nat) : v.Grows (v.release n) :=
  ⟨fun _ _ h => h, Nat.le_max_left _ _⟩

/-- Credit given back for a stopped stream raises limits or leaves them. -/
theorem grows_grant (v : View) (n : Nat) : v.Grows (v.grant n) :=
  ⟨fun _ _ h => h, RecvWindow.limit_le_grant _ _⟩

theorem SparesRecv.grows (h : v.SparesRecv v') : v.Grows v' := by
  refine ⟨fun id n hg half hhalf => ?_, Nat.le_of_eq (by rw [h.recvWindow])⟩
  exact hg half (h.recv_eq hhalf)

theorem Reaped.grows (h : v.Reaped id v') : v.Grows v' := h.sparesRecv.grows

/-- A read gives credit back. -/
theorem Read.grows {frozen : Bool} {maxLen : Nat} {r : Except CallError ReadOutcome}
    (h : v.Read frozen id maxLen r v') : v.Grows v' := by
  cases h with
  | refused e => exact .refl v
  | left _ hrecv _ => exact grows_setRecv hrecv (Nat.le_refl _)
  | @taken h v' _ hrecv _ _ hreaped =>
    have hset : v.Grows (v.setRecv id ((h.take maxLen).2.release (h.take maxLen).1.data.length)) :=
      grows_setRecv hrecv (Nat.le_max_left _ _)
    exact (hset.trans (grows_release _ _)).trans hreaped.grows

theorem Stop.grows {r : Except CallError Nat} (h : v.Stop id r v') : v.Grows v' := by
  cases h with
  | refused e => exact .refl v
  | @abandoned h v' hrecv _ hreaped =>
    have hset : v.Grows (v.setRecv id h.stop) := grows_setRecv hrecv (Nat.le_max_left _ _)
    exact (hset.trans (grows_release _ _)).trans hreaped.grows

/-- Counting what arrives lowers no limit. -/
theorem Count.grows {h : RecvHalf} {upTo : Nat} {r : Except TransportError RecvHalf}
    (hrecv : v.recv id = some h) (hc : v.Count id h upTo r v') : v.Grows v' := by
  have hset : v.Grows (v.setRecv id (h.reach upTo)) := grows_setRecv hrecv (Nat.le_refl _)
  cases hc with
  | beyondStream _ => exact .refl v
  | beyondConnection _ _ => exact hset
  | counted _ _ => exact hset.trans (grows_receive _ _)

/-- What counting leaves of the half. -/
theorem Count.recv_self {h h' : RecvHalf} {upTo : Nat} (hc : v.Count id h upTo (.ok h') v') :
    v'.recv id = some (h.reach upTo) := by
  cases hc
  rw [recv_receive, recv_setRecv, if_pos rfl]

/-- Settling gives back what it counts. -/
theorem Settle.grows {h : RecvHalf} {upTo : Nat} {isFinal : Bool} {r : Except TransportError Nat}
    (hrecv : v.recv id = some h) (hs : v.Settle id h upTo isFinal r v') : v.Grows v' := by
  cases hs with
  | misplaced _ _ => exact .refl v
  | overrun hcount => exact hcount.grows hrecv
  | @settled mid _ _ hcount hreaped =>
    have hset : mid.Grows (mid.setRecv id (h.settle upTo isFinal)) :=
      grows_setRecv hcount.recv_self (RecvWindow.limit_le_grant _ _)
    exact (((hcount.grows hrecv).trans hset).trans (grows_grant _ _)).trans hreaped.grows

/-- Data lowers no limit, whichever way it ends. -/
theorem Data.grows {offset : Nat} {data : Bytes} {fin frozen : Bool} {r : Except TransportError Nat}
    (h : v.Data frozen id offset data fin r v') : v.Grows v' := by
  cases h with
  | ignored _ => exact .refl v
  | refused _ => exact .refl v
  | unsized _ _ => exact .refl v
  | settled _ hrecv _ _ hsettle => exact hsettle.grows hrecv
  | overrun hrecv hcount => exact hcount.grows hrecv
  | misfit hrecv hcount _ => exact hcount.grows hrecv
  | filled _ hrecv _ _ hcount _ =>
    exact (hcount.grows hrecv).trans (grows_setRecv hcount.recv_self (Nat.le_refl _))

/-- The end of the peer's half lowers no limit. -/
theorem PeerReset.grows {frozen : Bool} {finalSize : Nat} {r : Except TransportError Nat}
    (h : v.PeerReset frozen id finalSize r v') : v.Grows v' := by
  cases h with
  | ignored _ => exact .refl v
  | refused _ => exact .refl v
  | settled _ hrecv _ hsettle => exact hsettle.grows hrecv
  | misplaced _ _ => exact .refl v
  | overrun hrecv hcount => exact hcount.grows hrecv
  | @ended h mid _ _ hrecv _ _ _ _ hcount hreaped =>
    have hset : mid.Grows (mid.setRecv id (h.close finalSize)) :=
      grows_setRecv hcount.recv_self (Nat.le_max_left _ _)
    exact (((hcount.grows hrecv).trans hset).trans (grows_release _ _)).trans hreaped.grows

/-! ## The receiving side

What has arrived is within the limits, on every stream and on the connection: where a
limit would be exceeded the report is refused before it is counted. -/

/-- The peer has overdrawn none of its credit. -/
structure Bounded (v : View) : Prop where
  /-- on no stream -/
  half : ∀ {id h}, v.recv id = some h → h.window.received ≤ h.window.limit
  /-- nor on the connection -/
  within : v.recvWindow.received ≤ v.recvWindow.limit

section

variable {v v' : View} {id : StreamId}

/-- One half may be replaced by another within its limit. -/
theorem Bounded.setRecv (hv : v.Bounded) {h : RecvHalf}
    (hh : h.window.received ≤ h.window.limit) : (v.setRecv id h).Bounded := by
  refine ⟨fun {id' h'} hrecv => ?_, hv.within⟩
  rw [recv_setRecv] at hrecv
  split at hrecv
  · obtain rfl := Option.some.inj hrecv
    exact hh
  · exact hv.half hrecv

/-- Credit given back raises limits, so that what was received stays below. -/
theorem Bounded.release (hv : v.Bounded) (n : Nat) : (v.release n).Bounded :=
  ⟨hv.half, Nat.le_trans hv.within (Nat.le_max_left _ _)⟩

/-- Credit given back raises limits, so that what was received stays below. -/
theorem Bounded.grant (hv : v.Bounded) (n : Nat) : (v.grant n).Bounded := by
  refine ⟨hv.half, ?_⟩
  rw [recvWindow_grant, RecvWindow.received_grant]
  exact Nat.le_trans hv.within (RecvWindow.limit_le_grant _ _)

theorem Bounded.spares (hv : v.Bounded) (h : v.SparesRecv v') : v'.Bounded := by
  refine ⟨fun hrecv => hv.half (h.recv_eq hrecv), ?_⟩
  rw [h.recvWindow]
  exact hv.within

/-- A read keeps what was received within the limits. -/
theorem Bounded.read (hv : v.Bounded) {frozen : Bool} {maxLen : Nat}
    {r : Except CallError ReadOutcome} (h : v.Read frozen id maxLen r v') : v'.Bounded := by
  cases h with
  | refused e => exact hv
  | left _ hrecv _ =>
    have hself := hv.half hrecv
    exact hv.setRecv hself
  | taken _ hrecv _ _ hreaped =>
    have hself := hv.half hrecv
    refine ((hv.setRecv ?_).release _).spares hreaped.sparesRecv
    exact Nat.le_trans hself (Nat.le_max_left _ _)

/-- Stopping keeps what was received within the limits. -/
theorem Bounded.stop (hv : v.Bounded) {r : Except CallError Nat} (h : v.Stop id r v') :
    v'.Bounded := by
  cases h with
  | refused e => exact hv
  | abandoned hrecv _ hreaped =>
    have hself := hv.half hrecv
    refine ((hv.setRecv ?_).release _).spares hreaped.sparesRecv
    exact Nat.le_trans hself (Nat.le_max_left _ _)

/-- What was counted was within both limits; what was not counted on the
connection was at least within that of the stream. -/
theorem Bounded.count (hv : v.Bounded) {h : RecvHalf} (hrecv : v.recv id = some h) {upTo : Nat}
    {r : Except TransportError RecvHalf} (hc : v.Count id h upTo r v') : v'.Bounded := by
  have hset (hle : upTo ≤ h.window.limit) : (v.setRecv id (h.reach upTo)).Bounded :=
    hv.setRecv (Nat.max_le.2 ⟨hv.half hrecv, hle⟩)
  cases hc with
  | beyondStream _ => exact hv
  | beyondConnection hle _ => exact hset hle
  | counted hle hroom =>
    refine ⟨(hset hle).half, Nat.max_le.2 ⟨hv.within, ?_⟩⟩
    rcases hroom with hroom | hold
    · exact hroom
    · have hzero : upTo - h.window.received = 0 := by omega
      rw [hzero]
      exact Nat.le_trans (wrap_le_self _) hv.within

/-- Settling counts within the limits and raises them. -/
theorem Bounded.settle (hv : v.Bounded) {h : RecvHalf} (hrecv : v.recv id = some h) {upTo : Nat}
    {isFinal : Bool} {r : Except TransportError Nat} (hs : v.Settle id h upTo isFinal r v') :
    v'.Bounded := by
  cases hs with
  | misplaced _ _ => exact hv
  | overrun hcount => exact hv.count hrecv hcount
  | settled _ hcount hreaped =>
    have hmid := hv.count hrecv hcount
    have hself := hmid.half hcount.recv_self
    have hset : (h.settle upTo isFinal).window.received ≤
        (h.settle upTo isFinal).window.limit := by
      rw [RecvHalf.settle, RecvWindow.received_grant]
      exact Nat.le_trans hself (RecvWindow.limit_le_grant _ _)
    exact ((hmid.setRecv hset).grant _).spares hreaped.sparesRecv

/-- Data beyond a limit is refused, and not counted by the window that refuses it. -/
theorem Bounded.data (hv : v.Bounded) {frozen : Bool} {offset : Nat} {data : Bytes} {fin : Bool}
    {r : Except TransportError Nat} (h : v.Data frozen id offset data fin r v') : v'.Bounded := by
  cases h with
  | ignored _ => exact hv
  | refused _ => exact hv
  | unsized _ _ => exact hv
  | settled _ hrecv _ _ hsettle => exact hv.settle hrecv hsettle
  | overrun hrecv hcount => exact hv.count hrecv hcount
  | misfit hrecv hcount _ => exact hv.count hrecv hcount
  | filled _ hrecv _ _ hcount _ =>
    have hmid := hv.count hrecv hcount
    have hself := hmid.half hcount.recv_self
    exact hmid.setRecv hself

/-- A length beyond a limit is refused, and not counted by the window that refuses it. -/
theorem Bounded.peerReset (hv : v.Bounded) {frozen : Bool} {finalSize : Nat}
    {r : Except TransportError Nat} (h : v.PeerReset frozen id finalSize r v') : v'.Bounded := by
  cases h with
  | ignored _ => exact hv
  | refused _ => exact hv
  | settled _ hrecv _ hsettle => exact hv.settle hrecv hsettle
  | misplaced _ _ => exact hv
  | overrun hrecv hcount => exact hv.count hrecv hcount
  | ended _ hrecv _ _ _ _ hcount hreaped =>
    have hmid := hv.count hrecv hcount
    have hself := hmid.half hcount.recv_self
    refine ((hmid.setRecv ?_).release _).spares hreaped.sparesRecv
    exact Nat.le_trans hself (Nat.le_max_left _ _)

end

end View

namespace StreamSet

/-! ## Runs

The three views together, along a run. `Moves` is what one operation does to the windows,
and `Rises` what a run makes of the limits. -/

/-- The bytes that a step says were accepted. -/
def Entry.accepted (e : Entry) : Nat :=
  match e.answer with
  | .written r => View.acceptedBy r
  | _ => 0

/-- The bytes that the writes of a run say were accepted. -/
def accepted (t : List Entry) : Nat := (t.map (·.accepted)).sum

/-- The windows are in order: neither side has overdrawn its credit. -/
structure Windows (s : StreamSet) : Prop where
  orderly : s.Orderly
  solvent : s.view.Solvent
  bounded : s.view.Bounded

/-- Nothing was sent or received in a new set. -/
theorem windows_new (side : Side) (own : TransportParameters) : (new side own).Windows where
  orderly := orderly_new side own
  solvent := by
    refine ⟨fun hsend => ?_, Nat.le_refl _⟩
    rw [eq_of_view_send_new hsend]
    exact SendHalf.solvent_ofLimit 0
  bounded := by
    refine ⟨fun hrecv => ?_, Nat.zero_le _⟩
    rw [eq_of_view_recv_new hrecv]
    exact Nat.zero_le _

/-- Limits have risen, if they have changed: those of the connection, and those
of streams that were opened. -/
structure Rises (s s' : StreamSet) : Prop where
  used : ∀ {id}, s.Used id → s'.Used id
  /-- the limit of a stream that was there before -/
  send : ∀ {id h'}, s.Used id → s'.view.send id = some h' → ∃ h, s.view.send id = some h ∧
    h.window.limit ≤ h'.window.limit
  sendWindow : s.sendWindow.limit ≤ s'.sendWindow.limit
  /-- the grants that the peer has got -/
  grows : s.view.Grows s'.view

section

variable {s s' s'' : StreamSet}

theorem Rises.refl (s : StreamSet) : s.Rises s where
  used h := h
  send {_ h} _ hsend := ⟨h, hsend, Nat.le_refl _⟩
  sendWindow := Nat.le_refl _
  grows := .refl _

/-- A stream that was used stays used, so that the rises compose. -/
theorem Rises.trans (h : s.Rises s') (h' : s'.Rises s'') : s.Rises s'' where
  used hused := h'.used (h.used hused)
  send hused hsend := by
    obtain ⟨half', hsend', hle'⟩ := h'.send (h.used hused) hsend
    obtain ⟨half, hsend, hle⟩ := h.send hused hsend'
    exact ⟨half, hsend, Nat.le_trans hle hle'⟩
  sendWindow := Nat.le_trans h.sendWindow h'.sendWindow
  grows := h.grows.trans h'.grows

/-- What an operation does to the windows: it keeps them in order, sends `n`
bytes and may raise limits. -/
structure Moves (s s' : StreamSet) (n : Nat) : Prop where
  solvent : s.view.Solvent → s'.view.Solvent
  bounded : s.view.Bounded → s'.view.Bounded
  /-- limits of streams that were there do not fall -/
  send : ∀ {id h'}, s.Used id → s'.view.send id = some h' → ∃ h, s.view.send id = some h ∧
    h.window.limit ≤ h'.window.limit
  sendWindow : s.sendWindow.limit ≤ s'.sendWindow.limit
  /-- neither do the grants that the peer has got -/
  grows : s.view.Grows s'.view
  /-- and the connection is charged for what is sent -/
  consumed : s'.sendWindow.consumed = s.sendWindow.consumed + n

/-- An operation on sending halves. -/
theorem moves_of_sends {n : Nat} (h : s.view.Sends s'.view n) (hs : s.view.SparesRecv s'.view) :
    s.Moves s' n where
  solvent := h.solvent
  bounded hv := hv.spares hs
  send _ hsend := h.lifts.half hsend
  sendWindow := h.lifts.connection
  grows := hs.grows
  consumed := h.consumed

/-- An operation on receiving halves. -/
theorem moves_of_spares (h : s.view.SparesSend s'.view)
    (hbounded : s.view.Bounded → s'.view.Bounded) (hgrows : s.view.Grows s'.view) :
    s.Moves s' 0 where
  solvent := h.sends.solvent
  bounded := hbounded
  send _ hsend := h.sends.lifts.half hsend
  sendWindow := h.sends.lifts.connection
  grows := hgrows
  consumed := h.sends.consumed

theorem moves_of_eq (h : s'.view = s.view) : s.Moves s' 0 :=
  moves_of_spares (View.sparesSend_of_eq (congrArg _ h) (congrArg _ h)) (fun hv => h ▸ hv)
    (h ▸ .refl _)

/-- The handshake may give another limit to a stream that was not opened, but
nothing was sent on it. -/
theorem moves_onHandshakeCompleted (s : StreamSet) (peer : TransportParameters) :
    s.Moves (s.onHandshakeCompleted peer) 0 := by
  by_cases hfrozen : s.frozen = true
  · rw [onHandshakeCompleted, if_pos hfrozen]
    exact moves_of_eq rfl
  obtain ⟨-, hview⟩ := keeps_onHandshakeCompleted (Bool.eq_false_iff.2 hfrozen) peer
  have hwindow : (s.onHandshakeCompleted peer).sendWindow =
      s.sendWindow.extend peer.initialMaxData := congrArg View.sendWindow hview
  have hconsumed : (s.onHandshakeCompleted peer).sendWindow.consumed = s.sendWindow.consumed := by
    rw [hwindow, SendWindow.consumed_extend]
  have hspares := (onHandshakeCompleted_outcome s peer).sparesRecv
  refine ⟨fun hv => ⟨fun {id h'} hsend => ?_, ?_⟩, fun hv => hv.spares hspares, fun {id h'} hused
    hsend => ?_, ?_, hspares.grows, hconsumed⟩
  · rw [hview, view_send_raise] at hsend
    obtain ⟨h, hold, rfl⟩ := Option.map_eq_some_iff.1 hsend
    split
    · exact (hv.half hold).extend _
    · exact SendHalf.solvent_ofLimit _
  · change (s.onHandshakeCompleted peer).sendWindow.consumed ≤
      (s.onHandshakeCompleted peer).sendWindow.limit
    rw [hwindow]
    exact Nat.le_trans hv.within (Nat.le_max_left _ _)
  · rw [hview, view_send_raise] at hsend
    obtain ⟨h, hold, rfl⟩ := Option.map_eq_some_iff.1 hsend
    rw [if_pos hused]
    exact ⟨h, hold, Nat.le_max_left _ _⟩
  · rw [hwindow]
    exact Nat.le_max_left _ _

/-- What each operation does to the windows. -/
theorem moves_perform (hs : s.Orderly) {op : Operation} (hop : op.Fits) :
    s.Moves (s.perform op).2 (Entry.mk s op (s.perform op).1).accepted := by
  -- the sending side moves by writes, acknowledgements and limits, the receiving side by
  -- what the peer sent and what was read
  cases op with
  | openStream d => exact moves_of_eq (opens_openStream hs d).view
  | write id data fin =>
    have hwrite := (write_outcome hs id data fin).2
    exact moves_of_sends hwrite.sends hwrite.sparesRecv
  | read id maxLen =>
    have hread := (read_outcome hs id maxLen).2
    exact moves_of_spares hread.sparesSend (fun hv => hv.read hread) hread.grows
  | resetStream id =>
    have hreset := (resetStream_outcome hs id).2
    exact moves_of_sends hreset.sends hreset.sparesRecv
  | stopSending id =>
    have hstop := (stopSending_outcome hs id).2
    exact moves_of_spares hstop.sparesSend (fun hv => hv.stop hstop) hstop.grows
  | handshakeCompleted peer => exact moves_onHandshakeCompleted s peer
  | streamData id offset data fin =>
    have hdata := (onStreamData_outcome hs hop offset data fin).2
    exact moves_of_spares hdata.sparesSend (fun hv => hv.data hdata) hdata.grows
  | streamReset id errorCode finalSize =>
    have hreset := (onStreamReset_outcome hs hop errorCode finalSize).2
    exact moves_of_spares hreset.sparesSend (fun hv => hv.peerReset hreset) hreset.grows
  | peerStop id errorCode =>
    have hstop := (onStopSending_outcome hs hop errorCode).2
    exact moves_of_sends hstop.sends hstop.sparesRecv
  | maxStreamData id limit =>
    have hraise := (onMaxStreamData_outcome hs id limit).2
    exact moves_of_sends hraise.sends hraise.sparesRecv
  | maxData limit =>
    have hraise := (onMaxData_outcome hs limit).2
    exact moves_of_sends hraise.sends hraise.sparesRecv
  | maxStreams d n => exact moves_of_eq (onMaxStreams_outcome hs d n).2
  | streamAcked id n =>
    have hacked := (onStreamAcked_outcome hs id n).2
    exact moves_of_sends hacked.sends hacked.sparesRecv
  | takeEvents => exact moves_of_eq rfl
  | freeze => exact moves_of_eq rfl

/-- A run keeps the windows in order, raises limits only, and sends what its
writes say. -/
theorem windows_after (hs : s.Windows) {ops : List Operation} (hops : ∀ op ∈ ops, op.Fits) :
    (s.after ops).Windows ∧ s.Rises (s.after ops) ∧
      (s.after ops).sendWindow.consumed = s.sendWindow.consumed + accepted (s.trace ops) := by
  induction ops generalizing s with
  | nil => exact ⟨hs, .refl s, rfl⟩
  | cons op rest ih =>
    rw [List.forall_mem_cons] at hops
    have hmoves := moves_perform hs.orderly hops.1
    obtain ⟨horderly, hages⟩ := (steps_perform s hops.1).orderly hs.orderly
    have hfirst : s.Rises (s.perform op).2 :=
      ⟨hages.used, hmoves.send, hmoves.sendWindow, hmoves.grows⟩
    obtain ⟨hwindows, hrises, hconsumed⟩ :=
      ih ⟨horderly, hmoves.solvent hs.solvent, hmoves.bounded hs.bounded⟩ hops.2
    refine ⟨hwindows, hfirst.trans hrises, ?_⟩
    rw [hmoves.consumed] at hconsumed
    rw [trace, accepted, List.map_cons, List.sum_cons, ← Nat.add_assoc]
    exact hconsumed

end

/-! ## The result

One statement about every run from a new set of streams, also those with operations that
fail and those that go on after the end. -/

/-- **Within the limits, which never fall.** At every moment of a run, no more was sent
than the limits allow, nor received, on the connection and on every live stream. What
was sent on a stream was accepted by its buffer, which has seen no more acknowledged
than that; what was sent on the connection was accepted by the writes of the run. And
whatever happens afterwards, no limit falls, neither that of the connection nor that of
a stream that is still live. -/
theorem within_limits (side : Side) (own : TransportParameters) (ops more : List Operation)
    (hops : ∀ op ∈ ops ++ more, op.Fits) :
    let s := (new side own).after ops
    let s' := (new side own).after (ops ++ more)
    (s.sendWindow.consumed ≤ s.sendWindow.limit ∧ s.recvWindow.received ≤ s.recvWindow.limit ∧
      s.sendWindow.consumed = accepted ((new side own).trace ops)) ∧
    (∀ id st, s.streams.get? id = some st →
      (∀ h, st.send = some h → h.window.consumed ≤ h.window.limit ∧
        h.window.consumed = h.buffer.accepted ∧ h.buffer.acked ≤ h.buffer.accepted) ∧
      ∀ h, st.recv = some h → h.window.received ≤ h.window.limit) ∧
    (s.sendWindow.limit ≤ s'.sendWindow.limit ∧ s.recvWindow.limit ≤ s'.recvWindow.limit) ∧
    ∀ id st st', s.streams.get? id = some st → s'.streams.get? id = some st' →
      (∀ h h', st.send = some h → st'.send = some h' → h.window.limit ≤ h'.window.limit) ∧
      ∀ h h', st.recv = some h → st'.recv = some h' → h.window.limit ≤ h'.window.limit := by
  intro s s'
  obtain ⟨hbefore, hafter⟩ := List.forall_mem_append.1 hops
  obtain ⟨hs, -, hconsumed⟩ := windows_after (windows_new side own) hbefore
  obtain ⟨hs', hrises, -⟩ := windows_after hs hafter
  -- the longer run is the shorter one carried on, so its limits have only risen
  rw [← after_append] at hs' hrises
  refine ⟨⟨hs.solvent.within, hs.bounded.within, ?_⟩, ?_,
    ⟨hrises.sendWindow, hrises.grows.connection⟩, ?_⟩
  · rw [hconsumed]
    exact Nat.zero_add _
  · intro id st hget
    refine ⟨fun h hsend => ?_, fun h hrecv => ?_⟩
    · have hview := view_send_of_get? hs.orderly hget
      rw [hsend] at hview
      obtain ⟨hwithin, haccepted, hacked⟩ := hs.solvent.half hview
      exact ⟨hwithin, haccepted, hacked⟩
    · have hview := view_recv_of_get? hs.orderly hget
      rw [hrecv] at hview
      exact hs.bounded.half hview
  · intro id st st' hget hget'
    have hused := hs.orderly.used hget
    refine ⟨fun h h' hsend hsend' => ?_, fun h h' hrecv hrecv' => ?_⟩
    · have hview := view_send_of_get? hs.orderly hget
      have hview' := view_send_of_get? hs'.orderly hget'
      rw [hsend] at hview
      rw [hsend'] at hview'
      obtain ⟨half, hhalf, hle⟩ := hrises.send hused hview'
      obtain rfl := Option.some.inj (hview.symm.trans hhalf)
      exact hle
    · have hview := view_recv_of_get? hs.orderly hget
      have hview' := view_recv_of_get? hs'.orderly hget'
      rw [hrecv] at hview
      rw [hrecv'] at hview'
      refine hrises.grows.stream id h.window.limit (fun half hhalf => ?_) h' hview'
      obtain rfl := Option.some.inj (hview.symm.trans hhalf)
      exact Nat.le_refl _

/-- Two writes that run out of credit, a raised limit between them, and a stream
that is gone before the second. -/
def thrifty : List Operation :=
  [.handshakeCompleted
      { initialMaxData := 5, initialMaxStreamDataUni := 3, initialMaxStreamsUni := 2 },
    .openStream .uni, .write ⟨2⟩ [1, 2, 3, 4] false, .resetStream ⟨2⟩,
    .openStream .uni, .maxStreamData ⟨6⟩ 9, .write ⟨6⟩ [1, 2, 3, 4] false]

/-- What the stream that is gone sent stays counted on the connection. -/
theorem within_limits_thrifty :
    ((new .client {}).after thrifty).sendWindow.consumed = 5 ∧
      accepted ((new .client {}).trace thrifty) = 5 := by
  obtain ⟨⟨-, -, hconsumed⟩, -, -, -⟩ := within_limits .client {} thrifty [] (by decide)
  have hfive : accepted ((new .client {}).trace thrifty) = 5 := by decide
  exact ⟨hconsumed.trans hfive, hfive⟩

end StreamSet

end QuicHost
