import QuicHost.Proofs.Link.Sending

/-!
# Honest ends are not accused

Two ends that run the same streams never accuse each other of overrunning credit
or of moving a final size, however the network delays, reorders and repeats what
they say (`not_accused`).

Each end keeps `Node.Honest`: it has granted at least what its parameters
promise, it sends within what it was granted, and everything it has ever said
still holds. With the other end it keeps `Node.Faces`: either end has granted
what the other sends within, and has counted no more than the other has said.
Every action keeps this, and whatever arrives while it holds may be refused, but
accuses nobody.
-/

namespace QuicHost

open Message

/-! ## Parameters as promises

Either end grants what its parameters say, before anything else. The parameters fit words,
so that no promise is cut. -/

namespace TransportParameters

/-- The limits that streams begin with fit a word, as all numbers in parameters
do. -/
structure CreditFits (p : TransportParameters) : Prop where
  bidiLocal : p.initialMaxStreamDataBidiLocal ≤ maxWord
  bidiRemote : p.initialMaxStreamDataBidiRemote ≤ maxWord
  uni : p.initialMaxStreamDataUni ≤ maxWord

/-- Windows come from parameters, which fit words. -/
theorem CreditFits.recvWindowFor_le {p : TransportParameters} (h : p.CreditFits) (side : Side)
    (id : StreamId) : recvWindowFor side p id ≤ maxWord := by
  rw [recvWindowFor]
  cases id.direction with
  | uni => exact h.uni
  | bidi =>
    dsimp only
    split
    · exact h.bidiLocal
    · exact h.bidiRemote

end TransportParameters

/-- A sending half begins with the limit that the other end begins to receive
with. -/
theorem sendLimitFor_eq (side : Side) (p : TransportParameters) (id : StreamId) :
    sendLimitFor side (some p) id = recvWindowFor side.opposite p id := by
  rw [sendLimitFor, recvWindowFor]
  cases id.direction with
  | uni => rfl
  | bidi =>
    have hopposite : id.IsLocal side.opposite ↔ ¬ id.IsLocal side := by
      simp only [StreamId.IsLocal]
      cases id.initiator <;> cases side <;> decide
    simp only [hopposite, ite_not]

/-- Limits rise to the parameters of the other end, if it keeps what they
promise. -/
theorem StreamSet.heeds_onHandshakeCompleted {s : StreamSet} {r : View}
    {peer : TransportParameters} (hfrozen : s.frozen = false)
    (hpeer : s.peerParams = none ∨ s.peerParams = some peer) (hfits : peer.CreditFits)
    (hgrants : ∀ id, r.Grants id (recvWindowFor s.side.opposite peer id))
    (hgrantsAll : peer.initialMaxData ≤ r.recvWindow.limit) :
    View.Heeds r s.view (s.onHandshakeCompleted peer).view := by
  have hshut (id : StreamId) : s.view.Shut id → (s.onHandshakeCompleted peer).view.Shut id :=
    (onHandshakeCompleted_outcome s peer).lasts (P := (·.isWritable = false))
  rw [view_onHandshakeCompleted hfrozen hpeer] at hshut ⊢
  refine ⟨fun id h' hsend => ?_, .inr ⟨_, hgrantsAll, rfl⟩, hshut⟩
  obtain ⟨h, hold, rfl⟩ := Option.map_eq_some_iff.1 hsend
  rw [sendLimitFor_eq]
  exact ⟨h, hold, .inr ⟨_, hfits.recvWindowFor_le _ _, hgrants id, rfl⟩⟩

namespace Node

/-! ## What an end keeps

The invariant of one end, and the one that it keeps with the other. -/

/-- The streams are those of `side`, and know the parameters of the other end or
none. -/
structure Setup (params : Side → TransportParameters) (side : Side) (s : StreamSet) : Prop where
  orderly : s.Orderly
  frozen : s.frozen = false
  localParams : s.localParams = params side
  /-- the parameters of the other end, once they are known -/
  peerParams : s.peerParams = none ∨ s.peerParams = some (params side.opposite)
  side : s.side = side

/-- What an end keeps by itself. -/
structure Honest (params : Side → TransportParameters) (side : Side) (n : Node) : Prop where
  setup : Setup params side n.streams
  /-- the windows that the parameters promise are granted -/
  grants : ∀ id, n.streams.view.Grants id (recvWindowFor side (params side) id)
  /-- and so is the window of the connection -/
  grantsAll : (params side).initialMaxData ≤ n.streams.view.recvWindow.limit
  /-- what was sent is within the limits -/
  sending : Sending n.streams.view n.sent
  /-- everything that was said is still true -/
  holds : ∀ m ∈ n.sent, m.Holds n.streams.view n.sent

/-- What an end keeps with the other end `y`. -/
structure Faces (params : Side → TransportParameters) (side : Side) (x y : Node) : Prop where
  /-- what the end keeps by itself -/
  honest : x.Honest params side
  /-- what it sends is granted by the other end -/
  ahead : Feeds x.streams.view y.streams.view x.sent
  /-- and it grants what the other end sends -/
  back : Feeds y.streams.view x.streams.view y.sent

section

variable {params : Side → TransportParameters} {side : Side} {s s' : StreamSet}
  {x y : Node} {m : Message}

/-- What operations leave the setup as it was. -/
theorem Setup.follows (h : Setup params side s) (hf : s.Follows s') : Setup params side s' where
  orderly := hf.orderly
  frozen := hf.frozen.trans h.frozen
  side := hf.side.trans h.side
  localParams := hf.localParams.trans h.localParams
  peerParams := by
    rw [hf.peerParams]
    exact h.peerParams

/-! ## Moves

Every action is made of three moves. The streams change and nothing is said;
something is said and the streams stay; or data is accepted and said in one. -/

/-- The streams change, and nothing is said. -/
theorem Faces.moves (h : x.Faces params side y) (hsetup : Setup params side s')
    (hheeds : View.Heeds y.streams.view x.streams.view s'.view)
    (hgrows : x.streams.view.Grows s'.view) (hcounted : Counted s'.view y.sent) :
    ({ x with streams := s' } : Node).Faces params side y where
  honest :=
    { setup := hsetup
      grants := fun id => hgrows.stream id _ (h.honest.grants id)
      grantsAll := Nat.le_trans h.honest.grantsAll hgrows.connection
      sending := h.honest.sending.heeds hheeds
      holds := fun m hm => (h.honest.holds m hm).grows hgrows }
  ahead := h.ahead.heeds hheeds
  back := h.back.receives hgrows hcounted

/-- The streams change on the sending side. -/
theorem Faces.sends (h : x.Faces params side y) (hf : x.streams.Follows s')
    (hheeds : View.Heeds y.streams.view x.streams.view s'.view)
    (hspares : x.streams.view.SparesRecv s'.view) :
    ({ x with streams := s' } : Node).Faces params side y :=
  h.moves (h.honest.setup.follows hf) hheeds hspares.grows (h.back.counted.spares hspares)

/-- The streams change on the receiving side. -/
theorem Faces.receives (h : x.Faces params side y) (hf : x.streams.Follows s')
    (hspares : x.streams.view.SparesSend s'.view) (hgrows : x.streams.view.Grows s'.view)
    (hcovers : Covers s'.view y.sent) : ({ x with streams := s' } : Node).Faces params side y :=
  h.moves (h.honest.setup.follows hf) hspares.heeds hgrows hcovers.counted

/-- The streams change in nothing that a view shows. -/
theorem Faces.keeps (h : x.Faces params side y) (hf : x.streams.Follows s')
    (hview : s'.view = x.streams.view) : ({ x with streams := s' } : Node).Faces params side y :=
  h.sends hf (View.heeds_of_eq (congrArg View.send hview) (congrArg View.sendWindow hview))
    (View.sparesRecv_of_eq (congrArg View.recvWindow hview) (congrArg View.recv hview))

/-- Something is said that carries no data. -/
theorem Faces.tells (h : x.Faces params side y) (hm : m.isData = false)
    (hholds : m.Holds x.streams.view x.sent) (hends : ∀ id, m.Ends id → x.streams.view.Shut id) :
    (x.say m).Faces params side y where
  honest :=
    { setup := h.honest.setup
      grants := h.honest.grants
      grantsAll := h.honest.grantsAll
      sending := h.honest.sending.said hm hends
      holds := holds_concat h.honest.holds (fun id _ => bytesOn_eq_zero hm id) (hholds.now hm) }
  ahead := h.ahead.said hm
  back := h.back

/-- Data is accepted and said. -/
theorem Faces.writes (h : x.Faces params side y) {id : StreamId} {data : Bytes} {fin : Bool}
    {out : WriteOutcome} (hf : x.streams.Follows s') (hid : id.Fits)
    (hw : x.streams.view.Write id data fin (.ok out) s'.view) :
    ({ x with streams := s' }.say (ofWrite id x.sent out) : Node).Faces params side y where
  honest :=
    { setup := h.honest.setup.follows hf
      grants := fun id => hw.sparesRecv.grows.stream id _ (h.honest.grants id)
      grantsAll := Nat.le_trans h.honest.grantsAll hw.sparesRecv.grows.connection
      sending := h.honest.sending.written hw
      holds := holds_concat (fun m hm => (h.honest.holds m hm).grows hw.sparesRecv.grows)
        (fun _ hended => h.honest.sending.bytesOn_eq_zero hw hended) (holds_ofWrite hid _) }
  ahead := h.ahead.written h.honest.sending hw
  back := h.back.receives hw.sparesRecv.grows (h.back.counted.spares hw.sparesRecv)

/-! ## Actions of an end

Everything that an end does on its own keeps both. Limits that were raised are announced
as they are, however late. -/

/-- The handshake gives a node the limits of the other side, as they are in force there. -/
theorem Faces.handshake (h : x.Faces params side y) (hy : y.Honest params side.opposite)
    (hparams : (params side.opposite).CreditFits) :
    ({ x with streams := x.streams.onHandshakeCompleted y.streams.localParams } : Node).Faces
      params side y := by
  have hsetup := h.honest.setup
  have houtcome := StreamSet.onHandshakeCompleted_outcome x.streams (params side.opposite)
  obtain ⟨horderly, hside, hlocal, hfrozen, hpeer⟩ :=
    StreamSet.setup_onHandshakeCompleted hsetup.orderly (params side.opposite)
  rw [hsetup.frozen] at hfrozen
  rw [hsetup.frozen, if_neg Bool.false_ne_true] at hpeer
  have hheeds := StreamSet.heeds_onHandshakeCompleted (r := y.streams.view) hsetup.frozen
    hsetup.peerParams hparams
    (hsetup.side.symm ▸ hy.grants) hy.grantsAll
  rw [hy.setup.localParams]
  exact h.moves ⟨horderly, hfrozen, hlocal.trans hsetup.localParams, .inr hpeer,
    hside.trans hsetup.side⟩ hheeds
    houtcome.sparesRecv.grows (h.back.counted.spares houtcome.sparesRecv)

/-- What is written within the credit is within what the other side has granted. -/
theorem Faces.write (h : x.Faces params side y) (id : StreamId) (data : Bytes) (fin : Bool) :
    (x.write id data fin).Faces params side y := by
  obtain ⟨hf, hw⟩ := StreamSet.write_outcome h.honest.setup.orderly id data fin
  rw [Node.write]
  split
  · next e streams heq =>
    rw [heq] at hf hw
    exact h.keeps hf hw.eq_of_refused
  · next out streams heq =>
    have hfits : id.Fits := StreamSet.fits_of_write h.honest.setup.orderly (congrArg Prod.fst heq)
    rw [heq] at hf hw
    exact h.writes hf hfits hw

theorem Faces.read (h : x.Faces params side y) (hcovers : Covers x.streams.view y.sent)
    (id : StreamId) (maxLen : Nat) :
    ({ x with streams := (x.streams.read id maxLen).2 } : Node).Faces params side y := by
  obtain ⟨hf, hr⟩ := StreamSet.read_outcome h.honest.setup.orderly id maxLen
  rw [h.honest.setup.frozen] at hr
  exact h.receives hf hr.sparesSend hr.grows (hcovers.read hr)

/-- To abandon a half is said, with all that was accepted as its size. -/
theorem Faces.resetStream (h : x.Faces params side y) (id : StreamId) (errorCode : Nat) :
    (x.resetStream id errorCode).Faces params side y := by
  obtain ⟨hf, hr⟩ := StreamSet.resetStream_outcome h.honest.setup.orderly id
  rw [Node.resetStream]
  split
  · next e streams heq =>
    rw [heq] at hf hr
    exact h.sends hf hr.heeds hr.sparesRecv
  · next streams heq =>
    have hfits : id.Fits :=
      StreamSet.fits_of_resetStream h.honest.setup.orderly (congrArg Prod.fst heq)
    rw [heq] at hf hr
    refine (h.sends hf hr.heeds hr.sparesRecv).tells rfl ⟨hfits, rfl⟩ ?_
    rintro id rfl
    exact hr.ends.2.shut

/-- To stop a half is said, and raises limits. -/
theorem Faces.stopSending (h : x.Faces params side y) (hcovers : Covers x.streams.view y.sent)
    (id : StreamId) (errorCode : Nat) : (x.stopSending id errorCode).Faces params side y := by
  obtain ⟨hf, hs⟩ := StreamSet.stopSending_outcome h.honest.setup.orderly id
  have hmoved := h.receives hf hs.sparesSend hs.grows (hcovers.stop hs)
  rw [Node.stopSending]
  split
  · next e streams heq =>
    rw [heq] at hmoved
    exact hmoved
  · next n streams heq =>
    have hfits : id.Fits :=
      StreamSet.fits_of_stopSending h.honest.setup.orderly (congrArg Prod.fst heq)
    rw [heq] at hmoved
    exact hmoved.tells rfl hfits fun _ hends => hends.elim

theorem Faces.announceData (h : x.Faces params side y) : x.announceData.Faces params side y :=
  h.tells rfl (Nat.min_le_left _ _) fun _ hends => hends.elim

/-- What is announced is the limit as it is in force. -/
theorem Faces.announceStreamData (h : x.Faces params side y) (id : StreamId) :
    (x.announceStreamData id).Faces params side y := by
  rw [Node.announceStreamData]
  split
  · exact h
  · next half hhalf =>
    obtain ⟨st, hget, hrecv⟩ := Option.bind_eq_some_iff.1 hhalf
    have hview : x.streams.view.recv id = some half := by
      rw [StreamSet.view_recv_of_get? h.honest.setup.orderly hget, hrecv]
    refine h.tells rfl ⟨Nat.min_le_right _ _, fun half' hhalf' => ?_⟩ fun _ hends => hends.elim
    obtain rfl := Option.some.inj (hview.symm.trans hhalf')
    exact Nat.min_le_left _ _

/-! ## Messages arrive

A message that was said still holds when it arrives, so that it may be acted on at any
time and more than once. -/

theorem Faces.covers (h : x.Faces params side y) (hy : y.Honest params side.opposite) :
    Covers x.streams.view y.sent :=
  hy.sending.covers h.back

/-- What may come of an action: an error that accuses nobody, or an end that
faces the other one as before. -/
inductive Fair (params : Side → TransportParameters) (side : Side) (y : Node) :
    Except TransportError Node → Prop where
  /-- there is an error -/
  | refused {e : TransportError} : ¬ e.Accuses → Fair params side y (.error e)
  /-- the end has changed -/
  | moved {x : Node} : x.Faces params side y → Fair params side y (.ok x)

/-- What the other end has said accuses nobody, and leaves everything as it
should be. -/
theorem Faces.arrive (h : x.Faces params side y) (hy : y.Honest params side.opposite)
    (hm : m ∈ y.sent) : Fair params side y (x.arrive m) := by
  have hcovers := h.covers hy
  have horderly := h.honest.setup.orderly
  -- the message was said long ago, but it holds now
  have hholds := hy.holds m hm
  cases m with
  | data id offset payload fin =>
    obtain ⟨hid, hstop, hfin⟩ := hholds
    obtain ⟨hf, hdata⟩ := StreamSet.onStreamData_outcome horderly hid offset payload fin
    rw [Node.arrive]
    rcases hanswer : x.streams.onStreamData id offset payload fin with ⟨e | n, streams⟩
    · rw [hanswer] at hdata
      exact .refused (hdata.honest hcovers (hy.sending.accepted id) hstop hfin)
    · rw [hanswer] at hf hdata
      have hended (hisFin : fin = true) : acceptedOn id y.sent = offset + payload.length ∧
          Ended id y.sent :=
        ⟨hfin hisFin, _, hm, rfl, hisFin⟩
      exact .moved (h.receives hf hdata.sparesSend hdata.grows (hcovers.data hstop hended hdata))
  | reset id errorCode finalSize =>
    obtain ⟨hid, hsize⟩ := hholds
    obtain ⟨hf, hreset⟩ := StreamSet.onStreamReset_outcome horderly hid errorCode finalSize
    rw [Node.arrive]
    rcases hanswer : x.streams.onStreamReset id errorCode finalSize with ⟨e | n, streams⟩
    · rw [hanswer] at hreset
      exact .refused (hreset.honest hcovers hsize)
    · rw [hanswer] at hf hreset
      exact .moved (h.receives hf hreset.sparesSend hreset.grows (hcovers.peerReset hsize hreset))
  | stop id errorCode =>
    obtain ⟨hf, hstop⟩ := StreamSet.onStopSending_outcome horderly hholds errorCode
    have hmoved := h.sends hf hstop.heeds hstop.sparesRecv
    rw [Node.arrive]
    rcases hanswer : x.streams.onStopSending id errorCode with ⟨e | abandoned, streams⟩
    · rw [hanswer] at hstop
      exact .refused hstop.honest
    rw [hanswer] at hstop hmoved
    cases abandoned with
    | false => exact .moved hmoved
    | true =>
      refine .moved (hmoved.tells rfl ⟨hholds, rfl⟩ ?_)
      rintro id rfl
      exact hstop.ends.2.shut
  | maxData limit =>
    obtain ⟨hf, hraise⟩ := StreamSet.onMaxData_outcome horderly limit
    exact .moved (h.sends hf (hraise.heeds hholds) hraise.sparesRecv)
  | maxStreamData id limit =>
    obtain ⟨hf, hraise⟩ := StreamSet.onMaxStreamData_outcome horderly id limit
    exact .moved (h.sends hf (hraise.heeds hholds.1 hholds.2) hraise.sparesRecv)

end

end Node

namespace Link

open Node

/-! ## Runs

Both ends keep the invariants in any order of actions and deliveries. -/

/-- What the two ends keep. -/
def Honest (params : Side → TransportParameters) (l : Link) : Prop :=
  ∀ side, (l side).Faces params side (l side.opposite)

section

variable {params : Side → TransportParameters} {l : Link} {side : Side}

/-- An end changes, and faces the other end as before. -/
theorem Honest.update (h : l.Honest params) {n : Node}
    (hn : n.Faces params side (l side.opposite)) : Honest params (Function.update l side n) := by
  intro side'
  by_cases heq : side' = side
  · subst heq
    rw [Function.update_self, Function.update_of_ne side'.opposite_ne]
    exact hn
  · have hopposite : side' = side.opposite := by
      cases side <;> cases side' <;> first | rfl | exact absurd rfl heq
    subst hopposite
    rw [Side.opposite_opposite, Function.update_self, Function.update_of_ne side.opposite_ne]
    exact ⟨(h side.opposite).honest, hn.back, hn.ahead⟩

/-- One action: only what arrives is answered with an error, and that accuses
nobody. -/
theorem Honest.act (h : l.Honest params) (hparams : ∀ side, (params side).CreditFits)
    (side : Side) (action : Action) : Fair params side (l side.opposite) (l.act side action) := by
  have hx := h side
  have hy := (h side.opposite).honest
  have horderly := hx.honest.setup.orderly
  -- what is delivered was said by the other end and is judged by that end's limits; all
  -- else is the end's own
  cases action with
  | deliver index =>
    rw [Link.act]
    split
    · exact .moved hx
    · next m hm => exact hx.arrive hy (List.mem_of_getElem? hm)
  | handshake => exact .moved (hx.handshake hy (hparams side.opposite))
  | openStream d =>
    have hopens := StreamSet.opens_openStream horderly d
    exact .moved (hx.keeps hopens.follows hopens.view)
  | write id data fin => exact .moved (hx.write id data fin)
  | read id maxLen => exact .moved (hx.read (hx.covers hy) id maxLen)
  | resetStream id errorCode => exact .moved (hx.resetStream id errorCode)
  | stopSending id errorCode => exact .moved (hx.stopSending (hx.covers hy) id errorCode)
  | announceData => exact .moved hx.announceData
  | announceStreamData id => exact .moved (hx.announceStreamData id)
  | maxStreams d n =>
    obtain ⟨hf, hview⟩ := StreamSet.onMaxStreams_outcome horderly d n
    exact .moved (hx.keeps hf hview)
  | acknowledged id n =>
    obtain ⟨hf, hacked⟩ := StreamSet.onStreamAcked_outcome horderly id n
    exact .moved (hx.sends hf hacked.heeds hacked.sparesRecv)

/-- A run that begins honestly ends with no accusation. -/
theorem Honest.run (h : l.Honest params) (hparams : ∀ side, (params side).CreditFits)
    {actions : List (Side × Action)} {e : TransportError} (hrun : l.run actions = .error e) :
    ¬ e.Accuses := by
  induction actions generalizing l with
  | nil => cases hrun
  | cons entry rest ih =>
    obtain ⟨side, action⟩ := entry
    have hfair := h.act hparams side action
    rw [Link.run, Link.step] at hrun
    generalize l.act side action = answer at hfair hrun
    cases hfair with
    | refused he =>
      obtain rfl := Except.error.inj hrun
      exact he
    | moved hn => exact ih (h.update hn) hrun

end

/-! ## The beginning

Before the handshake no end has granted or said anything. -/

/-- Nothing was sent at the beginning. -/
theorem sending_begin (params : Side → TransportParameters) (side : Side) :
    Sending (begin params side).streams.view [] where
  consumed id h hh := by
    rw [StreamSet.eq_of_view_send_new hh]
    rfl
  within id h hh := by
    rw [StreamSet.eq_of_view_send_new hh]
    exact ⟨Nat.le_refl _, Nat.zero_le _⟩
  accepted _ := Nat.zero_le _
  consumedAll := rfl
  withinAll := Nat.le_refl _
  shut id hended := by
    obtain ⟨m, hm, -⟩ := hended
    cases hm

/-- Both sides begin with the limits of each other's parameters, which are zero until the
handshake. -/
theorem feeds_begin (params : Side → TransportParameters) (side : Side) :
    Feeds (begin params side).streams.view (begin params side.opposite).streams.view [] where
  limit id h hh := by
    rw [StreamSet.eq_of_view_send_new hh]
    exact fun _ _ => Nat.zero_le _
  limitAll := Nat.zero_le _
  stream _ _ _ := Nat.zero_le _
  counted := by
    refine ⟨0, fun _ => Nat.le_refl _, fun _ => rfl, fun id h hh => ?_⟩
    rw [StreamSet.eq_of_view_recv_new hh]
    exact ⟨rfl, nofun⟩

/-- Both sides are honest at the beginning. -/
theorem honest_begin (params : Side → TransportParameters) : Honest params (begin params) := by
  intro side
  have hback := feeds_begin params side.opposite
  rw [Side.opposite_opposite] at hback
  refine ⟨⟨⟨StreamSet.orderly_new side _, rfl, rfl, .inl rfl, rfl⟩, fun id h hh => ?_,
    Nat.le_refl _, sending_begin params side, nofun⟩, feeds_begin params side, hback⟩
  rw [StreamSet.eq_of_view_recv_new hh]
  exact Nat.le_refl _

/-! ## No accusation

Whatever may arrive is refused without accusing anybody, if it is refused at all. -/

/-- **Nobody is accused.** However two ends act, and whatever of what they say arrives,
in whatever order, the first error that either end answers with accuses nobody. -/
theorem not_accused (params : Side → TransportParameters)
    (hparams : ∀ side, (params side).CreditFits) (actions : List (Side × Action)) :
    (begin params).run actions ≠ .error (.violation .flowControlError) ∧
      (begin params).run actions ≠ .error (.violation .finalSizeError) := by
  have hrun {e : TransportError} (he : (begin params).run actions = .error e) : ¬ e.Accuses :=
    (honest_begin params).run hparams he
  exact ⟨fun h => hrun h (.inl rfl), fun h => hrun h (.inr rfl)⟩

/-- Parameters that grant four bytes. -/
def fourBytes : TransportParameters where
  initialMaxData := 4
  initialMaxStreamDataBidiLocal := 4
  initialMaxStreamDataBidiRemote := 4
  initialMaxStreamDataUni := 4

/-- More is written than is granted, what was said arrives twice, and the stream
is abandoned before the rest of its data arrives. -/
def crowded : List (Side × Action) :=
  [(.client, .handshake), (.server, .handshake), (.client, .openStream .bidi),
    (.client, .write ⟨0⟩ [1, 2, 3, 4, 5, 6] true), (.server, .deliver 0), (.server, .deliver 0),
    (.server, .read ⟨0⟩ 3), (.server, .announceData), (.server, .announceStreamData ⟨0⟩),
    (.client, .deliver 1), (.client, .deliver 0), (.client, .write ⟨0⟩ [5, 6] false),
    (.client, .resetStream ⟨0⟩ 7), (.server, .deliver 2), (.server, .deliver 1),
    (.server, .deliver 2)]

theorem not_accused_crowded :
    let r := (begin fun _ => fourBytes).run crowded
    fourBytes.CreditFits ∧ r.isOk = true ∧ r ≠ .error (.violation .flowControlError) ∧
      r ≠ .error (.violation .finalSizeError) := by
  have hfits : fourBytes.CreditFits := ⟨by decide, by decide, by decide⟩
  exact ⟨hfits, by decide, not_accused (fun _ => fourBytes) (fun _ => hfits) crowded⟩

end Link

end QuicHost
