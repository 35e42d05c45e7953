import QuicHost.Proofs.Stream.Outcome

/-!
# Halves that have come to an end

A sending half is shut by the end of its stream, by being abandoned, or by being
gone; it has ended when nothing is to be acknowledged any more either. What the
two have in common is said by `SendState.Lasting`, and from it alone follows that
no operation takes them back (`*.lasts`). So whatever was accepted on a half by
the time it is shut is all that ever will be, and a half that has ended is not
abandoned again.

Neither does a receiving half come back once it has ended (`*.recvEnded`).
-/

namespace QuicHost

/-- A property of sending halves that comes with being abandoned and with the
last acknowledgement, and that no half has which accepts data. -/
structure SendState.Lasting (P : SendState → Prop) : Prop where
  resetSent : P .resetSent
  dataRecvd : P .dataRecvd
  /-- it is no property of halves that data can still be added to -/
  not_writable : ∀ {s}, P s → s.isWritable = false

theorem SendState.lasting_shut : Lasting (·.isWritable = false) := ⟨rfl, rfl, id⟩

/-- That a half has ended lasts. -/
theorem SendState.lasting_ended : Lasting (·.isTerminal = true) where
  resetSent := rfl
  dataRecvd := rfl
  not_writable {s} hend := by
    rw [← Bool.not_eq_true]
    intro hwritable
    rw [isTerminal_eq_false_of_isWritable hwritable] at hend
    cases hend

/-- What lasts comes through an acknowledgement, which at most ends the half. -/
theorem SendState.Lasting.acknowledge {P : SendState → Prop} (hP : Lasting P) {h : SendHalf}
    (n : Nat) (hh : P h.state) : P (h.acknowledge n).state := by
  rw [SendHalf.acknowledge]
  dsimp only
  split
  · exact hP.dataRecvd
  · exact hh

namespace View

/-- Whether the sending half of a stream, unless it is gone, has a property. -/
def SendIs (v : View) (P : SendState → Prop) (id : StreamId) : Prop :=
  ∀ h, v.send id = some h → P h.state

/-- Whether nothing more is accepted on a stream. -/
def Shut (v : View) (id : StreamId) : Prop := ∀ h, v.send id = some h → h.state.isWritable = false

/-- Whether the sending half of a stream has ended. -/
def SendEnded (v : View) (id : StreamId) : Prop := v.SendIs (·.isTerminal = true) id

/-- Whether the receiving half of a stream has ended. -/
def RecvEnded (v : View) (id : StreamId) : Prop :=
  ∀ h, v.recv id = some h → h.state.isTerminal = true

variable {v v' : View} {P : SendState → Prop} {id id' : StreamId}

theorem SendEnded.shut (h : v.SendEnded id) : v.Shut id := by
  intro half hhalf
  exact SendState.lasting_ended.not_writable (h half hhalf)

/-! ## Sending halves

A property of states that comes with every end and is not lost again. Both that nothing is
accepted and that the half has ended are such properties, so every lemma here is about
both. -/

/-- Another half in place of one that had the property, which has it as well, or
of a half of another stream. -/
theorem SendIs.setSend {h : SendHalf} (hs : v.SendIs P id') (hh : v.SendIs P id → P h.state) :
    (v.setSend id h).SendIs P id' := by
  intro h' hh'
  rw [send_setSend] at hh'
  split at hh'
  · next heq =>
    obtain rfl := Option.some.inj hh'
    exact hh (heq ▸ hs)
  · exact hs h' hh'

theorem sendIs_setSend {h : SendHalf} (hh : P h.state) : (v.setSend id h).SendIs P id := by
  intro h' hh'
  rw [send_setSend, if_pos rfl] at hh'
  obtain rfl := Option.some.inj hh'
  exact hh

theorem SparesSend.lasts (h : v.SparesSend v') (hs : v.SendIs P id) : v'.SendIs P id := by
  intro half hhalf
  exact hs half (h.send_eq hhalf)

/-- A write is only accepted by halves without the property. -/
theorem Write.lasts (hP : SendState.Lasting P) {data : Bytes} {fin : Bool}
    {r : Except CallError WriteOutcome} (h : v.Write id data fin r v') (hs : v.SendIs P id') :
    v'.SendIs P id' := by
  cases h with
  | refused e => exact hs
  | accepted hsend hwritable _ =>
    refine hs.setSend fun hlast => ?_
    rw [hP.not_writable (hlast _ hsend)] at hwritable
    cases hwritable

/-- A write that is not refused accepts a first part of the data, and the end if
that is all. -/
theorem Write.outcome_eq {data : Bytes} {fin : Bool} {out : WriteOutcome}
    (h : v.Write id data fin (.ok out) v') :
    out = ⟨data.take out.accepted, fin && decide (out.accepted = data.length)⟩ := by
  cases h with
  | @accepted h n _ _ hn =>
    have hlength : (data.take n).length = n := by
      rw [List.length_take]
      omega
    rw [WriteOutcome.accepted, hlength]

/-- What was accepted was not shut. -/
theorem Write.not_shut {data : Bytes} {fin : Bool} {out : WriteOutcome}
    (h : v.Write id data fin (.ok out) v') : ¬ v.Shut id := by
  cases h with
  | accepted hsend hwritable _ =>
    intro hshut
    rw [hshut _ hsend] at hwritable
    cases hwritable

/-- Nothing more is accepted behind the end. -/
theorem Write.shut_of_fin {data : Bytes} {fin : Bool} {out : WriteOutcome}
    (h : v.Write id data fin (.ok out) v') (hfin : out.fin = true) : v'.Shut id := by
  cases h with
  | accepted _ _ _ =>
    dsimp only at hfin
    rw [hfin]
    exact sendIs_setSend (P := (·.isWritable = false)) rfl

theorem Reset.lasts (hP : SendState.Lasting P) {r : Except CallError Unit} (h : v.Reset id r v')
    (hs : v.SendIs P id') : v'.SendIs P id' := by
  cases h with
  | refused e => exact hs
  | abandoned _ _ hreaped => exact hreaped.sparesSend.lasts (hs.setSend fun _ => hP.resetSent)

/-- A half that is abandoned had not ended, and has now. -/
theorem Reset.ends (h : v.Reset id (.ok ()) v') : ¬ v.SendEnded id ∧ v'.SendEnded id := by
  cases h with
  | abandoned hsend hlive hreaped =>
    refine ⟨fun hend => ?_, hreaped.sparesSend.lasts (sendIs_setSend rfl)⟩
    rw [hend _ hsend] at hlive
    cases hlive

theorem PeerStop.lasts (hP : SendState.Lasting P) {r : Except TransportError Bool}
    (h : v.PeerStop id r v') (hs : v.SendIs P id') : v'.SendIs P id' := by
  cases h with
  | ignored => exact hs
  | refused _ => exact hs
  | abandoned _ _ hreaped => exact hreaped.sparesSend.lasts (hs.setSend fun _ => hP.resetSent)

theorem PeerStop.ends (h : v.PeerStop id (.ok true) v') : ¬ v.SendEnded id ∧ v'.SendEnded id := by
  cases h with
  | abandoned hsend hlive hreaped =>
    refine ⟨fun hend => ?_, hreaped.sparesSend.lasts (sendIs_setSend rfl)⟩
    rw [hend _ hsend] at hlive
    cases hlive

/-- A limit changes no state. -/
theorem Raise.lasts {limit : Nat} (h : v.Raise id limit v') (hs : v.SendIs P id') :
    v'.SendIs P id' := by
  cases h with
  | stale => exact hs
  | raised hsend _ =>
    refine hs.setSend fun hlast => ?_
    have hstate := hlast _ hsend
    exact hstate

theorem RaiseAll.lasts {limit : Nat} (h : v.RaiseAll limit v') (hs : v.SendIs P id) :
    v'.SendIs P id := by
  cases h <;> exact hs

/-- An acknowledgement keeps the property, also where it ends the half. -/
theorem Acked.lasts (hP : SendState.Lasting P) {n : Nat} (h : v.Acked id n v')
    (hs : v.SendIs P id') : v'.SendIs P id' := by
  cases h with
  | ignored => exact hs
  | counted hsend hreaped =>
    exact hreaped.sparesSend.lasts (hs.setSend fun hlast => hP.acknowledge n (hlast _ hsend))

theorem Handshake.lasts (h : v.Handshake v') (hs : v.SendIs P id) : v'.SendIs P id := by
  intro half hhalf
  obtain ⟨limit, hsend⟩ := h.send id
  rw [hsend, Option.map_eq_some_iff] at hhalf
  obtain ⟨half', hhalf', rfl⟩ := hhalf
  exact hs half' hhalf'

/-! ## Receiving halves

A receiving half that has ended stays so, whatever is read or arrives. A half that was
stopped counts as ended, although the peer may still settle its size. -/

/-- Another half in place of one, which has ended if that one had. -/
theorem RecvEnded.setRecv {h : RecvHalf} (hs : v.RecvEnded id')
    (hh : v.RecvEnded id → h.state.isTerminal = true) : (v.setRecv id h).RecvEnded id' := by
  intro h' hh'
  rw [recv_setRecv] at hh'
  split at hh'
  · next heq =>
    obtain rfl := Option.some.inj hh'
    exact hh (heq ▸ hs)
  · exact hs h' hh'

theorem SparesRecv.recvEnded (h : v.SparesRecv v') (hs : v.RecvEnded id) : v'.RecvEnded id := by
  intro half hhalf
  exact hs half (h.recv_eq hhalf)

theorem isTerminal_take {h : RecvHalf} (hend : h.state.isTerminal = true) (n : Nat) :
    (h.take n).2.state.isTerminal = true := by
  simp only [RecvHalf.take]
  split
  · rfl
  · exact hend

/-- A half that has ended stays so when what is left is read. -/
theorem Read.recvEnded {frozen : Bool} {maxLen : Nat} {r : Except CallError ReadOutcome}
    (h : v.Read frozen id maxLen r v') (hs : v.RecvEnded id') : v'.RecvEnded id' := by
  cases h with
  | refused e => exact hs
  | left _ hrecv _ => exact hs.setRecv fun hend => isTerminal_take (hend _ hrecv) maxLen
  | taken _ hrecv hlive _ hreaped =>
    refine hreaped.sparesRecv.recvEnded (hs.setRecv fun hend => ?_)
    rw [hend _ hrecv] at hlive
    cases hlive

theorem Stop.recvEnded {r : Except CallError Nat} (h : v.Stop id r v') (hs : v.RecvEnded id') :
    v'.RecvEnded id' := by
  cases h with
  | refused e => exact hs
  | abandoned _ _ hreaped => exact hreaped.sparesRecv.recvEnded (hs.setRecv fun _ => rfl)

/-- A half that is abandoned had not ended, and has now. -/
theorem Stop.ends {n : Nat} (h : v.Stop id (.ok n) v') : ¬ v.RecvEnded id ∧ v'.RecvEnded id := by
  cases h with
  | abandoned hrecv hlive hreaped =>
    refine ⟨fun hend => ?_, hreaped.sparesRecv.recvEnded fun h' hh' => ?_⟩
    · rw [hend _ hrecv] at hlive
      cases hlive
    · change (v.setRecv id _).recv id = some h' at hh'
      rw [recv_setRecv, if_pos rfl] at hh'
      obtain rfl := Option.some.inj hh'
      rfl

/-- Counting changes no state. -/
theorem Count.recvEnded {h : RecvHalf} (hrecv : v.recv id = some h) {upTo : Nat}
    {r : Except TransportError RecvHalf} (hc : v.Count id h upTo r v') (hs : v.RecvEnded id') :
    v'.RecvEnded id' := by
  cases hc with
  | beyondStream _ => exact hs
  | beyondConnection _ _ => exact hs.setRecv fun hend => hend h hrecv
  | counted _ _ => exact hs.setRecv fun hend => hend h hrecv

/-- A stopped stream stays stopped. -/
theorem Settle.recvEnded {h : RecvHalf} (hrecv : v.recv id = some h) {upTo : Nat} {isFinal : Bool}
    {r : Except TransportError Nat} (hsettle : v.Settle id h upTo isFinal r v')
    (hs : v.RecvEnded id') : v'.RecvEnded id' := by
  cases hsettle with
  | misplaced _ _ => exact hs
  | overrun hcount => exact hcount.recvEnded hrecv hs
  | settled _ hcount hreaped =>
    refine hreaped.sparesRecv.recvEnded ((hcount.recvEnded hrecv hs).setRecv fun hend => ?_)
    cases hcount with
    | counted _ _ =>
      have hreached : (v.setRecv id (h.reach upTo)).recv id = some (h.reach upTo) := by
        rw [recv_setRecv, if_pos rfl]
      exact hend (h.reach upTo) hreached

/-- Data goes into no half that has ended. -/
theorem Data.recvEnded {frozen : Bool} {offset : Nat} {data : Bytes} {fin : Bool}
    {r : Except TransportError Nat} (h : v.Data frozen id offset data fin r v')
    (hs : v.RecvEnded id') : v'.RecvEnded id' := by
  cases h with
  | ignored _ => exact hs
  | refused _ _ => exact hs
  | unsized _ _ => exact hs
  | settled _ hrecv _ _ hsettle => exact hsettle.recvEnded hrecv hs
  | overrun hrecv hcount => exact hcount.recvEnded hrecv hs
  | misfit hrecv hcount _ _ => exact hcount.recvEnded hrecv hs
  | filled _ hrecv _ hlive hcount _ =>
    by_cases hid : id' = id
    · rw [hid] at hs
      rw [hs _ hrecv] at hlive
      cases hlive
    · have hcounted := hcount.recvEnded hrecv hs
      intro half hhalf
      rw [recv_setRecv, if_neg hid] at hhalf
      exact hcounted half hhalf

/-- The end of the peer's half is an end. -/
theorem PeerReset.recvEnded {frozen : Bool} {finalSize : Nat} {r : Except TransportError Nat}
    (h : v.PeerReset frozen id finalSize r v') (hs : v.RecvEnded id') : v'.RecvEnded id' := by
  cases h with
  | ignored _ => exact hs
  | refused _ _ => exact hs
  | settled _ hrecv _ hsettle => exact hsettle.recvEnded hrecv hs
  | misplaced _ _ => exact hs
  | overrun hrecv hcount => exact hcount.recvEnded hrecv hs
  | ended _ hrecv _ _ _ _ hcount hreaped =>
    exact hreaped.sparesRecv.recvEnded ((hcount.recvEnded hrecv hs).setRecv fun _ => rfl)

end View

end QuicHost
