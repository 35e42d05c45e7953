import QuicHost.Proofs.Link.Credit
import QuicHost.Proofs.Stream.Shut

/-!
# What a sending end has said

A sending end has accepted what it has said and no more than it was granted, and
nothing more is accepted on a stream whose end was said (`Sending`). What it
sends within, the receiving end has granted (`Feeds`): limits are announced late
and arrive later still, but grants are never taken back.

Two things happen on the sending side. Limits rise, to no more than what the
other end grants (`View.Heeds`), and both are kept whatever the new limits are.
Or data is written, which uses credit on both sides of the limits, of the stream
and of all streams (`Sending.written`, `Feeds.written`).
-/

namespace QuicHost

open Message

/-! ## What an end says

Messages, what they say of bytes and ends, and what they announce. What was said before an
action is a part of what is said after it. -/

namespace Message

/-- Whether a message carries data. -/
def isData : Message → Bool
  | data .. => true
  | _ => false

/-- Whether a message holds at the end that has said it: data lies within what
was accepted, an end is the end, and limits are granted. -/
def Holds (v : View) (log : List Message) : Message → Prop
  | data id offset payload fin => id.Fits ∧ offset + payload.length ≤ acceptedOn id log ∧
      (fin = true → acceptedOn id log = offset + payload.length)
  | reset id _ finalSize => id.Fits ∧ finalSize = acceptedOn id log
  | stop id _ => id.Fits
  | maxData limit => limit ≤ v.recvWindow.limit
  | maxStreamData id limit => limit ≤ maxWord ∧ v.Grants id limit

variable {v v' : View} {log : List Message} {m : Message}

theorem acceptedOn_concat (id : StreamId) (log : List Message) (m : Message) :
    acceptedOn id (log ++ [m]) = acceptedOn id log + m.bytesOn id := acceptedOn_append id log [m]

theorem acceptedAll_concat (log : List Message) (m : Message) :
    acceptedAll (log ++ [m]) = acceptedAll log + m.bytes := acceptedAll_append log [m]

theorem bytesOn_eq_zero (h : m.isData = false) (id : StreamId) : m.bytesOn id = 0 := by
  cases m with
  | data _ _ _ _ => cases h
  | _ => rfl

theorem bytes_eq_zero (h : m.isData = false) : m.bytes = 0 := by
  cases m with
  | data _ _ _ _ => cases h
  | _ => rfl

/-- A stream has ended if the last message ends it, or one before. -/
theorem ended_concat {id : StreamId} : Ended id (log ++ [m]) ↔ Ended id log ∨ m.Ends id := by
  simp only [Ended, List.mem_append, List.mem_singleton, or_and_right, exists_or, exists_eq_left]

theorem Holds.grows (h : m.Holds v log) (hg : v.Grows v') : m.Holds v' log := by
  cases m with
  | maxData limit => exact Nat.le_trans h hg.connection
  | maxStreamData id limit => exact ⟨h.1, hg.stream id limit h.2⟩
  | _ => exact h

/-- A message without data holds when it is said, if it held before. -/
theorem Holds.now (h : m.Holds v log) (hm : m.isData = false) : m.Holds v (log ++ [m]) := by
  cases m with
  | data => cases hm
  | reset id errorCode finalSize =>
    refine ⟨h.1, ?_⟩
    rw [acceptedOn_concat, bytesOn_eq_zero hm, Nat.add_zero]
    exact h.2
  | _ => exact h

/-- A message goes on to hold when more is said, as long as nothing more is
accepted on streams that have ended. -/
theorem Holds.said {m' : Message} (h : m.Holds v log) (hmem : m ∈ log)
    (hm' : ∀ id, Ended id log → m'.bytesOn id = 0) : m.Holds v (log ++ [m']) := by
  cases m with
  | data id offset payload fin =>
    obtain ⟨hfits, hle, hfin⟩ := h
    refine ⟨hfits, ?_, fun hisFin => ?_⟩
    · rw [acceptedOn_concat]
      omega
    · rw [acceptedOn_concat, hm' id ⟨_, hmem, rfl, hisFin⟩, Nat.add_zero]
      exact hfin hisFin
  | reset id errorCode finalSize =>
    refine ⟨h.1, ?_⟩
    rw [acceptedOn_concat, hm' id ⟨_, hmem, rfl⟩, Nat.add_zero]
    exact h.2
  | _ => exact h

/-- Everything goes on to hold, and so does what is said now. -/
theorem holds_concat {m' : Message} (h : ∀ m ∈ log, m.Holds v log)
    (hm' : ∀ id, Ended id log → m'.bytesOn id = 0) (hholds : m'.Holds v (log ++ [m'])) :
    ∀ m ∈ log ++ [m'], m.Holds v (log ++ [m']) := by
  intro m hm
  rcases List.mem_append.1 hm with hold | hnew
  · exact (h m hold).said hold hm'
  · obtain rfl := List.mem_singleton.1 hnew
    exact hholds

end Message

/-- What was accepted was said, within the limits; and streams whose end was
said are shut. -/
structure Sending (v : View) (log : List Message) : Prop where
  /-- what a stream was charged for was said -/
  consumed : ∀ id h, v.send id = some h → h.window.consumed = acceptedOn id log
  /-- the limit of a stream is kept -/
  within : ∀ id h, v.send id = some h → h.window.consumed ≤ h.window.limit ∧
    h.window.limit ≤ maxWord
  /-- no more can be said of a stream than a word holds -/
  accepted : ∀ id, acceptedOn id log ≤ maxWord
  /-- what the connection was charged for was said -/
  consumedAll : v.sendWindow.consumed = acceptedAll log
  /-- the limit of the connection is kept -/
  withinAll : v.sendWindow.consumed ≤ v.sendWindow.limit
  /-- behind the end of a stream nothing is said -/
  shut : ∀ id, Ended id log → v.Shut id

/-- What one end sends with, the other has granted; and what the one has said,
the other has granted and counts. -/
structure Feeds (s r : View) (log : List Message) : Prop where
  /-- the limit that a stream sends by is granted -/
  limit : ∀ id h, s.send id = some h → r.Grants id h.window.limit
  /-- and so is that of the connection -/
  limitAll : s.sendWindow.limit ≤ r.recvWindow.limit
  /-- what was said is granted -/
  stream : ∀ id, r.Grants id (acceptedOn id log)
  /-- and what the other end counts was said -/
  counted : Counted r log

/-- The sending halves go on, and their limits rise to no more than what the
other end `r` grants. -/
structure View.Heeds (r s s' : View) : Prop where
  /-- the limit of a stream rises to one that is granted -/
  send : ∀ id h', s'.send id = some h' → ∃ h, s.send id = some h ∧
    (h'.window = h.window ∨ ∃ limit, limit ≤ maxWord ∧ r.Grants id limit ∧
      h'.window = h.window.extend limit)
  /-- and so does that of the connection -/
  sendWindow : s'.sendWindow = s.sendWindow ∨
    ∃ limit, limit ≤ r.recvWindow.limit ∧ s'.sendWindow = s.sendWindow.extend limit
  /-- what is shut stays so -/
  shut : ∀ id, s.Shut id → s'.Shut id

namespace View

variable {r s s' s'' : View} {id : StreamId}

theorem heeds_of_eq (hsend : s'.send = s.send) (hwindow : s'.sendWindow = s.sendWindow) :
    Heeds r s s' where
  send _ h' hh' := ⟨h', hsend ▸ hh', .inl rfl⟩
  sendWindow := .inl hwindow
  shut _ hshut h' hh' := hshut h' (hsend ▸ hh')

/-- A sending half changes, and its limit rises, if at all, to what is granted. -/
theorem heeds_setSend {h h' : SendHalf} (hsend : s.send id = some h)
    (hwindow : h'.window = h.window ∨ ∃ limit, limit ≤ maxWord ∧ r.Grants id limit ∧
      h'.window = h.window.extend limit)
    (hshut : h.state.isWritable = false → h'.state.isWritable = false) :
    Heeds r s (s.setSend id h') where
  send id' half hhalf := by
    rw [send_setSend] at hhalf
    split at hhalf
    · next heq =>
      subst heq
      obtain rfl := Option.some.inj hhalf
      exact ⟨h, hsend, hwindow⟩
    · exact ⟨half, hhalf, .inl rfl⟩
  sendWindow := .inl rfl
  shut id' hs := View.SendIs.setSend (P := (·.isWritable = false)) hs fun hs => hshut (hs h hsend)

theorem Heeds.spares (hh : Heeds r s s') (hs : s'.SparesSend s'') : Heeds r s s'' where
  send id h' hsend := hh.send id h' (hs.send_eq hsend)
  sendWindow := by
    rw [hs.sendWindow]
    exact hh.sendWindow
  shut id hshut := hs.lasts (P := (·.isWritable = false)) (hh.shut id hshut)

theorem SparesSend.heeds (h : s.SparesSend s') : Heeds r s s' := (heeds_of_eq rfl rfl).spares h

theorem Reset.heeds {result : Except CallError Unit} (h : s.Reset id result s') : Heeds r s s' := by
  cases h with
  | refused e => exact heeds_of_eq rfl rfl
  | @abandoned h _ hsend _ hreaped =>
    have hset : Heeds r s (s.setSend id h.abandon) := heeds_setSend hsend (.inl rfl) fun _ => rfl
    exact hset.spares hreaped.sparesSend

/-- That the peer wants no more raises no limit. -/
theorem PeerStop.heeds {result : Except TransportError Bool} (h : s.PeerStop id result s') :
    Heeds r s s' := by
  cases h with
  | ignored => exact heeds_of_eq rfl rfl
  | refused _ => exact heeds_of_eq rfl rfl
  | @abandoned h _ hsend _ hreaped =>
    have hset : Heeds r s (s.setSend id h.abandon) := heeds_setSend hsend (.inl rfl) fun _ => rfl
    exact hset.spares hreaped.sparesSend

/-- An acknowledgement raises no limit. -/
theorem Acked.heeds {n : Nat} (h : s.Acked id n s') : Heeds r s s' := by
  cases h with
  | ignored => exact heeds_of_eq rfl rfl
  | @counted h _ hsend hreaped =>
    have hset : Heeds r s (s.setSend id (h.acknowledge n)) :=
      heeds_setSend hsend (.inl rfl) (SendState.lasting_shut.acknowledge n)
    exact hset.spares hreaped.sparesSend

theorem Raise.heeds {limit : Nat} (h : s.Raise id limit s') (hword : limit ≤ maxWord)
    (hgrants : r.Grants id limit) : Heeds r s s' := by
  cases h with
  | stale => exact heeds_of_eq rfl rfl
  | raised hsend _ =>
    exact heeds_setSend hsend (.inr ⟨limit, hword, hgrants, rfl⟩) fun hshut => hshut

/-- A limit for the connection is heeded if it was granted. -/
theorem RaiseAll.heeds {limit : Nat} (h : s.RaiseAll limit s')
    (hgrants : limit ≤ r.recvWindow.limit) : Heeds r s s' := by
  cases h with
  | stale => exact heeds_of_eq rfl rfl
  | raised =>
    exact ⟨fun _ h' hsend =>
      ⟨h', hsend, .inl rfl⟩, .inr ⟨limit, hgrants, rfl⟩, fun _ hshut => hshut⟩

end View

section

variable {s s' r r' : View} {log : List Message} {m : Message}

/-- What was sent was within the limits at the time, and limits are never taken back. -/
theorem Sending.covers (hs : Sending s log) (hf : Feeds s r log) : Covers r log :=
  ⟨hf.stream, by rw [← hs.consumedAll]; exact Nat.le_trans hs.withinAll hf.limitAll, hf.counted⟩

/-! ## Limits rise

A sending end whose limits were raised still sends within them, and within what was
granted if the raise was. -/

/-- Raised limits leave what was sent within them. -/
theorem Sending.heeds (hs : Sending s log) (hh : View.Heeds r s s') : Sending s' log where
  consumed id h' hsend := by
    obtain ⟨h, hold, hsame | ⟨limit, -, -, hraised⟩⟩ := hh.send id h' hsend
    · rw [hsame]
      exact hs.consumed id h hold
    · rw [hraised]
      exact hs.consumed id h hold
  within id h' hsend := by
    obtain ⟨h, hold, hsame | ⟨limit, hword, -, hraised⟩⟩ := hh.send id h' hsend
    · rw [hsame]
      exact hs.within id h hold
    · obtain ⟨hle, hword'⟩ := hs.within id h hold
      rw [hraised, SendWindow.consumed_extend, SendWindow.limit_extend]
      exact ⟨Nat.le_trans hle (Nat.le_max_left _ _), Nat.max_le.2 ⟨hword', hword⟩⟩
  accepted := hs.accepted
  consumedAll := by
    rcases hh.sendWindow with hsame | ⟨limit, -, hraised⟩
    · rw [hsame, hs.consumedAll]
    · rw [hraised, SendWindow.consumed_extend, hs.consumedAll]
  withinAll := by
    rcases hh.sendWindow with hsame | ⟨limit, -, hraised⟩
    · rw [hsame]
      exact hs.withinAll
    · rw [hraised, SendWindow.consumed_extend, SendWindow.limit_extend]
      exact Nat.le_trans hs.withinAll (Nat.le_max_left _ _)
  shut id hended := hh.shut id (hs.shut id hended)

/-- Limits that were raised as granted are still within what is granted. -/
theorem Feeds.heeds (hf : Feeds s r log) (hh : View.Heeds r s s') : Feeds s' r log where
  limit id h' hsend := by
    obtain ⟨h, hold, hsame | ⟨limit, -, hgrants, hraised⟩⟩ := hh.send id h' hsend
    · rw [hsame]
      exact hf.limit id h hold
    · intro half hhalf
      rw [hraised, SendWindow.limit_extend]
      exact Nat.max_le.2 ⟨hf.limit id h hold half hhalf, hgrants half hhalf⟩
  limitAll := by
    rcases hh.sendWindow with hsame | ⟨limit, hgrants, hraised⟩
    · rw [hsame]
      exact hf.limitAll
    · rw [hraised, SendWindow.limit_extend]
      exact Nat.max_le.2 ⟨hf.limitAll, hgrants⟩
  stream := hf.stream
  counted := hf.counted

/-! ## The other end receives

Whatever the receiver does, its grants grow, and what it counts was said. -/

theorem Feeds.receives (hf : Feeds s r log) (hg : r.Grows r') (hc : Counted r' log) :
    Feeds s r' log where
  limit id h hsend := hg.stream id _ (hf.limit id h hsend)
  limitAll := Nat.le_trans hf.limitAll hg.connection
  stream id := hg.stream id _ (hf.stream id)
  counted := hc

/-! ## More is said

Messages that carry no data add nothing that would have to be covered. -/

/-- Something is said that carries no data. -/
theorem Sending.said (hs : Sending s log) (hm : m.isData = false)
    (hends : ∀ id, m.Ends id → s.Shut id) : Sending s (log ++ [m]) where
  consumed id h hsend := by
    rw [acceptedOn_concat, bytesOn_eq_zero hm]
    exact hs.consumed id h hsend
  within := hs.within
  accepted id := by
    rw [acceptedOn_concat, bytesOn_eq_zero hm]
    exact hs.accepted id
  consumedAll := by
    rw [acceptedAll_concat, bytes_eq_zero hm]
    exact hs.consumedAll
  withinAll := hs.withinAll
  shut id hended := (ended_concat.1 hended).elim (hs.shut id) (hends id)

/-- A message without data is nothing to be covered. -/
theorem Feeds.said (hf : Feeds s r log) (hm : m.isData = false) : Feeds s r (log ++ [m]) where
  limit := hf.limit
  limitAll := hf.limitAll
  stream id := by
    rw [acceptedOn_concat, bytesOn_eq_zero hm]
    exact hf.stream id
  counted := hf.counted.said fun id _ => bytesOn_eq_zero hm id

end

/-! ## Data is said

A write that was accepted becomes a message. It is within both limits of the sender, and
hence within what the receiver has granted. -/

theorem View.Write.eq_of_refused {v v' : View} {id : StreamId} {data : Bytes} {fin : Bool}
    {e : CallError} (hw : v.Write id data fin (.error e) v') : v' = v := by
  cases hw
  rfl

/-- What a write that is not refused does to the windows: both are used by what
was accepted, within their credit. -/
theorem View.Write.windows {v v' : View} {id : StreamId} {data : Bytes} {fin : Bool}
    {out : WriteOutcome} (hw : v.Write id data fin (.ok out) v') :
    ∃ h, v.send id = some h ∧ out.accepted ≤ h.window.credit ∧ out.accepted ≤ v.sendWindow.credit ∧
      v'.sendWindow = { v.sendWindow with consumed := v.sendWindow.consumed + out.accepted } ∧
      ∀ id' h', v'.send id' = some h' →
        if id' = id then h'.window = { h.window with consumed := h.window.consumed + out.accepted }
        else v.send id' = some h' := by
  cases hw with
  | @accepted h n hsend _ hn =>
    have hlength : (data.take n).length = n := by
      rw [List.length_take]
      omega
    have hstream : n ≤ h.window.credit := by omega
    have hconnection : n ≤ v.sendWindow.credit := by omega
    rw [WriteOutcome.accepted, hlength]
    refine ⟨h, hsend, hstream, hconnection, ?_, fun id' h' hsend' => ?_⟩
    · rw [SendWindow.reserve, SendWindow.granted, Nat.min_eq_left hconnection]
    · change (v.setSend id _).send id' = some h' at hsend'
      rw [View.send_setSend] at hsend'
      split
      · next heq =>
        rw [if_pos heq] at hsend'
        obtain rfl := Option.some.inj hsend'
        rw [SendHalf.accept]
        dsimp only
        rw [SendWindow.reserve, SendWindow.granted, Nat.min_eq_left hstream]
      · next hne =>
        rw [if_neg hne] at hsend'
        exact hsend'

/-- The message that says what a write accepted. -/
def Message.ofWrite (id : StreamId) (log : List Message) (out : WriteOutcome) : Message :=
  Message.data id (acceptedOn id log) out.chunk out.fin

theorem bytesOn_ofWrite (id id' : StreamId) (log : List Message) (out : WriteOutcome) :
    (ofWrite id log out).bytesOn id' = if id = id' then out.accepted else 0 := rfl

section

variable {s s' r : View} {log : List Message} {id : StreamId} {data : Bytes} {fin : Bool}
  {out : WriteOutcome}

/-- Nothing is accepted on streams that have ended. -/
theorem Sending.bytesOn_eq_zero (hs : Sending s log) (hw : s.Write id data fin (.ok out) s')
    {id' : StreamId} (hended : Ended id' log) : (ofWrite id log out).bytesOn id' = 0 := by
  rw [bytesOn_ofWrite, if_neg]
  rintro rfl
  exact hw.not_shut (hs.shut id hended)

/-- What is written is added to what was sent, within both limits. -/
theorem Sending.written (hs : Sending s log) (hw : s.Write id data fin (.ok out) s') :
    Sending s' (log ++ [ofWrite id log out]) := by
  obtain ⟨h, hsend, hcredit, hcreditAll, hwindow, hhalf⟩ := hw.windows
  have hconsumed := hs.consumed id h hsend
  obtain ⟨hle, hword⟩ := hs.within id h hsend
  -- both windows had room for what was accepted
  have hroom : h.window.consumed + out.accepted ≤ h.window.limit := by
    rw [SendWindow.credit] at hcredit
    omega
  have hroomAll : s.sendWindow.consumed + out.accepted ≤ s.sendWindow.limit := by
    have := hs.withinAll
    rw [SendWindow.credit] at hcreditAll
    omega
  have haccepted (id' : StreamId) : acceptedOn id' (log ++ [ofWrite id log out]) =
      acceptedOn id' log + if id = id' then out.accepted else 0 := acceptedOn_concat id' log _
  refine ⟨fun id' h' hsend' => ?_, fun id' h' hsend' => ?_, fun id' =>
    ?_, ?_, ?_, fun id' hended => ?_⟩
  · have hself := hhalf id' h' hsend'
    rw [haccepted]
    split at hself
    · next heq =>
      subst heq
      rw [hself, if_pos rfl, ← hconsumed]
    · next hne =>
      rw [if_neg (Ne.symm hne), Nat.add_zero]
      exact hs.consumed id' h' hself
  · have hself := hhalf id' h' hsend'
    split at hself
    · rw [hself]
      exact ⟨hroom, hword⟩
    · exact hs.within id' h' hself
  · rw [haccepted]
    split
    · next heq =>
      subst heq
      omega
    · exact hs.accepted id'
  · rw [hwindow, acceptedAll_concat, ← hs.consumedAll]
    rfl
  · rw [hwindow]
    exact hroomAll
  · rcases ended_concat.1 hended with hended | ⟨rfl, hfin⟩
    · exact hw.lasts SendState.lasting_shut (hs.shut id' hended)
    · exact hw.shut_of_fin hfin

/-- What is written is within what the receiver has granted, since the limits of the sender
are. -/
theorem Feeds.written (hs : Sending s log) (hf : Feeds s r log)
    (hw : s.Write id data fin (.ok out) s') : Feeds s' r (log ++ [ofWrite id log out]) := by
  have hs' := hs.written hw
  obtain ⟨h, hsend, -, -, hwindow, hhalf⟩ := hw.windows
  have hlimit : ∀ id' h', s'.send id' = some h' → r.Grants id' h'.window.limit := by
    intro id' h' hsend'
    have hself := hhalf id' h' hsend'
    split at hself
    · next heq =>
      subst heq
      rw [hself]
      exact hf.limit id' h hsend
    · exact hf.limit id' h' hself
  refine ⟨hlimit, ?_, fun id' => ?_, hf.counted.said fun id' hended => hs.bytesOn_eq_zero hw hended⟩
  · rw [hwindow]
    exact hf.limitAll
  · by_cases heq : id = id'
    · subst heq
      -- the stream was written on, so its half is there, and it has used no more than its limit
      obtain ⟨h', hsend'⟩ : ∃ h', s'.send id = some h' := by
        cases hw with
        | accepted _ _ _ => exact ⟨_, by rw [View.send_setSend, if_pos rfl]⟩
      rw [← hs'.consumed id h' hsend']
      exact (hlimit id h' hsend').mono (hs'.within id h' hsend').1
    · rw [acceptedOn_concat, bytesOn_ofWrite, if_neg heq, Nat.add_zero]
      exact hf.stream id'

/-- The message holds. -/
theorem holds_ofWrite (hid : id.Fits) (v : View) :
    (ofWrite id log out).Holds v (log ++ [ofWrite id log out]) := by
  have haccepted : acceptedOn id (log ++ [ofWrite id log out]) = acceptedOn id log +
      out.chunk.length := by
    rw [acceptedOn_concat, bytesOn_ofWrite, if_pos rfl]
    rfl
  exact ⟨hid, Nat.le_of_eq haccepted.symm, fun _ => haccepted⟩

end

end QuicHost
