import QuicHost.Proofs.Stream.Parking

/-!
# What a write will come to

An application may ask how much it could write, and then write. The two calls decide
for themselves, one looking at what is asked for and the other not, and they agree
(`capacity_predicts_write`): both are refused for the same reason (`Barred`), or the
write takes from its data as much as there is capacity for, and no more happens than
this (`Draws`). Only a write for which no byte of capacity is left fails although the
capacity could be told.
-/

namespace QuicHost.StreamSet

section

variable {s s' : StreamSet} {id : StreamId} {data : Bytes} {fin : Bool} {e : CallError} {c : Nat}

/-! ## Who may write

The reasons that bar a write, in the order in which they are looked at. The capacity asks
in the same order, so both are refused for the same reason. -/

/-- Why nothing can be written on a stream, whatever is to be written. -/
inductive Barred (s : StreamSet) (id : StreamId) : CallError → Prop where
  /-- everything but reading has stopped -/
  | frozen : s.frozen = true → Barred s id .connectionClosed
  /-- the stream is over -/
  | gone : s.frozen = false → s.streams.get? id = none → s.Used id → Barred s id .streamClosed
  /-- there never was such a stream -/
  | unknown : s.frozen = false → s.streams.get? id = none → ¬ s.Used id →
    Barred s id .streamNotFound
  /-- only the peer sends on the stream -/
  | receiving {st : Stream} : s.frozen = false → s.streams.get? id = some st → st.send = none →
    Barred s id .invalidInput
  /-- the end was accepted, or the half was abandoned -/
  | ended {st : Stream} {h : SendHalf} : s.frozen = false → s.streams.get? id = some st →
    st.send = some h → h.state.isWritable = false → Barred s id .streamClosed

/-- Why a stream cannot be written to, in the order in which the reasons are looked at. -/
theorem writableHalf_eq_error_iff : s.writableHalf id = .error e ↔ s.Barred id e := by
  constructor
  -- the checks in their order; each passed one is a premise of the reasons that come after
  -- it
  · intro hhalf
    rw [writableHalf] at hhalf
    split at hhalf
    · next hfrozen =>
      cases hhalf
      exact .frozen hfrozen
    next hfrozen =>
    rw [Bool.not_eq_true] at hfrozen
    split at hhalf
    · next hget =>
      rw [missing] at hhalf
      split at hhalf
      · next hused =>
        cases hhalf
        exact .gone hfrozen hget hused
      · next hused =>
        cases hhalf
        exact .unknown hfrozen hget hused
    next st hget =>
    split at hhalf
    · next hsend =>
      cases hhalf
      exact .receiving hfrozen hget hsend
    next h hsend =>
    split at hhalf
    · cases hhalf
    · next hended =>
      cases hhalf
      exact .ended hfrozen hget hsend (Bool.eq_false_iff.2 hended)
  · intro hbarred
    cases hbarred with
    | frozen hfrozen => rw [writableHalf, if_pos hfrozen]
    | gone hfrozen hget hused =>
      have hmissing : s.missing id = .streamClosed := if_pos hused
      simp only [writableHalf, hfrozen, Bool.false_eq_true, ↓reduceIte, hget, hmissing]
    | unknown hfrozen hget hused =>
      have hmissing : s.missing id = .streamNotFound := if_neg hused
      simp only [writableHalf, hfrozen, Bool.false_eq_true, ↓reduceIte, hget, hmissing]
    | receiving hfrozen hget hsend =>
      simp only [writableHalf, hfrozen, Bool.false_eq_true, ↓reduceIte, hget, hsend]
    | ended hfrozen hget hsend hended =>
      simp only [writableHalf, hfrozen, Bool.false_eq_true, ↓reduceIte, hget, hsend, hended]

/-- The capacity is refused for the same reasons. -/
theorem sendCapacity_eq_error_iff : s.sendCapacity id = .error e ↔ s.Barred id e := by
  rw [← writableHalf_eq_error_iff, sendCapacity]
  cases s.writableHalf id with
  | error e' =>
    change .error e' = (.error e : Except CallError Nat) ↔ _
    rw [Except.error.injEq, Except.error.injEq]
  | ok h => exact ⟨nofun, nofun⟩

/-- The capacity is the smaller of both credits. -/
theorem sendCapacity_eq_ok_iff :
    s.sendCapacity id = .ok c ↔ ∃ h, s.writableHalf id = .ok h ∧ s.creditFor h = c := by
  rw [sendCapacity]
  cases s.writableHalf id with
  | error e' => exact ⟨nofun, nofun⟩
  | ok h =>
    constructor
    · intro hc
      exact ⟨h, rfl, Except.ok.inj hc⟩
    · rintro ⟨h', heq, rfl⟩
      cases heq
      rfl

/-! ## What a write takes

A write that is not barred takes as many bytes as both credits allow. It is refused if
that is none although bytes were offered; otherwise it takes them, the end with the last,
and each credit loses as many. -/

/-- A write takes `out` from a capacity of `c` bytes, of which it leaves the rest.
The credit of the connection and that of the stream sink by the bytes accepted, and
no other stream is touched. -/
structure Draws (s : StreamSet) (id : StreamId) (data : Bytes) (fin : Bool) (c : Nat)
    (out : WriteOutcome) (s' : StreamSet) : Prop where
  accepted : out.accepted = min data.length c
  chunk : out.chunk = data.take (min data.length c)
  /-- the end is accepted together with the last byte -/
  fin : out.fin = true ↔ fin = true ∧ out.accepted = data.length
  connection : s'.sendWindow.credit + out.accepted = s.sendWindow.credit
  /-- the credit of the stream sinks by what was accepted -/
  stream : ∃ credit, s.streamCredit? id = some (credit + out.accepted) ∧
    s'.streamCredit? id = some credit
  /-- no other stream is touched -/
  others : ∀ id', id' ≠ id → s'.streams.get? id' = s.streams.get? id'
  /-- and what is left may be asked for again -/
  capacity : s'.sendCapacity id = if out.fin then .error .streamClosed else .ok (c - out.accepted)

theorem get?_setSend_of_ne (s : StreamSet) (h : SendHalf) {id' : StreamId} (hne : id' ≠ id) :
    (s.setSend id h).streams.get? id' = s.streams.get? id' :=
  (Table.get?_modify _ _ _ _).trans (if_neg hne)

theorem get?_park_of_ne (s : StreamSet) (h : SendHalf) {id' : StreamId} (hne : id' ≠ id) :
    (s.park id h).streams.get? id' = s.streams.get? id' := by
  rw [park]
  split
  · rfl
  · exact get?_setSend_of_ne s _ hne

/-- A write touches one stream only. -/
theorem get?_write_of_ne (s : StreamSet) (data : Bytes) (fin : Bool) {id' : StreamId}
    (hne : id' ≠ id) : (s.write id data fin).2.streams.get? id' = s.streams.get? id' := by
  rw [write]
  split
  · rfl
  next h _ =>
  have hparked (short : Prop) [Decidable short] :
      (if short then s.park id h else s).streams.get? id' = s.streams.get? id' := by
    split
    · exact get?_park_of_ne s h hne
    · rfl
  dsimp only
  split
  · exact hparked _
  · exact (get?_setSend_of_ne _ _ hne).trans (hparked _)

/-- What a write answers to whoever may write. -/
theorem answer_of_writableHalf {h : SendHalf} (hhalf : s.writableHalf id = .ok h) (data : Bytes)
    (fin : Bool) : (s.write id data fin).1 =
      if data ≠ [] ∧ s.creditFor h = 0 then .error .flowControlBlocked
      else .ok ⟨data.take (min data.length (s.creditFor h)),
        fin && !s.fallsShort h data.length⟩ := by
  have hshort : decide (min data.length (s.creditFor h) < data.length) =
      s.fallsShort h data.length := by
    rw [fallsShort, decide_eq_decide]
    omega
  have hnothing : (min data.length (s.creditFor h) < data.length ∧
      min data.length (s.creditFor h) = 0) ↔ data ≠ [] ∧ s.creditFor h = 0 := by
    rw [← List.length_pos_iff]
    omega
  rw [write, hhalf, ← hshort]
  dsimp only
  split
  · next hrefused => rw [if_pos (hnothing.1 hrefused)]
  · next haccepted => rw [if_neg (mt hnothing.2 haccepted)]

/-- What a write of whoever may write does to their half, and to the credit of the
connection. -/
theorem alters_write {h : SendHalf} (hhalf : s.writableHalf id = .ok h) (data : Bytes)
    (fin : Bool) : ∃ parked, s.Alters id
      ({ h with blocked := h.blocked || s.fallsShort h data.length }.accept
        (min data.length (s.creditFor h)) (fin && !s.fallsShort h data.length))
      parked (s.sendWindow.reserve (min data.length (s.creditFor h)))
      (s.write id data fin).2 := by
  obtain ⟨-, st, hget, hst⟩ := writableHalf_eq_ok hhalf
  have hsend : s.sendHalf? id = some h := (sendHalf?_of_get? hget).trans hst
  rcases s.write_eq id data fin with ⟨e, hother, heq⟩ | ⟨h', n, -, hsend', -, rfl, -, halters, -⟩
  · -- who may write is refused for want of credit only
    have hanswer := answer_of_writableHalf hhalf data fin
    rw [heq] at hanswer
    split at hanswer
    · exact absurd (Except.error.inj hanswer) hother
    · cases hanswer
  · obtain rfl := Option.some.inj (hsend.symm.trans hsend')
    exact ⟨_, halters⟩

/-- The capacity that a change of one half leaves. -/
theorem sendCapacity_of_alters {h' : SendHalf} {parked : List StreamId} {w : SendWindow}
    (halters : s.Alters id h' parked w s') (hfrozen : s.frozen = false) :
    s'.sendCapacity id = if h'.state.isWritable then .ok (min h'.window.credit w.credit)
      else .error .streamClosed := by
  have hsend : s'.sendHalf? id = some h' := (halters.half id).trans (if_pos rfl)
  have hfrozen' : s'.frozen = false := halters.frozen.trans hfrozen
  obtain ⟨st, hget, hst⟩ := sendHalf?_eq_some hsend
  split
  · next hwritable =>
    refine sendCapacity_eq_ok_iff.2 ⟨h', writableHalf_of_sendHalf? hfrozen' hsend hwritable, ?_⟩
    rw [creditFor, halters.sendWindow]
  · next hended =>
    exact sendCapacity_eq_error_iff.2 (.ended hfrozen' hget hst (Bool.eq_false_iff.2 hended))

/-- A half that accepts bytes stays writable until it accepts the end. -/
theorem isWritable_accept {h : SendHalf} (hwritable : h.state.isWritable = true) (n : Nat)
    (fin : Bool) : (h.accept n fin).state.isWritable = !fin := by
  cases fin with
  | true => rfl
  | false =>
    change (if 0 < n then SendState.send else h.state).isWritable = true
    split
    · rfl
    · exact hwritable

/-- A write leaves the capacity that it did not use, unless it was the last. -/
theorem sendCapacity_write {h : SendHalf} (hhalf : s.writableHalf id = .ok h) (data : Bytes)
    (fin : Bool) : (s.write id data fin).2.sendCapacity id =
      if (fin && !s.fallsShort h data.length) = true then .error .streamClosed
      else .ok (s.creditFor h - min data.length (s.creditFor h)) := by
  obtain ⟨hwritable, -⟩ := writableHalf_eq_ok hhalf
  obtain ⟨parked, halters⟩ := alters_write hhalf data fin
  rw [sendCapacity_of_alters halters (frozen_of_writableHalf hhalf),
    isWritable_accept
      (h := { h with blocked := h.blocked || s.fallsShort h data.length }) hwritable]
  generalize hgranted : min data.length (s.creditFor h) = n
  have hcredit : n ≤ h.window.credit ∧ n ≤ s.sendWindow.credit := by
    rw [creditFor] at hgranted
    omega
  have hleft : min (h.window.reserve n).credit (s.sendWindow.reserve n).credit =
      s.creditFor h - n := by
    rw [credit_reserve _ hcredit.1, credit_reserve _ hcredit.2]
    exact Nat.sub_min_sub_right ..
  cases hlast : fin && !s.fallsShort h data.length with
  | true => rfl
  | false => exact congrArg Except.ok hleft

/-- A write that is not refused draws on the credit as predicted. -/
theorem draws_write {h : SendHalf} (hhalf : s.writableHalf id = .ok h) {out : WriteOutcome}
    (hout : (s.write id data fin).1 = .ok out) :
    s.Draws id data fin (s.creditFor h) out (s.write id data fin).2 := by
  have hsend : s.sendHalf? id = some h := by
    obtain ⟨-, st, hget, hst⟩ := writableHalf_eq_ok hhalf
    exact (sendHalf?_of_get? hget).trans hst
  obtain ⟨parked, halters⟩ := alters_write hhalf data fin
  have hcapacity := sendCapacity_write hhalf data fin
  rw [answer_of_writableHalf hhalf] at hout
  split at hout
  · cases hout
  obtain rfl := Except.ok.inj hout
  have haccepted : (data.take (min data.length (s.creditFor h))).length =
      min data.length (s.creditFor h) := by
    rw [List.length_take]
    omega
  -- the credit of the stream and of the connection both cover what was taken, so neither
  -- subtraction truncates
  have hcredit : min data.length (s.creditFor h) ≤ h.window.credit ∧
      min data.length (s.creditFor h) ≤ s.sendWindow.credit := by
    rw [creditFor]
    omega
  refine ⟨haccepted, rfl, ?_, ?_, ⟨h.window.credit - min data.length (s.creditFor h), ?_, ?_⟩,
    fun id' hne => get?_write_of_ne s data fin hne, ?_⟩
  · rw [WriteOutcome.accepted, haccepted, Bool.and_eq_true, fallsShort, Bool.not_eq_true',
      decide_eq_false_iff_not]
    exact and_congr_right fun _ => by omega
  · rw [WriteOutcome.accepted, haccepted, halters.sendWindow, credit_reserve _ hcredit.2]
    omega
  · rw [WriteOutcome.accepted, haccepted, Nat.sub_add_cancel hcredit.1]
    change (s.sendHalf? id).map _ = _
    rw [hsend]
    rfl
  · change ((s.write id data fin).2.sendHalf? id).map _ = _
    rw [halters.half, if_pos rfl, Option.map_some, SendHalf.accept]
    exact congrArg some (credit_reserve _ hcredit.1)
  · rw [WriteOutcome.accepted, haccepted]
    exact hcapacity

/-- The capacity of a stream is the smaller of both credits. -/
theorem sendCapacity_eq_min (hc : s.sendCapacity id = .ok c) :
    (s.streamCredit? id).map (min · s.sendWindow.credit) = some c := by
  obtain ⟨h, hhalf, rfl⟩ := sendCapacity_eq_ok_iff.1 hc
  obtain ⟨-, st, hget, hst⟩ := writableHalf_eq_ok hhalf
  have hsend : s.sendHalf? id = some h := (sendHalf?_of_get? hget).trans hst
  change ((s.sendHalf? id).map _).map _ = _
  rw [hsend]
  rfl

end

/-! ## The result

Both chains of decisions in one statement, for every state of the streams. -/

/-- **The capacity of a stream predicts what a write comes to.** Both calls fail for the
same reason, but for a write that is blocked; and this reason is why nothing can be
written on the stream at all. The capacity is the smaller of the credits of the stream
and of the connection. When it is known, a write is blocked if it has bytes to write and
the capacity is 0, and takes from its data what there is capacity for otherwise. -/
theorem capacity_predicts_write (s : StreamSet) (id : StreamId) (data : Bytes) (fin : Bool) :
    (∀ e, ((s.write id data fin).1 = .error e ∧ e ≠ .flowControlBlocked ↔
        s.sendCapacity id = .error e) ∧
      (s.sendCapacity id = .error e ↔ s.Barred id e)) ∧
    ∀ c, s.sendCapacity id = .ok c →
      (s.streamCredit? id).map (min · s.sendWindow.credit) = some c ∧
      ((s.write id data fin).1 = .error .flowControlBlocked ↔ data ≠ [] ∧ c = 0) ∧
      (¬ (data ≠ [] ∧ c = 0) → ∃ out, (s.write id data fin).1 = .ok out ∧
        s.Draws id data fin c out (s.write id data fin).2) := by
  refine ⟨fun e => ⟨?_, sendCapacity_eq_error_iff⟩, fun c hc => ⟨sendCapacity_eq_min hc, ?_⟩⟩
  · rw [sendCapacity_eq_error_iff, ← writableHalf_eq_error_iff]
    -- the write and the query look at the same half; the write is blocked after that look
    -- and never in it
    cases hhalf : s.writableHalf id with
    | error e' =>
      rw [write_of_writableHalf hhalf]
      constructor
      · rintro ⟨heq, -⟩
        exact congrArg Except.error (Except.error.inj heq)
      · rintro heq
        obtain rfl := Except.error.inj heq
        exact ⟨rfl, ne_blocked_of_writableHalf hhalf⟩
    | ok h =>
      rw [answer_of_writableHalf hhalf]
      refine ⟨fun ⟨heq, hother⟩ => ?_, nofun⟩
      split at heq
      · exact absurd (Except.error.inj heq).symm hother
      · cases heq
  · obtain ⟨h, hhalf, rfl⟩ := sendCapacity_eq_ok_iff.1 hc
    have hanswer := answer_of_writableHalf hhalf data fin
    by_cases hblocked : data ≠ [] ∧ s.creditFor h = 0
    · rw [if_pos hblocked] at hanswer
      exact ⟨iff_of_true hanswer hblocked, fun hnot => absurd hblocked hnot⟩
    · rw [if_neg hblocked] at hanswer
      refine ⟨iff_of_false ?_ hblocked, fun _ => ⟨_, hanswer, draws_write hhalf hanswer⟩⟩
      rw [hanswer]
      exact nofun

/-- One byte is left of the credit of the connection, and three are to be written. -/
def nearlySpent : List Operation :=
  [.handshakeCompleted
      { initialMaxData := 2, initialMaxStreamDataUni := 9, initialMaxStreamsUni := 1 },
    .openStream .uni, .write ⟨2⟩ [1] false]

theorem capacity_predicts_write_nearlySpent :
    ∃ out, (((new .client {}).after nearlySpent).write ⟨2⟩ [2, 3, 4] true).1 = .ok out ∧
      ((new .client {}).after nearlySpent).Draws ⟨2⟩ [2, 3, 4] true 1 out
        (((new .client {}).after nearlySpent).write ⟨2⟩ [2, 3, 4] true).2 :=
  ((capacity_predicts_write ((new .client {}).after nearlySpent) ⟨2⟩ [2, 3, 4] true).2 1
    rfl).2.2 (by decide)

end QuicHost.StreamSet
