import QuicHost.Proofs.Stream.Calm

/-!
# The queue of parked streams

A live stream is marked as blocked exactly while it stands in the queue of
parked streams, it stands there once, and it lacks credit: its own, or that of
the connection (`Queued`, `queued_after`). A stream that is gone may have left
its identifier behind. This does no harm, because identifiers are never used
again and nobody is woken who is not live.

Beside the quiet steps, which leave the queue alone (`Calm`), a write, an abandoned half
and the limit of one stream change a single half (`Alters`). And a limit that concerns
all streams is raised first, which leaves the queue in line (`Lined`), and then wakes
everybody who has credit of both kinds.
-/

namespace QuicHost.StreamSet

open Relation

section

variable {s s' s'' : StreamSet} {id : StreamId} {h : SendHalf}

/-! ## Steps that change one half

A write, an abandoned half and a limit for one stream concern one sending half, and may
park its stream or take it out of the queue. Everything else that concerns the queue is as
it was. -/

/-- Of all that concerns the queue, the half of one stream changes, and the
queue and the credit of the connection become as given. -/
structure Alters (s : StreamSet) (id : StreamId) (h' : SendHalf) (parked : List StreamId)
    (w : SendWindow) (s' : StreamSet) : Prop where
  /-- one half becomes the given one, and no other changes -/
  half : ∀ id', s'.sendHalf? id' = if id' = id then some h' else s.sendHalf? id'
  parked : s'.parked = parked
  sendWindow : s'.sendWindow = w
  frozen : s'.frozen = s.frozen
  used : ∀ id', s'.Used id' ↔ s.Used id'

/-- Replacing a half that is there. -/
theorem alters_setSend (hsend : s.sendHalf? id = some h) (h' : SendHalf) :
    s.Alters id h' s.parked s.sendWindow (s.setSend id h') where
  half := sendHalf?_setSend hsend h'
  parked := rfl
  sendWindow := rfl
  frozen := rfl
  used _ := Iff.rfl

/-- The half that is there may be the one it becomes. -/
theorem alters_self (hsend : s.sendHalf? id = some h) : s.Alters id h s.parked s.sendWindow s where
  half id' := by
    split
    · next heq => rw [heq, hsend]
    · rfl
  parked := rfl
  sendWindow := rfl
  frozen := rfl
  used _ := Iff.rfl

/-- Abandoning a half takes it out of the queue, if it is there. -/
theorem alters_abandonSend (hsend : s.sendHalf? id = some h) :
    s.Alters id h.abandon (if h.blocked then s.parked.filter (· ≠ id) else s.parked) s.sendWindow
      (s.abandonSend id h) := by
  have hset := alters_setSend hsend h.abandon
  simp only [abandonSend]
  split
  · exact ⟨hset.half, rfl, rfl, rfl, hset.used⟩
  · exact hset

/-- Parking marks a half and puts it at the end of the queue, unless it is
there already. -/
theorem alters_park (hsend : s.sendHalf? id = some h) :
    s.Alters id { h with blocked := true } (if h.blocked then s.parked else s.parked ++ [id])
      s.sendWindow (s.park id h) := by
  rw [park]
  by_cases hblocked : h.blocked = true
  · rw [if_pos hblocked, if_pos hblocked]
    have hself : { h with blocked := true } = h := by rw [← hblocked]
    rw [hself]
    exact alters_self hsend
  · rw [if_neg hblocked, if_neg hblocked]
    have hset := alters_setSend hsend { h with blocked := true }
    exact ⟨hset.half, rfl, rfl, rfl, hset.used⟩

/-- Whether a write of `n` bytes gets less than it asks for. -/
def fallsShort (s : StreamSet) (h : SendHalf) (n : Nat) : Bool := decide (s.creditFor h < n)

/-- A half that may not be written on is never refused for want of credit. -/
theorem ne_blocked_of_writableHalf {e : CallError} (hhalf : s.writableHalf id = .error e) :
    e ≠ .flowControlBlocked := by
  rintro rfl
  rw [writableHalf] at hhalf
  split at hhalf
  · cases hhalf
  split at hhalf
  · rw [missing] at hhalf
    split at hhalf <;> cases hhalf
  split at hhalf
  · cases hhalf
  split at hhalf <;> cases hhalf

theorem frozen_of_writableHalf (hhalf : s.writableHalf id = .ok h) : s.frozen = false := by
  rw [writableHalf] at hhalf
  split at hhalf
  · cases hhalf
  · next hfrozen => exact Bool.eq_false_iff.2 hfrozen

theorem writableHalf_of_sendHalf? (hfrozen : s.frozen = false) (hsend : s.sendHalf? id = some h)
    (hwritable : h.state.isWritable = true) : s.writableHalf id = .ok h := by
  obtain ⟨st, hget, hst⟩ := sendHalf?_eq_some hsend
  simp only [writableHalf, hfrozen, Bool.false_eq_true, ↓reduceIte, hget, hst, hwritable]

/-- Who may not write is told why, and nothing happens. -/
theorem write_of_writableHalf {e : CallError} (hhalf : s.writableHalf id = .error e) (data : Bytes)
    (fin : Bool) : s.write id data fin = (.error e, s) := by
  rw [write, hhalf]

/-- What a write may come to. It is refused for other reasons than credit and
changes nothing; or it takes what there is credit for, which may be nothing, and
parks its stream if this falls short. -/
theorem write_eq (s : StreamSet) (id : StreamId) (data : Bytes) (fin : Bool) :
    (∃ e, e ≠ .flowControlBlocked ∧ s.write id data fin = (.error e, s)) ∨
      ∃ h n, s.frozen = false ∧ s.sendHalf? id = some h ∧ h.state.isWritable = true ∧
        n = min data.length (s.creditFor h) ∧
        (s.write id data fin).1 =
          (if s.fallsShort h data.length = true ∧ n = 0 then .error .flowControlBlocked
          else .ok ⟨data.take n, fin && !s.fallsShort h data.length⟩) ∧
        s.Alters id
          ({ h with blocked := h.blocked || s.fallsShort h data.length }.accept n
            (fin && !s.fallsShort h data.length))
          (if s.fallsShort h data.length && !h.blocked then s.parked ++ [id] else s.parked)
          (s.sendWindow.reserve n) (s.write id data fin).2 ∧
        (s.write id data fin).2.events = s.events := by
  rw [write]
  split
  · next e hhalf => exact .inl ⟨e, ne_blocked_of_writableHalf hhalf, rfl⟩
  next h hhalf =>
  have hfrozen := frozen_of_writableHalf hhalf
  obtain ⟨hwritable, st, hget, hst⟩ := writableHalf_eq_ok hhalf
  have hsend : s.sendHalf? id = some h := (sendHalf?_of_get? hget).trans hst
  have hshort : decide (min data.length (s.creditFor h) < data.length) =
      s.fallsShort h data.length := by
    rw [fallsShort, decide_eq_decide]
    omega
  refine .inr ⟨h, _, hfrozen, hsend, hwritable, rfl, ?_⟩
  simp only
  rw [hshort]
  -- parking comes before the bytes are taken, so a short write that takes some alters the
  -- half twice
  by_cases hfalls : s.fallsShort h data.length = true
  · have hlt : min data.length (s.creditFor h) < data.length := by
      rw [hfalls] at hshort
      exact of_decide_eq_true hshort
    have hpark := alters_park hsend
    rw [if_pos hlt]
    simp only [hlt, hfalls, true_and, Bool.or_true, Bool.true_and, Bool.not_true, Bool.and_false]
    have hparked : (if (!h.blocked) = true then s.parked ++ [id] else s.parked) =
        if h.blocked = true then s.parked else s.parked ++ [id] := by
      cases h.blocked <;> rfl
    have hevents : (s.park id h).events = s.events := by
      rw [park]
      split <;> rfl
    by_cases hzero : min data.length (s.creditFor h) = 0
    · rw [if_pos hzero, if_pos hzero, hzero, hparked]
      exact ⟨rfl, ⟨hpark.half, hpark.parked, hpark.sendWindow, hpark.frozen, hpark.used⟩, hevents⟩
    · rw [if_neg hzero, if_neg hzero, hparked]
      have hself : (s.park id h).sendHalf? id = some { h with blocked := true } := by
        rw [hpark.half, if_pos rfl]
      have hset := alters_setSend hself
        ({ h with blocked := true }.accept (min data.length (s.creditFor h)) false)
      refine ⟨rfl, ⟨fun id' => ?_, hset.parked.trans hpark.parked, rfl,
        hset.frozen.trans hpark.frozen, fun id' => (hset.used id').trans (hpark.used id')⟩, hevents⟩
      -- the window is reserved last and is no part of a half, hence the restatement
      change ((s.park id h).setSend id _).sendHalf? id' = _
      rw [hset.half, hpark.half]
      split <;> rfl
  · rw [Bool.not_eq_true] at hfalls
    have hlt : ¬ min data.length (s.creditFor h) < data.length := by
      rw [hfalls] at hshort
      exact of_decide_eq_false hshort
    rw [if_neg hlt]
    simp only [hlt, hfalls, false_and, ↓reduceIte, Bool.or_false, Bool.false_and,
      Bool.false_eq_true, Bool.not_false, Bool.and_true]
    have hset := alters_setSend hsend (h.accept (min data.length (s.creditFor h)) fin)
    exact ⟨trivial, ⟨hset.half, hset.parked, rfl, hset.frozen, hset.used⟩, rfl⟩

/-- What the limit of one stream may come to. It is stale or nobody's; or it is
raised, which wakes the stream if there is credit of both kinds. -/
theorem onMaxStreamData_eq (s : StreamSet) (id : StreamId) (limit : Nat) :
    s.onMaxStreamData id limit = s ∨
      ∃ h, s.frozen = false ∧ s.sendHalf? id = some h ∧
        ((h.blocked = true ∧ 0 < (h.extend limit).window.credit ∧ 0 < s.sendWindow.credit ∧
            s.Alters id { h.extend limit with blocked := false } (s.parked.filter (· ≠ id))
              s.sendWindow (s.onMaxStreamData id limit) ∧
            (s.onMaxStreamData id limit).events = s.events ++ [.streamWritable id]) ∨
          (h.blocked = true → (h.extend limit).window.credit = 0 ∨ s.sendWindow.credit = 0) ∧
            s.Alters id (h.extend limit) s.parked s.sendWindow (s.onMaxStreamData id limit) ∧
            (s.onMaxStreamData id limit).events = s.events) := by
  rw [onMaxStreamData]
  split
  · exact .inl rfl
  next hfrozen =>
  split
  · exact .inl rfl
  next h hsend =>
  split
  · exact .inl rfl
  refine .inr ⟨h, Bool.eq_false_iff.2 hfrozen, hsend, ?_⟩
  simp only
  -- credit on both levels is what separates a wake from a limit that is merely recorded
  by_cases hwake : h.blocked = true ∧ 0 < (h.extend limit).window.credit ∧ 0 < s.sendWindow.credit
  · have hset := alters_setSend hsend { h.extend limit with blocked := false }
    rw [if_pos hwake]
    exact .inl ⟨hwake.1, hwake.2.1, hwake.2.2, ⟨hset.half, rfl, rfl, rfl, hset.used⟩, rfl⟩
  · rw [if_neg hwake]
    refine .inr ⟨fun hblocked => ?_, alters_setSend hsend _, rfl⟩
    by_contra hboth
    exact hwake ⟨hblocked, by omega, by omega⟩

/-! ## Waking

Waking walks through the queue once. Who is woken is computed beforehand, for waking one
does not change the credit of another. -/

/-- The streams that are woken: those in the queue that have credit of both
kinds. -/
def woken (s : StreamSet) : List StreamId :=
  if s.sendWindow.credit = 0 then []
  else s.parked.filter fun id => (s.streamCredit? id).any (0 < ·)

theorem woken_sublist (s : StreamSet) : s.woken.Sublist s.parked := by
  rw [woken]
  split
  · exact List.nil_sublist _
  · exact List.filter_sublist

theorem any_streamCredit?_iff {p : Nat → Bool} : (s.streamCredit? id).any p = true ↔
    ∃ h, s.sendHalf? id = some h ∧ p h.window.credit = true := by
  change ((s.sendHalf? id).map (·.window.credit)).any p = true ↔ _
  rw [Option.any_map, Option.any_eq_true]

/-- Who is woken: those in the queue with credit of both kinds. -/
theorem mem_woken_iff {id : StreamId} : id ∈ s.woken ↔
    id ∈ s.parked ∧ 0 < s.sendWindow.credit ∧
      ∃ h, s.sendHalf? id = some h ∧ 0 < h.window.credit := by
  rw [woken]
  split
  · next hzero =>
    simp only [List.not_mem_nil, false_iff]
    omega
  · next hzero =>
    simp only [List.mem_filter, any_streamCredit?_iff, decide_eq_true_eq]
    exact and_congr_right fun _ => (and_iff_right (Nat.pos_of_ne_zero hzero)).symm

/-- Waking takes away the marks of those who are woken, and changes no half besides. -/
theorem sendHalf?_wakeParked (s : StreamSet) (id : StreamId) :
    s.wakeParked.sendHalf? id = (s.sendHalf? id).map fun h =>
      if id ∈ s.woken then { h with blocked := false } else h := by
  rw [wakeParked, woken]
  split
  · simp only [List.not_mem_nil, ↓reduceIte, Option.map_id']
  · simp only [sendHalf?, Table.get?_map]
    rcases s.streams.get? id with _ | ⟨_ | h, r⟩
    · rfl
    · simp only [Option.map_some, Option.bind_some]
      split <;> rfl
    · simp only [Option.map_some, Option.bind_some]
      split <;> rfl

theorem events_wakeParked (s : StreamSet) :
    s.wakeParked.events = s.events ++ s.woken.map .streamWritable := by
  rw [wakeParked, woken]
  split
  · exact (List.append_nil _).symm
  · rfl

/-- Whoever stays in the queue was there, and is live unless nobody can be woken. -/
theorem mem_parked_wakeParked_iff {id : StreamId} : id ∈ s.wakeParked.parked ↔
    id ∈ s.parked ∧ (s.sendWindow.credit = 0 ∨
      ∃ h, s.sendHalf? id = some h ∧ h.window.credit = 0) := by
  rw [wakeParked]
  split
  · next hzero => exact ⟨fun hmem => ⟨hmem, .inl hzero⟩, fun hmem => hmem.1⟩
  · next hzero =>
    simp only [List.mem_filter, any_streamCredit?_iff, decide_eq_true_eq, hzero, false_or]

theorem parked_wakeParked_sublist (s : StreamSet) : s.wakeParked.parked.Sublist s.parked := by
  rw [wakeParked]
  split
  · exact List.Sublist.refl _
  · exact List.filter_sublist

/-! ## The invariant

The queue and the marks agree, and nobody waits who has credit of both kinds. Calm steps
keep this; the others do so for reasons of their own. -/

/-- A live stream is marked exactly while it stands in the queue, where it
stands once. -/
structure Lined (s : StreamSet) : Prop where
  /-- nobody stands in the queue twice -/
  nodup : s.parked.Nodup
  used : ∀ {id}, id ∈ s.parked → s.Used id
  /-- the mark says who stands there, until everything stops -/
  blocked : s.frozen = false → ∀ {id h}, s.sendHalf? id = some h →
    (h.blocked = true ↔ id ∈ s.parked)

/-- Moreover it lacks credit of its own, or the connection lacks credit. -/
structure Queued (s : StreamSet) : Prop extends Lined s where
  /-- who waits waits for something -/
  starved : s.frozen = false → ∀ {id h}, s.sendHalf? id = some h → h.blocked = true →
    h.window.credit = 0 ∨ s.sendWindow.credit = 0

theorem queued_new (side : Side) (own : TransportParameters) : (new side own).Queued where
  nodup := List.nodup_nil
  used := nofun
  blocked _ _ _ hsend := by cases hsend
  starved _ _ _ hsend := by cases hsend

/-- The queue is in order as long as neither it nor the credit changes. -/
theorem Queued.calm (hq : s.Queued) (h : s.Calm s') : s'.Queued where
  nodup := by
    rw [h.parked]
    exact hq.nodup
  used hmem := by
    rw [h.parked] at hmem
    exact h.used (hq.used hmem)
  blocked hfrozen id h' hsend := by
    rw [h.frozen] at hfrozen
    rw [h.parked]
    rcases h.half hsend with ⟨hused, hblocked⟩ | ⟨h₀, hsend', hblocked, -⟩
    · rw [hblocked]
      exact ⟨nofun, fun hmem => absurd (hq.used hmem) hused⟩
    · rw [hblocked]
      exact hq.blocked hfrozen hsend'
  starved hfrozen id h' hsend hblocked := by
    rw [h.frozen] at hfrozen
    rw [h.sendWindow]
    rcases h.half hsend with ⟨-, hblocked'⟩ | ⟨h₀, hsend', hblocked', hwindow⟩
    · rw [hblocked'] at hblocked
      cases hblocked
    · rw [hwindow]
      exact hq.starved hfrozen hsend' (hblocked' ▸ hblocked)

/-- One half changes, the others keep their places, and credit of the connection
does not arrive. -/
theorem Queued.alters (hq : s.Queued) {h' : SendHalf} {parked : List StreamId} {w : SendWindow}
    (h : s.Alters id h' parked w s') (hnodup : parked.Nodup)
    (hused : ∀ {id'}, id' ∈ parked → s.Used id')
    (hself : s.frozen = false → (h'.blocked = true ↔ id ∈ parked))
    (hothers : ∀ {id'}, id' ≠ id → (id' ∈ parked ↔ id' ∈ s.parked))
    (hcredit : w.credit ≤ s.sendWindow.credit)
    (hstarved : s.frozen = false → h'.blocked = true → h'.window.credit = 0 ∨ w.credit = 0) :
    s'.Queued where
  nodup := by
    rw [h.parked]
    exact hnodup
  used hmem := by
    rw [h.parked] at hmem
    exact (h.used _).2 (hused hmem)
  -- `id` is answered by `hself`; the other halves are as they were, and so is their place
  -- in the queue
  blocked hfrozen id' half hsend := by
    rw [h.frozen] at hfrozen
    rw [h.parked]
    rw [h.half] at hsend
    split at hsend
    · next heq =>
      subst heq
      obtain rfl := Option.some.inj hsend
      exact hself hfrozen
    · next hne =>
      rw [hothers hne]
      exact hq.blocked hfrozen hsend
  starved hfrozen id' half hsend hblocked := by
    rw [h.frozen] at hfrozen
    rw [h.sendWindow]
    rw [h.half] at hsend
    split at hsend
    · obtain rfl := Option.some.inj hsend
      exact hstarved hfrozen hblocked
    · rcases hq.starved hfrozen hsend hblocked with hzero | hzero
      · exact .inl hzero
      · exact .inr (by omega)

/-- A half changes, and its stream keeps its place. -/
theorem Queued.stay (hq : s.Queued) {h' : SendHalf} {w : SendWindow}
    (h : s.Alters id h' s.parked w s')
    (hself : s.frozen = false → (h'.blocked = true ↔ id ∈ s.parked))
    (hcredit : w.credit ≤ s.sendWindow.credit)
    (hstarved : s.frozen = false → h'.blocked = true → h'.window.credit = 0 ∨ w.credit = 0) :
    s'.Queued :=
  hq.alters h hq.nodup hq.used hself (fun _ => Iff.rfl) hcredit hstarved

/-- A stream that is not in the queue joins it at the end. -/
theorem Queued.join (hq : s.Queued) {h' : SendHalf} {w : SendWindow}
    (h : s.Alters id h' (s.parked ++ [id]) w s') (hused : s.Used id) (hnot : id ∉ s.parked)
    (hblocked : h'.blocked = true) (hcredit : w.credit ≤ s.sendWindow.credit)
    (hstarved : h'.window.credit = 0 ∨ w.credit = 0) : s'.Queued := by
  refine hq.alters h ?_ (fun hmem => ?_) (fun _ => ?_) (fun hne => ?_) hcredit fun _ _ => hstarved
  · refine List.nodup_append.2 ⟨hq.nodup, List.pairwise_singleton _ _, ?_⟩
    rintro id' hmem _ hlast rfl
    rw [List.mem_singleton.1 hlast] at hmem
    exact hnot hmem
  · rcases List.mem_append.1 hmem with hmem | hmem
    · exact hq.used hmem
    · rwa [List.mem_singleton.1 hmem]
  · exact iff_of_true hblocked (List.mem_append_right _ (List.mem_singleton.2 rfl))
  · rw [List.mem_append, List.mem_singleton]
    exact or_iff_left hne

/-- A stream leaves the queue when its half changes to one that waits no more. -/
theorem Queued.leave (hq : s.Queued) {h' : SendHalf}
    (h : s.Alters id h' (s.parked.filter (· ≠ id)) s.sendWindow s')
    (hblocked : h'.blocked = false) : s'.Queued := by
  refine hq.alters h (hq.nodup.filter _) (fun hmem => hq.used (List.mem_filter.1 hmem).1)
    (fun _ => ?_) (fun hne => ?_) (Nat.le_refl _) fun _ htrue => ?_
  · simp only [hblocked, Bool.false_eq_true, List.mem_filter, ne_eq, not_true_eq_false,
      decide_false, and_false]
  · simp only [List.mem_filter, ne_eq, hne, not_false_eq_true, decide_true, and_true]
  · rw [hblocked] at htrue
    cases htrue

/-- What is reserved within the credit is what the credit loses. -/
theorem credit_reserve (w : SendWindow) {n : Nat} (hn : n ≤ w.credit) :
    (w.reserve n).credit = w.credit - n := by
  rw [SendWindow.credit] at hn ⊢
  simp only [SendWindow.limit_reserve, SendWindow.consumed_reserve, SendWindow.credit]
  omega

theorem reserve_zero (w : SendWindow) : w.reserve 0 = w := by
  rw [SendWindow.reserve, SendWindow.granted, Nat.zero_min, Nat.add_zero]

/-- A write keeps the queue in order. A short one leaves no credit of one of the two kinds,
which is what its stream then waits for. -/
theorem Queued.write (hs : s.Orderly) (hq : s.Queued) (id : StreamId) (data : Bytes) (fin : Bool) :
    (s.write id data fin).2.Queued := by
  rcases s.write_eq id data fin with ⟨e, -, heq⟩ | ⟨h, n, hfrozen, hsend, -, hn, -, halters, -⟩
  · rw [heq]
    exact hq
  have hplace := hq.blocked hfrozen hsend
  have hcredit : n ≤ h.window.credit ∧ n ≤ s.sendWindow.credit := by
    rw [creditFor] at hn
    omega
  have hless : (s.sendWindow.reserve n).credit ≤ s.sendWindow.credit := by
    rw [credit_reserve _ hcredit.2]
    exact Nat.sub_le _ _
  -- what a short write leaves is no credit of one of the two kinds
  have hspent (hshort : s.fallsShort h data.length = true) (fin' : Bool) (h₀ : SendHalf)
      (hwindow : h₀.window = h.window) :
      (h₀.accept n fin').window.credit = 0 ∨ (s.sendWindow.reserve n).credit = 0 := by
    have hlt := of_decide_eq_true hshort
    rw [SendHalf.accept]
    dsimp only
    rw [hwindow, credit_reserve _ hcredit.1, credit_reserve _ hcredit.2]
    rw [creditFor] at hn hlt
    omega
  by_cases hshort : s.fallsShort h data.length = true
  · rw [hshort] at halters
    by_cases hblocked : h.blocked = true
    · -- the stream waits already
      rw [hblocked] at halters
      exact hq.stay halters (fun _ => iff_of_true rfl (hplace.1 hblocked)) hless fun _ _ =>
        hspent hshort _ _ rfl
    · have hnot : id ∉ s.parked := fun hmem => hblocked (hplace.2 hmem)
      rw [Bool.not_eq_true] at hblocked
      rw [hblocked] at halters
      exact hq.join halters (used_of_sendHalf? hs hsend) hnot rfl hless (hspent hshort _ _ rfl)
  · rw [Bool.not_eq_true] at hshort
    rw [hshort] at halters
    refine hq.stay halters (fun _ => ?_) hless fun _ hblocked => ?_
    · rw [Bool.or_false]
      exact hplace
    · change (h.blocked || false) = true at hblocked
      rw [Bool.or_false] at hblocked
      -- a stream that waits has no credit, so nothing was taken
      have hzero : n = 0 := by
        rcases hq.starved hfrozen hsend hblocked with hzero | hzero <;> omega
      rw [hzero, reserve_zero]
      change (h.window.reserve 0).credit = 0 ∨ s.sendWindow.credit = 0
      rw [reserve_zero]
      exact hq.starved hfrozen hsend hblocked

/-- A half that is abandoned leaves the queue with its mark. -/
theorem Queued.abandonSend (hq : s.Queued) (hsend : s.sendHalf? id = some h) :
    (s.abandonSend id h).Queued := by
  have halters := alters_abandonSend hsend
  by_cases hblocked : h.blocked = true
  · rw [if_pos hblocked] at halters
    exact hq.leave halters rfl
  · rw [if_neg hblocked] at halters
    refine hq.stay halters (fun hfrozen => ?_) (Nat.le_refl _) fun _ => nofun
    rw [← hq.blocked hfrozen hsend]
    exact iff_of_false nofun hblocked

/-- A limit for one stream keeps the queue in order: the stream is woken exactly when it
lacks no credit any more. -/
theorem Queued.onMaxStreamData (hq : s.Queued) (id : StreamId) (limit : Nat) :
    (s.onMaxStreamData id limit).Queued := by
  rcases s.onMaxStreamData_eq id limit with heq | ⟨h, hfrozen, hsend, ⟨-, -, -, halters, -⟩ |
    ⟨hstarved, halters, -⟩⟩
  · rw [heq]
    exact hq
  · exact hq.leave halters rfl
  · have hplace := hq.blocked hfrozen hsend
    exact hq.stay halters (fun _ => hplace) (Nat.le_refl _) fun _ => hstarved

/-- Waking leaves nobody in the queue who has credit of both kinds. -/
theorem Lined.wakeParked (hl : s.Lined) : s.wakeParked.Queued := by
  have hkeeps := keeps_wakeParked s
  have hwindow : s.wakeParked.sendWindow = s.sendWindow :=
    congrArg View.sendWindow (view_wakeParked s)
  refine ⟨⟨hl.nodup.sublist (parked_wakeParked_sublist s), fun hmem => ?_,
    fun hfrozen id h' hsend => ?_⟩, fun hfrozen id h' hsend hblocked => ?_⟩
  · exact (hkeeps.used_iff _).2 (hl.used ((parked_wakeParked_sublist s).subset hmem))
  · rw [hkeeps.frozen] at hfrozen
    rw [sendHalf?_wakeParked] at hsend
    obtain ⟨h, hlive, rfl⟩ := Option.map_eq_some_iff.1 hsend
    have hplace := hl.blocked hfrozen hlive
    rw [mem_parked_wakeParked_iff, hlive]
    split
    · next hwoken =>
      obtain ⟨-, hcredit, h', hlive', hcredit'⟩ := mem_woken_iff.1 hwoken
      obtain rfl := Option.some.inj (hlive.symm.trans hlive')
      refine iff_of_false nofun fun hstays => ?_
      rcases hstays.2 with hzero | ⟨h'', hsame, hzero⟩
      · omega
      · obtain rfl := Option.some.inj hsame
        omega
    · next hwoken =>
      rw [hplace]
      refine ⟨fun hmem => ⟨hmem, ?_⟩, fun hstays => hstays.1⟩
      -- who is not woken lacks one of the two kinds of credit
      by_contra hboth
      rw [not_or] at hboth
      refine hwoken (mem_woken_iff.2 ⟨hmem, by omega, h, hlive, ?_⟩)
      by_contra hzero
      exact hboth.2 ⟨h, rfl, by omega⟩
  · rw [hkeeps.frozen] at hfrozen
    rw [hwindow]
    rw [sendHalf?_wakeParked] at hsend
    obtain ⟨h, hlive, rfl⟩ := Option.map_eq_some_iff.1 hsend
    split at hblocked
    · cases hblocked
    · next hwoken =>
      have hmem := (hl.blocked hfrozen hlive).1 hblocked
      rw [if_neg hwoken]
      by_contra hboth
      exact hwoken (mem_woken_iff.2 ⟨hmem, by omega, h, hlive, by omega⟩)

/-- The streams with a higher limit for the connection, before anybody is woken. -/
def extendAll (s : StreamSet) (limit : Nat) : StreamSet :=
  { s with sendWindow := s.sendWindow.extend limit }

/-- Raising the limit of the connection and waking, as two steps. -/
theorem onMaxData_eq (s : StreamSet) (limit : Nat) : s.onMaxData limit =
    if s.frozen = true ∨ limit ≤ s.sendWindow.limit then s
    else (s.extendAll limit).wakeParked := rfl

/-- A limit for the connection that comes late or tells nothing new changes
nothing; another one lifts the limit and walks the queue. -/
theorem perform_maxData (s : StreamSet) (limit : Nat) : (s.perform (.maxData limit)).2 = s ∨
    s.frozen = false ∧ (s.perform (.maxData limit)).2 = (s.extendAll limit).wakeParked := by
  change s.onMaxData limit = s ∨ s.frozen = false ∧ s.onMaxData limit = _
  rw [onMaxData_eq]
  split
  · exact .inl rfl
  · next hnew =>
    rw [not_or, Bool.not_eq_true] at hnew
    exact .inr ⟨hnew.1, rfl⟩

theorem hushed_extendAll (s : StreamSet) (limit : Nat) : s.Hushed (s.extendAll limit) :=
  hushed_of_eq rfl

theorem Lined.extendAll (hl : s.Lined) (limit : Nat) : (s.extendAll limit).Lined :=
  ⟨hl.nodup, hl.used, hl.blocked⟩

/-- After a walk through the queue those who still wait lack credit. -/
theorem Queued.onMaxData (hq : s.Queued) (limit : Nat) : (s.onMaxData limit).Queued := by
  rw [onMaxData_eq]
  split
  · exact hq
  · exact (hq.toLined.extendAll limit).wakeParked

/-- The streams with the peer's parameters in force and its limits on the number
of streams, before anybody is woken. -/
def inForce (s : StreamSet) (peer : TransportParameters) : StreamSet :=
  ((s.raise peer).raisePeerMax .bidi peer.initialMaxStreamsBidi).raisePeerMax .uni
    peer.initialMaxStreamsUni

theorem onHandshakeCompleted_eq (s : StreamSet) (peer : TransportParameters) :
    s.onHandshakeCompleted peer = if s.frozen then s else (s.inForce peer).wakeParked := rfl

/-- A handshake after the freeze changes nothing; another one puts the peer's
parameters in force and walks the queue. -/
theorem perform_handshakeCompleted (s : StreamSet) (peer : TransportParameters) :
    (s.perform (.handshakeCompleted peer)).2 = s ∨
      s.frozen = false ∧
        (s.perform (.handshakeCompleted peer)).2 = (s.inForce peer).wakeParked := by
  change s.onHandshakeCompleted peer = s ∨ s.frozen = false ∧ s.onHandshakeCompleted peer = _
  rw [onHandshakeCompleted_eq]
  split
  · exact .inl rfl
  · next hrunning => exact .inr ⟨Bool.eq_false_iff.2 hrunning, rfl⟩

/-- What the peer's parameters change before anybody is woken. -/
theorem inForce_eq (s : StreamSet) (peer : TransportParameters) : ∃ peerMax events,
    s.inForce peer = { s.raise peer with peerMax := peerMax, events := events } := by
  obtain ⟨_, _, heq⟩ := raisePeerMax_eq (s.raise peer) .bidi peer.initialMaxStreamsBidi
  obtain ⟨_, _, heq'⟩ := raisePeerMax_eq
    ((s.raise peer).raisePeerMax .bidi peer.initialMaxStreamsBidi) .uni peer.initialMaxStreamsUni
  rw [inForce, heq', heq]
  exact ⟨_, _, rfl⟩

theorem frozen_inForce (s : StreamSet) (peer : TransportParameters) :
    (s.inForce peer).frozen = s.frozen := by
  obtain ⟨_, _, heq⟩ := s.inForce_eq peer
  rw [heq]
  rfl

theorem hushed_inForce (s : StreamSet) (peer : TransportParameters) : s.Hushed (s.inForce peer) :=
  ((hushed_of_eq rfl).trans (hushed_raisePeerMax (s.raise peer) _ _)).trans
    (hushed_raisePeerMax _ _ _)

/-- A live half has the limit that the parameters give its stream. -/
theorem sendHalf?_inForce (s : StreamSet) (peer : TransportParameters) (id : StreamId) :
    (s.inForce peer).sendHalf? id =
      (s.sendHalf? id).map (·.extend (sendLimitFor s.side (some peer) id)) := by
  obtain ⟨_, _, heq⟩ := s.inForce_eq peer
  rw [heq]
  simp only [sendHalf?, raise, Table.get?_map]
  rcases s.streams.get? id with _ | ⟨_ | h, r⟩ <;> rfl

/-- The queue is as it was while the limits are set. -/
theorem Lined.inForce (hl : s.Lined) (peer : TransportParameters) : (s.inForce peer).Lined := by
  have hhalf := s.sendHalf?_inForce peer
  obtain ⟨_, _, heq⟩ := s.inForce_eq peer
  rw [heq] at hhalf ⊢
  refine ⟨hl.nodup, hl.used, fun hfrozen id h' hsend => ?_⟩
  rw [hhalf] at hsend
  obtain ⟨h, hlive, rfl⟩ := Option.map_eq_some_iff.1 hsend
  have hplace := hl.blocked hfrozen hlive
  exact hplace

theorem Queued.onHandshakeCompleted (hq : s.Queued) (peer : TransportParameters) :
    (s.onHandshakeCompleted peer).Queued := by
  rw [onHandshakeCompleted_eq]
  split
  · exact hq
  · exact (hq.toLined.inForce peer).wakeParked

/-- Every step keeps the queue in order. -/
theorem Queued.step (hs : s.Orderly) (hq : s.Queued) (h : s.Step s') : s'.Queued := by
  cases h with
  | quiet h => exact hq.calm (h.calm hs)
  | written id data fin => exact hq.write hs id data fin
  | abandoned hsend _ => exact hq.abandonSend hsend
  | raised id limit => exact hq.onMaxStreamData id limit
  | raisedAll limit => exact hq.onMaxData limit
  | allowed d n => exact hq.calm (calm_onMaxStreams s d n)
  | completed peer => exact hq.onHandshakeCompleted peer
  | taken => exact ⟨⟨hq.nodup, hq.used, hq.blocked⟩, hq.starved⟩
  | frozen => exact ⟨⟨List.nodup_nil, nofun, nofun⟩, nofun⟩

theorem Queued.steps (hs : s.Orderly) (hq : s.Queued) (h : s.Steps s') : s'.Queued := by
  induction h with
  | refl => exact hq
  | tail hsteps hstep ih => exact ih.step (Steps.orderly hs hsteps).1 hstep

/-- The queue is in order after every run. -/
theorem queued_after (side : Side) (own : TransportParameters) {ops : List Operation}
    (hops : ∀ op ∈ ops, op.Fits) : ((new side own).after ops).Queued :=
  (queued_new side own).steps (orderly_new side own) (steps_after _ hops)

end

end QuicHost.StreamSet
