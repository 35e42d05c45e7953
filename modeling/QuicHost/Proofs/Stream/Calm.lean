import QuicHost.Proofs.Stream.Steps

/-!
# Calm steps

Most of what happens to a set of streams does not concern those that wait for credit. A
quiet step leaves sending halves and the queue alone, but for halves that are new or gone
(`Calm`), and says of no stream that it is writable (`Hushed`).

Steps were named in `Steps`; here it is read off each kind of step that it is calm, and
a chain of quiet steps is calm because calm steps compose (`Quietly.calm`). What is left
to look at for somebody who waits are the few operations that are no such chain: writes,
abandoned halves, and limits.
-/

namespace QuicHost.StreamSet

open Relation

section

variable {s s' s'' : StreamSet} {id : StreamId} {h : SendHalf}

/-! ## Sending halves of live streams

Where a sending half is found after the steps that replace halves. Nothing but the table
of streams is looked at. -/

/-- Looking up a half after one was replaced. -/
theorem sendHalf?_setSend (hsend : s.sendHalf? id = some h) (h' : SendHalf) (id' : StreamId) :
    (s.setSend id h').sendHalf? id' = if id' = id then some h' else s.sendHalf? id' := by
  obtain ⟨st, hget, -⟩ := sendHalf?_eq_some hsend
  simp only [sendHalf?, setSend, Table.get?_modify]
  split
  · next heq =>
    rw [heq, hget]
    rfl
  · rfl

/-- Receiving halves are not asked for. -/
theorem sendHalf?_setRecv (s : StreamSet) (id : StreamId) (h : RecvHalf) (id' : StreamId) :
    (s.setRecv id h).sendHalf? id' = s.sendHalf? id' := by
  simp only [sendHalf?, setRecv, Table.get?_modify]
  split
  · next heq =>
    rw [heq]
    rcases s.streams.get? id <;> rfl
  · rfl

theorem used_of_sendHalf? (hs : s.Orderly) (hsend : s.sendHalf? id = some h) : s.Used id := by
  obtain ⟨st, hget, -⟩ := sendHalf?_eq_some hsend
  exact hs.used hget

/-- The events that an operation adds say of no stream that it is writable. -/
def Hushed (s s' : StreamSet) : Prop :=
  ∃ told, s'.events = s.events ++ told ∧ told.filterMap Event.writable? = []

theorem Hushed.refl (s : StreamSet) : s.Hushed s := ⟨[], (List.append_nil _).symm, rfl⟩

/-- What is added in each part says of no stream that it is writable. -/
theorem Hushed.trans (h : s.Hushed s') (h' : s'.Hushed s'') : s.Hushed s'' := by
  obtain ⟨told, heq, hnone⟩ := h
  obtain ⟨told', heq', hnone'⟩ := h'
  refine ⟨told ++ told', ?_, ?_⟩
  · rw [heq', heq, List.append_assoc]
  · rw [List.filterMap_append, hnone, hnone', List.append_nil]

theorem hushed_of_eq (h : s'.events = s.events) : s.Hushed s' :=
  ⟨[], h.trans (List.append_nil _).symm, rfl⟩

theorem hushed_emit (s : StreamSet) {e : Event} (he : e.writable? = none) :
    s.Hushed (s.emit e) :=
  ⟨[e], rfl, List.filterMap_cons_none he⟩

theorem hushed_announceAvailable (s before : StreamSet) (d : Direction) :
    s.Hushed (s.announceAvailable before d) := by
  rw [announceAvailable]
  split
  · exact hushed_emit s rfl
  · exact .refl s

/-- That streams can be opened is not that they can be written on. -/
theorem hushed_raisePeerMax (s : StreamSet) (d : Direction) (n : Nat) :
    s.Hushed (s.raisePeerMax d n) := by
  rw [raisePeerMax]
  split
  · exact .refl s
  · exact (hushed_of_eq rfl).trans (hushed_announceAvailable _ s d)

/-- The end of a stream is not that it can be written on. -/
theorem hushed_reap (s : StreamSet) (id : StreamId) : s.Hushed (s.reap id) := by
  rw [reap]
  split
  · simp only [removeStream]
    refine Hushed.trans ?_ (hushed_emit _ rfl)
    split
    · exact (hushed_of_eq rfl).trans (hushed_announceAvailable _ s id.direction)
    · exact hushed_of_eq rfl
  · exact .refl s

/-! ## Quiet steps

A quiet step leaves the queue alone, and the marks and the credit of all halves that were
there. New halves come unmarked, and a half that goes had ended. This is all that the
order of waking needs to know of the operations that wake nobody. -/

/-- The queue is as it was, and so is what a half has to do with it; but halves
may be new, which nobody has parked, or gone. -/
structure Calm (s s' : StreamSet) : Prop where
  parked : s'.parked = s.parked
  sendWindow : s'.sendWindow = s.sendWindow
  frozen : s'.frozen = s.frozen
  used : ∀ {id}, s.Used id → s'.Used id
  /-- nobody is said to be writable -/
  told : s.Hushed s'
  /-- a half that is there now was there, with the same mark and window, or is new -/
  half : ∀ {id h'}, s'.sendHalf? id = some h' → ¬ s.Used id ∧ h'.blocked = false ∨
    ∃ h, s.sendHalf? id = some h ∧ h'.blocked = h.blocked ∧ h'.window = h.window
  /-- no half is gone that may be written on -/
  writable : ∀ {id h}, s.sendHalf? id = some h → h.state.isWritable = true →
    ∃ h', s'.sendHalf? id = some h' ∧ h'.state = h.state

theorem Calm.refl (s : StreamSet) : s.Calm s where
  parked := rfl
  sendWindow := rfl
  frozen := rfl
  used hused := hused
  told := .refl s
  half {_ h'} hsend := .inr ⟨h', hsend, rfl, rfl⟩
  writable {_ h} hsend _ := ⟨h, hsend, rfl⟩

/-- A half that is new in the first part is still unmarked after the second, for its stream
was used then. -/
theorem Calm.trans (h : s.Calm s') (h' : s'.Calm s'') : s.Calm s'' where
  parked := h'.parked.trans h.parked
  sendWindow := h'.sendWindow.trans h.sendWindow
  frozen := h'.frozen.trans h.frozen
  used hused := h'.used (h.used hused)
  told := h.told.trans h'.told
  half {id h₂} hsend := by
    rcases h'.half hsend with ⟨hused, hblocked⟩ | ⟨h₁, hsend', hblocked, hwindow⟩
    · exact .inl ⟨mt h.used hused, hblocked⟩
    rcases h.half hsend' with ⟨hused, hblocked'⟩ | ⟨h₀, hsend'', hblocked', hwindow'⟩
    · exact .inl ⟨hused, hblocked.trans hblocked'⟩
    · exact .inr ⟨h₀, hsend'', hblocked.trans hblocked', hwindow.trans hwindow'⟩
  writable hsend hwritable := by
    obtain ⟨h₁, hsend', hstate⟩ := h.writable hsend hwritable
    obtain ⟨h₂, hsend'', hstate'⟩ := h'.writable hsend' (hstate ▸ hwritable)
    exact ⟨h₂, hsend'', hstate'.trans hstate⟩

/-- A step that leaves all sending halves as they are. -/
theorem calm_of_keeps (h : s.Keeps s') (hparked : s'.parked = s.parked)
    (hwindow : s'.sendWindow = s.sendWindow) (htold : s.Hushed s')
    (hhalf : ∀ id, s'.sendHalf? id = s.sendHalf? id) : s.Calm s' where
  parked := hparked
  sendWindow := hwindow
  frozen := h.frozen
  used hused := (h.used_iff _).2 hused
  told := htold
  half {id h'} hsend := .inr ⟨h', (hhalf id) ▸ hsend, rfl, rfl⟩
  writable {id h} hsend _ := ⟨h, (hhalf id).trans hsend, rfl⟩

/-- Streams that are opened come unmarked, and the others stay as they are. -/
theorem Opens.calm (h : s.Opens s') (hs : s.Orderly) : s.Calm s' where
  parked := h.parked
  sendWindow := congrArg View.sendWindow h.view
  frozen := h.frozen
  used := h.used
  told := by
    obtain ⟨heard, hevents⟩ := h.told
    refine ⟨heard.map .streamOpened, hevents, ?_⟩
    rw [List.filterMap_map]
    exact List.filterMap_eq_nil_iff.2 fun _ _ => rfl
  half {id h'} hsend := by
    by_cases hused : s.Used id
    · refine .inr ⟨h', ?_, rfl, rfl⟩
      rw [sendHalf?, ← h.old hused]
      exact hsend
    · obtain ⟨st, hget, hst⟩ := sendHalf?_eq_some hsend
      -- a new half is fresh
      obtain rfl := h.new hused hget
      simp only [newStream] at hst
      split at hst
      · obtain rfl := Option.some.inj hst
        exact .inl ⟨hused, rfl⟩
      · cases hst
  writable {id half} hsend _ := by
    refine ⟨half, ?_, rfl⟩
    rw [sendHalf?, h.old (used_of_sendHalf? hs hsend)]
    exact hsend

/-- An acknowledgement changes neither the mark nor the window, and no half that may be
written on. -/
theorem calm_acked (hsend : s.sendHalf? id = some h) (n : Nat) :
    s.Calm (s.setSend id (h.acknowledge n)) where
  parked := rfl
  sendWindow := rfl
  frozen := rfl
  used hused := hused
  told := hushed_of_eq rfl
  half {id' h'} hsend' := by
    rw [sendHalf?_setSend hsend] at hsend'
    split at hsend'
    · next heq =>
      subst heq
      obtain rfl := Option.some.inj hsend'
      exact .inr ⟨h, hsend, rfl, rfl⟩
    · exact .inr ⟨h', hsend', rfl, rfl⟩
  writable {id' half} hsend' hwritable := by
    rw [sendHalf?_setSend hsend]
    split
    · next heq =>
      subst heq
      obtain rfl := Option.some.inj (hsend.symm.trans hsend')
      refine ⟨_, rfl, ?_⟩
      -- only a half whose end was accepted changes its state
      rw [SendHalf.acknowledge]
      refine if_neg fun hsent => ?_
      rw [hsent.1] at hwritable
      cases hwritable
    · exact ⟨half, hsend', rfl⟩

/-- A stream that is reaped had ended, so that no half is gone that may be written on. -/
theorem calm_reap (s : StreamSet) (id : StreamId) : s.Calm (s.reap id) := by
  rcases Bool.eq_false_or_eq_true ((s.streams.get? id).any (·.isDone)) with hdone | hdone
  case inr =>
    rw [reap, if_neg (Bool.eq_false_iff.1 hdone)]
    exact .refl s
  have hkeeps := keeps_reap s id
  have htold := hushed_reap s id
  rw [reap, if_pos hdone] at hkeeps htold ⊢
  obtain ⟨l, r, ev, heq⟩ := s.removeStream_eq id
  have hhalf : ∀ id', (s.removeStream id).sendHalf? id' =
      if id' = id then none else s.sendHalf? id' := by
    intro id'
    rw [heq]
    simp only [sendHalf?, Table.get?_erase]
    split <;> rfl
  refine ⟨by rw [heq], by rw [heq], by rw [heq], fun hused => (hkeeps.used_iff _).2 hused, htold,
    fun {id' h'} hsend => ?_, fun {id' half} hsend hwritable => ?_⟩
  · rw [hhalf] at hsend
    split at hsend
    · cases hsend
    · exact .inr ⟨h', hsend, rfl, rfl⟩
  · rw [hhalf]
    split
    · next hid =>
      subst hid
      obtain ⟨st, hget, hst⟩ := sendHalf?_eq_some hsend
      -- a stream that is done has no half to write on
      rw [hget, Option.any_some, Stream.isDone, Stream.status, StreamStatus.isTerminal,
        hst] at hdone
      simp only [Option.map_some, Option.all_some, Bool.and_eq_true] at hdone
      rw [SendState.isTerminal_eq_false_of_isWritable hwritable] at hdone
      cases hdone.1.1
    · exact ⟨half, hsend, rfl⟩

/-- Raising the number of streams changes neither streams nor queue. -/
theorem raisePeerMax_eq (s : StreamSet) (d : Direction) (n : Nat) : ∃ peerMax events,
    s.raisePeerMax d n = { s with peerMax := peerMax, events := events } := by
  rw [raisePeerMax, announceAvailable]
  split_ifs <;> exact ⟨_, _, rfl⟩

/-- A limit on streams leaves queue and halves alone. -/
theorem calm_onMaxStreams (s : StreamSet) (d : Direction) (n : Nat) :
    s.Calm (s.onMaxStreams d n) := by
  have hkeeps := keeps_onMaxStreams s d n
  have htold := hushed_raisePeerMax s d n
  rw [onMaxStreams] at hkeeps ⊢
  split
  · exact .refl s
  · next hfrozen =>
    rw [if_neg hfrozen] at hkeeps
    obtain ⟨_, _, heq⟩ := raisePeerMax_eq s d n
    rw [heq] at hkeeps htold ⊢
    exact calm_of_keeps hkeeps rfl rfl htold fun _ => rfl

/-- One quiet change is calm. -/
theorem Quiet.calm (hs : s.Orderly) (h : s.Quiet s') : s.Calm s' := by
  cases h with
  | opened _ => exact (opens_openStream hs _).calm hs
  | named hid hopen => exact (opens_of_ensureOpen hs hid hopen).calm hs
  | recv id h =>
    exact calm_of_keeps (keeps_setRecv s id h) rfl rfl (hushed_of_eq rfl) (sendHalf?_setRecv s id h)
  | recvWindow w =>
    exact calm_of_keeps (keeps_recvWindow s w) rfl rfl (hushed_of_eq rfl) fun _ => rfl
  | told he _ => exact calm_of_keeps (keeps_emit s _) rfl rfl (hushed_emit s he) fun _ => rfl
  | acked n hsend => exact calm_acked hsend n
  | reaped id => exact calm_reap s id

theorem Quietly.calm (hs : s.Orderly) (h : s.Quietly s') : s.Calm s' := by
  induction h with
  | refl => exact .refl s
  | tail hsteps hstep ih =>
    exact ih.trans (hstep.calm (Steps.orderly hs (Quietly.steps hsteps)).1)

end

end QuicHost.StreamSet
