import QuicHost.Proofs.Stream.Effects
import QuicHost.Proofs.Stream.Reports

/-!
# Outcomes

Every operation has the effect that the relations on views say, and leaves the streams
orderly and the setup as it was (`Follows`). Nobody else takes an operation apart: what
is proved about runs is proved from the effects.

The completed handshake, which changes the setup, stands at the end.

An operation of the peer opens the stream it names first, so its effect is that of the
handler on a stream that is live (`onNamed_outcome`): the view shows the unopened stream
as the one it becomes, and so opening does not show. Parts that several operations
share, such as counting what was received or removing a stream that is done, have an
outcome of their own.
-/

namespace QuicHost

namespace StreamSet

/-! ## What operations leave

Apart from its effect on the view, an operation leaves the streams orderly and the setup
alone. `Follows` says so, and composes. -/

/-- The streams stay orderly and the setup stays. -/
structure Follows (s s' : StreamSet) : Prop extends SameSetup s s' where
  orderly : s'.Orderly

theorem Follows.refl {s : StreamSet} (hs : s.Orderly) : s.Follows s := ⟨.refl s, hs⟩

/-- One change after the other. -/
theorem Follows.trans {s s' s'' : StreamSet} (h : s.Follows s') (h' : s'.Follows s'') :
    s.Follows s'' :=
  ⟨h.toSameSetup.trans h'.toSameSetup, h'.orderly⟩

/-- Where no stream is opened, the streams stay orderly. -/
theorem Keeps.follows {s s' : StreamSet} (h : s.Keeps s') (hs : s.Orderly) : s.Follows s' :=
  ⟨h.toSameSetup, h.orderly hs⟩

/-- Opening streams leaves them orderly, which is part of what it says. -/
theorem Opens.follows {s s' : StreamSet} (h : s.Opens s') : s.Follows s' :=
  ⟨h.toSameSetup, h.orderly⟩

section

variable {s : StreamSet} {id : StreamId} {st : Stream}

/-- The stream that was changed is still live, with the new half. -/
theorem get?_setRecv (hget : s.streams.get? id = some st) (h : RecvHalf) :
    (s.setRecv id h).streams.get? id = some { st with recv := some h } := by
  simp only [setRecv, Table.get?_modify, ↓reduceIte, hget, Option.map_some]

/-- The stream that was parked is still live. -/
theorem get?_park (hget : s.streams.get? id = some st) (h : SendHalf) :
    ∃ st', (s.park id h).streams.get? id = some st' := by
  rw [park]
  split
  · exact ⟨st, hget⟩
  · simp only [setSend, Table.get?_modify, ↓reduceIte, hget, Option.map_some]
    exact ⟨_, rfl⟩

/-! ### Calls

What the application does, each call with its effect. The guards come first in the code
and are refusals in the effect; what comes after them is one change of a half, perhaps
with a change of a window, and then the look whether the stream is over. -/

/-- A half that can be written to is the sending half of a live stream. -/
theorem writableHalf_eq_ok {h : SendHalf} (hw : s.writableHalf id = .ok h) :
    h.state.isWritable = true ∧ ∃ st, s.streams.get? id = some st ∧ st.send = some h := by
  rw [writableHalf] at hw
  split at hw
  · cases hw
  split at hw
  · cases hw
  next st hget =>
  split at hw
  · cases hw
  next h' hsend =>
  split at hw
  · next hwritable =>
    obtain rfl := Except.ok.inj hw
    exact ⟨hwritable, st, hget, hsend⟩
  · cases hw

/-- What parking the stream of a write does, if it is parked. -/
theorem park_outcome (hs : s.Orderly) (hget : s.streams.get? id = some st) {h : SendHalf}
    (hsend : st.send = some h) (short : Prop) [Decidable short] {parked : StreamSet}
    (hparked : parked = if short then s.park id h else s) :
    s.Keeps parked ∧ parked.view = s.view ∧ ∃ st', parked.streams.get? id = some st' := by
  subst hparked
  split
  · exact ⟨keeps_park s id h, view_park hs hget hsend, get?_park hget h⟩
  · exact ⟨.refl s, rfl, st, hget⟩

/-- A write has the effect of a write: nothing, or bytes up to the smaller of both credits.
Parking the stream, which it may do on the way, is not in view. -/
theorem write_outcome (hs : s.Orderly) (id : StreamId) (data : Bytes) (fin : Bool) :
    s.Follows (s.write id data fin).2 ∧
      s.view.Write id data fin (s.write id data fin).1 (s.write id data fin).2.view := by
  rw [write]
  split
  · exact ⟨.refl hs, .refused _⟩
  next h hw =>
  obtain ⟨hwritable, st, hget, hsend⟩ := writableHalf_eq_ok hw
  have hview := view_send_of_send hs hget hsend
  simp only
  generalize hgranted : min data.length (s.creditFor h) = granted
  generalize hparked : (if granted < data.length then s.park id h else s) = parked
  -- parking marks the half, which the view does not show
  obtain ⟨hkeeps, hparkedView, st', hget'⟩ := park_outcome hs hget hsend _ hparked.symm
  split
  · refine ⟨hkeeps.follows hs, ?_⟩
    rw [hparkedView]
    exact .refused _
  · have hshort : (!decide (granted < data.length)) = decide (granted = data.length) := by
      have : granted ≤ data.length := hgranted ▸ Nat.min_le_left _ _
      by_cases heq : granted = data.length
      · simp [heq]
      · simp [heq]; omega
    rw [hshort]
    refine ⟨((hkeeps.trans (keeps_setSend _ id _)).trans (keeps_sendWindow _ _)).follows hs, ?_⟩
    have hsent := view_setSend (hkeeps.orderly hs) hget'
      ({ h with blocked := h.blocked || decide (granted < data.length) }.accept granted
        (fin && decide (granted = data.length)))
    rw [hparkedView] at hsent
    have hview' := congrArg (fun v : View =>
      { v with sendWindow := s.sendWindow.reserve granted }) hsent
    exact Eq.mpr (congrArg _ hview') (.accepted hview hwritable hgranted.symm)

/-- Replacing the receiving half and the window of the connection, telling of
it, and noticing the end of the stream. -/
theorem reap_setRecv_outcome (hs : s.Orderly) (hget : s.streams.get? id = some st) (h : RecvHalf)
    (w : RecvWindow) (events : List Event) :
    s.Follows ({ s.setRecv id h with recvWindow := w, events := events }.reap id) ∧
      View.Reaped { s.view.setRecv id h with recvWindow := w } id
        ({ s.setRecv id h with recvWindow := w, events := events }.reap id).view := by
  have hkeeps : s.Keeps { s.setRecv id h with recvWindow := w, events := events } :=
    ((keeps_setRecv s id h).trans (keeps_recvWindow _ w)).trans (keeps_events _ events)
  have hview : ({ s.setRecv id h with recvWindow := w, events := events } : StreamSet).view =
      { s.view.setRecv id h with recvWindow := w } :=
    congrArg (fun v : View => { v with recvWindow := w }) (view_setRecv hs hget h)
  refine ⟨(hkeeps.trans (keeps_reap _ id)).follows hs, ?_⟩
  rw [← hview]
  exact reaped_reap (hkeeps.orderly hs) id

/-- A read has the effect of a read. The guards come in the order in which the operation
asks, so that each refusal is a case of its own. -/
theorem read_outcome (hs : s.Orderly) (id : StreamId) (maxLen : Nat) :
    s.Follows (s.read id maxLen).2 ∧
      s.view.Read s.frozen id maxLen (s.read id maxLen).1 (s.read id maxLen).2.view := by
  rw [read]
  split
  · exact ⟨.refl hs, .refused _⟩
  split
  · exact ⟨.refl hs, .refused _⟩
  next st hget =>
  split
  · exact ⟨.refl hs, .refused _⟩
  next h hrecv =>
  have hview := view_recv_of_recv hs hget hrecv
  simp only
  split
  -- frozen: what is left in the buffer can still be read, without credit and without
  -- reaping
  · next hfrozen =>
    split
    · exact ⟨.refl hs, .refused _⟩
    next hwaiting =>
    refine ⟨(keeps_setRecv s id _).follows hs, ?_⟩
    rw [view_setRecv hs hget]
    exact .left hfrozen hview (Bool.eq_false_iff.2 hwaiting)
  next hfrozen =>
  split
  · exact ⟨.refl hs, .refused _⟩
  next hterminal =>
  split
  · exact ⟨.refl hs, .refused _⟩
  next hwaiting =>
  obtain ⟨hfollows, hreaped⟩ := reap_setRecv_outcome hs hget
    ((h.take maxLen).2.release (h.take maxLen).1.data.length)
    (s.recvWindow.read (h.take maxLen).1.data.length) s.events
  exact ⟨hfollows, .taken (Bool.eq_false_iff.2 hfrozen) hview (Bool.eq_false_iff.2 hterminal)
    (Bool.eq_false_iff.2 hwaiting) hreaped⟩

/-- Abandoning the sending half, telling of it, and noticing the end of the
stream. -/
theorem reap_abandonSend_outcome (hs : s.Orderly) (hget : s.streams.get? id = some st)
    (h : SendHalf) (events : List Event) :
    s.Follows ({ s.abandonSend id h with events := events }.reap id) ∧
      (s.view.setSend id h.abandon).Reaped id
        ({ s.abandonSend id h with events := events }.reap id).view := by
  have hkeeps := (keeps_abandonSend s id h).trans (keeps_events _ events)
  refine ⟨(hkeeps.trans (keeps_reap _ id)).follows hs, ?_⟩
  rw [← view_abandonSend hs hget h]
  exact reaped_reap (hkeeps.orderly hs) id

/-- Abandoning a sending half has the effect of that. -/
theorem resetStream_outcome (hs : s.Orderly) (id : StreamId) :
    s.Follows (s.resetStream id).2 ∧
      s.view.Reset id (s.resetStream id).1 (s.resetStream id).2.view := by
  rw [resetStream]
  split
  · exact ⟨.refl hs, .refused _⟩
  split
  · exact ⟨.refl hs, .refused _⟩
  next st hget =>
  split
  · exact ⟨.refl hs, .refused _⟩
  next h hsend =>
  have hview := view_send_of_send hs hget hsend
  split
  · exact ⟨.refl hs, .refused _⟩
  next hterminal =>
  obtain ⟨hfollows, hreaped⟩ := reap_abandonSend_outcome hs hget h (s.abandonSend id h).events
  exact ⟨hfollows, .abandoned hview (Bool.eq_false_iff.2 hterminal) hreaped⟩

/-- Abandoning a receiving half has the effect of that. -/
theorem stopSending_outcome (hs : s.Orderly) (id : StreamId) :
    s.Follows (s.stopSending id).2 ∧
      s.view.Stop id (s.stopSending id).1 (s.stopSending id).2.view := by
  rw [stopSending]
  split
  · exact ⟨.refl hs, .refused _⟩
  split
  · exact ⟨.refl hs, .refused _⟩
  next st hget =>
  split
  · exact ⟨.refl hs, .refused _⟩
  next h hrecv =>
  have hview := view_recv_of_recv hs hget hrecv
  split
  · exact ⟨.refl hs, .refused _⟩
  next hterminal =>
  obtain ⟨hfollows, hreaped⟩ := reap_setRecv_outcome hs hget h.stop
    (s.recvWindow.read h.buffer.buffered) s.events
  exact ⟨hfollows, .abandoned hview (Bool.eq_false_iff.2 hterminal) hreaped⟩

/-! An application names only live streams, at least if it is not refused. -/

/-- A stream that was written to is live, and live streams have identifiers that fit. -/
theorem fits_of_write (hs : s.Orderly) {data : Bytes} {fin : Bool} {out : WriteOutcome}
    (h : (s.write id data fin).1 = .ok out) : id.Fits := by
  rw [write] at h
  split at h
  · cases h
  · next half hhalf =>
    obtain ⟨-, st, hget, -⟩ := writableHalf_eq_ok hhalf
    exact hs.fits hget

/-- A stream that was abandoned was live, and live streams have identifiers that fit. -/
theorem fits_of_resetStream (hs : s.Orderly) (h : (s.resetStream id).1 = .ok ()) : id.Fits := by
  rw [resetStream] at h
  split at h
  · cases h
  split at h
  · cases h
  · next st hget => exact hs.fits hget

/-- A stream that was stopped was live, and live streams have identifiers that fit. -/
theorem fits_of_stopSending (hs : s.Orderly) {n : Nat} (h : (s.stopSending id).1 = .ok n) :
    id.Fits := by
  rw [stopSending] at h
  split at h
  · cases h
  split at h
  · cases h
  · next st hget => exact hs.fits hget

/-! ### Reports

What the peer does. A report is taken apart by `onNamed_cases`: it is ignored, it is
refused when its stream is opened, or it is about a live stream. Only the last case is
about the report itself. -/

/-- Counting has the effect of counting, and the stream is still live afterwards: what is to
be done with it can look it up again. -/
theorem countReceived_outcome (hs : s.Orderly) (hget : s.streams.get? id = some st) (h : RecvHalf)
    (upTo : Nat) :
    s.Follows (s.countReceived id h upTo).2 ∧
      s.view.Count id h upTo (s.countReceived id h upTo).1 (s.countReceived id h upTo).2.view ∧
      ∃ st', (s.countReceived id h upTo).2.streams.get? id = some st' := by
  rw [countReceived]
  split
  · next e hreceive =>
    obtain ⟨hlimit, rfl⟩ := RecvWindow.receive_eq_error_iff.1 hreceive
    exact ⟨.refl hs, .beyondStream hlimit, st, hget⟩
  next window hreceive =>
  obtain ⟨hlimit, rfl⟩ := RecvWindow.receive_eq_ok_iff.1 hreceive
  have hfollows : s.Follows (s.setRecv id (h.reach upTo)) := (keeps_setRecv s id _).follows hs
  have hget' := get?_setRecv hget (h.reach upTo)
  have hview := view_setRecv hs hget (h.reach upTo)
  simp only
  split
  · next hgrown =>
    -- nothing is new, so the limit of the connection is not asked
    have hcounted : s.view.Count id h upTo _ _ :=
      .counted hlimit (.inr (Nat.le_of_sub_eq_zero hgrown))
    rw [hgrown, View.receive_zero] at hcounted
    exact ⟨hfollows, hview ▸ hcounted, _, hget'⟩
  next hgrown =>
  split
  · next e hconn =>
    obtain ⟨hbeyond, rfl⟩ := RecvWindow.receive_eq_error_iff.1 hconn
    exact ⟨hfollows, hview ▸ .beyondConnection hlimit hbeyond, _, hget'⟩
  · next conn hconn =>
    obtain ⟨hwithin, rfl⟩ := RecvWindow.receive_eq_ok_iff.1 hconn
    refine ⟨((keeps_setRecv s id _).trans (keeps_recvWindow _ _)).follows hs, ?_, _, hget'⟩
    have hview' := congrArg (fun v : View => v.receive (upTo - h.window.received)) hview
    have hcounted : s.view.Count id h upTo _ _ := .counted hlimit (.inl hwithin)
    rw [← hview'] at hcounted
    exact hcounted

/-- Counting on a stopped stream has the effect of settling. -/
theorem settleStopped_outcome (hs : s.Orderly) (hget : s.streams.get? id = some st) (h : RecvHalf)
    (upTo : Nat) (isFinal : Bool) :
    s.Follows (s.settleStopped id h upTo isFinal).2 ∧
      s.view.Settle id h upTo isFinal (s.settleStopped id h upTo isFinal).1
        (s.settleStopped id h upTo isFinal).2.view := by
  obtain ⟨hfollows, hcount, st', hget'⟩ := countReceived_outcome hs hget h upTo
  refine settleStopped_cases (P := fun r => s.Follows r.2 ∧
    s.view.Settle id h upTo isFinal r.1 r.2.view) ?misplaced ?overrun ?settled
  case misplaced => exact fun hfinal hbefore => ⟨.refl hs, .misplaced hfinal hbefore⟩
  case overrun =>
    intro e s' heq
    rw [heq] at hfollows hcount
    exact ⟨hfollows, .overrun hcount⟩
  case settled =>
    intro s' hplaced heq
    rw [heq] at hfollows hcount hget'
    obtain ⟨hfollows', hreaped⟩ := reap_setRecv_outcome hfollows.orderly hget'
      (h.settle upTo isFinal) (s'.recvWindow.grant (upTo - h.window.received)) s'.events
    exact ⟨hfollows.trans hfollows', .settled hplaced hcount hreaped⟩

/-- How a report on one stream begins, in the view: naming a stream leaves the view alone,
and a stream that may not be opened has not been used. -/
theorem onNamed_outcome {α : Type} {ignored : α}
    {report : StreamSet → Stream → Except TransportError α × StreamSet} (hs : s.Orderly)
    (hid : id.Fits) {P : Except TransportError α × StreamSet → Prop}
    (frozen : s.frozen = true → P (.ok ignored, s))
    (refused : ∀ e, e = .violation .streamStateError ∨ e = .violation .streamLimitError →
      ¬ s.Used id → P (.error e, s))
    (gone : s.view.recv id = none → P (.ok ignored, s))
    (live : ∀ s' st, s.frozen = false → s.Follows s' → s'.view = s.view →
      s'.streams.get? id = some st → P (report s' st)) :
    P (s.onNamed id ignored report) := by
  refine onNamed_cases frozen (fun e _ hopen => ?_) (fun _ hopen => ?_)
    (fun s' _ hopen hget => ?_) fun s' st hrunning hopen hget => ?_
  · obtain ⟨he, hused⟩ := error_of_ensureOpen hopen
    exact refused e he hused
  · refine gone ?_
    simp only [view, peek_of_ensureOpen_eq_none hopen]
    rfl
  · obtain ⟨st, hlive⟩ := live_of_ensureOpen hid hopen
    rw [hget] at hlive
    cases hlive
  · have hopens := opens_of_ensureOpen hs hid hopen
    exact live s' st hrunning hopens.follows hopens.view hget

/-- Data for a live stream has the effect of data, in a set that is not frozen. -/
theorem takeData_outcome (hs : s.Orderly) (hget : s.streams.get? id = some st) (offset : Nat)
    (data : Bytes) (fin : Bool) :
    s.Follows (s.takeData id offset data fin st).2 ∧
      s.view.Data false id offset data fin (s.takeData id offset data fin st).1
        (s.takeData id offset data fin st).2.view := by
  have hcounts (h : RecvHalf) := countReceived_outcome hs hget h (offset + data.length)
  refine takeData_cases (P := fun r => s.Follows r.2 ∧
    s.view.Data false id offset data fin r.1 r.2.view)
    ?deaf ?unsized ?stopped ?terminal ?overrun ?misfit ?filled
  case deaf =>
    intro hrecv
    refine ⟨.refl hs, .refused (.inl rfl) fun h hh => ?_⟩
    rw [view_recv_of_get? hs hget, hrecv] at hh
    cases hh
  case unsized =>
    intro h hrecv hsize
    exact ⟨.refl hs, .unsized (view_recv_of_recv hs hget hrecv) hsize⟩
  case stopped =>
    intro h hrecv hsize hstopped
    obtain ⟨hfollows, hsettle⟩ := settleStopped_outcome hs hget h (offset + data.length) fin
    exact ⟨hfollows, .settled rfl (view_recv_of_recv hs hget hrecv) hsize hstopped hsettle⟩
  case terminal =>
    intro h hrecv hstopped hterminal
    refine ⟨.refl hs, .ignored fun h' _ hh' => ?_⟩
    obtain rfl := Option.some.inj ((view_recv_of_recv hs hget hrecv).symm.trans hh')
    exact ⟨hstopped, hterminal⟩
  case overrun =>
    intro h e s' hrecv _ heq
    obtain ⟨hfollows, hcount, -⟩ := hcounts h
    rw [heq] at hfollows hcount
    exact ⟨hfollows, .overrun (view_recv_of_recv hs hget hrecv) hcount⟩
  case misfit =>
    -- what was counted stays counted, although the buffer refuses the data
    intro h e s' hrecv hstopped _ heq hinsert
    obtain ⟨hfollows, hcount, -⟩ := hcounts h
    rw [heq] at hfollows hcount
    exact ⟨hfollows, .misfit (view_recv_of_recv hs hget hrecv) hcount hinsert hstopped⟩
  case filled =>
    intro h s' added buffer hrecv hstopped hlive heq hinsert
    obtain ⟨hfollows, hcount, st', hget'⟩ := hcounts h
    rw [heq] at hfollows hcount hget'
    have hkeeps := (keeps_setRecv s' id ((h.reach (offset + data.length)).fill buffer fin)).trans
      (keeps_events _ (s'.events ++ h.fillTells id added fin))
    have hview := view_setRecv hfollows.orderly hget'
      ((h.reach (offset + data.length)).fill buffer fin)
    have hfilled : s.view.Data false id offset data fin (.ok 0) _ :=
      .filled rfl (view_recv_of_recv hs hget hrecv) hstopped hlive hcount hinsert
    rw [← hview] at hfilled
    exact ⟨hfollows.trans (hkeeps.follows hfollows.orderly), hfilled⟩

/-- Data has the effect of data. The stream may be opened by it, which the view does not
show: it shows a stream that can still come as it will be when it comes. -/
theorem onStreamData_outcome (hs : s.Orderly) (hid : id.Fits) (offset : Nat) (data : Bytes)
    (fin : Bool) :
    s.Follows (s.onStreamData id offset data fin).2 ∧
      s.view.Data s.frozen id offset data fin (s.onStreamData id offset data fin).1
        (s.onStreamData id offset data fin).2.view := by
  refine onNamed_outcome (P := fun r => s.Follows r.2 ∧
    s.view.Data s.frozen id offset data fin r.1 r.2.view) hs hid ?frozen ?refused ?gone ?live
  case frozen =>
    exact fun hfrozen => ⟨.refl hs, .ignored fun h hlive => nomatch hfrozen.symm.trans hlive⟩
  case refused =>
    exact fun e he hused =>
      ⟨.refl hs, .refused he fun h hrecv => ⟨_, eq_of_view_recv_of_not_used hused hrecv⟩⟩
  case gone =>
    exact fun hgone => ⟨.refl hs, .ignored fun h _ hrecv => nomatch hgone.symm.trans hrecv⟩
  case live =>
    intro s' st hrunning hfollows hview hget
    obtain ⟨hfollows', hdata⟩ := takeData_outcome hfollows.orderly hget offset data fin
    rw [hview, ← hrunning] at hdata
    exact ⟨hfollows.trans hfollows', hdata⟩

/-- The end of the peer's half of a live stream has the effect of that. -/
theorem takeReset_outcome (hs : s.Orderly) (hget : s.streams.get? id = some st)
    (errorCode finalSize : Nat) :
    s.Follows (s.takeReset id errorCode finalSize st).2 ∧
      s.view.PeerReset false id finalSize (s.takeReset id errorCode finalSize st).1
        (s.takeReset id errorCode finalSize st).2.view := by
  refine takeReset_cases (P := fun r => s.Follows r.2 ∧
    s.view.PeerReset false id finalSize r.1 r.2.view)
    ?deaf ?stopped ?terminal ?misplaced ?overrun ?ended
  case deaf =>
    intro hrecv
    refine ⟨.refl hs, .refused (.inl rfl) fun h hh => ?_⟩
    rw [view_recv_of_get? hs hget, hrecv] at hh
    cases hh
  case stopped =>
    intro h hrecv hstopped
    obtain ⟨hfollows, hsettle⟩ := settleStopped_outcome hs hget h finalSize true
    exact ⟨hfollows, .settled rfl (view_recv_of_recv hs hget hrecv) hstopped hsettle⟩
  case terminal =>
    intro h hrecv hstopped hterminal
    refine ⟨.refl hs, .ignored fun h' _ hh' => ?_⟩
    obtain rfl := Option.some.inj ((view_recv_of_recv hs hget hrecv).symm.trans hh')
    exact ⟨hstopped, hterminal⟩
  case misplaced =>
    intro h hrecv hmisplaced
    exact ⟨.refl hs, .misplaced (view_recv_of_recv hs hget hrecv) hmisplaced⟩
  case overrun =>
    intro h e s' hrecv _ heq
    obtain ⟨hfollows, hcount, -⟩ := countReceived_outcome hs hget h finalSize
    rw [heq] at hfollows hcount
    exact ⟨hfollows, .overrun (view_recv_of_recv hs hget hrecv) hcount⟩
  -- counted, then closed, then reaped: three followings in a row, and the window moves in
  -- the last
  case ended =>
    intro h s' hrecv hstopped hlive hreceived hknown heq
    obtain ⟨hfollows, hcount, st', hget'⟩ := countReceived_outcome hs hget h finalSize
    rw [heq] at hfollows hcount hget'
    obtain ⟨hfollows', hreaped⟩ := reap_setRecv_outcome hfollows.orderly hget' (h.close finalSize)
      (s'.recvWindow.read (finalSize - h.window.consumed))
      (s'.events ++ [.streamReset id errorCode])
    exact ⟨hfollows.trans hfollows', .ended rfl (view_recv_of_recv hs hget hrecv) hstopped hlive
      hreceived hknown hcount hreaped⟩

/-- The end of the peer's half has the effect of that, as for data. -/
theorem onStreamReset_outcome (hs : s.Orderly) (hid : id.Fits) (errorCode finalSize : Nat) :
    s.Follows (s.onStreamReset id errorCode finalSize).2 ∧
      s.view.PeerReset s.frozen id finalSize (s.onStreamReset id errorCode finalSize).1
        (s.onStreamReset id errorCode finalSize).2.view := by
  refine onNamed_outcome (P := fun r => s.Follows r.2 ∧
    s.view.PeerReset s.frozen id finalSize r.1 r.2.view) hs hid ?frozen ?refused ?gone ?live
  case frozen =>
    exact fun hfrozen => ⟨.refl hs, .ignored fun h hlive => nomatch hfrozen.symm.trans hlive⟩
  case refused =>
    exact fun e he hused =>
      ⟨.refl hs, .refused he fun h hrecv => ⟨_, eq_of_view_recv_of_not_used hused hrecv⟩⟩
  case gone =>
    exact fun hgone => ⟨.refl hs, .ignored fun h _ hrecv => nomatch hgone.symm.trans hrecv⟩
  case live =>
    intro s' st hrunning hfollows hview hget
    obtain ⟨hfollows', hreset⟩ := takeReset_outcome hfollows.orderly hget errorCode finalSize
    rw [hview, ← hrunning] at hreset
    exact ⟨hfollows.trans hfollows', hreset⟩

/-- That the peer wants no more has the effect of that. -/
theorem onStopSending_outcome (hs : s.Orderly) (hid : id.Fits) (errorCode : Nat) :
    s.Follows (s.onStopSending id errorCode).2 ∧
      s.view.PeerStop id (s.onStopSending id errorCode).1
        (s.onStopSending id errorCode).2.view := by
  refine onNamed_outcome (P := fun r => s.Follows r.2 ∧ s.view.PeerStop id r.1 r.2.view) hs hid
    (fun _ => ⟨.refl hs, .ignored⟩) (fun e he _ => ⟨.refl hs, .refused he⟩)
    (fun _ => ⟨.refl hs, .ignored⟩) fun s' st _ hfollows hview hget => ?_
  rw [← hview]
  refine takeStop_cases (P := fun r => s.Follows r.2 ∧ s'.view.PeerStop id r.1 r.2.view)
    (fun _ => ⟨hfollows, .refused (.inl rfl)⟩) (fun _ _ _ => ⟨hfollows, .ignored⟩)
    fun h hsend hlive => ?_
  obtain ⟨hfollows', hreaped⟩ := reap_abandonSend_outcome hfollows.orderly hget h
    ((s'.abandonSend id h).events ++ [.stopSending id errorCode])
  exact ⟨hfollows.trans hfollows',
    .abandoned (view_send_of_send hfollows.orderly hget hsend) hlive hreaped⟩

/-! ### Limits and acknowledgements

Reports that open no stream. A stale limit has no effect; neither has an acknowledgement
of a stream that is not live. -/

/-- A sending half that is found belongs to a live stream. -/
theorem sendHalf?_eq_some {h : SendHalf} (hh : s.sendHalf? id = some h) :
    ∃ st, s.streams.get? id = some st ∧ st.send = some h := by
  rw [sendHalf?] at hh
  exact Option.bind_eq_some_iff.1 hh

/-- A limit for one stream has the effect of raising it, or none. -/
theorem onMaxStreamData_outcome (hs : s.Orderly) (id : StreamId) (limit : Nat) :
    s.Follows (s.onMaxStreamData id limit) ∧
      s.view.Raise id limit (s.onMaxStreamData id limit).view := by
  rw [onMaxStreamData]
  split
  · exact ⟨.refl hs, .stale⟩
  split
  · exact ⟨.refl hs, .stale⟩
  next h hsend =>
  obtain ⟨st, hget, hsend⟩ := sendHalf?_eq_some hsend
  have hview := view_send_of_send hs hget hsend
  split
  · exact ⟨.refl hs, .stale⟩
  next hlimit =>
  have hraised := View.Raise.raised hview (Nat.not_le.1 hlimit)
  simp only
  split
  · have hkeeps := (keeps_setSend s id { h.extend limit with blocked := false }).trans
      (keeps_unpark _ id)
    refine ⟨(hkeeps.trans (keeps_emit _ _)).follows hs, ?_⟩
    rw [view_emit, view_unpark, view_setSend hs hget]
    exact hraised
  · refine ⟨(keeps_setSend s id _).follows hs, ?_⟩
    rw [view_setSend hs hget]
    exact hraised

/-- A limit for the connection has the effect of raising it, or none; waking the parked
streams is not in view. -/
theorem onMaxData_outcome (hs : s.Orderly) (limit : Nat) :
    s.Follows (s.onMaxData limit) ∧ s.view.RaiseAll limit (s.onMaxData limit).view := by
  rw [onMaxData]
  split
  · exact ⟨.refl hs, .stale⟩
  · refine ⟨((keeps_sendWindow s _).trans (keeps_wakeParked _)).follows hs, ?_⟩
    rw [view_wakeParked]
    exact .raised

/-- How many streams may be opened is not in view. -/
theorem onMaxStreams_outcome (hs : s.Orderly) (d : Direction) (n : Nat) :
    s.Follows (s.onMaxStreams d n) ∧ (s.onMaxStreams d n).view = s.view := by
  rw [onMaxStreams]
  split
  · exact ⟨.refl hs, rfl⟩
  · exact ⟨(keeps_raisePeerMax s d n).follows hs, view_raisePeerMax s d n⟩

/-- Only live halves count, and only as long as nothing has stopped. -/
theorem onStreamAcked_eq (s : StreamSet) (id : StreamId) (n : Nat) :
    s.onStreamAcked id n = s ∨ s.frozen = false ∧ ∃ h, s.sendHalf? id = some h ∧
      s.onStreamAcked id n = (s.setSend id (h.acknowledge n)).reap id := by
  rw [onStreamAcked]
  split
  · exact .inl rfl
  next hfrozen =>
  split
  · exact .inl rfl
  · next h hlive => exact .inr ⟨Bool.eq_false_iff.2 hfrozen, h, hlive, rfl⟩

/-- An acknowledgement has the effect of acknowledging. -/
theorem onStreamAcked_outcome (hs : s.Orderly) (id : StreamId) (n : Nat) :
    s.Follows (s.onStreamAcked id n) ∧ s.view.Acked id n (s.onStreamAcked id n).view := by
  rcases s.onStreamAcked_eq id n with heq | ⟨-, h, hlive, heq⟩
  · rw [heq]
    exact ⟨.refl hs, .ignored⟩
  rw [heq]
  obtain ⟨st, hget, hsend⟩ := sendHalf?_eq_some hlive
  have hview := view_send_of_send hs hget hsend
  have hkeeps := keeps_setSend s id (h.acknowledge n)
  have hreaped := reaped_reap (hkeeps.orderly hs) id
  rw [view_setSend hs hget] at hreaped
  exact ⟨(hkeeps.trans (keeps_reap _ id)).follows hs, .counted hview hreaped⟩

/-! ### The handshake

The completed handshake puts the peer's parameters in force. It is the one operation that
changes the setup, and with it what is seen of streams that are still to come. -/

/-- The streams with the peer's parameters in force, before anybody is told. -/
def raise (s : StreamSet) (peer : TransportParameters) : StreamSet :=
  { s with
    peerParams := some peer
    sendWindow := s.sendWindow.extend peer.initialMaxData
    streams := s.streams.map fun id st =>
      { st with send := st.send.map fun (h : SendHalf) =>
        h.extend (sendLimitFor s.side (some peer) id) } }

/-- Once the limits are set, the completed handshake only wakes and tells. -/
theorem keeps_onHandshakeCompleted (hfrozen : s.frozen = false) (peer : TransportParameters) :
    (s.raise peer).Keeps (s.onHandshakeCompleted peer) ∧
      (s.onHandshakeCompleted peer).view = (s.raise peer).view := by
  rw [onHandshakeCompleted, if_neg (Bool.eq_false_iff.1 hfrozen)]
  constructor
  · exact ((keeps_raisePeerMax (s.raise peer) _ _).trans (keeps_raisePeerMax _ _ _)).trans
      (keeps_wakeParked _)
  · rw [view_wakeParked, view_raisePeerMax, view_raisePeerMax]
    rfl

/-- Setting the limits of the peer's parameters opens and removes nothing. -/
theorem orderly_raise (hs : s.Orderly) (peer : TransportParameters) : (s.raise peer).Orderly where
  used hl := by
    rw [raise, Table.get?_map] at hl
    obtain ⟨st, hst, -⟩ := Option.map_eq_some_iff.1 hl
    exact hs.used hst
  fits hl := by
    rw [raise, Table.get?_map] at hl
    obtain ⟨st, hst, -⟩ := Option.map_eq_some_iff.1 hl
    exact hs.fits hst
  nextLocal_le := hs.nextLocal_le

/-- The completed handshake leaves the streams orderly, and of the setup it
changes the peer's parameters. -/
theorem setup_onHandshakeCompleted (hs : s.Orderly) (peer : TransportParameters) :
    (s.onHandshakeCompleted peer).Orderly ∧ (s.onHandshakeCompleted peer).side = s.side ∧
      (s.onHandshakeCompleted peer).localParams = s.localParams ∧
      (s.onHandshakeCompleted peer).frozen = s.frozen ∧
      (s.onHandshakeCompleted peer).peerParams = if s.frozen then s.peerParams else some peer := by
  by_cases hfrozen : s.frozen = true
  · rw [onHandshakeCompleted, if_pos hfrozen, if_pos hfrozen]
    exact ⟨hs, rfl, rfl, rfl, rfl⟩
  · rw [if_neg hfrozen]
    obtain ⟨hkeeps, -⟩ := keeps_onHandshakeCompleted (Bool.eq_false_iff.2 hfrozen) peer
    exact ⟨hkeeps.orderly (orderly_raise hs peer), hkeeps.side, hkeeps.localParams, hkeeps.frozen,
      hkeeps.peerParams⟩

/-- A stream that was used and is gone stays gone; any other has the limit that the peer's
parameters give it. -/
theorem peek_raise (peer : TransportParameters) (id : StreamId) :
    (s.raise peer).peek id =
      if s.Used id then (s.streams.get? id).map fun st =>
        { st with send := st.send.map (·.extend (sendLimitFor s.side (some peer) id)) }
      else some { s.newStream id with
        send := (s.newStream id).send.map fun _ =>
          .ofLimit (sendLimitFor s.side (some peer) id) } := by
  have hused : (s.raise peer).Used id ↔ s.Used id := Iff.rfl
  rw [peek]
  simp only [hused]
  by_cases h : s.Used id
  · rw [if_pos h, if_pos h, raise, Table.get?_map]
  · rw [if_neg h, if_neg h]
    by_cases hsend : id.direction = .bidi ∨ id.IsLocal s.side
    · simp only [newStream, raise, hsend, ↓reduceIte, Option.map_some]
      rfl
    · simp only [newStream, raise, hsend, ↓reduceIte, Option.map_none]
      rfl

/-- The sending halves after the handshake. A stream that was not opened yet has
just the peer's limit. -/
theorem view_send_raise (peer : TransportParameters) (id : StreamId) :
    (s.raise peer).view.send id = (s.view.send id).map fun h =>
      if s.Used id then h.extend (sendLimitFor s.side (some peer) id)
      else .ofLimit (sendLimitFor s.side (some peer) id) := by
  simp only [view]
  rw [peek_raise, peek]
  by_cases hused : s.Used id
  · simp only [hused, ↓reduceIte]
    rcases s.streams.get? id with _ | ⟨_ | h, _⟩ <;> rfl
  · simp only [hused, ↓reduceIte]
    rcases hnew : s.newStream id with ⟨_ | h, r⟩ <;> rfl

/-- The peer's parameters say nothing about receiving. -/
theorem view_recv_raise (peer : TransportParameters) : (s.raise peer).view.recv = s.view.recv := by
  funext id
  simp only [view]
  rw [peek_raise, peek]
  by_cases hused : s.Used id
  · simp only [hused, ↓reduceIte]
    rcases s.streams.get? id <;> rfl
  · simp only [hused, ↓reduceIte]
    rfl

/-- Whatever parameters the peer announced, the handshake sets limits for
sending and changes nothing else. -/
theorem onHandshakeCompleted_outcome (s : StreamSet) (peer : TransportParameters) :
    s.view.Handshake (s.onHandshakeCompleted peer).view := by
  by_cases hfrozen : s.frozen = true
  · rw [onHandshakeCompleted, if_pos hfrozen]
    refine ⟨fun id => ?_, rfl, rfl, rfl⟩
    rcases s.view.send id with _ | h
    · exact ⟨0, rfl⟩
    · exact ⟨h.window.limit, rfl⟩
  rw [(keeps_onHandshakeCompleted (Bool.eq_false_iff.2 hfrozen) peer).2]
  refine ⟨fun id => ?_, rfl, view_recv_raise peer, rfl⟩
  rw [view_send_raise]
  rcases hview : s.view.send id with _ | h
  · exact ⟨0, rfl⟩
  by_cases hused : s.Used id
  · refine ⟨max h.window.limit (sendLimitFor s.side (some peer) id), ?_⟩
    simp only [hused, ↓reduceIte, Option.map_some]
    rfl
  · refine ⟨sendLimitFor s.side (some peer) id, ?_⟩
    simp only [hused, ↓reduceIte, Option.map_some, eq_of_view_send_of_not_used hused hview]
    rfl

/-- If the peer announced no other parameters before, the limits of all streams
rise to the peer's. -/
theorem view_onHandshakeCompleted {peer : TransportParameters} (hfrozen : s.frozen = false)
    (hpeer : s.peerParams = none ∨ s.peerParams = some peer) :
    (s.onHandshakeCompleted peer).view = { s.view with
      send := fun id => (s.view.send id).map (·.extend (sendLimitFor s.side (some peer) id))
      sendWindow := s.sendWindow.extend peer.initialMaxData } := by
  rw [(keeps_onHandshakeCompleted hfrozen peer).2]
  have hsend : (s.raise peer).view.send =
      fun id => (s.view.send id).map (·.extend (sendLimitFor s.side (some peer) id)) := by
    funext id
    rw [view_send_raise]
    rcases hview : s.view.send id with _ | h
    · rfl
    by_cases hused : s.Used id
    · simp only [hused, ↓reduceIte]
    · obtain rfl := eq_of_view_send_of_not_used hused hview
      have hlimit : sendLimitFor s.side s.peerParams id ≤ sendLimitFor s.side (some peer) id := by
        rcases hpeer with hpeer | hpeer
        · rw [hpeer]
          exact Nat.zero_le _
        · exact Nat.le_of_eq (by rw [hpeer])
      simp only [hused, ↓reduceIte, Option.map_some, SendHalf.extend, SendHalf.ofLimit,
        SendWindow.extend,
        SendWindow.ofLimit, Nat.max_eq_right hlimit]
  rw [← hsend]
  exact congrArg (fun recv => View.mk _ recv _ _) (view_recv_raise peer)

end

end StreamSet

end QuicHost
