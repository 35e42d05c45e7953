import QuicHost.Proofs.Stream.Buffer
import QuicHost.Proofs.Stream.Halves
import QuicHost.Proofs.Stream.Opening

/-!
# How reports go

Three reports name a stream that the peer may have opened with them: data, an abandoned
half, and that the peer wants no more. All of them begin in the same way
(`onNamed_cases`), and what a live stream makes of each is told apart here, once
(`takeData_cases`, `takeReset_cases`, `takeStop_cases`). Whoever proves something of the
reports proves it for each way in which they can go.

What a report is refused for is a violation. Only naming a stream can exceed the number
of streams (`error_of_onNamed`).
-/

namespace QuicHost.StreamSet

section

variable {s s' : StreamSet} {id : StreamId}

/-! ## Naming a stream

A report is ignored when everything has stopped or the stream is gone; it is refused when
the stream cannot be opened; otherwise its stream is live. `onNamed_cases` is this as a
rule for proving something of a report, and `onNamed_rel` the same for what can be
composed. -/

section

variable {α : Type} {ignored : α}
  {report : StreamSet → Stream → Except TransportError α × StreamSet}

/-- **How a report on one stream begins.** Everything has stopped, or the stream may not be
opened, or it is gone, or the report goes to the stream, which is live now. That a stream
is missing right after it was opened happens only if its identifier does not fit a word. -/
theorem onNamed_cases {P : Except TransportError α × StreamSet → Prop}
    (frozen : s.frozen = true → P (.ok ignored, s))
    (refused : ∀ e, s.frozen = false → s.ensureOpen id = .error e → P (.error e, s))
    (gone : s.frozen = false → s.ensureOpen id = .ok none → P (.ok ignored, s))
    (missing : ∀ s', s.frozen = false → s.ensureOpen id = .ok (some s') →
      s'.streams.get? id = none → P (.ok ignored, s'))
    (live : ∀ s' st, s.frozen = false → s.ensureOpen id = .ok (some s') →
      s'.streams.get? id = some st → P (report s' st)) :
    P (s.onNamed id ignored report) := by
  rw [onNamed]
  split
  · next hfrozen => exact frozen hfrozen
  next hfrozen =>
  have hrunning := Bool.eq_false_iff.2 hfrozen
  split
  · next e hopen => exact refused e hrunning hopen
  · next hopen => exact gone hrunning hopen
  next s' hopen =>
  split
  · next hget => exact missing s' hrunning hopen hget
  · next st hget => exact live s' st hrunning hopen hget

/-- A relation between streams before and after that holds if nothing happens, and of
naming a stream, holds of the report if the stream keeps it. -/
theorem onNamed_rel {R : StreamSet → StreamSet → Prop} (refl : R s s)
    (named : ∀ s', s.frozen = false → s.ensureOpen id = .ok (some s') → R s s')
    (live : ∀ s' st, s.frozen = false → s.ensureOpen id = .ok (some s') →
      s'.streams.get? id = some st → R s (report s' st).2) :
    R s (s.onNamed id ignored report).2 :=
  onNamed_cases (P := fun r => R s r.2) (fun _ => refl) (fun _ _ _ => refl) (fun _ _ => refl)
    (fun s' hrunning hopen _ => named s' hrunning hopen) live

/-- Once everything has stopped, a report is ignored. -/
theorem onNamed_of_frozen (hfrozen : s.frozen = true) :
    s.onNamed id ignored report = (.ok ignored, s) :=
  if_pos hfrozen

/-- A report on a stream that may not be opened is answered with the reason, and changes
nothing. -/
theorem onNamed_of_error (hrunning : s.frozen = false) {e : TransportError}
    (hopen : s.ensureOpen id = .error e) : s.onNamed id ignored report = (.error e, s) := by
  rw [onNamed, if_neg (Bool.eq_false_iff.1 hrunning), hopen]

end

/-! ## Counting

What arrives is counted by the stream first and by the connection then. If the connection
refuses, the stream has counted already. -/

/-- What counting may come to: nothing changes, or the half has received as much, and the
window of the connection may be another. -/
theorem countReceived_eq {h : RecvHalf} {upTo : Nat} {r : Except TransportError RecvHalf}
    (hcount : s.countReceived id h upTo = (r, s')) :
    (∃ e, r = .error e) ∧ s' = s ∨
      ∃ conn, s' = { s.setRecv id (h.reach upTo) with recvWindow := conn } ∧
        ((∃ e, r = .error e) ∨ r = .ok (h.reach upTo)) := by
  rw [countReceived] at hcount
  split at hcount
  · next e _ =>
    obtain ⟨rfl, rfl⟩ := Prod.mk.inj hcount
    exact .inl ⟨⟨e, rfl⟩, rfl⟩
  next window hreceive =>
  obtain ⟨-, rfl⟩ := RecvWindow.receive_eq_ok_iff.1 hreceive
  simp only at hcount
  split at hcount
  · obtain ⟨rfl, rfl⟩ := Prod.mk.inj hcount
    exact .inr ⟨s.recvWindow, rfl, .inr rfl⟩
  split at hcount
  · next e _ =>
    obtain ⟨rfl, rfl⟩ := Prod.mk.inj hcount
    exact .inr ⟨s.recvWindow, rfl, .inl ⟨e, rfl⟩⟩
  · next conn _ =>
    obtain ⟨rfl, rfl⟩ := Prod.mk.inj hcount
    exact .inr ⟨conn, rfl, .inr rfl⟩

/-- What was counted is the half, which has received as much now. -/
theorem eq_reach_of_countReceived {h counted : RecvHalf} {upTo : Nat}
    (hcount : s.countReceived id h upTo = (.ok counted, s')) : counted = h.reach upTo := by
  rcases countReceived_eq hcount with ⟨⟨e, he⟩, -⟩ | ⟨_, -, ⟨e, he⟩ | hok⟩
  · cases he
  · cases he
  · exact Except.ok.inj hok

/-- How counting on a stopped stream goes: the end is misplaced, or credit is overrun, or
what was counted is granted again, which may end the stream. -/
theorem settleStopped_cases {h : RecvHalf} {upTo : Nat} {isFinal : Bool}
    {P : Except TransportError Nat × StreamSet → Prop}
    (misplaced : isFinal = true → upTo < h.window.received →
      P (.error (.violation .finalSizeError), s))
    (overrun : ∀ e s', s.countReceived id h upTo = (.error e, s') → P (.error e, s'))
    (settled : ∀ s', (isFinal = true → h.window.received ≤ upTo) →
      s.countReceived id h upTo = (.ok (h.reach upTo), s') →
      P (.ok (upTo - h.window.received),
        { s'.setRecv id (h.settle upTo isFinal) with
          recvWindow := s'.recvWindow.grant (upTo - h.window.received) }.reap id)) :
    P (s.settleStopped id h upTo isFinal) := by
  rw [settleStopped]
  split
  · next hmisplaced =>
    simp only [Bool.and_eq_true, decide_eq_true_eq] at hmisplaced
    exact misplaced hmisplaced.1 hmisplaced.2
  next hplaced =>
  simp only [Bool.and_eq_true, decide_eq_true_eq, not_and, Nat.not_lt] at hplaced
  split
  · next e s' heq => exact overrun e s' heq
  next counted s' heq =>
  obtain rfl := eq_reach_of_countReceived heq
  -- nothing is granted on either window if nothing is new
  have hgranted : (if upTo - h.window.received = 0 then h.reach upTo
      else (h.reach upTo).release (upTo - h.window.received)) =
      { h.reach upTo with window := (h.reach upTo).window.grant (upTo - h.window.received) } := by
    rw [RecvWindow.grant]
    split <;> rfl
  simp only [hgranted]
  exact settled s' hplaced heq

/-! ## What a live stream makes of a report

One rule for each report, with a case for each way in which it can go, in the order in
which the code decides. -/

/-- Telling of up to two things adds the two to the events. -/
theorem emit_fillTells (s : StreamSet) (id : StreamId) (h : RecvHalf) (added : Nat) (fin : Bool) :
    (if (fin && h.buffer.finalSize.isNone) = true then
      (if 0 < added then s.emit (.streamReadable id) else s).emit (.streamFinished id)
      else if 0 < added then s.emit (.streamReadable id) else s) =
      { s with events := s.events ++ h.fillTells id added fin } := by
  rw [RecvHalf.fillTells]
  split <;> split <;> simp [emit]

/-- How data goes. What the buffer refuses was counted already. -/
theorem takeData_cases {offset : Nat} {data : Bytes} {fin : Bool} {st : Stream}
    {P : Except TransportError Nat × StreamSet → Prop}
    (deaf : st.recv = none → P (.error (.violation .streamStateError), s))
    (unsized : ∀ h, st.recv = some h → maxWord < offset + data.length →
      P (.error (.violation .flowControlError), s))
    (stopped : ∀ h, st.recv = some h → offset + data.length ≤ maxWord → h.stopped = true →
      P (s.settleStopped id h (offset + data.length) fin))
    (terminal : ∀ h, st.recv = some h → h.stopped = false → h.state.isTerminal = true →
      P (.ok 0, s))
    (overrun : ∀ h e s', st.recv = some h → h.state.isTerminal = false →
      s.countReceived id h (offset + data.length) = (.error e, s') → P (.error e, s'))
    (misfit : ∀ h e s', st.recv = some h → h.stopped = false → h.state.isTerminal = false →
      s.countReceived id h (offset + data.length) = (.ok (h.reach (offset + data.length)), s') →
      h.buffer.insert offset data fin = .error e → P (.error e, s'))
    (filled : ∀ h s' added buffer, st.recv = some h → h.stopped = false →
      h.state.isTerminal = false →
      s.countReceived id h (offset + data.length) = (.ok (h.reach (offset + data.length)), s') →
      h.buffer.insert offset data fin = .ok (added, buffer) →
      P (.ok 0, { s'.setRecv id ((h.reach (offset + data.length)).fill buffer fin) with
        events := s'.events ++ h.fillTells id added fin })) :
    P (s.takeData id offset data fin st) := by
  -- the splits are the checks in the order they are made; the motive is over the answer
  -- with the set, so both are at hand in every case
  rw [takeData]
  split
  · next hrecv => exact deaf hrecv
  next h hrecv =>
  simp only
  split
  · next hsize => exact unsized h hrecv hsize
  next hsize =>
  split
  · next hstopped => exact stopped h hrecv (Nat.not_lt.1 hsize) hstopped
  next hstopped =>
  rw [Bool.not_eq_true] at hstopped
  split
  · next hterminal => exact terminal h hrecv hstopped hterminal
  next hlive =>
  rw [Bool.not_eq_true] at hlive
  split
  · next e s' hcount => exact overrun h e s' hrecv hlive hcount
  next counted s' hcount =>
  obtain rfl := eq_reach_of_countReceived hcount
  split
  · next e hinsert => exact misfit h e s' hrecv hstopped hlive hcount hinsert
  next added buffer hinsert =>
  have htold := emit_fillTells
    (s'.setRecv id ((h.reach (offset + data.length)).fill buffer fin)) id h added fin
  exact Eq.mpr (congrArg (fun told => P (.ok 0, told)) htold)
    (filled h s' added buffer hrecv hstopped hlive hcount hinsert)

/-- How it goes that the peer abandons its half. -/
theorem takeReset_cases {errorCode finalSize : Nat} {st : Stream}
    {P : Except TransportError Nat × StreamSet → Prop}
    (deaf : st.recv = none → P (.error (.violation .streamStateError), s))
    (stopped : ∀ h, st.recv = some h → h.stopped = true → P (s.settleStopped id h finalSize true))
    (terminal : ∀ h, st.recv = some h → h.stopped = false → h.state.isTerminal = true →
      P (.ok 0, s))
    (misplaced : ∀ h, st.recv = some h →
      finalSize < h.window.received ∨ h.buffer.finalSize.any (· ≠ finalSize) = true →
      P (.error (.violation .finalSizeError), s))
    (overrun : ∀ h e s', st.recv = some h → h.state.isTerminal = false →
      s.countReceived id h finalSize = (.error e, s') → P (.error e, s'))
    (ended : ∀ h s', st.recv = some h → h.stopped = false → h.state.isTerminal = false →
      h.window.received ≤ finalSize → h.buffer.finalSize.any (· ≠ finalSize) = false →
      s.countReceived id h finalSize = (.ok (h.reach finalSize), s') →
      P (.ok (finalSize - h.window.consumed),
        ({ s'.setRecv id (h.close finalSize) with
          recvWindow := s'.recvWindow.read (finalSize - h.window.consumed) }.emit
            (.streamReset id errorCode)).reap id)) :
    P (s.takeReset id errorCode finalSize st) := by
  rw [takeReset]
  split
  · next hrecv => exact deaf hrecv
  next h hrecv =>
  split
  · next hstopped => exact stopped h hrecv hstopped
  next hstopped =>
  rw [Bool.not_eq_true] at hstopped
  split
  · next hterminal => exact terminal h hrecv hstopped hterminal
  next hlive =>
  rw [Bool.not_eq_true] at hlive
  split
  · next hmisplaced => exact misplaced h hrecv hmisplaced
  next hplaced =>
  rw [not_or, Bool.not_eq_true] at hplaced
  split
  · next e s' hcount => exact overrun h e s' hrecv hlive hcount
  next counted s' hcount =>
  obtain rfl := eq_reach_of_countReceived hcount
  exact ended h s' hrecv hstopped hlive (Nat.not_lt.1 hplaced.1) hplaced.2 hcount

/-- How it goes that the peer wants no more. -/
theorem takeStop_cases {errorCode : Nat} {st : Stream}
    {P : Except TransportError Bool × StreamSet → Prop}
    (mute : st.send = none → P (.error (.violation .streamStateError), s))
    (terminal : ∀ h, st.send = some h → h.state.isTerminal = true → P (.ok false, s))
    (abandoned : ∀ h, st.send = some h → h.state.isTerminal = false →
      P (.ok true, ((s.abandonSend id h).emit (.stopSending id errorCode)).reap id)) :
    P (s.takeStop id errorCode st) := by
  rw [takeStop]
  split
  · next hsend => exact mute hsend
  next h hsend =>
  split
  · next hterminal => exact terminal h hsend hterminal
  · next hlive => exact abandoned h hsend (Bool.eq_false_iff.2 hlive)

/-! ## What a report is refused for

Past the look for its stream, no report mentions the number of streams. So a peer is
refused for it only where it opens streams. -/

theorem violation_of_receive {w : RecvWindow} {upTo : Nat} {e : TransportError}
    (h : w.receive upTo = .error e) : e = .violation .flowControlError :=
  (RecvWindow.receive_eq_error_iff.1 h).2

/-- Counting is refused for exceeding a limit, and for nothing else. -/
theorem violation_of_countReceived {h : RecvHalf} {upTo : Nat} {e : TransportError}
    (hcount : (s.countReceived id h upTo).1 = .error e) : e = .violation .flowControlError := by
  rw [countReceived] at hcount
  split at hcount
  · next hreceive =>
    obtain rfl := Except.error.inj hcount
    exact violation_of_receive hreceive
  simp only at hcount
  split at hcount
  · cases hcount
  split at hcount
  · next hreceive =>
    obtain rfl := Except.error.inj hcount
    exact violation_of_receive hreceive
  · cases hcount

/-- What is refused on a stream that is live: a violation, but never too many streams. -/
def Refuses {α : Type} (r : Except TransportError α × StreamSet) : Prop :=
  ∀ e, r.1 = .error e → ∃ code, code ≠ .streamLimitError ∧ e = .violation code

theorem refuses_ok {α : Type} (a : α) : Refuses (.ok a, s) := nofun

/-- Any violation but that of the stream limit may be answered by the part of an operation
that has found its stream. -/
theorem refuses_violation {α : Type} {code : TransportErrorCode} (h : code ≠ .streamLimitError) :
    Refuses ((.error (.violation code), s) : Except TransportError α × StreamSet) :=
  fun _ herror => ⟨code, h, (Except.error.inj herror).symm⟩

/-- Credit that is overrun is no matter of the number of streams. -/
theorem refuses_overrun {α : Type} {h : RecvHalf} {upTo : Nat} {e : TransportError}
    (hcount : s.countReceived id h upTo = (.error e, s')) :
    Refuses ((.error e, s') : Except TransportError α × StreamSet) := by
  obtain rfl := violation_of_countReceived (congrArg Prod.fst hcount)
  exact refuses_violation (by decide)

theorem refuses_settleStopped (s : StreamSet) (id : StreamId) (h : RecvHalf) (upTo : Nat)
    (isFinal : Bool) : Refuses (s.settleStopped id h upTo isFinal) :=
  settleStopped_cases (fun _ _ => refuses_violation (by decide)) (fun _ _ => refuses_overrun)
    fun _ _ _ => refuses_ok _

/-- Data for a live stream is refused for credit, for the final size, or by the buffer. -/
theorem refuses_takeData (s : StreamSet) (id : StreamId) (offset : Nat) (data : Bytes) (fin : Bool)
    (st : Stream) : Refuses (s.takeData id offset data fin st) := by
  refine takeData_cases (fun _ => refuses_violation (by decide))
    (fun _ _ _ => refuses_violation (by decide)) (fun h _ _ _ => refuses_settleStopped s id h _ fin)
    (fun _ _ _ _ => refuses_ok _) (fun _ _ _ _ _ => refuses_overrun)
    (fun h e s' _ _ _ _ hinsert => ?_) fun _ _ _ _ _ _ _ _ _ => refuses_ok _
  rcases RecvBuffer.insert_eq_error hinsert with ⟨rfl, -⟩ | ⟨rfl, -⟩
  · exact refuses_violation (by decide)
  · exact refuses_violation (by decide)

/-- A reset of a live stream is refused for the final size or for credit. -/
theorem refuses_takeReset (s : StreamSet) (id : StreamId) (errorCode finalSize : Nat)
    (st : Stream) : Refuses (s.takeReset id errorCode finalSize st) :=
  takeReset_cases (fun _ => refuses_violation (by decide))
    (fun h _ _ => refuses_settleStopped s id h finalSize true) (fun _ _ _ _ => refuses_ok _)
    (fun _ _ _ => refuses_violation (by decide)) (fun _ _ _ _ _ => refuses_overrun)
    fun _ _ _ _ _ _ _ _ => refuses_ok _

theorem refuses_takeStop (s : StreamSet) (id : StreamId) (errorCode : Nat) (st : Stream) :
    Refuses (s.takeStop id errorCode st) :=
  takeStop_cases (fun _ => refuses_violation (by decide)) (fun _ _ _ => refuses_ok _)
    fun _ _ _ => refuses_ok _

/-- Why a report on one stream is refused: its stream may not be opened, or the report is
a violation on the stream, which is another one than too many streams. -/
def RefusedFor (s : StreamSet) (id : StreamId) (e : TransportError) : Prop :=
  s.ensureOpen id = .error e ∨ ∃ code, code ≠ .streamLimitError ∧ e = .violation code

namespace RefusedFor

/-- Whatever a report is refused for is a violation. -/
theorem violation {e : TransportError} (h : s.RefusedFor id e) : ∃ code, e = .violation code := by
  rcases h with hopen | ⟨code, -, he⟩
  · rcases (error_of_ensureOpen hopen).1 with he | he
    · exact ⟨_, he⟩
    · exact ⟨_, he⟩
  · exact ⟨code, he⟩

/-- Only naming a stream exceeds the number of streams. -/
theorem ensureOpen (h : s.RefusedFor id (.violation .streamLimitError)) :
    s.ensureOpen id = .error (.violation .streamLimitError) := by
  refine h.resolve_right ?_
  rintro ⟨code, hne, he⟩
  cases code <;> first | exact hne rfl | cases he

end RefusedFor

/-- An error comes from making sure that the stream is open, or from what is then done with
the stream; the limit on streams is only the former's to name. -/
theorem error_of_onNamed {α : Type} {ignored : α}
    {report : StreamSet → Stream → Except TransportError α × StreamSet}
    (hreport : ∀ s st, Refuses (report s st)) {e : TransportError}
    (herror : (s.onNamed id ignored report).1 = .error e) : s.RefusedFor id e := by
  revert herror
  refine onNamed_cases (P := fun r => r.1 = .error e → _) nofun (fun e' _ hopen herror => ?_) nofun
    nofun fun s' st _ _ _ herror => .inr (hreport s' st e herror)
  obtain rfl := Except.error.inj herror
  exact .inl hopen

theorem error_of_onStreamData {offset : Nat} {data : Bytes} {fin : Bool} {e : TransportError}
    (herror : (s.onStreamData id offset data fin).1 = .error e) : s.RefusedFor id e :=
  error_of_onNamed (fun s st => refuses_takeData s id offset data fin st) herror

theorem error_of_onStreamReset {errorCode finalSize : Nat} {e : TransportError}
    (herror : (s.onStreamReset id errorCode finalSize).1 = .error e) : s.RefusedFor id e :=
  error_of_onNamed (fun s st => refuses_takeReset s id errorCode finalSize st) herror

theorem error_of_onStopSending {errorCode : Nat} {e : TransportError}
    (herror : (s.onStopSending id errorCode).1 = .error e) : s.RefusedFor id e :=
  error_of_onNamed (fun s st => refuses_takeStop s id errorCode st) herror

end

end QuicHost.StreamSet
