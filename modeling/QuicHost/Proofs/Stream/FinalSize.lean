import QuicHost.Proofs.Stream.Sizes

/-!
# The final size of a stream

The peer says where a stream ends in two ways: with the last of its data, or by
abandoning its half after so many bytes. Either may be said again, and either may
be said of a stream that we asked the peer to stop. As long as none of it is
refused, all that is accepted is the same size, it is not below what has arrived,
and whoever reads to the end has read as many bytes (`final_size_stays`). What
contradicts it is refused.

There is one exception. Data with the end of a stream is taken in although it
ends before what has arrived, if the size was not known so far (`Entry.endsShort`).
Then the size is below what has arrived, and a read to the end hands out more
bytes than the size says (`ended_short`).
-/

namespace QuicHost

/-! ## What contradicts the size

A report that names a size below what has arrived, moves the size that is known, or runs
past it, is refused. There are two errors it may be refused with: that of the final size,
and that of credit if the report overruns credit as well and this is looked at first. -/

/-- Data that moves the known size is refused, also if it leaves a gap. -/
theorem RecvBuffer.insert_of_moves {b : RecvBuffer} {offset : Nat} {data : Bytes} {fin : Bool}
    (hmoves : b.movesFinalSize (offset + data.length) fin = true) :
    b.insert offset data fin = .error (.violation .finalSizeError) := by
  simp only [insert, hmoves, Bool.or_true, ↓reduceIte]

/-- A half whose size is known takes in no data that moves the size, or that ends
before it. -/
theorem RecvHalf.Open.refuses {known : Option Nat} {received taken : Nat} {h : RecvHalf}
    (ho : h.Open known received taken) {offset : Nat} {data : Bytes} {fin : Bool}
    (hknown : known ≠ none)
    (hbad : fin = true ∧ (offset + data.length < received ∨
        ∃ m, known = some m ∧ offset + data.length ≠ m) ∨
      ∃ m, known = some m ∧ m < offset + data.length) :
    h.buffer.insert offset data fin = .error (.violation .finalSizeError) := by
  obtain ⟨m, rfl⟩ := Option.ne_none_iff_exists'.1 hknown
  have hreceived := ho.ended m rfl
  refine RecvBuffer.insert_of_moves ?_
  rw [RecvBuffer.movesFinalSize, ho.finalSize, Option.any_some, Bool.or_eq_true, Bool.and_eq_true,
    decide_eq_true_eq, bne_iff_ne]
  obtain ⟨hfin, hlt | ⟨m', hm', hne⟩⟩ | ⟨m', hm', hlt⟩ := hbad
  · exact .inr ⟨hfin, by omega⟩
  · obtain rfl := Option.some.inj hm'
    exact .inr ⟨hfin, hne⟩
  · obtain rfl := Option.some.inj hm'
    exact .inl hlt

namespace View

/-- Whether the bytes of a stream up to an offset overrun the credit of the
stream or the connection, or no offset can express where they end. -/
def Overruns (v : View) (h : RecvHalf) (upTo : Nat) : Prop :=
  maxWord < upTo ∨ h.window.limit < upTo ∨
    v.recvWindow.limit < v.recvWindow.received + (upTo - h.window.received)

/-- Whether a report is refused because of the final size, or because of credit
that it overruns. -/
def Rejects (v : View) (h : RecvHalf) (upTo : Nat) (r : Except TransportError Nat) : Prop :=
  r = .error (.violation .finalSizeError) ∨
    r = .error (.violation .flowControlError) ∧ v.Overruns h upTo

variable {v v' : View} {id : StreamId} {h : RecvHalf} {upTo : Nat} {e : TransportError}

theorem Count.rejects (hcount : v.Count id h upTo (.error e) v') : v.Rejects h upTo (.error e) := by
  cases hcount with
  | beyondStream hlt => exact .inr ⟨rfl, .inr (.inl hlt)⟩
  | beyondConnection _ hlt =>
    exact .inr ⟨rfl, .inr (.inr (Nat.lt_of_lt_of_le hlt (wrap_le_self _)))⟩

/-- A final size below what was counted is rejected, on a stopped stream too. -/
theorem Settle.rejects {r : Except TransportError Nat} (hsettle : v.Settle id h upTo true r v')
    (hlt : upTo < h.window.received) : v.Rejects h upTo r := by
  cases hsettle with
  | misplaced _ _ => exact .inl rfl
  | overrun hcount => exact hcount.rejects
  | settled hplaced _ _ => exact absurd (hplaced rfl) (Nat.not_le.2 hlt)

end View

namespace Sized

variable {known : Option Nat} {received taken : Nat} {h : RecvHalf} {v v' : View} {id : StreamId}
  {frozen : Bool} {r : Except TransportError Nat}

theorem window_eq (hs : Sized known received taken (v.recv id))
    (hplay : v.inPlay frozen id = some h) : h.window.received = received := by
  obtain ⟨-, hrecv, hstopped | hterminal⟩ := View.inPlay_eq_some_iff.1 hplay
  · exact (hs.draining h hrecv hstopped).window
  · exact (hs.isOpen h hrecv hterminal).window

/-- Nothing has arrived on a fresh half, and its size is not known. -/
theorem of_fresh (hs : Sized known received taken (v.recv id)) (hrecv : v.recv id = some h)
    (hfresh : ∃ window, h = .ofWindow window) : known = none ∧ received = 0 := by
  obtain ⟨window, rfl⟩ := hfresh
  have ho := hs.isOpen _ hrecv rfl
  exact ⟨ho.finalSize.symm, ho.window.symm⟩

/-- Data that contradicts the size, or what has arrived, is refused, unless it
ends short. -/
theorem rejects_data (hs : Sized known received taken (v.recv id))
    (hplay : v.inPlay frozen id = some h) {offset : Nat} {data : Bytes} {fin : Bool}
    (hdata : v.Data frozen id offset data fin r v')
    (hshort : fin = true → h.stopped = false → h.buffer.finalSize = none →
      h.window.received ≤ offset + data.length)
    (hbad : fin = true ∧ (offset + data.length < received ∨
        ∃ m, known = some m ∧ offset + data.length ≠ m) ∨
      ∃ m, known = some m ∧ m < offset + data.length) :
    v.Rejects h (offset + data.length) r := by
  obtain ⟨-, hrecv, hin⟩ := View.inPlay_eq_some_iff.1 hplay
  have hwindow := hs.window_eq hplay
  -- if nothing is known of the size, the data has to end before what has arrived
  have hends : known = none → fin = true ∧ offset + data.length < h.window.received := by
    rintro rfl
    obtain ⟨hfin, hlt | ⟨m, hm, -⟩⟩ | ⟨m, hm, -⟩ := hbad
    · exact ⟨hfin, hwindow ▸ hlt⟩
    · cases hm
    · cases hm
  -- on a half that is not drained, the size is known, and the buffer refuses the data
  have hinsert : h.stopped = false →
      h.buffer.insert offset data fin = .error (.violation .finalSizeError) := by
    intro hstopped
    have ho := hs.isOpen h hrecv (hin.resolve_left (Bool.eq_false_iff.1 hstopped))
    refine ho.refuses (fun hknown => ?_) hbad
    obtain ⟨hfin, hlt⟩ := hends hknown
    exact absurd (hshort hfin hstopped (ho.finalSize.trans hknown)) (Nat.not_le.2 hlt)
  have hsame {h' : RecvHalf} (hrecv' : v.recv id = some h') : h' = h :=
    Option.some.inj (hrecv'.symm.trans hrecv)
  cases hdata with
  | ignored hover => cases (View.inPlay_eq_none hover).symm.trans hplay
  | refused _ hfresh =>
    obtain ⟨hnone, hzero⟩ := hs.of_fresh hrecv (hfresh h hrecv)
    obtain ⟨-, hlt⟩ := hends hnone
    omega
  | unsized _ hlt => exact .inr ⟨rfl, .inl hlt⟩
  | settled _ hrecv' _ hstopped hsettle =>
    obtain rfl := hsame hrecv'
    obtain ⟨rfl, hlt⟩ := hends (hs.draining _ hrecv hstopped).unknown
    exact hsettle.rejects hlt
  | overrun hrecv' hcount =>
    obtain rfl := hsame hrecv'
    exact hcount.rejects
  | misfit hrecv' _ hmisfit hstopped =>
    obtain rfl := hsame hrecv'
    obtain rfl := Except.error.inj (hmisfit.symm.trans (hinsert hstopped))
    exact .inl rfl
  | filled _ hrecv' hstopped _ _ hfits =>
    obtain rfl := hsame hrecv'
    cases (hinsert hstopped).symm.trans hfits

/-- An abandoned half that contradicts the size, or what has arrived, is refused. -/
theorem rejects_reset (hs : Sized known received taken (v.recv id))
    (hplay : v.inPlay frozen id = some h) {finalSize : Nat}
    (hreset : v.PeerReset frozen id finalSize r v')
    (hbad : finalSize < received ∨ ∃ m, known = some m ∧ finalSize ≠ m) :
    v.Rejects h finalSize r := by
  obtain ⟨-, hrecv, hin⟩ := View.inPlay_eq_some_iff.1 hplay
  have hwindow := hs.window_eq hplay
  have hsame {h' : RecvHalf} (hrecv' : v.recv id = some h') : h' = h :=
    Option.some.inj (hrecv'.symm.trans hrecv)
  -- every way in which a reset is taken contradicts `hbad`, except the ones that reject it
  cases hreset with
  | ignored hover => cases (View.inPlay_eq_none hover).symm.trans hplay
  | refused _ hfresh =>
    obtain ⟨hnone, hzero⟩ := hs.of_fresh hrecv (hfresh h hrecv)
    obtain hlt | ⟨m, hm, -⟩ := hbad
    · omega
    · cases hnone.symm.trans hm
  | settled _ hrecv' hstopped hsettle =>
    obtain rfl := hsame hrecv'
    refine hsettle.rejects ?_
    obtain hlt | ⟨m, hm, -⟩ := hbad
    · rwa [hwindow]
    · cases (hs.draining _ hrecv hstopped).unknown.symm.trans hm
  | misplaced _ _ => exact .inl rfl
  | overrun hrecv' hcount =>
    obtain rfl := hsame hrecv'
    exact hcount.rejects
  | ended _ hrecv' _ hterminal hreceived hagrees _ _ =>
    obtain rfl := hsame hrecv'
    obtain hlt | ⟨m, hm, hne⟩ := hbad
    · omega
    · rw [(hs.isOpen _ hrecv hterminal).finalSize, hm, Option.any_some,
        decide_eq_false_iff_not] at hagrees
      exact absurd (Ne.symm hne) hagrees

end Sized

/-! ## Runs

What each operation keeps of the invariant, given that it is not refused and does not end
the stream short. Only three operations are about the size; the others are about other
streams, or the sending half, or nothing at all. -/

namespace StreamSet

section

variable {s : StreamSet} {id : StreamId} {known : Option Nat} {received taken : Nat}

/-- What a step keeps, and that the size which it accepts is the one that is
known afterwards. -/
structure Entry.Sizes (id : StreamId) (known : Option Nat) (received taken : Nat) (e : Entry)
    (half : Option RecvHalf) : Prop where
  /-- what is known of the half afterwards -/
  sized : Sized (known.or (e.sizeOn id)) (max received (e.arrivedOn id))
    (taken + (e.readOn id).length) half
  /-- a size that is accepted is the one that is known from then on -/
  settles : ∀ n, e.sizeOn id = some n → known.or (e.sizeOn id) = some n

/-- A step that is about another stream, or was ignored, keeps what is known. -/
theorem Entry.sizes_of_idle {e : Entry} {half : Option RecvHalf}
    (hs : Sized known received taken half) (hsize : e.sizeOn id = none)
    (harrived : e.arrivedOn id = 0) (hread : e.readOn id = []) :
    e.Sizes id known received taken half := by
  refine ⟨?_, fun n hn => nomatch hsize.symm.trans hn⟩
  rwa [hsize, harrived, hread, Option.or_none, Nat.max_zero]

/-- Data that is accepted, and does not end the stream short of what has arrived, keeps what
is known and adds what it says. The cases are those of the effect of data. -/
theorem sizes_streamData (hs : s.Orderly) {id' : StreamId} (hop : id'.Fits) (offset : Nat)
    (data : Bytes) (fin : Bool)
    (hfails : (s.entry (.streamData id' offset data fin)).failsOn id = false)
    (hshort : (s.entry (.streamData id' offset data fin)).endsShort id = false)
    (hsized : Sized known received taken (s.view.recv id)) :
    (s.entry (.streamData id' offset data fin)).Sizes id known received taken
      ((s.onStreamData id' offset data fin).2.view.recv id) := by
  have hdata := (onStreamData_outcome hs hop offset data fin).2
  simp only [entry, perform] at hfails hshort ⊢
  rcases hr : s.onStreamData id' offset data fin with ⟨e | n, s'⟩
  · rw [hr] at hfails hdata
    have hne : id' ≠ id := fun heq => by
      simp only [Entry.failsOn, heq, beq_self_eq_true, Bool.true_eq_false] at hfails
    rw [← hdata.recv_of_ne (Ne.symm hne)] at hsized
    exact Entry.sizes_of_idle hsized rfl rfl rfl
  rw [hr] at hdata
  by_cases hid : id' = id
  · subst hid
    have hdone := hsized.data hdata fun h hplay hfin hstopped hnone => by
      have hplay' : s.inPlay id' = some h := hplay
      simpa only [Entry.endsShort, beq_self_eq_true, hfin, Bool.true_and, hplay', Option.any_some,
        hstopped, Bool.not_false, hnone, Option.isNone_none, decide_eq_false_iff_not, Nat.not_lt]
        using hshort
    by_cases hplay : (s.inPlay id').isSome = true
    · obtain ⟨hafter, hsettles⟩ := (if_pos hplay).mp hdone
      have hsize : (Entry.mk s (.streamData id' offset data fin) (.credited (.ok n))).sizeOn id' =
          if fin then some (offset + data.length) else none := by
        simp only [Entry.sizeOn, Operation.sizeOn, hplay, true_and, ↓reduceIte]
      have harrived : (Entry.mk s (.streamData id' offset data fin) (.credited (.ok n))).arrivedOn
          id' = offset + data.length := by
        simp only [Entry.arrivedOn, hplay, and_self, ↓reduceIte]
      refine ⟨?_, fun m hm => ?_⟩
      · rw [hsize, harrived]
        exact hafter
      · rw [hsize] at hm ⊢
        split at hm
        · next hfin =>
          obtain rfl := Option.some.inj hm
          rw [if_pos hfin, hsettles hfin]
        · cases hm
    · have hafter := (if_neg hplay).mp hdone
      refine Entry.sizes_of_idle hafter ?_ ?_ rfl
      · simp only [Entry.sizeOn, hplay, Bool.false_eq_true, ↓reduceIte]
      · simp only [Entry.arrivedOn, hplay, Bool.false_eq_true, and_false, ↓reduceIte]
  · rw [← hdata.recv_of_ne (Ne.symm hid)] at hsized
    refine Entry.sizes_of_idle hsized ?_ ?_ rfl
    · simp only [Entry.sizeOn, Operation.sizeOn, hid, false_and, ↓reduceIte, ite_self]
    · simp only [Entry.arrivedOn, hid, false_and, ↓reduceIte]

/-- A reset that is accepted settles the size for good. -/
theorem sizes_streamReset (hs : s.Orderly) {id' : StreamId} (hop : id'.Fits)
    (errorCode finalSize : Nat)
    (hfails : (s.entry (.streamReset id' errorCode finalSize)).failsOn id = false)
    (hsized : Sized known received taken (s.view.recv id)) :
    (s.entry (.streamReset id' errorCode finalSize)).Sizes id known received taken
      ((s.onStreamReset id' errorCode finalSize).2.view.recv id) := by
  have hreset := (onStreamReset_outcome hs hop errorCode finalSize).2
  simp only [entry, perform] at hfails ⊢
  rcases hr : s.onStreamReset id' errorCode finalSize with ⟨e | n, s'⟩
  · rw [hr] at hfails hreset
    have hne : id' ≠ id := fun heq => by
      simp only [Entry.failsOn, heq, beq_self_eq_true, Bool.true_eq_false] at hfails
    rw [← hreset.recv_of_ne (Ne.symm hne)] at hsized
    exact Entry.sizes_of_idle hsized rfl rfl rfl
  rw [hr] at hreset
  by_cases hid : id' = id
  · subst hid
    have hdone := hsized.peerReset hreset
    -- a reset for a half that is no longer in play is accepted without a look at its size
    by_cases hplay : (s.inPlay id').isSome = true
    · obtain ⟨hafter, hsettles⟩ := (if_pos hplay).mp hdone
      have hsize : (Entry.mk s (.streamReset id' errorCode finalSize) (.credited (.ok n))).sizeOn
          id' = some finalSize := by
        simp only [Entry.sizeOn, Operation.sizeOn, hplay, ↓reduceIte]
      refine ⟨?_, fun m hm => ?_⟩
      · rw [hsize]
        exact (Nat.max_zero received).symm ▸ hafter
      · rw [hsize] at hm ⊢
        rw [← hm, hsettles]
    · have hafter := (if_neg hplay).mp hdone
      refine Entry.sizes_of_idle hafter ?_ rfl rfl
      simp only [Entry.sizeOn, hplay, Bool.false_eq_true, ↓reduceIte]
  · rw [← hreset.recv_of_ne (Ne.symm hid)] at hsized
    refine Entry.sizes_of_idle hsized ?_ rfl rfl
    simp only [Entry.sizeOn, Operation.sizeOn, hid, ↓reduceIte, ite_self]

/-- A read moves bytes from those that wait to those that were taken. -/
theorem sizes_read (hs : s.Orderly) (id' : StreamId) (maxLen : Nat)
    (hsized : Sized known received taken (s.view.recv id)) :
    (s.entry (.read id' maxLen)).Sizes id known received taken
      ((s.read id' maxLen).2.view.recv id) := by
  have hread := (read_outcome hs id' maxLen).2
  by_cases hid : id' = id
  · subst hid
    have hafter := (hsized.read hread).1
    refine ⟨?_, nofun⟩
    simpa only [Entry.sizeOn, Entry.arrivedOn, Entry.readOn, entry, perform, Option.or_none,
      Nat.max_zero, ↓reduceIte] using hafter
  · rw [← hread.recv_of_ne (Ne.symm hid)] at hsized
    refine Entry.sizes_of_idle hsized rfl rfl ?_
    simp only [Entry.readOn, entry, perform, hid, ↓reduceIte]

/-- One step of a run keeps the invariant. -/
theorem sizes_perform (hs : s.Orderly) {op : Operation} (hop : op.Fits)
    (hfails : (s.entry op).failsOn id = false) (hshort : (s.entry op).endsShort id = false)
    (hsized : Sized known received taken (s.view.recv id)) :
    (s.entry op).Sizes id known received taken ((s.perform op).2.view.recv id) := by
  have hidle {s' : StreamSet} (hsized : Sized known received taken (s'.view.recv id))
      (hsize : (s.entry op).sizeOn id = none) (harrived : (s.entry op).arrivedOn id = 0)
      (hread : (s.entry op).readOn id = []) :
      (s.entry op).Sizes id known received taken (s'.view.recv id) :=
    Entry.sizes_of_idle hsized hsize harrived hread
  -- the size of `id` is learnt from the peer's data and resets alone, and what was read
  -- grows by reads alone
  cases op with
  | openStream d =>
    rw [← (opens_openStream hs d).view] at hsized
    exact hidle hsized rfl rfl rfl
  | write id' data fin =>
    exact hidle (hsized.spares (write_outcome hs id' data fin).2.sparesRecv) rfl rfl rfl
  | read id' maxLen => exact sizes_read hs id' maxLen hsized
  | resetStream id' =>
    exact hidle (hsized.spares (resetStream_outcome hs id').2.sparesRecv) rfl rfl rfl
  | stopSending id' =>
    have hstop := (stopSending_outcome hs id').2
    by_cases hid : id' = id
    · subst hid
      exact hidle (hsized.stop hstop) rfl rfl rfl
    · rw [← hstop.recv_of_ne (Ne.symm hid)] at hsized
      exact hidle hsized rfl rfl rfl
  | handshakeCompleted peer =>
    exact hidle (hsized.spares (onHandshakeCompleted_outcome s peer).sparesRecv) rfl rfl rfl
  | streamData id' offset data fin =>
    exact sizes_streamData hs hop offset data fin hfails hshort hsized
  | streamReset id' errorCode finalSize =>
    exact sizes_streamReset hs hop errorCode finalSize hfails hsized
  | peerStop id' errorCode =>
    exact hidle (hsized.spares (onStopSending_outcome hs hop errorCode).2.sparesRecv) rfl rfl rfl
  | maxStreamData id' limit =>
    exact hidle (hsized.spares (onMaxStreamData_outcome hs id' limit).2.sparesRecv) rfl rfl rfl
  | maxData limit =>
    exact hidle (hsized.spares (onMaxData_outcome hs limit).2.sparesRecv) rfl rfl rfl
  | maxStreams d n =>
    rw [← (onMaxStreams_outcome hs d n).2] at hsized
    exact hidle hsized rfl rfl rfl
  | streamAcked id' n =>
    exact hidle (hsized.spares (onStreamAcked_outcome hs id' n).2.sparesRecv) rfl rfl rfl
  | takeEvents =>
    have hsame : Sized known received taken (s.takeEvents.2.view.recv id) := hsized
    exact hidle hsame rfl rfl rfl
  | freeze =>
    have hsame : Sized known received taken (s.freeze.view.recv id) := hsized
    exact hidle hsame rfl rfl rfl

/-- A run keeps the invariant, and every size that it accepts is the same. -/
theorem sized_after (hs : s.Orderly) {ops : List Operation} (hops : ∀ op ∈ ops, op.Fits)
    (hfails : ∀ e ∈ s.trace ops, e.failsOn id = false)
    (hshort : ∀ e ∈ s.trace ops, e.endsShort id = false)
    (hsized : Sized known received taken (s.view.recv id)) :
    Sized (known.or (finalSizeOn id (s.trace ops))) (max received (arrivedOn id (s.trace ops)))
        (taken + (readOn id (s.trace ops)).length) ((s.after ops).view.recv id) ∧
      ∀ e ∈ s.trace ops, ∀ n, e.sizeOn id = some n →
        known.or (finalSizeOn id (s.trace ops)) = some n := by
  induction ops generalizing s known received taken with
  | nil =>
    refine ⟨?_, fun e he => absurd he List.not_mem_nil⟩
    change Sized (known.or none) (max received 0) taken _
    rwa [Option.or_none, Nat.max_zero]
  | cons op rest ih =>
    rw [List.forall_mem_cons] at hops
    simp only [trace, List.forall_mem_cons] at hfails hshort
    obtain ⟨hstep, hsettles⟩ := sizes_perform hs hops.1 hfails.1 hshort.1 hsized
    obtain ⟨hrest, hlater⟩ := ih (orderly_perform hs hops.1) hops.2 hfails.2 hshort.2 hstep
    rw [Option.or_assoc] at hlater
    rw [Option.or_assoc, Nat.max_assoc, Nat.add_assoc, ← List.length_append] at hrest
    refine ⟨hrest, ?_⟩
    rw [trace, List.forall_mem_cons]
    refine ⟨fun n hn => ?_, hlater⟩
    -- a size settled by the first entry is known to all later ones
    have hfirst := hsettles n hn
    change known.or (((s.entry op).sizeOn id).or (finalSizeOn id _)) = some n
    rw [← Option.or_assoc, hfirst, Option.some_or]

/-- A report that contradicts the size, or what has arrived, is refused, unless it
ends the stream short. -/
theorem rejects_perform (hs : s.Orderly) (hsized : Sized known received taken (s.view.recv id))
    {op : Operation} (hop : op.Fits) {h : RecvHalf} (hplay : s.inPlay id = some h) {stop : Nat}
    (hend : op.endOn id = some stop) (hbad : op.Contradicts id received known)
    (hlong : (s.entry op).endsShort id = false) :
    ∃ r, (s.perform op).1 = .credited r ∧ s.view.Rejects h stop r := by
  cases op with
  | streamData id' offset data fin =>
    have hdata := (onStreamData_outcome hs hop offset data fin).2
    obtain ⟨rfl, rfl⟩ : id' = id ∧ offset + data.length = stop := by
      simpa only [Operation.endOn, Option.ite_none_right_eq_some, Option.some.injEq] using hend
    refine ⟨_, rfl, hsized.rejects_data hplay hdata (fun hfin hstopped hnone => ?_) ?_⟩
    · simpa only [Entry.endsShort, entry, beq_self_eq_true, hfin, Bool.true_and, hplay,
        Option.any_some, hstopped, Bool.not_false, hnone, Option.isNone_none,
        decide_eq_false_iff_not, Nat.not_lt] using hlong
    · obtain ⟨n, hn, hlow⟩ | ⟨n, m, hn, hm, hlt⟩ := hbad
      · obtain ⟨⟨-, hfin⟩, hsize⟩ := Option.ite_none_right_eq_some.1 hn
        obtain rfl := Option.some.inj hsize
        exact .inl ⟨hfin, hlow⟩
      · obtain rfl := Option.some.inj (hend.symm.trans hn)
        exact .inr ⟨m, hm, hlt⟩
  | streamReset id' errorCode finalSize =>
    have hreset := (onStreamReset_outcome hs hop errorCode finalSize).2
    obtain ⟨rfl, rfl⟩ : id' = id ∧ finalSize = stop := by
      simpa only [Operation.endOn, Option.ite_none_right_eq_some, Option.some.injEq] using hend
    refine ⟨_, rfl, hsized.rejects_reset hplay hreset ?_⟩
    obtain ⟨n, hn, hlow⟩ | ⟨n, m, hn, hm, hlt⟩ := hbad
    · obtain rfl := Option.some.inj (hend.symm.trans hn)
      exact hlow
    · obtain rfl := Option.some.inj (hend.symm.trans hn)
      exact .inr ⟨m, hm, Nat.ne_of_gt hlt⟩
  | _ => cases hend

/-! ## The result

The invariant at the end of a run, said without mentioning halves: which size was
accepted, how far data arrived, and how much was read. -/

/-- **One size for every stream.** As long as nothing that the peer says of its half of
a stream is refused, and data does not end it short: every size that is accepted is the
first one, and no data has arrived beyond it; what contradicts the size or what has
arrived is refused, for this reason or because it overruns credit, if the half is in
play and it does not end the stream short; and a read that reaches the end has made the
bytes read as many as the size says. -/
theorem final_size_stays (side : Side) (own : TransportParameters) (id : StreamId)
    (ops : List Operation) (hops : ∀ op ∈ ops, op.Fits)
    (hfails : ∀ e ∈ (new side own).trace ops, e.failsOn id = false)
    (hshort : ∀ e ∈ (new side own).trace ops, e.endsShort id = false) :
    let s := (new side own).after ops
    let t := (new side own).trace ops
    (∀ e ∈ t, ∀ n, e.sizeOn id = some n → finalSizeOn id t = some n ∧ arrivedOn id t ≤ n) ∧
      (∀ op h stop, op.Fits → s.inPlay id = some h → op.endOn id = some stop →
        op.Contradicts id (arrivedOn id t) (finalSizeOn id t) →
        (s.entry op).endsShort id = false →
          ∃ r, (s.perform op).1 = .credited r ∧ s.view.Rejects h stop r) ∧
      ∀ maxLen out, (s.read id maxLen).1 = .ok out → out.fin = true →
        finalSizeOn id t = some ((readOn id t).length + out.data.length) := by
  intro s t
  have hfresh : Sized none 0 0 ((new side own).view.recv id) :=
    .fresh _ fun h hrecv => ⟨_, eq_of_view_recv_new hrecv⟩
  obtain ⟨hsized, hsettles⟩ := sized_after (orderly_new side own) hops hfails hshort hfresh
  have hs : s.Orderly := orderly_after (orderly_new side own) hops
  simp only [Option.none_or, Nat.zero_max, Nat.zero_add] at hsized hsettles
  refine ⟨fun e he n hn => ?_, fun op h stop hop hplay hend hbad hlong => ?_,
    fun maxLen out hout hfin => ?_⟩
  · have hknown := hsettles e he n hn
    exact ⟨hknown, hsized.within n hknown⟩
  · exact rejects_perform hs hsized hop hplay hend hbad hlong
  · exact (hsized.read (read_outcome hs id maxLen).2).2 out hout hfin

/-- Data that overlaps, with a read between, and with some of it repeated after
the end. -/
def repeated : List Operation :=
  [.streamData ⟨0⟩ 0 [1, 2, 3] false, .read ⟨0⟩ 2, .streamData ⟨0⟩ 1 [2, 3, 4] true,
    .streamData ⟨0⟩ 0 [1, 2] false]

/-- Data that repeats what came before the end is accepted. -/
theorem final_size_stays_repeated :
    let s := (new .server {}).after repeated
    let t := (new .server {}).trace repeated
    finalSizeOn ⟨0⟩ t = some 4 ∧ arrivedOn ⟨0⟩ t ≤ 4 ∧
      (∃ h r, (s.perform (.streamReset ⟨0⟩ 7 3)).1 = .credited r ∧ s.view.Rejects h 3 r) ∧
      (s.read ⟨0⟩ 9).1 = .ok ⟨[3, 4], true⟩ ∧ (readOn ⟨0⟩ t).length + 2 = 4 := by
  intro s t
  obtain ⟨hsizes, hrejects, hread⟩ := final_size_stays .server {} ⟨0⟩ repeated (by decide)
    (by decide) (by decide)
  have hend : ∃ e ∈ t, e.sizeOn ⟨0⟩ = some 4 := by decide
  obtain ⟨e, he, hsize⟩ := hend
  obtain ⟨hknown, hle⟩ := hsizes e he 4 hsize
  have hplay : (s.inPlay ⟨0⟩).isSome = true := by decide
  obtain ⟨h, hplay⟩ := Option.isSome_iff_exists.1 hplay
  have hout : (s.read ⟨0⟩ 9).1 = .ok ⟨[3, 4], true⟩ := by rfl
  have hall := hread 9 _ hout rfl
  refine ⟨hknown, hle, ⟨h, ?_⟩, hout, (Option.some.inj (hknown.symm.trans hall)).symm⟩
  exact hrejects (.streamReset ⟨0⟩ 7 3) h 3 (by decide) hplay rfl
    (.inl ⟨3, rfl, .inr ⟨4, hknown, by decide⟩⟩) rfl

/-- The end of a stream, not known so far, comes with data that ends before what
has arrived. -/
def cutOff : List Operation :=
  [.streamData ⟨0⟩ 0 [1, 2, 3, 4] false, .streamData ⟨0⟩ 0 [1, 2] true]

/-- It is accepted: the size is two, four bytes have arrived, and a read to the
end hands out all four. -/
theorem ended_short :
    let s := (new .server {}).after cutOff
    let t := (new .server {}).trace cutOff
    (∀ e ∈ t, e.failsOn ⟨0⟩ = false) ∧ finalSizeOn ⟨0⟩ t = some 2 ∧ arrivedOn ⟨0⟩ t = 4 ∧
      (s.read ⟨0⟩ 10).1 = .ok ⟨[1, 2, 3, 4], true⟩ :=
  ⟨by decide, by decide, by decide, by rfl⟩

end

end StreamSet

end QuicHost
