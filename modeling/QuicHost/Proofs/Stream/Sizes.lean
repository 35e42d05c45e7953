import QuicHost.Proofs.Stream.Contents

/-!
# The size of a receiving half

The peer says where a stream ends with the last of its data, or by abandoning its half
after so many bytes. The invariant of its size is `Sized`. It speaks of one receiving
half, the size known so far, how far data has arrived, and how many bytes were read: the
size is not below what has arrived, a half that is open holds what has arrived and was
not read, and a half that drains does not know its size.

Each way in which a half is changed keeps the invariant, given what a run shows of it.
-/

namespace QuicHost

/-! ## Halves in play

What the peer says of a stream has an effect as long as the half has not ended, or was
stopped and does not know its size. Everything else is ignored, whatever it says. -/

namespace View

/-- The receiving half of a stream, if what the peer says still has an effect on
it: it has not ended, or we asked the peer to stop and it has not said where the
stream ends. -/
def inPlay (v : View) (frozen : Bool) (id : StreamId) : Option RecvHalf :=
  if frozen then none else (v.recv id).filter fun h => h.stopped || !h.state.isTerminal

variable {v : View} {frozen : Bool} {id : StreamId} {h : RecvHalf}

theorem inPlay_eq_some_iff : v.inPlay frozen id = some h ↔
    frozen = false ∧ v.recv id = some h ∧ (h.stopped = true ∨ h.state.isTerminal = false) := by
  cases frozen with
  | true => simp only [inPlay, ↓reduceIte, reduceCtorEq, Bool.true_eq_false, false_and]
  | false => simp only [inPlay, Bool.false_eq_true, ↓reduceIte, Option.filter_eq_some_iff,
      Bool.or_eq_true, Bool.not_eq_true', true_and]

/-- A half that has ended without being stopped is out of play. -/
theorem inPlay_eq_none (hover : ∀ h, frozen = false → v.recv id = some h → h.stopped = false ∧
    h.state.isTerminal = true) : v.inPlay frozen id = none := by
  rcases hplay : v.inPlay frozen id with _ | h
  · rfl
  · obtain ⟨hfrozen, hrecv, hin⟩ := inPlay_eq_some_iff.1 hplay
    obtain ⟨hstopped, hterminal⟩ := hover h hfrozen hrecv
    rw [hstopped, hterminal] at hin
    rcases hin with hin | hin <;> cases hin

end View

namespace StreamSet

/-- The receiving half of a stream, if what the peer says still has an effect on
it. -/
def inPlay (s : StreamSet) (id : StreamId) : Option RecvHalf := s.view.inPlay s.frozen id

/-! ## What a run shows of one stream

What an observer sees of one step: which size it names, where its data ends, whether it
was refused, and how many bytes it read. None of this looks at the windows or the buffer,
but for whether the half was in play. -/

/-- Where the bytes of a stream end that a report speaks of. -/
def Operation.endOn (id : StreamId) : Operation → Option Nat
  | .streamData id' offset data _ => if id' = id then some (offset + data.length) else none
  | .streamReset id' _ finalSize => if id' = id then some finalSize else none
  | _ => none

/-- The final size that a report gives a stream. -/
def Operation.sizeOn (id : StreamId) : Operation → Option Nat
  | .streamData id' offset data fin =>
    if id' = id ∧ fin = true then some (offset + data.length) else none
  | .streamReset id' _ finalSize => if id' = id then some finalSize else none
  | _ => none

/-- Whether a report gives a stream a size below what was `received`, moves the
size that is `known`, or runs past it. -/
def Operation.Contradicts (id : StreamId) (received : Nat) (known : Option Nat)
    (op : Operation) : Prop :=
  (∃ n, op.sizeOn id = some n ∧ (n < received ∨ ∃ m, known = some m ∧ n ≠ m)) ∨
    ∃ stop m, op.endOn id = some stop ∧ known = some m ∧ m < stop

namespace Entry

/-- The final size of a stream that a step accepts. -/
def sizeOn (id : StreamId) (e : Entry) : Option Nat :=
  match e.answer with
  | .credited (.ok _) => if (e.before.inPlay id).isSome then e.op.sizeOn id else none
  | _ => none

/-- Where data ends that a step takes in on a stream, or counts. -/
def arrivedOn (id : StreamId) (e : Entry) : Nat :=
  match e.op, e.answer with
  | .streamData id' offset data _, .credited (.ok _) =>
    if id' = id ∧ (e.before.inPlay id).isSome then offset + data.length else 0
  | _, _ => 0

/-- Whether what the peer says of its half of a stream is answered with an error. -/
def failsOn (id : StreamId) (e : Entry) : Bool :=
  match e.op, e.answer with
  | .streamData id' _ _ _, .credited (.error _) => id' == id
  | .streamReset id' _ _, .credited (.error _) => id' == id
  | _, _ => false

/-- Whether data comes with the end of a stream, which was not known, and ends
before what was received. -/
def endsShort (id : StreamId) (e : Entry) : Bool :=
  match e.op with
  | .streamData id' offset data fin => id' == id && fin && (e.before.inPlay id).any fun h =>
    !h.stopped && h.buffer.finalSize.isNone && decide (offset + data.length < h.window.received)
  | _ => false

end Entry

/-- The final size of a stream that is accepted first in a run. -/
def finalSizeOn (id : StreamId) (t : List Entry) : Option Nat :=
  t.foldr (fun e known => (e.sizeOn id).or known) none

/-- The highest offset at which data ends that has arrived in a run. -/
def arrivedOn (id : StreamId) (t : List Entry) : Nat :=
  t.foldr (fun e n => max (e.arrivedOn id) n) 0

end StreamSet

/-! ## The invariant

What is known of the half at any time, and that every way in which the half is changed
keeps it. A half that is gone keeps what was known: its size can no longer be
contradicted. -/

namespace RecvHalf

/-- What is known of a half that has not ended: it counts rightly, and if its end
is known, everything has arrived. -/
structure Open (known : Option Nat) (received taken : Nat) (h : RecvHalf) : Prop where
  stopped : h.stopped = false
  counts : h.buffer.Counts
  next : h.buffer.nextOffset = received
  window : h.window.received = received
  /-- what was read and what waits is all that has arrived -/
  whole : taken + h.buffer.buffered = received
  finalSize : h.buffer.finalSize = known
  /-- the state knows whether the size is known -/
  state : h.state = .sizeKnown ↔ known.isSome = true
  /-- the size is known only when everything has arrived -/
  ended : ∀ n, known = some n → n = received

/-- What is known of a half that we asked the peer to stop: its size is not. -/
structure Draining (known : Option Nat) (received : Nat) (h : RecvHalf) : Prop where
  window : h.window.received = received
  /-- a half is stopped only while its size is unknown -/
  unknown : known = none

end RecvHalf

/-- What is known of a receiving half when its size is `known` or not, data has
arrived up to `received`, and `taken` bytes were read. -/
structure Sized (known : Option Nat) (received taken : Nat) (half : Option RecvHalf) : Prop where
  /-- nothing has arrived beyond the size -/
  within : ∀ n, known = some n → received ≤ n
  /-- a half that goes on -/
  isOpen : ∀ h, half = some h → h.state.isTerminal = false → h.Open known received taken
  /-- a half that was stopped -/
  draining : ∀ h, half = some h → h.stopped = true → h.Draining known received

namespace Sized

variable {known : Option Nat} {received taken : Nat} {half : Option RecvHalf} {h : RecvHalf}

/-- Nothing is known of a new half. -/
theorem fresh (half : Option RecvHalf) (hfresh : ∀ h, half = some h → ∃ n, h = .ofWindow n) :
    Sized none 0 0 half := by
  refine ⟨nofun, fun h hhalf _ => ?_, fun h hhalf hstopped => ?_⟩
  · obtain ⟨n, rfl⟩ := hfresh h hhalf
    exact ⟨rfl, rfl, rfl, rfl, rfl, rfl, iff_of_false nofun nofun, nofun⟩
  · obtain ⟨n, rfl⟩ := hfresh h hhalf
    cases hstopped

theorem gone (hs : Sized known received taken half) : Sized known received taken none :=
  ⟨hs.within, nofun, nofun⟩

/-- A half that has ended and is not drained any more may be any. -/
theorem finished (hwithin : ∀ n, known = some n → received ≤ n)
    (hterminal : h.state.isTerminal = true) (hstopped : h.stopped = false) :
    Sized known received taken (some h) := by
  refine ⟨hwithin, fun h' hh' hlive => ?_, fun h' hh' hlive => ?_⟩
  · obtain rfl := Option.some.inj hh'
    rw [hterminal] at hlive
    cases hlive
  · obtain rfl := Option.some.inj hh'
    rw [hstopped] at hlive
    cases hlive

end Sized

namespace RecvHalf.Open

variable {known : Option Nat} {received taken : Nat} {h : RecvHalf}

theorem within (ho : h.Open known received taken) : ∀ n, known = some n → received ≤ n :=
  fun n hn => Nat.le_of_eq (ho.ended n hn).symm

/-- A read takes bytes from what waits to be read; if it reaches the end, it has
taken all there is. -/
theorem take (ho : h.Open known received taken) (n : Nat) (window : RecvWindow)
    (hwindow : window.received = h.window.received) :
    Sized known received (taken + (h.take n).1.data.length)
        (some { (h.take n).2 with window := window }) ∧
      ((h.take n).1.fin = true → known = some (taken + (h.take n).1.data.length)) := by
  obtain ⟨hdata, hcontents, hcounts, hnext, hfinal, -, hstopped, -⟩ := take_eq ho.counts n
  have hcut : (h.take n).1.data.length + (h.take n).2.buffer.buffered = h.buffer.buffered := by
    have hbefore : h.buffer.buffered = h.buffer.contents.length := ho.counts
    have hafter : (h.take n).2.buffer.buffered = (h.take n).2.buffer.contents.length := hcounts
    rw [hbefore, hafter, hdata, hcontents, ← List.length_append, List.take_append_drop]
  have hwhole := ho.whole
  by_cases hfin : (h.take n).1.fin = true
  · -- the half ends with this read
    have hend : (h.take n).2.state = .dataRecvd := if_pos hfin
    have hempty : h.state = .sizeKnown ∧ (h.take n).2.buffer.buffered = 0 := by
      have hboth : (h.state == .sizeKnown && (h.take n).2.buffer.isEmpty) = true := hfin
      rwa [Bool.and_eq_true, beq_iff_eq, RecvBuffer.isEmpty, beq_iff_eq] at hboth
    obtain ⟨size, hsize⟩ := Option.isSome_iff_exists.1 (ho.state.1 hempty.1)
    refine ⟨.finished ho.within ?_ (hstopped.trans ho.stopped), fun _ => ?_⟩
    · change (h.take n).2.state.isTerminal = true
      rw [hend]
      rfl
    · have hall := ho.ended size hsize
      rw [hsize]
      congr 1
      omega
  · have hstate : (h.take n).2.state = h.state := if_neg hfin
    refine ⟨⟨ho.within, fun h' hh' _ => ?_, fun h' hh' hdrained => ?_⟩,
      fun hfin' => absurd hfin' hfin⟩
    · obtain rfl := Option.some.inj hh'
      refine ⟨hstopped.trans ho.stopped, hcounts, hnext.trans ho.next, hwindow.trans ho.window, ?_,
        hfinal.trans ho.finalSize, ?_, ho.ended⟩
      · change taken + (h.take n).1.data.length + (h.take n).2.buffer.buffered = received
        omega
      · change (h.take n).2.state = .sizeKnown ↔ _
        rw [hstate]
        exact ho.state
    · obtain rfl := Option.some.inj hh'
      cases (hstopped.trans ho.stopped).symm.trans hdrained

section

variable {stop : Nat} {fin : Bool}

/-- Data that does not move the final size ends within it, or at it. -/
theorem fits (ho : h.Open known received taken)
    (hmoves : h.buffer.movesFinalSize stop fin = false) :
    ∀ m, known = some m → stop ≤ m ∧ (fin = true → stop = m) := by
  intro m hm
  simpa only [RecvBuffer.movesFinalSize, ho.finalSize, hm, Option.any_some, Bool.or_eq_false_iff,
    decide_eq_false_iff_not, Nat.not_lt, Bool.and_eq_false_imp, bne_eq_false_iff_eq] using hmoves

/-- A size that the buffer does not move is the one that was known, or the first. -/
theorem settles (ho : h.Open known received taken)
    (hmoves : h.buffer.movesFinalSize stop fin = false) (hfin : fin = true) :
    known.or (some stop) = some stop := by
  rcases hknown : known with _ | m
  · rfl
  · rw [Option.some_or, (ho.fits hmoves m hknown).2 hfin]

/-- If the size is known afterwards, everything has arrived. -/
theorem ended_fill (ho : h.Open known received taken)
    (hmoves : h.buffer.movesFinalSize stop fin = false)
    (hshort : fin = true → known = none → received ≤ stop) :
    ∀ n, known.or (if fin then some stop else none) = some n → n = max received stop := by
  intro n hn
  rcases hknown : known with _ | m
  · rw [hknown, Option.none_or] at hn
    split at hn
    · next hfin =>
      have hle := hshort hfin hknown
      obtain rfl := Option.some.inj hn
      omega
    · cases hn
  · rw [hknown, Option.some_or] at hn
    obtain rfl := Option.some.inj hn
    have hreceived := ho.ended m hknown
    have hle := (ho.fits hmoves m hknown).1
    omega

/-- The state says that the end is known exactly if it is. -/
theorem state_fill (ho : h.Open known received taken) (buffer : RecvBuffer) :
    ((h.reach stop).fill buffer fin).state = .sizeKnown ↔
      (known.or (if fin then some stop else none)).isSome = true := by
  have hbefore := ho.state
  change (if fin && h.buffer.finalSize.isNone then RecvState.sizeKnown else h.state) = _ ↔ _
  rw [ho.finalSize]
  rcases known with _ | m
  · cases fin with
    | true => exact iff_of_true rfl rfl
    | false => exact hbefore
  · rw [Option.isNone_some, Bool.and_false, if_neg Bool.false_ne_true]
    exact hbefore

end

/-- Data that fits, and does not end short, goes into the buffer. -/
theorem insert (ho : h.Open known received taken) {offset added : Nat} {data : Bytes} {fin : Bool}
    {buffer : RecvBuffer} (hinsert : h.buffer.insert offset data fin = .ok (added, buffer))
    (hshort : fin = true → known = none → received ≤ offset + data.length) :
    Sized (known.or (if fin then some (offset + data.length) else none))
        (max received (offset + data.length)) taken
        (some ((h.reach (offset + data.length)).fill buffer fin)) ∧
      (fin = true → known.or (some (offset + data.length)) = some (offset + data.length)) := by
  obtain ⟨hoffset, hmoves, hcontents, hbuffered, hnext, hfinal⟩ := RecvBuffer.insert_eq_ok hinsert
  rw [ho.next] at hoffset hcontents hbuffered hnext
  rw [ho.finalSize] at hfinal
  have hended := ho.ended_fill hmoves hshort
  have hknown : buffer.finalSize =
      known.or (if fin then some (offset + data.length) else none) := by
    rw [hfinal]
    split
    · next hfin => rw [ho.settles hmoves hfin]
    · rw [Option.or_none]
  have hcounts : buffer.Counts := by
    have hbefore : h.buffer.buffered = h.buffer.contents.length := ho.counts
    rw [RecvBuffer.Counts, hbuffered, hcontents, List.length_append, hbefore]
  -- what was taken and what is buffered together are what has arrived, which no longer has
  -- gaps
  have hwhole : taken + buffer.buffered = max received (offset + data.length) := by
    have hbefore := ho.whole
    rw [hbuffered, List.length_drop]
    omega
  refine ⟨⟨fun n hn => ?_, fun h' hh' _ => ?_, fun h' hh' hdrained => ?_⟩, ho.settles hmoves⟩
  · exact Nat.le_of_eq (hended n hn).symm
  · obtain rfl := Option.some.inj hh'
    refine ⟨ho.stopped, hcounts, hnext, ?_, hwhole, hknown, ho.state_fill buffer, hended⟩
    change max h.window.received (offset + data.length) = _
    rw [ho.window]
  · obtain rfl := Option.some.inj hh'
    cases ho.stopped.symm.trans hdrained

/-- The half is abandoned by us. If its size is not known, it is drained. -/
theorem stop (ho : h.Open known received taken) : Sized known received taken (some h.stop) := by
  refine ⟨ho.within, fun h' hh' hlive => ?_, fun h' hh' hdrained => ?_⟩
  · obtain rfl := Option.some.inj hh'
    cases hlive
  · obtain rfl := Option.some.inj hh'
    refine ⟨ho.window, ?_⟩
    have hnone : h.buffer.finalSize.isNone = true := hdrained
    rw [ho.finalSize, Option.isNone_iff_eq_none] at hnone
    exact hnone

/-- The peer abandons the half, and its size agrees with what is known. -/
theorem close (ho : h.Open known received taken) {finalSize : Nat}
    (hreceived : h.window.received ≤ finalSize)
    (hagrees : h.buffer.finalSize.any (· ≠ finalSize) = false) :
    Sized (known.or (some finalSize)) received taken (some (h.close finalSize)) ∧
      known.or (some finalSize) = some finalSize := by
  have hsettles : known.or (some finalSize) = some finalSize := by
    rw [ho.finalSize] at hagrees
    rcases known with _ | m
    · rfl
    · rw [Option.any_some, decide_eq_false_iff_not, ne_eq, not_not] at hagrees
      rw [Option.some_or, hagrees]
  refine ⟨.finished (fun n hn => ?_) rfl ho.stopped, hsettles⟩
  rw [hsettles] at hn
  obtain rfl := Option.some.inj hn
  rw [← ho.window]
  exact hreceived

end RecvHalf.Open

namespace Sized

variable {known : Option Nat} {received taken : Nat} {half : Option RecvHalf} {h : RecvHalf}
  {v v' : View} {id : StreamId}

/-- What is not about receiving changes nothing of what is known. -/
theorem spares (hs : Sized known received taken (v.recv id)) (h : v.SparesRecv v') :
    Sized known received taken (v'.recv id) := by
  rcases h.recv id with heq | ⟨hnone, -⟩
  · rwa [heq]
  · rw [hnone]
    exact hs.gone

/-- A half that is drained counts what arrives; the end ends it. -/
theorem settle (hs : Sized known received taken (v.recv id)) (hrecv : v.recv id = some h)
    (hstopped : h.stopped = true) {upTo arrived n : Nat} {isFinal : Bool}
    (harrived : arrived ≤ upTo) (hdata : isFinal = false → arrived = upTo)
    (hsettle : v.Settle id h upTo isFinal (.ok n) v') :
    Sized (known.or (if isFinal then some upTo else none)) (max received arrived) taken
        (v'.recv id) ∧
      (isFinal = true → known.or (some upTo) = some upTo) := by
  obtain ⟨hwindow, rfl⟩ := hs.draining h hrecv hstopped
  cases hsettle with
  | @settled mid _ hplaced hcount hreaped =>
    refine ⟨spares ?_ hreaped.sparesRecv, fun _ => rfl⟩
    rw [View.recv_grant, View.recv_setRecv, if_pos rfl, Option.none_or]
    -- stopping a half ends it, so no open half is drained
    have hterminal : h.state.isTerminal = true := by
      rcases hstate : h.state.isTerminal with _ | _
      · cases (hs.isOpen h hrecv hstate).stopped.symm.trans hstopped
      · rfl
    cases isFinal with
    | true =>
      have hle := hplaced rfl
      refine .finished (fun n hn => ?_) hterminal ?_
      · obtain rfl := Option.some.inj hn
        omega
      · exact Bool.and_false _
    | false =>
      obtain rfl := hdata rfl
      refine ⟨nofun, fun h' hh' hlive => ?_, fun h' hh' _ => ?_⟩
      · obtain rfl := Option.some.inj hh'
        cases hterminal.symm.trans hlive
      · obtain rfl := Option.some.inj hh'
        refine ⟨?_, rfl⟩
        rw [RecvHalf.settle, RecvWindow.received_grant, ← hwindow]
        rfl

/-- What the peer's data does to a half, if it is not refused and does not end
short. -/
theorem data (hs : Sized known received taken (v.recv id)) {frozen fin : Bool} {offset n : Nat}
    {data : Bytes} (hdata : v.Data frozen id offset data fin (.ok n) v')
    (hshort : ∀ h, v.inPlay frozen id = some h → fin = true → h.stopped = false →
      h.buffer.finalSize = none → h.window.received ≤ offset + data.length) :
    if (v.inPlay frozen id).isSome then
      Sized (known.or (if fin then some (offset + data.length) else none))
          (max received (offset + data.length)) taken (v'.recv id) ∧
        (fin = true → known.or (some (offset + data.length)) = some (offset + data.length))
    else Sized known received taken (v'.recv id) := by
  cases hdata with
  | ignored hover =>
    rw [View.inPlay_eq_none hover]
    exact hs
  | @settled h _ _ hfrozen hrecv _ hstopped hsettle =>
    rw [View.inPlay_eq_some_iff.2 ⟨hfrozen, hrecv, .inl hstopped⟩]
    exact hs.settle hrecv hstopped (Nat.le_refl _) (fun _ => rfl) hsettle
  | @filled h _ _ _ hfrozen hrecv hstopped hterminal hcount hinsert =>
    have hplay := View.inPlay_eq_some_iff.2 ⟨hfrozen, hrecv, .inr hterminal⟩
    have ho := hs.isOpen h hrecv hterminal
    rw [hplay, View.recv_setRecv, if_pos rfl]
    refine ho.insert hinsert fun hfin hnone => ?_
    rw [← ho.window]
    exact hshort h hplay hfin hstopped (ho.finalSize.trans hnone)

/-- What it does to a half that the peer abandoned it, if this is not refused. -/
theorem peerReset (hs : Sized known received taken (v.recv id)) {frozen : Bool} {finalSize n : Nat}
    (hreset : v.PeerReset frozen id finalSize (.ok n) v') :
    if (v.inPlay frozen id).isSome then
      Sized (known.or (some finalSize)) received taken (v'.recv id) ∧
        known.or (some finalSize) = some finalSize
    else Sized known received taken (v'.recv id) := by
  cases hreset with
  | ignored hover =>
    rw [View.inPlay_eq_none hover]
    exact hs
  | @settled h _ _ hfrozen hrecv hstopped hsettle =>
    rw [View.inPlay_eq_some_iff.2 ⟨hfrozen, hrecv, .inl hstopped⟩]
    have hdata : true = false → 0 = finalSize := nofun
    obtain ⟨hsized, hsettles⟩ := hs.settle hrecv hstopped (Nat.zero_le _) hdata hsettle
    rw [Nat.max_zero] at hsized
    exact ⟨hsized, hsettles rfl⟩
  | ended hfrozen hrecv _ hterminal hreceived hagrees hcount hreaped =>
    rw [View.inPlay_eq_some_iff.2 ⟨hfrozen, hrecv, .inr hterminal⟩]
    obtain ⟨hsized, hsettles⟩ := (hs.isOpen _ hrecv hterminal).close hreceived hagrees
    refine ⟨spares ?_ hreaped.sparesRecv, hsettles⟩
    rw [View.recv_release, View.recv_setRecv, if_pos rfl]
    exact hsized

/-- A half is left to drain only while its size is not known. -/
theorem stop (hs : Sized known received taken (v.recv id)) {r : Except CallError Nat}
    (hstop : v.Stop id r v') : Sized known received taken (v'.recv id) := by
  cases hstop with
  | refused e => exact hs
  | abandoned hrecv hterminal hreaped =>
    refine spares ?_ hreaped.sparesRecv
    rw [View.recv_release, View.recv_setRecv, if_pos rfl]
    exact (hs.isOpen _ hrecv hterminal).stop

/-- A read adds to what was read. If it reaches the end, as much was read as the
size says. -/
theorem read (hs : Sized known received taken (v.recv id)) {frozen : Bool} {maxLen : Nat}
    {r : Except CallError ReadOutcome} (hread : v.Read frozen id maxLen r v') :
    Sized known received (taken + (StreamSet.readBy r).length) (v'.recv id) ∧
      ∀ out, r = .ok out → out.fin = true → known = some (taken + out.data.length) := by
  cases hread with
  | refused e => exact ⟨hs, nofun⟩
  | @left h _ hrecv hwaiting =>
    rw [View.recv_setRecv, if_pos rfl]
    rcases hterminal : h.state.isTerminal with _ | _
    -- a read after the freeze returns no credit, but it still empties the buffer
    · obtain ⟨hsized, hend⟩ :=
        (hs.isOpen h hrecv hterminal).take maxLen (h.take maxLen).2.window rfl
      refine ⟨hsized, ?_⟩
      rintro out ⟨⟩ hfin
      exact hend hfin
    · -- a half that has ended does not end again
      have hfin : (h.take maxLen).1.fin = false := by
        change (h.state == .sizeKnown && _) = false
        cases hstate : h.state <;> rw [hstate] at hterminal <;> first | rfl | cases hterminal
      have hstate : (h.take maxLen).2.state = h.state := if_neg (Bool.eq_false_iff.1 hfin)
      refine ⟨⟨hs.within, fun h' hh' hlive => ?_, fun h' hh' hdrained => ?_⟩, ?_⟩
      · obtain rfl := Option.some.inj hh'
        rw [hstate, hterminal] at hlive
        cases hlive
      · obtain rfl := Option.some.inj hh'
        exact ⟨(hs.draining h hrecv hdrained).window, (hs.draining h hrecv hdrained).unknown⟩
      · rintro out ⟨⟩ hfin'
        cases hfin.symm.trans hfin'
  | @taken h _ _ hrecv hterminal _ hreaped =>
    obtain ⟨hsized, hend⟩ := (hs.isOpen h hrecv hterminal).take maxLen
      ((h.take maxLen).2.window.read (h.take maxLen).1.data.length) rfl
    refine ⟨spares ?_ hreaped.sparesRecv, ?_⟩
    · rw [View.recv_release, View.recv_setRecv, if_pos rfl]
      exact hsized
    · rintro out ⟨⟩ hfin
      exact hend hfin

end Sized

end QuicHost
