import QuicHost.Proofs.Stream.Outcome
import QuicHost.Proofs.Table

/-!
# The books on credit

The bytes that the peer has sent on a connection are those that were given back
to it and those that wait to be read on some stream. Bytes are given back on
five occasions, each with its own amount: when they are read, when their stream
is stopped, when they arrive on a stopped stream, and when a stream is reset,
stopped or not. On each of them the books of the stream and those of the
connection change alike, so both stay balanced, and what an operation answers is
what the connection has given back.

The books of a stream are exact, since nothing on a stream exceeds its limit. Those
of the connection are kept in words without asking whether the sums fit. The theorems
compare them with the exact number of bytes that were given back (`credit`), as long
as that fits.
-/

namespace QuicHost

/-- The books of a receiving half: what was received was given back or waits to
be read. -/
structure RecvHalf.Balanced (h : RecvHalf) : Prop where
  counts : h.buffer.Counts
  /-- what was received was read or waits -/
  received : h.window.received = h.window.consumed + h.buffer.buffered
  /-- while the half lives, what was received is what was put into the buffer -/
  next : h.state.isTerminal = false → h.buffer.nextOffset = h.window.received
  /-- a stopped half has ended, and nothing waits on it -/
  stopped : h.stopped = true → h.state.isTerminal = true ∧ h.buffer.buffered = 0
  /-- the peer keeps to its limit -/
  within : h.window.received ≤ h.window.limit
  /-- and the limit is a number that fits a word -/
  word : h.window.limit ≤ maxWord

namespace RecvHalf

theorem balanced_ofWindow {n : Nat} (hn : n ≤ maxWord) : (RecvHalf.ofWindow n).Balanced :=
  ⟨rfl, rfl, fun _ => rfl, nofun, Nat.zero_le _, hn⟩

/-- What is taken out of the buffer no longer waits. -/
theorem buffered_take (h : RecvHalf) (hcounts : h.buffer.Counts) (n : Nat) :
    (h.take n).1.data.length + (h.take n).2.buffer.buffered = h.buffer.buffered := by
  obtain ⟨hdata, hcontents, hafter, -⟩ := take_eq hcounts n
  rw [hafter, hcontents, hdata, hcounts, ← List.length_append, List.take_append_drop]

namespace Balanced

variable {h : RecvHalf} (hb : h.Balanced)

include hb

/-- No more is given back than was received, so that the count fits a word. -/
theorem consumed_read {n : Nat} (hn : h.window.consumed + n ≤ h.window.limit) :
    (h.window.read n).consumed = h.window.consumed + n :=
  wrap_of_le (Nat.le_trans hn hb.word)

/-- What is read is given back. -/
theorem take (n : Nat) : ((h.take n).2.release (h.take n).1.data.length).Balanced := by
  obtain ⟨-, -, hcounts, hnext, -, hwindow, hstopped, hstate⟩ := take_eq hb.counts n
  have hbuffered := h.buffered_take hb.counts n
  have hreceived := hb.received
  have hwithin := hb.within
  refine ⟨hcounts, ?_, fun hlive => ?_, fun hstop => ?_, ?_, ?_⟩
  · rw [release, hwindow, RecvWindow.received_read, hb.consumed_read (by omega)]
    change _ = _ + (h.take n).2.buffer.buffered
    omega
  · change (h.take n).2.state.isTerminal = false at hlive
    change (h.take n).2.buffer.nextOffset = (h.take n).2.window.received
    rcases hstate with hstate | ⟨-, hstate⟩
    · rw [hstate] at hlive
      rw [hnext, hwindow, hb.next hlive]
    · rw [hstate] at hlive
      cases hlive
  · change (h.take n).2.stopped = true at hstop
    change (h.take n).2.state.isTerminal = true ∧ (h.take n).2.buffer.buffered = 0
    obtain ⟨hended, hempty⟩ := hb.stopped (hstopped ▸ hstop)
    refine ⟨?_, by omega⟩
    rcases hstate with hstate | ⟨-, hstate⟩
    · rw [hstate]
      exact hended
    · rw [hstate]
      rfl
  · exact Nat.le_trans hwithin (h.window.limit_le_read _)
  · exact RecvWindow.limit_read_le hb.word _

/-- What waits is given back when the half is stopped. -/
theorem stop : h.stop.Balanced := by
  have hreceived := hb.received
  have hwithin := hb.within
  refine ⟨rfl, ?_, nofun, fun _ => ⟨rfl, rfl⟩, ?_, RecvWindow.limit_read_le hb.word _⟩
  · change h.window.received = (h.window.read h.buffer.buffered).consumed
    rw [hb.consumed_read (by omega), hreceived]
  · exact Nat.le_trans hwithin (h.window.limit_le_read _)

/-- What is received within the limit, and no more is given back than was received. -/
theorem reach {upTo : Nat} (hle : upTo ≤ h.window.limit) :
    (h.reach upTo).window.received ≤ (h.reach upTo).window.limit :=
  Nat.max_le.2 ⟨hb.within, hle⟩

/-- What arrives on a stopped half is given back. -/
theorem settle (hstopped : h.stopped = true) {upTo : Nat} (hle : upTo ≤ h.window.limit)
    (isFinal : Bool) : (h.settle upTo isFinal).Balanced := by
  obtain ⟨hended, hempty⟩ := hb.stopped hstopped
  have hreceived := hb.received
  have hwithin := hb.within
  have hword := hb.word
  have hreached := hb.reach hle
  have hgranted : ((h.reach upTo).window.grant (upTo - h.window.received)).consumed =
      h.window.consumed + (upTo - h.window.received) :=
    RecvWindow.consumed_grant (by change h.window.consumed + _ ≤ _; omega)
  refine ⟨hb.counts, ?_, fun hlive => absurd hended (Bool.eq_false_iff.1 hlive), fun _ =>
    ⟨hended, hempty⟩, ?_, RecvWindow.limit_grant_le (w := (h.reach upTo).window) hword _⟩
  · rw [RecvHalf.settle, RecvWindow.received_grant, hgranted]
    change max h.window.received upTo = _ + h.buffer.buffered
    omega
  · rw [RecvHalf.settle, RecvWindow.received_grant]
    exact Nat.le_trans hreached (RecvWindow.limit_le_grant _ _)

/-- All that was announced is given back when the peer abandons the half. -/
theorem close {finalSize : Nat} (hfinal : h.window.received ≤ finalSize)
    (hle : finalSize ≤ h.window.limit) : (h.close finalSize).Balanced := by
  have hreceived := hb.received
  have hword := hb.word
  refine ⟨rfl, ?_, nofun, fun _ => ⟨rfl, rfl⟩, ?_, RecvWindow.limit_read_le hword _⟩
  · change max h.window.received finalSize =
      wrap (h.window.consumed + (finalSize - h.window.consumed)) + 0
    rw [wrap_of_le (by omega)]
    omega
  · exact Nat.le_trans (hb.reach hle) (RecvWindow.limit_le_read _ _)

/-- What is new of some data is received and waits. -/
theorem fill (hlive : h.state.isTerminal = false) {offset added : Nat} {data : Bytes} {fin : Bool}
    {buffer : RecvBuffer} (hle : offset + data.length ≤ h.window.limit)
    (hinsert : h.buffer.insert offset data fin = .ok (added, buffer)) :
    ((h.reach (offset + data.length)).fill buffer fin).Balanced ∧
      buffer.buffered = h.buffer.buffered + (offset + data.length - h.window.received) := by
  obtain ⟨hoffset, -, hcontents, hbuffered, hnext, -⟩ := RecvBuffer.insert_eq_ok hinsert
  have hcounts : h.buffer.buffered = h.buffer.contents.length := hb.counts
  have hreceived := hb.received
  have hbefore := hb.next hlive
  rw [hbefore] at hoffset hcontents hbuffered hnext
  have hadded : (data.drop (h.window.received - offset)).length =
      offset + data.length - h.window.received := by
    rw [List.length_drop]
    omega
  refine ⟨⟨?_, ?_, fun _ => hnext, fun hstop => ?_, hb.reach hle, hb.word⟩,
    hbuffered.trans (by rw [hadded])⟩
  · change buffer.buffered = buffer.contents.length
    rw [hcontents, List.length_append, hbuffered, hcounts]
  · change max h.window.received (offset + data.length) = h.window.consumed + buffer.buffered
    omega
  · exact absurd (hb.stopped hstop).1 (Bool.eq_false_iff.1 hlive)

end Balanced

end RecvHalf

/-- The number of bytes that wait to be read on a stream. -/
def View.waiting (v : View) (id : StreamId) : Nat := (v.recv id).elim 0 (·.buffer.buffered)

/-- A stream that goes has nothing that waits. -/
theorem View.SparesRecv.waiting {v v' : View} (h : v.SparesRecv v') (id : StreamId) :
    v'.waiting id = v.waiting id := by
  rw [View.waiting, View.waiting]
  rcases h.recv id with heq | ⟨hnone, hover⟩
  · rw [heq]
  · rw [hnone]
    rcases hrecv : v.recv id with _ | h
    · rfl
    · exact (hover h hrecv).2.1.symm

namespace StreamSet

/-- The number of bytes that wait to be read on all live streams. -/
def unreadTotal (s : StreamSet) : Nat :=
  s.streams.total fun st => st.recv.elim 0 (·.buffer.buffered)

/-- The books of a connection that has given back `credit` bytes: what was received
was given back or waits to be read, and the limit is the window beyond what was given
back, as far as these sums fit a word. -/
structure Balanced (s : StreamSet) (credit : Nat) : Prop where
  half : ∀ {id h}, s.view.recv id = some h → h.Balanced
  /-- as on each half, but for the sum over all of them -/
  received : credit + s.unreadTotal ≤ maxWord → s.recvWindow.received = credit + s.unreadTotal
  /-- the limit follows what was given back -/
  stands : s.recvWindow.Stands credit
  window : s.recvWindow.window = s.localParams.initialMaxData

/-- Nothing was received in a new set. -/
theorem balanced_new (side : Side) {own : TransportParameters}
    (hown : ∀ id, recvWindowFor side own id ≤ maxWord) : (new side own).Balanced 0 where
  half hrecv := by
    rw [eq_of_view_recv_new hrecv]
    exact RecvHalf.balanced_ofWindow (hown _)
  received _ := rfl
  stands _ := ⟨rfl, rfl⟩
  window := rfl

section

variable {s s' : StreamSet} {credit : Nat}

/-- If what waits has changed on one stream only, the total has changed by as
much. -/
theorem unreadTotal_add (hs : s.Orderly) (hs' : s'.Orderly) (id : StreamId)
    (hother : ∀ id', id' ≠ id → s'.view.waiting id' = s.view.waiting id') :
    s'.unreadTotal + s.view.waiting id = s.unreadTotal + s'.view.waiting id := by
  have hget : ∀ {t : StreamSet}, t.Orderly → ∀ id',
      (t.streams.get? id').elim 0 (fun st => st.recv.elim 0 (·.buffer.buffered)) =
        t.view.waiting id' := by
    intro t ht id'
    rw [View.waiting, ← (unread_eq ht id').2, buffered]
    rcases t.streams.get? id' with _ | st <;> rfl
  rw [← hget hs id, ← hget hs' id]
  refine Table.total_add_of_eq_except fun id' hid' => ?_
  rw [hget hs, hget hs', hother id' hid']

/-- Operations that spare receiving halves leave the books alone. -/
theorem Balanced.spares (hb : s.Balanced credit) (hs : s.Orderly) (hs' : s'.Orderly)
    (hlocal : s'.localParams = s.localParams) (h : s.view.SparesRecv s'.view) :
    s'.Balanced credit := by
  have hwindow : s'.recvWindow = s.recvWindow := h.recvWindow
  have htotal : s'.unreadTotal = s.unreadTotal := by
    have := unreadTotal_add hs hs' ⟨0⟩ fun id' _ => h.waiting id'
    rw [h.waiting] at this
    omega
  refine ⟨fun {id half} hrecv => ?_, ?_, ?_, ?_⟩
  · exact hb.half (h.recv_eq hrecv)
  · rw [hwindow, htotal]
    exact hb.received
  · rw [hwindow]
    exact hb.stands
  · rw [hwindow, hlocal]
    exact hb.window

/-- If `a` bytes are received and `b` are given back, on one stream as on the
connection, the books stay balanced. -/
theorem Balanced.change (hb : s.Balanced credit) (hs : s.Orderly) (hfollows : s.Follows s')
    {id : StreamId} {h h' : RecvHalf} {w : View} {a b : Nat} (hrecv : s.view.recv id = some h)
    (hchanged : w.recv id = some h') (hother : ∀ id', id' ≠ id → w.recv id' = s.view.recv id')
    (hbalanced : h'.Balanced) (hwindow : w.recvWindow = (s.recvWindow.arrive a).read b ∨
      w.recvWindow = (s.recvWindow.arrive a).grant b)
    (hab : a + h.buffer.buffered = b + h'.buffer.buffered) (hreaped : w.Reaped id s'.view) :
    s'.Balanced (credit + b) := by
  have hspares := hreaped.sparesRecv
  have hrecvWindow : s'.recvWindow = w.recvWindow := hspares.recvWindow
  -- nothing waits on a stream that is over, so the total does not notice when it goes
  have htotal := unreadTotal_add hs hfollows.orderly id fun id' hid' => by
    rw [hspares.waiting, View.waiting, View.waiting, hother id' hid']
  have hwaiting : s.view.waiting id = h.buffer.buffered ∧
      s'.view.waiting id = h'.buffer.buffered := by
    rw [hspares.waiting, View.waiting, View.waiting, hrecv, hchanged]
    exact ⟨rfl, rfl⟩
  rw [hwaiting.1, hwaiting.2] at htotal
  have hstands := hb.stands.arrive a
  refine ⟨fun {id' half} hhalf => ?_, fun hfits => ?_, ?_, ?_⟩
  · have hw : w.recv id' = some half := hspares.recv_eq hhalf
    by_cases hid : id' = id
    · rw [hid, hchanged] at hw
      obtain rfl := Option.some.inj hw
      exact hbalanced
    · rw [hother id' hid] at hw
      exact hb.half hw
  · have hbefore := hb.received (by omega)
    have hreceived : s'.recvWindow.received = (s.recvWindow.arrive a).received := by
      rcases hwindow with hwindow | hwindow
      · rw [hrecvWindow, hwindow, RecvWindow.received_read]
      · rw [hrecvWindow, hwindow, RecvWindow.received_grant]
    rw [hreceived, RecvWindow.received_arrive (by omega)]
    omega
  · rw [hrecvWindow]
    rcases hwindow with hwindow | hwindow
    · exact hwindow ▸ hstands.read b
    · exact hwindow ▸ hstands.grant b
  · rw [hrecvWindow, hfollows.localParams, ← hb.window]
    rcases hwindow with hwindow | hwindow
    · rw [hwindow, RecvWindow.window_read, RecvWindow.window_arrive]
    · rw [hwindow, RecvWindow.window_grant, RecvWindow.window_arrive]

/-! ## The five occasions

Each occasion on which bytes are given back, with its amount. In every case the books of
the stream and those of the connection change by the same number of bytes. -/

variable {id : StreamId}

/-- A refusal that leaves the view alone leaves the books alone. -/
theorem Balanced.same (hb : s.Balanced credit) (hs : s.Orderly) (hfollows : s.Follows s')
    (hview : s'.view = s.view) : s'.Balanced credit :=
  hb.spares hs hfollows.orderly hfollows.localParams
    (View.sparesRecv_of_eq (congrArg View.recvWindow hview) (congrArg View.recv hview))

/-- What is read leaves the bytes that wait and joins those given back. -/
theorem Balanced.read (hb : s.Balanced credit) (hs : s.Orderly) (hfrozen : s.frozen = false)
    (hfollows : s.Follows s') {maxLen : Nat} {out : ReadOutcome}
    (hout : s.view.Read s.frozen id maxLen (.ok out) s'.view) :
    s'.Balanced (credit + out.data.length) := by
  generalize hview : s'.view = v' at hout
  cases hout with
  | left hfrozen' _ _ =>
    rw [hfrozen] at hfrozen'
    cases hfrozen'
  | @taken h _ _ hrecv _ _ hreaped =>
    have hhalf := hb.half hrecv
    have hlength : 0 + h.buffer.buffered =
        (h.take maxLen).1.data.length + (h.take maxLen).2.buffer.buffered := by
      rw [Nat.zero_add, h.buffered_take hhalf.counts]
    exact hb.change hs hfollows hrecv
      (by rw [View.recv_release, View.recv_setRecv, if_pos rfl])
      (fun id' hid' => by rw [View.recv_release, View.recv_setRecv, if_neg hid'])
      (hhalf.take maxLen) (.inl (by rw [RecvWindow.arrive_zero]; rfl)) hlength (hview ▸ hreaped)

/-- What waits on a stopped stream is given back at once. -/
theorem Balanced.stopSending (hb : s.Balanced credit) (hs : s.Orderly) (hfollows : s.Follows s')
    {n : Nat} (hout : s.view.Stop id (.ok n) s'.view) : s'.Balanced (credit + n) := by
  generalize hview : s'.view = v' at hout
  cases hout with
  | @abandoned h _ hrecv _ hreaped =>
    exact hb.change hs hfollows hrecv
      (by rw [View.recv_release, View.recv_setRecv, if_pos rfl])
      (fun id' hid' => by rw [View.recv_release, View.recv_setRecv, if_neg hid'])
      (hb.half hrecv).stop (.inl (by rw [RecvWindow.arrive_zero]; rfl)) (Nat.zero_add _)
      (hview ▸ hreaped)

/-- What is counted on a stopped stream is given back at once. -/
theorem Balanced.settle (hb : s.Balanced credit) (hs : s.Orderly) (hfollows : s.Follows s')
    {h : RecvHalf} (hrecv : s.view.recv id = some h) (hstopped : h.stopped = true) {upTo n : Nat}
    {isFinal : Bool} (hout : s.view.Settle id h upTo isFinal (.ok n) s'.view) :
    s'.Balanced (credit + n) := by
  generalize hview : s'.view = v' at hout
  cases hout with
  | settled _ hcount hreaped =>
    refine hb.change hs hfollows hrecv (by rw [View.recv_grant, View.recv_setRecv, if_pos rfl])
      (fun id' hid' => by rw [View.recv_grant, View.recv_setRecv, if_neg hid',
        hcount.recv_of_ne hid'])
      ((hb.half hrecv).settle hstopped hcount.le_limit isFinal) (.inr ?_) rfl (hview ▸ hreaped)
    rw [View.recvWindow_grant, View.recvWindow_setRecv, hcount.recvWindow_eq]
    rfl

/-- Data joins the bytes that wait, or is given back on a stopped stream. -/
theorem Balanced.data (hb : s.Balanced credit) (hs : s.Orderly) (hfollows : s.Follows s')
    {offset n : Nat} {data : Bytes} {fin : Bool}
    (hout : s.view.Data s.frozen id offset data fin (.ok n) s'.view) :
    s'.Balanced (credit + n) := by
  generalize hview : s'.view = v' at hout
  cases hout with
  | ignored _ => exact hb.same hs hfollows hview
  | settled _ hrecv _ hstopped hsettle =>
    exact hb.settle hs hfollows hrecv hstopped (hview ▸ hsettle)
  | @filled h _ buffer _ _ hrecv _ hlive hcount hinsert =>
    obtain ⟨hhalf, hbuffered⟩ := (hb.half hrecv).fill hlive hcount.le_limit hinsert
    refine hb.change (a := offset + data.length - h.window.received) (b := 0) hs hfollows hrecv
      (by rw [hview, View.recv_setRecv, if_pos rfl])
      (fun id' hid' => by rw [hview, View.recv_setRecv, if_neg hid', hcount.recv_of_ne hid'])
        hhalf (.inr ?_) ?_ .kept
    · rw [hview, View.recvWindow_setRecv, hcount.recvWindow_eq]
      rfl
    · change _ = 0 + buffer.buffered
      omega

/-- What was not read up to the final size is given back, whether it was sent or not. -/
theorem Balanced.peerReset (hb : s.Balanced credit) (hs : s.Orderly) (hfollows : s.Follows s')
    {frozen : Bool} {finalSize n : Nat}
    (hout : s.view.PeerReset frozen id finalSize (.ok n) s'.view) :
    s'.Balanced (credit + n) := by
  generalize hview : s'.view = v' at hout
  cases hout with
  | ignored _ => exact hb.same hs hfollows hview
  | settled _ hrecv hstopped hsettle =>
    exact hb.settle hs hfollows hrecv hstopped (hview ▸ hsettle)
  | @ended h _ _ _ hrecv _ _ hfinal _ hcount hreaped =>
    refine hb.change (a := finalSize - h.window.received) hs hfollows hrecv
      (by rw [View.recv_release, View.recv_setRecv, if_pos rfl])
      (fun id' hid' => by rw [View.recv_release, View.recv_setRecv, if_neg hid',
        hcount.recv_of_ne hid'])
      ((hb.half hrecv).close hfinal hcount.le_limit) (.inl ?_) ?_ (hview ▸ hreaped)
    · rw [View.recvWindow_release, View.recvWindow_setRecv, hcount.recvWindow_eq]
      rfl
    · have hreceived := (hb.half hrecv).received
      change _ = _ + 0
      omega

end

end StreamSet

end QuicHost
