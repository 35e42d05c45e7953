import QuicHost.Proofs.Stream.Balance
import QuicHost.Proofs.Stream.Census
import QuicHost.Proofs.Stream.Limits
import QuicHost.Proofs.Stream.Reading

/-!
# How large the quantities of a half become

Sending halves and receiving halves keep quantities that measure each other. A step that
sends raises what was sent by no more than it says, and forgets no acknowledgement if the
sum fits a word (`SendHalf.Proceeds`). What was read and what waits of a receiving half was
received, and its limit is the window beyond what was read (`RecvHalf.Measured`).

What is said about receiving presumes room for one more window of a stream
(`View.HasRoom`). Then no sum was ever too large: room is never gained, and one operation
takes no more of it than a window.
-/

namespace QuicHost

/-! ## Sending

How far the sending side comes in one effect: what is sent, what is acknowledged, and the
limits, all bounded by what was there before and what the effect brings. `Proceeds`
composes with effects on the receiving side, which leave all this alone. -/

/-- What a step that sends up to `n` bytes and counts `acks` acknowledged ones makes of
a sending half: it forgets no acknowledgement if the sum fits a word, and raises the
limit to no more than a word holds. -/
structure SendHalf.Proceeds (h h' : SendHalf) (n acks : Nat) : Prop where
  /-- acknowledgements are not forgotten -/
  acked : h.Solvent → h.buffer.acked + acks ≤ maxWord → h.buffer.acked ≤ h'.buffer.acked
  /-- a limit that fits a word is raised to one that does -/
  limit : h.window.limit ≤ maxWord → h'.window.limit ≤ maxWord
  /-- at most `n` bytes are sent -/
  sent : h'.window.consumed ≤ h.window.consumed + n

namespace SendHalf

variable (h : SendHalf)

theorem proceeds_refl (n acks : Nat) : h.Proceeds h n acks :=
  ⟨fun _ _ => Nat.le_refl _, id, Nat.le_add_right _ _⟩

theorem proceeds_accept (n : Nat) (fin : Bool) : h.Proceeds (h.accept n fin) n 0 := by
  refine ⟨fun _ _ => ?_, id, Nat.add_le_add_left (Nat.min_le_left _ _) _⟩
  cases fin <;> exact Nat.le_refl _

theorem proceeds_abandon : h.Proceeds h.abandon 0 0 := ⟨fun hs _ => hs.acked, id, Nat.le_refl _⟩

/-- The sum does not fall below what was acknowledged, nor does its bound. -/
theorem proceeds_acknowledge (n : Nat) : h.Proceeds (h.acknowledge n) 0 n := by
  refine ⟨fun hs hfits => ?_, id, Nat.le_refl _⟩
  change h.buffer.acked ≤ min (wrap (h.buffer.acked + n)) h.buffer.accepted
  rw [wrap_of_le hfits]
  exact Nat.le_min.2 ⟨Nat.le_add_right _ _, hs.acked⟩

theorem proceeds_extend {limit : Nat} (hlimit : limit ≤ maxWord) :
    h.Proceeds (h.extend limit) 0 0 :=
  ⟨fun _ _ => Nat.le_refl _, fun hle => Nat.max_le.2 ⟨hle, hlimit⟩, Nat.le_refl _⟩

end SendHalf

namespace View

/-- Limits for sending fit a word, and no stream has sent more than the connection. -/
structure Capped (v : View) : Prop where
  /-- no half was sent on more than the connection was -/
  half : ∀ {id h}, v.send id = some h →
    h.window.limit ≤ maxWord ∧ h.window.consumed ≤ v.sendWindow.consumed
  connection : v.sendWindow.limit ≤ maxWord

/-- What a step that sends `n` bytes and counts `acks` acknowledged ones makes of the
sending halves of a view. -/
structure Proceeds (v v' : View) (n acks : Nat) : Prop where
  half : ∀ {id h'}, v'.send id = some h' → ∃ h, v.send id = some h ∧ h.Proceeds h' n acks
  connection : v.sendWindow.limit ≤ maxWord → v'.sendWindow.limit ≤ maxWord
  sent : v'.sendWindow.consumed = v.sendWindow.consumed + n

section

variable {v v' v'' : View} {id : StreamId} {n acks : Nat}

/-- The caps are kept when the connection sends as much as the streams. -/
theorem Capped.proceeds (hv : v.Capped) (h : v.Proceeds v' n acks) : v'.Capped where
  half hsend := by
    obtain ⟨half, hbefore, hhalf⟩ := h.half hsend
    obtain ⟨hlimit, hle⟩ := hv.half hbefore
    rw [h.sent]
    exact ⟨hhalf.limit hlimit, Nat.le_trans hhalf.sent (Nat.add_le_add_right hle n)⟩
  connection := h.connection hv.connection

/-- What is not about sending may follow. -/
theorem Proceeds.spares (h : v.Proceeds v' n acks) (hs : v'.SparesSend v'') :
    v.Proceeds v'' n acks where
  half hsend := h.half (hs.send_eq hsend)
  connection hle := by
    rw [hs.sendWindow]
    exact h.connection hle
  sent := by
    rw [hs.sendWindow]
    exact h.sent

theorem Proceeds.refl (v : View) (acks : Nat) : v.Proceeds v 0 acks :=
  ⟨fun {_ h} hsend => ⟨h, hsend, h.proceeds_refl 0 acks⟩, id, rfl⟩

/-- What is not about sending lets the sending side go on as it is. -/
theorem SparesSend.proceeds (h : v.SparesSend v') : v.Proceeds v' 0 0 :=
  (Proceeds.refl v 0).spares h

/-- Where one half goes on, every half that is in view afterwards goes on from one before. -/
theorem send_setSend_proceeds {h h' : SendHalf} (hsend : v.send id = some h)
    (hhalf : h.Proceeds h' n acks) {id' : StreamId} {half' : SendHalf}
    (hafter : (v.setSend id h').send id' = some half') :
    ∃ half, v.send id' = some half ∧ half.Proceeds half' n acks := by
  rw [send_setSend] at hafter
  split at hafter
  · next heq =>
    subst heq
    obtain rfl := Option.some.inj hafter
    exact ⟨h, hsend, hhalf⟩
  · exact ⟨half', hafter, half'.proceeds_refl n acks⟩

theorem proceeds_setSend {h h' : SendHalf} (hsend : v.send id = some h)
    (hhalf : h.Proceeds h' 0 acks) : v.Proceeds (v.setSend id h') 0 acks :=
  ⟨fun hafter => send_setSend_proceeds hsend hhalf hafter, fun hle => hle, rfl⟩

/-- A write sends as much on the connection as on its stream. -/
theorem Write.proceeds {data : Bytes} {fin : Bool} {r : Except CallError WriteOutcome}
    (h : v.Write id data fin r v') : ∃ n, v.Proceeds v' n 0 := by
  cases h with
  | refused e => exact ⟨0, .refl v 0⟩
  | @accepted h n hsend _ hn =>
    refine ⟨n, fun hafter => ?_, fun hle => hle, ?_⟩
    · exact send_setSend_proceeds hsend
        (h.proceeds_accept n (fin && decide (n = data.length))) hafter
    · change v.sendWindow.consumed + min n v.sendWindow.credit = _
      omega

theorem Reset.proceeds {r : Except CallError Unit} (h : v.Reset id r v') : v.Proceeds v' 0 0 := by
  cases h with
  | refused e => exact .refl v 0
  | abandoned hsend _ hreaped =>
    exact (proceeds_setSend hsend (SendHalf.proceeds_abandon _)).spares hreaped.sparesSend

/-- That the peer wants no more sends nothing and forgets nothing. -/
theorem PeerStop.proceeds {r : Except TransportError Bool} (h : v.PeerStop id r v') :
    v.Proceeds v' 0 0 := by
  cases h with
  | ignored => exact .refl v 0
  | refused _ => exact .refl v 0
  | abandoned hsend _ hreaped =>
    exact (proceeds_setSend hsend (SendHalf.proceeds_abandon _)).spares hreaped.sparesSend

theorem Raise.proceeds {limit : Nat} (hlimit : limit ≤ maxWord) (h : v.Raise id limit v') :
    v.Proceeds v' 0 0 := by
  cases h with
  | stale => exact .refl v 0
  | raised hsend _ => exact proceeds_setSend hsend (SendHalf.proceeds_extend _ hlimit)

theorem RaiseAll.proceeds {limit : Nat} (hlimit : limit ≤ maxWord) (h : v.RaiseAll limit v') :
    v.Proceeds v' 0 0 := by
  cases h with
  | stale => exact .refl v 0
  | raised => exact ⟨(Proceeds.refl v 0).half, fun hle => Nat.max_le.2 ⟨hle, hlimit⟩, rfl⟩

theorem Acked.proceeds (h : v.Acked id acks v') : v.Proceeds v' 0 acks := by
  cases h with
  | ignored => exact .refl v acks
  | counted hsend hreaped =>
    exact (proceeds_setSend hsend (SendHalf.proceeds_acknowledge _ acks)).spares hreaped.sparesSend

end

end View

/-! ## Receiving

What was read, what waits and what has arrived on a stream, measured against the window of
the stream and what was read on the connection. The limit of a stream is its window beyond
what was read, and what was read on a stream is at most what was read on the connection;
so all sums fit a word as long as the connection could be granted one window more. -/

/-- A receiving half with a window of a given width. What was read and what waits was
received. While the half lives, both were put into the buffer. -/
structure RecvHalf.Measured (h : RecvHalf) (width : Nat) : Prop where
  counts : h.buffer.Counts
  window : h.window.window = width
  /-- the limit lies a window beyond what was read -/
  limit : h.window.limit = width + h.window.consumed
  /-- what was read or waits was received -/
  waiting : h.window.consumed + h.buffer.buffered ≤ h.window.received
  /-- and so was what was put into the buffer -/
  next : h.buffer.nextOffset ≤ h.window.received
  live : h.state.isTerminal = false → h.window.consumed + h.buffer.buffered ≤ h.buffer.nextOffset
  stopped : h.stopped = true → h.state.isTerminal = true

namespace RecvHalf

theorem measured_ofWindow (width : Nat) : (RecvHalf.ofWindow width).Measured width :=
  ⟨rfl, rfl, rfl, Nat.le_refl _, Nat.le_refl _, fun _ => Nat.le_refl _, nofun⟩

namespace Measured

section

variable {h : RecvHalf} {width : Nat} (hm : h.Measured width)

include hm

/-- What is left is read, and not given back. -/
theorem take (n : Nat) : (h.take n).2.Measured width := by
  obtain ⟨-, -, hcounts, hnext, -, hwindow, hstopped, hstate⟩ := take_eq hm.counts n
  have hbuffered := h.buffered_take hm.counts n
  have hwaiting := hm.waiting
  refine ⟨hcounts, ?_, ?_, ?_, ?_, fun hlive => ?_, fun hstop => ?_⟩
  · rw [hwindow]
    exact hm.window
  · rw [hwindow]
    exact hm.limit
  · rw [hwindow]
    omega
  · rw [hwindow, hnext]
    exact hm.next
  · rw [hwindow, hnext]
    rcases hstate with hstate | ⟨-, hstate⟩
    · rw [hstate] at hlive
      have hbefore := hm.live hlive
      omega
    · rw [hstate] at hlive
      cases hlive
  · rw [hstopped] at hstop
    rcases hstate with hstate | ⟨-, hstate⟩
    · rw [hstate]
      exact hm.stopped hstop
    · rw [hstate]
      rfl

/-- More is received. -/
theorem reach (upTo : Nat) : (h.reach upTo).Measured width :=
  ⟨hm.counts, hm.window, hm.limit, Nat.le_trans hm.waiting (Nat.le_max_left _ _),
    Nat.le_trans hm.next (Nat.le_max_left _ _), hm.live, hm.stopped⟩

/-- What is new of some data waits, and was received. -/
theorem fill (hlive : h.state.isTerminal = false) {offset added : Nat} {data : Bytes} {fin : Bool}
    {buffer : RecvBuffer} (hinsert : h.buffer.insert offset data fin = .ok (added, buffer)) :
    ((h.reach (offset + data.length)).fill buffer fin).Measured width := by
  obtain ⟨hoffset, -, hcontents, hbuffered, hnext, -⟩ := RecvBuffer.insert_eq_ok hinsert
  have hcounts : h.buffer.buffered = h.buffer.contents.length := hm.counts
  have hbefore := hm.live hlive
  have hreceived := hm.next
  rw [List.length_drop] at hbuffered
  refine ⟨?_, hm.window, hm.limit, ?_, ?_, fun _ => ?_, fun hstop => ?_⟩
  · change buffer.buffered = buffer.contents.length
    rw [hcontents, List.length_append, List.length_drop, hbuffered, hcounts]
  · change h.window.consumed + buffer.buffered ≤ max h.window.received (offset + data.length)
    omega
  · change buffer.nextOffset ≤ max h.window.received (offset + data.length)
    omega
  · change h.window.consumed + buffer.buffered ≤ buffer.nextOffset
    omega
  · exact absurd (hm.stopped hstop) (Bool.eq_false_iff.1 hlive)

/-- Nothing was given back but with exact sums, so the window stands. -/
theorem stands : h.window.Stands h.window.consumed := fun _ => ⟨rfl, by rw [hm.limit, hm.window]⟩

/-- When a window was moved by as much as it was given back, the half is measured if
what waits is. -/
theorem moved {h' : RecvHalf} {n : Nat} (hfits : width + (h.window.consumed + n) ≤ maxWord)
    (hstands : h'.window.Stands (h.window.consumed + n))
    (hwindow : h'.window.window = h.window.window) (hcounts : h'.buffer.Counts)
    (hwaiting : h.window.consumed + n + h'.buffer.buffered ≤ h'.window.received)
    (hnext : h'.buffer.nextOffset ≤ h'.window.received)
    (hlive : h'.state.isTerminal = false →
      h.window.consumed + n + h'.buffer.buffered ≤ h'.buffer.nextOffset)
    (hstopped : h'.stopped = true → h'.state.isTerminal = true) : h'.Measured width := by
  have hwidth : h'.window.window = width := hwindow.trans hm.window
  obtain ⟨hconsumed, hlimit⟩ := hstands (hwidth ▸ hfits)
  rw [← hconsumed] at hwaiting hlive
  exact ⟨hcounts, hwidth, by rw [hlimit, hwidth, hconsumed], hwaiting, hnext, hlive, hstopped⟩

end

/-! With room for one more window, what is given back is counted exactly. -/

section

variable {h : RecvHalf} {width : Nat} (hm : h.Measured width)
  (hwithin : h.window.received ≤ h.window.limit) (hroom : h.window.limit + width ≤ maxWord)

include hm hwithin hroom

/-- A read takes from the buffer what it grants back. -/
theorem takeRelease (n : Nat) :
    ((h.take n).2.release (h.take n).1.data.length).Measured width := by
  have htaken := hm.take n
  obtain ⟨-, -, -, hnext, -, hwindow, -, hstate⟩ := take_eq hm.counts n
  have hbuffered := h.buffered_take hm.counts n
  have hwaiting := hm.waiting
  have hlimit := hm.limit
  refine hm.moved (n := (h.take n).1.data.length) (by omega) (hm.stands.read _) rfl htaken.counts
    ?_ htaken.next (fun hlive => ?_) htaken.stopped
  · change _ + (h.take n).2.buffer.buffered ≤ h.window.received
    omega
  · change _ + (h.take n).2.buffer.buffered ≤ (h.take n).2.buffer.nextOffset
    rw [hnext]
    change (h.take n).2.state.isTerminal = false at hlive
    rcases hstate with hstate | ⟨-, hstate⟩
    · rw [hstate] at hlive
      have hbefore := hm.live hlive
      omega
    · rw [hstate] at hlive
      cases hlive

theorem stop : h.stop.Measured width := by
  have hlimit := hm.limit
  have hwaiting := hm.waiting
  exact hm.moved (n := h.buffer.buffered) (by omega) (hm.stands.read _) rfl rfl hwaiting hm.next
    nofun fun _ => rfl

/-- What is received on a stopped half is read at once. -/
theorem settle (hstopped : h.stopped = true) {upTo : Nat} (hle : upTo ≤ h.window.limit)
    (isFinal : Bool) : (h.settle upTo isFinal).Measured width := by
  have hended := hm.stopped hstopped
  have hlimit := hm.limit
  have hwaiting := hm.waiting
  refine hm.moved (n := upTo - h.window.received) (by omega)
    (RecvWindow.Stands.grant (w := (h.reach upTo).window) hm.stands _) ?_ hm.counts ?_ ?_
    (fun hlive => absurd hended (Bool.eq_false_iff.1 hlive)) fun _ => hended
  · rw [RecvHalf.settle, RecvWindow.window_grant]
    rfl
  · rw [RecvHalf.settle, RecvWindow.received_grant]
    change _ + h.buffer.buffered ≤ max h.window.received upTo
    omega
  · rw [RecvHalf.settle, RecvWindow.received_grant]
    exact (hm.reach upTo).next

omit hwithin in
/-- The end of the peer's half grants back whatever was not read up to the final size. -/
theorem close {finalSize : Nat} (hfinal : h.window.received ≤ finalSize)
    (hle : finalSize ≤ h.window.limit) : (h.close finalSize).Measured width := by
  have hlimit := hm.limit
  have hwaiting := hm.waiting
  have hstands : (h.reach finalSize).window.Stands h.window.consumed := hm.stands
  refine hm.moved (n := finalSize - h.window.consumed) (by omega) (hstands.read _) rfl rfl ?_
    (hm.reach finalSize).next nofun fun _ => rfl
  change _ + 0 ≤ max h.window.received finalSize
  omega

end

end Measured

end RecvHalf

namespace View

/-- Every half is measured by the width of its window, and by what was read on the
connection, whose limit is its own window beyond that. -/
structure Measured (v : View) (width : StreamId → Nat) (wide : Nat) : Prop where
  half : ∀ {id h}, v.recv id = some h →
    h.Measured (width id) ∧ h.window.consumed ≤ v.recvWindow.consumed
  window : v.recvWindow.window = wide
  limit : v.recvWindow.limit = wide + v.recvWindow.consumed

/-- Whether the connection could be granted one more window of any stream. No window
of a stream is wider than the window of the connection. -/
structure HasRoom (v : View) (width : StreamId → Nat) (wide : Nat) : Prop where
  /-- no stream is granted more at once than the connection -/
  narrow : ∀ id, width id ≤ wide
  /-- one more window fits a word, on top of what the connection was granted -/
  room : ∀ id, v.recvWindow.limit + width id ≤ maxWord

/-- Whoever has room now had room before. -/
theorem HasRoom.of_le {v v' : View} {width : StreamId → Nat} {wide : Nat}
    (h : v'.HasRoom width wide) (hle : v.recvWindow.limit ≤ v'.recvWindow.limit) :
    v.HasRoom width wide :=
  ⟨h.narrow, fun id => Nat.le_trans (Nat.add_le_add_right hle _) (h.room id)⟩

section

variable {v v' : View} {width : StreamId → Nat} {wide : Nat} {id : StreamId}
  (hv : v.Measured width wide)

include hv

/-- What is not about receiving keeps the measures. -/
theorem Measured.spares (h : v.SparesRecv v') : v'.Measured width wide where
  half hrecv := by
    rw [h.recvWindow]
    exact hv.half (h.recv_eq hrecv)
  window := by
    rw [h.recvWindow]
    exact hv.window
  limit := by
    rw [h.recvWindow]
    exact hv.limit

/-- One half may be replaced by another that is measured. -/
theorem Measured.setRecv {h : RecvHalf} (hh : h.Measured (width id))
    (hle : h.window.consumed ≤ v.recvWindow.consumed) :
    (v.setRecv id h).Measured width wide := by
  refine ⟨fun {id' half} hrecv => ?_, hv.window, hv.limit⟩
  rw [recv_setRecv] at hrecv
  split at hrecv
  · next heq =>
    subst heq
    obtain rfl := Option.some.inj hrecv
    exact ⟨hh, hle⟩
  · exact hv.half hrecv

/-- What is received on the connection is no part of the measures. -/
theorem Measured.receive (n : Nat) : (v.receive n).Measured width wide :=
  ⟨hv.half, hv.window, hv.limit⟩

/-- Counting changes nothing but what was received, also when it fails halfway. -/
theorem Measured.count {h : RecvHalf} (hrecv : v.recv id = some h) {upTo : Nat}
    {r : Except TransportError RecvHalf} (hc : v.Count id h upTo r v') :
    v'.Measured width wide := by
  obtain ⟨hhalf, hle⟩ := hv.half hrecv
  have hset := hv.setRecv (hhalf.reach upTo) hle
  cases hc with
  | beyondStream _ => exact hv
  | beyondConnection _ _ => exact hset
  | counted _ _ => exact hset.receive _

/-- The window of the connection stands where as much was given back as was read. -/
theorem Measured.stands : v.recvWindow.Stands v.recvWindow.consumed :=
  fun _ => ⟨rfl, by rw [hv.limit, hv.window]⟩

/-- What is given back on a stream is given back on the connection. -/
theorem Measured.moved {h : RecvHalf} {w : View} {n : Nat} (hh : h.Measured (width id))
    (hle : h.window.consumed ≤ v.recvWindow.consumed + n)
    (hother : ∀ {id' half}, id' ≠ id → w.recv id' = some half → v.recv id' = some half)
    (hchanged : w.recv id = some h) (hwindow : w.recvWindow.window = v.recvWindow.window)
    (hstands : w.recvWindow.Stands (v.recvWindow.consumed + n))
    (hfits : v.recvWindow.limit + n ≤ maxWord) : w.Measured width wide := by
  have hlimit := hv.limit
  have hwide : w.recvWindow.window = wide := hwindow.trans hv.window
  obtain ⟨hconsumed, hlimit'⟩ := hstands (by omega)
  refine ⟨fun {id' half} hrecv => ?_, hwide, by rw [hlimit', hwide, hconsumed]⟩
  rw [hconsumed]
  by_cases hid : id' = id
  · subst hid
    rw [hchanged] at hrecv
    obtain rfl := Option.some.inj hrecv
    exact ⟨hh, hle⟩
  · obtain ⟨hhalf, hbefore⟩ := hv.half (hother hid hrecv)
    exact ⟨hhalf, Nat.le_trans hbefore (Nat.le_add_right _ _)⟩

end

section

variable {v v' : View} {width : StreamId → Nat} {wide : Nat} {id : StreamId}
  (hv : v.Measured width wide) (hbounded : v.Bounded) (hroom : v.HasRoom width wide)

include hv hbounded hroom

/-- The limit of a stream leaves room where the limit of the connection does. -/
theorem Measured.half_room {h : RecvHalf} (hrecv : v.recv id = some h) :
    h.Measured (width id) ∧ h.window.consumed ≤ v.recvWindow.consumed ∧
      h.window.received ≤ h.window.limit ∧ h.window.limit + width id ≤ maxWord := by
  obtain ⟨hhalf, hle⟩ := hv.half hrecv
  have hlimit := hhalf.limit
  have hconnection := hv.limit
  have hnarrow := hroom.narrow id
  have hroom' := hroom.room id
  exact ⟨hhalf, hle, hbounded.half hrecv, by omega⟩

omit hbounded in
/-- Up to a window of the stream is given back, on the stream and on the connection. -/
theorem Measured.setRelease {h h' : RecvHalf} (hrecv : v.recv id = some h) {n : Nat}
    (hn : n ≤ width id) (hh : h'.Measured (width id))
    (hle : h'.window.consumed ≤ h.window.consumed + n) :
    ((v.setRecv id h').release n).Measured width wide := by
  obtain ⟨-, hconsumed⟩ := hv.half hrecv
  have hroom' := hroom.room id
  refine hv.moved hh (Nat.le_trans hle (Nat.add_le_add_right hconsumed n))
    (fun hid hrecv' => ?_) ?_ rfl (hv.stands.read n) (by omega)
  · rwa [recv_release, recv_setRecv, if_neg hid] at hrecv'
  · rw [recv_release, recv_setRecv, if_pos rfl]

/-- A read consumes as much on the connection as on its stream. -/
theorem Measured.read {frozen : Bool} {maxLen : Nat} {r : Except CallError ReadOutcome}
    (h : v.Read frozen id maxLen r v') : v'.Measured width wide := by
  cases h with
  | refused e => exact hv
  | left _ hrecv _ =>
    obtain ⟨hhalf, hle⟩ := hv.half hrecv
    exact hv.setRecv (hhalf.take maxLen) hle
  | @taken h _ _ hrecv _ _ hreaped =>
    obtain ⟨hhalf, -, hwithin, hroom'⟩ := hv.half_room hbounded hroom hrecv
    have htaken := h.buffered_take hhalf.counts maxLen
    have hwaiting := hhalf.waiting
    have hlimit := hhalf.limit
    have hset := hv.setRelease hroom hrecv (by omega)
      (hhalf.takeRelease hwithin hroom' maxLen) (wrap_le_self _)
    exact hset.spares hreaped.sparesRecv

/-- Stopping consumes as much on the connection as on its stream. -/
theorem Measured.stop {r : Except CallError Nat} (h : v.Stop id r v') :
    v'.Measured width wide := by
  cases h with
  | refused e => exact hv
  | @abandoned h _ hrecv _ hreaped =>
    obtain ⟨hhalf, -, hwithin, hroom'⟩ := hv.half_room hbounded hroom hrecv
    have hwaiting := hhalf.waiting
    have hlimit := hhalf.limit
    have hset := hv.setRelease hroom hrecv (n := h.buffer.buffered) (by omega)
      (hhalf.stop hwithin hroom') (wrap_le_self _)
    exact hset.spares hreaped.sparesRecv

/-- Settling counts, and grants back at once what it has counted. -/
theorem Measured.settle {h : RecvHalf} (hrecv : v.recv id = some h) (hstopped : h.stopped = true)
    {upTo : Nat} {isFinal : Bool} {r : Except TransportError Nat}
    (hs : v.Settle id h upTo isFinal r v') : v'.Measured width wide := by
  cases hs with
  | misplaced _ _ => exact hv
  | overrun hcount => exact hv.count hrecv hcount
  | @settled mid _ _ hcount hreaped =>
    obtain ⟨hhalf, hconsumed, hwithin, hroom'⟩ := hv.half_room hbounded hroom hrecv
    have hle := hcount.le_limit
    have hwaiting := hhalf.waiting
    have hlimit := hhalf.limit
    have hroomAll := hroom.room id
    have hsettled := hhalf.settle hwithin hroom' hstopped hle isFinal
    have hgrows : (h.settle upTo isFinal).window.consumed ≤
        h.window.consumed + (upTo - h.window.received) :=
      RecvWindow.consumed_grant_le (h.reach upTo).window _
    have hstands := (hv.stands.arrive (upTo - h.window.received)).grant (upTo - h.window.received)
    rw [← hcount.recvWindow_eq] at hstands
    refine Measured.spares (hv.moved (n := upTo - h.window.received) hsettled (by omega)
      (fun hid hrecv' => ?_) ?_ ?_ hstands (by omega)) hreaped.sparesRecv
    · rwa [recv_grant, recv_setRecv, if_neg hid, hcount.recv_of_ne hid] at hrecv'
    · rw [recv_grant, recv_setRecv, if_pos rfl]
    · rw [recvWindow_grant, recvWindow_setRecv, RecvWindow.window_grant, hcount.recvWindow_eq,
        RecvWindow.window_arrive]

/-- Data is put into the buffer as it is counted. -/
theorem Measured.data {frozen : Bool} {offset : Nat} {data : Bytes} {fin : Bool}
    {r : Except TransportError Nat} (h : v.Data frozen id offset data fin r v') :
    v'.Measured width wide := by
  cases h with
  | ignored _ => exact hv
  | refused _ => exact hv
  | unsized _ _ => exact hv
  | settled _ hrecv _ hstopped hsettle => exact hv.settle hbounded hroom hrecv hstopped hsettle
  | overrun hrecv hcount => exact hv.count hrecv hcount
  | misfit hrecv hcount _ => exact hv.count hrecv hcount
  | filled _ hrecv _ hlive hcount hinsert =>
    obtain ⟨hhalf, hle⟩ := hv.half hrecv
    refine (hv.count hrecv hcount).setRecv (hhalf.fill hlive hinsert) ?_
    rw [hcount.recvWindow_eq]
    exact hle

/-- The end of the peer's half counts up to the final size and consumes the rest. -/
theorem Measured.peerReset {frozen : Bool} {finalSize : Nat} {r : Except TransportError Nat}
    (h : v.PeerReset frozen id finalSize r v') : v'.Measured width wide := by
  cases h with
  | ignored _ => exact hv
  | refused _ => exact hv
  | settled _ hrecv hstopped hsettle => exact hv.settle hbounded hroom hrecv hstopped hsettle
  | misplaced _ _ => exact hv
  | overrun hrecv hcount => exact hv.count hrecv hcount
  | @ended h _ _ _ hrecv _ _ hfinal _ hcount hreaped =>
    obtain ⟨hhalf, hconsumed, -, hroom'⟩ := hv.half_room hbounded hroom hrecv
    have hle := hcount.le_limit
    have hlimit := hhalf.limit
    have hroomAll := hroom.room id
    have hclosed := hhalf.close hroom' hfinal hle
    have hgrows : (h.close finalSize).window.consumed ≤
        h.window.consumed + (finalSize - h.window.consumed) := wrap_le_self _
    have hstands := (hv.stands.arrive (finalSize - h.window.received)).read
      (finalSize - h.window.consumed)
    rw [← hcount.recvWindow_eq] at hstands
    refine Measured.spares (hv.moved (n := finalSize - h.window.consumed) hclosed (by omega)
      (fun hid hrecv' => ?_) ?_ ?_ hstands (by omega)) hreaped.sparesRecv
    · rwa [recv_release, recv_setRecv, if_neg hid, hcount.recv_of_ne hid] at hrecv'
    · rw [recv_release, recv_setRecv, if_pos rfl]
    · rw [recvWindow_release, recvWindow_setRecv, RecvWindow.window_read, hcount.recvWindow_eq,
        RecvWindow.window_arrive]

end

end View

/-- Whether the limits for sending fit a word. -/
def TransportParameters.LimitsFit (p : TransportParameters) : Prop :=
  p.initialMaxData ≤ maxWord ∧ p.initialMaxStreamDataBidiLocal ≤ maxWord ∧
    p.initialMaxStreamDataBidiRemote ≤ maxWord ∧ p.initialMaxStreamDataUni ≤ maxWord

instance (p : TransportParameters) : Decidable p.LimitsFit :=
  inferInstanceAs (Decidable (_ ∧ _ ∧ _ ∧ _))

end QuicHost
