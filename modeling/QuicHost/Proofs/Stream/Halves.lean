import QuicHost.Proofs.Stream.View

/-!
# What becomes of windows and halves

Operations do a few things to what the peer is granted: bytes arrive in a window and are
granted again (`RecvWindow.arrive`, `RecvWindow.grant`), and a receiving half counts,
is filled, stopped, settled or closed. Each of these has a name here, on the half and on
the view, so that an effect can say what is left in one term.

Sums of a window are made in words. What was given back to a window is told by
`RecvWindow.Stands`, which promises nothing where a sum is too large for a word.
-/

namespace QuicHost

namespace RecvWindow

/-- Counts `n` more bytes from the peer. A sum that does not fit a word begins at zero
again, and what is less than was received counts for nothing. -/
def arrive (w : RecvWindow) (n : Nat) : RecvWindow :=
  { w with received := max w.received (wrap (w.received + n)) }

/-- What arrives is counted, as long as the sum is still a word. -/
theorem received_arrive {w : RecvWindow} {n : Nat} (h : w.received + n ≤ maxWord) :
    (w.arrive n).received = w.received + n := by
  rw [arrive, wrap_of_le h]
  exact Nat.max_eq_right (Nat.le_add_right _ _)

@[simp] theorem arrive_zero (w : RecvWindow) : w.arrive 0 = w := by
  have hsame : max w.received (wrap (w.received + 0)) = w.received :=
    Nat.max_eq_left (wrap_le_self w.received)
  rw [arrive, hsame]

@[simp] theorem consumed_arrive (w : RecvWindow) (n : Nat) : (w.arrive n).consumed = w.consumed :=
  rfl

@[simp] theorem limit_arrive (w : RecvWindow) (n : Nat) : (w.arrive n).limit = w.limit := rfl

@[simp] theorem window_arrive (w : RecvWindow) (n : Nat) : (w.arrive n).window = w.window := rfl

/-- Grants `n` more bytes, unless that is none. -/
def grant (w : RecvWindow) (n : Nat) : RecvWindow := if n = 0 then w else w.read n

@[simp] theorem received_grant (w : RecvWindow) (n : Nat) : (w.grant n).received = w.received := by
  rw [grant]
  split <;> rfl

/-- What is granted back is counted as consumed, as long as the sum is still a word. -/
theorem consumed_grant {w : RecvWindow} {n : Nat} (h : w.consumed + n ≤ maxWord) :
    (w.grant n).consumed = w.consumed + n := by
  rw [grant]
  split
  · next hn => rw [hn]; rfl
  · rw [consumed_read, wrap_of_le h]

/-- A sum that does not fit wraps, so the count is never above the true one. -/
theorem consumed_grant_le (w : RecvWindow) (n : Nat) : (w.grant n).consumed ≤ w.consumed + n := by
  rw [grant]
  split
  · exact Nat.le_add_right _ _
  · exact wrap_le_self _

@[simp] theorem window_grant (w : RecvWindow) (n : Nat) : (w.grant n).window = w.window := by
  rw [grant]
  split <;> rfl

theorem limit_le_grant (w : RecvWindow) (n : Nat) : w.limit ≤ (w.grant n).limit := by
  rw [grant]
  split
  · exact Nat.le_refl _
  · exact w.limit_le_read n

/-- A limit that is a word stays one: it is taken from wrapped sums. -/
theorem limit_grant_le {w : RecvWindow} (h : w.limit ≤ maxWord) (n : Nat) :
    (w.grant n).limit ≤ maxWord := by
  rw [grant]
  split
  · exact h
  · exact limit_read_le h n

/-- A window stands where `credit` bytes were given back, unless the limit that this
makes is too large for a word: then no machine could have kept it. -/
def Stands (w : RecvWindow) (credit : Nat) : Prop :=
  w.window + credit ≤ maxWord → w.consumed = credit ∧ w.limit = w.window + credit

namespace Stands

variable {w : RecvWindow} {credit : Nat} (h : w.Stands credit)

include h

/-- What arrives changes neither the count of what was consumed nor the limit. -/
theorem arrive (n : Nat) : (w.arrive n).Stands credit := h

/-- What is read is given back. -/
theorem read (n : Nat) : (w.read n).Stands (credit + n) := by
  intro hfits
  rw [window_read] at hfits ⊢
  obtain ⟨hconsumed, hlimit⟩ := h (by omega)
  have hread : (w.read n).consumed = credit + n := by
    rw [consumed_read, hconsumed, wrap_of_le (by omega)]
  refine ⟨hread, ?_⟩
  rw [limit_read, ← consumed_read, hread, wrap_of_le (by omega), hlimit]
  omega

/-- The limit keeps its distance to what was consumed when more is consumed. -/
theorem grant (n : Nat) : (w.grant n).Stands (credit + n) := by
  rw [RecvWindow.grant]
  split
  · next hn =>
    rw [hn]
    exact h
  · exact h.read n

end Stands

end RecvWindow

namespace RecvHalf

/-- Counts the peer's bytes up to an offset. -/
def reach (h : RecvHalf) (upTo : Nat) : RecvHalf :=
  { h with window := { h.window with received := max h.window.received upTo } }

/-- What is left of a half that we asked the peer to stop. -/
def stop (h : RecvHalf) : RecvHalf :=
  { h.release h.buffer.buffered with
    state := .resetRecvd
    buffer := h.buffer.discard
    stopped := h.buffer.finalSize.isNone }

/-- What is left of a stopped half when the peer's bytes up to an offset were
counted and granted again. -/
def settle (h : RecvHalf) (upTo : Nat) (isFinal : Bool) : RecvHalf :=
  { h.reach upTo with
    window := (h.reach upTo).window.grant (upTo - h.window.received)
    stopped := h.stopped && !isFinal }

/-- What is left of a half that the peer abandoned after `finalSize` bytes. -/
def close (h : RecvHalf) (finalSize : Nat) : RecvHalf :=
  { (h.reach finalSize).release (finalSize - h.window.consumed) with
    state := .resetRecvd
    buffer := h.buffer.discard }

/-- The half with other contents; the end of the stream may have become known. -/
def fill (h : RecvHalf) (buffer : RecvBuffer) (fin : Bool) : RecvHalf :=
  { h with
    state := if fin && h.buffer.finalSize.isNone then .sizeKnown else h.state
    buffer := buffer }

/-- What is told when data goes into the buffer. -/
def fillTells (h : RecvHalf) (id : StreamId) (added : Nat) (fin : Bool) : List Event :=
  (if 0 < added then [.streamReadable id] else []) ++
    if (fin && h.buffer.finalSize.isNone) = true then [.streamFinished id] else []

/-- At most two things are told of new data: that there are bytes, and that the end is
known now. -/
theorem mem_fillTells {h : RecvHalf} {id : StreamId} {added : Nat} {fin : Bool} {e : Event}
    (he : e ∈ h.fillTells id added fin) :
    0 < added ∧ e = .streamReadable id ∨
      fin = true ∧ h.buffer.finalSize = none ∧ e = .streamFinished id := by
  rcases List.mem_append.1 he with hreadable | hfinished
  · split at hreadable
    · next hadded => exact .inl ⟨hadded, List.mem_singleton.1 hreadable⟩
    · cases hreadable
  · split at hfinished
    · next hfin =>
      rw [Bool.and_eq_true, Option.isNone_iff_eq_none] at hfin
      exact .inr ⟨hfin.1, hfin.2, List.mem_singleton.1 hfinished⟩
    · cases hfinished

end RecvHalf

namespace View

/-- Counts `n` more bytes from the peer on the connection. -/
def receive (v : View) (n : Nat) : View := { v with recvWindow := v.recvWindow.arrive n }

/-- Grants the peer `n` more bytes on the connection, which were read. -/
def release (v : View) (n : Nat) : View := { v with recvWindow := v.recvWindow.read n }

/-- Grants the peer `n` more bytes on the connection, unless that is none. -/
def grant (v : View) (n : Nat) : View := { v with recvWindow := v.recvWindow.grant n }

@[simp] theorem receive_zero (v : View) : v.receive 0 = v := by
  rw [receive, RecvWindow.arrive_zero]

@[simp] theorem send_receive (v : View) (n : Nat) : (v.receive n).send = v.send := rfl

@[simp] theorem recv_receive (v : View) (n : Nat) : (v.receive n).recv = v.recv := rfl

@[simp] theorem sendWindow_receive (v : View) (n : Nat) : (v.receive n).sendWindow = v.sendWindow :=
  rfl

@[simp] theorem send_release (v : View) (n : Nat) : (v.release n).send = v.send := rfl

@[simp] theorem recv_release (v : View) (n : Nat) : (v.release n).recv = v.recv := rfl

@[simp] theorem sendWindow_release (v : View) (n : Nat) : (v.release n).sendWindow = v.sendWindow :=
  rfl

@[simp] theorem recvWindow_release (v : View) (n : Nat) :
    (v.release n).recvWindow = v.recvWindow.read n :=
  rfl

@[simp] theorem send_grant (v : View) (n : Nat) : (v.grant n).send = v.send := rfl

@[simp] theorem recv_grant (v : View) (n : Nat) : (v.grant n).recv = v.recv := rfl

@[simp] theorem sendWindow_grant (v : View) (n : Nat) : (v.grant n).sendWindow = v.sendWindow := rfl

@[simp] theorem recvWindow_grant (v : View) (n : Nat) :
    (v.grant n).recvWindow = v.recvWindow.grant n :=
  rfl

end View

end QuicHost
