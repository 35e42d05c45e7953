import QuicHost.Time
import QuicHost.Transport.Error

/-!
# Credit

Either side of a connection sends only as much as the other side has granted, on
every stream and on the connection as a whole. A window counts bytes from the
start: how many were used and up to where use is granted. Grants only ever grow;
an announcement at or below the present limit is stale and changes nothing.
-/

namespace QuicHost

/-! ## The sending side -/

/-- What the peer has granted us, and how much of it is used. -/
structure SendWindow where
  /-- bytes accepted for sending -/
  consumed : Nat
  /-- bytes the peer allows in all -/
  limit : Nat
deriving DecidableEq, Repr

namespace SendWindow

/-- A window of which nothing is used. -/
def ofLimit (limit : Nat) : SendWindow := ⟨0, limit⟩

/-- The bytes that may still be sent. -/
def credit (w : SendWindow) : Nat := w.limit - w.consumed

/-- How many of `want` bytes the window has credit for. -/
def granted (w : SendWindow) (want : Nat) : Nat := min want w.credit

/-- Uses up to `want` bytes of credit. -/
def reserve (w : SendWindow) (want : Nat) : SendWindow :=
  { w with consumed := w.consumed + w.granted want }

/-- Raises the limit to `limit`, unless it is that high already. -/
def extend (w : SendWindow) (limit : Nat) : SendWindow :=
  { w with limit := max w.limit limit }

@[simp] theorem consumed_reserve (w : SendWindow) (want : Nat) :
    (w.reserve want).consumed = w.consumed + min want (w.limit - w.consumed) := rfl

@[simp] theorem limit_reserve (w : SendWindow) (want : Nat) : (w.reserve want).limit = w.limit :=
  rfl

@[simp] theorem consumed_extend (w : SendWindow) (limit : Nat) :
    (w.extend limit).consumed = w.consumed := rfl

@[simp] theorem limit_extend (w : SendWindow) (limit : Nat) :
    (w.extend limit).limit = max w.limit limit := rfl

end SendWindow

/-! ## The receiving side -/

/-- What we have granted the peer, and how much of it has arrived and been read. -/
structure RecvWindow where
  /-- highest offset received -/
  received : Nat
  /-- bytes handed to the application -/
  consumed : Nat
  /-- bytes the peer is allowed in all -/
  limit : Nat
  /-- bytes granted beyond what was read -/
  window : Nat
deriving DecidableEq, Repr

namespace RecvWindow

/-- A window through which nothing has come yet. -/
def ofWindow (window : Nat) : RecvWindow := ⟨0, 0, window, window⟩

/-- Records that the peer's data reaches offset `upTo`. Data beyond the limit is
a violation. -/
def receive (w : RecvWindow) (upTo : Nat) : Except TransportError RecvWindow :=
  if w.limit < upTo then .error (.violation .flowControlError)
  else .ok { w with received := max w.received upTo }

/-- Records that the application took `n` bytes: as many more are granted. Both sums
are cut to a word, so that a limit too large for one does not rise. -/
def read (w : RecvWindow) (n : Nat) : RecvWindow :=
  let consumed := wrap (w.consumed + n)
  { w with consumed := consumed, limit := max w.limit (wrap (consumed + w.window)) }

/-- By how much reading `n` bytes raises the limit. -/
def growth (w : RecvWindow) (n : Nat) : Nat := (w.read n).limit - w.limit

@[simp] theorem received_read (w : RecvWindow) (n : Nat) : (w.read n).received = w.received := rfl

@[simp] theorem consumed_read (w : RecvWindow) (n : Nat) :
    (w.read n).consumed = wrap (w.consumed + n) := rfl

@[simp] theorem limit_read (w : RecvWindow) (n : Nat) :
    (w.read n).limit = max w.limit (wrap (wrap (w.consumed + n) + w.window)) := rfl

@[simp] theorem window_read (w : RecvWindow) (n : Nat) : (w.read n).window = w.window := rfl

theorem limit_le_read (w : RecvWindow) (n : Nat) : w.limit ≤ (w.read n).limit := Nat.le_max_left _ _

theorem limit_read_le {w : RecvWindow} (h : w.limit ≤ maxWord) (n : Nat) :
    (w.read n).limit ≤ maxWord :=
  Nat.max_le.2 ⟨h, wrap_le _⟩

theorem receive_eq_ok_iff {w w' : RecvWindow} {upTo : Nat} :
    w.receive upTo = .ok w' ↔
      upTo ≤ w.limit ∧ w' = { w with received := max w.received upTo } := by
  unfold receive
  split
  · simp; omega
  · simp [eq_comm]; omega

theorem receive_eq_error_iff {w : RecvWindow} {upTo : Nat} {e : TransportError} :
    w.receive upTo = .error e ↔ w.limit < upTo ∧ e = .violation .flowControlError := by
  unfold receive
  split
  · simp [eq_comm, *]
  · simp; omega

end RecvWindow

end QuicHost
