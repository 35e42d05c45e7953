import QuicHost.Word

/-!
# Points in time and spans of time

The library reads no clock: the host passes the current time to every entry
point. Both kinds of value count nanoseconds. A point in time lives on a clock
of 64 bits, so arithmetic that would leave the clock either answers nothing
(`checkedAdd`) or stays at its last tick (`saturatingAdd`).
-/

namespace QuicHost

/-- A span of time. -/
structure Duration where
  /-- length in nanoseconds -/
  nanos : Nat
deriving DecidableEq, Repr

namespace Duration

/-- The empty span. -/
def zero : Duration := ⟨0⟩

/-- A whole number of milliseconds. -/
def ofMillis (ms : Nat) : Duration := ⟨ms * 1000000⟩

/-- A whole number of seconds. -/
def ofSecs (s : Nat) : Duration := ⟨s * 1000000000⟩

/-- The shorter of two spans. -/
protected def min (a b : Duration) : Duration := ⟨Nat.min a.nanos b.nanos⟩

end Duration

/-- A point on the host's clock. -/
structure Instant where
  /-- nanoseconds since the clock's origin -/
  nanos : Nat
deriving DecidableEq, Repr

namespace Instant

instance : LE Instant where
  le a b := a.nanos ≤ b.nanos

instance : LT Instant where
  lt a b := a.nanos < b.nanos

instance (a b : Instant) : Decidable (a ≤ b) :=
  inferInstanceAs (Decidable (a.nanos ≤ b.nanos))

instance (a b : Instant) : Decidable (a < b) :=
  inferInstanceAs (Decidable (a.nanos < b.nanos))

/-- The last tick of the clock. -/
def last : Instant := ⟨maxWord⟩

/-- The point `ms` milliseconds after the origin, or the last tick if that lies
beyond it. -/
def ofMillis (ms : Nat) : Instant := ⟨min (ms * 1000000) maxWord⟩

/-- The span from `earlier` to `t`, or `none` if `earlier` comes after `t`. -/
def since? (t earlier : Instant) : Option Duration :=
  if earlier ≤ t then some ⟨t.nanos - earlier.nanos⟩ else none

/-- The span from `t` to `later`, empty if `later` has passed. -/
def timeUntil (t later : Instant) : Duration := ⟨later.nanos - t.nanos⟩

/-- The point `d` after `t`, or `none` if it lies beyond the last tick. -/
def checkedAdd (t : Instant) (d : Duration) : Option Instant :=
  if t.nanos + d.nanos ≤ maxWord then some ⟨t.nanos + d.nanos⟩ else none

/-- The point `d` after `t`, or the last tick if it lies beyond. -/
def saturatingAdd (t : Instant) (d : Duration) : Instant :=
  (t.checkedAdd d).getD last

theorem le_iff {a b : Instant} : a ≤ b ↔ a.nanos ≤ b.nanos := Iff.rfl

theorem lt_iff {a b : Instant} : a < b ↔ a.nanos < b.nanos := Iff.rfl

/-- Saturating addition stops at the last tick. -/
theorem nanos_saturatingAdd (t : Instant) (d : Duration) :
    (t.saturatingAdd d).nanos = min (t.nanos + d.nanos) maxWord := by
  unfold saturatingAdd checkedAdd
  split
  · simp; omega
  · simp [last]; omega

/-- The span until a point is the span since, where there is one. -/
theorem since?_eq_some_timeUntil {t earlier : Instant} (h : earlier ≤ t) :
    t.since? earlier = some (earlier.timeUntil t) := by
  simp [since?, h, timeUntil]

end Instant

end QuicHost
