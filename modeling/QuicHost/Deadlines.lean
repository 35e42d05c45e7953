import QuicHost.Time

/-!
# Deadlines

A connection asks its host to come back at certain times. `Deadlines` holds at
most one time for each of the three timers. The host sleeps until the earliest
one and then hands the current time back; timers that are due are handled in the
fixed order of `Timer.all`.
-/

namespace QuicHost

/-- What a deadline is for. -/
inductive Timer where
  /-- the draining period ends -/
  | drain
  /-- nothing was heard for too long -/
  | idle
  /-- the packet engine wants to run -/
  | engine
deriving DecidableEq, Repr

/-- The timers in the order in which they are handled. -/
def Timer.all : List Timer := [.drain, .idle, .engine]

/-- The deadline of each timer that is armed. -/
structure Deadlines where
  /-- end of the draining period -/
  drain : Option Instant := none
  /-- end of the patience with a silent peer -/
  idle : Option Instant := none
  /-- when the packet engine wants to run -/
  engine : Option Instant := none
deriving DecidableEq, Repr

namespace Deadlines

instance : EmptyCollection Deadlines := ⟨{}⟩

/-- The deadline of a timer. -/
def get (d : Deadlines) : Timer → Option Instant
  | .drain => d.drain
  | .idle => d.idle
  | .engine => d.engine

/-- Arms a timer, or disarms it if there is no deadline. -/
def update (d : Deadlines) (timer : Timer) (deadline : Option Instant) : Deadlines :=
  match timer with
  | .drain => { d with drain := deadline }
  | .idle => { d with idle := deadline }
  | .engine => { d with engine := deadline }

/-- Arms a timer. -/
def set (d : Deadlines) (timer : Timer) (deadline : Instant) : Deadlines :=
  d.update timer (some deadline)

/-- Disarms a timer. -/
def clear (d : Deadlines) (timer : Timer) : Deadlines := d.update timer none

/-- The armed timers with their deadlines, in handling order. -/
def armed (d : Deadlines) : List (Timer × Instant) :=
  Timer.all.filterMap fun timer => (d.get timer).map fun t => (timer, t)

/-- The earlier of two entries, the first of them if they are due together. -/
def earlier (a b : Timer × Instant) : Timer × Instant :=
  if b.2 < a.2 then b else a

/-- The armed timer that is due first. -/
def next? (d : Deadlines) : Option (Timer × Instant) :=
  match d.armed with
  | [] => none
  | e :: rest => some (rest.foldl earlier e)

/-- The time left until the first deadline: none if no timer is armed, empty if
one is due. -/
def timeout (d : Deadlines) (now : Instant) : Option Duration :=
  d.next?.map fun e => now.timeUntil e.2

/-- Whether a timer is due. -/
def isDue (d : Deadlines) (now : Instant) (timer : Timer) : Bool :=
  (d.get timer).any fun t => t ≤ now

/-- The timers that are due, in handling order. -/
def expired (d : Deadlines) (now : Instant) : List Timer :=
  Timer.all.filter (d.isDue now)

theorem get_update (d : Deadlines) (timer : Timer) (deadline : Option Instant) (other : Timer) :
    (d.update timer deadline).get other = if other = timer then deadline else d.get other := by
  cases timer <;> cases other <;> rfl

@[simp] theorem get_empty (timer : Timer) : (∅ : Deadlines).get timer = none := by
  cases timer <;> rfl

theorem mem_expired_iff {d : Deadlines} {now : Instant} {timer : Timer} :
    timer ∈ d.expired now ↔ ∃ t, d.get timer = some t ∧ t ≤ now := by
  have hall : timer ∈ Timer.all := by cases timer <;> decide
  cases h : d.get timer <;> simp [expired, isDue, hall, h]

end Deadlines

end QuicHost
