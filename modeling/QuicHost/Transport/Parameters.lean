import QuicHost.Time

/-!
# Transport parameters

What each side announces to the other during the handshake: how long it waits in
silence, how much it is ready to receive, and how many streams it accepts. The
two announcements of an idle timeout are combined by `negotiateIdleTimeout`.
-/

namespace QuicHost

/-- The parameters one side announces. -/
structure TransportParameters where
  /-- milliseconds of silence after which the connection ends; zero for never -/
  maxIdleTimeoutMs : Nat := 30000
  /-- bytes the announcing side accepts on the whole connection -/
  initialMaxData : Nat := 1024 * 1024
  /-- bytes accepted on a two-way stream that the announcing side opens -/
  initialMaxStreamDataBidiLocal : Nat := 256 * 1024
  /-- bytes accepted on a two-way stream that the receiver of the parameters
  opens -/
  initialMaxStreamDataBidiRemote : Nat := 256 * 1024
  /-- bytes accepted on a one-way stream -/
  initialMaxStreamDataUni : Nat := 256 * 1024
  /-- two-way streams the receiver of the parameters may keep open -/
  initialMaxStreamsBidi : Nat := 100
  /-- one-way streams the receiver of the parameters may keep open -/
  initialMaxStreamsUni : Nat := 100
deriving DecidableEq, Repr

instance : Inhabited TransportParameters := ⟨{}⟩

/-- A timeout given in milliseconds, where zero stands for none. -/
def timeoutOfMillis : Nat → Option Duration
  | 0 => none
  | ms => some (Duration.ofMillis ms)

/-- The announced idle timeout. -/
def TransportParameters.idleTimeout (p : TransportParameters) : Option Duration :=
  timeoutOfMillis p.maxIdleTimeoutMs

/-- The idle timeout in force: the shorter of the two announced, or the only
one. -/
def negotiateIdleTimeout : Option Duration → Option Duration → Option Duration
  | some a, some b => some (a.min b)
  | some a, none => some a
  | none, some b => some b
  | none, none => none

theorem negotiateIdleTimeout_comm (a b : Option Duration) :
    negotiateIdleTimeout a b = negotiateIdleTimeout b a := by
  cases a <;> cases b <;> simp [negotiateIdleTimeout, Duration.min, Nat.min_comm]

end QuicHost
