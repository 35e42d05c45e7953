import QuicHost.Bytes

/-!
# Sources of entropy

Identifiers are chosen at random. The library has no source of randomness: the
host brings one, of whatever type, as a state that every draw advances. A draw
answers exactly the number of bytes asked for, or fails; nothing is assumed of
the bytes.
-/

namespace QuicHost

/-- Why a source of entropy gave nothing. -/
structure EntropyFailure where
  /-- explanation for people -/
  message : String
deriving DecidableEq, Repr

/-- A source of entropy. -/
class EntropySource (η : Type) where
  /-- draws `n` bytes -/
  draw : η → (n : Nat) → Except EntropyFailure { b : Bytes // b.length = n } × η

end QuicHost
