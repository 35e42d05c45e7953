import QuicHost.ConnectionId
import QuicHost.Engine.Basic

/-!
# Where engines come from

An endpoint gets the engine of each connection from a factory, which is also the
one who can read packet headers. Of a header the endpoint needs what every
protocol version has in common.
-/

namespace QuicHost

/-- The smallest datagram that may open a connection. -/
def minInitialSize : Nat := 1200

/-- What the first packet of a datagram says in its header. -/
structure DatagramHeader where
  /-- the protocol version; a short header has none -/
  version : Option Nat
  /-- the identifier of the receiving end -/
  dcid : ConnectionId
  /-- the identifier of the sending end; a short header has none -/
  scid : Option ConnectionId
deriving DecidableEq

/-- A factory of type `φ` for engines of type `ε`. -/
class EngineFactory (φ : Type) (ε : outParam Type) where
  /-- reads the header of a datagram; in a short header identifiers have the
  length we give them -/
  decodeHeader : φ → Bytes → (localLength : Nat) → Option DatagramHeader
  /-- whether a datagram with an unknown identifier, from a peer, may open a
  connection -/
  accept : φ → DatagramHeader → Bytes → (peer : String) → Bool := fun _ header datagram _ =>
    header.version.isSome && minInitialSize ≤ datagram.length
  /-- makes the engine of a connection -/
  newEngine : φ → Side → (scid dcid : ConnectionId) → TransportParameters → Except EngineError ε × φ

end QuicHost
