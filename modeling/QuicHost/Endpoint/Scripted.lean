import QuicHost.Endpoint.Factory
import QuicHost.Engine.Forced
import QuicHost.Engine.Scripted

/-!
# A factory of scripted engines

Every engine it makes has the same script. It reads headers of its own layout.
The first byte tells the kind:

* `0x80`, a long header: version, length and bytes of the receiver's identifier,
  the same of the sender's;
* `0x81`, a long header without the sender's identifier;
* `0x40`, a short header: the receiver's identifier, as long as we make them.

Versions have four bytes, lengths one.
-/

namespace QuicHost

/-- A request for an engine that was met. -/
structure EngineRequest where
  /-- the end that the engine is for -/
  side : Side
  /-- the identifier we chose -/
  scid : ConnectionId
  /-- the peer's identifier -/
  dcid : ConnectionId
  /-- the parameters we announce -/
  parameters : TransportParameters

/-- A factory of scripted engines. -/
structure ScriptedFactory where
  /-- the reactions of each engine to its first datagrams -/
  script : List Reaction := [.ok [.handshakeCompleted {}]]
  /-- failure of the next request -/
  failure : Option EngineError := none
  /-- the requests that were met, oldest first -/
  requests : List EngineRequest := []

namespace ScriptedFactory

/-! ## Headers -/

/-- An identifier of a length, and what follows it. -/
def cidOf? (n : Nat) (b : Bytes) : Option (ConnectionId × Bytes) := do
  let (cid, rest) ← Bytes.split? n b
  return (← ConnectionId.ofBytes? cid, rest)

/-- An identifier behind its length, and what follows it. -/
def sizedCid? : Bytes → Option (ConnectionId × Bytes)
  | [] => none
  | n :: rest => cidOf? n.toNat rest

/-- The header of a datagram. -/
def decodeHeader? (localLength : Nat) : Bytes → Option DatagramHeader
  | [] => none
  | kind :: rest =>
    if kind = 0x40 then do
      let (dcid, _) ← cidOf? localLength rest
      return ⟨none, dcid, none⟩
    else if kind = 0x80 ∨ kind = 0x81 then do
      let (version, rest) ← Bytes.split? 4 rest
      let (dcid, rest) ← sizedCid? rest
      let scid ← if kind = 0x80 then (sizedCid? rest).map fun r => some r.1 else some none
      return ⟨some (Bytes.ofBigEndian version), dcid, scid⟩
    else none

/-- A long header. Without a sender's identifier it is of the kind that has
none. -/
def longHeader (version : Nat) (dcid : ConnectionId) (scid : Option ConnectionId) : Bytes :=
  let sized (cid : ConnectionId) : Bytes := UInt8.ofNat cid.length :: cid.bytes
  (if scid.isSome then 0x80 else 0x81) :: Bytes.bigEndian 4 version ++ sized dcid
    ++ (scid.map sized).getD []

/-- A short header. -/
def shortHeader (dcid : ConnectionId) : Bytes := 0x40 :: dcid.bytes

/-! ## Engines -/

/-- Lets the next request fail. -/
def failNext (f : ScriptedFactory) (error : EngineError) : ScriptedFactory :=
  { f with failure := some error }

/-- Makes an engine with the script. -/
def newEngine (f : ScriptedFactory) (request : EngineRequest) :
    Except EngineError (ForcedEngine ScriptedEngine) × ScriptedFactory :=
  match f.failure with
  | some error => (.error error, { f with failure := none })
  | none =>
    (.ok ⟨f.script.foldl ScriptedEngine.expectDatagram {}, []⟩,
      { f with requests := f.requests ++ [request] })

instance : EngineFactory ScriptedFactory (ForcedEngine ScriptedEngine) where
  decodeHeader _ datagram localLength := decodeHeader? localLength datagram
  newEngine f side scid dcid parameters := f.newEngine ⟨side, scid, dcid, parameters⟩

end ScriptedFactory

end QuicHost
