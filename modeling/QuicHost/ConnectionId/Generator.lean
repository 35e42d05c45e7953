import QuicHost.ConnectionId
import QuicHost.Entropy
import QuicHost.SipHash

/-!
# Choosing identifiers and resetting connections

An endpoint chooses identifiers of one length, at random. For each identifier
there is a reset token: whoever shows it proves to know the endpoint's key, so a
peer may believe that the endpoint has lost the connection. A token is computed
from the identifier alone, and nothing has to be remembered for it.

A reset packet looks like any short packet and ends in the token. It is shorter
than the datagram it answers, so two endpoints cannot go on resetting each
other.
-/

namespace QuicHost

/-- Chooses identifiers of a fixed length, and computes their reset tokens. -/
structure CidGenerator where
  /-- the length of the identifiers -/
  length : Nat
  /-- the key of the reset tokens -/
  key : SipHash.Key
  /-- identifiers are not empty -/
  length_pos : 0 < length
  /-- identifiers fit into packet headers -/
  length_le : length ≤ ConnectionId.maxLength
deriving DecidableEq

namespace CidGenerator

/-- The key that is used when none is given. -/
def defaultKey : SipHash.Key := ⟨0x0706050403020100, 0x0f0e0d0c0b0a0908⟩

/-- The generator of identifiers of a length, if that is a possible length. -/
def ofLength? (length : Nat) (key : SipHash.Key) : Option CidGenerator :=
  if h : 0 < length ∧ length ≤ ConnectionId.maxLength then some ⟨length, key, h.1, h.2⟩ else none

theorem ofLength?_isSome_iff {length : Nat} {key : SipHash.Key} :
    (ofLength? length key).isSome = true ↔ 0 < length ∧ length ≤ ConnectionId.maxLength := by
  simp only [ofLength?]
  split <;> simp [*]

variable {η : Type} [EntropySource η]

/-- Chooses an identifier. -/
def generate (g : CidGenerator) (entropy : η) : Except EntropyFailure ConnectionId × η :=
  match EntropySource.draw entropy g.length with
  | (.error e, entropy) => (.error e, entropy)
  | (.ok b, entropy) => (.ok ⟨b.1, b.2.symm ▸ g.length_le⟩, entropy)

/-! ## Reset tokens -/

/-- The number of bytes in a reset token. -/
def tokenLength : Nat := 16

/-- One half of a token. A byte in front of the identifier keeps the halves
apart. -/
def tokenHalf (g : CidGenerator) (half : UInt8) (cid : ConnectionId) : Bytes :=
  Bytes.bigEndian 8 (SipHash.hash g.key (half :: cid.bytes)).toNat

/-- The reset token of an identifier. -/
def resetToken (g : CidGenerator) (cid : ConnectionId) : Bytes :=
  g.tokenHalf 0 cid ++ g.tokenHalf 1 cid

@[simp] theorem length_resetToken (g : CidGenerator) (cid : ConnectionId) :
    (g.resetToken cid).length = tokenLength := by
  simp [resetToken, tokenHalf, tokenLength]

/-- The bits in which two byte strings differ, gathered in one byte. Every pair
of bytes is looked at, so that the time it takes tells nothing about the place
of a difference. -/
def differingBits (a b : Bytes) : UInt8 :=
  (a.zip b).foldl (fun acc p => acc ||| (p.1 ^^^ p.2)) 0

/-- Whether a byte string is the reset token of an identifier. -/
def verifyToken (g : CidGenerator) (cid : ConnectionId) (token : Bytes) : Bool :=
  token.length == tokenLength && differingBits (g.resetToken cid) token == 0

/-! ## Reset packets -/

/-- The length of the shortest reset packet: five random bytes and the token. -/
def minResetLength : Nat := 5 + tokenLength

/-- The length of the longest reset packet. -/
def maxResetLength : Nat := 43

/-- The length of the answer to a datagram of `trigger` bytes. -/
def resetLength (trigger : Nat) : Nat := min (trigger - 1) maxResetLength

/-- Makes the first byte of a packet that of a short header. -/
def markShort : Bytes → Bytes
  | [] => []
  | first :: rest => ((first &&& 0x3f) ||| 0x40) :: rest

/-- The reset packet that answers a datagram of `trigger` bytes for an
identifier, if one is short enough: random bytes and the token. -/
def statelessReset (g : CidGenerator) (cid : ConnectionId) (trigger : Nat) (entropy : η) :
    Except EntropyFailure (Option Bytes) × η :=
  if resetLength trigger < minResetLength then (.ok none, entropy)
  else
    match EntropySource.draw entropy (resetLength trigger - tokenLength) with
    | (.error e, entropy) => (.error e, entropy)
    | (.ok b, entropy) => (.ok (some (markShort b.1 ++ g.resetToken cid)), entropy)

end CidGenerator

end QuicHost
