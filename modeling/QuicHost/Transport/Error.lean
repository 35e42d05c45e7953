/-!
# What can go wrong

Failures leave the library on two ways. A call of the application that cannot be
served is refused with a `CallError`. A failure of the transport is a
`TransportError`: the recoverable ones are reported as events, the fatal ones
close the connection with `TransportError.closeCode`.
-/

namespace QuicHost

/-- The error codes a connection is closed with. -/
inductive TransportErrorCode where
  /-- nothing went wrong -/
  | noError
  /-- a failure inside this endpoint -/
  | internalError
  /-- the server refused the connection -/
  | connectionRefused
  /-- the peer sent more than it was allowed to -/
  | flowControlError
  /-- the peer opened more streams than it was allowed to -/
  | streamLimitError
  /-- a frame does not fit the state of its stream -/
  | streamStateError
  /-- the peer changed the final size of a stream -/
  | finalSizeError
  /-- any other violation of the protocol -/
  | protocolViolation
  /-- first of the codes that carry an alert of the handshake -/
  | cryptoError
deriving DecidableEq, Repr

/-- The number sent on the wire. -/
def TransportErrorCode.code : TransportErrorCode → Nat
  | noError => 0x00
  | internalError => 0x01
  | connectionRefused => 0x02
  | flowControlError => 0x03
  | streamLimitError => 0x04
  | streamStateError => 0x05
  | finalSizeError => 0x06
  | protocolViolation => 0x0a
  | cryptoError => 0x0100

/-- The digits of a number in base sixteen, lower case. -/
private def codeText (n : Nat) : String :=
  "0x" ++ String.ofList (Nat.toDigits 16 n)

/-- A failure of the transport. -/
inductive TransportError where
  /-- a packet could not be read -/
  | malformedPacket
  /-- the handshake was rejected -/
  | handshakeFailure (code : Nat)
  /-- the peer speaks another version -/
  | versionMismatch
  /-- the engine ran out of resources -/
  | resourceExhausted
  /-- the peer, or the engine, broke the protocol -/
  | protocolViolation (code : Nat)
deriving DecidableEq, Repr

namespace TransportError

/-- The violation with one of the named codes. -/
def violation (code : TransportErrorCode) : TransportError :=
  .protocolViolation code.code

/-- Whether the error forces the connection closed. -/
def isFatal : TransportError → Bool
  | resourceExhausted => true
  | protocolViolation _ => true
  | _ => false

/-- The code the connection is closed with. -/
def closeCode : TransportError → Nat
  | malformedPacket => TransportErrorCode.protocolViolation.code
  | handshakeFailure code => code
  | versionMismatch => TransportErrorCode.connectionRefused.code
  | resourceExhausted => TransportErrorCode.internalError.code
  | protocolViolation code => code

/-- The text of the error. -/
def message : TransportError → String
  | malformedPacket => "malformed packet"
  | handshakeFailure code => "handshake failure (code " ++ codeText code ++ ")"
  | versionMismatch => "version mismatch"
  | resourceExhausted => "resource exhausted"
  | protocolViolation code => "protocol violation (code " ++ codeText code ++ ")"

instance : ToString TransportError := ⟨message⟩

end TransportError

/-- Why a call of the application was refused. -/
inductive CallError where
  /-- the transport failed -/
  | transport (error : TransportError)
  /-- no credit to send with; try again when the stream is reported writable -/
  | flowControlBlocked
  /-- the peer allows no further stream now -/
  | streamLimitExceeded
  /-- this half of the stream is over, or the whole stream is gone -/
  | streamClosed
  /-- no such stream was ever opened -/
  | streamNotFound
  /-- the connection is draining or closed -/
  | connectionClosed
  /-- nothing to read yet; try again when the stream is reported readable -/
  | wouldBlock
  /-- the call makes no sense for this stream -/
  | invalidInput
deriving DecidableEq, Repr

namespace CallError

/-- Whether the same call may succeed after an event. -/
def isRetryable : CallError → Bool
  | flowControlBlocked => true
  | streamLimitExceeded => true
  | wouldBlock => true
  | _ => false

/-- The text of the error. -/
def message : CallError → String
  | transport error => "transport error: " ++ error.message
  | flowControlBlocked => "flow control blocked"
  | streamLimitExceeded => "stream limit exceeded"
  | streamClosed => "stream closed"
  | streamNotFound => "stream not found"
  | connectionClosed => "connection closed"
  | wouldBlock => "would block"
  | invalidInput => "invalid input"

instance : ToString CallError := ⟨message⟩

end CallError

/-- A failure of the packet engine, as the engine reports it. -/
inductive EngineError where
  /-- a packet could not be read -/
  | malformed
  /-- the handshake raised an alert -/
  | crypto (alert : UInt8)
  /-- the peer speaks another version -/
  | versionNegotiation
  /-- the engine ran out of memory -/
  | outOfMemory
  /-- any other violation, with its code -/
  | protocol (code : Nat)
deriving DecidableEq, Repr

namespace EngineError

/-- The transport error an engine failure amounts to. An alert becomes a code of
the handshake's range. -/
def toTransport : EngineError → TransportError
  | malformed => .malformedPacket
  | crypto alert => .handshakeFailure (TransportErrorCode.cryptoError.code + alert.toNat)
  | versionNegotiation => .versionMismatch
  | outOfMemory => .resourceExhausted
  | protocol code => .protocolViolation code

/-- The text of the error. -/
def message : EngineError → String
  | malformed => "malformed packet"
  | crypto alert => "crypto failure (alert " ++ toString alert.toNat ++ ")"
  | versionNegotiation => "version negotiation required"
  | outOfMemory => "out of memory"
  | protocol code => "protocol error (code " ++ codeText code ++ ")"

instance : ToString EngineError := ⟨message⟩

end EngineError

end QuicHost
