import QuicHost.Bytes
import QuicHost.StreamId
import QuicHost.Time
import QuicHost.Transport.Error
import QuicHost.Transport.Parameters

/-!
# Packet engines

Everything below the streams (packets, the handshake, loss and congestion) is
the work of an external engine, which each connection owns alone. `PacketEngine`
is what a connection asks of it: to take in a datagram, to give out the next
one, and to be told what the application did. What the engine learns from a
datagram it keeps as callbacks until they are drained.

Nothing is assumed of an engine. In particular the length it reports for a
datagram need not be the number of bytes it wrote; `EngineAdapter` checks that.
-/

namespace QuicHost

/-- Something the engine learned. -/
inductive Callback where
  /-- the handshake is complete; the peer announced these parameters -/
  | handshakeCompleted (peer : TransportParameters)
  /-- the next bytes of a stream, starting at `offset` -/
  | streamData (id : StreamId) (offset : Nat) (data : Bytes) (fin : Bool)
  /-- the peer abandoned its half of a stream -/
  | streamReset (id : StreamId) (errorCode : Nat) (finalSize : Nat)
  /-- the peer wants no more of a stream -/
  | stopSending (id : StreamId) (errorCode : Nat)
  /-- the peer raised the limit of a stream -/
  | maxStreamData (id : StreamId) (limit : Nat)
  /-- the peer raised the limit of the connection -/
  | maxData (limit : Nat)
  /-- the peer raised the number of streams -/
  | maxStreams (direction : Direction) (max : Nat)
  /-- the peer acknowledged `n` more bytes of a stream -/
  | streamAcked (id : StreamId) (n : Nat)
  /-- the peer closed the connection -/
  | connectionClose (errorCode : Nat) (reason : Bytes)
deriving DecidableEq, Repr

/-- What an engine answers when it is asked for a datagram. -/
structure Written where
  /-- the bytes it wrote -/
  bytes : Bytes
  /-- the length it reports; zero means that there is nothing to send -/
  reported : Nat
deriving DecidableEq, Repr

/-- The engine of one connection. -/
class PacketEngine (ε : Type) where
  /-- takes in a datagram -/
  readDatagram : ε → Bytes → Instant → Except EngineError Unit × ε
  /-- hands over the callbacks recorded so far, oldest first -/
  drainCallbacks : ε → List Callback × ε
  /-- gives out at most one datagram of at most the given length -/
  writeDatagram : ε → (maxLen : Nat) → Instant → Except EngineError Written × ε
  /-- queues data of a stream -/
  submitStreamData : ε → StreamId → Bytes → (fin : Bool) → ε
  /-- announces that our half of a stream is abandoned -/
  shutdownWrite : ε → StreamId → (errorCode : Nat) → ε
  /-- asks the peer to stop sending on a stream -/
  shutdownRead : ε → StreamId → (errorCode : Nat) → ε
  /-- grants the peer more bytes on a stream -/
  extendStream : ε → StreamId → Nat → ε
  /-- grants the peer more bytes on the connection -/
  extendConnection : ε → Nat → ε
  /-- queues the closing of the connection -/
  close : ε → (errorCode : Nat) → (reason : Bytes) → ε
  /-- when the engine wants to run -/
  expiry : ε → Option Instant
  /-- runs the engine's timers -/
  handleExpiry : ε → Instant → Except EngineError Unit × ε

end QuicHost
