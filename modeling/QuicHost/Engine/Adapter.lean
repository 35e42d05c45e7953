import QuicHost.Engine.Basic

/-!
# Driving an engine

The adapter turns the engine's failures into transport errors and asks for
datagrams until there are none, or until the bound of one poll is reached. It
hands out a datagram only if the reported length is possible: an engine that
claims more than it wrote, or more than it was allowed, has failed.
-/

namespace QuicHost

/-- An engine with the bounds it is driven within. -/
structure EngineAdapter (ε : Type) where
  /-- the engine -/
  engine : ε
  /-- length of the longest datagram -/
  maxUdpPayloadSize : Nat
  /-- number of datagrams of one poll -/
  maxDatagramsPerPoll : Nat

namespace EngineAdapter

variable {ε : Type}

/-- Changes the engine. -/
def modifyEngine (a : EngineAdapter ε) (f : ε → ε) : EngineAdapter ε :=
  { a with engine := f a.engine }

variable [PacketEngine ε]

/-- Takes the callbacks recorded so far. -/
def drainCallbacks (a : EngineAdapter ε) : List Callback × EngineAdapter ε :=
  let (callbacks, engine) := PacketEngine.drainCallbacks a.engine
  (callbacks, { a with engine := engine })

/-- Takes the callbacks if the engine succeeded. If it failed, they stay with
the engine. -/
def drainUnlessFailed (a : EngineAdapter ε) :
    Except EngineError Unit → Except TransportError (List Callback) × EngineAdapter ε
  | .error e => (.error e.toTransport, a)
  | .ok () =>
    let (callbacks, a) := a.drainCallbacks
    (.ok callbacks, a)

/-- Feeds one datagram to the engine and takes what it learned. -/
def ingest (a : EngineAdapter ε) (datagram : Bytes) (now : Instant) :
    Except TransportError (List Callback) × EngineAdapter ε :=
  let (result, engine) := PacketEngine.readDatagram a.engine datagram now
  { a with engine := engine }.drainUnlessFailed result

/-- Runs the engine's timers and takes what it learned. -/
def handleExpiry (a : EngineAdapter ε) (now : Instant) :
    Except TransportError (List Callback) × EngineAdapter ε :=
  let (result, engine) := PacketEngine.handleExpiry a.engine now
  { a with engine := engine }.drainUnlessFailed result

/-- When the engine wants to run. -/
def expiry (a : EngineAdapter ε) : Option Instant := PacketEngine.expiry a.engine

/-- Whether a reported length is more than was allowed or more than was written. -/
def overreports (maxLen : Nat) (w : Written) : Bool :=
  maxLen < w.reported || w.bytes.length < w.reported

/-- Asks an engine for datagrams, `count` times at most and until it has nothing
to send. -/
def pull (maxLen : Nat) (now : Instant) :
    (count : Nat) → ε → Except TransportError (List Bytes) × ε
  | 0, engine => (.ok [], engine)
  | count + 1, engine =>
    match PacketEngine.writeDatagram engine maxLen now with
    | (.error e, engine) => (.error e.toTransport, engine)
    | (.ok w, engine) =>
      if w.reported = 0 then (.ok [], engine)
      else if overreports maxLen w then (.error (.violation .internalError), engine)
      else
        match pull maxLen now count engine with
        | (.error e, engine) => (.error e, engine)
        | (.ok datagrams, engine) => (.ok (w.bytes.take w.reported :: datagrams), engine)

/-- The datagrams of one poll. -/
def produceDatagrams (a : EngineAdapter ε) (now : Instant) :
    Except TransportError (List Bytes) × EngineAdapter ε :=
  let (result, engine) := pull a.maxUdpPayloadSize now a.maxDatagramsPerPoll a.engine
  (result, { a with engine := engine })

end EngineAdapter

end QuicHost
