import QuicHost.Connection.Settings
import QuicHost.Deadlines
import QuicHost.Dispatcher
import QuicHost.Engine.Adapter
import QuicHost.Stream.Calls
import QuicHost.Stream.Peer

/-!
# Connections

A connection ties an engine, the streams, the events and the timers together. It
begins *initiating*, is *handshaking* once a datagram has passed, *active* when
the handshake is complete, *draining* when it was closed by anybody, and
*closed* at the end; it never goes back.

This file holds the steps that change where a connection stands. They only queue
events. Delivering them runs handlers of the application, which act on a state
of their own of type `σ`, and is therefore a separate step (`flush`) that the
operations of the other files end with.
-/

namespace QuicHost

/-- Where a connection stands. -/
inductive ConnectionState where
  /-- nothing was exchanged yet -/
  | initiating
  /-- a datagram was exchanged, the handshake goes on -/
  | handshaking
  /-- the handshake is complete -/
  | active
  /-- closed by one side; what still arrives is absorbed -/
  | draining
  /-- over -/
  | closed
deriving DecidableEq, Repr

namespace ConnectionState

/-- Whether new work is refused. -/
def isClosing : ConnectionState → Bool
  | draining => true
  | closed => true
  | _ => false

/-- Whether the handshake is still to come or under way. -/
def isHandshaking : ConnectionState → Bool
  | initiating => true
  | handshaking => true
  | _ => false

end ConnectionState

/-- What a connection has counted. -/
structure ConnectionStats where
  /-- datagrams taken in -/
  datagramsReceived : Nat := 0
  /-- bytes taken in -/
  bytesReceived : Nat := 0
  /-- datagrams handed to the host -/
  datagramsSent : Nat := 0
  /-- bytes handed to the host -/
  bytesSent : Nat := 0
  /-- datagrams dropped while draining -/
  datagramsAbsorbed : Nat := 0
  /-- streams opened by the application -/
  streamsOpened : Nat := 0
  /-- failures of the transport -/
  transportErrors : Nat := 0
deriving DecidableEq, Repr

/-- A connection over an engine of type `ε`, with handlers that act on a state
of type `σ`. -/
structure Connection (ε σ : Type) where
  /-- our end -/
  side : Side
  /-- the identifier we chose for packets to us -/
  scid : ConnectionId
  /-- the identifier for packets to the peer -/
  dcid : ConnectionId
  /-- where the connection stands -/
  state : ConnectionState
  /-- the host's settings -/
  settings : ConnectionSettings
  /-- the engine -/
  adapter : EngineAdapter ε
  /-- the streams -/
  streams : StreamSet
  /-- the events -/
  dispatcher : EventDispatcher σ
  /-- the timers -/
  timers : Deadlines
  /-- the idle timeout in force: our own until the handshake is complete, the
  negotiated one after -/
  idleTimeout : Option Duration
  /-- whether the handshake is complete -/
  handshakeComplete : Bool
  /-- whether the closing is queued and not sent -/
  closePending : Bool
  /-- why the connection ends -/
  closeReason : Option CloseReason
  /-- what was counted -/
  stats : ConnectionStats

namespace Connection

variable {ε σ : Type}

/-! ## Observations -/

/-- Whether the connection is over. -/
def isClosed (c : Connection ε σ) : Bool := c.state == .closed

/-- The engine. -/
def engine (c : Connection ε σ) : ε := c.adapter.engine

/-- The number of events handed to handlers or put into the mailbox. -/
def eventsDelivered (c : Connection ε σ) : Nat := c.dispatcher.delivered

/-- The name of a side in diagnostics. -/
def sideText : Side → String
  | .client => "Client"
  | .server => "Server"

/-- The name of a state in diagnostics. -/
def stateText : ConnectionState → String
  | .initiating => "Initiating"
  | .handshaking => "Handshaking"
  | .active => "Active"
  | .draining => "Draining"
  | .closed => "Closed"

/-- The text shown in diagnostics. -/
def debugText (c : Connection ε σ) : String :=
  "Connection \x7b side: " ++ sideText c.side ++ ", scid: " ++ c.scid.debugText ++ ", state: "
    ++ stateText c.state ++ ", streams: " ++ toString c.streams.size ++ ", .. \x7d"

/-! ## Events -/

/-- Moves the events of the streams into the queue, in their order. -/
def pump (c : Connection ε σ) : Connection ε σ :=
  let (events, streams) := c.streams.takeEvents
  { c with streams := streams, dispatcher := events.foldl (·.push ·) c.dispatcher }

/-- Queues an event about the connection behind the events of the streams. -/
def emit (c : Connection ε σ) (e : Event) : Connection ε σ :=
  let c := c.pump
  { c with dispatcher := c.dispatcher.push e }

/-- Delivers all events. Answers their number. -/
def flush (c : Connection ε σ) : StateM σ (Nat × Connection ε σ) := fun w =>
  let c := c.pump
  let ((n, dispatcher), w) := c.dispatcher.dispatch w
  ((n, { c with dispatcher := dispatcher }), w)

/-- Delivers all events and hands back an answer. -/
def flushWith {α : Type} (c : Connection ε σ) (answer : α) : StateM σ (α × Connection ε σ) :=
  fun w =>
  let ((_, c), w) := c.flush w
  ((answer, c), w)

/-! ## Timers -/

/-- Starts the idle timer anew. -/
def touch (c : Connection ε σ) (now : Instant) : Connection ε σ :=
  if c.state.isClosing then c
  else { c with timers := c.timers.update .idle (c.idleTimeout.map now.saturatingAdd) }

/-- The timers together with the engine's own deadline, which counts until the
connection is closing. -/
def currentTimers [PacketEngine ε] (c : Connection ε σ) : Deadlines :=
  if c.state.isClosing then c.timers else c.timers.update .engine c.adapter.expiry

/-- When the host has to come back at the latest. -/
def nextDeadline [PacketEngine ε] (c : Connection ε σ) : Option Instant :=
  c.currentTimers.next?.map (·.2)

/-- How long the host may wait. -/
def nextTimeout [PacketEngine ε] (c : Connection ε σ) (now : Instant) : Option Duration :=
  c.currentTimers.timeout now

/-! ## Beginning and end -/

/-- A new connection around a fresh engine. The idle timer starts at once. -/
def new (side : Side) (settings : ConnectionSettings) (scid dcid : ConnectionId) (engine : ε)
    (now : Instant) : Connection ε σ :=
  touch
    { side := side
      scid := scid
      dcid := dcid
      state := .initiating
      settings := settings
      adapter := ⟨engine, settings.maxUdpPayloadSize, settings.maxDatagramsPerPoll⟩
      streams := .new side settings.localParameters
      dispatcher := {}
      timers := ∅
      idleTimeout := settings.idleTimeout
      handshakeComplete := false
      closePending := false
      closeReason := none
      stats := {} } now

/-- Begins to drain, unless the connection is closing already. -/
def enterDraining (c : Connection ε σ) (reason : CloseReason) (now : Instant) : Connection ε σ :=
  if c.state.isClosing then c
  else
    { c with
      state := .draining
      timers := (∅ : Deadlines).set .drain (now.saturatingAdd c.settings.drainTimeout)
      closeReason := some reason }.emit (.draining reason)

/-- Ends the connection: the streams freeze, undelivered events are dropped, and
the last event is queued. -/
def finish (c : Connection ε σ) : Connection ε σ :=
  if c.state = .closed then c
  else
    let reason := c.closeReason.getD ⟨.localClose, TransportErrorCode.noError.code, []⟩
    { c with
      streams := c.streams.freeze.takeEvents.2
      state := .closed
      timers := ∅
      closePending := false
      dispatcher := c.dispatcher.sealWith (.connectionClosed reason c.streams.writesIncomplete) }

/-- Ends the connection for a reason. -/
def finishWith (c : Connection ε σ) (reason : CloseReason) : Connection ε σ :=
  { c with closeReason := some reason }.finish

/-- Queues the closing with the engine and begins to drain. -/
def announceClose [PacketEngine ε] (c : Connection ε σ) (reason : CloseReason) (now : Instant) :
    Connection ε σ :=
  { c with
    adapter := c.adapter.modifyEngine fun e => PacketEngine.close e reason.errorCode reason.reason
    closePending := true }.enterDraining reason now

/-- Acts on a failure of the transport. It is always counted and reported.
Exhausted resources end the connection on the spot, a violation closes it, a
failed handshake ends it while it is under way. Everything else the connection
survives. -/
def onTransportError [PacketEngine ε] (c : Connection ε σ) (e : TransportError) (now : Instant) :
    Connection ε σ :=
  let c := { c with stats.transportErrors := c.stats.transportErrors + 1 }.emit (.transportError e)
  match e with
  | .resourceExhausted => c.finishWith ⟨.transportFailure, e.closeCode, []⟩
  | .protocolViolation code =>
    if c.state.isClosing then c else c.announceClose ⟨.transportFailure, code, []⟩ now
  | .handshakeFailure code =>
    if c.state.isHandshaking then c.finishWith ⟨.handshakeFailed, code, []⟩ else c
  | _ => c

/-- Acts on silence that lasted too long. A connection that was active drains
without a word to the peer; one that never came about ends on the spot. -/
def onIdleTimeout (c : Connection ε σ) (now : Instant) : Connection ε σ :=
  let reason : CloseReason := ⟨.idleTimeout, TransportErrorCode.noError.code, []⟩
  if c.state.isHandshaking then c.finishWith reason
  else if c.state = .active then c.enterDraining reason now
  else c

end Connection

end QuicHost
