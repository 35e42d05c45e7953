import QuicHost.Connection.Basic

/-!
# Driving a connection

What the host calls: for every datagram that arrives, when it can send, and when
a deadline has come. The engine's failures never reach the host; they become
events.
-/

namespace QuicHost.Connection

variable {ε σ : Type} [PacketEngine ε]

/-! ## What the engine learned -/

/-- Passes credit to the engine that the streams handed straight back to the
peer. -/
def extendConnection (c : Connection ε σ) (released : Nat) : Connection ε σ :=
  if released = 0 then c
  else { c with adapter := c.adapter.modifyEngine fun e =>
    PacketEngine.extendConnection e released }

/-- Acts on the completed handshake, once: the peer's limits come into force,
and the negotiated timeout. -/
def completeHandshake (c : Connection ε σ) (peer : TransportParameters) (now : Instant) :
    Connection ε σ :=
  if c.handshakeComplete then c
  else
    let c := { c with
      handshakeComplete := true
      idleTimeout := negotiateIdleTimeout c.settings.idleTimeout peer.idleTimeout
      state := .active }
    let c := (c.touch now).emit .handshakeCompleted
    { c with streams := c.streams.onHandshakeCompleted peer }

/-- Acts on one callback. -/
def applyCallback (c : Connection ε σ) (now : Instant) :
    Callback → Except TransportError Unit × Connection ε σ
  | .handshakeCompleted peer => (.ok (), c.completeHandshake peer now)
  | .streamData id offset data fin =>
    match c.streams.onStreamData id offset data fin with
    | (.error e, streams) => (.error e, { c with streams := streams })
    | (.ok released, streams) => (.ok (), { c with streams := streams }.extendConnection released)
  | .streamReset id errorCode finalSize =>
    match c.streams.onStreamReset id errorCode finalSize with
    | (.error e, streams) => (.error e, { c with streams := streams })
    | (.ok released, streams) => (.ok (), { c with streams := streams }.extendConnection released)
  | .stopSending id errorCode =>
    match c.streams.onStopSending id errorCode with
    | (.error e, streams) => (.error e, { c with streams := streams })
    | (.ok false, streams) => (.ok (), { c with streams := streams })
    | (.ok true, streams) =>
      (.ok (), { c with
        streams := streams
        adapter := c.adapter.modifyEngine fun e => PacketEngine.shutdownWrite e id errorCode })
  | .maxStreamData id limit => (.ok (), { c with streams := c.streams.onMaxStreamData id limit })
  | .maxData limit => (.ok (), { c with streams := c.streams.onMaxData limit })
  | .maxStreams direction max =>
    (.ok (), { c with streams := c.streams.onMaxStreams direction max })
  | .streamAcked id n => (.ok (), { c with streams := c.streams.onStreamAcked id n })
  | .connectionClose errorCode reason =>
    (.ok (), c.enterDraining ⟨.peerClose, errorCode, reason⟩ now)

/-- Acts on callbacks in order, until the connection is closing. -/
def applyCallbacks (c : Connection ε σ) (now : Instant) : List Callback → Connection ε σ
  | [] => c
  | callback :: rest =>
    if c.state.isClosing then c
    else
      let c :=
        match c.applyCallback now callback with
        | (.ok (), c) => c
        | (.error e, c) => c.onTransportError e now
      c.pump.applyCallbacks now rest

/-! ## Entry points -/

/-- Hands a datagram to the engine of a connection that is not closing, and acts
on what it learned. If the engine rejects the datagram, what it had recorded
before counts all the same. -/
def process (c : Connection ε σ) (datagram : Bytes) (now : Instant) : Connection ε σ :=
  match c.adapter.ingest datagram now with
  | (.ok callbacks, adapter) =>
    let state := if c.state = .initiating then .handshaking else c.state
    ({ c with adapter := adapter, state := state }.touch now).applyCallbacks now callbacks
  | (.error e, adapter) =>
    let (callbacks, adapter) := adapter.drainCallbacks
    ({ c with adapter := adapter }.applyCallbacks now callbacks).onTransportError e now

/-- Takes in a datagram. A connection that is draining drops it. -/
def ingest (c : Connection ε σ) (datagram : Bytes) (now : Instant) :
    StateM σ (Except CallError Unit × Connection ε σ) :=
  if c.state = .closed then pure (.error .connectionClosed, c)
  else
    let c := { c with
      stats.datagramsReceived := c.stats.datagramsReceived + 1
      stats.bytesReceived := c.stats.bytesReceived + datagram.length }
    if c.state = .draining then
      pure (.ok (), { c with stats.datagramsAbsorbed := c.stats.datagramsAbsorbed + 1 })
    else (c.process datagram now).flushWith (.ok ())

/-- Whether there is anything to ask the engine for: while draining there is
only our own closing to send. -/
def maySend (c : Connection ε σ) : Bool :=
  match c.state with
  | .closed => false
  | .draining => c.closePending
  | _ => true

/-- The datagrams the engine wants sent now. -/
def produceDatagrams (c : Connection ε σ) (now : Instant) :
    StateM σ (List Bytes × Connection ε σ) :=
  if c.maySend then
    match c.adapter.produceDatagrams now with
    | (.error e, adapter) => ({ c with adapter := adapter }.onTransportError e now).flushWith []
    | (.ok datagrams, adapter) =>
      pure (datagrams, { c with
        adapter := adapter
        closePending := c.closePending && c.state != .draining
        state := if c.state = .initiating ∧ datagrams ≠ [] then .handshaking else c.state
        stats.datagramsSent := c.stats.datagramsSent + datagrams.length
        stats.bytesSent := c.stats.bytesSent + datagrams.flatten.length })
  else pure ([], c)

/-- Acts on the engine's deadline. -/
def runEngineTimer (c : Connection ε σ) (now : Instant) : Connection ε σ :=
  match c.adapter.handleExpiry now with
  | (.ok callbacks, adapter) => { c with adapter := adapter }.applyCallbacks now callbacks
  | (.error e, adapter) => { c with adapter := adapter }.onTransportError e now

/-- Acts on a timer that is due. Once the connection is closed, timers mean
nothing any more. -/
def fire (c : Connection ε σ) (now : Instant) (timer : Timer) : Connection ε σ :=
  if c.state = .closed then c
  else
    match timer with
    | .drain => c.finish
    | .idle => { c with timers := c.timers.clear .idle }.onIdleTimeout now
    | .engine =>
      let c := { c with timers := c.timers.clear .engine }
      if c.state.isClosing then c else c.runEngineTimer now

/-- Acts on every timer that is due. -/
def onTimeout (c : Connection ε σ) (now : Instant) : StateM σ (Connection ε σ) :=
  if c.state = .closed then pure c
  else fun w =>
    let c := { c with timers := c.currentTimers }
    let ((_, c), w) := ((c.timers.expired now).foldl (fun c timer => c.fire now timer) c).flush w
    (c, w)

end QuicHost.Connection
