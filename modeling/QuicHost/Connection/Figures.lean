import QuicHost.Connection.Calls
import QuicHost.Connection.Drive
import QuicHost.Stream.Figures

/-!
# The figures of a connection

What a connection makes its streams work out: the figures of the calls that it
passes on, and of the callbacks that it acts on, one after the other. When it ends,
it asks whether all that was written is acknowledged.
-/

namespace QuicHost.Connection

variable {ε σ : Type}

/-! ## The end -/

/-- The figures of `finish`. -/
def finishFigures (c : Connection ε σ) : List Int :=
  if c.state = .closed then [] else c.streams.unackedFigures

/-- The figures of `onTransportError`. -/
def errorFigures (c : Connection ε σ) : TransportError → List Int
  | .resourceExhausted => c.finishFigures
  | .handshakeFailure _ => if c.state.isHandshaking then c.finishFigures else []
  | _ => []

/-! ## Calls -/

/-- The figures of `openStream`. -/
def openFigures (c : Connection ε σ) (d : Direction) : List Int :=
  if c.state.isClosing then [] else c.streams.openFigures d

/-- The figures of `write`. -/
def writeFigures (c : Connection ε σ) (id : StreamId) (data : Bytes) : List Int :=
  if c.state.isClosing then [] else c.streams.writeFigures id data

/-- The figures of `stopSending`. -/
def stopFigures (c : Connection ε σ) (id : StreamId) : List Int :=
  if c.state.isClosing then [] else c.streams.stopFigures id

/-- The figures of `sendCapacity`. -/
def capacityFigures (c : Connection ε σ) (id : StreamId) : List Int :=
  if c.state.isClosing then [] else c.streams.capacityFigures id

/-! ## Callbacks -/

/-- The figures of `applyCallback`. -/
def callbackFigures (c : Connection ε σ) : Callback → List Int
  | .handshakeCompleted peer =>
    if c.handshakeComplete then [] else c.streams.handshakeFigures peer
  | .streamData id offset data fin => c.streams.dataFigures id offset data fin
  | .streamReset id _ finalSize => c.streams.resetFigures id finalSize
  | .stopSending id _ => c.streams.peerStopFigures id
  | .maxStreamData id limit => c.streams.maxStreamDataFigures id limit
  | .maxData limit => c.streams.maxDataFigures limit
  | .maxStreams _ _ => []
  | .streamAcked id n => c.streams.ackedFigures id n
  | .connectionClose _ _ => []

variable [PacketEngine ε]

/-- The figures of `applyCallbacks`. -/
def callbacksFigures (c : Connection ε σ) (now : Instant) : List Callback → List Int
  | [] => []
  | callback :: rest =>
    if c.state.isClosing then []
    else
      c.callbackFigures callback ++
        match c.applyCallback now callback with
        | (.ok (), c) => c.pump.callbacksFigures now rest
        | (.error e, c) =>
          c.errorFigures e ++ (c.onTransportError e now).pump.callbacksFigures now rest

/-- The figures of `process`. -/
def processFigures (c : Connection ε σ) (datagram : Bytes) (now : Instant) : List Int :=
  match c.adapter.ingest datagram now with
  | (.ok callbacks, adapter) =>
    let state := if c.state = .initiating then .handshaking else c.state
    ({ c with adapter := adapter, state := state }.touch now).callbacksFigures now callbacks
  | (.error e, adapter) =>
    let (callbacks, adapter) := adapter.drainCallbacks
    let c := { c with adapter := adapter }
    c.callbacksFigures now callbacks ++ (c.applyCallbacks now callbacks).errorFigures e

/-- The figures of `ingest`. -/
def ingestFigures (c : Connection ε σ) (datagram : Bytes) (now : Instant) : List Int :=
  if c.state.isClosing then []
  else
    processFigures { c with
      stats.datagramsReceived := c.stats.datagramsReceived + 1
      stats.bytesReceived := c.stats.bytesReceived + datagram.length } datagram now

/-- The figures of `produceDatagrams`. -/
def produceFigures (c : Connection ε σ) (now : Instant) : List Int :=
  if c.maySend then
    match (c.adapter.produceDatagrams now).1 with
    | .error e => c.errorFigures e
    | .ok _ => []
  else []

/-! ## Timers -/

/-- The figures of `runEngineTimer`. -/
def engineFigures (c : Connection ε σ) (now : Instant) : List Int :=
  match c.adapter.handleExpiry now with
  | (.ok callbacks, adapter) => { c with adapter := adapter }.callbacksFigures now callbacks
  | (.error e, _) => c.errorFigures e

/-- The figures of `fire`. -/
def fireFigures (c : Connection ε σ) (now : Instant) : Timer → List Int
  | .drain => c.finishFigures
  | .idle => if c.state.isHandshaking then c.finishFigures else []
  | .engine =>
    if c.state.isClosing then []
    else { c with timers := c.timers.clear .engine }.engineFigures now

/-- The figures of firing timers one after the other. -/
def firedFigures (c : Connection ε σ) (now : Instant) : List Timer → List Int
  | [] => []
  | timer :: rest => c.fireFigures now timer ++ (c.fire now timer).firedFigures now rest

/-- The figures of `onTimeout`. -/
def timeoutFigures (c : Connection ε σ) (now : Instant) : List Int :=
  { c with timers := c.currentTimers }.firedFigures now (c.currentTimers.expired now)

end QuicHost.Connection
