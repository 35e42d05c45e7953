import QuicHost.Endpoint.Basic

/-!
# Datagrams that arrive

A datagram whose identifier leads to a connection goes there. Any other may open
a connection, if it has a long header with a version we speak and is large
enough; with another version it is answered by the list of our versions, and a
short header by a reset packet. Only two of these outcomes change a connection,
or add one.
-/

namespace QuicHost

/-- Why a datagram was dropped. -/
inductive DropReason where
  /-- it has no header -/
  | unparseable
  /-- a short header for a connection that nobody has, and no reset packet is
  short enough -/
  | unknownConnection
  /-- an unknown version, in a datagram too small to be answered -/
  | undersized
  /-- it may not open a connection -/
  | refused
  /-- there are as many connections as there may be -/
  | connectionLimit
  /-- its connection is over -/
  | connectionClosed
  /-- a connection or an answer could not be made -/
  | internal
deriving DecidableEq, Repr

/-- What became of a datagram. -/
inductive DatagramOutcome where
  /-- it went to a connection -/
  | delivered (h : ConnectionHandle)
  /-- it opened a connection -/
  | accepted (h : ConnectionHandle)
  /-- the host should answer with the versions we speak -/
  | versionNegotiation (dcid scid : ConnectionId) (versions : List Nat)
  /-- the host should answer with this reset packet -/
  | statelessReset (packet : Bytes)
  /-- nothing -/
  | dropped (reason : DropReason)
deriving DecidableEq

namespace Endpoint

variable {φ η ε ω : Type}

/-- Hands a datagram to a connection. One that is over afterwards is not found
any more. -/
def deliver [PacketEngine ε] (e : Endpoint φ η ε ω) (k : Nat) (datagram : Bytes) (now : Instant) :
    StateM (HostState ω) (DatagramOutcome × Endpoint φ η ε ω) := fun w =>
  match e.withConnection ⟨k⟩ (·.ingest datagram now) w with
  | ((none, e), w) => ((.dropped .unknownConnection, e), w)
  | ((some r, e), w) =>
    let outcome := match r with
      | .ok () => .delivered ⟨k⟩
      | .error _ => .dropped .connectionClosed
    let isOver := (e.connections.get? k).any (·.connection.isClosed)
    ((outcome, if isOver then e.retireRoutes k else e), w)

/-- Answers a short header for a connection that nobody has. -/
def answerUnknown [EntropySource η] (e : Endpoint φ η ε ω) (cid : ConnectionId) (size : Nat) :
    DatagramOutcome × Endpoint φ η ε ω :=
  if !e.settings.endpoint.statelessReset then (.dropped .unknownConnection, e)
  else
    let (r, entropy) := e.generator.statelessReset cid size e.entropy
    let outcome := match r with
      | .ok (some packet) => .statelessReset packet
      | .ok none => .dropped .unknownConnection
      | .error _ => .dropped .internal
    (outcome, { e with entropy := entropy })

/-- Opens a connection with a datagram, and hands the datagram to it. -/
def acceptDatagram [EngineFactory φ ε] [PacketEngine ε] [EntropySource η] (e : Endpoint φ η ε ω)
    (header : DatagramHeader) (datagram : Bytes) (peer : String) (now : Instant) :
    StateM (HostState ω) (DatagramOutcome × Endpoint φ η ε ω) := fun w =>
  match e.acceptConnection header peer now with
  | (.error (.connectionLimit _), e) => ((.dropped .connectionLimit, e), w)
  | (.error _, e) => ((.dropped .internal, e), w)
  | (.ok h, e) =>
    let ((outcome, e), w) := e.deliver h.key datagram now w
    let outcome := match outcome with
      | .delivered h => .accepted h
      | other => other
    ((outcome, e), w)

/-- Takes in a datagram from a peer. -/
def handleDatagram [EngineFactory φ ε] [PacketEngine ε] [EntropySource η] (e : Endpoint φ η ε ω)
    (datagram : Bytes) (peer : String) (now : Instant) :
    StateM (HostState ω) (DatagramOutcome × Endpoint φ η ε ω) :=
  match EngineFactory.decodeHeader e.factory datagram e.generator.length with
  | none => pure (.dropped .unparseable, e)
  | some header =>
    match e.routes.get? header.dcid with
    | some k => e.deliver k datagram now
    | none =>
      match header.version with
      | none => pure (e.answerUnknown header.dcid datagram.length)
      | some version =>
        let versions := e.settings.endpoint.supportedVersions
        if version ∉ versions then
          if datagram.length < minInitialSize then pure (.dropped .undersized, e)
          else pure (.versionNegotiation (header.scid.getD .empty) header.dcid versions, e)
        else if e.settings.endpoint.acceptIncoming
            && EngineFactory.accept e.factory header datagram peer then
          e.acceptDatagram header datagram peer now
        else pure (.dropped .refused, e)

end Endpoint

end QuicHost
