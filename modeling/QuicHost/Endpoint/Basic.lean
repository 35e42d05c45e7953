import QuicHost.Arena
import QuicHost.Connection.Calls
import QuicHost.Connection.Drive
import QuicHost.ConnectionId.Generator
import QuicHost.Endpoint.Channel
import QuicHost.Endpoint.Factory
import QuicHost.Settings.Basic

/-!
# Endpoints

An endpoint holds many connections and finds the one that a datagram is for.
Every connection answers to some identifiers: the one we chose, for a connection
that a peer opened also the one the peer began with, and whatever the host
associates with it. The routing table leads from each identifier to the
connection, and each connection lists the identifiers that lead to it.

This file holds the state, the steps on it, and what concerns connections as a
whole: opening them, removing those that are over, and the table. It does no
input or output. An identifier that is taken over from another connection stays
on that connection's list, so a list may hold more than leads there, but never
less.
-/

namespace QuicHost

/-- Why a call on an endpoint failed. -/
inductive EndpointError where
  /-- the call on a connection failed -/
  | connection (e : CallError)
  /-- the factory made no engine -/
  | engine (e : EngineError)
  /-- there are as many connections as there may be -/
  | connectionLimit (max : Nat)
  /-- the handle leads to no connection -/
  | unknownConnection (h : ConnectionHandle)
  /-- nothing could be chosen at random -/
  | entropy (e : EntropyFailure)
  /-- identifiers cannot have the length that is set -/
  | invalidCidLength (length : Nat)
deriving DecidableEq, Repr

/-- The text of an error. -/
def EndpointError.message : EndpointError → String
  | connection e => "connection error: " ++ e.message
  | engine e => "engine creation failed: " ++ e.message
  | connectionLimit max => "connection limit reached (" ++ toString max ++ ")"
  | unknownConnection h => "unknown connection " ++ toString h
  | entropy e => "entropy source unavailable: " ++ e.message
  | invalidCidLength length => "invalid connection ID length " ++ toString length

/-- A connection of an endpoint. -/
structure Entry (ε ω : Type) where
  /-- the connection -/
  connection : Connection ε (HostState ω)
  /-- the peer's address, as the host writes it -/
  peer : String
  /-- the identifiers that lead here -/
  cids : List ConnectionId

/-- An endpoint with a factory of type `φ` for engines of type `ε`, a source of
entropy of type `η`, and an application with a state of type `ω`. -/
structure Endpoint (φ η ε ω : Type) where
  /-- the host's settings -/
  settings : Settings
  /-- where engines come from -/
  factory : φ
  /-- where random bytes come from -/
  entropy : η
  /-- chooses identifiers -/
  generator : CidGenerator
  /-- the connections, by handle -/
  connections : Arena (Entry ε ω)
  /-- the connections, by identifier -/
  routes : Table ConnectionId Nat
  /-- the channel that all events go to, if there is one -/
  channel : Option Nat

namespace Endpoint

variable {φ η ε ω : Type}

/-- An endpoint without connections. -/
def new (settings : Settings) (factory : φ) (entropy : η) :
    Except EndpointError (Endpoint φ η ε ω) :=
  match CidGenerator.ofLength? settings.connection.scidLength CidGenerator.defaultKey with
  | none => .error (.invalidCidLength settings.connection.scidLength)
  | some generator => .ok
    { settings := settings
      factory := factory
      entropy := entropy
      generator := generator
      connections := ∅
      routes := ∅
      channel := none }

/-! ## Observations -/

/-- The number of connections. -/
def size (e : Endpoint φ η ε ω) : Nat := e.connections.size

/-- Whether there are no connections. -/
def isEmpty (e : Endpoint φ η ε ω) : Bool := e.size == 0

/-- The handles of the connections, ascending. -/
def handles (e : Endpoint φ η ε ω) : List ConnectionHandle := e.connections.keys.map (⟨·⟩)

/-- The connection of a handle, with its peer and its identifiers. -/
def entry? (e : Endpoint φ η ε ω) (h : ConnectionHandle) : Option (Entry ε ω) :=
  e.connections.get? h.key

/-- The connection that an identifier leads to. -/
def lookup (e : Endpoint φ η ε ω) (cid : ConnectionId) : Option ConnectionHandle :=
  (e.routes.get? cid).map (⟨·⟩)

/-- The text shown in diagnostics. -/
def debugText (e : Endpoint φ η ε ω) : String :=
  "Endpoint \x7b connections: " ++ toString e.size ++ ", routes: " ++
    toString e.routes.size ++ ", .. \x7d"

/-! ## Single connections -/

/-- Changes a connection, if the handle leads to one. -/
def update {α : Type} (e : Endpoint φ η ε ω) (k : Nat)
    (f : Entry ε ω → StateM (HostState ω) (α × Entry ε ω)) :
    StateM (HostState ω) (Option α × Endpoint φ η ε ω) := fun w =>
  match e.connections.get? k with
  | none => ((none, e), w)
  | some entry =>
    let ((a, entry), w) := f entry w
    ((some a, { e with connections := e.connections.set k entry }), w)

/-- Changes the connections of some handles, one after the other. -/
def updateEach {α : Type} (f : Nat → Entry ε ω → StateM (HostState ω) (α × Entry ε ω))
    (e : Endpoint φ η ε ω) : List Nat → StateM (HostState ω) (List α × Endpoint φ η ε ω)
  | [] => fun w => (([], e), w)
  | k :: rest => fun w =>
    let ((a, e), w) := e.update k (f k) w
    let ((others, e), w) := updateEach f e rest w
    ((a.toList ++ others, e), w)

/-- Changes all connections, by ascending handle. -/
def updateAll {α : Type} (e : Endpoint φ η ε ω)
    (f : Nat → Entry ε ω → StateM (HostState ω) (α × Entry ε ω)) :
    StateM (HostState ω) (List α × Endpoint φ η ε ω) :=
  updateEach f e e.connections.keys

/-- Does something with the connection of a handle, if there is one. -/
def withConnection {α : Type} (e : Endpoint φ η ε ω) (h : ConnectionHandle)
    (f : Connection ε (HostState ω) → StateM (HostState ω) (α × Connection ε (HostState ω))) :
    StateM (HostState ω) (Option α × Endpoint φ η ε ω) :=
  e.update h.key fun entry w =>
    let ((a, c), w) := f entry.connection w
    ((a, { entry with connection := c }), w)

/-! ## Routes -/

/-- Lets an identifier lead to a connection as well. -/
def associate (e : Endpoint φ η ε ω) (h : ConnectionHandle) (cid : ConnectionId) :
    Except EndpointError (Endpoint φ η ε ω) :=
  match e.entry? h with
  | none => .error (.unknownConnection h)
  | some entry =>
    let cids := if cid ∈ entry.cids then entry.cids else entry.cids ++ [cid]
    .ok { e with
      connections := e.connections.set h.key { entry with cids := cids }
      routes := e.routes.insert cid h.key }

/-- Lets an identifier lead nowhere, and answers where it led. -/
def disassociate (e : Endpoint φ η ε ω) (cid : ConnectionId) :
    Option ConnectionHandle × Endpoint φ η ε ω :=
  match e.routes.get? cid with
  | none => (none, e)
  | some k =>
    let connections := match e.connections.get? k with
      | none => e.connections
      | some entry => e.connections.set k { entry with cids := entry.cids.filter (· ≠ cid) }
    (some ⟨k⟩, { e with routes := e.routes.erase cid, connections := connections })

/-- Removes the routes of the given identifiers that lead to a connection. -/
def eraseRoutes (routes : Table ConnectionId Nat) (k : Nat) (cids : List ConnectionId) :
    Table ConnectionId Nat :=
  cids.foldl (fun routes cid =>
    if routes.get? cid = some k then routes.erase cid else routes) routes

/-- Lets nothing lead to a connection any more. -/
def retireRoutes (e : Endpoint φ η ε ω) (k : Nat) : Endpoint φ η ε ω :=
  match e.connections.get? k with
  | none => e
  | some entry =>
    { e with
      connections := e.connections.set k { entry with cids := [] }
      routes := eraseRoutes e.routes k entry.cids }

/-! ## Opening connections -/

/-- Fails if there are as many connections as there may be. -/
def checkCapacity (e : Endpoint φ η ε ω) : Except EndpointError Unit :=
  if e.settings.endpoint.maxConnections ≤ e.size then
    .error (.connectionLimit e.settings.endpoint.maxConnections)
  else .ok ()

/-- Chooses an identifier. -/
def chooseCid [EntropySource η] (e : Endpoint φ η ε ω) :
    Except EndpointError ConnectionId × Endpoint φ η ε ω :=
  let (r, entropy) := e.generator.generate e.entropy
  (r.mapError .entropy, { e with entropy := entropy })

/-- Adds a connection, with the identifiers that lead to it. Its events go to
the channel, if there is one. -/
def add (e : Endpoint φ η ε ω) (c : Connection ε (HostState ω)) (peer : String)
    (cids : List ConnectionId) : ConnectionHandle × Endpoint φ η ε ω :=
  let k := e.connections.next
  let c := match e.channel with
    | none => c
    | some channel => c.modifyDispatcher (·.setConnectionHandler (channelHandler channel ⟨k⟩))
  (⟨k⟩, { e with
    connections := e.connections.insert ⟨c, peer, cids⟩
    routes := cids.foldl (fun routes cid => routes.insert cid k) e.routes })

/-- Has an engine made and adds the connection around it. `others` are the
identifiers that lead to it besides the one we chose. -/
def createConnection [EngineFactory φ ε] (e : Endpoint φ η ε ω) (side : Side)
    (scid dcid : ConnectionId) (others : List ConnectionId) (peer : String) (now : Instant) :
    Except EndpointError ConnectionHandle × Endpoint φ η ε ω :=
  let settings := e.settings.connection
  let (r, factory) := EngineFactory.newEngine e.factory side scid dcid settings.localParameters
  let e := { e with factory := factory }
  match r with
  | .error error => (.error (.engine error), e)
  | .ok engine =>
    let (h, e) := e.add (.new side settings scid dcid engine now) peer (scid :: others)
    (.ok h, e)

/-- Opens a connection to a peer. Both identifiers are ours to choose. -/
def connect [EngineFactory φ ε] [EntropySource η] (e : Endpoint φ η ε ω) (peer : String)
    (now : Instant) : Except EndpointError ConnectionHandle × Endpoint φ η ε ω :=
  match e.checkCapacity with
  | .error error => (.error error, e)
  | .ok () =>
    match e.chooseCid with
    | (.error error, e) => (.error error, e)
    | (.ok scid, e) =>
      match e.chooseCid with
      | (.error error, e) => (.error error, e)
      | (.ok dcid, e) => e.createConnection .client scid dcid [] peer now

/-- Opens a connection for a peer who began it with a datagram. The peer uses
the identifier it began with until it learns ours. -/
def acceptConnection [EngineFactory φ ε] [EntropySource η] (e : Endpoint φ η ε ω)
    (header : DatagramHeader) (peer : String) (now : Instant) :
    Except EndpointError ConnectionHandle × Endpoint φ η ε ω :=
  match e.checkCapacity with
  | .error error => (.error error, e)
  | .ok () =>
    match e.chooseCid with
    | (.error error, e) => (.error error, e)
    | (.ok scid, e) =>
      e.createConnection .server scid (header.scid.getD .empty) [header.dcid] peer now

/-! ## Events -/

/-- Makes a channel and lets the events of all connections go there, of those to
come as well. Answers the number of the channel. -/
def openChannel (e : Endpoint φ η ε ω) : StateM (HostState ω) (Nat × Endpoint φ η ε ω) := fun w =>
  let channel := w.channels.length
  let w := { w with
    channels := w.channels ++ [{ capacity := e.settings.endpoint.eventChannelCapacity }] }
  let ((_, e), w) := e.updateAll (fun k entry => pure ((), { entry with
    connection := entry.connection.modifyDispatcher
      (·.setConnectionHandler (channelHandler channel ⟨k⟩)) })) w
  ((channel, { e with channel := some channel }), w)

/-! ## Removing connections -/

/-- The handles of the connections that are over. -/
def closedKeys (e : Endpoint φ η ε ω) : List Nat :=
  e.connections.keys.filter fun k => (e.connections.get? k).any (·.connection.isClosed)

/-- Removes connections. They are handed back, since what arrived can still be
read. -/
def removeAll (e : Endpoint φ η ε ω) :
    List Nat → List (ConnectionHandle × Connection ε (HostState ω)) × Endpoint φ η ε ω
  | [] => ([], e)
  | k :: rest =>
    let e := e.retireRoutes k
    match e.connections.get? k with
    | none => e.removeAll rest
    | some entry =>
      let (others, e) := { e with connections := e.connections.erase k }.removeAll rest
      ((⟨k⟩, entry.connection) :: others, e)

/-- Removes the connections that are over. -/
def reap (e : Endpoint φ η ε ω) :
    List (ConnectionHandle × Connection ε (HostState ω)) × Endpoint φ η ε ω :=
  e.removeAll e.closedKeys

end Endpoint

end QuicHost
