import QuicHost.Endpoint.Basic

/-!
# Driving an endpoint

What the host calls besides handing in datagrams: to fetch what is to be sent,
when a deadline has come, and to close everything. Each call goes through all
connections by ascending handle.
-/

namespace QuicHost

/-- A datagram to be sent. -/
structure Transmit where
  /-- the connection it comes from -/
  connection : ConnectionHandle
  /-- the peer's address, as the host writes it -/
  destination : String
  /-- the datagram -/
  payload : Bytes
deriving DecidableEq, Repr

namespace Endpoint

variable {φ η ε ω : Type} [PacketEngine ε]

/-- The datagrams that the connections want sent now. -/
def pollTransmit (e : Endpoint φ η ε ω) (now : Instant) :
    StateM (HostState ω) (List Transmit × Endpoint φ η ε ω) := fun w =>
  let ((sent, e), w) := e.updateAll (fun k entry w =>
    let ((datagrams, c), w) := entry.connection.produceDatagrams now w
    ((datagrams.map (Transmit.mk ⟨k⟩ entry.peer), { entry with connection := c }), w)) w
  ((sent.flatten, e), w)

/-- How long the host may wait. -/
def nextTimeout (e : Endpoint φ η ε ω) (now : Instant) : Option Duration :=
  (e.connections.keys.filterMap fun k =>
    (e.connections.get? k).bind (·.connection.nextTimeout now)).foldl (fun least d =>
      some (match least with
        | none => d
        | some least => least.min d)) none

/-- Runs the timers of a connection, if one of them is due. -/
def runTimers (entry : Entry ε ω) (now : Instant) : StateM (HostState ω) (Unit × Entry ε ω) :=
  fun w =>
  if entry.connection.nextDeadline.any (· ≤ now) then
    let (c, w) := entry.connection.onTimeout now w
    (((), { entry with connection := c }), w)
  else (((), entry), w)

/-- Runs the timers that are due. Connections that are over are not found any
more. -/
def onTimeout (e : Endpoint φ η ε ω) (now : Instant) : StateM (HostState ω) (Endpoint φ η ε ω) :=
  fun w =>
  let ((_, e), w) := e.updateAll (fun _ entry => runTimers entry now) w
  (e.closedKeys.foldl retireRoutes e, w)

/-- Closes every connection that is not over. -/
def closeAll (e : Endpoint φ η ε ω) (errorCode : Nat) (reason : Bytes) (now : Instant) :
    StateM (HostState ω) (Endpoint φ η ε ω) := fun w =>
  let ((_, e), w) := e.updateAll (fun _ entry w =>
    let ((_, c), w) := entry.connection.close errorCode reason now w
    (((), { entry with connection := c }), w)) w
  (e, w)

end Endpoint

end QuicHost
