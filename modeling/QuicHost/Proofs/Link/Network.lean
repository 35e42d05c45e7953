import Mathlib.Algebra.GroupWithZero.Nat
import Mathlib.Logic.Function.Basic
import QuicHost.Stream.Calls
import QuicHost.Stream.Peer

/-!
# Two ends and what lies between them

A link joins the streams of a client with those of a server. Either end keeps
everything it has said, and the network hands over any of it at any time: late,
in any order, more than once, or never. Nothing else is assumed of the network;
in particular the data of one stream may overtake itself, which ends the run,
because an engine has to deliver it in order.

What an end says is what its streams make it say. Accepted data is said with its
place in the stream, and the end of the stream with it; an abandoned half is
said with the number of bytes that were accepted; limits are said as they are
when the end chooses to announce them.

A run is over with the first report that the streams of either end answer with
an error.
-/

namespace QuicHost

/-- What one end says to the other. -/
inductive Message where
  /-- data of a stream, which begins at `offset` -/
  | data (id : StreamId) (offset : Nat) (data : Bytes) (fin : Bool)
  /-- a sending half was abandoned after `finalSize` bytes -/
  | reset (id : StreamId) (errorCode finalSize : Nat)
  /-- no more of a stream is wanted -/
  | stop (id : StreamId) (errorCode : Nat)
  /-- how many bytes are granted in all -/
  | maxData (limit : Nat)
  /-- how many bytes of a stream are granted -/
  | maxStreamData (id : StreamId) (limit : Nat)
deriving DecidableEq, Repr

namespace Message

/-- The bytes of a stream in a message. -/
def bytesOn (id : StreamId) : Message → Nat
  | data id' _ payload _ => if id' = id then payload.length else 0
  | _ => 0

/-- The bytes of all streams in a message. -/
def bytes : Message → Nat
  | data _ _ payload _ => payload.length
  | _ => 0

/-- The bytes of a stream in everything said. -/
def acceptedOn (id : StreamId) (log : List Message) : Nat := (log.map (bytesOn id)).sum

/-- The bytes of all streams in everything said. -/
def acceptedAll (log : List Message) : Nat := (log.map bytes).sum

end Message

/-- One end: its streams, and everything it has said, oldest first. -/
structure Node where
  /-- the streams -/
  streams : StreamSet
  /-- what was said -/
  sent : List Message := []

namespace Node

/-- Says a message. -/
def say (n : Node) (m : Message) : Node := { n with sent := n.sent ++ [m] }

/-- The bytes accepted on a stream. -/
def accepted (n : Node) (id : StreamId) : Nat := Message.acceptedOn id n.sent

/-- Writes on a stream, and says what was accepted. -/
def write (n : Node) (id : StreamId) (data : Bytes) (fin : Bool) : Node :=
  match n.streams.write id data fin with
  | (.error _, streams) => { n with streams := streams }
  | (.ok out, streams) =>
    { n with streams := streams }.say (.data id (n.accepted id) out.chunk out.fin)

/-- Abandons a sending half, and says so. -/
def resetStream (n : Node) (id : StreamId) (errorCode : Nat) : Node :=
  match n.streams.resetStream id with
  | (.error _, streams) => { n with streams := streams }
  | (.ok (), streams) => { n with streams := streams }.say (.reset id errorCode (n.accepted id))

/-- Abandons a receiving half, and asks the other end to stop. -/
def stopSending (n : Node) (id : StreamId) (errorCode : Nat) : Node :=
  match n.streams.stopSending id with
  | (.error _, streams) => { n with streams := streams }
  | (.ok _, streams) => { n with streams := streams }.say (.stop id errorCode)

/-- Announces how much is granted in all. A limit is a word. -/
def announceData (n : Node) : Node := n.say (.maxData (min n.streams.recvWindow.limit maxWord))

/-- Announces how much of a live stream is granted. -/
def announceStreamData (n : Node) (id : StreamId) : Node :=
  match (n.streams.streams.get? id).bind (·.recv) with
  | none => n
  | some h => n.say (.maxStreamData id (min h.window.limit maxWord))

/-- Takes in a message. A half that is abandoned because the other end asked for
it is said to be. -/
def arrive (n : Node) : Message → Except TransportError Node
  | .data id offset data fin =>
    match n.streams.onStreamData id offset data fin with
    | (.error e, _) => .error e
    | (.ok _, streams) => .ok { n with streams := streams }
  | .reset id errorCode finalSize =>
    match n.streams.onStreamReset id errorCode finalSize with
    | (.error e, _) => .error e
    | (.ok _, streams) => .ok { n with streams := streams }
  | .stop id errorCode =>
    match n.streams.onStopSending id errorCode with
    | (.error e, _) => .error e
    | (.ok true, streams) =>
      .ok ({ n with streams := streams }.say (.reset id errorCode (n.accepted id)))
    | (.ok false, streams) => .ok { n with streams := streams }
  | .maxData limit => .ok { n with streams := n.streams.onMaxData limit }
  | .maxStreamData id limit => .ok { n with streams := n.streams.onMaxStreamData id limit }

end Node

/-- Two ends. -/
abbrev Link := Side → Node

namespace Link

/-- What can happen at an end. -/
inductive Action where
  /-- the parameters of the other end come into force -/
  | handshake
  /-- the application opens a stream -/
  | openStream (d : Direction)
  /-- the application writes -/
  | write (id : StreamId) (data : Bytes) (fin : Bool)
  /-- the application reads -/
  | read (id : StreamId) (maxLen : Nat)
  /-- the application abandons a sending half -/
  | resetStream (id : StreamId) (errorCode : Nat)
  /-- the application abandons a receiving half -/
  | stopSending (id : StreamId) (errorCode : Nat)
  /-- the end announces how much it grants in all -/
  | announceData
  /-- the end announces how much of a stream it grants -/
  | announceStreamData (id : StreamId)
  /-- the end learns that it may keep more streams open -/
  | maxStreams (d : Direction) (n : Nat)
  /-- the end learns that bytes were acknowledged -/
  | acknowledged (id : StreamId) (n : Nat)
  /-- a message of the other end arrives, named by its place in what was said -/
  | deliver (index : Nat)
deriving DecidableEq, Repr

/-- What an action makes of the end where it happens. -/
def act (l : Link) (side : Side) : Action → Except TransportError Node
  | .handshake =>
    let peer := (l side.opposite).streams.localParams
    .ok { l side with streams := (l side).streams.onHandshakeCompleted peer }
  | .openStream d => .ok { l side with streams := ((l side).streams.openStream d).2 }
  | .write id data fin => .ok ((l side).write id data fin)
  | .read id maxLen => .ok { l side with streams := ((l side).streams.read id maxLen).2 }
  | .resetStream id errorCode => .ok ((l side).resetStream id errorCode)
  | .stopSending id errorCode => .ok ((l side).stopSending id errorCode)
  | .announceData => .ok (l side).announceData
  | .announceStreamData id => .ok ((l side).announceStreamData id)
  | .maxStreams d n => .ok { l side with streams := (l side).streams.onMaxStreams d n }
  | .acknowledged id n => .ok { l side with streams := (l side).streams.onStreamAcked id n }
  | .deliver index =>
    match (l side.opposite).sent[index]? with
    | none => .ok (l side)
    | some m => (l side).arrive m

/-- An action happens at an end. -/
def step (l : Link) (side : Side) (action : Action) : Except TransportError Link :=
  (l.act side action).map (Function.update l side)

/-- Actions happen one after the other, up to the first error. -/
def run (l : Link) : List (Side × Action) → Except TransportError Link
  | [] => .ok l
  | (side, action) :: rest =>
    match l.step side action with
    | .error e => .error e
    | .ok l => run l rest

/-- Two ends that have said nothing yet. -/
def begin (params : Side → TransportParameters) : Link :=
  fun side => { streams := .new side (params side) }

end Link

end QuicHost
