import QuicHost.Event
import QuicHost.Stream.Buffer
import QuicHost.Stream.State
import QuicHost.Table
import QuicHost.Transport.Parameters

/-!
# The streams of a connection

`StreamSet` owns every live stream of one connection, the credit of the
connection as a whole, and the numbers that bound how many streams either side
may keep open. It never speaks to the packet engine: what an operation means for
the engine is part of its answer. What an operation means for the application is
put into the list of events, in the order in which it came about.

Three rules run through the operations, and each has its definition here.

* **Limits.** A side may open a stream while it has fewer live streams of that
  direction than the other side allows. A stream that is gone frees its place;
  its identifier is never used again.
* **Parking.** A write that gets less credit than it asked for parks its stream.
  Parked streams wait in a queue, and each is reported writable once, when
  credit arrives.
* **Reaping.** A stream is removed as soon as both halves have ended and nothing
  is left for anybody.

Every operation answers with the new set also when it fails, because a failing
operation may have got as far as changing something.
-/

namespace QuicHost

/-! ## One stream -/

/-- The sending half of a stream. -/
structure SendHalf where
  /-- how far the half has come -/
  state : SendState
  /-- credit granted by the peer -/
  window : SendWindow
  /-- what was accepted and acknowledged -/
  buffer : SendBuffer
  /-- whether the stream waits for credit -/
  blocked : Bool
deriving DecidableEq, Repr

namespace SendHalf

/-- A half that may send up to `limit` bytes. -/
def ofLimit (limit : Nat) : SendHalf := ⟨.ready, .ofLimit limit, ∅, false⟩

/-- Accepts `n` bytes, and the end after them if `fin`. -/
def accept (h : SendHalf) (n : Nat) (fin : Bool) : SendHalf :=
  let buffer := h.buffer.append n
  { h with
    state := if fin then .dataSent else if 0 < n then .send else h.state
    window := h.window.reserve n
    buffer := if fin then buffer.finish else buffer }

/-- Gives up on what was not acknowledged. -/
def abandon (h : SendHalf) : SendHalf :=
  { h with state := .resetSent, buffer := h.buffer.abandon, blocked := false }

/-- Counts `n` acknowledged bytes. The half ends when the end and everything
before it is acknowledged. -/
def acknowledge (h : SendHalf) (n : Nat) : SendHalf :=
  let buffer := h.buffer.acknowledge n
  { h with
    state := if h.state = .dataSent ∧ buffer.isFullyAcked = true then .dataRecvd else h.state
    buffer := buffer }

/-- Raises the credit to `limit`. -/
def extend (h : SendHalf) (limit : Nat) : SendHalf := { h with window := h.window.extend limit }

end SendHalf

/-- The receiving half of a stream. -/
structure RecvHalf where
  /-- how far the half has come -/
  state : RecvState
  /-- credit granted to the peer -/
  window : RecvWindow
  /-- what was received and not read -/
  buffer : RecvBuffer
  /-- whether we asked the peer to stop before the end was known; its bytes are
  counted until it is -/
  stopped : Bool
deriving DecidableEq, Repr

/-- Bytes read from a stream. -/
structure ReadOutcome where
  /-- the bytes, in order -/
  data : Bytes
  /-- whether the stream has now been read to its end -/
  fin : Bool
deriving DecidableEq, Repr

namespace RecvHalf

/-- A half through which the peer may send `window` bytes ahead of the reader. -/
def ofWindow (window : Nat) : RecvHalf := ⟨.recv, .ofWindow window, ∅, false⟩

/-- Whether a reader would have to wait: there is nothing to read, and the end
was not reached. -/
def isWaiting (h : RecvHalf) : Bool := h.buffer.isEmpty && h.state != .sizeKnown

/-- Takes up to `maxLen` bytes out of the buffer. Reading the last of them ends
the half. -/
def take (h : RecvHalf) (maxLen : Nat) : ReadOutcome × RecvHalf :=
  let (data, buffer) := h.buffer.read maxLen
  let fin := h.state == .sizeKnown && buffer.isEmpty
  (⟨data, fin⟩, { h with state := if fin then .dataRecvd else h.state, buffer := buffer })

/-- Counts `n` bytes as read by the application, which grants the peer as many
more. -/
def release (h : RecvHalf) (n : Nat) : RecvHalf := { h with window := h.window.read n }

end RecvHalf

/-- A stream: a two-way stream has both halves, a one-way stream has one at each
end. -/
structure Stream where
  /-- the half on which we send -/
  send : Option SendHalf
  /-- the half on which the peer sends -/
  recv : Option RecvHalf
deriving DecidableEq, Repr

namespace Stream

/-- The states of the halves. -/
def status (s : Stream) : StreamStatus := ⟨s.send.map (·.state), s.recv.map (·.state)⟩

/-- Whether both halves have ended and nothing is left to read or to count. -/
def isDone (s : Stream) : Bool :=
  s.status.isTerminal && s.recv.all fun r => r.buffer.isEmpty && !r.stopped

/-- Whether the stream holds bytes the application has not read. -/
def isReadable (s : Stream) : Bool := s.recv.any fun r => !r.buffer.isEmpty

/-- Whether accepted bytes still wait for acknowledgement. -/
def hasUnacked (s : Stream) : Bool :=
  s.send.any fun h => h.state != .resetSent && 0 < h.buffer.unacked

end Stream

/-! ## All streams -/

/-- A number for each direction. -/
structure PerDirection where
  /-- the number for two-way streams -/
  bidi : Nat := 0
  /-- the number for one-way streams -/
  uni : Nat := 0
deriving DecidableEq, Repr

namespace PerDirection

/-- The number for a direction. -/
def get (p : PerDirection) : Direction → Nat
  | .bidi => p.bidi
  | .uni => p.uni

/-- Changes the number for a direction. -/
def set (p : PerDirection) (d : Direction) (n : Nat) : PerDirection :=
  match d with
  | .bidi => { p with bidi := n }
  | .uni => { p with uni := n }

@[simp] theorem get_set (p : PerDirection) (d e : Direction) (n : Nat) :
    (p.set d n).get e = if e = d then n else p.get e := by
  cases d <;> cases e <;> rfl

end PerDirection

/-- The live streams of a connection and the credit they share. -/
structure StreamSet where
  /-- our end of the connection -/
  side : Side
  /-- the live streams -/
  streams : Table StreamId Stream := ∅
  /-- index of the next stream we open -/
  nextLocal : PerDirection := {}
  /-- index of the next stream the peer opens -/
  nextRemote : PerDirection := {}
  /-- number of live streams that we opened -/
  liveLocal : PerDirection := {}
  /-- number of live streams that the peer opened -/
  liveRemote : PerDirection := {}
  /-- how many streams the peer lets us keep open -/
  peerMax : PerDirection := {}
  /-- how many streams we let the peer keep open -/
  localMax : PerDirection
  /-- what we announced -/
  localParams : TransportParameters
  /-- what the peer announced, once the handshake is complete -/
  peerParams : Option TransportParameters := none
  /-- credit the peer granted for the whole connection -/
  sendWindow : SendWindow
  /-- credit we granted for the whole connection -/
  recvWindow : RecvWindow
  /-- streams that wait for credit, in the order in which they ran out of it -/
  parked : List StreamId := []
  /-- events not taken yet, oldest first -/
  events : List Event := []
  /-- set when the connection is closed: only reading goes on -/
  frozen : Bool := false
deriving DecidableEq

/-- The limit the peer's parameters set for our half of a stream; nothing may be
sent before they are known. -/
def sendLimitFor (side : Side) (peer : Option TransportParameters) (id : StreamId) : Nat :=
  match peer with
  | none => 0
  | some p =>
    match id.direction with
    | .uni => p.initialMaxStreamDataUni
    | .bidi =>
      if id.IsLocal side then p.initialMaxStreamDataBidiRemote
      else p.initialMaxStreamDataBidiLocal

/-- The window our parameters set for the peer's half of a stream. -/
def recvWindowFor (side : Side) (own : TransportParameters) (id : StreamId) : Nat :=
  match id.direction with
  | .uni => own.initialMaxStreamDataUni
  | .bidi =>
    if id.IsLocal side then own.initialMaxStreamDataBidiLocal
    else own.initialMaxStreamDataBidiRemote

namespace StreamSet

/-- The streams of a connection that has just begun: none, and no leave to open
or send anything until the peer's parameters are known. -/
def new (side : Side) (own : TransportParameters) : StreamSet where
  side := side
  localMax := ⟨own.initialMaxStreamsBidi, own.initialMaxStreamsUni⟩
  localParams := own
  sendWindow := .ofLimit 0
  recvWindow := .ofWindow own.initialMaxData

/-! ### Views -/

/-- The number of live streams. -/
def size (s : StreamSet) : Nat := s.streams.size

/-- The states of a live stream. -/
def status? (s : StreamSet) (id : StreamId) : Option StreamStatus :=
  (s.streams.get? id).map (·.status)

/-- Whether accepted bytes of some stream still wait for acknowledgement. -/
def writesIncomplete (s : StreamSet) : Bool := s.streams.values.any (·.hasUnacked)

/-- The streams with unread bytes, in ascending order. -/
def readable (s : StreamSet) : List StreamId :=
  ((s.streams.entries.filter fun e => e.2.isReadable).map (·.1)).mergeSort fun a b =>
    a.value ≤ b.value

/-- How many more streams of a direction we may open. -/
def available (s : StreamSet) (d : Direction) : Nat := s.peerMax.get d - s.liveLocal.get d

/-- The next index of the class that a stream identifier belongs to. -/
def nextIndex (s : StreamSet) (id : StreamId) : Nat :=
  if id.IsLocal s.side then s.nextLocal.get id.direction else s.nextRemote.get id.direction

/-- What an application hears about a stream that is not live: that it is over,
or that it never was. -/
def missing (s : StreamSet) (id : StreamId) : CallError :=
  if id.index < s.nextIndex id then .streamClosed else .streamNotFound

/-! ### Steps that operations are made of -/

/-- Adds an event. -/
def emit (s : StreamSet) (e : Event) : StreamSet := { s with events := s.events ++ [e] }

/-- Takes all events. -/
def takeEvents (s : StreamSet) : List Event × StreamSet := (s.events, { s with events := [] })

/-- Replaces the sending half of a live stream. -/
def setSend (s : StreamSet) (id : StreamId) (h : SendHalf) : StreamSet :=
  { s with streams := s.streams.modify id fun st => { st with send := some h } }

/-- Replaces the receiving half of a live stream. -/
def setRecv (s : StreamSet) (id : StreamId) (h : RecvHalf) : StreamSet :=
  { s with streams := s.streams.modify id fun st => { st with recv := some h } }

/-- A new stream with the halves that its class has at our end. -/
def newStream (s : StreamSet) (id : StreamId) : Stream where
  send :=
    if id.direction = .bidi ∨ id.IsLocal s.side then
      some (.ofLimit (sendLimitFor s.side s.peerParams id))
    else none
  recv :=
    if id.direction = .bidi ∨ ¬ id.IsLocal s.side then
      some (.ofWindow (recvWindowFor s.side s.localParams id))
    else none

/-- Adds a new stream to the live ones. -/
def addStream (s : StreamSet) (id : StreamId) : StreamSet :=
  { s with streams := s.streams.insert id (s.newStream id) }

/-- Reports that streams of a direction may be opened, if this was not so in
`before` and is so now. -/
def announceAvailable (s before : StreamSet) (d : Direction) : StreamSet :=
  if before.available d = 0 ∧ 0 < s.available d then s.emit (.streamsAvailable d) else s

/-- Removes a stream, which frees its place. -/
def removeStream (s : StreamSet) (id : StreamId) : StreamSet :=
  let d := id.direction
  let without := { s with streams := s.streams.erase id }
  let freed :=
    if id.IsLocal s.side then
      { without with liveLocal := s.liveLocal.set d (s.liveLocal.get d - 1) }.announceAvailable s d
    else { without with liveRemote := s.liveRemote.set d (s.liveRemote.get d - 1) }
  freed.emit (.streamClosed id)

/-- Removes a stream if it is done. -/
def reap (s : StreamSet) (id : StreamId) : StreamSet :=
  if (s.streams.get? id).any (·.isDone) then s.removeStream id else s

/-- Puts a stream that ran out of credit at the end of the queue, unless it
waits there already. -/
def park (s : StreamSet) (id : StreamId) (h : SendHalf) : StreamSet :=
  if h.blocked then s
  else { s.setSend id { h with blocked := true } with parked := s.parked ++ [id] }

/-- Takes a stream out of the queue. -/
def unpark (s : StreamSet) (id : StreamId) : StreamSet :=
  { s with parked := s.parked.filter (· ≠ id) }

/-- Abandons the sending half of a stream and takes the stream out of the queue. -/
def abandonSend (s : StreamSet) (id : StreamId) (h : SendHalf) : StreamSet :=
  let s := s.setSend id h.abandon
  if h.blocked then s.unpark id else s

/-- The credit of a stream's own window, if it has a sending half. -/
def streamCredit? (s : StreamSet) (id : StreamId) : Option Nat :=
  ((s.streams.get? id).bind (·.send)).map (·.window.credit)

/-- Wakes the parked streams that have credit of their own, provided the
connection has credit: they leave the queue, in its order, and are reported
writable. -/
def wakeParked (s : StreamSet) : StreamSet :=
  if s.sendWindow.credit = 0 then s
  else
    let woken := s.parked.filter fun id => (s.streamCredit? id).any (0 < ·)
    { s with
      streams := s.streams.map fun id st =>
        if id ∈ woken then { st with send := st.send.map ({ · with blocked := false }) } else st
      parked := s.parked.filter fun id => (s.streamCredit? id).any (· = 0)
      events := s.events ++ woken.map .streamWritable }

/-- Raises the number of streams the peer lets us keep open; a lower number is
stale. -/
def raisePeerMax (s : StreamSet) (d : Direction) (n : Nat) : StreamSet :=
  if n ≤ s.peerMax.get d then s
  else { s with peerMax := s.peerMax.set d n }.announceAvailable s d

/-- Stops everything but reading. -/
def freeze (s : StreamSet) : StreamSet := { s with frozen := true, parked := [] }

end StreamSet

end QuicHost
