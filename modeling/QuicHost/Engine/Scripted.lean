import QuicHost.Engine.Basic
import QuicHost.Engine.Frame
import QuicHost.Table

/-!
# An engine that follows a script

The scripted engine reacts to each datagram, and to each run of its timers, with
the next reaction it was given: callbacks, or a failure. What the application
does it writes out as frames, in the order in which it was done, as many to a
datagram as fit. It stands in for a real engine where every step has to be
known.
-/

namespace QuicHost

/-- What the engine does on a datagram or a timer. -/
abbrev Reaction := Except EngineError (List Callback)

/-- An engine with its script, what waits to be sent, and what it was told. -/
structure ScriptedEngine where
  /-- reactions to the next datagrams -/
  datagramReactions : List Reaction := []
  /-- reactions to the next runs of the timers -/
  timeoutReactions : List Reaction := []
  /-- callbacks not drained yet, oldest first -/
  callbacks : List Callback := []
  /-- what waits to be sent, oldest first; the data of a stream may be longer
  than a frame can hold -/
  outbound : List Frame := []
  /-- the datagrams taken in, oldest first -/
  received : List Bytes := []
  /-- the closing of the connection, once it is asked for -/
  closeFrame : Option Frame := none
  /-- whether the closing was sent -/
  closeSent : Bool := false
  /-- failure of the next attempt to write -/
  writeFailure : Option EngineError := none
  /-- when the timers are to be run -/
  expiry : Option Instant := none
  /-- bytes granted to the peer on each stream -/
  streamCredits : Table StreamId Nat := ∅
  /-- bytes granted to the peer on the connection -/
  connectionCredit : Nat := 0

namespace ScriptedEngine

/-! ## Script -/

/-- Adds the reaction to a further datagram. -/
def expectDatagram (e : ScriptedEngine) (r : Reaction) : ScriptedEngine :=
  { e with datagramReactions := e.datagramReactions ++ [r] }

/-- Adds the reaction to a further run of the timers. -/
def expectTimeout (e : ScriptedEngine) (r : Reaction) : ScriptedEngine :=
  { e with timeoutReactions := e.timeoutReactions ++ [r] }

/-- Records a callback. -/
def pushCallback (e : ScriptedEngine) (c : Callback) : ScriptedEngine :=
  { e with callbacks := e.callbacks ++ [c] }

/-- Lets the next attempt to write fail. -/
def failNextWrite (e : ScriptedEngine) (error : EngineError) : ScriptedEngine :=
  { e with writeFailure := some error }

/-- Sets when the timers are to be run. -/
def setExpiry (e : ScriptedEngine) (t : Option Instant) : ScriptedEngine := { e with expiry := t }

/-! ## What the engine was told -/

/-- The bytes granted to the peer on a stream. -/
def streamCredit (e : ScriptedEngine) (id : StreamId) : Nat := (e.streamCredits.get? id).getD 0

/-- Whether the connection is to be closed. -/
def isClosing (e : ScriptedEngine) : Bool := e.closeFrame.isSome

/-! ## Taking in -/

/-- Does what a reaction says: records its callbacks, or fails. -/
def react (e : ScriptedEngine) : Option Reaction → Except EngineError Unit × ScriptedEngine
  | none => (.ok (), e)
  | some (.error error) => (.error error, e)
  | some (.ok callbacks) => (.ok (), { e with callbacks := e.callbacks ++ callbacks })

/-- Takes in a datagram and does what the script says. Without a script it does
nothing. -/
def readDatagram (e : ScriptedEngine) (datagram : Bytes) :
    Except EngineError Unit × ScriptedEngine :=
  { e with
    received := e.received ++ [datagram]
    datagramReactions := e.datagramReactions.tail }.react e.datagramReactions.head?

/-- Runs the timers, which disarms them, and does what the script says. -/
def handleExpiry (e : ScriptedEngine) : Except EngineError Unit × ScriptedEngine :=
  { e with
    expiry := none
    timeoutReactions := e.timeoutReactions.tail }.react e.timeoutReactions.head?

/-- Takes the oldest callback. -/
def pollCallback (e : ScriptedEngine) : Option Callback × ScriptedEngine :=
  (e.callbacks.head?, { e with callbacks := e.callbacks.tail })

/-! ## Sending -/

/-- Packs what waits to be sent into at most `room` bytes, and answers what is
left. Data is cut where the room or the frame ends; nothing is written after a
cut. Empty data without an end says nothing and is skipped. -/
def pack (room : Nat) : List Frame → Bytes × List Frame
  | [] => ([], [])
  | .stream id data fin :: rest =>
    if data.isEmpty && !fin then pack room rest
    else if room < Frame.streamHeaderLength ∨ (room = Frame.streamHeaderLength ∧ data ≠ []) then
      ([], .stream id data fin :: rest)
    else
      let size := min data.length (min (room - Frame.streamHeaderLength) Frame.maxPayload)
      if size < data.length then
        ((Frame.stream id (data.take size) false).encode, .stream id (data.drop size) fin :: rest)
      else
        let written := (Frame.stream id data fin).encode
        let (more, left) := pack (room - written.length) rest
        (written ++ more, left)
  | frame :: rest =>
    let written := frame.encode
    if room < written.length then ([], frame :: rest)
    else
      let (more, left) := pack (room - written.length) rest
      (written ++ more, left)

/-- Gives out the next datagram. Once the connection is to be closed, the
closing is all that goes out, once. -/
def writeDatagram (e : ScriptedEngine) (maxLen : Nat) :
    Except EngineError Written × ScriptedEngine :=
  match e.writeFailure with
  | some error => (.error error, { e with writeFailure := none })
  | none =>
    match e.closeFrame with
    | some frame =>
      let bytes := frame.encode
      if e.closeSent || maxLen < bytes.length then (.ok ⟨[], 0⟩, e)
      else (.ok ⟨bytes, bytes.length⟩, { e with closeSent := true })
    | none =>
      let (bytes, left) := pack maxLen e.outbound
      (.ok ⟨bytes, bytes.length⟩, { e with outbound := left })

/-- Queues data of a stream. -/
def submitStreamData (e : ScriptedEngine) (id : StreamId) (data : Bytes) (fin : Bool) :
    ScriptedEngine :=
  { e with outbound := e.outbound ++ [.stream id data fin] }

/-- Whether a frame carries data of a stream. -/
def isDataOf (id : StreamId) : Frame → Bool
  | .stream id' _ _ => id' == id
  | _ => false

/-- Forgets the data of a stream that was not sent, and announces that the
stream is abandoned. -/
def shutdownWrite (e : ScriptedEngine) (id : StreamId) (errorCode : Nat) : ScriptedEngine :=
  { e with outbound := e.outbound.filter (fun f => !isDataOf id f) ++ [.resetStream id errorCode] }

/-- Asks the peer to stop sending on a stream. -/
def shutdownRead (e : ScriptedEngine) (id : StreamId) (errorCode : Nat) : ScriptedEngine :=
  { e with outbound := e.outbound ++ [.stopSending id errorCode] }

/-- Grants bytes on a stream. -/
def extendStream (e : ScriptedEngine) (id : StreamId) (n : Nat) : ScriptedEngine :=
  { e with streamCredits := e.streamCredits.insert id (e.streamCredit id + n) }

/-- Grants bytes on the connection. -/
def extendConnection (e : ScriptedEngine) (n : Nat) : ScriptedEngine :=
  { e with connectionCredit := e.connectionCredit + n }

/-- Queues the closing of the connection, in place of everything that waits. The
first closing counts; its reason is cut to what a frame can hold. -/
def close (e : ScriptedEngine) (errorCode : Nat) (reason : Bytes) : ScriptedEngine :=
  if e.isClosing then e
  else
    { e with
      closeFrame := some (.connectionClose errorCode (reason.take Frame.maxPayload))
      outbound := [] }

instance : PacketEngine ScriptedEngine where
  readDatagram e datagram _ := e.readDatagram datagram
  drainCallbacks e := (e.callbacks, { e with callbacks := [] })
  writeDatagram e maxLen _ := e.writeDatagram maxLen
  submitStreamData := submitStreamData
  shutdownWrite := shutdownWrite
  shutdownRead := shutdownRead
  extendStream := extendStream
  extendConnection := extendConnection
  close := close
  expiry := expiry
  handleExpiry e _ := e.handleExpiry

end ScriptedEngine

end QuicHost
