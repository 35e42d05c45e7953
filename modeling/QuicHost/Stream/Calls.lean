import QuicHost.Stream.Basic

/-!
# What an application does with streams

Opening, writing, reading, abandoning either half, and asking how much could be
written. Every call answers a result or a `CallError`, together with the streams
as it leaves them. A refused call leaves them as they were, with one exception:
a write that finds no credit parks its stream.
-/

namespace QuicHost

/-- What became of a write. -/
structure WriteOutcome where
  /-- the bytes accepted, a first part of those offered; they go to the engine -/
  chunk : Bytes
  /-- whether the end of the stream was accepted with them -/
  fin : Bool
deriving DecidableEq, Repr

/-- The number of bytes accepted. -/
def WriteOutcome.accepted (o : WriteOutcome) : Nat := o.chunk.length

namespace StreamSet

/-- Opens a stream. -/
def openStream (s : StreamSet) (d : Direction) : Except CallError StreamId × StreamSet :=
  if s.frozen then (.error .connectionClosed, s)
  else if s.available d = 0 then (.error .streamLimitExceeded, s)
  else
    let id := StreamId.ofParts s.side d (s.nextLocal.get d)
    if StreamId.maxValue < id.value then (.error .streamLimitExceeded, s)
    else
      (.ok id, { s.addStream id with
        nextLocal := s.nextLocal.set d (s.nextLocal.get d + 1)
        liveLocal := s.liveLocal.set d (s.liveLocal.get d + 1) })

/-- The credit left for a sending half: its own, and no more than the
connection's. -/
def creditFor (s : StreamSet) (h : SendHalf) : Nat := min h.window.credit s.sendWindow.credit

/-- The sending half of a stream, if the application may write on it. -/
def writableHalf (s : StreamSet) (id : StreamId) : Except CallError SendHalf :=
  if s.frozen then .error .connectionClosed
  else
    match s.streams.get? id with
    | none => .error (s.missing id)
    | some stream =>
      match stream.send with
      | none => .error .invalidInput
      | some h => if h.state.isWritable then .ok h else .error .streamClosed

/-- How many bytes a write would accept. -/
def sendCapacity (s : StreamSet) (id : StreamId) : Except CallError Nat :=
  (s.writableHalf id).map s.creditFor

/-- Accepts as much of `data` as there is credit for, and the end of the stream
after it if `fin` is asked for and nothing was left over. Whoever gets less than
they asked for is parked. -/
def write (s : StreamSet) (id : StreamId) (data : Bytes) (fin : Bool) :
    Except CallError WriteOutcome × StreamSet :=
  match s.writableHalf id with
  | .error e => (.error e, s)
  | .ok h =>
    let granted := min data.length (s.creditFor h)
    let short := granted < data.length
    let parked := if short then s.park id h else s
    if short ∧ granted = 0 then (.error .flowControlBlocked, parked)
    else
      let fin := fin && !short
      let accepted := { h with blocked := h.blocked || short }.accept granted fin
      (.ok ⟨data.take granted, fin⟩,
        { parked.setSend id accepted with sendWindow := s.sendWindow.reserve granted })

/-- Reads up to `maxLen` bytes. What was read is credit for the peer, on the
stream and on the connection.

When everything else has stopped, what arrived can still be read, but grants
nothing any more; the end of a stream is reported once. -/
def read (s : StreamSet) (id : StreamId) (maxLen : Nat) :
    Except CallError ReadOutcome × StreamSet :=
  if maxLen = 0 then (.error .invalidInput, s)
  else
    match s.streams.get? id with
    | none => (.error (if s.frozen then .connectionClosed else s.missing id), s)
    | some stream =>
      match stream.recv with
      | none => (.error .invalidInput, s)
      | some h =>
        if s.frozen then
          if h.isWaiting then (.error .connectionClosed, s)
          else
            let (out, h) := h.take maxLen
            (.ok out, s.setRecv id h)
        else if h.state.isTerminal then (.error .streamClosed, s)
        else if h.isWaiting then (.error .wouldBlock, s)
        else
          let (out, h) := h.take maxLen
          let n := out.data.length
          (.ok out, { s.setRecv id (h.release n) with recvWindow := s.recvWindow.read n }.reap id)

/-- Abandons the sending half of a stream. -/
def resetStream (s : StreamSet) (id : StreamId) : Except CallError Unit × StreamSet :=
  if s.frozen then (.error .connectionClosed, s)
  else
    match s.streams.get? id with
    | none => (.error (s.missing id), s)
    | some stream =>
      match stream.send with
      | none => (.error .invalidInput, s)
      | some h =>
        if h.state.isTerminal then (.error .streamClosed, s)
        else (.ok (), (s.abandonSend id h).reap id)

/-- Abandons the receiving half of a stream and drops what was not read. Answers
the number of bytes dropped, which are credit for the peer. If the end is not
known yet, the bytes the peer has under way are still counted. -/
def stopSending (s : StreamSet) (id : StreamId) : Except CallError Nat × StreamSet :=
  if s.frozen then (.error .connectionClosed, s)
  else
    match s.streams.get? id with
    | none => (.error (s.missing id), s)
    | some stream =>
      match stream.recv with
      | none => (.error .invalidInput, s)
      | some h =>
        if h.state.isTerminal then (.error .streamClosed, s)
        else
          let released := h.buffer.buffered
          let stopped : RecvHalf := { h.release released with
            state := .resetRecvd
            buffer := h.buffer.discard
            stopped := h.buffer.finalSize.isNone }
          (.ok released,
            { s.setRecv id stopped with recvWindow := s.recvWindow.read released }.reap id)

end StreamSet

end QuicHost
