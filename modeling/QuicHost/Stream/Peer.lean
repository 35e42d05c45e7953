import QuicHost.Stream.Basic

/-!
# What the peer does with streams

The packet engine reports what the peer sent: stream data, abandoned halves, and
raised limits. Data and abandoned halves may name a stream for the first time,
which opens it and all earlier ones of its class; reports about streams that are
gone are ignored. What breaks a limit or moves the end of a stream is a
`TransportError`, and the connection has to close.

Some reports hand credit straight back to the peer; the answer is then the
number of bytes, which the connection passes to the engine.
-/

namespace QuicHost.StreamSet

/-! ## Opening -/

/-- Opens the stream of the given class and index that the peer has named. -/
def openRemote (s : StreamSet) (d : Direction) (index : Nat) : StreamSet :=
  let id := StreamId.ofParts s.side.opposite d index
  (s.addStream id).emit (.streamOpened id)

/-- Sees to it that a stream the peer has named is live. Answers `none` if the
stream is gone already. -/
def ensureOpen (s : StreamSet) (id : StreamId) : Except TransportError (Option StreamSet) :=
  if s.streams.contains id then .ok (some s)
  else
    let d := id.direction
    if id.IsLocal s.side then
      if s.nextLocal.get d ≤ id.index then .error (.violation .streamStateError) else .ok none
    else
      let next := s.nextRemote.get d
      if id.index < next then .ok none
      else
        let count := id.index - next + 1
        if s.localMax.get d < s.liveRemote.get d + count then .error (.violation .streamLimitError)
        else
          let opened := (List.range' next count).foldl (fun s index => s.openRemote d index) s
          .ok (some { opened with
            nextRemote := s.nextRemote.set d (id.index + 1)
            liveRemote := s.liveRemote.set d (s.liveRemote.get d + count) })

/-! ## Counting what arrives -/

/-- Counts the peer's bytes on a stream up to offset `upTo`, on the stream's own
window and, by as much as the stream has grown, on the connection's. There the sum is
cut to a word before it is held against the limit. If the connection's credit is
overrun, the stream has counted already. -/
def countReceived (s : StreamSet) (id : StreamId) (h : RecvHalf) (upTo : Nat) :
    Except TransportError RecvHalf × StreamSet :=
  match h.window.receive upTo with
  | .error e => (.error e, s)
  | .ok window =>
    let grown := upTo - h.window.received
    let counted := { h with window := window }
    let s := s.setRecv id counted
    if grown = 0 then (.ok counted, s)
    else
      match s.recvWindow.receive (wrap (s.recvWindow.received + grown)) with
      | .error e => (.error e, s)
      | .ok conn => (.ok counted, { s with recvWindow := conn })

/-- Counts the peer's bytes on a stream we asked it to stop, and hands the
credit straight back. The end of the stream, if `isFinal`, may not lie before
what was counted; it ends the counting. -/
def settleStopped (s : StreamSet) (id : StreamId) (h : RecvHalf) (upTo : Nat) (isFinal : Bool) :
    Except TransportError Nat × StreamSet :=
  if isFinal && upTo < h.window.received then (.error (.violation .finalSizeError), s)
  else
    match s.countReceived id h upTo with
    | (.error e, s) => (.error e, s)
    | (.ok counted, s) =>
      let grown := upTo - h.window.received
      let released := if grown = 0 then counted else counted.release grown
      let settled := { released with stopped := h.stopped && !isFinal }
      (.ok grown, { s.setRecv id settled with
        recvWindow := if grown = 0 then s.recvWindow else s.recvWindow.read grown }.reap id)

/-! ## Reports on one stream -/

/-- Hears of a stream that the peer has named. Once everything has stopped nothing is
heard any more. The stream is opened if it has to be; if it is gone, the report is ignored
and the answer is `ignored`. -/
def onNamed {α : Type} (s : StreamSet) (id : StreamId) (ignored : α)
    (report : StreamSet → Stream → Except TransportError α × StreamSet) :
    Except TransportError α × StreamSet :=
  if s.frozen then (.ok ignored, s)
  else
    match s.ensureOpen id with
    | .error e => (.error e, s)
    | .ok none => (.ok ignored, s)
    | .ok (some s) =>
      match s.streams.get? id with
      | none => (.ok ignored, s)
      | some stream => report s stream

/-- Takes in data for a live stream. -/
def takeData (s : StreamSet) (id : StreamId) (offset : Nat) (data : Bytes) (fin : Bool)
    (stream : Stream) : Except TransportError Nat × StreamSet :=
  match stream.recv with
  | none => (.error (.violation .streamStateError), s)
  | some h =>
    let stop := offset + data.length
    if maxWord < stop then (.error (.violation .flowControlError), s)
    else if h.stopped then s.settleStopped id h stop fin
    else if h.state.isTerminal then (.ok 0, s)
    else
      match s.countReceived id h stop with
      | (.error e, s) => (.error e, s)
      | (.ok counted, s) =>
        match counted.buffer.insert offset data fin with
        | .error e => (.error e, s)
        | .ok (added, buffer) =>
          let finishes := fin && counted.buffer.finalSize.isNone
          let filled := { counted with
            state := if finishes then .sizeKnown else counted.state
            buffer := buffer }
          let s := s.setRecv id filled
          let s := if 0 < added then s.emit (.streamReadable id) else s
          let s := if finishes then s.emit (.streamFinished id) else s
          (.ok 0, s)

/-- Takes in data that starts at `offset`. Answers the credit handed back at
once, which is none unless the stream was stopped. -/
def onStreamData (s : StreamSet) (id : StreamId) (offset : Nat) (data : Bytes) (fin : Bool) :
    Except TransportError Nat × StreamSet :=
  s.onNamed id 0 fun s stream => s.takeData id offset data fin stream

/-- Takes in that the peer abandoned its half of a live stream. -/
def takeReset (s : StreamSet) (id : StreamId) (errorCode finalSize : Nat) (stream : Stream) :
    Except TransportError Nat × StreamSet :=
  match stream.recv with
  | none => (.error (.violation .streamStateError), s)
  | some h =>
    if h.stopped then s.settleStopped id h finalSize true
    else if h.state.isTerminal then (.ok 0, s)
    else if finalSize < h.window.received ∨ h.buffer.finalSize.any (· ≠ finalSize) then
      (.error (.violation .finalSizeError), s)
    else
      match s.countReceived id h finalSize with
      | (.error e, s) => (.error e, s)
      | (.ok counted, s) =>
        let released := finalSize - counted.window.consumed
        let ended : RecvHalf := { counted.release released with
          state := .resetRecvd
          buffer := counted.buffer.discard }
        let s := { s.setRecv id ended with recvWindow := s.recvWindow.read released }
        (.ok released, (s.emit (.streamReset id errorCode)).reap id)

/-- Takes in that the peer abandoned its half after `finalSize` bytes. Answers
the credit handed back: all bytes the application has not read, whether they
arrived or not. -/
def onStreamReset (s : StreamSet) (id : StreamId) (errorCode finalSize : Nat) :
    Except TransportError Nat × StreamSet :=
  s.onNamed id 0 fun s stream => s.takeReset id errorCode finalSize stream

/-- Takes in that the peer wants no more of a live stream. -/
def takeStop (s : StreamSet) (id : StreamId) (errorCode : Nat) (stream : Stream) :
    Except TransportError Bool × StreamSet :=
  match stream.send with
  | none => (.error (.violation .streamStateError), s)
  | some h =>
    if h.state.isTerminal then (.ok false, s)
    else (.ok true, ((s.abandonSend id h).emit (.stopSending id errorCode)).reap id)

/-- Takes in that the peer wants no more of a stream. Answers whether our half
was abandoned for it, which the engine then has to announce. -/
def onStopSending (s : StreamSet) (id : StreamId) (errorCode : Nat) :
    Except TransportError Bool × StreamSet :=
  s.onNamed id false fun s stream => s.takeStop id errorCode stream

/-! ## Limits and acknowledgements -/

/-- The sending half of a live stream. -/
def sendHalf? (s : StreamSet) (id : StreamId) : Option SendHalf := (s.streams.get? id).bind (·.send)

/-- Takes in a limit for one stream. A parked stream that now has credit of both
kinds is woken. -/
def onMaxStreamData (s : StreamSet) (id : StreamId) (limit : Nat) : StreamSet :=
  if s.frozen then s
  else
    match s.sendHalf? id with
    | none => s
    | some h =>
      if limit ≤ h.window.limit then s
      else
        let raised := h.extend limit
        if h.blocked ∧ 0 < raised.window.credit ∧ 0 < s.sendWindow.credit then
          ((s.setSend id { raised with blocked := false }).unpark id).emit (.streamWritable id)
        else s.setSend id raised

/-- Takes in a limit for the whole connection. -/
def onMaxData (s : StreamSet) (limit : Nat) : StreamSet :=
  if s.frozen ∨ limit ≤ s.sendWindow.limit then s
  else { s with sendWindow := s.sendWindow.extend limit }.wakeParked

/-- Takes in how many streams the peer lets us keep open. -/
def onMaxStreams (s : StreamSet) (d : Direction) (n : Nat) : StreamSet :=
  if s.frozen then s else s.raisePeerMax d n

/-- Takes in that the peer acknowledged `n` more bytes of a stream. -/
def onStreamAcked (s : StreamSet) (id : StreamId) (n : Nat) : StreamSet :=
  if s.frozen then s
  else
    match s.sendHalf? id with
    | none => s
    | some h => (s.setSend id (h.acknowledge n)).reap id

/-- Takes in the peer's parameters: all limits rise to what they allow. -/
def onHandshakeCompleted (s : StreamSet) (peer : TransportParameters) : StreamSet :=
  if s.frozen then s
  else
    let raised := { s with
      peerParams := some peer
      sendWindow := s.sendWindow.extend peer.initialMaxData
      streams := s.streams.map fun id st =>
        { st with send := st.send.map fun (h : SendHalf) =>
          h.extend (sendLimitFor s.side (some peer) id) } }
    ((raised.raisePeerMax .bidi peer.initialMaxStreamsBidi).raisePeerMax .uni
      peer.initialMaxStreamsUni).wakeParked

end QuicHost.StreamSet
