import QuicHost.Stream.Calls
import QuicHost.Stream.Peer

/-!
# Figures

A machine works with words. Where a sum does not fit one, it keeps what is left of it
(`wrap`), or it stops: which of the two is a choice made when a program is built.

The *figures* of an operation are the exact results of the additions and
subtractions that it makes on windows, on buffers and on the counters of streams,
as integers, in the order in which it makes them. A program that was built to stop
does so at the first figure that is no word. What cannot go wrong is not among them:
comparisons, a difference that stops at zero, and the end of data, whose sum is
refused when it does not fit.
-/

namespace QuicHost

/-- Whether a figure fits a word. -/
def IsWord (x : Int) : Prop := 0 ≤ x ∧ x ≤ maxWord

instance (x : Int) : Decidable (IsWord x) := inferInstanceAs (Decidable (_ ∧ _))

/-! ## Windows -/

namespace SendWindow

/-- The figures of `credit`. -/
def creditFigures (w : SendWindow) : List Int := [(w.limit : Int) - w.consumed]

/-- The figures of `reserve`. -/
def reserveFigures (w : SendWindow) (want : Nat) : List Int :=
  w.creditFigures ++ [(w.consumed : Int) + w.granted want]

end SendWindow

/-- The figures of `RecvWindow.read`. The last one is what the limit has grown by. -/
def RecvWindow.readFigures (w : RecvWindow) (n : Nat) : List Int :=
  let consumed := wrap (w.consumed + n)
  let limit := wrap (consumed + w.window)
  [(w.consumed : Int) + n, (consumed : Int) + w.window]
    ++ if w.limit < limit then [(limit : Int) - w.limit] else []

/-! ## Buffers -/

namespace RecvBuffer

/-- The figures of `insert`: the bytes to skip, and the bytes that wait then. -/
def insertFigures (b : RecvBuffer) (offset : Nat) (data : Bytes) (fin : Bool) : List Int :=
  match b.insert offset data fin with
  | .error _ => []
  | .ok _ =>
    if offset + data.length ≤ b.nextOffset then []
    else
      [(b.nextOffset : Int) - offset,
        (b.buffered : Int) + (data.drop (b.nextOffset - offset)).length]

/-- The figures of joining chunks until `want` bytes are taken: before each chunk,
how many of them are missing. -/
def splitFigures (want : Nat) : (taken : Nat) → List Bytes → List Int
  | _, [] => []
  | taken, chunk :: rest =>
    if taken < want then
      ((want : Int) - taken)
        :: splitFigures want (taken + min (want - taken) chunk.length) rest
    else []

/-- The figures of `read`. -/
def readFigures (b : RecvBuffer) (maxLen : Nat) : List Int :=
  let want := min maxLen b.buffered
  if want = 0 then []
  else
    (match b.chunks with
      | [] => []
      | front :: _ => if want ≤ front.length then [] else splitFigures want 0 b.chunks)
    ++ [(b.buffered : Int) - (b.read maxLen).1.length]

end RecvBuffer

namespace SendBuffer

/-- The figures of `append`. -/
def appendFigures (b : SendBuffer) (n : Nat) : List Int := [(b.accepted : Int) + n]

/-- The figures of `acknowledge`: the sum is limited only afterwards. -/
def acknowledgeFigures (b : SendBuffer) (n : Nat) : List Int := [(b.acked : Int) + n]

/-- The figures of `unacked`. -/
def unackedFigures (b : SendBuffer) : List Int := [(b.accepted : Int) - b.acked]

end SendBuffer

namespace StreamSet

/-- The receiving half of a live stream. -/
def recvHalf? (s : StreamSet) (id : StreamId) : Option RecvHalf := (s.streams.get? id).bind (·.recv)

/-! ## Calls -/

/-- The figures of `openStream`. -/
def openFigures (s : StreamSet) (d : Direction) : List Int :=
  match (s.openStream d).1 with
  | .error _ => []
  | .ok _ => [(s.nextLocal.get d : Int) + 1, (s.liveLocal.get d : Int) + 1]

/-- The figures of `sendCapacity`. -/
def capacityFigures (s : StreamSet) (id : StreamId) : List Int :=
  match s.writableHalf id with
  | .error _ => []
  | .ok h => h.window.creditFigures ++ s.sendWindow.creditFigures

/-- The figures of `write`. -/
def writeFigures (s : StreamSet) (id : StreamId) (data : Bytes) : List Int :=
  if s.frozen then []
  else
    s.sendWindow.creditFigures ++
      match s.writableHalf id with
      | .error _ => []
      | .ok h =>
        let granted := min data.length (s.creditFor h)
        h.window.creditFigures ++
          if granted < data.length ∧ granted = 0 then []
          else
            h.window.reserveFigures granted ++ s.sendWindow.reserveFigures granted
              ++ h.buffer.appendFigures granted

/-- The figures of `read`. -/
def readFigures (s : StreamSet) (id : StreamId) (maxLen : Nat) : List Int :=
  match s.recvHalf? id with
  | none => []
  | some h =>
    if maxLen = 0 ∨ h.isWaiting = true then []
    else if s.frozen then h.buffer.readFigures maxLen
    else if h.state.isTerminal then []
    else
      let n := (h.take maxLen).1.data.length
      h.buffer.readFigures maxLen ++ h.window.readFigures n ++ s.recvWindow.readFigures n

/-- The figures of `stopSending`. -/
def stopFigures (s : StreamSet) (id : StreamId) : List Int :=
  match s.recvHalf? id with
  | none => []
  | some h =>
    if s.frozen || h.state.isTerminal then []
    else h.window.readFigures h.buffer.buffered ++ s.recvWindow.readFigures h.buffer.buffered

/-- The figures of `writesIncomplete`. -/
def unackedFigures (s : StreamSet) : List Int :=
  s.streams.values.flatMap fun st => st.send.elim [] fun h =>
    if h.state = .resetSent then [] else h.buffer.unackedFigures

/-! ## Reports -/

/-- The figures of `ensureOpen`. -/
def ensureOpenFigures (s : StreamSet) (id : StreamId) : List Int :=
  let d := id.direction
  let next := s.nextRemote.get d
  if s.streams.contains id || decide (id.IsLocal s.side) || decide (id.index < next) then []
  else
    let count := id.index - next + 1
    [(id.index : Int) - next, (id.index : Int) - next + 1, (s.liveRemote.get d : Int) + count]
      ++ if s.localMax.get d < s.liveRemote.get d + count then []
        else [(id.index : Int) + 1, (s.liveRemote.get d : Int) + count]

/-- The figures of `countReceived`. -/
def countFigures (s : StreamSet) (h : RecvHalf) (upTo : Nat) : List Int :=
  if h.window.limit < upTo ∨ upTo ≤ h.window.received then []
  else
    [(upTo : Int) - h.window.received,
      (s.recvWindow.received : Int) + (upTo - h.window.received : Nat)]

/-- The figures of `settleStopped`. By how much the stream has grown is a
difference that stops at zero. -/
def settleFigures (s : StreamSet) (h : RecvHalf) (upTo : Nat) : List Int :=
  if h.window.limit < upTo ∨ upTo ≤ h.window.received then []
  else
    let grown := upTo - h.window.received
    ((s.recvWindow.received : Int) + grown)
      :: if s.recvWindow.limit < wrap (s.recvWindow.received + grown) then []
        else h.window.readFigures grown ++ s.recvWindow.readFigures grown

/-- The figures of `onNamed`. -/
def namedFigures (s : StreamSet) (id : StreamId)
    (reportFigures : StreamSet → RecvHalf → List Int) : List Int :=
  if s.frozen then []
  else
    s.ensureOpenFigures id ++
      match s.ensureOpen id with
      | .error _ => []
      | .ok none => []
      | .ok (some s) => (s.recvHalf? id).elim [] (reportFigures s)

/-- The figures of `takeData`. -/
def takeDataFigures (s : StreamSet) (id : StreamId) (offset : Nat) (data : Bytes) (fin : Bool)
    (h : RecvHalf) : List Int :=
  let stop := offset + data.length
  if maxWord < stop then []
  else if h.stopped then s.settleFigures h stop
  else if h.state.isTerminal then []
  else
    s.countFigures h stop ++
      match (s.countReceived id h stop).1 with
      | .error _ => []
      | .ok counted => counted.buffer.insertFigures offset data fin

/-- The figures of `onStreamData`. -/
def dataFigures (s : StreamSet) (id : StreamId) (offset : Nat) (data : Bytes) (fin : Bool) :
    List Int :=
  s.namedFigures id fun s h => s.takeDataFigures id offset data fin h

/-- The figures of `takeReset`. -/
def takeResetFigures (s : StreamSet) (id : StreamId) (finalSize : Nat) (h : RecvHalf) : List Int :=
  if h.stopped then s.settleFigures h finalSize
  else if h.state.isTerminal then []
  else if finalSize < h.window.received ∨ h.buffer.finalSize.any (· ≠ finalSize) then []
  else
    s.countFigures h finalSize ++
      match s.countReceived id h finalSize with
      | (.error _, _) => []
      | (.ok counted, s) =>
        let released := finalSize - counted.window.consumed
        ((finalSize : Int) - counted.window.consumed)
          :: (counted.window.readFigures released ++ s.recvWindow.readFigures released)

/-- The figures of `onStreamReset`. -/
def resetFigures (s : StreamSet) (id : StreamId) (finalSize : Nat) : List Int :=
  s.namedFigures id fun s h => s.takeResetFigures id finalSize h

/-- The figures of `onStopSending`. An abandoned half makes none. -/
def peerStopFigures (s : StreamSet) (id : StreamId) : List Int := s.namedFigures id fun _ _ => []

/-- The figures of `onMaxStreamData`. -/
def maxStreamDataFigures (s : StreamSet) (id : StreamId) (limit : Nat) : List Int :=
  if s.frozen then []
  else
    s.sendWindow.creditFigures ++
      match s.sendHalf? id with
      | none => []
      | some h =>
        if limit ≤ h.window.limit ∨ h.blocked = false then []
        else (h.window.extend limit).creditFigures

/-- The figures of `wakeParked`. -/
def wakeFigures (s : StreamSet) : List Int :=
  s.sendWindow.creditFigures ++
    if s.sendWindow.credit = 0 then []
    else s.parked.flatMap fun id => (s.sendHalf? id).elim [] (·.window.creditFigures)

/-- The figures of `onMaxData`. -/
def maxDataFigures (s : StreamSet) (limit : Nat) : List Int :=
  if s.frozen ∨ limit ≤ s.sendWindow.limit then []
  else { s with sendWindow := s.sendWindow.extend limit }.wakeFigures

/-- The figures of `onStreamAcked`. -/
def ackedFigures (s : StreamSet) (id : StreamId) (n : Nat) : List Int :=
  if s.frozen then [] else (s.sendHalf? id).elim [] (·.buffer.acknowledgeFigures n)

/-- The figures of `onHandshakeCompleted`. -/
def handshakeFigures (s : StreamSet) (peer : TransportParameters) : List Int :=
  if s.frozen then []
  else
    wakeFigures { s with
      peerParams := some peer
      sendWindow := s.sendWindow.extend peer.initialMaxData
      streams := s.streams.map fun id st =>
        { st with send := st.send.map fun (h : SendHalf) =>
          h.extend (sendLimitFor s.side (some peer) id) } }

end StreamSet

end QuicHost
