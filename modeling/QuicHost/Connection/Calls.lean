import QuicHost.Connection.Basic

/-!
# What an application does with a connection

The calls on streams, passed on to the streams and told to the engine; closing;
and fetching events. Once the connection is closing, everything but reading is
refused.
-/

namespace QuicHost.Connection

variable {ε σ : Type}

section Streams

variable [PacketEngine ε]

/-- Opens a stream. -/
def openStream (c : Connection ε σ) (d : Direction) : Except CallError StreamId × Connection ε σ :=
  if c.state.isClosing then (.error .connectionClosed, c)
  else
    match c.streams.openStream d with
    | (.error e, streams) => (.error e, { c with streams := streams })
    | (.ok id, streams) =>
      (.ok id, { c with streams := streams, stats.streamsOpened := c.stats.streamsOpened + 1 })

/-- Writes as much of `data` as there is credit for, and answers how much that
was. -/
def write (c : Connection ε σ) (id : StreamId) (data : Bytes) (fin : Bool) :
    Except CallError Nat × Connection ε σ :=
  if c.state.isClosing then (.error .connectionClosed, c)
  else
    match c.streams.write id data fin with
    | (.error e, streams) => (.error e, { c with streams := streams })
    | (.ok out, streams) =>
      let c := { c with streams := streams }
      if 0 < out.accepted ∨ out.fin = true then
        (.ok out.accepted, { c with
          adapter := c.adapter.modifyEngine fun e =>
            PacketEngine.submitStreamData e id out.chunk out.fin })
      else (.ok out.accepted, c)

/-- Tells the engine that `n` bytes of a stream were read, which the peer may
send again. A connection that is closing grants nothing. -/
def returnCredit (c : Connection ε σ) (id : StreamId) (n : Nat) : Connection ε σ :=
  if n = 0 ∨ c.state.isClosing = true then c
  else { c with
    adapter := c.adapter.modifyEngine fun e =>
      PacketEngine.extendConnection (PacketEngine.extendStream e id n) n }

/-- Reads up to `maxLen` bytes. What arrived can be read to the end, also when
the connection is closing; but then nothing more will come, and there is nothing
to wait for. -/
def read (c : Connection ε σ) (id : StreamId) (maxLen : Nat) :
    StateM σ (Except CallError ReadOutcome × Connection ε σ) :=
  match c.streams.read id maxLen with
  | (.error e, streams) =>
    let e := if e = .wouldBlock ∧ c.state.isClosing = true then .connectionClosed else e
    pure (.error e, { c with streams := streams })
  | (.ok out, streams) =>
    ({ c with streams := streams }.returnCredit id out.data.length).flushWith (.ok out)

/-- Abandons the sending half of a stream. -/
def resetStream (c : Connection ε σ) (id : StreamId) (errorCode : Nat) :
    StateM σ (Except CallError Unit × Connection ε σ) :=
  if c.state.isClosing then pure (.error .connectionClosed, c)
  else
    match c.streams.resetStream id with
    | (.error e, streams) => pure (.error e, { c with streams := streams })
    | (.ok (), streams) =>
      { c with
        streams := streams
        adapter := c.adapter.modifyEngine fun e =>
          PacketEngine.shutdownWrite e id errorCode }.flushWith (.ok ())

/-- Asks the peer to stop sending on a stream. -/
def stopSending (c : Connection ε σ) (id : StreamId) (errorCode : Nat) :
    StateM σ (Except CallError Unit × Connection ε σ) :=
  if c.state.isClosing then pure (.error .connectionClosed, c)
  else
    match c.streams.stopSending id with
    | (.error e, streams) => pure (.error e, { c with streams := streams })
    | (.ok released, streams) =>
      { c with
        streams := streams
        adapter := c.adapter.modifyEngine fun e =>
          let e := PacketEngine.shutdownRead e id errorCode
          if released = 0 then e else PacketEngine.extendConnection e released }.flushWith (.ok ())

/-- Closes the connection. Closing a connection that is draining does nothing. -/
def close (c : Connection ε σ) (errorCode : Nat) (reason : Bytes) (now : Instant) :
    StateM σ (Except CallError Unit × Connection ε σ) :=
  match c.state with
  | .closed => pure (.error .connectionClosed, c)
  | .draining => pure (.ok (), c)
  | _ => (c.announceClose ⟨.localClose, errorCode, reason⟩ now).flushWith (.ok ())

end Streams

/-- How many bytes a write would accept. -/
def sendCapacity (c : Connection ε σ) (id : StreamId) : Except CallError Nat :=
  if c.state.isClosing then .error .connectionClosed else c.streams.sendCapacity id

/-! ## Events -/

/-- Changes the handlers. -/
def modifyDispatcher (c : Connection ε σ) (f : EventDispatcher σ → EventDispatcher σ) :
    Connection ε σ :=
  { c with dispatcher := f c.dispatcher }

/-- Delivers what is queued and takes the oldest event that no handler took. -/
def pollEvent (c : Connection ε σ) : StateM σ (Option Event × Connection ε σ) := fun w =>
  let c := c.pump
  let ((event, dispatcher), w) := c.dispatcher.pollEvent w
  ((event, { c with dispatcher := dispatcher }), w)

end QuicHost.Connection
