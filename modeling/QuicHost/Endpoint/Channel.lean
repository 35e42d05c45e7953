import QuicHost.Dispatcher

/-!
# Event channels

The application may take the events of all connections from one channel instead
of asking each connection. A channel is a queue of bounded length. Its sending
end is a handler that never waits: if the channel is full, or if nobody is there
to receive, the handler fails, and the connection keeps a record of that.

Handlers act on the host's state, so the channels are part of that state, each
known by its place among them.
-/

namespace QuicHost

/-- A connection of an endpoint. A handle may be used again once its connection
was removed. -/
structure ConnectionHandle where
  /-- the number of the connection -/
  key : Nat
deriving DecidableEq, Repr

instance : ToString ConnectionHandle where
  toString h := "#" ++ toString h.key

/-- An event with the connection it is about. -/
structure EndpointEvent where
  /-- the connection -/
  connection : ConnectionHandle
  /-- the event -/
  event : Event
deriving DecidableEq, Repr

/-- A queue of bounded length between handlers and one receiver. -/
structure EventChannel where
  /-- how many events the queue holds -/
  capacity : Nat
  /-- the events sent and not received, oldest first -/
  queue : List EndpointEvent := []
  /-- whether there is a receiver -/
  hasReceiver : Bool := true
deriving DecidableEq, Repr

/-- Why an event cannot be sent. -/
inductive SendFailure where
  /-- the receiver is gone -/
  | noReceiver
  /-- the queue is as long as it may be -/
  | full
deriving DecidableEq, Repr

/-- The text of a failure. -/
def SendFailure.message : SendFailure → String
  | noReceiver => "event receiver dropped"
  | full => "event channel full"

namespace EventChannel

/-- Sends an event, if there is room and a receiver. -/
def trySend (c : EventChannel) (e : EndpointEvent) : Except SendFailure EventChannel :=
  if !c.hasReceiver then .error .noReceiver
  else if c.capacity ≤ c.queue.length then .error .full
  else .ok { c with queue := c.queue ++ [e] }

/-- Takes the oldest event, if there is one. -/
def receive (c : EventChannel) : Option EndpointEvent × EventChannel :=
  (c.queue.head?, { c with queue := c.queue.tail })

/-- Removes the receiver; what it did not receive is lost. -/
def dropReceiver (c : EventChannel) : EventChannel := { c with queue := [], hasReceiver := false }

/-- Sending never fills a channel beyond its capacity. -/
theorem length_queue_le_of_trySend {c c' : EventChannel} {e : EndpointEvent}
    (h : c.trySend e = .ok c') : c'.queue.length ≤ c'.capacity := by
  unfold trySend at h
  split at h
  · simp at h
  · split at h
    · simp at h
    · simp only [Except.ok.injEq] at h
      subst h
      simp; omega

end EventChannel

/-! ## Channels of a host -/

/-- The state that the handlers of an endpoint act on: the channels, and a state
of the application. -/
structure HostState (ω : Type) where
  /-- every channel that was made, by number -/
  channels : List EventChannel := []
  /-- the application's own -/
  app : ω

namespace HostState

variable {ω : Type}

/-- Sends an event through the channel of a number. A number that no channel has
yet has no receiver. -/
def send (channel : Nat) (e : EndpointEvent) (w : HostState ω) : Except SendFailure (HostState ω) :=
  match w.channels[channel]? with
  | none => .error .noReceiver
  | some c => (c.trySend e).map fun c => { w with channels := w.channels.set channel c }

/-- Takes the oldest event out of the channel of a number. -/
def receive (channel : Nat) (w : HostState ω) : Option EndpointEvent × HostState ω :=
  match w.channels[channel]? with
  | none => (none, w)
  | some c => (c.receive.1, { w with channels := w.channels.set channel c.receive.2 })

/-- Removes the receiver of the channel of a number. -/
def dropReceiver (channel : Nat) (w : HostState ω) : HostState ω :=
  { w with channels := w.channels.modify channel EventChannel.dropReceiver }

end HostState

/-- The handler that sends every event of a connection through a channel. -/
def channelHandler {ω : Type} (channel : Nat) (connection : ConnectionHandle) :
    EventHandler (HostState ω) := fun event w =>
  match w.send channel ⟨connection, event⟩ with
  | .ok w => (.ok (), w)
  | .error e => (.error ⟨e.message⟩, w)

end QuicHost
