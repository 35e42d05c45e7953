import QuicHost.Event
import QuicHost.Table

/-!
# Delivery of events

Events wait in one queue and are delivered in the order in which they were
pushed, each to exactly one target: the handler of its stream, else the default
handler for streams, else the connection's handler, else the mailbox, where the
application fetches them. Connection events skip the first two.

A handler may do anything to the application's state, of some type `σ`, and may
fail. A failure does not stop delivery: it is recorded, and a report joins the
queue behind everything pending. Reports are not reported again, so after the
pending events and one round of reports the queue is empty. `dispatch` is
written as these two rounds.

Once sealed, the dispatcher forgets what was undelivered, delivers one last
event and accepts no more.
-/

namespace QuicHost

/-- What a handler answers when it fails. -/
structure HandlerError where
  /-- explanation for people -/
  message : String
deriving DecidableEq, Repr

/-- A callback of the application, acting on the application's state. -/
abbrev EventHandler (σ : Type) : Type := Event → StateM σ (Except HandlerError Unit)

/-- Where an event is delivered. -/
inductive Target where
  /-- the handler of one stream -/
  | stream (id : StreamId)
  /-- the default handler for events about streams -/
  | defaultStream
  /-- the handler of the connection -/
  | connection
  /-- the application's mailbox -/
  | mailbox
deriving DecidableEq, Repr

/-- The queue of events of one connection, with the handlers they go to. -/
structure EventDispatcher (σ : Type) where
  /-- events to be delivered, oldest first -/
  queue : List Event := []
  /-- events without a handler, oldest first -/
  mailbox : List Event := []
  /-- handler for events about the connection -/
  connectionHandler : Option (EventHandler σ) := none
  /-- handler for events about streams that have no handler of their own -/
  defaultStreamHandler : Option (EventHandler σ) := none
  /-- handlers of single streams -/
  streamHandlers : Table StreamId (EventHandler σ) := ∅
  /-- failures of handlers so far, oldest first -/
  diagnostics : List Diagnostic := []
  /-- whether the last event was pushed -/
  sealed : Bool := false
  /-- number of events handed out so far -/
  delivered : Nat := 0

namespace EventDispatcher

variable {σ : Type}

instance : Inhabited (EventDispatcher σ) := ⟨{}⟩

/-! ## The queue -/

/-- Adds an event behind everything pending. A sealed dispatcher drops it. -/
def push (d : EventDispatcher σ) (event : Event) : EventDispatcher σ :=
  if d.sealed then d else { d with queue := d.queue ++ [event] }

/-- Forgets everything undelivered and pushes the last event. -/
def sealWith (d : EventDispatcher σ) (terminal : Event) : EventDispatcher σ :=
  if d.sealed then d else { d with queue := [terminal], mailbox := [], sealed := true }

/-! ## Handlers -/

/-- Installs the handler for events about the connection. -/
def setConnectionHandler (d : EventDispatcher σ) (h : EventHandler σ) : EventDispatcher σ :=
  { d with connectionHandler := some h }

/-- Installs the handler for streams without a handler of their own. -/
def setDefaultStreamHandler (d : EventDispatcher σ) (h : EventHandler σ) : EventDispatcher σ :=
  { d with defaultStreamHandler := some h }

/-- Installs the handler of one stream. -/
def setStreamHandler (d : EventDispatcher σ) (id : StreamId) (h : EventHandler σ) :
    EventDispatcher σ :=
  { d with streamHandlers := d.streamHandlers.insert id h }

/-- Whether a stream has a handler of its own. -/
def hasStreamHandler (d : EventDispatcher σ) (id : StreamId) : Bool :=
  d.streamHandlers.contains id

/-- Removes the handler of one stream. -/
def removeStreamHandler (d : EventDispatcher σ) (id : StreamId) : EventDispatcher σ :=
  { d with streamHandlers := d.streamHandlers.erase id }

/-! ## Delivery -/

/-- The target of events that no stream handler takes. -/
def connectionTarget (d : EventDispatcher σ) : Target :=
  if d.connectionHandler.isSome then .connection else .mailbox

/-- The one target an event goes to, with the handlers now installed. -/
def target (d : EventDispatcher σ) (event : Event) : Target :=
  match event.streamId? with
  | none => d.connectionTarget
  | some id =>
    if d.hasStreamHandler id then .stream id
    else if d.defaultStreamHandler.isSome then .defaultStream
    else d.connectionTarget

/-- The handler at a target; the mailbox has none. -/
def handler? (d : EventDispatcher σ) : Target → Option (EventHandler σ)
  | .stream id => d.streamHandlers.get? id
  | .defaultStream => d.defaultStreamHandler
  | .connection => d.connectionHandler
  | .mailbox => none

/-- Records that the handler of `event` failed, and reports it unless `event` is
such a report. -/
def recordFailure (d : EventDispatcher σ) (event : Event) (error : HandlerError) :
    EventDispatcher σ :=
  let failure : Diagnostic := ⟨event.streamId?, event.kind, error.message⟩
  let d := { d with diagnostics := d.diagnostics ++ [failure] }
  if event.isDiagnostic then d else { d with queue := d.queue ++ [.handlerFailed failure] }

/-- Forgets the handler of a stream whose closing was delivered. -/
def dropHandlerOfClosed (d : EventDispatcher σ) : Event → EventDispatcher σ
  | .streamClosed id => d.removeStreamHandler id
  | _ => d

/-- Delivers one event. -/
def deliver (d : EventDispatcher σ) (event : Event) : StateM σ (EventDispatcher σ) := fun w =>
  match d.handler? (d.target event) with
  | none => ({ d with mailbox := d.mailbox ++ [event] }, w)
  | some handle =>
    match handle event w with
    | (.ok (), w) => (d.dropHandlerOfClosed event, w)
    | (.error error, w) => ((d.recordFailure event error).dropHandlerOfClosed event, w)

/-- Delivers events one after the other. -/
def deliverAll (d : EventDispatcher σ) : List Event → StateM σ (EventDispatcher σ)
  | [] => fun w => (d, w)
  | event :: rest => fun w =>
    let (d, w) := d.deliver event w
    d.deliverAll rest w

/-- Takes the queue and delivers all of it. Reports of failures stay in the
queue. -/
def deliverQueue (d : EventDispatcher σ) : StateM σ (EventDispatcher σ) :=
  { d with queue := [], delivered := d.delivered + d.queue.length }.deliverAll d.queue

/-- Delivers every event of the queue, then the reports of the handlers that
failed on them. Answers the number of events delivered. -/
def dispatch (d : EventDispatcher σ) : StateM σ (Nat × EventDispatcher σ) := fun w =>
  let (d', w) := d.deliverQueue w
  let (d', w) := d'.deliverQueue w
  ((d'.delivered - d.delivered, d'), w)

/-- Delivers what is queued, then takes the oldest event out of the mailbox. -/
def pollEvent (d : EventDispatcher σ) : StateM σ (Option Event × EventDispatcher σ) := fun w =>
  let ((_, d), w) := d.dispatch w
  ((d.mailbox.head?, { d with mailbox := d.mailbox.tail }), w)

/-- The text shown in diagnostics. -/
def debugText (d : EventDispatcher σ) : String :=
  "EventDispatcher \x7b queued: " ++ toString d.queue.length
    ++ ", mailbox: " ++ toString d.mailbox.length
    ++ ", stream_handlers: " ++ toString d.streamHandlers.size
    ++ ", diagnostics: " ++ toString d.diagnostics.length
    ++ ", sealed: " ++ (if d.sealed then "true" else "false") ++ " \x7d"

/-! ## Small facts -/

@[simp] theorem queue_push_of_not_sealed {d : EventDispatcher σ} (h : d.sealed = false)
    (e : Event) : (d.push e).queue = d.queue ++ [e] := by
  simp [push, h]

@[simp] theorem push_of_sealed {d : EventDispatcher σ} (h : d.sealed = true) (e : Event) :
    d.push e = d := by
  simp [push, h]

@[simp] theorem sealed_push (d : EventDispatcher σ) (e : Event) : (d.push e).sealed = d.sealed := by
  unfold push
  split <;> rfl

@[simp] theorem sealed_sealWith (d : EventDispatcher σ) (e : Event) :
    (d.sealWith e).sealed = true := by
  unfold sealWith
  split
  · assumption
  · rfl

end EventDispatcher

end QuicHost
