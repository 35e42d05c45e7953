import QuicHost.Bytes
import QuicHost.StreamId
import QuicHost.Transport.Error

/-!
# Events

What a connection tells its application. Events about one stream carry its
identifier and are offered to that stream's handler first; all others concern
the connection as a whole.
-/

namespace QuicHost

/-- On whose account a connection ends. -/
inductive CloseKind where
  /-- the application closed it -/
  | localClose
  /-- the peer closed it -/
  | peerClose
  /-- nothing was heard for too long -/
  | idleTimeout
  /-- the handshake could not complete -/
  | handshakeFailed
  /-- the protocol was broken, or resources ran out -/
  | transportFailure
deriving DecidableEq, Repr

/-- Why a connection ends. -/
structure CloseReason where
  /-- on whose account -/
  kind : CloseKind
  /-- the code the connection is closed with -/
  errorCode : Nat
  /-- explanation for people -/
  reason : Bytes := []
deriving DecidableEq, Repr

/-- The kinds of event. -/
inductive EventKind where
  /-- the handshake is complete -/
  | handshakeCompleted
  /-- the peer opened a stream -/
  | streamOpened
  /-- a stream has new bytes to read -/
  | streamReadable
  /-- the end of a stream is known -/
  | streamFinished
  /-- a blocked stream has credit again -/
  | streamWritable
  /-- the peer abandoned its half of a stream -/
  | streamReset
  /-- the peer wants no more of a stream -/
  | stopSending
  /-- a stream is gone -/
  | streamClosed
  /-- another stream may be opened -/
  | streamsAvailable
  /-- the engine reported a failure -/
  | transportError
  /-- a handler failed -/
  | handlerFailed
  /-- the connection is ending -/
  | draining
  /-- the connection has ended -/
  | connectionClosed
deriving DecidableEq, Repr

/-- The name of a kind in reports. -/
def EventKind.name : EventKind → String
  | handshakeCompleted => "handshake_completed"
  | streamOpened => "stream_opened"
  | streamReadable => "stream_readable"
  | streamFinished => "stream_finished"
  | streamWritable => "stream_writable"
  | streamReset => "stream_reset"
  | stopSending => "stop_sending"
  | streamClosed => "stream_closed"
  | streamsAvailable => "streams_available"
  | transportError => "transport_error"
  | handlerFailed => "handler_failed"
  | draining => "draining"
  | connectionClosed => "connection_closed"

/-- All kinds of event. -/
def EventKind.all : List EventKind :=
  [.handshakeCompleted, .streamOpened, .streamReadable, .streamFinished,
    .streamWritable, .streamReset,
    .stopSending, .streamClosed, .streamsAvailable, .transportError, .handlerFailed, .draining,
    .connectionClosed]

/-- The kind with a given name. -/
def EventKind.ofName? (name : String) : Option EventKind :=
  EventKind.all.find? fun k => k.name == name

/-- A handler's failure, as it is recorded and reported. -/
structure Diagnostic where
  /-- stream of the event that was being handled -/
  streamId : Option StreamId
  /-- kind of that event -/
  kind : EventKind
  /-- what the handler said -/
  message : String
deriving DecidableEq, Repr

/-- Something the application is told. -/
inductive Event where
  /-- the handshake is complete -/
  | handshakeCompleted
  /-- the peer opened a stream, by naming it or a later one -/
  | streamOpened (id : StreamId)
  /-- new bytes can be read -/
  | streamReadable (id : StreamId)
  /-- the end of the stream is known -/
  | streamFinished (id : StreamId)
  /-- a stream that ran out of credit may be written again -/
  | streamWritable (id : StreamId)
  /-- the peer abandoned its half; unread bytes are dropped -/
  | streamReset (id : StreamId) (errorCode : Nat)
  /-- the peer wants no more; our half was abandoned -/
  | stopSending (id : StreamId) (errorCode : Nat)
  /-- both halves ended and everything was read; the stream is gone -/
  | streamClosed (id : StreamId)
  /-- a stream of this direction may be opened again -/
  | streamsAvailable (direction : Direction)
  /-- the engine reported a failure -/
  | transportError (error : TransportError)
  /-- a handler failed on an event -/
  | handlerFailed (failure : Diagnostic)
  /-- the connection refuses new work and absorbs what still arrives -/
  | draining (reason : CloseReason)
  /-- the connection has ended; `writesIncomplete` says whether accepted bytes
  were never acknowledged -/
  | connectionClosed (reason : CloseReason) (writesIncomplete : Bool)
deriving DecidableEq, Repr

namespace Event

/-- The stream an event is about; events about the connection have none. -/
def streamId? : Event → Option StreamId
  | streamOpened id => some id
  | streamReadable id => some id
  | streamFinished id => some id
  | streamWritable id => some id
  | streamReset id _ => some id
  | stopSending id _ => some id
  | streamClosed id => some id
  | _ => none

/-- The kind of an event. -/
def kind : Event → EventKind
  | handshakeCompleted => .handshakeCompleted
  | streamOpened _ => .streamOpened
  | streamReadable _ => .streamReadable
  | streamFinished _ => .streamFinished
  | streamWritable _ => .streamWritable
  | streamReset _ _ => .streamReset
  | stopSending _ _ => .stopSending
  | streamClosed _ => .streamClosed
  | streamsAvailable _ => .streamsAvailable
  | transportError _ => .transportError
  | handlerFailed _ => .handlerFailed
  | draining _ => .draining
  | connectionClosed _ _ => .connectionClosed

/-- Whether the event itself reports a failed handler. Such reports are never
reported again. -/
def isDiagnostic (e : Event) : Bool := e.kind == .handlerFailed

end Event

end QuicHost
