/-!
# States of the two halves of a stream

The sending half and the receiving half of a stream live and end separately.
Either runs through a few states towards a terminal one. A one-way stream has
only one half at each end; the half it lacks counts as ended.
-/

namespace QuicHost

/-- The state of a sending half. -/
inductive SendState where
  /-- opened, nothing accepted yet -/
  | ready
  /-- data was accepted -/
  | send
  /-- the end was accepted and waits for acknowledgement -/
  | dataSent
  /-- everything up to the end is acknowledged; terminal -/
  | dataRecvd
  /-- abandoned, by us or on the peer's request; terminal -/
  | resetSent
deriving DecidableEq, Repr

namespace SendState

/-- Whether the half has ended. -/
def isTerminal : SendState → Bool
  | dataRecvd => true
  | resetSent => true
  | _ => false

/-- Whether more data may be accepted. -/
def isWritable : SendState → Bool
  | ready => true
  | send => true
  | _ => false

theorem isTerminal_eq_false_of_isWritable {s : SendState} (h : s.isWritable = true) :
    s.isTerminal = false := by
  cases s <;> simp_all [isWritable, isTerminal]

end SendState

/-- The state of a receiving half. -/
inductive RecvState where
  /-- receiving, the end is not known -/
  | recv
  /-- the end is known, data may wait for the application -/
  | sizeKnown
  /-- the application has read to the end; terminal -/
  | dataRecvd
  /-- abandoned, by the peer or by us; terminal -/
  | resetRecvd
deriving DecidableEq, Repr

/-- Whether the half has ended. -/
def RecvState.isTerminal : RecvState → Bool
  | dataRecvd => true
  | resetRecvd => true
  | _ => false

/-- The states of both halves; a half that does not exist here has none. -/
structure StreamStatus where
  /-- state of the sending half -/
  send : Option SendState
  /-- state of the receiving half -/
  recv : Option RecvState
deriving DecidableEq, Repr

/-- Whether every half that exists has ended. -/
def StreamStatus.isTerminal (s : StreamStatus) : Bool :=
  s.send.all SendState.isTerminal && s.recv.all RecvState.isTerminal

end QuicHost
