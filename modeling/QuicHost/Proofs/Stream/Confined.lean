import QuicHost.Proofs.Stream.Histories

/-!
# What operations on streams do not do

No operation on streams but `freeze` stops everything, and none but
`onHandshakeCompleted` learns the peer's parameters. What operations tell is
about streams, and what they refuse of the peer is a violation of the protocol.
All this holds of any streams whatsoever, so that a connection may rely on it
without knowing how it got them.

There is one lemma for each operation and one for each part that operations share,
proved by following the definitions. An operation that opens the stream it is about goes
through `confined_onNamed`, which takes what it does with the stream that it finds.
-/

namespace QuicHost

/-- Whether an event is about streams, rather than about the connection. -/
def Event.isStreams : Event → Bool
  | streamsAvailable _ => true
  | e => e.streamId?.isSome

/-- Whether an error is a violation of the protocol. -/
def TransportError.IsViolation (e : TransportError) : Prop := ∃ code, e = .protocolViolation code

namespace StreamSet

/-- What happens between `s` and `s'` is confined to the streams: neither side
learns anything new of the other, nothing stops or goes on again, and what is told
is about streams. -/
structure Confined (s s' : StreamSet) : Prop extends SameSetup s s' where
  told : ∀ e ∈ s'.events, e ∈ s.events ∨ e.isStreams = true

section

variable {s s' s'' : StreamSet} {id : StreamId}

theorem Confined.refl (s : StreamSet) : s.Confined s := ⟨.refl s, fun _ he => .inl he⟩

/-- What is told on the way is about streams if it is so in each part. -/
theorem Confined.trans (h : s.Confined s') (h' : s'.Confined s'') : s.Confined s'' where
  toSameSetup := h.toSameSetup.trans h'.toSameSetup
  told e he := by
    rcases h'.told e he with he | hstreams
    · exact h.told e he
    · exact .inr hstreams

/-- It is enough that the setup stays and that what is added is about streams. -/
theorem confined_of_events {es : List Event} (h : s.SameSetup s')
    (hevents : s'.events = s.events ++ es) (hes : ∀ e ∈ es, e.isStreams = true) :
    s.Confined s' where
  toSameSetup := h
  told e he := by
    rw [hevents] at he
    rcases List.mem_append.1 he with he | he
    · exact .inl he
    · exact .inr (hes e he)

/-- A change that tells nothing is confined as soon as the setup stays. -/
theorem confined_of_eq (h : s.SameSetup s') (hevents : s'.events = s.events) : s.Confined s' :=
  ⟨h, fun _ he => .inl (hevents ▸ he)⟩

/-! ## The steps that operations are made of

Every elementary step is confined. Most tell nothing; the others tell of a stream that was
opened, woken or removed, or that there is room for one. -/

theorem confined_setSend (s : StreamSet) (id : StreamId) (h : SendHalf) :
    s.Confined (s.setSend id h) :=
  confined_of_eq (keeps_setSend s id h).toSameSetup rfl

theorem confined_setRecv (s : StreamSet) (id : StreamId) (h : RecvHalf) :
    s.Confined (s.setRecv id h) :=
  confined_of_eq (keeps_setRecv s id h).toSameSetup rfl

theorem confined_recvWindow (s : StreamSet) (w : RecvWindow) :
    s.Confined { s with recvWindow := w } :=
  confined_of_eq (keeps_recvWindow s w).toSameSetup rfl

theorem confined_emit (s : StreamSet) {e : Event} (he : e.isStreams = true) :
    s.Confined (s.emit e) :=
  confined_of_events (keeps_emit s e).toSameSetup rfl fun _ hmem => List.mem_singleton.1 hmem ▸ he

theorem confined_abandonSend (s : StreamSet) (id : StreamId) (h : SendHalf) :
    s.Confined (s.abandonSend id h) :=
  confined_of_eq (keeps_abandonSend s id h).toSameSetup (events_abandonSend s id h)

/-- What is told of the end of a stream is about that stream. -/
theorem confined_reap (s : StreamSet) (id : StreamId) : s.Confined (s.reap id) := by
  refine confined_of_events (keeps_reap s id).toSameSetup (events_reap s id) fun e he => ?_
  rcases s.farewell_eq id with hnil | ⟨-, -, es, heq, havailable⟩
  · rw [hnil] at he
    cases he
  rw [heq] at he
  rcases List.mem_append.1 he with he | he
  · obtain rfl := havailable e he
    rfl
  · obtain rfl := List.mem_singleton.1 he
    rfl

theorem confined_wakeParked (s : StreamSet) : s.Confined s.wakeParked := by
  refine confined_of_events (keeps_wakeParked s).toSameSetup (events_wakeParked s) fun e he => ?_
  obtain ⟨id, -, rfl⟩ := List.mem_map.1 he
  rfl

/-- That streams can be opened counts as news about streams. -/
theorem confined_raisePeerMax (s : StreamSet) (d : Direction) (n : Nat) :
    s.Confined (s.raisePeerMax d n) := by
  obtain ⟨es, hstirs⟩ := s.stirs_raisePeerMax d n
  refine confined_of_events (keeps_raisePeerMax s d n).toSameSetup hstirs.events fun e he => ?_
  rcases hstirs.told e he with ⟨_, rfl⟩ | ⟨_, _, rfl, -, -⟩
  · rfl
  · rfl

/-- Each stream that the peer opens is told of. -/
theorem confined_ensureOpen (h : s.ensureOpen id = .ok (some s')) : s.Confined s' := by
  rcases ensureOpen_eq_some h with ⟨-, rfl⟩ | ⟨_, _, _, -, -, -, -, -, -, hadds, rfl⟩
  · exact .refl s'
  · obtain ⟨heard, hevents⟩ := hadds.told
    obtain ⟨hside, hlocal, hpeer, hfrozen⟩ := hadds.toSameSetup
    refine confined_of_events ⟨hside, hlocal, hpeer, hfrozen⟩ hevents fun e he => ?_
    obtain ⟨id', -, rfl⟩ := List.mem_map.1 he
    rfl

theorem confined_countReceived {h : RecvHalf} {upTo : Nat} {r : Except TransportError RecvHalf}
    (hcount : s.countReceived id h upTo = (r, s')) : s.Confined s' := by
  rcases countReceived_eq hcount with ⟨-, rfl⟩ | ⟨conn, rfl, -⟩
  · exact .refl s'
  · exact (confined_setRecv s id _).trans (confined_recvWindow _ conn)

/-! ## What the application does

A call is a chain of confined steps, whatever its guards decide. -/

theorem confined_openStream (s : StreamSet) (d : Direction) : s.Confined (s.openStream d).2 := by
  rcases s.openStream_eq d with ⟨e, heq⟩ | ⟨-, -, heq⟩
  · rw [heq]
    exact .refl s
  · rw [heq]
    exact confined_of_eq ⟨rfl, rfl, rfl, rfl⟩ rfl

/-- A write tells nothing. -/
theorem confined_write (s : StreamSet) (id : StreamId) (data : Bytes) (fin : Bool) :
    s.Confined (s.write id data fin).2 := by
  refine confined_of_eq (keeps_write s id data fin).toSameSetup ?_
  rw [write]
  split
  · rfl
  next h _ =>
  have hparked (short : Prop) [Decidable short] :
      (if short then s.park id h else s).events = s.events := by
    rw [park]
    split_ifs <;> rfl
  simp only
  split
  · exact hparked _
  · exact hparked _

/-- A read tells at most of the end of its stream. -/
theorem confined_read (s : StreamSet) (id : StreamId) (maxLen : Nat) :
    s.Confined (s.read id maxLen).2 := by
  rw [read]
  split
  · exact .refl s
  split
  · exact .refl s
  split
  · exact .refl s
  simp only
  split
  · split
    · exact .refl s
    · exact confined_setRecv s id _
  split
  · exact .refl s
  split
  · exact .refl s
  · exact ((confined_setRecv s id _).trans (confined_recvWindow _ _)).trans (confined_reap _ id)

/-- Abandoning a sending half tells at most of the end of its stream. -/
theorem confined_resetStream (s : StreamSet) (id : StreamId) :
    s.Confined (s.resetStream id).2 := by
  rw [resetStream]
  split
  · exact .refl s
  split
  · exact .refl s
  split
  · exact .refl s
  split
  · exact .refl s
  · exact (confined_abandonSend s id _).trans (confined_reap _ id)

/-- Abandoning a receiving half tells at most of the end of its stream. -/
theorem confined_stopSending (s : StreamSet) (id : StreamId) :
    s.Confined (s.stopSending id).2 := by
  rw [stopSending]
  split
  · exact .refl s
  split
  · exact .refl s
  split
  · exact .refl s
  split
  · exact .refl s
  · exact ((confined_setRecv s id _).trans (confined_recvWindow _ _)).trans (confined_reap _ id)

/-! ## What the peer does

So is a report. The three reports that name a stream are taken apart by `onNamed_rel`: if
ignoring, refusing and opening are confined, the report is, as soon as the rest of it is. -/

theorem confined_settleStopped (s : StreamSet) (id : StreamId) (h : RecvHalf) (upTo : Nat)
    (isFinal : Bool) : s.Confined (s.settleStopped id h upTo isFinal).2 :=
  settleStopped_cases (P := fun r => s.Confined r.2) (fun _ _ => .refl s)
    (fun _ _ hcount => confined_countReceived hcount)
    fun _ _ hcount => (((confined_countReceived hcount).trans (confined_setRecv _ id _)).trans
      (confined_recvWindow _ _)).trans (confined_reap _ id)

/-- Data for a live stream tells that it can be read. -/
theorem confined_takeData (s : StreamSet) (id : StreamId) (offset : Nat) (data : Bytes)
    (fin : Bool) (st : Stream) : s.Confined (s.takeData id offset data fin st).2 := by
  refine takeData_cases (P := fun r => s.Confined r.2) (fun _ => .refl s) (fun _ _ _ => .refl s)
    (fun h _ _ _ => confined_settleStopped s id h _ fin) (fun _ _ _ _ => .refl s)
    (fun _ _ _ _ _ hcount => confined_countReceived hcount)
    (fun _ _ _ _ _ _ hcount _ => confined_countReceived hcount)
    fun h s' added buffer _ _ _ hcount _ => ?_
  refine (confined_countReceived hcount).trans
    (confined_of_events ⟨rfl, rfl, rfl, rfl⟩ rfl fun e he => ?_)
  rcases RecvHalf.mem_fillTells he with ⟨-, rfl⟩ | ⟨-, -, rfl⟩
  · rfl
  · rfl

/-- The end of the peer's half is told of on its stream. -/
theorem confined_takeReset (s : StreamSet) (id : StreamId) (errorCode finalSize : Nat)
    (st : Stream) : s.Confined (s.takeReset id errorCode finalSize st).2 :=
  takeReset_cases (P := fun r => s.Confined r.2) (fun _ => .refl s)
    (fun h _ _ => confined_settleStopped s id h finalSize true) (fun _ _ _ _ => .refl s)
    (fun _ _ _ => .refl s) (fun _ _ _ _ _ hcount => confined_countReceived hcount)
    fun _ _ _ _ _ _ _ hcount => ((((confined_countReceived hcount).trans
      (confined_setRecv _ id _)).trans (confined_recvWindow _ _)).trans
        (confined_emit _ rfl)).trans (confined_reap _ id)

theorem confined_takeStop (s : StreamSet) (id : StreamId) (errorCode : Nat) (st : Stream) :
    s.Confined (s.takeStop id errorCode st).2 :=
  takeStop_cases (P := fun r => s.Confined r.2) (fun _ => .refl s) (fun _ _ _ => .refl s)
    fun h _ _ => ((confined_abandonSend s id h).trans (confined_emit _ rfl)).trans
      (confined_reap _ id)

/-- What a report does is confined if it is so on a live stream. -/
theorem confined_onNamed {α : Type} {ignored : α}
    {report : StreamSet → Stream → Except TransportError α × StreamSet}
    (hreport : ∀ (s : StreamSet) st, s.Confined (report s st).2) (s : StreamSet) (id : StreamId) :
    s.Confined (s.onNamed id ignored report).2 :=
  onNamed_rel (.refl s) (fun _ _ hopen => confined_ensureOpen hopen) fun s' st _ hopen _ =>
    (confined_ensureOpen hopen).trans (hreport s' st)

theorem confined_onStreamData (s : StreamSet) (id : StreamId) (offset : Nat) (data : Bytes)
    (fin : Bool) : s.Confined (s.onStreamData id offset data fin).2 :=
  confined_onNamed (fun s st => confined_takeData s id offset data fin st) s id

/-- A reset by the peer is confined to the streams, those it opens included. -/
theorem confined_onStreamReset (s : StreamSet) (id : StreamId) (errorCode finalSize : Nat) :
    s.Confined (s.onStreamReset id errorCode finalSize).2 :=
  confined_onNamed (fun s st => confined_takeReset s id errorCode finalSize st) s id

/-- A request to stop is confined to the streams, those it opens included. -/
theorem confined_onStopSending (s : StreamSet) (id : StreamId) (errorCode : Nat) :
    s.Confined (s.onStopSending id errorCode).2 :=
  confined_onNamed (fun s st => confined_takeStop s id errorCode st) s id

/-- A limit for one stream is confined to the streams. -/
theorem confined_onMaxStreamData (s : StreamSet) (id : StreamId) (limit : Nat) :
    s.Confined (s.onMaxStreamData id limit) := by
  obtain ⟨es, hstirs⟩ := s.stirs_onMaxStreamData id limit
  refine confined_of_events (keeps_onMaxStreamData s id limit).toSameSetup hstirs.events
    fun e he => ?_
  rcases hstirs.told e he with ⟨_, rfl⟩ | ⟨_, _, rfl, -, -⟩
  · rfl
  · rfl

/-- A limit for the connection is confined to the streams: it tells of those it wakes. -/
theorem confined_onMaxData (s : StreamSet) (limit : Nat) : s.Confined (s.onMaxData limit) := by
  rw [onMaxData]
  split
  · exact .refl s
  · exact (confined_of_eq (keeps_sendWindow s (s.sendWindow.extend limit)).toSameSetup rfl).trans
      (confined_wakeParked _)

theorem confined_onMaxStreams (s : StreamSet) (d : Direction) (n : Nat) :
    s.Confined (s.onMaxStreams d n) := by
  rw [onMaxStreams]
  split
  · exact .refl s
  · exact confined_raisePeerMax s d n

/-- An acknowledgement is confined to the streams. -/
theorem confined_onStreamAcked (s : StreamSet) (id : StreamId) (n : Nat) :
    s.Confined (s.onStreamAcked id n) := by
  rw [onStreamAcked]
  split
  · exact .refl s
  split
  · exact .refl s
  · exact (confined_setSend s id _).trans (confined_reap _ id)

/-- The peer's parameters come into force, and nothing else is not confined to the
streams. -/
theorem confined_onHandshakeCompleted (hfrozen : s.frozen = false) (peer : TransportParameters) :
    { s with peerParams := some peer }.Confined (s.onHandshakeCompleted peer) := by
  rw [onHandshakeCompleted, if_neg (Bool.eq_false_iff.1 hfrozen)]
  have hraise : { s with peerParams := some peer }.Confined (s.raise peer) :=
    confined_of_eq ⟨rfl, rfl, rfl, rfl⟩ rfl
  exact ((hraise.trans (confined_raisePeerMax _ .bidi _)).trans
    (confined_raisePeerMax _ .uni _)).trans (confined_wakeParked _)

/-! ## What is refused of the peer

Every error of a report is a violation of the protocol, so that the connection has no
other failure to expect from its streams. -/

/-- A report is refused for a violation. -/
theorem RefusedFor.isViolation {e : TransportError} (h : s.RefusedFor id e) : e.IsViolation := by
  obtain ⟨code, rfl⟩ := h.violation
  exact ⟨_, rfl⟩

end

end StreamSet

end QuicHost
