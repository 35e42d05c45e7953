import Mathlib.Logic.Relation
import QuicHost.Proofs.Stream.Run

/-!
# Operations step by step

What the application and the peer do with streams is done in a few kinds of
step. Most steps are quiet: they leave the queue of streams that wait for credit
and the credit that they wait for alone, and they leave the number of streams
alone that the peer allows. The others are the write, the abandoned half, the
raised limits, and the end.

An operation is a chain of steps (`steps_perform`), and most operations are
chains of quiet ones. A property of all reachable sets of streams, such as the
number of live streams or the state of the queue, is therefore proved by looking
at one step at a time; the operations need not be taken apart again.
-/

namespace QuicHost

/-- The stream that an event calls writable. -/
def Event.writable? : Event → Option StreamId
  | .streamWritable id => some id
  | _ => none

/-- The direction in which an event says that streams may be opened. -/
def Event.available? : Event → Option Direction
  | .streamsAvailable d => some d
  | _ => none

namespace StreamSet

open Relation

/-- A step that leaves the queue of streams that wait for credit alone. -/
inductive Quiet (s : StreamSet) : StreamSet → Prop where
  /-- the application opened a stream -/
  | opened {d : Direction} {id : StreamId} : (s.openStream d).1 = .ok id →
    Quiet s (s.openStream d).2
  /-- the peer named a stream that is not gone -/
  | named {id : StreamId} {s' : StreamSet} : id.Fits → s.ensureOpen id = .ok (some s') → Quiet s s'
  /-- a receiving half changed -/
  | recv (id : StreamId) (h : RecvHalf) : Quiet s (s.setRecv id h)
  /-- the credit of the peer changed -/
  | recvWindow (w : RecvWindow) : Quiet s { s with recvWindow := w }
  /-- the application is told something, but neither that a stream is writable nor
  that streams may be opened -/
  | told {e : Event} : e.writable? = none → e.available? = none → Quiet s (s.emit e)
  /-- bytes were acknowledged -/
  | acked {id : StreamId} {h : SendHalf} (n : Nat) : s.sendHalf? id = some h →
    Quiet s (s.setSend id (h.acknowledge n))
  /-- a stream is removed if it is done -/
  | reaped (id : StreamId) : Quiet s (s.reap id)

/-- A chain of quiet steps. -/
abbrev Quietly : StreamSet → StreamSet → Prop := ReflTransGen Quiet

/-- Any step. -/
inductive Step (s : StreamSet) : StreamSet → Prop where
  /-- a quiet step -/
  | quiet {s' : StreamSet} : Quiet s s' → Step s s'
  /-- the application wrote -/
  | written (id : StreamId) (data : Bytes) (fin : Bool) : Step s (s.write id data fin).2
  /-- a sending half was abandoned -/
  | abandoned {id : StreamId} {h : SendHalf} : s.sendHalf? id = some h →
    h.state.isTerminal = false → Step s (s.abandonSend id h)
  /-- the limit of a stream was raised -/
  | raised (id : StreamId) (limit : Nat) : Step s (s.onMaxStreamData id limit)
  /-- the limit of the connection was raised -/
  | raisedAll (limit : Nat) : Step s (s.onMaxData limit)
  /-- the peer said how many streams may be open -/
  | allowed (d : Direction) (n : Nat) : Step s (s.onMaxStreams d n)
  /-- the handshake was completed -/
  | completed (peer : TransportParameters) : Step s (s.onHandshakeCompleted peer)
  /-- the events were taken -/
  | taken : Step s s.takeEvents.2
  /-- the end -/
  | frozen : Step s s.freeze

/-- A chain of steps. -/
abbrev Steps : StreamSet → StreamSet → Prop := ReflTransGen Step

/-- Quiet changes are steps. -/
theorem Quietly.steps {s s' : StreamSet} (h : s.Quietly s') : s.Steps s' :=
  ReflTransGen.mono (fun _ _ => Step.quiet) _ _ h

/-! ## Quiet operations

Operations that wake nobody and abandon no sending half: they open, keep and reap streams,
and tell of nothing that is about writing. Each is a chain of quiet steps, read off its
code. -/

section

variable {s : StreamSet}

theorem quietly_openStream (s : StreamSet) (d : Direction) : s.Quietly (s.openStream d).2 := by
  rcases s.openStream_eq d with ⟨e, heq⟩ | ⟨-, -, heq⟩
  · -- what is refused changes nothing
    rw [heq]
  · exact .single (.opened (congrArg Prod.fst heq))

/-- A change to a receiving half wakes nobody, also where the stream goes with it. -/
theorem quietly_reap_setRecv (s : StreamSet) (id : StreamId) (h : RecvHalf) (w : RecvWindow) :
    s.Quietly ({ s.setRecv id h with recvWindow := w }.reap id) :=
  ((ReflTransGen.single (.recv id h)).tail (.recvWindow w)).tail (.reaped id)

/-- A read wakes nobody. -/
theorem quietly_read (s : StreamSet) (id : StreamId) (maxLen : Nat) :
    s.Quietly (s.read id maxLen).2 := by
  rw [read]
  split
  · exact .refl
  split
  · exact .refl
  split
  · exact .refl
  next h _ =>
  simp only
  split
  · split
    · exact .refl
    · exact .single (.recv id _)
  split
  · exact .refl
  split
  · exact .refl
  · exact quietly_reap_setRecv s id _ _

/-- Stopping wakes nobody. -/
theorem quietly_stopSending (s : StreamSet) (id : StreamId) :
    s.Quietly (s.stopSending id).2 := by
  rw [stopSending]
  split
  · exact .refl
  split
  · exact .refl
  split
  · exact .refl
  split
  · exact .refl
  · exact quietly_reap_setRecv s id _ _

theorem quietly_countReceived {id : StreamId} {h : RecvHalf} {upTo : Nat}
    {r : Except TransportError RecvHalf} (hcount : s.countReceived id h upTo = (r, s')) :
    s.Quietly s' := by
  rcases countReceived_eq hcount with ⟨-, rfl⟩ | ⟨conn, rfl, -⟩
  · exact .refl
  · exact (ReflTransGen.single (.recv id _)).tail (.recvWindow conn)

theorem quietly_settleStopped (s : StreamSet) (id : StreamId) (h : RecvHalf) (upTo : Nat)
    (isFinal : Bool) : s.Quietly (s.settleStopped id h upTo isFinal).2 :=
  settleStopped_cases (P := fun r => s.Quietly r.2) (fun _ _ => .refl)
    (fun _ _ hcount => quietly_countReceived hcount)
    fun s' _ hcount => (quietly_countReceived hcount).trans (quietly_reap_setRecv s' id _ _)

/-- Telling things is quiet if each of them is. -/
theorem quietly_told (s : StreamSet) {es : List Event}
    (h : ∀ e ∈ es, e.writable? = none ∧ e.available? = none) :
    s.Quietly { s with events := s.events ++ es } := by
  induction es generalizing s with
  | nil => rw [List.append_nil]
  | cons e rest ih =>
    rw [List.forall_mem_cons] at h
    have hrest := ih (s.emit e) h.2
    rw [show (s.emit e).events = s.events ++ [e] from rfl, List.append_assoc] at hrest
    exact (ReflTransGen.single (.told h.1.1 h.1.2)).trans hrest

/-- Data for a live stream wakes nobody. -/
theorem quietly_takeData (s : StreamSet) (id : StreamId) (offset : Nat) (data : Bytes) (fin : Bool)
    (st : Stream) : s.Quietly (s.takeData id offset data fin st).2 := by
  refine takeData_cases (P := fun r => s.Quietly r.2) (fun _ => .refl) (fun _ _ _ => .refl)
    (fun h _ _ _ => quietly_settleStopped s id h _ fin) (fun _ _ _ _ => .refl)
    (fun _ _ _ _ _ hcount => quietly_countReceived hcount)
    (fun _ _ _ _ _ _ hcount _ => quietly_countReceived hcount)
    fun h s' added buffer _ _ _ hcount _ => ?_
  -- the half is filled, and up to two things are told
  refine ((quietly_countReceived hcount).tail (.recv id _)).trans
    (quietly_told (s'.setRecv id _) fun e he => ?_)
  rcases RecvHalf.mem_fillTells he with ⟨-, rfl⟩ | ⟨-, -, rfl⟩
  · exact ⟨rfl, rfl⟩
  · exact ⟨rfl, rfl⟩

/-- The end of the peer's half wakes nobody. -/
theorem quietly_takeReset (s : StreamSet) (id : StreamId) (errorCode finalSize : Nat)
    (st : Stream) : s.Quietly (s.takeReset id errorCode finalSize st).2 :=
  takeReset_cases (P := fun r => s.Quietly r.2) (fun _ => .refl)
    (fun h _ _ => quietly_settleStopped s id h finalSize true) (fun _ _ _ _ => .refl)
    (fun _ _ _ => .refl) (fun _ _ _ _ _ hcount => quietly_countReceived hcount)
    fun _ _ _ _ _ _ _ hcount => ((((quietly_countReceived hcount).tail (.recv id _)).tail
      (.recvWindow _)).tail (.told (e := .streamReset id errorCode) rfl rfl)).tail (.reaped id)

/-- Naming a stream is a quiet step. -/
theorem quietly_onNamed {α : Type} {ignored : α}
    {report : StreamSet → Stream → Except TransportError α × StreamSet}
    (hreport : ∀ (s : StreamSet) st, s.Quietly (report s st).2) {id : StreamId} (hid : id.Fits) :
    s.Quietly (s.onNamed id ignored report).2 :=
  onNamed_rel .refl (fun _ _ hopen => .single (.named hid hopen)) fun s' st _ hopen _ =>
    (ReflTransGen.single (.named hid hopen)).trans (hreport s' st)

theorem quietly_onStreamData {id : StreamId} (hid : id.Fits) (offset : Nat) (data : Bytes)
    (fin : Bool) : s.Quietly (s.onStreamData id offset data fin).2 :=
  quietly_onNamed (fun s st => quietly_takeData s id offset data fin st) hid

/-- A reset by the peer wakes nobody, whether it opens its stream or not. -/
theorem quietly_onStreamReset {id : StreamId} (hid : id.Fits) (errorCode finalSize : Nat) :
    s.Quietly (s.onStreamReset id errorCode finalSize).2 :=
  quietly_onNamed (fun s st => quietly_takeReset s id errorCode finalSize st) hid

/-- An acknowledgement may end a stream, and wakes nobody. -/
theorem quietly_onStreamAcked (s : StreamSet) (id : StreamId) (n : Nat) :
    s.Quietly (s.onStreamAcked id n) := by
  rw [onStreamAcked]
  split
  · exact .refl
  split
  · exact .refl
  · next h hsend => exact (ReflTransGen.single (.acked n hsend)).tail (.reaped id)

/-! ## The abandoned half

A sending half that is abandoned leaves the queue. This is the only way out of it but by
being woken. -/

/-- A sending half is abandoned between quiet steps. -/
inductive Abandons (id : StreamId) (s s' : StreamSet) : Prop where
  /-- what happens before and after -/
  | between {s₁ : StreamSet} {h : SendHalf} : s.Quietly s₁ → s₁.sendHalf? id = some h →
    h.state.isTerminal = false → (s₁.abandonSend id h).Quietly s' → Abandons id s s'

/-- A half that is abandoned leaves the queue, and the rest is quiet. -/
theorem Abandons.steps {id : StreamId} {s' : StreamSet} (h : s.Abandons id s') : s.Steps s' := by
  obtain ⟨hbefore, hsend, hlive, hafter⟩ := h
  exact (hbefore.steps.tail (.abandoned hsend hlive)).trans hafter.steps

theorem sendHalf?_of_get? {id : StreamId} {st : Stream} (hget : s.streams.get? id = some st) :
    s.sendHalf? id = st.send := by
  rw [sendHalf?, hget, Option.bind_some]

/-- Abandoning a sending half is refused quietly, or it takes the stream out of the queue. -/
theorem resetStream_steps (s : StreamSet) (id : StreamId) :
    s.Quietly (s.resetStream id).2 ∨
      (s.resetStream id).1 = .ok () ∧ s.Abandons id (s.resetStream id).2 := by
  rw [resetStream]
  split
  · exact .inl .refl
  split
  · exact .inl .refl
  next st hget =>
  split
  · exact .inl .refl
  next h hsend =>
  split
  · exact .inl .refl
  · next hlive =>
    rw [← sendHalf?_of_get? hget] at hsend
    exact .inr ⟨rfl, .between .refl hsend (Bool.eq_false_iff.2 hlive) (.single (.reaped id))⟩

/-- That the peer wants no more is quiet, or it takes the stream out of the queue. -/
theorem onStopSending_steps {id : StreamId} (hid : id.Fits) (errorCode : Nat) :
    s.Quietly (s.onStopSending id errorCode).2 ∨
      (s.onStopSending id errorCode).1 = .ok true ∧
        s.Abandons id (s.onStopSending id errorCode).2 := by
  refine onNamed_cases (P := fun r => s.Quietly r.2 ∨ r.1 = .ok true ∧ s.Abandons id r.2)
    (fun _ => .inl .refl) (fun _ _ _ => .inl .refl) (fun _ _ => .inl .refl)
    (fun s' _ hopen _ => .inl (.single (.named hid hopen))) fun s' st _ hopen hget => ?_
  have hnamed : s.Quietly s' := .single (.named hid hopen)
  refine takeStop_cases (P := fun r => s.Quietly r.2 ∨ r.1 = .ok true ∧ s.Abandons id r.2)
    (fun _ => .inl hnamed) (fun _ _ _ => .inl hnamed) fun h hsend hlive => ?_
  rw [← sendHalf?_of_get? hget] at hsend
  have htold :
      (s'.abandonSend id h).Quiet ((s'.abandonSend id h).emit (.stopSending id errorCode)) :=
    .told rfl rfl
  exact .inr ⟨rfl, .between hnamed hsend hlive ((ReflTransGen.single htold).tail (.reaped id))⟩

/-! ## All operations

Every operation is a chain of steps, so that an invariant of steps is one of runs. Here it
is used for the first of them: the streams are always orderly. -/

/-- Every operation is a chain of steps. -/
theorem steps_perform (s : StreamSet) {op : Operation} (hop : op.Fits) :
    s.Steps (s.perform op).2 := by
  cases op with
  | openStream d => exact (quietly_openStream s d).steps
  | write id data fin => exact .single (.written id data fin)
  | read id maxLen => exact (quietly_read s id maxLen).steps
  | resetStream id => exact (resetStream_steps s id).elim (·.steps) (·.2.steps)
  | stopSending id => exact (quietly_stopSending s id).steps
  | handshakeCompleted peer => exact .single (.completed peer)
  | streamData id offset data fin => exact (quietly_onStreamData hop offset data fin).steps
  | streamReset id errorCode finalSize =>
    exact (quietly_onStreamReset hop errorCode finalSize).steps
  | peerStop id errorCode => exact (onStopSending_steps hop errorCode).elim (·.steps) (·.2.steps)
  | maxStreamData id limit => exact .single (.raised id limit)
  | maxData limit => exact .single (.raisedAll limit)
  | maxStreams d n => exact .single (.allowed d n)
  | streamAcked id n => exact (quietly_onStreamAcked s id n).steps
  | takeEvents => exact .single .taken
  | freeze => exact .single .frozen

/-- Every run is a chain of steps. -/
theorem steps_after (s : StreamSet) {ops : List Operation} (hops : ∀ op ∈ ops, op.Fits) :
    s.Steps (s.after ops) := by
  induction ops generalizing s with
  | nil => exact .refl
  | cons op rest ih =>
    rw [List.forall_mem_cons] at hops
    exact (steps_perform s hops.1).trans (ih (s.perform op).2 hops.2)

end

/-! ## What steps leave

Every step leaves the streams orderly. Used identifiers stay used, and what is
gone never comes back. -/

/-- Time went by: streams were opened, and others are gone. -/
structure Ages (s s' : StreamSet) : Prop where
  side : s'.side = s.side
  localMax : s'.localMax = s.localMax
  localParams : s'.localParams = s.localParams
  /-- what was used stays used -/
  used : ∀ {id}, s.Used id → s'.Used id
  /-- what is gone stays gone -/
  gone : ∀ {id}, s.Used id → s.streams.get? id = none → s'.streams.get? id = none

section

variable {s s' s'' : StreamSet}

theorem Ages.refl (s : StreamSet) : s.Ages s := ⟨rfl, rfl, rfl, fun h => h, fun _ h => h⟩

/-- Identifiers once used stay used, so that the relation composes. -/
theorem Ages.trans (h : s.Ages s') (h' : s'.Ages s'') : s.Ages s'' where
  side := h'.side.trans h.side
  localMax := h'.localMax.trans h.localMax
  localParams := h'.localParams.trans h.localParams
  used hused := h'.used (h.used hused)
  gone hused hnone := h'.gone (h.used hused) (h.gone hused hnone)

/-- A set that opens streams uses identifiers, and gives none back. -/
theorem Opens.ages (h : s.Opens s') : s.Ages s' where
  side := h.side
  localMax := h.limits.2
  localParams := h.localParams
  used := h.used
  gone hused hnone := by rw [h.old hused, hnone]

/-- Where no stream is opened, the counters are what they were. -/
theorem Keeps.ages (h : s.Keeps s') : s.Ages s' where
  side := h.side
  localMax := h.localMax
  localParams := h.localParams
  used hused := (h.used_iff _).2 hused
  gone {id} _ hnone := by
    rcases hget : s'.streams.get? id with _ | st
    · rfl
    · obtain ⟨st', hget'⟩ := h.live hget
      rw [hnone] at hget'
      cases hget'

/-- The peer's parameters come into force, and no stream comes or goes. -/
theorem ages_raise (s : StreamSet) (peer : TransportParameters) : s.Ages (s.raise peer) where
  side := rfl
  localMax := rfl
  localParams := rfl
  used hused := hused
  gone _ hnone := by
    rw [raise, Table.get?_map, hnone]
    rfl

/-- The completed handshake opens no stream. -/
theorem ages_onHandshakeCompleted (s : StreamSet) (peer : TransportParameters) :
    s.Ages (s.onHandshakeCompleted peer) := by
  by_cases hfrozen : s.frozen = true
  · rw [onHandshakeCompleted, if_pos hfrozen]
    exact .refl s
  · exact (ages_raise s peer).trans
      (keeps_onHandshakeCompleted (Bool.eq_false_iff.2 hfrozen) peer).1.ages

/-- A write neither opens nor removes a stream. -/
theorem keeps_write (s : StreamSet) (id : StreamId) (data : Bytes) (fin : Bool) :
    s.Keeps (s.write id data fin).2 := by
  rw [write]
  split
  · exact .refl s
  next h _ =>
  simp only
  have hparked (short : Prop) [Decidable short] : s.Keeps (if short then s.park id h else s) := by
    split
    · exact keeps_park s id h
    · exact .refl s
  split
  · exact hparked _
  · exact ((hparked _).trans (keeps_setSend _ id _)).trans (keeps_sendWindow _ _)

/-- A limit for one stream neither opens nor removes a stream. -/
theorem keeps_onMaxStreamData (s : StreamSet) (id : StreamId) (limit : Nat) :
    s.Keeps (s.onMaxStreamData id limit) := by
  rw [onMaxStreamData]
  split
  · exact .refl s
  split
  · exact .refl s
  split
  · exact .refl s
  simp only
  split
  · exact ((keeps_setSend s id _).trans (keeps_unpark _ id)).trans (keeps_emit _ _)
  · exact keeps_setSend s id _

/-- A limit for the connection neither opens nor removes a stream. -/
theorem keeps_onMaxData (s : StreamSet) (limit : Nat) : s.Keeps (s.onMaxData limit) := by
  rw [onMaxData]
  split
  · exact .refl s
  · exact (keeps_sendWindow s _).trans (keeps_wakeParked _)

theorem keeps_onMaxStreams (s : StreamSet) (d : Direction) (n : Nat) :
    s.Keeps (s.onMaxStreams d n) := by
  rw [onMaxStreams]
  split
  · exact .refl s
  · exact keeps_raisePeerMax s d n

theorem Keeps.orderly_ages (h : s.Keeps s') (hs : s.Orderly) : s'.Orderly ∧ s.Ages s' :=
  ⟨h.orderly hs, h.ages⟩

theorem Opens.orderly_ages (h : s.Opens s') : s'.Orderly ∧ s.Ages s' := ⟨h.orderly, h.ages⟩

/-- A quiet change opens, keeps or reaps, and each leaves the streams orderly. -/
theorem Quiet.orderly (hs : s.Orderly) (h : s.Quiet s') : s'.Orderly ∧ s.Ages s' := by
  cases h with
  | opened _ => exact (opens_openStream hs _).orderly_ages
  | named hid hopen => exact (opens_of_ensureOpen hs hid hopen).orderly_ages
  | recv id h => exact (keeps_setRecv s id h).orderly_ages hs
  | recvWindow w => exact (keeps_recvWindow s w).orderly_ages hs
  | told _ _ => exact (keeps_emit s _).orderly_ages hs
  | acked n _ => exact (keeps_setSend s _ _).orderly_ages hs
  | reaped id => exact (keeps_reap s id).orderly_ages hs

/-- One step leaves the streams orderly. -/
theorem Step.orderly (hs : s.Orderly) (h : s.Step s') : s'.Orderly ∧ s.Ages s' := by
  cases h with
  | quiet h => exact h.orderly hs
  | written id data fin => exact (keeps_write s id data fin).orderly_ages hs
  | abandoned _ _ => exact (keeps_abandonSend s _ _).orderly_ages hs
  | raised id limit => exact (keeps_onMaxStreamData s id limit).orderly_ages hs
  | raisedAll limit => exact (keeps_onMaxData s limit).orderly_ages hs
  | allowed d n => exact (keeps_onMaxStreams s d n).orderly_ages hs
  | completed peer =>
    exact ⟨(setup_onHandshakeCompleted hs peer).1, ages_onHandshakeCompleted s peer⟩
  | taken => exact (keeps_takeEvents s).orderly_ages hs
  | frozen =>
    exact ⟨orderly_freeze hs, ⟨rfl, rfl, rfl, fun hused => hused, fun _ hnone => hnone⟩⟩

/-- Any number of steps leave the streams orderly, by induction on them. -/
theorem Steps.orderly (hs : s.Orderly) (h : s.Steps s') : s'.Orderly ∧ s.Ages s' := by
  induction h with
  | refl => exact ⟨hs, .refl s⟩
  | tail _ hstep ih =>
    obtain ⟨hmid, hages⟩ := ih
    obtain ⟨hlast, hages'⟩ := hstep.orderly hmid
    exact ⟨hlast, hages.trans hages'⟩

end

end StreamSet

end QuicHost
