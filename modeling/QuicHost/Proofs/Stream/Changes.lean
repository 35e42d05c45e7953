import Mathlib.Logic.Relation
import QuicHost.Proofs.Stream.Run

/-!
# How halves change

Whatever is done with a set of streams, refused or not, each half of a stream
changes in a few ways only. `SendHalf.Change` and `RecvHalf.Change` list them, each
with what is known of the half when it happens. Between two moments of a run a half
that is there at the end has gone through a chain of such changes
(`changes_perform`, `changes_after`), and it began as a fresh one
(`exists_changes_of_send`, `exists_changes_of_recv`).

So what holds of fresh halves and is kept by each change holds of all halves at all
times, and nobody has to look at operations for it.

One change depends on what the engine reports: a sum of acknowledged bytes may be too
large for a word, and then it begins at zero again. The changes of a sending half carry
a proposition `fits` under which this does not happen on its stream, so that what needs
exact sums can be said under `fits`.
-/

namespace QuicHost

open Relation

/-! ## Changes of one half

The primitive changes of either half. They say what the code does to a half at one place,
under the guard that stands there; what follows about states is proved from them
elsewhere. -/

/-- Whether `n` more acknowledged bytes leave the sum within a word. -/
def SendHalf.CanCount (h : SendHalf) (n : Nat) : Prop := h.buffer.acked + n ≤ maxWord

instance (h : SendHalf) (n : Nat) : Decidable (h.CanCount n) :=
  inferInstanceAs (Decidable (_ ≤ maxWord))

/-- The ways in which a sending half changes. -/
inductive SendHalf.Change (fits : Prop) (h : SendHalf) : SendHalf → Prop where
  /-- bytes were accepted, and the end behind them if `fin` -/
  | accepted (n : Nat) (fin : Bool) : h.state.isWritable = true → Change fits h (h.accept n fin)
  /-- the half was abandoned -/
  | abandoned : h.state.isTerminal = false → Change fits h h.abandon
  /-- bytes were acknowledged -/
  | acknowledged (n : Nat) : (fits → h.CanCount n) → Change fits h (h.acknowledge n)
  /-- the credit is another -/
  | credited (w : SendWindow) : Change fits h { h with window := w }

/-- The ways in which a receiving half changes. -/
inductive RecvHalf.Change (h : RecvHalf) : RecvHalf → Prop where
  /-- bytes were counted, or more are granted -/
  | credited (w : RecvWindow) : Change h { h with window := w }
  /-- bytes were read -/
  | taken (n : Nat) : h.isWaiting = false → Change h (h.take n).2
  /-- we asked the peer to stop -/
  | stopped : h.state.isTerminal = false → Change h h.stop
  /-- bytes were counted after we asked the peer to stop -/
  | settled (upTo : Nat) (isFinal : Bool) : h.stopped = true → Change h (h.settle upTo isFinal)
  /-- the peer abandoned its half -/
  | closed (finalSize : Nat) : h.stopped = false → h.state.isTerminal = false →
    Change h (h.close finalSize)
  /-- data went into the buffer -/
  | filled {offset added : Nat} {data : Bytes} {fin : Bool} {buffer : RecvBuffer} :
    h.stopped = false → h.state.isTerminal = false →
    h.buffer.insert offset data fin = .ok (added, buffer) → Change h (h.fill buffer fin)

/-! ## Changes of a view

Every half that is seen afterwards comes of the one that was seen before, by any number of
changes. Streams that go leave nothing to be seen. -/

namespace View

/-- Every half of `v'` came of the same half of `v`. -/
structure Changes (fits : StreamId → Prop) (v v' : View) : Prop where
  /-- a sending half changes by any number of steps, or not -/
  send : ∀ {id h'}, v'.send id = some h' →
    ∃ h, v.send id = some h ∧ ReflTransGen (SendHalf.Change (fits id)) h h'
  /-- and so does a receiving half -/
  recv : ∀ {id h'}, v'.recv id = some h' →
    ∃ h, v.recv id = some h ∧ ReflTransGen RecvHalf.Change h h'

section

variable {fits : StreamId → Prop} {v v' v'' : View} {id : StreamId}

theorem changes_of_eq (hsend : v'.send = v.send) (hrecv : v'.recv = v.recv) :
    v.Changes fits v' where
  send hafter := ⟨_, hsend ▸ hafter, .refl⟩
  recv hafter := ⟨_, hrecv ▸ hafter, .refl⟩

theorem Changes.refl (fits : StreamId → Prop) (v : View) : v.Changes fits v := changes_of_eq rfl rfl

/-- Changes on changes. -/
theorem Changes.trans (h : v.Changes fits v') (h' : v'.Changes fits v'') : v.Changes fits v'' where
  send hafter := by
    obtain ⟨half', hmid, hlater⟩ := h'.send hafter
    obtain ⟨half, hbefore, hearlier⟩ := h.send hmid
    exact ⟨half, hbefore, hearlier.trans hlater⟩
  recv hafter := by
    obtain ⟨half', hmid, hlater⟩ := h'.recv hafter
    obtain ⟨half, hbefore, hearlier⟩ := h.recv hmid
    exact ⟨half, hbefore, hearlier.trans hlater⟩

/-- A change to the windows of the connection alone can come first. -/
theorem Changes.of_eq (h : v'.Changes fits v'') (hsend : v'.send = v.send)
    (hrecv : v'.recv = v.recv) : v.Changes fits v'' :=
  (changes_of_eq hsend hrecv).trans h

/-- A half that came of the one before is put in place of what has become of that
meanwhile. -/
theorem Changes.setSend (hc : v.Changes fits v') {h h' : SendHalf} (hsend : v.send id = some h)
    (hchange : ReflTransGen (SendHalf.Change (fits id)) h h') :
    v.Changes fits (v'.setSend id h') where
  send hafter := by
    rw [send_setSend] at hafter
    split at hafter
    · next heq =>
      subst heq
      obtain rfl := Option.some.inj hafter
      exact ⟨h, hsend, hchange⟩
    · exact hc.send hafter
  recv hafter := hc.recv hafter

/-- One more half may change. -/
theorem Changes.setRecv (hc : v.Changes fits v') {h h' : RecvHalf} (hrecv : v.recv id = some h)
    (hchange : ReflTransGen RecvHalf.Change h h') : v.Changes fits (v'.setRecv id h') where
  send hafter := hc.send hafter
  recv hafter := by
    rw [recv_setRecv] at hafter
    split at hafter
    · next heq =>
      obtain rfl := Option.some.inj hafter
      exact ⟨h, heq ▸ hrecv, hchange⟩
    · exact hc.recv hafter

theorem Reaped.changes (h : v.Reaped id v') : v.Changes fits v' where
  send hafter := ⟨_, h.sparesSend.send_eq hafter, .refl⟩
  recv hafter := ⟨_, h.sparesRecv.recv_eq hafter, .refl⟩

/-! ### Calls

What the application does changes the halves of one stream. -/

/-- A write lets its half accept. -/
theorem Write.changes {data : Bytes} {fin : Bool} {r : Except CallError WriteOutcome}
    (h : v.Write id data fin r v') : v.Changes fits v' := by
  cases h with
  | refused e => exact .refl fits v
  | @accepted h n hsend hwritable _ =>
    have hset := (Changes.refl fits v).setSend hsend
      (.single (.accepted n (fin && decide (n = data.length)) hwritable))
    exact hset.trans (changes_of_eq rfl rfl)

/-- A read takes from the buffer and gives credit back. -/
theorem Read.changes {frozen : Bool} {maxLen : Nat} {r : Except CallError ReadOutcome}
    (h : v.Read frozen id maxLen r v') : v.Changes fits v' := by
  cases h with
  | refused e => exact .refl fits v
  | left _ hrecv hwaiting =>
    exact (Changes.refl fits v).setRecv hrecv (.single (.taken maxLen hwaiting))
  | @taken h _ _ hrecv _ hwaiting hreaped =>
    have hset := (Changes.refl fits v).setRecv hrecv
      ((ReflTransGen.single (.taken maxLen hwaiting)).tail
        (.credited ((h.take maxLen).2.window.read (h.take maxLen).1.data.length)))
    exact hset.trans (hreaped.changes.of_eq rfl rfl)

theorem Reset.changes {r : Except CallError Unit} (h : v.Reset id r v') : v.Changes fits v' := by
  cases h with
  | refused e => exact .refl fits v
  | abandoned hsend hlive hreaped =>
    exact ((Changes.refl fits v).setSend hsend (.single (.abandoned hlive))).trans hreaped.changes

theorem Stop.changes {r : Except CallError Nat} (h : v.Stop id r v') : v.Changes fits v' := by
  cases h with
  | refused e => exact .refl fits v
  | abandoned hrecv hlive hreaped =>
    have hset := (Changes.refl fits v).setRecv hrecv (.single (.stopped hlive))
    exact hset.trans (hreaped.changes.of_eq rfl rfl)

/-! ### Reports

What the peer does changes the halves of one stream. Only an acknowledgement asks for a
condition, under which its sum is still a word. -/

/-- Counting changes credit, also when it fails halfway. -/
theorem Count.changes {h : RecvHalf} (hrecv : v.recv id = some h) {upTo : Nat}
    {r : Except TransportError RecvHalf} (hc : v.Count id h upTo r v') : v.Changes fits v' := by
  have hset := (Changes.refl fits v).setRecv hrecv (.single (.credited (h.reach upTo).window))
  cases hc with
  | beyondStream _ => exact .refl fits v
  | beyondConnection _ _ => exact hset
  | counted _ _ => exact hset.trans (changes_of_eq rfl rfl)

/-- Counting on a stopped stream is a change of credit and one of settling. -/
theorem Settle.changes {h : RecvHalf} (hrecv : v.recv id = some h) (hstopped : h.stopped = true)
    {upTo : Nat} {isFinal : Bool} {r : Except TransportError Nat}
    (hs : v.Settle id h upTo isFinal r v') : v.Changes fits v' := by
  cases hs with
  | misplaced _ _ => exact .refl fits v
  | overrun hcount => exact hcount.changes hrecv
  | settled _ hcount hreaped =>
    have hcounted : v.Changes fits _ := hcount.changes hrecv
    have hset := hcounted.setRecv hrecv (.single (.settled upTo isFinal hstopped))
    exact hset.trans (hreaped.changes.of_eq rfl rfl)

/-- Data changes the credit of its half, and fills or settles it. -/
theorem Data.changes {frozen fin : Bool} {offset : Nat} {data : Bytes}
    {r : Except TransportError Nat} (h : v.Data frozen id offset data fin r v') :
    v.Changes fits v' := by
  cases h with
  | ignored _ => exact .refl fits v
  | refused _ _ => exact .refl fits v
  | unsized _ _ => exact .refl fits v
  | settled _ hrecv _ hstopped hsettle => exact hsettle.changes hrecv hstopped
  | overrun hrecv hcount => exact hcount.changes hrecv
  | misfit hrecv hcount _ _ => exact hcount.changes hrecv
  | @filled h _ _ _ _ hrecv hstopped hlive hcount hinsert =>
    -- what is counted is no part of the buffer
    have hfilled : (h.reach (offset + data.length)).Change _ :=
      .filled hstopped hlive hinsert
    exact (hcount.changes hrecv).setRecv hrecv ((ReflTransGen.single (.credited _)).tail hfilled)

/-- The end of the peer's half changes its credit, and closes or settles it. -/
theorem PeerReset.changes {frozen : Bool} {finalSize : Nat} {r : Except TransportError Nat}
    (h : v.PeerReset frozen id finalSize r v') : v.Changes fits v' := by
  cases h with
  | ignored _ => exact .refl fits v
  | refused _ _ => exact .refl fits v
  | settled _ hrecv hstopped hsettle => exact hsettle.changes hrecv hstopped
  | misplaced _ _ => exact .refl fits v
  | overrun hrecv hcount => exact hcount.changes hrecv
  | ended _ hrecv hstopped hlive _ _ hcount hreaped =>
    have hcounted : v.Changes fits _ := hcount.changes hrecv
    have hset := hcounted.setRecv hrecv (.single (.closed finalSize hstopped hlive))
    exact hset.trans (hreaped.changes.of_eq rfl rfl)

/-- That the peer wants no more abandons our half. -/
theorem PeerStop.changes {r : Except TransportError Bool} (h : v.PeerStop id r v') :
    v.Changes fits v' := by
  cases h with
  | ignored => exact .refl fits v
  | refused _ => exact .refl fits v
  | abandoned hsend hlive hreaped =>
    exact ((Changes.refl fits v).setSend hsend (.single (.abandoned hlive))).trans hreaped.changes

theorem Raise.changes {limit : Nat} (h : v.Raise id limit v') : v.Changes fits v' := by
  cases h with
  | stale => exact .refl fits v
  | @raised h hsend _ =>
    exact (Changes.refl fits v).setSend hsend (.single (.credited (h.window.extend limit)))

theorem RaiseAll.changes {limit : Nat} (h : v.RaiseAll limit v') : v.Changes fits v' := by
  cases h <;> exact changes_of_eq rfl rfl

/-- An acknowledgement is a change of its half; that its sum fits is asked only where it is
to matter. -/
theorem Acked.changes {n : Nat} (hfits : ∀ h, v.send id = some h → fits id → h.CanCount n)
    (h : v.Acked id n v') : v.Changes fits v' := by
  cases h with
  | ignored => exact .refl fits v
  | counted hsend hreaped =>
    have hset := (Changes.refl fits v).setSend hsend (.single (.acknowledged n (hfits _ hsend)))
    exact hset.trans hreaped.changes

/-- The peer's parameters change the credit of halves. -/
theorem Handshake.changes (h : v.Handshake v') : v.Changes fits v' where
  send {id h'} hafter := by
    obtain ⟨limit, hsend⟩ := h.send id
    rw [hsend] at hafter
    obtain ⟨half, hbefore, rfl⟩ := Option.map_eq_some_iff.1 hafter
    exact ⟨half, hbefore, .single (.credited _)⟩
  recv hafter := ⟨_, h.recv ▸ hafter, .refl⟩

end

end View

/-! ## Operations and runs

Every operation makes a chain of changes of each half, and so does every run. -/

namespace StreamSet

/-- Whether the acknowledgement that an operation counts on a stream, if it counts one
there, leaves the sum within a word. -/
def Operation.AckFits (s : StreamSet) (id : StreamId) : Operation → Prop
  | .streamAcked id' n => id' = id → s.frozen = false → ∀ h ∈ s.sendHalf? id, h.CanCount n
  | _ => True

instance (s : StreamSet) (id : StreamId) : DecidablePred (Operation.AckFits s id)
  | .streamAcked id' _ => inferInstanceAs (Decidable (id' = id → _ → ∀ h ∈ s.sendHalf? id, _))
  | .openStream _ | .write .. | .read .. | .resetStream _ | .stopSending _
  | .handshakeCompleted _ | .streamData .. | .streamReset .. | .peerStop .. | .maxStreamData ..
  | .maxData _ | .maxStreams .. | .takeEvents | .freeze => .isTrue trivial

/-- Whether the acknowledgement that a step of a run counts on a stream leaves the sum
within a word. -/
def Entry.AckFits (e : Entry) (id : StreamId) : Prop := e.op.AckFits e.before id

instance (id : StreamId) : DecidablePred (Entry.AckFits · id) := fun e =>
  inferInstanceAs (Decidable (e.op.AckFits e.before id))

variable {fits : StreamId → Prop} {s : StreamSet}

/-- Every operation changes halves in the ways listed, and makes none appear. -/
theorem changes_perform (hs : s.Orderly) {op : Operation} (hop : op.Fits)
    (hack : ∀ id, fits id → op.AckFits s id) : s.view.Changes fits (s.perform op).2.view := by
  have hsame {s' : StreamSet} (hview : s'.view = s.view) : s.view.Changes fits s'.view :=
    View.changes_of_eq (congrArg _ hview) (congrArg _ hview)
  cases op with
  | openStream d => exact hsame (opens_openStream hs d).view
  | write id data fin => exact (write_outcome hs id data fin).2.changes
  | read id maxLen => exact (read_outcome hs id maxLen).2.changes
  | resetStream id => exact (resetStream_outcome hs id).2.changes
  | stopSending id => exact (stopSending_outcome hs id).2.changes
  | handshakeCompleted peer => exact (onHandshakeCompleted_outcome s peer).changes
  | streamData id offset data fin =>
    exact (onStreamData_outcome hs hop offset data fin).2.changes
  | streamReset id errorCode finalSize =>
    exact (onStreamReset_outcome hs hop errorCode finalSize).2.changes
  | peerStop id errorCode => exact (onStopSending_outcome hs hop errorCode).2.changes
  | maxStreamData id limit => exact (onMaxStreamData_outcome hs id limit).2.changes
  | maxData limit => exact (onMaxData_outcome hs limit).2.changes
  | maxStreams d n => exact hsame (onMaxStreams_outcome hs d n).2
  | streamAcked id n =>
    rcases s.onStreamAcked_eq id n with heq | ⟨hfrozen, h, hlive, -⟩
    · exact hsame (by rw [perform, heq])
    · -- the half that counts is live, and the view shows what it has counted so far
      refine (onStreamAcked_outcome hs id n).2.changes fun half hhalf hfits => ?_
      obtain ⟨st, hget, hsend⟩ := sendHalf?_eq_some hlive
      obtain rfl := Option.some.inj ((view_send_of_send hs hget hsend).symm.trans hhalf)
      exact hack id hfits rfl hfrozen h hlive
  | takeEvents => exact hsame rfl
  | freeze => exact hsame rfl

/-- Every half that a run leaves came of the one before, by induction on the run. -/
theorem changes_after (hs : s.Orderly) {ops : List Operation} (hops : ∀ op ∈ ops, op.Fits)
    (hacks : ∀ id, fits id → ∀ e ∈ s.trace ops, e.AckFits id) :
    s.view.Changes fits (s.after ops).view := by
  induction ops generalizing s with
  | nil => exact .refl fits _
  | cons op rest ih =>
    rw [List.forall_mem_cons] at hops
    rw [trace] at hacks
    have hfirst := changes_perform hs hops.1 fun id h => (List.forall_mem_cons.1 (hacks id h)).1
    have hrest := ih (orderly_perform hs hops.1) hops.2 fun id h =>
      (List.forall_mem_cons.1 (hacks id h)).2
    exact hfirst.trans hrest

section

variable {side : Side} {own : TransportParameters} {ops : List Operation}
  (hops : ∀ op ∈ ops, op.Fits) {id : StreamId} {st : Stream}

include hops

/-- Every sending half was fresh once. -/
theorem exists_changes_of_send (hget : ((new side own).after ops).streams.get? id = some st)
    {h : SendHalf} (hsend : st.send = some h) :
    ∃ limit, ReflTransGen (SendHalf.Change (∀ e ∈ (new side own).trace ops, e.AckFits id))
      (.ofLimit limit) h.plain := by
  have horderly := orderly_new side own
  obtain ⟨fresh, hfresh, hchanges⟩ := (changes_after horderly hops fun _ hacks => hacks).send
    (view_send_of_send (orderly_after horderly hops) hget hsend)
  rw [eq_of_view_send_new hfresh] at hchanges
  exact ⟨0, hchanges⟩

/-- Every receiving half was fresh once. -/
theorem exists_changes_of_recv (hget : ((new side own).after ops).streams.get? id = some st)
    {h : RecvHalf} (hrecv : st.recv = some h) :
    ∃ window, ReflTransGen RecvHalf.Change (.ofWindow window) h := by
  have horderly := orderly_new side own
  obtain ⟨fresh, hfresh, hchanges⟩ := (changes_after horderly hops fun _ hacks => hacks).recv
    (view_recv_of_recv (orderly_after horderly hops) hget hrecv)
  rw [eq_of_view_recv_new hfresh] at hchanges
  exact ⟨_, hchanges⟩

end

end StreamSet

end QuicHost
