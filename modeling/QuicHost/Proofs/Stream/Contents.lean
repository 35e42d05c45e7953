import QuicHost.Proofs.Stream.Buffer
import QuicHost.Proofs.Stream.Run

/-!
# The application reads what the peer wrote

The peer sends a stream in pieces that may overlap, repeat each other or be
empty, and the application reads it in pieces of its own. If all pieces agree
with some contents, then so does what is read: the bytes read and the bytes that
wait to be read are the contents, up to where they have been taken in
(`reads_content`).

The invariant is `Delivers`. It speaks of one receiving half and of what was
read so far, and goes through a run step by step. It has to be known also when
the half is gone: then nothing waited to be read.
-/

namespace QuicHost

namespace StreamSet

/-! ## What is observed of one stream

The bytes that were read, the offset up to which data was taken in, and whether a report
was refused; all of it from the operations of a run and their answers. -/

/-- Whether data of a stream is taken in: the peer may send on it, and neither
the stream's receiving half nor the connection has ended. -/
def takesIn (s : StreamSet) (id : StreamId) : Bool :=
  !s.frozen && (s.view.recv id).any fun h => !h.state.isTerminal

/-- The bytes that an answer to a read hands out. -/
def readBy : Except CallError ReadOutcome → Bytes
  | .ok out => out.data
  | .error _ => []

namespace Entry

/-- The bytes of a stream that a step hands to the application. -/
def readOn (id : StreamId) (e : Entry) : Bytes :=
  match e.op, e.answer with
  | .read id' _, .read r => if id' = id then readBy r else []
  | _, _ => []

/-- Where the data ends that a step takes in on a stream. -/
def reachOn (id : StreamId) (e : Entry) : Nat :=
  match e.op with
  | .streamData id' offset data _ =>
    if id' = id ∧ e.before.takesIn id = true then offset + data.length else 0
  | _ => 0

/-- Whether a step refuses data of a stream. -/
def refusesOn (id : StreamId) (e : Entry) : Bool :=
  match e.op, e.answer with
  | .streamData id' _ _ _, .credited (.error _) => id' == id
  | _, _ => false

end Entry

/-- The bytes of a stream read in a run. -/
def readOn (id : StreamId) (t : List Entry) : Bytes := t.flatMap (·.readOn id)

/-- The highest offset at which data ends that is taken in on a stream in a run. -/
def reachOn (id : StreamId) (t : List Entry) : Nat := t.foldr (fun e n => max (e.reachOn id) n) 0

/-- Whether the data of a stream that an operation brings agrees with `c`. -/
def Operation.Agrees (c : Bytes) (id : StreamId) : Operation → Prop
  | .streamData id' offset data _ => id' = id → (c.drop offset).take data.length = data
  | _ => True

instance (c : Bytes) (id : StreamId) : DecidablePred (Operation.Agrees c id)
  | .streamData id' offset data _ =>
    inferInstanceAs (Decidable (id' = id → (c.drop offset).take data.length = data))
  | .openStream _ | .write .. | .read .. | .resetStream _ | .stopSending _
  | .handshakeCompleted _ | .streamReset .. | .peerStop .. | .maxStreamData .. | .maxData _
  | .maxStreams .. | .streamAcked .. | .takeEvents | .freeze => .isTrue trivial

/-- Whether an operation gives up the receiving half of a stream, on our wish or
the peer's. -/
def Operation.givesUp (id : StreamId) : Operation → Bool
  | .stopSending id' => id' == id
  | .streamReset id' _ _ => id' == id
  | _ => false

end StreamSet

/-! ## The invariant

What was read and what waits are the contents up to where data was taken in. Data that
agrees with the contents extends this, whatever part of it overlaps: the buffer takes only
what is new. -/

/-- What is known of a receiving half when `taken` was read from it and it was
sent up to `reach`. -/
structure Delivers (c : Bytes) (taken : Bytes) (reach : Nat) (half : Option RecvHalf) : Prop where
  /-- what was read and what waits to be read are the contents so far -/
  whole : taken ++ half.elim [] (·.buffer.contents) = c.take reach
  /-- the contents reach as far -/
  reach_le : reach ≤ c.length
  /-- the half counts rightly, expects what comes next, and nobody gave it up -/
  half : ∀ h, half = some h →
    h.buffer.Counts ∧ h.buffer.nextOffset = reach ∧ h.stopped = false ∧ h.state ≠ .resetRecvd

namespace Delivers

variable {c taken : Bytes} {reach : Nat} {half : Option RecvHalf} {h : RecvHalf}

/-- A new half has delivered nothing. -/
theorem fresh (c : Bytes) (half : Option RecvHalf)
    (hfresh : ∀ h, half = some h → ∃ n, h = .ofWindow n) : Delivers c [] 0 half := by
  refine ⟨?_, Nat.zero_le _, fun h hhalf => ?_⟩
  · rcases half with _ | h
    · rfl
    · obtain ⟨n, rfl⟩ := hfresh h rfl
      rfl
  · obtain ⟨n, rfl⟩ := hfresh h hhalf
    exact ⟨rfl, rfl, rfl, nofun⟩

/-- A half that is over may go. -/
theorem gone (hd : Delivers c taken reach half)
    (hover : ∀ h, half = some h → h.state.isTerminal = true ∧ h.buffer.buffered = 0 ∧
      h.stopped = false) : Delivers c taken reach none := by
  refine ⟨?_, hd.reach_le, nofun⟩
  have hwhole := hd.whole
  rcases half with _ | h
  · exact hwhole
  · have hcounts : h.buffer.buffered = h.buffer.contents.length := (hd.half h rfl).1
    rw [(hover h rfl).2.1] at hcounts
    rwa [Option.elim_some, List.eq_nil_of_length_eq_zero hcounts.symm] at hwhole

/-- What was read moves from what waits to what was taken. -/
theorem take (hd : Delivers c taken reach (some h)) (n : Nat) (window : RecvWindow) :
    Delivers c (taken ++ (h.take n).1.data) reach
      (some { (h.take n).2 with window := window }) := by
  obtain ⟨hcounts, hnext, hstopped, hstate⟩ := hd.half h rfl
  obtain ⟨hdata, hcontents, hcounts', hnext', -, -, hstopped', hstate'⟩ :=
    RecvHalf.take_eq hcounts n
  refine ⟨?_, hd.reach_le, ?_⟩
  · have hwhole := hd.whole
    simp only [Option.elim_some] at hwhole ⊢
    rw [hcontents, hdata, List.append_assoc, List.take_append_drop, hwhole]
  · intro h' hh'
    obtain rfl := Option.some.inj hh'
    refine ⟨hcounts', hnext'.trans hnext, hstopped'.trans hstopped, ?_⟩
    rcases hstate' with hstate' | ⟨-, hstate'⟩
    · rw [hstate']
      exact hstate
    · rw [hstate']
      nofun

/-- Data that agrees with the contents and leaves no gap extends what waits to
be read. -/
theorem insert (hd : Delivers c taken reach (some h)) {offset added : Nat} {data : Bytes}
    {fin : Bool} {buffer : RecvBuffer} (hagree : (c.drop offset).take data.length = data)
    (hinsert : h.buffer.insert offset data fin = .ok (added, buffer)) (window : RecvWindow) :
    Delivers c taken (max reach (offset + data.length))
      (some { h.fill buffer fin with window := window }) := by
  obtain ⟨hcounts, hnext, hstopped, hstate⟩ := hd.half h rfl
  obtain ⟨hoffset, -, hcontents, hbuffered, hnext', -⟩ := RecvBuffer.insert_eq_ok hinsert
  rw [hnext] at hoffset hcontents hbuffered hnext'
  have hreach := hd.reach_le
  have hlength : data.length ≤ c.length - offset := by
    have := congrArg List.length hagree
    rw [List.length_take, List.length_drop] at this
    omega
  refine ⟨?_, by omega, ?_⟩
  · have hwhole := hd.whole
    simp only [Option.elim_some] at hwhole ⊢
    -- of the data, what lies behind `reach` is new
    have hstart : offset + (reach - offset) = reach := by omega
    have hrest : data.length - (reach - offset) = offset + data.length - reach := by omega
    have hnew : data.drop (reach - offset) =
        (c.drop reach).take (offset + data.length - reach) := by
      have hdrop := congrArg (List.drop (reach - offset)) hagree
      rw [List.drop_take, List.drop_drop, hstart, hrest] at hdrop
      exact hdrop.symm
    calc taken ++ buffer.contents
        = (taken ++ h.buffer.contents) ++
          data.drop (reach - offset) := by rw [hcontents, List.append_assoc]
      _ = c.take reach ++ (c.drop reach).take (offset + data.length - reach) := by rw [hwhole, hnew]
      _ = c.take (reach + (offset + data.length - reach)) := List.take_add.symm
      _ = c.take (max reach (offset + data.length)) := by congr 1; omega
  · intro h' hh'
    obtain rfl := Option.some.inj hh'
    refine ⟨?_, hnext', hstopped, ?_⟩
    · have : h.buffer.buffered = h.buffer.contents.length := hcounts
      change buffer.buffered = buffer.contents.length
      rw [hbuffered, hcontents, List.length_append, this]
    · simp only [RecvHalf.fill]
      split
      · nofun
      · exact hstate

theorem idle (hd : Delivers c taken reach half) : Delivers c (taken ++ []) (max reach 0) half := by
  rwa [List.append_nil, Nat.max_zero]

section

variable {v v' : View} {id : StreamId}

theorem spares (hd : Delivers c taken reach (v.recv id)) (h : v.SparesRecv v') :
    Delivers c taken reach (v'.recv id) := by
  rcases h.recv id with heq | ⟨hnone, hover⟩
  · rwa [heq]
  · rw [hnone]
    exact hd.gone hover

/-- What a read hands out is what it takes from the buffer, so that both together stay what
they were. -/
theorem read {frozen : Bool} {maxLen : Nat} {r : Except CallError ReadOutcome}
    (hd : Delivers c taken reach (v.recv id)) (h : v.Read frozen id maxLen r v') :
    Delivers c (taken ++ StreamSet.readBy r) reach (v'.recv id) := by
  cases h with
  | refused e => rwa [StreamSet.readBy, List.append_nil]
  | @left half _ hrecv _ =>
    rw [hrecv] at hd
    rw [View.recv_setRecv, if_pos rfl]
    exact hd.take maxLen (half.take maxLen).2.window
  | taken _ hrecv _ _ hreaped =>
    rw [hrecv] at hd
    refine spares ?_ hreaped.sparesRecv
    rw [View.recv_release, View.recv_setRecv, if_pos rfl]
    exact hd.take maxLen _

/-- Data that is not refused is ignored, if the half has ended, or taken in. -/
theorem data {frozen fin : Bool} {offset n : Nat} {data : Bytes}
    (hd : Delivers c taken reach (v.recv id)) (hagree : (c.drop offset).take data.length = data)
    (h : v.Data frozen id offset data fin (.ok n) v') :
    Delivers c taken
      (max reach (if !frozen && (v.recv id).any (fun h => !h.state.isTerminal) then offset +
        data.length else 0))
      (v'.recv id) := by
  cases h with
  -- what is ignored does not count towards the reach: the half it names is at rest, or
  -- there is none
  | ignored hignored =>
    have hended : (!frozen && (v.recv id).any fun h => !h.state.isTerminal) = false := by
      cases hfrozen : frozen
      · rcases hrecv : v.recv id with _ | h
        · rfl
        · simp only [Option.any_some, (hignored h hfrozen hrecv).2, Bool.not_true, Bool.and_false]
      · rfl
    rwa [hended, if_neg Bool.false_ne_true, Nat.max_zero]
  -- only the reader's own refusal stops a half, and `Delivers` is about streams it did not
  -- refuse
  | settled _ hrecv _ hstopped _ =>
    have hlive := (hd.half _ hrecv).2.2.1
    rw [hstopped] at hlive
    cases hlive
  | filled hfrozen hrecv _ hterminal hcount hinsert =>
    have htaken : (!frozen && (v.recv id).any fun h => !h.state.isTerminal) = true := by
      rw [hfrozen, hrecv, Option.any_some, hterminal]
      rfl
    rw [hrecv] at hd
    rw [htaken, if_pos rfl, View.recv_setRecv, if_pos rfl]
    exact hd.insert hagree hinsert _

end

end Delivers

namespace StreamSet

variable {s : StreamSet} {c taken : Bytes} {reach : Nat} {id : StreamId}

/-- One step of a run keeps the invariant. -/
theorem delivers_perform (hs : s.Orderly) {op : Operation} (hop : op.Fits)
    (hagree : op.Agrees c id) (hkeep : op.givesUp id = false)
    (htaken : (Entry.mk s op (s.perform op).1).refusesOn id = false)
    (hd : Delivers c taken reach (s.view.recv id)) :
    Delivers c (taken ++ (Entry.mk s op (s.perform op).1).readOn id)
      (max reach ((Entry.mk s op (s.perform op).1).reachOn id))
        ((s.perform op).2.view.recv id) := by
  -- only a read of `id` and data for `id` move anything; elsewhere the view of the receiver
  -- is unchanged or the stream is one that this run does not give up
  cases op with
  | openStream d =>
    rw [perform, (opens_openStream hs d).view]
    exact hd.idle
  | write id' data fin => exact (hd.spares (write_outcome hs id' data fin).2.sparesRecv).idle
  | read id' maxLen =>
    have hread := (read_outcome hs id' maxLen).2
    by_cases hid : id' = id
    · subst hid
      have hd' := hd.read hread
      simpa only [Entry.readOn, Entry.reachOn, perform, Nat.max_zero, ↓reduceIte] using hd'
    · have hnone : (Entry.mk s (.read id' maxLen) (s.perform (.read id' maxLen)).1).readOn id =
          [] := by
        simp only [Entry.readOn, perform, hid, ↓reduceIte]
      rw [hnone]
      rw [← hread.recv_of_ne (Ne.symm hid)] at hd
      exact hd.idle
  | resetStream id' => exact (hd.spares (resetStream_outcome hs id').2.sparesRecv).idle
  | stopSending id' =>
    have hid : id ≠ id' := by
      rintro rfl
      simp only [Operation.givesUp, beq_self_eq_true, Bool.true_eq_false] at hkeep
    rw [← (stopSending_outcome hs id').2.recv_of_ne hid] at hd
    exact hd.idle
  | handshakeCompleted peer =>
    exact (hd.spares (onHandshakeCompleted_outcome s peer).sparesRecv).idle
  | streamData id' offset data fin =>
    have hdata := (onStreamData_outcome hs hop offset data fin).2
    by_cases hid : id' = id
    · subst hid
      simp only [Entry.refusesOn, perform] at htaken
      simp only [Entry.readOn, Entry.reachOn, perform, List.append_nil, true_and]
      rcases hr : (s.onStreamData id' offset data fin).1 with e | n
      · rw [hr] at htaken
        simp only [beq_self_eq_true, Bool.true_eq_false] at htaken
      · rw [hr] at hdata
        exact hd.data (hagree rfl) hdata
    · have hnone : (Entry.mk s (.streamData id' offset data fin)
          (s.perform (.streamData id' offset data fin)).1).reachOn id = 0 := by
        simp only [Entry.reachOn, hid, false_and, ↓reduceIte]
      rw [hnone]
      rw [← hdata.recv_of_ne (Ne.symm hid)] at hd
      exact hd.idle
  | streamReset id' errorCode finalSize =>
    have hid : id ≠ id' := by
      rintro rfl
      simp only [Operation.givesUp, beq_self_eq_true, Bool.true_eq_false] at hkeep
    rw [← (onStreamReset_outcome hs hop errorCode finalSize).2.recv_of_ne hid] at hd
    exact hd.idle
  | peerStop id' errorCode =>
    exact (hd.spares (onStopSending_outcome hs hop errorCode).2.sparesRecv).idle
  | maxStreamData id' limit =>
    exact (hd.spares (onMaxStreamData_outcome hs id' limit).2.sparesRecv).idle
  | maxData limit => exact (hd.spares (onMaxData_outcome hs limit).2.sparesRecv).idle
  | maxStreams d n =>
    rw [perform, (onMaxStreams_outcome hs d n).2]
    exact hd.idle
  | streamAcked id' n => exact (hd.spares (onStreamAcked_outcome hs id' n).2.sparesRecv).idle
  | takeEvents => exact hd.idle
  | freeze => exact hd.idle

/-- A run keeps the invariant. -/
theorem delivers_after (hs : s.Orderly) {ops : List Operation} (hops : ∀ op ∈ ops, op.Fits)
    (hagree : ∀ op ∈ ops, op.Agrees c id) (hkeep : ∀ op ∈ ops, op.givesUp id = false)
    (htaken : ∀ e ∈ s.trace ops, e.refusesOn id = false)
    (hd : Delivers c taken reach (s.view.recv id)) :
    Delivers c (taken ++ readOn id (s.trace ops)) (max reach (reachOn id (s.trace ops)))
      ((s.after ops).view.recv id) := by
  induction ops generalizing s taken reach with
  | nil => exact hd.idle
  | cons op rest ih =>
    simp only [List.forall_mem_cons] at hops hagree hkeep
    simp only [trace, List.forall_mem_cons] at htaken
    have hstep := delivers_perform hs hops.1 hagree.1 hkeep.1 htaken.1 hd
    have hrest := ih (orderly_perform hs hops.1) hops.2 hagree.2 hkeep.2 htaken.2 hstep
    rw [List.append_assoc, Nat.max_assoc] at hrest
    exact hrest

/-! ## The result

The invariant at the end of a run, said of what was read: it is where the contents begin,
up to where they were taken in less what waits. -/

/-- **What is sent is read.** The peer sends a stream in any pieces that agree with some
contents `c` and are not refused, the application reads it in any pieces, and anything
happens on other streams. Then what was read is the beginning of `c`, what waits to be
read is what follows, together they reach as far as the data that was taken in, and a
read that succeeds takes as much as it asks for and there is. -/
theorem reads_content (side : Side) (own : TransportParameters) (c : Bytes) (id : StreamId)
    (ops : List Operation) (hops : ∀ op ∈ ops, op.Fits) (hagree : ∀ op ∈ ops, op.Agrees c id)
    (hkeep : ∀ op ∈ ops, op.givesUp id = false)
    (htaken : ∀ e ∈ (new side own).trace ops, e.refusesOn id = false) :
    let s := (new side own).after ops
    let read := readOn id ((new side own).trace ops)
    let b := s.buffered id
    read = c.take read.length ∧ (s.unread id).length = b ∧
      s.unread id = (c.drop read.length).take b ∧
      read.length + b = reachOn id ((new side own).trace ops) ∧
      ∀ maxLen out, (s.read id maxLen).1 = .ok out → out.data.length = min maxLen b := by
  have hfresh : Delivers c [] 0 ((new side own).view.recv id) := by
    exact .fresh c _ fun h hrecv => ⟨_, eq_of_view_recv_new hrecv⟩
  have hd := delivers_after (orderly_new side own) hops hagree hkeep htaken hfresh
  have hs := orderly_after (orderly_new side own) hops
  rw [List.nil_append, Nat.zero_max] at hd
  intro s read b
  obtain ⟨hunread, hbuffered⟩ := unread_eq hs id
  have hlength : (s.unread id).length = b := by
    change (s.unread id).length = s.buffered id
    rw [hunread, hbuffered]
    rcases hrecv : s.view.recv id with _ | h
    · rfl
    · exact (hd.half h hrecv).1.symm
  have hwhole : read ++ s.unread id = c.take (reachOn id ((new side own).trace ops)) := by
    rw [hunread]
    exact hd.whole
  have htotal : read.length + b = reachOn id ((new side own).trace ops) := by
    have := congrArg List.length hwhole
    rw [List.length_append, hlength, List.length_take, Nat.min_eq_left hd.reach_le] at this
    exact this
  rw [← htotal, List.take_add] at hwhole
  have hlengths : read.length = (c.take read.length).length := by
    rw [List.length_take]
    have := hd.reach_le
    omega
  -- the contents are cut where reading stopped
  obtain ⟨hread, hrest⟩ := List.append_inj hwhole hlengths
  refine ⟨hread, hlength, hrest, htotal, fun maxLen out hout => ?_⟩
  have hreads := (read_outcome hs id maxLen).2
  rw [hout] at hreads
  have hcut : ∀ h, s.view.recv id = some h → (h.take maxLen).1.data.length = min maxLen b := by
    intro h hrecv
    rw [(RecvHalf.take_eq (hd.half h hrecv).1 maxLen).1, List.length_take, ← hlength,
      hunread, hrecv,
      Option.elim_some]
  generalize (s.read id maxLen).2.view = v' at hreads
  cases hreads with
  | left _ hrecv _ => exact hcut _ hrecv
  | taken _ hrecv _ _ _ => exact hcut _ hrecv

/-- Two pieces that overlap, with a read between them and one after. -/
def overlapping : List Operation :=
  [.streamData ⟨0⟩ 0 [1, 2, 3] false, .read ⟨0⟩ 2,
    .streamData ⟨0⟩ 1 [2, 3, 4, 5] true, .read ⟨0⟩ 10]

/-- The part that overlaps is read once. -/
theorem reads_content_overlapping :
    readOn ⟨0⟩ ((new .server {}).trace overlapping) = [1, 2, 3, 4, 5] := by
  obtain ⟨hread, -, -, hreach, -⟩ := reads_content .server {} [1, 2, 3, 4, 5] ⟨0⟩ overlapping
    (by decide) (by decide) (by decide) (by decide)
  have hbuffered : ((new .server {}).after overlapping).buffered ⟨0⟩ = 0 := by decide
  have hend : reachOn ⟨0⟩ ((new .server {}).trace overlapping) = 5 := by decide
  rw [hbuffered, hend, Nat.add_zero] at hreach
  rw [hread, hreach]
  rfl

end StreamSet

end QuicHost
