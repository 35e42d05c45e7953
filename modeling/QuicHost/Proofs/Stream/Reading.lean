import Mathlib.Logic.Relation
import QuicHost.Proofs.Stream.Buffer
import QuicHost.Proofs.Stream.Run

/-!
# What a reader is offered

For whoever reads, a stream is an `Offer`: the bytes that wait, and whether the
end of the stream comes behind them. A stream that is gone, was not opened yet, or
has been read to its end offers nothing. What a read answers, and what it leaves,
is told by the offer alone (`Offer.read`). It does not matter whether the streams
are in motion or frozen, which read on different ways and keep a stream that is
over in different shapes.

Only reading, data, and giving up a receiving half change what is offered
(`offers_perform`). The invariant is `Neat`: buffers count their bytes rightly,
and a half that has ended holds none.
-/

namespace QuicHost

/-! ## Offers

What a receiving half offers, and that reading from the half is reading from the offer, as
long as the half is neat. -/

/-- What waits for the reader of a stream. -/
structure Offer where
  /-- the bytes -/
  bytes : Bytes := []
  /-- whether the end of the stream comes behind them, and was not reported -/
  ends : Bool := false
deriving DecidableEq

namespace Offer

/-- Whether there is neither a byte nor an end to report. -/
def isEmpty (o : Offer) : Bool := o.bytes.isEmpty && !o.ends

/-- What a read of up to `n` bytes hands out, if it is not refused, and what is
offered then. The end is reported together with the last byte, and once. -/
def read (o : Offer) (n : Nat) : Option ReadOutcome × Offer :=
  if n = 0 ∨ o.isEmpty = true then (none, o)
  else
    let rest := o.bytes.drop n
    (some ⟨o.bytes.take n, o.ends && rest.isEmpty⟩, ⟨rest, o.ends && !rest.isEmpty⟩)

end Offer

theorem RecvBuffer.Counts.isEmpty_eq {b : RecvBuffer} (h : b.Counts) :
    b.isEmpty = b.contents.isEmpty := by
  have hcounts : b.buffered = b.contents.length := h
  rw [RecvBuffer.isEmpty, hcounts]
  cases b.contents <;> rfl

namespace RecvHalf

/-- What a receiving half offers. -/
def offer (h : RecvHalf) : Offer := ⟨h.buffer.contents, h.state == .sizeKnown⟩

/-- A half counts its bytes rightly, and when it has ended there are none. -/
structure Neat (h : RecvHalf) : Prop where
  counts : h.buffer.Counts
  ended : h.state.isTerminal = true → h.buffer.buffered = 0

theorem neat_ofWindow (n : Nat) : (RecvHalf.ofWindow n).Neat := ⟨rfl, fun _ => rfl⟩

theorem neat_stop (h : RecvHalf) : h.stop.Neat := ⟨rfl, fun _ => rfl⟩

theorem neat_close (h : RecvHalf) (finalSize : Nat) : (h.close finalSize).Neat :=
  ⟨rfl, fun _ => rfl⟩

namespace Neat

variable {h : RecvHalf} (ht : h.Neat)

include ht

theorem isWaiting_eq : h.isWaiting = h.offer.isEmpty := by
  rw [isWaiting, ht.counts.isEmpty_eq]
  rfl

/-- A half that has ended offers nothing. -/
theorem offer_of_terminal (hterminal : h.state.isTerminal = true) : h.offer = {} := by
  have hcounts : h.buffer.buffered = h.buffer.contents.length := ht.counts
  rw [ht.ended hterminal] at hcounts
  rw [offer, List.eq_nil_of_length_eq_zero hcounts.symm]
  cases hstate : h.state with
  | recv => rfl
  | dataRecvd => rfl
  | resetRecvd => rfl
  | sizeKnown =>
    rw [hstate] at hterminal
    cases hterminal

/-- Taking bytes is reading from what is offered. -/
theorem take {n : Nat} (hn : n ≠ 0) (hwaiting : h.isWaiting = false) :
    (h.take n).2.Neat ∧ h.offer.read n = (some (h.take n).1, (h.take n).2.offer) := by
  obtain ⟨hdata, hcontents, hcounts, -⟩ := take_eq ht.counts n
  have hfin : (h.take n).1.fin =
      (h.state == .sizeKnown && (h.buffer.contents.drop n).isEmpty) := by
    rw [← hcontents, ← hcounts.isEmpty_eq]
    rfl
  have hstate : (h.take n).2.state = if (h.take n).1.fin then .dataRecvd else h.state := rfl
  rw [ht.isWaiting_eq] at hwaiting
  constructor
  · refine ⟨hcounts, fun hterminal => ?_⟩
    by_cases hend : (h.take n).1.fin = true
    · have hempty : (h.state == .sizeKnown && (h.take n).2.buffer.isEmpty) = true := hend
      rw [Bool.and_eq_true] at hempty
      exact beq_iff_eq.1 hempty.2
    · -- a half that had ended before had nothing to take
      rw [hstate, if_neg hend] at hterminal
      rw [ht.offer_of_terminal hterminal] at hwaiting
      cases hwaiting
  · have hrefused : ¬ (n = 0 ∨ h.offer.isEmpty = true) := by
      rw [hwaiting]
      exact fun hnone => hnone.elim hn Bool.false_ne_true
    rw [Offer.read, if_neg hrefused]
    have houtcome : (h.take n).1 = ⟨h.buffer.contents.take n,
        h.state == .sizeKnown && (h.buffer.contents.drop n).isEmpty⟩ := by
      rw [← hdata, ← hfin]
    -- what is on offer afterwards: the rest of the contents, with the end still ahead if
    -- any of it is left
    have hleft : (h.take n).2.offer = ⟨h.buffer.contents.drop n,
        h.state == .sizeKnown && !(h.buffer.contents.drop n).isEmpty⟩ := by
      rw [RecvHalf.offer, hcontents, hstate, hfin]
      cases hknown : h.state == .sizeKnown <;>
        cases (h.buffer.contents.drop n).isEmpty <;> simp_all
    rw [houtcome, hleft]
    rfl

/-- Data that is taken in is counted. -/
theorem fill {offset added : Nat} {data : Bytes} {fin : Bool} {buffer : RecvBuffer}
    (hlive : h.state.isTerminal = false)
    (hinsert : h.buffer.insert offset data fin = .ok (added, buffer)) :
    (h.fill buffer fin).Neat := by
  obtain ⟨-, -, hcontents, hbuffered, -⟩ := RecvBuffer.insert_eq_ok hinsert
  have hcounts : h.buffer.buffered = h.buffer.contents.length := ht.counts
  refine ⟨?_, fun hterminal => ?_⟩
  · change buffer.buffered = buffer.contents.length
    rw [hbuffered, hcontents, List.length_append, hcounts]
  · rw [RecvHalf.fill] at hterminal
    dsimp only at hterminal
    split at hterminal
    · cases hterminal
    · rw [hlive] at hterminal
      cases hterminal

end Neat

end RecvHalf

/-! ## Offers of all streams

What operations do to offers. Those that neither read nor bring data leave every offer
alone, also where they end a stream: a stream that ends has nothing left to offer. -/

namespace View

/-- What a stream offers. -/
def offer (v : View) (id : StreamId) : Offer := (v.recv id).elim {} (·.offer)

/-- Every receiving half is neat. -/
def Neat (v : View) : Prop := ∀ id h, v.recv id = some h → h.Neat

section

variable {v v' : View} {id : StreamId} {h : RecvHalf}

theorem offer_of_recv (hrecv : v.recv id = some h) : v.offer id = h.offer := by
  rw [offer, hrecv]
  rfl

theorem Neat.setRecv (ht : v.Neat) (hh : h.Neat) : (v.setRecv id h).Neat := by
  intro id' h' hrecv
  rw [recv_setRecv] at hrecv
  split at hrecv
  · exact Option.some.inj hrecv ▸ hh
  · exact ht id' h' hrecv

/-- A stream that is over offers nothing, and may go. -/
theorem SparesRecv.neat (hs : v.SparesRecv v') (ht : v.Neat) :
    v'.Neat ∧ ∀ id, v'.offer id = v.offer id := by
  refine ⟨fun id h hrecv => ht id h (hs.recv_eq hrecv), fun id => ?_⟩
  rcases hs.recv id with heq | ⟨hnone, hover⟩
  · rw [offer, offer, heq]
  · have hgone : v'.offer id = {} := by
      rw [offer, hnone]
      rfl
    rw [hgone]
    rcases hrecv : v.recv id with _ | h
    · rw [offer, hrecv]
      rfl
    · rw [offer_of_recv hrecv, (ht _ _ hrecv).offer_of_terminal (hover h hrecv).1]

/-- A read that is not refused takes from what is offered. -/
theorem Neat.read (ht : v.Neat) {frozen : Bool} {n : Nat} (hn : n ≠ 0) {out : ReadOutcome}
    (hread : v.Read frozen id n (.ok out) v') :
    v'.Neat ∧ (v.offer id).read n = (some out, v'.offer id) := by
  cases hread with
  | @left h _ hrecv hwaiting =>
    obtain ⟨hneat, htake⟩ := (ht _ _ hrecv).take hn hwaiting
    rw [offer_of_recv hrecv, htake, offer_of_recv (by rw [recv_setRecv, if_pos rfl])]
    exact ⟨ht.setRecv hneat, rfl⟩
  | @taken h _ _ hrecv _ hwaiting hreaped =>
    obtain ⟨hneat, htake⟩ := (ht _ _ hrecv).take hn hwaiting
    let released := (h.take n).2.release (h.take n).1.data.length
    have hreleased : released.Neat := ⟨hneat.counts, hneat.ended⟩
    have hset : ((v.setRecv id released).release (h.take n).1.data.length).recv id =
        some released := by
      rw [recv_release, recv_setRecv, if_pos rfl]
    obtain ⟨hneat', hoffer⟩ := hreaped.sparesRecv.neat (ht.setRecv hreleased)
    rw [offer_of_recv hrecv, htake, hoffer, offer_of_recv hset]
    exact ⟨hneat', rfl⟩

theorem Neat.stop (ht : v.Neat) {r : Except CallError Nat} (hstop : v.Stop id r v') :
    v'.Neat := by
  cases hstop with
  | refused e => exact ht
  | @abandoned h _ _ _ hreaped =>
    exact (hreaped.sparesRecv.neat (ht.setRecv h.neat_stop)).1

/-- Counting changes credit, which neatness is not about. -/
theorem Neat.count (ht : v.Neat) (hh : h.Neat) {upTo : Nat} {r : Except TransportError RecvHalf}
    (hcount : v.Count id h upTo r v') : v'.Neat := by
  have hreach : (h.reach upTo).Neat := ⟨hh.counts, hh.ended⟩
  cases hcount with
  | beyondStream _ => exact ht
  | beyondConnection _ _ => exact ht.setRecv hreach
  | counted _ _ => exact ht.setRecv hreach

/-- Settling leaves the halves neat. -/
theorem Neat.settle (ht : v.Neat) (hh : h.Neat) {upTo : Nat} {isFinal : Bool}
    {r : Except TransportError Nat} (hsettle : v.Settle id h upTo isFinal r v') : v'.Neat := by
  cases hsettle with
  | misplaced _ _ => exact ht
  | overrun hcount => exact ht.count hh hcount
  | settled _ hcount hreaped =>
    have hsettled : (h.settle upTo isFinal).Neat := ⟨hh.counts, hh.ended⟩
    exact (hreaped.sparesRecv.neat ((ht.count hh hcount).setRecv hsettled)).1

/-- What goes into the buffer is counted. -/
theorem Neat.data (ht : v.Neat) {frozen fin : Bool} {offset : Nat} {data : Bytes}
    {r : Except TransportError Nat} (hdata : v.Data frozen id offset data fin r v') : v'.Neat := by
  cases hdata with
  | ignored _ => exact ht
  | refused _ => exact ht
  | unsized _ _ => exact ht
  | settled _ hrecv _ _ hsettle => exact ht.settle (ht _ _ hrecv) hsettle
  | overrun hrecv hcount => exact ht.count (ht _ _ hrecv) hcount
  | misfit hrecv hcount _ _ => exact ht.count (ht _ _ hrecv) hcount
  | @filled h _ _ _ _ hrecv _ hlive hcount hinsert =>
    have hh := ht _ _ hrecv
    have hreach : (h.reach (offset + data.length)).Neat := ⟨hh.counts, hh.ended⟩
    exact (ht.count hh hcount).setRecv (hreach.fill hlive hinsert)

/-- The end of the peer's half empties it. -/
theorem Neat.peerReset (ht : v.Neat) {frozen : Bool} {finalSize : Nat}
    {r : Except TransportError Nat} (hreset : v.PeerReset frozen id finalSize r v') : v'.Neat := by
  cases hreset with
  | ignored _ => exact ht
  | refused _ => exact ht
  | settled _ hrecv _ hsettle => exact ht.settle (ht _ _ hrecv) hsettle
  | misplaced _ _ => exact ht
  | overrun hrecv hcount => exact ht.count (ht _ _ hrecv) hcount
  | @ended h _ _ _ hrecv _ _ _ _ hcount hreaped =>
    have hcounted := ht.count (ht _ _ hrecv) hcount
    exact (hreaped.sparesRecv.neat (hcounted.setRecv (h.neat_close finalSize))).1

end

end View

namespace StreamSet

/-- The streams are orderly, and their receiving halves are neat. -/
structure Neat (s : StreamSet) : Prop where
  orderly : s.Orderly
  halves : s.view.Neat

/-- What a stream offers to its reader. -/
def offer (s : StreamSet) (id : StreamId) : Offer := s.view.offer id

theorem neat_new (side : Side) (own : TransportParameters) : (new side own).Neat where
  orderly := orderly_new side own
  halves id h hrecv := by
    rw [eq_of_view_recv_new hrecv]
    exact RecvHalf.neat_ofWindow _

section

variable {s s' : StreamSet} {id : StreamId}

/-- A stream that is not live offers nothing. -/
theorem offer_of_get?_none (hget : s.streams.get? id = none) : s.offer id = {} := by
  rcases hrecv : s.view.recv id with _ | h
  · rw [offer, View.offer, hrecv]
    rfl
  · have hused : ¬ s.Used id := by
      intro hused
      simp only [view, peek, hused, ↓reduceIte, hget, Option.bind_none] at hrecv
      cases hrecv
    rw [offer, View.offer_of_recv hrecv, eq_of_view_recv_of_not_used hused hrecv]
    rfl

/-- A read is refused if it asks for nothing, or nothing is offered. -/
theorem isEmpty_of_refused (ht : s.Neat) {n : Nat} {e : CallError}
    (hrefused : (s.read id n).1 = .error e) : n = 0 ∨ (s.offer id).isEmpty = true := by
  rw [read] at hrefused
  split at hrefused
  · next hn => exact .inl hn
  -- every other refusal is that nothing is on offer; a frozen set refuses for fewer reasons
  refine .inr ?_
  split at hrefused
  · next hget =>
    rw [offer_of_get?_none hget]
    rfl
  next st hget =>
  have hview := view_recv_of_get? ht.orderly hget
  split at hrefused
  · next hrecv =>
    rw [offer, View.offer, hview, hrecv]
    rfl
  next h hrecv =>
  rw [hrecv] at hview
  have hh := ht.halves id h hview
  rw [offer, View.offer_of_recv hview]
  split at hrefused
  · split at hrefused
    · next hwaiting => rwa [← hh.isWaiting_eq]
    · cases hrefused
  split at hrefused
  · next hterminal =>
    rw [hh.offer_of_terminal hterminal]
    rfl
  split at hrefused
  · next hwaiting => rwa [← hh.isWaiting_eq]
  · cases hrefused

theorem ne_zero_of_read {n : Nat} {out : ReadOutcome} (hok : (s.read id n).1 = .ok out) :
    n ≠ 0 := by
  rintro rfl
  cases hok

/-- What a read hands out, and what it leaves, is told by what is offered. -/
theorem offer_read (ht : s.Neat) (id : StreamId) (n : Nat) :
    (s.read id n).2.Neat ∧
      (s.offer id).read n = ((s.read id n).1.toOption, (s.read id n).2.offer id) ∧
      ∀ id', id' ≠ id → (s.read id n).2.offer id' = s.offer id' := by
  obtain ⟨hfollows, hread⟩ := read_outcome ht.orderly id n
  have hother {id' : StreamId} (hne : id' ≠ id) : (s.read id n).2.offer id' = s.offer id' := by
    rw [offer, offer, View.offer, View.offer, hread.recv_of_ne hne]
  rcases hr : (s.read id n).1 with e | out
  · have hempty := isEmpty_of_refused ht hr
    rw [hr] at hread
    have hsame : (s.read id n).2.view = s.view := by
      generalize (s.read id n).2.view = v' at hread
      cases hread
      rfl
    refine ⟨⟨hfollows.orderly, ?_⟩, ?_, fun id' => hother⟩
    · rw [hsame]
      exact ht.halves
    · rw [Offer.read, if_pos hempty, offer, offer, hsame]
      rfl
  · rw [hr] at hread
    obtain ⟨hneat, hoffer⟩ := ht.halves.read (ne_zero_of_read hr) hread
    exact ⟨⟨hfollows.orderly, hneat⟩, hoffer, fun id' => hother⟩

/-- Whether an operation leaves alone what streams offer. -/
def Operation.spares : Operation → Bool
  | .read _ _ => false
  | .stopSending _ => false
  | .streamData _ _ _ _ => false
  | .streamReset _ _ _ => false
  | _ => true

/-- Every operation leaves the streams neat, and most leave alone what they offer. -/
theorem offers_perform (ht : s.Neat) {op : Operation} (hop : op.Fits) :
    (s.perform op).2.Neat ∧ (op.spares = true → (s.perform op).2.offer = s.offer) := by
  have hs := ht.orderly
  have horderly := orderly_perform hs hop
  have hspares (h : s.view.SparesRecv (s.perform op).2.view) :
      (s.perform op).2.Neat ∧ (op.spares = true → (s.perform op).2.offer = s.offer) := by
    obtain ⟨hneat, hoffer⟩ := h.neat ht.halves
    exact ⟨⟨horderly, hneat⟩, fun _ => funext hoffer⟩
  have hsame (h : (s.perform op).2.view = s.view) :=
    hspares (View.sparesRecv_of_eq (congrArg View.recvWindow h) (congrArg View.recv h))
  cases op with
  | openStream d => exact hsame (opens_openStream hs d).view
  | write id data fin => exact hspares (write_outcome hs id data fin).2.sparesRecv
  | read id n => exact ⟨(offer_read ht id n).1, nofun⟩
  | resetStream id => exact hspares (resetStream_outcome hs id).2.sparesRecv
  | stopSending id =>
    exact ⟨⟨horderly, ht.halves.stop (stopSending_outcome hs id).2⟩, nofun⟩
  | handshakeCompleted peer => exact hspares (onHandshakeCompleted_outcome s peer).sparesRecv
  | streamData id offset data fin =>
    exact ⟨⟨horderly, ht.halves.data (onStreamData_outcome hs hop offset data fin).2⟩, nofun⟩
  | streamReset id errorCode finalSize =>
    exact ⟨⟨horderly, ht.halves.peerReset (onStreamReset_outcome hs hop errorCode finalSize).2⟩,
      nofun⟩
  | peerStop id errorCode => exact hspares (onStopSending_outcome hs hop errorCode).2.sparesRecv
  | maxStreamData id limit => exact hspares (onMaxStreamData_outcome hs id limit).2.sparesRecv
  | maxData limit => exact hspares (onMaxData_outcome hs limit).2.sparesRecv
  | maxStreams d n => exact hsame (onMaxStreams_outcome hs d n).2
  | streamAcked id n => exact hspares (onStreamAcked_outcome hs id n).2.sparesRecv
  | takeEvents => exact hsame rfl
  | freeze => exact hsame rfl

end

/-! ## Any number of operations

The same over chains of operations of a given kind. -/

/-- `s'` comes of `s` by operations of a kind. -/
abbrev Works (kind : Operation → Prop) : StreamSet → StreamSet → Prop :=
  Relation.ReflTransGen fun s s' => ∃ op, kind op ∧ (s.perform op).2 = s'

section

variable {s s' : StreamSet} {kind kind' : Operation → Prop}

theorem Works.single (s : StreamSet) (op : Operation) (hop : kind op) :
    s.Works kind (s.perform op).2 :=
  Relation.ReflTransGen.single ⟨op, hop, rfl⟩

theorem Works.mono (h : s.Works kind s') (hkind : ∀ op, kind op → kind' op) :
    s.Works kind' s' := by
  refine Relation.ReflTransGen.mono ?_ _ _ h
  rintro s s' ⟨op, hop, heq⟩
  exact ⟨op, hkind op hop, heq⟩

/-- What every operation of a kind keeps, any number of them keep. -/
theorem Works.keeps {P : StreamSet → Prop} (h : s.Works kind s')
    (hstep : ∀ {s : StreamSet} {op : Operation}, kind op → P s → P (s.perform op).2) (hs : P s) :
    P s' := by
  induction h with
  | refl => exact hs
  | tail _ hwork ih =>
    obtain ⟨op, hop, rfl⟩ := hwork
    exact hstep hop ih

theorem Works.neat (h : s.Works kind s') (hfits : ∀ op, kind op → op.Fits) (ht : s.Neat) :
    s'.Neat :=
  h.keeps (fun hop hneat => (offers_perform hneat (hfits _ hop)).1) ht

/-- Operations that spare what is offered leave it alone, however many there are. -/
theorem Works.offer (h : s.Works kind s') (hfits : ∀ op, kind op → op.Fits)
    (hspares : ∀ op, kind op → op.spares = true) (ht : s.Neat) : s'.offer = s.offer := by
  induction h with
  | refl => rfl
  | tail hbefore hstep ih =>
    have hneat := Works.neat hbefore hfits ht
    obtain ⟨op, hop, rfl⟩ := hstep
    exact ((offers_perform hneat (hfits op hop)).2 (hspares op hop)).trans ih

end

end StreamSet

end QuicHost
