import Mathlib.Data.List.Perm.Basic
import QuicHost.Proofs.Stream.Steps

/-!
# Raised limits

How far a stream may send is decided in three places: when it is opened, when the
handshake is complete, and when the peer announces a limit for the stream itself.
These may come in any order, and limits only rise, so that the order should not
matter: the limit of a live stream is the largest that was ever announced for it
(`limit_is_largest`).

Limits that are announced before a stream is opened are where this ends. One for
a stream of our own is not about that stream. One for a stream of the peer's
would open it if it were data; but it is dropped, and what the peer has announced
is never in force (`dropped_early`). For streams about which the peer speaks in
time, runs of the same operations in another order end in the same limit.
-/

namespace QuicHost

/-! ## Limits that stay

Most effects leave the limits of all streams alone. This needs to be known for each of
them, since a limit that dropped in between would be raised again later. -/

namespace View

/-- Every sending half that is left has the limit that it had. -/
def SameLimits (v v' : View) : Prop :=
  ∀ id h', v'.send id = some h' → ∃ h, v.send id = some h ∧ h'.window.limit = h.window.limit

section

variable {v v' v'' : View} {id : StreamId}

theorem SameLimits.refl (v : View) : v.SameLimits v := fun _ h hsend => ⟨h, hsend, rfl⟩

/-- One half may be replaced by another with the same limit. -/
theorem sameLimits_setSend {h h' : SendHalf} (hsend : v.send id = some h)
    (hlimit : h'.window.limit = h.window.limit) : v.SameLimits (v.setSend id h') := by
  intro id' half hhalf
  rw [send_setSend] at hhalf
  split at hhalf
  · next heq =>
    subst heq
    obtain rfl := Option.some.inj hhalf
    exact ⟨h, hsend, hlimit⟩
  · exact ⟨half, hhalf, rfl⟩

theorem SameLimits.spares (h : v.SameLimits v') (hs : v'.SparesSend v'') : v.SameLimits v'' :=
  fun id half hhalf => h id half (hs.send_eq hhalf)

theorem SparesSend.sameLimits (h : v.SparesSend v') : v.SameLimits v' :=
  (SameLimits.refl v).spares h

theorem Write.sameLimits {data : Bytes} {fin : Bool} {r : Except CallError WriteOutcome}
    (h : v.Write id data fin r v') : v.SameLimits v' := by
  cases h with
  | refused e => exact .refl v
  | accepted hsend _ _ => exact sameLimits_setSend hsend rfl

/-- Abandoning a half leaves its limit alone. -/
theorem Reset.sameLimits {r : Except CallError Unit} (h : v.Reset id r v') :
    v.SameLimits v' := by
  cases h with
  | refused e => exact .refl v
  | @abandoned h _ hsend _ hreaped =>
    have hset : v.SameLimits (v.setSend id h.abandon) := sameLimits_setSend hsend rfl
    exact hset.spares hreaped.sparesSend

/-- That the peer wants no more leaves the limits alone. -/
theorem PeerStop.sameLimits {r : Except TransportError Bool} (h : v.PeerStop id r v') :
    v.SameLimits v' := by
  cases h with
  | ignored => exact .refl v
  | refused _ => exact .refl v
  | @abandoned h _ hsend _ hreaped =>
    have hset : v.SameLimits (v.setSend id h.abandon) := sameLimits_setSend hsend rfl
    exact hset.spares hreaped.sparesSend

theorem RaiseAll.sameLimits {limit : Nat} (h : v.RaiseAll limit v') : v.SameLimits v' := by
  cases h <;> exact .refl v

theorem Acked.sameLimits {n : Nat} (h : v.Acked id n v') : v.SameLimits v' := by
  cases h with
  | ignored => exact .refl v
  | @counted h _ hsend hreaped =>
    have hset : v.SameLimits (v.setSend id (h.acknowledge n)) := sameLimits_setSend hsend rfl
    exact hset.spares hreaped.sparesSend

end

end View

namespace StreamSet

/-- The limit that an operation announces for a stream. -/
def Operation.limitFor (id : StreamId) : Operation → Option Nat
  | .maxStreamData id' limit => if id' = id then some limit else none
  | _ => none

/-- The parameters of the peer that an operation brings. -/
def Operation.peer? : Operation → Option TransportParameters
  | .handshakeCompleted peer => some peer
  | _ => none

section

variable {s : StreamSet} {op : Operation} {id : StreamId}

/-- Only the handshake and the end change what is settled between the two sides. -/
theorem setup_perform (hs : s.Orderly) (hop : op.Fits) (hpeer : op.peer? = none)
    (hend : op ≠ .freeze) : s.SameSetup (s.perform op).2 := by
  cases op with
  | openStream d => exact (opens_openStream hs d).toSameSetup
  | write id data fin => exact (write_outcome hs id data fin).1.toSameSetup
  | read id maxLen => exact (read_outcome hs id maxLen).1.toSameSetup
  | resetStream id => exact (resetStream_outcome hs id).1.toSameSetup
  | stopSending id => exact (stopSending_outcome hs id).1.toSameSetup
  | handshakeCompleted peer => cases hpeer
  | streamData id offset data fin =>
    exact (onStreamData_outcome hs hop offset data fin).1.toSameSetup
  | streamReset id errorCode finalSize =>
    exact (onStreamReset_outcome hs hop errorCode finalSize).1.toSameSetup
  | peerStop id errorCode => exact (onStopSending_outcome hs hop errorCode).1.toSameSetup
  | maxStreamData id limit => exact (onMaxStreamData_outcome hs id limit).1.toSameSetup
  | maxData limit => exact (onMaxData_outcome hs limit).1.toSameSetup
  | maxStreams d n => exact (onMaxStreams_outcome hs d n).1.toSameSetup
  | streamAcked id n => exact (onStreamAcked_outcome hs id n).1.toSameSetup
  | takeEvents => exact (keeps_takeEvents s).toSameSetup
  | freeze => exact absurd rfl hend

/-- Most operations leave the limits of all streams alone. -/
theorem sameLimits_perform (hs : s.Orderly) (hop : op.Fits) (hpeer : op.peer? = none)
    (hlimit : ∀ id, op.limitFor id = none) : s.view.SameLimits (s.perform op).2.view := by
  have hsame {s' : StreamSet} (hview : s'.view = s.view) : s.view.SameLimits s'.view := by
    rw [hview]
    exact .refl _
  cases op with
  | openStream d => exact hsame (opens_openStream hs d).view
  | write id data fin => exact (write_outcome hs id data fin).2.sameLimits
  | read id maxLen => exact (read_outcome hs id maxLen).2.sparesSend.sameLimits
  | resetStream id => exact (resetStream_outcome hs id).2.sameLimits
  | stopSending id => exact (stopSending_outcome hs id).2.sparesSend.sameLimits
  | handshakeCompleted peer => cases hpeer
  | streamData id offset data fin =>
    exact (onStreamData_outcome hs hop offset data fin).2.sparesSend.sameLimits
  | streamReset id errorCode finalSize =>
    exact (onStreamReset_outcome hs hop errorCode finalSize).2.sparesSend.sameLimits
  | peerStop id errorCode => exact (onStopSending_outcome hs hop errorCode).2.sameLimits
  | maxStreamData id limit =>
    have hnone := hlimit id
    rw [Operation.limitFor, if_pos rfl] at hnone
    cases hnone
  | maxData limit => exact (onMaxData_outcome hs limit).2.sameLimits
  | maxStreams d n => exact hsame (onMaxStreams_outcome hs d n).2
  | streamAcked id n => exact (onStreamAcked_outcome hs id n).2.sameLimits
  | takeEvents => exact hsame rfl
  | freeze => exact hsame rfl

end

/-! ## Limits that rise

The two operations that raise limits of streams: the completed handshake, for all of them,
and a report about one. -/

section

variable {s : StreamSet}

/-- The limit of a stream that was opened rises to the one announced; nothing
else changes about sending. -/
theorem view_send_onMaxStreamData (hs : s.Orderly) (hfrozen : s.frozen = false)
    (id id' : StreamId) (limit : Nat) : (s.onMaxStreamData id' limit).view.send id =
      if id' = id ∧ s.Used id then (s.view.send id).map (·.extend limit)
      else s.view.send id := by
  rw [onMaxStreamData, if_neg (Bool.eq_false_iff.1 hfrozen)]
  split
  · next hnone =>
    -- whoever was opened and has no half for sending has none in the view either
    split
    · next hnamed =>
      obtain ⟨rfl, hused⟩ := hnamed
      have hsend : s.view.send id' = none := by
        rw [sendHalf?] at hnone
        simp only [view, peek, hused, ↓reduceIte, hnone, Option.map_none]
      rw [hsend, Option.map_none]
    · rfl
  next h hsend =>
  obtain ⟨st, hget, hst⟩ := sendHalf?_eq_some hsend
  have hview := view_send_of_send hs hget hst
  have hused := hs.used hget
  have hraised (h' : SendHalf) (hplain : h'.plain = h.plain.extend limit) :
      (s.setSend id' h').view.send id =
        if id' = id ∧ s.Used id then (s.view.send id).map (·.extend limit)
        else s.view.send id := by
    rw [view_setSend hs hget, View.send_setSend]
    by_cases hid : id' = id
    · subst hid
      rw [if_pos rfl, if_pos ⟨rfl, hused⟩, hview, Option.map_some, hplain]
    · rw [if_neg (Ne.symm hid), if_neg fun hnamed => hid hnamed.1]
  split
  · next hstale =>
    split
    · next hnamed =>
      obtain ⟨rfl, -⟩ := hnamed
      rw [hview, Option.map_some, SendHalf.extend, SendWindow.extend]
      change some h.plain = some { h.plain with window.limit := max h.window.limit limit }
      rw [Nat.max_eq_left hstale]
      rfl
    · rfl
  · simp only
    split
    · exact hraised _ rfl
    · exact hraised _ rfl

end

/-! ## What was announced

What a run says about the limit of one stream: the parameters of the peer, and the largest
limit that was announced for it. `Raised` is the invariant that the limit is the larger of
the two. -/

/-- The limit that a step announces for a stream, zero for none. When everything
has stopped nothing counts, and what comes before a stream of our own is opened
is not about that stream. -/
def Entry.announced (id : StreamId) (e : Entry) : Nat :=
  if e.before.frozen = false ∧ (id.IsLocal e.before.side → e.before.Used id) then
    (e.op.limitFor id).getD 0
  else 0

/-- The parameters of the peer that a step brings into force. -/
def Entry.peer? (e : Entry) : Option TransportParameters :=
  if e.before.frozen then none else e.op.peer?

/-- Whether a step announces a limit for a stream that was not opened yet. -/
def Entry.isEarly (id : StreamId) (e : Entry) : Bool :=
  (e.op.limitFor id).isSome && !e.before.frozen && !decide (e.before.Used id)

/-- The largest limit that a run announces for a stream. -/
def announced (id : StreamId) (t : List Entry) : Nat := (t.map (·.announced id)).foldr max 0

/-- The parameters of the peer that a run brings into force. -/
def peerOf (t : List Entry) : Option TransportParameters := t.findSome? (·.peer?)

/-- The parameters are those of the first handshake that was heard. -/
theorem peerOf_cons (e : Entry) (t : List Entry) : peerOf (e :: t) = e.peer?.or (peerOf t) := by
  rw [peerOf, List.findSome?_cons]
  cases e.peer? <;> rfl

/-- The limit of a stream is the largest of the one it was opened with, or will
be, and those announced for it. -/
structure Raised (id : StreamId) (reached : Nat) (s : StreamSet) : Prop where
  /-- nothing was announced before the stream was opened -/
  fresh : ¬ s.Used id → reached = 0
  /-- what the peer allows for the stream, by whatever it said it -/
  limit : ∀ h, s.view.send id = some h →
    h.window.limit = max (sendLimitFor s.side s.peerParams id) reached

/-- Nothing was announced for a new set. -/
theorem raised_new (side : Side) (own : TransportParameters) (id : StreamId) :
    Raised id 0 (new side own) where
  fresh _ := rfl
  limit h hsend := by
    rw [eq_of_view_send_new hsend]
    rfl

section

variable {s s' : StreamSet} {op : Operation} {id : StreamId} {reached : Nat}

/-- A step that is about another stream announces nothing for this one. -/
theorem announced_entry_of_none (hlimit : op.limitFor id = none) :
    (s.entry op).announced id = 0 := by
  simp only [Entry.announced, entry, hlimit, Option.getD_none, ite_self]

/-- Where limits and parameters stay, the limit is the one it was. -/
theorem Raised.same (hr : Raised id reached s) (hages : s.Ages s')
    (hpeer : s'.peerParams = s.peerParams) (hsame : s.view.SameLimits s'.view) :
    Raised id reached s' where
  fresh hused := hr.fresh fun h => hused (hages.used h)
  limit h' hsend := by
    obtain ⟨h, hold, hlimit⟩ := hsame id h' hsend
    rw [hlimit, hages.side, hpeer]
    exact hr.limit h hold

/-- A limit that is announced is taken if it is higher, on a stream that is there. One of
the peer's that is not opened so far is where limits are lost, which the condition excludes. -/
theorem Raised.onMaxStreamData (hr : Raised id reached s) (hs : s.Orderly) {id' : StreamId}
    {limit : Nat}
    (htimely : id.IsLocal s.side ∨ (s.entry (.maxStreamData id' limit)).isEarly id = false) :
    Raised id (max reached ((s.entry (.maxStreamData id' limit)).announced id))
      (s.onMaxStreamData id' limit) := by
  have hkeeps := keeps_onMaxStreamData s id' limit
  by_cases hfrozen : s.frozen = true
  · have hzero : (s.entry (.maxStreamData id' limit)).announced id = 0 := by
      refine if_neg fun hcounts => ?_
      exact Bool.eq_false_iff.1 hcounts.1 hfrozen
    rw [hzero, Nat.max_zero, StreamSet.onMaxStreamData, if_pos hfrozen]
    exact hr
  rw [Bool.not_eq_true] at hfrozen
  have hview := view_send_onMaxStreamData hs hfrozen id id' limit
  -- the limit is for this stream and finds it, or it counts for nothing
  by_cases hraised : id' = id ∧ s.Used id
  · obtain ⟨rfl, hused⟩ := hraised
    have hannounced : (s.entry (.maxStreamData id' limit)).announced id' = limit := by
      simp only [Entry.announced, entry, hfrozen, hused, implies_true, and_self, ↓reduceIte,
        Operation.limitFor, Option.getD_some]
    rw [if_pos ⟨rfl, hused⟩] at hview
    refine ⟨fun hfresh => absurd ((hkeeps.used_iff id').2 hused) hfresh, fun h' hsend => ?_⟩
    rw [hview] at hsend
    obtain ⟨h, hold, rfl⟩ := Option.map_eq_some_iff.1 hsend
    rw [hannounced, hkeeps.side, hkeeps.peerParams, ← Nat.max_assoc, ← hr.limit h hold]
    rfl
  · -- the limit is another stream's, or it comes before the stream was opened
    have hzero : (s.entry (.maxStreamData id' limit)).announced id = 0 := by
      by_cases hid : id' = id
      · have hused : ¬ s.Used id := fun hused => hraised ⟨hid, hused⟩
        rcases htimely with hlocal | htimely
        · exact if_neg fun hcounts => hused (hcounts.2 hlocal)
        · simp [Entry.isEarly, entry, Operation.limitFor, hid, hfrozen, hused] at htimely
      · exact announced_entry_of_none (if_neg hid)
    rw [if_neg hraised] at hview
    rw [hzero, Nat.max_zero]
    refine ⟨fun hfresh => hr.fresh fun hused => hfresh ((hkeeps.used_iff id).2 hused),
      fun h hsend => ?_⟩
    rw [hview] at hsend
    rw [hkeeps.side, hkeeps.peerParams]
    exact hr.limit h hsend

/-- The first handshake gives every stream the limit that the peer's parameters
set for it, unless a larger one was announced. -/
theorem Raised.onHandshakeCompleted (hr : Raised id reached s) (hs : s.Orderly)
    (hfrozen : s.frozen = false) (hfirst : s.peerParams = none) (peer : TransportParameters) :
    Raised id reached (s.onHandshakeCompleted peer) := by
  obtain ⟨-, hside, -, -, hpeer⟩ := setup_onHandshakeCompleted hs peer
  rw [if_neg (Bool.eq_false_iff.1 hfrozen)] at hpeer
  have hages := ages_onHandshakeCompleted s peer
  refine ⟨fun hused => hr.fresh fun h => hused (hages.used h), fun h' hsend => ?_⟩
  rw [view_onHandshakeCompleted hfrozen (.inl hfirst)] at hsend
  obtain ⟨h, hold, rfl⟩ := Option.map_eq_some_iff.1 hsend
  have hlimit := hr.limit h hold
  rw [hfirst] at hlimit
  change max h.window.limit (sendLimitFor s.side (some peer) id) = _
  rw [hlimit, hside, hpeer]
  change max (max 0 reached) _ = _
  rw [Nat.zero_max, Nat.max_comm]

/-- What one step announces is in force after it. -/
theorem Raised.perform (hr : Raised id reached s) (hs : s.Orderly) (hop : op.Fits)
    (hfirst : s.peerParams = none ∨ op.peer? = none)
    (htimely : id.IsLocal s.side ∨ (s.entry op).isEarly id = false) :
    Raised id (max reached ((s.entry op).announced id)) (s.perform op).2 ∧
      (s.perform op).2.peerParams = s.peerParams.or (s.entry op).peer? := by
  have hages := ((steps_perform s hop).orderly hs).2
  have hnone (hpeer : op.peer? = none) : s.peerParams.or (s.entry op).peer? = s.peerParams := by
    simp only [Entry.peer?, entry, hpeer, ite_self, Option.or_none]
  have hordinary (hpeer : op.peer? = none) (hlimit : ∀ id, op.limitFor id = none)
      (hsetup : (s.perform op).2.peerParams = s.peerParams) :
      Raised id (max reached ((s.entry op).announced id)) (s.perform op).2 ∧
        (s.perform op).2.peerParams = s.peerParams.or (s.entry op).peer? := by
    rw [announced_entry_of_none (hlimit id), Nat.max_zero, hnone hpeer]
    exact ⟨hr.same hages hsetup (sameLimits_perform hs hop hpeer hlimit), hsetup⟩
  -- only the handshake and a stream limit say anything about a limit of `id`
  cases op with
  | handshakeCompleted peer =>
    have hzero : (s.entry (.handshakeCompleted peer)).announced id = 0 :=
      announced_entry_of_none rfl
    obtain hfirst := hfirst.resolve_right nofun
    rw [hzero, Nat.max_zero, hfirst, Option.none_or]
    by_cases hfrozen : s.frozen = true
    · have hnothing : s.onHandshakeCompleted peer = s := if_pos hfrozen
      have hstay : (s.perform (.handshakeCompleted peer)).2 = s := hnothing
      rw [hstay]
      exact ⟨hr, hfirst.trans (if_pos hfrozen).symm⟩
    · refine ⟨hr.onHandshakeCompleted hs (Bool.eq_false_iff.2 hfrozen) hfirst peer, ?_⟩
      obtain ⟨-, -, -, -, hpeer⟩ := setup_onHandshakeCompleted hs peer
      rw [if_neg hfrozen] at hpeer
      exact hpeer.trans (if_neg hfrozen).symm
  | maxStreamData id' limit =>
    rw [hnone rfl]
    exact ⟨hr.onMaxStreamData hs htimely, (keeps_onMaxStreamData s id' limit).peerParams⟩
  | freeze => exact hordinary rfl (fun _ => rfl) rfl
  | _ => exact hordinary rfl (fun _ => rfl) (setup_perform hs hop rfl nofun).peerParams

/-- What a run announces is in force after it, if there is one handshake at most. -/
theorem raised_after (hr : Raised id reached s) (hs : s.Orderly) {ops : List Operation}
    (hops : ∀ op ∈ ops, op.Fits)
    (hfirst : s.peerParams = none ∨ ops.filterMap Operation.peer? = [])
    (hone : (ops.filterMap Operation.peer?).length ≤ 1)
    (htimely : id.IsLocal s.side ∨ ∀ e ∈ s.trace ops, e.isEarly id = false) :
    Raised id (max reached (announced id (s.trace ops))) (s.after ops) ∧
      (s.after ops).peerParams = s.peerParams.or (peerOf (s.trace ops)) := by
  induction ops generalizing s reached with
  | nil =>
    change Raised id (max reached 0) s ∧ s.peerParams = s.peerParams.or none
    rw [Nat.max_zero, Option.or_none]
    exact ⟨hr, rfl⟩
  | cons op rest ih =>
    rw [List.forall_mem_cons] at hops
    rw [trace, List.forall_mem_cons] at htimely
    have hnow : s.peerParams = none ∨ op.peer? = none := by
      refine hfirst.imp_right fun hnone => ?_
      exact List.filterMap_eq_nil_iff.1 hnone op List.mem_cons_self
    obtain ⟨hstep, hpeer⟩ := hr.perform hs hops.1 hnow (htimely.imp_right And.left)
    obtain ⟨hs', hages⟩ := (steps_perform s hops.1).orderly hs
    -- after a handshake there is no other
    have hlater : (s.perform op).2.peerParams = none ∨ rest.filterMap Operation.peer? = [] := by
      rcases hop : op.peer? with _ | peer
      · rw [List.filterMap_cons_none hop] at hfirst
        refine hfirst.imp_left fun hnone => ?_
        rw [hpeer, hnone, Option.none_or]
        simp only [Entry.peer?, entry, hop, ite_self]
      · rw [List.filterMap_cons_some hop, List.length_cons] at hone
        exact .inr (List.length_eq_zero_iff.1 (by omega))
    have hfew : (rest.filterMap Operation.peer?).length ≤ 1 :=
      Nat.le_trans ((List.sublist_cons_self op rest).filterMap _).length_le hone
    have hside : id.IsLocal s.side ↔ id.IsLocal (s.perform op).2.side := by rw [hages.side]
    obtain ⟨hrest, hpeerRest⟩ :=
      ih hstep hs' hops.2 hlater hfew (htimely.imp hside.1 And.right)
    refine ⟨?_, ?_⟩
    · rw [Nat.max_assoc] at hrest
      exact hrest
    · rw [hpeer, Option.or_assoc] at hpeerRest
      rw [trace, peerOf_cons]
      exact hpeerRest

/-! ### As long as nothing has stopped

What is said about a frozen set of streams has no effect, so that runs are looked at up to
the end. -/

/-- Only the end stops everything. -/
theorem frozen_perform (hs : s.Orderly) (hop : op.Fits) (hend : op ≠ .freeze) :
    (s.perform op).2.frozen = s.frozen := by
  rcases hpeer : op.peer? with _ | peer
  · exact (setup_perform hs hop hpeer hend).frozen
  · cases op with
    | handshakeCompleted peer => exact (setup_onHandshakeCompleted hs peer).2.2.2.1
    | _ => cases hpeer

/-- What a run announces is told by its operations alone, if it does not stop and
announces nothing early. -/
theorem announced_trace (hs : s.Orderly) (hfrozen : s.frozen = false) {ops : List Operation}
    (hops : ∀ op ∈ ops, op.Fits) (hgoes : .freeze ∉ ops)
    (htimely : ∀ e ∈ s.trace ops, e.isEarly id = false) :
    announced id (s.trace ops) = (ops.map fun op => (op.limitFor id).getD 0).foldr max 0 ∧
      peerOf (s.trace ops) = (ops.filterMap Operation.peer?).head? := by
  induction ops generalizing s with
  | nil => exact ⟨rfl, rfl⟩
  | cons op rest ih =>
    rw [List.forall_mem_cons] at hops
    rw [List.mem_cons, not_or] at hgoes
    rw [trace, List.forall_mem_cons] at htimely
    have hend : op ≠ .freeze := fun heq => hgoes.1 heq.symm
    obtain ⟨hrest, hpeer⟩ := ih (orderly_perform hs hops.1)
      ((frozen_perform hs hops.1 hend).trans hfrozen) hops.2 hgoes.2 htimely.2
    -- no entry comes early, so whatever names `id` counts
    have hfirst : (s.entry op).announced id = (op.limitFor id).getD 0 := by
      rcases hlimit : op.limitFor id with _ | limit
      · exact announced_entry_of_none hlimit
      · have hused : s.Used id := by
          simpa [Entry.isEarly, hlimit, hfrozen] using htimely.1
        simp only [Entry.announced, entry, hfrozen, hused, implies_true, and_self, ↓reduceIte,
          hlimit]
    refine ⟨?_, ?_⟩
    · rw [trace, announced, List.map_cons, List.foldr_cons, List.map_cons, List.foldr_cons]
      exact congrArg₂ max hfirst hrest
    · have hop : (s.entry op).peer? = op.peer? := if_neg (Bool.eq_false_iff.1 hfrozen)
      have hcons : peerOf (s.trace (op :: rest)) = op.peer?.or (peerOf _) :=
        (peerOf_cons (s.entry op) _).trans (congrArg (Option.or · _) hop)
      rw [hcons, hpeer]
      rcases hnone : op.peer? with _ | peer
      · rw [List.filterMap_cons_none hnone, Option.none_or]
      · rw [List.filterMap_cons_some hnone, List.head?_cons, Option.some_or]

end

/-! ## The result

The invariant at the end of a run. It does not depend on the order of the operations, and
neither does the limit. -/

/-- **The largest limit counts.** In a run with one handshake at most, the limit of
every live stream is the largest of the one that the peer's parameters set for it, which
is none before the handshake, and of those that the peer has announced for it; of a
stream of ours, since it was opened. Of a stream of the peer's this supposes that no
limit is announced before the stream is opened.

So the order does not matter: whoever performs the same operations in another
order, without stopping and without announcing a limit early, ends in the same
limit. -/
theorem limit_is_largest (side : Side) (own : TransportParameters) (id : StreamId)
    (ops : List Operation) (hops : ∀ op ∈ ops, op.Fits)
    (hone : (ops.filterMap Operation.peer?).length ≤ 1)
    (htimely : id.IsLocal side ∨ ∀ e ∈ (new side own).trace ops, e.isEarly id = false) :
    let s := (new side own).after ops
    let t := (new side own).trace ops
    (∀ st h, s.streams.get? id = some st → st.send = some h →
      h.window.limit = max (sendLimitFor side (peerOf t) id) (announced id t)) ∧
      ∀ ops', ops'.Perm ops → .freeze ∉ ops → (∀ e ∈ t, e.isEarly id = false) →
        (∀ e ∈ (new side own).trace ops', e.isEarly id = false) →
        ∀ st h st' h', s.streams.get? id = some st → st.send = some h →
          ((new side own).after ops').streams.get? id = some st' → st'.send = some h' →
          h'.window.limit = h.window.limit := by
  intro s t
  -- what holds of the run holds of the other as well
  have hlimit {ops : List Operation} (hops : ∀ op ∈ ops, op.Fits)
      (hone : (ops.filterMap Operation.peer?).length ≤ 1)
      (htimely : id.IsLocal side ∨ ∀ e ∈ (new side own).trace ops, e.isEarly id = false)
      {st : Stream} {h : SendHalf} (hget : ((new side own).after ops).streams.get? id = some st)
      (hsend : st.send = some h) : h.window.limit =
        max (sendLimitFor side (peerOf ((new side own).trace ops)) id)
          (announced id ((new side own).trace ops)) := by
    have hs := orderly_new side own
    obtain ⟨hraised, hpeer⟩ :=
      raised_after (raised_new side own id) hs hops (.inl rfl) hone htimely
    obtain ⟨hs', hages⟩ := (steps_after (new side own) hops).orderly hs
    have hview := view_send_of_get? hs' hget
    rw [hsend] at hview
    have hraised := hraised.limit _ hview
    rw [hages.side, hpeer, Nat.zero_max] at hraised
    exact hraised
  refine ⟨fun st h hget hsend => hlimit hops hone htimely hget hsend, ?_⟩
  intro ops' hperm hgoes htimely htimely' st h st' h' hget hsend hget' hsend'
  have hops' : ∀ op ∈ ops', op.Fits := fun op hop => hops op (hperm.subset hop)
  have hone' : (ops'.filterMap Operation.peer?).length ≤ 1 := by
    rw [(hperm.filterMap _).length_eq]
    exact hone
  have hgoes' : .freeze ∉ ops' := fun hmem => hgoes (hperm.subset hmem)
  obtain ⟨hannounced, hpeer⟩ := announced_trace (orderly_new side own) rfl hops hgoes htimely
  obtain ⟨hannounced', hpeer'⟩ := announced_trace (orderly_new side own) rfl hops' hgoes' htimely'
  have hsamePeer : (ops'.filterMap Operation.peer?).head? =
      (ops.filterMap Operation.peer?).head? := by
    have hsame := hperm.filterMap Operation.peer?
    rcases Nat.le_one_iff_eq_zero_or_eq_one.1 hone with hnone | hsome
    · rw [List.length_eq_zero_iff.1 hnone] at hsame ⊢
      rw [hsame.eq_nil]
    · obtain ⟨peer, hpeer⟩ := List.length_eq_one_iff.1 hsome
      rw [hpeer] at hsame ⊢
      rw [List.perm_singleton.1 hsame]
  rw [hlimit hops hone (.inr htimely) hget hsend, hlimit hops' hone' (.inr htimely') hget' hsend',
    hpeer, hpeer', hannounced, hannounced', hsamePeer, (hperm.map _).foldr_op_eq]

/-- A limit for the peer's stream before the handshake is complete, and another
after it. -/
def raisedEarlyOn : List Operation :=
  [.streamData ⟨0⟩ 0 [1] false, .maxStreamData ⟨0⟩ 100,
    .handshakeCompleted { initialMaxStreamDataBidiLocal := 10 }, .maxStreamData ⟨0⟩ 60]

/-- The handshake first, and the limits the other way round. -/
def raisedLate : List Operation :=
  [.handshakeCompleted { initialMaxStreamDataBidiLocal := 10 }, .streamData ⟨0⟩ 0 [1] false,
    .maxStreamData ⟨0⟩ 60, .maxStreamData ⟨0⟩ 100]

/-- The same limits in another order make the same limit. -/
theorem limit_is_largest_raisedEarlyOn :
    ∃ h h', ((new .server {}).after raisedEarlyOn).sendHalf? ⟨0⟩ = some h ∧
      ((new .server {}).after raisedLate).sendHalf? ⟨0⟩ = some h' ∧
      h.window.limit = 100 ∧ h'.window.limit = 100 := by
  obtain ⟨hlargest, horder⟩ := limit_is_largest .server {} ⟨0⟩ raisedEarlyOn (by decide)
    (by decide) (.inr (by decide))
  have hlive : (((new .server {}).after raisedEarlyOn).sendHalf? ⟨0⟩).isSome = true := by decide
  have hlive' : (((new .server {}).after raisedLate).sendHalf? ⟨0⟩).isSome = true := by decide
  obtain ⟨h, hhalf⟩ := Option.isSome_iff_exists.1 hlive
  obtain ⟨h', hhalf'⟩ := Option.isSome_iff_exists.1 hlive'
  obtain ⟨st, hget, hsend⟩ := sendHalf?_eq_some hhalf
  obtain ⟨st', hget', hsend'⟩ := sendHalf?_eq_some hhalf'
  have hlimit : h.window.limit = 100 := hlargest st h hget hsend
  have hperm : raisedLate.Perm raisedEarlyOn := by
    refine List.Perm.trans ?_ (@List.perm_middle Operation _ [_, _] [_]).symm
    exact ((List.Perm.swap _ _ []).cons _).cons _
  refine ⟨h, h', hhalf, hhalf', hlimit, ?_⟩
  rw [horder raisedLate hperm (by simp [raisedEarlyOn]) (by decide) (by decide) st h st' h' hget
    hsend hget' hsend', hlimit]

/-- The peer raises the limit of a stream that it opens only afterwards. -/
def raisedTooEarly : List Operation :=
  [.handshakeCompleted { initialMaxStreamDataBidiLocal := 10 }, .maxStreamData ⟨0⟩ 100,
    .streamData ⟨0⟩ 0 [1] false]

/-- The raised limit is lost: it was announced, but the stream has the limit of
the handshake. The other way round the stream has the raised one. -/
theorem dropped_early :
    let t := (new .server {}).trace raisedTooEarly
    max (sendLimitFor .server (peerOf t) ⟨0⟩) (announced ⟨0⟩ t) = 100 ∧
      (((new .server {}).after raisedTooEarly).sendHalf? ⟨0⟩).map (·.window.limit) = some 10 ∧
      (((new .server {}).after raisedLate).sendHalf? ⟨0⟩).map (·.window.limit) = some 100 :=
  ⟨by decide, by decide, by decide⟩

end StreamSet

end QuicHost
