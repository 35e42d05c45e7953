import QuicHost.Proofs.Stream.Reading
import QuicHost.Proofs.Table

/-!
# What was acknowledged

For every stream, a tally is kept of the bytes that were accepted and of those that
the peer acknowledged, each acknowledgement counted up to what had been accepted by
then; and of whether our half was abandoned. The tally of a stream outlasts the
stream. A stream is short when bytes are missing that nobody gave up.

The set of streams knows nothing of tallies, and looks only at streams that are live.
This is enough (`Reckons.writesIncomplete_iff`): a stream goes when its sending half
has ended, and a half ends by being abandoned or with everything acknowledged.

A tally is exact, while a sending half adds up in words and begins at zero again when
a sum is too large. The two agree as long as the sums fit (`Posting.AllFit`).
-/

namespace QuicHost

/-! ## Tallies

Accounts of one stream, kept from what is posted about it. A tally is exact: it does not
know of words, and clamps what is acknowledged at what was accepted by then. -/

/-- What matters to whether everything that was written arrives. -/
inductive Posting where
  /-- a write accepted bytes -/
  | accepted (id : StreamId) (n : Nat)
  /-- the peer acknowledged bytes -/
  | acked (id : StreamId) (n : Nat)
  /-- the sending half was abandoned -/
  | abandoned (id : StreamId)
deriving DecidableEq

/-- The stream that a posting is about. -/
def Posting.streamId : Posting → StreamId
  | accepted id _ => id
  | acked id _ => id
  | abandoned id => id

/-- What was counted on one stream. -/
structure Tally where
  /-- bytes accepted -/
  accepted : Nat := 0
  /-- bytes acknowledged -/
  acked : Nat := 0
  /-- whether the sending half was abandoned -/
  abandoned : Bool := false

namespace Tally

/-- Counts a posting. No more bytes are acknowledged than were accepted so far. -/
def post (t : Tally) : Posting → Tally
  | .accepted _ n => { t with accepted := t.accepted + n }
  | .acked _ n => { t with acked := min (t.acked + n) t.accepted }
  | .abandoned _ => { t with abandoned := true }

/-- The tally of a stream, of the postings that are about it. -/
def of (id : StreamId) (ps : List Posting) : Tally :=
  (ps.filter (·.streamId = id)).foldl post {}

/-- Whether bytes are missing that nobody gave up. -/
def IsShort (t : Tally) : Prop := t.abandoned = false ∧ t.acked < t.accepted

instance (t : Tally) : Decidable t.IsShort := inferInstanceAs (Decidable (_ ∧ _))

/-- One more posting counts for its own stream. -/
theorem of_concat (id : StreamId) (ps : List Posting) (p : Posting) :
    of id (ps ++ [p]) = if p.streamId = id then (of id ps).post p else of id ps := by
  rw [of, List.filter_append, List.foldl_append]
  split
  · next h =>
    rw [List.filter_cons_of_pos (by simpa using h)]
    rfl
  · next h =>
    rw [List.filter_cons_of_neg (by simpa using h)]
    rfl

/-- A stream that nothing was posted about is not short. -/
theorem not_isShort_of_forall_ne {id : StreamId} {ps : List Posting}
    (h : ∀ p ∈ ps, p.streamId ≠ id) : ¬ (of id ps).IsShort := by
  have hnone : ps.filter (·.streamId = id) = [] :=
    List.filter_eq_nil_iff.2 fun p hp => by simpa using h p hp
  rw [of, hnone]
  exact fun hshort => Nat.lt_irrefl 0 hshort.2

/-- Acknowledgements and giving up leave no stream short that was not. -/
theorem not_isShort_post {t : Tally} (h : ¬ t.IsShort) {p : Posting}
    (hp : ∀ id n, p ≠ .accepted id n) : ¬ (t.post p).IsShort := by
  cases p with
  | accepted id n => exact absurd rfl (hp id n)
  | acked id n =>
    rintro ⟨hkept, hless⟩
    have hcapped : min (t.acked + n) t.accepted < t.accepted := hless
    exact h ⟨hkept, by omega⟩
  | abandoned id => exact fun hshort => Bool.noConfusion hshort.1

end Tally

/-- Whether the acknowledgement that is posted behind others fits a word together with
those that were counted on its stream. -/
def Posting.Fits (ps : List Posting) : Posting → Prop
  | acked id n => (Tally.of id ps).acked + n ≤ maxWord
  | _ => True

instance (ps : List Posting) : DecidablePred (Posting.Fits ps)
  | .acked id n => inferInstanceAs (Decidable ((Tally.of id ps).acked + n ≤ maxWord))
  | .accepted .. | .abandoned _ => .isTrue trivial

/-- Whether all acknowledgements fit a word, each on top of those before it. -/
def Posting.AllFit (ps : List Posting) : Prop :=
  ∀ i (h : i < ps.length), Posting.Fits (ps.take i) ps[i]

instance (ps : List Posting) : Decidable (Posting.AllFit ps) :=
  inferInstanceAs (Decidable (∀ i (h : i < ps.length), Posting.Fits (ps.take i) ps[i]))

namespace Posting.AllFit

variable {ps qs : List Posting} {p : Posting}

theorem of_append (h : AllFit (ps ++ qs)) : AllFit ps := by
  intro i hi
  have hfits := h i (by rw [List.length_append]; omega)
  rwa [List.getElem_append_left hi, List.take_append_of_le_length (Nat.le_of_lt hi)] at hfits

theorem last (h : AllFit (ps ++ [p])) : p.Fits ps := by
  have hfits := h ps.length (by simp)
  rwa [List.getElem_concat_length rfl, List.take_left] at hfits

end Posting.AllFit

/-! ## Sending halves

A half agrees with the tally of its stream as long as it was not abandoned. What is added
up in words is compared with what is added up exactly, under the assumption that sums fit. -/

namespace SendHalf

/-- A sending half has counted what the tally of its stream says. -/
structure Accounts (h : SendHalf) (t : Tally) : Prop where
  /-- reset exactly if the tally says that it was abandoned -/
  abandoned : h.state = .resetSent ↔ t.abandoned = true
  accepted : t.abandoned = false → h.buffer.accepted = t.accepted
  /-- what was acknowledged, up to what was accepted -/
  acked : t.abandoned = false → h.buffer.acked = t.acked
  /-- a half that has ended without being abandoned misses nothing -/
  complete : h.state = .dataRecvd → h.buffer.acked = h.buffer.accepted

variable {h : SendHalf} {t : Tally}

theorem accounts_ofLimit (limit : Nat) : (ofLimit limit).Accounts {} :=
  ⟨⟨nofun, nofun⟩, fun _ => rfl, fun _ => rfl, nofun⟩

/-- How far a half has come, and what it has counted. Credit does not belong to it. -/
def progress (h : SendHalf) : SendState × SendBuffer := (h.state, h.buffer)

/-- The tally is about progress, not about credit. -/
theorem Accounts.congr (ha : h.Accounts t) {h' : SendHalf} (heq : h'.progress = h.progress) :
    h'.Accounts t := by
  obtain ⟨hstate, hbuffer⟩ := Prod.mk.inj heq
  obtain ⟨habandoned, haccepted, hacked, hcomplete⟩ := ha
  rw [← hstate] at habandoned hcomplete
  rw [← hbuffer] at haccepted hacked hcomplete
  exact ⟨habandoned, haccepted, hacked, hcomplete⟩

/-- What a half accepts is posted as accepted. It was not abandoned, since it is writable. -/
theorem Accounts.accept (ha : h.Accounts t) (hwritable : h.state.isWritable = true) (id : StreamId)
    (n : Nat) (fin : Bool) : (h.accept n fin).Accounts (t.post (.accepted id n)) := by
  have hkept : t.abandoned = false := by
    rw [← Bool.not_eq_true, ← ha.abandoned]
    intro hstate
    rw [hstate] at hwritable
    cases hwritable
  -- a writable half stays writable or has its FIN accepted; either way it is not reset and
  -- not done
  have hstate : (h.accept n fin).state.isWritable = true ∨ (h.accept n fin).state = .dataSent := by
    rw [SendHalf.accept]
    dsimp only
    split
    · exact .inr rfl
    · split
      · exact .inl rfl
      · exact .inl hwritable
  have hbuffer : (h.accept n fin).buffer.accepted = h.buffer.accepted + n ∧
      (h.accept n fin).buffer.acked = h.buffer.acked := by
    rw [SendHalf.accept]
    dsimp only
    split <;> exact ⟨rfl, rfl⟩
  refine ⟨⟨fun hreset => ?_, fun habandoned => ?_⟩, fun _ => ?_, fun _ => ?_, fun hended => ?_⟩
  · rcases hstate with hstate | hstate
    · rw [hreset] at hstate
      cases hstate
    · rw [hreset] at hstate
      cases hstate
  · exact absurd habandoned (Bool.eq_false_iff.1 hkept)
  · rw [hbuffer.1, ha.accepted hkept]
    rfl
  · rw [hbuffer.2, ha.acked hkept]
    rfl
  · rcases hstate with hstate | hstate
    · rw [hended] at hstate
      cases hstate
    · rw [hended] at hstate
      cases hstate

/-- Acknowledgements are counted as they are posted, if the sum fits a word. -/
theorem Accounts.acknowledge (ha : h.Accounts t) (id : StreamId) {n : Nat}
    (hn : t.acked + n ≤ maxWord) : (h.acknowledge n).Accounts (t.post (.acked id n)) := by
  have hreset : (h.acknowledge n).state = .resetSent ↔ h.state = .resetSent := by
    rw [SendHalf.acknowledge]
    dsimp only
    split
    · next hends => simp [hends.1]
    · rfl
  -- the sum of a fitting acknowledgement does not wrap, so the clamp is the one of the
  -- tally
  have hsum (hkept : t.abandoned = false) :
      (h.acknowledge n).buffer.acked = min (t.acked + n) h.buffer.accepted := by
    change min (wrap (h.buffer.acked + n)) h.buffer.accepted = _
    rw [ha.acked hkept, wrap_of_le hn]
  refine ⟨hreset.trans ha.abandoned, fun hkept => ha.accepted hkept, fun hkept => ?_,
    fun hended => ?_⟩
  · rw [hsum hkept, ha.accepted hkept]
    rfl
  · have hkept : t.abandoned = false := by
      rw [← Bool.not_eq_true, ← ha.abandoned, ← hreset, hended]
      exact SendState.noConfusion
    change (h.acknowledge n).buffer.acked = h.buffer.accepted
    rw [SendHalf.acknowledge] at hended
    dsimp only at hended
    split at hended
    · next hends =>
      have hfull := hends.2
      rw [SendBuffer.isFullyAcked, Bool.and_eq_true, beq_iff_eq] at hfull
      exact hfull.2
    · have hcomplete := ha.complete hended
      rw [ha.acked hkept] at hcomplete
      rw [hsum hkept]
      omega

/-- Nothing is asked of an abandoned half but that it is known to be one. -/
theorem accounts_abandon (h : SendHalf) (t : Tally) (id : StreamId) :
    h.abandon.Accounts (t.post (.abandoned id)) where
  abandoned := ⟨fun _ => rfl, fun _ => rfl⟩
  accepted hkept := Bool.noConfusion hkept
  acked hkept := Bool.noConfusion hkept
  complete hended := by cases hended

/-- A half that has ended is not short. -/
theorem Accounts.not_isShort (ha : h.Accounts t) (hterminal : h.state.isTerminal = true) :
    ¬ t.IsShort := by
  rintro ⟨hkept, hless⟩
  cases hstate : h.state with
  | dataRecvd =>
    have hcomplete := ha.complete hstate
    rw [ha.acked hkept, ha.accepted hkept] at hcomplete
    omega
  | resetSent => exact absurd (ha.abandoned.1 hstate) (Bool.eq_false_iff.1 hkept)
  | _ =>
    rw [hstate] at hterminal
    cases hterminal

/-- Whether a half is missing bytes is told by the tally. -/
theorem Accounts.isShort_iff (ha : h.Accounts t) :
    (h.state != .resetSent && decide (0 < h.buffer.unacked)) = true ↔ t.IsShort := by
  rw [Bool.and_eq_true, bne_iff_ne, decide_eq_true_iff, SendBuffer.unacked, Tally.IsShort, ne_eq,
    ha.abandoned, Bool.not_eq_true]
  refine and_congr_right fun hkept => ?_
  rw [ha.acked hkept, ha.accepted hkept]
  omega

end SendHalf

namespace StreamSet

/-! ## All streams

Every live half agrees with its tally, and no stream that is gone is short. So it is
enough to look at the live ones to know whether bytes are missing. -/

/-- The streams have counted what was posted, and those that are gone are not short, if
the sums of acknowledgements fit a word. -/
structure Reckons (s : StreamSet) (ps : List Posting) : Prop where
  orderly : s.Orderly
  /-- a live half has counted as much as the tally of its stream -/
  half : Posting.AllFit ps → ∀ {id h}, s.view.send id = some h → h.Accounts (.of id ps)
  /-- a stream that is gone has nothing missing -/
  gone : Posting.AllFit ps → ∀ {id}, s.view.send id = none → ¬ (Tally.of id ps).IsShort

theorem reckons_new (side : Side) (own : TransportParameters) : (new side own).Reckons [] where
  orderly := orderly_new side own
  half _ {_ _} hsend := by
    rw [eq_of_view_send_new hsend]
    exact SendHalf.accounts_ofLimit 0
  gone _ {_} _ hshort := Nat.lt_irrefl 0 hshort.2

section

variable {s s' : StreamSet} {ps : List Posting} {id : StreamId}

/-- Only live streams can be short. -/
theorem Reckons.live_of_isShort (hr : s.Reckons ps) (hsums : Posting.AllFit ps)
    (hshort : (Tally.of id ps).IsShort) :
    ∃ st h, s.streams.get? id = some st ∧ st.send = some h ∧ h.plain.Accounts (.of id ps) := by
  rcases hsend : s.view.send id with _ | half
  · exact absurd hshort (hr.gone hsums hsend)
  have haccounts := hr.half hsums hsend
  have hused : s.Used id := by
    by_contra hused
    rw [eq_of_view_send_of_not_used hused hsend] at haccounts
    have hnothing := haccounts.accepted hshort.1
    have hless := hshort.2
    rw [← hnothing] at hless
    exact Nat.not_lt_zero _ hless
  simp only [view, peek, if_pos hused] at hsend
  obtain ⟨h, hlive, rfl⟩ := Option.map_eq_some_iff.1 hsend
  obtain ⟨st, hget, hhalf⟩ := Option.bind_eq_some_iff.1 hlive
  exact ⟨st, h, hget, hhalf, haccounts⟩

theorem Reckons.exists_isShort_iff (hr : s.Reckons ps) (hsums : Posting.AllFit ps) :
    (∃ id, s.Used id ∧ (Tally.of id ps).IsShort) ↔ ∃ id, (Tally.of id ps).IsShort := by
  refine exists_congr fun id => and_iff_right_of_imp fun hshort => ?_
  obtain ⟨st, h, hget, -⟩ := hr.live_of_isShort hsums hshort
  exact hr.orderly.used hget

/-- The streams that are live tell whether any stream is short that was ever opened. -/
theorem Reckons.writesIncomplete_iff (hr : s.Reckons ps) (hsums : Posting.AllFit ps) :
    s.writesIncomplete = true ↔ ∃ id, s.Used id ∧ (Tally.of id ps).IsShort := by
  have hmissing (st : Stream) : st.hasUnacked = true ↔ ∃ h, st.send = some h ∧
      (h.state != .resetSent && decide (0 < h.buffer.unacked)) = true :=
    Option.any_eq_true ..
  constructor
  · intro hflag
    obtain ⟨st, hmem, hunacked⟩ := List.any_eq_true.1 hflag
    obtain ⟨id, hget⟩ := Table.mem_values_iff.1 hmem
    obtain ⟨h, hsend, hshort⟩ := (hmissing st).1 hunacked
    have hview := view_send_of_send hr.orderly hget hsend
    exact ⟨id, hr.orderly.used hget, (hr.half hsums hview).isShort_iff.1 hshort⟩
  · rintro ⟨id, -, hshort⟩
    obtain ⟨st, h, hget, hsend, haccounts⟩ := hr.live_of_isShort hsums hshort
    exact List.any_eq_true.2 ⟨st, Table.mem_values_iff.2 ⟨id, hget⟩,
      (hmissing st).2 ⟨h, hsend, haccounts.isShort_iff.2 hshort⟩⟩

/-! ## Idle operations

Operations that neither accept nor acknowledge, nor abandon a half. They may end a stream,
but one whose half has ended already. -/

/-- Whether an operation neither accepts nor acknowledges bytes, nor abandons a sending
half. -/
def Operation.isIdle : Operation → Bool
  | .write _ _ _ => false
  | .resetStream _ => false
  | .peerStop _ _ => false
  | .streamAcked _ _ => false
  | _ => true

/-- All that happens to sending halves is that their credit changes, and that those
which have ended go. -/
def Idles (s s' : StreamSet) : Prop :=
  ∀ id, (s'.view.send id).map SendHalf.progress = (s.view.send id).map SendHalf.progress ∨
    s'.view.send id = none ∧ ∀ h, s.view.send id = some h → h.state.isTerminal = true

theorem idles_of_spares (h : s.view.SparesSend s'.view) : s.Idles s' := fun id =>
  (h.send id).imp_left (congrArg _)

/-- A limit for one stream changes its credit alone. -/
theorem idles_of_raise {limit : Nat} (h : s.view.Raise id limit s'.view) : s.Idles s' := by
  generalize hview : s'.view = v' at h
  rw [Idles, hview]
  cases h with
  | stale => exact fun _ => .inl rfl
  | @raised half hsend _ =>
    intro id'
    rw [View.send_setSend]
    split
    · next heq =>
      subst heq
      rw [hsend]
      exact .inl rfl
    · exact .inl rfl

theorem idles_of_raiseAll {limit : Nat} (h : s.view.RaiseAll limit s'.view) : s.Idles s' := by
  generalize hview : s'.view = v' at h
  rw [Idles, hview]
  cases h <;> exact fun _ => .inl rfl

theorem idles_of_handshake (h : s.view.Handshake s'.view) : s.Idles s' := by
  intro id
  obtain ⟨limit, heq⟩ := h.send id
  rw [heq, Option.map_map]
  exact .inl rfl

/-- Where the halves idle, nothing is posted. A half that goes has ended, so that it is not
short. -/
theorem Reckons.idles (hr : s.Reckons ps) (hs' : s'.Orderly) (h : s.Idles s') : s'.Reckons ps where
  orderly := hs'
  half hsums {id half} hsend := by
    rcases h id with heq | ⟨hnone, -⟩
    · rw [hsend, Option.map_some] at heq
      obtain ⟨before, hbefore, hsame⟩ := Option.map_eq_some_iff.1 heq.symm
      exact (hr.half hsums hbefore).congr hsame.symm
    · rw [hnone] at hsend
      cases hsend
  gone hsums {id} hsend := by
    rcases h id with heq | ⟨-, hterminal⟩
    · rw [hsend, Option.map_none] at heq
      exact hr.gone hsums (Option.map_eq_none_iff.1 heq.symm)
    · rcases hbefore : s.view.send id with _ | half
      · exact hr.gone hsums hbefore
      · exact (hr.half hsums hbefore).not_isShort (hterminal half hbefore)

/-- Idle operations leave the reckoning as it is. -/
theorem Reckons.perform (hr : s.Reckons ps) {op : Operation} (hop : op.Fits)
    (hidle : op.isIdle = true) : (s.perform op).2.Reckons ps := by
  have hs := hr.orderly
  refine hr.idles (orderly_perform hs hop) ?_
  have hsame {s' : StreamSet} (hview : s'.view = s.view) : s.Idles s' :=
    idles_of_spares (View.sparesSend_of_eq (congrArg _ hview) (congrArg _ hview))
  cases op with
  | openStream d => exact hsame (opens_openStream hs d).view
  | read id maxLen => exact idles_of_spares (read_outcome hs id maxLen).2.sparesSend
  | stopSending id => exact idles_of_spares (stopSending_outcome hs id).2.sparesSend
  | handshakeCompleted peer => exact idles_of_handshake (onHandshakeCompleted_outcome s peer)
  | streamData id offset data fin =>
    exact idles_of_spares (onStreamData_outcome hs hop offset data fin).2.sparesSend
  | streamReset id errorCode finalSize =>
    exact idles_of_spares (onStreamReset_outcome hs hop errorCode finalSize).2.sparesSend
  | maxStreamData id limit => exact idles_of_raise (onMaxStreamData_outcome hs id limit).2
  | maxData limit => exact idles_of_raiseAll (onMaxData_outcome hs limit).2
  | maxStreams d n => exact hsame (onMaxStreams_outcome hs d n).2
  | takeEvents => exact hsame rfl
  | freeze => exact hsame rfl
  | _ => cases hidle

theorem Reckons.works {kind : Operation → Prop} (hr : s.Reckons ps) (h : s.Works kind s')
    (hkind : ∀ op, kind op → op.Fits ∧ op.isIdle = true) : s'.Reckons ps :=
  h.keeps (P := fun s => s.Reckons ps)
    (fun hop hreckons => hreckons.perform (hkind _ hop).1 (hkind _ hop).2) hr

/-! ## Operations that are posted

The four operations with a posting: the tally and the half change alike. -/

/-- One sending half changes as its tally does, and may go if it has ended. -/
theorem Reckons.change (hr : s.Reckons ps) (hs' : s'.Orderly) {p : Posting} {h' : SendHalf}
    {w : View} (hchanged : w.send = (s.view.setSend p.streamId h').send)
    (haccounts : Posting.AllFit ps → p.Fits ps → h'.Accounts ((Tally.of p.streamId ps).post p))
    (hreaped : w.Reaped p.streamId s'.view) : s'.Reckons (ps ++ [p]) := by
  have hhalf (hsums : Posting.AllFit (ps ++ [p])) {id : StreamId} {half : SendHalf}
      (hw : w.send id = some half) : half.Accounts (.of id (ps ++ [p])) := by
    rw [hchanged, View.send_setSend] at hw
    rw [Tally.of_concat]
    by_cases hid : id = p.streamId
    · rw [if_pos hid] at hw
      rw [if_pos hid.symm, hid]
      exact Option.some.inj hw ▸ haccounts hsums.of_append hsums.last
    · rw [if_neg hid] at hw
      rw [if_neg (Ne.symm hid)]
      exact hr.half hsums.of_append hw
  have hspares := hreaped.sparesSend
  refine ⟨hs', fun hsums _ _ hsent => hhalf hsums (hspares.send_eq hsent),
    fun hsums id hnone => ?_⟩
  -- gone before this posting, or reaped by it; what is reaped has ended, and an ended half
  -- is not short
  rcases hw : w.send id with _ | half
  · rw [hchanged, View.send_setSend] at hw
    split at hw
    · cases hw
    · next hid =>
      rw [Tally.of_concat, if_neg (Ne.symm hid)]
      exact hr.gone hsums.of_append hw
  · rcases hspares.send id with heq | ⟨-, hterminal⟩
    · rw [hnone, hw] at heq
      cases heq
    · exact (hhalf hsums hw).not_isShort (hterminal half hw)

/-- A write that is refused parks its stream at most. -/
theorem Reckons.write (hr : s.Reckons ps) (id : StreamId) (data : Bytes) (fin : Bool) :
    (s.write id data fin).2.Reckons (ps ++ (match (s.write id data fin).1 with
      | .ok out => [.accepted id out.accepted]
      | .error _ => [])) := by
  obtain ⟨hfollows, hout⟩ := write_outcome hr.orderly id data fin
  generalize hanswer : (s.write id data fin).1 = r at hout ⊢
  generalize hview : (s.write id data fin).2.view = v' at hout
  cases hout with
  | refused e =>
    rw [List.append_nil]
    exact hr.idles hfollows.orderly (idles_of_spares (hview ▸ View.sparesSend_of_eq rfl rfl))
  | @accepted h n hsend hwritable hn =>
    have haccounts (hsums : Posting.AllFit ps) :=
      (hr.half hsums hsend).accept hwritable id n (fin && decide (n = data.length))
    have haccepted :
        WriteOutcome.accepted ⟨data.take n, fin && decide (n = data.length)⟩ = n := by
      rw [WriteOutcome.accepted, List.length_take]
      omega
    dsimp only
    rw [haccepted]
    exact hr.change (w := (s.write id data fin).2.view) hfollows.orderly
      (p := .accepted id n) (hview ▸ rfl) (fun hsums _ => haccounts hsums) .kept

/-- Abandoning a half is posted if it is not refused. -/
theorem Reckons.resetStream (hr : s.Reckons ps) (id : StreamId) :
    (s.resetStream id).2.Reckons (ps ++ (match (s.resetStream id).1 with
      | .ok () => [.abandoned id]
      | .error _ => [])) := by
  obtain ⟨hfollows, hout⟩ := resetStream_outcome hr.orderly id
  generalize hanswer : (s.resetStream id).1 = r at hout ⊢
  generalize hview : (s.resetStream id).2.view = v' at hout
  cases hout with
  | refused e =>
    rw [List.append_nil]
    exact hr.idles hfollows.orderly (idles_of_spares (hview ▸ View.sparesSend_of_eq rfl rfl))
  | @abandoned h _ _ _ hreaped =>
    exact hr.change hfollows.orderly (p := .abandoned id) rfl
      (fun _ _ => h.accounts_abandon _ id) (hview ▸ hreaped)

/-- The wish of the peer counts only if our half was abandoned for it. -/
theorem Reckons.onStopSending (hr : s.Reckons ps) (hid : id.Fits) (errorCode : Nat) :
    (s.onStopSending id errorCode).2.Reckons (ps ++ (match (s.onStopSending id errorCode).1 with
      | .ok true => [.abandoned id]
      | _ => [])) := by
  obtain ⟨hfollows, hout⟩ := onStopSending_outcome hr.orderly hid errorCode
  generalize hanswer : (s.onStopSending id errorCode).1 = r at hout ⊢
  generalize hview : (s.onStopSending id errorCode).2.view = v' at hout
  have hsame (heq : v' = s.view) : (s.onStopSending id errorCode).2.Reckons (ps ++ []) := by
    rw [List.append_nil]
    exact hr.idles hfollows.orderly (idles_of_spares (by
      rw [hview, heq]
      exact View.sparesSend_of_eq rfl rfl))
  cases hout with
  | ignored => exact hsame rfl
  | refused _ => exact hsame rfl
  | @abandoned h _ _ _ hreaped =>
    exact hr.change hfollows.orderly (p := .abandoned id) rfl
      (fun _ _ => h.accounts_abandon _ id) (hview ▸ hreaped)

/-- Nothing is left to acknowledge on a stream that is not live. -/
theorem Reckons.acked_of_not_live (hr : s.Reckons ps) (hnone : s.sendHalf? id = none) (n : Nat) :
    s.Reckons (ps ++ [.acked id n]) where
  orderly := hr.orderly
  half hsums {id' h} hsend := by
    rw [Tally.of_concat]
    split
    · next heq =>
      obtain rfl : id = id' := heq
      have hused : ¬ s.Used id := by
        intro hused
        have hlive : s.view.send id = (s.sendHalf? id).map SendHalf.plain := by
          simp only [view, peek, if_pos hused, sendHalf?]
        rw [hlive, hnone] at hsend
        cases hsend
      have haccounts := (hr.half hsums.of_append hsend).acknowledge id hsums.last
      obtain rfl := eq_of_view_send_of_not_used hused hsend
      -- nothing was accepted on a stream that was not opened
      refine haccounts.congr ?_
      change _ = (SendState.ready, { (∅ : SendBuffer) with acked := min (wrap (0 + n)) 0 })
      rw [Nat.min_zero]
      rfl
    · exact hr.half hsums.of_append hsend
  gone hsums {id'} hgone := by
    rw [Tally.of_concat]
    split
    · exact Tally.not_isShort_post (hr.gone hsums.of_append hgone) (fun _ _ => by simp)
    · exact hr.gone hsums.of_append hgone

/-- An acknowledgement is posted for its stream, also where the stream is gone by then. -/
theorem Reckons.onStreamAcked (hr : s.Reckons ps) (hfrozen : s.frozen = false) (id : StreamId)
    (n : Nat) : (s.onStreamAcked id n).Reckons (ps ++ [.acked id n]) := by
  rw [StreamSet.onStreamAcked, if_neg (Bool.eq_false_iff.1 hfrozen)]
  split
  · next hnone => exact hr.acked_of_not_live hnone n
  · next h hlive =>
    obtain ⟨st, hget, hsend⟩ := sendHalf?_eq_some hlive
    have hview := view_send_of_send hr.orderly hget hsend
    have hkeeps := keeps_setSend s id (h.acknowledge n)
    have hreaped := reaped_reap (hkeeps.orderly hr.orderly) id
    exact hr.change ((keeps_reap _ id).orderly (hkeeps.orderly hr.orderly)) (p := .acked id n)
      (congrArg View.send (view_setSend hr.orderly hget _))
      (fun hsums hfits => ((hr.half hsums hview).acknowledge id hfits).congr rfl) hreaped

end

end StreamSet

end QuicHost
