import QuicHost.Proofs.Stream.Lifetimes

/-!
# Rules for what is told

What is told of a stream makes sense in the order in which it is told: a stream
is opened first and closed last, nothing more can be read after its end, and
nothing is told of a half that somebody has given up. `Occurrence.Bars` is the
list of these rules; each forbids an event after something that has happened.

No rule needs the whole history. What a rule forbids is spent: the half of the stream is
in a state in which no change tells the event any more (`Event.SpentBy`). A change of a
stream tells only what is not spent, spends what it bars, and revives nothing.
-/

namespace QuicHost

/-! ## The rules

Which event may not follow what. Each rule is about one stream, but for the last: nothing
is told once everything has stopped. -/

namespace Event

/-- The stream, if the event is about its receiving half. -/
def receiving? : Event → Option StreamId
  | streamReadable id => some id
  | streamFinished id => some id
  | streamReset id _ => some id
  | _ => none

/-- The stream, if the event is about its sending half. -/
def sending? : Event → Option StreamId
  | streamWritable id => some id
  | stopSending id _ => some id
  | _ => none

end Event

/-- Which events something that has happened bars from then on. -/
inductive Occurrence.Bars : Occurrence → Event → Prop where
  /-- a stream is opened once, and before anything else is told of it -/
  | named {o : Event} {id : StreamId} : o.streamId? = some id → Bars (told o) (.streamOpened id)
  /-- nothing is told of a stream that is closed -/
  | closed {e : Event} {id : StreamId} : e.streamId? = some id → Bars (told (.streamClosed id)) e
  /-- a stream ends once -/
  | finished (id : StreamId) : Bars (told (.streamFinished id)) (.streamFinished id)
  /-- no bytes come after the end -/
  | drained (id : StreamId) : Bars (told (.streamFinished id)) (.streamReadable id)
  /-- nothing is received any more once the peer has abandoned its half -/
  | ended {e : Event} {id : StreamId} (errorCode : Nat) : e.receiving? = some id →
    Bars (told (.streamReset id errorCode)) e
  /-- nothing is received any more once the application wants no more -/
  | stopped {e : Event} {id : StreamId} : e.receiving? = some id → Bars (stopped id) e
  /-- nothing is sent any more once the peer wants no more -/
  | refused {e : Event} {id : StreamId} (errorCode : Nat) : e.sending? = some id →
    Bars (told (.stopSending id errorCode)) e
  /-- nothing is sent any more once the application has abandoned its half -/
  | abandoned {e : Event} {id : StreamId} : e.sending? = some id → Bars (abandoned id) e
  /-- nothing is told when everything has stopped -/
  | frozen (e : Event) : Bars frozen e

/-- Whether no occurrence bars an event that is told after it. -/
def InOrder (os : List Occurrence) : Prop :=
  os.Pairwise fun o o' => ∀ e, o' = .told e → ¬ o.Bars e

/-- Events that do not bar each other may be told in any order. -/
theorem inOrder_of_forall {es : List Event}
    (h : ∀ e ∈ es, ∀ e' ∈ es, ¬ (Occurrence.told e).Bars e') : InOrder (es.map .told) := by
  rw [InOrder, List.pairwise_map, List.pairwise_iff_forall_sublist]
  intro e e' hsublist e'' heq
  obtain rfl := Occurrence.told.inj heq
  have hmem := hsublist.subset
  exact h e (hmem List.mem_cons_self) e' (hmem (List.mem_cons_of_mem _ List.mem_cons_self))

/-! ## What a stream does not tell any more

The rules in terms of the state of a stream. A half that has ended tells nothing of itself
any more; the end of the data is told once; a sending half that was abandoned, and left
the queue, is not told to be writable. -/

/-- Everything up to the end was received, or the half has ended. -/
def RecvHalf.Complete (h : RecvHalf) : Prop :=
  h.state.isTerminal = true ∨ ∃ n, h.buffer.finalSize = some n ∧ n ≤ h.buffer.nextOffset

/-- Whether no change of a live stream tells the event any more. -/
def Event.SpentBy (e : Event) (st : Stream) : Prop :=
  match e with
  | streamOpened _ => True
  | streamReadable _ => ∀ h, st.recv = some h → h.Complete
  | streamFinished _ => ∀ h, st.recv = some h → h.Complete
  | streamReset _ _ => ∀ h, st.recv = some h → h.state.isTerminal = true
  | stopSending _ _ => ∀ h, st.send = some h → h.state.isTerminal = true
  | streamWritable _ => ∀ h, st.send = some h → h.state = .resetSent ∧ h.blocked = false
  | _ => False

namespace Stream

variable {st st' : Stream} {id : StreamId} {os : List Occurrence} {e : Event}

/-- What has ended stays so, half by half. -/
structure Settles (st st' : Stream) : Prop where
  /-- all data there, or an end: both stay -/
  recv : ∀ {h'}, st'.recv = some h' → ∃ h, st.recv = some h ∧ (h.Complete → h'.Complete) ∧
    (h.state.isTerminal = true → h'.state.isTerminal = true)
  /-- an end stays, and so does an abandoned half that waits no more -/
  send : ∀ {h'}, st'.send = some h' → ∃ h, st.send = some h ∧
    (h.state.isTerminal = true → h'.state.isTerminal = true) ∧
    (h.state = .resetSent ∧ h.blocked = false → h'.state = .resetSent ∧ h'.blocked = false)

/-- What is spent stays spent when no half goes back. -/
theorem Settles.spentBy (h : st.Settles st') (hspent : e.SpentBy st) : e.SpentBy st' := by
  cases e with
  | streamOpened _ => trivial
  | streamReadable _ =>
    intro half' hrecv'
    obtain ⟨half, hrecv, hcomplete, -⟩ := h.recv hrecv'
    exact hcomplete (hspent half hrecv)
  | streamFinished _ =>
    intro half' hrecv'
    obtain ⟨half, hrecv, hcomplete, -⟩ := h.recv hrecv'
    exact hcomplete (hspent half hrecv)
  | streamReset _ _ =>
    intro half' hrecv'
    obtain ⟨half, hrecv, -, hterminal⟩ := h.recv hrecv'
    exact hterminal (hspent half hrecv)
  | stopSending _ _ =>
    intro half' hsend'
    obtain ⟨half, hsend, hterminal, -⟩ := h.send hsend'
    exact hterminal (hspent half hsend)
  | streamWritable _ =>
    intro half' hsend'
    obtain ⟨half, hsend, -, hreset⟩ := h.send hsend'
    exact hreset (hspent half hsend)
  | _ => exact hspent.elim

theorem Settles.refl (st : Stream) : st.Settles st :=
  ⟨fun heq => ⟨_, heq, id, id⟩, fun heq => ⟨_, heq, id, id⟩⟩

/-- Only the receiving half changes. -/
theorem settles_recv {h h' : RecvHalf} (hrecv : st.recv = some h)
    (hcomplete : h.Complete → h'.Complete)
    (hterminal : h.state.isTerminal = true → h'.state.isTerminal = true) :
    st.Settles { st with recv := some h' } where
  recv heq := by
    obtain rfl := Option.some.inj heq
    exact ⟨h, hrecv, hcomplete, hterminal⟩
  send heq := ⟨_, heq, id, id⟩

/-- Only the sending half changes. -/
theorem settles_send {h h' : SendHalf} (hsend : st.send = some h)
    (hterminal : h.state.isTerminal = true → h'.state.isTerminal = true)
    (hreset : h.state = .resetSent ∧ h.blocked = false →
      h'.state = .resetSent ∧ h'.blocked = false) :
    st.Settles { st with send := some h' } where
  recv heq := ⟨_, heq, id, id⟩
  send heq := by
    obtain rfl := Option.some.inj heq
    exact ⟨h, hsend, hterminal, hreset⟩

/-- A buffer that holds everything up to the end gets nothing new, and knows its
end. -/
theorem fill_of_complete {h : RecvHalf} (hlive : h.state.isTerminal = false)
    (hcomplete : h.Complete) {offset added : Nat} {data : Bytes} {fin : Bool} {buffer : RecvBuffer}
    (hinsert : h.buffer.insert offset data fin = .ok (added, buffer)) :
    added = 0 ∧ h.buffer.finalSize.isNone = false ∧ (h.fill buffer fin).Complete := by
  obtain ⟨-, hmoves, -, -, hnext, hfinal⟩ := RecvBuffer.insert_eq_ok hinsert
  rcases hcomplete with hterminal | ⟨n, hsize, hle⟩
  · rw [hlive] at hterminal
    cases hterminal
  rw [RecvBuffer.movesFinalSize, hsize, Option.any_some, Bool.or_eq_false_iff,
    decide_eq_false_iff_not, Nat.not_lt] at hmoves
  refine ⟨RecvBuffer.added_eq_zero_of_insert hinsert (by omega), by rw [hsize]; rfl, .inr ?_⟩
  refine ⟨if fin then offset + data.length else n, ?_, ?_⟩
  · simp only [RecvHalf.fill, hfinal, hsize]
    split <;> rfl
  · simp only [RecvHalf.fill, hnext]
    split <;> omega

/-- Whoever has read the end, or hears it a second time, has heard it all. -/
theorem complete_of_fin {h : RecvHalf} {offset added : Nat} {data : Bytes} {buffer : RecvBuffer}
    (hinsert : h.buffer.insert offset data true = .ok (added, buffer)) :
    (h.fill buffer true).Complete := by
  obtain ⟨-, -, -, -, hnext, hfinal⟩ := RecvBuffer.insert_eq_ok hinsert
  refine .inr ⟨offset + data.length, hfinal, ?_⟩
  simp only [RecvHalf.fill, hnext]
  omega

/-- What has ended stays so when a stream changes. -/
theorem Turn.settles (h : st.Turn id os st') : st.Settles st' := by
  cases h with
  | counted w hrecv _ => exact settles_recv hrecv (fun hcomplete => hcomplete) fun hend => hend
  | settled w stopped hrecv _ =>
    exact settles_recv hrecv (fun hcomplete => hcomplete) fun hend => hend
  | filled hrecv hlive hinsert =>
    refine settles_recv hrecv (fun hcomplete => (fill_of_complete hlive hcomplete hinsert).2.2) ?_
    intro hend
    rw [hlive] at hend
    cases hend
  | @read h n w hrecv hlive =>
    refine settles_recv hrecv (fun hcomplete => ?_) fun hend => ?_
    · rcases hcomplete with hend | ⟨size, hsize, hle⟩
      · rw [hlive] at hend
        cases hend
      · refine .inr ⟨size, (RecvBuffer.finalSize_read h.buffer n).trans hsize, ?_⟩
        exact hle.trans_eq (RecvBuffer.nextOffset_read h.buffer n).symm
    · rw [hlive] at hend
      cases hend
  | stopped hrecv _ => exact settles_recv hrecv (fun _ => .inl rfl) fun _ => rfl
  | ended errorCode w hrecv _ => exact settles_recv hrecv (fun _ => .inl rfl) fun _ => rfl
  | written n fin blocked hsend hwritable =>
    have hlive := SendState.isTerminal_eq_false_of_isWritable hwritable
    refine settles_send hsend (fun hend => ?_) fun hreset => ?_
    · rw [hlive] at hend
      cases hend
    · rw [hreset.1] at hlive
      cases hlive
  | abandoned hsend _ => exact settles_send hsend (fun _ => rfl) fun _ => ⟨rfl, rfl⟩
  | refused errorCode hsend _ => exact settles_send hsend (fun _ => rfl) fun _ => ⟨rfl, rfl⟩
  | @acked h n hsend =>
    -- acknowledgement ends a half that has sent its end, and no other
    have hstate (hne : h.state ≠ .dataSent) : (h.acknowledge n).state = h.state := by
      rw [SendHalf.acknowledge]
      exact if_neg fun hdone => hne hdone.1
    refine settles_send hsend (fun hend => ?_) fun hreset => ?_
    · rwa [hstate fun heq => by rw [heq] at hend; cases hend]
    · refine ⟨?_, hreset.2⟩
      rw [hstate fun heq => by rw [heq] at hreset; cases hreset.1]
      exact hreset.1

/-- Raised limits change no state. -/
theorem Stirred.settles (h : st.Stirred st') : st.Settles st' where
  recv heq := ⟨_, h.recv ▸ heq, id, id⟩
  send {half'} heq := by
    have hstate := h.state
    rw [heq, Option.map_some] at hstate
    obtain ⟨half, hsend, hsame⟩ := Option.map_eq_some_iff.1 hstate.symm
    refine ⟨half, hsend, fun hend => hsame ▸ hend, fun ⟨hreset, hmark⟩ => ⟨hsame ▸ hreset, ?_⟩⟩
    -- a mark would have been there before
    rw [← Bool.not_eq_true]
    intro hmark'
    obtain ⟨half₁, hsend₁, hmark₁⟩ := h.blocked heq hmark'
    obtain rfl := Option.some.inj (hsend.symm.trans hsend₁)
    rw [hmark] at hmark₁
    cases hmark₁

/-- An ended receiving half spends all events about it. -/
theorem spentBy_of_receiving (he : e.receiving? = some id)
    (hend : ∀ h, st.recv = some h → h.state.isTerminal = true) :
    e.streamId? = some id ∧ e.SpentBy st := by
  cases e with
  | streamReadable _ => exact ⟨he, fun h hrecv => .inl (hend h hrecv)⟩
  | streamFinished _ => exact ⟨he, fun h hrecv => .inl (hend h hrecv)⟩
  | streamReset _ _ => exact ⟨he, hend⟩
  | _ => cases he

/-- An abandoned sending half spends all events about it. -/
theorem spentBy_of_sending (he : e.sending? = some id) {h : SendHalf} :
    e.streamId? = some id ∧ e.SpentBy { st with send := some h.abandon } := by
  cases e with
  | streamWritable _ =>
    refine ⟨he, fun h' hsend => ?_⟩
    obtain rfl := Option.some.inj hsend
    exact ⟨rfl, rfl⟩
  | stopSending _ _ =>
    refine ⟨he, fun h' hsend => ?_⟩
    obtain rfl := Option.some.inj hsend
    rfl
  | _ => cases he

/-- What a change tells is about the stream, and not spent. -/
theorem Turn.fresh (h : st.Turn id os st') (he : .told e ∈ os) :
    e.streamId? = some id ∧ ¬ e.SpentBy st := by
  -- what a turn tells was not told before: the state it leaves behind was not there yet
  cases h with
  | @filled half _ added _ fin _ hrecv hlive hinsert =>
    obtain ⟨_, hmem, heq⟩ := List.mem_map.1 he
    obtain rfl := Occurrence.told.inj heq
    rcases RecvHalf.mem_fillTells hmem with ⟨hadded, rfl⟩ | ⟨-, hunknown, rfl⟩
    · refine ⟨rfl, fun hspent => ?_⟩
      obtain ⟨hnone, -⟩ := fill_of_complete hlive (hspent half hrecv) hinsert
      omega
    · refine ⟨rfl, fun hspent => ?_⟩
      obtain ⟨-, hknown, -⟩ := fill_of_complete hlive (hspent half hrecv) hinsert
      rw [hunknown] at hknown
      cases hknown
  | ended errorCode w hrecv hlive =>
    obtain rfl := Occurrence.told.inj (List.mem_singleton.1 he)
    refine ⟨rfl, fun hspent => ?_⟩
    rw [hspent _ hrecv] at hlive
    cases hlive
  | refused errorCode hsend hlive =>
    obtain rfl := Occurrence.told.inj (List.mem_singleton.1 he)
    refine ⟨rfl, fun hspent => ?_⟩
    rw [hspent _ hsend] at hlive
    cases hlive
  | stopped _ _ => cases List.mem_singleton.1 he
  | abandoned _ _ => cases List.mem_singleton.1 he
  | _ => cases he

/-- What a change bars is about the stream, and spent afterwards. -/
theorem Turn.spent (h : st.Turn id os st') {o : Occurrence} (ho : o ∈ os) (hbars : o.Bars e) :
    e.streamId? = some id ∧ e.SpentBy st' := by
  -- by what the operation did to the stream: only five kinds of it say anything
  cases h with
  | @filled half _ added _ fin buffer hrecv hlive hinsert =>
    obtain ⟨e', hmem, rfl⟩ := List.mem_map.1 ho
    rw [RecvHalf.fillTells] at hmem
    -- what a filled half tells: that there is something to read, and that it is all there
    rcases List.mem_append.1 hmem with hreadable | hfinished
    · split at hreadable
      · obtain rfl := List.mem_singleton.1 hreadable
        cases hbars with
        | named hid =>
          obtain rfl := Option.some.inj hid
          exact ⟨rfl, trivial⟩
      · cases hreadable
    · split at hfinished
      · next hfin =>
        obtain rfl := List.mem_singleton.1 hfinished
        obtain ⟨rfl, -⟩ := Bool.and_eq_true_iff.1 hfin
        have hcomplete : ∀ h, some (half.fill buffer true) = some h → h.Complete := by
          intro h heq
          obtain rfl := Option.some.inj heq
          exact complete_of_fin hinsert
        cases hbars with
        | named hid =>
          obtain rfl := Option.some.inj hid
          exact ⟨rfl, trivial⟩
        | finished => exact ⟨rfl, hcomplete⟩
        | drained => exact ⟨rfl, hcomplete⟩
      · cases hfinished
  | stopped _ _ =>
    obtain rfl := List.mem_singleton.1 ho
    cases hbars with
    | stopped he =>
      refine spentBy_of_receiving he fun h heq => ?_
      obtain rfl := Option.some.inj heq
      rfl
  | ended errorCode w _ _ =>
    obtain rfl := List.mem_singleton.1 ho
    cases hbars with
    | named hid =>
      obtain rfl := Option.some.inj hid
      exact ⟨rfl, trivial⟩
    | ended _ he =>
      refine spentBy_of_receiving he fun h heq => ?_
      obtain rfl := Option.some.inj heq
      rfl
  | abandoned _ _ =>
    obtain rfl := List.mem_singleton.1 ho
    cases hbars with
    | abandoned he => exact spentBy_of_sending he
  | refused errorCode _ _ =>
    obtain rfl := List.mem_singleton.1 ho
    cases hbars with
    | named hid =>
      obtain rfl := Option.some.inj hid
      exact ⟨rfl, trivial⟩
    | refused _ he => exact spentBy_of_sending he
  | _ => cases ho

/-- Of what a change tells, the end of the data comes last. -/
theorem Turn.inOrder (h : st.Turn id os st') : InOrder os := by
  cases h with
  | @filled half _ added _ fin _ _ _ _ =>
    rw [InOrder, RecvHalf.fillTells, List.pairwise_map, List.pairwise_append]
    refine ⟨?_, ?_, ?_⟩
    · split
      · exact List.pairwise_singleton _ _
      · exact .nil
    · split
      · exact List.pairwise_singleton _ _
      · exact .nil
    · intro e he e' he' e'' heq hbars
      obtain rfl := Occurrence.told.inj heq
      split at he
      · obtain rfl := List.mem_singleton.1 he
        split at he'
        · obtain rfl := List.mem_singleton.1 he'
          cases hbars
        · cases he'
      · cases he
  | stopped _ _ => exact List.pairwise_singleton _ _
  | ended _ _ _ _ => exact List.pairwise_singleton _ _
  | abandoned _ _ => exact List.pairwise_singleton _ _
  | refused _ _ _ => exact List.pairwise_singleton _ _
  | _ => exact .nil

end Stream

end QuicHost
