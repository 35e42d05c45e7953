import QuicHost.Proofs.Stream.Lifetimes
import QuicHost.Proofs.Stream.Waking

/-!
# Whoever finds no room hears of it when there is some

There is room for a stream of a direction while the peer allows more streams than
are live. Room may come with the handshake, with a higher limit, and with the end
of any stream, whatever ended it. The application hears of it when there was none
before, and only then, once (`vacancies_told`); so who was refused for want of
room and asks again succeeds if they have heard of room since, and otherwise not.

What carries the proof is said of each step by `Signals`: as long as no stream of
the direction is opened, room does not shrink, and what is told is told exactly on
the way from no room to some.
-/

namespace QuicHost.StreamSet

/-! ## Steps that make room

Room is what the peer allows less what is live. Steps that change neither make none; those
that remove a stream of ours make room for one more. -/

/-- Unless streams of a direction were opened, there is no less room for them than
before, and the application was told of room, once, exactly if there was none and
there is some now. -/
structure Signals (d : Direction) (s s' : StreamSet) : Prop where
  next : s.nextLocal.get d ≤ s'.nextLocal.get d
  /-- there is no less room than before -/
  room : s'.nextLocal.get d = s.nextLocal.get d → s.available d ≤ s'.available d
  /-- the application hears of room if there was none and there is some now -/
  told : s'.nextLocal.get d = s.nextLocal.get d → ∃ es, s'.events = s.events ++ es ∧
    es.count (.streamsAvailable d) = if s.available d = 0 ∧ 0 < s'.available d then 1 else 0

section

variable {s s' s'' : StreamSet} {d : Direction} {id : StreamId} {op : Operation}

/-- If there was room in between, it was told in the first part or was there before. -/
theorem Signals.trans (h : Signals d s s') (h' : Signals d s' s'') : Signals d s s'' := by
  have hnext := h.next
  have hnext' := h'.next
  refine ⟨hnext.trans hnext', fun hsame => ?_, fun hsame => ?_⟩
  · exact (h.room (by omega)).trans (h'.room (by omega))
  · have hroom := h.room (by omega)
    have hroom' := h'.room (by omega)
    obtain ⟨es, hevents, hcount⟩ := h.told (by omega)
    obtain ⟨es', hevents', hcount'⟩ := h'.told (by omega)
    refine ⟨es ++ es', ?_, ?_⟩
    · rw [hevents', hevents, List.append_assoc]
    · rw [List.count_append, hcount, hcount']
      split_ifs <;> omega

theorem count_streamsAvailable_eq_zero {es : List Event} (hes : ∀ e ∈ es, e.available? = none)
    (d : Direction) : es.count (.streamsAvailable d) = 0 := by
  refine List.count_eq_zero.2 fun hmem => ?_
  cases hes _ hmem

/-- No stream of ours comes or goes, the peer allows as many as before, and nothing
is told of room. -/
theorem signals_of_same (hnext : s'.nextLocal = s.nextLocal) (hlive : s'.liveLocal = s.liveLocal)
    (hpeer : s'.peerMax = s.peerMax) {es : List Event} (hevents : s'.events = s.events ++ es)
    (hes : ∀ e ∈ es, e.available? = none) : Signals d s s' := by
  have hroom : s'.available d = s.available d := by rw [available, available, hlive, hpeer]
  refine ⟨?_, fun _ => ?_, fun _ => ⟨es, hevents, ?_⟩⟩
  · rw [hnext]
  · rw [hroom]
  · rw [hroom, count_streamsAvailable_eq_zero hes, if_neg (by omega)]

theorem signals_of_silent (hnext : s'.nextLocal = s.nextLocal)
    (hlive : s'.liveLocal = s.liveLocal) (hpeer : s'.peerMax = s.peerMax)
    (hevents : s'.events = s.events) : Signals d s s' :=
  signals_of_same hnext hlive hpeer (hevents.trans (List.append_nil _).symm)
    (List.forall_mem_nil _)

theorem Signals.refl (d : Direction) (s : StreamSet) : Signals d s s :=
  signals_of_silent rfl rfl rfl rfl

/-- Whoever opens a stream of the direction is not spoken of; one of the other
direction makes no difference. -/
theorem signals_openStream (s : StreamSet) (d d' : Direction) :
    Signals d s (s.openStream d').2 := by
  rcases s.openStream_eq d' with ⟨e, heq⟩ | ⟨-, -, heq⟩
  · rw [heq]
    exact .refl d s
  rw [heq]
  by_cases hd : d = d'
  · subst hd
    refine ⟨?_, fun hsame => ?_, fun hsame => ?_⟩
    · rw [PerDirection.get_set, if_pos rfl]
      exact Nat.le_succ _
    all_goals
      rw [PerDirection.get_set, if_pos rfl] at hsame
      omega
  · have hroom : ({ s.addStream (StreamId.ofParts s.side d' (s.nextLocal.get d')) with
        nextLocal := s.nextLocal.set d' (s.nextLocal.get d' + 1)
        liveLocal := s.liveLocal.set d' (s.liveLocal.get d' + 1) } : StreamSet).available d =
        s.available d := by
      simp only [available, PerDirection.get_set, hd, ↓reduceIte]
      rfl
    refine ⟨?_, fun _ => ?_, fun _ => ⟨[], (List.append_nil _).symm, ?_⟩⟩
    · rw [PerDirection.get_set, if_neg hd]
    · rw [hroom]
    · rw [hroom, if_neg (by omega), List.count_nil]

/-- The peer's streams take no room of ours. -/
theorem signals_ensureOpen (hopen : s.ensureOpen id = .ok (some s')) (d : Direction) :
    Signals d s s' := by
  rcases ensureOpen_eq_some hopen with ⟨-, rfl⟩ | ⟨_, _, _, -, -, -, -, -, -, hadds, rfl⟩
  · exact .refl d s'
  · obtain ⟨hlive, -, hpeer, -⟩ := hadds.counts
    obtain ⟨heard, hevents⟩ := hadds.told
    refine signals_of_same hadds.nextLocal hlive hpeer hevents (fun e he => ?_)
    obtain ⟨id', -, rfl⟩ := List.mem_map.1 he
    rfl

/-! ### Room that is announced

Room is announced at the place in the code where it comes about, by comparing the state
before and after. So nothing is announced twice when two causes come together. -/

/-- Room is announced if there is some and there was none. -/
theorem announceAvailable_eq (s before : StreamSet) (d : Direction) :
    s.announceAvailable before d = { s with
      events := s.events ++
        if before.available d = 0 ∧ 0 < s.available d then [.streamsAvailable d] else [] } := by
  rw [announceAvailable]
  split
  · rfl
  · rw [List.append_nil]

/-- What may have made room in one direction is announced. -/
theorem signals_announceAvailable {before : StreamSet} {d' : Direction}
    (hnext : s.nextLocal = before.nextLocal) (hevents : s.events = before.events)
    (hroom : before.available d' ≤ s.available d')
    (hother : ∀ d, d ≠ d' → s.available d = before.available d) :
    Signals d before (s.announceAvailable before d') := by
  rw [announceAvailable_eq, hevents]
  refine ⟨?_, fun _ => ?_, fun _ => ⟨_, rfl, ?_⟩⟩
  · rw [hnext]
  · by_cases hd : d = d'
    · rw [hd]
      exact hroom
    · exact (hother d hd).ge
  · by_cases hd : d = d'
    · subst hd
      change _ = if before.available d = 0 ∧ 0 < s.available d then 1 else 0
      split
      · exact List.count_singleton_self
      · rfl
    · -- the other direction is not spoken of, and has the room that it had
      have hnone : (if before.available d' = 0 ∧ 0 < s.available d' then
          [Event.streamsAvailable d'] else []).count (.streamsAvailable d) = 0 := by
        refine List.count_eq_zero.2 fun hmem => ?_
        split at hmem
        · exact hd (Event.streamsAvailable.inj (List.mem_singleton.1 hmem))
        · cases hmem
      rw [hnone]
      change _ = if before.available d = 0 ∧ 0 < s.available d then 1 else 0
      rw [hother d hd, if_neg (by omega)]

theorem signals_emit (s : StreamSet) {e : Event} (he : e.available? = none) (d : Direction) :
    Signals d s (s.emit e) := by
  refine signals_of_same rfl rfl rfl rfl (fun e' he' => ?_)
  rw [List.mem_singleton.1 he', he]

/-- A stream that is removed leaves its place. -/
theorem signals_reap (s : StreamSet) (id : StreamId) (d : Direction) :
    Signals d s (s.reap id) := by
  rw [reap]
  split
  · simp only [removeStream]
    refine Signals.trans ?_ (signals_emit _ rfl d)
    split
    · refine signals_announceAvailable rfl rfl ?_ (fun d' hd => ?_)
      · simp only [available, PerDirection.get_set, ↓reduceIte]
        omega
      · simp only [available, PerDirection.get_set, if_neg hd]
    · exact signals_of_silent rfl rfl rfl rfl
  · exact .refl d s

/-- A higher limit is announced like a place that is left. -/
theorem signals_raisePeerMax (s : StreamSet) (d' : Direction) (n : Nat) (d : Direction) :
    Signals d s (s.raisePeerMax d' n) := by
  rw [raisePeerMax]
  split
  · exact .refl d s
  · refine signals_announceAvailable rfl rfl ?_ (fun d hd => ?_)
    · simp only [available, PerDirection.get_set, ↓reduceIte]
      omega
    · simp only [available, PerDirection.get_set, if_neg hd]

/-! ### Operations

Every operation signals what room it makes. The steps are put together by `Signals.trans`,
which needs that no stream of the direction was opened in between. -/

/-- One quiet change signals what it makes room for. -/
theorem Quiet.signals (h : s.Quiet s') (d : Direction) : Signals d s s' := by
  cases h with
  | @opened d' _ _ => exact signals_openStream s d d'
  | named _ hopen => exact signals_ensureOpen hopen d
  | recv id h => exact signals_of_silent rfl rfl rfl rfl
  | recvWindow w => exact signals_of_silent rfl rfl rfl rfl
  | told _ he => exact signals_emit s he d
  | acked n _ => exact signals_of_silent rfl rfl rfl rfl
  | reaped id => exact signals_reap s id d

theorem Quietly.signals (h : s.Quietly s') (d : Direction) : Signals d s s' := by
  induction h with
  | refl => exact .refl d s
  | tail _ hstep ih => exact ih.trans (hstep.signals d)

/-- A half that is abandoned makes room only when its stream goes. -/
theorem Abandons.signals (h : s.Abandons id s') (d : Direction) : Signals d s s' := by
  obtain @⟨mid, half, hbefore, -, -, hafter⟩ := h
  have hpeer : (mid.abandonSend id half).peerMax = mid.peerMax := by
    simp only [abandonSend]
    split <;> rfl
  have habandoned : Signals d mid (mid.abandonSend id half) :=
    signals_of_silent (keeps_abandonSend mid id half).nextLocal
      (still_abandonSend mid id half).liveLocal hpeer (events_abandonSend mid id half)
  exact ((hbefore.signals d).trans habandoned).trans (hafter.signals d)

/-- A write makes no room, for the half that it ends is still to be acknowledged. -/
theorem signals_write (s : StreamSet) (id : StreamId) (data : Bytes) (fin : Bool) (d : Direction) :
    Signals d s (s.write id data fin).2 := by
  have hevents : (s.write id data fin).2.events = s.events := by
    rcases s.write_eq id data fin with ⟨e, -, heq⟩ | ⟨_, _, -, -, -, -, -, -, hevents⟩
    · rw [heq]
    · exact hevents
  exact signals_of_silent (keeps_write s id data fin).nextLocal
    (still_write s id data fin).liveLocal (peerMax_write s id data fin) hevents

theorem signals_wakeParked (s : StreamSet) (d : Direction) : Signals d s s.wakeParked := by
  refine signals_of_same (keeps_wakeParked s).nextLocal (still_wakeParked s).liveLocal
    (peerMax_wakeParked s) (events_wakeParked s) (fun e he => ?_)
  obtain ⟨id, -, rfl⟩ := List.mem_map.1 he
  rfl

/-- A limit for one stream makes no room for another. -/
theorem signals_onMaxStreamData (s : StreamSet) (id : StreamId) (limit : Nat) (d : Direction) :
    Signals d s (s.onMaxStreamData id limit) := by
  have hevents : ∃ es, (s.onMaxStreamData id limit).events = s.events ++ es ∧
      ∀ e ∈ es, e.available? = none := by
    rcases s.onMaxStreamData_eq id limit with heq | ⟨h, -, -, ⟨-, -, -, -, hwoken⟩ | ⟨-, -, hsame⟩⟩
    · exact ⟨[], by rw [heq, List.append_nil], List.forall_mem_nil _⟩
    · refine ⟨_, hwoken, fun e he => ?_⟩
      rw [List.mem_singleton.1 he]
      rfl
    · exact ⟨[], hsame.trans (List.append_nil _).symm, List.forall_mem_nil _⟩
  obtain ⟨es, hevents, hes⟩ := hevents
  exact signals_of_same (keeps_onMaxStreamData s id limit).nextLocal
    (still_onMaxStreamData s id limit).liveLocal (peerMax_onMaxStreamData s id limit) hevents hes

/-- A limit for the connection makes no room for streams. -/
theorem signals_onMaxData (s : StreamSet) (limit : Nat) (d : Direction) :
    Signals d s (s.onMaxData limit) := by
  rw [onMaxData_eq]
  split
  · exact .refl d s
  · have hlift : Signals d s (s.extendAll limit) := signals_of_silent rfl rfl rfl rfl
    exact hlift.trans (signals_wakeParked _ d)

/-- A limit on streams makes room in its own direction, and tells of it. -/
theorem signals_onMaxStreams (s : StreamSet) (d' : Direction) (n : Nat) (d : Direction) :
    Signals d s (s.onMaxStreams d' n) := by
  rw [onMaxStreams]
  split
  · exact .refl d s
  · exact signals_raisePeerMax s d' n d

/-- The peer's parameters make room in both directions, and tell of it. -/
theorem signals_onHandshakeCompleted (s : StreamSet) (peer : TransportParameters)
    (d : Direction) : Signals d s (s.onHandshakeCompleted peer) := by
  rw [onHandshakeCompleted_eq]
  split
  · exact .refl d s
  · have hraise : Signals d s (s.raise peer) := signals_of_silent rfl rfl rfl rfl
    exact ((hraise.trans (signals_raisePeerMax _ .bidi _ d)).trans
      (signals_raisePeerMax _ .uni _ d)).trans (signals_wakeParked _ d)

/-- Every operation makes room known, except that the events may be taken. -/
theorem signals_perform (s : StreamSet) (hop : op.Fits) (htaken : op ≠ .takeEvents)
    (d : Direction) : Signals d s (s.perform op).2 := by
  cases op with
  | openStream d' => exact signals_openStream s d d'
  | write id data fin => exact signals_write s id data fin d
  | read id maxLen => exact (quietly_read s id maxLen).signals d
  | resetStream id => exact (resetStream_steps s id).elim (·.signals d) (·.2.signals d)
  | stopSending id => exact (quietly_stopSending s id).signals d
  | handshakeCompleted peer => exact signals_onHandshakeCompleted s peer d
  | streamData id offset data fin => exact (quietly_onStreamData hop offset data fin).signals d
  | streamReset id errorCode finalSize =>
    exact (quietly_onStreamReset hop errorCode finalSize).signals d
  | peerStop id errorCode =>
    exact (onStopSending_steps hop errorCode).elim (·.signals d) (·.2.signals d)
  | maxStreamData id limit => exact signals_onMaxStreamData s id limit d
  | maxData limit => exact signals_onMaxData s limit d
  | maxStreams d' n => exact signals_onMaxStreams s d' n d
  | streamAcked id n => exact (quietly_onStreamAcked s id n).signals d
  | takeEvents => exact absurd rfl htaken
  | freeze => exact signals_of_silent rfl rfl rfl rfl

/-- Only who opens a stream of a direction takes an identifier of it. -/
theorem nextLocal_perform (hs : s.Orderly) (hq : s.Queued) (hop : op.Fits)
    (hopens : op ≠ .openStream d) : (s.perform op).2.nextLocal.get d = s.nextLocal.get d := by
  by_cases hopen : ∃ d', op = .openStream d'
  · obtain ⟨d', rfl⟩ := hopen
    have hd : d ≠ d' := fun hd => hopens (hd ▸ rfl)
    change (s.openStream d').2.nextLocal.get d = _
    rcases s.openStream_eq d' with ⟨e, heq⟩ | ⟨-, -, heq⟩
    · rw [heq]
    · rw [heq]
      exact (PerDirection.get_set _ _ _ _).trans (if_neg hd)
  -- the numbers given out are read off the entry: none of the direction, so the counter has
  -- not moved
  · have hnumbered := ((deeds_perform hs hq hop).numbers hs).own d
    have hnone : ((Entry.mk s op (s.perform op).1).occurrences).filterMap (·.own?) = [] := by
      refine List.filterMap_eq_nil_iff.2 fun o ho => ?_
      rcases List.mem_append.1 ho with ho | ho
      · unfold Entry.mark at ho
        split at ho
        · next heq _ => exact absurd ⟨_, heq⟩ hopen
        any_goals
          obtain rfl := List.mem_singleton.1 ho
          rfl
        cases ho
      · obtain ⟨e, -, rfl⟩ := List.mem_map.1 ho
        rfl
    rw [hnone] at hnumbered
    have hlen := congrArg List.length hnumbered.ids
    have hle := hnumbered.le
    rw [List.filter_nil, List.length_nil, List.length_map, List.length_range'] at hlen
    omega

/-- What an operation tells is what it adds to the events. -/
theorem events_perform (hs : s.Orderly) (hq : s.Queued) (hop : op.Fits)
    (htaken : op ≠ .takeEvents) :
    (s.perform op).2.events = s.events ++ (s.entry op).told := by
  -- there is a direction in which it opens no stream
  have hother : ∃ d, op ≠ .openStream d := by
    by_cases hbidi : op = .openStream .bidi
    · exact ⟨.uni, fun huni => by cases hbidi.symm.trans huni⟩
    · exact ⟨.bidi, hbidi⟩
  obtain ⟨d, hopens⟩ := hother
  obtain ⟨es, hevents, -⟩ :=
    (signals_perform s hop htaken d).told (nextLocal_perform hs hq hop hopens)
  have htold : (s.entry op).told = es := by
    rw [Entry.told, Entry.after, entry, hevents, List.drop_left]
  rw [htold, hevents]

/-! ## What is told of room

Over a run in which no stream of the direction is opened, whoever was refused hears of
room exactly if there is some at the end. -/

/-- Room in a direction is told exactly when there was none and there is some. -/
theorem count_told (hs : s.Orderly) (hq : s.Queued) (hop : op.Fits) (d : Direction) :
    (s.entry op).told.count (.streamsAvailable d) =
      if s.available d = 0 ∧ 0 < (s.perform op).2.available d then 1 else 0 := by
  by_cases htaken : op = .takeEvents
  · subst htaken
    have hroom : (s.perform .takeEvents).2.available d = s.available d := rfl
    rw [hroom, if_neg (by omega)]
    exact congrArg (List.count _) List.drop_nil
  by_cases hopens : op = .openStream d
  · subst hopens
    rw [Entry.told, Entry.after, entry]
    change ((s.openStream d).2.events.drop s.events.length).count _ =
      if s.available d = 0 ∧ 0 < (s.openStream d).2.available d then 1 else 0
    rcases s.openStream_eq d with ⟨e, heq⟩ | ⟨hroom, -, heq⟩
    · have hsame : (s.openStream d).2 = s := congrArg Prod.snd heq
      rw [hsame, List.drop_length, if_neg (by omega), List.count_nil]
    · have hfree : s.available d ≠ 0 := by
        rw [available]
        omega
      rw [if_neg fun h => hfree h.1, heq]
      exact congrArg (List.count _) List.drop_length
  obtain ⟨es, hevents, hcount⟩ :=
    (signals_perform s hop htaken d).told (nextLocal_perform hs hq hop hopens)
  rw [← hcount, List.append_cancel_left (hevents.symm.trans (events_perform hs hq hop htaken))]

/-- While no stream of a direction is opened, room for it does not shrink, and its
next identifier stays. -/
theorem stays_after (hs : s.Orderly) (hq : s.Queued) {ops : List Operation}
    (hops : ∀ op ∈ ops, op.Fits ∧ op ≠ .openStream d) :
    s.available d ≤ (s.after ops).available d ∧
      (s.after ops).nextLocal.get d = s.nextLocal.get d := by
  induction ops generalizing s with
  | nil => exact ⟨Nat.le_refl _, rfl⟩
  | cons op rest ih =>
    rw [List.forall_mem_cons] at hops
    obtain ⟨⟨hop, hopens⟩, hrest⟩ := hops
    have hsteps := steps_perform s hop
    have hnext := nextLocal_perform hs hq hop hopens
    have hroom : s.available d ≤ (s.perform op).2.available d := by
      by_cases htaken : op = .takeEvents
      · subst htaken
        exact Nat.le_refl _
      · exact (signals_perform s hop htaken d).room hnext
    obtain ⟨hroom', hnext'⟩ := ih (hsteps.orderly hs).1 (hq.steps hs hsteps) hrest
    exact ⟨hroom.trans hroom', hnext'.trans hnext⟩

/-- If there is no room, then there is some after operations that open no stream of
the direction exactly if one of them has told so. -/
theorem available_after_iff (hs : s.Orderly) (hq : s.Queued) {ops : List Operation}
    (hops : ∀ op ∈ ops, op.Fits ∧ op ≠ .openStream d) (hfull : s.available d = 0) :
    0 < (s.after ops).available d ↔ ∃ e ∈ s.trace ops, .streamsAvailable d ∈ e.told := by
  induction ops generalizing s with
  | nil =>
    refine iff_of_false (by rw [after, List.foldl_nil]; omega) ?_
    rintro ⟨e, he, -⟩
    cases he
  | cons op rest ih =>
    rw [List.forall_mem_cons] at hops
    obtain ⟨⟨hop, -⟩, hrest⟩ := hops
    have hsteps := steps_perform s hop
    have hs' := (hsteps.orderly hs).1
    have hq' := hq.steps hs hsteps
    have hcount := count_told hs hq hop d
    rw [trace, List.exists_mem_cons_iff]
    by_cases hroom : (s.perform op).2.available d = 0
    · -- nothing is told yet
      rw [if_neg (by omega), List.count_eq_zero] at hcount
      exact (ih hs' hq' hrest hroom).trans (or_iff_right hcount).symm
    · -- it is told now, and the room stays
      rw [if_pos ⟨hfull, by omega⟩] at hcount
      have htold : .streamsAvailable d ∈ (s.entry op).told :=
        List.count_pos_iff.1 (by omega)
      refine iff_of_true ?_ (.inl htold)
      exact Nat.lt_of_lt_of_le (Nat.pos_of_ne_zero hroom) (stays_after hs' hq' hrest).1

/-- While identifiers last, a stream can be opened exactly if there is room. -/
theorem openStream_eq_ok_iff (hfrozen : s.frozen = false)
    (hid : (StreamId.ofParts s.side d (s.nextLocal.get d)).value ≤ StreamId.maxValue) :
    (∃ id, (s.openStream d).1 = .ok id) ↔ 0 < s.available d := by
  rw [openStream, if_neg (Bool.eq_false_iff.1 hfrozen)]
  simp only
  split
  · next hfull =>
    refine iff_of_false ?_ (by omega)
    rintro ⟨_, hok⟩
    cases hok
  · next hroom =>
    rw [if_neg (Nat.not_lt.2 hid)]
    exact iff_of_true ⟨_, rfl⟩ (Nat.pos_of_ne_zero hroom)

/-- Who is told that the limit is reached, while identifiers last, finds no room. -/
theorem available_eq_zero_of_openStream
    (hid : (StreamId.ofParts s.side d (s.nextLocal.get d)).value ≤ StreamId.maxValue)
    (hfull : (s.openStream d).1 = .error .streamLimitExceeded) :
    s.available d = 0 ∧ (s.openStream d).2 = s := by
  rw [openStream] at hfull ⊢
  split at hfull
  · cases hfull
  next hfrozen =>
  rw [if_neg hfrozen]
  split at hfull
  · next hroom =>
    rw [if_pos hroom]
    exact ⟨hroom, rfl⟩
  · simp only at hfull
    rw [if_neg (Nat.not_lt.2 hid)] at hfull
    cases hfull

end

/-- **Whoever was refused hears when there is room.** After every run: the room for
streams of a direction is what the peer allows without the live ones of ours; and
whatever comes next says that streams of a direction may be opened exactly if there was
no room and there is some then, and says it once.

So who was refused for the limit, while identifiers last, can open the stream later
exactly if that was said in between, unless they opened others of the direction or
everything has stopped. -/
theorem vacancies_told (side : Side) (own : TransportParameters) (ops : List Operation)
    (hops : ∀ op ∈ ops, op.Fits) :
    let s := (new side own).after ops
    (∀ d, s.available d + (s.living s.side d).card = s.peerMax.get d) ∧
    (∀ op, op.Fits → (op ≠ .takeEvents →
        (s.perform op).2.events = s.events ++ (s.entry op).told) ∧
      ∀ d, (s.entry op).told.count (.streamsAvailable d) =
        if s.available d = 0 ∧ 0 < (s.perform op).2.available d then 1 else 0) ∧
    (∀ d later, (∀ op ∈ later, op.Fits ∧ op ≠ .openStream d) →
      (s.openStream d).1 = .error .streamLimitExceeded →
      (StreamId.ofParts s.side d (s.nextLocal.get d)).value ≤ StreamId.maxValue →
      let refused := (s.perform (.openStream d)).2
      (refused.after later).frozen = false →
        ((∃ id, ((refused.after later).openStream d).1 = .ok id) ↔
          ∃ e ∈ refused.trace later, .streamsAvailable d ∈ e.told)) := by
  intro s
  have hsteps := steps_after (new side own) hops
  have hs : s.Orderly := (hsteps.orderly (orderly_new side own)).1
  have hq : s.Queued := queued_after side own hops
  refine ⟨fun d => ?_, fun op hop => ⟨events_perform hs hq hop, count_told hs hq hop⟩, ?_⟩
  · have hlive := (census_new side own).steps (orderly_new side own) hsteps s.side d
    have hwithin := ((within_new side own).steps (orderly_new side own) hsteps d).1
    rw [liveCount, if_pos rfl] at hlive
    rw [available, ← hlive]
    exact Nat.sub_add_cancel hwithin
  · intro d later hlater hlimit hid refused hfrozen
    obtain ⟨hfull, hsame⟩ := available_eq_zero_of_openStream hid hlimit
    have hrefused : refused = s := hsame
    rw [hrefused] at hfrozen ⊢
    have hside : (s.after later).side = s.side :=
      ((steps_after s fun op hop => (hlater op hop).1).orderly hs).2.side
    -- nothing of the direction was opened since the refusal, so the next identifier is the
    -- one it was then
    have hlast : (StreamId.ofParts (s.after later).side d
        ((s.after later).nextLocal.get d)).value ≤ StreamId.maxValue := by
      rwa [hside, (stays_after hs hq hlater).2]
    rw [openStream_eq_ok_iff hfrozen hlast]
    exact available_after_iff hs hq hlater hfull

/-- We open the only stream that the peer allows, and end it. -/
def crowded : List Operation :=
  [.handshakeCompleted { initialMaxStreamsUni := 1, initialMaxStreamDataUni := 9 },
    .openStream .uni, .write ⟨2⟩ [] true]

/-- When the only stream is acknowledged there is room again, which is told. -/
theorem vacancies_told_crowded :
    let s := (new .client {}).after crowded
    (s.openStream .uni).1 = .error .streamLimitExceeded ∧
      (s.entry (.streamAcked ⟨2⟩ 0)).told.count (.streamsAvailable .uni) = 1 ∧
      ∃ id, ((s.after [.streamAcked ⟨2⟩ 0]).openStream .uni).1 = .ok id := by
  obtain ⟨-, htold, hagain⟩ := vacancies_told .client {} crowded (by decide)
  have hlater : ∀ op ∈ [Operation.streamAcked ⟨2⟩ 0], op.Fits ∧ op ≠ .openStream .uni := by
    simp [Operation.Fits]
  refine ⟨by decide, ?_, ?_⟩
  · rw [(htold (.streamAcked ⟨2⟩ 0) trivial).2]
    decide
  · refine (hagain .uni _ hlater (by decide) (by decide) (by decide)).2 ?_
    exact ⟨_, List.mem_cons_self, by decide⟩

end QuicHost.StreamSet
