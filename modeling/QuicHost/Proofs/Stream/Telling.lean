import QuicHost.Proofs.Stream.Rules

/-!
# In which order things are told

The rules forbid events after something that has happened (`Occurrence.Bars`). What a rule
forbids is spent: the stream is gone, or no operation tells the event any more
(`StreamSet.Spent`). Every deed tells only what is not spent, spends what its
occurrences bar, and revives nothing (`Tells`), so a whole run obeys the rules.
The result is `told_in_order`.
-/

namespace QuicHost

namespace StreamSet

/-! ## What a set of streams does not tell any more

An event about a stream is spent when everything has stopped, or when the stream was used
and, if it is live, no change of it tells the event any more. What is spent stays so, for
streams that are gone do not come back. -/

/-- Whether no operation tells the event any more. -/
def Spent (s : StreamSet) (e : Event) : Prop :=
  s.frozen = true ∨ ∃ id, e.streamId? = some id ∧ s.Used id ∧
    ∀ st, s.streams.get? id = some st → e.SpentBy st

/-- What happens between `s` and `s'` is told in order; nothing is told that is
spent, what is barred is spent, and what is spent stays so. -/
structure Tells (s : StreamSet) (os : List Occurrence) (s' : StreamSet) : Prop where
  /-- in itself in order -/
  ordered : InOrder os
  /-- nothing of it was spent before -/
  fresh : ∀ {e}, .told e ∈ os → ¬ s.Spent e
  /-- what it bars is spent from now on -/
  spent : ∀ {o e}, o ∈ os → o.Bars e → s'.Spent e
  /-- and nothing comes back -/
  stays : ∀ {e}, s.Spent e → s'.Spent e

section

variable {s s' s'' : StreamSet} {os os' : List Occurrence} {id : StreamId} {st st' : Stream}
  {e : Event}

theorem Tells.refl (s : StreamSet) : s.Tells [] s := ⟨.nil, nofun, nofun, fun h => h⟩

/-- What is barred by the first part is spent for the second, so that nothing of it is told
there. -/
theorem Tells.trans (h : s.Tells os s') (h' : s'.Tells os' s'') : s.Tells (os ++ os') s'' where
  ordered := by
    refine List.pairwise_append.2 ⟨h.ordered, h'.ordered, ?_⟩
    rintro o ho _ ho' e rfl hbars
    exact h'.fresh ho' (h.spent ho hbars)
  fresh he hspent := by
    rcases List.mem_append.1 he with he | he
    · exact h.fresh he hspent
    · exact h'.fresh he (h.stays hspent)
  spent ho hbars := by
    rcases List.mem_append.1 ho with ho | ho
    · exact h'.stays (h.spent ho hbars)
    · exact h'.spent ho hbars
  stays hspent := h'.stays (h.stays hspent)

/-- What is spent stays so while the streams that were opened settle. -/
theorem Spent.mono (h : s.Spent e) (hfrozen : s'.frozen = s.frozen)
    (hused : ∀ {id}, s.Used id → s'.Used id)
    (hstreams : ∀ {id st'}, s.Used id → s'.streams.get? id = some st' →
      ∃ st, s.streams.get? id = some st ∧ st.Settles st') : s'.Spent e := by
  rcases h with hstopped | ⟨id, he, hid, hspent⟩
  · exact .inl (hfrozen.trans hstopped)
  · refine .inr ⟨id, he, hused hid, fun st' hget' => ?_⟩
    obtain ⟨st, hget, hsettles⟩ := hstreams hid hget'
    exact hsettles.spentBy (hspent st hget)

/-- Opening streams touches no stream that was opened before. -/
theorem Spent.opens (hspent : s.Spent e) (h : s.Opens s') : s'.Spent e := by
  refine hspent.mono h.frozen h.used fun hused hget => ?_
  rw [h.old hused] at hget
  exact ⟨_, hget, .refl _⟩

/-- What is told while a stream is live, and not spent by it, is not spent. -/
theorem not_spent_of_live (hfrozen : s.frozen = false) (hget : s.streams.get? id = some st)
    (he : e.streamId? = some id) (hfresh : ¬ e.SpentBy st) : ¬ s.Spent e := by
  rintro (hstopped | ⟨id', he', -, hspent⟩)
  · rw [hfrozen] at hstopped
    cases hstopped
  · obtain rfl := Option.some.inj (he.symm.trans he')
    exact hfresh (hspent st hget)

/-- What concerns no stream is spent only by the end. -/
theorem not_spent_of_streamId?_eq_none (hfrozen : s.frozen = false) (he : e.streamId? = none) :
    ¬ s.Spent e := by
  rintro (hstopped | ⟨id, he', -⟩)
  · rw [hfrozen] at hstopped
    cases hstopped
  · rw [he] at he'
    cases he'

/-! ## Every deed tells in order

The deeds, one case each. An occurrence never bars one that comes after it in the same
deed, tells nothing that was spent before, and leaves spent what it bars. -/

/-- A stream that we open is told of by the answer. -/
theorem tells_openStream (hs : s.Orderly) (d : Direction) :
    s.Tells [.opened id] (s.openStream d).2 where
  ordered := List.pairwise_singleton _ _
  fresh he := by cases List.mem_singleton.1 he
  spent ho hbars := by
    obtain rfl := List.mem_singleton.1 ho
    cases hbars
  stays hspent := hspent.opens (opens_openStream hs d)

/-- The streams that are opened with one that the peer names are new, and each is
opened once. -/
theorem opened_of_ensureOpen (hs : s.Orderly) (hid : id.Fits)
    (hopen : s.ensureOpen id = .ok (some s')) :
    (s.unopened id).Nodup ∧ ∀ id' ∈ s.unopened id, ¬ s.Used id' ∧ s'.Used id' := by
  have hindex := StreamId.index_lt_of_fits hid
  have hopens := opens_of_ensureOpen hs hid hopen
  rcases ensureOpen_eq_some hopen with ⟨⟨st, hget⟩, rfl⟩ | ⟨next, count, opened, -, hlocal, rfl,
    hle, rfl, -, hadds, rfl⟩
  · rw [unopened_of_get? hs hget]
    exact ⟨.nil, nofun⟩
  have hcount : id.index + 1 - s.nextRemote.get id.direction =
      id.index - s.nextRemote.get id.direction + 1 := by omega
  rw [unopened, if_neg hlocal, hcount]
  refine ⟨nodup_opened _ _ _ _ (by omega), fun id' hmem => ⟨?_, ?_⟩⟩
  · obtain ⟨hremote, hdirection, hge, -⟩ :=
      (mem_opened_iff s.side id.direction hle hindex id').1 hmem
    rw [Used, nextIndex, if_neg hremote, hdirection]
    exact Nat.not_lt.2 hge
  · exact hopens.orderly.used (hadds.new id' hmem)

/-- The streams that the peer opens are told of once each, and were not used before. -/
theorem tells_ensureOpen (hs : s.Orderly) (hid : id.Fits) (hfrozen : s.frozen = false)
    (hopen : s.ensureOpen id = .ok (some s')) :
    s.Tells (((s.unopened id).map .streamOpened).map .told) s' := by
  obtain ⟨hnodup, hnew⟩ := opened_of_ensureOpen hs hid hopen
  constructor
  · rw [InOrder, List.map_map, List.pairwise_map]
    refine hnodup.imp fun hne e heq hbars => ?_
    obtain rfl := Occurrence.told.inj heq
    cases hbars with
    | named hsame => exact hne (Option.some.inj hsame)
  · rintro e he (hstopped | ⟨id', he', hused, -⟩)
    · rw [hfrozen] at hstopped
      cases hstopped
    · obtain ⟨_, hmem, heq⟩ := List.mem_map.1 he
      obtain rfl := Occurrence.told.inj heq
      obtain ⟨id'', hmem', rfl⟩ := List.mem_map.1 hmem
      obtain rfl := Option.some.inj he'
      exact (hnew id'' hmem').1 hused
  · intro o e ho hbars
    obtain ⟨_, hmem, rfl⟩ := List.mem_map.1 ho
    obtain ⟨id', hmem', rfl⟩ := List.mem_map.1 hmem
    cases hbars with
    | named hsame =>
      obtain rfl := Option.some.inj hsame
      exact .inr ⟨id', rfl, (hnew id' hmem').2, fun _ _ => trivial⟩
  · exact fun hspent => hspent.opens (opens_of_ensureOpen hs hid hopen)

/-- A change of one live stream. -/
theorem tells_turn {es : List Event} (hs : s.Orderly) (hfrozen : s.frozen = false)
    (hget : s.streams.get? id = some st) (hturn : st.Turn id os st') (h : s.Turns id st' es s') :
    s.Tells os s' := by
  have hages := (h.toKeeps.orderly_ages hs).2
  constructor
  · exact hturn.inOrder
  · intro e he
    obtain ⟨hid, hfresh⟩ := hturn.fresh he
    exact not_spent_of_live hfrozen hget hid hfresh
  · intro o e ho hbars
    obtain ⟨hid, hspent⟩ := hturn.spent ho hbars
    refine .inr ⟨id, hid, hages.used (hs.used hget), fun st₁ hget₁ => ?_⟩
    rw [h.streams, if_pos rfl] at hget₁
    obtain rfl := Option.some.inj hget₁
    exact hspent
  · intro e hspent
    refine hspent.mono h.frozen hages.used fun {id' st₁} _ hget₁ => ?_
    rw [h.streams] at hget₁
    split at hget₁
    · next heq =>
      obtain rfl := Option.some.inj hget₁
      exact ⟨st, heq ▸ hget, hturn.settles⟩
    · exact ⟨st₁, hget₁, .refl st₁⟩

/-- A stream that is done is removed, and closed. -/
theorem tells_reap (hs : s.Orderly) (hfrozen : s.frozen = false) (id : StreamId) :
    s.Tells ((s.farewell id).map .told) (s.reap id) := by
  have hkeeps := keeps_reap s id
  have hages := (hkeeps.orderly_ages hs).2
  have hstays {e : Event} (hspent : s.Spent e) : (s.reap id).Spent e := by
    refine hspent.mono hkeeps.frozen hages.used fun {id' st} _ hget => ?_
    exact ⟨st, get?_of_get?_reap hget, .refl st⟩
  rcases s.farewell_eq id with hnil | ⟨⟨st, hget⟩, hgone, es, heq, havailable⟩
  · rw [hnil]
    exact ⟨.nil, nofun, nofun, hstays⟩
  rw [heq]
  -- that a place is free bars nothing; that a stream is closed, all that concerns it
  have hbars {e e' : Event} (he : e ∈ es) : ¬ (Occurrence.told e).Bars e' := by
    intro hbars
    obtain rfl := havailable e he
    cases hbars with
    | named hid => cases hid
  refine ⟨?_, ?_, ?_, hstays⟩
  · have hes : InOrder (es.map .told) := inOrder_of_forall fun e he _ _ => hbars he
    rw [InOrder, List.map_append, List.pairwise_append]
    refine ⟨hes, List.pairwise_singleton _ _, fun o ho _ _ _ _ => ?_⟩
    obtain ⟨e, he, rfl⟩ := List.mem_map.1 ho
    exact hbars he
  · intro e he
    obtain ⟨_, hmem, hsame⟩ := List.mem_map.1 he
    obtain rfl := Occurrence.told.inj hsame
    rcases List.mem_append.1 hmem with hmem | hmem
    · obtain rfl := havailable _ hmem
      exact not_spent_of_streamId?_eq_none hfrozen rfl
    · obtain rfl := List.mem_singleton.1 hmem
      exact not_spent_of_live hfrozen hget rfl fun hspent => hspent
  · intro o e ho hbarred
    obtain ⟨e', hmem, rfl⟩ := List.mem_map.1 ho
    rcases List.mem_append.1 hmem with hmem | hmem
    · exact (hbars hmem hbarred).elim
    · obtain rfl := List.mem_singleton.1 hmem
      have hid : e.streamId? = some id := by
        cases hbarred with
        | named hsame =>
          obtain rfl := Option.some.inj hsame
          rfl
        | closed hid => exact hid
      refine .inr ⟨id, hid, hages.used (hs.used hget), fun st' hget' => ?_⟩
      rw [hgone] at hget'
      cases hget'

/-- Who is told to be writable had a mark, which is gone then. -/
theorem tells_stirs {es : List Event} (hs : s.Orderly) (hfrozen : s.frozen = false)
    (h : s.Stirs es s') : s.Tells (es.map .told) s' := by
  -- what is told bars only that its stream is opened, which it was
  have hbars {e e' : Event} (he : e ∈ es) (hbarred : (Occurrence.told e).Bars e') :
      ∃ id st, e' = .streamOpened id ∧ s.streams.get? id = some st := by
    rcases h.told e he with ⟨d, rfl⟩ | ⟨id, half, rfl, hsend, -⟩
    · cases hbarred with
      | named hid => cases hid
    · obtain ⟨st, hget, -⟩ := sendHalf?_eq_some hsend
      cases hbarred with
      | named hid =>
        obtain rfl := Option.some.inj hid
        exact ⟨id, st, rfl, hget⟩
  constructor
  · refine inOrder_of_forall fun e he e' he' hbarred => ?_
    obtain ⟨id, _, rfl, -⟩ := hbars he hbarred
    rcases h.told _ he' with ⟨d, havailable⟩ | ⟨_, _, hwritable, -⟩
    · cases havailable
    · cases hwritable
  · intro e he
    obtain ⟨e', hmem, hsame⟩ := List.mem_map.1 he
    obtain rfl := Occurrence.told.inj hsame
    rcases h.told e' hmem with ⟨d, rfl⟩ | ⟨id, half, rfl, hsend, hmark⟩
    · exact not_spent_of_streamId?_eq_none hfrozen rfl
    · obtain ⟨st, hget, hhalf⟩ := sendHalf?_eq_some hsend
      refine not_spent_of_live hfrozen hget rfl fun hspent => ?_
      rw [(hspent half hhalf).2] at hmark
      cases hmark
  · intro o e ho hbarred
    obtain ⟨e', hmem, rfl⟩ := List.mem_map.1 ho
    obtain ⟨id, st, rfl, hget⟩ := hbars hmem hbarred
    exact .inr ⟨id, rfl, h.ages.used (hs.used hget), fun _ _ => trivial⟩
  · intro e hspent
    refine hspent.mono h.frozen h.ages.used fun _ hget => ?_
    obtain ⟨st, hget', hstirred⟩ := h.stream hget
    exact ⟨st, hget', hstirred.settles⟩

/-- An occurrence is told in order. -/
theorem Deed.tells (hs : s.Orderly) (h : s.Deed os s') : s.Tells os s' := by
  cases h with
  | opened _ => exact tells_openStream hs _
  | named hid hfrozen hopen => exact tells_ensureOpen hs hid hfrozen hopen
  | @turned id _ _ _ s₁ hfrozen hget hturn hturns =>
    have hs₁ := (hturns.toKeeps.orderly_ages hs).1
    have hfrozen₁ := hturns.frozen.trans hfrozen
    exact (tells_turn hs hfrozen hget hturn hturns).trans (tells_reap hs₁ hfrozen₁ id)
  | stirred hfrozen hstirs => exact tells_stirs hs hfrozen hstirs
  | left id half hfrozen =>
    exact ⟨.nil, nofun, nofun, fun _ => .inl hfrozen⟩
  | taken =>
    refine ⟨List.pairwise_singleton _ _, fun he => ?_, fun ho hbars => ?_, fun h => h⟩
    · cases List.mem_singleton.1 he
    · obtain rfl := List.mem_singleton.1 ho
      cases hbars
  | frozen =>
    refine ⟨List.pairwise_singleton _ _, fun he => ?_, fun _ _ => .inl rfl, fun _ => .inl rfl⟩
    cases List.mem_singleton.1 he

theorem Deeds.tells (hs : s.Orderly) (h : s.Deeds os s') : s.Tells os s' := by
  induction h with
  | refl => exact .refl s
  | tail hdeeds hdeed ih => exact ih.trans (hdeed.tells (hdeeds.orderly hs).1)

/-! ## Who is told of was opened

An event about a stream is about one that was used, so that the application has heard of
the stream or opened it. -/

/-- What a deed tells of a stream is that it is opened, or the stream was opened
before. -/
theorem Deed.used (hs : s.Orderly) (h : s.Deed os s') (he : .told e ∈ os)
    (hid : e.streamId? = some id) : e = .streamOpened id ∨ s.Used id := by
  cases h with
  | opened _ => cases List.mem_singleton.1 he
  | named _ _ _ =>
    obtain ⟨_, hmem, heq⟩ := List.mem_map.1 he
    obtain rfl := Occurrence.told.inj heq
    obtain ⟨id', -, rfl⟩ := List.mem_map.1 hmem
    exact .inl (congrArg _ (Option.some.inj hid))
  | @turned id₁ st _ _ s₁ _ hget hturn hturns =>
    -- the stream was live, and only it is told of
    suffices hsame : id₁ = id by
      subst hsame
      exact .inr (hs.used hget)
    rcases List.mem_append.1 he with he | he
    · exact Option.some.inj ((hturn.fresh he).1.symm.trans hid)
    · obtain ⟨e', hmem, hsame⟩ := List.mem_map.1 he
      obtain rfl := Occurrence.told.inj hsame
      rcases s₁.farewell_eq id₁ with hnil | ⟨-, -, es, heq, havailable⟩
      · rw [hnil] at hmem
        cases hmem
      rw [heq] at hmem
      rcases List.mem_append.1 hmem with hmem | hmem
      · rw [havailable e' hmem] at hid
        cases hid
      · obtain rfl := List.mem_singleton.1 hmem
        exact Option.some.inj hid
  | stirred _ hstirs =>
    obtain ⟨e', hmem, hsame⟩ := List.mem_map.1 he
    obtain rfl := Occurrence.told.inj hsame
    rcases hstirs.told e' hmem with ⟨d, rfl⟩ | ⟨id', half, rfl, hsend, -⟩
    · cases hid
    · obtain ⟨st, hget, -⟩ := sendHalf?_eq_some hsend
      obtain rfl := Option.some.inj hid
      exact .inr (hs.used hget)
  | left _ _ _ => cases he
  | taken => cases List.mem_singleton.1 he
  | frozen => cases List.mem_singleton.1 he

/-- Every history: a stream is opened before anything else is told of it. -/
theorem Deeds.foretold {side : Side} {own : TransportParameters}
    (h : (new side own).Deeds os s) {earlier later : List Occurrence}
    (hos : os = earlier ++ .told e :: later) (hid : e.streamId? = some id) :
    e = .streamOpened id ∨ id ∈ earlier.filterMap (·.own?) ++ earlier.filterMap (·.peers?) := by
  induction h generalizing earlier later with
  | refl =>
    cases earlier with
    | nil => cases hos
    | cons _ _ => cases hos
  | @tail os os' s₁ _ hdeeds hdeed ih =>
    -- an event that the last deed tells is about a stream that was opened until then
    have hlast (more : List Occurrence) (hmore : earlier = os ++ more) (he : .told e ∈ os') :
        e = .streamOpened id ∨
          id ∈ earlier.filterMap (·.own?) ++ earlier.filterMap (·.peers?) := by
      have hlisted := listed_of_deeds hdeeds
      rcases hdeed.used hlisted.orderly he hid with hopened | hused
      · exact .inl hopened
      · rw [hmore, List.filterMap_append, List.filterMap_append]
        rcases List.mem_append.1 ((hlisted.used_iff id).1 hused) with hown | hpeers
        · exact .inr (List.mem_append_left _ (List.mem_append_left _ hown))
        · exact .inr (List.mem_append_right _ (List.mem_append_left _ hpeers))
    rcases List.append_eq_append_iff.1 hos with ⟨more, hmore, hos'⟩ | ⟨more, hmore, hos'⟩
    · refine hlast more hmore ?_
      rw [hos']
      exact List.mem_append_right _ List.mem_cons_self
    · cases more with
      | nil =>
        rw [List.append_nil] at hmore
        refine hlast [] (hmore.symm.trans (List.append_nil os).symm) ?_
        rw [← List.nil_append os', ← hos']
        exact List.mem_cons_self
      | cons o rest =>
        obtain ⟨rfl, rfl⟩ := List.cons.inj hos'
        exact ih hmore

end

/-! ## The result

The history of every run is in order, and who is told of was opened before. -/

/-- **Events come in order.** In every run the list of events is what has been told
since it was last taken, and everything is told in order: nothing is told that an
earlier occurrence bars. Only streams of the peer are told to be opened, and of each of
these nothing else is told before. -/
theorem told_in_order (side : Side) (own : TransportParameters) (ops : List Operation)
    (hops : ∀ op ∈ ops, op.Fits) :
    let os := history ((new side own).trace ops)
    ((new side own).after ops).events = os.foldl Occurrence.hear [] ∧
    os.Pairwise (fun o o' => ∀ e, o' = .told e → ¬ o.Bars e) ∧
    (∀ id, .told (.streamOpened id) ∈ os → id.initiator = side.opposite) ∧
    ∀ earlier e later id, os = earlier ++ .told e :: later → e.streamId? = some id →
      id.initiator = side.opposite → e ≠ .streamOpened id → .told (.streamOpened id) ∈ earlier := by
  intro os
  have hs := orderly_new side own
  have hdeeds : (new side own).Deeds os _ := deeds_after hs (queued_new side own) hops
  have hlisted := listed_of_deeds hdeeds
  refine ⟨hdeeds.events hs, (hdeeds.tells hs).ordered, fun id hopened => ?_, ?_⟩
  · have hpeers : id ∈ os.filterMap (·.peers?) := List.mem_filterMap.2 ⟨_, hopened, rfl⟩
    exact (((hlisted.peers id.direction).mem_iff (hlisted.nextRemote_le _) rfl).1 hpeers).1
  · intro earlier e later id hos hid hremote hne
    rcases hdeeds.foretold hos hid with hopened | hmem
    · exact (hne hopened).elim
    rcases List.mem_append.1 hmem with hown | hpeers
    · -- the application opens no stream of the peer
      obtain ⟨o, ho, hown'⟩ := List.mem_filterMap.1 hown
      have hlocal := hlisted.orderly.nextLocal_le id.direction
      have hmem' : id ∈ os.filterMap (·.own?) := by
        rw [hos]
        exact List.mem_filterMap.2 ⟨o, List.mem_append_left _ ho, hown'⟩
      have hside := (((hlisted.own id.direction).mem_iff (by omega) rfl).1 hmem').1
      rw [hside] at hremote
      exact (side.opposite_ne hremote.symm).elim
    · obtain ⟨o, ho, hpeers'⟩ := List.mem_filterMap.1 hpeers
      rwa [Occurrence.eq_told_of_peers? hpeers'] at ho

/-- The peer names its second two-way stream, ends its half and wants no more of
ours. -/
def conversing : List Operation :=
  [.streamData ⟨4⟩ 0 [1] false, .streamData ⟨4⟩ 1 [2] true, .read ⟨4⟩ 9, .peerStop ⟨4⟩ 7, .freeze]

/-- We let the peer open two two-way streams. -/
def hosting : TransportParameters where
  initialMaxData := 9
  initialMaxStreamsBidi := 2
  initialMaxStreamDataBidiRemote := 9

/-- The first stream is opened by naming the second, and the end of the second comes before
it is closed. -/
theorem told_in_order_conversing :
    history ((new .server hosting).trace conversing) =
        [.told (.streamOpened ⟨0⟩), .told (.streamOpened ⟨4⟩), .told (.streamReadable ⟨4⟩),
          .told (.streamReadable ⟨4⟩), .told (.streamFinished ⟨4⟩), .told (.stopSending ⟨4⟩ 7),
          .told (.streamClosed ⟨4⟩), .frozen] ∧
      InOrder (history ((new .server hosting).trace conversing)) := by
  refine ⟨by decide, ?_⟩
  exact (told_in_order .server hosting conversing (by decide)).2.1

end StreamSet

end QuicHost
