import QuicHost.Proofs.Stream.Numbering

/-!
# Streams come and go

Streams are opened in two ways and removed in one. The application opens the next
stream of a direction, and learns its identifier from the answer; the peer opens
all streams of a class up to the one it names, and the application is told of
each. A stream is removed as soon as it is done.

In every run the identifiers of each class are given out in order and without a
gap (`Numbered`), so a stream was opened exactly if its identifier is below the
next one, and none is opened twice. The counters are right (`Census`) and stay
within the limits of either side (`Within`), and no stream is left that is done
(`Tidy`). The result is `lifetimes`.
-/

namespace QuicHost

namespace StreamSet

section

variable {s s' : StreamSet} {os : List Occurrence} {id : StreamId} {st st' : Stream}

/-! ## No stream is left that is done

Every operation that can end a half looks whether the stream is done and removes it. So a
live stream always has a half that is not over, until everything has stopped and nobody
looks any more. -/

/-- While not everything has stopped, no live stream is done. -/
def Tidy (s : StreamSet) : Prop :=
  s.frozen = false → ∀ id st, s.streams.get? id = some st → st.isDone = false

/-- A new stream has a half that has just begun. -/
theorem isDone_newStream (s : StreamSet) (id : StreamId) : (s.newStream id).isDone = false := by
  by_cases hlocal : id.IsLocal s.side
  · have hsend : (s.newStream id).send =
        some (.ofLimit (sendLimitFor s.side s.peerParams id)) := if_pos (.inr hlocal)
    exact Stream.isDone_eq_false_of_send hsend rfl
  · have hrecv : (s.newStream id).recv =
        some (.ofWindow (recvWindowFor s.side s.localParams id)) := if_pos (.inr hlocal)
    exact Stream.isDone_eq_false_of_recv hrecv (.inl rfl)

/-- A stream that is opened is not done. -/
theorem Tidy.opens (ht : s.Tidy) (h : s.Opens s') : s'.Tidy := by
  intro hfrozen id st hget
  rw [h.frozen] at hfrozen
  by_cases hused : s.Used id
  · rw [h.old hused] at hget
    exact ht hfrozen id st hget
  · rw [h.new hused hget]
    exact isDone_newStream s id

/-- A stream that is done through an occurrence is removed by it. -/
theorem Tidy.deed (hs : s.Orderly) (ht : s.Tidy) (h : s.Deed os s') : s'.Tidy := by
  cases h with
  | opened _ => exact ht.opens (opens_openStream hs _)
  | named hid _ hopen => exact ht.opens (opens_of_ensureOpen hs hid hopen)
  | @turned id _ _ _ s₁ hfrozen _ _ hturns =>
    intro _ id' st' hget'
    by_cases heq : id' = id
    · subst heq
      exact isDone_of_get?_reap hget'
    · rw [get?_reap_of_ne heq, hturns.streams, if_neg heq] at hget'
      exact ht hfrozen id' st' hget'
  | stirred hfrozen hstirs =>
    intro _ id st' hget
    obtain ⟨st, hget', hstirred⟩ := hstirs.stream hget
    rw [hstirred.isDone_eq]
    exact ht hfrozen id st hget'
  | left id half hfrozen =>
    intro hfrozen'
    rw [(keeps_setRecv s id half).frozen, hfrozen] at hfrozen'
    cases hfrozen'
  | taken => exact ht
  | frozen => exact nofun

theorem Tidy.deeds (hs : s.Orderly) (ht : s.Tidy) (h : s.Deeds os s') : s'.Tidy := by
  induction h with
  | refl => exact ht
  | tail hdeeds hdeed ih => exact ih.deed (hdeeds.orderly hs).1 hdeed

/-! ## The limits on the number of streams

Either side counts the live streams of its own and of the peer, and opens one only while
there is room. Limits only rise, and streams that go make room. -/

/-- Neither side keeps more streams open than the other allows. -/
def Within (s : StreamSet) : Prop :=
  ∀ d, s.liveLocal.get d ≤ s.peerMax.get d ∧ s.liveRemote.get d ≤ s.localMax.get d

theorem within_new (side : Side) (own : TransportParameters) : (new side own).Within := by
  intro d
  cases d with
  | bidi => exact ⟨Nat.zero_le _, Nat.zero_le _⟩
  | uni => exact ⟨Nat.zero_le _, Nat.zero_le _⟩

/-- No stream comes, and limits do not fall. -/
theorem Within.mono (hw : s.Within) (hlocal : ∀ d, s'.liveLocal.get d ≤ s.liveLocal.get d)
    (hremote : ∀ d, s'.liveRemote.get d ≤ s.liveRemote.get d)
    (hpeer : ∀ d, s.peerMax.get d ≤ s'.peerMax.get d) (hown : s'.localMax = s.localMax) :
    s'.Within := by
  intro d
  obtain ⟨hl, hr⟩ := hw d
  rw [hown]
  exact ⟨(hlocal d).trans (hl.trans (hpeer d)), (hremote d).trans hr⟩

theorem Within.still (hw : s.Within) (h : s.Still s')
    (hpeer : ∀ d, s.peerMax.get d ≤ s'.peerMax.get d) (hown : s'.localMax = s.localMax) :
    s'.Within := by
  refine hw.mono (fun d => ?_) (fun d => ?_) hpeer hown
  · rw [h.liveLocal]
  · rw [h.liveRemote]

/-- A stream is opened only while there is room. -/
theorem Within.openStream (hw : s.Within) (d : Direction) : (s.openStream d).2.Within := by
  rcases s.openStream_eq d with ⟨e, heq⟩ | ⟨hroom, -, heq⟩
  · rw [heq]
    exact hw
  rw [heq]
  intro d'
  refine ⟨?_, (hw d').2⟩
  simp only [addStream, PerDirection.get_set]
  split
  · next hd =>
    subst hd
    omega
  · exact (hw d').1

/-- The peer's streams are opened only up to our limit. -/
theorem Within.ensureOpen (hw : s.Within) (h : s.ensureOpen id = .ok (some s')) : s'.Within := by
  rcases ensureOpen_eq_some h with
    ⟨-, rfl⟩ | ⟨next, count, opened, -, -, -, -, -, hroom, hadds, rfl⟩
  · exact hw
  obtain ⟨hlocal, -, hpeer, hown⟩ := hadds.counts
  intro d
  simp only [hlocal, hpeer, hown, PerDirection.get_set]
  refine ⟨(hw d).1, ?_⟩
  split
  · next hd =>
    subst hd
    exact hroom
  · exact (hw d).2

/-- A stream that goes makes room. -/
theorem Within.reap (hw : s.Within) (id : StreamId) : (s.reap id).Within := by
  have hkeeps := keeps_reap s id
  have hcount := liveCount_removeStream s id
  rw [StreamSet.reap] at hkeeps ⊢
  split
  · next hdone =>
    rw [if_pos hdone] at hkeeps
    refine hw.mono (fun d => ?_) (fun d => ?_) (fun d => ?_) hkeeps.localMax
    · have hown := hcount s.side d
      rw [liveCount, liveCount, hkeeps.side, if_pos rfl, if_pos rfl] at hown
      omega
    · have hother := hcount s.side.opposite d
      rw [liveCount, liveCount, hkeeps.side, if_neg s.side.opposite_ne,
        if_neg s.side.opposite_ne] at hother
      omega
    · obtain ⟨_, _, _, heq⟩ := s.removeStream_eq id
      rw [heq]
  · exact hw

/-- One quiet change keeps the numbers within the limits. -/
theorem Within.quiet (hw : s.Within) (h : s.Quiet s') : s'.Within := by
  cases h with
  | opened _ => exact hw.openStream _
  | named _ hopen => exact hw.ensureOpen hopen
  | recv id h => exact hw.still (still_modify s id _) (fun _ => Nat.le_refl _) rfl
  | recvWindow w =>
    exact hw.still (still_of_streams_eq rfl rfl rfl rfl) (fun _ => Nat.le_refl _) rfl
  | told _ _ => exact hw.still (still_of_streams_eq rfl rfl rfl rfl) (fun _ => Nat.le_refl _) rfl
  | acked n _ => exact hw.still (still_setSend s _ _) (fun _ => Nat.le_refl _) rfl
  | reaped id => exact hw.reap id

/-- What the peer allows never falls. -/
theorem le_peerMax_raisePeerMax (s : StreamSet) (d d' : Direction) (n : Nat) :
    s.peerMax.get d' ≤ (s.raisePeerMax d n).peerMax.get d' := by
  have hraised : (s.raisePeerMax d n).peerMax =
      if n ≤ s.peerMax.get d then s.peerMax else s.peerMax.set d n := by
    rw [raisePeerMax, announceAvailable]
    split_ifs <;> rfl
  rw [hraised]
  split
  · exact Nat.le_refl _
  · rw [PerDirection.get_set]
    split
    · next hd =>
      subst hd
      omega
    · exact Nat.le_refl _

/-- One step keeps the numbers within the limits. -/
theorem Within.step (hs : s.Orderly) (hw : s.Within) (h : s.Step s') : s'.Within := by
  have hown := (h.orderly hs).2.localMax
  cases h with
  | quiet h => exact hw.quiet h
  | written id data fin =>
    refine hw.still (still_write s id data fin) (fun d => ?_) hown
    rw [peerMax_write]
  | @abandoned id half _ _ =>
    refine hw.still (still_abandonSend s id half) (fun d => ?_) hown
    simp only [abandonSend]
    split
    · exact Nat.le_refl _
    · exact Nat.le_refl _
  | raised id limit =>
    refine hw.still (still_onMaxStreamData s id limit) (fun d => ?_) hown
    rw [peerMax_onMaxStreamData]
  | raisedAll limit =>
    refine hw.still (still_onMaxData s limit) (fun d => ?_) hown
    rw [onMaxData]
    split
    · exact Nat.le_refl _
    · rw [peerMax_wakeParked]
  | allowed d n =>
    refine hw.still (still_onMaxStreams s d n) (fun d' => ?_) hown
    rw [onMaxStreams]
    split
    · exact Nat.le_refl _
    · exact le_peerMax_raisePeerMax s d d' n
  | completed peer =>
    refine hw.still (still_onHandshakeCompleted s peer) (fun d => ?_) hown
    rw [onHandshakeCompleted]
    split
    · exact Nat.le_refl _
    · rw [peerMax_wakeParked]
      exact (le_peerMax_raisePeerMax (s.raise peer) .bidi d _).trans
        (le_peerMax_raisePeerMax _ .uni d _)
  | taken => exact hw
  | frozen => exact hw

theorem Within.steps (hs : s.Orderly) (hw : s.Within) (h : s.Steps s') : s'.Within := by
  induction h with
  | refl => exact hw
  | tail hsteps hstep ih => exact ih.step (Steps.orderly hs hsteps).1 hstep

/-- The most streams of a direction that the operations of a run say that we may
keep open. -/
def advertised (d : Direction) (ops : List Operation) : Nat :=
  (ops.map (·.allows d)).foldr max 0

/-- What one operation allows is no more than what was advertised at all. -/
theorem allows_le_advertised {d : Direction} {ops : List Operation} {op : Operation}
    (h : op ∈ ops) : op.allows d ≤ advertised d ops := by
  induction ops with
  | nil => cases h
  | cons first rest ih =>
    rw [advertised, List.map_cons, List.foldr_cons]
    rcases List.mem_cons.1 h with rfl | hmem
    · exact Nat.le_max_left _ _
    · exact (ih hmem).trans (Nat.le_max_right _ _)

/-! ## The indices of the peer's streams

The peer names streams by identifiers that fit, so its counters stay within the indices
that fit. -/

/-- The indices of the peer's streams stay within what an identifier can hold. -/
theorem Deeds.nextRemote_le
    (hn : ∀ d, s.nextRemote.get d ≤ 0x4000000000000000) (h : s.Deeds os s') (d : Direction) :
    s'.nextRemote.get d ≤ 0x4000000000000000 := by
  induction h with
  | refl => exact hn d
  | @tail _ _ s₁ s₂ _ hdeed ih =>
    cases hdeed with
    | @opened d' _ _ =>
      rcases s₁.openStream_eq d' with ⟨e, heq⟩ | ⟨-, -, heq⟩
      · rw [heq]
        exact ih
      · rw [heq]
        exact ih
    | @named id _ hid _ hopen =>
      -- one past the index of an identifier that fits, which is at most the bound itself
      have hindex := StreamId.index_lt_of_fits hid
      rcases ensureOpen_eq_some hopen with ⟨-, rfl⟩ | ⟨_, _, _, -, -, -, -, -, -, -, rfl⟩
      · exact ih
      · simp only [PerDirection.get_set]
        split
        · omega
        · exact ih
    | turned _ _ _ hturns =>
      rw [(hturns.toKeeps.trans (keeps_reap _ _)).nextRemote]
      exact ih
    | stirred _ hstirs =>
      rw [hstirs.nextRemote]
      exact ih
    | left id half _ => exact ih
    | taken => exact ih
    | frozen => exact ih

/-! ## What is answered about streams that are not live

A stream that is gone is answered as closed, and one that was never opened as unknown.
Which of the two it is depends on whether the identifier was used. -/

/-- Whoever names a stream that is not live hears that it is over, or that it
never was. -/
theorem answers_missing (hfrozen : s.frozen = false) (hnone : s.streams.get? id = none)
    (data : Bytes) (fin : Bool) {maxLen : Nat} (hlen : maxLen ≠ 0) :
    (s.write id data fin).1 = .error (s.missing id) ∧
      (s.read id maxLen).1 = .error (s.missing id) ∧
      (s.resetStream id).1 = .error (s.missing id) ∧
      (s.stopSending id).1 = .error (s.missing id) ∧
      s.sendCapacity id = .error (s.missing id) := by
  have hhalf : s.writableHalf id = .error (s.missing id) := by
    simp only [writableHalf, hfrozen, hnone, Bool.false_eq_true, ↓reduceIte]
  refine ⟨?_, ?_, ?_, ?_, ?_⟩
  · simp only [write, hhalf]
  · simp only [read, hlen, hnone, hfrozen, Bool.false_eq_true, ↓reduceIte]
  · simp only [resetStream, hfrozen, hnone, Bool.false_eq_true, ↓reduceIte]
  · simp only [stopSending, hfrozen, hnone, Bool.false_eq_true, ↓reduceIte]
  · rw [sendCapacity, hhalf]
    rfl

/-! ## Naming a stream

Whatever the peer says about a stream of its own opens it and all before it, unless it was
used. Whatever it says about one of ours that we have not opened is a violation. -/

/-- If a stream that the peer names is not refused and not gone, the unused
streams of its class up to it are opened, and nothing else happens to streams. -/
theorem get?_ensureOpen (hs : s.Orderly) (hid : id.Fits)
    (hopen : s.ensureOpen id = .ok (some s')) (id' : StreamId) :
    s'.streams.get? id' =
      if ¬ s.Used id' ∧ id'.initiator = id.initiator ∧ id'.direction = id.direction ∧
        id'.index ≤ id.index then some (s.newStream id') else s.streams.get? id' := by
  have hindex := StreamId.index_lt_of_fits hid
  rcases ensureOpen_eq_some hopen with ⟨⟨st, hget⟩, rfl⟩ | ⟨next, count, opened, -, hlocal, rfl,
    hle, rfl, -, hadds, rfl⟩
  · -- the stream is live, so all streams of its class up to it were opened
    refine (if_neg ?_).symm
    rintro ⟨hunused, hside, hdirection, hle⟩
    have hused := hs.used hget
    have hclass : s'.nextIndex id' = s'.nextIndex id := by
      have hlocal : id'.IsLocal s'.side ↔ id.IsLocal s'.side := by
        rw [StreamId.IsLocal, StreamId.IsLocal, hside]
      rw [nextIndex, nextIndex, hdirection]
      exact if_congr hlocal rfl rfl
    rw [Used, ← hclass] at hused
    exact hunused (Nat.lt_of_le_of_lt hle hused)
  · have hinitiator := StreamId.initiator_of_not_isLocal hlocal
    -- the streams opened along with `id` are those of its class from the first unused one
    -- up to it
    have hmem := mem_opened_iff s.side id.direction hle hindex id'
    change opened.streams.get? id' = _
    split
    · next hnew =>
      obtain ⟨hunused, hside, hdirection, hle'⟩ := hnew
      have hremote : ¬ id'.IsLocal s.side := by
        rw [StreamId.IsLocal, hside, hinitiator]
        exact s.side.opposite_ne
      rw [Used, nextIndex, if_neg hremote, hdirection, Nat.not_lt] at hunused
      exact hadds.new id' (hmem.2 ⟨hremote, hdirection, hunused, hle'⟩)
    · next hnot =>
      refine hadds.old id' fun hin => hnot ?_
      obtain ⟨hremote, hdirection, hge, hle'⟩ := hmem.1 hin
      refine ⟨?_, ?_, hdirection, hle'⟩
      · rw [Used, nextIndex, if_neg hremote, hdirection]
        exact Nat.not_lt.2 hge
      · rw [hinitiator, StreamId.initiator_of_not_isLocal hremote]

/-- A report on a stream that is refused is answered with the reason, and changes
nothing. -/
theorem reports_of_ensureOpen_error (hfrozen : s.frozen = false) {e : TransportError}
    (h : s.ensureOpen id = .error e) (offset : Nat) (data : Bytes) (fin : Bool)
    (errorCode finalSize : Nat) :
    s.onStreamData id offset data fin = (.error e, s) ∧
      s.onStreamReset id errorCode finalSize = (.error e, s) ∧
      s.onStopSending id errorCode = (.error e, s) := by
  exact ⟨onNamed_of_error hfrozen h, onNamed_of_error hfrozen h, onNamed_of_error hfrozen h⟩

end

/-! ## The result

All of this about one run from a new set of streams. -/

/-- The streams that the application has opened in a run, in order. -/
def ownStreams (t : List Entry) : List StreamId := (history t).filterMap (·.own?)

/-- The streams that the peer has opened in a run, in order. -/
def peerStreams (t : List Entry) : List StreamId := (history t).filterMap (·.peers?)

/-- Whoever is among the steps of a run cuts the run. -/
theorem exists_of_mem_trace {s : StreamSet} {ops : List Operation} {x : Entry}
    (h : x ∈ s.trace ops) : ∃ ops₁ ops₂, ops = ops₁ ++ x.op :: ops₂ ∧ x.before = s.after ops₁ ∧
      x.answer = (x.before.perform x.op).1 := by
  obtain ⟨earlier, later, heq⟩ := List.append_of_mem h
  obtain ⟨ops₁, ops₂, hops, -, hbefore, hanswer, -⟩ := trace_eq_append heq
  exact ⟨ops₁, ops₂, hops, hbefore, hanswer⟩

/-- What is known of the identifiers after every history: those of each class were
given out in order. -/
structure Listed (side : Side) (own : TransportParameters) (os : List Occurrence)
    (s : StreamSet) : Prop where
  orderly : s.Orderly
  setup : s.side = side ∧ s.localMax = own.maxStreams
  /-- our streams, as the answers of the application's calls tell -/
  own : ∀ d, Numbered side d 0 (s.nextLocal.get d) (os.filterMap (·.own?))
  /-- the peer's streams, as the events tell -/
  peers : ∀ d, Numbered side.opposite d 0 (s.nextRemote.get d) (os.filterMap (·.peers?))
  /-- the peer's counter goes no further than there are indices -/
  nextRemote_le : ∀ d, s.nextRemote.get d ≤ 0x4000000000000000

/-- Which streams there are follows from the occurrences, by what they number. -/
theorem listed_of_deeds {side : Side} {own : TransportParameters} {os : List Occurrence}
    {s : StreamSet} (h : (new side own).Deeds os s) : Listed side own os s := by
  have hs := orderly_new side own
  obtain ⟨horderly, hages⟩ := h.orderly hs
  have hnumbers := h.numbers hs
  refine ⟨horderly, ⟨hages.side, hages.localMax⟩, fun d => ?_, fun d => ?_, ?_⟩
  · have hnumbered := hnumbers.own d
    have hzero : (new side own).nextLocal.get d = 0 := by cases d <;> rfl
    rwa [hzero] at hnumbered
  · have hnumbered := hnumbers.peers d
    have hzero : (new side own).nextRemote.get d = 0 := by cases d <;> rfl
    rwa [hzero] at hnumbered
  · refine h.nextRemote_le fun d => ?_
    cases d with
    | bidi => exact Nat.zero_le _
    | uni => exact Nat.zero_le _

/-- A stream was opened if and only if its index lies below the next one. -/
theorem Listed.used_iff {side : Side} {own : TransportParameters} {os : List Occurrence}
    {s : StreamSet} (h : Listed side own os s) (id : StreamId) :
    s.Used id ↔ id ∈ os.filterMap (·.own?) ++ os.filterMap (·.peers?) := by
  have hlocal := h.orderly.nextLocal_le id.direction
  have hown : id ∈ os.filterMap (·.own?) ↔ _ := (h.own id.direction).mem_iff (by omega) rfl
  have hpeers : id ∈ os.filterMap (·.peers?) ↔ _ :=
    (h.peers id.direction).mem_iff (h.nextRemote_le _) rfl
  rw [List.mem_append, hown, hpeers, Used, nextIndex]
  by_cases hside : id.initiator = side
  · have hlocal : id.IsLocal s.side := hside.trans h.setup.1.symm
    have hother : ¬ side = side.opposite := side.opposite_ne.symm
    rw [if_pos hlocal]
    simp only [hside, hother, true_and, false_and, or_false]
  · have hlocal : ¬ id.IsLocal s.side := fun hlocal => hside (hlocal.trans h.setup.1)
    have hother := Side.ne_iff.1 hside
    rw [if_neg hlocal]
    simp only [hother, true_and, side.opposite_ne, false_and, false_or]

/-- What is known of the streams after every run. -/
structure Kept (side : Side) (own : TransportParameters) (t : List Entry) (s : StreamSet) :
    Prop extends Listed side own (history t) s where
  /-- the counters are the numbers of live streams -/
  census : s.Census
  /-- neither side keeps more streams than it may -/
  within : s.Within
  /-- nobody keeps a stream that is done -/
  tidy : s.Tidy

/-- What a run keeps of all this. -/
theorem kept_after (side : Side) (own : TransportParameters) {ops : List Operation}
    (hops : ∀ op ∈ ops, op.Fits) :
    Kept side own ((new side own).trace ops) ((new side own).after ops) := by
  have hs := orderly_new side own
  have hsteps := steps_after (new side own) hops
  have hdeeds := deeds_after hs (queued_new side own) hops
  exact ⟨listed_of_deeds hdeeds, (census_new side own).steps hs hsteps,
    (within_new side own).steps hs hsteps, Tidy.deeds hs (fun _ _ _ hget => by cases hget) hdeeds⟩

/-- **Every stream lives once.** In every run: the counters are the numbers of live
streams of either side and direction; we keep no more streams open than the peer has
allowed, and the peer no more than we do.

What `openStream` answers belongs to us, has the direction asked for, and is an
identifier that exists. The identifiers of each direction, in the order in which
streams were opened, are those of all indices below the next one, for our streams
and for the peer's. Every live stream was opened, and a stream that is gone never
is live again.

A stream that the peer names is opened together with all unused streams of its
class below it, which changes no other stream; or it is gone; or it was never
opened, and the report is refused and changes nothing.

While not everything has stopped, whoever writes, reads at least a byte, abandons
a half or asks for credit on a stream that is not live, hears that the stream is
over if it was opened, and that there is none otherwise; and no live stream is
done. -/
theorem lifetimes (side : Side) (own : TransportParameters) (ops : List Operation)
    (hops : ∀ op ∈ ops, op.Fits) :
    let s := (new side own).after ops
    let t := (new side own).trace ops
    (∀ d, s.liveLocal.get d = (s.living side d).card ∧
      s.liveRemote.get d = (s.living side.opposite d).card ∧
      s.liveLocal.get d ≤ s.peerMax.get d ∧ s.peerMax.get d ≤ advertised d ops ∧
      s.liveRemote.get d ≤ own.maxStreams.get d) ∧
    (∀ e ∈ t, ∀ d id, e.op = .openStream d → e.answer = .opened (.ok id) →
      id.initiator = side ∧ id.direction = d ∧ id.value ≤ StreamId.maxValue) ∧
    (∀ d, (ownStreams t).filter (·.direction = d) =
        (List.range (s.nextLocal.get d)).map (StreamId.ofParts side d) ∧
      ((ownStreams t).filter (·.direction = d)).Pairwise (·.value < ·.value)) ∧
    (∀ d, (peerStreams t).filter (·.direction = d) =
        (List.range (s.nextRemote.get d)).map (StreamId.ofParts side.opposite d) ∧
      ((peerStreams t).filter (·.direction = d)).Pairwise (·.value < ·.value)) ∧
    (∀ id st, s.streams.get? id = some st → id ∈ ownStreams t ++ peerStreams t) ∧
    (∀ earlier e later, t = earlier ++ e :: later → ∀ id st, e.before.streams.get? id = some st →
      e.after.streams.get? id = none → ∀ x ∈ later, x.after.streams.get? id = none) ∧
    (∀ id, id.Fits →
      (∃ s', s.ensureOpen id = .ok (some s') ∧ (∃ st, s'.streams.get? id = some st) ∧
        ∀ id', s'.streams.get? id' =
          if ¬ s.Used id' ∧ id'.initiator = id.initiator ∧ id'.direction = id.direction ∧
            id'.index ≤ id.index then some (s.newStream id') else s.streams.get? id') ∨
      (s.ensureOpen id = .ok none ∧ s.Gone id) ∨
      ∃ e, s.ensureOpen id = .error e ∧ ¬ s.Used id ∧ (s.frozen = false →
        ∀ offset data fin errorCode finalSize,
          s.onStreamData id offset data fin = (.error e, s) ∧
          s.onStreamReset id errorCode finalSize = (.error e, s) ∧
          s.onStopSending id errorCode = (.error e, s))) ∧
    (s.frozen = false → ∀ id, s.streams.get? id = none → ∀ data fin maxLen, maxLen ≠ 0 →
      let e := if id ∈ ownStreams t ++ peerStreams t then .streamClosed else .streamNotFound
      (s.write id data fin).1 = .error e ∧ (s.read id maxLen).1 = .error e ∧
      (s.resetStream id).1 = .error e ∧ (s.stopSending id).1 = .error e ∧
      s.sendCapacity id = .error e) ∧
    (s.frozen = false → ∀ id st, s.streams.get? id = some st → st.isDone = false) := by
  intro s t
  have hk : Kept side own t s := kept_after side own hops
  have hs := hk.orderly
  obtain ⟨hside, hmax⟩ := hk.setup
  have hlocal (d : Direction) : s.nextLocal.get d ≤ 0x4000000000000000 :=
    (hs.nextLocal_le d).trans (by decide)
  refine ⟨fun d => ⟨?_, ?_, (hk.within d).1, ?_, ?_⟩, ?_, fun d => ⟨?_, ?_⟩, fun d => ⟨?_, ?_⟩,
    fun id st hget => ?_, ?_, fun id hid => ?_, ?_, hk.tidy⟩
  · have hcount := hk.census side d
    rwa [liveCount, hside, if_pos rfl] at hcount
  · have hcount := hk.census side.opposite d
    rwa [liveCount, hside, if_neg side.opposite_ne] at hcount
  · refine peerMax_after ?_ fun op hop => ⟨hops op hop, allows_le_advertised hop⟩
    cases d with
    | bidi => exact Nat.zero_le _
    | uni => exact Nat.zero_le _
  · rw [← hmax]
    exact (hk.within d).2
  · intro e he d id hop hok
    obtain ⟨ops₁, ops₂, rfl, hbefore, hanswer⟩ := exists_of_mem_trace he
    rw [List.forall_mem_append] at hops
    obtain ⟨hside', -⟩ := (kept_after side own hops.1).setup
    rw [← hbefore] at hside'
    rw [hok, hop] at hanswer
    rcases e.before.openStream_eq d with ⟨_, heq⟩ | ⟨-, hvalue, heq⟩
    · rw [perform, heq] at hanswer
      cases hanswer
    · rw [perform, heq] at hanswer
      obtain rfl := Except.ok.inj (Answer.opened.inj hanswer)
      rw [hside'] at hvalue ⊢
      exact ⟨StreamId.initiator_ofParts _ _ _, StreamId.direction_ofParts _ _ _, hvalue⟩
  · rw [ownStreams, (hk.own d).ids, Nat.sub_zero, List.range_eq_range']
  · exact (hk.own d).ascending (hlocal d)
  · rw [peerStreams, (hk.peers d).ids, Nat.sub_zero, List.range_eq_range']
  · exact (hk.peers d).ascending (hk.nextRemote_le d)
  · exact (hk.used_iff id).1 (hs.used hget)
  · intro earlier e later ht id st hget hnone x hx
    obtain ⟨ops₁, ops₂, hsplit, -, hbefore, -, rfl⟩ := trace_eq_append ht
    obtain ⟨ops₃, ops₄, rfl, hbefore', -⟩ := exists_of_mem_trace hx
    rw [hsplit, List.forall_mem_append, List.forall_mem_cons, List.forall_mem_append,
      List.forall_mem_cons] at hops
    obtain ⟨hfits₁, hfits, hfits₃, hfits', -⟩ := hops
    have hs₁ := (kept_after side own hfits₁).orderly
    rw [← hbefore] at hs₁
    -- it was live once, so it was opened; and from then on it is gone
    obtain ⟨hs₂, hages⟩ := (steps_perform e.before hfits).orderly hs₁
    have hused : e.after.Used id := hages.used (hs₁.used hget)
    have hfits₄ : ∀ op ∈ ops₃ ++ [x.op], op.Fits := by
      rw [List.forall_mem_append, List.forall_mem_singleton]
      exact ⟨hfits₃, hfits'⟩
    obtain ⟨-, hages'⟩ := (steps_after e.after hfits₄).orderly hs₂
    have hlast : x.after = e.after.after (ops₃ ++ [x.op]) := by
      rw [Entry.after, hbefore', after_append]
      rfl
    rw [hlast]
    exact hages'.gone hused hnone
  · rcases hopen : s.ensureOpen id with e | _ | s'
    · refine .inr (.inr ⟨e, rfl, (error_of_ensureOpen hopen).2, fun hfrozen => ?_⟩)
      exact reports_of_ensureOpen_error hfrozen hopen
    · refine .inr (.inl ⟨rfl, ?_⟩)
      have hpeek := peek_of_ensureOpen_eq_none hopen
      rw [peek] at hpeek
      split at hpeek
      · next hused => exact ⟨hused, hpeek⟩
      · cases hpeek
    · exact .inl ⟨s', rfl, live_of_ensureOpen hid hopen, get?_ensureOpen hs hid hopen⟩
  · intro hfrozen id hnone data fin maxLen hlen
    have hmissing : s.missing id =
        if id ∈ ownStreams t ++ peerStreams t then .streamClosed else .streamNotFound :=
      if_congr (hk.used_iff id) rfl rfl
    rw [← hmissing]
    exact answers_missing hfrozen hnone data fin hlen

/-- We open two streams and end the first, and the peer names its second stream
of a direction. -/
def coming : List Operation :=
  [.handshakeCompleted { initialMaxStreamsUni := 2, initialMaxStreamDataUni := 9 },
    .openStream .uni, .openStream .uni, .resetStream ⟨2⟩, .streamData ⟨7⟩ 0 [1] false]

/-- We let the peer open two streams of a direction. -/
def welcoming : TransportParameters where
  initialMaxData := 9
  initialMaxStreamsUni := 2
  initialMaxStreamDataUni := 9

/-- One of our two streams is gone, and the peer has opened two by naming the second. -/
theorem lifetimes_coming :
    let s := (new .client welcoming).after coming
    s.liveLocal.uni = 1 ∧ s.liveRemote.uni = 2 ∧ s.liveLocal.uni ≤ s.peerMax.uni ∧
      (s.write ⟨2⟩ [] true).1 = .error .streamClosed := by
  obtain ⟨hcounts, -, -, -, -, -, -, hmissing, -⟩ :=
    lifetimes .client welcoming coming (by decide)
  refine ⟨by decide, by decide, (hcounts .uni).2.2.1, ?_⟩
  exact (hmissing (by decide) ⟨2⟩ (by decide) [] true 1 (by decide)).1

end StreamSet

end QuicHost
