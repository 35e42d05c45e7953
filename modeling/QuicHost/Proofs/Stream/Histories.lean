import QuicHost.Proofs.Stream.Deeds

/-!
# What operations do, and what they tell

Every operation is a chain of deeds, and what is observed of it is what these deeds add to
the history (`deeds_perform`). So every run is a chain of deeds (`deeds_after`), and what
holds of a history is proved by induction on the chain.

The proof for an operation takes it apart once, along its own definition, and names the
deed of each branch: what the application learns from an answer is an occurrence like
what it is told by an event (`mark`), so that both can be compared in one list. Limits
and wake-ups, which may concern many streams at once, are a single deed (`Stirs`).
-/

namespace QuicHost.StreamSet

section

variable {s s' s'' : StreamSet} {os os' : List Occurrence} {id : StreamId} {st st' : Stream}

/-! ## Operations are chains of deeds

For each operation the deeds that it is made of, and with them what it has told. An
operation that is refused is no deed, unless it has opened a stream before it was refused. -/

/-- Opening a stream is refused and changes nothing, or it is the occurrence of its name. -/
theorem openStream_deeds (s : StreamSet) (d : Direction) :
    (∃ e, (s.openStream d).1 = .error e) ∧ (s.openStream d).2 = s ∨
      ∃ id, (s.openStream d).1 = .ok id ∧ s.Deed [.opened id] (s.openStream d).2 := by
  rcases s.openStream_eq d with ⟨e, heq⟩ | ⟨-, -, heq⟩
  · rw [heq]
    exact .inl ⟨⟨e, rfl⟩, rfl⟩
  · have hok := congrArg Prod.fst heq
    exact .inr ⟨_, hok, .opened hok⟩

/-- Parking changes the half of a stream, if anything. -/
theorem turns_park (hget : s.streams.get? id = some st) {h : SendHalf} (hsend : st.send = some h) :
    s.Turns id { st with send := some { h with blocked := true } } [] (s.park id h) := by
  rw [park]
  split
  · next hblocked =>
    have hself : { st with send := some { h with blocked := true } } = st := by
      rw [← hblocked, ← hsend]
    rw [hself]
    exact turns_self hget
  · exact (turns_self hget).setSend _ s.sendWindow _

theorem accept_zero (h : SendHalf) : h.accept 0 false = h := by
  rw [SendHalf.accept, reserve_zero]
  rfl

/-- A write turns one half, tells nothing, and ends no stream: it may be parked, and
accept bytes. -/
theorem write_deeds (s : StreamSet) (id : StreamId) (data : Bytes) (fin : Bool) :
    s.Reports (s.write id data fin).2 := by
  rw [write]
  split
  · exact .refl s
  next h hhalf =>
  have hfrozen := frozen_of_writableHalf hhalf
  obtain ⟨hwritable, st, hget, hsend⟩ := writableHalf_eq_ok hhalf
  -- the stream may still be written on, or waits for the end to be acknowledged
  have hturned (n : Nat) (fin blocked : Bool) {s' : StreamSet}
      (hturns : s.Turns id { st with send := some ({ h with blocked }.accept n fin) } [] s') :
      s.Reports s' := by
    refine ⟨[], (deed_of_turn (.written n fin blocked hsend hwritable) hfrozen hget hturns
      (Stream.isDone_eq_false_of_send rfl ?_)).single⟩
    rw [SendHalf.accept]
    dsimp only
    split
    · rfl
    split
    · rfl
    · exact SendState.isTerminal_eq_false_of_isWritable hwritable
  have hpark := turns_park hget hsend
  simp only
  split
  · next hrefused =>
    rw [if_pos hrefused.1]
    refine hturned 0 false true ?_
    rwa [accept_zero]
  · by_cases hshort : min data.length (s.creditFor h) < data.length
    · rw [if_pos hshort]
      exact hturned _ _ _ (hpark.setSend _ _ _)
    · rw [if_neg hshort]
      exact hturned _ _ _ ((turns_self hget).setSend _ _ _)

/-- A read changes its stream, or nothing. -/
theorem read_deeds (s : StreamSet) (id : StreamId) (maxLen : Nat) :
    s.Reports (s.read id maxLen).2 := by
  rw [read]
  split
  · exact .refl s
  split
  · exact .refl s
  next st hget =>
  split
  · exact .refl s
  next h hrecv =>
  simp only
  split
  -- a read of a frozen set is a deed of its own, as it grants nothing and reaps nothing
  · next hfrozen =>
    split
    · exact .refl s
    · exact ⟨[], (Deed.left id _ hfrozen).single⟩
  next hfrozen =>
  split
  · exact .refl s
  next hlive =>
  split
  · exact .refl s
  · have hdeed := Deed.turned (Bool.eq_false_iff.2 hfrozen) hget
      (.read maxLen _ hrecv (Bool.eq_false_iff.2 hlive))
      (turns_setRecv hget ((h.take maxLen).2.release (h.take maxLen).1.data.length)
        (s.recvWindow.read (h.take maxLen).1.data.length) (List.append_nil _).symm)
    exact ⟨_, hdeed.single⟩

/-- Abandoning a half is refused and changes nothing, or it is an occurrence, followed by
what is told of the end of the stream. -/
theorem resetStream_deeds (s : StreamSet) (id : StreamId) :
    (∃ e, (s.resetStream id).1 = .error e) ∧ (s.resetStream id).2 = s ∨
      (s.resetStream id).1 = .ok () ∧
        ∃ es : List Event, s.Deeds (.abandoned id :: es.map .told) (s.resetStream id).2 := by
  rw [resetStream]
  split
  · exact .inl ⟨⟨_, rfl⟩, rfl⟩
  next hfrozen =>
  split
  · exact .inl ⟨⟨_, rfl⟩, rfl⟩
  next st hget =>
  split
  · exact .inl ⟨⟨_, rfl⟩, rfl⟩
  next h hsend =>
  split
  · exact .inl ⟨⟨_, rfl⟩, rfl⟩
  next hlive =>
  have hdeed := Deed.turned (Bool.eq_false_iff.2 hfrozen) hget
    (.abandoned hsend (Bool.eq_false_iff.2 hlive))
    (turns_abandonSend hget h ((events_abandonSend s id h).trans (List.append_nil _).symm))
  exact .inr ⟨rfl, _, hdeed.single⟩

/-- Stopping a half is refused and changes nothing, or it is an occurrence, followed by what
is told of the end of the stream. -/
theorem stopSending_deeds (s : StreamSet) (id : StreamId) :
    (∃ e, (s.stopSending id).1 = .error e) ∧ (s.stopSending id).2 = s ∨
      (∃ n, (s.stopSending id).1 = .ok n) ∧
        ∃ es : List Event, s.Deeds (.stopped id :: es.map .told) (s.stopSending id).2 := by
  rw [stopSending]
  split
  · exact .inl ⟨⟨_, rfl⟩, rfl⟩
  next hfrozen =>
  split
  · exact .inl ⟨⟨_, rfl⟩, rfl⟩
  next st hget =>
  split
  · exact .inl ⟨⟨_, rfl⟩, rfl⟩
  next h hrecv =>
  split
  · exact .inl ⟨⟨_, rfl⟩, rfl⟩
  next hlive =>
  have hdeed := Deed.turned (Bool.eq_false_iff.2 hfrozen) hget
    (.stopped hrecv (Bool.eq_false_iff.2 hlive))
    (turns_setRecv hget h.stop (s.recvWindow.read h.buffer.buffered) (List.append_nil _).symm)
  exact .inr ⟨⟨_, rfl⟩, _, hdeed.single⟩

/-! ### Reports

A report of the peer may open streams, and then does one thing to the stream it names,
after which the stream may be over. `onNamed_cases` splits it in this way once for all
three reports. -/

/-- Counting is a deed, if anything; and what was counted is the half of the
stream. -/
theorem countReceived_deeds (hfrozen : s.frozen = false) (hget : s.streams.get? id = some st)
    {h : RecvHalf} (hrecv : st.recv = some h)
    (hlive : h.state.isTerminal = false ∨ h.stopped = true) {upTo : Nat}
    {r : Except TransportError RecvHalf} (hcount : s.countReceived id h upTo = (r, s')) :
    s.Reports s' ∧ ∀ counted, r = .ok counted → s'.frozen = false ∧
      s'.streams.get? id = some { st with recv := some counted } := by
  rcases countReceived_eq hcount with ⟨⟨e, rfl⟩, rfl⟩ | ⟨conn, rfl, hanswer⟩
  · exact ⟨.refl s', nofun⟩
  have hturns := turns_setRecv hget (h.reach upTo) conn (List.append_nil s.events).symm
  have hdeed := deed_of_turn (.counted (h.reach upTo).window hrecv hlive) hfrozen hget hturns
    (Stream.isDone_eq_false_of_recv rfl hlive)
  refine ⟨⟨[], hdeed.single⟩, fun counted hok => ⟨hfrozen, ?_⟩⟩
  subst hok
  obtain ⟨e, herror⟩ | hcounted := hanswer
  · cases herror
  · obtain rfl := Except.ok.inj hcounted
    have hself := hturns.streams id
    rwa [if_pos rfl] at hself

/-- Counting on a stopped stream is told of only if the stream ends by it. -/
theorem settleStopped_deeds (hfrozen : s.frozen = false) (hget : s.streams.get? id = some st)
    {h : RecvHalf} (hrecv : st.recv = some h) (hstopped : h.stopped = true) (upTo : Nat)
    (isFinal : Bool) : s.Reports (s.settleStopped id h upTo isFinal).2 := by
  refine settleStopped_cases (P := fun r => s.Reports r.2) (fun _ _ => .refl s)
    (fun _ _ hcount => (countReceived_deeds hfrozen hget hrecv (.inr hstopped) hcount).1)
    fun s' _ hcount => ?_
  -- what was grown is granted again, and nothing is told
  obtain ⟨hbefore, hcounted⟩ := countReceived_deeds hfrozen hget hrecv (.inr hstopped) hcount
  obtain ⟨hfrozen', hget'⟩ := hcounted _ rfl
  have hdeed := Deed.turned hfrozen' hget'
    (.settled ((h.reach upTo).window.grant (upTo - h.window.received)) (h.stopped && !isFinal) rfl
      hstopped)
    (turns_setRecv hget' (h.settle upTo isFinal)
      (s'.recvWindow.grant (upTo - h.window.received)) (List.append_nil _).symm)
  exact hbefore.trans ⟨_, hdeed.single⟩

/-- Data for a live stream stirs it, tells that it can be read, or settles it. -/
theorem takeData_deeds (hfrozen : s.frozen = false) (hget : s.streams.get? id = some st)
    (offset : Nat) (data : Bytes) (fin : Bool) :
    s.Reports (s.takeData id offset data fin st).2 := by
  refine takeData_cases (P := fun r => s.Reports r.2) (fun _ => .refl s) (fun _ _ _ => .refl s)
    (fun h hrecv _ hstopped => settleStopped_deeds hfrozen hget hrecv hstopped _ fin)
    (fun _ _ _ _ => .refl s)
    (fun _ _ _ hrecv hlive hcount => (countReceived_deeds hfrozen hget hrecv (.inl hlive) hcount).1)
    (fun _ _ _ hrecv _ hlive hcount _ =>
      (countReceived_deeds hfrozen hget hrecv (.inl hlive) hcount).1)
    fun h s' added buffer hrecv _ hlive hcount hinsert => ?_
  obtain ⟨hbefore, hcounted⟩ := countReceived_deeds hfrozen hget hrecv (.inl hlive) hcount
  obtain ⟨hfrozen', hget'⟩ := hcounted _ rfl
  -- filling never ends a half, so nothing is reaped and the deed is the turn itself
  have hlast : ((h.reach (offset + data.length)).fill buffer fin).state.isTerminal = false := by
    rw [RecvHalf.fill]
    dsimp only
    split
    · rfl
    · exact hlive
  have hdeed := deed_of_turn (.filled (h := h.reach (offset + data.length)) rfl hlive hinsert)
    hfrozen' hget'
    (turns_setRecv hget' _ s'.recvWindow (congrArg _ (Occurrence.filterMap_event?_told _).symm))
    (Stream.isDone_eq_false_of_recv rfl (.inl hlast))
  exact hbefore.trans ⟨_, hdeed.single⟩

/-- The end of the peer's half is told, and the end of the stream after it. -/
theorem takeReset_deeds (hfrozen : s.frozen = false) (hget : s.streams.get? id = some st)
    (errorCode finalSize : Nat) : s.Reports (s.takeReset id errorCode finalSize st).2 := by
  refine takeReset_cases (P := fun r => s.Reports r.2) (fun _ => .refl s)
    (fun h hrecv hstopped => settleStopped_deeds hfrozen hget hrecv hstopped finalSize true)
    (fun _ _ _ _ => .refl s) (fun _ _ _ => .refl s)
    (fun _ _ _ hrecv hlive hcount => (countReceived_deeds hfrozen hget hrecv (.inl hlive) hcount).1)
    fun h s' hrecv _ hlive _ _ hcount => ?_
  obtain ⟨hbefore, hcounted⟩ := countReceived_deeds hfrozen hget hrecv (.inl hlive) hcount
  obtain ⟨hfrozen', hget'⟩ := hcounted _ rfl
  have hdeed := Deed.turned hfrozen' hget'
    (.ended errorCode ((h.reach finalSize).window.read (finalSize - h.window.consumed)) rfl hlive)
    (turns_setRecv hget' (h.close finalSize)
      (s'.recvWindow.read (finalSize - h.window.consumed)) rfl)
  exact hbefore.trans ⟨_ :: _, hdeed.single⟩

/-- That the peer wants no more is told, and the end of the stream after it. -/
theorem takeStop_deeds (hfrozen : s.frozen = false) (hget : s.streams.get? id = some st)
    (errorCode : Nat) : s.Reports (s.takeStop id errorCode st).2 := by
  refine takeStop_cases (P := fun r => s.Reports r.2) (fun _ => .refl s) (fun _ _ _ => .refl s)
    fun h hsend hlive => ?_
  have hdeed := Deed.turned hfrozen hget (.refused errorCode hsend hlive)
    (turns_abandonSend hget h (congrArg (· ++ _) (events_abandonSend s id h)))
  exact ⟨_ :: _, hdeed.single⟩

/-- Naming a stream that is not gone is a deed, and what the live stream makes of the
report comes after it. -/
theorem onNamed_deeds {α : Type} {ignored : α}
    {report : StreamSet → Stream → Except TransportError α × StreamSet} (hid : id.Fits)
    (hreport : ∀ {s : StreamSet} {st}, s.frozen = false → s.streams.get? id = some st →
      s.Reports (report s st).2) :
    s.Reports (s.onNamed id ignored report).2 := by
  have hnamed {s' : StreamSet} (hfrozen : s.frozen = false)
      (hopen : s.ensureOpen id = .ok (some s')) : s.Reports s' :=
    ⟨_, (Deed.named hid hfrozen hopen).single⟩
  refine onNamed_rel (.refl s) (fun _ => hnamed) fun s' st hfrozen hopen hget => ?_
  refine (hnamed hfrozen hopen).trans (hreport ?_ hget)
  rcases ensureOpen_eq_some hopen with ⟨-, rfl⟩ | ⟨_, _, _, -, -, -, -, -, -, hadds, rfl⟩
  · exact hfrozen
  · exact hadds.frozen.trans hfrozen

/-- Data tells of the streams it opens first, and then as for a live stream. -/
theorem onStreamData_deeds (hid : id.Fits) (offset : Nat) (data : Bytes) (fin : Bool) :
    s.Reports (s.onStreamData id offset data fin).2 :=
  onNamed_deeds hid fun hfrozen hget => takeData_deeds hfrozen hget offset data fin

theorem onStreamReset_deeds (hid : id.Fits) (errorCode finalSize : Nat) :
    s.Reports (s.onStreamReset id errorCode finalSize).2 :=
  onNamed_deeds hid fun hfrozen hget => takeReset_deeds hfrozen hget errorCode finalSize

theorem onStopSending_deeds (hid : id.Fits) (errorCode : Nat) :
    s.Reports (s.onStopSending id errorCode).2 :=
  onNamed_deeds hid fun hfrozen hget => takeStop_deeds hfrozen hget errorCode

/-- An acknowledgement is told of only by the end of the stream. -/
theorem onStreamAcked_deeds (s : StreamSet) (id : StreamId) (n : Nat) :
    s.Reports (s.onStreamAcked id n) := by
  rw [onStreamAcked]
  split
  · exact .refl s
  next hfrozen =>
  split
  · exact .refl s
  next h hhalf =>
  obtain ⟨st, hget, hsend⟩ := sendHalf?_eq_some hhalf
  have hdeed := Deed.turned (Bool.eq_false_iff.2 hfrozen) hget (.acked n hsend)
    ((turns_self hget).setSend (h.acknowledge n) s.sendWindow s.parked)
  exact ⟨_, hdeed.single⟩

/-! ### Limits

A limit that is raised stirs the streams: states stay, credit grows, and some streams are
told to be writable. All three operations that raise limits come down to a change of
credit and a walk through the queue. -/

/-- Streams stirred twice are stirred, and what is told is told in order. -/
theorem Stirs.trans {es es' : List Event} (h : s.Stirs es s') (h' : s'.Stirs es' s'') :
    s.Stirs (es ++ es') s'' where
  ages := h.ages.trans h'.ages
  orderly hs := h'.orderly (h.orderly hs)
  frozen := h'.frozen.trans h.frozen
  nextLocal := h'.nextLocal.trans h.nextLocal
  nextRemote := h'.nextRemote.trans h.nextRemote
  stream hget := by
    obtain ⟨st', hget', hstirred'⟩ := h'.stream hget
    obtain ⟨st, hget'', hstirred⟩ := h.stream hget'
    exact ⟨st, hget'', hstirred.trans hstirred'⟩
  events := by rw [h'.events, h.events, List.append_assoc]
  told e hmem := by
    rcases List.mem_append.1 hmem with hmem | hmem
    · exact h.told e hmem
    rcases h'.told e hmem with havailable | ⟨id, half, heq, hsend, hmark⟩
    · exact .inl havailable
    · -- whoever is in the queue now was there before
      obtain ⟨st', hget', hst'⟩ := sendHalf?_eq_some hsend
      obtain ⟨st, hget, hstirred⟩ := h.stream hget'
      obtain ⟨half', hst, hmark'⟩ := hstirred.blocked hst' hmark
      exact .inr ⟨id, half', heq, (sendHalf?_of_get? hget).trans hst, hmark'⟩

/-- Limits that touch no stream. -/
theorem stirs_of_keeps (h : s.Keeps s') (hstreams : s'.streams = s.streams) {es : List Event}
    (hevents : s'.events = s.events ++ es) (htold : ∀ e ∈ es, ∃ d, e = .streamsAvailable d) :
    s.Stirs es s' where
  ages := h.ages
  orderly := h.orderly
  frozen := h.frozen
  nextLocal := h.nextLocal
  nextRemote := h.nextRemote
  stream {id st'} hget := ⟨st', by rwa [hstreams] at hget, .refl st'⟩
  events := hevents
  told e hmem := .inl (htold e hmem)

/-- A limit on streams stirs none; that streams can be opened may be told. -/
theorem stirs_raisePeerMax (s : StreamSet) (d : Direction) (n : Nat) :
    ∃ es, s.Stirs es (s.raisePeerMax d n) := by
  have hkeeps := keeps_raisePeerMax s d n
  rw [raisePeerMax, announceAvailable] at hkeeps ⊢
  split
  · exact ⟨[], stirs_of_keeps (.refl s) rfl (List.append_nil _).symm
      (List.forall_mem_nil _)⟩
  next hmore =>
  rw [if_neg hmore] at hkeeps
  split
  · next hannounce =>
    rw [if_pos hannounce] at hkeeps
    exact ⟨[.streamsAvailable d],
      stirs_of_keeps hkeeps rfl rfl fun e hmem => ⟨d, List.mem_singleton.1 hmem⟩⟩
  · next hannounce =>
    rw [if_neg hannounce] at hkeeps
    exact ⟨[], stirs_of_keeps hkeeps rfl (List.append_nil _).symm
      (List.forall_mem_nil _)⟩

/-- Waking takes marks off, and tells of those who had one. -/
theorem stirs_wakeParked (hl : s.Lined) (hfrozen : s.frozen = false) :
    s.Stirs (s.woken.map .streamWritable) s.wakeParked := by
  have hkeeps := keeps_wakeParked s
  refine ⟨hkeeps.ages, hkeeps.orderly, hkeeps.frozen, hkeeps.nextLocal, hkeeps.nextRemote,
    fun {id st'} hget => ?_, events_wakeParked s, fun e hmem => ?_⟩
  · rw [wakeParked] at hget
    split at hget
    · exact ⟨st', hget, .refl st'⟩
    rw [Table.get?_map] at hget
    obtain ⟨st, hget', rfl⟩ := Option.map_eq_some_iff.1 hget
    refine ⟨st, hget', ?_⟩
    split
    · refine ⟨rfl, ?_, fun {h'} hsend hmark => ?_⟩
      · rw [Option.map_map]
        rfl
      · obtain ⟨h, -, rfl⟩ := Option.map_eq_some_iff.1 hsend
        cases hmark
    · exact .refl st
  · obtain ⟨id, hwoken, rfl⟩ := List.mem_map.1 hmem
    obtain ⟨hparked, -, h, hsend, -⟩ := mem_woken_iff.1 hwoken
    exact .inr ⟨id, h, rfl, hsend, (hl.blocked hfrozen hsend).2 hparked⟩

theorem stirs_extendAll (s : StreamSet) (limit : Nat) : s.Stirs [] (s.extendAll limit) :=
  stirs_of_keeps (keeps_sendWindow s (s.sendWindow.extend limit)) rfl (List.append_nil _).symm nofun

/-- The peer's parameters raise the limits of all streams. -/
theorem stirs_raise (s : StreamSet) (peer : TransportParameters) : s.Stirs [] (s.raise peer) where
  ages := ages_raise s peer
  orderly hs := orderly_raise hs peer
  frozen := rfl
  nextLocal := rfl
  nextRemote := rfl
  stream {id st'} hget := by
    rw [raise, Table.get?_map] at hget
    obtain ⟨st, hget', rfl⟩ := Option.map_eq_some_iff.1 hget
    refine ⟨st, hget', rfl, ?_, fun {h'} hsend hmark => ?_⟩
    · rw [Option.map_map]
      rfl
    · obtain ⟨h, hst, rfl⟩ := Option.map_eq_some_iff.1 hsend
      exact ⟨h, hst, hmark⟩
  events := (List.append_nil _).symm
  told := nofun

/-- The limit of one stream rises, which takes its mark off if the stream is told
to be writable. -/
theorem stirs_onMaxStreamData (s : StreamSet) (id : StreamId) (limit : Nat) :
    ∃ es, s.Stirs es (s.onMaxStreamData id limit) := by
  have hkeeps := keeps_onMaxStreamData s id limit
  have hself : s.Stirs [] s := stirs_of_keeps (.refl s) rfl (List.append_nil _).symm nofun
  rw [onMaxStreamData] at hkeeps ⊢
  split
  · exact ⟨[], hself⟩
  next hfrozen =>
  rw [if_neg hfrozen] at hkeeps
  split
  · exact ⟨[], hself⟩
  next h hsend =>
  rw [hsend] at hkeeps
  simp only at hkeeps ⊢
  split
  · exact ⟨[], hself⟩
  next hlimit =>
  rw [if_neg hlimit] at hkeeps
  obtain ⟨st, hget, hst⟩ := sendHalf?_eq_some hsend
  -- the half has the same state, and no mark that it had not before
  have hstream (h' : SendHalf) (hstate : h'.state = h.state)
      (hmark : h'.blocked = true → h.blocked = true) {id' : StreamId} {st' : Stream}
      (hget' : (s.setSend id h').streams.get? id' = some st') :
      ∃ st, s.streams.get? id' = some st ∧ st.Stirred st' := by
    rw [((turns_self hget).setSend h' s.sendWindow s.parked).streams] at hget'
    split at hget'
    · next heq =>
      obtain rfl := Option.some.inj hget'
      refine ⟨st, heq ▸ hget, rfl, ?_, fun {h''} hsend' hmark' => ?_⟩
      · rw [hst, Option.map_some, Option.map_some, hstate]
      · obtain rfl := Option.some.inj hsend'
        exact ⟨h, hst, hmark hmark'⟩
    · exact ⟨st', hget', .refl st'⟩
  split
  · next hwake =>
    rw [if_pos hwake] at hkeeps
    refine ⟨[.streamWritable id], hkeeps.ages, hkeeps.orderly, hkeeps.frozen, hkeeps.nextLocal,
      hkeeps.nextRemote, fun hget' => ?_, rfl, fun e hmem => ?_⟩
    · exact hstream { h.extend limit with blocked := false } rfl
        (fun hmark => (Bool.false_ne_true hmark).elim) hget'
    · exact .inr ⟨id, h, List.mem_singleton.1 hmem, hsend, hwake.1⟩
  · next hwake =>
    rw [if_neg hwake] at hkeeps
    exact ⟨[], hkeeps.ages, hkeeps.orderly, hkeeps.frozen, hkeeps.nextLocal, hkeeps.nextRemote,
      hstream (h.extend limit) rfl fun hmark => hmark, (List.append_nil _).symm, nofun⟩

/-! ### Histories

The occurrences of a whole run are those of its steps, one after the other. A run from a
new set of streams is a chain of deeds whose occurrences are its history. -/

namespace Entry

/-- The events that a step adds. -/
def told (e : Entry) : List Event := e.after.events.drop e.before.events.length

/-- What the application has done with a step. -/
def mark (e : Entry) : List Occurrence :=
  match e.op, e.answer with
  | .openStream _, .opened (.ok id) => [.opened id]
  | .resetStream id, .abandoned (.ok ()) => [.abandoned id]
  | .stopSending id, .stopped (.ok _) => [.stopped id]
  | .takeEvents, _ => [.taken]
  | .freeze, _ => [.frozen]
  | _, _ => []

/-- What a step adds to the history. -/
def occurrences (e : Entry) : List Occurrence := e.mark ++ e.told.map .told

end Entry

/-- The history of a run. -/
def history (t : List Entry) : List Occurrence := t.flatMap (·.occurrences)

/-- A chain of deeds with the mark of an operation and events after it is what the
operation adds to the history. -/
theorem Deeds.occurrences (hs : s.Orderly) {op : Operation} (es : List Event)
    (hmark : (Entry.mk s op (s.perform op).1).mark.foldl Occurrence.hear s.events = s.events)
    (h : s.Deeds ((Entry.mk s op (s.perform op).1).mark ++ es.map .told) (s.perform op).2) :
    s.Deeds (Entry.mk s op (s.perform op).1).occurrences (s.perform op).2 := by
  have hevents := h.events hs
  rw [List.foldl_append, hmark, Occurrence.foldl_hear_told] at hevents
  have htold : (Entry.mk s op (s.perform op).1).told = es := by
    rw [Entry.told, Entry.after, hevents, List.drop_left]
  rwa [Entry.occurrences, htold]

/-- Where the answer itself is no occurrence, what happened is what was told. -/
theorem Reports.occurrences (hs : s.Orderly) {op : Operation}
    (hmark : (Entry.mk s op (s.perform op).1).mark = []) (h : s.Reports (s.perform op).2) :
    s.Deeds (Entry.mk s op (s.perform op).1).occurrences (s.perform op).2 := by
  obtain ⟨es, hdeeds⟩ := h
  refine Deeds.occurrences hs es ?_ ?_
  · rw [hmark]
    rfl
  · rwa [hmark]

theorem reports_of_stirs {es : List Event} (hfrozen : s.frozen = false) (h : s.Stirs es s') :
    s.Reports s' :=
  ⟨es, (Deed.stirred hfrozen h).single⟩

/-- Every operation is a chain of deeds, which add to the history what is observed
of it. -/
theorem deeds_perform (hs : s.Orderly) (hq : s.Queued) {op : Operation} (hop : op.Fits) :
    s.Deeds (Entry.mk s op (s.perform op).1).occurrences (s.perform op).2 := by
  -- an operation that is refused leaves no mark and changes nothing
  have hrefused (hmark : (Entry.mk s op (s.perform op).1).mark = [])
      (hsame : (s.perform op).2 = s) :
      s.Deeds (Entry.mk s op (s.perform op).1).occurrences (s.perform op).2 :=
    Reports.occurrences hs hmark (hsame.symm ▸ .refl s)
  cases op with
  | openStream d =>
    rcases s.openStream_deeds d with ⟨⟨e, herror⟩, hsame⟩ | ⟨id, hok, hdeed⟩
    · refine hrefused ?_ hsame
      simp only [Entry.mark, perform, herror]
    · refine Deeds.occurrences hs [] ?_ ?_
      · simp only [Entry.mark, perform, hok]
        rfl
      · simp only [Entry.mark, perform, hok]
        exact hdeed.single
  | write id data fin => exact Reports.occurrences hs rfl (write_deeds s id data fin)
  | read id maxLen => exact Reports.occurrences hs rfl (read_deeds s id maxLen)
  | resetStream id =>
    rcases s.resetStream_deeds id with ⟨⟨e, herror⟩, hsame⟩ | ⟨hok, es, hdeeds⟩
    · refine hrefused ?_ hsame
      simp only [Entry.mark, perform, herror]
    · refine Deeds.occurrences hs es ?_ ?_
      · simp only [Entry.mark, perform, hok]
        rfl
      · simp only [Entry.mark, perform, hok]
        exact hdeeds
  | stopSending id =>
    rcases s.stopSending_deeds id with ⟨⟨e, herror⟩, hsame⟩ | ⟨⟨n, hok⟩, es, hdeeds⟩
    · refine hrefused ?_ hsame
      simp only [Entry.mark, perform, herror]
    · refine Deeds.occurrences hs es ?_ ?_
      · simp only [Entry.mark, perform, hok]
        rfl
      · simp only [Entry.mark, perform, hok]
        exact hdeeds
  | handshakeCompleted peer =>
    rcases s.perform_handshakeCompleted peer with hsame | ⟨hfrozen, hperform⟩
    · exact hrefused rfl hsame
    obtain ⟨_, hbidi⟩ := stirs_raisePeerMax (s.raise peer) .bidi peer.initialMaxStreamsBidi
    obtain ⟨_, huni⟩ := stirs_raisePeerMax _ .uni peer.initialMaxStreamsUni
    have hraised := ((s.stirs_raise peer).trans hbidi).trans huni
    have hwoken := stirs_wakeParked (hq.toLined.inForce peer) (hraised.frozen.trans hfrozen)
    refine Reports.occurrences hs rfl ?_
    rw [hperform]
    exact reports_of_stirs hfrozen (hraised.trans hwoken)
  | streamData id offset data fin =>
    exact Reports.occurrences hs rfl (onStreamData_deeds hop offset data fin)
  | streamReset id errorCode finalSize =>
    exact Reports.occurrences hs rfl (onStreamReset_deeds hop errorCode finalSize)
  | peerStop id errorCode =>
    exact Reports.occurrences hs rfl (onStopSending_deeds hop errorCode)
  | maxStreamData id limit =>
    by_cases hfrozen : s.frozen = true
    · exact hrefused rfl (if_pos hfrozen)
    · obtain ⟨es, hstirs⟩ := s.stirs_onMaxStreamData id limit
      exact Reports.occurrences hs rfl (reports_of_stirs (Bool.eq_false_iff.2 hfrozen) hstirs)
  | maxData limit =>
    rcases s.perform_maxData limit with hsame | ⟨hfrozen, hperform⟩
    · exact hrefused rfl hsame
    have hwoken := stirs_wakeParked (hq.toLined.extendAll limit) hfrozen
    refine Reports.occurrences hs rfl ?_
    rw [hperform]
    exact reports_of_stirs hfrozen ((s.stirs_extendAll limit).trans hwoken)
  | maxStreams d n =>
    by_cases hfrozen : s.frozen = true
    · exact hrefused rfl (if_pos hfrozen)
    · obtain ⟨es, hstirs⟩ := s.stirs_raisePeerMax d n
      refine Reports.occurrences hs rfl ?_
      have hperform : (s.perform (.maxStreams d n)).2 = s.raisePeerMax d n := if_neg hfrozen
      rw [hperform]
      exact reports_of_stirs (Bool.eq_false_iff.2 hfrozen) hstirs
  | streamAcked id n => exact Reports.occurrences hs rfl (onStreamAcked_deeds s id n)
  | takeEvents =>
    have htold : (Entry.mk s .takeEvents (s.perform .takeEvents).1).told = [] := List.drop_nil
    rw [Entry.occurrences, htold]
    exact Deed.taken.single
  | freeze =>
    refine Deeds.occurrences hs [] rfl ?_
    exact Deed.frozen.single

/-- Every run is a chain of deeds, and its history is what they add. -/
theorem deeds_after (hs : s.Orderly) (hq : s.Queued) {ops : List Operation}
    (hops : ∀ op ∈ ops, op.Fits) : s.Deeds (history (s.trace ops)) (s.after ops) := by
  induction ops generalizing s with
  | nil => exact .refl
  | cons op rest ih =>
    rw [List.forall_mem_cons] at hops
    have hsteps := steps_perform s hops.1
    have hfirst := deeds_perform hs hq hops.1
    have hrest := ih (hsteps.orderly hs).1 (hq.steps hs hsteps) hops.2
    rw [trace, history, List.flatMap_cons]
    exact hfirst.trans hrest

end

end QuicHost.StreamSet
