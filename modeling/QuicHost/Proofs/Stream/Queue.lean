import Mathlib.Data.List.Nodup
import QuicHost.Proofs.Stream.Parking

/-!
# What an operation does to the queue

What is observed of waiting is which streams a step reports writable, and when a stream
was parked last. What an operation does to the queue as a whole is said in `Shifts`: it
wakes some of those who wait, in the order of the queue, and puts at most one stream at
its end.

Most operations are calm and only thin the queue out (`Eases`). Three ask for more: a
short write puts its stream at the end, a limit for one stream wakes that one out of its
turn, and the limits that concern all walk the queue from its front (`wakeParked`).
`shifts_perform` puts these together, and runs are treated on top of it.
-/

namespace QuicHost.StreamSet

/-! ## What is observed of waiting

Whether a stream waits, whether it has credit, and whom an operation reports writable. The
last is read off the events that the operation has added. -/

/-- Whether a live stream waits for credit. -/
def isBlocked (s : StreamSet) (id : StreamId) : Bool := (s.sendHalf? id).any (·.blocked)

/-- Whether a live stream has credit of its own and the connection has credit. -/
def hasCredit (s : StreamSet) (id : StreamId) : Bool :=
  decide (0 < s.sendWindow.credit) && (s.streamCredit? id).any (0 < ·)

/-- The streams that an operation reports writable, in the order of the reports. -/
def wakes (s : StreamSet) (op : Operation) : List StreamId :=
  ((s.perform op).2.events.drop s.events.length).filterMap Event.writable?

/-- Whether an operation may bring credit for a stream. -/
def Operation.isCredit (id : StreamId) : Operation → Bool
  | .maxStreamData id' _ => id' == id
  | .maxData _ => true
  | .handshakeCompleted _ => true
  | _ => false

namespace Entry

/-- The streams that a step reports writable. -/
def wakes (e : Entry) : List StreamId := e.before.wakes e.op

/-- Whether a step is a write on a stream that was refused for want of credit,
or accepted in part. -/
def isShortOn (id : StreamId) (e : Entry) : Bool :=
  match e.op, e.answer with
  | .write id' data _, .written (.ok out) => id' == id && decide (out.accepted < data.length)
  | .write id' _ _, .written (.error e) => id' == id && e == .flowControlBlocked
  | _, _ => false

/-- Whether a step parks a stream. -/
def parks (id : StreamId) (e : Entry) : Bool := e.isShortOn id && !e.before.isBlocked id

/-- Whether a step ends the sending half of a stream: it is abandoned, by either
side, its end is accepted, or everything has ended. -/
def endsSendingOn (id : StreamId) (e : Entry) : Bool :=
  match e.op, e.answer with
  | .resetStream id', .abandoned (.ok ()) => id' == id
  | .peerStop id' _, .peerStopped (.ok true) => id' == id
  | .write id' _ _, .written (.ok out) => id' == id && out.fin
  | .freeze, _ => true
  | _, _ => false

end Entry

/-- When a stream was parked last: the number of steps up to then, or zero. -/
def lastParked (id : StreamId) (t : List Entry) : Nat :=
  (t.reverse.dropWhile fun e => !e.parks id).length

/-- When a stream was parked last, after one more step. -/
theorem lastParked_append (id : StreamId) (t : List Entry) (e : Entry) :
    lastParked id (t ++ [e]) = if e.parks id then t.length + 1 else lastParked id t := by
  rw [lastParked, List.reverse_append, List.reverse_singleton, List.singleton_append,
    List.dropWhile_cons]
  by_cases hparks : e.parks id = true
  · rw [if_pos hparks, hparks]
    exact congrArg (· + 1) t.length_reverse
  · rw [Bool.not_eq_true] at hparks
    rw [hparks]
    rfl

theorem lastParked_le (id : StreamId) (t : List Entry) : lastParked id t ≤ t.length := by
  rw [lastParked, ← t.length_reverse]
  exact (List.dropWhile_sublist _).length_le

section

variable {s s' : StreamSet} {id : StreamId} {h : SendHalf} {op : Operation}

theorem isBlocked_eq_true_iff :
    s.isBlocked id = true ↔ ∃ h, s.sendHalf? id = some h ∧ h.blocked = true := by
  rw [isBlocked]
  rcases s.sendHalf? id with _ | h
  · simp
  · simp

/-- A live stream has credit when it has some of its own and the connection has some. -/
theorem hasCredit_eq_true_iff : s.hasCredit id = true ↔
    0 < s.sendWindow.credit ∧ ∃ h, s.sendHalf? id = some h ∧ 0 < h.window.credit := by
  rw [hasCredit, Bool.and_eq_true, decide_eq_true_eq]
  simp only [any_streamCredit?_iff, decide_eq_true_eq]

/-! ## Who is woken

Whom an operation wakes can be computed from how the streams stand, for each of the
operations that bring credit; any other wakes nobody. -/

theorem filterMap_streamWritable (ids : List StreamId) :
    (ids.map Event.streamWritable).filterMap Event.writable? = ids := by
  rw [List.filterMap_map]
  exact List.filterMap_some

/-- Whom an operation wakes can be read off the events it adds last. -/
theorem wakes_of_events {s₁ : StreamSet} {ids : List StreamId} (htold : s.Hushed s₁)
    (h : (s.perform op).2.events = s₁.events ++ ids.map .streamWritable) : s.wakes op = ids := by
  obtain ⟨told, heq, hnone⟩ := htold
  rw [wakes, h, heq, List.append_assoc, List.drop_left, List.filterMap_append, hnone,
    filterMap_streamWritable, List.nil_append]

/-- An operation that says of no stream that it is writable wakes nobody. -/
theorem wakes_of_hushed (h : s.Hushed (s.perform op).2) : s.wakes op = [] :=
  wakes_of_events h (List.append_nil _).symm

/-- Who is woken when limits were raised before. -/
theorem wakes_of_wakeParked {s₁ : StreamSet} (htold : s.Hushed s₁)
    (hperform : (s.perform op).2 = s₁.wakeParked) : s.wakes op = s₁.woken :=
  wakes_of_events htold (by rw [hperform, events_wakeParked])

theorem wakes_write (s : StreamSet) (id : StreamId) (data : Bytes) (fin : Bool) :
    s.wakes (.write id data fin) = [] := by
  rcases s.write_eq id data fin with ⟨e, -, heq⟩ | ⟨h, n, -, -, -, -, -, -, hevents⟩
  · exact wakes_of_hushed (hushed_of_eq (by rw [perform, heq]))
  · exact wakes_of_hushed (hushed_of_eq hevents)

theorem wakes_takeEvents (s : StreamSet) : s.wakes .takeEvents = [] :=
  congrArg (List.filterMap _) List.drop_nil

/-! ## What an operation does to the queue

`Shifts` collects what the order of waking needs of one operation: who leaves, who is
woken, who may come, and where. Calm operations and those that abandon a half shift
nobody; the others are a write and three reports of limits. -/

/-- Those who are woken stood in the queue, in this order. Nobody waits
afterwards who was woken, or who did not wait before, but for the stream of a
short write; and this stream alone may be new in the queue, at its end. -/
structure Shifts (s : StreamSet) (op : Operation) : Prop where
  /-- those who are woken, in the order of the queue -/
  wakes : (s.wakes op).Sublist s.parked
  /-- nobody is woken who did not wait -/
  woken : ∀ {id}, id ∈ s.wakes op → s.isBlocked id = true
  /-- nobody waits who was woken, or who did not wait before -/
  blocked : ∀ {id}, (s.perform op).2.isBlocked id = true → id ∉ s.wakes op ∧
    ((Entry.mk s op (s.perform op).1).isShortOn id = true ∨ s.isBlocked id = true)
  /-- the queue grows at its end, by one at most -/
  parked : (s.perform op).2.parked.Sublist s.parked ∧
      (∀ id, (Entry.mk s op (s.perform op).1).parks id = false) ∨
    ∃ id, (s.perform op).2.parked = s.parked ++ [id] ∧
      ∀ id', (Entry.mk s op (s.perform op).1).parks id' = decide (id' = id)

/-- The streams may leave the queue, and none comes. -/
structure Eases (s s' : StreamSet) : Prop where
  parked : s'.parked.Sublist s.parked
  /-- nobody waits who did not wait before -/
  blocked : ∀ {id}, s'.isBlocked id = true → s.isBlocked id = true

theorem Eases.trans {s'' : StreamSet} (h : s.Eases s') (h' : s'.Eases s'') : s.Eases s'' :=
  ⟨h'.parked.trans h.parked, fun hblocked => h.blocked (h'.blocked hblocked)⟩

/-- Where the queue and the marks stay, nobody comes. -/
theorem Calm.eases (h : s.Calm s') : s.Eases s' where
  parked := by rw [h.parked]
  blocked hblocked := by
    obtain ⟨h', hsend, hmark⟩ := isBlocked_eq_true_iff.1 hblocked
    rcases h.half hsend with ⟨-, hfresh⟩ | ⟨h₀, hsend', hsame, -⟩
    · rw [hfresh] at hmark
      cases hmark
    · exact isBlocked_eq_true_iff.2 ⟨h₀, hsend', hsame ▸ hmark⟩

/-- A half changes to one that does not wait. -/
theorem Alters.isBlocked {h' : SendHalf} {parked : List StreamId} {w : SendWindow}
    (h : s.Alters id h' parked w s') (id' : StreamId) :
    s'.isBlocked id' = if id' = id then h'.blocked else s.isBlocked id' := by
  rw [StreamSet.isBlocked, h.half]
  split
  · rfl
  · rfl

/-- A stream that is abandoned leaves the queue. -/
theorem eases_abandonSend (hsend : s.sendHalf? id = some h) : s.Eases (s.abandonSend id h) := by
  have halters := alters_abandonSend hsend
  refine ⟨?_, fun {id'} hblocked => ?_⟩
  · rw [halters.parked]
    split
    · exact List.filter_sublist
    · exact List.Sublist.refl _
  · rw [halters.isBlocked] at hblocked
    split at hblocked
    · cases hblocked
    · exact hblocked

theorem events_abandonSend (s : StreamSet) (id : StreamId) (h : SendHalf) :
    (s.abandonSend id h).events = s.events := by
  simp only [abandonSend]
  split <;> rfl

/-- Nor does anybody come when a half is abandoned with what follows from it. -/
theorem Abandons.eases (hs : s.Orderly) (h : s.Abandons id s') :
    s.Eases s' ∧ s.Hushed s' := by
  obtain ⟨hbefore, hsend, -, hafter⟩ := h
  have hmid := (Steps.orderly hs hbefore.steps).1
  have hcalm := hbefore.calm hs
  have hcalm' := hafter.calm ((keeps_abandonSend _ id _).orderly hmid)
  exact ⟨(hcalm.eases.trans (eases_abandonSend hsend)).trans hcalm'.eases,
    (hcalm.told.trans (hushed_of_eq (events_abandonSend _ id _))).trans hcalm'.told⟩

/-- An operation that wakes and parks nobody. -/
theorem Eases.shifts (h : s.Eases (s.perform op).2) (hwakes : s.wakes op = [])
    (hshort : ∀ id, (Entry.mk s op (s.perform op).1).isShortOn id = false) : s.Shifts op where
  wakes := hwakes ▸ List.nil_sublist _
  woken hmem := by
    rw [hwakes] at hmem
    cases hmem
  blocked {id} hblocked := by
    rw [hwakes]
    exact ⟨nofun, .inr (h.blocked hblocked)⟩
  parked := .inl ⟨h.parked, fun id => by rw [Entry.parks, hshort, Bool.false_and]⟩

/-- An operation that leaves the queue alone shifts nobody, if it was no short write. -/
theorem shifts_of_calm (h : s.Calm (s.perform op).2)
    (hshort : ∀ id, (Entry.mk s op (s.perform op).1).isShortOn id = false) : s.Shifts op :=
  h.eases.shifts (wakes_of_hushed h.told) hshort

theorem shifts_of_quietly (hs : s.Orderly) (h : s.Quietly (s.perform op).2)
    (hshort : ∀ id, (Entry.mk s op (s.perform op).1).isShortOn id = false) : s.Shifts op :=
  shifts_of_calm (h.calm hs) hshort

/-- An operation that abandons a half lets one stream leave, and wakes nobody. -/
theorem shifts_of_abandons (hs : s.Orderly) (h : s.Abandons id (s.perform op).2)
    (hshort : ∀ id, (Entry.mk s op (s.perform op).1).isShortOn id = false) : s.Shifts op :=
  (h.eases hs).1.shifts (wakes_of_hushed (h.eases hs).2) hshort

/-- A write is short if it falls short of credit. -/
theorem isShortOn_write {data : Bytes} {fin : Bool} {n : Nat}
    (hn : n = min data.length (s.creditFor h))
    (hanswer : (s.write id data fin).1 =
      if s.fallsShort h data.length = true ∧ n = 0 then .error .flowControlBlocked
      else .ok ⟨data.take n, fin && !s.fallsShort h data.length⟩) (id' : StreamId) :
    (Entry.mk s (.write id data fin) (s.perform (.write id data fin)).1).isShortOn id' =
      (id == id' && s.fallsShort h data.length) := by
  rw [perform, hanswer]
  split
  · next hrefused => simp only [Entry.isShortOn, hrefused.1, beq_self_eq_true]
  · next hrefused =>
    simp only [Entry.isShortOn, WriteOutcome.accepted, List.length_take]
    congr 1
    rw [fallsShort, decide_eq_decide]
    omega

/-- A short write puts its stream at the end of the queue, unless it waits there; any other
write leaves the queue alone. -/
theorem shifts_write (s : StreamSet) (id : StreamId) (data : Bytes) (fin : Bool) :
    s.Shifts (.write id data fin) := by
  rcases s.write_eq id data fin with ⟨e, he, heq⟩ | ⟨h, n, hfrozen, hsend, -, hn, hanswer, halters,
    -⟩
  · -- what is refused for another reason changes nothing
    have hsame : (s.perform (.write id data fin)).2 = s := congrArg Prod.snd heq
    refine shifts_of_calm (hsame.symm ▸ .refl s) fun id' => ?_
    rw [perform, heq]
    simp only [Entry.isShortOn, Bool.and_eq_false_imp, beq_eq_false_iff_ne]
    exact fun _ => he
  have hwakes := s.wakes_write id data fin
  have hshort := isShortOn_write hn hanswer
  refine ⟨hwakes ▸ List.nil_sublist _, fun hmem => ?_, fun {id'} hblocked => ?_, ?_⟩
  · rw [hwakes] at hmem
    cases hmem
  · rw [hwakes, hshort]
    refine ⟨nofun, ?_⟩
    change (s.write id data fin).2.isBlocked id' = true at hblocked
    rw [halters.isBlocked] at hblocked
    split at hblocked
    · next heq =>
      subst heq
      change (h.blocked || s.fallsShort h data.length) = true at hblocked
      rcases Bool.or_eq_true_iff.1 hblocked with hmark | hfalls
      · exact .inr (isBlocked_eq_true_iff.2 ⟨h, hsend, hmark⟩)
      · exact .inl (by rw [hfalls, beq_self_eq_true, Bool.and_self])
    · exact .inr hblocked
  · have hmark : s.isBlocked id = h.blocked := by rw [isBlocked, hsend, Option.any_some]
    have hparked : (s.perform (.write id data fin)).2.parked = _ := halters.parked
    rw [hparked]
    -- the stream takes its place on the first write that falls short; another one leaves it
    -- there
    by_cases hnew : (s.fallsShort h data.length && !h.blocked) = true
    · rw [if_pos hnew]
      obtain ⟨hfalls, hfree⟩ := Bool.and_eq_true_iff.1 hnew
      refine .inr ⟨id, rfl, fun id' => ?_⟩
      rw [Entry.parks, hshort, hfalls, Bool.and_true]
      by_cases hid : id' = id
      · subst hid
        simp only [hmark, beq_self_eq_true, hfree, Bool.and_self, decide_true]
      · simp only [beq_eq_false_iff_ne.2 (Ne.symm hid), Bool.false_and, hid, decide_false]
    · rw [if_neg hnew]
      refine .inl ⟨List.Sublist.refl _, fun id' => ?_⟩
      rw [Entry.parks, hshort]
      by_cases hid : id = id'
      · subst hid
        rw [Bool.not_eq_true] at hnew
        simpa only [hmark, beq_self_eq_true, Bool.true_and] using hnew
      · simp only [beq_eq_false_iff_ne.2 hid, Bool.false_and]

/-- A limit for one stream wakes this stream, if it waits and the connection has credit, and
nobody else. -/
theorem shifts_maxStreamData (hq : s.Queued) (id : StreamId) (limit : Nat) :
    s.Shifts (.maxStreamData id limit) := by
  have hshort (id' : StreamId) : (Entry.mk s (.maxStreamData id limit)
      (s.perform (.maxStreamData id limit)).1).isShortOn id' = false := rfl
  rcases s.onMaxStreamData_eq id limit with heq | ⟨h, hfrozen, hsend, hwoken | ⟨-, halters,
    hevents⟩⟩
  · have hsame : (s.perform (.maxStreamData id limit)).2 = s := heq
    exact shifts_of_calm (hsame.symm ▸ .refl s) hshort
  -- woken: the stream leaves its place, and everyone behind it keeps the order
  · obtain ⟨hblocked, -, -, halters, hevents⟩ := hwoken
    have hwakes : s.wakes (.maxStreamData id limit) = [id] :=
      wakes_of_events (.refl s) hevents
    have hmem := (hq.blocked hfrozen hsend).1 hblocked
    refine ⟨?_, fun {id'} hid' => ?_, fun {id'} hblocked' => ?_, .inl ⟨?_, fun id' => rfl⟩⟩
    · rw [hwakes]
      exact List.singleton_sublist.2 hmem
    · rw [hwakes, List.mem_singleton] at hid'
      subst hid'
      exact isBlocked_eq_true_iff.2 ⟨h, hsend, hblocked⟩
    · change (s.onMaxStreamData id limit).isBlocked id' = true at hblocked'
      rw [halters.isBlocked] at hblocked'
      rw [hwakes, List.mem_singleton]
      split at hblocked'
      · cases hblocked'
      · next hne => exact ⟨hne, .inr hblocked'⟩
    · change (s.onMaxStreamData id limit).parked.Sublist s.parked
      rw [halters.parked]
      exact List.filter_sublist
  · refine Eases.shifts ⟨?_, fun {id'} hblocked => ?_⟩ (wakes_of_hushed (hushed_of_eq hevents))
      hshort
    · change (s.onMaxStreamData id limit).parked.Sublist s.parked
      rw [halters.parked]
    · change (s.onMaxStreamData id limit).isBlocked id' = true at hblocked
      rw [halters.isBlocked] at hblocked
      split at hblocked
      · next heq =>
        subst heq
        exact isBlocked_eq_true_iff.2 ⟨h, hsend, hblocked⟩
      · exact hblocked

/-- An operation that raises limits, after which the streams are `s₁`, and then
wakes those who have credit. -/
theorem shifts_of_wakeParked {s₁ : StreamSet} (hl : s.Lined) (hfrozen : s.frozen = false)
    (htold : s.Hushed s₁) (hparked : s₁.parked = s.parked)
    (hhalf : ∀ id, (s₁.sendHalf? id).map (·.blocked) = (s.sendHalf? id).map (·.blocked))
    (hperform : (s.perform op).2 = s₁.wakeParked)
    (hshort : ∀ id, (Entry.mk s op (s.perform op).1).isShortOn id = false) : s.Shifts op := by
  have hwakes := wakes_of_wakeParked htold hperform
  -- the limits were lifted before anyone is woken, and lifting them moves no mark
  have hmark (id : StreamId) : s₁.isBlocked id = s.isBlocked id := by
    have hsame : ∀ s : StreamSet,
        s.isBlocked id = ((s.sendHalf? id).map (·.blocked)).getD false := by
      intro s
      rw [isBlocked]
      rcases s.sendHalf? id <;> rfl
    rw [hsame, hsame, hhalf]
  refine ⟨?_, fun {id} hmem => ?_, fun {id} hblocked => ?_, .inl ⟨?_, fun id => ?_⟩⟩
  · rw [hwakes, ← hparked]
    exact s₁.woken_sublist
  · rw [hwakes] at hmem
    obtain ⟨hplace, -, h₁, hsend, -⟩ := mem_woken_iff.1 hmem
    rw [hparked] at hplace
    have hlive := hhalf id
    rw [hsend] at hlive
    obtain ⟨h, hlive, -⟩ := Option.map_eq_some_iff.1 hlive.symm
    exact isBlocked_eq_true_iff.2 ⟨h, hlive, (hl.blocked hfrozen hlive).2 hplace⟩
  · rw [hperform] at hblocked
    obtain ⟨h', hsend, hmarked⟩ := isBlocked_eq_true_iff.1 hblocked
    rw [sendHalf?_wakeParked] at hsend
    obtain ⟨h₁, hsend₁, rfl⟩ := Option.map_eq_some_iff.1 hsend
    rw [hwakes]
    split at hmarked
    · cases hmarked
    · next hnot =>
      refine ⟨hnot, .inr ?_⟩
      rw [← hmark]
      exact isBlocked_eq_true_iff.2 ⟨h₁, hsend₁, hmarked⟩
  · rw [hperform, ← hparked]
    exact parked_wakeParked_sublist s₁
  · rw [Entry.parks, hshort, Bool.false_and]

/-- The handshake raises limits and leaves the marks alone. -/
theorem blocked_inForce (s : StreamSet) (peer : TransportParameters) (id : StreamId) :
    ((s.inForce peer).sendHalf? id).map (·.blocked) = (s.sendHalf? id).map (·.blocked) := by
  rw [sendHalf?_inForce, Option.map_map]
  rfl

/-- The peer's parameters are in force before anybody is woken. -/
theorem parked_inForce (s : StreamSet) (peer : TransportParameters) :
    (s.inForce peer).parked = s.parked := by
  obtain ⟨_, _, heq⟩ := s.inForce_eq peer
  rw [heq]
  rfl

/-- What each operation does to the queue. -/
theorem shifts_perform (hs : s.Orderly) (hq : s.Queued) (hop : op.Fits) : s.Shifts op := by
  cases op with
  | openStream d => exact shifts_of_quietly hs (quietly_openStream s d) fun _ => rfl
  | write id data fin => exact shifts_write s id data fin
  | read id maxLen => exact shifts_of_quietly hs (quietly_read s id maxLen) fun _ => rfl
  | resetStream id =>
    rcases resetStream_steps s id with hquiet | ⟨-, habandons⟩
    · exact shifts_of_quietly hs hquiet fun _ => rfl
    · exact shifts_of_abandons hs habandons fun _ => rfl
  | stopSending id => exact shifts_of_quietly hs (quietly_stopSending s id) fun _ => rfl
  -- the handshake and a connection limit walk the whole queue, a stream limit looks at one
  -- place of it
  | handshakeCompleted peer =>
    rcases s.perform_handshakeCompleted peer with hsame | ⟨hfrozen, hperform⟩
    · exact shifts_of_calm (hsame.symm ▸ .refl s) fun _ => rfl
    · exact shifts_of_wakeParked hq.toLined hfrozen (s.hushed_inForce peer)
        (s.parked_inForce peer) (s.blocked_inForce peer) hperform fun _ => rfl
  | streamData id offset data fin =>
    exact shifts_of_quietly hs (quietly_onStreamData hop offset data fin) fun _ => rfl
  | streamReset id errorCode finalSize =>
    exact shifts_of_quietly hs (quietly_onStreamReset hop errorCode finalSize) fun _ => rfl
  | peerStop id errorCode =>
    rcases onStopSending_steps hop errorCode with hquiet | ⟨-, habandons⟩
    · exact shifts_of_quietly hs hquiet fun _ => rfl
    · exact shifts_of_abandons hs habandons fun _ => rfl
  | maxStreamData id limit => exact shifts_maxStreamData hq id limit
  | maxData limit =>
    rcases s.perform_maxData limit with hsame | ⟨hfrozen, hperform⟩
    · exact shifts_of_calm (hsame.symm ▸ .refl s) fun _ => rfl
    · exact shifts_of_wakeParked hq.toLined hfrozen (s.hushed_extendAll limit) rfl
        (fun _ => rfl) hperform fun _ => rfl
  | maxStreams d n => exact shifts_of_calm (calm_onMaxStreams s d n) fun _ => rfl
  | streamAcked id n => exact shifts_of_quietly hs (quietly_onStreamAcked s id n) fun _ => rfl
  | takeEvents =>
    exact Eases.shifts ⟨List.Sublist.refl _, fun hblocked => hblocked⟩ (wakes_takeEvents s)
      fun _ => rfl
  | freeze =>
    exact Eases.shifts ⟨List.nil_sublist _, fun hblocked => hblocked⟩
      (wakes_of_hushed (hushed_of_eq rfl)) fun _ => rfl

end

end QuicHost.StreamSet
