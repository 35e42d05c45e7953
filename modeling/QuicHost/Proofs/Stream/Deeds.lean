import QuicHost.Proofs.Stream.Waking

/-!
# Deeds

A history is a list of occurrences: what the application did that bears on later
events, and the events themselves, in the order in which they came about.
Everything that can happen to a set of streams is one of a few deeds, each with
the occurrences that it adds to the history (`Deed`).

Most deeds turn one stream: one of its halves changes (`Stream.Turn`), and the
stream is removed if it is done. The others open streams, raise limits, take the
events or end everything. A property of histories is therefore proved by looking
at the turns of one stream and at a handful of deeds.
-/

namespace QuicHost

/-! ## Occurrences

What happens to streams as far as an observer can tell: which streams are opened,
abandoned and stopped, and which events join the list of events. -/

/-- Something that happened, as far as it bears on what may happen later. -/
inductive Occurrence where
  /-- the application opened a stream -/
  | opened (id : StreamId)
  /-- the application abandoned a sending half -/
  | abandoned (id : StreamId)
  /-- the application abandoned a receiving half -/
  | stopped (id : StreamId)
  /-- an event was put into the list of events -/
  | told (e : Event)
  /-- the list of events was taken -/
  | taken
  /-- everything has stopped but reading -/
  | frozen
deriving DecidableEq

namespace Occurrence

/-- The event that was told, if it is one. -/
def event? : Occurrence → Option Event
  | told e => some e
  | _ => none

/-- The list of events after an occurrence. -/
def hear (events : List Event) : Occurrence → List Event
  | told e => events ++ [e]
  | taken => []
  | _ => events

/-- Hearing what was told adds it to what was heard. -/
@[simp] theorem foldl_hear_told (events es : List Event) :
    (es.map told).foldl hear events = events ++ es := by
  induction es generalizing events with
  | nil => exact (List.append_nil events).symm
  | cons e rest ih =>
    rw [List.map_cons, List.foldl_cons, ih, hear, List.append_assoc]
    rfl

theorem filterMap_event?_told (es : List Event) : (es.map told).filterMap event? = es := by
  rw [List.filterMap_map]
  exact List.filterMap_some

end Occurrence

/-! ## Turns of one stream

How one live stream changes in an operation, and what is told of it. The cases are those
in which the code tells something, and those in which a half changes its state without a
word. -/

namespace Stream

/-- The ways in which a half of a live stream changes while not everything has
stopped, each with what is done and told. What is left of a stream may be that it
is done. -/
inductive Turn (st : Stream) (id : StreamId) : List Occurrence → Stream → Prop where
  /-- the peer's bytes were counted -/
  | counted {h : RecvHalf} (w : RecvWindow) : st.recv = some h →
    h.state.isTerminal = false ∨ h.stopped = true →
    Turn st id [] { st with recv := some { h with window := w } }
  /-- the peer's bytes were granted again, after we asked it to stop -/
  | settled {h : RecvHalf} (w : RecvWindow) (stopped : Bool) : st.recv = some h →
    h.stopped = true → Turn st id [] { st with recv := some { h with window := w, stopped } }
  /-- data went into the buffer -/
  | filled {h : RecvHalf} {offset added : Nat} {data : Bytes} {fin : Bool} {buffer : RecvBuffer} :
    st.recv = some h → h.state.isTerminal = false →
    h.buffer.insert offset data fin = .ok (added, buffer) →
    Turn st id ((h.fillTells id added fin).map .told)
      { st with recv := some (h.fill buffer fin) }
  /-- bytes were read -/
  | read {h : RecvHalf} (n : Nat) (w : RecvWindow) : st.recv = some h →
    h.state.isTerminal = false →
    Turn st id [] { st with recv := some { (h.take n).2 with window := w } }
  /-- the application wants no more -/
  | stopped {h : RecvHalf} : st.recv = some h → h.state.isTerminal = false →
    Turn st id [.stopped id] { st with recv := some h.stop }
  /-- the peer abandoned its half -/
  | ended {h : RecvHalf} (errorCode : Nat) (w : RecvWindow) : st.recv = some h →
    h.state.isTerminal = false →
    Turn st id [.told (.streamReset id errorCode)]
      { st with
        recv := some { h with state := .resetRecvd, window := w, buffer := h.buffer.discard } }
  /-- bytes were accepted, or the stream was parked -/
  | written {h : SendHalf} (n : Nat) (fin blocked : Bool) : st.send = some h →
    h.state.isWritable = true →
    Turn st id [] { st with send := some ({ h with blocked }.accept n fin) }
  /-- the application abandoned its half -/
  | abandoned {h : SendHalf} : st.send = some h → h.state.isTerminal = false →
    Turn st id [.abandoned id] { st with send := some h.abandon }
  /-- the peer wants no more -/
  | refused {h : SendHalf} (errorCode : Nat) : st.send = some h → h.state.isTerminal = false →
    Turn st id [.told (.stopSending id errorCode)] { st with send := some h.abandon }
  /-- bytes were acknowledged -/
  | acked {h : SendHalf} (n : Nat) : st.send = some h →
    Turn st id [] { st with send := some (h.acknowledge n) }

/-- Limits and places in the queue changed, and nobody is new in the queue. -/
structure Stirred (st st' : Stream) : Prop where
  recv : st'.recv = st.recv
  state : st'.send.map (·.state) = st.send.map (·.state)
  /-- who is in the queue now was there before -/
  blocked : ∀ {h'}, st'.send = some h' → h'.blocked = true →
    ∃ h, st.send = some h ∧ h.blocked = true

theorem Stirred.refl (st : Stream) : st.Stirred st := ⟨rfl, rfl, fun hsend hmark =>
  ⟨_, hsend, hmark⟩⟩

theorem Stirred.trans {st st' st'' : Stream} (h : st.Stirred st') (h' : st'.Stirred st'') :
    st.Stirred st'' where
  recv := h'.recv.trans h.recv
  state := h'.state.trans h.state
  blocked hsend hmark := by
    obtain ⟨half, hsend', hmark'⟩ := h'.blocked hsend hmark
    exact h.blocked hsend' hmark'

theorem Stirred.isDone_eq {st st' : Stream} (h : st.Stirred st') : st'.isDone = st.isDone := by
  rw [isDone, isDone, status, status, h.recv, h.state]

/-- Nobody is done who may be sent more, or whose bytes are still counted. -/
theorem isDone_eq_false_of_recv {st : Stream} {h : RecvHalf} (hrecv : st.recv = some h)
    (hlive : h.state.isTerminal = false ∨ h.stopped = true) : st.isDone = false := by
  rw [isDone, status, StreamStatus.isTerminal, hrecv]
  rcases hlive with hlive | hlive
  · simp [hlive]
  · simp [hlive]

theorem isDone_eq_false_of_send {st : Stream} {h : SendHalf} (hsend : st.send = some h)
    (hlive : h.state.isTerminal = false) : st.isDone = false := by
  rw [isDone, status, StreamStatus.isTerminal, hsend]
  simp [hlive]

end Stream

namespace StreamSet

/-! ## Deeds

A deed is a change to the whole set of streams, with its occurrences. Whatever an
operation does is a chain of deeds, so that a rule about occurrences has to be checked for
the deeds only. -/

/-- What is told when a stream is removed that is done. -/
def farewell (s : StreamSet) (id : StreamId) : List Event :=
  if (s.streams.get? id).any (·.isDone) then
    (if id.IsLocal s.side ∧ s.available id.direction = 0 ∧
        s.liveLocal.get id.direction - 1 < s.peerMax.get id.direction then
      [.streamsAvailable id.direction] else []) ++ [.streamClosed id]
  else []

/-- The streams that are opened when the peer names one: the unused ones of its
class, up to the one it named. -/
def unopened (s : StreamSet) (id : StreamId) : List StreamId :=
  if id.IsLocal s.side then []
  else (List.range' (s.nextRemote.get id.direction)
    (id.index + 1 - s.nextRemote.get id.direction)).map
      (StreamId.ofParts s.side.opposite id.direction)

/-- One live stream is replaced and `es` is told; windows and the queue may
change. -/
structure Turns (s : StreamSet) (id : StreamId) (st' : Stream) (es : List Event)
    (s' : StreamSet) : Prop extends Keeps s s' where
  /-- one stream is another, and the others are the same -/
  streams : ∀ id', s'.streams.get? id' = if id' = id then some st' else s.streams.get? id'
  events : s'.events = s.events ++ es

/-- Limits were raised, which may wake streams that were in the queue, and `es`
is told. -/
structure Stirs (s : StreamSet) (es : List Event) (s' : StreamSet) : Prop where
  ages : s.Ages s'
  orderly : s.Orderly → s'.Orderly
  frozen : s'.frozen = s.frozen
  nextLocal : s'.nextLocal = s.nextLocal
  nextRemote : s'.nextRemote = s.nextRemote
  /-- no stream is new, and none has done more than move in the queue -/
  stream : ∀ {id st'}, s'.streams.get? id = some st' →
    ∃ st, s.streams.get? id = some st ∧ st.Stirred st'
  events : s'.events = s.events ++ es
  /-- what is told is that streams may be opened, or written on by one who waited -/
  told : ∀ e ∈ es, (∃ d, e = .streamsAvailable d) ∨
    ∃ id h, e = .streamWritable id ∧ s.sendHalf? id = some h ∧ h.blocked = true

/-- What can happen to a set of streams, with what is added to the history. -/
inductive Deed (s : StreamSet) : List Occurrence → StreamSet → Prop where
  /-- the application opened a stream -/
  | opened {d : Direction} {id : StreamId} : (s.openStream d).1 = .ok id →
    Deed s [.opened id] (s.openStream d).2
  /-- the peer named a stream that is not gone -/
  | named {id : StreamId} {s' : StreamSet} : id.Fits → s.frozen = false →
    s.ensureOpen id = .ok (some s') →
    Deed s (((s.unopened id).map .streamOpened).map .told) s'
  /-- a stream changed, and was removed if it is done -/
  | turned {id : StreamId} {st st' : Stream} {os : List Occurrence} {s' : StreamSet} :
    s.frozen = false → s.streams.get? id = some st → st.Turn id os st' →
    s.Turns id st' (os.filterMap (·.event?)) s' →
    Deed s (os ++ (s'.farewell id).map .told) (s'.reap id)
  /-- limits were raised -/
  | stirred {es : List Event} {s' : StreamSet} : s.frozen = false → s.Stirs es s' →
    Deed s (es.map .told) s'
  /-- what was left was read -/
  | left (id : StreamId) (h : RecvHalf) : s.frozen = true → Deed s [] (s.setRecv id h)
  /-- the events were taken -/
  | taken : Deed s [.taken] s.takeEvents.2
  /-- the end -/
  | frozen : Deed s [.frozen] s.freeze

/-- A chain of deeds. -/
inductive Deeds (s : StreamSet) : List Occurrence → StreamSet → Prop where
  /-- nothing happened -/
  | refl : Deeds s [] s
  /-- one more deed -/
  | tail {os os' : List Occurrence} {s' s'' : StreamSet} : Deeds s os s' → s'.Deed os' s'' →
    Deeds s (os ++ os') s''

section

variable {s s' s'' : StreamSet} {os os' : List Occurrence} {id : StreamId} {st st' : Stream}

theorem Deed.single (h : s.Deed os s') : s.Deeds os s' := Deeds.refl.tail h

theorem Deeds.trans (h : s.Deeds os s') (h' : s'.Deeds os' s'') : s.Deeds (os ++ os') s'' := by
  induction h' with
  | refl => rwa [List.append_nil]
  | tail _ hdeed ih =>
    rw [← List.append_assoc]
    exact ih.tail hdeed

/-- Something may be told, and the application did nothing. -/
def Reports (s s' : StreamSet) : Prop := ∃ es : List Event, s.Deeds (es.map .told) s'

theorem Reports.refl (s : StreamSet) : s.Reports s := ⟨[], .refl⟩

theorem Reports.trans (h : s.Reports s') (h' : s'.Reports s'') : s.Reports s'' := by
  obtain ⟨es, hdeeds⟩ := h
  obtain ⟨es', hdeeds'⟩ := h'
  refine ⟨es ++ es', ?_⟩
  rw [List.map_append]
  exact hdeeds.trans hdeeds'

/-! ### Removing a stream

A stream that is done is told to be closed as it goes, and perhaps that there is room for
another. -/

/-- A stream that is over is told of as it goes. -/
theorem events_reap (s : StreamSet) (id : StreamId) :
    (s.reap id).events = s.events ++ s.farewell id := by
  rw [reap, farewell]
  split
  · simp only [removeStream, announceAvailable, emit, available]
    by_cases hlocal : id.IsLocal s.side
    · simp only [hlocal, ↓reduceIte, true_and, PerDirection.get_set]
      by_cases hfull : s.peerMax.get id.direction - s.liveLocal.get id.direction = 0 ∧
          s.liveLocal.get id.direction - 1 < s.peerMax.get id.direction
      · rw [if_pos hfull, if_pos ⟨hfull.1, by omega⟩, List.append_assoc]
      · rw [if_neg hfull, if_neg fun h => hfull ⟨h.1, by omega⟩, List.nil_append]
    · simp only [hlocal, ↓reduceIte, false_and, List.nil_append]
  · exact (List.append_nil _).symm

/-- A stream that is removed is gone, and the last that is told of it is that it
is closed. -/
theorem farewell_eq (s : StreamSet) (id : StreamId) :
    s.farewell id = [] ∨ (∃ st, s.streams.get? id = some st) ∧
      (s.reap id).streams.get? id = none ∧
        ∃ es, s.farewell id = es ++ [.streamClosed id] ∧
          ∀ e ∈ es, e = .streamsAvailable id.direction := by
  rw [farewell, reap]
  split
  · next hdone =>
    refine .inr ⟨?_, ?_, _, rfl, ?_⟩
    · rcases hget : s.streams.get? id with _ | st
      · rw [hget] at hdone
        cases hdone
      · exact ⟨st, rfl⟩
    · obtain ⟨_, _, _, heq⟩ := s.removeStream_eq id
      rw [heq, Table.get?_erase, if_pos rfl]
    · intro e he
      split at he
      · exact List.mem_singleton.1 he
      · cases he
  · exact .inl rfl

theorem reap_of_not_done (hget : s.streams.get? id = some st) (hdone : st.isDone = false) :
    s.reap id = s ∧ s.farewell id = [] := by
  have hnot : ¬ ((s.streams.get? id).any (·.isDone)) = true := by
    rw [hget, Option.any_some, hdone]
    exact Bool.false_ne_true
  exact ⟨if_neg hnot, if_neg hnot⟩

/-- A stream that is not removed is not done. -/
theorem isDone_of_get?_reap (hget : (s.reap id).streams.get? id = some st) :
    st.isDone = false := by
  rw [reap] at hget
  split at hget
  · obtain ⟨_, _, _, heq⟩ := s.removeStream_eq id
    rw [heq, Table.get?_erase, if_pos rfl] at hget
    cases hget
  · next hdone =>
    rw [hget, Option.any_some, Bool.not_eq_true] at hdone
    exact hdone

/-- The other streams stay. -/
theorem get?_reap_of_ne {id' : StreamId} (hne : id' ≠ id) :
    (s.reap id).streams.get? id' = s.streams.get? id' := by
  rw [reap]
  split
  · obtain ⟨_, _, _, heq⟩ := s.removeStream_eq id
    rw [heq, Table.get?_erase, if_neg hne]
  · rfl

/-- A stream that stays is as it was. -/
theorem get?_of_get?_reap {id' : StreamId} (hget : (s.reap id).streams.get? id' = some st) :
    s.streams.get? id' = some st := by
  by_cases heq : id' = id
  · subst heq
    rw [reap] at hget
    split at hget
    · obtain ⟨_, _, _, heq⟩ := s.removeStream_eq id'
      rw [heq, Table.get?_erase, if_pos rfl] at hget
      cases hget
    · exact hget
  · rwa [get?_reap_of_ne heq] at hget

/-! ### Building turns

The changes of the set of streams that make a turn of one of them: its half is replaced,
and the list of events grows by what is told. -/

/-- A stream changed that is not done afterwards. -/
theorem deed_of_turn (hturn : st.Turn id os st') (hfrozen : s.frozen = false)
    (hget : s.streams.get? id = some st) (hturns : s.Turns id st' (os.filterMap (·.event?)) s')
    (hdone : st'.isDone = false) : s.Deed os s' := by
  have hself : s'.streams.get? id = some st' := by rw [hturns.streams, if_pos rfl]
  obtain ⟨hreap, hfarewell⟩ := reap_of_not_done hself hdone
  have hdeed := Deed.turned hfrozen hget hturn hturns
  rwa [hreap, hfarewell, List.map_nil, List.append_nil] at hdeed

/-- A receiving half may turn without any change to the queue. -/
theorem turns_setRecv (hget : s.streams.get? id = some st) (h : RecvHalf) (w : RecvWindow)
    {events es : List Event} (hevents : events = s.events ++ es) :
    s.Turns id { st with recv := some h } es
      { s.setRecv id h with recvWindow := w, events := events } where
  toKeeps := ((keeps_setRecv s id h).trans (keeps_recvWindow _ w)).trans (keeps_events _ events)
  streams id' := by
    simp only [setRecv, Table.get?_modify]
    split
    · next heq => rw [heq, hget, Option.map_some]
    · rfl
  events := hevents

theorem turns_self (hget : s.streams.get? id = some st) : s.Turns id st [] s where
  toKeeps := .refl s
  streams id' := by
    split
    · next heq => rw [heq, hget]
    · rfl
  events := (List.append_nil _).symm

/-- The sending half changes once more. -/
theorem Turns.setSend {es : List Event} (h : s.Turns id st' es s') (half : SendHalf)
    (w : SendWindow) (parked : List StreamId) :
    s.Turns id { st' with send := some half } es
      { s'.setSend id half with sendWindow := w, parked := parked } where
  toKeeps := h.toKeeps.trans <| (keeps_setSend s' id half).trans
    ⟨⟨rfl, rfl, rfl, rfl⟩, rfl, rfl, rfl, fun hl => ⟨_, hl⟩⟩
  streams id' := by
    simp only [StreamSet.setSend, Table.get?_modify, h.streams]
    split
    · rw [Option.map_some]
    · rfl
  events := h.events

/-- A sending half that is abandoned leaves the queue as it turns. -/
theorem turns_abandonSend (hget : s.streams.get? id = some st) (h : SendHalf) {es : List Event}
    {events : List Event} (hevents : events = s.events ++ es) :
    s.Turns id { st with send := some h.abandon } es
      { s.abandonSend id h with events := events } where
  toKeeps := (keeps_abandonSend s id h).trans (keeps_events _ events)
  streams id' := by
    have hset := ((turns_self hget).setSend h.abandon s.sendWindow s.parked).streams id'
    simp only [abandonSend]
    split
    · exact hset
    · exact hset
  events := hevents

/-- Each stream that the peer opens is told of, in the order of the indices. -/
theorem events_foldl_openRemote (d : Direction) (indices : List Nat) (s : StreamSet) :
    (indices.foldl (fun s index => s.openRemote d index) s).events =
      s.events ++ (indices.map (StreamId.ofParts s.side.opposite d)).map .streamOpened := by
  induction indices generalizing s with
  | nil => exact (List.append_nil _).symm
  | cons index rest ih =>
    have hside : (s.openRemote d index).side = s.side := rfl
    rw [List.foldl_cons, ih, hside]
    exact List.append_assoc _ _ _

/-- Below a live stream of the peer there is none to open. -/
theorem unopened_of_get? (hs : s.Orderly) (hget : s.streams.get? id = some st) :
    s.unopened id = [] := by
  have hused := hs.used hget
  rw [Used, nextIndex] at hused
  rw [unopened]
  split
  · rfl
  · next hlocal =>
    rw [if_neg hlocal] at hused
    rw [Nat.sub_eq_zero_of_le (by omega)]
    rfl

/-- When the peer names a stream that is not gone, all unused ones up to it are
opened, and the application hears of each. -/
theorem events_of_ensureOpen (hs : s.Orderly) (h : s.ensureOpen id = .ok (some s')) :
    s'.events = s.events ++ (s.unopened id).map .streamOpened := by
  rw [ensureOpen] at h
  split at h
  · next hlive =>
    obtain rfl := Option.some.inj (Except.ok.inj h)
    obtain ⟨st, hget⟩ := Option.isSome_iff_exists.1 hlive
    rw [unopened_of_get? hs hget, List.map_nil, List.append_nil]
  simp only at h
  split at h
  · split at h <;> cases h
  next hlocal =>
  split at h
  · cases h
  next hnext =>
  split at h
  · cases h
  obtain rfl := Option.some.inj (Except.ok.inj h)
  have hcount : id.index + 1 - s.nextRemote.get id.direction =
      id.index - s.nextRemote.get id.direction + 1 := by omega
  rw [unopened, if_neg hlocal, hcount]
  exact events_foldl_openRemote id.direction _ s

/-! ### What a deed does to the list of events

The list of events grows by the occurrences that can be heard, and is emptied when it is
taken. -/

/-- What an occurrence adds to the events is what it lets be heard. -/
theorem Deed.events (hs : s.Orderly) (h : s.Deed os s') :
    s'.events = os.foldl Occurrence.hear s.events := by
  cases h with
  | @opened d _ _ =>
    rcases s.openStream_eq d with ⟨e, heq⟩ | ⟨-, -, heq⟩
    · rw [heq]
      rfl
    · rw [heq]
      rfl
  | named _ _ hopen => rw [Occurrence.foldl_hear_told, events_of_ensureOpen hs hopen]
  | @turned id _ _ marks s₁ _ _ hturn hturns =>
    -- the marks of a turn come before what is told, or nothing is told
    have hmarks : marks.foldl Occurrence.hear s.events =
        s.events ++ marks.filterMap (·.event?) := by
      cases hturn with
      | filled _ _ _ => rw [Occurrence.foldl_hear_told, Occurrence.filterMap_event?_told]
      | ended _ _ _ _ => rfl
      | refused _ _ _ => rfl
      | _ => exact (List.append_nil _).symm
    rw [List.foldl_append, Occurrence.foldl_hear_told, events_reap, hturns.events, hmarks]
  | stirred _ hstirs => rw [Occurrence.foldl_hear_told, hstirs.events]
  | left id h _ => rfl
  | taken => rfl
  | frozen => rfl

/-- Every deed leaves the streams orderly. -/
theorem Deed.orderly (hs : s.Orderly) (h : s.Deed os s') : s'.Orderly ∧ s.Ages s' := by
  cases h with
  | opened _ => exact (opens_openStream hs _).orderly_ages
  | named hid _ hopen => exact (opens_of_ensureOpen hs hid hopen).orderly_ages
  | turned _ _ _ hturns => exact (hturns.toKeeps.trans (keeps_reap _ _)).orderly_ages hs
  | stirred _ hstirs => exact ⟨hstirs.orderly hs, hstirs.ages⟩
  | left id h _ => exact (keeps_setRecv s id h).orderly_ages hs
  | taken => exact (keeps_takeEvents s).orderly_ages hs
  | frozen =>
    exact ⟨orderly_freeze hs, ⟨rfl, rfl, rfl, fun hused => hused, fun _ hnone => hnone⟩⟩

/-- Occurrences leave the streams orderly. -/
theorem Deeds.orderly (hs : s.Orderly) (h : s.Deeds os s') : s'.Orderly ∧ s.Ages s' := by
  induction h with
  | refl => exact ⟨hs, .refl s⟩
  | tail _ hdeed ih =>
    obtain ⟨hmid, hages⟩ := ih
    obtain ⟨hlast, hages'⟩ := hdeed.orderly hmid
    exact ⟨hlast, hages.trans hages'⟩

/-- The events after some occurrences are those heard in them, by induction. -/
theorem Deeds.events (hs : s.Orderly) (h : s.Deeds os s') :
    s'.events = os.foldl Occurrence.hear s.events := by
  induction h with
  | refl => rfl
  | tail hdeeds hdeed ih =>
    rw [hdeed.events (hdeeds.orderly hs).1, ih, List.foldl_append]

end

end StreamSet

end QuicHost
