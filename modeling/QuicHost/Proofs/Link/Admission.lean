import QuicHost.Proofs.Link.Network
import QuicHost.Proofs.Stream.Census

/-!
# Room for the streams of the other end

An end opens a stream while it has fewer live ones than the other end allows. The
other end has its own number of live streams, and refuses a stream that would
exceed what it allows. The two numbers are not the same: a stream is gone at the
end that opened it once everything was acknowledged, and it is gone at the other
when the application has read it to the end. So a stream that one end was free to
open may be refused by the other (`refused_while_unread`).

This is all that can go wrong. If fewer streams lag behind in this way than the
opening end had room for when it opened its stream, nothing that is said of the
stream is refused for the number of streams (`not_refused_for_limit`).
Each end keeps `Node.Sound` for this, and no end is told of more streams than the
other allows (`Link.Allowed`).
-/

namespace QuicHost

open StreamSet

namespace Message

/-- The report that a message arrives as. -/
def report : Message → Operation
  | data id offset payload fin => .streamData id offset payload fin
  | reset id errorCode finalSize => .streamReset id errorCode finalSize
  | stop id errorCode => .peerStop id errorCode
  | maxData limit => .maxData limit
  | maxStreamData id limit => .maxStreamData id limit

/-- The stream that a message is about. -/
def stream? : Message → Option StreamId
  | data id _ _ _ => some id
  | reset id _ _ => some id
  | stop id _ => some id
  | maxData _ => none
  | maxStreamData id _ => some id

end Message

/-! ## Ends as sets of streams

What an action of an end does to its streams, as a list of operations. The number of live
streams at an end is a matter of these. -/

namespace Node

variable {n n' : Node} {m : Message}

/-- An end acts on its streams, and what it says then names streams by
identifiers that fit. -/
structure Turns (n n' : Node) (ops : List Operation) : Prop where
  /-- the streams have performed some operations -/
  streams : n'.streams = n.streams.after ops
  /-- what is said names streams that fit -/
  said : ∀ m ∈ n'.sent, m ∈ n.sent ∨ m.report.Fits

variable {streams : StreamSet} {ops : List Operation}

/-- An end that says nothing. -/
theorem turns_of_streams (h : streams = n.streams.after ops) :
    n.Turns { n with streams := streams } ops :=
  ⟨h, fun _ hmem => .inl hmem⟩

/-- An end that says one thing. -/
theorem turns_say (h : streams = n.streams.after ops) (hm : m.report.Fits) :
    n.Turns ({ n with streams := streams }.say m) ops := by
  refine ⟨h, fun m' hmem => ?_⟩
  rcases List.mem_append.1 hmem with hold | hnew
  · exact .inl hold
  · obtain rfl := List.mem_singleton.1 hnew
    exact .inr hm

/-- A write is one operation of a node. -/
theorem turns_write (hs : n.streams.Orderly) (id : StreamId) (data : Bytes) (fin : Bool) :
    n.Turns (n.write id data fin) [.write id data fin] := by
  rw [write]
  split
  · next heq => exact turns_of_streams (congrArg Prod.snd heq).symm
  · next heq =>
    exact turns_say (congrArg Prod.snd heq).symm (fits_of_write hs (congrArg Prod.fst heq))

/-- So is abandoning a sending half. -/
theorem turns_resetStream (hs : n.streams.Orderly) (id : StreamId) (errorCode : Nat) :
    n.Turns (n.resetStream id errorCode) [.resetStream id] := by
  rw [resetStream]
  split
  · next heq => exact turns_of_streams (congrArg Prod.snd heq).symm
  · next heq =>
    exact turns_say (congrArg Prod.snd heq).symm (fits_of_resetStream hs (congrArg Prod.fst heq))

/-- So is stopping a receiving half. -/
theorem turns_stopSending (hs : n.streams.Orderly) (id : StreamId) (errorCode : Nat) :
    n.Turns (n.stopSending id errorCode) [.stopSending id] := by
  rw [stopSending]
  split
  · next heq => exact turns_of_streams (congrArg Prod.snd heq).symm
  · next heq =>
    exact turns_say (congrArg Prod.snd heq).symm (fits_of_stopSending hs (congrArg Prod.fst heq))

theorem turns_announceStreamData (n : Node) (id : StreamId) :
    n.Turns (n.announceStreamData id) [] := by
  rw [announceStreamData]
  split
  · exact turns_of_streams rfl
  · exact turns_say rfl trivial

/-- A message that is not refused is a report to the streams. -/
theorem turns_arrive (hm : m.report.Fits) (h : n.arrive m = .ok n') : n.Turns n' [m.report] := by
  cases m with
  | data id offset payload fin =>
    simp only [arrive] at h
    split at h
    · cases h
    · next heq =>
      obtain rfl := Except.ok.inj h
      exact turns_of_streams (congrArg Prod.snd heq).symm
  | reset id errorCode finalSize =>
    simp only [arrive] at h
    split at h
    · cases h
    · next heq =>
      obtain rfl := Except.ok.inj h
      exact turns_of_streams (congrArg Prod.snd heq).symm
  | stop id errorCode =>
    simp only [arrive] at h
    split at h
    · cases h
    · next heq =>
      -- what is abandoned because the other end asked for it is said to be
      obtain rfl := Except.ok.inj h
      exact turns_say (congrArg Prod.snd heq).symm hm
    · next heq =>
      obtain rfl := Except.ok.inj h
      exact turns_of_streams (congrArg Prod.snd heq).symm
  | maxData limit =>
    obtain rfl := Except.ok.inj h
    exact turns_of_streams rfl
  | maxStreamData id limit =>
    obtain rfl := Except.ok.inj h
    exact turns_of_streams rfl

/-- A message is refused for the number of streams only if its stream is. -/
theorem ensureOpen_of_arrive {id : StreamId} (hm : m.stream? = some id)
    (h : n.arrive m = .error (.violation .streamLimitError)) :
    n.streams.ensureOpen id = .error (.violation .streamLimitError) := by
  -- the stream limit is checked where a message opens its stream, before anything else of
  -- it is looked at
  cases m with
  | data id' offset payload fin =>
    obtain rfl := Option.some.inj hm
    simp only [arrive] at h
    split at h
    · next heq =>
      obtain rfl := Except.error.inj h
      exact (error_of_onStreamData (congrArg Prod.fst heq)).ensureOpen
    · cases h
  | reset id' errorCode finalSize =>
    obtain rfl := Option.some.inj hm
    simp only [arrive] at h
    split at h
    · next heq =>
      obtain rfl := Except.error.inj h
      exact (error_of_onStreamReset (congrArg Prod.fst heq)).ensureOpen
    · cases h
  | stop id' errorCode =>
    obtain rfl := Option.some.inj hm
    simp only [arrive] at h
    split at h
    · next heq =>
      obtain rfl := Except.error.inj h
      exact (error_of_onStopSending (congrArg Prod.fst heq)).ensureOpen
    · cases h
    · cases h
  | maxData limit => cases h
  | maxStreamData id' limit => cases h

/-- What an end keeps: its streams are orderly and their counters are right, and
it names them by identifiers that fit. -/
structure Sound (params : Side → TransportParameters) (side : Side) (n : Node) : Prop where
  orderly : n.streams.Orderly
  census : n.streams.Census
  localMax : n.streams.localMax = (params side).maxStreams
  localParams : n.streams.localParams = params side
  side : n.streams.side = side
  /-- what was said names streams that fit -/
  names : ∀ m ∈ n.sent, m.report.Fits

end Node

namespace Link

open Node

/-! ## Actions

Every action leaves its end sound, and the messages that arrive name streams that fit. -/

/-- What an action does with the streams of its end. The other end is `y`. -/
def Action.operations (y : Node) : Action → List Operation
  | .handshake => [.handshakeCompleted y.streams.localParams]
  | .openStream d => [.openStream d]
  | .write id data fin => [.write id data fin]
  | .read id maxLen => [.read id maxLen]
  | .resetStream id _ => [.resetStream id]
  | .stopSending id _ => [.stopSending id]
  | .announceData => []
  | .announceStreamData _ => []
  | .maxStreams d n => [.maxStreams d n]
  | .acknowledged id n => [.streamAcked id n]
  | .deliver index => (y.sent[index]?.map Message.report).toList

/-- Whether an end learns, if anything, of no more streams than the parameters of
the other end allow. -/
def Action.Within (peer : TransportParameters) : Action → Prop
  | .maxStreams d n => n ≤ peer.maxStreams.get d
  | _ => True

instance (peer : TransportParameters) : DecidablePred (Action.Within peer)
  | .maxStreams d n => inferInstanceAs (Decidable (n ≤ peer.maxStreams.get d))
  | .handshake | .openStream _ | .write .. | .read .. | .resetStream .. | .stopSending ..
  | .announceData | .announceStreamData _ | .acknowledged .. | .deliver _ => .isTrue trivial

section

variable {params : Side → TransportParameters} {l l' : Link} {side : Side} {action : Action}
  {n : Node}

/-- What an action does, if the other end names streams by identifiers that fit. -/
theorem turns_act (hs : (l side).streams.Orderly)
    (hother : ∀ m ∈ (l side.opposite).sent, m.report.Fits) (h : l.act side action = .ok n) :
    (l side).Turns n (action.operations (l side.opposite)) := by
  cases action with
  | write id data fin =>
    obtain rfl := Except.ok.inj h
    exact turns_write hs id data fin
  | resetStream id errorCode =>
    obtain rfl := Except.ok.inj h
    exact turns_resetStream hs id errorCode
  | stopSending id errorCode =>
    obtain rfl := Except.ok.inj h
    exact turns_stopSending hs id errorCode
  | announceData =>
    obtain rfl := Except.ok.inj h
    exact turns_say rfl trivial
  | announceStreamData id =>
    obtain rfl := Except.ok.inj h
    exact turns_announceStreamData _ id
  -- a message that was never said is delivered to no effect
  | deliver index =>
    rw [Action.operations]
    simp only [act] at h
    split at h
    · next hnone =>
      obtain rfl := Except.ok.inj h
      rw [hnone]
      exact turns_of_streams rfl
    · next m hsome =>
      rw [hsome]
      exact turns_arrive (hother m (List.mem_of_getElem? hsome)) h
  | _ =>
    obtain rfl := Except.ok.inj h
    exact turns_of_streams rfl

/-- What a node does with a message names streams by identifiers that fit. -/
theorem fits_operations (action : Action) {y : Node} (hnames : ∀ m ∈ y.sent, m.report.Fits) :
    ∀ op ∈ action.operations y, op.Fits := by
  intro op hop
  cases action with
  | announceData => cases hop
  | announceStreamData id => cases hop
  | deliver index =>
    rw [Action.operations, Option.mem_toList, Option.map_eq_some_iff] at hop
    obtain ⟨m, hm, rfl⟩ := hop
    exact hnames m (List.mem_of_getElem? hm)
  | _ =>
    obtain rfl := List.mem_singleton.1 hop
    trivial

/-! ## Runs

Along a run neither end is told of more streams than the other allows. -/

/-- What both ends keep. -/
def Sound (params : Side → TransportParameters) (l : Link) : Prop :=
  ∀ side, (l side).Sound params side

/-- An action leaves its node sound. -/
theorem Sound.act (h : l.Sound params) (hact : l.act side action = .ok n) :
    n.Sound params side := by
  obtain ⟨hs, hc, hmax, hlocal, hside, hnames⟩ := h side
  have hother := (h side.opposite).names
  have hsteps := steps_after (l side).streams (fits_operations action hother)
  obtain ⟨horderly, hages⟩ := Steps.orderly hs hsteps
  have hcensus := hc.steps hs hsteps
  have hturns := turns_act hs hother hact
  rw [← hturns.streams] at horderly hages hcensus
  exact ⟨horderly, hcensus, hages.localMax.trans hmax, hages.localParams.trans hlocal,
    hages.side.trans hside, fun m hm => (hturns.said m hm).elim (hnames m) id⟩

/-- What a step changes is one end. -/
theorem eq_update_of_step (h : l.step side action = .ok l') :
    ∃ n, l.act side action = .ok n ∧ l' = Function.update l side n := by
  rw [step] at h
  rcases hact : l.act side action with e | n
  · rw [hact] at h
    cases h
  · rw [hact] at h
    exact ⟨n, rfl, (Except.ok.inj h).symm⟩

/-- One step leaves the link sound: the other side is as it was. -/
theorem Sound.step (h : l.Sound params) (hstep : l.step side action = .ok l') :
    l'.Sound params := by
  obtain ⟨n, hact, rfl⟩ := eq_update_of_step hstep
  exact (Function.forall_update_iff l fun side n => n.Sound params side).2
    ⟨h.act hact, fun side' _ => h side'⟩

/-- Any number of steps do, by induction on them. -/
theorem Sound.run {actions : List (Side × Action)} (h : l.Sound params)
    (hrun : l.run actions = .ok l') : l'.Sound params := by
  induction actions generalizing l with
  | nil =>
    obtain rfl := Except.ok.inj hrun
    exact h
  | cons entry rest ih =>
    rw [Link.run] at hrun
    split at hrun
    · cases hrun
    · next hstep => exact ih (h.step hstep) hrun

theorem sound_begin (params : Side → TransportParameters) : (begin params).Sound params :=
  fun side => ⟨orderly_new side _, census_new side _, rfl, rfl, rfl, nofun⟩

/-- Neither end may open more streams than the other allows. -/
def Allowed (params : Side → TransportParameters) (l : Link) : Prop :=
  ∀ side d, (l side).streams.peerMax.get d ≤ (params side.opposite).maxStreams.get d

/-- A node is told of no limit on streams but the peer's own. -/
theorem allows_operations {y : Node} {peer : TransportParameters} (d : Direction)
    (hwithin : action.Within peer) (hpeer : y.streams.localParams = peer) :
    ∀ op ∈ action.operations y, op.allows d ≤ peer.maxStreams.get d := by
  intro op hop
  cases action with
  | handshake =>
    obtain rfl := List.mem_singleton.1 hop
    exact Nat.le_of_eq (by rw [Operation.allows, hpeer])
  | maxStreams d' n =>
    obtain rfl := List.mem_singleton.1 hop
    rw [Operation.allows]
    split
    · next heq => exact heq ▸ hwithin
    · exact Nat.zero_le _
  | announceData => cases hop
  | announceStreamData id => cases hop
  | deliver index =>
    rw [Action.operations, Option.mem_toList, Option.map_eq_some_iff] at hop
    obtain ⟨m, -, rfl⟩ := hop
    -- no message speaks of the number of streams
    cases m <;> exact Nat.zero_le _
  | _ =>
    obtain rfl := List.mem_singleton.1 hop
    exact Nat.zero_le _

/-- One step leaves what is allowed within the limits of the settings. -/
theorem Allowed.step (h : l.Sound params) (ha : l.Allowed params)
    (hwithin : action.Within (params side.opposite)) (hstep : l.step side action = .ok l') :
    l'.Allowed params := by
  obtain ⟨n, hact, rfl⟩ := eq_update_of_step hstep
  have hother := h side.opposite
  have hturns := turns_act (h side).orderly hother.names hact
  refine (Function.forall_update_iff l fun side n =>
    ∀ d, n.streams.peerMax.get d ≤ (params side.opposite).maxStreams.get d).2
      ⟨fun d => ?_, fun side' _ => ha side'⟩
  have hfits := fits_operations action hother.names
  have hallows := allows_operations d hwithin hother.localParams
  rw [hturns.streams]
  exact peerMax_after (ha side d) fun op hop => ⟨hfits op hop, hallows op hop⟩

/-- Any number of steps do, by induction on them. -/
theorem Allowed.run {actions : List (Side × Action)} (h : l.Sound params) (ha : l.Allowed params)
    (hwithin : ∀ a ∈ actions, a.2.Within (params a.1.opposite)) (hrun : l.run actions = .ok l') :
    l'.Allowed params := by
  induction actions generalizing l with
  | nil =>
    obtain rfl := Except.ok.inj hrun
    exact ha
  | cons entry rest ih =>
    rw [List.forall_mem_cons] at hwithin
    rw [Link.run] at hrun
    split at hrun
    · cases hrun
    · next hstep => exact ih (h.step hstep) (ha.step h hwithin.1 hstep) hwithin.2 hrun

theorem allowed_begin (params : Side → TransportParameters) : (begin params).Allowed params := by
  intro side d
  cases d <;> exact Nat.zero_le _

end

/-! ## Room for what was opened

A stream that was opened with room to spare is not refused: the streams that lag behind at
the other end are fewer than the room there was. -/

/-- **Whom the opening end has room for is let in.** Two ends act in any way, one opens
a stream, and they go on in any way. What is then said of the stream is not refused for
the number of streams, as long as fewer streams lag behind, gone at the opening end when
it opened the stream but not gone at the other, than the opening end had room for. -/
theorem not_refused_for_limit (params : Side → TransportParameters)
    {before later : List (Side × Action)} {l l' : Link} {side : Side} {d : Direction}
    {id : StreamId} {m : Message} (hwithin : ∀ a ∈ before, a.2.Within (params a.1.opposite))
    (hbefore : (begin params).run before = .ok l)
    (hopen : ((l side).streams.openStream d).1 = .ok id)
    (hlater : l.run ((side, .openStream d) :: later) = .ok l') (hm : m.stream? = some id)
    (hlagging : (lagging (l side).streams (l' side.opposite).streams d).card <
      (l side).streams.available d) :
    (l' side.opposite).arrive m ≠ .error (.violation .streamLimitError) := by
  intro hrefused
  have hsound : l.Sound params := (sound_begin params).run hbefore
  have hallowed : l.Allowed params :=
    (allowed_begin params).run (sound_begin params) hwithin hbefore
  have hx := hsound side
  have hr := (hsound.run hlater) side.opposite
  have hmax (e : Direction) :
      (l side).streams.peerMax.get e ≤ (l' side.opposite).streams.localMax.get e := by
    rw [hr.localMax]
    exact hallowed side e
  have hsides : (l' side.opposite).streams.side = (l side).streams.side.opposite := by
    rw [hr.side, hx.side]
  have hle := available_le_lagging hx.orderly hx.census hr.orderly hr.census hsides hmax hopen
    (ensureOpen_of_arrive hm hrefused)
  exact absurd hlagging (Nat.not_lt.2 hle)

/-- Parameters that allow two one-way streams at a time. -/
def twoAtATime : TransportParameters where
  initialMaxData := 10
  initialMaxStreamDataUni := 10
  initialMaxStreamsUni := 2

/-- The client sends a stream, and all of it arrives and is acknowledged, so it
is gone at the client. The application at the server does not read it. -/
def oneSent : List (Side × Action) :=
  [(.client, .handshake), (.server, .handshake), (.client, .openStream .uni),
    (.client, .write ⟨2⟩ [1] true), (.server, .deliver 0), (.client, .acknowledged ⟨2⟩ 1)]

/-- The client goes on to send a second stream. -/
def oneMore : List (Side × Action) :=
  [(.client, .openStream .uni), (.client, .write ⟨6⟩ [2] true)]

/-- One of the streams lags, and there is room for one more. -/
theorem not_refused_for_limit_second : ∃ l l',
    (begin fun _ => twoAtATime).run oneSent = .ok l ∧
      ((l .client).streams.openStream .uni).1 = .ok ⟨6⟩ ∧ l.run oneMore = .ok l' ∧
      (lagging (l .client).streams (l' .server).streams .uni).card = 1 ∧
      (l .client).streams.available .uni = 2 ∧
      (l' .server).arrive (.data ⟨6⟩ 0 [2] true) ≠ .error (.violation .streamLimitError) := by
  obtain ⟨l, l', hbefore, hopen, hlater, hlagging, havailable⟩ :
      ∃ l l', (begin fun _ => twoAtATime).run oneSent = .ok l ∧
        ((l .client).streams.openStream .uni).1 = .ok ⟨6⟩ ∧ l.run oneMore = .ok l' ∧
        (lagging (l .client).streams (l' .server).streams .uni).card = 1 ∧
        (l .client).streams.available .uni = 2 :=
    ⟨_, _, rfl, rfl, rfl, by decide, rfl⟩
  have hroom : (lagging (l .client).streams (l' .server).streams .uni).card <
      (l .client).streams.available .uni := by omega
  exact ⟨l, l', hbefore, hopen, hlater, hlagging, havailable,
    not_refused_for_limit (fun _ => twoAtATime) (by decide) hbefore hopen hlater rfl hroom⟩

/-- When the second stream has arrived and was acknowledged as well, the client
may open a third one. The first two still hold their places at the server, and
what is said of the third one is refused. -/
theorem refused_while_unread : ∃ l l',
    (begin fun _ => twoAtATime).run
        (oneSent ++ oneMore ++ [(.server, .deliver 1), (.client, .acknowledged ⟨6⟩ 1)]) = .ok l ∧
      ((l .client).streams.openStream .uni).1 = .ok ⟨10⟩ ∧
      l.run [(.client, .openStream .uni), (.client, .write ⟨10⟩ [3] false)] = .ok l' ∧
      .data ⟨10⟩ 0 [3] false ∈ (l' .client).sent ∧
      (l' .server).arrive (.data ⟨10⟩ 0 [3] false) = .error (.violation .streamLimitError) :=
  ⟨_, _, rfl, rfl, rfl, by decide, rfl⟩

end Link

end QuicHost
