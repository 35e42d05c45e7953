import QuicHost.Proofs.Endpoint.Histories

/-!
# Nothing is lost at the channel

A host makes a channel once, installs no handlers, and goes on: it calls the
endpoint, does things with connections, and receives from the channel, in any
order. Every event that a connection delivers is accounted for (`Accounted`): it
is in the channel, or was received, or the connection has recorded that it failed.
What is received comes in the order in which it was delivered.

This holds for every history, so also if the receiver does not wait until a call
is over. Steps that follow one another are a case of it (`steps`).
-/

namespace QuicHost.Endpoint

open EventDispatcher (Delivery)
open Connection (Action Moment)
open Scene (Record History traceIn)

variable {φ η ε ω : Type}

/-! ## Steps of a host

A host that makes one call after the other, and receives in between, is one of the
histories that are possible. A receiver that works at other times is another. -/

/-- What a host does once it has a channel. -/
inductive Step (φ ε ω : Type) where
  /-- calls the endpoint -/
  | call (c : Call φ ε ω)
  /-- takes the oldest event out of the channel -/
  | receive
  /-- receives no more -/
  | dropReceiver

/-- Whether a step makes no other channel and installs no handler. -/
def Step.Plain [PacketEngine ε] : Step φ ε ω → Prop
  | .call c => c.Plain
  | _ => True

section

variable [EngineFactory φ ε] [PacketEngine ε] [EntropySource η]

/-- Does one step. Answers what the receiver did. -/
def step (channel : Nat) (m : Endpoint φ η ε ω × HostState ω) :
    Step φ ε ω → List Happening × (Endpoint φ η ε ω × HostState ω)
  | .call c => ([], m.1.perform m.2 c)
  | .receive =>
    let r := m.2.receive channel
    ([.received r.1], (m.1, r.2))
  | .dropReceiver => ([.left], (m.1, m.2.dropReceiver channel))

/-- Does one step after the other. -/
def steps (channel : Nat) (m : Endpoint φ η ε ω × HostState ω) :
    List (Step φ ε ω) → List Happening × (Endpoint φ η ε ω × HostState ω)
  | [] => ([], m)
  | s :: rest =>
    let r := step channel m s
    let r' := steps channel r.2 rest
    (r.1 ++ r'.1, r'.2)

variable {channel : Nat} {m : Endpoint φ η ε ω × HostState ω}

/-- Whatever is done, there is a history of it, in which the receiver did just what
it did. -/
theorem exists_history_step (hattached : m.1.channel = some channel) {s : Step φ ε ω}
    (hplain : s.Plain) :
    (step channel m s).2.1.channel = some channel ∧
      ∃ records, History channel (m.1.scene m.2) records
          ((step channel m s).2.1.scene (step channel m s).2.2) ∧
        (traceIn records).filter Happening.byReceiver = (step channel m s).1 := by
  cases s with
  | call c =>
    have hcall : c.Plain := hplain
    obtain ⟨hchannel, hcourse⟩ := runs_perform m.1 m.2 hcall
    rw [hattached] at hchannel hcourse
    exact ⟨hchannel, hcourse.exists_history⟩
  | receive => exact ⟨hattached, _, .single .received, rfl⟩
  | dropReceiver => exact ⟨hattached, _, .single .left, rfl⟩

/-- What a host does is a history, in which the receiver does what is answered. By induction
on the steps. -/
theorem exists_history_steps (hattached : m.1.channel = some channel) {later : List (Step φ ε ω)}
    (hplain : ∀ s ∈ later, s.Plain) :
    ∃ records, History channel (m.1.scene m.2) records
        ((steps channel m later).2.1.scene (steps channel m later).2.2) ∧
      (traceIn records).filter Happening.byReceiver = (steps channel m later).1 := by
  induction later generalizing m with
  | nil => exact ⟨[], .nil _, rfl⟩
  | cons s rest ih =>
    rw [List.forall_mem_cons] at hplain
    obtain ⟨hattached', records, hhistory, hreceiver⟩ := exists_history_step hattached hplain.1
    obtain ⟨records', hhistory', hreceiver'⟩ := ih hattached' hplain.2
    refine ⟨records ++ records', hhistory.append hhistory', ?_⟩
    rw [Scene.traceIn_append, List.filter_append, hreceiver, hreceiver', steps]

end

/-! ## Before there is a channel

Without a channel nobody hears what the connections tell. Their handlers are still to be
installed, and whoever is over has nothing left to say. -/

/-- Whether no connection has handlers for streams, while those that are over say
nothing more. So it is before there is a channel. -/
def Unheard (s : Scene ε ω) : Prop := s.All fun _ c => c.dispatcher.Unattended ∧ c.Rested

section

variable [PacketEngine ε] {s s' : Scene ε ω}

/-- Whatever may happen in a scene installs no handlers for streams. -/
theorem Unheard.course {channel : Option Nat} (h : Unheard s) (hcourse : s.Course channel s') :
    Unheard s' := by
  induction hcourse with
  | nil => exact h
  | @acted s _ k c a hget hinstalls _ ih =>
    obtain ⟨hunattended, hrested⟩ := h k c hget
    have hcomes := Connection.comes_perform ⟨c, s.world⟩ hinstalls
    obtain ⟨log, hdelivers⟩ := hcomes.exists_delivers
    exact ih (Scene.All.put h ⟨(hdelivers.unattended hunattended).1, hcomes.rested hrested⟩)
  | opened _ side settings scid dcid engine now _ ih =>
    refine ih (Scene.All.put h ⟨?_, ?_⟩)
    · cases channel <;> exact ⟨rfl, fun _ => rfl⟩
    · cases channel <;> exact fun h => ConnectionState.noConfusion h
  | removed _ _ _ ih => exact ih (Scene.All.without h _)

variable [EngineFactory φ ε] [EntropySource η] {m : Endpoint φ η ε ω × HostState ω}

/-- Plain calls leave the connections unheard, by induction on them. -/
theorem Unheard.performAll (h : Unheard (m.1.scene m.2)) {calls : List (Call φ ε ω)}
    (hplain : ∀ call ∈ calls, call.Plain) :
    Unheard ((m.1.performAll m.2 calls).1.scene (m.1.performAll m.2 calls).2) := by
  induction calls generalizing m with
  | nil => exact h
  | cons call rest ih =>
    rw [List.forall_mem_cons] at hplain
    exact ih (m := m.1.perform m.2 call) (h.course (runs_perform m.1 m.2 hplain.1).2) hplain.2

end

/-! ## Making a channel

A channel is made empty, and every connection that is there gets a handler for it. -/

/-- What leaves the host's state alone for each connection leaves it alone for all. -/
theorem world_updateEach {α : Type} {f : Nat → Entry ε ω → StateM (HostState ω) (α × Entry ε ω)}
    (hf : ∀ k entry w, (f k entry w).2 = w) (e : Endpoint φ η ε ω) (ks : List Nat)
    (w : HostState ω) : (updateEach f e ks w).2 = w := by
  induction ks generalizing e w with
  | nil => rfl
  | cons k rest ih =>
    have hfirst : (e.update k (f k) w).2 = w := by
      cases hget : e.connections.get? k with
      | none => rw [update_of_vacant hget]
      | some entry =>
        rw [update_of_get? hget]
        exact hf k entry w
    exact (ih _ _).trans hfirst

/-- Making a channel sends the events of every connection there. It has room for as
many events as are set. -/
theorem Unheard.openChannel {e : Endpoint φ η ε ω} {w : HostState ω} (h : Unheard (e.scene w)) :
    (e.openChannel w).1.2.channel = some (e.openChannel w).1.1 ∧
      ((e.openChannel w).1.2.scene (e.openChannel w).2).Bridged (e.openChannel w).1.1 ∧
      (e.openChannel w).2.channels[(e.openChannel w).1.1]? =
        some { capacity := e.settings.endpoint.eventChannelCapacity } := by
  let wire (k : Nat) (entry : Entry ε ω) : StateM (HostState ω) (Unit × Entry ε ω) :=
    pure ((), { entry with
      connection := entry.connection.modifyDispatcher
        (·.setConnectionHandler (channelHandler w.channels.length ⟨k⟩)) })
  let made : HostState ω := { w with channels := w.channels ++
    [{ capacity := e.settings.endpoint.eventChannelCapacity }] }
  have hworld : (e.openChannel w).2 = made :=
    world_updateEach (f := wire) (fun _ _ _ => rfl) e e.connections.keys made
  refine ⟨rfl, fun k c hget => ?_, ?_⟩
  · obtain ⟨w', hsame⟩ := exists_get?_updateAll wire e made k
    have heq : (e.openChannel w).1.2.connections.get? k =
        (e.connections.get? k).map fun entry => (wire k entry w').1.2 := hsame
    have hthere : ((e.openChannel w).1.2.connections.get? k).map Entry.connection = some c := hget
    rw [heq, Option.map_map] at hthere
    obtain ⟨entry, hentry, rfl⟩ := Option.map_eq_some_iff.1 hthere
    obtain ⟨hunattended, hrested⟩ :=
      h k entry.connection (congrArg (Option.map Entry.connection) hentry)
    exact ⟨⟨⟨hunattended.defaultStream, hunattended.streams⟩, rfl⟩,
      fun hclosed => ⟨(hrested hclosed).sealed, (hrested hclosed).queue⟩⟩
  · rw [hworld]
    exact List.getElem?_concat_length

/-! ## Everything is accounted for

Each record of the history balances, and so does their sum. What the connection counted
and recorded is compared with what happened at the channel. -/

section

variable [PacketEngine ε]

/-- What a host with a channel can rely on, whatever has happened. -/
structure Accounted (channel capacity : Nat) (start : Scene ε ω) (records : List (Record ε ω))
    (s : Scene ε ω) : Prop where
  /-- whatever happened is accounted for -/
  balances : ∀ r ∈ records, r.Balances channel
  /-- a connection that was not removed has counted all that it delivered, and has
  recorded just the failures, each once -/
  kept {k : Nat} : (∀ r ∈ records, r.Keeps k) →
    s.delivered k = start.delivered k + (deliveriesOf k (traceIn records)).length ∧
    s.diagnostics k = start.diagnostics k ++
      (deliveriesOf k (traceIn records)).filterMap Delivery.diagnostic?
  /-- the channel holds what is left -/
  account : ∃ c, s.world.channels[channel]? = some c ∧ c.Holds capacity (traceIn records)
  /-- and so it did at any time between, and a delivery failed just if the channel took
  nothing -/
  throughout {past future : List Happening} : traceIn records = past ++ future →
    ∃ c : EventChannel, c.Holds capacity past ∧
      ∀ h delivery rest, future = .delivered h delivery :: rest →
        (delivery.diagnostic?.isSome = true ↔ c.Blocked)
  /-- the events of one connection are received in the order in which it delivered
  them -/
  order (h : ConnectionHandle) :
    ((receivedIn (traceIn records)).filter (·.connection = h)).map EndpointEvent.event <+:
      ((deliveriesOf h.key (traceIn records)).filter (·.answer.isOk)).map Delivery.event
  /-- delivering comes to an end, whatever is queued and whatever the channel takes -/
  settles {k : Nat} {c : Connection ε (HostState ω)} : s.connections k = some c →
    ∀ d, c.dispatcher.Fed d → ∀ w, d.Settles channel w

/-- A history over a bridged scene is accounted for: each record balances, and the channel
follows the trace as a whole. -/
theorem accounted_of_history {channel capacity : Nat} {s s' : Scene ε ω}
    {records : List (Record ε ω)} (h : History channel s records s') (hs : s.Bridged channel)
    (hget : s.world.channels[channel]? = some { capacity := capacity }) :
    Accounted channel capacity s records s' := by
  obtain ⟨hafter, hbalances⟩ := h.balances hs
  have hfollows := h.account hbalances
  obtain ⟨c, hchannel, hholds⟩ := hfollows.follows.exists_holds hget
  refine ⟨hbalances, fun hkeeps => h.kept hbalances hkeeps, ⟨c, hchannel, hholds⟩,
    fun heq => ?_, fun handle => ?_, fun hthere d hfed w => ?_⟩
  · obtain ⟨w, hpast, hdecides, -⟩ := hfollows _ _ heq
    obtain ⟨c, hthere, hholds⟩ := hpast.exists_holds hget
    rw [HostState.Decides, HostState.blocked_iff hthere] at hdecides
    exact ⟨c, hholds, hdecides⟩
  · rw [← map_event_sentIn]
    exact (hholds.isPrefix.filter _).map _
  · exact ((hafter _ _ hthere).goesTo.alike hfed.alike).settles w

end

/-- **Nothing disappears at the channel.** A host makes an endpoint, does with it
what it likes, and makes one channel; then it goes on, in any order, with calls,
with things done to connections and with receiving, and never installs a handler.
Whatever happens then, and whenever the receiver acts meanwhile, every event that a
connection delivers is sent to the channel once, with the handle of the connection,
or recorded by the connection as one failure of its kind, which happens only if the
channel takes nothing. Nothing is lost or doubled between the channel and its receiver,
the events of a connection come out in the order in which it delivered them, and the
channel never holds more than it may. Delivering comes to an end also if the channel
takes nothing any more. And whatever the host does step by step is something that
happens. -/
theorem accounted_for_at_channel [EngineFactory φ ε] [PacketEngine ε] [EntropySource η]
    {settings : Settings} {factory : φ} {entropy : η} {e₀ : Endpoint φ η ε ω}
    (hnew : Endpoint.new settings factory entropy = .ok e₀) (w₀ : HostState ω)
    {earlier : List (Call φ ε ω)} (hearlier : ∀ call ∈ earlier, call.Plain) :
    let m := e₀.performAll w₀ earlier
    let opened := m.1.openChannel m.2
    let channel := opened.1.1
    let start := opened.1.2.scene opened.2
    (∀ records s, History channel start records s →
      Accounted channel settings.endpoint.eventChannelCapacity start records s) ∧
    ∀ later : List (Step φ ε ω), (∀ s ∈ later, s.Plain) →
      let r := steps channel (opened.1.2, opened.2) later
      ∃ records, History channel start records (r.2.1.scene r.2.2) ∧
        (traceIn records).filter Happening.byReceiver = r.1 := by
  intro m opened channel start
  obtain ⟨hsettings, hempty⟩ := fresh_of_new hnew
  have hfresh : Unheard (e₀.scene w₀) := by
    intro k c hget
    rw [scene, hempty] at hget
    cases hget
  have hunheard : Unheard (m.1.scene m.2) := hfresh.performAll (m := (e₀, w₀)) hearlier
  have hcapacity : m.1.settings = settings :=
    (settings_performAll (routed_new hnew) w₀ earlier).trans hsettings
  -- before the channel is opened nobody reports to it, and afterwards everyone does
  obtain ⟨hattached, hbridged, hget⟩ := hunheard.openChannel
  rw [hcapacity] at hget
  exact ⟨fun records s hhistory => accounted_of_history hhistory hbridged hget,
    fun later hplain => exists_history_steps (m := (opened.1.2, opened.2)) hattached hplain⟩

/-- The channel has room for one event. A connection completes its handshake, and what
fails for want of room is recorded. -/
theorem accounted_for_at_small_channel :
    letI := zeroEntropy
    ∃ e₀ : Endpoint ScriptedFactory Unit (ForcedEngine ScriptedEngine) Unit,
      Endpoint.new { endpoint := { eventChannelCapacity := 1 } } {} () = .ok e₀ ∧
      let m := e₀.performAll ⟨[], ()⟩ [.connect "192.0.2.1:443" ⟨0⟩]
      let opened := m.1.openChannel m.2
      let start := opened.1.2.scene opened.2
      let r := steps opened.1.1 (opened.1.2, opened.2)
        [.call (.handleDatagram (0x40 :: List.replicate 18 0) "192.0.2.1:443" ⟨0⟩), .receive]
      let s := r.2.1.scene r.2.2
      ∃ records, History opened.1.1 start records s ∧
        Accounted opened.1.1 1 start records s ∧
        (traceIn records).filter Happening.byReceiver = r.1 ∧
        receivedIn r.1 = [⟨⟨0⟩, .handshakeCompleted⟩] ∧ (s.diagnostics 0).length = 4 := by
  let _ := zeroEntropy
  obtain ⟨e₀, hnew, hreceived, hrecorded⟩ :
      ∃ e₀ : Endpoint ScriptedFactory Unit (ForcedEngine ScriptedEngine) Unit,
      Endpoint.new { endpoint := { eventChannelCapacity := 1 } } {} () = .ok e₀ ∧
      let m := e₀.performAll ⟨[], ()⟩ [.connect "192.0.2.1:443" ⟨0⟩]
      let opened := m.1.openChannel m.2
      let r := steps opened.1.1 (opened.1.2, opened.2)
        [.call (.handleDatagram (0x40 :: List.replicate 18 0) "192.0.2.1:443" ⟨0⟩), .receive]
      receivedIn r.1 = [⟨⟨0⟩, .handshakeCompleted⟩] ∧
        ((r.2.1.scene r.2.2).diagnostics 0).length = 4 :=
    ⟨_, rfl, by decide +kernel, by decide +kernel⟩
  have hearlier : ∀ call ∈ [Call.connect "192.0.2.1:443" ⟨0⟩],
      Call.Plain (φ := ScriptedFactory) (ε := ForcedEngine ScriptedEngine) (ω := Unit) call :=
    List.forall_mem_singleton.2 trivial
  obtain ⟨haccounted, hsteps⟩ := accounted_for_at_channel hnew ⟨[], ()⟩ hearlier
  obtain ⟨records, hhistory, hreceiver⟩ := hsteps
    [.call (.handleDatagram (0x40 :: List.replicate 18 0) "192.0.2.1:443" ⟨0⟩), .receive]
    (List.forall_mem_cons.2 ⟨trivial, List.forall_mem_singleton.2 trivial⟩)
  exact ⟨e₀, hnew, records, hhistory, haccounted records _ hhistory, hreceiver, hreceived,
    hrecorded⟩

end QuicHost.Endpoint
