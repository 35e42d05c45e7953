import QuicHost.Proofs.Endpoint.Scenes

/-!
# Histories of a channel

Once the events of all connections go to a channel, a host goes on: connections
act, are opened and are removed, and beside them the receiver takes events out of
the channel, also while a connection delivers. A history keeps a record of each
thing that happens, with the scene before and after it.

Every record balances (`Record.Balances`). What a connection delivered is counted
by it, and either it was sent or its failure is recorded; what was sent is in the
channel until it is received.
-/

namespace QuicHost

open EventDispatcher (Delivery)
open Connection (Action Moment)

variable {φ η ε ω : Type}

/-! ## Connections at a channel

A connection whose events all go to the channel. What it delivers in an action depends on
whether the receiver takes events meanwhile; the work that it does first does not. -/

namespace Connection

variable {channel : Nat} {h : ConnectionHandle} {c : Connection ε (HostState ω)}

/-- Whether all events of a connection go to a channel, while it says nothing more
once it is over. -/
structure Bridged (channel : Nat) (h : ConnectionHandle) (c : Connection ε (HostState ω)) :
    Prop where
  /-- every event goes to the channel, under this handle -/
  goesTo : c.dispatcher.GoesTo (channelHandler channel h)
  /-- a connection that is over says nothing more -/
  rested : c.Rested

variable [PacketEngine ε]

/-- What an action of a connection comes to, while the receiver of a channel takes
events, or leaves, whenever it likes. The work is the same; what is delivered
depends on the receiver. -/
inductive Moment.Performs (channel : Nat) (h : ConnectionHandle) (m : Moment ε (HostState ω))
    (a : Action ε (HostState ω)) : List Happening → Moment ε (HostState ω) → Prop where
  /-- nothing is delivered -/
  | quietly (hfed : m.connection.dispatcher.Fed (m.perform a).2.connection.dispatcher)
      (hworld : (m.perform a).2.world = m.world) : Performs channel h m a [] (m.perform a).2
  /-- everything is delivered, after which an event may be fetched from the mailbox -/
  | aloud {d d₁ d' : EventDispatcher (HostState ω)} {log : List Delivery}
      {trace : List Happening} {w' : HostState ω} (mailbox : List Event)
      (hfed : m.connection.dispatcher.Fed d)
      (hempties : d.Empties m.world log d₁ (m.perform a).2.world)
      (hafter : (m.perform a).2.connection.dispatcher =
        { d₁ with mailbox := (m.perform a).2.connection.dispatcher.mailbox })
      (hloop : d.Interleaved channel h m.world trace d' w') (hqueue : d'.queue = []) :
    Performs channel h m a trace
      ⟨{ (m.perform a).2.connection with
          dispatcher := { d' with
            mailbox := mailbox
            delivered := d.delivered + (deliveriesOf h.key trace).length } }, w'⟩

variable {m m' : Moment ε (HostState ω)} {a : Action ε (HostState ω)} {trace : List Happening}

/-- The receiver may also do nothing. -/
theorem exists_performs (channel : Nat) (h : ConnectionHandle) (m : Moment ε (HostState ω))
    (hinstalls : a.installs = false) :
    ∃ log : List Delivery, m.Performs channel h a (log.map (.delivered h)) (m.perform a).2 := by
  obtain ⟨log, hdelivers⟩ := (comes_perform m hinstalls).exists_delivers
  refine ⟨log, ?_⟩
  cases hdelivers with
  | none hfed hworld => exact .quietly hfed hworld
  | @all d d' _ hfed hempties hafter =>
    have hundisturbed := Moment.Performs.aloud (a := a)
      (m.perform a).2.connection.dispatcher.mailbox hfed hempties hafter
      (hempties.passages.interleaved channel h) hempties.queue
    rw [deliveriesOf_map_delivered, ← hempties.delivered] at hundisturbed
    have hsame := congrArg (fun d => Moment.mk
      { (m.perform a).2.connection with dispatcher := d } (m.perform a).2.world) hafter
    exact (congrArg (m.Performs channel h a _) hsame).mpr hundisturbed

namespace Moment.Performs

/-- The connection stays at the channel. -/
theorem bridged (hperforms : m.Performs channel h a trace m') (hinstalls : a.installs = false)
    (hm : m.connection.Bridged channel h) : m'.connection.Bridged channel h := by
  have hrested := (comes_perform m hinstalls).rested hm.rested
  cases hperforms with
  | quietly hfed _ => exact ⟨hm.goesTo.alike hfed.alike, hrested⟩
  | aloud mailbox hfed hempties hafter hloop hqueue =>
    have hgoes := hloop.goesTo (hm.goesTo.alike hfed.alike)
    refine ⟨⟨⟨hgoes.unattended.defaultStream, hgoes.unattended.streams⟩, hgoes.connection⟩,
      fun hclosed => ⟨?_, hqueue⟩⟩
    -- the last event is queued whether or not the receiver is there
    have hsealed := (hrested hclosed).sealed
    rw [hafter] at hsealed
    exact hloop.sealed.trans (hempties.passages.sealed.symm.trans hsealed)

/-- Every delivery is counted. -/
theorem delivered (hperforms : m.Performs channel h a trace m') :
    m'.connection.eventsDelivered =
      m.connection.eventsDelivered + (deliveriesOf h.key trace).length := by
  rw [eventsDelivered, eventsDelivered]
  cases hperforms with
  | quietly hfed _ => exact hfed.alike.delivered
  | aloud _ hfed _ _ _ _ => rw [hfed.alike.delivered]

/-- Every failure is recorded, and nothing else. -/
theorem diagnostics (hperforms : m.Performs channel h a trace m') :
    m'.connection.dispatcher.diagnostics = m.connection.dispatcher.diagnostics ++
      (deliveriesOf h.key trace).filterMap Delivery.diagnostic? := by
  cases hperforms with
  | quietly hfed _ =>
    rw [hfed.alike.diagnostics, deliveriesOf_nil, List.filterMap_nil, List.append_nil]
  | aloud _ hfed _ _ hloop _ =>
    rw [← hfed.alike.diagnostics]
    exact hloop.diagnostics

/-- The channel is sent what is delivered and does not fail. -/
theorem follows (hperforms : m.Performs channel h a trace m')
    (hm : m.connection.Bridged channel h) : m.world.FollowsThroughout channel trace m'.world := by
  cases hperforms with
  | quietly _ hworld =>
    rw [hworld]
    exact .nil m.world channel
  | aloud _ hfed _ _ hloop _ => exact hloop.follows (hm.goesTo.alike hfed.alike)

/-- The connection delivers as itself. -/
theorem handle (hperforms : m.Performs channel h a trace m') {h' : ConnectionHandle}
    {delivery : Delivery} (hmem : .delivered h' delivery ∈ trace) : h' = h := by
  cases hperforms with
  | quietly _ _ => cases hmem
  | aloud _ _ _ _ hloop _ => exact hloop.handle hmem

end Moment.Performs

end Connection

/-! ## Scenes

What is counted and recorded by the connections of a scene, and that all of them go to the
channel. -/

namespace Scene

/-- How many events the connection of a handle has handed out. -/
def delivered (s : Scene ε ω) (k : Nat) : Nat :=
  ((s.connections k).map Connection.eventsDelivered).getD 0

/-- The failures that the connection of a handle has recorded. -/
def diagnostics (s : Scene ε ω) (k : Nat) : List Diagnostic :=
  ((s.connections k).map fun c => c.dispatcher.diagnostics).getD []

/-- Whether the events of all connections go to a channel. -/
def Bridged (channel : Nat) (s : Scene ε ω) : Prop :=
  s.All fun k c => c.Bridged channel ⟨k⟩

variable {channel : Nat} {s s' : Scene ε ω} {j k : Nat} {m : Moment ε (HostState ω)}

/-- Counting what a connection delivered, after one was changed. -/
theorem delivered_put (s : Scene ε ω) (k : Nat) (m : Moment ε (HostState ω)) (j : Nat) :
    (s.put k m).delivered j =
      if j = k then m.connection.eventsDelivered else s.delivered j := by
  rw [delivered, connections_put]
  split <;> rfl

theorem diagnostics_put (s : Scene ε ω) (k : Nat) (m : Moment ε (HostState ω)) (j : Nat) :
    (s.put k m).diagnostics j =
      if j = k then m.connection.dispatcher.diagnostics else s.diagnostics j := by
  rw [diagnostics, connections_put]
  split <;> rfl

/-- A new connection is at the channel from the beginning. -/
theorem bridged_newborn (channel k : Nat) (side : Side) (settings : ConnectionSettings)
    (scid dcid : ConnectionId) (engine : ε) (now : Instant) :
    (newborn (ω := ω) (some channel) k (.new side settings scid dcid engine now)).Bridged
      channel ⟨k⟩ :=
  ⟨⟨⟨rfl, fun _ => rfl⟩, rfl⟩, fun h => ConnectionState.noConfusion h⟩

/-- Connections that stay the same have the same records. -/
theorem records_eq (h : s'.connections k = s.connections k) :
    s'.delivered k = s.delivered k ∧ s'.diagnostics k = s.diagnostics k := by
  rw [delivered, delivered, diagnostics, diagnostics, h]
  exact ⟨rfl, rfl⟩

/-! ## Records

One thing that happens, with the scene around it, so that statements about a history can
speak of any moment in it. -/

/-- One thing that happens, with the scene before and after it. -/
structure Record (ε ω : Type) where
  /-- the scene before -/
  before : Scene ε ω
  /-- what happens at the channel meanwhile -/
  trace : List Happening
  /-- the scene afterwards -/
  after : Scene ε ω

/-- All that happens at the channel, in order. -/
def traceIn (records : List (Record ε ω)) : List Happening := records.flatMap Record.trace

/-- Whether the connection of a handle, if there is one, is not removed. -/
def Record.Keeps (r : Record ε ω) (k : Nat) : Prop :=
  (r.before.connections k).isSome = true → (r.after.connections k).isSome = true

@[simp] theorem traceIn_cons (r : Record ε ω) (records : List (Record ε ω)) :
    traceIn (r :: records) = r.trace ++ traceIn records := List.flatMap_cons

theorem traceIn_append (records records' : List (Record ε ω)) :
    traceIn (records ++ records') = traceIn records ++ traceIn records' := List.flatMap_append

/-! ## What happens

A connection acts, comes or goes, or the receiver does something. Whatever happens,
newcomers are wired to the channel like all others. -/

variable [PacketEngine ε]

/-- What may happen in a scene: a connection acts, is opened or is removed, or the
receiver does something. Nobody installs handlers. -/
inductive Happens (channel : Nat) (s : Scene ε ω) : List Happening → Scene ε ω → Prop where
  /-- a connection acts -/
  | acted {k : Nat} {c : Connection ε (HostState ω)} {a : Action ε (HostState ω)}
      {trace : List Happening} {m : Moment ε (HostState ω)} (hget : s.connections k = some c)
      (hinstalls : a.installs = false)
      (hperforms : Moment.Performs channel ⟨k⟩ ⟨c, s.world⟩ a trace m) :
      Happens channel s trace (s.put k m)
  /-- a connection is opened -/
  | opened {k : Nat} (hget : s.connections k = none) (side : Side)
      (settings : ConnectionSettings) (scid dcid : ConnectionId) (engine : ε) (now : Instant) :
      Happens channel s []
        (s.put k ⟨newborn (some channel) k (.new side settings scid dcid engine now), s.world⟩)
  /-- a connection that is over is removed -/
  | removed {k : Nat} {c : Connection ε (HostState ω)} (hget : s.connections k = some c)
      (hclosed : c.state = .closed) : Happens channel s [] (s.without k)
  /-- the receiver takes an event -/
  | received : Happens channel s [.received (s.world.receive channel).1]
      ⟨s.connections, (s.world.receive channel).2⟩
  /-- the receiver leaves -/
  | left : Happens channel s [.left] ⟨s.connections, s.world.dropReceiver channel⟩

variable {trace : List Happening}

/-- Whatever happens leaves the scene bridged: nobody installs handlers, and a newcomer is
wired to the channel. -/
theorem Happens.bridged (h : Happens channel s trace s') (hs : s.Bridged channel) :
    s'.Bridged channel := by
  cases h with
  | acted hget hinstalls hperforms =>
    exact All.put hs (hperforms.bridged hinstalls (hs _ _ hget))
  | opened _ side settings scid dcid engine now =>
    exact All.put hs (bridged_newborn channel _ side settings scid dcid engine now)
  | removed _ _ => exact All.without hs _
  | received => exact hs
  | left => exact hs

/-! ## What is accounted for

For each kind of record, what was delivered is what was counted, and what was not sent was
recorded as a failure. -/

/-- Whether everything is accounted for, by the connections and by the channel. -/
structure Record.Balances (channel : Nat) (r : Record ε ω) : Prop where
  /-- what is delivered is sent, with the handle of the connection, or is a failure
  that tells what kind of event it was, and never both -/
  either {h : ConnectionHandle} {delivery : Delivery} : .delivered h delivery ∈ r.trace →
    delivery.sent? h = some ⟨h, delivery.event⟩ ∧ delivery.diagnostic? = none ∨
    delivery.sent? h = none ∧ ∃ failure, delivery.diagnostic? = some failure ∧
      failure.kind = delivery.event.kind
  /-- it is delivered by a connection that is there -/
  present {h : ConnectionHandle} {delivery : Delivery} : .delivered h delivery ∈ r.trace →
    (r.after.connections h.key).isSome = true
  /-- the connection counts it -/
  counted {k : Nat} : r.Keeps k →
    r.after.delivered k = r.before.delivered k + (deliveriesOf k r.trace).length
  /-- the connection records just the failures, each once -/
  recorded {k : Nat} : r.Keeps k → r.after.diagnostics k =
    r.before.diagnostics k ++ (deliveriesOf k r.trace).filterMap Delivery.diagnostic?
  /-- the channel is sent everything else, each event once, in this order -/
  account : r.before.world.FollowsThroughout channel r.trace r.after.world
  /-- a connection that is removed delivers nothing to anybody, whatever is done with
  it -/
  mute {k : Nat} {c : Connection ε (HostState ω)} : r.before.connections k = some c →
    r.after.connections k = none → c.Mute

/-- While nothing is delivered, it is enough that nothing is counted or recorded. -/
theorem Record.balances_of_idle {r : Record ε ω}
    (hidle : ∀ h delivery, ¬ .delivered h delivery ∈ r.trace)
    (hrecords : ∀ k, r.Keeps k → r.after.delivered k = r.before.delivered k ∧
      r.after.diagnostics k = r.before.diagnostics k)
    (haccount : r.before.world.FollowsThroughout channel r.trace r.after.world)
    (hremoved : ∀ k c, r.before.connections k = some c → r.after.connections k = none →
      c.Hushed) : r.Balances channel := by
  have hnil (k : Nat) : deliveriesOf k r.trace = [] :=
    deliveriesOf_eq_nil fun h delivery hmem => absurd hmem (hidle h delivery)
  refine ⟨fun _ => Delivery.sent_or_failed _ _, fun hmem => absurd hmem (hidle _ _),
    fun {k} hkeeps => ?_, fun {k} hkeeps => ?_, haccount,
    fun {k c} hthere hgone => (hremoved k c hthere hgone).mute⟩
  · rw [hnil, (hrecords k hkeeps).1, List.length_nil, Nat.add_zero]
  · rw [hnil, (hrecords k hkeeps).2, List.filterMap_nil, List.append_nil]

/-- What the receiver does changes no connection. -/
theorem Record.balances_of_byReceiver {x : Happening} (hx : x.byReceiver = true)
    {w' : HostState ω} (hfollows : s.world.FollowsThroughout channel [x] w') :
    (⟨s, [x], ⟨s.connections, w'⟩⟩ : Record ε ω).Balances channel := by
  refine Record.balances_of_idle (fun h delivery hmem => ?_) (fun j _ => records_eq rfl) hfollows
    fun j c hthere hgone => ?_
  · obtain rfl := List.mem_singleton.1 hmem
    cases hx
  · cases hthere.symm.trans hgone

/-- Whatever happens is accounted for. -/
theorem Happens.balances (h : s.Happens channel trace s') (hs : s.Bridged channel) :
    (⟨s, trace, s'⟩ : Record ε ω).Balances channel := by
  -- only an action on a connection delivers anything; the others leave the counters of
  -- every connection where they were
  cases h with
  | @acted k c a trace m hget hinstalls hperforms =>
    have hbefore : s.delivered k = c.eventsDelivered ∧
        s.diagnostics k = c.dispatcher.diagnostics := by
      rw [delivered, diagnostics, hget]
      exact ⟨rfl, rfl⟩
    have hothers {j : Nat} (hj : j ≠ k) : deliveriesOf j trace = [] :=
      deliveriesOf_eq_nil fun h delivery hmem hkey => by
        rw [hperforms.handle hmem] at hkey
        exact hj hkey.symm
    refine ⟨fun _ => Delivery.sent_or_failed _ _, fun hmem => ?_, fun {j} _ => ?_,
      fun {j} _ => ?_, hperforms.follows (hs k c hget),
      fun hthere hgone => absurd hgone (connections_put_ne_none hthere k m)⟩
    · rw [hperforms.handle hmem, connections_put, if_pos rfl]
      rfl
    · rw [delivered_put]
      split
      · next hj => rw [hj, hbefore.1, hperforms.delivered]
      · next hj => rw [hothers hj, List.length_nil, Nat.add_zero]
    · rw [diagnostics_put]
      split
      · next hj => rw [hj, hbefore.2, hperforms.diagnostics]
      · next hj => rw [hothers hj, List.filterMap_nil, List.append_nil]
  | @opened k hget side settings scid dcid engine now =>
    refine Record.balances_of_idle (fun _ _ => List.not_mem_nil) (fun j _ => ?_) (.nil _ channel)
      fun j c hthere hgone => absurd hgone (connections_put_ne_none hthere k _)
    rw [delivered_put, diagnostics_put]
    split
    · next hj =>
      rw [hj, delivered, diagnostics, hget]
      exact ⟨rfl, rfl⟩
    · exact ⟨rfl, rfl⟩
  -- a connection is removed once it is closed, and by then everything queued was delivered
  | @removed k c hget hclosed =>
    refine Record.balances_of_idle (fun _ _ => List.not_mem_nil) (fun j hkeeps => ?_)
      (.nil _ channel) fun j c' hthere hgone => ?_
    · refine records_eq ((connections_without s k j).trans (if_neg fun hj => ?_))
      have hstill := hkeeps (by rw [hj, hget]; rfl)
      rw [connections_without, if_pos hj] at hstill
      cases hstill
    · rw [connections_without] at hgone
      split at hgone
      · next hj =>
        obtain rfl := Option.some.inj ((hj ▸ hthere).symm.trans hget)
        exact (hs k c' hget).rested hclosed
      · rw [hthere] at hgone
        cases hgone
  | received => exact Record.balances_of_byReceiver rfl (s.world.throughout_receive channel)
  | left => exact Record.balances_of_byReceiver rfl (s.world.throughout_dropReceiver channel)

/-! ## Whole runs

The accounts of records add up along a history. -/

/-- Records that follow each other. -/
inductive History (channel : Nat) : Scene ε ω → List (Record ε ω) → Scene ε ω → Prop where
  /-- nothing happens -/
  | nil (s : Scene ε ω) : History channel s [] s
  /-- one thing happens, then the others -/
  | cons {r : Record ε ω} {records : List (Record ε ω)} {s : Scene ε ω}
      (hhappens : r.before.Happens channel r.trace r.after)
      (hrest : History channel r.after records s) : History channel r.before (r :: records) s

variable {s'' : Scene ε ω} {records records' : List (Record ε ω)}

namespace History

theorem single (h : s.Happens channel trace s') : History channel s [⟨s, trace, s'⟩] s' :=
  .cons (r := ⟨s, trace, s'⟩) h (.nil s')

theorem append (h : History channel s records s') (h' : History channel s' records' s'') :
    History channel s (records ++ records') s'' := by
  induction h with
  | nil => exact h'
  | cons hhappens _ ih => exact .cons hhappens (ih h')

/-- Along a run every record balances. -/
theorem balances (h : History channel s records s') (hs : s.Bridged channel) :
    s'.Bridged channel ∧ ∀ r ∈ records, r.Balances channel := by
  induction h with
  | nil => exact ⟨hs, List.forall_mem_nil _⟩
  | cons hhappens _ ih =>
    obtain ⟨hafter, hrest⟩ := ih (hhappens.bridged hs)
    exact ⟨hafter, List.forall_mem_cons.2 ⟨hhappens.balances hs, hrest⟩⟩

/-- A connection that is not removed has counted and recorded whatever it delivered
in the run. -/
theorem kept (h : History channel s records s') (hbalances : ∀ r ∈ records, r.Balances channel)
    (hkeeps : ∀ r ∈ records, r.Keeps k) :
    s'.delivered k = s.delivered k + (deliveriesOf k (traceIn records)).length ∧
      s'.diagnostics k = s.diagnostics k ++
        (deliveriesOf k (traceIn records)).filterMap Delivery.diagnostic? := by
  induction h with
  | nil => exact ⟨rfl, (List.append_nil _).symm⟩
  | @cons r records _ _ _ ih =>
    rw [List.forall_mem_cons] at hbalances hkeeps
    obtain ⟨hdelivered, hdiagnostics⟩ := ih hbalances.2 hkeeps.2
    rw [hdelivered, hdiagnostics, hbalances.1.counted hkeeps.1, hbalances.1.recorded hkeeps.1,
      traceIn_cons, deliveriesOf_append, List.length_append, List.filterMap_append, Nat.add_assoc,
      List.append_assoc]
    exact ⟨rfl, rfl⟩

/-- The records of a run make one account of the channel. -/
theorem account (h : History channel s records s')
    (hbalances : ∀ r ∈ records, r.Balances channel) :
    s.world.FollowsThroughout channel (traceIn records) s'.world := by
  induction h with
  | nil s => exact .nil s.world channel
  | cons _ _ ih =>
    rw [List.forall_mem_cons] at hbalances
    rw [traceIn_cons]
    exact hbalances.1.account.trans (ih hbalances.2)

end History

/-- Whatever the connections do, there is a history of it in which the receiver does
nothing. -/
theorem Course.exists_history (h : Course (some channel) s s') :
    ∃ records, History channel s records s' ∧
      (traceIn records).filter (·.byReceiver) = [] := by
  induction h with
  | nil s => exact ⟨[], .nil s, rfl⟩
  | @acted s _ k c a hget hinstalls _ ih =>
    obtain ⟨log, hperforms⟩ :=
      Connection.exists_performs channel ⟨k⟩ ⟨c, s.world⟩ (a := a) hinstalls
    obtain ⟨records, hhistory, hnone⟩ := ih
    refine ⟨_, .append (.single (.acted hget hinstalls hperforms)) hhistory, ?_⟩
    rw [List.singleton_append, traceIn_cons, List.filter_append, hnone, List.append_nil]
    simp [Happening.byReceiver]
  | opened hget side settings scid dcid engine now _ ih =>
    obtain ⟨records, hhistory, hnone⟩ := ih
    exact ⟨_, .append (.single (.opened hget side settings scid dcid engine now)) hhistory, hnone⟩
  | removed hget hclosed _ ih =>
    obtain ⟨records, hhistory, hnone⟩ := ih
    exact ⟨_, .append (.single (.removed hget hclosed)) hhistory, hnone⟩

end Scene

end QuicHost
