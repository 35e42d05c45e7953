import QuicHost.Proofs.Endpoint.Sending
import QuicHost.Proofs.Endpoint.Settling

/-!
# Who acts during a call

As far as events go, a call on an endpoint is a course of small steps: one
connection after the other acts, connections are opened, and connections that are
over are removed. What the calls do with routes and identifiers does not matter
for this, so a scene keeps the connections and the host's state only
(`Endpoint.scene`), and every call is a course of a scene (`Runs`), except for the
one that makes a channel.
-/

namespace QuicHost

open Connection (Action Moment)

variable {φ η ε ω : Type}

/-- Connections, by handle, and the host's state. -/
structure Scene (ε ω : Type) where
  /-- the connections -/
  connections : Nat → Option (Connection ε (HostState ω))
  /-- the host's state -/
  world : HostState ω

namespace Scene

/-- With a connection in a place. -/
def put (s : Scene ε ω) (k : Nat) (m : Moment ε (HostState ω)) : Scene ε ω :=
  ⟨fun j => if j = k then some m.connection else s.connections j, m.world⟩

/-- What a connection is before it does anything: its events go to the channel, if
there is one. -/
def newborn (channel : Option Nat) (k : Nat) (c : Connection ε (HostState ω)) :
    Connection ε (HostState ω) :=
  match channel with
  | none => c
  | some channel => c.modifyDispatcher (·.setConnectionHandler (channelHandler channel ⟨k⟩))

/-- Without the connection of a place. -/
def without (s : Scene ε ω) (k : Nat) : Scene ε ω :=
  ⟨fun j => if j = k then none else s.connections j, s.world⟩

/-- Whether something holds of all connections, each with its handle. -/
def All (P : Nat → Connection ε (HostState ω) → Prop) (s : Scene ε ω) : Prop :=
  ∀ k c, s.connections k = some c → P k c

section

variable {s : Scene ε ω} {k : Nat} {m : Moment ε (HostState ω)}
  {P : Nat → Connection ε (HostState ω) → Prop}

theorem connections_put (s : Scene ε ω) (k : Nat) (m : Moment ε (HostState ω)) (j : Nat) :
    (s.put k m).connections j = if j = k then some m.connection else s.connections j := rfl

theorem connections_without (s : Scene ε ω) (k j : Nat) :
    (s.without k).connections j = if j = k then none else s.connections j := rfl

theorem connections_put_ne_none {c : Connection ε (HostState ω)} {j : Nat}
    (hthere : s.connections j = some c) (k : Nat) (m : Moment ε (HostState ω)) :
    ¬ (s.put k m).connections j = none := by
  rw [connections_put]
  split <;> simp [hthere]

/-- What holds of all connections and of the one that is put holds of all. -/
theorem All.put (h : s.All P) (hm : P k m.connection) : (s.put k m).All P := by
  intro j c hc
  rw [connections_put] at hc
  split at hc
  · next hj =>
    obtain rfl := Option.some.inj hc
    rw [hj]
    exact hm
  · exact h j c hc

theorem All.without (h : s.All P) (k : Nat) : (s.without k).All P := by
  intro j c hc
  rw [connections_without] at hc
  split at hc
  · cases hc
  · exact h j c hc

end

variable [PacketEngine ε]

/-- Connections act, connections are opened, and connections that are over are
removed. Nobody installs handlers. -/
inductive Course (channel : Option Nat) : Scene ε ω → Scene ε ω → Prop where
  /-- nothing happens -/
  | nil (s : Scene ε ω) : Course channel s s
  /-- a connection acts -/
  | acted {s s' : Scene ε ω} {k : Nat} {c : Connection ε (HostState ω)}
      {a : Action ε (HostState ω)} (hget : s.connections k = some c)
      (hinstalls : a.installs = false)
      (hrest : Course channel (s.put k (Moment.perform ⟨c, s.world⟩ a).2) s') :
      Course channel s s'
  /-- a connection is opened -/
  | opened {s s' : Scene ε ω} {k : Nat} (hget : s.connections k = none) (side : Side)
      (settings : ConnectionSettings) (scid dcid : ConnectionId) (engine : ε) (now : Instant)
      (hrest : Course channel (s.put k
        ⟨newborn channel k (.new side settings scid dcid engine now), s.world⟩) s') :
      Course channel s s'
  /-- a connection is removed -/
  | removed {s s' : Scene ε ω} {k : Nat} {c : Connection ε (HostState ω)}
      (hget : s.connections k = some c) (hclosed : c.state = .closed)
      (hrest : Course channel (s.without k) s') : Course channel s s'

/-- One thing after the other. -/
theorem Course.trans {channel : Option Nat} {s s' s'' : Scene ε ω} (h : Course channel s s')
    (h' : Course channel s' s'') : Course channel s s'' := by
  induction h with
  | nil => exact h'
  | acted hget hinstalls _ ih => exact .acted hget hinstalls (ih h')
  | opened hget side settings scid dcid engine now _ ih =>
    exact .opened hget side settings scid dcid engine now (ih h')
  | removed hget hclosed _ ih => exact .removed hget hclosed (ih h')

end Scene

namespace Endpoint

variable {e e' e'' : Endpoint φ η ε ω} {w w' w'' : HostState ω} {k : Nat}

/-- The connections of an endpoint, with the host's state. -/
def scene (e : Endpoint φ η ε ω) (w : HostState ω) : Scene ε ω :=
  ⟨fun k => (e.connections.get? k).map Entry.connection, w⟩

theorem scene_eq (h : ∀ k, (e'.connections.get? k).map Entry.connection =
    (e.connections.get? k).map Entry.connection) (w : HostState ω) : e'.scene w = e.scene w := by
  rw [scene, scene, funext h]

/-- An entry that changes changes one connection of the scene. -/
theorem scene_withEntry {entry entry' : Entry ε ω} (hget : e.connections.get? k = some entry)
    (w w' : HostState ω) :
    (e.withEntry k entry').scene w' = (e.scene w).put k ⟨entry'.connection, w'⟩ := by
  rw [scene, Scene.put, scene]
  congr 1
  funext j
  rw [withEntry, Arena.get?_set, hget]
  by_cases hj : j = k
  · simp [hj]
  · simp [hj]

/-- A connection that is added is born into the scene. -/
theorem scene_add (e : Endpoint φ η ε ω) (c : Connection ε (HostState ω)) (peer : String)
    (cids : List ConnectionId) (w : HostState ω) :
    (e.add c peer cids).2.scene w = (e.scene w).put e.connections.next
      ⟨Scene.newborn e.channel e.connections.next c, w⟩ := by
  rw [scene, Scene.put, scene]
  congr 1
  funext j
  rw [add, Arena.get?_insert]
  split <;> rfl

variable [PacketEngine ε]

/-- Nothing happens but that connections act, are opened and are removed. The
channel stays the same. -/
def Runs (e : Endpoint φ η ε ω) (w : HostState ω) (e' : Endpoint φ η ε ω) (w' : HostState ω) :
    Prop :=
  e'.channel = e.channel ∧ Scene.Course e.channel (e.scene w) (e'.scene w')

theorem Runs.of_same (hchannel : e'.channel = e.channel)
    (hsame : ∀ k, (e'.connections.get? k).map Entry.connection =
      (e.connections.get? k).map Entry.connection) : e.Runs w e' w := by
  refine ⟨hchannel, ?_⟩
  rw [scene_eq hsame]
  exact .nil _

/-- An entry whose connection stays the same does not matter. -/
theorem Runs.of_set {entry entry' : Entry ε ω} (hget : e.connections.get? k = some entry)
    (hchannel : e'.channel = e.channel) (hset : e'.connections = e.connections.set k entry')
    (hsame : entry'.connection = entry.connection) : e.Runs w e' w := by
  refine .of_same hchannel fun j => ?_
  rw [hset, Arena.get?_set]
  split
  · next hj => rw [hj.1, hget, Option.map_some, Option.map_some, hsame]
  · rfl

theorem Runs.refl (e : Endpoint φ η ε ω) (w : HostState ω) : e.Runs w e w :=
  .of_same rfl fun _ => rfl

theorem Runs.trans (h : e.Runs w e' w') (h' : e'.Runs w' e'' w'') : e.Runs w e'' w'' := by
  obtain ⟨hchannel, hcourse⟩ := h
  obtain ⟨hchannel', hcourse'⟩ := h'
  rw [hchannel] at hcourse'
  exact ⟨hchannel'.trans hchannel, hcourse.trans hcourse'⟩

/-! ## Connections that act

Entries are changed by actions of their connections. Whatever comes between the connection
and the host shows in the scene as that action. -/

/-- Whether a change of a connection is an action of it, or none. -/
def Acting {α : Type} (f : Entry ε ω → StateM (HostState ω) (α × Entry ε ω)) : Prop :=
  ∀ entry w, (f entry w).1.2.connection = entry.connection ∧ (f entry w).2 = w ∨
    ∃ a : Action ε (HostState ω), a.installs = false ∧
      (Moment.perform ⟨entry.connection, w⟩ a).2 = ⟨(f entry w).1.2.connection, (f entry w).2⟩

/-- A connection that performs an action runs. -/
theorem runs_withEntry {entry entry' : Entry ε ω} (hget : e.connections.get? k = some entry)
    {a : Action ε (HostState ω)} (hinstalls : a.installs = false)
    (hperform : (Moment.perform ⟨entry.connection, w⟩ a).2 = ⟨entry'.connection, w'⟩) :
    e.Runs w (e.withEntry k entry') w' := by
  have hthere : (e.scene w).connections k = some entry.connection :=
    congrArg (Option.map Entry.connection) hget
  refine ⟨rfl, .acted hthere hinstalls ?_⟩
  rw [scene_withEntry hget w, ← hperform]
  exact .nil _

/-- An update that acts lets one connection run, if there is one. -/
theorem runs_update {α : Type} {f : Entry ε ω → StateM (HostState ω) (α × Entry ε ω)}
    (hf : Acting f) (e : Endpoint φ η ε ω) (k : Nat) (w : HostState ω) :
    e.Runs w (e.update k f w).1.2 (e.update k f w).2 := by
  cases hget : e.connections.get? k with
  | none =>
    rw [update_of_vacant hget]
    exact .refl e w
  | some entry =>
    rw [update_of_get? hget]
    rcases hf entry w with ⟨hsame, hworld⟩ | ⟨a, hinstalls, hperform⟩
    · simp only [hworld]
      exact .of_set hget rfl rfl hsame
    · exact runs_withEntry hget hinstalls hperform

/-- Updates that act let several connections run, by induction on their handles. -/
theorem runs_updateEach {α : Type} {f : Nat → Entry ε ω → StateM (HostState ω) (α × Entry ε ω)}
    (hf : ∀ k, Acting (f k)) (e : Endpoint φ η ε ω) (ks : List Nat) (w : HostState ω) :
    e.Runs w (updateEach f e ks w).1.2 (updateEach f e ks w).2 := by
  induction ks generalizing e w with
  | nil => exact .refl e w
  | cons k rest ih => exact (runs_update (hf k) e k w).trans (ih _ _)

theorem runs_updateAll {α : Type} {f : Nat → Entry ε ω → StateM (HostState ω) (α × Entry ε ω)}
    (hf : ∀ k, Acting (f k)) (e : Endpoint φ η ε ω) (w : HostState ω) :
    e.Runs w (e.updateAll f w).1.2 (e.updateAll f w).2 :=
  runs_updateEach hf e e.connections.keys w

/-! ## Routes

What is done to routes and lists does not show. -/

omit [PacketEngine ε] in
theorem channel_retireRoutes (e : Endpoint φ η ε ω) (k : Nat) :
    (e.retireRoutes k).channel = e.channel := by
  rw [retireRoutes]
  split <;> rfl

theorem runs_retireRoutes (e : Endpoint φ η ε ω) (k : Nat) (w : HostState ω) :
    e.Runs w (e.retireRoutes k) w :=
  .of_same (channel_retireRoutes e k) (connection_retireRoutes e k)

/-- Identifiers do not show. -/
theorem runs_associate {handle : ConnectionHandle} {cid : ConnectionId}
    (heq : e.associate handle cid = .ok e') (w : HostState ω) : e.Runs w e' w := by
  rw [associate, entry?] at heq
  cases hget : e.connections.get? handle.key with
  | none =>
    rw [hget] at heq
    cases heq
  | some entry =>
    rw [hget] at heq
    obtain rfl := Except.ok.inj heq
    exact .of_set hget rfl rfl rfl

/-- Nor does their removal. -/
theorem runs_disassociate (e : Endpoint φ η ε ω) (cid : ConnectionId) (w : HostState ω) :
    e.Runs w (e.disassociate cid).2 w := by
  rw [disassociate]
  cases hroute : e.routes.get? cid with
  | none => exact .refl e w
  | some k =>
    cases hget : e.connections.get? k with
    | none =>
      simp only [hget]
      exact .of_same rfl fun _ => rfl
    | some entry =>
      simp only [hget]
      exact .of_set hget rfl rfl rfl

/-! ## Datagrams and timers

A datagram that is delivered, and the timers, are actions of connections. -/

/-- A datagram that is delivered lets its connection run. -/
theorem runs_deliver (e : Endpoint φ η ε ω) (k : Nat) (datagram : Bytes) (now : Instant)
    (w : HostState ω) :
    e.Runs w (e.deliver k datagram now w).1.2 (e.deliver k datagram now w).2 := by
  cases hget : e.connections.get? k with
  | none =>
    rw [deliver_of_vacant hget]
    exact .refl e w
  | some entry =>
    rcases hingest : entry.connection.ingest datagram now w with ⟨⟨r, c⟩, w'⟩
    have hacted : e.Runs w (e.withEntry k { entry with connection := c }) w' := by
      refine runs_withEntry hget (a := .ingest datagram now) rfl ?_
      rw [Moment.perform, hingest]
    rw [deliver_of_get? hget hingest]
    dsimp only
    split
    · exact hacted.trans (runs_retireRoutes _ k w')
    · exact hacted

omit [PacketEngine ε] in
theorem channel_foldl_retireRoutes (e : Endpoint φ η ε ω) (ks : List Nat) :
    (ks.foldl retireRoutes e).channel = e.channel := by
  induction ks generalizing e with
  | nil => rfl
  | cons k rest ih => exact (ih _).trans (channel_retireRoutes e k)

/-- Timers are an action of their connection. -/
theorem acting_runTimers (now : Instant) :
    Acting (ω := ω) fun entry : Entry ε ω => runTimers entry now := by
  intro entry w
  simp only [runTimers]
  split
  · exact .inr ⟨.onTimeout now, rfl, rfl⟩
  · exact .inl ⟨rfl, rfl⟩

theorem runs_onTimeout (e : Endpoint φ η ε ω) (now : Instant) (w : HostState ω) :
    e.Runs w (e.onTimeout now w).1 (e.onTimeout now w).2 := by
  have hran := runs_updateAll (fun _ => acting_runTimers now) e w
  exact hran.trans (.of_same (channel_foldl_retireRoutes _ _)
    (connection_foldl_retireRoutes _ _))

/-! ## Opening connections

A connection that is opened is born into the scene, wired to the channel if there is one. -/

section

variable [EngineFactory φ ε]

/-- A connection that is created is born. -/
theorem runs_createConnection (e : Endpoint φ η ε ω) (side : Side) (scid dcid : ConnectionId)
    (others : List ConnectionId) (peer : String) (now : Instant) (w : HostState ω) :
    e.Runs w (e.createConnection side scid dcid others peer now).2 w := by
  rw [createConnection]
  rcases EngineFactory.newEngine e.factory side scid dcid e.settings.connection.localParameters
    with ⟨error | engine, factory⟩
  · exact .of_same rfl fun _ => rfl
  · refine ⟨rfl, ?_⟩
    dsimp only
    rw [scene_add]
    refine .opened ?_ side e.settings.connection scid dcid engine now (.nil _)
    exact congrArg (Option.map _) (Arena.get?_next e.connections)

variable [EntropySource η]

omit [EngineFactory φ ε] in
theorem runs_chooseCid (e : Endpoint φ η ε ω) (w : HostState ω) :
    e.Runs w e.chooseCid.2 w :=
  .of_same rfl fun _ => rfl

/-- Connecting lets a connection be born, or does not show. -/
theorem runs_connect (e : Endpoint φ η ε ω) (peer : String) (now : Instant) (w : HostState ω) :
    e.Runs w (e.connect peer now).2 w := by
  have hfirst := runs_chooseCid e w
  rw [connect]
  cases e.checkCapacity with
  | error error => exact .refl e w
  | ok _ =>
    rcases hscid : e.chooseCid with ⟨error | scid, e₁⟩ <;> rw [hscid] at hfirst
    · exact hfirst
    · have hsecond := hfirst.trans (runs_chooseCid e₁ w)
      rcases hdcid : e₁.chooseCid with ⟨error | dcid, e₂⟩ <;> rw [hdcid] at hsecond
      · simp only [hdcid]
        exact hsecond
      · simp only [hdcid]
        exact hsecond.trans (runs_createConnection e₂ .client scid dcid [] peer now w)

/-- Accepting lets a connection be born, or does not show. -/
theorem runs_acceptConnection (e : Endpoint φ η ε ω) (header : DatagramHeader) (peer : String)
    (now : Instant) (w : HostState ω) : e.Runs w (e.acceptConnection header peer now).2 w := by
  have hfirst := runs_chooseCid e w
  rw [acceptConnection]
  cases e.checkCapacity with
  | error error => exact .refl e w
  | ok _ =>
    rcases hscid : e.chooseCid with ⟨error | scid, e₁⟩ <;> rw [hscid] at hfirst
    · exact hfirst
    · exact hfirst.trans (runs_createConnection e₁ .server scid (header.scid.getD .empty)
        [header.dcid] peer now w)

/-- A connection is born and takes the datagram in. -/
theorem runs_acceptDatagram (e : Endpoint φ η ε ω) (header : DatagramHeader) (datagram : Bytes)
    (peer : String) (now : Instant) (w : HostState ω) :
    e.Runs w (e.acceptDatagram header datagram peer now w).1.2
      (e.acceptDatagram header datagram peer now w).2 := by
  have hopened := runs_acceptConnection e header peer now w
  rw [acceptDatagram]
  rcases haccept : e.acceptConnection header peer now with ⟨error | h, e'⟩ <;>
    rw [haccept] at hopened
  · cases error <;> exact hopened
  · exact hopened.trans (runs_deliver e' h.key datagram now w)

/-- Whatever becomes of a datagram is a course of the scene. The cases are those in which it
is taken. -/
theorem runs_handleDatagram (e : Endpoint φ η ε ω) (datagram : Bytes) (peer : String)
    (now : Instant) (w : HostState ω) :
    e.Runs w (e.handleDatagram datagram peer now w).1.2
      (e.handleDatagram datagram peer now w).2 := by
  rw [handleDatagram]
  cases EngineFactory.decodeHeader e.factory datagram e.generator.length with
  | none => exact .refl e w
  | some header =>
    dsimp only
    cases e.routes.get? header.dcid with
    | some k => exact runs_deliver e k datagram now w
    | none =>
      dsimp only
      cases header.version with
      | none =>
        dsimp only
        rw [answerUnknown]
        split
        · exact .refl e w
        · exact .of_same rfl fun _ => rfl
      | some version =>
        dsimp only
        split
        · split <;> exact .refl e w
        · split
          · exact runs_acceptDatagram e header datagram peer now w
          · exact .refl e w

end

/-! ## Removals

Only connections that are over are removed. -/

/-- A connection that is removed was over. -/
theorem runs_vacate {w : HostState ω} (hclosed : ∀ c, (e.scene w).connections k = some c →
    c.state = .closed) : e.Runs w (e.vacate k) w := by
  have hscene : (e.vacate k).scene w = (e.scene w).without k := by
    rw [scene, Scene.without, scene]
    congr 1
    funext j
    rw [vacate, Arena.get?_erase]
    split <;> rfl
  cases hget : (e.scene w).connections k with
  | none =>
    refine .of_same rfl fun j => ?_
    rw [vacate, Arena.get?_erase]
    split
    · next hj =>
      rw [hj]
      exact hget.symm
    · rfl
  | some c =>
    refine ⟨rfl, .removed hget (hclosed c hget) ?_⟩
    rw [hscene]
    exact .nil _

/-- So were several, by induction on their handles: what was removed first is no longer
there. -/
theorem runs_removeAll (e : Endpoint φ η ε ω) {ks : List Nat} {w : HostState ω}
    (hclosed : ∀ k ∈ ks, ∀ c, (e.scene w).connections k = some c → c.state = .closed) :
    e.Runs w (e.removeAll ks).2 w := by
  induction ks generalizing e with
  | nil => exact .refl e w
  | cons k rest ih =>
    rw [List.forall_mem_cons] at hclosed
    have hretired : (e.retireRoutes k).scene w = e.scene w :=
      scene_eq (connection_retireRoutes e k) w
    have hvacated : (e.retireRoutes k).Runs w ((e.retireRoutes k).vacate k) w := by
      refine runs_vacate ?_
      rw [hretired]
      exact hclosed.1
    rw [removeAll_cons]
    refine (runs_retireRoutes e k w).trans (hvacated.trans (ih _ fun j hj c hc => ?_))
    refine hclosed.2 j hj c ?_
    rw [← hretired]
    change ((e.retireRoutes k).connections.erase k |>.get? j).map Entry.connection = some c at hc
    rw [Arena.get?_erase] at hc
    split at hc
    · cases hc
    · exact hc

omit [PacketEngine ε] in
/-- The handles given up are those of connections that are over. -/
theorem closed_of_mem_closedKeys (hmem : k ∈ e.closedKeys) {c : Connection ε (HostState ω)}
    (hget : (e.scene w).connections k = some c) : c.state = .closed := by
  have hover := mem_closedKeys_iff.1 hmem
  have hthere : (e.connections.get? k).map Entry.connection = some c := hget
  rw [isOver_eq, hthere, Option.any_some, Connection.isClosed] at hover
  exact eq_of_beq hover

/-! ## Calls

Every call but the one that makes a channel is a course of the scene. -/

/-- Whether a call makes no channel, and does to connections only what their host
may do without installing handlers. -/
def Call.Plain : Call φ ε ω → Prop
  | .openChannel => False
  | .withConnection _ f => ∀ c w, ∃ a : Action ε (HostState ω), a.installs = false ∧
    (Moment.perform ⟨c, w⟩ a).2 = ⟨(f c w).1.2, (f c w).2⟩
  | _ => True

variable [EngineFactory φ ε] [EntropySource η]

/-- Every call is a course of small steps. -/
theorem runs_perform (e : Endpoint φ η ε ω) (w : HostState ω) {call : Call φ ε ω}
    (hplain : call.Plain) : e.Runs w (e.perform w call).1 (e.perform w call).2 := by
  cases call with
  | connect peer now => exact runs_connect e peer now w
  | handleDatagram datagram peer now => exact runs_handleDatagram e datagram peer now w
  | associate h cid =>
    rw [perform]
    cases heq : e.associate h cid with
    | ok e' => exact runs_associate heq w
    | error _ => exact .refl e w
  | disassociate cid => exact runs_disassociate e cid w
  | pollTransmit now =>
    exact runs_updateAll (f := fun k (entry : Entry ε ω) w =>
      let r := entry.connection.produceDatagrams now w
      ((r.1.1.map (Transmit.mk ⟨k⟩ entry.peer), { entry with connection := r.1.2 }), r.2))
      (fun _ _ _ => .inr ⟨.produceDatagrams now, rfl, rfl⟩) e w
  | onTimeout now => exact runs_onTimeout e now w
  | closeAll errorCode reason now =>
    exact runs_updateAll (f := fun _ (entry : Entry ε ω) w =>
      let r := entry.connection.close errorCode reason now w
      (((), { entry with connection := r.1.2 }), r.2))
      (fun _ _ _ => .inr ⟨.close errorCode reason now, rfl, rfl⟩) e w
  | reap => exact runs_removeAll e fun k hk c hc => closed_of_mem_closedKeys hk hc
  | openChannel => exact hplain.elim
  | withConnection h f =>
    exact runs_update (f := fun (entry : Entry ε ω) w =>
      let r := f entry.connection w
      ((r.1.1, { entry with connection := r.1.2 }), r.2))
      (fun entry w => .inr (hplain entry.connection w)) e h.key w
  | modifyFactory f => exact .of_same rfl fun _ => rfl

end Endpoint

end QuicHost
