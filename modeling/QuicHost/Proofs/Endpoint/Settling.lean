import QuicHost.Proofs.Connection.Waiting
import QuicHost.Proofs.Endpoint.Effects
import QuicHost.Proofs.Endpoint.Owners

/-!
# Timers that settle

A host that sleeps until the next deadline and then runs the timers does so for
nothing if a deadline is left that has come, and would do so again and again. What
one connection does about it, all connections of an endpoint do: whatever each of
them keeps, they all keep (`All`), and every one of them is treated once.

What every connection keeps under its own actions is carried through the calls of an
endpoint by `All.perform`, once for any such property: newcomers have it (`Inborn`),
owners keep it, and removing connections removes no more than their share. The property
needed here is `Connection.Regular`, under which a connection whose timers have run
waits (`waits_onTimeout`).
-/

namespace QuicHost.Endpoint

variable {φ η ε ω : Type} {e e' : Endpoint φ η ε ω} {k : Nat}
  {P : Connection ε (HostState ω) → Prop}

/-! ## Changing each connection once

Running over all handles changes every entry once. The host's state goes through all of
them, so that an entry meets some state, and which does not matter here. -/

/-- Looking up an entry after one was updated. -/
theorem get?_update {α : Type} (e : Endpoint φ η ε ω) (k : Nat)
    (f : Entry ε ω → StateM (HostState ω) (α × Entry ε ω)) (w : HostState ω) (j : Nat) :
    (e.update k f w).1.2.connections.get? j =
      if j = k then (e.connections.get? k).map fun entry => (f entry w).1.2
      else e.connections.get? j := by
  cases hget : e.connections.get? k with
  | none =>
    rw [update_of_vacant hget]
    split
    · next hj => rw [hj, hget]; rfl
    · rfl
  | some entry =>
    rw [update_of_get? hget]
    simp only [Arena.get?_set, hget, Option.isSome_some, and_true]
    rfl

/-- An entry that is not among those updated is as it was. -/
theorem get?_updateEach_of_not_mem {α : Type}
    (f : Nat → Entry ε ω → StateM (HostState ω) (α × Entry ε ω)) (e : Endpoint φ η ε ω)
    {ks : List Nat} (hk : k ∉ ks) (w : HostState ω) :
    (updateEach f e ks w).1.2.connections.get? k = e.connections.get? k := by
  induction ks generalizing e w with
  | nil => rfl
  | cons j rest ih =>
    rw [List.mem_cons, not_or] at hk
    have hrest := ih (e.update j (f j) w).1.2 hk.2 (e.update j (f j) w).2
    rw [get?_update, if_neg hk.1] at hrest
    exact hrest

/-- Every connection is changed once, whatever the application's state is by then. -/
theorem exists_get?_updateEach {α : Type}
    (f : Nat → Entry ε ω → StateM (HostState ω) (α × Entry ε ω)) (e : Endpoint φ η ε ω)
    {ks : List Nat} (hnodup : ks.Nodup) (hk : k ∈ ks) (w : HostState ω) :
    ∃ w', (updateEach f e ks w).1.2.connections.get? k =
      (e.connections.get? k).map fun entry => (f k entry w').1.2 := by
  induction ks generalizing e w with
  | nil => cases hk
  | cons j rest ih =>
    rw [List.nodup_cons] at hnodup
    have hfirst := get?_update e j (f j) w
    by_cases hj : k = j
    · subst hj
      have hrest := get?_updateEach_of_not_mem f (e.update k (f k) w).1.2 hnodup.1
        (e.update k (f k) w).2
      rw [hfirst, if_pos rfl] at hrest
      exact ⟨w, hrest⟩
    · obtain ⟨w', hrest⟩ := ih (e.update j (f j) w).1.2 hnodup.2
        ((List.mem_cons.1 hk).resolve_left hj) (e.update j (f j) w).2
      rw [hfirst, if_neg hj] at hrest
      exact ⟨w', hrest⟩

/-- Every entry is updated once, with some state of the host. -/
theorem exists_get?_updateAll {α : Type}
    (f : Nat → Entry ε ω → StateM (HostState ω) (α × Entry ε ω)) (e : Endpoint φ η ε ω)
    (w : HostState ω) (k : Nat) :
    ∃ w', (e.updateAll f w).1.2.connections.get? k =
      (e.connections.get? k).map fun entry => (f k entry w').1.2 := by
  by_cases hk : k ∈ e.connections.keys
  · exact exists_get?_updateEach f e e.connections.nodup_keys hk w
  · have hvacant : e.connections.get? k = none := by
      rw [Arena.mem_keys_iff, Bool.not_eq_true, Option.isSome_eq_false_iff] at hk
      exact Option.isNone_iff_eq_none.1 hk
    refine ⟨w, (get?_updateEach_of_not_mem f e hk w).trans ?_⟩
    rw [hvacant]
    rfl

/-! ## What holds of all connections

A property of connections, to be kept by whatever an endpoint does. Routes and lists have
no part in it. -/

/-- Whether something holds of all connections. -/
def All (P : Connection ε (HostState ω) → Prop) (e : Endpoint φ η ε ω) : Prop :=
  ∀ k c, (e.connections.get? k).map Entry.connection = some c → P c

theorem all_of_empty (h : e.connections = ∅) : e.All P := by
  intro k c hc
  rw [h, Arena.get?_empty] at hc
  cases hc

theorem All.of_same (h : e.All P)
    (hsame : ∀ k, (e'.connections.get? k).map Entry.connection =
      (e.connections.get? k).map Entry.connection) : e'.All P :=
  fun k c hc => h k c (hsame k ▸ hc)

theorem All.sameState (h : e.All P) (hsame : e.SameState e') : e'.All P :=
  h.of_same fun k => by rw [hsame.connections]

/-- One entry may be replaced by another of which it holds. -/
theorem All.set (h : e.All P) (entry : Entry ε ω) (hentry : P entry.connection)
    (routes : Table ConnectionId Nat) :
    All P { e with connections := e.connections.set k entry, routes := routes } := by
  intro j c hc
  simp only [Arena.get?_set] at hc
  split at hc
  · obtain rfl := Option.some.inj hc
    exact hentry
  · exact h j c hc

theorem All.get? (h : e.All P) {entry : Entry ε ω} (hget : e.connections.get? k = some entry) :
    P entry.connection :=
  h k entry.connection (by rw [hget]; rfl)

/-- Lists of identifiers do not matter for this. -/
theorem All.setCids (h : e.All P) {entry : Entry ε ω} (hget : e.connections.get? k = some entry)
    (cids : List ConnectionId) (routes : Table ConnectionId Nat) :
    All P { e with
      connections := e.connections.set k { entry with cids := cids }
      routes := routes } := by
  have hentry : P entry.connection := h.get? hget
  exact h.set { entry with cids := cids } hentry routes

/-- What an update preserves holds of all connections afterwards. -/
theorem All.update {α : Type} {f : Entry ε ω → StateM (HostState ω) (α × Entry ε ω)}
    (h : e.All P) (hf : ∀ entry w, P entry.connection → P (f entry w).1.2.connection) (k : Nat)
    (w : HostState ω) : (e.update k f w).1.2.All P := by
  cases hget : e.connections.get? k with
  | none =>
    rw [update_of_vacant hget]
    exact h
  | some entry =>
    rw [update_of_get? hget]
    exact h.set _ (hf entry w (h.get? hget)) e.routes

/-- The same for all entries. -/
theorem All.updateAll {α : Type} {f : Nat → Entry ε ω → StateM (HostState ω) (α × Entry ε ω)}
    (h : e.All P) (hf : ∀ k entry w, P entry.connection → P (f k entry w).1.2.connection)
    (w : HostState ω) : (e.updateAll f w).1.2.All P := by
  intro k c hc
  obtain ⟨w', hget⟩ := exists_get?_updateAll f e w k
  rw [hget, Option.map_map] at hc
  obtain ⟨entry, hentry, rfl⟩ := Option.map_eq_some_iff.1 hc
  exact hf k entry w' (h.get? hentry)

theorem connection_foldl_retireRoutes (e : Endpoint φ η ε ω) (ks : List Nat) (j : Nat) :
    ((ks.foldl retireRoutes e).connections.get? j).map Entry.connection =
      (e.connections.get? j).map Entry.connection := by
  induction ks generalizing e with
  | nil => rfl
  | cons k rest ih => exact (ih _).trans (connection_retireRoutes e k j)

theorem All.retireRoutes (h : e.All P) (k : Nat) : (e.retireRoutes k).All P :=
  h.of_same (connection_retireRoutes e k)

theorem All.removeAll (h : e.All P) (ks : List Nat) : (e.removeAll ks).2.All P := by
  intro k c hc
  rw [connection_removeAll] at hc
  split at hc
  · cases hc
  · exact h k c hc

/-- A new route changes a list of identifiers and no connection. -/
theorem All.associate (h : e.All P) {handle : ConnectionHandle} {cid : ConnectionId}
    (heq : e.associate handle cid = .ok e') : e'.All P := by
  rw [Endpoint.associate, entry?] at heq
  cases hget : e.connections.get? handle.key with
  | none =>
    rw [hget] at heq
    cases heq
  | some entry =>
    rw [hget] at heq
    obtain rfl := Except.ok.inj heq
    exact h.setCids hget _ _

/-- So does a route that is taken away. -/
theorem All.disassociate (h : e.All P) (cid : ConnectionId) : (e.disassociate cid).2.All P := by
  rw [Endpoint.disassociate]
  cases hroute : e.routes.get? cid with
  | none => exact h
  | some k =>
    cases hget : e.connections.get? k with
    | none =>
      simp only [hget]
      exact h
    | some entry =>
      simp only [hget]
      exact h.setCids hget _ _

/-! ## What connections keep

A property that new connections have and that every action keeps is inborn. All calls are
made of actions, so they keep it for all connections. -/

section

variable [PacketEngine ε]

/-- What holds of every connection that is made, and is kept whatever is done to it. -/
structure Inborn (settings : ConnectionSettings) (P : Connection ε (HostState ω) → Prop) :
    Prop where
  /-- it holds of every connection that is new -/
  new (side : Side) (scid dcid : ConnectionId) (engine : ε) (now : Instant) :
    P (.new side settings scid dcid engine now)
  /-- it does not depend on handlers and events -/
  modifyDispatcher {c : Connection ε (HostState ω)} :
    P c → ∀ f : EventDispatcher (HostState ω) → EventDispatcher (HostState ω),
      P (c.modifyDispatcher f)
  /-- and every action keeps it -/
  perform {m : Connection.Moment ε (HostState ω)} :
    P m.connection → ∀ a : Connection.Action ε (HostState ω), P (m.perform a).2.connection

variable {settings : ConnectionSettings}

theorem Inborn.runTimers (h : Inborn settings P) {entry : Entry ε ω} (hentry : P entry.connection)
    (now : Instant) (w : HostState ω) : P (runTimers entry now w).1.2.connection := by
  rw [Endpoint.runTimers]
  split
  · exact h.perform (m := ⟨entry.connection, w⟩) hentry (.onTimeout now)
  · exact hentry

/-- Wiring preserves what every action preserves, for it installs a handler. -/
theorem Inborn.wired (h : Inborn settings P) (e : Endpoint φ η ε ω) (k : Nat)
    {c : Connection ε (HostState ω)} (hc : P c) : P (e.wired k c) := by
  rw [Endpoint.wired]
  split
  · exact hc
  · exact h.modifyDispatcher hc _

namespace All

/-- Delivering a datagram preserves what every action preserves. -/
theorem deliver (h : e.All P) (hinborn : Inborn settings P) (k : Nat) (datagram : Bytes)
    (now : Instant) (w : HostState ω) : (e.deliver k datagram now w).1.2.All P := by
  cases hget : e.connections.get? k with
  | none =>
    rw [deliver_of_vacant hget]
    exact h
  | some entry =>
    rcases hingest : entry.connection.ingest datagram now w with ⟨⟨r, c⟩, w'⟩
    have hc : P c := by
      have hperformed := hinborn.perform (m := ⟨entry.connection, w⟩) (h.get? hget)
        (.ingest datagram now)
      rw [Connection.Moment.perform, hingest] at hperformed
      exact hperformed
    have hset : (e.withEntry k { entry with connection := c }).All P :=
      h.set { entry with connection := c } hc e.routes
    rw [deliver_of_get? hget hingest]
    dsimp only
    split
    · exact hset.retireRoutes k
    · exact hset

/-- A timeout of the endpoint preserves what every action preserves. -/
theorem onTimeout (h : e.All P) (hinborn : Inborn settings P) (now : Instant) (w : HostState ω) :
    (e.onTimeout now w).1.All P := by
  have hran := h.updateAll (f := fun _ entry => runTimers entry now)
    (fun _ _ w hentry => hinborn.runTimers hentry now w) w
  exact hran.of_same (connection_foldl_retireRoutes _ _)

section

variable [EngineFactory φ ε]

/-- What is inborn holds of a connection that is created. -/
theorem createConnection (h : e.All P) (hinborn : Inborn e.settings.connection P)
    (side : Side) (scid dcid : ConnectionId) (others : List ConnectionId) (peer : String)
    (now : Instant) : (e.createConnection side scid dcid others peer now).2.All P := by
  rw [Endpoint.createConnection]
  rcases EngineFactory.newEngine e.factory side scid dcid e.settings.connection.localParameters
    with ⟨error | engine, factory⟩
  · exact h
  · intro k c hc
    have hget : ((e.connections.insert ⟨e.wired e.connections.next
        (.new side e.settings.connection scid dcid engine now), peer, scid :: others⟩).get?
          k).map Entry.connection = some c := hc
    rw [Arena.get?_insert] at hget
    split at hget
    · obtain rfl := Option.some.inj hget
      exact hinborn.wired e _ (hinborn.new side scid dcid engine now)
    · exact h k c hget

variable [EntropySource η]

/-- What is inborn holds of a connection that we open. -/
theorem connect (h : e.All P) (hinborn : Inborn e.settings.connection P) (peer : String)
    (now : Instant) : (e.connect peer now).2.All P := by
  rw [Endpoint.connect]
  cases e.checkCapacity with
  | error error => exact h
  | ok _ =>
    -- choosing identifiers changes neither connections nor settings
    rcases hscid : e.chooseCid with ⟨error | scid, e₁⟩
    · obtain rfl : e.chooseCid.2 = e₁ := congrArg Prod.snd hscid
      exact h
    · obtain rfl : e.chooseCid.2 = e₁ := congrArg Prod.snd hscid
      dsimp only
      rcases hdcid : e.chooseCid.2.chooseCid with ⟨error | dcid, e₂⟩
      · obtain rfl : e.chooseCid.2.chooseCid.2 = e₂ := congrArg Prod.snd hdcid
        exact h
      · obtain rfl : e.chooseCid.2.chooseCid.2 = e₂ := congrArg Prod.snd hdcid
        exact createConnection (e := e.chooseCid.2.chooseCid.2) h hinborn .client scid dcid [] peer
          now

/-- What is inborn holds of a connection that is accepted. -/
theorem acceptConnection (h : e.All P) (hinborn : Inborn e.settings.connection P)
    (header : DatagramHeader) (peer : String) (now : Instant) :
    (e.acceptConnection header peer now).2.All P := by
  rw [Endpoint.acceptConnection]
  cases e.checkCapacity with
  | error error => exact h
  | ok _ =>
    rcases hscid : e.chooseCid with ⟨error | scid, e₁⟩
    · obtain rfl : e.chooseCid.2 = e₁ := congrArg Prod.snd hscid
      exact h
    · obtain rfl : e.chooseCid.2 = e₁ := congrArg Prod.snd hscid
      exact createConnection (e := e.chooseCid.2) h hinborn .server scid (header.scid.getD .empty)
        [header.dcid] peer now

/-- Whatever becomes of a datagram, what is inborn still holds of all. -/
theorem handleDatagram (h : e.All P) (hinborn : Inborn e.settings.connection P)
    (datagram : Bytes) (peer : String) (now : Instant) (w : HostState ω) :
    (e.handleDatagram datagram peer now w).1.2.All P := by
  have htakes := takes_handleDatagram e datagram peer now w
  generalize e.handleDatagram datagram peer now w = r at htakes
  cases htakes with
  | handed _ => exact h.deliver hinborn _ datagram now w
  | @opened header handle e' _ _ haccept =>
    have hopened := h.acceptConnection hinborn header peer now
    rw [haccept] at hopened
    exact hopened.deliver hinborn handle.key datagram now w
  | ignored _ hsame _ => exact h.sameState hsame

end

end All

/-! ## Runs

Inborn properties hold of all connections at any time. -/

/-- Whether a call acts on connections in no way but as their host may. -/
def Call.Acts : Call φ ε ω → Prop
  | .withConnection _ f => ∀ c w, ∃ a : Connection.Action ε (HostState ω),
    (f c w).1.2 = (Connection.Moment.perform ⟨c, w⟩ a).2.connection
  | _ => True

variable [EngineFactory φ ε] [EntropySource η]

/-- What every new connection has and keeps, all connections of an endpoint have. -/
theorem All.perform (h : e.All P) (hinborn : Inborn e.settings.connection P) (w : HostState ω)
    {call : Call φ ε ω} (hacts : call.Acts) : (e.perform w call).1.All P := by
  -- a connection is made by a newcomer or changed by an action of its own; the routes hold
  -- none
  cases call with
  | connect peer now => exact h.connect hinborn peer now
  | handleDatagram datagram peer now => exact h.handleDatagram hinborn datagram peer now w
  | associate handle cid =>
    rw [Endpoint.perform]
    cases heq : e.associate handle cid with
    | ok e' => exact h.associate heq
    | error _ => exact h
  | disassociate cid => exact h.disassociate cid
  | pollTransmit now =>
    have hall := h.updateAll (f := fun k (entry : Entry ε ω) w =>
      let r := entry.connection.produceDatagrams now w
      ((r.1.1.map (Transmit.mk ⟨k⟩ entry.peer), { entry with connection := r.1.2 }), r.2))
      (fun _ entry w hentry =>
        hinborn.perform (m := ⟨entry.connection, w⟩) hentry (.produceDatagrams now)) w
    exact hall
  | onTimeout now => exact h.onTimeout hinborn now w
  | closeAll errorCode reason now =>
    have hall := h.updateAll (f := fun _ (entry : Entry ε ω) w =>
      let r := entry.connection.close errorCode reason now w
      (((), { entry with connection := r.1.2 }), r.2))
      (fun _ entry w hentry =>
        hinborn.perform (m := ⟨entry.connection, w⟩) hentry (.close errorCode reason now)) w
    exact hall
  | reap => exact h.removeAll e.closedKeys
  | openChannel =>
    have hall := h.updateAll (f := fun k (entry : Entry ε ω) => pure ((), { entry with
        connection := entry.connection.modifyDispatcher
          (·.setConnectionHandler (channelHandler w.channels.length ⟨k⟩)) }))
      (fun k entry _ hentry => hinborn.modifyDispatcher hentry
        (·.setConnectionHandler (channelHandler w.channels.length ⟨k⟩)))
      { w with channels := w.channels ++
        [{ capacity := e.settings.endpoint.eventChannelCapacity }] }
    exact fun k c hc => hall k c hc
  | withConnection handle f =>
    refine h.update (fun entry w hentry => ?_) handle.key w
    obtain ⟨a, ha⟩ := hacts entry.connection w
    have hperformed := hinborn.perform (m := ⟨entry.connection, w⟩) hentry a
    rw [← ha] at hperformed
    exact hperformed
  | modifyFactory f => exact h

/-- What is inborn holds at any time, by induction on the calls. -/
theorem All.performAll (h : e.All P) (hrouted : e.Routed)
    (hinborn : Inborn e.settings.connection P) (w : HostState ω) {calls : List (Call φ ε ω)}
    (hacts : ∀ call ∈ calls, call.Acts) : (e.performAll w calls).1.All P := by
  induction calls generalizing e w with
  | nil => exact h
  | cons call rest ih =>
    rw [List.forall_mem_cons] at hacts
    have hkeeps := keeps_perform hrouted w call
    refine ih (h.perform hinborn w hacts.1) (hkeeps.routed hrouted) ?_ _ hacts.2
    rw [hkeeps.settings]
    exact hinborn

end

/-! ## Timers that are due

Running the timers of an endpoint runs those of each connection. If none is due anywhere,
nothing changes. -/

section

variable [PacketEngine ε]

/-- Whether no timer of any connection is due. -/
def Waits (now : Instant) (e : Endpoint φ η ε ω) : Prop := e.All (·.Waits now)

/-- While no timer is due, there is time to wait. -/
theorem Waits.nextTimeout_pos {now : Instant} (h : e.Waits now) {d : Duration}
    (hd : e.nextTimeout now = some d) : 0 < d.nanos := by
  -- every duration the fold meets is positive, and so is the least of them
  refine List.foldlRecOn (motive := fun least => ∀ d, least = some d → 0 < d.nanos) _ _ ?_
    (fun least hleast first hfirst => ?_) d hd
  · intro d hd
    cases hd
  have hpos : 0 < first.nanos := by
    obtain ⟨k, -, hk⟩ := List.mem_filterMap.1 hfirst
    obtain ⟨entry, hget, htimeout⟩ := Option.bind_eq_some_iff.1 hk
    exact (h.get? hget).nextTimeout_pos htimeout
  intro d hd
  obtain rfl := Option.some.inj hd
  cases least with
  | none => exact hpos
  | some least => exact Nat.lt_min.2 ⟨hleast least rfl, hpos⟩

/-- The timers of a connection run if one of them is due. -/
theorem connection_onTimeout (e : Endpoint φ η ε ω) (now : Instant) (w : HostState ω) (k : Nat) :
    ∃ w', ((e.onTimeout now w).1.connections.get? k).map Entry.connection =
      (e.connections.get? k).map fun entry => (runTimers entry now w').1.2.connection := by
  obtain ⟨w', hget⟩ := exists_get?_updateAll (fun _ entry => runTimers entry now) e w k
  let ran : Endpoint φ η ε ω := (e.updateAll (fun _ entry => runTimers entry now) w).1.2
  have hretired := connection_foldl_retireRoutes ran ran.closedKeys k
  refine ⟨w', hretired.trans ?_⟩
  rw [hget, Option.map_map]
  rfl

/-- After the timers have run, every connection waits, and those that waited before are
as they were. -/
theorem waits_onTimeout [Connection.Timely ε] {now : Instant} (hlast : now < .last)
    (h : e.All Connection.Regular) (w : HostState ω) : (e.onTimeout now w).1.Waits now := by
  intro k c hc
  obtain ⟨w', hran⟩ := connection_onTimeout e now w k
  rw [hran] at hc
  obtain ⟨entry, hget, rfl⟩ := Option.map_eq_some_iff.1 hc
  have hregular := h.get? hget
  rw [runTimers]
  split
  · exact Connection.waits_onTimeout hregular hlast w'
  · next hearly =>
    refine Connection.waits_iff.2 fun t ht => ?_
    rw [ht, Option.any_some, decide_eq_true_eq] at hearly
    exact Nat.lt_of_not_le hearly

/-- Where no timer is due, a timeout changes no connection. -/
theorem connection_onTimeout_of_waits {now : Instant} (h : e.Waits now) (w : HostState ω)
    (k : Nat) : ((e.onTimeout now w).1.connections.get? k).map Entry.connection =
      (e.connections.get? k).map Entry.connection := by
  obtain ⟨w', hran⟩ := connection_onTimeout e now w k
  rw [hran]
  refine Option.map_congr fun entry hget => ?_
  have hearly : ¬ entry.connection.nextDeadline.any (· ≤ now) = true := by
    cases ht : entry.connection.nextDeadline with
    | none => exact Bool.false_ne_true
    | some t =>
      have hlt := Connection.waits_iff.1 (h.get? hget) t ht
      rw [Option.any_some, decide_eq_true_eq]
      exact Nat.not_le_of_lt hlt
  rw [runTimers, if_neg hearly]

end

/-! ## Timers settle

After a timeout no deadline is left that has come: each connection waits, and the endpoint
with them. -/

/-- A new endpoint has its settings, and no connections. -/
theorem fresh_of_new {settings : Settings} {factory : φ} {entropy : η}
    (hnew : Endpoint.new settings factory entropy = .ok e) :
    e.settings = settings ∧ e.connections = ∅ := by
  rw [new] at hnew
  split at hnew
  · cases hnew
  · obtain rfl := Except.ok.inj hnew
    exact ⟨rfl, rfl⟩

/-- No call changes the settings. -/
theorem settings_performAll [EngineFactory φ ε] [PacketEngine ε] [EntropySource η]
    (hrouted : e.Routed) (w : HostState ω) (calls : List (Call φ ε ω)) :
    (e.performAll w calls).1.settings = e.settings := by
  induction calls generalizing e w with
  | nil => rfl
  | cons call rest ih =>
    have hkeeps := keeps_perform hrouted w call
    exact (ih (hkeeps.routed hrouted) _).trans hkeeps.settings

/-- Every connection is regular, from its birth with valid settings on. -/
theorem inborn_regular [PacketEngine ε] {settings : ConnectionSettings} (hvalid : settings.Valid) :
    Inborn settings (Connection.Regular : Connection ε (HostState ω) → Prop) where
  new side scid dcid engine now := Connection.regular_new side hvalid scid dcid engine now
  modifyDispatcher hregular f := hregular.modifyDispatcher f
  perform hregular a := hregular.perform a

/-- **The host never runs the timers for nothing.** An endpoint with valid settings, over
engines that clear or postpone their deadlines when they run, has come about by any calls
at any times, and the clock has ticks left. Once its timers have run at a time, no
connection has a deadline that is not later, and the host is told to wait for a while. If
all deadlines are later already, running the timers leaves every connection as it is; and
so does each connection, apart from the delivery of events, if its own timers are run. -/
theorem timers_settle [EngineFactory φ ε] [PacketEngine ε] [EntropySource η]
    [Connection.Timely ε] {settings : Settings} (hvalid : settings.Valid) {factory : φ}
    {entropy : η} {e₀ : Endpoint φ η ε ω}
    (hnew : Endpoint.new settings factory entropy = .ok e₀) (w₀ : HostState ω)
    {calls : List (Call φ ε ω)} (hacts : ∀ call ∈ calls, call.Acts) {now : Instant}
    (hlast : now < .last) (w : HostState ω) :
    let e := (e₀.performAll w₀ calls).1
    let e' := (e.onTimeout now w).1
    (∀ k entry, e'.connections.get? k = some entry →
      ∀ t, entry.connection.nextDeadline = some t → now < t) ∧
    (∀ d, e'.nextTimeout now = some d → 0 < d.nanos) ∧
    ((∀ k entry, e.connections.get? k = some entry →
        ∀ t, entry.connection.nextDeadline = some t → now < t) →
      (∀ k, (e'.connections.get? k).map Entry.connection =
        (e.connections.get? k).map Entry.connection) ∧
      ∀ k entry, e.connections.get? k = some entry → ∀ w',
        entry.connection.Unmoved (entry.connection.onTimeout now w').1) := by
  intro e e'
  obtain ⟨hsettings, hempty⟩ := fresh_of_new hnew
  have hinborn : Inborn e₀.settings.connection
      (Connection.Regular : Connection ε (HostState ω) → Prop) := by
    rw [hsettings]
    exact inborn_regular (Settings.valid_iff.1 hvalid).2
  have hregular : e.All Connection.Regular :=
    (all_of_empty hempty).performAll (routed_new hnew) hinborn w₀ hacts
  have hwaits : e'.Waits now := waits_onTimeout hlast hregular w
  refine ⟨fun k entry hget => Connection.waits_iff.1 (hwaits.get? hget),
    fun d => hwaits.nextTimeout_pos, fun hearly => ?_⟩
  -- with nothing due the timers are not even touched, which is what the last clause asks
  -- for
  have hwaiting : e.Waits now := by
    intro k c hc
    obtain ⟨entry, hget, rfl⟩ := Option.map_eq_some_iff.1 hc
    exact Connection.waits_iff.2 (hearly k entry hget)
  exact ⟨connection_onTimeout_of_waits hwaiting w,
    fun k entry hget => Connection.unmoved_onTimeout (hwaiting.get? hget)⟩

/-- Sets when the engine of a connection wants to run. -/
def wakeEngineAt (t : Instant) (c : Connection (ForcedEngine ScriptedEngine) (HostState Unit)) :
    StateM (HostState Unit) (Unit × Connection (ForcedEngine ScriptedEngine) (HostState Unit)) :=
  pure ((), { c with adapter := c.adapter.modifyEngine (·.onInner (·.setExpiry (some t))) })

/-- The peer is heard once and then silent for too long, and the engine wants to run at the
same time. The connection drains, which the host has to wait for. -/
theorem timers_settle_silent :
    letI := zeroEntropy
    ∃ e₀ : Endpoint ScriptedFactory Unit (ForcedEngine ScriptedEngine) Unit,
      Endpoint.new {} {} () = .ok e₀ ∧
      let e := (e₀.performAll ⟨[], ()⟩ [.connect "192.0.2.1:443" ⟨0⟩,
        .handleDatagram (0x40 :: List.replicate 18 0) "192.0.2.1:443" ⟨0⟩,
        .withConnection ⟨0⟩ (wakeEngineAt ⟨30000000000⟩)]).1
      ∃ d, (e.onTimeout ⟨30000000000⟩ ⟨[], ()⟩).1.nextTimeout ⟨30000000000⟩ = some d ∧
        0 < d.nanos := by
  let _ := zeroEntropy
  obtain ⟨e₀, hnew, hwait⟩ :
      ∃ e₀ : Endpoint ScriptedFactory Unit (ForcedEngine ScriptedEngine) Unit,
      Endpoint.new {} {} () = .ok e₀ ∧
        ((e₀.performAll ⟨[], ()⟩ [.connect "192.0.2.1:443" ⟨0⟩,
          .handleDatagram (0x40 :: List.replicate 18 0) "192.0.2.1:443" ⟨0⟩,
          .withConnection ⟨0⟩ (wakeEngineAt ⟨30000000000⟩)]).1.onTimeout ⟨30000000000⟩
            ⟨[], ()⟩).1.nextTimeout ⟨30000000000⟩ = some ⟨3000000000⟩ := ⟨_, rfl, by decide +kernel⟩
  refine ⟨e₀, hnew, _, hwait,
    (timers_settle (by decide) hnew ⟨[], ()⟩ ?_ (by decide) ⟨[], ()⟩).2.1 _ hwait⟩
  simp only [List.forall_mem_cons, Call.Acts, List.not_mem_nil, false_implies, implies_true,
    and_true, true_and]
  exact fun c w => ⟨.modifyEngine (·.onInner (·.setExpiry (some ⟨30000000000⟩))), rfl⟩

end QuicHost.Endpoint
