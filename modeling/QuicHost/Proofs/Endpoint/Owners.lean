import QuicHost.Endpoint.Scripted
import QuicHost.Proofs.Endpoint.Receiving

/-!
# Handles and their owners

A handle is used again once its connection was removed. Removing a connection
takes its routes away, and so do the timers when they find it over. With the
invariant of the routes this is enough: nothing leads to a free handle, and
every route that leads to its next owner was made for it.

The host may do anything at any time. It may also get hold of a connection and
change it, behind the endpoint's back.
-/

namespace QuicHost.Endpoint

variable {φ η ε ω : Type} {e e' : Endpoint φ η ε ω} {k : Nat} {cid : ConnectionId}

theorem Keeps.unrouted (h : e.Keeps noRoute e') (hunrouted : e.Unrouted k) : e'.Unrouted k := by
  intro cid hroute
  rcases h.origin hroute with hroute | hmade
  · exact hunrouted cid hroute
  · exact hmade

/-- The keys that a removal looks for are those of the connections that are over. -/
theorem mem_closedKeys_iff : k ∈ e.closedKeys ↔ e.isOver k = true := by
  rw [closedKeys, List.mem_filter, Arena.mem_keys_iff]
  refine ⟨fun h => h.2, fun hover => ⟨?_, hover⟩⟩
  rw [isOver] at hover
  cases hget : e.connections.get? k with
  | none =>
    rw [hget] at hover
    cases hover
  | some entry => rfl

/-! ## Timers

A connection that is found over after its timers were run loses its routes. Its handle is
given up later, when nothing leads to it any more. -/

theorem keeps_foldl_retireRoutes (e : Endpoint φ η ε ω) (ks : List Nat) :
    e.Keeps noRoute (ks.foldl retireRoutes e) := by
  induction ks generalizing e with
  | nil => exact .refl _ e
  | cons k rest ih => exact (keeps_retireRoutes e k).trans (ih _)

theorem isOver_foldl_retireRoutes (e : Endpoint φ η ε ω) (ks : List Nat) (k : Nat) :
    (ks.foldl retireRoutes e).isOver k = e.isOver k := by
  induction ks generalizing e with
  | nil => rfl
  | cons j rest ih => exact (ih _).trans (isOver_retireRoutes e j k)

/-- Whoever is among those retired has no routes left. -/
theorem unrouted_foldl_retireRoutes (hrouted : e.Routed) {ks : List Nat} (hk : k ∈ ks) :
    (ks.foldl retireRoutes e).Unrouted k := by
  induction ks generalizing e with
  | nil => cases hk
  | cons j rest ih =>
    rcases List.mem_cons.1 hk with rfl | hk
    · exact (keeps_foldl_retireRoutes _ rest).unrouted (unrouted_retireRoutes hrouted k)
    · exact ih ((keeps_retireRoutes e j).routed hrouted) hk

section

variable [PacketEngine ε]

/-- The timers change connections, and then those that are over are retired. -/
theorem onTimeout_eq (e : Endpoint φ η ε ω) (now : Instant) (w : HostState ω) :
    ∃ e' : Endpoint φ η ε ω, e.SameLists e' ∧
      (e.onTimeout now w).1 = e'.closedKeys.foldl retireRoutes e' :=
  ⟨_, sameLists_updateAll (fun _ entry w => cids_runTimers entry now w) e w, rfl⟩

theorem keeps_onTimeout (e : Endpoint φ η ε ω) (now : Instant) (w : HostState ω) :
    e.Keeps noRoute (e.onTimeout now w).1 := by
  obtain ⟨e', hsame, heq⟩ := onTimeout_eq e now w
  rw [heq]
  exact hsame.keeps.trans (keeps_foldl_retireRoutes e' _)

/-- After the timers no connection that is over is found. -/
theorem retired_onTimeout (hrouted : e.Routed) (now : Instant) (w : HostState ω) (k : Nat) :
    (e.onTimeout now w).1.Retired k := by
  obtain ⟨e', hsame, heq⟩ := onTimeout_eq e now w
  rw [heq]
  intro hover
  rw [isOver_foldl_retireRoutes] at hover
  have hkept : e.Keeps noRoute e' := hsame.keeps
  exact unrouted_foldl_retireRoutes (hkept.routed hrouted) (mem_closedKeys_iff.2 hover)

end

/-! ## Removing connections

A handle is given up after the routes to it are removed. This is what keeps the next owner
from getting datagrams that were meant for the one before. -/

/-- Without the connection of a handle. -/
def vacate (e : Endpoint φ η ε ω) (k : Nat) : Endpoint φ η ε ω :=
  { e with connections := e.connections.erase k }

/-- Removing several connections, the first one first. -/
theorem removeAll_cons (e : Endpoint φ η ε ω) (k : Nat) (rest : List Nat) :
    (e.removeAll (k :: rest)).2 = (((e.retireRoutes k).vacate k).removeAll rest).2 := by
  rw [removeAll]
  cases hget : (e.retireRoutes k).connections.get? k with
  | none =>
    have herase : (e.retireRoutes k).connections.erase k = (e.retireRoutes k).connections := by
      rw [Arena.erase, dif_neg (by simp [hget])]
    rw [vacate, herase]
  | some entry => rfl

/-- Removing makes no route. A connection is unrouted by the time its handle is given up, so
that a handle used again finds none. -/
theorem keeps_removeAll (hrouted : e.Routed) (ks : List Nat) :
    e.Keeps noRoute (e.removeAll ks).2 := by
  induction ks generalizing e with
  | nil => exact .refl _ e
  | cons k rest ih =>
    rw [removeAll_cons]
    have hremoved : e.Keeps noRoute ((e.retireRoutes k).vacate k) :=
      (keeps_retireRoutes e k).trans (keeps_vacate (unrouted_retireRoutes hrouted k))
    exact hremoved.trans (ih (hremoved.routed hrouted))

/-- Just the connections of the given handles are gone. -/
theorem connection_removeAll (e : Endpoint φ η ε ω) (ks : List Nat) (j : Nat) :
    ((e.removeAll ks).2.connections.get? j).map Entry.connection =
      if j ∈ ks then none else (e.connections.get? j).map Entry.connection := by
  induction ks generalizing e with
  | nil => simp [removeAll]
  | cons k rest ih =>
    rw [removeAll_cons, ih, vacate, Arena.get?_erase]
    by_cases hj : j = k
    · simp [hj]
    · simp [hj, connection_retireRoutes]

/-- The handles of connections that were over are free after the removal. -/
theorem vacant_reap (h : e.isOver k = true) : e.reap.2.connections.get? k = none := by
  rw [← Option.map_eq_none_iff (f := Entry.connection), reap, connection_removeAll,
    if_pos (mem_closedKeys_iff.2 h)]

/-- No connection that is over is left. -/
theorem isOver_reap (e : Endpoint φ η ε ω) (k : Nat) : e.reap.2.isOver k = false := by
  rw [isOver_eq, reap, connection_removeAll]
  split
  · rfl
  · next hmem =>
    rw [mem_closedKeys_iff, isOver_eq] at hmem
    exact Bool.eq_false_iff.2 hmem

/-! ## Runs

Calls one after the other, and changes by whoever holds a connection, keep the invariant. -/

/-- What a host does with an endpoint. -/
inductive Call (φ ε ω : Type) where
  /-- opens a connection -/
  | connect (peer : String) (now : Instant)
  /-- hands over a datagram that arrived -/
  | handleDatagram (datagram : Bytes) (peer : String) (now : Instant)
  /-- lets an identifier lead to a connection -/
  | associate (h : ConnectionHandle) (cid : ConnectionId)
  /-- lets an identifier lead nowhere -/
  | disassociate (cid : ConnectionId)
  /-- fetches what is to be sent -/
  | pollTransmit (now : Instant)
  /-- runs the timers -/
  | onTimeout (now : Instant)
  /-- closes every connection -/
  | closeAll (errorCode : Nat) (reason : Bytes) (now : Instant)
  /-- removes the connections that are over -/
  | reap
  /-- makes a channel for the events -/
  | openChannel
  /-- does something with a connection -/
  | withConnection (h : ConnectionHandle)
      (f : Connection ε (HostState ω) → StateM (HostState ω) (Unit × Connection ε (HostState ω)))
  /-- changes the factory -/
  | modifyFactory (f : φ → φ)

variable [EngineFactory φ ε] [PacketEngine ε] [EntropySource η]

/-- What a call does. -/
def perform (e : Endpoint φ η ε ω) (w : HostState ω) :
    Call φ ε ω → Endpoint φ η ε ω × HostState ω
  | .connect peer now => ((e.connect peer now).2, w)
  | .handleDatagram datagram peer now =>
    let r := e.handleDatagram datagram peer now w
    (r.1.2, r.2)
  | .associate h cid =>
    match e.associate h cid with
    | .ok e' => (e', w)
    | .error _ => (e, w)
  | .disassociate cid => ((e.disassociate cid).2, w)
  | .pollTransmit now =>
    let r := e.pollTransmit now w
    (r.1.2, r.2)
  | .onTimeout now => e.onTimeout now w
  | .closeAll errorCode reason now => e.closeAll errorCode reason now w
  | .reap => (e.reap.2, w)
  | .openChannel =>
    let r := e.openChannel w
    (r.1.2, r.2)
  | .withConnection h f =>
    let r := e.withConnection h f w
    (r.1.2, r.2)
  | .modifyFactory f => ({ e with factory := f e.factory }, w)

/-- What calls do, one after the other. -/
def performAll (e : Endpoint φ η ε ω) (w : HostState ω) (calls : List (Call φ ε ω)) :
    Endpoint φ η ε ω × HostState ω :=
  calls.foldl (fun m call => m.1.perform m.2 call) (e, w)

/-- The routes that a call may make: one by name, or those to a new connection. -/
def Call.MayRoute (e : Endpoint φ η ε ω) : Call φ ε ω → ConnectionId → Nat → Prop
  | .connect _ _ => e.toVacant
  | .handleDatagram _ _ _ => e.toVacant
  | .associate h cid => fun cid' k => cid' = cid ∧ k = h.key
  | _ => noRoute

/-- No call breaks the invariant, or makes a route that it may not make. -/
theorem keeps_perform (hrouted : e.Routed) (w : HostState ω) (call : Call φ ε ω) :
    e.Keeps (call.MayRoute e) (e.perform w call).1 := by
  cases call with
  | connect peer now => exact (opens_connect e peer now).keeps
  | handleDatagram datagram peer now => exact (takes_handleDatagram e datagram peer now w).keeps
  | associate h cid =>
    rw [perform]
    cases heq : e.associate h cid with
    | ok e' => exact keeps_associate heq
    | error _ => exact .refl _ e
  | disassociate cid => exact keeps_disassociate e cid
  | pollTransmit now => exact (sameLists_pollTransmit e now w).keeps
  | onTimeout now => exact keeps_onTimeout e now w
  | closeAll errorCode reason now => exact (sameLists_closeAll e errorCode reason now w).keeps
  | reap => exact keeps_removeAll hrouted e.closedKeys
  | openChannel => exact (sameLists_openChannel e w).keeps
  | withConnection h f => exact (sameLists_withConnection e h f w).keeps
  | modifyFactory f => exact SameLists.keeps ⟨rfl, rfl, fun _ => rfl⟩

/-- Routes lead to owners at any time, by induction on the calls. -/
theorem routed_performAll (hrouted : e.Routed) (w : HostState ω) (calls : List (Call φ ε ω)) :
    (e.performAll w calls).1.Routed := by
  induction calls generalizing e w with
  | nil => exact hrouted
  | cons call rest ih => exact ih ((keeps_perform hrouted w call).routed hrouted) _

omit [EngineFactory φ ε] [PacketEngine ε] [EntropySource η] in
/-- There are no routes in a new endpoint. -/
theorem routed_new {settings : Settings} {factory : φ} {entropy : η}
    (hnew : Endpoint.new settings factory entropy = .ok e) : e.Routed := by
  rw [new] at hnew
  split at hnew
  · cases hnew
  · obtain rfl := Except.ok.inj hnew
    exact ⟨nofun, Nat.zero_le _⟩

/-- Whether a call lets an identifier lead to a handle: the host names both, or
the handle was free and its new owner lists the identifier. -/
structure Call.Gives (call : Call φ ε ω) (m : Endpoint φ η ε ω × HostState ω)
    (cid : ConnectionId) (k : Nat) : Prop where
  /-- the call is one that may make this route -/
  mayRoute : call.MayRoute m.1 cid k
  /-- and the route is there afterwards -/
  routed : (m.1.perform m.2 call).1.routes.get? cid = some k

/-- Whoever leads to a handle now and did not at first was made to do so. -/
theorem exists_gives (hrouted : e.Routed) {w : HostState ω} {calls : List (Call φ ε ω)}
    (hbefore : e.routes.get? cid ≠ some k)
    (hafter : (e.performAll w calls).1.routes.get? cid = some k) :
    ∃ earlier call later, calls = earlier ++ call :: later ∧
      call.Gives (e.performAll w earlier) cid k := by
  induction calls generalizing e w with
  | nil => exact absurd hafter hbefore
  | cons call rest ih =>
    have hkeeps := keeps_perform hrouted w call
    by_cases hnow : (e.perform w call).1.routes.get? cid = some k
    · refine ⟨[], call, rest, rfl, ?_, hnow⟩
      rcases hkeeps.origin hnow with hroute | hmay
      · exact absurd hroute hbefore
      · exact hmay
    · obtain ⟨earlier, call', later, heq, hgives⟩ := ih (hkeeps.routed hrouted) hnow hafter
      exact ⟨call :: earlier, call', later, by rw [heq]; rfl, hgives⟩

/-- What an endpoint promises about its routes, at any moment of a run. -/
structure Sound (e : Endpoint φ η ε ω) (w : HostState ω) : Prop where
  /-- every route leads to a connection that lists it, of which there are not too
  many -/
  routed : e.Routed
  /-- after the timers, nothing leads to a connection that is over -/
  onTimeout (now : Instant) (k : Nat) : (e.onTimeout now w).1.Retired k
  /-- after a removal as well -/
  reap (k : Nat) : e.reap.2.Retired k
  /-- nor to the connection that received a datagram, an old or a new one -/
  handleDatagram (datagram : Bytes) (peer : String) (now : Instant) (k : Nat) :
    e.recipient? datagram = some k ∨ e.connections.get? k = none →
      (e.handleDatagram datagram peer now w).1.2.Retired k
  /-- a datagram is for an unknown connection only if no route leads anywhere, and
  it opens none -/
  unknown (datagram : Bytes) (peer : String) (now : Instant) :
    (e.handleDatagram datagram peer now w).1.1 = .dropped .unknownConnection →
      e.recipient? datagram = none ∧
        (e.handleDatagram datagram peer now w).1.2.connections = e.connections
  /-- whatever happens after a removal: what reaches a handle that was freed came
  through an identifier that was given to the handle since -/
  reuse (k : Nat) (hover : e.isOver k = true) (later : List (Call φ ε ω)) (datagram : Bytes)
    (peer : String) (now : Instant) :
    let m := e.reap.2.performAll w later
    m.1.recipient? datagram = some k ∨
        (m.1.handleDatagram datagram peer now m.2).1.1 = .delivered ⟨k⟩ →
      ∃ header earlier call rest,
        EngineFactory.decodeHeader m.1.factory datagram m.1.generator.length = some header ∧
        later = earlier ++ call :: rest ∧
        call.Gives (e.reap.2.performAll w earlier) header.dcid k

/-- What it means that routes lead to owners, in terms of what the endpoint answers. -/
theorem Routed.sound (hrouted : e.Routed) (w : HostState ω) : e.Sound w := by
  have hreaped : e.reap.2.Routed := (keeps_removeAll hrouted e.closedKeys).routed hrouted
  refine ⟨hrouted, fun now k => retired_onTimeout hrouted now w k, ?_, ?_, ?_, ?_⟩
  · intro k hover
    rw [isOver_reap] at hover
    cases hover
  · intro datagram peer now k hreceives
    exact (takes_handleDatagram e datagram peer now w).retired hrouted hreceives
  · intro datagram peer now hunknown
    exact (takes_handleDatagram e datagram peer now w).unknown hrouted hunknown
  · intro k hover later datagram peer now m hreached
    have hm : m.1.Routed := routed_performAll hreaped w later
    have hrecipient : m.1.recipient? datagram = some k := by
      rcases hreached with hrecipient | hdelivered
      · exact hrecipient
      · exact (takes_handleDatagram m.1 datagram peer now m.2).recipient_of_delivered hm hdelivered
    obtain ⟨header, hdecode, hroute⟩ := Option.bind_eq_some_iff.1 hrecipient
    have hfree := hreaped.unrouted_of_vacant (vacant_reap hover) header.dcid
    obtain ⟨earlier, call, rest, heq, hgives⟩ := exists_gives hreaped hfree hroute
    exact ⟨header, earlier, call, rest, hdecode, heq, hgives⟩

/-- **Routes lead to the connections they were made for.** Whatever a host does
with an endpoint, with whatever factory: no route leads to a free handle or to a
connection that does not list it, a connection that is over is not found after
the timers, after a removal, or after it received a datagram, and a handle that
is used again is reached only through identifiers given to it since. -/
theorem routes_lead_to_owners {settings : Settings} {factory : φ} {entropy : η}
    {e₀ : Endpoint φ η ε ω} (hnew : Endpoint.new settings factory entropy = .ok e₀)
    (w₀ : HostState ω) (calls : List (Call φ ε ω)) :
    (e₀.performAll w₀ calls).1.Sound (e₀.performAll w₀ calls).2 :=
  (routed_performAll (routed_new hnew) w₀ calls).sound _

/-- A source of entropy that has only zeros. -/
@[reducible] def zeroEntropy : EntropySource Unit where
  draw _ n := (.ok ⟨List.replicate n 0, List.length_replicate⟩, ())

/-- A connection is opened, closed and timed out, and its handle is used again. -/
theorem routes_lead_to_owners_of_reused_handle :
    letI := zeroEntropy
    ∃ e₀ : Endpoint ScriptedFactory Unit (ForcedEngine ScriptedEngine) Unit,
      Endpoint.new {} {} () = .ok e₀ ∧
      let calls : List (Call ScriptedFactory (ForcedEngine ScriptedEngine) Unit) :=
        [.connect "192.0.2.1:443" ⟨0⟩, .closeAll 0 [] ⟨0⟩, .onTimeout ⟨1000000000000⟩, .reap,
          .connect "192.0.2.2:443" ⟨1000000000000⟩]
      (e₀.performAll ⟨[], ()⟩ calls).1.Sound (e₀.performAll ⟨[], ()⟩ calls).2 := by
  let _ := zeroEntropy
  obtain ⟨e₀, hnew⟩ : ∃ e₀ : Endpoint ScriptedFactory Unit (ForcedEngine ScriptedEngine) Unit,
      Endpoint.new {} {} () = .ok e₀ := ⟨_, rfl⟩
  exact ⟨e₀, hnew, routes_lead_to_owners hnew ⟨[], ()⟩ _⟩

end QuicHost.Endpoint
