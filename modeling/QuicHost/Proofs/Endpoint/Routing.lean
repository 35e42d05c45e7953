import QuicHost.Endpoint.Datagram
import QuicHost.Endpoint.Drive
import QuicHost.Proofs.Arena

/-!
# Routes and the connections they lead to

The routing table and the lists of the connections are changed separately, and
they need not agree: an identifier that another connection takes over stays on
the list it was on. What holds is one direction of agreement, `Routed`: a route
leads to a connection that lists its identifier. So whoever empties a slot need
only remove the routes of the identifiers listed there, and no route is left
that leads to it.

`Keeps` says what a step does with routes. It keeps the invariant, and every
route it makes is one that it may make.
-/

namespace QuicHost.Endpoint

variable {φ η ε ω : Type} {e e' e'' : Endpoint φ η ε ω} {k : Nat} {cid : ConnectionId}

/-! ## The invariant

A route leads to a connection that lists its identifier. The other direction does not
hold, and nothing here needs it. -/

/-- Whether every route leads to a connection that lists it, and there are no
more connections than there may be. -/
structure Routed (e : Endpoint φ η ε ω) : Prop where
  /-- the connection at the end of a route lists the identifier -/
  listed {cid : ConnectionId} {k : Nat} : e.routes.get? cid = some k →
    ∃ entry, e.connections.get? k = some entry ∧ cid ∈ entry.cids
  /-- no more connections than the settings allow -/
  size_le : e.size ≤ e.settings.endpoint.maxConnections

/-- Whether no route leads to a handle. -/
def Unrouted (e : Endpoint φ η ε ω) (k : Nat) : Prop := ∀ cid, e.routes.get? cid ≠ some k

/-- The identifiers that the connection of a handle lists; none, if there is no
connection. -/
def listAt (e : Endpoint φ η ε ω) (k : Nat) : List ConnectionId :=
  ((e.connections.get? k).map Entry.cids).getD []

theorem mem_listAt_iff :
    cid ∈ e.listAt k ↔ ∃ entry, e.connections.get? k = some entry ∧ cid ∈ entry.cids := by
  cases h : e.connections.get? k <;> simp [listAt, h]

theorem Routed.mem_listAt (h : e.Routed) (hroute : e.routes.get? cid = some k) :
    cid ∈ e.listAt k := mem_listAt_iff.2 (h.listed hroute)

/-- Whether a handle leads to a connection that is over. -/
def isOver (e : Endpoint φ η ε ω) (k : Nat) : Bool :=
  (e.connections.get? k).any (·.connection.isClosed)

theorem Routed.unrouted_of_vacant (h : e.Routed) (hvacant : e.connections.get? k = none) :
    e.Unrouted k := by
  intro cid hroute
  obtain ⟨entry, hget, -⟩ := h.listed hroute
  rw [hvacant] at hget
  cases hget

/-- Every step keeps the settings and the invariant, and makes only the routes
in `made`. -/
structure Keeps (made : ConnectionId → Nat → Prop) (e e' : Endpoint φ η ε ω) : Prop where
  settings : e'.settings = e.settings
  /-- the invariant -/
  routed : e.Routed → e'.Routed
  /-- a route that is there was there, or was made now -/
  origin {cid : ConnectionId} {k : Nat} : e'.routes.get? cid = some k →
    e.routes.get? cid = some k ∨ made cid k

/-- The routes that a step makes which makes none. -/
def noRoute (_ : ConnectionId) (_ : Nat) : Prop := False

/-- The routes that a step makes which opens connections: only to handles that
were free. -/
def toVacant (e : Endpoint φ η ε ω) (_ : ConnectionId) (k : Nat) : Prop :=
  e.connections.get? k = none

section

variable {made made' : ConnectionId → Nat → Prop}

theorem Keeps.refl (made : ConnectionId → Nat → Prop) (e : Endpoint φ η ε ω) : e.Keeps made e :=
  ⟨rfl, id, .inl⟩

/-- Routes made in either part are made in both. -/
theorem Keeps.trans (h : e.Keeps made e') (h' : e'.Keeps made e'') : e.Keeps made e'' where
  settings := h'.settings.trans h.settings
  routed hrouted := h'.routed (h.routed hrouted)
  origin hroute := by
    rcases h'.origin hroute with hroute | hmade
    · exact h.origin hroute
    · exact .inr hmade

theorem Keeps.mono (h : e.Keeps made e') (himp : ∀ cid k, made cid k → made' cid k) :
    e.Keeps made' e' where
  settings := h.settings
  routed := h.routed
  origin hroute := (h.origin hroute).imp_right (himp _ _)

theorem Keeps.of_noRoute (h : e.Keeps noRoute e') : e.Keeps made e' := h.mono fun _ _ => False.elim

/-! ## Steps that touch neither routes nor lists

Most of what an endpoint does is done to single connections. As long as the lists stay, so
does the invariant. -/

/-- Whether the same handles lead to connections, with the same lists, and the
routes are the same. -/
structure SameLists (e e' : Endpoint φ η ε ω) : Prop where
  settings : e'.settings = e.settings
  routes : e'.routes = e.routes
  cids (k : Nat) : (e'.connections.get? k).map Entry.cids = (e.connections.get? k).map Entry.cids

theorem SameLists.refl (e : Endpoint φ η ε ω) : e.SameLists e := ⟨rfl, rfl, fun _ => rfl⟩

theorem SameLists.trans (h : e.SameLists e') (h' : e'.SameLists e'') : e.SameLists e'' :=
  ⟨h'.settings.trans h.settings, h'.routes.trans h.routes, fun k => (h'.cids k).trans (h.cids k)⟩

theorem SameLists.vacant_iff (h : e.SameLists e') :
    e'.connections.get? k = none ↔ e.connections.get? k = none := by
  rw [← Option.map_eq_none_iff (f := Entry.cids), h.cids, Option.map_eq_none_iff]

theorem SameLists.size_le (h : e.SameLists e') : e'.size ≤ e.size := by
  apply Arena.size_le_of_subset
  intro k hk
  rw [Arena.mem_keys_iff, Option.isSome_iff_ne_none] at hk ⊢
  exact fun hnone => hk (h.vacant_iff.2 hnone)

theorem SameLists.listAt (h : e.SameLists e') (k : Nat) : e'.listAt k = e.listAt k :=
  congrArg (Option.getD · []) (h.cids k)

/-- Where routes and lists stay, everything is kept. -/
theorem SameLists.keeps (h : e.SameLists e') : e.Keeps made e' where
  settings := h.settings
  routed hrouted := by
    refine ⟨fun {cid k} hroute => mem_listAt_iff.1 ?_, ?_⟩
    · rw [h.listAt]
      exact hrouted.mem_listAt (h.routes ▸ hroute)
    · rw [h.settings]
      exact Nat.le_trans h.size_le hrouted.size_le
  origin hroute := .inl (h.routes ▸ hroute)

theorem SameLists.toVacant (h : e.SameLists e') (cid : ConnectionId) (k : Nat)
    (hvacant : e'.toVacant cid k) : e.toVacant cid k := h.vacant_iff.1 hvacant

/-! ### Changing connections

One entry is changed, or each of them once, or the one of a handle if it is there. -/

theorem update_of_vacant {α : Type} (h : e.connections.get? k = none)
    (f : Entry ε ω → StateM (HostState ω) (α × Entry ε ω)) (w : HostState ω) :
    e.update k f w = ((none, e), w) := by
  simp only [update, h]

theorem update_of_get? {α : Type} {entry : Entry ε ω} (h : e.connections.get? k = some entry)
    (f : Entry ε ω → StateM (HostState ω) (α × Entry ε ω)) (w : HostState ω) :
    e.update k f w = ((some (f entry w).1.1,
      { e with connections := e.connections.set k (f entry w).1.2 }), (f entry w).2) := by
  simp only [update, h]
  rfl

/-- An entry may change as long as its list stays. -/
theorem sameLists_set {entry entry' : Entry ε ω} (h : e.connections.get? k = some entry)
    (hcids : entry'.cids = entry.cids) :
    e.SameLists { e with connections := e.connections.set k entry' } := by
  refine ⟨rfl, rfl, fun j => ?_⟩
  simp only [Arena.get?_set]
  split
  · next hj => rw [hj.1, h, Option.map_some, Option.map_some, hcids]
  · rfl

/-- A change of a connection that leaves its list alone. -/
theorem sameLists_update {α : Type} {f : Entry ε ω → StateM (HostState ω) (α × Entry ε ω)}
    (hf : ∀ entry w, (f entry w).1.2.cids = entry.cids) (e : Endpoint φ η ε ω) (k : Nat)
    (w : HostState ω) : e.SameLists (e.update k f w).1.2 := by
  cases hget : e.connections.get? k with
  | none =>
    rw [update_of_vacant hget]
    exact .refl e
  | some entry =>
    rw [update_of_get? hget]
    exact sameLists_set hget (hf entry w)

/-- Updates of several entries that leave lists alone, by induction on their handles. -/
theorem sameLists_updateEach {α : Type}
    {f : Nat → Entry ε ω → StateM (HostState ω) (α × Entry ε ω)}
    (hf : ∀ k entry w, (f k entry w).1.2.cids = entry.cids) (e : Endpoint φ η ε ω)
    (ks : List Nat) (w : HostState ω) : e.SameLists (updateEach f e ks w).1.2 := by
  induction ks generalizing e w with
  | nil => exact .refl e
  | cons k rest ih => exact (sameLists_update (hf k) e k w).trans (ih _ _)

theorem sameLists_updateAll {α : Type}
    {f : Nat → Entry ε ω → StateM (HostState ω) (α × Entry ε ω)}
    (hf : ∀ k entry w, (f k entry w).1.2.cids = entry.cids) (e : Endpoint φ η ε ω)
    (w : HostState ω) : e.SameLists (e.updateAll f w).1.2 :=
  sameLists_updateEach hf e e.connections.keys w

theorem sameLists_withConnection {α : Type} (e : Endpoint φ η ε ω) (h : ConnectionHandle)
    (f : Connection ε (HostState ω) → StateM (HostState ω) (α × Connection ε (HostState ω)))
    (w : HostState ω) : e.SameLists (e.withConnection h f w).1.2 :=
  sameLists_update (fun _ _ => rfl) e h.key w

/-- Handing out datagrams leaves the lists alone. -/
theorem sameLists_pollTransmit [PacketEngine ε] (e : Endpoint φ η ε ω) (now : Instant)
    (w : HostState ω) : e.SameLists (e.pollTransmit now w).1.2 := by
  have hall := sameLists_updateAll (f := fun k (entry : Entry ε ω) w =>
    let r := entry.connection.produceDatagrams now w
    ((r.1.1.map (Transmit.mk ⟨k⟩ entry.peer), { entry with connection := r.1.2 }), r.2))
    (fun _ _ _ => rfl) e w
  exact hall

/-- Closing leaves the lists alone, until the connections are over. -/
theorem sameLists_closeAll [PacketEngine ε] (e : Endpoint φ η ε ω) (errorCode : Nat)
    (reason : Bytes) (now : Instant) (w : HostState ω) :
    e.SameLists (e.closeAll errorCode reason now w).1 := by
  apply sameLists_updateAll
  intro k entry w
  rfl

theorem sameLists_openChannel (e : Endpoint φ η ε ω) (w : HostState ω) :
    e.SameLists (e.openChannel w).1.2 := by
  have hall := sameLists_updateAll (f := fun k (entry : Entry ε ω) => pure ((), { entry with
      connection := entry.connection.modifyDispatcher
        (·.setConnectionHandler (channelHandler w.channels.length ⟨k⟩)) }))
    (fun _ _ _ => rfl) e { w with channels := w.channels ++
      [{ capacity := e.settings.endpoint.eventChannelCapacity }] }
  exact ⟨hall.settings, hall.routes, hall.cids⟩

theorem cids_runTimers [PacketEngine ε] (entry : Entry ε ω) (now : Instant) (w : HostState ω) :
    (runTimers entry now w).1.2.cids = entry.cids := by
  rw [runTimers]
  split <;> rfl

/-! ## Steps that change routes

A route is made together with a place in a list, and removed together with it, or removed
alone. -/

theorem listAt_set {entry : Entry ε ω} (h : e.connections.get? k = some entry)
    (entry' : Entry ε ω) (routes : Table ConnectionId Nat) (j : Nat) :
    listAt { e with connections := e.connections.set k entry', routes := routes } j =
      if j = k then entry'.cids else e.listAt j := by
  simp only [listAt, Arena.get?_set, h, Option.isSome_some, and_true]
  split <;> rfl

/-- A change of one list and of the routes keeps the invariant, if the routes to
that connection are listed now, and those to others were there before. -/
theorem Routed.set (hrouted : e.Routed) {entry entry' : Entry ε ω}
    {routes : Table ConnectionId Nat} (hget : e.connections.get? k = some entry)
    (hlisted : ∀ {cid}, routes.get? cid = some k → cid ∈ entry'.cids)
    (hothers : ∀ {cid j}, routes.get? cid = some j → j ≠ k → e.routes.get? cid = some j) :
    Routed { e with connections := e.connections.set k entry', routes := routes } := by
  refine ⟨fun {cid j} hroute => mem_listAt_iff.1 ?_, ?_⟩
  · rw [listAt_set hget]
    split
    · next hj => exact hlisted (hj ▸ hroute)
    · next hj => exact hrouted.mem_listAt (hothers hroute hj)
  · exact Nat.le_trans (Arena.size_set_le _ _ _) hrouted.size_le

theorem Routed.mem_cids (hrouted : e.Routed) {entry : Entry ε ω}
    (hget : e.connections.get? k = some entry) (hroute : e.routes.get? cid = some k) :
    cid ∈ entry.cids := by
  obtain ⟨entry', hget', hmem⟩ := hrouted.listed hroute
  obtain rfl := Option.some.inj (hget.symm.trans hget')
  exact hmem

/-- A route may be made to any connection, which lists it then. -/
theorem keeps_associate {h : ConnectionHandle} (heq : e.associate h cid = .ok e') :
    e.Keeps (fun cid' k => cid' = cid ∧ k = h.key) e' := by
  rw [associate, entry?] at heq
  cases hget : e.connections.get? h.key with
  | none =>
    rw [hget] at heq
    cases heq
  | some entry =>
    rw [hget] at heq
    obtain rfl := Except.ok.inj heq
    refine ⟨rfl, fun hrouted => hrouted.set hget ?_ ?_, ?_⟩
    · intro cid' hroute
      -- the identifier is listed once, whether or not it was listed before
      have hlisted : cid' = cid ∨ cid' ∈ entry.cids := by
        rw [Table.get?_insert] at hroute
        split at hroute
        · next hcid => exact .inl hcid
        · exact .inr (hrouted.mem_cids hget hroute)
      show cid' ∈ ite _ _ _
      split
      · next hmem =>
        rcases hlisted with rfl | hlisted
        · exact hmem
        · exact hlisted
      · rcases hlisted with rfl | hlisted
        · exact List.mem_append_right _ (List.mem_singleton_self _)
        · exact List.mem_append_left _ hlisted
    · intro cid' j hroute hj
      rw [Table.get?_insert] at hroute
      split at hroute
      · exact absurd (Option.some.inj hroute).symm hj
      · exact hroute
    · intro cid' j hroute
      simp only [Table.get?_insert] at hroute
      split at hroute
      · next hcid => exact .inr ⟨hcid, (Option.some.inj hroute).symm⟩
      · exact .inl hroute

/-- To remove an identifier removes its route and its place in the list, together. -/
theorem keeps_disassociate (e : Endpoint φ η ε ω) (cid : ConnectionId) :
    e.Keeps noRoute (e.disassociate cid).2 := by
  rw [disassociate]
  cases hroute : e.routes.get? cid with
  | none => exact .refl _ e
  | some k =>
    have hothers {cid' : ConnectionId} {j : Nat}
        (h : (e.routes.erase cid).get? cid' = some j) :
        cid' ≠ cid ∧ e.routes.get? cid' = some j := by
      rw [Table.get?_erase] at h
      split at h
      · cases h
      · next hne => exact ⟨hne, h⟩
    refine ⟨rfl, fun hrouted => ?_, fun h => .inl (hothers h).2⟩
    obtain ⟨entry, hget, -⟩ := hrouted.listed hroute
    simp only [hget]
    refine hrouted.set hget ?_ ?_
    · intro cid' h
      obtain ⟨hne, h⟩ := hothers h
      exact List.mem_filter.2 ⟨hrouted.mem_cids hget h, decide_eq_true hne⟩
    · intro cid' j h _
      exact (hothers h).2

/-! ### Removing routes

Whoever retires removes the routes of the identifiers it lists, as far as they lead to it.
Those that another connection has taken over stay. -/

/-- After several routes to one handle were erased, by induction on the identifiers. Those
that lead elsewhere stay. -/
theorem get?_eraseRoutes (routes : Table ConnectionId Nat) (k : Nat) (cids : List ConnectionId)
    (cid : ConnectionId) : (eraseRoutes routes k cids).get? cid =
      if cid ∈ cids ∧ routes.get? cid = some k then none else routes.get? cid := by
  induction cids generalizing routes with
  | nil => simp [eraseRoutes]
  | cons c rest ih =>
    have hcons : eraseRoutes routes k (c :: rest)
        = eraseRoutes (if routes.get? c = some k then routes.erase c else routes) k rest := rfl
    rw [hcons, ih]
    by_cases hc : routes.get? c = some k
    · rw [if_pos hc, Table.get?_erase]
      by_cases hcid : cid = c
      · subst hcid
        simp [hc]
      · simp [hcid]
    · rw [if_neg hc]
      by_cases hcid : cid = c
      · subst hcid
        simp [hc]
      · simp [hcid]

/-- To retire routes removes them from table and list together. -/
theorem keeps_retireRoutes (e : Endpoint φ η ε ω) (k : Nat) :
    e.Keeps noRoute (e.retireRoutes k) := by
  rw [retireRoutes]
  cases hget : e.connections.get? k with
  | none => exact .refl _ e
  | some entry =>
    have hothers {cid : ConnectionId} {j : Nat}
        (h : (eraseRoutes e.routes k entry.cids).get? cid = some j) :
        ¬(cid ∈ entry.cids ∧ e.routes.get? cid = some k) ∧ e.routes.get? cid = some j := by
      rw [get?_eraseRoutes] at h
      split at h
      · cases h
      · next hne => exact ⟨hne, h⟩
    refine ⟨rfl, fun hrouted => hrouted.set hget ?_ ?_, fun h => .inl (hothers h).2⟩
    · intro cid h
      obtain ⟨hne, h⟩ := hothers h
      exact absurd ⟨hrouted.mem_cids hget h, h⟩ hne
    · intro cid j h _
      exact (hothers h).2

/-- No route is left to a connection that was retired. -/
theorem unrouted_retireRoutes (hrouted : e.Routed) (k : Nat) : (e.retireRoutes k).Unrouted k := by
  intro cid hroute
  -- the connection lists nothing any more
  have hmem := ((keeps_retireRoutes e k).routed hrouted).mem_listAt hroute
  rw [retireRoutes] at hmem
  cases hget : e.connections.get? k with
  | none => simp [hget, listAt] at hmem
  | some entry =>
    simp only [hget] at hmem
    rw [listAt_set hget, if_pos rfl] at hmem
    cases hmem

/-- Retiring connections changes no connection. -/
theorem connection_retireRoutes (e : Endpoint φ η ε ω) (k j : Nat) :
    ((e.retireRoutes k).connections.get? j).map Entry.connection
      = (e.connections.get? j).map Entry.connection := by
  rw [retireRoutes]
  cases hget : e.connections.get? k with
  | none => rfl
  | some entry =>
    simp only [Arena.get?_set, hget, Option.isSome_some, and_true]
    split
    · next hj => rw [hj, hget]; rfl
    · rfl

/-- A slot that no route leads to can be emptied. -/
theorem keeps_vacate (hunrouted : e.Unrouted k) :
    e.Keeps noRoute { e with connections := e.connections.erase k } := by
  refine ⟨rfl, fun hrouted => ⟨fun {cid j} hroute => ?_, ?_⟩, .inl⟩
  · obtain ⟨entry, hget, hmem⟩ := hrouted.listed hroute
    refine ⟨entry, ?_, hmem⟩
    rw [Arena.get?_erase, if_neg, hget]
    rintro rfl
    exact hunrouted cid hroute
  · exact Nat.le_trans (Arena.size_erase_le _ _) hrouted.size_le

end

end QuicHost.Endpoint
