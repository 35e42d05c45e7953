import QuicHost.Proofs.Endpoint.Routing

/-!
# Who receives a datagram

A datagram is handed to the connection that its identifier leads to, which is
there because of the invariant of the routes, or to a new connection. `Takes`
says what may become of it, and `Opens` what opening a connection comes to.
Whoever received a datagram and is over now is not found any more.

The routes are those of `Routing`, and what a connection does with a datagram is not
looked at here: a connection that is handed one comes back as some connection, perhaps
closed, and its routes are then retired. That is all the endpoint itself decides.
-/

namespace QuicHost.Endpoint

variable {φ η ε ω : Type} {e e' e'' : Endpoint φ η ε ω} {k : Nat} {cid : ConnectionId}

/-- Whether a connection that is over has no routes any more. -/
def Retired (e : Endpoint φ η ε ω) (k : Nat) : Prop := e.isOver k = true → e.Unrouted k

theorem isOver_eq (e : Endpoint φ η ε ω) (k : Nat) : e.isOver k =
    ((e.connections.get? k).map Entry.connection).any Connection.isClosed := by
  rw [isOver, Option.any_map]

theorem isOver_retireRoutes (e : Endpoint φ η ε ω) (k j : Nat) :
    (e.retireRoutes k).isOver j = e.isOver j := by
  rw [isOver_eq, isOver_eq, connection_retireRoutes]

/-! ## Opening connections

A connection that is opened takes a handle that was free. If it is not opened, nothing but
entropy was used. -/

/-- After several identifiers were routed to one handle, by induction on them. -/
theorem get?_foldl_insert (routes : Table ConnectionId Nat) (k : Nat) (cids : List ConnectionId)
    (cid : ConnectionId) :
    (cids.foldl (fun routes cid => routes.insert cid k) routes).get? cid =
      if cid ∈ cids then some k else routes.get? cid := by
  induction cids generalizing routes with
  | nil => simp
  | cons c rest ih =>
    rw [List.foldl_cons, ih, Table.get?_insert]
    by_cases hcid : cid = c <;> simp [hcid]

/-- The connection is added under a free handle, and nothing else happens to
connections. -/
theorem exists_add (e : Endpoint φ η ε ω) (c : Connection ε (HostState ω)) (peer : String)
    (cids : List ConnectionId) : (e.add c peer cids).1 = ⟨e.connections.next⟩ ∧
      ∃ c', (e.add c peer cids).2 = { e with
        connections := e.connections.insert ⟨c', peer, cids⟩
        routes := cids.foldl (fun routes cid => routes.insert cid e.connections.next) e.routes } :=
  ⟨rfl, _, rfl⟩

/-- A connection that is added takes a handle that was free, and makes routes to it alone. -/
theorem keeps_add (hroom : e.checkCapacity = .ok ()) (c : Connection ε (HostState ω))
    (peer : String) (cids : List ConnectionId) : e.Keeps e.toVacant (e.add c peer cids).2 := by
  obtain ⟨-, c', heq⟩ := exists_add e c peer cids
  rw [heq]
  refine ⟨rfl, fun hrouted => ⟨fun {cid k} hroute => ?_, ?_⟩, fun {cid k} hroute => ?_⟩
  · rw [get?_foldl_insert] at hroute
    rw [Arena.get?_insert]
    split at hroute
    · next hmem =>
      obtain rfl := Option.some.inj hroute
      exact ⟨_, if_pos rfl, hmem⟩
    · obtain ⟨entry, hget, hmem⟩ := hrouted.listed hroute
      refine ⟨entry, ?_, hmem⟩
      rw [if_neg, hget]
      rintro rfl
      rw [Arena.get?_next] at hget
      cases hget
  · rw [checkCapacity] at hroom
    split at hroom
    · cases hroom
    · next hlt => exact Nat.le_trans (Arena.size_insert_le _ _) (Nat.lt_of_not_le hlt)
  · simp only [get?_foldl_insert] at hroute
    split at hroute
    · obtain rfl := Option.some.inj hroute
      exact .inr (Arena.get?_next _)
    · exact .inl hroute

/-- Whether only the factory and the source of entropy may have changed. -/
structure SameState (e e' : Endpoint φ η ε ω) : Prop where
  settings : e'.settings = e.settings
  connections : e'.connections = e.connections
  routes : e'.routes = e.routes

theorem SameState.refl (e : Endpoint φ η ε ω) : e.SameState e := ⟨rfl, rfl, rfl⟩

theorem SameState.trans (h : e.SameState e') (h' : e'.SameState e'') : e.SameState e'' :=
  ⟨h'.settings.trans h.settings, h'.connections.trans h.connections, h'.routes.trans h.routes⟩

theorem SameState.sameLists (h : e.SameState e') : e.SameLists e' :=
  ⟨h.settings, h.routes, fun k => by rw [h.connections]⟩

theorem SameState.checkCapacity (h : e.SameState e') : e'.checkCapacity = e.checkCapacity := by
  rw [Endpoint.checkCapacity, Endpoint.checkCapacity, size, size, h.settings, h.connections]

/-- Opening a connection: as far as connections and routes go, nothing happens
if it fails, and else one connection is added under a free handle. -/
inductive Opens (e : Endpoint φ η ε ω) :
    Except EndpointError ConnectionHandle × Endpoint φ η ε ω → Prop where
  /-- no connection was opened -/
  | failed {error : EndpointError} {e' : Endpoint φ η ε ω} (hsame : e.SameState e') :
      Opens e (.error error, e')
  /-- a connection was opened -/
  | opened {e' : Endpoint φ η ε ω} (hsame : e.SameState e') (hroom : e.checkCapacity = .ok ())
      (c : Connection ε (HostState ω)) (peer : String) (cids : List ConnectionId) :
      Opens e (.ok (e'.add c peer cids).1, (e'.add c peer cids).2)

/-- Opening a connection, or failing to, makes no route but to a handle that was free. -/
theorem Opens.keeps {r : Except EndpointError ConnectionHandle × Endpoint φ η ε ω}
    (h : e.Opens r) : e.Keeps e.toVacant r.2 := by
  cases h with
  | failed hsame => exact hsame.sameLists.keeps
  | @opened e' hsame hroom c peer cids =>
    have hadd : e'.Keeps e'.toVacant (e'.add c peer cids).2 :=
      keeps_add (hsame.checkCapacity.trans hroom) c peer cids
    exact hsame.sameLists.keeps.trans (hadd.mono hsame.sameLists.toVacant)

/-- A connection that was opened is there. -/
theorem Opens.exists_get? {h : ConnectionHandle} (hopens : e.Opens (.ok h, e')) :
    e.connections.get? h.key = none ∧ (∃ entry, e'.connections.get? h.key = some entry) ∧
      ∀ j, j ≠ h.key → e'.connections.get? j = e.connections.get? j := by
  generalize heq : (Except.ok h, e') = r at hopens
  cases hopens with
  | failed _ => cases heq
  | @opened e₁ hsame _ c peer cids =>
    obtain ⟨hkey, c', hadd⟩ := exists_add e₁ c peer cids
    simp only [Prod.mk.injEq, Except.ok.injEq] at heq
    obtain ⟨rfl, rfl⟩ := heq
    rw [hkey, hadd, ← hsame.connections]
    refine ⟨Arena.get?_next _, ⟨_, (Arena.get?_insert _ _ _).trans (if_pos rfl)⟩, ?_⟩
    intro j hj
    exact (Arena.get?_insert _ _ _).trans (if_neg hj)

theorem sameState_chooseCid [EntropySource η] (e : Endpoint φ η ε ω) : e.SameState e.chooseCid.2 :=
  ⟨rfl, rfl, rfl⟩

section

variable [EngineFactory φ ε]

/-- Creating a connection opens it, or leaves the endpoint as it was. -/
theorem opens_createConnection (hsame : e.SameState e') (hroom : e.checkCapacity = .ok ())
    (side : Side) (scid dcid : ConnectionId) (others : List ConnectionId) (peer : String)
    (now : Instant) : e.Opens (e'.createConnection side scid dcid others peer now) := by
  rw [createConnection]
  rcases EngineFactory.newEngine e'.factory side scid dcid
    e'.settings.connection.localParameters with ⟨error | engine, factory⟩
  · exact .failed (hsame.trans ⟨rfl, rfl, rfl⟩)
  · have hmade : e.SameState { e' with factory := factory } := hsame.trans ⟨rfl, rfl, rfl⟩
    exact .opened hmade hroom (.new side e'.settings.connection scid dcid engine now) peer
      (scid :: others)

variable [EntropySource η]

/-- Connecting opens a connection, or leaves the endpoint as it was. -/
theorem opens_connect (e : Endpoint φ η ε ω) (peer : String) (now : Instant) :
    e.Opens (e.connect peer now) := by
  rw [connect]
  cases hroom : e.checkCapacity with
  | error error => exact .failed (.refl e)
  | ok _ =>
    have hfirst := sameState_chooseCid e
    rcases hscid : e.chooseCid with ⟨error | scid, e₁⟩ <;> rw [hscid] at hfirst
    · exact .failed hfirst
    · have hsecond := hfirst.trans (sameState_chooseCid e₁)
      rcases hdcid : e₁.chooseCid with ⟨error | dcid, e₂⟩ <;> rw [hdcid] at hsecond
      · simp only [hdcid]
        exact .failed hsecond
      · simp only [hdcid]
        exact opens_createConnection hsecond hroom .client scid dcid [] peer now

/-- Accepting opens a connection, or leaves the endpoint as it was. -/
theorem opens_acceptConnection (e : Endpoint φ η ε ω) (header : DatagramHeader) (peer : String)
    (now : Instant) : e.Opens (e.acceptConnection header peer now) := by
  rw [acceptConnection]
  cases hroom : e.checkCapacity with
  | error error => exact .failed (.refl e)
  | ok _ =>
    have hfirst := sameState_chooseCid e
    rcases hscid : e.chooseCid with ⟨error | scid, e₁⟩ <;> rw [hscid] at hfirst
    · exact .failed hfirst
    · exact opens_createConnection hfirst hroom .server scid (header.scid.getD .empty)
        [header.dcid] peer now

theorem opens_of_acceptConnection {header : DatagramHeader} {peer : String} {now : Instant}
    {h : ConnectionHandle} (haccept : e.acceptConnection header peer now = (.ok h, e')) :
    e.Opens (.ok h, e') :=
  haccept ▸ opens_acceptConnection e header peer now

end

/-! ## Handing in datagrams

A datagram is decoded, and its identifier looked up. What leads nowhere may be answered,
or open a connection. -/

section

variable [PacketEngine ε]

theorem deliver_of_vacant (hget : e.connections.get? k = none) (datagram : Bytes) (now : Instant)
    (w : HostState ω) :
    e.deliver k datagram now w = ((.dropped .unknownConnection, e), w) := by
  simp only [deliver, withConnection, update_of_vacant hget]

/-- What becomes of a datagram for an occupied slot. -/
def outcomeOf (k : Nat) : Except CallError Unit → DatagramOutcome
  | .ok () => .delivered ⟨k⟩
  | .error _ => .dropped .connectionClosed

/-- With a connection of a handle replaced. -/
def withEntry (e : Endpoint φ η ε ω) (k : Nat) (entry : Entry ε ω) : Endpoint φ η ε ω :=
  { e with connections := e.connections.set k entry }

/-- A datagram goes to the connection of its handle, whose routes are retired if that was
its end. -/
theorem deliver_of_get? {entry : Entry ε ω} (hget : e.connections.get? k = some entry)
    {datagram : Bytes} {now : Instant} {w w' : HostState ω} {r : Except CallError Unit}
    {c : Connection ε (HostState ω)}
    (hingest : entry.connection.ingest datagram now w = ((r, c), w')) :
    e.deliver k datagram now w =
      ((outcomeOf k r,
        if (e.withEntry k { entry with connection := c }).isOver k
        then (e.withEntry k { entry with connection := c }).retireRoutes k
        else e.withEntry k { entry with connection := c }), w') := by
  simp only [deliver, withConnection, update_of_get? hget, hingest]
  cases r <;> rfl

/-- The slot is occupied where a datagram is handed to a connection, so it is
answered by that connection. -/
theorem exists_outcomeOf_deliver {entry : Entry ε ω} (hget : e.connections.get? k = some entry)
    (datagram : Bytes) (now : Instant) (w : HostState ω) :
    ∃ r, (e.deliver k datagram now w).1.1 = outcomeOf k r := by
  rcases hingest : entry.connection.ingest datagram now w with ⟨⟨r, c⟩, w'⟩
  rw [deliver_of_get? hget hingest]
  exact ⟨r, rfl⟩

/-- Delivering makes no route. -/
theorem keeps_deliver (e : Endpoint φ η ε ω) (k : Nat) (datagram : Bytes) (now : Instant)
    (w : HostState ω) : e.Keeps noRoute (e.deliver k datagram now w).1.2 := by
  cases hget : e.connections.get? k with
  | none =>
    rw [deliver_of_vacant hget]
    exact .refl _ e
  | some entry =>
    rcases hingest : entry.connection.ingest datagram now w with ⟨⟨r, c⟩, w'⟩
    rw [deliver_of_get? hget hingest]
    have hsame : e.SameLists (e.withEntry k { entry with connection := c }) :=
      sameLists_set hget rfl
    simp only
    split
    · exact hsame.keeps.trans (keeps_retireRoutes _ k)
    · exact hsame.keeps

/-- A connection that was handed a datagram is not found any more if it is over.
-/
theorem retired_deliver (hrouted : e.Routed) (k : Nat) (datagram : Bytes) (now : Instant)
    (w : HostState ω) : (e.deliver k datagram now w).1.2.Retired k := by
  cases hget : e.connections.get? k with
  | none =>
    rw [deliver_of_vacant hget]
    exact fun _ => hrouted.unrouted_of_vacant hget
  | some entry =>
    rcases hingest : entry.connection.ingest datagram now w with ⟨⟨r, c⟩, w'⟩
    rw [deliver_of_get? hget hingest]
    have hsame : e.SameLists (e.withEntry k { entry with connection := c }) :=
      sameLists_set hget rfl
    have hkept : e.Keeps noRoute (e.withEntry k { entry with connection := c }) := hsame.keeps
    simp only
    split
    · exact fun _ => unrouted_retireRoutes (hkept.routed hrouted) k
    · next hopen => exact fun hover => absurd hover hopen

/-- Slots that are free stay free. -/
theorem vacant_deliver (e : Endpoint φ η ε ω) (k : Nat) (datagram : Bytes) (now : Instant)
    (w : HostState ω) {j : Nat} (hvacant : e.connections.get? j = none) :
    (e.deliver k datagram now w).1.2.connections.get? j = none := by
  cases hget : e.connections.get? k with
  | none =>
    rw [deliver_of_vacant hget]
    exact hvacant
  | some entry =>
    rcases hingest : entry.connection.ingest datagram now w with ⟨⟨r, c⟩, w'⟩
    rw [deliver_of_get? hget hingest]
    have hsame : e.SameLists (e.withEntry k { entry with connection := c }) :=
      sameLists_set hget rfl
    have hset := hsame.vacant_iff.2 hvacant
    simp only
    split
    · rw [← Option.map_eq_none_iff (f := Entry.connection), connection_retireRoutes, hset]
      rfl
    · exact hset

end

/-! ## Taking in datagrams

Whoever takes the datagram was found by its route, or has just been opened. -/

/-- The connection that a datagram's identifier leads to. -/
def recipient? [EngineFactory φ ε] (e : Endpoint φ η ε ω) (datagram : Bytes) : Option Nat :=
  (EngineFactory.decodeHeader e.factory datagram e.generator.length).bind fun header =>
    e.routes.get? header.dcid

/-- The connection that a datagram's identifier leads to is there. -/
theorem Routed.exists_get?_of_recipient [EngineFactory φ ε] {datagram : Bytes} (h : e.Routed)
    (hrecipient : e.recipient? datagram = some k) : ∃ entry, e.connections.get? k = some entry := by
  obtain ⟨header, -, hroute⟩ := Option.bind_eq_some_iff.1 hrecipient
  obtain ⟨entry, hget, -⟩ := h.listed hroute
  exact ⟨entry, hget⟩

/-- Whether an outcome says that no connection took the datagram. -/
def untaken : DatagramOutcome → Bool
  | .delivered _ => false
  | .accepted _ => false
  | .dropped reason => reason != .connectionClosed
  | _ => true

/-- An answer to the unknown is not taken by anybody. -/
theorem sameState_answerUnknown [EntropySource η] (e : Endpoint φ η ε ω) (cid : ConnectionId)
    (size : Nat) :
    e.SameState (e.answerUnknown cid size).2 ∧ untaken (e.answerUnknown cid size).1 = true := by
  rw [answerUnknown]
  split
  · exact ⟨.refl e, rfl⟩
  · rcases e.generator.statelessReset cid size e.entropy with ⟨_ | _ | packet, entropy⟩ <;>
      exact ⟨⟨rfl, rfl, rfl⟩, rfl⟩

section

variable [EngineFactory φ ε] [PacketEngine ε] [EntropySource η]

/-- What is answered for a datagram that opened a connection. -/
def accepted : DatagramOutcome → DatagramOutcome
  | .delivered h => .accepted h
  | other => other

/-- Taking in a datagram: it is handed to the connection that its identifier
leads to, or a connection is opened for it and it is handed to that, or nothing
happens to connections and routes. -/
inductive Takes (e : Endpoint φ η ε ω) (datagram : Bytes) (peer : String) (now : Instant)
    (w : HostState ω) : (DatagramOutcome × Endpoint φ η ε ω) × HostState ω → Prop where
  /-- the identifier leads to a connection -/
  | handed {k : Nat} (hrecipient : e.recipient? datagram = some k) :
      Takes e datagram peer now w (e.deliver k datagram now w)
  /-- a connection was opened for it -/
  | opened {header : DatagramHeader} {h : ConnectionHandle} {e' : Endpoint φ η ε ω}
      (hheader : EngineFactory.decodeHeader e.factory datagram e.generator.length = some header)
      (hrecipient : e.recipient? datagram = none)
      (haccept : e.acceptConnection header peer now = (.ok h, e')) :
      Takes e datagram peer now w ((accepted (e'.deliver h.key datagram now w).1.1,
        (e'.deliver h.key datagram now w).1.2), (e'.deliver h.key datagram now w).2)
  /-- nothing happened -/
  | ignored {e' : Endpoint φ η ε ω} {outcome : DatagramOutcome}
      (hrecipient : e.recipient? datagram = none) (hsame : e.SameState e')
      (houtcome : untaken outcome = true) :
      Takes e datagram peer now w ((outcome, e'), w)

/-- A datagram for nobody opens a connection, if its header lets it, and is then delivered
to it. -/
theorem takes_acceptDatagram {datagram : Bytes} {header : DatagramHeader}
    (hheader : EngineFactory.decodeHeader e.factory datagram e.generator.length = some header)
    (hrecipient : e.recipient? datagram = none) (peer : String) (now : Instant)
    (w : HostState ω) :
    e.Takes datagram peer now w (e.acceptDatagram header datagram peer now w) := by
  have hopens := opens_acceptConnection e header peer now
  rw [acceptDatagram]
  rcases haccept : e.acceptConnection header peer now with ⟨error | h, e'⟩ <;>
    rw [haccept] at hopens
  · have hsame : e.SameState e' := by
      cases hopens with
      | failed hsame => exact hsame
    cases error <;> exact .ignored hrecipient hsame rfl
  · exact .opened hheader hrecipient haccept

/-- A datagram is dropped, answered, taken by its recipient, or opens a connection. The
cases are those of the outcome. -/
theorem takes_handleDatagram (e : Endpoint φ η ε ω) (datagram : Bytes) (peer : String)
    (now : Instant) (w : HostState ω) :
    e.Takes datagram peer now w (e.handleDatagram datagram peer now w) := by
  rw [handleDatagram]
  cases hdecode : EngineFactory.decodeHeader e.factory datagram e.generator.length with
  | none =>
    have hrecipient : e.recipient? datagram = none := by rw [recipient?, hdecode]; rfl
    exact .ignored hrecipient (.refl e) rfl
  | some header =>
    have hroute : e.recipient? datagram = e.routes.get? header.dcid := by
      rw [recipient?, hdecode]
      rfl
    simp only
    -- a route decides before the version is looked at; the version only matters to a
    -- datagram for no one
    cases hget : e.routes.get? header.dcid with
    | some k => exact .handed (hroute.trans hget)
    | none =>
      have hrecipient := hroute.trans hget
      simp only
      cases header.version with
      | none =>
        obtain ⟨hsame, houtcome⟩ := sameState_answerUnknown e header.dcid datagram.length
        exact .ignored hrecipient hsame houtcome
      | some version =>
        simp only
        split
        · split
          · exact .ignored hrecipient (.refl e) rfl
          · exact .ignored hrecipient (.refl e) rfl
        · split
          · exact takes_acceptDatagram hdecode hrecipient peer now w
          · exact .ignored hrecipient (.refl e) rfl

end

section

variable [EngineFactory φ ε] [PacketEngine ε] [EntropySource η] {datagram : Bytes} {peer : String}
  {now : Instant} {w : HostState ω} {r : (DatagramOutcome × Endpoint φ η ε ω) × HostState ω}

/-- No case makes a route but to a handle that was free. -/
theorem Takes.keeps (h : e.Takes datagram peer now w r) : e.Keeps e.toVacant r.1.2 := by
  cases h with
  | handed _ => exact (keeps_deliver e _ datagram now w).of_noRoute
  | opened _ _ haccept =>
    exact (opens_of_acceptConnection haccept).keeps.trans
      (keeps_deliver _ _ datagram now w).of_noRoute
  | ignored _ hsame _ => exact hsame.sameLists.keeps

/-- The connection that received a datagram is not found any more if it is over,
be it the one that the identifier led to or a new one. -/
theorem Takes.retired (h : e.Takes datagram peer now w r) (hrouted : e.Routed)
    (hreceives : e.recipient? datagram = some k ∨ e.connections.get? k = none) :
    r.1.2.Retired k := by
  have hafter := h.keeps.routed hrouted
  cases h with
  | @handed k' hrecipient =>
    rcases hreceives with hk | hvacant
    · obtain rfl := Option.some.inj (hrecipient.symm.trans hk)
      exact retired_deliver hrouted k' datagram now w
    · exact fun _ => hafter.unrouted_of_vacant (vacant_deliver e k' datagram now w hvacant)
  | @opened _ h e' _ hrecipient haccept =>
    have hopens := opens_of_acceptConnection haccept
    rcases hreceives with hk | hvacant
    · rw [hrecipient] at hk
      cases hk
    · by_cases hk : k = h.key
      · subst hk
        exact retired_deliver (hopens.keeps.routed hrouted) h.key datagram now w
      · have hvacant' := (hopens.exists_get?.2.2 k hk).trans hvacant
        exact fun _ => hafter.unrouted_of_vacant (vacant_deliver e' h.key datagram now w hvacant')
  | ignored hrecipient hsame _ =>
    rcases hreceives with hk | hvacant
    · rw [hrecipient] at hk
      cases hk
    · exact fun _ => hafter.unrouted_of_vacant ((congrArg (Arena.get? · k) hsame.connections).trans
        hvacant)

/-- A datagram goes to a connection that was there before only along a route. -/
theorem Takes.recipient_of_delivered (h : e.Takes datagram peer now w r) (hrouted : e.Routed)
    (hdelivered : r.1.1 = .delivered ⟨k⟩) : e.recipient? datagram = some k := by
  cases h with
  | @handed k' hrecipient =>
    obtain ⟨entry, hget⟩ := hrouted.exists_get?_of_recipient hrecipient
    obtain ⟨answer, hanswer⟩ := exists_outcomeOf_deliver hget datagram now w
    rw [hanswer] at hdelivered
    cases answer with
    | ok _ =>
      obtain rfl := congrArg ConnectionHandle.key (DatagramOutcome.delivered.inj hdelivered)
      exact hrecipient
    | error _ => cases hdelivered
  | @opened _ h e' _ _ _ =>
    generalize (e'.deliver h.key datagram now w).1.1 = outcome at hdelivered
    cases outcome <;> cases hdelivered
  | ignored _ _ houtcome =>
    obtain rfl := hdelivered
    cases houtcome

/-- Whoever hands a datagram to a connection finds it there: that the identifier
is unknown is answered only if there is no route, and opens no connection. -/
theorem Takes.unknown (h : e.Takes datagram peer now w r) (hrouted : e.Routed)
    (hunknown : r.1.1 = .dropped .unknownConnection) :
    e.recipient? datagram = none ∧ r.1.2.connections = e.connections := by
  have hnever {k : Nat} {e' : Endpoint φ η ε ω} (hget : ∃ entry, e'.connections.get? k = some entry)
      {f : DatagramOutcome → DatagramOutcome}
      (hf : ∀ answer, f (outcomeOf k answer) ≠ .dropped .unknownConnection) :
      f (e'.deliver k datagram now w).1.1 ≠ .dropped .unknownConnection := by
    obtain ⟨entry, hget⟩ := hget
    obtain ⟨answer, hanswer⟩ := exists_outcomeOf_deliver hget datagram now w
    rw [hanswer]
    exact hf answer
  cases h with
  | handed hrecipient =>
    refine absurd hunknown (hnever (f := id) (hrouted.exists_get?_of_recipient hrecipient) ?_)
    intro answer
    cases answer <;> nofun
  | opened _ _ haccept =>
    have hthere := (opens_of_acceptConnection haccept).exists_get?.2.1
    refine absurd hunknown (hnever (f := accepted) hthere ?_)
    intro answer
    cases answer <;> nofun
  | ignored hrecipient hsame _ => exact ⟨hrecipient, hsame.connections⟩

end

end QuicHost.Endpoint
