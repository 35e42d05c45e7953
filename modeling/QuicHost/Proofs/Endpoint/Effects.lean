import QuicHost.Proofs.Endpoint.Owners

/-!
# What a datagram may change

Datagrams come from anybody. Whatever one says, it changes the one connection
that its identifier leads to, or adds one, or changes nothing. `TakenBy` is the
first case and `Admits` the second; `Confined` reads off the outcome which of
the three it was.

Nothing is supposed of the endpoint: not that its routes are sound, nor that its factory
keeps to anything. So the statement also covers an endpoint that somebody misused, and a
forged datagram that takes the path of a genuine one.
-/

namespace QuicHost.Endpoint

variable {φ η ε ω : Type} {e e' : Endpoint φ η ε ω} {k : Nat}

/-! ## One connection takes the datagram

The connection changes as it does by taking the datagram in. Its routes may be gone
afterwards, if the datagram was its end. -/

/-- Whether an identifier is routed as before, or led to the connection of a
handle and leads nowhere now. -/
def RouteKept (e e' : Endpoint φ η ε ω) (k : Nat) (cid : ConnectionId) : Prop :=
  e'.routes.get? cid = e.routes.get? cid ∨
    e.routes.get? cid = some k ∧ e'.routes.get? cid = none

/-- A connection that is over loses its routes, and no other does. -/
theorem routeKept_retireRoutes (e : Endpoint φ η ε ω) (k : Nat) (cid : ConnectionId) :
    e.RouteKept (e.retireRoutes k) k cid := by
  rw [RouteKept, retireRoutes]
  cases hget : e.connections.get? k with
  | none => exact .inl rfl
  | some entry =>
    simp only [get?_eraseRoutes]
    split
    · next h => exact .inr ⟨h.2, rfl⟩
    · exact .inl rfl

/-- Retiring the routes of one connection leaves the others as they are. -/
theorem get?_retireRoutes_of_ne (e : Endpoint φ η ε ω) {j : Nat} (hj : j ≠ k) :
    (e.retireRoutes k).connections.get? j = e.connections.get? j := by
  rw [retireRoutes]
  cases hget : e.connections.get? k with
  | none => rfl
  | some entry => exact (Arena.get?_set _ _ _ _).trans (if_neg fun h => hj h.1)

section

variable [PacketEngine ε]

/-- The connection of a handle takes a datagram in and answers `r`. No other
connection changes, and only routes to this one may be gone. -/
structure TakenBy (e : Endpoint φ η ε ω) (k : Nat) (datagram : Bytes) (now : Instant)
    (w : HostState ω) (r : Except CallError Unit) (e' : Endpoint φ η ε ω) (w' : HostState ω) :
    Prop where
  /-- the connection took the datagram in, as it would alone -/
  ingested : ∃ entry c, e.connections.get? k = some entry ∧
    entry.connection.ingest datagram now w = ((r, c), w') ∧
    (e'.connections.get? k).map Entry.connection = some c
  /-- no other connection is touched -/
  others {j : Nat} : j ≠ k → e'.connections.get? j = e.connections.get? j
  /-- a route is what it was, or it led here and is gone -/
  routes (cid : ConnectionId) : e.RouteKept e' k cid

/-- Handing a datagram to a connection touches no other. -/
theorem takenBy_deliver {entry : Entry ε ω} (hget : e.connections.get? k = some entry)
    (datagram : Bytes) (now : Instant) (w : HostState ω) :
    ∃ r, (e.deliver k datagram now w).1.1 = outcomeOf k r ∧
      e.TakenBy k datagram now w r (e.deliver k datagram now w).1.2
        (e.deliver k datagram now w).2 := by
  rcases hingest : entry.connection.ingest datagram now w with ⟨⟨r, c⟩, w'⟩
  rw [deliver_of_get? hget hingest]
  refine ⟨r, rfl, ?_⟩
  have hthere : (e.withEntry k { entry with connection := c }).connections.get? k
      = some { entry with connection := c } := by
    rw [withEntry, Arena.get?_set, if_pos ⟨rfl, Option.isSome_iff_exists.2 ⟨entry, hget⟩⟩]
  have hothers {j : Nat} (hj : j ≠ k) :
      (e.withEntry k { entry with connection := c }).connections.get? j
        = e.connections.get? j := by
    rw [withEntry, Arena.get?_set, if_neg fun h => hj h.1]
  simp only
  split
  · refine ⟨⟨entry, c, hget, hingest, ?_⟩, fun hj => ?_, fun cid => ?_⟩
    · rw [connection_retireRoutes, hthere]
      rfl
    · exact (get?_retireRoutes_of_ne _ hj).trans (hothers hj)
    · exact routeKept_retireRoutes _ k cid
  · exact ⟨⟨entry, c, hget, hingest, congrArg _ hthere⟩, hothers, fun cid => .inl rfl⟩

end

/-! ## A connection is opened for the datagram

What opening comes to, with the identifier that was chosen and the engine that was made;
and then the newcomer takes the datagram in. -/

/-- With its events going to the channel, if there is one. -/
def wired (e : Endpoint φ η ε ω) (k : Nat) (c : Connection ε (HostState ω)) :
    Connection ε (HostState ω) :=
  match e.channel with
  | none => c
  | some channel => c.modifyDispatcher (·.setConnectionHandler (channelHandler channel ⟨k⟩))

/-- The connection that is opened for a header, around an engine. -/
def newcomer (e : Endpoint φ η ε ω) (k : Nat) (header : DatagramHeader) (scid : ConnectionId)
    (engine : ε) (now : Instant) : Connection ε (HostState ω) :=
  e.wired k (.new .server e.settings.connection scid (header.scid.getD .empty) engine now)

theorem state_newcomer (e : Endpoint φ η ε ω) (k : Nat) (header : DatagramHeader)
    (scid : ConnectionId) (engine : ε) (now : Instant) :
    (e.newcomer k header scid engine now).state = .initiating := by
  rw [newcomer, wired]
  split <;> rfl

section

variable [EngineFactory φ ε] [EntropySource η]

/-- An endpoint opens a connection for a header: it chooses an identifier, has an
engine made, and puts the connection under a free handle. -/
structure OpensFor (e : Endpoint φ η ε ω) (header : DatagramHeader) (peer : String)
    (now : Instant) (k : Nat) (scid : ConnectionId) (engine : ε) (e' : Endpoint φ η ε ω) :
    Prop where
  /-- an identifier was chosen -/
  chosen : e.chooseCid.1 = .ok scid
  /-- an engine was made for it -/
  made : (EngineFactory.newEngine e.factory .server scid (header.scid.getD .empty)
    e.settings.connection.localParameters).1 = .ok engine
  /-- the handle was free -/
  vacant : e.connections.get? k = none
  /-- the new connection, with the address that the datagram came from -/
  added : e'.connections.get? k
    = some ⟨e.newcomer k header scid engine now, peer, [scid, header.dcid]⟩
  /-- no other connection is touched -/
  others {j : Nat} : j ≠ k → e'.connections.get? j = e.connections.get? j
  /-- only routes of its two identifiers may change -/
  routes {cid : ConnectionId} : cid ∉ [scid, header.dcid] →
    e'.routes.get? cid = e.routes.get? cid

/-- What it takes to open a connection, in the order in which it is asked for. -/
theorem opensFor_acceptConnection {header : DatagramHeader} {peer : String} {now : Instant}
    {h : ConnectionHandle} (haccept : e.acceptConnection header peer now = (.ok h, e')) :
    ∃ scid engine, e.OpensFor header peer now h.key scid engine e' := by
  rw [acceptConnection] at haccept
  -- room, an identifier and an engine: each failure along the way leaves no connection to
  -- speak of
  cases hroom : e.checkCapacity with
  | error error =>
    rw [hroom] at haccept
    cases haccept
  | ok _ =>
    rw [hroom] at haccept
    rcases hscid : e.chooseCid with ⟨error | scid, e₁⟩
    · rw [hscid] at haccept
      cases haccept
    · rw [hscid] at haccept
      obtain rfl : e₁ = e.chooseCid.2 := (congrArg Prod.snd hscid).symm
      simp only [createConnection] at haccept
      rcases hengine : EngineFactory.newEngine e.chooseCid.2.factory .server scid
        (header.scid.getD .empty) e.chooseCid.2.settings.connection.localParameters with
        ⟨error | engine, factory⟩
      · rw [hengine] at haccept
        cases haccept
      · rw [hengine, Prod.mk.injEq, Except.ok.injEq] at haccept
        obtain ⟨rfl, rfl⟩ := haccept
        refine ⟨scid, engine, congrArg Prod.fst hscid, congrArg Prod.fst hengine,
          Arena.get?_next _, ?_, fun hj => ?_, fun hcid => ?_⟩
        · exact (Arena.get?_insert _ _ _).trans (if_pos rfl)
        · exact (Arena.get?_insert _ _ _).trans (if_neg hj)
        · exact (get?_foldl_insert _ _ _ _).trans (if_neg hcid)

variable [PacketEngine ε]

/-- An endpoint opens a connection for a datagram, under a handle that was free,
and the connection takes the datagram in. Nothing else happens to connections,
and only the routes of two identifiers may change. -/
structure Admits (e : Endpoint φ η ε ω) (datagram : Bytes) (peer : String) (now : Instant)
    (w : HostState ω) (h : ConnectionHandle) (e' : Endpoint φ η ε ω) (w' : HostState ω) :
    Prop where
  /-- opened first, and then handed the datagram -/
  opened : ∃ header scid engine e₁,
    EngineFactory.decodeHeader e.factory datagram e.generator.length = some header ∧
    e.OpensFor header peer now h.key scid engine e₁ ∧
    e₁.TakenBy h.key datagram now w (.ok ()) e' w' ∧
    ∀ cid, cid ∉ [scid, header.dcid] → e.RouteKept e' h.key cid
  /-- no other connection is touched -/
  others {j : Nat} : j ≠ h.key → e'.connections.get? j = e.connections.get? j

/-- A connection that is not over yet takes every datagram. -/
theorem ingest_ok_of_not_closed {c : Connection ε (HostState ω)} (hopen : c.state ≠ .closed)
    (datagram : Bytes) (now : Instant) (w : HostState ω) :
    (c.ingest datagram now w).1.1 = .ok () := by
  rw [Connection.ingest, if_neg hopen]
  split <;> rfl

/-- A connection that was just opened takes the datagram it was opened for. -/
theorem admits_deliver {header : DatagramHeader} {peer : String} {now : Instant}
    {h : ConnectionHandle} {datagram : Bytes}
    (hheader : EngineFactory.decodeHeader e.factory datagram e.generator.length = some header)
    (haccept : e.acceptConnection header peer now = (.ok h, e')) (w : HostState ω) :
    accepted (e'.deliver h.key datagram now w).1.1 = .accepted h ∧
      e.Admits datagram peer now w h (e'.deliver h.key datagram now w).1.2
        (e'.deliver h.key datagram now w).2 := by
  obtain ⟨scid, engine, hopens⟩ := opensFor_acceptConnection haccept
  obtain ⟨r, houtcome, htaken⟩ := takenBy_deliver hopens.added datagram now w
  have hok : r = .ok () := by
    obtain ⟨entry, c, hget, hingest, -⟩ := htaken.ingested
    obtain rfl := Option.some.inj (hopens.added.symm.trans hget)
    have hstate := state_newcomer e h.key header scid engine now
    have hnew := ingest_ok_of_not_closed (c := e.newcomer h.key header scid engine now)
      (by rw [hstate]; nofun) datagram now w
    rwa [hingest] at hnew
  subst hok
  refine ⟨by rw [houtcome]; rfl, ⟨header, scid, engine, e', hheader, hopens, htaken, ?_⟩, ?_⟩
  · intro cid hcid
    have hbefore := hopens.routes hcid
    have hkept := htaken.routes cid
    rwa [RouteKept, hbefore] at hkept
  · intro j hj
    exact (htaken.others hj).trans (hopens.others hj)

/-! ## The outcomes

The outcome is what the host is told. From it alone follows which connection may have
changed. -/

/-- What the outcome for a datagram promises about everything else. -/
structure Confined (e : Endpoint φ η ε ω) (datagram : Bytes) (peer : String) (now : Instant)
    (w : HostState ω) (r : (DatagramOutcome × Endpoint φ η ε ω) × HostState ω) : Prop where
  /-- what no connection took leaves all connections, all routes and the
  application as they were -/
  untaken : untaken r.1.1 = true →
    r.1.2.connections = e.connections ∧ r.1.2.routes = e.routes ∧ r.2 = w
  /-- what was accepted opened a connection, which took it in -/
  accepted {h : ConnectionHandle} : r.1.1 = .accepted h →
    e.Admits datagram peer now w h r.1.2 r.2
  /-- what was delivered was taken in by the connection that its identifier leads
  to -/
  delivered {h : ConnectionHandle} : r.1.1 = .delivered h →
    e.recipient? datagram = some h.key ∧ e.TakenBy h.key datagram now w (.ok ()) r.1.2 r.2
  /-- what came too late was refused by it -/
  closed : r.1.1 = .dropped .connectionClosed →
    ∃ k error, e.recipient? datagram = some k ∧
      e.TakenBy k datagram now w (.error error) r.1.2 r.2
  /-- every other connection is as it was -/
  others {j : Nat} : r.1.1 ≠ .accepted ⟨j⟩ → e.recipient? datagram ≠ some j →
    r.1.2.connections.get? j = e.connections.get? j

/-- What is handed to the connection that its identifier leads to. -/
theorem confined_deliver {datagram : Bytes} (hrecipient : e.recipient? datagram = some k)
    (peer : String) (now : Instant) (w : HostState ω) :
    e.Confined datagram peer now w (e.deliver k datagram now w) := by
  cases hget : e.connections.get? k with
  | none =>
    rw [deliver_of_vacant hget]
    exact ⟨fun _ => ⟨rfl, rfl, rfl⟩, nofun, nofun, nofun, fun _ _ => rfl⟩
  | some entry =>
    obtain ⟨r, houtcome, htaken⟩ := takenBy_deliver hget datagram now w
    have hothers {j : Nat} (hj : e.recipient? datagram ≠ some j) :=
      htaken.others (j := j) fun heq => hj (heq ▸ hrecipient)
    cases r with
    | ok _ =>
      refine ⟨?_, ?_, ?_, ?_, fun _ => hothers⟩ <;> rw [houtcome]
      · nofun
      · nofun
      · rintro _ ⟨rfl⟩
        exact ⟨hrecipient, htaken⟩
      · nofun
    | error error =>
      refine ⟨?_, ?_, ?_, fun _ => ⟨k, error, hrecipient, htaken⟩, fun _ => hothers⟩ <;>
        rw [houtcome] <;> nofun

end

/-- **A datagram changes one connection at most.** Whatever an endpoint is in the
middle of, whatever its factory answers, and whatever the datagram is: an outcome
that says that nobody took it leaves every connection and every route as they
were; one that was accepted is for a connection that was opened under a free
handle and took it in; one that was delivered, or was too late, concerns the
connection its identifier led to, and only that one's routes may be gone. All
other connections are as they were. -/
theorem confined_handleDatagram [EngineFactory φ ε] [PacketEngine ε] [EntropySource η]
    (e : Endpoint φ η ε ω) (datagram : Bytes) (peer : String) (now : Instant)
    (w : HostState ω) :
    e.Confined datagram peer now w (e.handleDatagram datagram peer now w) := by
  have htakes := takes_handleDatagram e datagram peer now w
  -- the three ways to take a datagram: to its owner, by a newcomer, or not at all
  generalize e.handleDatagram datagram peer now w = r at htakes
  cases htakes with
  | handed hrecipient => exact confined_deliver hrecipient peer now w
  | @opened header h e' hheader hrecipient haccept =>
    obtain ⟨houtcome, hadmits⟩ := admits_deliver hheader haccept w
    rw [houtcome]
    refine ⟨nofun, ?_, nofun, nofun, fun hj _ => hadmits.others ?_⟩
    · rintro _ ⟨rfl⟩
      exact hadmits
    · rintro rfl
      exact hj rfl
  | ignored hrecipient hsame houtcome =>
    refine ⟨fun _ => ⟨hsame.connections, hsame.routes, rfl⟩, ?_, ?_, ?_, fun _ _ => ?_⟩
    · rintro _ ⟨rfl⟩
      cases houtcome
    · rintro _ ⟨rfl⟩
      cases houtcome
    · rintro ⟨rfl⟩
      cases houtcome
    · exact congrArg (Arena.get? · _) hsame.connections

end QuicHost.Endpoint
