import QuicHost.Proofs.Endpoint.Effects

/-!
# What newcomers do to the routes of others

A connection that is created gets an identifier that was chosen at random, and is entered
into the routes with it. A server is entered with the identifier as well that the peer
began with; this one leads nowhere before, or else the datagram would have gone there.
But nobody asks where the identifier leads that was chosen. If it leads to some
connection already, the newcomer takes the route over, and what is sent to the other
connection reaches it no longer.

`Welcomes` says what becomes of the routes that were there: they stay, all but the one
of the identifier that was chosen, if there is one (`routes_beside_newcomers`).
-/

namespace QuicHost.Endpoint

variable {φ η ε ω : Type} {e e' e'' : Endpoint φ η ε ω} {h : ConnectionHandle}
  {peer : String} {now : Instant}

/-- Whether all routes lead where they led before. -/
def Spares (e e' : Endpoint φ η ε ω) : Prop :=
  ∀ cid k, e.routes.get? cid = some k → e'.routes.get? cid = some k

section

variable [EntropySource η]

/-- A connection was created under a handle that was free, with an identifier that was
chosen for it. The routes that were there stay, but for the one of this identifier. -/
structure Welcomes (e : Endpoint φ η ε ω) (h : ConnectionHandle) (e' : Endpoint φ η ε ω) :
    Prop where
  /-- the handle was free -/
  vacant : e.connections.get? h.key = none
  /-- only the route of the chosen identifier may be taken from somebody -/
  chosen : ∃ scid, e.chooseCid.1 = .ok scid ∧
    ∀ cid k, e.routes.get? cid = some k → (e'.routes.get? cid = some k ↔ cid ≠ scid)

/-- All routes are spared if the identifier that was chosen led nowhere, and only then. -/
theorem Welcomes.spares_iff (hw : e.Welcomes h e') :
    e.Spares e' ↔ ∀ scid, e.chooseCid.1 = .ok scid → e.routes.get? scid = none := by
  obtain ⟨scid, hchosen, hroutes⟩ := hw.chosen
  constructor
  · intro hspares scid' hchosen'
    obtain rfl := Except.ok.inj (hchosen.symm.trans hchosen')
    cases hroute : e.routes.get? scid with
    | none => rfl
    | some k => exact absurd rfl ((hroutes scid k hroute).1 (hspares scid k hroute))
  · intro hfresh cid k hroute
    refine (hroutes cid k hroute).2 ?_
    rintro rfl
    rw [hfresh cid hchosen] at hroute
    cases hroute

/-! ## Entering a connection

The identifiers of a newcomer are routed to it in order. Those that led elsewhere before
lead to the newcomer now, and nothing is removed from the list of the one they led to. -/

/-- A connection is entered under a handle that was free, with the identifier that was
chosen and with others. -/
structure Enters (e : Endpoint φ η ε ω) (others : List ConnectionId) (h : ConnectionHandle)
    (e' : Endpoint φ η ε ω) : Prop where
  /-- the handle was free -/
  vacant : e.connections.get? h.key = none
  /-- the routes of all its identifiers lead to the newcomer -/
  chosen : ∃ scid, e.chooseCid.1 = .ok scid ∧ ∀ cid, e'.routes.get? cid =
    if cid ∈ scid :: others then some h.key else e.routes.get? cid

/-- Others that led nowhere take nothing over, and later on the newcomer may only lose
its own routes. -/
theorem Enters.welcomes {others : List ConnectionId} (hentered : e.Enters others h e')
    (hrouted : e.Routed) (hothers : ∀ cid ∈ others, e.routes.get? cid = none)
    (hkept : ∀ cid, e'.RouteKept e'' h.key cid) : e.Welcomes h e'' := by
  obtain ⟨scid, hchosen, hroutes⟩ := hentered.chosen
  refine ⟨hentered.vacant, scid, hchosen, fun cid k hroute => ?_⟩
  have hk : k ≠ h.key := by
    rintro rfl
    exact hrouted.unrouted_of_vacant hentered.vacant cid hroute
  -- the other identifiers of the newcomer had no route, so a route that exists can only be
  -- lost to the chosen one
  have hmember : cid ∈ scid :: others ↔ cid = scid := by
    rw [List.mem_cons, or_iff_left_iff_imp]
    intro hmem
    rw [hothers cid hmem] at hroute
    cases hroute
  have hentry := hroutes cid
  rw [if_congr hmember rfl rfl] at hentry
  by_cases hcid : cid = scid
  · rw [if_pos hcid] at hentry
    refine iff_of_false (fun hstays => ?_) (not_not_intro hcid)
    rcases hkept cid with hsame | ⟨-, hnone⟩
    · rw [hsame, hentry] at hstays
      exact hk (Option.some.inj hstays).symm
    · rw [hnone] at hstays
      cases hstays
  · rw [if_neg hcid, hroute] at hentry
    refine iff_of_true ?_ hcid
    rcases hkept cid with hsame | ⟨hown, -⟩
    · exact hsame.trans hentry
    · exact absurd (Option.some.inj (hentry.symm.trans hown)) hk

section

variable [EngineFactory φ ε]

/-- A connection that is created enters with the identifier chosen for it. -/
theorem enters_createConnection {side : Side} {scid dcid : ConnectionId}
    {others : List ConnectionId} (hsame : e.SameState e') (hchosen : e.chooseCid.1 = .ok scid)
    (hcreate : e'.createConnection side scid dcid others peer now = (.ok h, e'')) :
    e.Enters others h e'' := by
  rw [createConnection] at hcreate
  rcases hmade : EngineFactory.newEngine e'.factory side scid dcid
    e'.settings.connection.localParameters with ⟨error | engine, factory⟩
  · rw [hmade] at hcreate
    cases hcreate
  · rw [hmade] at hcreate
    obtain ⟨hok, rfl⟩ := Prod.mk.inj hcreate
    obtain rfl := Except.ok.inj hok
    refine ⟨?_, scid, hchosen, fun cid => ?_⟩
    · rw [← hsame.connections]
      exact Arena.get?_next _
    · rw [← hsame.routes]
      exact get?_foldl_insert _ _ _ _

/-- A connection that we open enters under its own identifier alone. -/
theorem enters_connect (hconnect : e.connect peer now = (.ok h, e')) : e.Enters [] h e' := by
  rw [connect] at hconnect
  cases hroom : e.checkCapacity with
  | error error =>
    rw [hroom] at hconnect
    cases hconnect
  | ok _ =>
    rw [hroom] at hconnect
    have hfirst := sameState_chooseCid e
    rcases hscid : e.chooseCid with ⟨error | scid, e₁⟩ <;> rw [hscid] at hconnect hfirst
    · cases hconnect
    · have hsecond := hfirst.trans (sameState_chooseCid e₁)
      dsimp only at hconnect
      rcases hdcid : e₁.chooseCid with ⟨error | dcid, e₂⟩ <;> rw [hdcid] at hconnect hsecond
      · cases hconnect
      · exact enters_createConnection hsecond (congrArg Prod.fst hscid) hconnect

/-- A connection that is accepted enters under the identifier that the peer has chosen, too. -/
theorem enters_acceptConnection {header : DatagramHeader}
    (haccept : e.acceptConnection header peer now = (.ok h, e')) :
    e.Enters [header.dcid] h e' := by
  rw [acceptConnection] at haccept
  cases hroom : e.checkCapacity with
  | error error =>
    rw [hroom] at haccept
    cases haccept
  | ok _ =>
    rw [hroom] at haccept
    have hfirst := sameState_chooseCid e
    rcases hscid : e.chooseCid with ⟨error | scid, e₁⟩ <;> rw [hscid] at haccept hfirst
    · cases haccept
    · exact enters_createConnection hfirst (congrArg Prod.fst hscid) haccept

/-! ## The two ways to come in

We open a connection, or a datagram does. Either way an identifier is chosen without a
look at the routes. -/

/-- Opening a connection welcomes it, or changes no route. -/
theorem welcomes_connect (hrouted : e.Routed) (peer : String) (now : Instant) :
    (∀ h, (e.connect peer now).1 = .ok h → e.Welcomes h (e.connect peer now).2) ∧
      (∀ error, (e.connect peer now).1 = .error error →
        (e.connect peer now).2.routes = e.routes) := by
  constructor
  · intro h hok
    exact (enters_connect (Prod.ext hok rfl)).welcomes hrouted (List.forall_mem_nil _)
      fun _ => .inl rfl
  · intro error herror
    have hopens := opens_connect e peer now
    generalize e.connect peer now = r at hopens herror
    cases hopens with
    | failed hsame => exact hsame.routes
    | opened _ _ _ _ _ => cases herror

variable [PacketEngine ε]

/-- A datagram that leads to nobody welcomes a connection, which takes it in, or changes
no route. -/
theorem welcomes_handleDatagram (hrouted : e.Routed) (datagram : Bytes) (peer : String)
    (now : Instant) (w : HostState ω) :
    (∀ h, (e.handleDatagram datagram peer now w).1.1 = .accepted h →
      e.Welcomes h (e.handleDatagram datagram peer now w).1.2) ∧
    (e.recipient? datagram = none →
      (∀ h, (e.handleDatagram datagram peer now w).1.1 ≠ .accepted h) →
      (e.handleDatagram datagram peer now w).1.2.routes = e.routes) := by
  have htakes := takes_handleDatagram e datagram peer now w
  generalize e.handleDatagram datagram peer now w = r at htakes
  cases htakes with
  | @handed k hrecipient =>
    refine ⟨fun h haccepted => ?_, fun hnone => ?_⟩
    · obtain ⟨entry, hget⟩ := hrouted.exists_get?_of_recipient hrecipient
      obtain ⟨r, houtcome⟩ := exists_outcomeOf_deliver hget datagram now w
      rw [houtcome] at haccepted
      cases r <;> cases haccepted
    · rw [hrecipient] at hnone
      cases hnone
  | @opened header h e' hheader hrecipient haccept =>
    obtain ⟨houtcome, -⟩ := admits_deliver hheader haccept w
    rw [houtcome]
    refine ⟨?_, fun _ hnever => absurd rfl (hnever h)⟩
    rintro _ ⟨rfl⟩
    -- the identifier that the peer began with leads nowhere
    have hunrouted : e.routes.get? header.dcid = none := by
      rw [recipient?, hheader] at hrecipient
      exact hrecipient
    obtain ⟨scid, engine, hopens⟩ := opensFor_acceptConnection haccept
    obtain ⟨r, -, htaken⟩ := takenBy_deliver hopens.added datagram now w
    refine (enters_acceptConnection haccept).welcomes hrouted (fun cid hmem => ?_) htaken.routes
    rwa [List.mem_singleton.1 hmem]
  | ignored _ hsame houtcome =>
    refine ⟨?_, fun _ _ => hsame.routes⟩
    rintro h ⟨rfl⟩
    cases houtcome

end

end

/-! ## The result

Which routes stay beside newcomers, in any run. -/

/-- **Newcomers leave the routes of others alone, but for one.** Whatever a host has done
with an endpoint, whatever its factory answers and whatever bytes the entropy has: a
connection that is opened, or accepted for a datagram, comes under a handle that was free,
and the routes that were there lead where they led, except for the route of the
identifier that was chosen for it, if this led to somebody already. So all routes are
spared if and only if it led nowhere. Where no connection comes of it, no route
changes. -/
theorem routes_beside_newcomers [EngineFactory φ ε] [PacketEngine ε] [EntropySource η]
    {settings : Settings} {factory : φ} {entropy : η} {e₀ : Endpoint φ η ε ω}
    (hnew : Endpoint.new settings factory entropy = .ok e₀) (w₀ : HostState ω)
    (calls : List (Call φ ε ω)) :
    let e := (e₀.performAll w₀ calls).1
    let w := (e₀.performAll w₀ calls).2
    (∀ peer now,
      (∀ h, (e.connect peer now).1 = .ok h → e.Welcomes h (e.connect peer now).2) ∧
      (∀ error, (e.connect peer now).1 = .error error →
        (e.connect peer now).2.routes = e.routes)) ∧
    (∀ datagram peer now,
      (∀ h, (e.handleDatagram datagram peer now w).1.1 = .accepted h →
        e.Welcomes h (e.handleDatagram datagram peer now w).1.2) ∧
      (e.recipient? datagram = none →
        (∀ h, (e.handleDatagram datagram peer now w).1.1 ≠ .accepted h) →
        (e.handleDatagram datagram peer now w).1.2.routes = e.routes)) ∧
    ∀ h e', e.Welcomes h e' →
      (e.Spares e' ↔ ∀ scid, e.chooseCid.1 = .ok scid → e.routes.get? scid = none) := by
  intro e w
  have hrouted : e.Routed := routed_performAll (routed_new hnew) w₀ calls
  exact ⟨welcomes_connect hrouted, fun datagram peer now =>
    welcomes_handleDatagram hrouted datagram peer now w, fun _ _ => Welcomes.spares_iff⟩

/-- The identifier that an endpoint chooses from zeros. -/
def zeroCid : ConnectionId := ⟨List.replicate 18 0, by decide⟩

/-- The identifier of the first connection is chosen again for the second one. -/
theorem routes_beside_newcomers_again :
    letI := zeroEntropy
    ∃ e₀ : Endpoint ScriptedFactory Unit (ForcedEngine ScriptedEngine) Unit,
      Endpoint.new {} {} () = .ok e₀ ∧
      let e := (e₀.performAll ⟨[], ()⟩ [.connect "192.0.2.1:443" ⟨0⟩]).1
      e.Welcomes ⟨1⟩ (e.connect "192.0.2.2:443" ⟨0⟩).2 := by
  let _ := zeroEntropy
  obtain ⟨e₀, hnew, hok⟩ : ∃ e₀ : Endpoint ScriptedFactory Unit (ForcedEngine ScriptedEngine) Unit,
      Endpoint.new {} {} () = .ok e₀ ∧
        ((e₀.performAll ⟨[], ()⟩ [.connect "192.0.2.1:443" ⟨0⟩]).1.connect
          "192.0.2.2:443" ⟨0⟩).1 = .ok ⟨1⟩ := ⟨_, rfl, rfl⟩
  exact ⟨e₀, hnew, ((routes_beside_newcomers hnew ⟨[], ()⟩ _).1 _ _).1 _ hok⟩

/-- The first connection is found under its identifier, until the second one comes. Then
this is found there, and both are alive. -/
theorem newcomer_takes_route :
    letI := zeroEntropy
    ∃ e₀ : Endpoint ScriptedFactory Unit (ForcedEngine ScriptedEngine) Unit,
      Endpoint.new {} {} () = .ok e₀ ∧
      let e := (e₀.performAll ⟨[], ()⟩ [.connect "192.0.2.1:443" ⟨0⟩]).1
      let e' := (e.connect "192.0.2.2:443" ⟨0⟩).2
      (e.connect "192.0.2.2:443" ⟨0⟩).1 = .ok ⟨1⟩ ∧ e'.handles = [⟨0⟩, ⟨1⟩] ∧
        e.lookup zeroCid = some ⟨0⟩ ∧ e'.lookup zeroCid = some ⟨1⟩ ∧ ¬ e.Spares e' := by
  let _ := zeroEntropy
  refine ⟨_, rfl, rfl, rfl, rfl, rfl, fun hspares => ?_⟩
  have hstays := hspares zeroCid 0 rfl
  cases hstays

end QuicHost.Endpoint
