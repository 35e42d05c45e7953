import QuicHost.Proofs.Endpoint.Settling

/-!
# What valid settings are worth to an endpoint

The generator of an endpoint is made for the length of identifiers that is set,
and wants it to lie within two bounds. Valid settings keep to the upper one. So
whether an endpoint starts with them is decided by the lower one alone
(`new_of_valid`).

An endpoint that has started has its generator, and the length is a part of the
generator that was checked. What is left that `connect` may fail for is listed in
`Refuses`, in the order in which it is asked for: room, two identifiers, and an
engine (`connect_error_iff`). Calls do not change the settings, so the list is
the same for every endpoint that a run leads to.
-/

namespace QuicHost.Endpoint

variable {φ η ε ω : Type} {e : Endpoint φ η ε ω}

/-! ## Starting

An endpoint starts when its generator can be made. Valid settings bound the length of
identifiers from above, which leaves one length that cannot. -/

/-- With valid settings, an endpoint starts if identifiers are not empty, and
fails for their length if they are. -/
theorem new_of_valid {settings : Settings} (hvalid : settings.Valid) (factory : φ) (entropy : η) :
    (0 < settings.connection.scidLength ∧
      ∃ e : Endpoint φ η ε ω, Endpoint.new settings factory entropy = .ok e) ∨
    (settings.connection.scidLength = 0 ∧
      (Endpoint.new settings factory entropy : Except EndpointError (Endpoint φ η ε ω)) =
        .error (.invalidCidLength 0)) := by
  have hle : settings.connection.scidLength ≤ ConnectionId.maxLength :=
    (ConnectionSettings.valid_iff.1 (Settings.valid_iff.1 hvalid).2).2.2.2.2
  rcases Nat.eq_zero_or_pos settings.connection.scidLength with hzero | hpos
  · refine .inr ⟨hzero, ?_⟩
    rw [new, hzero]
    rfl
  · have hsome : (CidGenerator.ofLength? settings.connection.scidLength
        CidGenerator.defaultKey).isSome = true :=
      CidGenerator.ofLength?_isSome_iff.2 ⟨hpos, hle⟩
    obtain ⟨generator, hgenerator⟩ := Option.isSome_iff_exists.1 hsome
    refine .inl ⟨hpos, ?_⟩
    rw [new, hgenerator]
    exact ⟨_, rfl⟩

/-! ## Failing to connect

The reasons for which a connection is not opened, in the order in which they come up.
Entropy is drawn before the engine is made, and is drawn also when the engine then fails. -/

theorem checkCapacity_error_iff {error : EndpointError} :
    e.checkCapacity = .error error ↔ e.settings.endpoint.maxConnections ≤ e.size ∧
      error = .connectionLimit e.settings.endpoint.maxConnections := by
  rw [checkCapacity]
  split <;> simp [*, eq_comm]

theorem checkCapacity_ok_iff :
    e.checkCapacity = .ok () ↔ e.size < e.settings.endpoint.maxConnections := by
  rw [checkCapacity]
  split <;> simp_all

/-- Once an identifier is chosen, only the engine can fail. -/
theorem createConnection_error_iff [EngineFactory φ ε] {side : Side} {scid dcid : ConnectionId}
    {others : List ConnectionId} {peer : String} {now : Instant} {error : EndpointError} :
    (e.createConnection side scid dcid others peer now).1 = .error error ↔
      ∃ reason, (EngineFactory.newEngine e.factory side scid dcid
        e.settings.connection.localParameters).1 = .error reason ∧ error = .engine reason := by
  rw [createConnection]
  rcases EngineFactory.newEngine e.factory side scid dcid
    e.settings.connection.localParameters with ⟨reason | engine, factory⟩
  · simp [eq_comm]
  · simp

section

variable [EntropySource η]

/-- What the source of entropy answers when an identifier is chosen. -/
def drawn (e : Endpoint φ η ε ω) :
    Except EntropyFailure { b : Bytes // b.length = e.generator.length } :=
  (EntropySource.draw e.entropy e.generator.length).1

/-- Choosing an identifier fails only if the source of entropy gives nothing. -/
theorem chooseCid_error_iff {error : EndpointError} :
    e.chooseCid.1 = .error error ↔
      ∃ failure, e.drawn = .error failure ∧ error = .entropy failure := by
  rw [chooseCid, CidGenerator.generate, drawn]
  rcases EntropySource.draw e.entropy e.generator.length with ⟨failure | b, entropy⟩
  · simp [Except.mapError, eq_comm]
  · simp [Except.mapError]

variable [EngineFactory φ ε]

/-- What an endpoint with the given settings may refuse to open a connection for:
there are as many as there may be; the source of entropy gives nothing for the
first identifier, or for the second; or the factory makes no engine. -/
inductive Refuses (settings : Settings) (e : Endpoint φ η ε ω) : EndpointError → Prop
  /-- there is no room -/
  | full (hfull : settings.endpoint.maxConnections ≤ e.size) :
      Refuses settings e (.connectionLimit settings.endpoint.maxConnections)
  /-- no identifier for this end -/
  | unnamed {failure : EntropyFailure} (hroom : e.size < settings.endpoint.maxConnections)
      (hscid : e.drawn = .error failure) : Refuses settings e (.entropy failure)
  /-- no identifier for the other end -/
  | unaddressed {scid : ConnectionId} {failure : EntropyFailure}
      (hroom : e.size < settings.endpoint.maxConnections) (hscid : e.chooseCid.1 = .ok scid)
      (hdcid : e.chooseCid.2.drawn = .error failure) : Refuses settings e (.entropy failure)
  /-- no engine -/
  | unmade {scid dcid : ConnectionId} {error : EngineError}
      (hroom : e.size < settings.endpoint.maxConnections) (hscid : e.chooseCid.1 = .ok scid)
      (hdcid : e.chooseCid.2.chooseCid.1 = .ok dcid)
      (hengine : (EngineFactory.newEngine e.factory .client scid dcid
        settings.connection.localParameters).1 = .error error) :
      Refuses settings e (.engine error)

/-- Opening a connection fails for the listed reasons only. -/
theorem refuses_of_connect {peer : String} {now : Instant} {error : EndpointError}
    (hfailed : (e.connect peer now).1 = .error error) : e.Refuses e.settings error := by
  rw [connect] at hfailed
  split at hfailed
  · next hroom =>
    cases hfailed
    obtain ⟨hfull, rfl⟩ := checkCapacity_error_iff.1 hroom
    exact .full hfull
  · next hroom =>
    rw [checkCapacity_ok_iff] at hroom
    split at hfailed
    · next hscid =>
      cases hfailed
      obtain ⟨failure, hdrawn, rfl⟩ := chooseCid_error_iff.1 (congrArg Prod.fst hscid)
      exact .unnamed hroom hdrawn
    -- a client draws two identifiers, the second one for the other end until it names
    -- itself
    · next scid e₁ hscid =>
      obtain rfl : e.chooseCid.2 = e₁ := congrArg Prod.snd hscid
      split at hfailed
      · next hdcid =>
        cases hfailed
        obtain ⟨failure, hdrawn, rfl⟩ := chooseCid_error_iff.1 (congrArg Prod.fst hdcid)
        exact .unaddressed hroom (congrArg Prod.fst hscid) hdrawn
      · next dcid e₂ hdcid =>
        obtain rfl : e.chooseCid.2.chooseCid.2 = e₂ := congrArg Prod.snd hdcid
        obtain ⟨reason, hengine, rfl⟩ := createConnection_error_iff.1 hfailed
        exact .unmade hroom (congrArg Prod.fst hscid) (congrArg Prod.fst hdcid) hengine

/-- Opening a connection fails for each of the listed reasons. -/
theorem Refuses.connect {error : EndpointError} (hrefuses : e.Refuses e.settings error)
    (peer : String) (now : Instant) : (e.connect peer now).1 = .error error := by
  rw [Endpoint.connect]
  cases hrefuses with
  | full hfull => rw [checkCapacity_error_iff.2 ⟨hfull, rfl⟩]
  | @unnamed failure hroom hscid =>
    have hchoose : e.chooseCid = (.error (.entropy failure), e.chooseCid.2) :=
      Prod.ext (chooseCid_error_iff.2 ⟨failure, hscid, rfl⟩) rfl
    rw [checkCapacity_ok_iff.2 hroom, hchoose]
  | @unaddressed scid failure hroom hscid hdcid =>
    have hchoose : e.chooseCid = (.ok scid, e.chooseCid.2) := Prod.ext hscid rfl
    have hchoose' : e.chooseCid.2.chooseCid =
        (.error (.entropy failure), e.chooseCid.2.chooseCid.2) :=
      Prod.ext (chooseCid_error_iff.2 ⟨failure, hdcid, rfl⟩) rfl
    rw [checkCapacity_ok_iff.2 hroom, hchoose]
    dsimp only
    rw [hchoose']
  | @unmade scid dcid reason hroom hscid hdcid hengine =>
    have hchoose : e.chooseCid = (.ok scid, e.chooseCid.2) := Prod.ext hscid rfl
    have hchoose' : e.chooseCid.2.chooseCid = (.ok dcid, e.chooseCid.2.chooseCid.2) :=
      Prod.ext hdcid rfl
    rw [checkCapacity_ok_iff.2 hroom, hchoose]
    dsimp only
    rw [hchoose']
    exact createConnection_error_iff.2 ⟨reason, hengine, rfl⟩

end

/-! ## Runs

Settings and the bounds on the length are kept by all calls. -/

variable [EngineFactory φ ε] [PacketEngine ε] [EntropySource η]

/-- **Endpoints start with valid settings, unless identifiers are empty.** With
valid settings and any factory, an endpoint starts if the length of identifiers
is positive. Whatever a host then does with it, opening a connection fails if and
only if there are as many as there may be, the source of entropy gives nothing, or
the factory makes no engine. If the length is zero, the settings are as valid, but
the endpoint does not start. -/
theorem starts_unless_nameless {settings : Settings} (hvalid : settings.Valid) (factory : φ)
    (entropy : η) :
    (0 < settings.connection.scidLength → ∃ e₀ : Endpoint φ η ε ω,
      Endpoint.new settings factory entropy = .ok e₀ ∧
      ∀ (w₀ : HostState ω) (calls : List (Call φ ε ω)) (peer : String) (now : Instant)
        (error : EndpointError),
        let e := (e₀.performAll w₀ calls).1
        (e.connect peer now).1 = .error error ↔ e.Refuses settings error) ∧
    (settings.connection.scidLength = 0 →
      (Endpoint.new settings factory entropy : Except EndpointError (Endpoint φ η ε ω)) =
        .error (.invalidCidLength 0)) := by
  rcases new_of_valid (ε := ε) (ω := ω) hvalid factory entropy with
    ⟨hpos, e₀, hnew⟩ | ⟨hzero, hfails⟩
  · refine ⟨fun _ => ⟨e₀, hnew, ?_⟩, fun hzero => absurd hzero (Nat.ne_of_gt hpos)⟩
    intro w₀ calls peer now error e
    have hsettings : e.settings = settings :=
      (settings_performAll (routed_new hnew) w₀ calls).trans (fresh_of_new hnew).1
    rw [← hsettings]
    exact ⟨refuses_of_connect, fun hrefuses => hrefuses.connect peer now⟩
  · exact ⟨fun hpos => absurd hzero (Nat.ne_of_gt hpos), fun _ => hfails⟩

/-- Room for a single connection is enough to start, and to open one; a second
one is refused for the limit. -/
theorem starts_unless_nameless_crowded :
    letI := zeroEntropy
    ∃ e₀ : Endpoint ScriptedFactory Unit (ForcedEngine ScriptedEngine) Unit,
      let settings : Settings := { endpoint := { maxConnections := 1 } }
      settings.Valid ∧ 0 < settings.connection.scidLength ∧
      Endpoint.new settings {} () = .ok e₀ ∧
      let e := (e₀.performAll ⟨[], ()⟩ [.connect "192.0.2.1:443" ⟨0⟩]).1
      (e.connect "192.0.2.2:443" ⟨0⟩).1 = .error (.connectionLimit 1) := by
  let _ := zeroEntropy
  let settings : Settings := { endpoint := { maxConnections := 1 } }
  have hvalid : settings.Valid := by decide
  have hpos : 0 < settings.connection.scidLength := by decide
  obtain ⟨e₀, hnew, hconnect⟩ := (starts_unless_nameless hvalid ({} : ScriptedFactory) ()).1 hpos
  refine ⟨e₀, hvalid, hpos, hnew, ?_⟩
  obtain rfl := Except.ok.inj (hnew.symm.trans rfl)
  exact (hconnect ⟨[], ()⟩ _ _ _ _).2 (.full (by decide))

/-- Settings are valid although no endpoint starts with them, whatever the factory
and the entropy: identifiers are to be empty. -/
theorem valid_but_nameless :
    let settings : Settings := { connection := { scidLength := 0 } }
    settings.Valid ∧
      ∀ factory entropy, (Endpoint.new settings factory entropy :
        Except EndpointError (Endpoint ScriptedFactory Unit (ForcedEngine ScriptedEngine) Unit)) =
          .error (.invalidCidLength 0) :=
  ⟨by decide, fun _ _ => rfl⟩

end QuicHost.Endpoint
