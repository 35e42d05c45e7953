import QuicHost.Proofs.Connection.Works

/-!
# What a connection does not look at

Acting on callbacks, a connection over the scripted engine looks neither at the
events that are queued nor at the handlers, and not at the datagrams its engine has
taken in or is still to react to. It only pushes events, and which ones depends on
nothing of this either (`Blind`). So whatever it does, it does the same when it is
*recast*, with another dispatcher and another record of datagrams.
-/

namespace QuicHost

/-- What a connection and its engine remember of datagrams, and what the engine is
to do on the next ones. -/
structure DatagramRecord where
  /-- datagrams taken in -/
  datagramsReceived : Nat := 0
  /-- bytes taken in -/
  bytesReceived : Nat := 0
  /-- datagrams dropped while draining -/
  datagramsAbsorbed : Nat := 0
  /-- the datagrams that the engine took in -/
  received : List Bytes := []
  /-- its reactions to the next ones -/
  reactions : List Reaction := []

/-- The engine with another record of datagrams, and no callbacks left. -/
def ScriptedEngine.recast (e : ScriptedEngine) (r : DatagramRecord) : ScriptedEngine :=
  { e with datagramReactions := r.reactions, received := r.received, callbacks := [] }

/-- The first closing counts, whatever the engine has taken in. -/
theorem ScriptedEngine.close_recast (e : ScriptedEngine) (r : DatagramRecord) (errorCode : Nat)
    (reason : Bytes) :
    (e.recast r).close errorCode reason = (e.close errorCode reason).recast r := by
  by_cases h : e.isClosing = true
  · have hsame : e.close errorCode reason = e := if_pos h
    rw [hsame]
    exact if_pos h
  · have hclosed : e.close errorCode reason = { e with
      closeFrame := some (.connectionClose errorCode (reason.take Frame.maxPayload))
      outbound := [] } := if_neg h
    rw [hclosed]
    exact if_neg h

namespace Connection

variable {σ : Type}

/-- The connection with another dispatcher and another record of datagrams. -/
def recast (c : Connection ScriptedEngine σ) (d : EventDispatcher σ) (r : DatagramRecord) :
    Connection ScriptedEngine σ :=
  { c with
    dispatcher := d
    adapter := c.adapter.modifyEngine (·.recast r)
    stats.datagramsReceived := r.datagramsReceived
    stats.bytesReceived := r.bytesReceived
    stats.datagramsAbsorbed := r.datagramsAbsorbed }

/-- Doing `f`, the connection pushes certain events; recast, it would push the same
and do the same. -/
def Blind (f : Connection ScriptedEngine σ → Connection ScriptedEngine σ)
    (c : Connection ScriptedEngine σ) : Prop :=
  ∃ es : List Event, ∀ d r, f (c.recast d r) = (f c).recast (es.foldl EventDispatcher.push d) r

section

variable {c : Connection ScriptedEngine σ}
  {f g : Connection ScriptedEngine σ → Connection ScriptedEngine σ}

theorem Blind.comp (hf : Blind f c) (hg : Blind g (f c)) : Blind (fun c => g (f c)) c := by
  obtain ⟨es, hf⟩ := hf
  obtain ⟨es', hg⟩ := hg
  refine ⟨es ++ es', fun d r => ?_⟩
  dsimp only
  rw [hf, hg, List.foldl_append]

/-- Doing nothing pushes nothing. -/
theorem Blind.of_same (h : f c = c) (hrecast : ∀ d r, f (c.recast d r) = c.recast d r) :
    Blind f c := by
  refine ⟨[], fun d r => ?_⟩
  rw [h, hrecast]
  rfl

/-! ## Steps

Each step that acting on callbacks is made of, recast before or after. The events pushed
are the same, in the same order. -/

/-- Restarting the idle timer does not look at what is recast. -/
theorem touch_recast (c : Connection ScriptedEngine σ) (now : Instant) (d : EventDispatcher σ)
    (r : DatagramRecord) : (c.recast d r).touch now = (c.touch now).recast d r := by
  cases hopen : c.state.isClosing with
  | true =>
    have hsame : c.touch now = c := if_pos hopen
    rw [hsame]
    exact if_pos hopen
  | false =>
    rw [touch_eq hopen]
    exact touch_eq (c := c.recast d r) hopen now

theorem blind_pump (c : Connection ScriptedEngine σ) : Blind pump c :=
  ⟨c.streams.events, fun _ _ => rfl⟩

theorem blind_emit (c : Connection ScriptedEngine σ) (e : Event) : Blind (·.emit e) c := by
  refine ⟨c.streams.events ++ [e], fun d r => ?_⟩
  rw [List.foldl_append]
  rfl

/-- Beginning to drain looks at timers and state. -/
theorem blind_enterDraining (c : Connection ScriptedEngine σ) (reason : CloseReason)
    (now : Instant) : Blind (·.enterDraining reason now) c := by
  cases hopen : c.state.isClosing with
  | true => exact .of_same (if_pos hopen) fun _ _ => if_pos hopen
  | false =>
    obtain ⟨es, hemit⟩ := blind_emit { c with
      state := .draining
      timers := (∅ : Deadlines).set .drain (now.saturatingAdd c.settings.drainTimeout)
      closeReason := some reason } (.draining reason)
    refine ⟨es, fun d r => ?_⟩
    dsimp only
    rw [enterDraining_eq hopen, enterDraining_eq (c := c.recast d r) hopen]
    exact hemit d r

/-- Closing looks at timers, state and the engine's closing. -/
theorem blind_announceClose (c : Connection ScriptedEngine σ) (reason : CloseReason)
    (now : Instant) : Blind (·.announceClose reason now) c := by
  obtain ⟨es, hdrain⟩ := blind_enterDraining { c with
    adapter := c.adapter.modifyEngine fun e => PacketEngine.close e reason.errorCode reason.reason
    closePending := true } reason now
  refine ⟨es, fun d r => ?_⟩
  have hclose := c.adapter.engine.close_recast r reason.errorCode reason.reason
  have htold : (c.recast d r).adapter.modifyEngine
      (fun e => PacketEngine.close e reason.errorCode reason.reason)
      = (c.adapter.modifyEngine fun e =>
          PacketEngine.close e reason.errorCode reason.reason).modifyEngine (·.recast r) :=
    congrArg (fun e => { c.adapter with engine := e }) hclose
  dsimp only
  rw [announceClose, htold]
  exact hdrain d r

theorem blind_reportError (c : Connection ScriptedEngine σ) (e : TransportError) :
    Blind (·.reportError e) c := by
  obtain ⟨es, hemit⟩ := blind_emit
    { c with stats.transportErrors := c.stats.transportErrors + 1 } (.transportError e)
  exact ⟨es, hemit⟩

/-- A violation is told and closes the connection, whatever is recast. -/
theorem blind_onTransportError {e : TransportError} (he : e.IsViolation)
    (c : Connection ScriptedEngine σ) (now : Instant) : Blind (·.onTransportError e now) c := by
  obtain ⟨code, rfl⟩ := he
  have hacts : Blind (fun c => if c.state.isClosing then c
      else c.announceClose ⟨.transportFailure, code, []⟩ now)
      (c.reportError (.protocolViolation code)) := by
    cases hopen : (c.reportError (.protocolViolation code)).state.isClosing with
    | true => exact .of_same (if_pos hopen) fun _ _ => if_pos hopen
    | false =>
      obtain ⟨es, hclose⟩ := blind_announceClose (c.reportError (.protocolViolation code))
        ⟨.transportFailure, code, []⟩ now
      have hrunning := Bool.eq_false_iff.1 hopen
      refine ⟨es, fun d r => ?_⟩
      dsimp only
      rw [if_neg hrunning, if_neg (by exact hrunning)]
      exact hclose d r
  exact (blind_reportError c _).comp hacts

/-- The completed handshake looks at timers and streams, and tells one event. -/
theorem blind_completeHandshake (c : Connection ScriptedEngine σ) (peer : TransportParameters)
    (now : Instant) : Blind (·.completeHandshake peer now) c := by
  cases hnew : c.handshakeComplete with
  | true => exact .of_same (if_pos hnew) fun _ _ => if_pos hnew
  | false =>
    obtain ⟨es, hemit⟩ := blind_emit (c.activate peer now) .handshakeCompleted
    refine ⟨es, fun d r => ?_⟩
    have htold := hemit d r
    dsimp only at htold ⊢
    rw [completeHandshake_eq hnew, completeHandshake_eq (c := c.recast d r) hnew]
    exact congrArg (fun told : Connection ScriptedEngine σ => { told with
      streams := c.streams.takeEvents.2.onHandshakeCompleted peer }) htold

/-- Granting credit looks at the engine's books. -/
theorem blind_extendConnection (c : Connection ScriptedEngine σ) (released : Nat) :
    Blind (·.extendConnection released) c := by
  by_cases h : released = 0
  · exact .of_same (if_pos h) fun _ _ => if_pos h
  · have hextended (c : Connection ScriptedEngine σ) : c.extendConnection released = { c with
        adapter := c.adapter.modifyEngine fun e => PacketEngine.extendConnection e released } :=
      if_neg h
    refine ⟨[], fun d r => ?_⟩
    dsimp only
    rw [hextended, hextended]
    rfl

/-! ## Callbacks

One callback, and then a list of them. -/

/-- Streams take something in without looking at the rest. -/
theorem blind_streams (c : Connection ScriptedEngine σ) (s : StreamSet) :
    Blind (fun c => { c with streams := s }) c :=
  ⟨[], fun _ _ => rfl⟩

/-- Streams refuse a callback of the engine only if the peer has violated the
protocol. -/
theorem blind_refused {e : TransportError} (he : e.IsViolation)
    (c : Connection ScriptedEngine σ) (s : StreamSet) (now : Instant) :
    Blind (fun c => { c with streams := s }.onTransportError e now) c :=
  (c.blind_streams s).comp (blind_onTransportError he _ now)

/-- Credit that the streams have released goes to the engine. -/
theorem blind_released (c : Connection ScriptedEngine σ) (s : StreamSet) (released : Nat) :
    Blind (fun c => { c with streams := s }.extendConnection released) c :=
  (c.blind_streams s).comp (blind_extendConnection _ released)

/-- Two ways of saying what is done, which agree wherever the streams are those
of `c`. -/
theorem Blind.of_streams (h : Blind g c)
    (heq : ∀ c' : Connection ScriptedEngine σ, c'.streams = c.streams → f c' = g c') :
    Blind f c := by
  obtain ⟨es, hg⟩ := h
  refine ⟨es, fun d r => ?_⟩
  rw [heq c rfl, heq (c.recast d r) rfl, hg]

/-- Acting on a callback looks at nothing that is recast. One case for each callback. -/
theorem blind_heed (c : Connection ScriptedEngine σ) (now : Instant) (callback : Callback) :
    Blind (·.heed now callback) c := by
  cases callback with
  | handshakeCompleted peer => exact c.blind_completeHandshake peer now
  | streamData id offset data fin =>
    rcases heq : c.streams.onStreamData id offset data fin with ⟨e | released, s⟩
    · have he := (StreamSet.error_of_onStreamData (congrArg Prod.fst heq)).isViolation
      exact (blind_refused he c s now).of_streams fun c' hc' => by
        rw [heed, applyCallback, hc', heq]
    · exact (c.blind_released s released).of_streams fun c' hc' => by
        rw [heed, applyCallback, hc', heq]
  | streamReset id errorCode finalSize =>
    rcases heq : c.streams.onStreamReset id errorCode finalSize with ⟨e | released, s⟩
    · have he := (StreamSet.error_of_onStreamReset (congrArg Prod.fst heq)).isViolation
      exact (blind_refused he c s now).of_streams fun c' hc' => by
        rw [heed, applyCallback, hc', heq]
    · exact (c.blind_released s released).of_streams fun c' hc' => by
        rw [heed, applyCallback, hc', heq]
  | stopSending id errorCode =>
    rcases heq : c.streams.onStopSending id errorCode with ⟨e | _ | _, s⟩
    · have he := (StreamSet.error_of_onStopSending (congrArg Prod.fst heq)).isViolation
      exact (blind_refused he c s now).of_streams fun c' hc' => by
        rw [heed, applyCallback, hc', heq]
    · exact (c.blind_streams s).of_streams fun c' hc' => by
        rw [heed, applyCallback, hc', heq]
    · have hstopped : Blind (fun c => { c with
          streams := s
          adapter := c.adapter.modifyEngine fun e => PacketEngine.shutdownWrite e id errorCode })
          c := ⟨[], fun _ _ => rfl⟩
      exact hstopped.of_streams fun c' hc' => by
        rw [heed, applyCallback, hc', heq]
  | maxStreamData id limit => exact c.blind_streams (c.streams.onMaxStreamData id limit)
  | maxData limit => exact c.blind_streams (c.streams.onMaxData limit)
  | maxStreams direction n => exact c.blind_streams (c.streams.onMaxStreams direction n)
  | streamAcked id n => exact c.blind_streams (c.streams.onStreamAcked id n)
  | connectionClose errorCode reason => exact c.blind_enterDraining _ now

theorem applyCallbacks_of_closing (hclosing : c.state.isClosing = true) (now : Instant)
    (callbacks : List Callback) : c.applyCallbacks now callbacks = c := by
  cases callbacks with
  | nil => rfl
  | cons callback rest => exact if_pos hclosing

/-- An open connection acts on the first callback, and then on the others. -/
theorem applyCallbacks_of_open (hopen : c.state.isClosing = false) (now : Instant)
    (callback : Callback) (rest : List Callback) :
    c.applyCallbacks now (callback :: rest)
      = (c.heed now callback).pump.applyCallbacks now rest :=
  if_neg (Bool.eq_false_iff.1 hopen)

/-- Acting on callbacks, by induction on their list: what each pushes is pushed in order. -/
theorem blind_applyCallbacks (c : Connection ScriptedEngine σ) (now : Instant)
    (callbacks : List Callback) : Blind (·.applyCallbacks now callbacks) c := by
  induction callbacks generalizing c with
  | nil => exact .of_same rfl fun _ _ => rfl
  | cons callback rest ih =>
    cases hopen : c.state.isClosing with
    | true => exact .of_same (if_pos hopen) fun _ _ => if_pos hopen
    | false =>
      obtain ⟨es, hheeded⟩ := ((c.blind_heed now callback).comp (blind_pump _)).comp (ih _)
      refine ⟨es, fun d r => ?_⟩
      dsimp only at hheeded ⊢
      rw [applyCallbacks_of_open hopen, applyCallbacks_of_open (c := c.recast d r) hopen]
      exact hheeded d r

end

end Connection

end QuicHost
