import QuicHost.Proofs.Connection.Advance

/-!
# The course of a connection

Whatever the host and the application call advances the connection
(`advances_perform`), except for writes and for the datagrams that are handed out. These
two are told apart: a write submits what it accepts to the engine, and asking for
datagrams takes out of the engine what waits there.

A pull is opened once, in `produceDatagrams_outcome`: it fails and ends the connection,
or it hands out what the engine has packed and at most takes the closing with it. What
the engine does in between is a chain of its own steps (`Speaks`), and they leave its
script alone.
-/

namespace QuicHost

namespace Connection

variable {σ : Type} {p : Scope} {c c' c'' : Connection ScriptedEngine σ}

/-! ## What the host calls

Taking in a datagram and running the timers. Both end an open connection or move its core
by quiet steps. -/

/-- An open connection whose engine took something in. -/
theorem running_engine (h : c.IsOpen p) {engine : ScriptedEngine} (hsound : engine.Sound p)
    (hbooks : c.adapter.engine.SameBooks engine) {state : ConnectionState}
    (hstate : state.isClosing = false) :
    let c' := { c with adapter := { c.adapter with engine := engine }, state := state }
    c'.IsOpen p ∧ c.core.Quietly p c'.core :=
  ⟨⟨hstate, h.closePending, hsound, h.bounds, h.core.orderly, h.core.frozen⟩,
    .single (.engine hbooks)⟩

/-- Whatever an open connection does next, once it took a number of quiet steps. -/
theorem running_trans (hquiet : c.core.Quietly p c'.core) (h : c'.IsOpen p)
    (hadv : c'.Advances p c'') :
    c''.IsEnding p.bounds ∨ c''.IsOpen p ∧ c.core.Quietly p c''.core := by
  rcases hadv.running h with hend | ⟨hopen, hquiet'⟩
  · exact .inl hend
  · exact .inr ⟨hopen, hquiet.trans hquiet'⟩

/-- An open connection acts on what a datagram brings, or fails with the engine. -/
theorem running_process (h : c.IsOpen p) (datagram : Bytes) (now : Instant) :
    (c.process datagram now).IsEnding p.bounds ∨
      (c.process datagram now).IsOpen p ∧ c.core.Quietly p (c.process datagram now).core := by
  obtain ⟨engine, hadapter, hsound, hbooks, hfits⟩ :=
    EngineAdapter.ingest_outcome (a := c.adapter) h.engine datagram now
  rw [process]
  split
  · next callbacks adapter heq =>
    obtain rfl : (c.adapter.ingest datagram now).2 = adapter := congrArg Prod.snd heq
    have hstate : (if c.state = .initiating then .handshaking else c.state).isClosing = false := by
      split
      · rfl
      · exact h.state
    obtain ⟨hopen, hquiet⟩ := running_engine h hsound hbooks hstate
    rw [hadapter]
    exact running_trans hquiet hopen
      ((advances_touch _ now).trans
        (advances_applyCallbacks now (hfits _ (congrArg Prod.fst heq)) _))
  · next e adapter heq =>
    obtain rfl : (c.adapter.ingest datagram now).2 = adapter := congrArg Prod.snd heq
    obtain ⟨hdrained, hdrainedBooks⟩ := ScriptedEngine.drained_outcome hsound
    obtain ⟨hopen, hquiet⟩ := running_engine h hdrained (hbooks.trans hdrainedBooks) h.state
    rw [hadapter]
    exact running_trans hquiet hopen
      ((advances_applyCallbacks now hsound.callbacks _).trans (advances_onTransportError _ e now))

/-- A closing connection counts the datagram and drops it. -/
theorem advances_ingest (c : Connection ScriptedEngine σ) (datagram : Bytes) (now : Instant)
    (w : σ) : c.Advances p (c.ingest datagram now w).1.2 := by
  rw [ingest]
  split
  · exact .refl c
  next hclosed =>
  generalize hcounted : ({ c with
    stats.datagramsReceived := c.stats.datagramsReceived + 1
    stats.bytesReceived := c.stats.bytesReceived + datagram.length } :
      Connection ScriptedEngine σ) = counted
  have hsame : c.Advances p counted ∧ counted.state = c.state := by
    subst hcounted
    exact ⟨.of_eq rfl rfl rfl rfl, rfl⟩
  dsimp only
  split
  · exact hsame.1.trans (.of_eq rfl rfl rfl rfl)
  · next hdraining =>
    rw [hsame.2] at hdraining
    -- neither closed nor draining, so only the clause about running says anything
    have hopen : counted.state.isClosing = false := by
      rw [hsame.2]
      cases hstate : c.state
      all_goals first
        | rfl
        | exact absurd hstate hdraining
        | exact absurd hstate hclosed
    have hprocess : counted.Advances p (counted.process datagram now) :=
      ⟨fun h => absurd h.state (Bool.eq_false_iff.1 hopen),
        fun h => absurd h.closing (Bool.eq_false_iff.1 hopen),
        fun h => running_process h datagram now⟩
    exact (hsame.1.trans hprocess).trans (advances_flushWith _ _ w)

/-! ## Timers

The timers that are due, in their order. A timer that finds the connection closing has no
effect, but for the one that ends the draining. -/

/-- The engine's timer runs, and what it brings is acted on. -/
theorem advances_runEngineTimer (hopen : c.state.isClosing = false) (now : Instant) :
    c.Advances p (c.runEngineTimer now) := by
  refine ⟨fun h => absurd h.state (Bool.eq_false_iff.1 hopen),
    fun h => absurd h.closing (Bool.eq_false_iff.1 hopen), fun h => ?_⟩
  obtain ⟨engine, hadapter, hsound, hbooks, hfits⟩ :=
    EngineAdapter.handleExpiry_outcome (a := c.adapter) h.engine now
  obtain ⟨hopen', hquiet⟩ := running_engine h hsound hbooks h.state
  rw [runEngineTimer]
  split
  · next callbacks adapter heq =>
    obtain rfl : (c.adapter.handleExpiry now).2 = adapter := congrArg Prod.snd heq
    rw [hadapter]
    exact running_trans hquiet hopen'
      (advances_applyCallbacks now (hfits _ (congrArg Prod.fst heq)) _)
  · next e adapter heq =>
    obtain rfl : (c.adapter.handleExpiry now).2 = adapter := congrArg Prod.snd heq
    rw [hadapter]
    exact running_trans hquiet hopen' (advances_onTransportError _ e now)

/-- A timer fires: the connection drains, is over, or the engine's timer runs. -/
theorem advances_fire (c : Connection ScriptedEngine σ) (now : Instant) (timer : Timer) :
    c.Advances p (c.fire now timer) := by
  have hclear : ∀ timers, c.Advances p { c with timers := timers } := fun _ =>
    .of_eq rfl rfl rfl rfl
  unfold fire
  split
  · exact .refl c
  cases timer with
  | drain => exact advances_finish c
  | idle => exact (hclear _).trans (advances_onIdleTimeout _ now)
  | engine =>
    dsimp only
    split
    · exact hclear _
    · next hopen =>
      have hrun := advances_runEngineTimer (p := p)
        (c := { c with timers := c.timers.clear .engine })
        (Bool.eq_false_iff.2 hopen) now
      exact (hclear _).trans hrun

/-- The timers fire one after the other, by induction on their list. -/
theorem advances_fires (now : Instant) (timers : List Timer) (c : Connection ScriptedEngine σ) :
    c.Advances p (timers.foldl (fun c timer => c.fire now timer) c) := by
  induction timers generalizing c with
  | nil => exact .refl c
  | cons timer rest ih => exact (advances_fire c now timer).trans (ih _)

/-- All timers that are due fire, and then the application is told. -/
theorem advances_onTimeout (c : Connection ScriptedEngine σ) (now : Instant) (w : σ) :
    c.Advances p (c.onTimeout now w).1 := by
  rw [onTimeout]
  split
  · exact .refl c
  · have harmed : c.Advances p { c with timers := c.currentTimers } := .of_eq rfl rfl rfl rfl
    exact (harmed.trans (advances_fires now _ _)).trans (advances_flush _ w)

/-! ## What the application calls

Opening, reading, abandoning and stopping are quiet steps with what they mean for the
engine; closing ends the connection. -/

/-- To open a stream is a quiet step, or refused. -/
theorem advances_openStream (c : Connection ScriptedEngine σ) (d : Direction) :
    c.Advances p (c.openStream d).2 := by
  have hquiet : c.core.Quiet p ⟨(c.streams.openStream d).2, c.adapter.engine⟩ := .opened d
  rw [openStream]
  split
  · exact .refl c
  split
  · next e streams heq =>
    rw [heq] at hquiet
    exact advances_core _ (.refl _) hquiet
  · next id streams heq =>
    rw [heq] at hquiet
    exact (advances_core _ (.refl _) hquiet).trans (.of_eq rfl rfl rfl rfl)

/-- A connection that is not closing grants what was read, and one that is
closing grants nothing. -/
theorem returnCredit_eq (c : Connection ScriptedEngine σ) (id : StreamId) (n : Nat) :
    c.returnCredit id n =
      if c.state.isClosing then c
      else { c with adapter := { c.adapter with engine := c.adapter.engine.grantRead id n } } := by
  rw [returnCredit, ScriptedEngine.grantRead]
  by_cases hn : n = 0
  · rw [if_pos (.inl hn), if_pos hn]
    split <;> rfl
  by_cases hclosing : c.state.isClosing = true
  · rw [if_pos (.inr hclosing), if_pos hclosing]
  · rw [if_neg (not_or.2 ⟨hn, hclosing⟩), if_neg hclosing, if_neg hn]
    rfl

/-- To read is a quiet step in which credit is granted, or refused. -/
theorem advances_read (c : Connection ScriptedEngine σ) (id : StreamId) (maxLen : Nat) (w : σ) :
    c.Advances p (c.read id maxLen w).1.2 := by
  rw [read]
  rcases hr : c.streams.read id maxLen with ⟨e | out, streams⟩
  · have hquiet : c.core.Quiet p ⟨(c.streams.read id maxLen).2, c.adapter.engine⟩ :=
      .readRefused (congrArg Prod.fst hr)
    rw [hr] at hquiet
    exact advances_core _ (.refl _) hquiet
  · have hquiet : c.core.Quiet p
        ⟨(c.streams.read id maxLen).2, c.adapter.engine.grantRead id out.data.length⟩ :=
      .read (congrArg Prod.fst hr)
    rw [hr] at hquiet
    have hread : c.Advances p ({ c with streams := streams }.returnCredit id out.data.length) := by
      rw [returnCredit_eq]
      dsimp only
      split
      · next hclosing => exact ⟨fun h => ⟨h.state, h.bounds, h.announced⟩,
          fun h => ⟨h.closing, h.closePending⟩, fun h =>
          absurd hclosing (by rw [h.state]; nofun)⟩
      · exact advances_core _ (ScriptedEngine.sameScript_grantRead _ _ _) hquiet
    exact hread.trans (advances_flushWith _ _ w)

/-- To abandon a sending half is a quiet step in the scope of what may be reset. -/
theorem advances_resetStream (c : Connection ScriptedEngine σ) (id : StreamId) (errorCode : Nat)
    (w : σ) (hp : (c.resetStream id errorCode w).1.1 = .ok () → p.reset id) :
    c.Advances p (c.resetStream id errorCode w).1.2 := by
  rw [resetStream] at hp ⊢
  split
  · exact .refl c
  next hopen =>
  rw [if_neg hopen] at hp
  rcases hr : c.streams.resetStream id with ⟨e | _, streams⟩
  · have hquiet : c.core.Quiet p ⟨(c.streams.resetStream id).2, c.adapter.engine⟩ :=
      .resetRefused (congrArg Prod.fst hr)
    rw [hr] at hquiet
    exact advances_core _ (.refl _) hquiet
  · have hquiet : c.core.Quiet p
        ⟨(c.streams.resetStream id).2, c.adapter.engine.shutdownWrite id errorCode⟩ :=
      .reset errorCode (hp (by rw [hr]; rfl)) (congrArg Prod.fst hr)
    rw [hr] at hquiet
    have hreset := advances_core _ (ScriptedEngine.sameScript_shutdownWrite _ _ _) hquiet
    exact hreset.trans (advances_flushWith _ _ w)

/-- To stop a receiving half is a quiet step in which credit is granted and the peer is
asked. -/
theorem advances_stopSending (c : Connection ScriptedEngine σ) (id : StreamId) (errorCode : Nat)
    (w : σ) : c.Advances p (c.stopSending id errorCode w).1.2 := by
  rw [stopSending]
  split
  · exact .refl c
  rcases hr : c.streams.stopSending id with ⟨e | n, streams⟩
  · have hquiet : c.core.Quiet p ⟨(c.streams.stopSending id).2, c.adapter.engine⟩ :=
      .stopRefused (congrArg Prod.fst hr)
    rw [hr] at hquiet
    exact advances_core _ (.refl _) hquiet
  · have hquiet : c.core.Quiet p
        ⟨(c.streams.stopSending id).2, (c.adapter.engine.shutdownRead id errorCode).grant n⟩ :=
      .stopped errorCode (congrArg Prod.fst hr)
    rw [hr] at hquiet
    have hsame := (c.adapter.engine.sameScript_shutdownRead id errorCode).trans
      ((c.adapter.engine.shutdownRead id errorCode).sameScript_grant n)
    have hstopped := advances_core _ hsame hquiet
    exact hstopped.trans (advances_flushWith _ _ w)

/-- Closing an open connection: the closing is queued, and the application is told. -/
theorem close_of_open (hopen : c.state.isClosing = false) (errorCode : Nat) (reason : Bytes)
    (now : Instant) (w : σ) : c.close errorCode reason now w =
      (c.announceClose ⟨.localClose, errorCode, reason⟩ now).flushWith (.ok ()) w := by
  unfold close
  cases hstate : c.state with
  | draining =>
    rw [hstate] at hopen
    cases hopen
  | closed =>
    rw [hstate] at hopen
    cases hopen
  | _ => rfl

/-- Closing a connection that is closing changes nothing. -/
theorem close_of_closing (hclosing : c.state.isClosing = true) (errorCode : Nat) (reason : Bytes)
    (now : Instant) (w : σ) : ∃ answer, c.close errorCode reason now w = ((answer, c), w) := by
  unfold close
  rcases isClosing_iff.1 hclosing with hstate | hstate
  · rw [hstate]
    exact ⟨_, rfl⟩
  · rw [hstate]
    exact ⟨_, rfl⟩

/-- Closing ends an open connection, with a reason that is cut to fit a frame. -/
theorem advances_close (c : Connection ScriptedEngine σ) (errorCode : Nat) (reason : Bytes)
    (now : Instant) (w : σ) : c.Advances p (c.close errorCode reason now w).1.2 := by
  have hannounced (hopen : c.state.isClosing = false) :
      c.Advances p ((c.announceClose ⟨.localClose, errorCode, reason⟩ now).flushWith
        (.ok () : Except CallError Unit) w).1.2 := by
    have hadv : c.Advances p (c.announceClose ⟨.localClose, errorCode, reason⟩ now) :=
      ⟨fun h => absurd h.state (Bool.eq_false_iff.1 hopen),
        fun h => absurd h.closing (Bool.eq_false_iff.1 hopen), fun h =>
        .inl (isEnding_announceClose h _ now)⟩
    exact hadv.trans (advances_flushWith _ _ w)
  cases hopen : c.state.isClosing with
  | true =>
    obtain ⟨answer, hclose⟩ := close_of_closing hopen errorCode reason now w
    rw [hclose]
    exact .refl c
  | false =>
    rw [close_of_open hopen]
    exact hannounced hopen

theorem advances_pollEvent (c : Connection ScriptedEngine σ) (w : σ) :
    c.Advances p (c.pollEvent w).1.2 :=
  c.advances_pump.trans (.of_eq rfl rfl rfl rfl)

/-! ## The script

The script of the engine may change at any time. This changes nothing in the books as long
as it keeps to the scope of the run. -/

/-- A longer script. -/
theorem advances_modifyScript {f : ScriptedEngine → ScriptedEngine}
    (hsound : c.adapter.engine.Sound p → (f c.adapter.engine).Sound p)
    (hbooks : c.adapter.engine.SameBooks (f c.adapter.engine)) : c.Advances p (c.modifyScript f) :=
  .of_quietly rfl rfl hbooks.closeFrame rfl hsound (.single (.engine hbooks))

/-- Whether a call hands something to the peer, takes something from the
application to be sent, or makes the engine fail to. -/
def Call.isLoud : Call σ → Bool
  | .write _ _ _ => true
  | .produceDatagrams _ => true
  | .failNextWrite _ => true
  | _ => false

/-- Whether a call that was answered so keeps to a scope. -/
structure Call.Within (p : Scope) (call : Call σ) (answer : Answer) : Prop where
  /-- what the script reports is within the scope -/
  scripted : ∀ callback ∈ call.scripted, p.callback callback
  /-- a reset that succeeded is within the scope -/
  reset : ∀ id errorCode, call = .resetStream id errorCode → answer = .done (.ok ()) → p.reset id

/-- A call that fits keeps to the scope of everything that fits. -/
theorem Call.Fits.within {call : Call σ} (h : call.Fits) (bounds : Nat × Nat) (answer : Answer) :
    call.Within (.all bounds) answer :=
  ⟨h, fun _ _ _ _ => trivial⟩

/-- Every other call advances the connection. -/
theorem advances_perform (c : Connection ScriptedEngine σ) (w : σ) {call : Call σ}
    (hp : call.Within p (c.perform w call).1) (hquiet : call.isLoud = false) :
    c.Advances p (c.perform w call).2.1 := by
  cases call with
  | openStream d => exact advances_openStream c d
  | write id data fin => cases hquiet
  | read id maxLen => exact advances_read c id maxLen w
  | resetStream id errorCode =>
    exact advances_resetStream c id errorCode w fun h =>
      hp.reset id errorCode rfl (congrArg Answer.done h)
  | stopSending id errorCode => exact advances_stopSending c id errorCode w
  | close errorCode reason now => exact advances_close c errorCode reason now w
  | ingest datagram now => exact advances_ingest c datagram now w
  | produceDatagrams now => cases hquiet
  | onTimeout now => exact advances_onTimeout c now w
  | flush => exact advances_flush c w
  | pollEvent => exact advances_pollEvent c w
  | modifyDispatcher f => exact .of_eq rfl rfl rfl rfl
  -- a script only lengthens what the engine will report, by reactions that the scope allows
  | expectDatagram r =>
    refine advances_modifyScript (fun h => ⟨h.closeFrame, h.callbacks, ?_, h.timeoutReactions⟩)
      ⟨rfl, rfl, rfl, rfl, rfl, rfl⟩
    intro r' hr'
    rcases List.mem_append.1 hr' with hr' | hr'
    · exact h.datagramReactions r' hr'
    · obtain rfl := List.mem_singleton.1 hr'
      exact hp.scripted
  | expectTimeout r =>
    refine advances_modifyScript (fun h => ⟨h.closeFrame, h.callbacks, h.datagramReactions, ?_⟩)
      ⟨rfl, rfl, rfl, rfl, rfl, rfl⟩
    intro r' hr'
    rcases List.mem_append.1 hr' with hr' | hr'
    · exact h.timeoutReactions r' hr'
    · obtain rfl := List.mem_singleton.1 hr'
      exact hp.scripted
  | pushCallback callback =>
    refine advances_modifyScript
      (fun h => ⟨h.closeFrame, ?_, h.datagramReactions, h.timeoutReactions⟩)
      ⟨rfl, rfl, rfl, rfl, rfl, rfl⟩
    intro callback' hcallback'
    rcases List.mem_append.1 hcallback' with hcallback' | hcallback'
    · exact h.callbacks callback' hcallback'
    · exact hp.scripted callback' hcallback'
  | failNextWrite error => cases hquiet
  | setExpiry t =>
    exact advances_modifyScript (fun h =>
      ⟨h.closeFrame, h.callbacks, h.datagramReactions, h.timeoutReactions⟩)
      ⟨rfl, rfl, rfl, rfl, rfl, rfl⟩

/-! ## Writes and datagrams

The two calls that are not quiet. What they do to the engine is said exactly, for this is
what is sent. -/

/-- What an accepted write means for the engine. -/
def submit (e : ScriptedEngine) (id : StreamId) (out : WriteOutcome) : ScriptedEngine :=
  if 0 < out.accepted ∨ out.fin = true then e.submitStreamData id out.chunk out.fin else e

/-- A write on an open connection. -/
theorem write_eq (hopen : c.state.isClosing = false) (id : StreamId) (data : Bytes) (fin : Bool) :
    c.write id data fin =
      match c.streams.write id data fin with
      | (.error e, streams) => (.error e, { c with streams := streams })
      | (.ok out, streams) =>
        (.ok out.accepted, { c with
          streams := streams
          adapter := { c.adapter with engine := submit c.adapter.engine id out } }) := by
  rw [write, if_neg (Bool.eq_false_iff.1 hopen)]
  rcases c.streams.write id data fin with ⟨e | out, streams⟩
  · rfl
  · dsimp only [submit]
    split <;> rfl

/-- A write leaves an open connection open, whatever its answer. -/
theorem isOpen_write (h : c.IsOpen p) (id : StreamId) (data : Bytes) (fin : Bool) :
    (c.write id data fin).2.IsOpen p := by
  have hfollows := (StreamSet.write_outcome h.core.orderly id data fin).1
  change c.streams.Follows (c.streams.write id data fin).2 at hfollows
  rw [write_eq h.state]
  rcases hr : c.streams.write id data fin with ⟨e | out, streams⟩
  · rw [hr] at hfollows
    exact h.follows hfollows
  · rw [hr] at hfollows
    refine ⟨h.state, h.closePending, ?_, h.bounds, h.core.follows hfollows⟩
    dsimp only [submit]
    split
    · exact ⟨h.engine.closeFrame, h.engine.callbacks, h.engine.datagramReactions,
        h.engine.timeoutReactions⟩
    · exact h.engine

/-- A connection that is closing accepts nothing. -/
theorem write_of_isEnding (h : c.IsEnding p.bounds) (id : StreamId) (data : Bytes) (fin : Bool) :
    c.write id data fin = (.error .connectionClosed, c) := by
  rw [write, if_pos h.state]

end Connection

namespace ScriptedEngine

/-- The script, the closing and what was granted are the same in `e` and `e'`, and
nothing but the closing was sent as the closing. -/
structure Speaks (e e' : ScriptedEngine) : Prop extends SameScript e e' where
  streamCredits : e'.streamCredits = e.streamCredits
  connectionCredit : e'.connectionCredit = e.connectionCredit
  closeSent : e.closeFrame = none → e'.closeSent = e.closeSent

theorem Speaks.refl (e : ScriptedEngine) : e.Speaks e := ⟨.refl e, rfl, rfl, fun _ => rfl⟩

theorem Speaks.trans {e e' e'' : ScriptedEngine} (h : e.Speaks e') (h' : e'.Speaks e'') :
    e.Speaks e'' :=
  ⟨h.toSameScript.trans h'.toSameScript, h'.streamCredits.trans h.streamCredits,
    h'.connectionCredit.trans h.connectionCredit,
    fun hnone => (h'.closeSent (h.closeFrame.trans hnone)).trans (h.closeSent hnone)⟩

/-- Writing a datagram takes from what waits, and grants nothing. -/
theorem speaks_writeDatagram (e : ScriptedEngine) (maxLen : Nat) :
    e.Speaks (e.writeDatagram maxLen).2 := by
  rw [writeDatagram]
  split
  · exact ⟨⟨rfl, rfl, rfl, rfl⟩, rfl, rfl, fun _ => rfl⟩
  split
  · next hframe =>
    dsimp only
    split
    · exact .refl e
    · refine ⟨⟨rfl, rfl, rfl, rfl⟩, rfl, rfl, fun hnone => ?_⟩
      rw [hnone] at hframe
      cases hframe
  · exact ⟨⟨rfl, rfl, rfl, rfl⟩, rfl, rfl, fun _ => rfl⟩

/-- Pulling datagrams is writing some, by induction on how many may come. -/
theorem speaks_pull (maxLen : Nat) (now : Instant) (count : Nat) (e : ScriptedEngine) :
    e.Speaks (EngineAdapter.pull maxLen now count e).2 := by
  induction count generalizing e with
  | zero => exact .refl e
  | succ count ih =>
    have hwrite : e.Speaks (PacketEngine.writeDatagram e maxLen now).2 :=
      speaks_writeDatagram e maxLen
    rw [EngineAdapter.pull]
    generalize PacketEngine.writeDatagram e maxLen now = written at hwrite ⊢
    rcases written with ⟨error | written, e'⟩
    · exact hwrite
    dsimp only
    split
    · exact hwrite
    split
    · exact hwrite
    · have hrest := ih e'
      generalize EngineAdapter.pull maxLen now count e' = pulled at hrest ⊢
      rcases pulled with ⟨error | datagrams, e''⟩
      · exact hwrite.trans hrest
      · exact hwrite.trans hrest

end ScriptedEngine

namespace Connection

variable {σ : Type} {p : Scope} {c : Connection ScriptedEngine σ}

/-- Asking for datagrams fails, or it hands out what was pulled from the engine. -/
theorem produceDatagrams_outcome (c : Connection ScriptedEngine σ) (now : Instant) (w : σ)
    (hsend : c.maySend = true) :
    let pulled := EngineAdapter.pull c.adapter.maxUdpPayloadSize now c.adapter.maxDatagramsPerPoll
      c.adapter.engine
    let drawn := { c with adapter := { c.adapter with engine := pulled.2 } }
    (∃ e, pulled.1 = .error e ∧ (c.produceDatagrams now w).1.1 = [] ∧
      (c.produceDatagrams now w).1.2 = ((drawn.onTransportError e now).flush w).1.2) ∨
    ∃ datagrams, pulled.1 = .ok datagrams ∧ (c.produceDatagrams now w).1 = (datagrams, { drawn with
      closePending := c.closePending && c.state != .draining
      state := if c.state = .initiating ∧ datagrams ≠ [] then .handshaking else c.state
      stats.datagramsSent := c.stats.datagramsSent + datagrams.length
      stats.bytesSent := c.stats.bytesSent + datagrams.flatten.length }) := by
  rw [produceDatagrams, EngineAdapter.produceDatagrams, if_pos hsend]
  rcases EngineAdapter.pull c.adapter.maxUdpPayloadSize now c.adapter.maxDatagramsPerPoll
    c.adapter.engine with ⟨e | datagrams, engine⟩
  · exact .inl ⟨e, rfl, rfl, rfl⟩
  · exact .inr ⟨datagrams, rfl, rfl⟩

theorem isClosing_ite_handshaking (c : Connection ScriptedEngine σ) (p : Prop) [Decidable p] :
    (if c.state = .initiating ∧ p then .handshaking else c.state).isClosing =
      c.state.isClosing := by
  split
  · next h => rw [h.1]; rfl
  · rfl

/-- A connection that is closing hands out its closing, if it still has to, and stays
closing. -/
theorem isEnding_produceDatagrams (h : c.IsEnding p.bounds) (now : Instant) (w : σ) :
    (c.produceDatagrams now w).1.2.IsEnding p.bounds := by
  by_cases hsend : c.maySend = true
  · have hspeaks := ScriptedEngine.speaks_pull c.adapter.maxUdpPayloadSize now
      c.adapter.maxDatagramsPerPoll
      c.adapter.engine
    have hannounced : c.closePending = true → ∃ errorCode reason,
        (EngineAdapter.pull c.adapter.maxUdpPayloadSize now c.adapter.maxDatagramsPerPoll
          c.adapter.engine).2.closeFrame = some (.connectionClose errorCode reason) ∧
          reason.length ≤ Frame.maxPayload := by
      rw [hspeaks.closeFrame]
      exact h.announced
    rcases produceDatagrams_outcome c now w hsend with ⟨e, -, -, hc⟩ | ⟨datagrams, -, hc⟩
    · rw [hc]
      exact (advances_flush _ w).ending
        ((advances_onTransportError _ e now).ending ⟨h.state, h.bounds, hannounced⟩)
    · rw [hc]
      refine ⟨(isClosing_ite_handshaking c _).trans h.state, h.bounds,
        fun hpending => hannounced ?_⟩
      exact (Bool.and_eq_true _ _ ▸ hpending).1
  · rw [produceDatagrams, if_neg hsend]
    exact h

theorem maySend_of_open (hopen : c.state.isClosing = false) : c.maySend = true := by
  rw [Connection.maySend]
  cases hstate : c.state
  all_goals first
    | rfl
    | rw [hstate] at hopen; cases hopen

theorem IsOpen.maySend (h : c.IsOpen p) : c.maySend = true := maySend_of_open h.state

/-- An open connection that is asked for datagrams. -/
theorem running_produceDatagrams (h : c.IsOpen p) (now : Instant) (w : σ) :
    ∃ engine, c.adapter.engine.Speaks engine ∧
      ((c.produceDatagrams now w).1.2.IsEnding p.bounds ∨
        (c.produceDatagrams now w).1.2.IsOpen p ∧
          Core.Quietly p ⟨c.streams, engine⟩ (c.produceDatagrams now w).1.2.core) := by
  have hspeaks := ScriptedEngine.speaks_pull c.adapter.maxUdpPayloadSize now
    c.adapter.maxDatagramsPerPoll
    c.adapter.engine
  refine ⟨_, hspeaks, ?_⟩
  rcases produceDatagrams_outcome c now w h.maySend with ⟨e, -, -, hc⟩ | ⟨datagrams, -, hc⟩
  · rw [hc]
    refine ((advances_onTransportError _ e now).trans (advances_flush _ w)).running ?_
    exact ⟨h.state, h.closePending, hspeaks.sound h.engine, h.bounds, h.core.orderly, h.core.frozen⟩
  · rw [hc]
    refine .inr ⟨⟨(isClosing_ite_handshaking c _).trans h.state, ?_, hspeaks.sound h.engine,
      h.bounds, h.core.orderly, h.core.frozen⟩, .refl⟩
    rw [h.closePending]
    rfl

theorem isEnding_failNextWrite (h : c.IsEnding p.bounds) (error : EngineError) :
    (c.modifyScript (·.failNextWrite error)).IsEnding p.bounds := ⟨h.state, h.bounds, h.announced⟩

theorem isOpen_failNextWrite (h : c.IsOpen p) (error : EngineError) :
    (c.modifyScript (·.failNextWrite error)).IsOpen p :=
  ⟨h.state, h.closePending,
    ⟨h.engine.closeFrame, h.engine.callbacks, h.engine.datagramReactions,
      h.engine.timeoutReactions⟩,
    h.bounds, h.core.orderly, h.core.frozen⟩

/-- An ending connection stays so, whatever is called. -/
theorem isEnding_perform (h : c.IsEnding p.bounds) (w : σ) {call : Call σ} (hfits : call.Fits) :
    (c.perform w call).2.1.IsEnding p.bounds := by
  by_cases hquiet : call.isLoud = false
  · have hadv : c.Advances (.all p.bounds) (c.perform w call).2.1 :=
      advances_perform c w (hfits.within p.bounds _) hquiet
    exact hadv.ending h
  cases call with
  | write id data fin =>
    have hwrite := write_of_isEnding h id data fin
    change (c.write id data fin).2.IsEnding p.bounds
    rw [hwrite]
    exact h
  | produceDatagrams now => exact isEnding_produceDatagrams h now w
  | failNextWrite error => exact isEnding_failNextWrite h error
  | _ => exact absurd rfl hquiet

/-- A silent connection stays so, whatever is called. -/
theorem Silent.perform (h : c.Silent) (w : σ) {call : Call σ} (hfits : call.Fits) :
    (c.perform w call).2.1.Silent := by
  by_cases hquiet : call.isLoud = false
  · have hadv : c.Advances (.all c.adapter.bounds) (c.perform w call).2.1 :=
      advances_perform c w (hfits.within c.adapter.bounds _) hquiet
    exact hadv.silent h
  cases call with
  | write id data fin =>
    change (c.write id data fin).2.Silent
    rwa [write, if_pos h.closing]
  | produceDatagrams now =>
    change (c.produceDatagrams now w).1.2.Silent
    rwa [produceDatagrams, if_neg (Bool.eq_false_iff.1 h.maySend)]
  | failNextWrite error => exact ⟨h.closing, h.closePending⟩
  | _ => exact absurd rfl hquiet

/-- A connection is open to begin with. -/
theorem isOpen_new (side : Side) {settings : ConnectionSettings} (h : settings.bounds = p.bounds)
    (scid dcid : ConnectionId) (now : Instant) :
    (Connection.new side settings scid dcid ({} : ScriptedEngine) now :
      Connection ScriptedEngine σ).IsOpen p :=
  ⟨rfl, rfl, ⟨rfl, nofun, nofun, nofun⟩, h, StreamSet.orderly_new _ _, rfl⟩

end Connection

end QuicHost
