import QuicHost.Proofs.Connection.Course
import QuicHost.Proofs.Stream.Balance

/-!
# No credit leaks

The engine tells the peer how much more it may send. As long as a connection is
open, what the engine was told to grant is what the streams have given back,
neither more nor less, so the peer's window is the initial one around what waits
to be read (`window_restored`).

The streams add up in words what they give back, and do not ask whether the sums fit.
A connection with a window close to the largest word loses count of it
(`window_shut`).
-/

namespace QuicHost

namespace ScriptedEngine

@[simp] theorem connectionCredit_grant (e : ScriptedEngine) (n : Nat) :
    (e.grant n).connectionCredit = e.connectionCredit + n := by
  rw [grant]
  split
  · next h => rw [h]; rfl
  · rfl

@[simp] theorem connectionCredit_grantRead (e : ScriptedEngine) (id : StreamId) (n : Nat) :
    (e.grantRead id n).connectionCredit = e.connectionCredit + n := by
  rw [grantRead]
  split
  · next h => rw [h]; rfl
  · rfl

end ScriptedEngine

namespace Core

/-- The books of the streams are balanced, for what the engine was told to grant. -/
structure Balanced (own : TransportParameters) (k : Core) : Prop where
  streams : k.streams.Balanced k.engine.connectionCredit
  own : k.streams.localParams = own

variable {own : TransportParameters} {p : Scope} {k k' : Core}

/-- Streams and engine have given back the same. -/
theorem Balanced.step (hk : k.Balanced own) {streams : StreamSet} {engine : ScriptedEngine}
    {n : Nat} (hfollows : k.streams.Follows streams)
    (hstreams : streams.Balanced (k.engine.connectionCredit + n))
    (hengine : engine.connectionCredit = k.engine.connectionCredit + n) :
    Balanced own ⟨streams, engine⟩ :=
  ⟨hengine ▸ hstreams, hfollows.localParams.trans hk.own⟩

/-- The streams spared receiving halves, and the engine granted nothing. -/
theorem Balanced.spares (hsound : k.Sound) (hk : k.Balanced own) {streams : StreamSet}
    {engine : ScriptedEngine} (hfollows : k.streams.Follows streams)
    (h : k.streams.view.SparesRecv streams.view)
    (hengine : engine.connectionCredit = k.engine.connectionCredit) :
    Balanced own ⟨streams, engine⟩ :=
  hk.step (n := 0) hfollows
    (hk.streams.spares hsound.orderly hfollows.orderly hfollows.localParams h) hengine

/-- A quiet step keeps the books: what the streams release is what the engine is told to
grant, step by step. -/
theorem Balanced.quiet (hsound : k.Sound) (hk : k.Balanced own) (hq : k.Quiet p k') :
    k'.Balanced own := by
  have hs := hsound.orderly
  have hb := hk.streams
  -- three cases move credit: a read, a stop, and data or a reset for a stopped stream; the
  -- rest spares the receiving side or refuses
  cases hq with
  | events =>
    exact ⟨hb.same hs ((StreamSet.keeps_takeEvents _).follows hs) rfl, hk.own⟩
  | engine hbooks => exact ⟨hbooks.connectionCredit ▸ hb, hk.own⟩
  | opened d =>
    have hopens := StreamSet.opens_openStream hs d
    exact hk.spares hsound hopens.follows
      (View.sparesRecv_of_eq (congrArg View.recvWindow hopens.view)
      (congrArg View.recv hopens.view)) rfl
  | writeRefused _ =>
    obtain ⟨hfollows, hout⟩ := StreamSet.write_outcome hs _ _ _
    exact hk.spares hsound hfollows hout.sparesRecv rfl
  | readRefused hr =>
    obtain ⟨hfollows, hout⟩ := StreamSet.read_outcome hs _ _
    rw [hr] at hout
    exact hk.step (n := 0) hfollows (hb.same hs hfollows hout.eq_of_error) rfl
  | read hr =>
    obtain ⟨hfollows, hout⟩ := StreamSet.read_outcome hs _ _
    rw [hr] at hout
    exact hk.step hfollows (hb.read hs hsound.frozen hfollows hout)
      (ScriptedEngine.connectionCredit_grantRead _ _ _)
  | resetRefused _ =>
    obtain ⟨hfollows, hout⟩ := StreamSet.resetStream_outcome hs _
    exact hk.spares hsound hfollows hout.sparesRecv rfl
  | reset _ _ _ =>
    obtain ⟨hfollows, hout⟩ := StreamSet.resetStream_outcome hs _
    exact hk.spares hsound hfollows hout.sparesRecv rfl
  | stopRefused hr =>
    obtain ⟨hfollows, hout⟩ := StreamSet.stopSending_outcome hs _
    rw [hr] at hout
    exact hk.step (n := 0) hfollows (hb.same hs hfollows hout.eq_of_error) rfl
  | stopped _ hr =>
    obtain ⟨hfollows, hout⟩ := StreamSet.stopSending_outcome hs _
    rw [hr] at hout
    exact hk.step hfollows (hb.stopSending hs hfollows hout)
      (ScriptedEngine.connectionCredit_grant _ _)
  | handshake peer =>
    obtain ⟨horderly, -, hlocal, -, -⟩ := StreamSet.setup_onHandshakeCompleted hs peer
    exact ⟨hb.spares hs horderly hlocal
      (StreamSet.onHandshakeCompleted_outcome _ peer).sparesRecv, hlocal.trans hk.own⟩
  | data hp hr =>
    obtain ⟨hfollows, hout⟩ := StreamSet.onStreamData_outcome hs (p.fits _ hp) _ _ _
    rw [hr] at hout
    exact hk.step hfollows (hb.data hs hfollows hout)
      (ScriptedEngine.connectionCredit_grant _ _)
  | peerReset hp hr =>
    obtain ⟨hfollows, hout⟩ := StreamSet.onStreamReset_outcome hs (p.fits _ hp) _ _
    rw [hr] at hout
    exact hk.step hfollows (hb.peerReset hs hfollows hout)
      (ScriptedEngine.connectionCredit_grant _ _)
  | peerStopIgnored hp _ =>
    obtain ⟨hfollows, hout⟩ := StreamSet.onStopSending_outcome hs (p.fits _ hp) _
    exact hk.spares hsound hfollows hout.sparesRecv rfl
  | peerStop hp _ =>
    obtain ⟨hfollows, hout⟩ := StreamSet.onStopSending_outcome hs (p.fits _ hp) _
    exact hk.spares hsound hfollows hout.sparesRecv rfl
  | maxStreamData id limit =>
    obtain ⟨hfollows, hout⟩ := StreamSet.onMaxStreamData_outcome hs id limit
    exact hk.spares hsound hfollows hout.sparesRecv rfl
  | maxData limit =>
    obtain ⟨hfollows, hout⟩ := StreamSet.onMaxData_outcome hs limit
    exact hk.spares hsound hfollows hout.sparesRecv rfl
  | maxStreams d n =>
    obtain ⟨hfollows, hview⟩ := StreamSet.onMaxStreams_outcome hs d n
    exact hk.spares hsound hfollows (View.sparesRecv_of_eq (congrArg View.recvWindow hview)
      (congrArg View.recv hview)) rfl
  | acked id n =>
    obtain ⟨hfollows, hout⟩ := StreamSet.onStreamAcked_outcome hs id n
    exact hk.spares hsound hfollows hout.sparesRecv rfl

/-- An engine that speaks grants nothing. -/
theorem Balanced.speaks (hk : k.Balanced own) {engine : ScriptedEngine}
    (h : k.engine.Speaks engine) : Balanced own ⟨k.streams, engine⟩ :=
  ⟨h.connectionCredit ▸ hk.streams, hk.own⟩

theorem Balanced.quietly (hsound : k.Sound) (hk : k.Balanced own) (h : k.Quietly p k') :
    k'.Balanced own :=
  Quietly.keeps Balanced.quiet hsound hk h

end Core

namespace StreamSet

/-- If no live stream holds unread bytes, none wait at all. -/
theorem unreadTotal_eq_zero {s : StreamSet} (h : ∀ st ∈ s.streams.values, st.isReadable = false) :
    s.unreadTotal = 0 := by
  refine List.sum_eq_zero fun n hn => ?_
  obtain ⟨st, hst, rfl⟩ := List.mem_map.1 hn
  have hunread := h st hst
  rw [Stream.isReadable] at hunread
  rcases hrecv : st.recv with _ | half
  · rfl
  · rw [hrecv, Option.any_some, RecvBuffer.isEmpty, Bool.not_eq_false', beq_iff_eq] at hunread
    exact hunread

end StreamSet

namespace Connection

variable {σ : Type} {settings : ConnectionSettings}

/-- The connection is ending, or its books are balanced. -/
def KeepsBooks (settings : ConnectionSettings) (c : Connection ScriptedEngine σ) : Prop :=
  c.IsEnding settings.bounds ∨
    c.IsOpen (.all settings.bounds) ∧ c.core.Balanced settings.localParameters

/-- An open connection that ends or takes quiet steps keeps its books. -/
theorem KeepsBooks.of_running {c' : Connection ScriptedEngine σ} {k : Core} (hsound : k.Sound)
    (hk : k.Balanced settings.localParameters)
    (h : c'.IsEnding settings.bounds ∨
      c'.IsOpen (.all settings.bounds) ∧ k.Quietly (.all settings.bounds) c'.core) :
    c'.KeepsBooks settings := by
  rcases h with hend | ⟨hopen, hquiet⟩
  · exact .inl hend
  · exact .inr ⟨hopen, hk.quietly hsound hquiet⟩

/-- One call keeps the books. -/
theorem keepsBooks_perform {c : Connection ScriptedEngine σ} (h : c.KeepsBooks settings) (w : σ)
    {call : Call σ} (hfits : call.Fits) : (c.perform w call).2.1.KeepsBooks settings := by
  rcases h with hend | ⟨hopen, hk⟩
  · exact .inl (isEnding_perform (p := .all settings.bounds) hend w hfits)
  -- what hands nothing to the engine is a path of quiet steps, and these keep the books
  by_cases hquiet : call.isLoud = false
  · exact .of_running hopen.core hk
      ((advances_perform c w (hfits.within settings.bounds _) hquiet).running hopen)
  cases call with
  | write id data fin =>
    refine .inr ⟨isOpen_write hopen id data fin, ?_⟩
    change (c.write id data fin).2.core.Balanced settings.localParameters
    obtain ⟨hfollows, hout⟩ := StreamSet.write_outcome hopen.core.orderly id data fin
    have hspares := hout.sparesRecv
    change c.streams.Follows (c.streams.write id data fin).2 at hfollows
    change View.SparesRecv c.streams.view (c.streams.write id data fin).2.view at hspares
    rw [write_eq hopen.state]
    rcases hr : c.streams.write id data fin with ⟨e | out, streams⟩
    · rw [hr] at hfollows hspares
      exact hk.spares hopen.core hfollows hspares rfl
    · rw [hr] at hfollows hspares
      refine hk.spares hopen.core hfollows hspares ?_
      dsimp only [submit]
      split <;> rfl
  -- pulling datagrams empties the engine's queue and touches none of its grants
  | produceDatagrams now =>
    obtain ⟨engine, hspeaks, hrunning⟩ := running_produceDatagrams hopen now w
    have hspoken : Core.Balanced settings.localParameters ⟨c.streams, engine⟩ := hk.speaks hspeaks
    exact .of_running (k := ⟨c.streams, engine⟩)
      ⟨hopen.core.orderly, hopen.core.frozen⟩ hspoken hrunning
  | failNextWrite error =>
    exact .inr ⟨isOpen_failNextWrite hopen error,
      hk.speaks ⟨⟨rfl, rfl, rfl, rfl⟩, rfl, rfl, fun _ => rfl⟩⟩
  | _ => exact absurd rfl hquiet

/-- A run keeps the books. -/
theorem keepsBooks_steps {r : Run σ} (h : r.connection.KeepsBooks settings) {calls : List (Call σ)}
    (hfits : ∀ call ∈ calls, call.Fits) : (r.steps calls).connection.KeepsBooks settings := by
  induction calls generalizing r with
  | nil => exact h
  | cons call rest ih =>
    rw [List.forall_mem_cons] at hfits
    exact ih (keepsBooks_perform h r.world hfits.1) hfits.2

/-- The windows of streams are as wide as the settings say. -/
theorem recvWindowFor_localParameters (side : Side) (settings : ConnectionSettings)
    (id : StreamId) :
    recvWindowFor side settings.localParameters id = settings.initialMaxStreamData := by
  rw [recvWindowFor]
  cases id.direction
  · exact ite_self _
  · rfl

/-- A connection begins with nothing in its books. -/
theorem balanced_begin (side : Side) {settings : ConnectionSettings}
    (hwidth : settings.initialMaxStreamData ≤ maxWord) (scid dcid : ConnectionId) (now : Instant)
    (w : σ) :
    (Run.begin side settings scid dcid now w).connection.core.Balanced
      settings.localParameters := by
  refine ⟨StreamSet.balanced_new side fun id => ?_, rfl⟩
  rw [recvWindowFor_localParameters]
  exact hwidth

/-- **No credit leaks.** As long as a connection is not closing, what was received is
what was given back and what waits to be read; the limit is the initial window beyond
what was given back; and the engine has granted as much. When nothing waits, the peer
has the whole initial window again, however the bytes were given back.

Two sums have to fit a word: the initial window with what was given back, and what was
given back with what waits. -/
theorem window_restored (side : Side) (settings : ConnectionSettings)
    (hwidth : settings.initialMaxStreamData ≤ maxWord) (scid dcid : ConnectionId)
    (now : Instant) (w : σ) (calls : List (Call σ)) (hfits : ∀ call ∈ calls, call.Fits)
    (hopen :
      ((Run.begin side settings scid dcid now w).steps calls).connection.state.isClosing = false) :
    let c := ((Run.begin side settings scid dcid now w).steps calls).connection
    settings.initialMaxData + c.engine.connectionCredit ≤ maxWord →
    c.engine.connectionCredit + c.streams.unreadTotal ≤ maxWord →
    c.streams.recvWindow.received = c.streams.recvWindow.consumed + c.streams.unreadTotal ∧
      c.streams.recvWindow.limit = settings.initialMaxData + c.streams.recvWindow.consumed ∧
      c.engine.connectionCredit = c.streams.recvWindow.consumed ∧
      ((∀ st ∈ c.streams.streams.values, st.isReadable = false) →
        c.streams.recvWindow.limit = c.streams.recvWindow.received + settings.initialMaxData) := by
  have hbegin : (Run.begin side settings scid dcid now w).connection.KeepsBooks settings :=
    .inr ⟨isOpen_new side rfl scid dcid now, balanced_begin side hwidth scid dcid now w⟩
  intro c hlimitFits hreceivedFits
  rcases keepsBooks_steps hbegin hfits with hend | ⟨-, hbalanced, hown⟩
  · exact absurd hend.state (Bool.eq_false_iff.1 hopen)
  have hreceived : c.streams.recvWindow.received = _ := hbalanced.received hreceivedFits
  have hwindow : c.streams.recvWindow.window = settings.initialMaxData :=
    hbalanced.window.trans (congrArg _ hown)
  have hstands : c.streams.recvWindow.Stands c.engine.connectionCredit := hbalanced.stands
  -- the two sums fit by hypothesis, so neither wrapped on the way
  obtain ⟨hconsumed, hlimit⟩ := hstands (hwindow ▸ hlimitFits)
  rw [hwindow] at hlimit
  rw [hconsumed]
  refine ⟨hreceived, hlimit, rfl, fun hunread => ?_⟩
  have hnone : c.streams.unreadTotal = 0 := StreamSet.unreadTotal_eq_zero hunread
  change c.streams.recvWindow.received = c.engine.connectionCredit +
    c.streams.unreadTotal at hreceived
  omega

/-- A stream is stopped with bytes unread, and then reset by the peer beyond
what has arrived. -/
def stoppedThenReset : List (Call Unit) :=
  [.expectDatagram (.ok [.streamData ⟨0⟩ 0 [1, 2, 3] false]), .ingest [] ⟨0⟩, .stopSending ⟨0⟩ 7,
    .expectDatagram (.ok [.streamReset ⟨0⟩ 7 10]), .ingest [] ⟨0⟩]

/-- The bytes that never came are given back with those that nobody read. -/
theorem window_restored_stopped :
    ((Run.begin .server {} ⟨[], by decide⟩ ⟨[], by decide⟩ ⟨0⟩ ()).steps
      stoppedThenReset).connection.streams.recvWindow.limit = 10 + 1024 * 1024 := by
  obtain ⟨-, -, -, hrestored⟩ := window_restored .server {} (by decide) ⟨[], by decide⟩
    ⟨[], by decide⟩ ⟨0⟩ () stoppedThenReset (by decide) (by decide) (by decide) (by decide)
  have hreceived : ((Run.begin .server {} ⟨[], by decide⟩ ⟨[], by decide⟩ ⟨0⟩ ()).steps
      stoppedThenReset).connection.streams.recvWindow.received = 10 := by decide
  rw [hreceived] at hrestored
  exact hrestored (by decide)

/-- A byte arrives and is read. -/
def oneRead : List (Call Unit) :=
  [.expectDatagram (.ok [.streamData ⟨0⟩ 0 [1] false]), .ingest [] ⟨0⟩, .read ⟨0⟩ 1]

/-- With the widest windows, the limit does not rise after a byte was read: nothing
waits, the engine has granted the byte, and one byte of the window is lost. -/
theorem window_shut :
    let wide : ConnectionSettings :=
      { initialMaxData := maxWord, initialMaxStreamData := maxWord }
    let c := ((Run.begin .server wide ⟨[], by decide⟩ ⟨[], by decide⟩ ⟨0⟩ ()).steps
      oneRead).connection
    wide.Valid ∧ c.state.isClosing = false ∧ c.engine.connectionCredit = 1 ∧
      c.streams.unreadTotal = 0 ∧ c.streams.recvWindow.limit = maxWord := by
  decide

end Connection

end QuicHost
