import QuicHost.Proofs.Connection.Turns
import QuicHost.Proofs.Endpoint.Channel

/-!
# Delivering to a channel

A connection whose every event goes to a channel has two ways to tell it. Either
the event joins the queue of the channel, once, with the handle of the
connection; or the channel takes nothing, and the connection records the failure.

The receiver works beside the connections. It may take events, or leave, between
any two passes of the delivery loop (`Interleaved`). However it does, the loop
makes at most twice as many passes as events are queued, because the report of a
failure is not reported (`Settles`).
-/

namespace QuicHost

open EventDispatcher (Delivery)

variable {ω : Type}

/-- What is sent, if a delivery does not fail: the event, with the handle of the
connection. -/
def EventDispatcher.Delivery.sent? (delivery : Delivery) (h : ConnectionHandle) :
    Option EndpointEvent :=
  match delivery.answer with
  | .ok () => some ⟨h, delivery.event⟩
  | .error _ => none

/-- What is delivered is sent, or is a failure that tells what kind of event it was. -/
theorem EventDispatcher.Delivery.sent_or_failed (delivery : Delivery) (h : ConnectionHandle) :
    delivery.sent? h = some ⟨h, delivery.event⟩ ∧ delivery.diagnostic? = none ∨
    delivery.sent? h = none ∧ ∃ failure, delivery.diagnostic? = some failure ∧
      failure.kind = delivery.event.kind := by
  rw [Delivery.sent?, Delivery.diagnostic?]
  cases delivery.answer with
  | ok _ => exact .inl ⟨rfl, rfl⟩
  | error error => exact .inr ⟨rfl, _, rfl, rfl⟩

/-! ## What happens at a channel

Deliveries, receptions and the departure of the receiver, in one order, and what they do
to the channel. A trace determines the channel that it leads to. -/

/-- What happens at a channel. -/
inductive Happening where
  /-- a connection delivers an event -/
  | delivered (h : ConnectionHandle) (delivery : Delivery)
  /-- the receiver takes the oldest event, if there is one -/
  | received (e : Option EndpointEvent)
  /-- the receiver leaves -/
  | left

namespace Happening

/-- The event that is sent. -/
def sent? : Happening → Option EndpointEvent
  | delivered h delivery => delivery.sent? h
  | _ => none

/-- The event that is received. -/
def received? : Happening → Option EndpointEvent
  | received e => e
  | _ => none

/-- The delivery, if the connection of a handle makes one. -/
def deliveryOf? (k : Nat) : Happening → Option Delivery
  | delivered h delivery => if h.key = k then some delivery else none
  | _ => none

/-- Whether it is the receiver who does it. -/
def byReceiver : Happening → Bool
  | delivered _ _ => false
  | _ => true

/-- Whether the receiver leaves. -/
def leaves : Happening → Bool
  | left => true
  | _ => false

end Happening

/-- The events that are sent, in order. -/
def sentIn (trace : List Happening) : List EndpointEvent := trace.filterMap Happening.sent?

/-- The events that are received, in order. -/
def receivedIn (trace : List Happening) : List EndpointEvent :=
  trace.filterMap Happening.received?

/-- The deliveries that the connection of a handle makes, in order. -/
def deliveriesOf (k : Nat) (trace : List Happening) : List Delivery :=
  trace.filterMap (Happening.deliveryOf? k)

section

variable {trace : List Happening} {h : ConnectionHandle} {delivery : Delivery} {j k : Nat}

theorem sentIn_append (trace trace' : List Happening) :
    sentIn (trace ++ trace') = sentIn trace ++ sentIn trace' :=
  List.filterMap_append

theorem receivedIn_append (trace trace' : List Happening) :
    receivedIn (trace ++ trace') = receivedIn trace ++ receivedIn trace' :=
  List.filterMap_append

theorem deliveriesOf_append (k : Nat) (trace trace' : List Happening) :
    deliveriesOf k (trace ++ trace') = deliveriesOf k trace ++ deliveriesOf k trace' :=
  List.filterMap_append

@[simp] theorem deliveriesOf_nil (k : Nat) : deliveriesOf k [] = [] := rfl

@[simp] theorem deliveriesOf_delivered (h : ConnectionHandle) (delivery : Delivery)
    (trace : List Happening) :
    deliveriesOf h.key (.delivered h delivery :: trace) =
      delivery :: deliveriesOf h.key trace := by
  rw [deliveriesOf, List.filterMap_cons, Happening.deliveryOf?, if_pos rfl]
  rfl

theorem deliveriesOf_map_delivered (h : ConnectionHandle) (log : List Delivery) :
    deliveriesOf h.key (log.map (.delivered h)) = log := by
  induction log with
  | nil => rfl
  | cons delivery rest ih => rw [List.map_cons, deliveriesOf_delivered, ih]

/-- What is delivered by others does not count. -/
theorem deliveriesOf_eq_nil (hothers : ∀ h delivery, .delivered h delivery ∈ trace → h.key ≠ k) :
    deliveriesOf k trace = [] := by
  refine List.filterMap_eq_nil_iff.2 fun x hx => ?_
  cases x with
  | delivered h delivery => exact if_neg (hothers h delivery hx)
  | received e => rfl
  | left => rfl

/-- The events of one connection that are sent are those that it delivers and that
do not fail. -/
theorem map_event_sentIn (h : ConnectionHandle) (trace : List Happening) :
    ((sentIn trace).filter (·.connection = h)).map EndpointEvent.event =
      ((deliveriesOf h.key trace).filter (·.answer.isOk)).map Delivery.event := by
  induction trace with
  | nil => rfl
  | cons x rest ih =>
    rw [sentIn, deliveriesOf] at ih ⊢
    rw [List.filterMap_cons, List.filterMap_cons]
    cases x with
    | delivered h' delivery =>
      have hsame : h' = h ↔ h'.key = h.key := by
        cases h
        cases h'
        simp
      rw [Happening.sent?, Happening.deliveryOf?, Delivery.sent?]
      cases hanswer : delivery.answer <;> by_cases hk : h'.key = h.key <;>
        simp [hk, hsame, hanswer, ih, Except.isOk, Except.toBool]
    | received e => exact ih
    | left => exact ih

/-- Whether a channel is what is left when this has happened: it holds no more than it
may, and what was sent was received, or lost with the receiver, or is still there, in
this order. -/
structure EventChannel.Holds (c : EventChannel) (capacity : Nat) (trace : List Happening) :
    Prop where
  sized : c.capacity = capacity
  /-- no more than the capacity -/
  room : c.queue.length ≤ capacity
  /-- what was sent, in its order, wherever it is now -/
  kept : ∃ lost, sentIn trace = receivedIn trace ++ lost ++ c.queue ∧
    (c.hasReceiver = true → lost = [])
  /-- a receiver that has not left is there -/
  stays : trace.any Happening.leaves = false → c.hasReceiver = true

/-- What was received is what was sent first. -/
theorem EventChannel.Holds.isPrefix {c : EventChannel} {capacity : Nat}
    (h : c.Holds capacity trace) : receivedIn trace <+: sentIn trace := by
  obtain ⟨lost, heq, -⟩ := h.kept
  rw [heq, List.append_assoc]
  exact List.prefix_append _ _

end

namespace HostState

variable {w w' w'' : HostState ω} {channel : Nat} {trace trace' : List Happening}

/-- Whether one of the host's channels comes to what happened at it. -/
def Follows (w : HostState ω) (channel : Nat) (trace : List Happening) (w' : HostState ω) :
    Prop :=
  w.Balances channel (sentIn trace) (receivedIn trace) (trace.any Happening.leaves) w'

/-- A new channel comes to hold what is left. -/
theorem Follows.exists_holds (h : w.Follows channel trace w') {capacity : Nat}
    (hget : w.channels[channel]? = some { capacity := capacity }) :
    ∃ c, w'.channels[channel]? = some c ∧ c.Holds capacity trace := by
  obtain ⟨c, hget', hbalances, hstays⟩ :=
    h _ hget ⟨Nat.zero_le _, fun hgone => Bool.noConfusion hgone⟩
  obtain ⟨lost, heq, hlost⟩ := hbalances.kept
  exact ⟨c, hget', hbalances.capacity,
    Nat.le_trans hbalances.sound.room (Nat.le_of_eq hbalances.capacity), ⟨lost, heq, hlost⟩,
    hstays⟩

theorem Follows.trans (h : w.Follows channel trace w') (h' : w'.Follows channel trace' w'') :
    w.Follows channel (trace ++ trace') w'' := by
  rw [Follows, sentIn_append, receivedIn_append, List.any_append]
  exact Balances.trans h h'

/-- Whether what happens next fails just if one of the host's channels takes nothing. -/
def Decides (w : HostState ω) (channel : Nat) (future : List Happening) : Prop :=
  ∀ h delivery rest, future = .delivered h delivery :: rest →
    (delivery.diagnostic?.isSome = true ↔ w.Blocked channel)

/-- Whether one of the host's channels comes to what happened at it, and did so at any
time between, and whether what failed was what it would not take. -/
def FollowsThroughout (w : HostState ω) (channel : Nat) (trace : List Happening)
    (w' : HostState ω) : Prop :=
  ∀ past future, trace = past ++ future →
    ∃ w₁, w.Follows channel past w₁ ∧ w₁.Decides channel future ∧ w₁.Follows channel future w'

theorem FollowsThroughout.follows (h : w.FollowsThroughout channel trace w') :
    w.Follows channel trace w' := by
  obtain ⟨w₁, hpast, -, hfuture⟩ := h trace [] (List.append_nil trace).symm
  have hall := hpast.trans hfuture
  rwa [List.append_nil] at hall

theorem decides_nil (w : HostState ω) (channel : Nat) : w.Decides channel [] := by
  intro h delivery rest heq
  cases heq

/-- Whatever the receiver does decides nothing about a delivery. -/
theorem decides_of_byReceiver (w : HostState ω) (channel : Nat) {x : Happening}
    (hx : x.byReceiver = true) : w.Decides channel [x] := by
  intro h delivery rest heq
  obtain ⟨rfl, -⟩ := List.cons.inj heq
  cases hx

theorem FollowsThroughout.nil (w : HostState ω) (channel : Nat) :
    w.FollowsThroughout channel [] w := by
  intro past future heq
  obtain ⟨rfl, rfl⟩ := List.append_eq_nil_iff.1 heq.symm
  exact ⟨w, .refl w channel, w.decides_nil channel, .refl w channel⟩

/-- With one thing alone there is nothing between. -/
theorem Follows.throughout {x : Happening} (h : w.Follows channel [x] w')
    (hdecides : w.Decides channel [x]) : w.FollowsThroughout channel [x] w' := by
  intro past future heq
  rcases List.append_eq_singleton_iff.1 heq.symm with ⟨rfl, rfl⟩ | ⟨rfl, rfl⟩
  · exact ⟨w, .refl w channel, hdecides, h⟩
  · exact ⟨w', h, w'.decides_nil channel, .refl w' channel⟩

/-- A trace that goes on: every point in it lies in one of the parts. -/
theorem FollowsThroughout.trans (h : w.FollowsThroughout channel trace w')
    (h' : w'.FollowsThroughout channel trace' w'') :
    w.FollowsThroughout channel (trace ++ trace') w'' := by
  have hlate (between future : List Happening) (heq : trace' = between ++ future) :
      ∃ w₁, w.Follows channel (trace ++ between) w₁ ∧ w₁.Decides channel future ∧
        w₁.Follows channel future w'' := by
    obtain ⟨w₁, hpast, hdecides, hfuture⟩ := h' between future heq
    exact ⟨w₁, h.follows.trans hpast, hdecides, hfuture⟩
  intro past future heq
  rcases List.append_eq_append_iff.1 heq with ⟨between, rfl, heq'⟩ | ⟨between, heq', rfl⟩
  · exact hlate between future heq'
  · -- with nothing left of the first part, the second part says what is next
    cases between with
    | nil =>
      rw [List.append_nil] at heq'
      have hnow := hlate [] trace' rfl
      rwa [List.append_nil, heq'] at hnow
    | cons x rest =>
      obtain ⟨w₁, hpast, hdecides, hfuture⟩ := h past (x :: rest) heq'
      refine ⟨w₁, hpast, fun handle delivery after hnext => ?_, hfuture.trans h'.follows⟩
      obtain ⟨rfl, -⟩ := List.cons.inj hnext
      exact hdecides handle delivery rest rfl

/-- Receiving is followed by the channel. -/
theorem throughout_receive (w : HostState ω) (channel : Nat) :
    w.FollowsThroughout channel [.received (w.receive channel).1] (w.receive channel).2 := by
  refine Follows.throughout ?_ (decides_of_byReceiver w channel rfl)
  have hreceived : receivedIn [.received (w.receive channel).1] =
      (w.receive channel).1.toList := by
    cases hreceive : (w.receive channel).1 <;> rfl
  rw [Follows, hreceived]
  exact w.balances_receive channel

theorem throughout_dropReceiver (w : HostState ω) (channel : Nat) :
    w.FollowsThroughout channel [.left] (w.dropReceiver channel) :=
  Follows.throughout (w.balances_dropReceiver channel) (decides_of_byReceiver w channel rfl)

end HostState

namespace EventDispatcher

variable {d d' d₁ : EventDispatcher (HostState ω)} {w w' w₁ : HostState ω} {delivery : Delivery}
  {log : List Delivery} {channel : Nat} {h : ConnectionHandle} {trace : List Happening}

/-! ## Passes

One pass of the delivery loop of a connection at the channel: its event is sent, or
recorded as one that failed. -/

/-- One pass sends the event, or leaves the channels as they are. -/
theorem GoesTo.follows_of_passes (hgoes : d.GoesTo (channelHandler channel h))
    (hpass : d.Passes w delivery d' w') : w.Follows channel [.delivered h delivery] w' := by
  have hanswer := hgoes.answer hpass
  rw [channelHandler] at hanswer
  cases hsend : w.send channel ⟨h, delivery.event⟩ with
  | ok w₁ =>
    rw [hsend] at hanswer
    obtain ⟨hok, rfl⟩ := Prod.mk.inj hanswer
    have hsent : sentIn [.delivered h delivery] = [⟨h, delivery.event⟩] := by
      rw [sentIn, List.filterMap_cons, Happening.sent?, Delivery.sent?, ← hok]
      rfl
    rw [HostState.Follows, hsent]
    exact HostState.balances_of_send hsend
  | error failure =>
    rw [hsend] at hanswer
    obtain ⟨herror, rfl⟩ := Prod.mk.inj hanswer
    have hsent : sentIn [.delivered h delivery] = [] := by
      rw [sentIn, List.filterMap_cons, Happening.sent?, Delivery.sent?, ← herror]
      rfl
    rw [HostState.Follows, hsent]
    exact .refl w channel

/-- It fails just if the channel takes nothing. -/
theorem GoesTo.decides_of_passes (hgoes : d.GoesTo (channelHandler channel h))
    (hpass : d.Passes w delivery d' w') : w.Decides channel [.delivered h delivery] := by
  intro h' delivery' rest heq
  obtain ⟨rfl, rfl⟩ := Happening.delivered.inj (List.cons.inj heq).1
  have hanswer := congrArg Prod.fst (hgoes.answer hpass)
  rw [channelHandler] at hanswer
  rw [← HostState.send_fails_iff w channel ⟨h, delivery.event⟩, Delivery.diagnostic?]
  cases hsend : w.send channel ⟨h, delivery.event⟩ with
  | ok w₁ =>
    simp only [hsend] at hanswer
    simp [← hanswer]
  | error failure =>
    simp only [hsend] at hanswer
    simp [← hanswer]

/-- While the channel takes nothing, every pass fails, and the host stays as it is. -/
theorem GoesTo.failing_of_blocked (hgoes : d.GoesTo (channelHandler channel h))
    (hblocked : w.Blocked channel) (hpassages : d.Passages w log d' w') :
    w' = w ∧ ∀ delivery ∈ log, delivery.diagnostic?.isSome = true := by
  induction hpassages with
  | nil => exact ⟨rfl, List.forall_mem_nil _⟩
  | @cons d _ _ w w₁ _ delivery log hpass _ ih =>
    have hanswer := hgoes.answer hpass
    obtain ⟨failure, hsend⟩ := (HostState.send_fails_iff w channel ⟨h, delivery.event⟩).2 hblocked
    rw [channelHandler, hsend] at hanswer
    obtain ⟨herror, rfl⟩ := Prod.mk.inj hanswer
    obtain ⟨hworld, hrest⟩ := ih (hgoes.passes hpass) hblocked
    refine ⟨hworld, List.forall_mem_cons.2 ⟨?_, hrest⟩⟩
    rw [Delivery.diagnostic?, ← herror]
    rfl

/-! ## Passes beside a receiver

Between any two passes the receiver may do what it likes. The passes themselves are what
they are without it. -/

/-- Passes of the delivery loop of a connection, while the receiver takes events,
or leaves, whenever it likes. -/
inductive Interleaved (channel : Nat) (h : ConnectionHandle) :
    EventDispatcher (HostState ω) → HostState ω → List Happening →
      EventDispatcher (HostState ω) → HostState ω → Prop where
  /-- nothing happens -/
  | nil (d : EventDispatcher (HostState ω)) (w : HostState ω) : Interleaved channel h d w [] d w
  /-- one pass, then the rest -/
  | passes {d d₁ d' : EventDispatcher (HostState ω)} {w w₁ w' : HostState ω}
      {delivery : Delivery} {trace : List Happening} (hpass : d.Passes w delivery d₁ w₁)
      (hrest : Interleaved channel h d₁ w₁ trace d' w') :
      Interleaved channel h d w (.delivered h delivery :: trace) d' w'
  /-- the receiver takes an event, then the rest -/
  | receives {d d' : EventDispatcher (HostState ω)} {w w' : HostState ω}
      {trace : List Happening}
      (hrest : Interleaved channel h d (w.receive channel).2 trace d' w') :
      Interleaved channel h d w (.received (w.receive channel).1 :: trace) d' w'
  /-- the receiver leaves, then the rest -/
  | leaves {d d' : EventDispatcher (HostState ω)} {w w' : HostState ω}
      {trace : List Happening}
      (hrest : Interleaved channel h d (w.dropReceiver channel) trace d' w') :
      Interleaved channel h d w (.left :: trace) d' w'

/-- The receiver may also do nothing. -/
theorem Passages.interleaved (hpassages : d.Passages w log d' w') (channel : Nat)
    (h : ConnectionHandle) :
    Interleaved channel h d w (log.map (.delivered h)) d' w' := by
  induction hpassages with
  | nil => exact .nil _ _
  | cons hpass _ ih => exact .passes hpass ih

namespace Interleaved

/-- A loop that is interleaved leaves the handlers in place. -/
theorem goesTo (hloop : d.Interleaved channel h w trace d' w')
    {handle : EventHandler (HostState ω)} (hgoes : d.GoesTo handle) : d'.GoesTo handle := by
  induction hloop with
  | nil => exact hgoes
  | passes hpass _ ih => exact ih (hgoes.passes hpass)
  | receives _ ih => exact ih hgoes
  | leaves _ ih => exact ih hgoes

/-- A loop that is interleaved leaves a sealed queue sealed. -/
theorem sealed (hloop : d.Interleaved channel h w trace d' w') : d'.sealed = d.sealed := by
  induction hloop with
  | nil => rfl
  | passes hpass _ ih =>
    obtain ⟨rest, -, rfl⟩ := hpass.afterwards
    exact ih
  | receives _ ih => exact ih
  | leaves _ ih => exact ih

/-- Every failure is recorded, and nothing else. -/
theorem diagnostics (hloop : d.Interleaved channel h w trace d' w') : d'.diagnostics =
    d.diagnostics ++ (deliveriesOf h.key trace).filterMap Delivery.diagnostic? := by
  induction hloop with
  | nil => exact (List.append_nil _).symm
  | @passes d _ _ _ _ _ delivery trace hpass _ ih =>
    obtain ⟨rest, -, rfl⟩ := hpass.afterwards
    rw [ih, deliveriesOf_delivered, List.filterMap_cons]
    cases hfailure : delivery.diagnostic? <;> simp [afterwards, hfailure]
  | receives _ ih => exact ih
  | leaves _ ih => exact ih

/-- What was queued and what was reported since is delivered in this order, up to
what is still queued. -/
theorem queue (hloop : d.Interleaved channel h w trace d' w') :
    d.queue ++ (deliveriesOf h.key trace).filterMap Delivery.report? =
      (deliveriesOf h.key trace).map Delivery.event ++ d'.queue := by
  induction hloop with
  | nil => simp
  | @passes d _ _ _ _ _ delivery trace hpass _ ih =>
    obtain ⟨rest, hqueue, rfl⟩ := hpass.afterwards
    rw [hqueue, deliveriesOf_delivered, List.map_cons, List.cons_append, List.cons_append, ← ih,
      List.filterMap_cons]
    cases hreport : delivery.report? <;> simp [afterwards, hreport]
  | receives _ ih => exact ih
  | leaves _ ih => exact ih

/-- However the receiver does, the loop is short. -/
theorem length_le (hloop : d.Interleaved channel h w trace d' w') :
    (deliveriesOf h.key trace).length ≤ 2 * d.queue.length := by
  have hqueue := hloop.queue
  generalize deliveriesOf h.key trace = log at hqueue
  rcases Nat.le_total log.length d.queue.length with hshort | hlong
  · omega
  -- what comes after the queue are reports, which report nothing
  have hafter : log.filterMap Delivery.report? =
      (log.drop d.queue.length).map Delivery.event ++ d'.queue := by
    have hdrop := congrArg (List.drop d.queue.length) hqueue
    rwa [List.drop_left, List.drop_append_of_le_length (by rwa [List.length_map]),
      ← List.map_drop] at hdrop
  have hlate : (log.drop d.queue.length).filterMap Delivery.report? = [] := by
    refine filterMap_report?_eq_nil fun e he => ?_
    have hreport : e ∈ log.filterMap Delivery.report? := by
      rw [hafter]
      exact List.mem_append_left _ he
    exact isDiagnostic_of_mem_reports hreport
  have hfirst : log.filterMap Delivery.report? =
      (log.take d.queue.length).filterMap Delivery.report? := by
    conv_lhs => rw [← List.take_append_drop d.queue.length log, List.filterMap_append, hlate,
      List.append_nil]
  have hcount := List.length_filterMap_le Delivery.report? (log.take d.queue.length)
  have htaken := List.length_take_le d.queue.length log
  have hlength := congrArg List.length hafter
  rw [hfirst, List.length_append, List.length_map, List.length_drop] at hlength
  omega

/-- The connection delivers as itself. -/
theorem handle (hloop : d.Interleaved channel h w trace d' w') {h' : ConnectionHandle}
    (hmem : .delivered h' delivery ∈ trace) : h' = h := by
  induction hloop with
  | nil => cases hmem
  | passes _ _ ih =>
    rcases List.mem_cons.1 hmem with heq | hmem
    · exact (Happening.delivered.inj heq).1
    · exact ih hmem
  | receives _ ih =>
    rcases List.mem_cons.1 hmem with heq | hmem
    · cases heq
    · exact ih hmem
  | leaves _ ih =>
    rcases List.mem_cons.1 hmem with heq | hmem
    · cases heq
    · exact ih hmem

/-- The channel is sent what is delivered and does not fail. -/
theorem follows (hloop : d.Interleaved channel h w trace d' w')
    (hgoes : d.GoesTo (channelHandler channel h)) : w.FollowsThroughout channel trace w' := by
  induction hloop with
  | nil => exact .nil _ channel
  | passes hpass _ ih =>
    exact ((hgoes.follows_of_passes hpass).throughout (hgoes.decides_of_passes hpass)).trans
      (ih (hgoes.passes hpass))
  | receives _ ih => exact (HostState.throughout_receive _ channel).trans (ih hgoes)
  | leaves _ ih => exact (HostState.throughout_dropReceiver _ channel).trans (ih hgoes)

end Interleaved

/-- While something is queued, the loop goes on. -/
theorem exists_passes (d : EventDispatcher (HostState ω)) (w : HostState ω)
    (hqueue : d.queue ≠ []) : ∃ delivery d' w', d.Passes w delivery d' w' := by
  cases hcons : d.queue with
  | nil => exact absurd hcons hqueue
  | cons e rest =>
    have hsame : ({ d with queue := e :: rest } : EventDispatcher (HostState ω)) = d := by
      rw [← hcons]
    have hpass := passes_deliver { d with queue := [] } e rest w
    simp only [List.append_nil, hsame] at hpass
    exact ⟨_, _, _, hpass⟩

/-! ## Coming to an end

Every event is delivered once, and its failure, if it is one, is reported once; reports
are not reported. So there are at most twice as many passes as events, whatever the
receiver does between them. -/

/-- Whether delivering comes to an end. Whatever is received meanwhile, the loop
goes on while anything is queued, and makes at most twice as many passes as events
are queued at first. If the channel takes nothing, the host stays as it is, every
event of the queue fails once, so does the report of every one that is no report
itself, and each failure is recorded. -/
structure Settles (d : EventDispatcher (HostState ω)) (channel : Nat) (w : HostState ω) :
    Prop where
  /-- at most two passes for every event that was queued -/
  bounded {h : ConnectionHandle} {trace d' w'} : d.Interleaved channel h w trace d' w' →
    (deliveriesOf h.key trace).length ≤ 2 * d.queue.length
  /-- and a pass as long as anything is queued -/
  goesOn {h : ConnectionHandle} {trace d' w'} : d.Interleaved channel h w trace d' w' →
    d'.queue ≠ [] → ∃ delivery d'' w'', d'.Passes w' delivery d'' w''
  /-- so nothing is queued in the end -/
  ends : (d.dispatch w).1.2.queue = []
  /-- and if nothing can be sent, each event fails once, and so does its report -/
  blocked : w.Blocked channel → (d.dispatch w).2 = w ∧
    (d.dispatch w).1.1 = d.queue.length + d.queue.countP (fun e => !e.isDiagnostic) ∧
    (d.dispatch w).1.2.diagnostics.length =
      d.diagnostics.length + d.queue.length + d.queue.countP (fun e => !e.isDiagnostic)

/-- What fails is reported, unless it is a report. -/
theorem isSome_report?_of_failing {delivery : Delivery}
    (hfails : delivery.diagnostic?.isSome = true) :
    delivery.report?.isSome = !delivery.event.isDiagnostic := by
  rw [Delivery.report?]
  cases delivery.event.isDiagnostic
  · simpa using hfails
  · rfl

/-- The loop comes to an end: each delivery sends one event or fails, and only the reports
of failures are queued again. -/
theorem GoesTo.settles (hgoes : d.GoesTo (channelHandler channel h)) (w : HostState ω) :
    d.Settles channel w := by
  have hempties := d.empties_rounds w
  have hcount := (EventDispatcher.passages_dispatch d w).2.2.1
  refine ⟨fun hloop => hloop.length_le, fun _ hqueue => exists_passes _ _ hqueue,
    hempties.queue, fun hblocked => ?_⟩
  obtain ⟨hworld, hfailing⟩ := hgoes.failing_of_blocked hblocked hempties.passages
  -- the first passes are those for what is queued
  have hfirst : ((d.rounds w).take d.queue.length).map Delivery.event = d.queue := by
    rw [List.map_take, ← hempties.delivered_eq, List.take_left]
  have hlength := hempties.length
  have hreports : ((d.rounds w).take d.queue.length).countP
      (fun delivery => delivery.report?.isSome) =
        d.queue.countP (fun e => !e.isDiagnostic) := by
    conv_rhs => rw [← hfirst, List.countP_map]
    refine List.countP_congr fun delivery hmem => ?_
    rw [isSome_report?_of_failing (hfailing delivery (List.mem_of_mem_take hmem))]
    rfl
  rw [hreports] at hlength
  have hrecorded : ((d.rounds w).filterMap Delivery.diagnostic?).length =
      (d.rounds w).length := by
    rw [List.length_filterMap_eq_countP, List.countP_eq_length]
    exact hfailing
  have hdiagnostics : (d.dispatch w).1.2.diagnostics =
      d.diagnostics ++ (d.rounds w).filterMap Delivery.diagnostic? :=
    hempties.passages.diagnostics
  refine ⟨hworld, ?_, ?_⟩
  · rw [hcount, hlength]
  · rw [hdiagnostics, List.length_append, hrecorded, hlength, Nat.add_assoc]

end EventDispatcher

end QuicHost
