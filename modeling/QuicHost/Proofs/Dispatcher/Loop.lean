import QuicHost.Dispatcher

/-!
# The delivery loop

Delivering is a loop: while an event is queued, the oldest one is taken out and
handed to the first target that takes it. A handler that fails adds to the very
queue that is being emptied, and a closed stream takes its handler away between
two passes.

`Passes` says all that one pass does. A `dispatch` makes passes until nothing is
queued, and there is no other way to make them (`isPrefix_of_drained`), so the
loop ends: a report of a failure is never reported again, hence whatever joins
the queue during the loop adds nothing itself.
-/

namespace QuicHost.EventDispatcher

variable {σ : Type}

/-! ## Where events go

An event goes to the first of its targets that takes events. The mailbox is the last, and
takes everything. -/

/-- The targets an event may go to, the preferred one first. -/
def targets (e : Event) : List Target :=
  match e.streamId? with
  | some id => [.stream id, .defaultStream, .connection, .mailbox]
  | none => [.connection, .mailbox]

/-- Whether events can be left at a target. The mailbox takes everything. -/
def accepts (d : EventDispatcher σ) : Target → Bool
  | .mailbox => true
  | target => (d.handler? target).isSome

/-- Anything but the mailbox takes an event exactly if there is a handler. -/
theorem accepts_eq_of_ne_mailbox (d : EventDispatcher σ) {target : Target}
    (h : target ≠ .mailbox) : d.accepts target = (d.handler? target).isSome := by
  cases target with
  | mailbox => exact absurd rfl h
  | _ => rfl

/-- Every event has a target, the first that takes it. -/
theorem find?_targets (d : EventDispatcher σ) (e : Event) :
    (targets e).find? d.accepts = some (d.target e) := by
  have hconnection : [Target.connection, .mailbox].find? d.accepts = some d.connectionTarget := by
    cases h : d.connectionHandler <;>
      simp [accepts, handler?, connectionTarget, List.find?_cons, h]
  cases hid : e.streamId? with
  | none =>
    simp only [targets, target, hid]
    exact hconnection
  | some id =>
    have hstream : d.accepts (.stream id) = d.hasStreamHandler id := rfl
    have hdefault : d.accepts .defaultStream = d.defaultStreamHandler.isSome := rfl
    simp only [targets, target, hid]
    rw [List.find?_cons, hstream, List.find?_cons, hdefault, hconnection]
    cases d.hasStreamHandler id <;> cases d.defaultStreamHandler.isSome <;> rfl

/-- The target of an event takes it: it is the mailbox or has a handler. -/
theorem accepts_target (d : EventDispatcher σ) (e : Event) : d.accepts (d.target e) = true :=
  List.find?_some (find?_targets d e)

/-- An event goes to the mailbox when no handler is there for it. -/
theorem handler?_target_eq_none_iff {d : EventDispatcher σ} {e : Event} :
    d.handler? (d.target e) = none ↔ d.target e = .mailbox := by
  constructor
  · intro hnone
    refine Decidable.byContradiction fun hne => ?_
    have haccepts := accepts_target d e
    rw [accepts_eq_of_ne_mailbox d hne, hnone] at haccepts
    cases haccepts
  · intro heq
    rw [heq]
    rfl

/-- What is answered at a target. The mailbox never complains. -/
def answerAt (d : EventDispatcher σ) (target : Target) (e : Event) :
    StateM σ (Except HandlerError Unit) := fun w =>
  match d.handler? target with
  | none => (.ok (), w)
  | some handle => handle e w

/-! ## One pass

A pass takes the oldest event and delivers it. It changes the queue, the mailbox, the
record of failures, and the handler of a stream that is closed. -/

/-- The delivery of one event: where it went, and what was answered there. -/
structure Delivery where
  /-- what was delivered -/
  event : Event
  /-- where -/
  target : Target
  /-- the answer of the handler -/
  answer : Except HandlerError Unit

namespace Delivery

/-- What is recorded of a failure. -/
def diagnostic? (delivery : Delivery) : Option Diagnostic :=
  match delivery.answer with
  | .ok () => none
  | .error error => some ⟨delivery.event.streamId?, delivery.event.kind, error.message⟩

/-- What joins the queue because of a failure: its report, unless the event was
such a report. -/
def report? (delivery : Delivery) : Option Event :=
  if delivery.event.isDiagnostic then none else delivery.diagnostic?.map .handlerFailed

/-- The event, if it went to the mailbox. -/
def mail? (delivery : Delivery) : Option Event :=
  if delivery.target = .mailbox then some delivery.event else none

theorem report?_of_isDiagnostic {delivery : Delivery} (h : delivery.event.isDiagnostic = true) :
    delivery.report? = none := by
  rw [report?, if_pos h]

/-- What is reported is that a handler failed. -/
theorem isDiagnostic_of_report? {delivery : Delivery} {e : Event}
    (h : delivery.report? = some e) : e.isDiagnostic = true := by
  rw [report?] at h
  split at h
  · cases h
  · obtain ⟨failure, -, rfl⟩ := Option.map_eq_some_iff.1 h
    rfl

end Delivery

/-- The delivery of an event to the target it has now. -/
def delivery (d : EventDispatcher σ) (e : Event) (w : σ) : Delivery :=
  ⟨e, d.target e, (d.answerAt (d.target e) e w).1⟩

/-- The dispatcher after a delivery, with `rest` queued behind the event. -/
def afterwards (d : EventDispatcher σ) (delivery : Delivery) (rest : List Event) :
    EventDispatcher σ :=
  { d with
    queue := rest ++ delivery.report?.toList
    mailbox := d.mailbox ++ delivery.mail?.toList
    diagnostics := d.diagnostics ++ delivery.diagnostic?.toList
    streamHandlers :=
      match delivery.event, delivery.target with
      | .streamClosed _, .mailbox => d.streamHandlers
      | .streamClosed id, _ => d.streamHandlers.erase id
      | _, _ => d.streamHandlers }

/-- One pass of the loop: the oldest event goes to the first target that takes
it, and is answered there. Its failure is recorded, and reported behind
everything pending. -/
structure Passes (d : EventDispatcher σ) (w : σ) (delivery : Delivery) (d' : EventDispatcher σ)
    (w' : σ) : Prop where
  /-- the target is chosen among the handlers installed now -/
  target : (targets delivery.event).find? d.accepts = some delivery.target
  /-- the handler runs once -/
  answer : d.answerAt delivery.target delivery.event w = (delivery.answer, w')
  /-- the event was the oldest; all else that changes -/
  afterwards : ∃ rest, d.queue = delivery.event :: rest ∧ d' = d.afterwards delivery rest

/-- What delivering an event does, in the terms of a pass. -/
theorem deliver_eq (d : EventDispatcher σ) (e : Event) (w : σ) {answer : Except HandlerError Unit}
    {w' : σ} (h : d.answerAt (d.target e) e w = (answer, w')) :
    d.deliver e w = (d.afterwards ⟨e, d.target e, answer⟩ d.queue, w') := by
  rw [answerAt] at h
  rw [deliver]
  -- no handler for the target means that the target is the mailbox
  cases hget : d.handler? (d.target e) with
  | none =>
    have hmailbox := handler?_target_eq_none_iff.1 hget
    simp only [hget] at h
    obtain ⟨rfl, rfl⟩ := h
    simp only [afterwards, Delivery.report?, Delivery.diagnostic?, Delivery.mail?, hmailbox]
    cases e <;> simp [Event.isDiagnostic]
  | some handle =>
    have hmailbox : d.target e ≠ .mailbox := by
      intro heq
      rw [handler?_target_eq_none_iff.2 heq] at hget
      cases hget
    simp only [hget] at h
    simp only [h]
    cases answer with
    | ok _ =>
      simp only [afterwards, Delivery.report?, Delivery.diagnostic?, Delivery.mail?, hmailbox]
      cases e <;> simp [dropHandlerOfClosed, removeStreamHandler]
    | error error =>
      simp only [afterwards, Delivery.report?, Delivery.diagnostic?, Delivery.mail?, hmailbox,
        recordFailure]
      cases e <;> simp [dropHandlerOfClosed, removeStreamHandler, Event.isDiagnostic, Event.kind]

section

variable {d d' d₁ d₂ : EventDispatcher σ} {w w' w₁ w₂ : σ} {delivery other : Delivery}
  {log log' : List Delivery}

/-- Delivering `e` while `rest` and the queue of `d` are pending is a pass. -/
theorem passes_deliver (d : EventDispatcher σ) (e : Event) (rest : List Event) (w : σ) :
    Passes { d with queue := e :: (rest ++ d.queue) } w (d.delivery e w)
      { (d.deliver e w).1 with queue := rest ++ (d.deliver e w).1.queue } (d.deliver e w).2 := by
  refine ⟨find?_targets d e, ?_, rest ++ d.queue, rfl, ?_⟩
  · rw [deliver_eq d e w rfl]
    rfl
  · rw [deliver_eq d e w rfl]
    simp only [EventDispatcher.afterwards, List.append_assoc]
    rfl

/-- The state decides what a pass does. -/
theorem Passes.unique (h : d.Passes w delivery d₁ w₁) (h' : d.Passes w other d₂ w₂) :
    delivery = other ∧ d₁ = d₂ ∧ w₁ = w₂ := by
  obtain ⟨rest, hqueue, rfl⟩ := h.afterwards
  obtain ⟨rest', hqueue', rfl⟩ := h'.afterwards
  obtain ⟨hevent, rfl⟩ := List.cons.inj (hqueue.symm.trans hqueue')
  have htarget := h.target
  rw [hevent, h'.target] at htarget
  obtain htarget := Option.some.inj htarget
  have hanswer := h.answer
  rw [hevent, ← htarget, h'.answer, Prod.mk.injEq] at hanswer
  have heq : delivery = other := by
    cases delivery
    cases other
    simp_all
  subst heq
  exact ⟨rfl, rfl, hanswer.2.symm⟩

/-- No pass reads or writes the number of events handed out. -/
theorem Passes.withDelivered (h : d.Passes w delivery d' w') (n : Nat) :
    Passes { d with delivered := n } w delivery { d' with delivered := n } w' := by
  obtain ⟨rest, hqueue, rfl⟩ := h.afterwards
  exact ⟨h.target, h.answer, rest, hqueue, rfl⟩

/-! ## Passes one after the other

Chains of passes, with their deliveries in order. What joins the queue meanwhile is
reports, and those are not reported again. -/

/-- Passes that follow each other, with the deliveries they make. -/
inductive Passages : EventDispatcher σ → σ → List Delivery → EventDispatcher σ → σ → Prop where
  /-- no pass -/
  | nil (d : EventDispatcher σ) (w : σ) : Passages d w [] d w
  /-- one pass, then the others -/
  | cons {d d₁ d' : EventDispatcher σ} {w w₁ w' : σ} {delivery : Delivery} {log : List Delivery}
      (hpass : d.Passes w delivery d₁ w₁) (hrest : Passages d₁ w₁ log d' w') :
      Passages d w (delivery :: log) d' w'

theorem Passages.append (h : d.Passages w log d₁ w₁) (h' : d₁.Passages w₁ log' d' w') :
    d.Passages w (log ++ log') d' w' := by
  induction h with
  | nil => exact h'
  | cons hpass _ ih => exact .cons hpass (ih h')

theorem Passages.withDelivered (h : d.Passages w log d' w') (n : Nat) :
    Passages { d with delivered := n } w log { d' with delivered := n } w' := by
  induction h with
  | nil => exact .nil _ _
  | cons hpass _ ih => exact .cons (hpass.withDelivered n) ih

/-- Passes that left nothing queued are all there are: whoever makes passes from
the same state makes the first of these. In particular there are not more. -/
theorem Passages.isPrefix_of_drained (h : d.Passages w log d' w') (hdrained : d'.queue = [])
    (hother : d.Passages w log' d₁ w₁) : log' <+: log := by
  induction hother generalizing log with
  | nil => exact List.nil_prefix
  | cons hpass _ ih =>
    cases h with
    | nil =>
      obtain ⟨rest, hqueue, -⟩ := hpass.afterwards
      rw [hdrained] at hqueue
      cases hqueue
    | cons hpass' hrest =>
      obtain ⟨rfl, rfl, rfl⟩ := hpass.unique hpass'
      exact List.cons_prefix_cons.2 ⟨rfl, ih hrest⟩

/-- What was queued and what was reported since is delivered in this order, up
to what is still queued. -/
theorem Passages.queue (h : d.Passages w log d' w') :
    d.queue ++ log.filterMap Delivery.report? = log.map Delivery.event ++ d'.queue := by
  induction h with
  | nil => simp
  | @cons d _ _ _ _ _ delivery log hpass _ ih =>
    obtain ⟨rest, hqueue, rfl⟩ := hpass.afterwards
    rw [hqueue, List.map_cons, List.cons_append, List.cons_append, ← ih, List.filterMap_cons]
    cases hreport : delivery.report? <;> simp [afterwards, hreport]

/-- What no handler takes goes behind everything in the mailbox. -/
theorem Passages.mailbox (h : d.Passages w log d' w') :
    d'.mailbox = d.mailbox ++ log.filterMap Delivery.mail? := by
  induction h with
  | nil => simp
  | @cons d _ _ _ _ _ delivery log hpass _ ih =>
    obtain ⟨rest, -, rfl⟩ := hpass.afterwards
    rw [ih, List.filterMap_cons]
    cases hmail : delivery.mail? <;> simp [afterwards, hmail]

/-- Every failure is recorded. -/
theorem Passages.diagnostics (h : d.Passages w log d' w') :
    d'.diagnostics = d.diagnostics ++ log.filterMap Delivery.diagnostic? := by
  induction h with
  | nil => simp
  | @cons d _ _ _ _ _ delivery log hpass _ ih =>
    obtain ⟨rest, -, rfl⟩ := hpass.afterwards
    rw [ih, List.filterMap_cons]
    cases hfailure : delivery.diagnostic? <;> simp [afterwards, hfailure]

theorem Passages.sealed (h : d.Passages w log d' w') : d'.sealed = d.sealed := by
  induction h with
  | nil => rfl
  | cons hpass _ ih =>
    obtain ⟨rest, -, rfl⟩ := hpass.afterwards
    exact ih

/-- Reports of failures report nothing when they are delivered. -/
theorem filterMap_report?_eq_nil {log : List Delivery}
    (h : ∀ e ∈ log.map Delivery.event, e.isDiagnostic = true) :
    log.filterMap Delivery.report? = [] := by
  rw [List.filterMap_eq_nil_iff]
  intro delivery hmem
  exact Delivery.report?_of_isDiagnostic (h _ (List.mem_map_of_mem hmem))

theorem isDiagnostic_of_mem_reports {e : Event} (h : e ∈ log.filterMap Delivery.report?) :
    e.isDiagnostic = true := by
  obtain ⟨_, -, hreport⟩ := List.mem_filterMap.1 h
  exact Delivery.isDiagnostic_of_report? hreport

/-- Of passes that leave nothing queued, those for what was queued at the start
come first. The others are for the reports of the first ones, and report nothing,
so this is how many there are. -/
theorem Passages.length_of_drained (h : d.Passages w log d' w') (hdrained : d'.queue = []) :
    log.length = d.queue.length +
      (log.take d.queue.length).countP fun delivery => delivery.report?.isSome := by
  have hqueue : d.queue ++ log.filterMap Delivery.report? = log.map Delivery.event := by
    rw [h.queue, hdrained, List.append_nil]
  have hlate : (log.drop d.queue.length).filterMap Delivery.report? = [] := by
    apply filterMap_report?_eq_nil
    intro e he
    rw [List.map_drop, ← hqueue, List.drop_left] at he
    exact isDiagnostic_of_mem_reports he
  have hsplit : log.filterMap Delivery.report?
      = (log.take d.queue.length).filterMap Delivery.report? := by
    have happend : (log.take d.queue.length ++ log.drop d.queue.length).filterMap
        Delivery.report? = (log.take d.queue.length).filterMap Delivery.report? ++
          (log.drop d.queue.length).filterMap Delivery.report? :=
      List.filterMap_append
    rwa [List.take_append_drop, hlate, List.append_nil] at happend
  have hlength := congrArg List.length hqueue
  rw [List.length_append, List.length_map, hsplit, List.length_filterMap_eq_countP] at hlength
  exact hlength.symm

/-! ## The rounds of a dispatch

Two rounds are enough: one for what was queued, and one for the reports of its failures. -/

/-- The deliveries of a list of events, one after the other. -/
def deliveries (d : EventDispatcher σ) : List Event → σ → List Delivery
  | [], _ => []
  | e :: rest, w => d.delivery e w :: (d.deliver e w).1.deliveries rest (d.deliver e w).2

/-- The deliveries of a list are about its events, in order. -/
theorem map_event_deliveries (d : EventDispatcher σ) (es : List Event) (w : σ) :
    (d.deliveries es w).map Delivery.event = es := by
  induction es generalizing d w with
  | nil => rfl
  | cons e rest ih =>
    rw [deliveries, List.map_cons, ih]
    rfl

/-- Delivering a list of events makes one pass for each, the list standing
before everything queued meanwhile. -/
theorem passages_deliverAll (d : EventDispatcher σ) (es : List Event) (w : σ) :
    Passages { d with queue := es ++ d.queue } w (d.deliveries es w) (d.deliverAll es w).1
      (d.deliverAll es w).2 := by
  induction es generalizing d w with
  | nil => exact .nil _ _
  | cons e rest ih => exact .cons (passes_deliver d e rest w) (ih _ _)

/-- The count is kept by the round, not by single deliveries. -/
theorem delivered_deliverAll (d : EventDispatcher σ) (es : List Event) (w : σ) :
    (d.deliverAll es w).1.delivered = d.delivered := by
  induction es generalizing d w with
  | nil => rfl
  | cons e rest ih =>
    have hfirst : (d.deliver e w).1.delivered = d.delivered := by
      rw [deliver_eq d e w rfl]
      rfl
    exact (ih (d.deliver e w).1 (d.deliver e w).2).trans hfirst

/-- The deliveries of one round: what is queued, once. -/
def round (d : EventDispatcher σ) (w : σ) : List Delivery :=
  { d with queue := [], delivered := d.delivered + d.queue.length }.deliveries d.queue w

/-- The deliveries of a dispatch: a round, then one for the reports. -/
def rounds (d : EventDispatcher σ) (w : σ) : List Delivery :=
  d.round w ++ (d.deliverQueue w).1.round (d.deliverQueue w).2

theorem map_event_round (d : EventDispatcher σ) (w : σ) :
    (d.round w).map Delivery.event = d.queue :=
  map_event_deliveries _ _ w

/-- One round delivers what is queued, once. Only reports are queued then. -/
theorem passages_deliverQueue (d : EventDispatcher σ) (w : σ) :
    (d.deliverQueue w).1.queue = (d.round w).filterMap Delivery.report? ∧
      (d.deliverQueue w).1.delivered = d.delivered + d.queue.length ∧
      d.Passages w (d.round w) { (d.deliverQueue w).1 with delivered := d.delivered }
        (d.deliverQueue w).2 := by
  have hround := (passages_deliverAll
    { d with queue := [], delivered := d.delivered + d.queue.length } d.queue w).withDelivered
      d.delivered
  rw [List.append_nil] at hround
  refine ⟨?_, delivered_deliverAll _ _ w, hround⟩
  have hqueue := hround.queue
  change d.queue ++ (d.round w).filterMap Delivery.report?
    = (d.round w).map Delivery.event ++ (d.deliverQueue w).1.queue at hqueue
  rw [map_event_round] at hqueue
  exact (List.append_cancel_left hqueue).symm

/-- A dispatch is the loop: it makes passes until nothing is queued, and answers
how many it made. -/
theorem passages_dispatch (d : EventDispatcher σ) (w : σ) :
    d.Passages w (d.rounds w) { (d.dispatch w).1.2 with delivered := d.delivered }
        (d.dispatch w).2 ∧
      (d.dispatch w).1.2.queue = [] ∧ (d.dispatch w).1.1 = (d.rounds w).length ∧
      (d.dispatch w).1.2.delivered = d.delivered + (d.rounds w).length := by
  obtain ⟨hreports, hcount, hpassages⟩ := passages_deliverQueue d w
  obtain ⟨hrest, hcount', hpassages'⟩ :=
    passages_deliverQueue (d.deliverQueue w).1 (d.deliverQueue w).2
  have hlength : (d.rounds w).length = d.queue.length + (d.deliverQueue w).1.queue.length := by
    rw [rounds, List.length_append, ← map_event_round d w,
      ← map_event_round (d.deliverQueue w).1 (d.deliverQueue w).2, List.length_map,
      List.length_map]
  have hdelivered : (d.dispatch w).1.2.delivered = d.delivered + (d.rounds w).length := by
    rw [hlength, ← Nat.add_assoc, ← hcount]
    exact hcount'
  refine ⟨?_, ?_, ?_, hdelivered⟩
  · exact hpassages.append (hpassages'.withDelivered d.delivered)
  · refine hrest.trans (filterMap_report?_eq_nil fun e he => ?_)
    rw [map_event_round, hreports] at he
    exact isDiagnostic_of_mem_reports he
  · have hanswer : (d.dispatch w).1.1 = (d.dispatch w).1.2.delivered - d.delivered := rfl
    rw [hanswer, hdelivered, Nat.add_sub_cancel_left]

/-- There is nothing to do when nothing is queued. -/
theorem dispatch_of_queue_eq_nil (h : d.queue = []) (w : σ) :
    d.dispatch w = ((0, d), w) ∧ d.rounds w = [] := by
  have hround : d.deliverQueue w = (d, w) := by
    cases d
    obtain rfl := h
    rfl
  constructor
  · simp only [dispatch, hround, Nat.sub_self]
  · rw [rounds, hround, round, h]
    rfl

end

end QuicHost.EventDispatcher
