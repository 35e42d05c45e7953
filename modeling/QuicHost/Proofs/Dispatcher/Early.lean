import QuicHost.Proofs.Dispatcher.Order

/-!
# Delivering early

While no handler fails, it does not matter when events are delivered. A dispatch
that comes early hands out what is queued by then; the next one goes on with what
is queued since, and together they do what a single late one does
(`dispatch_early`). If handlers fail it matters, because an early dispatch also
delivers the reports.

The two dispatches make passes one after the other. So does the late one, and
there is only one way to make passes until nothing is queued.
-/

namespace QuicHost.EventDispatcher

variable {σ : Type}

/-- Whether no handler ever fails. -/
def Unfailing (d : EventDispatcher σ) : Prop :=
  ∀ target handle, d.handler? target = some handle → ∀ e w, (handle e w).1 = .ok ()

section

variable {d d' d₁ d₂ : EventDispatcher σ} {w w' w₁ w₂ : σ} {delivery : Delivery}
  {log log' : List Delivery}

/-! ## Without failures

Where no handler fails nothing is reported, so a delivery leaves the queue empty after
what was queued. -/

/-- A pass is answered without complaint. -/
theorem Unfailing.answer (h : d.Unfailing) (hpass : d.Passes w delivery d' w') :
    delivery.answer = .ok () := by
  have hanswer := hpass.answer
  rw [answerAt] at hanswer
  split at hanswer
  · exact (congrArg Prod.fst hanswer).symm
  · next handle hget =>
    have hok := h _ _ hget delivery.event w
    rw [hanswer] at hok
    exact hok

theorem Unfailing.report?_eq (h : d.Unfailing) (hpass : d.Passes w delivery d' w') :
    delivery.report? = none := by
  simp [Delivery.report?, Delivery.diagnostic?, h.answer hpass]

/-- Passes install no handlers. -/
theorem Unfailing.passes (h : d.Unfailing) (hpass : d.Passes w delivery d' w') :
    d'.Unfailing := by
  obtain ⟨rest, -, rfl⟩ := hpass.afterwards
  intro target handle hget
  refine h target handle ?_
  cases target with
  | stream id =>
    have hhandlers : (d.afterwards delivery rest).streamHandlers.get? id = some handle := hget
    rw [afterwards] at hhandlers
    dsimp only at hhandlers
    split at hhandlers
    · exact hhandlers
    · rw [Table.get?_erase] at hhandlers
      split at hhandlers
      · cases hhandlers
      · exact hhandlers
    · exact hhandlers
  | defaultStream => exact hget
  | connection => exact hget
  | mailbox => exact hget

theorem Unfailing.passages (h : d.Unfailing) (hpassages : d.Passages w log d' w') :
    d'.Unfailing := by
  induction hpassages with
  | nil => exact h
  | cons hpass _ ih => exact ih (h.passes hpass)

theorem Unfailing.dispatch (h : d.Unfailing) (w : σ) : (d.dispatch w).1.2.Unfailing := by
  have hafter : ({ (d.dispatch w).1.2 with delivered := d.delivered } :
      EventDispatcher σ).Unfailing := h.passages (empties_rounds d w).passages
  exact hafter

/-- What is queued makes no handler fail. -/
theorem Unfailing.foldl_push (h : d.Unfailing) (es : List Event) :
    (es.foldl push d).Unfailing := by
  induction es generalizing d with
  | nil => exact h
  | cons e rest ih =>
    refine ih ?_
    rw [push]
    split
    · exact h
    · exact h

/-! ## One way to make passes

What passes do is determined by the dispatcher and the state of the application. So two
ways of making them that begin alike end alike. -/

/-- Whoever makes passes until nothing is queued makes the same ones. -/
theorem Passages.unique_of_drained (h : d.Passages w log d₁ w₁) (hdrained : d₁.queue = [])
    (h' : d.Passages w log' d₂ w₂) (hdrained' : d₂.queue = []) :
    log = log' ∧ d₁ = d₂ ∧ w₁ = w₂ := by
  induction h generalizing log' with
  | nil =>
    cases h' with
    | nil => exact ⟨rfl, rfl, rfl⟩
    | cons hpass _ =>
      obtain ⟨rest, hqueue, -⟩ := hpass.afterwards
      rw [hdrained] at hqueue
      cases hqueue
  | cons hpass _ ih =>
    cases h' with
    | nil =>
      obtain ⟨rest, hqueue, -⟩ := hpass.afterwards
      rw [hdrained'] at hqueue
      cases hqueue
    | cons hpass' hrest =>
      obtain ⟨rfl, rfl, rfl⟩ := hpass.unique hpass'
      obtain ⟨rfl, rfl, rfl⟩ := ih hdrained hrest
      exact ⟨rfl, rfl, rfl⟩

/-- With events queued behind everything pending. -/
def queueing (d : EventDispatcher σ) (es : List Event) : EventDispatcher σ :=
  { d with queue := d.queue ++ es }

/-- What is queued behind does not concern a pass whose handler does not fail. -/
theorem Unfailing.passes_queueing (h : d.Unfailing) (hpass : d.Passes w delivery d' w')
    (es : List Event) : (d.queueing es).Passes w delivery (d'.queueing es) w' := by
  have hreport := h.report?_eq hpass
  obtain ⟨rest, hqueue, rfl⟩ := hpass.afterwards
  refine ⟨hpass.target, hpass.answer, rest ++ es, ?_, ?_⟩
  · rw [queueing, hqueue]
    rfl
  · simp only [queueing, afterwards, hreport, Option.toList_none, List.append_nil]

/-- Where no handler fails, passes never reach what is queued behind: nothing is put in
between. -/
theorem Unfailing.passages_queueing (h : d.Unfailing) (hpassages : d.Passages w log d' w')
    (es : List Event) : (d.queueing es).Passages w log (d'.queueing es) w' := by
  induction hpassages with
  | nil => exact .nil _ _
  | cons hpass _ ih => exact .cons (h.passes_queueing hpass es) (ih (h.passes hpass))

theorem foldl_push_of_sealed (h : d.sealed = true) (es : List Event) : es.foldl push d = d := by
  induction es with
  | nil => rfl
  | cons e rest ih => rwa [List.foldl_cons, push_of_sealed h]

/-- Events that are pushed are queued behind everything pending. -/
theorem foldl_push_of_not_sealed (h : d.sealed = false) (es : List Event) :
    es.foldl push d = d.queueing es := by
  induction es generalizing d with
  | nil => rw [queueing, List.append_nil]; rfl
  | cons e rest ih =>
    have hpush : d.push e = d.queueing [e] := if_neg (Bool.eq_false_iff.1 h)
    have hqueueing : (d.queueing [e]).queueing rest = d.queueing (e :: rest) := by
      simp [queueing]
    rw [List.foldl_cons, hpush, ih (d := d.queueing [e]) h, hqueueing]

/-- Two dispatchers that count alike and are alike but for the count. -/
theorem eq_of_withDelivered {n : Nat}
    (h : ({ d with delivered := n } : EventDispatcher σ) = { d' with delivered := n })
    (hdelivered : d.delivered = d'.delivered) : d = d' := by
  cases d
  cases d'
  simp_all

/-- A dispatch is known from its passes. -/
theorem Empties.dispatch_eq (h : d.Empties w log d' w') :
    d.dispatch w = ((log.length, d'), w') ∧ d.rounds w = log := by
  have hdispatch := empties_rounds d w
  obtain ⟨rfl, hsame, rfl⟩ :=
    hdispatch.passages.unique_of_drained hdispatch.queue h.passages h.queue
  have hcount : (d.dispatch w).1.1 = (d.rounds w).length := (passages_dispatch d w).2.2.1
  have hdispatched : (d.dispatch w).1.2 = d' :=
    eq_of_withDelivered hsame (hdispatch.delivered.trans h.delivered.symm)
  rw [← hdispatched, ← hcount]
  exact ⟨rfl, rfl⟩

/-- A dispatch goes on where another one has stopped. -/
theorem Unfailing.empties_queueing (h : d.Unfailing) (hearly : d.Empties w log d₁ w₁)
    {es : List Event} (hlate : (d₁.queueing es).Empties w₁ log' d' w') :
    (d.queueing es).Empties w (log ++ log') d' w' where
  passages := (h.passages_queueing hearly.passages es).append
    (hlate.passages.withDelivered d.delivered)
  queue := hlate.queue
  delivered := by
    have hcount : d'.delivered = d₁.delivered + log'.length := hlate.delivered
    rw [hcount, hearly.delivered, List.length_append, Nat.add_assoc]
    rfl

/-- **Early or late.** While no handler fails, a dispatch, and another one after
more events were pushed, deliver what a single dispatch delivers, in the same
order and with the same effect. -/
theorem Unfailing.dispatch_early (h : d.Unfailing) (w : σ) (es : List Event) :
    let early := d.dispatch w
    let late := es.foldl push early.1.2
    (es.foldl push d).rounds w = d.rounds w ++ late.rounds early.2 ∧
      (es.foldl push d).dispatch w =
        ((early.1.1 + (late.dispatch early.2).1.1, (late.dispatch early.2).1.2),
          (late.dispatch early.2).2) := by
  intro early late
  have hearly : d.Empties w (d.rounds w) early.1.2 early.2 := empties_rounds d w
  have hsealed : early.1.2.sealed = d.sealed := hearly.passages.sealed
  cases hd : d.sealed with
  | true =>
    -- nothing can be pushed, and nothing is left to be delivered
    have hlate : late = early.1.2 := foldl_push_of_sealed (hsealed.trans hd) es
    obtain ⟨hdispatch, hrounds⟩ := dispatch_of_queue_eq_nil hearly.queue early.2
    rw [foldl_push_of_sealed hd, hlate, hdispatch, hrounds, List.append_nil]
    exact ⟨rfl, rfl⟩
  | false =>
    have hlate : late = early.1.2.queueing es := foldl_push_of_not_sealed (hsealed.trans hd) es
    have hempties := h.empties_queueing hearly (hlate ▸ empties_rounds late early.2)
    obtain ⟨hdispatch, hrounds⟩ := hempties.dispatch_eq
    have hcount : early.1.1 = (d.rounds w).length := (passages_dispatch d w).2.2.1
    have hcount' : (late.dispatch early.2).1.1 = (late.rounds early.2).length :=
      (passages_dispatch late early.2).2.2.1
    rw [foldl_push_of_not_sealed hd, hdispatch, hrounds, hcount, hcount', ← List.length_append,
      hlate]
    exact ⟨rfl, rfl⟩

end

end QuicHost.EventDispatcher
