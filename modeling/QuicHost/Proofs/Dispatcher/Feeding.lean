import QuicHost.Proofs.Dispatcher.Early

/-!
# One handler for everything

Where no handler is there for streams, every event about anything goes to the
handler of the connection, if there is one (`GoesTo`). Neither what is queued
(`Fed`) nor what is delivered changes that, so the handler stays the only one
until somebody installs another.

Queueing touches no handler but those of streams that are closed, and it removes these
(`Alike`); a pass of the loop does no more, so the induction on the passes carries both
that nobody else attends and that there is a handler (`Unattended.passages`,
`GoesTo.passes`).
-/

namespace QuicHost.EventDispatcher

variable {σ : Type}

/-! ## What is queued

Everything that can happen to a dispatcher between two deliveries, apart from the
installation of handlers. -/

/-- Events were queued, or the last one was and the others were dropped for it.
Nothing was delivered, and nobody new is told. -/
inductive Fed (d : EventDispatcher σ) : EventDispatcher σ → Prop where
  /-- nothing was queued -/
  | refl : Fed d d
  /-- one more event was queued -/
  | push {d' : EventDispatcher σ} (h : Fed d d') (e : Event) : Fed d (d'.push e)
  /-- the last event was queued -/
  | sealWith {d' : EventDispatcher σ} (h : Fed d d') (e : Event) : Fed d (d'.sealWith e)
  /-- the handler of a stream, if any, is told no more -/
  | removeStreamHandler {d' : EventDispatcher σ} (h : Fed d d') (id : StreamId) :
    Fed d (d'.removeStreamHandler id)

/-- Whether records are the same, and handlers, except that streams may have fewer. -/
structure Alike (d d' : EventDispatcher σ) : Prop where
  connectionHandler : d'.connectionHandler = d.connectionHandler
  defaultStreamHandler : d'.defaultStreamHandler = d.defaultStreamHandler
  /-- no stream has a handler that had none -/
  streamHandlers : ∀ id, d.streamHandlers.get? id = none → d'.streamHandlers.get? id = none
  diagnostics : d'.diagnostics = d.diagnostics
  delivered : d'.delivered = d.delivered

section

variable {d d' d'' : EventDispatcher σ} {w w' : σ} {delivery : Delivery} {log : List Delivery}
  {handle : EventHandler σ}

theorem Alike.trans (h : d.Alike d') (h' : d'.Alike d'') : d.Alike d'' :=
  ⟨h'.connectionHandler.trans h.connectionHandler,
    h'.defaultStreamHandler.trans h.defaultStreamHandler,
    fun id hnone => h'.streamHandlers id (h.streamHandlers id hnone),
    h'.diagnostics.trans h.diagnostics, h'.delivered.trans h.delivered⟩

theorem Alike.refl (d : EventDispatcher σ) : d.Alike d := ⟨rfl, rfl, fun _ h => h, rfl, rfl⟩

theorem alike_push (d : EventDispatcher σ) (e : Event) : d.Alike (d.push e) := by
  rw [push]
  split <;> exact ⟨rfl, rfl, fun _ h => h, rfl, rfl⟩

theorem alike_sealWith (d : EventDispatcher σ) (e : Event) : d.Alike (d.sealWith e) := by
  rw [sealWith]
  split <;> exact ⟨rfl, rfl, fun _ h => h, rfl, rfl⟩

/-- Where there is no handler there is none after one was removed. -/
theorem get?_erase_eq_none {d : EventDispatcher σ} {id : StreamId}
    (h : d.streamHandlers.get? id = none) (id' : StreamId) :
    (d.streamHandlers.erase id').get? id = none := by
  rw [Table.get?_erase]
  split
  · rfl
  · exact h

theorem alike_removeStreamHandler (d : EventDispatcher σ) (id : StreamId) :
    d.Alike (d.removeStreamHandler id) :=
  ⟨rfl, rfl, fun _ h => get?_erase_eq_none h id, rfl, rfl⟩

theorem Fed.alike (h : d.Fed d') : d.Alike d' := by
  induction h with
  | refl => exact .refl d
  | push _ e ih => exact ih.trans (alike_push _ e)
  | sealWith _ e ih => exact ih.trans (alike_sealWith _ e)
  | removeStreamHandler _ id ih => exact ih.trans (alike_removeStreamHandler _ id)

theorem Fed.trans (h : d.Fed d') (h' : d'.Fed d'') : d.Fed d'' := by
  induction h' with
  | refl => exact h
  | push _ e ih => exact ih.push e
  | sealWith _ e ih => exact ih.sealWith e
  | removeStreamHandler _ id ih => exact ih.removeStreamHandler id

theorem fed_foldl_push (d : EventDispatcher σ) (es : List Event) : d.Fed (es.foldl push d) := by
  induction es generalizing d with
  | nil => exact .refl
  | cons e rest ih => exact (Fed.refl.push e).trans (ih (d.push e))

/-- A sealed dispatcher takes nothing. -/
theorem Fed.of_sealed (h : d.Fed d') (hsealed : d.sealed = true) :
    d'.sealed = true ∧ d'.queue = d.queue := by
  induction h with
  | refl => exact ⟨hsealed, rfl⟩
  | push _ e ih =>
    rw [push_of_sealed ih.1]
    exact ih
  | sealWith _ e ih =>
    rw [EventDispatcher.sealWith, if_pos ih.1]
    exact ih
  | removeStreamHandler _ id ih => exact ih

/-! ## Who is told

Where there are no handlers for streams, and feeding installs none, every event goes to
the handler of the connection. -/

/-- Whether no handler is there for streams. -/
structure Unattended (d : EventDispatcher σ) : Prop where
  defaultStream : d.defaultStreamHandler = none
  streams : ∀ id, d.streamHandlers.get? id = none

/-- Whether every event goes to one handler. -/
structure GoesTo (handle : EventHandler σ) (d : EventDispatcher σ) : Prop where
  /-- nobody else takes anything -/
  unattended : d.Unattended
  /-- the handler of the connection takes what there is -/
  connection : d.connectionHandler = some handle

theorem Unattended.alike (h : d.Unattended) (halike : d.Alike d') : d'.Unattended :=
  ⟨halike.defaultStreamHandler.trans h.defaultStream,
    fun id => halike.streamHandlers id (h.streams id)⟩

theorem GoesTo.alike (h : d.GoesTo handle) (halike : d.Alike d') : d'.GoesTo handle :=
  ⟨h.unattended.alike halike, halike.connectionHandler.trans h.connection⟩

/-- A pass installs no handler, and takes away handlers of streams only. -/
theorem Unattended.passes (h : d.Unattended) (hpass : d.Passes w delivery d' w') :
    d'.Unattended := by
  obtain ⟨rest, -, rfl⟩ := hpass.afterwards
  refine ⟨h.defaultStream, fun id => ?_⟩
  simp only [afterwards]
  split
  · exact h.streams id
  · exact get?_erase_eq_none (h.streams id) _
  · exact h.streams id

theorem Passes.connectionHandler (h : d.Passes w delivery d' w') :
    d'.connectionHandler = d.connectionHandler := by
  obtain ⟨rest, -, rfl⟩ := h.afterwards
  rfl

theorem GoesTo.passes (h : d.GoesTo handle) (hpass : d.Passes w delivery d' w') :
    d'.GoesTo handle :=
  ⟨h.unattended.passes hpass, hpass.connectionHandler.trans h.connection⟩

/-- Passes install no handlers for streams, by induction on them. -/
theorem Unattended.passages (h : d.Unattended) (hpassages : d.Passages w log d' w') :
    d'.Unattended ∧ d'.connectionHandler = d.connectionHandler := by
  induction hpassages with
  | nil => exact ⟨h, rfl⟩
  | cons hpass _ ih =>
    obtain ⟨hunattended, hconnection⟩ := ih (h.passes hpass)
    exact ⟨hunattended, hconnection.trans hpass.connectionHandler⟩

theorem Unattended.empties (h : d.Unattended) (hempties : d.Empties w log d' w') :
    d'.Unattended ∧ d'.connectionHandler = d.connectionHandler := by
  obtain ⟨hunattended, hconnection⟩ := h.passages hempties.passages
  exact ⟨⟨hunattended.defaultStream, hunattended.streams⟩, hconnection⟩

/-- Everything goes to the handler. -/
theorem GoesTo.target (h : d.GoesTo handle) (e : Event) : d.target e = .connection := by
  have hconnection : d.connectionTarget = .connection := by
    rw [connectionTarget, h.connection]
    rfl
  rw [EventDispatcher.target]
  cases e.streamId? with
  | none => exact hconnection
  | some id =>
    have hstream : d.hasStreamHandler id = false := by
      rw [hasStreamHandler, Table.contains, h.unattended.streams id]
      rfl
    simp only [hstream, h.unattended.defaultStream]
    exact hconnection

/-- In a pass, the handler is run on the event. -/
theorem GoesTo.answer (h : d.GoesTo handle) (hpass : d.Passes w delivery d' w') :
    handle delivery.event w = (delivery.answer, w') := by
  have htarget : delivery.target = .connection := by
    have hfound := hpass.target
    rw [find?_targets, h.target] at hfound
    exact (Option.some.inj hfound).symm
  have hanswer := hpass.answer
  rw [answerAt, htarget, handler?, h.connection] at hanswer
  exact hanswer

/-! ## Loops that deliver nothing

With nothing queued the loop ends at once. -/

/-- Where nothing is queued, nothing is delivered. -/
theorem Empties.eq_of_queue_eq_nil (h : d.Empties w log d' w') (hqueue : d.queue = []) :
    log = [] ∧ d' = d ∧ w' = w := by
  obtain ⟨hdispatch, hrounds⟩ := h.dispatch_eq
  obtain ⟨hquiet, hnil⟩ := dispatch_of_queue_eq_nil hqueue w
  obtain ⟨hd, rfl⟩ := Prod.mk.inj (hquiet.symm.trans hdispatch)
  exact ⟨hrounds.symm.trans hnil, (Prod.mk.inj hd).2.symm, rfl⟩

end

end QuicHost.EventDispatcher
