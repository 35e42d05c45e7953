import QuicHost.Dispatcher

/-!
# What delivering hands out

Delivering hands out what was queued, and reports of handlers that failed;
whatever no handler takes is in the mailbox afterwards. An observer of the
application sees this in its own state if all its handlers write down what they
are handed (`NotedBy`). What handlers do besides does not matter.
-/

namespace QuicHost.EventDispatcher

variable {σ : Type}

/-- Whether a handler adds the event that it is handed to the notes. -/
def Notes (note : σ → List Event) (h : EventHandler σ) : Prop :=
  ∀ e w, note (h e w).2 = note w ++ [e]

/-- Whether all handlers write down what they are handed. -/
structure NotedBy (note : σ → List Event) (d : EventDispatcher σ) : Prop where
  /-- the handler of the connection -/
  connection : ∀ {h}, d.connectionHandler = some h → Notes note h
  /-- the handler of streams that have none of their own -/
  defaultStream : ∀ {h}, d.defaultStreamHandler = some h → Notes note h
  /-- the handlers of single streams -/
  stream : ∀ {id h}, d.streamHandlers.get? id = some h → Notes note h

/-- Only events with `P` are handed out between `d` and `d'`, while the
application's state goes from `w` to `w'`, and only such events are queued. -/
structure Hands (P : Event → Prop) (d : EventDispatcher σ) (w : σ) (d' : EventDispatcher σ)
    (w' : σ) : Prop where
  sealed : d'.sealed = d.sealed
  /-- what is queued was queued before, or has `P` -/
  queue : ∀ e ∈ d'.queue, e ∈ d.queue ∨ P e
  /-- and so it is with what is left in the mailbox -/
  mailbox : ∀ e ∈ d'.mailbox, e ∈ d.mailbox ∨ P e
  /-- handlers go on writing down what they are handed, which has `P` -/
  noted : ∀ {note}, d.NotedBy note →
    d'.NotedBy note ∧ ∃ heard, note w' = note w ++ heard ∧ ∀ e ∈ heard, P e

section

variable {P : Event → Prop} {d d' d'' : EventDispatcher σ} {w w' w'' : σ}
  {note : σ → List Event}

theorem Hands.refl (P : Event → Prop) (d : EventDispatcher σ) (w : σ) : d.Hands P w d w where
  sealed := rfl
  queue _ he := .inl he
  mailbox _ he := .inl he
  noted hnoted := ⟨hnoted, [], (List.append_nil _).symm, nofun⟩

/-- What is handed out in each part is handed out in both. -/
theorem Hands.trans (h : d.Hands P w d' w') (h' : d'.Hands P w' d'' w'') :
    d.Hands P w d'' w'' where
  sealed := h'.sealed.trans h.sealed
  queue e he := by
    rcases h'.queue e he with he | hP
    · exact h.queue e he
    · exact .inr hP
  mailbox e he := by
    rcases h'.mailbox e he with he | hP
    · exact h.mailbox e he
    · exact .inr hP
  noted hnoted := by
    obtain ⟨hnoted', heard, heq, hheard⟩ := h.noted hnoted
    obtain ⟨hnoted'', heard', heq', hheard'⟩ := h'.noted hnoted'
    refine ⟨hnoted'', heard ++ heard', ?_, fun e he => ?_⟩
    · rw [heq', heq, List.append_assoc]
    · rcases List.mem_append.1 he with he | he
      · exact hheard e he
      · exact hheard' e he

/-! ## Handlers

Whoever writes down what it is handed goes on doing so, whatever is queued and whoever
else is installed. -/

/-- Whichever handler an event goes to writes it down. -/
theorem NotedBy.handler (h : d.NotedBy note) {target : Target} {handle : EventHandler σ}
    (hget : d.handler? target = some handle) : Notes note handle := by
  cases target with
  | stream id => exact h.stream hget
  | defaultStream => exact h.defaultStream hget
  | connection => exact h.connection hget
  | mailbox => cases hget

theorem NotedBy.setConnectionHandler (h : d.NotedBy note) {handle : EventHandler σ}
    (hnotes : Notes note handle) : (d.setConnectionHandler handle).NotedBy note where
  connection heq := by
    obtain rfl := Option.some.inj heq
    exact hnotes
  defaultStream := h.defaultStream
  stream := h.stream

theorem NotedBy.setDefaultStreamHandler (h : d.NotedBy note) {handle : EventHandler σ}
    (hnotes : Notes note handle) : (d.setDefaultStreamHandler handle).NotedBy note where
  connection := h.connection
  defaultStream heq := by
    obtain rfl := Option.some.inj heq
    exact hnotes
  stream := h.stream

/-- The handler installed writes down by assumption, and the others as before. -/
theorem NotedBy.setStreamHandler (h : d.NotedBy note) (id : StreamId) {handle : EventHandler σ}
    (hnotes : Notes note handle) : (d.setStreamHandler id handle).NotedBy note where
  connection := h.connection
  defaultStream := h.defaultStream
  stream {id' h'} heq := by
    rw [EventDispatcher.setStreamHandler, Table.get?_insert] at heq
    split at heq
    · obtain rfl := Option.some.inj heq
      exact hnotes
    · exact h.stream heq

/-- Fewer handlers write down as well. -/
theorem NotedBy.removeStreamHandler (h : d.NotedBy note) (id : StreamId) :
    (d.removeStreamHandler id).NotedBy note where
  connection := h.connection
  defaultStream := h.defaultStream
  stream {id' h'} heq := by
    rw [EventDispatcher.removeStreamHandler, Table.get?_erase] at heq
    split at heq
    · cases heq
    · exact h.stream heq

theorem NotedBy.push (h : d.NotedBy note) (e : Event) : (d.push e).NotedBy note := by
  rw [EventDispatcher.push]
  split
  · exact h
  · exact ⟨h.connection, h.defaultStream, h.stream⟩

theorem NotedBy.sealWith (h : d.NotedBy note) (e : Event) : (d.sealWith e).NotedBy note := by
  rw [EventDispatcher.sealWith]
  split
  · exact h
  · exact ⟨h.connection, h.defaultStream, h.stream⟩

theorem NotedBy.dropHandlerOfClosed (h : d.NotedBy note) (e : Event) :
    (d.dropHandlerOfClosed e).NotedBy note := by
  cases e with
  | streamClosed id => exact h.removeStreamHandler id
  | _ => exact h

/-! ## Delivering

What is handed out was queued, or reports that a handler failed. Events go out in rounds:
what is queued at the start of a round, and then the reports of failures. -/

/-- To drop the handler of a stream that is closed hands nothing out. -/
theorem hands_dropHandlerOfClosed (P : Event → Prop) (d : EventDispatcher σ) (w : σ) (e : Event) :
    d.Hands P w (d.dropHandlerOfClosed e) w := by
  refine ⟨?_, ?_, ?_, fun hnoted => ⟨hnoted.dropHandlerOfClosed e, [], (List.append_nil _).symm,
    nofun⟩⟩
  · cases e <;> rfl
  · intro e' he'
    cases e <;> exact .inl he'
  · intro e' he'
    cases e <;> exact .inl he'

/-- A failure is reported behind everything pending. -/
theorem hands_recordFailure (hreport : ∀ failure, P (.handlerFailed failure))
    (d : EventDispatcher σ) (w : σ) (e : Event) (error : HandlerError) :
    d.Hands P w (d.recordFailure e error) w := by
  simp only [recordFailure]
  split
  · exact ⟨rfl, fun _ he => .inl he, fun _ he => .inl he, fun hnoted => ⟨⟨hnoted.connection,
      hnoted.defaultStream, hnoted.stream⟩, [], (List.append_nil _).symm, nofun⟩⟩
  · refine ⟨rfl, fun e' he' => ?_, fun _ he' => .inl he', fun hnoted => ⟨⟨hnoted.connection,
      hnoted.defaultStream, hnoted.stream⟩, [], (List.append_nil _).symm, nofun⟩⟩
    rcases List.mem_append.1 he' with he' | he'
    · exact .inl he'
    · obtain rfl := List.mem_singleton.1 he'
      exact .inr (hreport _)

/-- One event goes to its handler, or into the mailbox. -/
theorem hands_deliver (hreport : ∀ failure, P (.handlerFailed failure)) {e : Event} (he : P e)
    (d : EventDispatcher σ) (w : σ) : d.Hands P w (d.deliver e w).1 (d.deliver e w).2 := by
  rw [deliver]
  split
  · refine ⟨rfl, fun _ he' => .inl he', fun e' he' => ?_, fun hnoted => ⟨⟨hnoted.connection,
      hnoted.defaultStream, hnoted.stream⟩, [], (List.append_nil _).symm, nofun⟩⟩
    rcases List.mem_append.1 he' with he' | he'
    · exact .inl he'
    · obtain rfl := List.mem_singleton.1 he'
      exact .inr he
  next handle hget =>
  -- the handler runs first, and writes the event down
  have hrun : d.Hands P w d (handle e w).2 := by
    refine ⟨rfl, fun _ he' => .inl he', fun _ he' => .inl he', fun hnoted => ⟨hnoted, [e],
      hnoted.handler hget e w, fun e' he' => ?_⟩⟩
    obtain rfl := List.mem_singleton.1 he'
    exact he
  split
  · next heq =>
    rw [heq] at hrun
    exact hrun.trans (hands_dropHandlerOfClosed P d _ e)
  · next error _ heq =>
    rw [heq] at hrun
    exact hrun.trans ((hands_recordFailure hreport d _ e error).trans
      (hands_dropHandlerOfClosed P _ _ e))

/-- Events of a list are handed out one after the other. A handler that fails adds its
report, hence the first condition. -/
theorem hands_deliverAll (hreport : ∀ failure, P (.handlerFailed failure)) {es : List Event}
    (hes : ∀ e ∈ es, P e) (d : EventDispatcher σ) (w : σ) :
    d.Hands P w (d.deliverAll es w).1 (d.deliverAll es w).2 := by
  induction es generalizing d w with
  | nil => exact .refl P d w
  | cons e rest ih =>
    rw [List.forall_mem_cons] at hes
    exact (hands_deliver hreport hes.1 d w).trans (ih hes.2 _ _)

/-- The same for what is queued at the start of a round. -/
theorem hands_deliverQueue (hreport : ∀ failure, P (.handlerFailed failure))
    (hqueue : ∀ e ∈ d.queue, P e) (w : σ) :
    d.Hands P w (d.deliverQueue w).1 (d.deliverQueue w).2 := by
  have hall := hands_deliverAll hreport hqueue
    { d with queue := [], delivered := d.delivered + d.queue.length } w
  refine ⟨hall.sealed, fun e he => ?_, hall.mailbox, fun hnoted => hall.noted ⟨hnoted.connection,
    hnoted.defaultStream, hnoted.stream⟩⟩
  rcases hall.queue e he with hnil | hP
  · cases hnil
  · exact .inr hP

/-- Whether an event waits in the queue, or reports a failed handler. -/
def MayHand (d : EventDispatcher σ) (e : Event) : Prop :=
  e ∈ d.queue ∨ ∃ failure, e = .handlerFailed failure

/-- A dispatch hands out what was queued, and reports. -/
theorem hands_dispatch (d : EventDispatcher σ) (w : σ) :
    d.Hands d.MayHand w (d.dispatch w).1.2 (d.dispatch w).2 := by
  have hreport (failure : Diagnostic) : d.MayHand (.handlerFailed failure) := .inr ⟨failure, rfl⟩
  have hfirst := hands_deliverQueue hreport (fun _ he => .inl he) w
  refine hfirst.trans (hands_deliverQueue hreport (fun e he => ?_) _)
  rcases hfirst.queue e he with he | hP
  · exact .inl he
  · exact hP

/-- A poll hands out the same, and answers with the oldest event of the mailbox. -/
theorem hands_pollEvent (d : EventDispatcher σ) (w : σ) :
    d.Hands d.MayHand w (d.pollEvent w).1.2 (d.pollEvent w).2 ∧
      ∀ e, (d.pollEvent w).1.1 = some e → e ∈ d.mailbox ∨ d.MayHand e := by
  have hhands := hands_dispatch d w
  refine ⟨⟨hhands.sealed, hhands.queue, fun e he => ?_, fun hnoted => ?_⟩, fun e he => ?_⟩
  · exact hhands.mailbox e (List.mem_of_mem_tail he)
  · obtain ⟨hnoted', hheard⟩ := hhands.noted hnoted
    exact ⟨⟨hnoted'.connection, hnoted'.defaultStream, hnoted'.stream⟩, hheard⟩
  · exact hhands.mailbox e (List.mem_of_head? he)

end

end QuicHost.EventDispatcher
