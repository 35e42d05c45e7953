import QuicHost.Proofs.Dispatcher.Loop

/-!
# Every event once, in order

An application pushes events, installs handlers, has events delivered and
fetches what no handler took, in any order. A history keeps an entry for each
operation, with the passes of the delivery loop that it made. Reading the
entries in order, the events that were enqueued are the events that were
delivered, followed by those still queued; the events left in the mailbox are
those that were fetched, followed by those still there.
-/

namespace QuicHost.EventDispatcher

variable {σ : Type}

/-! ## Operations

What an application does with a dispatcher. Installing and removing handlers is among it,
at any time between two operations. -/

/-- What an application does with a dispatcher. -/
inductive Operation (σ : Type) where
  /-- queues an event -/
  | push (e : Event)
  /-- has everything delivered -/
  | dispatch
  /-- has everything delivered, and fetches an event from the mailbox -/
  | pollEvent
  /-- installs the connection's handler -/
  | setConnectionHandler (handle : EventHandler σ)
  /-- installs the default handler for streams -/
  | setDefaultStreamHandler (handle : EventHandler σ)
  /-- installs the handler of a stream -/
  | setStreamHandler (id : StreamId) (handle : EventHandler σ)
  /-- removes the handler of a stream -/
  | removeStreamHandler (id : StreamId)

/-- What an operation answers. -/
inductive Answer where
  /-- nothing -/
  | done
  /-- a number of events -/
  | count (n : Nat)
  /-- the oldest event of the mailbox -/
  | event (e : Option Event)

/-- Performs an operation while the application's state is `w`. -/
def perform (d : EventDispatcher σ) (w : σ) : Operation σ → Answer × EventDispatcher σ × σ
  | .push e => (.done, d.push e, w)
  | .dispatch =>
    let ((n, d), w) := d.dispatch w
    (.count n, d, w)
  | .pollEvent =>
    let ((e, d), w) := d.pollEvent w
    (.event e, d, w)
  | .setConnectionHandler handle => (.done, d.setConnectionHandler handle, w)
  | .setDefaultStreamHandler handle => (.done, d.setDefaultStreamHandler handle, w)
  | .setStreamHandler id handle => (.done, d.setStreamHandler id handle, w)
  | .removeStreamHandler id => (.done, d.removeStreamHandler id, w)

/-! ## Histories

The entries of a run with what was delivered in each. `Faithful` ties an entry to what
really happened. -/

/-- An operation of a run, with what it answered and delivered. -/
structure Entry (σ : Type) where
  /-- what was done -/
  operation : Operation σ
  /-- the dispatcher and the application's state before -/
  before : EventDispatcher σ × σ
  /-- the passes of the delivery loop -/
  deliveries : List Delivery
  /-- the answer -/
  answer : Answer
  /-- the dispatcher and the application's state afterwards -/
  after : EventDispatcher σ × σ

/-- The delivery loop makes the passes `log` from `d`, until nothing is queued,
and ends with `d'`, where they are counted. -/
structure Empties (d : EventDispatcher σ) (w : σ) (log : List Delivery) (d' : EventDispatcher σ)
    (w' : σ) : Prop where
  /-- the passes, one after the other -/
  passages : d.Passages w log { d' with delivered := d.delivered } w'
  queue : d'.queue = []
  /-- each of them counted once -/
  delivered : d'.delivered = d.delivered + log.length

namespace Entry

/-- Whether an entry tells what really happened: the operation has the answer
and the effect that are entered, and the deliveries entered are those of the
delivery loop. -/
def Faithful (entry : Entry σ) : Prop :=
  entry.before.1.perform entry.before.2 entry.operation = (entry.answer, entry.after) ∧
    match entry.operation with
    | .dispatch =>
      entry.before.1.Empties entry.before.2 entry.deliveries entry.after.1 entry.after.2 ∧
        entry.answer = .count entry.deliveries.length
    | .pollEvent =>
      ∃ d', entry.before.1.Empties entry.before.2 entry.deliveries d' entry.after.2 ∧
        entry.answer = .event d'.mailbox.head? ∧
        entry.after.1 = { d' with mailbox := d'.mailbox.tail }
    | _ => entry.deliveries = []

/-- The events that joined the queue, in order. -/
def enqueued (entry : Entry σ) : List Event :=
  match entry.operation with
  | .push e => [e]
  | _ => entry.deliveries.filterMap Delivery.report?

/-- The events that were delivered, in order. -/
def delivered (entry : Entry σ) : List Event := entry.deliveries.map Delivery.event

/-- The events that were left in the mailbox, in order. -/
def mailed (entry : Entry σ) : List Event := entry.deliveries.filterMap Delivery.mail?

/-- The failures that were recorded, in order. -/
def diagnosed (entry : Entry σ) : List Diagnostic :=
  entry.deliveries.filterMap Delivery.diagnostic?

/-- The event that was fetched from the mailbox, if any. -/
def fetched (entry : Entry σ) : List Event :=
  match entry.answer with
  | .event (some e) => [e]
  | _ => []

end Entry

/-- Faithful entries that follow each other. -/
inductive History : EventDispatcher σ → σ → List (Entry σ) → EventDispatcher σ → σ → Prop where
  /-- nothing was done -/
  | nil (d : EventDispatcher σ) (w : σ) : History d w [] d w
  /-- one operation, then the others -/
  | cons {entry : Entry σ} {entries : List (Entry σ)} {d' : EventDispatcher σ} {w' : σ}
      (hentry : entry.Faithful) (hrest : History entry.after.1 entry.after.2 entries d' w') :
      History entry.before.1 entry.before.2 (entry :: entries) d' w'

/-- No event is lost, doubled or overtaken between `d` and `d'`, and no failure
goes unrecorded. -/
structure Balances (d : EventDispatcher σ) (entries : List (Entry σ)) (d' : EventDispatcher σ) :
    Prop where
  sealed : d'.sealed = d.sealed
  /-- the events that were enqueued, in their order -/
  queue : d.queue ++ entries.flatMap Entry.enqueued = entries.flatMap Entry.delivered ++ d'.queue
  /-- those that were left to be fetched, in their order -/
  mailbox : d.mailbox ++ entries.flatMap Entry.mailed
    = entries.flatMap Entry.fetched ++ d'.mailbox
  /-- the failures, each with a record -/
  diagnostics : d'.diagnostics = d.diagnostics ++ entries.flatMap Entry.diagnosed

section

variable {d d' d₁ : EventDispatcher σ} {w w' : σ} {log : List Delivery} {entry : Entry σ}
  {entries : List (Entry σ)}

theorem Balances.nil (d : EventDispatcher σ) : d.Balances [] d :=
  ⟨rfl, by simp, by simp, by simp⟩

/-- One entry after another: what one leaves queued the next delivers. -/
theorem Balances.cons (h : d.Balances [entry] d₁) (h' : d₁.Balances entries d') :
    d.Balances (entry :: entries) d' where
  sealed := h'.sealed.trans h.sealed
  queue := by
    have hfirst := h.queue
    rw [List.flatMap_singleton, List.flatMap_singleton] at hfirst
    rw [List.flatMap_cons, List.flatMap_cons, ← List.append_assoc, hfirst, List.append_assoc,
      h'.queue, List.append_assoc]
  mailbox := by
    have hfirst := h.mailbox
    rw [List.flatMap_singleton, List.flatMap_singleton] at hfirst
    rw [List.flatMap_cons, List.flatMap_cons, ← List.append_assoc, hfirst, List.append_assoc,
      h'.mailbox, List.append_assoc]
  diagnostics := by
    have hfirst := h.diagnostics
    rw [List.flatMap_singleton] at hfirst
    rw [List.flatMap_cons, h'.diagnostics, hfirst, List.append_assoc]

/-! ## One operation

What one operation does to the queue, the mailbox and the record, in terms of its entry. -/

/-- A dispatch is the delivery loop. -/
theorem empties_rounds (d : EventDispatcher σ) (w : σ) :
    d.Empties w (d.rounds w) (d.dispatch w).1.2 (d.dispatch w).2 := by
  obtain ⟨hpassages, hqueue, -, hdelivered⟩ := passages_dispatch d w
  exact ⟨hpassages, hqueue, hdelivered⟩

/-- There is no other way to make passes. In particular there is an end to it. -/
theorem Empties.isPrefix (h : d.Empties w log d' w') {log' : List Delivery} {w₁ : σ}
    (hother : d.Passages w log' d₁ w₁) : log' <+: log :=
  h.passages.isPrefix_of_drained h.queue hother

/-- The number of passes, in terms of what was queued and failed. -/
theorem Empties.length (h : d.Empties w log d' w') :
    log.length = d.queue.length +
      (log.take d.queue.length).countP fun delivery => delivery.report?.isSome :=
  h.passages.length_of_drained h.queue

/-- Whatever is done, one faithful entry tells it. -/
theorem exists_faithful (d : EventDispatcher σ) (w : σ) (operation : Operation σ) :
    ∃ entry : Entry σ, entry.Faithful ∧ entry.operation = operation ∧ entry.before = (d, w) := by
  have hlog := empties_rounds d w
  have hcount := (passages_dispatch d w).2.2.1
  let entry (deliveries : List Delivery) : Entry σ :=
    { operation, before := (d, w), deliveries
      answer := (d.perform w operation).1, after := (d.perform w operation).2 }
  cases operation with
  | dispatch => exact ⟨entry (d.rounds w), ⟨rfl, hlog, congrArg _ hcount⟩, rfl, rfl⟩
  | pollEvent => exact ⟨entry (d.rounds w), ⟨rfl, _, hlog, rfl, rfl⟩, rfl, rfl⟩
  | _ => exact ⟨entry [], ⟨rfl, rfl⟩, rfl, rfl⟩

/-- The loop delivers what is queued and what it reports itself. -/
theorem Empties.delivered_eq (h : d.Empties w log d' w') :
    d.queue ++ log.filterMap Delivery.report? = log.map Delivery.event := by
  have hqueue : ({ d' with delivered := d.delivered } : EventDispatcher σ).queue = [] := h.queue
  rw [h.passages.queue, hqueue, List.append_nil]

/-- Whoever only changes handlers touches no event. -/
theorem Balances.of_same_events (hdeliveries : entry.deliveries = [])
    (henqueued : entry.enqueued = []) (hfetched : entry.fetched = [])
    (hsealed : d'.sealed = d.sealed) (hqueue : d'.queue = d.queue)
    (hmailbox : d'.mailbox = d.mailbox) (hdiagnostics : d'.diagnostics = d.diagnostics) :
    d.Balances [entry] d' := by
  refine ⟨hsealed, ?_, ?_, ?_⟩
  · simp [henqueued, Entry.delivered, hdeliveries, hqueue]
  · simp [hfetched, Entry.mailed, hdeliveries, hmailbox]
  · simp [Entry.diagnosed, hdeliveries, hdiagnostics]

/-- The delivery loop accounts for every event; then one may be fetched. -/
theorem Empties.balances (h : d.Empties w entry.deliveries d₁ w')
    (henqueued : entry.enqueued = entry.deliveries.filterMap Delivery.report?)
    (hsealed : d'.sealed = d₁.sealed) (hqueue : d'.queue = d₁.queue)
    (hmailbox : d₁.mailbox = entry.fetched ++ d'.mailbox)
    (hdiagnostics : d'.diagnostics = d₁.diagnostics) : d.Balances [entry] d' := by
  have hdelivered := h.delivered_eq
  have hmailed : d₁.mailbox = d.mailbox ++ entry.mailed := h.passages.mailbox
  have hdiagnosed : d₁.diagnostics = d.diagnostics ++ entry.diagnosed := h.passages.diagnostics
  refine ⟨hsealed.trans h.passages.sealed, ?_, ?_, ?_⟩
  · rw [List.flatMap_singleton, List.flatMap_singleton, henqueued, hdelivered, hqueue, h.queue,
      List.append_nil, Entry.delivered]
  · rw [List.flatMap_singleton, List.flatMap_singleton, ← hmailed, hmailbox]
  · rw [List.flatMap_singleton, hdiagnostics, hdiagnosed]

/-- A dispatcher that is not sealed accounts for every event, whatever is done. -/
theorem Entry.Faithful.balances (h : entry.Faithful) (hopen : entry.before.1.sealed = false) :
    entry.before.1.Balances [entry] entry.after.1 := by
  obtain ⟨operation, ⟨d, w⟩, deliveries, answer, d', w'⟩ := entry
  obtain ⟨hperform, hdeliveries⟩ := h
  cases operation with
  | push e =>
    simp only [perform, Prod.mk.injEq] at hperform
    obtain ⟨rfl, rfl, rfl⟩ := hperform
    obtain rfl : deliveries = [] := hdeliveries
    have hpush : d.push e = { d with queue := d.queue ++ [e] } := by
      rw [push, if_neg (Bool.eq_false_iff.1 hopen)]
    rw [hpush]
    exact ⟨rfl, by simp [enqueued, delivered], by simp [mailed, fetched], by simp [diagnosed]⟩
  | dispatch =>
    obtain ⟨hempties, hanswer⟩ := hdeliveries
    obtain rfl : answer = .count deliveries.length := hanswer
    exact hempties.balances rfl rfl rfl rfl rfl
  | pollEvent =>
    obtain ⟨d₁, hempties, hanswer, rfl⟩ := hdeliveries
    obtain rfl : answer = .event d₁.mailbox.head? := hanswer
    refine hempties.balances rfl rfl rfl ?_ rfl
    cases d₁.mailbox <;> rfl
  | _ =>
    simp only [perform, Prod.mk.injEq] at hperform
    obtain ⟨rfl, rfl, rfl⟩ := hperform
    obtain rfl : deliveries = [] := hdeliveries
    exact .of_same_events rfl rfl rfl rfl rfl rfl rfl

/-! ## Runs

The same over histories, by induction: what was queued comes out in order, each event
once. -/

/-- Along a run, nothing is lost, doubled or overtaken. -/
theorem History.balances (h : d.History w entries d' w') (hopen : d.sealed = false) :
    d.Balances entries d' := by
  induction h with
  | nil => exact .nil _
  | cons hentry _ ih =>
    have hfirst := hentry.balances hopen
    exact hfirst.cons (ih (hfirst.sealed.trans hopen))

/-- Whatever is done, there is a history of it. -/
theorem exists_history (d : EventDispatcher σ) (w : σ) (operations : List (Operation σ)) :
    ∃ entries d' w', d.History w entries d' w' ∧
      entries.map Entry.operation = operations := by
  induction operations generalizing d w with
  | nil => exact ⟨[], d, w, .nil d w, rfl⟩
  | cons operation rest ih =>
    obtain ⟨entry, hfaithful, hoperation, hbefore⟩ := exists_faithful d w operation
    obtain ⟨entries, d', w', hhistory, hrest⟩ := ih entry.after.1 entry.after.2
    have hcons := History.cons hfaithful hhistory
    rw [hbefore] at hcons
    refine ⟨entry :: entries, d', w', hcons, ?_⟩
    rw [List.map_cons, hoperation, hrest]

/-- Every entry of a history tells what really happened. -/
theorem History.faithful (h : d.History w entries d' w') (hmem : entry ∈ entries) :
    entry.Faithful := by
  induction h with
  | nil => cases hmem
  | cons hentry _ ih =>
    rcases List.mem_cons.1 hmem with rfl | hmem
    · exact hentry
    · exact ih hmem

/-- What a dispatch promises: its passes come to an end, whatever the handlers
do, nothing is queued then, and the answer counts what was queued at the start
and the failures on those events that were no reports themselves. -/
structure Entry.Finishes (entry : Entry σ) : Prop where
  isPrefix {log : List Delivery} {d₁ : EventDispatcher σ} {w₁ : σ} :
    entry.before.1.Passages entry.before.2 log d₁ w₁ → log <+: entry.deliveries
  /-- nothing is left in the end -/
  queue : entry.after.1.queue = []
  /-- the number of deliveries, counted by what was there at the start -/
  answer : entry.answer = .count (entry.before.1.queue.length +
    (entry.deliveries.take entry.before.1.queue.length).countP fun delivery =>
      delivery.report?.isSome)

/-- A dispatch that is entered faithfully keeps what it promises. -/
theorem Entry.Faithful.finishes (h : entry.Faithful) (hdispatch : entry.operation = .dispatch) :
    entry.Finishes := by
  obtain ⟨operation, before, deliveries, answer, after⟩ := entry
  obtain rfl : operation = .dispatch := hdispatch
  obtain ⟨-, hempties, hanswer⟩ := h
  refine ⟨fun hother => hempties.isPrefix hother, hempties.queue, ?_⟩
  rw [hanswer, hempties.length]

end

/-- **Every event once, in order.** Whatever an application does with a
dispatcher that is not sealed, and whatever its handlers do: the passes of the
delivery loop deliver what was enqueued, in the order in which it was enqueued,
reports of failures included, and every failure is recorded. The mailbox hands
out what it was left, oldest first. A dispatch comes to an end with nothing
queued, and counts its deliveries. -/
theorem delivers_once_in_order (d : EventDispatcher σ) (w : σ) (operations : List (Operation σ))
    (hopen : d.sealed = false) :
    ∃ entries d' w', d.History w entries d' w' ∧ entries.map Entry.operation = operations ∧
      d.Balances entries d' ∧
      ∀ entry ∈ entries, entry.operation = .dispatch → entry.Finishes := by
  obtain ⟨entries, d', w', hhistory, hoperations⟩ := exists_history d w operations
  refine ⟨entries, d', w', hhistory, hoperations, hhistory.balances hopen, ?_⟩
  intro entry hmem hdispatch
  exact (hhistory.faithful hmem).finishes hdispatch

/-- A handler that fails on everything: its failure is reported to itself, once. -/
theorem failing_handler_delivers_once_in_order :
    ({} : EventDispatcher Nat).sealed = false ∧
      ∃ entries d' w',
        History ({} : EventDispatcher Nat) 0 entries d' w' ∧
        entries.map Entry.operation =
          [.setConnectionHandler fun _ n => (.error ⟨"nope"⟩, n + 1), .push .handshakeCompleted,
            .dispatch, .pollEvent] ∧
        ({} : EventDispatcher Nat).Balances entries d' ∧
        ∀ entry ∈ entries, entry.operation = .dispatch → entry.Finishes :=
  ⟨rfl, delivers_once_in_order {} 0 _ rfl⟩

end QuicHost.EventDispatcher
