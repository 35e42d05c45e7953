import QuicHost.Proofs.Dispatcher
import QuicHost.Proofs.Dispatcher.Order

/-!
# The last event

Sealing a dispatcher forgets what was undelivered and leaves one event, the
last. From then on the application is told of that event and of nothing else,
with one exception: recording a failure does not ask whether the dispatcher is
sealed. A handler that fails on the last event is itself delivered a report of
it, after the end.

A sealed dispatcher goes through two phases. While its last event is queued, it
waits; the first delivery spends it, and then only the mailbox has something
left.
-/

namespace QuicHost.EventDispatcher

variable {σ : Type}

/-! ## What the application is told

An application is told of an event when a handler gets it, or when it fetches it from the
mailbox. -/

/-- The event, if it went to a handler. -/
def Delivery.heard? (delivery : Delivery) : Option Event :=
  if delivery.target = .mailbox then none else some delivery.event

/-- What is done with a dispatcher, by its application or by its connection. -/
inductive Act (σ : Type) where
  /-- the application does something -/
  | operation (operation : Operation σ)
  /-- the last event is pushed -/
  | sealWith (terminal : Event)

/-- Whether an act has events delivered. -/
def Act.Delivers : Act σ → Prop
  | .operation .dispatch => True
  | .operation .pollEvent => True
  | _ => False

/-- There are two acts that deliver. -/
theorem Act.Delivers.eq {a : Act σ} (h : a.Delivers) :
    a = .operation .dispatch ∨ a = .operation .pollEvent := by
  cases a with
  | sealWith terminal => cases h
  | operation operation =>
    cases operation with
    | dispatch => exact .inl rfl
    | pollEvent => exact .inr rfl
    | _ => cases h

/-- The dispatcher and the application's state after an act. -/
def act (d : EventDispatcher σ) (w : σ) : Act σ → EventDispatcher σ × σ
  | .operation operation => (d.perform w operation).2
  | .sealWith terminal => (d.sealWith terminal, w)

/-- The events an act tells the application: those handed to handlers, then the
one it fetches from the mailbox. -/
def tells (d : EventDispatcher σ) (w : σ) : Act σ → List Event
  | .operation .dispatch => (d.rounds w).filterMap Delivery.heard?
  | .operation .pollEvent =>
    (d.rounds w).filterMap Delivery.heard? ++ (d.pollEvent w).1.1.toList
  | _ => []

/-- The dispatcher and the application's state after some acts. -/
def acts (d : EventDispatcher σ) (w : σ) : List (Act σ) → EventDispatcher σ × σ
  | [] => (d, w)
  | a :: rest => (d.act w a).1.acts (d.act w a).2 rest

/-- The events some acts tell the application, in order. -/
def told (d : EventDispatcher σ) (w : σ) : List (Act σ) → List Event
  | [] => []
  | a :: rest => d.tells w a ++ (d.act w a).1.told (d.act w a).2 rest

/-- The report of the handler that failed on the last event, which is the first
of the failures since. Reports are not reported again. -/
def lastReport (terminal : Event) (failures : List Diagnostic) : List Event :=
  if terminal.isDiagnostic then [] else (failures.head?.map .handlerFailed).toList

section

variable {d d' : EventDispatcher σ} {w w' : σ} {log : List Delivery} {t : Event} {a : Act σ}

/-! ## The first delivery

The first delivery after sealing has one event to deliver, and perhaps one report. -/

/-- The mailbox never fails. -/
theorem Passages.answer_of_mailbox {first : Delivery}
    (h : d.Passages w (first :: log) d' w') (hmailbox : first.target = .mailbox) :
    first.answer = .ok () := by
  cases h with
  | cons hpass _ =>
    have hanswer := hpass.answer
    rw [hmailbox] at hanswer
    exact (congrArg Prod.fst hanswer).symm

/-- One queued event makes one delivery, and one more if its handler failed. -/
theorem Empties.of_singleton (h : d.Empties w log d' w') (hqueue : d.queue = [t]) :
    ∃ first rest, log = first :: rest ∧ first.event = t ∧
      (first.target = .mailbox → first.answer = .ok ()) ∧
      rest.map Delivery.event = first.report?.toList := by
  have hevents := h.delivered_eq
  rw [hqueue, List.singleton_append] at hevents
  cases log with
  | nil => cases hevents
  | cons first rest =>
    rw [List.map_cons, List.cons.injEq] at hevents
    obtain ⟨hfirst, hrest⟩ := hevents
    refine ⟨first, rest, rfl, hfirst.symm, h.passages.answer_of_mailbox, ?_⟩
    have hlate : rest.filterMap Delivery.report? = [] := by
      apply filterMap_report?_eq_nil
      intro e he
      rw [← hrest] at he
      exact isDiagnostic_of_mem_reports he
    rw [← hrest, List.filterMap_cons]
    cases hreport : first.report? <;> simp [hlate]

/-- Each of at most one event is heard or left in the mailbox. -/
theorem heard_append_mail (h : log.length ≤ 1) :
    log.filterMap Delivery.heard? ++ log.filterMap Delivery.mail? = log.map Delivery.event := by
  cases log with
  | nil => rfl
  | cons delivery rest =>
    obtain rfl : rest = [] := List.length_eq_zero_iff.1 (Nat.le_zero.1 (Nat.le_of_succ_le_succ h))
    by_cases hmailbox : delivery.target = .mailbox <;>
      simp [Delivery.heard?, Delivery.mail?, hmailbox]

/-- Of one queued event, the application hears or is left the event itself, then
the report if its handler failed. -/
theorem Empties.told_eq (h : d.Empties w log d' w') (hqueue : d.queue = [t]) :
    log.filterMap Delivery.heard? ++ log.filterMap Delivery.mail?
      = t :: lastReport t (log.filterMap Delivery.diagnostic?) := by
  obtain ⟨first, rest, rfl, rfl, hmailbox, hrest⟩ := h.of_singleton hqueue
  have hshort : rest.length ≤ 1 := by
    rw [← List.length_map Delivery.event, hrest]
    cases first.report? <;> simp
  have hquiet (hfailure : first.diagnostic? = none) : rest = [] := by
    have hnil : rest.map Delivery.event = [] := by
      rw [hrest, Delivery.report?, hfailure]
      simp
    exact List.map_eq_nil_iff.1 hnil
  have hreport : rest.map Delivery.event
      = lastReport first.event ((first :: rest).filterMap Delivery.diagnostic?) := by
    rw [hrest, lastReport, Delivery.report?, List.filterMap_cons]
    cases hfailure : first.diagnostic? with
    | none =>
      obtain rfl := hquiet hfailure
      simp
    | some failure => split <;> rfl
  rw [← hreport]
  by_cases htarget : first.target = .mailbox
  · -- what is left in the mailbox has not failed, so there is nothing to report
    obtain rfl : rest = [] := hquiet (by rw [Delivery.diagnostic?, hmailbox htarget])
    simp [Delivery.heard?, Delivery.mail?, htarget]
  · rw [← heard_append_mail hshort, List.filterMap_cons, List.filterMap_cons]
    simp [Delivery.heard?, Delivery.mail?, htarget]

/-- At most one event is left in the mailbox. -/
theorem Empties.length_mail_le (h : d.Empties w log d' w') (hqueue : d.queue = [t]) :
    (log.filterMap Delivery.mail?).length ≤ 1 := by
  obtain ⟨first, rest, rfl, rfl, hmailbox, hrest⟩ := h.of_singleton hqueue
  have hlength : rest.length ≤ first.report?.toList.length :=
    Nat.le_of_eq (by rw [← hrest, List.length_map])
  by_cases htarget : first.target = .mailbox
  · have hreport : first.report? = none := by
      simp [Delivery.report?, Delivery.diagnostic?, hmailbox htarget]
    rw [hreport] at hlength
    obtain rfl : rest = [] := List.length_eq_zero_iff.1 (Nat.le_zero.1 hlength)
    simp [Delivery.mail?, htarget]
  · have hfirst : first.mail? = none := if_neg htarget
    have hreport : first.report?.toList.length ≤ 1 := by
      cases first.report? <;> simp
    rw [List.filterMap_cons, hfirst]
    exact Nat.le_trans (List.length_filterMap_le _ _) (Nat.le_trans hlength hreport)

/-! ## What handlers write down

Which events handlers get in a delivery, in terms of its rounds. -/

/-- A pass takes handlers away and installs none. -/
theorem NotedBy.afterwards {note : σ → List Event} (h : d.NotedBy note) (delivery : Delivery)
    (rest : List Event) : (d.afterwards delivery rest).NotedBy note := by
  refine ⟨h.connection, h.defaultStream, fun {id handle} hget => ?_⟩
  rw [EventDispatcher.afterwards] at hget
  dsimp only at hget
  split at hget
  · exact h.stream hget
  · rw [Table.get?_erase] at hget
    split at hget
    · cases hget
    · exact h.stream hget
  · exact h.stream hget

/-- Handlers that write down what they are handed have written down what was heard. -/
theorem Passages.noted (h : d.Passages w log d' w') {note : σ → List Event}
    (hnoted : d.NotedBy note) : note w' = note w ++ log.filterMap Delivery.heard? := by
  induction h with
  | nil => exact (List.append_nil _).symm
  | @cons d d₁ d' w w₁ w' delivery log hpass _ ih =>
    obtain ⟨rest, -, rfl⟩ := hpass.afterwards
    have hanswer := hpass.answer
    rw [answerAt] at hanswer
    rw [ih (hnoted.afterwards delivery rest), List.filterMap_cons, Delivery.heard?]
    -- only a handler notes anything; without one the event is mailed, and the world is as
    -- it was
    cases hhandler : d.handler? delivery.target with
    | none =>
      rw [hhandler] at hanswer
      obtain rfl : w = w₁ := congrArg Prod.snd hanswer
      have hmailbox : delivery.target = .mailbox := by
        refine Decidable.byContradiction fun hne => ?_
        have haccepts := List.find?_some hpass.target
        rw [accepts_eq_of_ne_mailbox d hne, hhandler] at haccepts
        cases haccepts
      rw [if_pos hmailbox]
    | some handle =>
      have hne : delivery.target ≠ .mailbox := by
        intro heq
        rw [heq] at hhandler
        cases hhandler
      rw [hhandler] at hanswer
      have hwritten := hnoted.handler hhandler delivery.event w
      have hworld : (handle delivery.event w).2 = w₁ := congrArg Prod.snd hanswer
      rw [hworld] at hwritten
      rw [if_neg hne, hwritten, List.append_assoc]
      rfl

/-- What was queued is heard, or left in the mailbox. -/
theorem heard_of_dispatch {note : σ → List Event} (hnoted : d.NotedBy note) (w : σ) :
    ∃ heard, note (d.dispatch w).2 = note w ++ heard ∧
      ∀ e ∈ d.queue, e ∈ heard ∨ e ∈ (d.dispatch w).1.2.mailbox := by
  obtain ⟨hpassages, -⟩ := passages_dispatch d w
  refine ⟨_, hpassages.noted hnoted, fun e he => ?_⟩
  have hdelivered : e ∈ (d.rounds w).map Delivery.event := by
    rw [rounds, List.map_append, map_event_round]
    exact List.mem_append_left _ he
  obtain ⟨delivery, hmem, rfl⟩ := List.mem_map.1 hdelivered
  by_cases htarget : delivery.target = .mailbox
  · have hmailbox : (d.dispatch w).1.2.mailbox = _ := hpassages.mailbox
    rw [hmailbox]
    exact .inr (List.mem_append_right _ (List.mem_filterMap.2 ⟨delivery, hmem, if_pos htarget⟩))
  · exact .inl (List.mem_filterMap.2 ⟨delivery, hmem, if_neg htarget⟩)

/-! ## Acts on a sealed dispatcher

Until something is delivered the last event waits. Afterwards nothing is left but what is
in the mailbox. -/

/-- Nothing is queued, and nothing will be. -/
structure Spent (d : EventDispatcher σ) : Prop where
  sealed : d.sealed = true
  queue : d.queue = []

/-- The last event is all there is. -/
structure Waiting (t : Event) (d : EventDispatcher σ) : Prop where
  sealed : d.sealed = true
  /-- the last event, and nothing before it -/
  queue : d.queue = [t]
  mailbox : d.mailbox = []

/-- The events of `d'` are those of `d`. -/
structure SameEvents (d d' : EventDispatcher σ) : Prop where
  sealed : d'.sealed = d.sealed
  queue : d'.queue = d.queue
  mailbox : d'.mailbox = d.mailbox
  diagnostics : d'.diagnostics = d.diagnostics

/-- A dispatcher is sealed once. -/
theorem sealWith_of_sealed (h : d.sealed = true) (t : Event) : d.sealWith t = d :=
  if_pos h

theorem sealWith_of_not_sealed (h : d.sealed = false) (t : Event) :
    d.sealWith t = { d with queue := [t], mailbox := [], sealed := true } :=
  if_neg (Bool.eq_false_iff.1 h)

/-- Only deliveries change what a sealed dispatcher has. -/
theorem sameEvents_act (hsealed : d.sealed = true) (w : σ) (hidle : ¬ a.Delivers) :
    d.SameEvents (d.act w a).1 ∧ d.tells w a = [] := by
  cases a with
  | sealWith terminal =>
    rw [act, sealWith_of_sealed hsealed]
    exact ⟨⟨rfl, rfl, rfl, rfl⟩, rfl⟩
  | operation operation =>
    cases operation with
    | push e =>
      rw [act, perform, push_of_sealed hsealed]
      exact ⟨⟨rfl, rfl, rfl, rfl⟩, rfl⟩
    | dispatch => exact absurd trivial hidle
    | pollEvent => exact absurd trivial hidle
    | _ => exact ⟨⟨rfl, rfl, rfl, rfl⟩, rfl⟩

theorem head?_toList_append_tail (mailbox : List Event) :
    mailbox.head?.toList ++ mailbox.tail = mailbox := by
  cases mailbox <;> rfl

/-- A spent dispatcher only has its mailbox to tell of. -/
theorem Spent.act (h : d.Spent) (w : σ) (a : Act σ) :
    (d.act w a).1.Spent ∧ (d.act w a).1.diagnostics = d.diagnostics ∧
      d.mailbox = d.tells w a ++ (d.act w a).1.mailbox ∧
      (a = .operation .pollEvent → (d.act w a).1.mailbox = d.mailbox.tail) := by
  by_cases hdelivers : a.Delivers
  · obtain ⟨hdispatch, hrounds⟩ := dispatch_of_queue_eq_nil h.queue w
    rcases hdelivers.eq with rfl | rfl
    · rw [EventDispatcher.act, perform, tells, hdispatch, hrounds]
      refine ⟨h, rfl, rfl, fun hpoll => ?_⟩
      cases hpoll
    · have hpoll : d.pollEvent w
          = ((d.mailbox.head?, { d with mailbox := d.mailbox.tail }), w) := by
        simp only [pollEvent, hdispatch]
      rw [EventDispatcher.act, perform, tells, hrounds, hpoll]
      refine ⟨⟨h.sealed, h.queue⟩, rfl, ?_, fun _ => rfl⟩
      exact (head?_toList_append_tail d.mailbox).symm
  · obtain ⟨hsame, htells⟩ := sameEvents_act h.sealed w hdelivers
    refine ⟨⟨hsame.sealed.trans h.sealed, hsame.queue.trans h.queue⟩, hsame.diagnostics, ?_, ?_⟩
    · rw [htells, hsame.mailbox, List.nil_append]
    · rintro rfl
      exact absurd trivial hdelivers

/-- The first delivery of the last event tells of it, or leaves it in the
mailbox, and so for the report of its handler's failure. -/
theorem Waiting.act (h : d.Waiting t) (w : σ) (hdelivers : a.Delivers) :
    (d.act w a).1.Spent ∧ (d.act w a).1.mailbox.length ≤ 1 ∧
      (a = .operation .pollEvent → (d.act w a).1.mailbox = []) ∧
      ∃ failures, (d.act w a).1.diagnostics = d.diagnostics ++ failures ∧
        d.tells w a ++ (d.act w a).1.mailbox = t :: lastReport t failures := by
  have hempties := empties_rounds d w
  have hsealed : (d.dispatch w).1.2.sealed = true := hempties.passages.sealed.trans h.sealed
  have hdiagnostics : (d.dispatch w).1.2.diagnostics
      = d.diagnostics ++ (d.rounds w).filterMap Delivery.diagnostic? :=
    hempties.passages.diagnostics
  have hmailbox : (d.dispatch w).1.2.mailbox = (d.rounds w).filterMap Delivery.mail? := by
    have hmail := hempties.passages.mailbox
    rwa [h.mailbox, List.nil_append] at hmail
  have hlength := hempties.length_mail_le h.queue
  rw [← hmailbox] at hlength
  have htold := hempties.told_eq h.queue
  rw [← hmailbox] at htold
  -- a dispatch leaves the report in the mailbox, a poll takes it out at once
  rcases hdelivers.eq with rfl | rfl
  · refine ⟨⟨hsealed, hempties.queue⟩, hlength, fun hpoll => ?_, _, hdiagnostics, htold⟩
    cases hpoll
  · have htail : (d.dispatch w).1.2.mailbox.tail = [] := by
      rw [← List.length_eq_zero_iff, List.length_tail]
      omega
    refine ⟨⟨hsealed, hempties.queue⟩, ?_, fun _ => htail, _, hdiagnostics, ?_⟩
    · rw [show (d.act w (.operation .pollEvent)).1.mailbox = [] from htail]
      exact Nat.zero_le 1
    · rw [← htold, tells, List.append_assoc]
      exact congrArg _ (head?_toList_append_tail _)

/-! ## Runs

Whatever is done after sealing, the application is told of the last event and of its
report, in this order, and of nothing else. -/

/-- After some acts from `d`, the application was told of the last event or will
be, and of the report if its handler failed. -/
structure TellsLast (d : EventDispatcher σ) (w : σ) (t : Event) (as : List (Act σ))
    (failures : List Diagnostic) : Prop where
  /-- the failures since are recorded -/
  diagnostics : (d.acts w as).1.diagnostics = d.diagnostics ++ failures
  /-- what was told, what is in the mailbox and what is queued are the last
  event and its report -/
  events : d.told w as ++ ((d.acts w as).1.mailbox ++ (d.acts w as).1.queue)
    = t :: lastReport t failures
  /-- one delivery is enough -/
  queue : (∃ a ∈ as, a.Delivers) → (d.acts w as).1.queue = []
  /-- and so is one poll -/
  mailbox : .operation .pollEvent ∈ as → (d.acts w as).1.mailbox = []

/-- A dispatcher that is spent has nothing to tell but what is in the mailbox, by induction
on the acts. -/
theorem Spent.acts (h : d.Spent) (w : σ) (as : List (Act σ)) :
    (d.acts w as).1.Spent ∧ (d.acts w as).1.diagnostics = d.diagnostics ∧
      d.mailbox = d.told w as ++ (d.acts w as).1.mailbox ∧
      (d.mailbox.length ≤ 1 → .operation .pollEvent ∈ as → (d.acts w as).1.mailbox = []) := by
  induction as generalizing d w with
  | nil => exact ⟨h, rfl, rfl, nofun⟩
  | cons a rest ih =>
    obtain ⟨hspent, hdiagnostics, hmailbox, hpoll⟩ := h.act w a
    obtain ⟨hspent', hdiagnostics', hmailbox', hpoll'⟩ := ih hspent (d.act w a).2
    refine ⟨hspent', hdiagnostics'.trans hdiagnostics, ?_, fun hshort hmem => ?_⟩
    · rw [told, List.append_assoc, EventDispatcher.acts, ← hmailbox', ← hmailbox]
    · have hlength := congrArg List.length hmailbox
      rw [List.length_append] at hlength
      rcases List.mem_cons.1 hmem with rfl | hmem
      · -- this poll empties the mailbox, and nothing joins it later
        have hnil : (d.act w (.operation .pollEvent)).1.mailbox = [] := by
          rw [hpoll rfl, ← List.length_eq_zero_iff, List.length_tail]
          omega
        rw [hnil] at hmailbox'
        exact (List.append_eq_nil_iff.1 hmailbox'.symm).2
      · exact hpoll' (by omega) hmem

/-- The last event is told by the first act that delivers, together with the report if its
handler fails; then the dispatcher is spent. By induction on the acts before that. -/
theorem Waiting.acts (h : d.Waiting t) (w : σ) (as : List (Act σ)) :
    ∃ failures, d.TellsLast w t as failures := by
  induction as generalizing d w with
  | nil =>
    refine ⟨[], (List.append_nil _).symm, ?_, nofun, nofun⟩
    rw [told, EventDispatcher.acts, h.mailbox, h.queue, lastReport]
    simp
  | cons a rest ih =>
    -- the first act that delivers tells the end; those before it find nothing to do, and
    -- those after it nothing left
    by_cases hdelivers : a.Delivers
    · obtain ⟨hspent, hshort, hpoll, failures, hdiagnostics, htold⟩ := h.act w hdelivers
      obtain ⟨hspent', hdiagnostics', hmailbox', hpoll'⟩ := hspent.acts (d.act w a).2 rest
      refine ⟨failures, hdiagnostics'.trans hdiagnostics, ?_, fun _ => hspent'.queue, ?_⟩
      · rw [told, EventDispatcher.acts, hspent'.queue, List.append_nil, List.append_assoc,
          ← hmailbox', htold]
      · intro hmem
        rcases List.mem_cons.1 hmem with rfl | hmem
        · rw [hpoll rfl] at hmailbox'
          exact (List.append_eq_nil_iff.1 hmailbox'.symm).2
        · exact hpoll' hshort hmem
    · obtain ⟨hsame, htells⟩ := sameEvents_act h.sealed w hdelivers
      have hwaiting : (d.act w a).1.Waiting t :=
        ⟨hsame.sealed.trans h.sealed, hsame.queue.trans h.queue, hsame.mailbox.trans h.mailbox⟩
      obtain ⟨failures, hrest⟩ := ih hwaiting (d.act w a).2
      refine ⟨failures, ?_, ?_, fun hmem => hrest.queue ?_, fun hmem => hrest.mailbox ?_⟩
      · exact hrest.diagnostics.trans (congrArg (· ++ failures) hsame.diagnostics)
      · rw [told, htells, List.nil_append]
        exact hrest.events
      · obtain ⟨a', hmem, hdelivers'⟩ := hmem
        rcases List.mem_cons.1 hmem with rfl | hmem
        · exact absurd hdelivers' hdelivers
        · exact ⟨a', hmem, hdelivers'⟩
      · rcases List.mem_cons.1 hmem with rfl | hmem
        · exact absurd trivial hdelivers
        · exact hmem

/-- Whoever polled has been told everything. -/
theorem TellsLast.told_eq {as : List (Act σ)} {failures : List Diagnostic}
    (h : d.TellsLast w t as failures) (hpoll : .operation .pollEvent ∈ as) :
    d.told w as = t :: lastReport t failures := by
  have hevents := h.events
  rwa [h.mailbox hpoll, h.queue ⟨_, hpoll, trivial⟩, List.append_nil, List.append_nil] at hevents

end

/-- **Nothing but the last event.** A dispatcher is sealed once. Whatever is
pushed, sealed, delivered, fetched and installed from then on, and whatever the
handlers do: what the application is told, with what is still to be told, is the
last event, and behind it the report of the handler that failed on it. Once it
polled, nothing is still to be told. If no handler failed, that is the last event
alone, once. -/
theorem tells_last_event (d : EventDispatcher σ) (t : Event) (w : σ) (as : List (Act σ)) :
    (d.sealed = true → d.sealWith t = d) ∧
      (d.sealed = false → ∃ failures, (d.sealWith t).TellsLast w t as failures ∧
        (.operation .pollEvent ∈ as →
          (d.sealWith t).told w as = t :: lastReport t failures)) := by
  refine ⟨fun hsealed => sealWith_of_sealed hsealed t, fun hopen => ?_⟩
  have hwaiting : (d.sealWith t).Waiting t := by
    rw [sealWith_of_not_sealed hopen]
    exact ⟨rfl, rfl, rfl⟩
  obtain ⟨failures, htells⟩ := hwaiting.acts w as
  exact ⟨failures, htells, htells.told_eq⟩

/-- A connection whose handler fails on everything, at its end. -/
def failingToTheEnd : EventDispatcher Nat :=
  { queue := [.handshakeCompleted], mailbox := [.draining ⟨.localClose, 0, []⟩]
    connectionHandler := some fun _ n => (.error ⟨"nope"⟩, n + 1) }

/-- The report of the handler that failed is told after the last event. -/
theorem tells_last_event_failing :
    let terminal : Event := .connectionClosed ⟨.localClose, 0, []⟩ false
    let as : List (Act Nat) := [.operation (.push .handshakeCompleted), .operation .dispatch,
      .sealWith .handshakeCompleted, .operation .pollEvent]
    failingToTheEnd.sealed = false ∧ ∃ failures,
      (failingToTheEnd.sealWith terminal).TellsLast 0 terminal as failures ∧
        (.operation .pollEvent ∈ as →
          (failingToTheEnd.sealWith terminal).told 0 as
            = terminal :: lastReport terminal failures) :=
  ⟨rfl, (tells_last_event failingToTheEnd _ 0 _).2 rfl⟩

/-- The handler that failed on the last event is delivered a report of it,
though the connection has ended. -/
theorem told_report_after_end :
    (failingToTheEnd.sealWith (.connectionClosed ⟨.localClose, 0, []⟩ false)).told 0
        [.operation .dispatch, .operation .pollEvent] =
      [.connectionClosed ⟨.localClose, 0, []⟩ false,
        .handlerFailed ⟨none, .connectionClosed, "nope"⟩] :=
  rfl

end QuicHost.EventDispatcher
