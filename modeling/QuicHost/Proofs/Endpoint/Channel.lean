import QuicHost.Endpoint.Channel

/-!
# The account of a channel

Events are sent to a channel, and others are received from it, in any order, until
the receiver leaves. Whatever the order was, what was sent is what was received,
followed by what was lost with the receiver, followed by what is still there; and
it was never more than the channel holds (`Balances`).

The equation is kept by each of the three things that happen to a channel: a send that
is taken, a receipt, and the receiver's leaving. So it is kept by every interleaving of
them, and nothing has to be known about who sends or when. A send fails exactly if the
channel is full or has nobody to receive from it (`trySend_fails_iff`).
-/

namespace QuicHost

namespace EventChannel

/-- Whether a channel holds no more than it may, and nothing that nobody will
receive. -/
structure Sound (c : EventChannel) : Prop where
  /-- no more than the capacity -/
  room : c.queue.length ≤ c.capacity
  /-- nothing that nobody can receive -/
  empty : c.hasReceiver = false → c.queue = []

/-- What becomes of a channel while events are sent and others received. -/
structure Balances (c : EventChannel) (sent received : List EndpointEvent) (c' : EventChannel) :
    Prop where
  capacity : c'.capacity = c.capacity
  sound : c'.Sound
  /-- no event is doubled or overtaken, and none is lost unless the receiver leaves -/
  kept : ∃ lost, c.queue ++ sent = received ++ lost ++ c'.queue ∧
    (c'.hasReceiver = true → lost = [])
  /-- receivers do not come back -/
  receiver : c'.hasReceiver = true → c.hasReceiver = true
  /-- without a receiver nothing is sent -/
  unsent : c.hasReceiver = false → sent = []

variable {c c' c'' : EventChannel} {sent sent' received received' : List EndpointEvent}

theorem Balances.refl (h : c.Sound) : c.Balances [] [] c :=
  ⟨rfl, h, ⟨[], List.append_nil _, fun _ => rfl⟩, fun hthere => hthere, fun _ => rfl⟩

/-- What is left in between is what is received next. Nothing is lost in the second part
without being lost for good. -/
theorem Balances.trans (h : c.Balances sent received c') (h' : c'.Balances sent' received' c'') :
    c.Balances (sent ++ sent') (received ++ received') c'' where
  capacity := h'.capacity.trans h.capacity
  sound := h'.sound
  kept := by
    obtain ⟨lost, heq, hlost⟩ := h.kept
    obtain ⟨lost', heq', hlost'⟩ := h'.kept
    have hsum : c.queue ++ (sent ++ sent') =
        received ++ lost ++ (received' ++ lost' ++ c''.queue) := by
      rw [← List.append_assoc, heq, List.append_assoc, heq']
    cases hthere : c'.hasReceiver with
    | true =>
      refine ⟨lost', ?_, hlost'⟩
      rw [hsum, hlost hthere]
      simp only [List.append_nil, List.append_assoc]
    | false =>
      -- nobody receives any more, so nothing was sent, received or lost since
      rw [h.sound.empty hthere, h'.unsent hthere, List.append_nil, eq_comm] at heq'
      obtain ⟨hnone, -⟩ := List.append_eq_nil_iff.1 heq'
      obtain ⟨hreceived, hlost⟩ := List.append_eq_nil_iff.1 hnone
      refine ⟨lost, ?_, fun hback => ?_⟩
      · rw [hsum, hreceived, hlost]
        simp only [List.nil_append, List.append_nil]
      · cases hthere.symm.trans (h'.receiver hback)
  receiver hthere := h.receiver (h'.receiver hthere)
  unsent hgone := by
    have hgone' : c'.hasReceiver = false := by
      cases hthere : c'.hasReceiver with
      | true => exact (h.receiver hthere).symm.trans hgone
      | false => rfl
    rw [h.unsent hgone, h'.unsent hgone', List.append_nil]

/-- Whether a channel takes nothing: nobody receives, or it is full. -/
def Blocked (c : EventChannel) : Prop := c.hasReceiver = false ∨ c.capacity ≤ c.queue.length

theorem trySend_fails_iff (c : EventChannel) (e : EndpointEvent) :
    (∃ failure, c.trySend e = .error failure) ↔ c.Blocked := by
  rw [trySend, Blocked]
  cases c.hasReceiver with
  | false => simp
  | true => by_cases hfull : c.capacity ≤ c.queue.length <;> simp [hfull]

/-! ## Single steps

Sending, receiving and leaving, each with its account. -/

/-- What is sent stands at the end. -/
theorem balances_of_trySend {e : EndpointEvent} (h : c.trySend e = .ok c') :
    c.Balances [e] [] c' ∧ c'.hasReceiver = c.hasReceiver := by
  have hroom := length_queue_le_of_trySend h
  rw [trySend] at h
  split at h
  · cases h
  next hreceiver =>
  split at h
  · cases h
  obtain rfl := Except.ok.inj h
  have hthere : ¬ c.hasReceiver = false := by simpa using hreceiver
  exact ⟨⟨rfl, ⟨hroom, fun hgone => absurd hgone hthere⟩, ⟨[], rfl, fun _ => rfl⟩,
    fun hthere => hthere, fun hgone => absurd hgone hthere⟩, rfl⟩

/-- What is received stood first. -/
theorem balances_receive (h : c.Sound) : c.Balances [] c.receive.1.toList c.receive.2 where
  capacity := rfl
  sound := by
    refine ⟨Nat.le_trans ?_ h.room, fun hgone => ?_⟩
    · rw [receive, List.length_tail]
      exact Nat.sub_le _ _
    · rw [receive, h.empty hgone]
      rfl
  kept := by
    refine ⟨[], ?_, fun _ => rfl⟩
    rw [receive]
    cases c.queue <;> simp
  receiver hthere := hthere
  unsent _ := rfl

theorem balances_dropReceiver (c : EventChannel) : c.Balances [] [] c.dropReceiver where
  capacity := rfl
  sound := ⟨Nat.zero_le _, fun _ => rfl⟩
  kept := ⟨c.queue, rfl, fun hthere => Bool.noConfusion hthere⟩
  receiver hthere := Bool.noConfusion hthere
  unsent _ := rfl

end EventChannel

/-! ## Channels of a host

A host keeps its channels in a list, and every step is about one of them. -/

namespace HostState

variable {ω : Type} {w w' : HostState ω} {channel : Nat}

/-- What becomes of one of the host's channels. Unless the receiver leaves, it is
still there. -/
def Balances (w : HostState ω) (channel : Nat) (sent received : List EndpointEvent)
    (leaves : Bool) (w' : HostState ω) : Prop :=
  ∀ c, w.channels[channel]? = some c → c.Sound → ∃ c', w'.channels[channel]? = some c' ∧
    c.Balances sent received c' ∧ (leaves = false → c'.hasReceiver = c.hasReceiver)

theorem Balances.refl (w : HostState ω) (channel : Nat) : w.Balances channel [] [] false w :=
  fun c hget hsound => ⟨c, hget, .refl hsound, fun _ => rfl⟩

/-- One of the host's channels goes through both parts. -/
theorem Balances.trans {w'' : HostState ω} {sent sent' received received' : List EndpointEvent}
    {leaves leaves' : Bool} (h : w.Balances channel sent received leaves w')
    (h' : w'.Balances channel sent' received' leaves' w'') :
    w.Balances channel (sent ++ sent') (received ++ received') (leaves || leaves') w'' := by
  intro c hget hsound
  obtain ⟨c', hget', hfirst, hreceiver⟩ := h c hget hsound
  obtain ⟨c'', hget'', hrest, hreceiver'⟩ := h' c' hget' hfirst.sound
  refine ⟨c'', hget'', hfirst.trans hrest, fun hstays => ?_⟩
  rw [Bool.or_eq_false_iff] at hstays
  exact (hreceiver' hstays.2).trans (hreceiver hstays.1)

/-- Sending to one channel leaves the others alone. -/
theorem balances_of_send {e : EndpointEvent} (h : w.send channel e = .ok w') :
    w.Balances channel [e] [] false w' := by
  intro c hget _
  have hlt : channel < w.channels.length := (List.getElem?_eq_some_iff.1 hget).1
  rw [send, hget] at h
  cases htry : c.trySend e with
  | error failure =>
    simp only [htry, Except.map] at h
    cases h
  | ok c' =>
    simp only [htry, Except.map] at h
    obtain rfl := Except.ok.inj h
    obtain ⟨hbalances, hreceiver⟩ := EventChannel.balances_of_trySend htry
    exact ⟨c', List.getElem?_set_self hlt, hbalances, fun _ => hreceiver⟩

/-- So it is with the channel of a number, if there is one. -/
theorem balances_receive (w : HostState ω) (channel : Nat) :
    w.Balances channel [] (w.receive channel).1.toList false (w.receive channel).2 := by
  intro c hget hsound
  have hlt : channel < w.channels.length := (List.getElem?_eq_some_iff.1 hget).1
  have hreceive : w.receive channel =
      (c.receive.1, { w with channels := w.channels.set channel c.receive.2 }) := by
    rw [receive, hget]
  rw [hreceive]
  exact ⟨c.receive.2, List.getElem?_set_self hlt, EventChannel.balances_receive hsound,
    fun _ => rfl⟩

theorem balances_dropReceiver (w : HostState ω) (channel : Nat) :
    w.Balances channel [] [] true (w.dropReceiver channel) := by
  intro c hget _
  refine ⟨c.dropReceiver, ?_, c.balances_dropReceiver, fun hstays => Bool.noConfusion hstays⟩
  rw [dropReceiver, List.getElem?_modify, hget, Option.map_eq_map, Option.map_some, if_pos rfl]

/-- Whether one of the host's channels takes nothing, or is not there. -/
def Blocked (w : HostState ω) (channel : Nat) : Prop :=
  ∀ c, w.channels[channel]? = some c → c.Blocked

theorem blocked_iff {c : EventChannel} (hget : w.channels[channel]? = some c) :
    w.Blocked channel ↔ c.Blocked := by
  refine ⟨fun h => h c hget, fun h c' hc' => ?_⟩
  obtain rfl := Option.some.inj (hget.symm.trans hc')
  exact h

/-- A send fails just if its channel is blocked, or is not there. -/
theorem send_fails_iff (w : HostState ω) (channel : Nat) (e : EndpointEvent) :
    (∃ failure, w.send channel e = .error failure) ↔ w.Blocked channel := by
  rw [send]
  cases hget : w.channels[channel]? with
  | none =>
    refine ⟨fun _ c hc => ?_, fun _ => ⟨_, rfl⟩⟩
    rw [hget] at hc
    cases hc
  | some c =>
    rw [blocked_iff hget, ← EventChannel.trySend_fails_iff c e]
    cases htry : c.trySend e <;> simp [htry, Except.map]

end HostState

end QuicHost
