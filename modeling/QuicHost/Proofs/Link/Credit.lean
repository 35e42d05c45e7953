import Mathlib.Data.Finsupp.Weight
import QuicHost.Proofs.Link.Network
import QuicHost.Proofs.Stream.Limits

/-!
# What a receiving end has granted and counted

Seen from the receiving end of a link, everything the other end has said on a
stream is covered: neither limit lies below what was said. And nothing was
counted that was not said (`Counted`): the counters of all streams, those that
are gone included, add up to the counter of the connection, and each is at most
what was said on its stream. The counter of the connection adds up in words; but where
more was said than a word holds, the limit is larger than any word.

From these two it follows that no report about what was said is taken for a
violation of credit or of a final size (`View.Data.honest`,
`View.PeerReset.honest`), and every operation keeps both.
-/

namespace QuicHost

/-! ## What was said

What a log says of one stream and of all: how many bytes were accepted, and whether the
end was among them. -/

namespace Message

variable {id : StreamId} {log : List Message}

theorem acceptedOn_append (id : StreamId) (log log' : List Message) :
    acceptedOn id (log ++ log') = acceptedOn id log + acceptedOn id log' := by
  rw [acceptedOn, List.map_append, List.sum_append]
  rfl

theorem acceptedAll_append (log log' : List Message) :
    acceptedAll (log ++ log') = acceptedAll log + acceptedAll log' := by
  rw [acceptedAll, List.map_append, List.sum_append]
  rfl

/-- What was said in all is what was said on the streams, taken together. -/
theorem exists_finsupp (log : List Message) :
    ∃ said : StreamId →₀ ℕ, (∀ id, said id = acceptedOn id log) ∧
      said.degree = acceptedAll log := by
  induction log with
  | nil => exact ⟨0, fun _ => rfl, map_zero _⟩
  | cons m log ih =>
    obtain ⟨said, hon, hall⟩ := ih
    have hcons (id : StreamId) : acceptedOn id (m :: log) = m.bytesOn id + acceptedOn id log :=
      List.sum_cons
    have hconsAll : acceptedAll (m :: log) = m.bytes + acceptedAll log := List.sum_cons
    cases m with
    | data id' offset payload fin =>
      refine ⟨Finsupp.single id' payload.length + said, fun id => ?_, ?_⟩
      · rw [Finsupp.add_apply, Finsupp.single_apply, hon, hcons]
        rfl
      · rw [map_add, Finsupp.degree_single, hall, hconsAll]
        rfl
    | _ =>
      refine ⟨said, fun id => ?_, ?_⟩
      · rw [hon, hcons]
        exact (Nat.zero_add _).symm
      · rw [hall, hconsAll]
        exact (Nat.zero_add _).symm

/-- Whether a message ends what is said on a stream. -/
def Ends (id : StreamId) : Message → Prop
  | data id' _ _ fin => id' = id ∧ fin = true
  | reset id' _ _ => id' = id
  | _ => False

/-- Whether something said has ended a stream. -/
def Ended (id : StreamId) (log : List Message) : Prop := ∃ m ∈ log, m.Ends id

end Message

/-! ## What was counted

The counters of the receiving end against the log. Streams that are gone have left their
part in the counter of the connection. -/

open Message

/-- Nothing was counted that was not said, stream by stream and, as long as all that was
said fits a word, in all; and a stream whose size is known has ended with this size. -/
def Counted (v : View) (log : List Message) : Prop :=
  ∃ counted : StreamId →₀ ℕ, (∀ id, counted id ≤ acceptedOn id log) ∧
    (acceptedAll log ≤ maxWord → counted.degree = v.recvWindow.received) ∧
    ∀ id h, v.recv id = some h → h.window.received = counted id ∧
      ∀ size, h.buffer.finalSize = some size → size = acceptedOn id log ∧ Ended id log

/-- What was said is granted, and nothing else was counted. -/
structure Covers (v : View) (log : List Message) : Prop where
  /-- what was said of a stream is within the grant -/
  stream : ∀ id, v.Grants id (acceptedOn id log)
  /-- and so is the sum over all streams -/
  connection : acceptedAll log ≤ v.recvWindow.limit
  /-- and what was counted was said -/
  counted : Counted v log

section

variable {v v' : View} {log : List Message} {id : StreamId} {h : RecvHalf}

theorem Counted.received_le (hc : Counted v log) (hrecv : v.recv id = some h) :
    h.window.received ≤ acceptedOn id log := by
  obtain ⟨counted, hle, -, hhalf⟩ := hc
  rw [(hhalf id h hrecv).1]
  exact hle id

/-- There is room for what was said: counting it does not take the connection
beyond what was said in all. -/
theorem Counted.room (hc : Counted v log) (hword : acceptedAll log ≤ maxWord)
    (hrecv : v.recv id = some h) {upTo : Nat} (hupTo : upTo ≤ acceptedOn id log) :
    v.recvWindow.received + (upTo - h.window.received) ≤ acceptedAll log := by
  obtain ⟨counted, hle, hdegree, hhalf⟩ := hc
  obtain ⟨said, hon, hall⟩ := exists_finsupp log
  rw [(hhalf id h hrecv).1, ← hdegree hword, ← hall]
  -- with the new bytes of one stream, what was counted still lies below what was said
  have hbelow : counted + Finsupp.single id (upTo - counted id) ≤ said := by
    intro id'
    rw [Finsupp.add_apply, Finsupp.single_apply, hon]
    have := hle id'
    split
    · next heq =>
      subst heq
      omega
    · omega
  have hmono := Finsupp.degree_mono hbelow
  rwa [map_add, Finsupp.degree_single] at hmono

/-- One stream has counted `n` more bytes of what was said. -/
theorem Counted.change (hc : Counted v log) (hrecv : v.recv id = some h) {n : Nat}
    (hn : h.window.received + n ≤ acceptedOn id log)
    (hwindow : acceptedAll log ≤ maxWord →
      v'.recvWindow.received = v.recvWindow.received + n)
    (hother : ∀ id', id' ≠ id → v'.recv id' = v.recv id')
    (hself : ∀ h', v'.recv id = some h' → h'.window.received = h.window.received + n ∧
      ∀ size, h'.buffer.finalSize = some size →
        h.buffer.finalSize = some size ∨ size = acceptedOn id log ∧ Ended id log) :
    Counted v' log := by
  obtain ⟨counted, hle, hdegree, hhalf⟩ := hc
  obtain ⟨hreceived, hsize⟩ := hhalf id h hrecv
  -- the same count as before, with `n` more on this stream
  refine ⟨counted + Finsupp.single id n, fun id' => ?_, fun hword => ?_, fun id' h' hrecv' => ?_⟩
  · rw [Finsupp.add_apply, Finsupp.single_apply]
    have := hle id'
    split
    · next heq =>
      subst heq
      omega
    · omega
  · rw [map_add, Finsupp.degree_single, hdegree hword, hwindow hword]
  · rw [Finsupp.add_apply, Finsupp.single_apply]
    by_cases heq : id = id'
    · subst heq
      obtain ⟨hreceived', hsize'⟩ := hself h' hrecv'
      rw [if_pos rfl]
      refine ⟨by omega, fun size hknown => ?_⟩
      rcases hsize' size hknown with hold | hnew
      · exact hsize size hold
      · exact hnew
    · rw [if_neg heq, Nat.add_zero]
      rw [hother id' (Ne.symm heq)] at hrecv'
      exact hhalf id' h' hrecv'

/-- What is not about receiving changes nothing of what was counted. -/
theorem Counted.spares (hc : Counted v log) (hs : v.SparesRecv v') : Counted v' log := by
  obtain ⟨counted, hle, hdegree, hhalf⟩ := hc
  exact ⟨counted, hle, by rwa [hs.recvWindow], fun id h hrecv => hhalf id h (hs.recv_eq hrecv)⟩

/-- More may be said, as long as streams that have ended stay as they are. -/
theorem Counted.said (hc : Counted v log) {m : Message}
    (hm : ∀ id, Ended id log → m.bytesOn id = 0) : Counted v (log ++ [m]) := by
  obtain ⟨counted, hle, hdegree, hhalf⟩ := hc
  have hon (id : StreamId) : acceptedOn id (log ++ [m]) = acceptedOn id log + m.bytesOn id := by
    rw [acceptedOn_append]
    rfl
  refine ⟨counted, fun id => ?_, fun hword => hdegree ?_, fun id h hrecv => ?_⟩
  · rw [hon]
    exact Nat.le_trans (hle id) (Nat.le_add_right _ _)
  · rw [acceptedAll_append] at hword
    exact Nat.le_trans (Nat.le_add_right _ _) hword
  · obtain ⟨hreceived, hsize⟩ := hhalf id h hrecv
    refine ⟨hreceived, fun size hknown => ?_⟩
    obtain ⟨hsize, m', hm', hends⟩ := hsize size hknown
    rw [hon, hm id ⟨m', hm', hends⟩]
    exact ⟨hsize, m', List.mem_append_left _ hm', hends⟩

end

/-- Counting what was said makes no sum that is too large, if all of it fits a word. -/
theorem Covers.received_arrive {v : View} {log : List Message} {id : StreamId} {h : RecvHalf}
    (hc : Covers v log) (hrecv : v.recv id = some h) {upTo : Nat}
    (hupTo : upTo ≤ acceptedOn id log) (hword : acceptedAll log ≤ maxWord) :
    (v.recvWindow.arrive (upTo - h.window.received)).received =
      v.recvWindow.received + (upTo - h.window.received) :=
  RecvWindow.received_arrive (Nat.le_trans (hc.counted.room hword hrecv hupTo) hword)

/-! ## Reports about what was said

A report of something that was said is within both limits and agrees with the final size,
so that it may be refused for other reasons only. -/

/-- Whether an error accuses the other end of overrunning its credit, or of
moving a final size. -/
def TransportError.Accuses (e : TransportError) : Prop :=
  e = .violation .flowControlError ∨ e = .violation .finalSizeError

theorem not_accuses_of_refused {e : TransportError}
    (h : e = .violation .streamStateError ∨ e = .violation .streamLimitError) : ¬ e.Accuses := by
  rcases h with rfl | rfl
  · rintro (h | h) <;> cases h
  · rintro (h | h) <;> cases h

namespace View

variable {v v' : View} {log : List Message} {id : StreamId} {h : RecvHalf} {e : TransportError}

/-- What was said is counted without an error. -/
theorem Count.honest (hc : Covers v log) (hrecv : v.recv id = some h) {upTo : Nat}
    (hupTo : upTo ≤ acceptedOn id log) : ¬ v.Count id h upTo (.error e) v' := by
  intro hcount
  cases hcount with
  | beyondStream hlt => exact absurd (Nat.le_trans hupTo (hc.stream id h hrecv)) (Nat.not_le.2 hlt)
  | beyondConnection _ hlt =>
    refine absurd ?_ (Nat.not_le.2 hlt)
    rcases Nat.lt_or_ge maxWord (acceptedAll log) with hword | hword
    · -- no word exceeds a limit that is larger than all of them
      exact Nat.le_trans (wrap_le _) (Nat.le_trans (Nat.le_of_lt hword) hc.connection)
    · exact Nat.le_trans (wrap_le_self _)
        (Nat.le_trans (hc.counted.room hword hrecv hupTo) hc.connection)

/-- Counting within what was accepted is not refused, on a stopped stream either. -/
theorem Settle.honest (hc : Covers v log) (hrecv : v.recv id = some h) {upTo : Nat} {isFinal : Bool}
    (hupTo : upTo ≤ acceptedOn id log) (hfinal : isFinal = true → acceptedOn id log = upTo) :
    ¬ v.Settle id h upTo isFinal (.error e) v' := by
  intro hsettle
  cases hsettle with
  | misplaced hisFinal hlt =>
    have := hc.counted.received_le hrecv
    rw [hfinal hisFinal] at this
    exact absurd this (Nat.not_le.2 hlt)
  | overrun hcount => exact hcount.honest hc hrecv hupTo

/-- Data that was said accuses nobody. -/
theorem Data.honest (hc : Covers v log) {offset : Nat} {data : Bytes} {fin frozen : Bool}
    (hword : acceptedOn id log ≤ maxWord) (hstop : offset + data.length ≤ acceptedOn id log)
    (hfin : fin = true → acceptedOn id log = offset + data.length)
    (hd : v.Data frozen id offset data fin (.error e) v') : ¬ e.Accuses := by
  cases hd with
  | refused he => exact not_accuses_of_refused he
  | unsized _ hlt => exact absurd (Nat.le_trans hstop hword) (Nat.not_le.2 hlt)
  | settled _ hrecv _ _ hsettle => exact absurd hsettle (Settle.honest hc hrecv hstop hfin)
  | overrun hrecv hcount => exact absurd hcount (Count.honest hc hrecv hstop)
  | @misfit h _ _ hrecv _ hinsert =>
    rcases RecvBuffer.insert_eq_error hinsert with ⟨-, hlt | hmoves⟩ | ⟨rfl, -⟩
    · exact absurd (Nat.le_trans hstop hword) (Nat.not_le.2 hlt)
    · -- the size is known, so it is what was said, and the data stays within it
      obtain ⟨counted, -, -, hhalf⟩ := hc.counted
      rw [RecvBuffer.movesFinalSize, Option.any_eq_true] at hmoves
      obtain ⟨size, hknown, hmoves⟩ := hmoves
      obtain ⟨rfl, -⟩ := (hhalf id h hrecv).2 size hknown
      rw [Bool.or_eq_true, Bool.and_eq_true, decide_eq_true_eq, bne_iff_ne] at hmoves
      rcases hmoves with hlt | ⟨hisFin, hne⟩
      · exact absurd hstop (Nat.not_le.2 hlt)
      · exact absurd (hfin hisFin).symm hne
    · rintro (h | h) <;> cases h

/-- A half that was said to be abandoned accuses nobody. -/
theorem PeerReset.honest (hc : Covers v log) {frozen : Bool} {finalSize : Nat}
    (hsize : finalSize = acceptedOn id log)
    (hr : v.PeerReset frozen id finalSize (.error e) v') : ¬ e.Accuses := by
  have hle : finalSize ≤ acceptedOn id log := Nat.le_of_eq hsize
  cases hr with
  | refused he => exact not_accuses_of_refused he
  | settled _ hrecv _ hsettle =>
    exact absurd hsettle (Settle.honest hc hrecv hle fun _ => hsize.symm)
  | overrun hrecv hcount => exact absurd hcount (Count.honest hc hrecv hle)
  | @misplaced h hrecv hmisplaced =>
    rcases hmisplaced with hlt | hother
    · have := hc.counted.received_le hrecv
      omega
    · obtain ⟨counted, -, -, hhalf⟩ := hc.counted
      rw [Option.any_eq_true] at hother
      obtain ⟨size, hknown, hne⟩ := hother
      obtain ⟨rfl, -⟩ := (hhalf id h hrecv).2 size hknown
      exact absurd hsize.symm (of_decide_eq_true hne)

theorem PeerStop.honest (hs : v.PeerStop id (.error e) v') : ¬ e.Accuses := by
  cases hs with
  | refused he => exact not_accuses_of_refused he

end View

/-! ## What operations keep

Everything that a receiving end does keeps what was covered and what was counted. Reports
count, and what they count was said. -/

section

variable {v v' : View} {log : List Message} {id : StreamId} {h : RecvHalf}

theorem Covers.grows (hc : Covers v log) (hg : v.Grows v') (hcounted : Counted v' log) :
    Covers v' log :=
  ⟨fun id => hg.stream id _ (hc.stream id), Nat.le_trans hc.connection hg.connection, hcounted⟩

/-- A read gives credit back, and counts nothing. -/
theorem Covers.read (hc : Covers v log) {maxLen : Nat} {r : Except CallError ReadOutcome}
    (hr : v.Read false id maxLen r v') : Covers v' log := by
  refine hc.grows hr.grows ?_
  have hother (id' : StreamId) (hne : id' ≠ id) : v'.recv id' = v.recv id' := hr.recv_of_ne hne
  cases hr with
  | refused e => exact hc.counted
  | left hfrozen _ _ => cases hfrozen
  | @taken h v' _ hrecv _ _ hreaped =>
    refine hc.counted.change (n := 0) hrecv (hc.counted.received_le hrecv) (fun _ => ?_) hother
      fun h' hrecv' => ?_
    · rw [hreaped.sparesRecv.recvWindow]
      rfl
    · have hself := hreaped.sparesRecv.recv_eq hrecv'
      rw [View.recv_release, View.recv_setRecv, if_pos rfl] at hself
      obtain rfl := Option.some.inj hself
      refine ⟨rfl, fun size hknown => .inl ?_⟩
      rw [← RecvBuffer.finalSize_read h.buffer maxLen]
      exact hknown

/-- Stopping gives credit back, and counts nothing. -/
theorem Covers.stop (hc : Covers v log) {r : Except CallError Nat} (hs : v.Stop id r v') :
    Covers v' log := by
  refine hc.grows hs.grows ?_
  have hother (id' : StreamId) (hne : id' ≠ id) : v'.recv id' = v.recv id' := hs.recv_of_ne hne
  cases hs with
  | refused e => exact hc.counted
  | abandoned hrecv _ hreaped =>
    refine hc.counted.change (n := 0) hrecv (hc.counted.received_le hrecv) (fun _ => ?_) hother
      fun h' hrecv' => ?_
    · rw [hreaped.sparesRecv.recvWindow]
      rfl
    · have hself := hreaped.sparesRecv.recv_eq hrecv'
      rw [View.recv_release, View.recv_setRecv, if_pos rfl] at hself
      obtain rfl := Option.some.inj hself
      exact ⟨rfl, fun size hknown => .inl hknown⟩

theorem RecvHalf.received_reach (h : RecvHalf) (upTo : Nat) :
    (h.reach upTo).window.received = h.window.received + (upTo - h.window.received) := by
  simp only [reach]
  omega

/-- What is counted on a stopped stream was accepted by the other side. -/
theorem Covers.settle (hc : Covers v log) (hrecv : v.recv id = some h) {upTo n : Nat}
    {isFinal : Bool} (hupTo : upTo ≤ acceptedOn id log)
    (hs : v.Settle id h upTo isFinal (.ok n) v') : Covers v' log := by
  refine hc.grows (hs.grows hrecv) ?_
  have hother (id' : StreamId) (hne : id' ≠ id) : v'.recv id' = v.recv id' := hs.recv_of_ne hne
  have hreceived := hc.counted.received_le hrecv
  cases hs with
  | settled _ hcount hreaped =>
    refine hc.counted.change (n := upTo - h.window.received) hrecv
      (by omega) (fun hword => ?_) hother fun h' hrecv' => ?_
    · rw [hreaped.sparesRecv.recvWindow, View.recvWindow_grant, RecvWindow.received_grant,
        View.recvWindow_setRecv, hcount.recvWindow_eq, hc.received_arrive hrecv hupTo hword]
    · have hself := hreaped.sparesRecv.recv_eq hrecv'
      rw [View.recv_grant, View.recv_setRecv, if_pos rfl] at hself
      obtain rfl := Option.some.inj hself
      refine ⟨?_, fun size hknown => .inl hknown⟩
      rw [RecvHalf.settle, RecvWindow.received_grant, RecvHalf.received_reach]

/-- Data that the other side accepted is counted once, however often it comes. -/
theorem Covers.data (hc : Covers v log) {offset n : Nat} {data : Bytes} {fin frozen : Bool}
    (hstop : offset + data.length ≤ acceptedOn id log)
    (hfin : fin = true → acceptedOn id log = offset + data.length ∧ Ended id log)
    (hd : v.Data frozen id offset data fin (.ok n) v') : Covers v' log := by
  cases hd with
  | ignored _ => exact hc
  | settled _ hrecv _ _ hsettle => exact hc.settle hrecv hstop hsettle
  | @filled h _ buffer mid hfrozen hrecv hstopped hterminal hcount hinsert =>
    have hd := View.Data.filled hfrozen hrecv hstopped hterminal hcount hinsert
    refine hc.grows hd.grows ?_
    have hreceived := hc.counted.received_le hrecv
    obtain ⟨-, -, -, -, -, hknown⟩ := RecvBuffer.insert_eq_ok hinsert
    refine hc.counted.change (n := offset + data.length - h.window.received) hrecv (by omega)
      (fun hword => ?_) (fun id' hne => hd.recv_of_ne hne) fun h' hrecv' => ?_
    · rw [View.recvWindow_setRecv, hcount.recvWindow_eq, hc.received_arrive hrecv hstop hword]
    · rw [View.recv_setRecv, if_pos rfl] at hrecv'
      obtain rfl := Option.some.inj hrecv'
      refine ⟨RecvHalf.received_reach h _, fun size hsize => ?_⟩
      change buffer.finalSize = some size at hsize
      rw [hknown] at hsize
      split at hsize
      · next hisFin =>
        obtain ⟨hsaid, hended⟩ := hfin hisFin
        exact .inr ⟨(Option.some.inj hsize).symm.trans hsaid.symm, hended⟩
      · exact .inl hsize

/-- The final size that the other side tells is what it accepted. -/
theorem Covers.peerReset (hc : Covers v log) {frozen : Bool} {finalSize n : Nat}
    (hsize : finalSize = acceptedOn id log)
    (hr : v.PeerReset frozen id finalSize (.ok n) v') : Covers v' log := by
  have hle : finalSize ≤ acceptedOn id log := Nat.le_of_eq hsize
  cases hr with
  | ignored _ => exact hc
  | settled _ hrecv _ hsettle => exact hc.settle hrecv hle hsettle
  | @ended h mid _ hfrozen hrecv hstopped hterminal hreceived hknown hcount hreaped =>
    have hr := View.PeerReset.ended hfrozen hrecv hstopped hterminal hreceived hknown hcount hreaped
    refine hc.grows hr.grows ?_
    refine hc.counted.change (n := finalSize - h.window.received) hrecv (by omega)
      (fun hword => ?_) (fun id' hne => hr.recv_of_ne hne) fun h' hrecv' => ?_
    · rw [hreaped.sparesRecv.recvWindow, View.recvWindow_release, RecvWindow.received_read,
        View.recvWindow_setRecv, hcount.recvWindow_eq, hc.received_arrive hrecv hle hword]
    · have hself := hreaped.sparesRecv.recv_eq hrecv'
      rw [View.recv_release, View.recv_setRecv, if_pos rfl] at hself
      obtain rfl := Option.some.inj hself
      exact ⟨RecvHalf.received_reach h _, fun size hknown => .inl hknown⟩

end

end QuicHost
