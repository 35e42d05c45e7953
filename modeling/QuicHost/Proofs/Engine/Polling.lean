import QuicHost.Engine.Adapter
import QuicHost.Engine.Forced
import QuicHost.Engine.Scripted

/-!
# Polls of an engine that may answer anything

A poll asks an engine for one datagram after the other. What the engine answers is
observed by a recorder that stands between the two and changes nothing
(`RecordedEngine`); how a poll ends for given answers is said by `Polled`, which
does not mention the engine any more.

So nothing is assumed of the engine, and yet there is a bound on the number of
questions, and every datagram that is handed out consists of bytes that the engine
has written for it (`polls_within_bounds`).
-/

namespace QuicHost

namespace Written

/-- Whether the reported length is that of a datagram: it is not zero, and neither
more than was allowed nor more than was written. -/
structure Valid (w : Written) (maxLen : Nat) : Prop where
  pos : 0 < w.reported
  allowed : w.reported ≤ maxLen
  written : w.reported ≤ w.bytes.length

/-- The bytes that were reported. -/
def datagram (w : Written) : Bytes := w.bytes.take w.reported

instance (w : Written) (maxLen : Nat) : Decidable (w.Valid maxLen) :=
  decidable_of_iff (0 < w.reported ∧ w.reported ≤ maxLen ∧ w.reported ≤ w.bytes.length)
    ⟨fun ⟨hpos, hallowed, hwritten⟩ => ⟨hpos, hallowed, hwritten⟩,
      fun ⟨hpos, hallowed, hwritten⟩ => ⟨hpos, hallowed, hwritten⟩⟩

theorem Valid.length_datagram {w : Written} {maxLen : Nat} (h : w.Valid maxLen) :
    w.datagram.length = w.reported :=
  List.length_take_of_le h.written

/-- A report is one of nothing, one of a datagram, or one that cannot be. -/
theorem valid_or (w : Written) (maxLen : Nat) :
    w.reported = 0 ∨ (0 < w.reported ∧ (maxLen < w.reported ∨ w.bytes.length < w.reported)) ∨
      w.Valid maxLen := by
  by_cases hvalid : w.Valid maxLen
  · exact .inr (.inr hvalid)
  · have hnot : ¬ (0 < w.reported ∧ w.reported ≤ maxLen ∧ w.reported ≤ w.bytes.length) :=
      fun ⟨hpos, hallowed, hwritten⟩ => hvalid ⟨hpos, hallowed, hwritten⟩
    omega

end Written

/-! ## Recording answers

A recorder behaves as the engine that it records, and remembers what was answered. -/

/-- An engine, with a record of what it answered to those who asked for datagrams. -/
structure RecordedEngine (ε : Type) where
  /-- the engine -/
  inner : ε
  /-- its answers, oldest first -/
  answers : List (Except EngineError Written) := []

namespace RecordedEngine

variable {ε : Type}

/-- Changes the engine. -/
def onInner (e : RecordedEngine ε) (f : ε → ε) : RecordedEngine ε :=
  { e with inner := f e.inner }

/-- Puts back an engine that answered. -/
def putBack {α : Type} (e : RecordedEngine ε) (r : α × ε) : α × RecordedEngine ε :=
  (r.1, { e with inner := r.2 })

instance [PacketEngine ε] : PacketEngine (RecordedEngine ε) where
  readDatagram e datagram now := e.putBack (PacketEngine.readDatagram e.inner datagram now)
  drainCallbacks e := e.putBack (PacketEngine.drainCallbacks e.inner)
  writeDatagram e maxLen now :=
    let r := PacketEngine.writeDatagram e.inner maxLen now
    (r.1, ⟨r.2, e.answers ++ [r.1]⟩)
  submitStreamData e id data fin := e.onInner (PacketEngine.submitStreamData · id data fin)
  shutdownWrite e id errorCode := e.onInner (PacketEngine.shutdownWrite · id errorCode)
  shutdownRead e id errorCode := e.onInner (PacketEngine.shutdownRead · id errorCode)
  extendStream e id n := e.onInner (PacketEngine.extendStream · id n)
  extendConnection e n := e.onInner (PacketEngine.extendConnection · n)
  close e errorCode reason := e.onInner (PacketEngine.close · errorCode reason)
  expiry e := PacketEngine.expiry e.inner
  handleExpiry e now := e.putBack (PacketEngine.handleExpiry e.inner now)

theorem writeDatagram_eq [PacketEngine ε] {e : RecordedEngine ε} {maxLen : Nat} {now : Instant}
    {answer : Except EngineError Written} {inner : ε}
    (h : PacketEngine.writeDatagram e.inner maxLen now = (answer, inner)) :
    PacketEngine.writeDatagram e maxLen now = (answer, ⟨inner, e.answers ++ [answer]⟩) := by
  change (_, (⟨_, e.answers ++ [_]⟩ : RecordedEngine ε)) = _
  rw [h]

end RecordedEngine

/-! ## How a poll ends

How it ends is decided by the answers: after the first that says there is nothing, fails,
or reports more than is there, or after as many as one poll asks for. -/

/-- How a poll that may ask so many times ends when the engine answers so. -/
inductive Polled (maxLen : Nat) :
    Nat → List (Except EngineError Written) → Except TransportError (List Bytes) → Prop where
  /-- the poll has asked as often as it may -/
  | full : Polled maxLen 0 [] (.ok [])
  /-- the engine has nothing to send -/
  | drained {n : Nat} {w : Written} : w.reported = 0 → Polled maxLen (n + 1) [.ok w] (.ok [])
  /-- the engine fails -/
  | failed {n : Nat} (e : EngineError) : Polled maxLen (n + 1) [.error e] (.error e.toTransport)
  /-- the engine reports what cannot be -/
  | overreported {n : Nat} {w : Written} :
    0 < w.reported → maxLen < w.reported ∨ w.bytes.length < w.reported →
    Polled maxLen (n + 1) [.ok w] (.error (.violation .internalError))
  /-- the engine has written a datagram, and the poll goes on -/
  | written {n : Nat} {w : Written} {answers : List (Except EngineError Written)}
    {result : Except TransportError (List Bytes)} :
    w.Valid maxLen → Polled maxLen n answers result →
    Polled maxLen (n + 1) (.ok w :: answers) (result.map (w.datagram :: ·))

namespace Polled

variable {maxLen n : Nat} {answers : List (Except EngineError Written)}
  {result : Except TransportError (List Bytes)}

/-- No more is asked for than was allowed. -/
theorem length_le (h : Polled maxLen n answers result) : answers.length ≤ n := by
  induction h with
  | full => exact Nat.le_refl 0
  | drained _ => exact Nat.succ_le_succ (Nat.zero_le _)
  | failed _ => exact Nat.succ_le_succ (Nat.zero_le _)
  | overreported _ _ => exact Nat.succ_le_succ (Nat.zero_le _)
  | written _ _ ih => exact Nat.succ_le_succ ih

/-- A poll that succeeds hands out what the engine has written, answer by answer, and
it has come to its limit or to the end of what there is to send. -/
theorem of_ok (h : Polled maxLen n answers result) {datagrams : List Bytes}
    (hok : result = .ok datagrams) : ∃ ws : List Written,
      datagrams = ws.map Written.datagram ∧ (∀ w ∈ ws, w.Valid maxLen) ∧
      (answers = ws.map .ok ∧ ws.length = n ∨
        ∃ last : Written, last.reported = 0 ∧ answers = (ws ++ [last]).map .ok) := by
  induction h generalizing datagrams with
  | full =>
    obtain rfl := Except.ok.inj hok
    exact ⟨[], rfl, nofun, .inl ⟨rfl, rfl⟩⟩
  | @drained _ w hzero =>
    obtain rfl := Except.ok.inj hok
    exact ⟨[], rfl, nofun, .inr ⟨w, hzero, rfl⟩⟩
  | failed _ => cases hok
  | overreported _ _ => cases hok
  | @written _ w _ result hvalid _ ih =>
    rcases result with e | rest
    · cases hok
    obtain rfl := Except.ok.inj hok
    obtain ⟨ws, rfl, hws, hend⟩ := ih rfl
    refine ⟨w :: ws, rfl, List.forall_mem_cons.2 ⟨hvalid, hws⟩, ?_⟩
    rcases hend with ⟨rfl, hfull⟩ | ⟨last, hlast, rfl⟩
    · exact .inl ⟨rfl, congrArg Nat.succ hfull⟩
    · exact .inr ⟨last, hlast, rfl⟩

/-- A poll during which a length was reported that cannot be has failed. -/
theorem eq_error_of_overreported (h : Polled maxLen n answers result) {w : Written}
    (hmem : .ok w ∈ answers) (hover : maxLen < w.reported ∨ w.bytes.length < w.reported) :
    result = .error (.violation .internalError) := by
  induction h with
  | full => cases hmem
  | drained hzero =>
    obtain rfl := Except.ok.inj (List.mem_singleton.1 hmem)
    omega
  | failed _ => cases List.mem_singleton.1 hmem
  | overreported _ _ => rfl
  | written hvalid _ ih =>
    rcases List.mem_cons.1 hmem with heq | hrest
    · obtain rfl := Except.ok.inj heq
      have hallowed := hvalid.allowed
      have hwritten := hvalid.written
      omega
    · rw [ih hrest]
      rfl

end Polled

namespace EngineAdapter

theorem overreports_eq_true_iff (maxLen : Nat) (w : Written) :
    overreports maxLen w = true ↔ maxLen < w.reported ∨ w.bytes.length < w.reported := by
  rw [overreports, Bool.or_eq_true, decide_eq_true_eq, decide_eq_true_eq]

theorem overreports_of_valid {w : Written} {maxLen : Nat} (h : w.Valid maxLen) :
    overreports maxLen w = false := by
  rw [Bool.eq_false_iff, Ne, overreports_eq_true_iff, not_or, Nat.not_lt, Nat.not_lt]
  exact ⟨h.allowed, h.written⟩

/-! ## What the answers come to

The datagrams are those of the valid reports before the end, and the result an error if
the last answer was a failure or an invalid report. -/

/-- Whether a poll fails on an answer. -/
def fails (maxLen : Nat) : Except EngineError Written → Bool
  | .error _ => true
  | .ok w => overreports maxLen w

/-- The datagram in an answer, if there is one. -/
def datagram? (maxLen : Nat) : Except EngineError Written → Option Bytes
  | .error _ => none
  | .ok w => if w.Valid maxLen then some w.datagram else none

/-- The datagrams that were written, answer by answer. -/
def written (maxLen : Nat) (answers : List (Except EngineError Written)) : List Bytes :=
  answers.filterMap (datagram? maxLen)

/-- A poll hands out everything that was written, unless it fails. -/
theorem toOption_of_polled {maxLen n : Nat} {answers : List (Except EngineError Written)}
    {result : Except TransportError (List Bytes)} (h : Polled maxLen n answers result) :
    result.toOption =
      if answers.any (fails maxLen) = true then none else some (written maxLen answers) := by
  induction h with
  | full => rfl
  | @drained _ w hzero =>
    have hfine : fails maxLen (.ok w) = false := by
      simp [fails, overreports, hzero]
    have hnone : datagram? maxLen (.ok w) = none :=
      if_neg fun hvalid => Nat.ne_of_gt hvalid.pos hzero
    simp [hfine, written, hnone, Except.toOption]
  | failed _ => rfl
  | overreported _ hover =>
    rw [if_pos]
    · rfl
    · rw [List.any_cons, fails, (overreports_eq_true_iff _ _).2 hover, Bool.true_or]
  | @written _ w answers result hvalid _ ih =>
    have hfine : fails maxLen (.ok w) = false := overreports_of_valid hvalid
    have hsome : datagram? maxLen (.ok w) = some w.datagram := if_pos hvalid
    have hmap : (result.map (w.datagram :: ·)).toOption =
        result.toOption.map (w.datagram :: ·) := by
      cases result <;> rfl
    rw [hmap, ih, List.any_cons, hfine, Bool.false_or, written, written,
      List.filterMap_cons_some hsome]
    split <;> rfl

/-- A poll fails just if one of the answers makes it fail. -/
theorem exists_error_iff_of_polled {maxLen n : Nat} {answers : List (Except EngineError Written)}
    {result : Except TransportError (List Bytes)} (h : Polled maxLen n answers result) :
    (∃ e, result = .error e) ↔ ∃ answer ∈ answers, fails maxLen answer = true := by
  have hresult := toOption_of_polled h
  rw [← List.any_eq_true]
  rcases result with e | datagrams
  · split at hresult
    · next hfails => exact ⟨fun _ => hfails, fun _ => ⟨e, rfl⟩⟩
    · cases hresult
  · split at hresult
    · cases hresult
    · next hfine =>
      refine ⟨?_, fun hfails => absurd hfails hfine⟩
      rintro ⟨e, heq⟩
      cases heq

/-! ## A poll under observation

The poll of any engine is the poll of its recorder, so that what is known of answers is
known of every engine. -/

variable {ε : Type} [PacketEngine ε]

/-- A valid datagram is pulled, and the next one asked for. -/
theorem pull_of_valid {maxLen : Nat} {w : Written} (h : w.Valid maxLen) {now : Instant}
    {count : Nat} {e e' : ε} (hwrite : PacketEngine.writeDatagram e maxLen now = (.ok w, e')) :
    pull maxLen now (count + 1) e =
      ((pull maxLen now count e').1.map (w.datagram :: ·), (pull maxLen now count e').2) := by
  rw [pull, hwrite]
  dsimp only
  rw [if_neg (Nat.pos_iff_ne_zero.1 h.pos), overreports_of_valid h, if_neg Bool.false_ne_true]
  rcases pull maxLen now count e' with ⟨error | datagrams, e''⟩
  · rfl
  · rfl

/-- Whatever stands behind the recorder, it is asked what the engine would be asked,
and the poll ends as its answers say. -/
theorem polled_pull (maxLen : Nat) (now : Instant) (count : Nat) (e : RecordedEngine ε) :
    ∃ answers, pull maxLen now count e =
        ((pull maxLen now count e.inner).1,
          ⟨(pull maxLen now count e.inner).2, e.answers ++ answers⟩) ∧
      Polled maxLen count answers (pull maxLen now count e.inner).1 := by
  induction count generalizing e with
  | zero => exact ⟨[], by rw [List.append_nil]; rfl, .full⟩
  | succ count ih =>
    rcases hinner : PacketEngine.writeDatagram e.inner maxLen now with ⟨error | w, e'⟩
    · have hrecorded := RecordedEngine.writeDatagram_eq hinner
      refine ⟨[.error error], ?_, ?_⟩
      · rw [pull, hrecorded, pull, hinner]
      · rw [pull, hinner]
        exact .failed error
    · have hrecorded := RecordedEngine.writeDatagram_eq hinner
      -- nothing written, more reported than there is, or a datagram: the three ways in
      -- which the loop goes on or ends
      rcases w.valid_or maxLen with hzero | ⟨hpos, hover⟩ | hvalid
      · refine ⟨[.ok w], ?_, ?_⟩
        · simp only [pull, hrecorded, hinner, hzero, ↓reduceIte]
        · simp only [pull, hinner, hzero, ↓reduceIte]
          exact .drained hzero
      · have hnot : w.reported ≠ 0 := by omega
        have hreports := (overreports_eq_true_iff maxLen w).2 hover
        refine ⟨[.ok w], ?_, ?_⟩
        · simp only [pull, hrecorded, hinner, hnot, hreports, ↓reduceIte]
        · simp only [pull, hinner, hnot, hreports, ↓reduceIte]
          exact .overreported hpos hover
      · obtain ⟨answers, hrest, hpolled⟩ := ih ⟨e', e.answers ++ [.ok w]⟩
        refine ⟨.ok w :: answers, ?_, ?_⟩
        · rw [pull_of_valid hvalid hrecorded, pull_of_valid hvalid hinner, hrest,
            List.append_assoc]
          rfl
        · rw [pull_of_valid hvalid hinner]
          exact .written hvalid hpolled

/-- The adapter with a recorder between itself and its engine. -/
def recorded (a : EngineAdapter ε) : EngineAdapter (RecordedEngine ε) :=
  ⟨⟨a.engine, []⟩, a.maxUdpPayloadSize, a.maxDatagramsPerPoll⟩

/-- What the engine answers during a poll, oldest first. -/
def answers (a : EngineAdapter ε) (now : Instant) : List (Except EngineError Written) :=
  (a.recorded.produceDatagrams now).2.engine.answers

/-- Recording changes nothing, and a poll ends as the answers say. -/
theorem polled_produceDatagrams (a : EngineAdapter ε) (now : Instant) :
    (a.recorded.produceDatagrams now).1 = (a.produceDatagrams now).1 ∧
      (a.recorded.produceDatagrams now).2.engine.inner = (a.produceDatagrams now).2.engine ∧
      Polled a.maxUdpPayloadSize a.maxDatagramsPerPoll (a.answers now)
        (a.produceDatagrams now).1 := by
  obtain ⟨answers, hpull, hpolled⟩ :=
    polled_pull a.maxUdpPayloadSize now a.maxDatagramsPerPoll ⟨a.engine, []⟩
  have hrecorded : a.recorded.produceDatagrams now =
      ((a.produceDatagrams now).1, { a.recorded with
        engine := ⟨(a.produceDatagrams now).2.engine, answers⟩ }) := by
    rw [recorded, produceDatagrams, hpull]
    rfl
  rw [EngineAdapter.answers, hrecorded]
  exact ⟨rfl, rfl, hpolled⟩

/-- **A poll keeps its bounds.** Whatever the engine does, a poll asks it for no more
datagrams than the limit of a poll, as a recorder observes that sees what is asked and
answered.

If the poll succeeds, then what it hands out are the bytes that were reported, of
those that were written for each answer, in the order of the answers; each datagram
has a byte at least and no more than allowed; and the poll ended because it came to
its limit, or because the engine reported that there is nothing to send.

If a length is reported that is more than was allowed or more than was written, the
poll ends in a violation. It fails for that reason, or because the engine fails, and for
no other. -/
theorem polls_within_bounds (a : EngineAdapter ε) (now : Instant) :
    let recorded := a.recorded.produceDatagrams now
    let answers := recorded.2.engine.answers
    recorded.1 = (a.produceDatagrams now).1 ∧
    recorded.2.engine.inner = (a.produceDatagrams now).2.engine ∧
    answers.length ≤ a.maxDatagramsPerPoll ∧
    (∀ datagrams, (a.produceDatagrams now).1 = .ok datagrams →
      (∃ ws : List Written, datagrams = ws.map (fun w => w.bytes.take w.reported) ∧
        (∀ w ∈ ws, w.Valid a.maxUdpPayloadSize) ∧
        (answers = ws.map .ok ∧ ws.length = a.maxDatagramsPerPoll ∨
          ∃ last : Written, last.reported = 0 ∧ answers = (ws ++ [last]).map .ok)) ∧
      ∀ d ∈ datagrams, d ≠ [] ∧ d.length ≤ a.maxUdpPayloadSize) ∧
    (∀ w : Written, .ok w ∈ answers →
      a.maxUdpPayloadSize < w.reported ∨ w.bytes.length < w.reported →
        (a.produceDatagrams now).1 = .error (.violation .internalError)) ∧
    ((∃ e, (a.produceDatagrams now).1 = .error e) ↔
      ∃ answer ∈ answers, fails a.maxUdpPayloadSize answer = true) := by
  intro recorded answers
  obtain ⟨hsame, hinner, hpolled⟩ := a.polled_produceDatagrams now
  refine ⟨hsame, hinner, hpolled.length_le, fun datagrams hok => ?_,
    fun w => hpolled.eq_error_of_overreported, exists_error_iff_of_polled hpolled⟩
  obtain ⟨ws, rfl, hws, hend⟩ := hpolled.of_ok hok
  refine ⟨⟨ws, rfl, hws, hend⟩, fun d hd => ?_⟩
  obtain ⟨w, hw, rfl⟩ := List.mem_map.1 hd
  have hlength := (hws w hw).length_datagram
  refine ⟨?_, hlength ▸ (hws w hw).allowed⟩
  -- nothing written is how the engine says that it is drained, so a datagram has a byte at
  -- least
  intro hnil
  have hpos := (hws w hw).pos
  rw [hnil, List.length_nil] at hlength
  omega

/-- An engine that reports less than it has written, and then more. -/
def misreporting : EngineAdapter (ForcedEngine ScriptedEngine) :=
  ⟨⟨{}, [⟨[1, 2, 3], 2⟩, ⟨[4], 5⟩]⟩, 1200, 16⟩

/-- An engine that reports too much is not believed, and is asked no more than allowed. -/
theorem polls_within_bounds_misreporting :
    (misreporting.produceDatagrams ⟨0⟩).1 = .error (.violation .internalError) ∧
      (misreporting.answers ⟨0⟩).length ≤ 16 := by
  obtain ⟨-, -, hbound, -, hover, -⟩ := misreporting.polls_within_bounds ⟨0⟩
  refine ⟨hover ⟨[4], 5⟩ (List.mem_cons_of_mem _ List.mem_cons_self) (.inr ?_), hbound⟩
  decide

end EngineAdapter

end QuicHost
