import Mathlib.Data.List.Forall2
import Mathlib.Tactic.IntervalCases
import QuicHost.Endpoint.Datagram

/-!
# What a reset packet is

A token is compared with the expected one by gathering, with `xor` and `or`, the
bits in which the two differ. Nothing is gathered exactly when every pair of
bytes is equal (`gather_eq_zero_iff`), and two strings of one length have no
other way of being different: so one string is accepted for an identifier, its
token (`verifyToken_eq_true_iff`).

`statelessReset_spec` says what an answer is, and the header, the length and the
tail of a packet are read off it. Two endpoints that answer each other's resets
lose a byte with every answer, and have at most `resetLength` bytes to begin
with and `minResetLength` to end with.
-/

namespace QuicHost

/-- A source of entropy that answers whatever is drawn from it now. -/
def EntropySource.Works {η : Type} [EntropySource η] (entropy : η) : Prop :=
  ∀ n, ∃ b, (EntropySource.draw entropy n).1 = .ok b

namespace CidGenerator

/-! ## Comparing tokens

All bytes are looked at, whatever the first of them are. What is gathered is zero exactly
if the two tokens are equal. -/

/-- Gathering differences: none are found if none were gathered before and no
pair has one. -/
theorem gather_eq_zero_iff (pairs : List (UInt8 × UInt8)) (acc : UInt8) :
    pairs.foldl (fun acc p => acc ||| (p.1 ^^^ p.2)) acc = 0 ↔
      acc = 0 ∧ ∀ p ∈ pairs, p.1 = p.2 := by
  induction pairs generalizing acc with
  | nil => simp
  | cons p pairs ih =>
    rw [List.foldl_cons, ih, UInt8.or_eq_zero_iff, UInt8.xor_eq_zero_iff, List.forall_mem_cons,
      and_assoc]

/-- Byte strings of one length that differ in no bit are equal. -/
theorem differingBits_eq_zero_iff {a b : Bytes} (hlen : a.length = b.length) :
    differingBits a b = 0 ↔ a = b := by
  rw [differingBits, gather_eq_zero_iff, ← List.forall₂_eq_eq_eq, List.forall₂_iff_zip]
  simp [hlen]

/-- One byte string is accepted for an identifier: its token. -/
theorem verifyToken_eq_true_iff (g : CidGenerator) (cid : ConnectionId) (token : Bytes) :
    g.verifyToken cid token = true ↔ token = g.resetToken cid := by
  rw [verifyToken, Bool.and_eq_true, beq_iff_eq, beq_iff_eq]
  constructor
  · rintro ⟨hlen, hbits⟩
    exact ((differingBits_eq_zero_iff (by rw [length_resetToken, hlen])).1 hbits).symm
  · rintro rfl
    exact ⟨length_resetToken g cid, (differingBits_eq_zero_iff rfl).2 rfl⟩

/-! ## What is answered

The parts of an answer: a header that looks like that of a short packet, random bytes, and
the token at the end. -/

/-- The first byte of a short header: the form bit is clear and the fixed bit is
set. -/
def IsShort (packet : Bytes) : Prop :=
  ∃ first, packet.head? = some first ∧ first &&& 0x80 = 0 ∧ first &&& 0x40 = 0x40

@[simp] theorem length_markShort (b : Bytes) : (markShort b).length = b.length := by
  cases b <;> rfl

theorem shortForm_clear (first : UInt8) : ((first &&& 0x3f) ||| 0x40) &&& 0x80 = 0 := by
  refine UInt8.toBitVec_inj.1 (BitVec.eq_of_getElem_eq fun i hi => ?_)
  interval_cases i <;> simp

theorem fixedBit_set (first : UInt8) : ((first &&& 0x3f) ||| 0x40) &&& 0x40 = 0x40 := by
  refine UInt8.toBitVec_inj.1 (BitVec.eq_of_getElem_eq fun i hi => ?_)
  interval_cases i <;> simp

/-- What is marked has the form of a short packet, whatever follows. -/
theorem isShort_markShort_append {b : Bytes} (hb : b ≠ []) (rest : Bytes) :
    IsShort (markShort b ++ rest) := by
  obtain ⟨first, tail, rfl⟩ := List.exists_cons_of_ne_nil hb
  exact ⟨_, rfl, shortForm_clear first, fixedBit_set first⟩

theorem resetLength_lt_minResetLength_iff {trigger : Nat} :
    resetLength trigger < minResetLength ↔ trigger < 22 := by
  rw [resetLength, minResetLength, maxResetLength, tokenLength]
  omega

section

variable {η : Type} [EntropySource η]

/-- The answer to a datagram: nothing if the datagram is too short, else, if the
draw succeeds, the drawn bytes in the form of a short header and the token. -/
theorem statelessReset_spec (g : CidGenerator) (cid : ConnectionId) (trigger : Nat) (entropy : η) :
    (g.statelessReset cid trigger entropy).1 =
      if trigger < 22 then .ok none
      else (EntropySource.draw entropy (resetLength trigger - tokenLength)).1.map
        fun b => some (markShort b.1 ++ g.resetToken cid) := by
  unfold statelessReset
  simp only [resetLength_lt_minResetLength_iff]
  split
  · rfl
  · rcases EntropySource.draw entropy (resetLength trigger - tokenLength) with ⟨_ | b, entropy⟩ <;>
      rfl

/-- A packet that is answered is made of drawn bytes, and fits the datagram. -/
theorem of_statelessReset {g : CidGenerator} {cid : ConnectionId} {trigger : Nat} {entropy : η}
    {packet : Bytes} (h : (g.statelessReset cid trigger entropy).1 = .ok (some packet)) :
    22 ≤ trigger ∧ ∃ b : Bytes, b.length = resetLength trigger - tokenLength ∧
      packet = markShort b ++ g.resetToken cid := by
  rw [statelessReset_spec] at h
  split at h
  · cases h
  · rename_i hlong
    rcases hdraw : (EntropySource.draw entropy (resetLength trigger - tokenLength)).1 with e | b
    · rw [hdraw] at h
      cases h
    · rw [hdraw] at h
      cases h
      exact ⟨by omega, b.1, b.2, rfl⟩

/-- A packet has the length that is meant for it. -/
theorem length_of_statelessReset {g : CidGenerator} {cid : ConnectionId} {trigger : Nat}
    {entropy : η} {packet : Bytes}
    (h : (g.statelessReset cid trigger entropy).1 = .ok (some packet)) :
    packet.length = min (trigger - 1) 43 := by
  obtain ⟨hlong, b, hb, rfl⟩ := of_statelessReset h
  rw [List.length_append, length_markShort, hb, length_resetToken, resetLength, maxResetLength,
    tokenLength]
  omega

/-- What follows the random bytes of a packet is the token. -/
theorem drop_of_statelessReset {g : CidGenerator} {cid : ConnectionId} {trigger : Nat}
    {entropy : η} {packet : Bytes}
    (h : (g.statelessReset cid trigger entropy).1 = .ok (some packet)) :
    packet.drop (packet.length - 16) = g.resetToken cid := by
  obtain ⟨-, b, -, rfl⟩ := of_statelessReset h
  rw [List.length_append, length_resetToken, tokenLength, Nat.add_sub_cancel, List.drop_left]

/-- A packet begins with a short header. -/
theorem isShort_of_statelessReset {g : CidGenerator} {cid : ConnectionId} {trigger : Nat}
    {entropy : η} {packet : Bytes}
    (h : (g.statelessReset cid trigger entropy).1 = .ok (some packet)) : IsShort packet := by
  obtain ⟨hlong, b, hb, rfl⟩ := of_statelessReset h
  refine isShort_markShort_append (fun hnil => ?_) _
  rw [hnil, List.length_nil, resetLength, maxResetLength, tokenLength] at hb
  omega

/-- With a source that works there is an answer, and it is a packet if the
datagram is long enough. -/
theorem exists_statelessReset (g : CidGenerator) (cid : ConnectionId) (trigger : Nat) {entropy : η}
    (hworks : EntropySource.Works entropy) :
    ∃ answer, (g.statelessReset cid trigger entropy).1 = .ok answer ∧
      (answer.isSome = true ↔ 22 ≤ trigger) := by
  rw [statelessReset_spec]
  by_cases hshort : trigger < 22
  · exact ⟨none, if_pos hshort, by simpa using hshort⟩
  · obtain ⟨b, hb⟩ := hworks (resetLength trigger - tokenLength)
    rw [if_neg hshort, hb]
    exact ⟨_, rfl, by simpa using hshort⟩

end

/-! ## Answering answers

An answer is shorter than what it answers, and there is a length below which nothing is
answered. So two endpoints cannot go on for ever. -/

/-- Resets that answer each other: the first is an answer to a datagram of
`trigger` bytes, and each of the others is an answer to the one before. Every
answer has its own generator, identifier and source of entropy. -/
inductive Exchange : (trigger : Nat) → List Bytes → Prop
  /-- nobody answers -/
  | silence (trigger : Nat) : Exchange trigger []
  /-- somebody answers, and the answer may be answered -/
  | answer {η : Type} [EntropySource η] {g : CidGenerator} {cid : ConnectionId} {trigger : Nat}
      {entropy : η} {packet : Bytes} {packets : List Bytes}
      (hpacket : (g.statelessReset cid trigger entropy).1 = .ok (some packet))
      (hrest : Exchange packet.length packets) : Exchange trigger (packet :: packets)

/-- The resets of endpoints are such answers. -/
theorem Exchange.of_answerUnknown {φ η ε ω : Type} [EntropySource η] {e : Endpoint φ η ε ω}
    {cid : ConnectionId} {trigger : Nat} {packet : Bytes} {packets : List Bytes}
    (hpacket : (e.answerUnknown cid trigger).1 = .statelessReset packet)
    (hrest : Exchange packet.length packets) : Exchange trigger (packet :: packets) := by
  rw [Endpoint.answerUnknown] at hpacket
  split at hpacket
  · cases hpacket
  · rcases hr : (e.generator.statelessReset cid trigger e.entropy).1 with _ | _ | answer <;>
      simp only [hr] at hpacket <;> cases hpacket
    exact .answer hr hrest

/-- Every answer costs a byte. -/
theorem Exchange.length_le {trigger : Nat} {packets : List Bytes}
    (h : Exchange trigger packets) : packets.length ≤ min (trigger - 1) 43 - 20 := by
  induction h with
  | silence trigger => exact Nat.zero_le _
  | answer hpacket hrest ih =>
    have hlong := (of_statelessReset hpacket).1
    rw [length_of_statelessReset hpacket] at ih
    rw [List.length_cons]
    omega

/-- **A reset ends what it answers.** With any key, identifier and working
source of entropy, a datagram is answered by a packet if it has 22 bytes or
more. The packet is a byte shorter than the datagram, and 43 bytes long at most;
it looks like a short packet; and its last 16 bytes are the only string that is
accepted as the token of the identifier. Resets that answer each other come to
an end. -/
theorem reset_ends_what_it_answers {η : Type} [EntropySource η] (g : CidGenerator)
    (cid : ConnectionId) (trigger : Nat) (entropy : η) (hworks : EntropySource.Works entropy) :
    (∃ answer, (g.statelessReset cid trigger entropy).1 = .ok answer ∧
      (answer.isSome = true ↔ 22 ≤ trigger) ∧
      ∀ packet, answer = some packet →
        packet.length = min (trigger - 1) 43 ∧ packet.length < trigger ∧ IsShort packet ∧
        (packet.drop (packet.length - 16)).length = 16 ∧
        ∀ token, g.verifyToken cid token = true ↔ token = packet.drop (packet.length - 16)) ∧
    ∀ packets, Exchange trigger packets → packets.length ≤ min (trigger - 1) 43 - 20 := by
  obtain ⟨answer, hanswer, hiff⟩ := exists_statelessReset g cid trigger hworks
  refine ⟨⟨answer, hanswer, hiff, ?_⟩, fun packets h => h.length_le⟩
  rintro packet rfl
  have hlong := (of_statelessReset hanswer).1
  have hlength := length_of_statelessReset hanswer
  refine ⟨hlength, by omega, isShort_of_statelessReset hanswer, ?_, fun token => ?_⟩
  · rw [drop_of_statelessReset hanswer, length_resetToken, tokenLength]
  · rw [drop_of_statelessReset hanswer, verifyToken_eq_true_iff]

/-- A source of entropy that has only bytes with all bits set. -/
@[reducible] def fullEntropy : EntropySource Unit where
  draw _ n := (.ok ⟨List.replicate n 0xff, List.length_replicate⟩, ())

/-- A datagram of 30 bytes is answered by a packet of 29, which has the header
bits of a short packet although all the bits drawn for it are set. At most nine
resets follow from the datagram. -/
theorem reset_ends_what_it_answers_of_thirty :
    letI := fullEntropy
    let g : CidGenerator := ⟨8, defaultKey, by decide, by decide⟩
    let cid : ConnectionId := ⟨List.replicate 8 3, by decide⟩
    EntropySource.Works () ∧
    (∃ packet, (g.statelessReset cid 30 ()).1 = .ok (some packet) ∧ packet.length = 29 ∧
      packet.length < 30 ∧ IsShort packet ∧ (packet.drop (packet.length - 16)).length = 16 ∧
      ∀ token, g.verifyToken cid token = true ↔ token = packet.drop (packet.length - 16)) ∧
    ∀ packets, Exchange 30 packets → packets.length ≤ 9 := by
  let _ := fullEntropy
  intro g cid
  have hworks : EntropySource.Works () :=
    fun n => ⟨⟨List.replicate n 0xff, List.length_replicate⟩, rfl⟩
  obtain ⟨⟨answer, hanswer, hiff, hpacket⟩, hpackets⟩ :=
    reset_ends_what_it_answers g cid 30 () hworks
  obtain ⟨packet, rfl⟩ := Option.isSome_iff_exists.1 (hiff.2 (by decide))
  exact ⟨hworks, ⟨packet, hanswer, hpacket packet rfl⟩, hpackets⟩

end CidGenerator

end QuicHost
