import Mathlib.Data.List.Induction
import QuicHost.Proofs.Engine.Codec

/-!
# Whatever a datagram holds

A datagram may hold anything. Reading it finds the complete frames that it begins with,
all of them and nothing else: `decodeAll_eq_iff` says when a list of frames is what is
read from a datagram, in terms of how frames are written alone.

The host reads from a buffer that does not forgive: whoever takes more bytes than are
left fails (`Fault`). It looks how many bytes are left before it takes any, once for all
numbers of a frame and once more for the data behind them. Reading in this manner never
fails, and finds the same frames (`readAll_eq`).
-/

namespace QuicHost

/-! ## Numbers

A number is read from as many bytes as its width says, and everything that these bytes can
say is read back the same. -/

/-- How large a number is that some bytes can say. -/
theorem Bytes.ofBigEndian_lt (b : Bytes) : ofBigEndian b < 256 ^ b.length := by
  induction b using List.reverseRecOn with
  | nil => exact Nat.one_pos
  | append_singleton b byte ih =>
    have hbyte : byte.toNat < 256 := byte.toNat_lt
    rw [ofBigEndian_append_singleton, List.length_append, List.length_singleton, Nat.pow_succ]
    omega

/-- A number that was read is written as the bytes it was read from. -/
theorem Bytes.bigEndian_ofBigEndian (b : Bytes) : bigEndian b.length (ofBigEndian b) = b := by
  induction b using List.reverseRecOn with
  | nil => rfl
  | append_singleton b byte ih =>
    have hbyte : byte.toNat < 256 := byte.toNat_lt
    have hquotient : (ofBigEndian b * 256 + byte.toNat) / 256 = ofBigEndian b := by omega
    have hlast : UInt8.ofNat (ofBigEndian b * 256 + byte.toNat) = byte := by
      rw [← UInt8.toNat_inj, UInt8.toNat_ofNat']
      omega
    rw [ofBigEndian_append_singleton, List.length_append, List.length_singleton, bigEndian,
      hquotient, hlast, ih]

namespace Frame

/-- Whether a frame can stand on the wire as it is: its numbers fit eight bytes, and the
length of its data or reason fits two. -/
def Fits : Frame → Prop
  | stream id data _ => id.Fits ∧ data.length ≤ maxPayload
  | resetStream id errorCode => id.Fits ∧ errorCode ≤ maxWord
  | stopSending id errorCode => id.Fits ∧ errorCode ≤ maxWord
  | connectionClose errorCode reason => errorCode ≤ maxWord ∧ reason.length ≤ maxPayload

instance : DecidablePred Fits := fun f => by
  cases f <;> unfold Fits <;> infer_instance

section

variable {b rest : Bytes} {n width : Nat} {f : Frame}

theorem Fits.short (h : f.Fits) : f.Short := by
  cases f with
  | stream id data fin => exact h.2
  | connectionClose errorCode reason => exact h.2
  | _ => exact trivial

theorem word_eq (h : n ≤ maxWord) : word n = n := by
  rw [word, Nat.mod_eq_of_lt]
  rw [maxWord] at h
  omega

/-- A frame that fits is read as it was written. -/
theorem Fits.wire_eq (h : f.Fits) : f.wire = f := by
  cases f with
  | stream id data fin => rw [wire, word_of_fits h.1]
  | resetStream id errorCode => rw [wire, word_of_fits h.1, word_eq h.2]
  | stopSending id errorCode => rw [wire, word_of_fits h.1, word_eq h.2]
  | connectionClose errorCode reason => rw [wire, word_eq h.1]

/-! ## One frame

A frame is read exactly where its bytes begin the datagram. So what is read is determined
by how frames are written. -/

/-- A number is read just where its bytes are. -/
theorem splitNumber?_eq_some_iff : splitNumber? width b = some (n, rest) ↔
    n < 256 ^ width ∧ b = Bytes.bigEndian width n ++ rest := by
  constructor
  · intro h
    rw [splitNumber?, Option.map_eq_some_iff] at h
    obtain ⟨⟨number, rest'⟩, hsplit, heq⟩ := h
    obtain ⟨rfl, rfl⟩ := Prod.mk.inj heq
    obtain ⟨rfl, rfl⟩ := Bytes.split?_eq_some_iff.1 hsplit
    exact ⟨Bytes.ofBigEndian_lt number, by rw [Bytes.bigEndian_ofBigEndian]⟩
  · rintro ⟨hn, rfl⟩
    rw [splitNumber?_append, Nat.mod_eq_of_lt hn]

/-- Bytes with their length in front are read just where they are all there. -/
theorem splitLengthPrefixed?_eq_some_iff {data : Bytes} :
    splitLengthPrefixed? b = some (data, rest) ↔
      data.length ≤ maxPayload ∧ b = lengthPrefixed data ++ rest := by
  constructor
  · intro h
    simp only [splitLengthPrefixed?, Option.bind_eq_bind, Option.bind_eq_some_iff,
      Prod.exists] at h
    obtain ⟨n, mid, hnumber, hsplit⟩ := h
    obtain ⟨hn, rfl⟩ := splitNumber?_eq_some_iff.1 hnumber
    obtain ⟨rfl, rfl⟩ := Bytes.split?_eq_some_iff.1 hsplit
    rw [lengthPrefixed, List.append_assoc, maxPayload]
    exact ⟨by omega, rfl⟩
  · rintro ⟨hlength, rfl⟩
    exact splitLengthPrefixed?_append hlength rest

theorem le_maxWord_iff : n ≤ maxWord ↔ n < 256 ^ 8 := by
  rw [maxWord]
  omega

/-- What is split off is a frame that fits, as it is written. -/
theorem split?_eq_some_iff : split? b = some (f, rest) ↔ f.Fits ∧ b = f.encode ++ rest := by
  constructor
  -- by the type byte, each branch read back into the fields it took; the other direction is
  -- the codec's
  · intro h
    cases b with
    | nil => cases h
    | cons type body =>
      rw [split?, splitBody?] at h
      split at h
      · next htype =>
        simp only [Option.bind_eq_bind, Option.bind_eq_some_iff, Prod.exists, Option.pure_def,
          Option.some.injEq, Prod.mk.injEq] at h
        obtain ⟨id, mid, hid, data, rest', hdata, rfl, rfl⟩ := h
        obtain ⟨hfits, rfl⟩ := splitNumber?_eq_some_iff.1 hid
        obtain ⟨hlength, rfl⟩ := splitLengthPrefixed?_eq_some_iff.1 hdata
        refine ⟨⟨le_maxWord_iff.2 hfits, hlength⟩, ?_⟩
        rcases htype with rfl | rfl <;> simp [encode]
      split at h
      · next htype =>
        simp only [Option.bind_eq_bind, Option.bind_eq_some_iff, Prod.exists, Option.pure_def,
          Option.some.injEq, Prod.mk.injEq] at h
        obtain ⟨id, mid, hid, errorCode, rest', hcode, rfl, rfl⟩ := h
        obtain ⟨hfits, rfl⟩ := splitNumber?_eq_some_iff.1 hid
        obtain ⟨hfits', rfl⟩ := splitNumber?_eq_some_iff.1 hcode
        have hwords : id ≤ maxWord ∧ errorCode ≤ maxWord :=
          ⟨le_maxWord_iff.2 hfits, le_maxWord_iff.2 hfits'⟩
        rcases htype with rfl | rfl
        · exact ⟨hwords, by simp [encode]⟩
        · exact ⟨hwords, by simp [encode]⟩
      split at h
      · next htype =>
        simp only [Option.bind_eq_bind, Option.bind_eq_some_iff, Prod.exists, Option.pure_def,
          Option.some.injEq, Prod.mk.injEq] at h
        obtain ⟨errorCode, mid, hcode, reason, rest', hreason, rfl, rfl⟩ := h
        obtain ⟨hfits, rfl⟩ := splitNumber?_eq_some_iff.1 hcode
        obtain ⟨hlength, rfl⟩ := splitLengthPrefixed?_eq_some_iff.1 hreason
        exact ⟨⟨le_maxWord_iff.2 hfits, hlength⟩, by simp [encode, htype]⟩
      · cases h
  · rintro ⟨hfits, rfl⟩
    rw [split?_encode_append hfits.short, hfits.wire_eq]

end

/-! ## A whole datagram

Frames are read until none begins. What is left over then is no frame. -/

/-- Whether a datagram begins with a complete frame. -/
def Begins (b : Bytes) : Prop := ∃ (f : Frame) (tail : Bytes), f.Fits ∧ b = f.encode ++ tail

/-- Nothing is read where no frame begins. -/
theorem split?_eq_none_iff {b : Bytes} : split? b = none ↔ ¬ Begins b := by
  constructor
  · rintro hnone ⟨f, tail, hfits, hb⟩
    rw [split?_eq_some_iff.2 ⟨hfits, hb⟩] at hnone
    cases hnone
  · intro hbegins
    cases hsplit : split? b with
    | none => rfl
    | some pair => exact absurd ⟨pair.1, pair.2, split?_eq_some_iff.1 hsplit⟩ hbegins

theorem decodeAll_of_split? {b rest : Bytes} {f : Frame} (h : split? b = some (f, rest)) :
    decodeAll b = f :: decodeAll rest := by
  rw [decodeAll, h]

theorem decodeAll_eq_nil {b : Bytes} (h : split? b = none) : decodeAll b = [] := by
  rw [decodeAll, h]

/-- Frames are what is read from a datagram if the datagram begins with them, and does
not go on with a complete frame. -/
theorem decodeAll_eq_iff {b : Bytes} {fs : List Frame} : decodeAll b = fs ↔
    (∀ f ∈ fs, f.Fits) ∧ ∃ rest, b = fs.flatMap encode ++ rest ∧ ¬ Begins rest := by
  induction b using decodeAll.induct generalizing fs with
  | case1 b hnone =>
    rw [decodeAll_eq_nil hnone]
    constructor
    · rintro rfl
      exact ⟨List.forall_mem_nil _, b, rfl, split?_eq_none_iff.1 hnone⟩
    · rintro ⟨hfits, rest, rfl, -⟩
      cases fs with
      | nil => rfl
      | cons f fs =>
        -- a frame stands at the front
        rw [List.forall_mem_cons] at hfits
        rw [List.flatMap_cons, List.append_assoc] at hnone
        exact absurd ⟨f, _, hfits.1, rfl⟩ (split?_eq_none_iff.1 hnone)
  | case2 b f rest hsome ih =>
    rw [decodeAll_of_split? hsome]
    obtain ⟨hf, rfl⟩ := split?_eq_some_iff.1 hsome
    constructor
    · rintro rfl
      obtain ⟨hfits, left, heq, hleft⟩ := ih.1 rfl
      refine ⟨List.forall_mem_cons.2 ⟨hf, hfits⟩, left, ?_, hleft⟩
      rw [List.flatMap_cons, List.append_assoc, ← heq]
    · rintro ⟨hfits, left, heq, hleft⟩
      cases fs with
      | nil => exact absurd ⟨f, rest, hf, heq.symm⟩ hleft
      | cons g fs =>
        -- what is split off is determined
        rw [List.forall_mem_cons] at hfits
        rw [List.flatMap_cons, List.append_assoc] at heq
        have hsplit := split?_eq_some_iff.2 ⟨hfits.1, heq⟩
        obtain ⟨rfl, rfl⟩ := Prod.mk.inj (Option.some.inj (hsome.symm.trans hsplit))
        rw [ih.2 ⟨hfits.2, left, rfl, hleft⟩]

/-! ## Reading from a buffer

Reading as the host does it, from a buffer that fails when too much is taken. The checks
before make sure that it never does. -/

/-- What it comes to when more bytes are taken than are left. -/
inductive Fault where
  /-- the buffer ends before -/
  | beyondEnd
deriving DecidableEq, Repr

/-- Takes bytes without looking whether they are there. -/
def takeBytes (n : Nat) (b : Bytes) : Except Fault (Bytes × Bytes) :=
  if n ≤ b.length then .ok (b.take n, b.drop n) else .error .beyondEnd

/-- Takes a number without looking whether it is there. -/
def takeNumber (width : Nat) (b : Bytes) : Except Fault (Nat × Bytes) := do
  let (number, rest) ← takeBytes width b
  return (Bytes.ofBigEndian number, rest)

/-- Takes a number of eight bytes, and the byte string behind it with its length. The
length says how many bytes have to be there once more. -/
def takePayload (b : Bytes) : Except Fault (Option (Nat × Bytes × Bytes)) :=
  if b.length < 10 then return none
  else do
    let (number, b) ← takeNumber 8 b
    let (n, b) ← takeNumber 2 b
    if b.length < n then return none
    else do
      let (payload, rest) ← takeBytes n b
      return some (number, payload, rest)

/-- Takes two numbers of eight bytes. -/
def takePair (b : Bytes) : Except Fault (Option (Nat × Nat × Bytes)) :=
  if b.length < 16 then return none
  else do
    let (first, b) ← takeNumber 8 b
    let (second, rest) ← takeNumber 8 b
    return some (first, second, rest)

/-- Takes the body of a frame whose type byte was taken, or stops there. -/
def takeBody (type : UInt8) (b : Bytes) : Except Fault (Option (Frame × Bytes)) :=
  if type = 0x08 ∨ type = 0x09 then do
    let taken ← takePayload b
    return taken.map fun (id, data, rest) => (stream ⟨id⟩ data (type = 0x09), rest)
  else if type = 0x04 ∨ type = 0x05 then do
    let taken ← takePair b
    return taken.map fun (id, errorCode, rest) =>
      (if type = 0x04 then resetStream ⟨id⟩ errorCode else stopSending ⟨id⟩ errorCode, rest)
  else if type = 0x1c then do
    let taken ← takePayload b
    return taken.map fun (errorCode, reason, rest) => (connectionClose errorCode reason, rest)
  else return none

section

variable {b : Bytes} {n width : Nat}

theorem takeBytes_eq (h : n ≤ b.length) : takeBytes n b = .ok (b.take n, b.drop n) := if_pos h

theorem takeNumber_eq (h : width ≤ b.length) :
    takeNumber width b = .ok (Bytes.ofBigEndian (b.take width), b.drop width) := by
  rw [takeNumber, takeBytes_eq h]
  rfl

theorem splitNumber?_eq (h : width ≤ b.length) :
    splitNumber? width b = some (Bytes.ofBigEndian (b.take width), b.drop width) := by
  rw [splitNumber?, Bytes.split?, if_pos h]
  rfl

/-- Whoever has too few bytes for two numbers finds no second one. -/
theorem splitNumber?_eq_none {width' : Nat} {first : Nat × Bytes}
    (hshort : b.length < width + width') (h : splitNumber? width b = some first) :
    splitNumber? width' first.2 = none := by
  obtain ⟨-, rfl⟩ := splitNumber?_eq_some_iff.1 h
  rw [List.length_append, Bytes.length_bigEndian] at hshort
  rw [splitNumber?, Bytes.split?, if_neg (by omega)]
  rfl

/-- The number and the byte string behind it are what is taken. -/
theorem takePayload_eq (b : Bytes) : takePayload b = .ok (do
    let (number, b) ← splitNumber? 8 b
    let (payload, rest) ← splitLengthPrefixed? b
    return (number, payload, rest)) := by
  rw [takePayload]
  split
  · next hshort =>
    refine congrArg Except.ok ?_
    cases hfirst : splitNumber? 8 b with
    | none => rfl
    | some first =>
      -- the length check covers both numbers, so the second one is what is missing here
      have hnone : splitNumber? 2 first.2 = none := splitNumber?_eq_none hshort hfirst
      simp only [splitLengthPrefixed?, Option.bind_eq_bind, Option.bind_some, hnone,
        Option.bind_none]
  · next hlong =>
    have hfirst : 8 ≤ b.length := by omega
    have hsecond : 2 ≤ (b.drop 8).length := by
      rw [List.length_drop]
      omega
    rw [takeNumber_eq hfirst, splitNumber?_eq hfirst]
    simp only [splitLengthPrefixed?, Option.bind_some, splitNumber?_eq hsecond, Bytes.split?, bind,
      Except.bind, takeNumber_eq hsecond]
    split
    · next hshort =>
      rw [if_neg (Nat.not_le.2 hshort)]
      rfl
    · next hlong =>
      rw [takeBytes_eq (Nat.not_lt.1 hlong), if_pos (Nat.not_lt.1 hlong)]
      rfl

/-- The two numbers are what is taken. -/
theorem takePair_eq (b : Bytes) : takePair b = .ok (do
    let (first, b) ← splitNumber? 8 b
    let (second, rest) ← splitNumber? 8 b
    return (first, second, rest)) := by
  rw [takePair]
  split
  · next hshort =>
    refine congrArg Except.ok ?_
    cases hfirst : splitNumber? 8 b with
    | none => rfl
    | some first =>
      have hnone : splitNumber? 8 first.2 = none := splitNumber?_eq_none hshort hfirst
      simp only [Option.bind_eq_bind, Option.bind_some, hnone, Option.bind_none]
  · next hlong =>
    have hfirst : 8 ≤ b.length := by omega
    have hsecond : 8 ≤ (b.drop 8).length := by
      rw [List.length_drop]
      omega
    rw [takeNumber_eq hfirst, splitNumber?_eq hfirst]
    simp only [Option.bind_some, splitNumber?_eq hsecond, bind, Except.bind, takeNumber_eq hsecond]
    rfl

/-- No byte of a frame is taken that is not there, and the frame is the one that is split
off. -/
theorem takeBody_eq (type : UInt8) (b : Bytes) : takeBody type b = .ok (splitBody? type b) := by
  rw [takeBody, splitBody?]
  split
  · rw [takePayload_eq]
    refine congrArg Except.ok ?_
    simp only [Option.bind_eq_bind, Option.map_bind, Function.comp_def, Option.pure_def,
      Option.map_some]
  split
  · rw [takePair_eq]
    refine congrArg Except.ok ?_
    simp only [Option.bind_eq_bind, Option.map_bind, Function.comp_def, Option.pure_def,
      Option.map_some]
  split
  · rw [takePayload_eq]
    refine congrArg Except.ok ?_
    simp only [Option.bind_eq_bind, Option.map_bind, Function.comp_def, Option.pure_def,
      Option.map_some]
  · rfl

/-- Something is taken with every frame, so that reading comes to an end. -/
theorem length_lt_of_takeBody {type : UInt8} {rest : Bytes} {f : Frame}
    (h : takeBody type b = .ok (some (f, rest))) : rest.length < b.length + 1 := by
  rw [takeBody_eq] at h
  exact Nat.lt_succ_of_le (length_le_of_splitBody? (Except.ok.inj h))

end

/-- Reads frames from a buffer until it is empty, or holds no further frame that is
complete and of a known type. -/
def readAll : (b : Bytes) → Except Fault (List Frame)
  | [] => .ok []
  | type :: body =>
    match _h : takeBody type body with
    | .error fault => .error fault
    | .ok none => .ok []
    | .ok (some (f, rest)) => (readAll rest).map (f :: ·)
termination_by b => b.length
decreasing_by exact length_lt_of_takeBody ‹_›

/-- Reading from a buffer never fails, and finds the frames that a datagram begins with. -/
theorem readAll_eq (b : Bytes) : readAll b = .ok (decodeAll b) := by
  induction b using readAll.induct with
  | case1 => rw [readAll, decodeAll_nil]
  | case2 type body fault hfault =>
    rw [takeBody_eq] at hfault
    cases hfault
  | case3 type body hnone =>
    have hsplit : split? (type :: body) = none :=
      Except.ok.inj ((takeBody_eq type body).symm.trans hnone)
    rw [readAll, hnone, decodeAll_eq_nil hsplit]
  | case4 type body f rest hsome ih =>
    have hsplit : split? (type :: body) = some (f, rest) :=
      Except.ok.inj ((takeBody_eq type body).symm.trans hsome)
    rw [readAll, hsome, decodeAll_of_split? hsplit]
    dsimp only
    rw [ih]
    rfl

/-! ## The result

Both ways of reading find the same frames on any bytes whatsoever. -/

/-- **Reading undoes writing, and finds no more than was written.** Frames that fit the
wire are read from a datagram that consists of them. From any datagram whatsoever,
reading takes no byte that is not there; what it finds are frames that fit, with which
the datagram begins as they are written; and what follows them does not begin with a
complete frame. -/
theorem reads_exactly_what_is_complete :
    (∀ fs : List Frame, (∀ f ∈ fs, f.Fits) → decodeAll (fs.flatMap encode) = fs) ∧
    ∀ b : Bytes, readAll b = .ok (decodeAll b) ∧ (∀ f ∈ decodeAll b, f.Fits) ∧
      ∃ rest, b = (decodeAll b).flatMap encode ++ rest ∧
        ∀ (f : Frame) (tail : Bytes), f.Fits → rest ≠ f.encode ++ tail := by
  constructor
  · intro fs hfits
    have hempty : ¬ Begins [] := split?_eq_none_iff.1 rfl
    exact decodeAll_eq_iff.2 ⟨hfits, [], (List.append_nil _).symm, hempty⟩
  · intro b
    obtain ⟨hfits, rest, heq, hrest⟩ := decodeAll_eq_iff.1 (Eq.refl (decodeAll b))
    exact ⟨readAll_eq b, hfits, rest, heq, fun f tail hf hbegins => hrest ⟨f, tail, hf, hbegins⟩⟩

/-- A closing is cut behind the first byte of its code. -/
theorem reads_exactly_what_is_complete_cut :
    decodeAll ([stream ⟨4⟩ [1, 2] true, connectionClose 7 []].flatMap encode) =
        [stream ⟨4⟩ [1, 2] true, connectionClose 7 []] ∧
      readAll ((stream ⟨4⟩ [1, 2] true).encode ++ [0x1c, 0]) = .ok [stream ⟨4⟩ [1, 2] true] := by
  obtain ⟨hwritten, hany⟩ := reads_exactly_what_is_complete
  refine ⟨hwritten _ (by decide), ?_⟩
  have hfirst : split? ((stream ⟨4⟩ [1, 2] true).encode ++ [0x1c, 0]) =
      some (stream ⟨4⟩ [1, 2] true, [0x1c, 0]) := by decide
  have hsecond : split? [0x1c, 0] = none := by decide
  rw [(hany _).1, decodeAll_of_split? hfirst, decodeAll_eq_nil hsecond]

end Frame

end QuicHost
