import Mathlib.Algebra.GroupWithZero.Nat
import QuicHost.Engine.Frame
import QuicHost.Proofs.Stream.View

/-!
# Reading back what was written

A frame that is written reads back as itself, whatever follows it, except that
numbers lose what does not fit the eight bytes they have on the wire. A datagram
that consists of frames therefore reads back as these frames
(`decodeAll_flatMap_encode`), and nothing of it is left over
(`whole_flatMap_encode`).
-/

namespace QuicHost

/-- Of a number, the bytes it is written in keep what fits. -/
theorem Bytes.ofBigEndian_bigEndian_mod (width n : Nat) :
    Bytes.ofBigEndian (Bytes.bigEndian width n) = n % 256 ^ width := by
  induction width generalizing n with
  | zero => rw [Nat.pow_zero, Nat.mod_one]; rfl
  | succ width ih =>
    have hbyte : (UInt8.ofNat n).toNat = n % 256 := by simp
    rw [bigEndian, ofBigEndian_append_singleton, ih, hbyte, Nat.pow_succ', Nat.mod_mul]
    omega

/-- What does not fit is not written. -/
theorem Bytes.bigEndian_mod (width n : Nat) :
    Bytes.bigEndian width (n % 256 ^ width) = Bytes.bigEndian width n := by
  induction width generalizing n with
  | zero => rfl
  | succ width ih =>
    have hbyte : UInt8.ofNat (n % 256 ^ (width + 1)) = UInt8.ofNat n := by
      rw [← UInt8.toNat_inj]
      simp [Nat.pow_succ']
    rw [bigEndian, bigEndian, hbyte, Nat.pow_succ', Nat.mod_mul_right_div_self, ih]

namespace Frame

/-- Whether the data or the reason is as short as a frame can hold. -/
def Short : Frame → Prop
  | stream _ data _ => data.length ≤ maxPayload
  | connectionClose _ reason => reason.length ≤ maxPayload
  | _ => True

instance : DecidablePred Short
  | stream _ data _ => inferInstanceAs (Decidable (data.length ≤ maxPayload))
  | connectionClose _ reason => inferInstanceAs (Decidable (reason.length ≤ maxPayload))
  | resetStream _ _ => instDecidableTrue
  | stopSending _ _ => instDecidableTrue

/-- What eight bytes keep of a number. -/
def word (n : Nat) : Nat := n % 256 ^ 8

/-- The frame as it reads back. -/
def wire : Frame → Frame
  | stream id data fin => stream ⟨word id.value⟩ data fin
  | resetStream id errorCode => resetStream ⟨word id.value⟩ (word errorCode)
  | stopSending id errorCode => stopSending ⟨word id.value⟩ (word errorCode)
  | connectionClose errorCode reason => connectionClose (word errorCode) reason

/-- An identifier that fits is not changed by being cut to a word. -/
theorem word_of_fits {id : StreamId} (h : id.Fits) : (⟨word id.value⟩ : StreamId) = id := by
  have hfits : id.value ≤ maxWord := h
  rw [word, Nat.mod_eq_of_lt]
  simp only [maxWord] at hfits
  omega

/-! ## One frame

Each kind of frame is read back, whatever comes behind it. Numbers keep what eight bytes
can hold. -/

/-- A number is read back as it was written, up to what its width can say. -/
theorem splitNumber?_append (width n : Nat) (rest : Bytes) :
    splitNumber? width (Bytes.bigEndian width n ++ rest) = some (n % 256 ^ width, rest) := by
  have hsplit : Bytes.split? width (Bytes.bigEndian width n ++ rest) =
      some (Bytes.bigEndian width n, rest) :=
    Bytes.split?_eq_some_iff.2 ⟨rfl, Bytes.length_bigEndian width n⟩
  simp only [splitNumber?, hsplit, Option.map_some, Bytes.ofBigEndian_bigEndian_mod]

/-- Bytes with their length in front are read back. -/
theorem splitLengthPrefixed?_append {b : Bytes} (h : b.length ≤ maxPayload) (rest : Bytes) :
    splitLengthPrefixed? (lengthPrefixed b ++ rest) = some (b, rest) := by
  have hlength : b.length % 256 ^ 2 = b.length := by
    rw [Nat.mod_eq_of_lt]
    simp only [maxPayload] at h
    omega
  rw [splitLengthPrefixed?, lengthPrefixed, List.append_assoc, splitNumber?_append, hlength]
  exact Bytes.split?_append b rest

/-- A frame reads back, and what follows it is left over. -/
theorem split?_encode_append {f : Frame} (h : f.Short) (rest : Bytes) :
    split? (f.encode ++ rest) = some (f.wire, rest) := by
  cases f with
  | stream id data fin =>
    have hbody : (stream id data fin).encode ++ rest =
        (if fin then 0x09 else 0x08) ::
          (Bytes.bigEndian 8 id.value ++ (lengthPrefixed data ++ rest)) := by
      simp only [encode, List.cons_append, List.append_assoc]
    rw [hbody, split?, splitBody?, splitNumber?_append]
    cases fin <;> simp [splitLengthPrefixed?_append h, wire, word]
  | resetStream id errorCode =>
    have hbody : (resetStream id errorCode).encode ++ rest =
        0x04 :: (Bytes.bigEndian 8 id.value ++ (Bytes.bigEndian 8 errorCode ++ rest)) := by
      simp only [encode, List.cons_append, List.append_assoc]
    rw [hbody, split?, splitBody?, splitNumber?_append]
    simp [splitNumber?_append, wire, word]
  | stopSending id errorCode =>
    have hbody : (stopSending id errorCode).encode ++ rest =
        0x05 :: (Bytes.bigEndian 8 id.value ++ (Bytes.bigEndian 8 errorCode ++ rest)) := by
      simp only [encode, List.cons_append, List.append_assoc]
    rw [hbody, split?, splitBody?, splitNumber?_append]
    simp [splitNumber?_append, wire, word]
  | connectionClose errorCode reason =>
    have hbody : (connectionClose errorCode reason).encode ++ rest =
        0x1c :: (Bytes.bigEndian 8 errorCode ++ (lengthPrefixed reason ++ rest)) := by
      simp only [encode, List.cons_append, List.append_assoc]
    rw [hbody, split?, splitBody?, splitNumber?_append]
    simp [splitLengthPrefixed?_append h, wire, word]

/-! ## Datagrams

Frames that follow one another are read back in order. -/

theorem decodeAll_nil : decodeAll [] = [] := by
  rw [decodeAll, split?]

theorem decodeAll_encode_append {f : Frame} (h : f.Short) (rest : Bytes) :
    decodeAll (f.encode ++ rest) = f.wire :: decodeAll rest := by
  rw [decodeAll, split?_encode_append h]

theorem decodeAll_encode {f : Frame} (h : f.Short) : decodeAll f.encode = [f.wire] := by
  have hread := decodeAll_encode_append h []
  rwa [List.append_nil, decodeAll_nil] at hread

/-- A datagram of frames reads back as its frames. -/
theorem decodeAll_flatMap_encode {fs : List Frame} (h : ∀ f ∈ fs, f.Short) :
    decodeAll (fs.flatMap encode) = fs.map wire := by
  induction fs with
  | nil => exact decodeAll_nil
  | cons f rest ih =>
    rw [List.forall_mem_cons] at h
    rw [List.flatMap_cons, decodeAll_encode_append h.1, ih h.2, List.map_cons]

/-! ## Nothing is left over

A datagram that consists of frames is read to its end. -/

/-- A frame as it reads back is written as the frame was. -/
theorem encode_wire (f : Frame) : f.wire.encode = f.encode := by
  cases f <;> simp only [wire, encode, word, Bytes.bigEndian_mod]

/-- Whether a datagram consists of the frames that it reads back as, and of
nothing else. -/
def Whole (d : Bytes) : Prop := (decodeAll d).flatMap encode = d

theorem whole_flatMap_encode {fs : List Frame} (h : ∀ f ∈ fs, f.Short) :
    Whole (fs.flatMap encode) := by
  rw [Whole, decodeAll_flatMap_encode h, List.flatMap_map]
  exact congrArg (fs.flatMap ·) (funext encode_wire)

theorem whole_encode {f : Frame} (h : f.Short) : Whole f.encode := by
  rw [Whole, decodeAll_encode h, List.flatMap_singleton, encode_wire]

end Frame

end QuicHost
