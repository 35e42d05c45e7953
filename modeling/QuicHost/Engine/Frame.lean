import QuicHost.Bytes
import QuicHost.StreamId

/-!
# Frames

The wire format of the scripted engine. A datagram is a sequence of frames, each
of them a type byte and a body of big-endian numbers:

* `08`, or `09` at the end of the stream: stream, length of two bytes, data;
* `04` and `05`: stream, error code;
* `1c`: error code, length of two bytes, reason.

Stream identifiers and error codes take eight bytes. `Frame.encode` writes a
frame and `Frame.decodeAll` reads as many complete frames as a datagram begins
with.
-/

namespace QuicHost

/-- What one side tells the other. -/
inductive Frame where
  /-- data of a stream, and its end if `fin` -/
  | stream (id : StreamId) (data : Bytes) (fin : Bool)
  /-- the sender abandons its half of a stream -/
  | resetStream (id : StreamId) (errorCode : Nat)
  /-- the sender wants no more of a stream -/
  | stopSending (id : StreamId) (errorCode : Nat)
  /-- the sender closes the connection -/
  | connectionClose (errorCode : Nat) (reason : Bytes)
deriving DecidableEq, Repr

namespace Frame

/-- The longest data or reason a frame can hold. -/
def maxPayload : Nat := 65535

/-- The bytes of a stream frame before its data. -/
def streamHeaderLength : Nat := 11

/-- A byte string after its length. -/
def lengthPrefixed (b : Bytes) : Bytes := Bytes.bigEndian 2 b.length ++ b

/-- The bytes of a frame. -/
def encode : Frame → Bytes
  | stream id data fin =>
    (if fin then 0x09 else 0x08) :: Bytes.bigEndian 8 id.value ++ lengthPrefixed data
  | resetStream id errorCode => 0x04 :: Bytes.bigEndian 8 id.value ++ Bytes.bigEndian 8 errorCode
  | stopSending id errorCode => 0x05 :: Bytes.bigEndian 8 id.value ++ Bytes.bigEndian 8 errorCode
  | connectionClose errorCode reason => 0x1c :: Bytes.bigEndian 8 errorCode ++ lengthPrefixed reason

/-! ## Reading -/

/-- Splits off a number of `width` bytes. -/
def splitNumber? (width : Nat) (b : Bytes) : Option (Nat × Bytes) :=
  (Bytes.split? width b).map fun (number, rest) => (Bytes.ofBigEndian number, rest)

/-- Splits off a byte string that stands after its length. -/
def splitLengthPrefixed? (b : Bytes) : Option (Bytes × Bytes) := do
  let (n, b) ← splitNumber? 2 b
  Bytes.split? n b

/-- Splits off the body of a frame whose type byte has been read. -/
def splitBody? (type : UInt8) (b : Bytes) : Option (Frame × Bytes) :=
  if type = 0x08 ∨ type = 0x09 then do
    let (id, b) ← splitNumber? 8 b
    let (data, rest) ← splitLengthPrefixed? b
    return (stream ⟨id⟩ data (type = 0x09), rest)
  else if type = 0x04 ∨ type = 0x05 then do
    let (id, b) ← splitNumber? 8 b
    let (errorCode, rest) ← splitNumber? 8 b
    return (if type = 0x04 then resetStream ⟨id⟩ errorCode else stopSending ⟨id⟩ errorCode, rest)
  else if type = 0x1c then do
    let (errorCode, b) ← splitNumber? 8 b
    let (reason, rest) ← splitLengthPrefixed? b
    return (connectionClose errorCode reason, rest)
  else none

/-- Splits off the first frame, if it is complete and of a known type. -/
def split? : Bytes → Option (Frame × Bytes)
  | [] => none
  | type :: body => splitBody? type body

theorem length_le_of_splitNumber? {width : Nat} {b rest : Bytes} {n : Nat}
    (h : splitNumber? width b = some (n, rest)) : rest.length ≤ b.length := by
  simp only [splitNumber?, Option.map_eq_some_iff, Prod.mk.injEq, Prod.exists] at h
  obtain ⟨number, _, hs, -, rfl⟩ := h
  obtain ⟨rfl, -⟩ := Bytes.split?_eq_some_iff.1 hs
  simp

theorem length_le_of_splitLengthPrefixed? {b rest data : Bytes}
    (h : splitLengthPrefixed? b = some (data, rest)) : rest.length ≤ b.length := by
  simp only [splitLengthPrefixed?, Option.bind_eq_bind, Option.bind_eq_some_iff, Prod.exists] at h
  obtain ⟨n, mid, hn, hs⟩ := h
  have := length_le_of_splitNumber? hn
  obtain ⟨rfl, -⟩ := Bytes.split?_eq_some_iff.1 hs
  simp at this
  omega

theorem length_le_of_splitBody? {type : UInt8} {b rest : Bytes} {f : Frame}
    (h : splitBody? type b = some (f, rest)) : rest.length ≤ b.length := by
  unfold splitBody? at h
  split at h
  · simp only [Option.bind_eq_bind, Option.bind_eq_some_iff, Prod.exists, Option.pure_def,
      Option.some.injEq, Prod.mk.injEq] at h
    obtain ⟨_, mid, h1, _, _, h2, -, rfl⟩ := h
    exact Nat.le_trans (length_le_of_splitLengthPrefixed? h2) (length_le_of_splitNumber? h1)
  · split at h
    · simp only [Option.bind_eq_bind, Option.bind_eq_some_iff, Prod.exists, Option.pure_def,
        Option.some.injEq, Prod.mk.injEq] at h
      obtain ⟨_, mid, h1, _, _, h2, -, rfl⟩ := h
      exact Nat.le_trans (length_le_of_splitNumber? h2) (length_le_of_splitNumber? h1)
    · split at h
      · simp only [Option.bind_eq_bind, Option.bind_eq_some_iff, Prod.exists, Option.pure_def,
          Option.some.injEq, Prod.mk.injEq] at h
        obtain ⟨_, mid, h1, _, _, h2, -, rfl⟩ := h
        exact Nat.le_trans (length_le_of_splitLengthPrefixed? h2) (length_le_of_splitNumber? h1)
      · simp at h

/-- A frame is never empty. -/
theorem length_lt_of_split? {b rest : Bytes} {f : Frame} (h : split? b = some (f, rest)) :
    rest.length < b.length := by
  cases b with
  | nil => simp [split?] at h
  | cons type body => exact Nat.lt_succ_of_le (length_le_of_splitBody? h)

/-- The complete frames of known types that a datagram begins with. -/
def decodeAll (b : Bytes) : List Frame :=
  match _h : split? b with
  | none => []
  | some (f, rest) => f :: decodeAll rest
termination_by b.length
decreasing_by exact length_lt_of_split? ‹_›

end Frame

end QuicHost
