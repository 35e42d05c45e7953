import QuicHost.Bytes

/-!
# SipHash-1-3

A keyed hash of byte strings with 64 bits of output. The state is four words;
each word of input is mixed in with one round, and three rounds finish. The last
word of input holds the bytes that are left over and, in its highest byte, the
number of all bytes.
-/

namespace QuicHost.SipHash

/-- A key of 128 bits. -/
structure Key where
  /-- the first half -/
  first : UInt64
  /-- the second half -/
  second : UInt64
deriving DecidableEq, Repr

/-- The state between two rounds. -/
structure State where
  /-- first word -/
  v0 : UInt64
  /-- second word -/
  v1 : UInt64
  /-- third word -/
  v2 : UInt64
  /-- fourth word -/
  v3 : UInt64
deriving DecidableEq, Repr

/-- Rotates a word to the left; by 1 to 63 bits. -/
def rotate (w bits : UInt64) : UInt64 := (w <<< bits) ||| (w >>> (64 - bits))

/-- The state before any input. -/
def State.ofKey (k : Key) : State where
  v0 := k.first ^^^ 0x736f6d6570736575
  v1 := k.second ^^^ 0x646f72616e646f6d
  v2 := k.first ^^^ 0x6c7967656e657261
  v3 := k.second ^^^ 0x7465646279746573

/-- One round. -/
def State.round (s : State) : State :=
  let v0 := s.v0 + s.v1
  let v1 := rotate s.v1 13 ^^^ v0
  let v2 := s.v2 + s.v3
  let v3 := rotate s.v3 16 ^^^ v2
  let u0 := rotate v0 32 + v3
  let u2 := v2 + v1
  { v0 := u0
    v1 := rotate v1 17 ^^^ u2
    v2 := rotate u2 32
    v3 := rotate v3 21 ^^^ u0 }

/-- Mixes in one word of input. -/
def State.mix (s : State) (m : UInt64) : State :=
  let s := { s with v3 := s.v3 ^^^ m }.round
  { s with v0 := s.v0 ^^^ m }

/-- The word that bytes stand for, least significant first. -/
def littleEndian : Bytes → UInt64
  | [] => 0
  | b :: rest => b.toUInt64 ||| (littleEndian rest <<< 8)

/-- Mixes in all input, eight bytes at a time; `total` is the number of bytes
altogether. -/
def State.absorb (total : Nat) (s : State) : Bytes → State
  | b0 :: b1 :: b2 :: b3 :: b4 :: b5 :: b6 :: b7 :: rest =>
    (s.mix (littleEndian [b0, b1, b2, b3, b4, b5, b6, b7])).absorb total rest
  | rest => s.mix (littleEndian rest ||| (UInt64.ofNat total <<< 56))

/-- The output of a state. -/
def State.finish (s : State) : UInt64 :=
  let s := { s with v2 := s.v2 ^^^ 0xff }.round.round.round
  s.v0 ^^^ s.v1 ^^^ s.v2 ^^^ s.v3

/-- The hash of a byte string. -/
def hash (k : Key) (data : Bytes) : UInt64 :=
  ((State.ofKey k).absorb data.length data).finish

end QuicHost.SipHash
