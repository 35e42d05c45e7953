import QuicHost.Word

/-!
# Sides, directions and stream identifiers

A stream identifier is a number whose two low bits name the stream's class: bit
0 says which side opened it, bit 1 whether it carries data one way or both ways.
The remaining bits count the streams of that class. `StreamId.ofParts` puts the
three parts together and the projections take them apart again.
-/

namespace QuicHost

/-- An end of a connection. -/
inductive Side where
  /-- the end that opened the connection -/
  | client
  /-- the end that accepted it -/
  | server
deriving DecidableEq, Repr

namespace Side

/-- The other end. -/
def opposite : Side → Side
  | client => server
  | server => client

/-- The bit that stands for the side in a stream identifier. -/
def bit : Side → Nat
  | client => 0
  | server => 1

@[simp] theorem opposite_opposite (s : Side) : s.opposite.opposite = s := by cases s <;> rfl

@[simp] theorem opposite_ne (s : Side) : s.opposite ≠ s := by cases s <;> decide

end Side

/-- Which ends of a stream may send. -/
inductive Direction where
  /-- both ends send -/
  | bidi
  /-- only the end that opened the stream sends -/
  | uni
deriving DecidableEq, Repr

/-- The bit that stands for the direction in a stream identifier. -/
def Direction.bit : Direction → Nat
  | bidi => 0
  | uni => 1

/-- The identifier of a stream within one connection. -/
structure StreamId where
  /-- the number sent on the wire -/
  value : Nat
deriving DecidableEq, Repr

namespace StreamId

/-- The largest identifier a stream can have. -/
def maxValue : Nat := 0x3fffffffffffffff

/-- The identifier of the `index`-th stream of a class. The index occupies 62
bits of a word; higher bits of it are lost. -/
def ofParts (initiator : Side) (direction : Direction) (index : Nat) : StreamId :=
  ⟨index * 4 % 0x10000000000000000 + direction.bit * 2 + initiator.bit⟩

/-- The side that opened the stream. -/
def initiator (id : StreamId) : Side :=
  if id.value % 2 = 0 then .client else .server

/-- Whether the stream carries data both ways. -/
def direction (id : StreamId) : Direction :=
  if id.value / 2 % 2 = 0 then .bidi else .uni

/-- The position of the stream within its class. -/
def index (id : StreamId) : Nat := id.value / 4

/-- Whether `side` opened the stream. -/
def IsLocal (id : StreamId) (side : Side) : Prop := id.initiator = side

instance (id : StreamId) (side : Side) : Decidable (id.IsLocal side) :=
  inferInstanceAs (Decidable (id.initiator = side))

instance : ToString StreamId where
  toString id := toString id.value

/-! ## Parts of a composed identifier -/

@[simp] theorem initiator_ofParts (s : Side) (d : Direction) (n : Nat) :
    (ofParts s d n).initiator = s := by
  have : (n * 4 % 0x10000000000000000 + d.bit * 2 + s.bit) % 2 = s.bit % 2 := by omega
  simp only [initiator, ofParts, this]
  cases s <;> rfl

@[simp] theorem direction_ofParts (s : Side) (d : Direction) (n : Nat) :
    (ofParts s d n).direction = d := by
  have : (n * 4 % 0x10000000000000000 + d.bit * 2 + s.bit) / 2 % 2 = d.bit := by
    cases s <;> cases d <;> simp only [Side.bit, Direction.bit] <;> omega
  simp only [direction, ofParts, this]
  cases d <;> rfl

theorem index_ofParts {n : Nat} (h : n < 0x4000000000000000) (s : Side) (d : Direction) :
    (ofParts s d n).index = n := by
  simp only [index, ofParts]
  cases s <;> cases d <;> simp only [Side.bit, Direction.bit] <;> omega

/-- An identifier is made of its parts, as long as it fits a word. -/
theorem ofParts_parts {id : StreamId} (h : id.value ≤ maxWord) :
    ofParts id.initiator id.direction id.index = id := by
  obtain ⟨v⟩ := id
  simp only [ofParts, initiator, direction, index, StreamId.mk.injEq]
  have h4 : v / 4 * 4 % 0x10000000000000000 = v / 4 * 4 :=
    Nat.mod_eq_of_lt (by simp only [maxWord] at h; omega)
  rw [h4]
  split <;> split <;> simp only [Side.bit, Direction.bit] <;> omega

end StreamId

end QuicHost
