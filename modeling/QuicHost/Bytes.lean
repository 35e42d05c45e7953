/-!
# Byte strings

Payloads, identifiers and datagrams are lists of bytes: every cut, join and
comparison is then one of the list operations, with the laws the library already
has for them. This file adds the two written forms a byte string takes here,
hexadecimal text and big-endian numbers of a fixed width, and the cut that every
reader of datagrams makes.
-/

namespace QuicHost

/-- A byte string, first byte first. -/
abbrev Bytes := List UInt8

namespace Bytes

/-! ## Hexadecimal text -/

/-- The lower-case hexadecimal digit of a number below sixteen. -/
def hexDigit (n : Nat) : Char :=
  if n < 10 then Char.ofNat (48 + n) else Char.ofNat (87 + n)

/-- The two hexadecimal digits of a byte. -/
def hexPair (b : UInt8) : List Char :=
  [hexDigit (b.toNat / 16), hexDigit (b.toNat % 16)]

/-- The hexadecimal digits of a byte string, two for each byte, without
separators. -/
def toHex (b : Bytes) : String :=
  String.ofList (b.flatMap hexPair)

/-! ## Big-endian numbers

`bigEndian width n` writes the low `width` bytes of `n`, most significant first;
`ofBigEndian` reads any byte string back. Reading undoes writing whenever the
number fits the width. -/

/-- The number `n` in `width` bytes, most significant byte first; higher bytes
are dropped. -/
def bigEndian : (width : Nat) → (n : Nat) → Bytes
  | 0, _ => []
  | width + 1, n => bigEndian width (n / 256) ++ [UInt8.ofNat n]

/-- The number a byte string stands for, most significant byte first. -/
def ofBigEndian (b : Bytes) : Nat :=
  b.foldl (fun n byte => n * 256 + byte.toNat) 0

@[simp] theorem length_bigEndian (width n : Nat) : (bigEndian width n).length = width := by
  induction width generalizing n with
  | zero => rfl
  | succ width ih => simp [bigEndian, ih]

@[simp] theorem ofBigEndian_append_singleton (b : Bytes) (byte : UInt8) :
    ofBigEndian (b ++ [byte]) = ofBigEndian b * 256 + byte.toNat := by
  simp [ofBigEndian, List.foldl_append]

/-- A number below `256 ^ width` reads back from its `width` bytes. -/
theorem ofBigEndian_bigEndian {width n : Nat} (h : n < Nat.pow 256 width) :
    ofBigEndian (bigEndian width n) = n := by
  induction width generalizing n with
  | zero => simp at h; simp [bigEndian, ofBigEndian, h]
  | succ width ih =>
    have hq : n / 256 < Nat.pow 256 width := by
      have : Nat.pow 256 (width + 1) = Nat.pow 256 width * 256 := rfl
      exact Nat.div_lt_of_lt_mul (by omega)
    have hb : (UInt8.ofNat n).toNat = n % 256 := by simp
    rw [bigEndian, ofBigEndian_append_singleton, ih hq, hb]
    omega

/-! ## Taking apart -/

/-- Splits off the first `n` bytes, if there are as many. -/
def split? (n : Nat) (b : Bytes) : Option (Bytes × Bytes) :=
  if n ≤ b.length then some (b.take n, b.drop n) else none

theorem split?_eq_some_iff {n : Nat} {b front rest : Bytes} :
    split? n b = some (front, rest) ↔ b = front ++ rest ∧ front.length = n := by
  unfold split?
  split
  · next h =>
    simp only [Option.some.injEq, Prod.mk.injEq]
    constructor
    · rintro ⟨rfl, rfl⟩; simp [h]
    · rintro ⟨rfl, rfl⟩; simp
  · next h =>
    simp only [reduceCtorEq, false_iff, not_and]
    rintro rfl rfl
    simp at h

/-- What stands in front is split off by its length. -/
theorem split?_append (front rest : Bytes) :
    split? front.length (front ++ rest) = some (front, rest) :=
  split?_eq_some_iff.2 ⟨rfl, rfl⟩

end Bytes

end QuicHost
