/-!
# Machine words

Quantities are natural numbers and integers of any size, so that orders are plain.
Most of them never come near the bounds of a machine word. Where an answer does
depend on what fits into 64 bits, the bound is one of those named here, and a sum
that may not fit is cut to a word by `wrap`.
-/

namespace QuicHost

/-- The largest natural number of 64 bits. Offsets, limits and clock ticks never
exceed it. -/
def maxWord : Nat := 0xffffffffffffffff

/-- What a word keeps of a number: sums that do not fit begin at zero again. -/
def wrap (n : Nat) : Nat := n % (maxWord + 1)

/-- What fits is kept. -/
theorem wrap_of_le {n : Nat} (h : n ≤ maxWord) : wrap n = n :=
  Nat.mod_eq_of_lt (Nat.lt_succ_of_le h)

theorem wrap_le (n : Nat) : wrap n ≤ maxWord := Nat.le_of_lt_succ (Nat.mod_lt n (Nat.succ_pos _))

theorem wrap_le_self (n : Nat) : wrap n ≤ n := Nat.mod_le n _

/-- Whether an integer fits into 64 bits, one of them for its sign. -/
def FitsWord (n : Int) : Prop := -0x8000000000000000 ≤ n ∧ n ≤ 0x7fffffffffffffff

instance (n : Int) : Decidable (FitsWord n) := inferInstanceAs (Decidable (_ ∧ _))

end QuicHost
