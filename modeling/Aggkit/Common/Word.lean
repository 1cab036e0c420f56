import Mathlib.Order.Lattice
import Mathlib.Algebra.Group.Int

/-! `uint64` arithmetic as the Go source computes it: sums, differences and products
wrap modulo `2^64`, and `int(x)` reinterprets a word as a two's complement `int64`. -/
namespace Aggkit

/-- Go `a + b` on `uint64` operands. -/
def add64 (a b : Nat) : Nat := (a + b) % 2 ^ 64

/-- Go `a - b` on `uint64` operands: below zero it wraps around. -/
def sub64 (a b : Nat) : Nat := (a + (2 ^ 64 - b)) % 2 ^ 64

/-- Go `a * b` on `uint64` operands. -/
def mul64 (a b : Nat) : Nat := (a * b) % 2 ^ 64

/-- Go `int(x)` for a `uint64` word `x`, on a 64-bit platform. -/
def toInt64 (x : Nat) : Int := if x < 2 ^ 63 then x else (x : Int) - 2 ^ 64

theorem add64_lt (a b : Nat) : add64 a b < 2 ^ 64 := Nat.mod_lt _ (Nat.two_pow_pos 64)

theorem sub64_lt (a b : Nat) : sub64 a b < 2 ^ 64 := Nat.mod_lt _ (Nat.two_pow_pos 64)

theorem mul64_lt (a b : Nat) : mul64 a b < 2 ^ 64 := Nat.mod_lt _ (Nat.two_pow_pos 64)

/-- A sum that stays below `2^64` does not wrap. -/
theorem add64_of_lt {a b : Nat} (fits : a + b < 2 ^ 64) : add64 a b = a + b := by
  unfold add64; omega

/-- A product that stays below `2^64` does not wrap. -/
theorem mul64_of_lt {a b : Nat} (fits : a * b < 2 ^ 64) : mul64 a b = a * b :=
  Nat.mod_eq_of_lt fits

/-- A difference of words that is not negative does not wrap. -/
theorem sub64_of_le {a b : Nat} (small : a < 2 ^ 64) (le : b ≤ a) : sub64 a b = a - b := by
  unfold sub64; omega

/-- A negative difference of words wraps to `2^64` less its magnitude. -/
theorem sub64_of_lt {a b : Nat} (small : b < 2 ^ 64) (lt : a < b) :
    sub64 a b = 2 ^ 64 - (b - a) := by
  unfold sub64; omega

/-- Words below `2^63` keep their value as an `int64`. -/
theorem toInt64_of_lt {x : Nat} (small : x < 2 ^ 63) : toInt64 x = x := by
  unfold toInt64; rw [if_pos small]

end Aggkit
