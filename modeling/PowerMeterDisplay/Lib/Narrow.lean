import Mathlib.Algebra.Order.Floor.Semifield

/-!
# Truncation to a fixed width

A conversion that cuts off the fraction of a non-negative value and keeps the result modulo `n`.
`residue n x` is what is left of the value itself after the last multiple of `n`: a comparison of
the narrowed value with a number is one of the residue (`le_narrow_iff`).
-/

namespace Narrow

variable {K : Type*} [Semifield K] [LinearOrder K] [FloorSemiring K]

/-- The fraction is cut off and the rest is kept modulo `n`. -/
def narrow (n : ℕ) (x : K) : ℕ := ⌊x⌋₊ % n

/-- What is left of `x` after the last multiple of `n`. -/
def residue [Sub K] (n : ℕ) (x : K) : K := x - n * ⌊x / n⌋₊

variable [IsStrictOrderedRing K] [CanonicallyOrderedAdd K] [Sub K] [OrderedSub K]

theorem narrow_eq_floor_residue (n : ℕ) (x : K) : narrow n x = ⌊residue n x⌋₊ := by
  have hcast : (n : K) * (⌊x / n⌋₊ : K) = ((n * (⌊x⌋₊ / n) : ℕ) : K) := by
    rw [Nat.floor_div_natCast, Nat.cast_mul]
  rw [residue, hcast, Nat.floor_sub_natCast, narrow, Nat.mod_eq_sub_mul_div]

theorem le_narrow_iff {n j : ℕ} (hj : j ≠ 0) {x : K} : j ≤ narrow n x ↔ (j : K) ≤ residue n x := by
  rw [narrow_eq_floor_residue, Nat.le_floor_iff' hj]

/-- A common factor of the value and the modulus is one of the residue. -/
theorem residue_mul {a : ℕ} (ha : a ≠ 0) (n : ℕ) (x : K) :
    residue (a * n) (a * x) = a * residue n x := by
  have ha : (a : K) ≠ 0 := Nat.cast_ne_zero.2 ha
  rw [residue, residue, Nat.cast_mul, mul_div_mul_left _ _ ha, mul_assoc, ← mul_tsub]

end Narrow
