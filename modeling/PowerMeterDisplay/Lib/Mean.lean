import Mathlib.Algebra.BigOperators.Fin
import Mathlib.Algebra.Order.BigOperators.Group.List
import Mathlib.Algebra.Order.Chebyshev

/-!
# Truncated means

The mean of a list of integers and the mean of their squares, both rounded towards zero.  The mean
stays between any bounds of the items, and its square is at most the mean of the squares.
-/

namespace List

variable {xs : List ℤ}

/-- The mean, rounded towards zero. -/
def tmean (xs : List ℤ) : ℤ := xs.sum.tdiv xs.length

/-- The mean of the squares, rounded towards zero. -/
def tmeanSq (xs : List ℤ) : ℤ := (xs.map fun x => x ^ 2).sum.tdiv xs.length

theorem length_cast_pos (hne : xs ≠ []) : (0 : ℤ) < xs.length :=
  Int.natCast_pos.2 (length_pos_iff.2 hne)

theorem le_tmean (hne : xs ≠ []) {a : ℤ} (h : ∀ x ∈ xs, a ≤ x) : a ≤ xs.tmean := by
  have hpos := length_cast_pos hne
  have hsum : xs.length * a ≤ xs.sum := by simpa using card_nsmul_le_sum xs a h
  calc a = (xs.length * a).tdiv xs.length := (Int.mul_tdiv_cancel_left a hpos.ne').symm
    _ ≤ xs.tmean := Int.tdiv_le_tdiv hpos hsum

theorem tmean_le (hne : xs ≠ []) {b : ℤ} (h : ∀ x ∈ xs, x ≤ b) : xs.tmean ≤ b := by
  have hpos := length_cast_pos hne
  have hsum : xs.sum ≤ xs.length * b := by simpa using sum_le_card_nsmul xs b h
  calc xs.tmean ≤ (xs.length * b).tdiv xs.length := Int.tdiv_le_tdiv hpos hsum
    _ = b := Int.mul_tdiv_cancel_left b hpos.ne'

theorem sq_sum_le_length_mul_sum_sq (xs : List ℤ) :
    xs.sum ^ 2 ≤ xs.length * (xs.map fun x => x ^ 2).sum := by
  have hcauchy := sq_sum_le_card_mul_sum_sq (s := Finset.univ) (f := fun k : Fin xs.length => xs[k])
  have hsum : ∑ k : Fin xs.length, xs[k] = xs.sum := Fin.sum_univ_getElem xs
  have hsq : ∑ k : Fin xs.length, xs[k] ^ 2 = (xs.map fun x => x ^ 2).sum :=
    Fin.sum_univ_fun_getElem xs fun x => x ^ 2
  rwa [hsum, hsq, Finset.card_univ, Fintype.card_fin] at hcauchy

/-- Rounding towards zero does not raise the magnitude. -/
theorem sq_tdiv_mul_le (a : ℤ) {n : ℤ} (hn : 0 ≤ n) : (a.tdiv n * n) ^ 2 ≤ a ^ 2 := by
  refine sq_le_sq.2 ?_
  rw [abs_mul, Int.abs_eq_natAbs, Int.natAbs_tdiv, abs_of_nonneg hn, Int.abs_eq_natAbs]
  have hle := Nat.div_mul_le_self a.natAbs n.natAbs
  calc ((a.natAbs.div n.natAbs : ℕ) : ℤ) * n = ((a.natAbs / n.natAbs * n.natAbs : ℕ) : ℤ) := by
        rw [Nat.cast_mul, Int.natAbs_of_nonneg hn]
        rfl
    _ ≤ (a.natAbs : ℤ) := by exact_mod_cast hle

theorem sq_tmean_le_tmeanSq (hne : xs ≠ []) : xs.tmean ^ 2 ≤ xs.tmeanSq := by
  have hpos := length_cast_pos hne
  have hsq : xs.tmean ^ 2 * xs.length ≤ (xs.map fun x => x ^ 2).sum := by
    refine le_of_mul_le_mul_right ?_ hpos
    calc xs.tmean ^ 2 * xs.length * xs.length = (xs.tmean * xs.length) ^ 2 := by ring
      _ ≤ xs.sum ^ 2 := sq_tdiv_mul_le xs.sum hpos.le
      _ ≤ xs.length * (xs.map fun x => x ^ 2).sum := sq_sum_le_length_mul_sum_sq xs
      _ = (xs.map fun x => x ^ 2).sum * xs.length := mul_comm _ _
  calc xs.tmean ^ 2 = (xs.tmean ^ 2 * xs.length).tdiv xs.length :=
        (Int.mul_tdiv_cancel _ hpos.ne').symm
    _ ≤ xs.tmeanSq := Int.tdiv_le_tdiv hpos hsq

end List
