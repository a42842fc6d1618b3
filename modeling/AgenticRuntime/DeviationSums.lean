/-
Sums of squared deviations from the mean, over lists.

The sum is reached without the mean: the length times the sum of the squares, less the
square of the sum.
-/

import Mathlib.Algebra.BigOperators.Group.List.Basic
import Mathlib.Algebra.BigOperators.Ring.List
import Mathlib.Algebra.Order.BigOperators.Group.List
import Mathlib.Algebra.Order.Field.Basic
import Mathlib.Tactic.FieldSimp
import Mathlib.Tactic.Linarith
import Mathlib.Tactic.Ring

namespace DeviationSums

open List

section

variable {R : Type} [CommRing R]

def sumOfSquares (values : List R) : R := (values.map fun value => value * value).sum

def spread (values : List R) : R :=
  values.length * sumOfSquares values - values.sum * values.sum

theorem spread_perm {left right : List R} (same : left.Perm right) : spread left = spread right := by
  have squares : sumOfSquares left = sumOfSquares right :=
    (same.map fun value => value * value).sum_eq
  rw [spread, spread, same.length_eq, same.sum_eq, squares]

theorem sum_shift (offset : R) (values : List R) :
    (values.map fun value => value + offset).sum = values.sum + values.length * offset := by
  induction values with
  | nil => simp
  | cons value rest ih =>
      simp only [map_cons, sum_cons, length_cons, Nat.cast_add, Nat.cast_one, ih]
      ring

theorem sumOfSquares_shift (offset : R) (values : List R) :
    sumOfSquares (values.map fun value => value + offset) =
      sumOfSquares values + 2 * offset * values.sum + values.length * (offset * offset) := by
  induction values with
  | nil => simp [sumOfSquares]
  | cons value rest ih =>
      simp only [sumOfSquares, map_cons, sum_cons, length_cons, Nat.cast_add, Nat.cast_one] at ih ⊢
      rw [ih]
      ring

theorem spread_shift (offset : R) (values : List R) :
    spread (values.map fun value => value + offset) = spread values := by
  rw [spread, spread, sumOfSquares_shift, sum_shift, length_map]
  ring

end

section

variable {K : Type} [Field K] [LinearOrder K] [IsStrictOrderedRing K]

def mean (values : List K) : K := values.sum / values.length

def deviations (values : List K) : K :=
  (values.map fun value => (value - mean values) ^ 2).sum

theorem deviations_nonneg (values : List K) : 0 ≤ deviations values := by
  apply sum_nonneg
  intro square listed
  obtain ⟨value, _, same⟩ := mem_map.mp listed
  rw [← same]
  exact sq_nonneg _

theorem spread_eq_deviations {values : List K} (filled : values ≠ []) :
    spread values = values.length * deviations values := by
  have length : (values.length : K) ≠ 0 :=
    Nat.cast_ne_zero.mpr fun empty => filled (length_eq_zero_iff.mp empty)
  have shifted := spread_shift (-mean values) values
  have centred : (values.map fun value => value + -mean values).sum = 0 := by
    rw [sum_shift, mean]
    field_simp
    ring
  have squares : sumOfSquares (values.map fun value => value + -mean values) =
      deviations values := by
    rw [sumOfSquares, deviations, map_map]
    congr 1
    apply map_congr_left
    intro value _
    change (value + -mean values) * (value + -mean values) = (value - mean values) ^ 2
    ring
  rw [← shifted, spread, centred, squares, length_map, mul_zero, sub_zero]

theorem spread_nonneg (values : List K) : 0 ≤ spread values := by
  by_cases filled : values = []
  · subst filled
    simp [spread]
  · rw [spread_eq_deviations filled]
    exact mul_nonneg (Nat.cast_nonneg _) (deviations_nonneg values)

omit [LinearOrder K] [IsStrictOrderedRing K] in
theorem spread_map_cast (values : List Int) :
    ((spread values : Int) : K) = spread (values.map fun value : Int => (value : K)) := by
  have sums : ∀ terms : List Int,
      ((terms.sum : Int) : K) = (terms.map fun term : Int => (term : K)).sum := by
    intro terms
    induction terms with
    | nil => simp
    | cons term rest ih => rw [map_cons, sum_cons, sum_cons, Int.cast_add, ih]
  have squares : ((sumOfSquares values : Int) : K) =
      sumOfSquares (values.map fun value : Int => (value : K)) := by
    rw [sumOfSquares, sums, sumOfSquares, map_map, map_map]
    congr 1
    apply map_congr_left
    intro value _
    exact Int.cast_mul value value
  rw [spread, spread, Int.cast_sub, Int.cast_mul, Int.cast_mul, sums, squares, length_map,
    Int.cast_natCast]

end

end DeviationSums
