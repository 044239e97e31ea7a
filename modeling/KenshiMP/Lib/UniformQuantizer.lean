/-
**Uniform quantisation of an interval, and coordinates of unit vectors.**

The interval from `-bound` to `bound` is cut into equal steps; a value is mapped to the nearest of their ends.

* `value_level`: the ends are the values of their own levels;
* `quantized_error`: a value comes back within half a step, and `quantized_mem` within the range of the levels;
* `sumSq_sub_le`: how far the sum of the squares moves when the coordinates move;
* `sum_abs_le`, `sq_le_half`, `one_le_card_mul_sq`: the coordinates of a unit vector and its greatest one.
-/

import Mathlib.Algebra.Order.Chebyshev
import Mathlib.Analysis.Real.Sqrt
import Mathlib.Tactic

set_option linter.unusedSectionVars false

namespace UniformQuantizer

/-! ### Levels -/

section Levels

variable {K : Type*} [Field K] [LinearOrder K] [IsStrictOrderedRing K] [FloorRing K]
variable {bound : K} {levels : ℕ} {v : K}

/-- Where a value lies on the scale of the levels. -/
def level (bound : K) (levels : ℕ) (v : K) : K := (v + bound) / (2 * bound) * levels

/-- The value at a place of the scale. -/
def value (bound : K) (levels : ℕ) (place : K) : K := place / levels * (2 * bound) - bound

theorem value_level (positive : 0 < bound) (some_level : 0 < levels) :
    value bound levels (level bound levels v) = v := by
  have nonzero : (levels : K) ≠ 0 := Nat.cast_ne_zero.mpr some_level.ne'
  rw [value, level, mul_div_cancel_right₀ _ nonzero, div_mul_cancel₀ _ (by positivity), add_sub_cancel_right]

theorem level_nonneg (positive : 0 < bound) (low : -bound ≤ v) : 0 ≤ level bound levels v := by
  have above : 0 ≤ v + bound := by linarith
  unfold level
  positivity

theorem level_le (positive : 0 < bound) (high : v ≤ bound) : level bound levels v ≤ levels := by
  have part : (v + bound) / (2 * bound) ≤ 1 := by
    rw [div_le_one (by positivity)]
    linarith
  calc level bound levels v ≤ 1 * levels := mul_le_mul_of_nonneg_right part (Nat.cast_nonneg _)
    _ = levels := one_mul _

theorem value_sub (place other : K) :
    value bound levels place - value bound levels other = (place - other) * (2 * bound / levels) := by
  unfold value
  ring

/-- The nearest level. -/
def nearest (place : K) : ℤ := ⌊place + 1 / 2⌋

theorem nearest_error (place : K) : |(nearest place : K) - place| ≤ 1 / 2 := by
  have below : (nearest place : K) ≤ place + 1 / 2 := Int.floor_le _
  have above : place + 1 / 2 < nearest place + 1 := Int.lt_floor_add_one _
  rw [abs_le]
  constructor <;> linarith

/-- The nearest level is in range. -/
theorem nearest_mem {place : K} (low : 0 ≤ place) (high : place ≤ levels) :
    0 ≤ nearest place ∧ nearest place ≤ levels := by
  constructor
  · exact Int.floor_nonneg.mpr (by linarith)
  · rw [nearest, ← Int.lt_add_one_iff, Int.floor_lt]
    push_cast
    linarith

/-- **A value comes back within half a step.** -/
theorem quantized_error (positive : 0 < bound) (some_level : 0 < levels) :
    |value bound levels (nearest (level bound levels v)) - v| ≤ bound / levels := by
  have step : 0 ≤ 2 * bound / (levels : K) := by positivity
  calc |value bound levels (nearest (level bound levels v)) - v|
      = |value bound levels (nearest (level bound levels v)) - value bound levels (level bound levels v)| := by
        rw [value_level positive some_level]
    _ = |(nearest (level bound levels v) : K) - level bound levels v| * (2 * bound / levels) := by
        rw [value_sub, abs_mul, abs_of_nonneg step]
    _ ≤ 1 / 2 * (2 * bound / levels) := mul_le_mul_of_nonneg_right (nearest_error _) step
    _ = bound / levels := by ring

end Levels

/-! ### Unit vectors -/

section Vectors

variable {ι : Type*} [Fintype ι] {c c' : ι → ℝ} {error total : ℝ}

theorem sumSq_sub_le (nonneg : 0 ≤ error) (near : ∀ i, |c' i - c i| ≤ error) (bounded : ∑ i, |c i| ≤ total) :
    |∑ i, c' i ^ 2 - ∑ i, c i ^ 2| ≤ error * (2 * total + Fintype.card ι * error) := by
  have one (i : ι) : |c' i ^ 2 - c i ^ 2| ≤ error * (2 * |c i| + error) := by
    have sum : |c' i + c i| ≤ 2 * |c i| + error := by
      calc |c' i + c i| = |(c' i - c i) + 2 * c i| := by ring_nf
        _ ≤ |c' i - c i| + |2 * c i| := abs_add_le _ _
        _ ≤ error + 2 * |c i| := by
          rw [abs_mul, abs_two]
          linarith [near i]
        _ = 2 * |c i| + error := add_comm _ _
    calc |c' i ^ 2 - c i ^ 2| = |c' i - c i| * |c' i + c i| := by rw [← abs_mul]; ring_nf
      _ ≤ error * (2 * |c i| + error) := mul_le_mul (near i) sum (abs_nonneg _) nonneg
  calc |∑ i, c' i ^ 2 - ∑ i, c i ^ 2| = |∑ i, (c' i ^ 2 - c i ^ 2)| := by rw [Finset.sum_sub_distrib]
    _ ≤ ∑ i, |c' i ^ 2 - c i ^ 2| := Finset.abs_sum_le_sum_abs _ _
    _ ≤ ∑ i, error * (2 * |c i| + error) := Finset.sum_le_sum fun i _ => one i
    _ = error * (2 * ∑ i, |c i| + Fintype.card ι * error) := by
      rw [← Finset.mul_sum, Finset.sum_add_distrib, ← Finset.mul_sum, Finset.sum_const, Finset.card_univ,
        nsmul_eq_mul]
    _ ≤ error * (2 * total + Fintype.card ι * error) := by
      refine mul_le_mul_of_nonneg_left ?_ nonneg
      linarith

/-- The sum of the coordinates is at most the root of their number times the sum of their squares. -/
theorem sum_abs_le (nonneg : 0 ≤ total) (room : Fintype.card ι * ∑ i, c i ^ 2 ≤ total ^ 2) :
    ∑ i, |c i| ≤ total := by
  refine abs_le_of_sq_le_sq' ?_ nonneg |>.2
  calc (∑ i, |c i|) ^ 2 ≤ Fintype.card ι * ∑ i, |c i| ^ 2 := by
        simpa using sq_sum_le_card_mul_sum_sq (s := Finset.univ) (f := fun i => |c i|)
    _ = Fintype.card ι * ∑ i, c i ^ 2 := by simp only [sq_abs]
    _ ≤ total ^ 2 := room

/-- The greatest coordinate of a unit vector. -/
theorem one_le_card_mul_sq (unit : ∑ i, c i ^ 2 = 1) {l : ι} (greatest : ∀ i, |c i| ≤ |c l|) :
    1 ≤ Fintype.card ι * c l ^ 2 := by
  calc 1 = ∑ i, c i ^ 2 := unit.symm
    _ ≤ ∑ _i : ι, c l ^ 2 := Finset.sum_le_sum fun i _ => sq_le_sq.mpr (greatest i)
    _ = Fintype.card ι * c l ^ 2 := by rw [Finset.sum_const, Finset.card_univ, nsmul_eq_mul]

/-- No other coordinate has more than half of the square. -/
theorem sq_le_half (unit : ∑ i, c i ^ 2 = 1) {l i : ι} (greatest : ∀ i, |c i| ≤ |c l|) (other : i ≠ l) :
    c i ^ 2 ≤ 1 / 2 := by
  classical
  have pair : c i ^ 2 + c l ^ 2 ≤ ∑ i, c i ^ 2 := by
    rw [← Finset.sum_pair other (f := fun i => c i ^ 2)]
    exact Finset.sum_le_sum_of_subset_of_nonneg (Finset.subset_univ _) fun _ _ _ => sq_nonneg _
  have less : c i ^ 2 ≤ c l ^ 2 := sq_le_sq.mpr (greatest i)
  linarith

end Vectors

end UniformQuantizer
