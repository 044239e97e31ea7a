/-
**Rounding keeps the order.**

Of two quotients with one divisor the larger one is not rounded to less (`roundUnits_mono`), also where the
two are in different binades, and a larger pattern stands for no fewer units (`unitsOf_mono`). So a larger
number is not converted to a smaller value (`ofInt_mag_mono`), and a quotient by a positive value keeps the
order (`div_mag_mono`).
-/

import KenshiMP.Lib.BinaryErrors

namespace Binary

namespace Format

variable (F : Format)

theorem divEven_le_succ (num den : Nat) : divEven num den ≤ num / den + 1 := by
  unfold divEven
  split_ifs <;> omega

theorem divEven_mono {num more : Nat} (den : Nat) (le : num ≤ more) : divEven num den ≤ divEven more den := by
  have quotients : num / den ≤ more / den := Nat.div_le_div_right le
  rcases quotients.lt_or_eq with below | same
  · calc divEven num den ≤ num / den + 1 := divEven_le_succ num den
      _ ≤ more / den := below
      _ ≤ divEven more den := div_le_divEven more den
  · have first := Nat.div_add_mod num den
    have second := Nat.div_add_mod more den
    have rests : num % den ≤ more % den := by
      rw [same] at first
      omega
    unfold divEven
    rw [same]
    split_ifs <;> omega

/-- **A larger quotient is not rounded to less.** -/
theorem roundUnits_mono {num more den : Nat} (pos : 0 < den) (le : num ≤ more) :
    F.roundUnits num den ≤ F.roundUnits more den := by
  have binades : F.drop num den ≤ F.drop more den := by
    unfold drop
    rw [Nat.log2_eq_log_two, Nat.log2_eq_log_two]
    exact Nat.sub_le_sub_right (Nat.log_mono_right (Nat.div_le_div_right le)) _
  unfold roundUnits
  refine min_le_min le_rfl ?_
  rcases binades.lt_or_eq with below | same
  · -- the smaller one ends where the next binade starts
    have first := F.divEven_le_binade num pos
    have second := F.le_divEven_of_drop (Nat.zero_lt_of_lt below)
    have blocks : (F.drop num den + 1) * 2 ^ F.mant ≤ F.drop more den * 2 ^ F.mant :=
      Nat.mul_le_mul_right _ below
    rw [pow_succ] at first
    rw [Nat.succ_mul] at blocks
    omega
  · rw [same]
    exact Nat.add_le_add_left (divEven_mono _ le) _

/-- **A larger pattern has no fewer units.** -/
theorem unitsOf_mono {mag more : Nat} (le : mag ≤ more) : F.unitsOf mag ≤ F.unitsOf more := by
  have positive : 0 < 2 ^ F.mant := by positivity
  have fields : mag / 2 ^ F.mant ≤ more / 2 ^ F.mant := Nat.div_le_div_right le
  have first := Nat.div_add_mod mag (2 ^ F.mant)
  have second := Nat.div_add_mod more (2 ^ F.mant)
  rcases fields.lt_or_eq with below | same
  · have atLeast : 2 ^ (F.mant + (more / 2 ^ F.mant - 1)) ≤ F.unitsOf more := by
      unfold unitsOf
      rw [if_neg (Nat.ne_of_gt (Nat.zero_lt_of_lt below)), pow_add]
      exact Nat.mul_le_mul_right _ (Nat.le_add_left _ _)
    refine le_trans ?_ atLeast
    rcases Nat.eq_zero_or_pos (mag / 2 ^ F.mant) with zero | normal
    · unfold unitsOf
      rw [if_pos zero]
      exact (Nat.mod_lt _ positive).le.trans (Nat.pow_le_pow_right Nat.two_pos (Nat.le_add_right _ _))
    · exact F.unitsOf_le_pow (Nat.le_sub_one_of_lt below) (by omega)
  · have rests : mag % 2 ^ F.mant ≤ more % 2 ^ F.mant := by
      rw [same] at first
      omega
    unfold unitsOf
    rw [same]
    split_ifs
    · exact rests
    · exact Nat.mul_le_mul_right _ (Nat.add_le_add_right rests _)

end Format

namespace Flt

variable {F : Format}

/-! ### Values -/

theorem units_mono {x y : Flt F} (le : x.mag ≤ y.mag) : x.units ≤ y.units := F.unitsOf_mono le

theorem ofInt_mag_mono {m n : Nat} (le : m ≤ n) : (ofInt m : Flt F).mag ≤ (ofInt n : Flt F).mag := by
  unfold ofInt
  rw [mag_round, mag_round, Int.natAbs_natCast, Int.natAbs_natCast]
  exact F.roundUnits_mono Nat.one_pos (Nat.mul_le_mul_right _ le)

theorem ofInt_neg (n : Nat) : (ofInt n : Flt F).neg = false := by
  unfold ofInt
  rw [neg_round]
  exact decide_eq_false (by omega)

theorem isFinite_of_mag_le {x y : Flt F} (le : x.mag ≤ y.mag) (finite : y.isFinite = true) :
    x.isFinite = true := isFinite_iff.mpr (le.trans_lt (isFinite_iff.mp finite))

/-- The quotient of finite values. -/
theorem div_of_isFinite {x y : Flt F} (first : x.isFinite = true) (second : y.isFinite = true)
    (positive : y.mag ≠ 0) : x.div y = round (x.neg != y.neg) (x.units * 2 ^ F.scale) y.units := by
  unfold div
  rw [isNaN_of_isFinite first, isNaN_of_isFinite second, isInf_of_isFinite first, isInf_of_isFinite second]
  simp [positive]

theorem units_pos {y : Flt F} (positive : y.mag ≠ 0) : 0 < y.units := by
  have split := Nat.div_add_mod y.mag (2 ^ F.mant)
  have some : 0 < 2 ^ F.mant := by positivity
  unfold units Format.unitsOf
  split_ifs with field
  · rw [field] at split
    omega
  · positivity

/-- **A quotient keeps the order.** -/
theorem div_mag_mono {x x' y : Flt F} (le : x.mag ≤ x'.mag) (first : x'.isFinite = true)
    (second : y.isFinite = true) (positive : y.mag ≠ 0) : (x.div y).mag ≤ (x'.div y).mag := by
  rw [div_of_isFinite (isFinite_of_mag_le le first) second positive, div_of_isFinite first second positive,
    mag_round, mag_round]
  exact F.roundUnits_mono (units_pos positive) (Nat.mul_le_mul_right _ (units_mono le))

theorem div_neg {x y : Flt F} (first : x.isFinite = true) (second : y.isFinite = true)
    (positive : y.mag ≠ 0) : (x.div y).neg = (x.neg != y.neg) := by
  rw [div_of_isFinite first second positive, neg_round]

theorem lt_eq_false_of_mag_le {x y : Flt F} (le : x.mag ≤ y.mag) (first : x.neg = false)
    (second : y.neg = false) : y.lt x = false := by
  rw [← Bool.not_eq_true, lt_iff]
  rintro ⟨-, -, below⟩
  unfold key at below
  rw [first, second] at below
  simp only [Bool.false_eq_true, if_false, Nat.cast_lt] at below
  omega

end Flt

end Binary
