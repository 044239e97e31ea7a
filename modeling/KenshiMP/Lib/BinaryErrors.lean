/-
**Rounding errors, and differences.**

* `roundUnits_error`: below a power of two, rounding adds at most half of the unit in the last place there;
* `sub_down`: a value less a value that is not negative is zero at most, or smaller by that, up to the
  rounding error;
* `sub_zero`: less nothing is the same, for every value but the patterns that are not numbers; from `add`
  there comes only one of these (`add_clean`).
-/

import KenshiMP.Lib.BinaryFacts

namespace Binary

namespace Format

variable (F : Format)

theorem divEven_error (num : Nat) {den : Nat} (pos : 0 < den) :
    2 * (divEven num den * den) ≤ 2 * num + den := by
  have split : den * (num / den) + num % den = num := Nat.div_add_mod num den
  have rest : num % den < den := Nat.mod_lt num pos
  have product : num / den * den = den * (num / den) := Nat.mul_comm _ _
  unfold divEven
  split_ifs with below above
  · omega
  · rw [Nat.add_mul]
    omega
  · have tie : num / den % 2 ≤ 1 := by omega
    have half : num / den % 2 * den ≤ 1 * den := Nat.mul_le_mul_right den tie
    rw [Nat.add_mul]
    omega

/-- The units of a rounded number. -/
theorem unitsOf_roundUnits {n j : Nat} (small : n ≤ 2 ^ j) (inRange : j ≤ F.top) :
    F.unitsOf (F.roundUnits n 1) = divEven n (2 ^ F.drop n 1) * 2 ^ F.drop n 1 := by
  have finite := (F.roundUnits_bounded Nat.one_pos (small.trans_eq (Nat.one_mul _).symm) inRange).1
  have shape : F.roundUnits n 1 = F.drop n 1 * 2 ^ F.mant + divEven n (1 * 2 ^ F.drop n 1) := by
    unfold roundUnits at finite ⊢
    omega
  have normal : F.drop n 1 = 0 ∨ 2 ^ F.mant ≤ divEven n (1 * 2 ^ F.drop n 1) := by
    rcases Nat.eq_zero_or_pos (F.drop n 1) with zero | drops
    · exact .inl zero
    · exact .inr (F.le_divEven_of_drop drops)
  rw [shape, F.unitsOf_shape (F.divEven_le_binade n Nat.one_pos) normal, Nat.one_mul]

/-- **Rounding** adds at most half of a unit in the last place. -/
theorem roundUnits_error {n j : Nat} (small : n ≤ 2 ^ j) (inRange : j ≤ F.top) :
    2 * F.unitsOf (F.roundUnits n 1) ≤ 2 * n + 2 ^ (j - F.mant) := by
  have log : Nat.log2 (n / 1) ≤ j := by
    rw [Nat.div_one]
    rcases Nat.eq_zero_or_pos n with rfl | positive
    · simp
    · exact (Nat.pow_le_pow_iff_right Nat.one_lt_two).mp ((Nat.log2_self_le positive.ne').trans small)
  have binade : F.drop n 1 ≤ j - F.mant := Nat.sub_le_sub_right log _
  rw [F.unitsOf_roundUnits small inRange]
  refine (divEven_error n (Nat.two_pow_pos _)).trans ?_
  exact Nat.add_le_add_left (Nat.pow_le_pow_right Nat.two_pos binade) _

theorem roundUnits_le (num den : Nat) : F.roundUnits num den ≤ F.infMag := Nat.min_le_left _ _

end Format

namespace Flt

variable {F : Format} {x y : Flt F}

section Rounded

variable (neg : Bool) (num den : Nat)

theorem mag_round : (round neg num den : Flt F).mag = F.roundUnits num den :=
  mag_ofParts neg ((F.roundUnits_le num den).trans_lt (infMag_lt_signWeight F))

theorem neg_round : (round neg num den : Flt F).neg = neg :=
  neg_ofParts neg ((F.roundUnits_le num den).trans_lt (infMag_lt_signWeight F))

theorem isNaN_round : (round neg num den : Flt F).isNaN = false := by
  unfold isNaN
  rw [mag_round]
  exact decide_eq_false (Nat.not_lt.mpr (F.roundUnits_le num den))

end Rounded

theorem isFinite_negate (finite : x.isFinite = true) : x.negate.isFinite = true := by
  unfold negate
  rw [isFinite_iff, mag_ofParts _ x.mag_lt]
  exact isFinite_iff.mp finite

theorem signedUnits_negate (x : Flt F) : x.negate.signedUnits = -x.signedUnits := by
  have units : x.negate.units = x.units := by
    unfold units negate
    rw [mag_ofParts _ x.mag_lt]
  have sign : x.negate.neg = !x.neg := neg_ofParts _ x.mag_lt
  unfold signedUnits
  rw [units, sign]
  cases x.neg
  · simp
  · simp

theorem sub_of_isFinite (first : x.isFinite = true) (second : y.isFinite = true) :
    x.sub y = roundInt (x.neg && y.negate.neg) (x.signedUnits - y.signedUnits) := by
  unfold sub
  rw [add_of_isFinite first (isFinite_negate second), signedUnits_negate, Int.sub_eq_add_neg]

theorem roundUnits_zero (F : Format) : F.roundUnits 0 1 = 0 := by
  have four := F.four_le_two_pow_expo
  have positive : 0 < F.infMag := Nat.mul_pos (by omega) (Nat.two_pow_pos _)
  refine F.roundUnits_exact positive Nat.one_pos ?_
  simp [Format.unitsOf]

/-! ### Less something -/

/-- A difference that is zero or less. -/
theorem sub_key_units (first : x.isFinite = true) (second : y.isFinite = true)
    (less : x.signedUnits ≤ y.signedUnits) : (x.sub y).isNaN = false ∧ (x.sub y).key ≤ 0 := by
  rw [sub_of_isFinite first second]
  unfold roundInt
  refine ⟨isNaN_round _ _ _, ?_⟩
  unfold key
  rw [neg_round, mag_round]
  rcases less.lt_or_eq with below | same
  · have negative : x.signedUnits - y.signedUnits < 0 := by omega
    rw [if_neg negative.ne, decide_eq_true negative, if_pos rfl]
    omega
  · rw [same, Int.sub_self, Int.natAbs_zero, roundUnits_zero]
    split_ifs <;> simp

/-- **A value less one that is not negative**, if something is left. -/
theorem sub_down {j : Nat} (bounded : Bounded x j) (second : y.isFinite = true)
    (nonneg : 0 ≤ y.signedUnits) (inRange : j ≤ F.top) (more : y.signedUnits < x.signedUnits) :
    Bounded (x.sub y) j ∧ 2 * (x.sub y).signedUnits
      ≤ 2 * (x.signedUnits - y.signedUnits) + 2 ^ (j - F.mant) := by
  have positive : 0 < x.signedUnits - y.signedUnits := by omega
  have size : (x.signedUnits - y.signedUnits).natAbs ≤ 2 ^ j := by
    have whole := x.natAbs_signedUnits
    have less := bounded.2
    omega
  have made : x.sub y = round false (x.signedUnits - y.signedUnits).natAbs 1 := by
    rw [sub_of_isFinite bounded.1 second]
    unfold roundInt
    rw [if_neg positive.ne', decide_eq_false (not_lt.mpr positive.le)]
  have units : (x.sub y).signedUnits = F.unitsOf (F.roundUnits (x.signedUnits - y.signedUnits).natAbs 1) := by
    rw [made]
    unfold signedUnits units
    rw [neg_round, mag_round]
    rfl
  have error : (2 * F.unitsOf (F.roundUnits (x.signedUnits - y.signedUnits).natAbs 1) : Int)
      ≤ 2 * (x.signedUnits - y.signedUnits).natAbs + 2 ^ (j - F.mant) :=
    mod_cast F.roundUnits_error size inRange
  rw [Int.natAbs_of_nonneg positive.le] at error
  refine ⟨?_, ?_⟩
  · rw [made]
    exact round_bounded false Nat.one_pos (size.trans_eq (Nat.one_mul _).symm) inRange
  · rw [units]
    exact error

/-- The same, by exact values. -/
theorem toRat_sub_le {j : Nat} (bounded : Bounded x j) (second : y.isFinite = true)
    (nonneg : 0 ≤ y.toRat) (inRange : j ≤ F.top) (more : y.toRat < x.toRat) :
    Bounded (x.sub y) j ∧ (x.sub y).toRat ≤ x.toRat - y.toRat + 2 ^ (j - F.mant) / 2 ^ (F.scale + 1) := by
  have unit : (0 : ℚ) < 2 ^ F.scale := by positivity
  unfold toRat at nonneg more
  have least : 0 ≤ y.signedUnits := by
    have product := mul_nonneg nonneg unit.le
    rw [div_mul_cancel₀ _ unit.ne'] at product
    exact_mod_cast product
  have order : y.signedUnits < x.signedUnits := by
    exact_mod_cast (div_lt_div_iff_of_pos_right unit).mp more
  obtain ⟨inside, error⟩ := sub_down bounded second least inRange order
  have error' : (2 : ℚ) * (x.sub y).signedUnits
      ≤ 2 * (x.signedUnits - y.signedUnits) + 2 ^ (j - F.mant) := by exact_mod_cast error
  refine ⟨inside, ?_⟩
  unfold toRat
  calc ((x.sub y).signedUnits : ℚ) / 2 ^ F.scale
      ≤ (x.signedUnits - y.signedUnits + 2 ^ (j - F.mant) / 2) / 2 ^ F.scale :=
        div_le_div_of_nonneg_right (by linarith) unit.le
    _ = x.signedUnits / 2 ^ F.scale - y.signedUnits / 2 ^ F.scale + 2 ^ (j - F.mant) / 2 ^ (F.scale + 1) := by
      rw [pow_succ]
      field_simp

/-- Nothing is left. -/
theorem sub_key_nonpos (first : x.isFinite = true) (second : y.isFinite = true)
    (less : x.toRat ≤ y.toRat) : (x.sub y).isNaN = false ∧ (x.sub y).key ≤ 0 := by
  have unit : (0 : ℚ) < 2 ^ F.scale := by positivity
  unfold toRat at less
  exact sub_key_units first second (by exact_mod_cast (div_le_div_iff_of_pos_right unit).mp less)

theorem toRat_pos (above : 0 < x.key) : 0 < x.toRat := by
  have parts : x.neg = false ∧ 0 < x.mag := by
    unfold key at above
    split_ifs at above with minus
    · omega
    · exact ⟨Bool.eq_false_iff.mpr minus, by omega⟩
  have positive : 0 < x.units := by
    have weight : 0 < 2 ^ F.mant := Nat.two_pow_pos _
    have split : 2 ^ F.mant * (x.mag / 2 ^ F.mant) + x.mag % 2 ^ F.mant = x.mag := Nat.div_add_mod _ _
    unfold units Format.unitsOf
    split_ifs with low
    · rw [low] at split
      omega
    · positivity
  have value : x.signedUnits = x.units := by
    unfold signedUnits
    rw [parts.1]
    rfl
  unfold toRat
  rw [value]
  positivity

/-! ### Less nothing -/

theorem isNaN_of_isInf (infinite : x.isInf = true) : x.isNaN = false := by
  unfold isInf at infinite
  unfold isNaN
  rw [decide_eq_true_eq] at infinite
  exact decide_eq_false (by omega)

/-- From an addition comes at most one pattern that is not a number. -/
theorem add_clean (isNaN : (x.add y).isNaN = true) : x.add y = nan := by
  unfold add at isNaN ⊢
  split_ifs at isNaN ⊢ with none xInf both yInf
  · rfl
  · rfl
  · rw [isNaN_of_isInf xInf] at isNaN
    cases isNaN
  · rw [isNaN_of_isInf yInf] at isNaN
    cases isNaN
  · unfold roundInt at isNaN
    rw [isNaN_round] at isNaN
    cases isNaN

/-- **Less nothing** is the same. -/
theorem sub_zero {zero : Flt F} (none : zero.mag = 0) (plus : zero.neg = false)
    (clean : x.isNaN = true → x = nan) : x.sub zero = x := by
  have four := F.four_le_two_pow_expo
  have positive : 0 < F.infMag := Nat.mul_pos (by omega) (Nat.two_pow_pos _)
  have finite : zero.isFinite = true := isFinite_iff.mpr (none ▸ positive)
  have nothing : zero.signedUnits = 0 := by
    unfold signedUnits units
    rw [none, plus]
    simp [Format.unitsOf]
  have minus : zero.negate.neg = true := by
    unfold negate
    rw [neg_ofParts _ zero.mag_lt, plus]
    rfl
  by_cases isNaN : x.isNaN = true
  · unfold sub add
    rw [isNaN, Bool.true_or, if_pos rfl, clean isNaN]
  by_cases infinite : x.isInf = true
  · unfold sub add
    have finite' := isFinite_negate finite
    simp [isNaN, infinite, isNaN_of_isFinite finite', isInf_of_isFinite finite']
  · have finite' := isFinite_of_not (Bool.eq_false_iff.mpr isNaN) (Bool.eq_false_iff.mpr infinite)
    have sign : (if x.signedUnits = 0 then x.neg else decide (x.signedUnits < 0)) = x.neg := by
      split_ifs with empty
      · rfl
      · unfold signedUnits at empty ⊢
        cases minus' : x.neg with
        | true =>
          rw [minus'] at empty
          rw [if_pos rfl] at empty ⊢
          exact decide_eq_true (by omega)
        | false =>
          rw [minus'] at empty
          rw [if_neg Bool.false_ne_true] at empty ⊢
          exact decide_eq_false (by omega)
    rw [sub_of_isFinite finite' finite, nothing, Int.sub_zero, minus, Bool.and_true]
    unfold roundInt round
    have exact : F.roundUnits x.units 1 = x.mag :=
      F.roundUnits_exact (isFinite_iff.mp finite') Nat.one_pos (Nat.one_mul _).symm
    rw [sign, natAbs_signedUnits, exact]
    exact x.ofParts_parts

end Flt

end Binary
