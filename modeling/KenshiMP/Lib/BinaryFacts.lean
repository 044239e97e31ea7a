/-
**Rounding: exactness, overflow, bounds.**

Every rounding result has the shape `drop · 2 ^ mant + n` with `n` the rounded quotient at the
binade of the ratio (`divEven_le_binade`, `le_divEven_of_drop`), and such a pattern stands for
`n · 2 ^ drop` units (`unitsOf_shape`). From this follow

* `roundUnits_exact`: the units of a finite pattern round to the pattern;
* `roundUnits_lt_infMag`: below the overflow threshold the result is finite;
* `roundUnits_bounded`: a ratio of at most `2 ^ j` units rounds to at most `2 ^ j` units;

and for the operations the closure of `Bounded` (`add_bounded`, `mul_bounded`, `div_bounded`,
`sqrt_bounded`) and the round trip `convert_convert`.
-/

import KenshiMP.Lib.Binary

namespace Binary

namespace Format

variable (F : Format)

/-! ### Rounded quotients -/

theorem divEven_mul {den : Nat} (pos : 0 < den) (quotient : Nat) :
    divEven (den * quotient) den = quotient := by
  unfold divEven
  rw [Nat.mul_mod_right, Nat.mul_div_cancel_left _ pos, if_pos (by omega)]

theorem div_le_divEven (num den : Nat) : num / den ≤ divEven num den := by
  unfold divEven
  split_ifs <;> omega

/-- A ratio below `bound + 1/2` rounds to at most `bound`. -/
theorem divEven_le_of_lt {num den bound : Nat} (pos : 0 < den)
    (small : 2 * num < den * (2 * bound + 1)) : divEven num den ≤ bound := by
  have split : den * (num / den) + num % den = num := Nat.div_add_mod num den
  have expand : den * (2 * bound + 1) = 2 * (den * bound) + den := by ring
  have below : num / den ≤ bound := by
    by_contra above
    have next : den * (bound + 1) ≤ den * (num / den) := Nat.mul_le_mul_left _ (by omega)
    rw [Nat.mul_succ] at next
    omega
  unfold divEven
  rcases Nat.lt_or_ge (num / den) bound with strict | atLeast
  · split_ifs <;> omega
  · have same : num / den = bound := le_antisymm below atLeast
    rw [same] at split ⊢
    have rest : 2 * (num % den) < den := by omega
    rw [if_pos rest]

theorem divEven_le {num den bound : Nat} (pos : 0 < den) (small : num ≤ den * bound) :
    divEven num den ≤ bound :=
  divEven_le_of_lt pos (by rw [Nat.mul_add, Nat.mul_left_comm]; omega)

/-! ### The binade of a ratio -/

/-- A ratio is below twice the precision at its binade. -/
theorem div_lt_binade (num den : Nat) : num / den < 2 ^ (F.mant + 1 + F.drop num den) := by
  rcases Nat.eq_zero_or_pos (num / den) with zero | positive
  · rw [zero]
    positivity
  · refine lt_of_lt_of_le Nat.lt_log2_self (Nat.pow_le_pow_right (by omega) ?_)
    unfold drop
    omega

/-- A ratio in a binade that drops bits is at least the precision there. -/
theorem binade_le_div {num den : Nat} (drops : 0 < F.drop num den) :
    2 ^ (F.mant + F.drop num den) ≤ num / den := by
  unfold drop at drops ⊢
  have positive : num / den ≠ 0 := by
    intro zero
    rw [zero] at drops
    simp at drops
  have exponent : F.mant + (Nat.log2 (num / den) - F.mant) = Nat.log2 (num / den) := by omega
  rw [exponent]
  exact Nat.log2_self_le positive

theorem divEven_le_binade (num : Nat) {den : Nat} (pos : 0 < den) :
    divEven num (den * 2 ^ F.drop num den) ≤ 2 ^ (F.mant + 1) := by
  refine divEven_le (by positivity) ?_
  have below := F.div_lt_binade num den
  rw [Nat.div_lt_iff_lt_mul pos] at below
  calc num ≤ 2 ^ (F.mant + 1 + F.drop num den) * den := below.le
    _ = den * 2 ^ F.drop num den * 2 ^ (F.mant + 1) := by rw [pow_add]; ring

theorem le_divEven_of_drop {num den : Nat} (drops : 0 < F.drop num den) :
    2 ^ F.mant ≤ divEven num (den * 2 ^ F.drop num den) := by
  refine le_trans ?_ (div_le_divEven _ _)
  rw [← Nat.div_div_eq_div_mul, Nat.le_div_iff_mul_le (by positivity), ← pow_add]
  exact F.binade_le_div drops

/-- What a pattern `k · 2 ^ mant + n` stands for. -/
theorem unitsOf_shape {k n : Nat} (small : n ≤ 2 ^ (F.mant + 1)) (normal : k = 0 ∨ 2 ^ F.mant ≤ n) :
    F.unitsOf (k * 2 ^ F.mant + n) = n * 2 ^ k := by
  have positive : 0 < 2 ^ F.mant := by positivity
  rw [pow_succ] at small
  have high : (k * 2 ^ F.mant + n) / 2 ^ F.mant = k + n / 2 ^ F.mant := by
    rw [Nat.add_comm, Nat.add_mul_div_right _ _ positive, Nat.add_comm]
  have low : (k * 2 ^ F.mant + n) % 2 ^ F.mant = n % 2 ^ F.mant := by
    rw [Nat.add_comm, Nat.add_mul_mod_self_right]
  unfold unitsOf
  rw [high, low]
  rcases Nat.lt_or_ge n (2 ^ F.mant) with subnormal | atLeast
  · have zero : k = 0 := by omega
    rw [zero, Nat.div_eq_of_lt subnormal, if_pos rfl, Nat.mod_eq_of_lt subnormal]
    omega
  · rcases Nat.lt_or_ge n (2 ^ F.mant * 2) with inside | top
    · have one : n / 2 ^ F.mant = 1 := Nat.div_eq_of_lt_le (by omega) (by omega)
      have rest : n % 2 ^ F.mant + 2 ^ F.mant = n := by
        have := Nat.div_add_mod n (2 ^ F.mant)
        rw [one] at this
        omega
      rw [one, if_neg (by omega), rest, Nat.add_sub_cancel]
    · have exactTop : n = 2 ^ F.mant * 2 := le_antisymm small top
      subst exactTop
      rw [Nat.mul_div_cancel_left _ positive, Nat.mul_mod_right, if_neg (by omega), Nat.zero_add]
      rw [show k + 2 - 1 = k + 1 by omega, pow_succ]
      ring

/-! ### Rounding -/

/-- **Exactness.** The units of a finite pattern round to the pattern. -/
theorem roundUnits_exact {mag num den : Nat} (finite : mag < F.infMag) (pos : 0 < den)
    (same : num = den * F.unitsOf mag) : F.roundUnits num den = mag := by
  have positive : 0 < 2 ^ F.mant := by positivity
  have ratio : num / den = F.unitsOf mag := by rw [same, Nat.mul_div_cancel_left _ pos]
  have split : 2 ^ F.mant * (mag / 2 ^ F.mant) + mag % 2 ^ F.mant = mag := Nat.div_add_mod _ _
  have rest : mag % 2 ^ F.mant < 2 ^ F.mant := Nat.mod_lt _ positive
  unfold roundUnits
  suffices shape : F.drop num den * 2 ^ F.mant + divEven num (den * 2 ^ F.drop num den) = mag by
    rw [shape]
    omega
  unfold unitsOf at ratio same
  by_cases subnormal : mag / 2 ^ F.mant = 0
  · rw [if_pos subnormal] at ratio same
    have none : F.drop num den = 0 := by
      unfold drop
      rw [ratio]
      rcases Nat.eq_zero_or_pos (mag % 2 ^ F.mant) with zero | nonzero
      · rw [zero]
        simp
      · have := (Nat.log2_lt (by omega)).mpr rest
        omega
    rw [none, pow_zero, Nat.mul_one, same, divEven_mul pos]
    rw [subnormal] at split
    omega
  · rw [if_neg subnormal] at ratio same
    have dropped : F.drop num den = mag / 2 ^ F.mant - 1 := by
      unfold drop
      rw [ratio]
      have binade : Nat.log2 ((mag % 2 ^ F.mant + 2 ^ F.mant) * 2 ^ (mag / 2 ^ F.mant - 1))
          = F.mant + (mag / 2 ^ F.mant - 1) := by
        rw [Nat.log2_eq_iff (by positivity)]
        constructor
        · rw [pow_add]
          exact Nat.mul_le_mul_right _ (by omega)
        · rw [show F.mant + (mag / 2 ^ F.mant - 1) + 1 = F.mant + 1 + (mag / 2 ^ F.mant - 1) by omega,
            pow_add]
          exact Nat.mul_lt_mul_of_pos_right (by rw [pow_succ]; omega) (by positivity)
      rw [binade]
      omega
    rw [dropped]
    have quotient : num = den * 2 ^ (mag / 2 ^ F.mant - 1) * (mag % 2 ^ F.mant + 2 ^ F.mant) := by
      rw [same]
      ring
    rw [quotient, divEven_mul (by positivity)]
    obtain ⟨expo, expoEq⟩ := Nat.exists_eq_succ_of_ne_zero subnormal
    rw [expoEq] at split ⊢
    rw [Nat.succ_sub_one]
    rw [Nat.mul_succ, Nat.mul_comm] at split
    omega

theorem four_le_two_pow_expo : 4 ≤ 2 ^ F.expo :=
  le_trans (by norm_num) (Nat.pow_le_pow_right (by omega) F.two_le_expo)

/-- **No overflow** below the threshold of the format. -/
theorem roundUnits_lt_infMag {num den : Nat} (pos : 0 < den)
    (small : 2 * num < den * ((2 ^ (F.mant + 2) - 1) * 2 ^ (2 ^ F.expo - 3))) :
    F.drop num den * 2 ^ F.mant + divEven num (den * 2 ^ F.drop num den) < F.infMag := by
  have four := F.four_le_two_pow_expo
  have positive : 0 < 2 ^ F.mant := by positivity
  obtain ⟨top, topEq⟩ : ∃ top, 2 ^ F.expo = top + 3 := ⟨2 ^ F.expo - 3, by omega⟩
  rw [topEq, Nat.add_sub_cancel] at small
  have target : F.infMag = (top + 2) * 2 ^ F.mant := by unfold infMag; rw [topEq]; rfl
  rw [target]
  have below : F.drop num den ≤ top := by
    by_contra above
    have drops : 0 < F.drop num den := by omega
    have large := F.binade_le_div drops
    rw [Nat.le_div_iff_mul_le pos] at large
    have more : 2 ^ (F.mant + 1 + top) ≤ 2 ^ (F.mant + F.drop num den) :=
      Nat.pow_le_pow_right (by omega) (by omega)
    have split : 2 ^ (F.mant + 1 + top) = 2 ^ F.mant * 2 * 2 ^ top := by rw [pow_add, pow_succ]
    have cap : (2 ^ (F.mant + 2) - 1) * 2 ^ top ≤ 2 ^ F.mant * 4 * 2 ^ top :=
      Nat.mul_le_mul_right _ (by rw [pow_add]; omega)
    have capped := Nat.mul_le_mul_left den cap
    have grown := Nat.mul_le_mul_right den more
    nlinarith
  have bound := F.divEven_le_binade num pos
  rcases Nat.lt_or_ge (F.drop num den) top with strict | atTop
  · have step : (F.drop num den + 1) * 2 ^ F.mant ≤ top * 2 ^ F.mant :=
      Nat.mul_le_mul_right _ strict
    rw [pow_succ] at bound
    nlinarith
  · have same : F.drop num den = top := le_antisymm below atTop
    rw [same]
    have tight : divEven num (den * 2 ^ top) ≤ 2 ^ (F.mant + 1) - 1 := by
      refine divEven_le_of_lt (by positivity) ?_
      have odd : 2 * (2 ^ (F.mant + 1) - 1) + 1 = 2 ^ (F.mant + 2) - 1 := by
        have : 0 < 2 ^ F.mant := positive
        rw [pow_succ, pow_add]
        omega
      rw [odd]
      calc 2 * num < den * ((2 ^ (F.mant + 2) - 1) * 2 ^ top) := small
        _ = den * 2 ^ top * (2 ^ (F.mant + 2) - 1) := by ring
    have expand : (top + 2) * 2 ^ F.mant = top * 2 ^ F.mant + 2 ^ F.mant * 2 := by ring
    rw [pow_succ] at tight
    omega

/-- The largest exponent `j` for which `2 ^ j` units are surely finite. -/
def top : Nat := F.mant + 2 ^ F.expo - 3

/-- **Rounding does not pass a power of two.** -/
theorem roundUnits_bounded {num den j : Nat} (pos : 0 < den) (small : num ≤ den * 2 ^ j)
    (inRange : j ≤ F.top) :
    F.roundUnits num den < F.infMag ∧ F.unitsOf (F.roundUnits num den) ≤ 2 ^ j := by
  have four := F.four_le_two_pow_expo
  have positive : 0 < 2 ^ F.mant := by positivity
  have threshold : 2 * num < den * ((2 ^ (F.mant + 2) - 1) * 2 ^ (2 ^ F.expo - 3)) := by
    have grow : 2 ^ j ≤ 2 ^ F.mant * 2 ^ (2 ^ F.expo - 3) := by
      rw [← pow_add]
      refine Nat.pow_le_pow_right (by omega) ?_
      unfold top at inRange
      omega
    have wide : 2 * 2 ^ F.mant < 2 ^ (F.mant + 2) - 1 := by
      rw [pow_add]
      omega
    have step : 2 * 2 ^ F.mant * 2 ^ (2 ^ F.expo - 3) < (2 ^ (F.mant + 2) - 1) * 2 ^ (2 ^ F.expo - 3) :=
      Nat.mul_lt_mul_of_pos_right wide (by positivity)
    calc 2 * num ≤ 2 * (den * 2 ^ j) := Nat.mul_le_mul_left _ small
      _ ≤ 2 * (den * (2 ^ F.mant * 2 ^ (2 ^ F.expo - 3))) :=
        Nat.mul_le_mul_left _ (Nat.mul_le_mul_left _ grow)
      _ = den * (2 * 2 ^ F.mant * 2 ^ (2 ^ F.expo - 3)) := by ring
      _ < den * ((2 ^ (F.mant + 2) - 1) * 2 ^ (2 ^ F.expo - 3)) :=
        Nat.mul_lt_mul_of_pos_left step pos
  have finite := F.roundUnits_lt_infMag pos threshold
  have shape : F.roundUnits num den = F.drop num den * 2 ^ F.mant + divEven num (den * 2 ^ F.drop num den) :=
    Nat.min_eq_right finite.le
  rw [shape]
  refine ⟨finite, ?_⟩
  have normal : F.drop num den = 0 ∨ 2 ^ F.mant ≤ divEven num (den * 2 ^ F.drop num den) := by
    rcases Nat.eq_zero_or_pos (F.drop num den) with zero | drops
    · exact Or.inl zero
    · exact Or.inr (F.le_divEven_of_drop drops)
  rw [F.unitsOf_shape (F.divEven_le_binade num pos) normal]
  have binade : F.drop num den ≤ j := by
    by_contra above
    have drops : 0 < F.drop num den := by omega
    have large := F.binade_le_div drops
    have cut : num / den ≤ 2 ^ j := Nat.div_le_of_le_mul small
    have strict : 2 ^ j < 2 ^ (F.mant + F.drop num den) :=
      Nat.pow_lt_pow_right (by omega) (by omega)
    omega
  have quotient : divEven num (den * 2 ^ F.drop num den) ≤ 2 ^ (j - F.drop num den) := by
    refine divEven_le (by positivity) ?_
    rw [Nat.mul_assoc, ← pow_add, Nat.add_sub_cancel' binade]
    exact small
  calc divEven num (den * 2 ^ F.drop num den) * 2 ^ F.drop num den
      ≤ 2 ^ (j - F.drop num den) * 2 ^ F.drop num den := Nat.mul_le_mul_right _ quotient
    _ = 2 ^ j := by rw [← pow_add, Nat.sub_add_cancel binade]

/-- A whole number of units with at most `mant + 1` significant bits rounds to itself. -/
theorem roundUnits_representable {num den n k : Nat} (pos : 0 < den)
    (same : num = den * (n * 2 ^ k)) (short : n < 2 ^ (F.mant + 1)) (inRange : n * 2 ^ k ≤ 2 ^ F.top) :
    F.roundUnits num den < F.infMag ∧ F.unitsOf (F.roundUnits num den) = n * 2 ^ k := by
  have finite := (F.roundUnits_bounded pos (same.le.trans (Nat.mul_le_mul_left _ inRange)) le_rfl).1
  have ratio : num / den = n * 2 ^ k := by rw [same, Nat.mul_div_cancel_left _ pos]
  have shape : F.roundUnits num den
      = F.drop num den * 2 ^ F.mant + divEven num (den * 2 ^ F.drop num den) := by
    have cut := finite
    unfold roundUnits at cut ⊢
    omega
  refine ⟨finite, ?_⟩
  -- a dropped bit would need more than `mant + 1` significant ones above it
  have binade : F.drop num den ≤ k := by
    by_contra above
    have drops : 0 < F.drop num den := by omega
    have large := F.binade_le_div drops
    rw [ratio] at large
    have cap : n * 2 ^ k < 2 ^ (F.mant + 1) * 2 ^ k := Nat.mul_lt_mul_of_pos_right short (by positivity)
    rw [← pow_add] at cap
    have order : 2 ^ (F.mant + 1 + k) ≤ 2 ^ (F.mant + F.drop num den) :=
      Nat.pow_le_pow_right (by omega) (by omega)
    omega
  have quotient : num = den * 2 ^ F.drop num den * (n * 2 ^ (k - F.drop num den)) := by
    have power : 2 ^ F.drop num den * 2 ^ (k - F.drop num den) = 2 ^ k := by
      rw [← pow_add, Nat.add_sub_cancel' binade]
    calc num = den * (n * (2 ^ F.drop num den * 2 ^ (k - F.drop num den))) := by rw [power, ← same]
      _ = den * 2 ^ F.drop num den * (n * 2 ^ (k - F.drop num den)) := by ring
  have normal : F.drop num den = 0 ∨ 2 ^ F.mant ≤ divEven num (den * 2 ^ F.drop num den) := by
    rcases Nat.eq_zero_or_pos (F.drop num den) with zero | drops
    · exact Or.inl zero
    · exact Or.inr (F.le_divEven_of_drop drops)
  have exactQuotient : divEven num (den * 2 ^ F.drop num den) = n * 2 ^ (k - F.drop num den) := by
    have rounded := divEven_mul (show 0 < den * 2 ^ F.drop num den by positivity)
      (n * 2 ^ (k - F.drop num den))
    rwa [← quotient] at rounded
  rw [shape, F.unitsOf_shape (F.divEven_le_binade num pos) normal, exactQuotient, Nat.mul_assoc,
    ← pow_add, Nat.sub_add_cancel binade]

/-- The units of a pattern are a short significand times a power of two. -/
theorem unitsOf_significand (mag : Nat) : ∃ n, n < 2 ^ (F.mant + 1) ∧ ∃ k, F.unitsOf mag = n * 2 ^ k := by
  have rest : mag % 2 ^ F.mant < 2 ^ F.mant := Nat.mod_lt _ (by positivity)
  have double : 2 ^ (F.mant + 1) = 2 ^ F.mant * 2 := pow_succ _ _
  unfold unitsOf
  split_ifs
  · exact ⟨mag % 2 ^ F.mant, by omega, 0, by rw [pow_zero, Nat.mul_one]⟩
  · exact ⟨mag % 2 ^ F.mant + 2 ^ F.mant, by omega, _, rfl⟩

/-- The largest finite magnitude, in units. -/
theorem unitsOf_le_max {mag : Nat} (finite : mag < F.infMag) :
    F.unitsOf mag ≤ (2 ^ (F.mant + 1) - 1) * 2 ^ (2 ^ F.expo - 3) := by
  have four := F.four_le_two_pow_expo
  have positive : 0 < 2 ^ F.mant := by positivity
  have rest : mag % 2 ^ F.mant < 2 ^ F.mant := Nat.mod_lt _ positive
  have double : 2 ^ (F.mant + 1) = 2 ^ F.mant * 2 := pow_succ _ _
  have field : mag / 2 ^ F.mant < 2 ^ F.expo - 1 := by
    rw [Nat.div_lt_iff_lt_mul positive]
    exact finite
  unfold unitsOf
  split_ifs
  · calc mag % 2 ^ F.mant ≤ (2 ^ (F.mant + 1) - 1) * 1 := by omega
      _ ≤ (2 ^ (F.mant + 1) - 1) * 2 ^ (2 ^ F.expo - 3) :=
        Nat.mul_le_mul_left _ (Nat.one_le_two_pow)
  · exact Nat.mul_le_mul (by omega) (Nat.pow_le_pow_right (by omega) (by omega))

/-- A magnitude with a small exponent field has few units. -/
theorem unitsOf_le_pow {mag k : Nat} (field : mag / 2 ^ F.mant ≤ k) (positive : 1 ≤ k) :
    F.unitsOf mag ≤ 2 ^ (F.mant + k) := by
  have rest : mag % 2 ^ F.mant < 2 ^ F.mant := Nat.mod_lt _ (by positivity)
  unfold unitsOf
  split_ifs
  · exact rest.le.trans (Nat.pow_le_pow_right (by omega) (by omega))
  · calc (mag % 2 ^ F.mant + 2 ^ F.mant) * 2 ^ (mag / 2 ^ F.mant - 1)
        ≤ 2 ^ (F.mant + 1) * 2 ^ (mag / 2 ^ F.mant - 1) :=
          Nat.mul_le_mul_right _ (by rw [pow_succ]; omega)
      _ = 2 ^ (F.mant + 1 + (mag / 2 ^ F.mant - 1)) := (pow_add _ _ _).symm
      _ ≤ 2 ^ (F.mant + k) := Nat.pow_le_pow_right (by omega) (by omega)

theorem isqrt_sq_le (bits value root : Nat) (start : root ^ 2 ≤ value) :
    isqrt bits value root ^ 2 ≤ value := by
  induction bits generalizing root with
  | zero => exact start
  | succ bits ih =>
    unfold isqrt
    split_ifs with fits
    · exact ih _ fits
    · exact ih _ start

/-- A square root does not pass the root of a power of four. -/
theorem roundSqrt_bounded {value j : Nat} (small : value ≤ 2 ^ (2 * j)) (inRange : j ≤ F.top) :
    F.roundSqrt value < F.infMag ∧ F.unitsOf (F.roundSqrt value) ≤ 2 ^ j := by
  unfold roundSqrt
  set root := isqrt ((F.mant + 2 ^ F.expo + F.scale) / 2 + 2) (4 * value) 0
  have square : root ^ 2 ≤ 4 * value := isqrt_sq_le _ _ _ (by simp)
  have cap : 4 * value ≤ (2 * 2 ^ j) ^ 2 := by
    rw [mul_pow, ← pow_mul, Nat.mul_comm j 2]
    omega
  refine F.roundUnits_bounded (by norm_num) ?_ inRange
  have atMost : root ≤ 2 * 2 ^ j := (Nat.pow_le_pow_iff_left (by norm_num)).mp (square.trans cap)
  show 2 * root + (if root ^ 2 = 4 * value then 0 else 1) ≤ 4 * 2 ^ j
  split_ifs with isSquare
  · omega
  · have strict : root < 2 * 2 ^ j :=
      (Nat.pow_lt_pow_iff_left (by norm_num : 2 ≠ 0)).mp ((lt_of_le_of_ne square isSquare).trans_le cap)
    omega

end Format

/-! ### The operations -/

namespace Flt

variable {F G : Format}

theorem infMag_lt_signWeight (F : Format) : F.infMag < F.signWeight := by
  have positive : 0 < 2 ^ F.mant := by positivity
  have four := F.four_le_two_pow_expo
  unfold Format.infMag Format.signWeight
  rw [Nat.add_comm F.mant, pow_add]
  exact Nat.mul_lt_mul_of_pos_right (by omega) positive

theorem width_eq (F : Format) : 2 ^ F.width = 2 * F.signWeight := by
  unfold Format.width Format.signWeight
  rw [pow_succ]
  ring

section Small

variable (neg : Bool) {mag : Nat} (small : mag < F.signWeight)

include small

theorem ofParts_toNat : (ofParts neg mag : Flt F).bits.toNat = (if neg then F.signWeight else 0) + mag := by
  have width := width_eq F
  show (BitVec.ofNat F.width _).toNat = _
  rw [BitVec.toNat_ofNat, Nat.mod_eq_of_lt]
  cases neg <;> simp <;> omega

@[simp] theorem mag_ofParts : (ofParts neg mag : Flt F).mag = mag := by
  unfold Flt.mag
  rw [ofParts_toNat neg small]
  cases neg
  · simp [Nat.mod_eq_of_lt small]
  · simp [Nat.mod_eq_of_lt small]

@[simp] theorem neg_ofParts : (ofParts neg mag : Flt F).neg = neg := by
  unfold Flt.neg
  rw [ofParts_toNat neg small]
  cases neg
  · simp [small]
  · simp

end Small

theorem mag_lt (x : Flt F) : x.mag < F.signWeight := Nat.mod_lt _ (Nat.two_pow_pos _)

variable {x y : Flt F}

theorem ext_toNat (same : x.bits.toNat = y.bits.toNat) : x = y := by
  cases x
  cases y
  rw [Flt.mk.injEq]
  exact BitVec.eq_of_toNat_eq same

/-- A value is its sign and its magnitude. -/
theorem ofParts_parts (x : Flt F) : ofParts x.neg x.mag = x := by
  have width := width_eq F
  have bound := x.bits.isLt
  have split := Nat.div_add_mod x.bits.toNat F.signWeight
  have rest : x.bits.toNat % F.signWeight < F.signWeight := x.mag_lt
  apply ext_toNat
  rw [ofParts_toNat _ (mag_lt _)]
  unfold Flt.neg Flt.mag
  by_cases high : F.signWeight ≤ x.bits.toNat
  · rw [decide_eq_true high, if_pos rfl, Nat.mod_eq_sub_mod high, Nat.mod_eq_of_lt (by omega)]
    omega
  · rw [decide_eq_false high, if_neg (by simp), Nat.mod_eq_of_lt (by omega)]
    omega

theorem isFinite_iff {x : Flt F} : x.isFinite = true ↔ x.mag < F.infMag := decide_eq_true_iff

theorem lt_iff : x.lt y = true ↔ x.isNaN = false ∧ y.isNaN = false ∧ x.key < y.key := by
  unfold lt
  simp only [Bool.and_eq_true, Bool.not_eq_true', decide_eq_true_eq, and_assoc]

theorem lt_trans {x y z : Flt F} (first : x.lt y = true) (second : y.lt z = true) : x.lt z = true := by
  rw [lt_iff] at first second ⊢
  exact ⟨first.1, second.2.1, first.2.2.trans second.2.2⟩

theorem lt_asymm (first : x.lt y = true) : y.lt x = false := by
  rw [← Bool.not_eq_true, lt_iff]
  exact fun second => absurd (lt_iff.mp first).2.2 (not_lt_of_gt second.2.2)

theorem isNaN_of_isFinite {x : Flt F} (finite : x.isFinite = true) : x.isNaN = false :=
  decide_eq_false (by have := isFinite_iff.mp finite; omega)

/-- What is neither infinite nor not a number is finite. -/
theorem isFinite_of_not {x : Flt F} (number : x.isNaN = false) (bounded : x.isInf = false) :
    x.isFinite = true := by
  unfold isNaN at number
  unfold isInf at bounded
  rw [isFinite_iff]
  rw [decide_eq_false_iff_not] at number bounded
  omega

theorem isInf_of_isFinite {x : Flt F} (finite : x.isFinite = true) : x.isInf = false :=
  decide_eq_false (by have := isFinite_iff.mp finite; omega)

/-- A finite value of magnitude at most `2 ^ j` units. -/
def Bounded (x : Flt F) (j : Nat) : Prop := x.isFinite = true ∧ x.units ≤ 2 ^ j

theorem Bounded.mono {x : Flt F} {j k : Nat} (bounded : Bounded x j) (le : j ≤ k) : Bounded x k :=
  ⟨bounded.1, bounded.2.trans (Nat.pow_le_pow_right (by omega) le)⟩

/-- A magnitude of the format with a sign. -/
theorem ofParts_bounded (neg : Bool) {mag j : Nat}
    (inside : mag < F.infMag ∧ F.unitsOf mag ≤ 2 ^ j) : Bounded (ofParts neg mag : Flt F) j := by
  have same := mag_ofParts (F := F) neg (inside.1.trans (infMag_lt_signWeight F))
  refine ⟨isFinite_iff.mpr (by rw [same]; exact inside.1), ?_⟩
  unfold units
  rw [same]
  exact inside.2

theorem round_bounded (neg : Bool) {num den j : Nat} (pos : 0 < den) (small : num ≤ den * 2 ^ j)
    (inRange : j ≤ F.top) : Bounded (round neg num den : Flt F) j :=
  ofParts_bounded neg (F.roundUnits_bounded pos small inRange)

theorem negate_bounded {x : Flt F} {j : Nat} (bounded : Bounded x j) : Bounded x.negate j :=
  ofParts_bounded (!x.neg) ⟨isFinite_iff.mp bounded.1, bounded.2⟩

theorem natAbs_signedUnits (x : Flt F) : x.signedUnits.natAbs = x.units := by
  unfold signedUnits
  split_ifs
  · simp
  · simp

theorem add_of_isFinite (first : x.isFinite = true) (second : y.isFinite = true) :
    add x y = roundInt (x.neg && y.neg) (x.signedUnits + y.signedUnits) := by
  unfold add
  simp [isNaN_of_isFinite first, isNaN_of_isFinite second, isInf_of_isFinite first,
    isInf_of_isFinite second]

theorem natAbs_sum_le (x y : Flt F) : (x.signedUnits + y.signedUnits).natAbs ≤ x.units + y.units := by
  have triangle := Int.natAbs_add_le x.signedUnits y.signedUnits
  rwa [natAbs_signedUnits, natAbs_signedUnits] at triangle

theorem add_bounded {j : Nat} (first : Bounded x j) (second : Bounded y j)
    (inRange : j + 1 ≤ F.top) : Bounded (add x y) (j + 1) := by
  rw [add_of_isFinite first.1 second.1]
  refine round_bounded _ Nat.one_pos ?_ inRange
  have sum := natAbs_sum_le x y
  have one := first.2
  have two := second.2
  rw [pow_succ]
  omega

theorem sub_bounded {j : Nat} (first : Bounded x j) (second : Bounded y j)
    (inRange : j + 1 ≤ F.top) : Bounded (sub x y) (j + 1) :=
  add_bounded first (negate_bounded second) inRange

/-- Adding a value well below the largest one to any finite value stays finite. -/
theorem add_isFinite {j : Nat} (first : x.isFinite = true) (second : Bounded y j)
    (small : j + 2 ≤ 2 ^ F.expo - 3) : (add x y).isFinite = true := by
  rw [add_of_isFinite first second.1]
  have sum := natAbs_sum_le x y
  have one : x.units ≤ _ := F.unitsOf_le_max (isFinite_iff.mp first)
  have two := second.2
  have gap : 2 * 2 ^ j < 2 ^ (2 ^ F.expo - 3) := by
    rw [← pow_succ']
    exact Nat.pow_lt_pow_right (by omega) (by omega)
  have wide : 2 ^ (F.mant + 2) - 1 = 2 * (2 ^ (F.mant + 1) - 1) + 1 := by
    have : 0 < 2 ^ (F.mant + 1) := by positivity
    rw [pow_succ 2 (F.mant + 1)]
    omega
  have finite := @Format.roundUnits_lt_infMag F (x.signedUnits + y.signedUnits).natAbs _ Nat.one_pos
    (by rw [wide, Nat.one_mul, Nat.add_mul, Nat.one_mul, Nat.mul_assoc]; omega)
  have shape : F.roundUnits (x.signedUnits + y.signedUnits).natAbs 1 < F.infMag := by
    unfold Format.roundUnits
    omega
  unfold roundInt round
  rw [isFinite_iff, mag_ofParts _ (shape.trans (infMag_lt_signWeight F))]
  exact shape

theorem mul_bounded {j k i : Nat} (first : Bounded x j) (second : Bounded y k)
    (fits : j + k ≤ F.scale + i) (inRange : i ≤ F.top) : Bounded (mul x y) i := by
  unfold mul
  simp only [isNaN_of_isFinite first.1, isNaN_of_isFinite second.1, isInf_of_isFinite first.1,
    isInf_of_isFinite second.1, Bool.or_self, Bool.false_eq_true, if_false]
  refine round_bounded _ (by positivity) ?_ inRange
  calc x.units * y.units ≤ 2 ^ j * 2 ^ k := Nat.mul_le_mul first.2 second.2
    _ = 2 ^ (j + k) := (pow_add _ _ _).symm
    _ ≤ 2 ^ (F.scale + i) := Nat.pow_le_pow_right (by omega) fits
    _ = 2 ^ F.scale * 2 ^ i := pow_add _ _ _

/-- Division by a value of at least `2 ^ k` units. -/
theorem div_bounded {j k i : Nat} (first : Bounded x j) (second : y.isFinite = true)
    (large : 2 ^ k ≤ y.units) (fits : j + F.scale ≤ k + i) (inRange : i ≤ F.top) :
    Bounded (div x y) i := by
  have positive : 0 < y.units := lt_of_lt_of_le (by positivity) large
  have nonzero : y.mag ≠ 0 := by
    intro zero
    unfold units at positive
    rw [zero] at positive
    simp [Format.unitsOf] at positive
  unfold div
  simp only [isNaN_of_isFinite first.1, isNaN_of_isFinite second, isInf_of_isFinite first.1,
    isInf_of_isFinite second, Bool.or_self, Bool.false_eq_true, if_false, if_neg nonzero]
  refine round_bounded _ positive ?_ inRange
  calc x.units * 2 ^ F.scale ≤ 2 ^ j * 2 ^ F.scale := Nat.mul_le_mul_right _ first.2
    _ = 2 ^ (j + F.scale) := (pow_add _ _ _).symm
    _ ≤ 2 ^ (k + i) := Nat.pow_le_pow_right (by omega) fits
    _ = 2 ^ k * 2 ^ i := pow_add _ _ _
    _ ≤ y.units * 2 ^ i := Nat.mul_le_mul_right _ large

theorem sqrt_bounded {x : Flt F} {j i : Nat} (bounded : Bounded x j) (nonneg : x.neg = false)
    (fits : j + F.scale ≤ 2 * i) (inRange : i ≤ F.top) : Bounded (sqrt x) i := by
  unfold sqrt
  rw [isNaN_of_isFinite bounded.1, isInf_of_isFinite bounded.1, nonneg]
  simp only [Bool.false_eq_true, if_false]
  split_ifs with zero
  · refine ⟨bounded.1, ?_⟩
    unfold units
    rw [zero]
    simp [Format.unitsOf]
  · refine ofParts_bounded false (F.roundSqrt_bounded ?_ inRange)
    calc x.units * 2 ^ F.scale ≤ 2 ^ j * 2 ^ F.scale := Nat.mul_le_mul_right _ bounded.2
      _ = 2 ^ (j + F.scale) := (pow_add _ _ _).symm
      _ ≤ 2 ^ (2 * i) := Nat.pow_le_pow_right (by omega) fits

theorem ofInt_bounded {value : Int} {j : Nat} (small : value.natAbs ≤ 2 ^ j)
    (inRange : j + F.scale ≤ F.top) : Bounded (ofInt value : Flt F) (j + F.scale) := by
  refine round_bounded _ Nat.one_pos ?_ inRange
  rw [Nat.one_mul, pow_add]
  exact Nat.mul_le_mul_right _ small

/-! ### Widening and narrowing -/

theorem convert_of_isFinite {x : Flt F} (finite : x.isFinite = true) :
    (convert x : Flt G) = round x.neg (x.units * 2 ^ G.scale) (2 ^ F.scale) := by
  unfold convert
  simp [isNaN_of_isFinite finite, isInf_of_isFinite finite]

section Range

variable {x : Flt F} (finite : x.isFinite = true) (mant : F.mant ≤ G.mant) (scale : F.scale ≤ G.scale)
  (range : F.mant + 2 ^ F.expo + (G.scale - F.scale) ≤ G.top)

include finite mant scale range

/-- Widening a finite value keeps its sign and its exact magnitude. -/
theorem convert_exact :
    (convert x : Flt G).isFinite = true ∧ (convert x : Flt G).neg = x.neg ∧
      (convert x : Flt G).units = x.units * 2 ^ (G.scale - F.scale) := by
  obtain ⟨n, short, k, significand⟩ := F.unitsOf_significand x.mag
  have four := F.four_le_two_pow_expo
  have units : x.units = n * 2 ^ k := significand
  have cap : x.units ≤ 2 ^ (F.mant + 2 ^ F.expo) := by
    refine (F.unitsOf_le_max (isFinite_iff.mp finite)).trans ?_
    calc (2 ^ (F.mant + 1) - 1) * 2 ^ (2 ^ F.expo - 3)
        ≤ 2 ^ (F.mant + 1) * 2 ^ (2 ^ F.expo - 3) := Nat.mul_le_mul_right _ (Nat.sub_le _ _)
      _ = 2 ^ (F.mant + 1 + (2 ^ F.expo - 3)) := (pow_add _ _ _).symm
      _ ≤ 2 ^ (F.mant + 2 ^ F.expo) := Nat.pow_le_pow_right (by omega) (by omega)
  have power : 2 ^ F.scale * 2 ^ (G.scale - F.scale) = 2 ^ G.scale := by
    rw [← pow_add, Nat.add_sub_cancel' scale]
  have rounded := @Format.roundUnits_representable G (x.units * 2 ^ G.scale) (2 ^ F.scale) n
    (k + (G.scale - F.scale)) (by positivity)
    (by rw [units, pow_add, ← power]; ring)
    (short.trans_le (Nat.pow_le_pow_right (by omega) (by omega)))
    (by
      rw [pow_add, ← Nat.mul_assoc, ← units]
      calc x.units * 2 ^ (G.scale - F.scale)
          ≤ 2 ^ (F.mant + 2 ^ F.expo) * 2 ^ (G.scale - F.scale) := Nat.mul_le_mul_right _ cap
        _ = 2 ^ (F.mant + 2 ^ F.expo + (G.scale - F.scale)) := (pow_add _ _ _).symm
        _ ≤ 2 ^ G.top := Nat.pow_le_pow_right (by omega) range)
  have small := rounded.1.trans (infMag_lt_signWeight G)
  rw [convert_of_isFinite finite]
  unfold round
  refine ⟨isFinite_iff.mpr (by rw [mag_ofParts _ small]; exact rounded.1), neg_ofParts _ small, ?_⟩
  show G.unitsOf (ofParts x.neg (G.roundUnits (x.units * 2 ^ G.scale) (2 ^ F.scale)) : Flt G).mag = _
  rw [mag_ofParts _ small, rounded.2, units, pow_add]
  ring

/-- **Widening and narrowing again gives a finite value back.** -/
theorem convert_convert : (convert (convert x : Flt G) : Flt F) = x := by
  obtain ⟨wideFinite, wideNeg, wideUnits⟩ := convert_exact (G := G) finite mant scale range
  have power : 2 ^ F.scale * 2 ^ (G.scale - F.scale) = 2 ^ G.scale := by
    rw [← pow_add, Nat.add_sub_cancel' scale]
  have back : F.roundUnits ((convert x : Flt G).units * 2 ^ F.scale) (2 ^ G.scale) = x.mag :=
    F.roundUnits_exact (isFinite_iff.mp finite) (by positivity)
      (by rw [wideUnits, ← power]; unfold units; ring)
  rw [convert_of_isFinite wideFinite, wideNeg]
  unfold round
  rw [back, ofParts_parts]

end Range

/-- **The double in between.** Every finite single survives a trip through a double. -/
theorem single_double_single {x : Flt binary32} (finite : x.isFinite = true) :
    (convert (convert x : Flt binary64) : Flt binary32) = x :=
  convert_convert finite (by decide) (by decide) (by decide)

theorem double_isFinite {x : Flt binary32} (finite : x.isFinite = true) :
    (convert x : Flt binary64).isFinite = true :=
  (convert_exact finite (by decide) (by decide) (by decide)).1

end Flt

end Binary
