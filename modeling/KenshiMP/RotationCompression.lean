/-
**How accurate the compression of rotations is.**

The components but the greatest one are kept on ten bits each, which is half a step or 0.0007 at most; the
greatest one of a unit quaternion is at least a half, so that what the three errors do to the rest of the
square is divided by almost one when the root is taken.

* `largest_greatest`: the component that is dropped is a greatest one;
* `compress_eq`, `index_packed`, `slot_packed`: the word and its fields;
* `restored_error`: the error of the dropped component;
* `compression_accurate`: both components of the accuracy, the norm, and the second round trip.
-/

import KenshiMP.ExactRotations
import KenshiMP.Lib.UniformQuantizer

set_option linter.unusedSectionVars false

namespace KenshiMP

namespace Exact

namespace Quat

open UniformQuantizer

/-! ### The statement -/

/-- Minus one times a quaternion is the same rotation. -/
def neg (q : Quat ℝ) : Quat ℝ := ⟨-q.w, -q.x, -q.y, -q.z⟩

def normSq (q : Quat ℝ) : ℝ := q.w ^ 2 + q.x ^ 2 + q.y ^ 2 + q.z ^ 2

noncomputable def norm (q : Quat ℝ) : ℝ := √q.normSq

/-- Every component is within 0.003 of the same component of the other. -/
def Close (q other : Quat ℝ) : Prop :=
  |q.w - other.w| ≤ 3 / 1000 ∧ |q.x - other.x| ≤ 3 / 1000 ∧ |q.y - other.y| ≤ 3 / 1000 ∧ |q.z - other.z| ≤ 3 / 1000

/-- What comes back after a compression. -/
noncomputable def roundTrip (q : Quat ℝ) : Quat ℝ := decompress Real.sqrt q.compress

/-! ### The greatest component -/

section Greatest

variable {K : Type*} [Field K] [LinearOrder K] [FloorRing K]

/-- A scan for the greatest magnitude ends at one of the indices, and none has a greater magnitude. -/
theorem scan_greatest (magnitude : ℕ → K) (indices : List ℕ) (start : ℕ) :
    let best := indices.foldl (fun best i => if magnitude best < magnitude i then i else best) start
    best ∈ start :: indices ∧ ∀ i ∈ start :: indices, magnitude i ≤ magnitude best := by
  induction indices generalizing start with
  | nil => simp
  | cons next rest ih =>
    obtain ⟨member, greatest⟩ := ih (if magnitude start < magnitude next then next else start)
    have both : magnitude start ≤ magnitude (if magnitude start < magnitude next then next else start)
        ∧ magnitude next ≤ magnitude (if magnitude start < magnitude next then next else start) := by
      split_ifs with less
      · exact ⟨less.le, le_refl _⟩
      · exact ⟨le_refl _, not_lt.mp less⟩
    have chosen := greatest _ List.mem_cons_self
    rw [List.foldl_cons]
    refine ⟨?_, fun i inside => ?_⟩
    · rcases List.mem_cons.mp member with same | inside
      · rw [same]
        split_ifs
        · exact List.mem_cons_of_mem _ List.mem_cons_self
        · exact List.mem_cons_self
      · exact List.mem_cons_of_mem _ (List.mem_cons_of_mem _ inside)
    · rcases List.mem_cons.mp inside with rfl | inside
      · exact both.1.trans chosen
      · rcases List.mem_cons.mp inside with rfl | inside
        · exact both.2.trans chosen
        · exact greatest i (List.mem_cons_of_mem _ inside)

theorem largest_lt (q : Quat K) : q.largest < 4 := by
  have member := (scan_greatest (fun i => |q.comps i|) [1, 2, 3] 0).1
  simp only [List.mem_cons, List.not_mem_nil, or_false] at member
  unfold largest
  omega

/-- The index of the dropped component. -/
def top (q : Quat K) : Fin 4 := ⟨q.largest, q.largest_lt⟩

/-- The components with the sign of the dropped one taken off. -/
def signed (q : Quat K) (i : Fin 4) : K := q.comps i * q.sign

theorem largest_greatest (q : Quat K) (i : Fin 4) : |q.comps i| ≤ |q.comps q.top| := by
  have all : i.val ∈ [0, 1, 2, 3] := by fin_cases i <;> decide
  exact (scan_greatest (fun i => |q.comps i|) [1, 2, 3] 0).2 i all

end Greatest

/-! ### Packing -/

section Packing

variable {K : Type*} [Field K] [LinearOrder K] [FloorRing K]

/-- The loop of the compression, without the slot that is passed over. -/
theorem compress_eq (q : Quat K) :
    q.compress = UInt32.ofNat q.top.val <<< 30
      ||| clamped (quantized (q.signed (q.top.succAbove 0))) <<< 0
      ||| clamped (quantized (q.signed (q.top.succAbove 1))) <<< 10
      ||| clamped (quantized (q.signed (q.top.succAbove 2))) <<< 20 := by
  have same : q.largest = q.top.val := rfl
  unfold compress
  rw [same]
  generalize q.top = l
  fin_cases l <;> rfl

/-- The loop of the decompression puts the kept components around the restored one. -/
theorem decompress_eq (sqrt : K → K) {packed : UInt32} {l : Fin 4} (dropped : index packed = l.val) :
    (fun i : Fin 4 => (decompress sqrt packed).comps i) = Fin.insertNth l
      (sqrt (max 0 (1 - ∑ slot : Fin 3, dequantize packed slot.val ^ 2)))
      (fun slot : Fin 3 => (dequantize packed slot.val : K)) := by
  have squares : ∑ slot : Fin 3, (dequantize packed slot.val : K) ^ 2
      = 0 + dequantize packed 0 * dequantize packed 0 + dequantize packed 1 * dequantize packed 1
        + dequantize packed 2 * dequantize packed 2 := by
    rw [Fin.sum_univ_three, zero_add, sq, sq, sq]
    rfl
  rw [squares]
  unfold decompress
  rw [dropped]
  funext i
  fin_cases l <;> fin_cases i <;> rfl

theorem or_rotate (x a b c : ℕ) : x ||| a ||| b ||| c = x ||| (c ||| (b ||| a)) := by
  rw [Nat.or_assoc, Nat.or_assoc, Nat.or_comm a, Nat.or_comm b c, Nat.or_assoc]

/-- A field above smaller ones. -/
theorem shift_or {place field below : ℕ} (small : below < 2 ^ place) :
    field <<< place ||| below = field * 2 ^ place + below := by
  rw [Nat.shiftLeft_eq, mul_comm, Nat.two_pow_add_eq_or_of_lt small]

theorem toNat_shift (x : UInt32) (place : ℕ) (room : place < 32) (fits : x.toNat * 2 ^ place < 2 ^ 32) :
    (x <<< UInt32.ofNat place).toNat = x.toNat <<< place := by
  have small : place < 2 ^ 32 := room.trans (by norm_num)
  rw [UInt32.toNat_shiftLeft, UInt32.toNat_ofNat', Nat.mod_eq_of_lt small, Nat.mod_eq_of_lt room,
    Nat.shiftLeft_eq, Nat.mod_eq_of_lt fits]

/-- The word of an index and three fields. -/
theorem word_toNat (l : Fin 4) {a b c : UInt32} (first : a.toNat < 2 ^ 10) (second : b.toNat < 2 ^ 10)
    (third : c.toNat < 2 ^ 10) :
    (UInt32.ofNat l.val <<< 30 ||| a <<< 0 ||| b <<< 10 ||| c <<< 20).toNat
      = l.val * 2 ^ 30 + (c.toNat * 2 ^ 20 + (b.toNat * 2 ^ 10 + a.toNat)) := by
  have four := l.isLt
  have top : (UInt32.ofNat l.val).toNat = l.val := by
    rw [UInt32.toNat_ofNat', Nat.mod_eq_of_lt (four.trans (by norm_num))]
  have index : (UInt32.ofNat l.val <<< 30).toNat = l.val <<< 30 := by
    refine (toNat_shift _ 30 (by norm_num) ?_).trans (by rw [top])
    rw [top]
    omega
  have one : (a <<< 0).toNat = a.toNat := toNat_shift a 0 (by norm_num) (by omega)
  have two : (b <<< 10).toNat = b.toNat <<< 10 := toNat_shift b 10 (by norm_num) (by omega)
  have three : (c <<< 20).toNat = c.toNat <<< 20 := toNat_shift c 20 (by norm_num) (by omega)
  rw [UInt32.toNat_or, UInt32.toNat_or, UInt32.toNat_or, index, one, two, three, or_rotate, shift_or first]
  have upper : c.toNat <<< 20 ||| (b.toNat * 2 ^ 10 + a.toNat) = c.toNat * 2 ^ 20 + (b.toNat * 2 ^ 10 + a.toNat) :=
    shift_or (by omega)
  rw [upper, shift_or (by omega)]

/-- Each field is found again. -/
theorem slot_word {word : UInt32} {l : ℕ} {field : Fin 3 → ℕ} (fits : ∀ slot, field slot < 2 ^ 10)
    (fields : word.toNat = l * 2 ^ 30 + (field 2 * 2 ^ 20 + (field 1 * 2 ^ 10 + field 0))) (slot : Fin 3) :
    ((word >>> UInt32.ofNat (slot.val * 10)) &&& 0x3FF).toNat = field slot := by
  have three := slot.isLt
  have place : slot.val * 10 < 32 := by omega
  have room : slot.val * 10 < 2 ^ 32 := place.trans (by norm_num)
  have mask : (0x3FF : UInt32).toNat = 2 ^ 10 - 1 := rfl
  rw [UInt32.toNat_and, mask, Nat.and_two_pow_sub_one_eq_mod, UInt32.toNat_shiftRight, UInt32.toNat_ofNat',
    Nat.mod_eq_of_lt room, Nat.mod_eq_of_lt place, Nat.shiftRight_eq_div_pow, fields]
  have zero := fits 0
  have one := fits 1
  have two := fits 2
  match slot with
  | 0 => show _ / 2 ^ 0 % 2 ^ 10 = field 0; omega
  | 1 => show _ / 2 ^ 10 % 2 ^ 10 = field 1; omega
  | 2 => show _ / 2 ^ 20 % 2 ^ 10 = field 2; omega

theorem index_word {word : UInt32} {l : Fin 4} {below : ℕ} (fields : word.toNat = l.val * 2 ^ 30 + below)
    (small : below < 2 ^ 30) : index word = l.val := by
  have mask : (0x3 : UInt32).toNat = 2 ^ 2 - 1 := rfl
  have shifted : (word >>> 30).toNat = word.toNat >>> 30 := UInt32.toNat_shiftRight ..
  rw [index, UInt32.toNat_and, mask, Nat.and_two_pow_sub_one_eq_mod, shifted, Nat.shiftRight_eq_div_pow, fields,
    Nat.add_comm, Nat.add_mul_div_right _ _ (by positivity), Nat.div_eq_of_lt small, zero_add]
  exact Nat.mod_eq_of_lt l.isLt

/-- A number in range is clamped to itself. -/
theorem clamped_toNat {n : ℤ} (low : 0 ≤ n) (high : n ≤ 1023) : ((clamped n).toNat : ℤ) = n := by
  rw [clamped, if_neg (by omega), if_neg (by omega), UInt32.toNat_ofNat', Nat.mod_eq_of_lt (by omega),
    Int.toNat_of_nonneg low]

end Packing

/-! ### The quantised components -/

theorem limit_pos : (0 : ℝ) < limit := by norm_num [limit]

theorem range_eq : (range : ℝ) = 2 * limit := by norm_num [range, limit]

theorem scaled_eq (val : ℝ) : scaled val = level limit 1023 val := by
  rw [scaled, range_eq, level]
  norm_num

theorem truncate_eq {val : ℝ} (nonneg : 0 ≤ val) : truncate (val + 5 / 10) = nearest val := by
  have half : (5 / 10 : ℝ) = 1 / 2 := by norm_num
  rw [half]
  exact if_neg (by linarith)

section Unit

variable {q : Quat ℝ} (unit : q.norm = 1)

theorem abs_signed (i : Fin 4) : |q.signed i| = |q.comps i| := by
  unfold signed sign
  split_ifs
  · rw [mul_neg_one, abs_neg]
  · rw [mul_one]

theorem signed_greatest (i : Fin 4) : |q.signed i| ≤ |q.signed q.top| := by
  rw [abs_signed, abs_signed]
  exact largest_greatest q i

/-- The dropped component is positive. -/
theorem signed_nonneg : 0 ≤ q.signed q.top := by
  show 0 ≤ q.comps q.largest * q.sign
  unfold sign
  split_ifs with negative
  · rw [mul_neg_one]
    exact neg_nonneg.mpr negative.le
  · rw [mul_one]
    exact not_lt.mp negative

include unit

theorem sum_signed : ∑ i, q.signed i ^ 2 = 1 := by
  have squared : q.normSq = 1 := by
    rw [norm, Real.sqrt_eq_one] at unit
    exact unit
  have sign : q.sign ^ 2 = 1 := by
    unfold sign
    split_ifs <;> norm_num
  simp only [signed, mul_pow, sign, mul_one]
  rw [Fin.sum_univ_four, ← squared]
  rfl

section Other

variable {i : Fin 4} (other : i ≠ q.top)

include other

/-- A kept component is in the range that is quantised. -/
theorem kept_range : -limit ≤ q.signed i ∧ q.signed i ≤ limit := by
  refine abs_le_of_sq_le_sq' ?_ limit_pos.le
  calc q.signed i ^ 2 ≤ 1 / 2 := sq_le_half (sum_signed unit) signed_greatest other
    _ ≤ limit ^ 2 := by norm_num [limit]

theorem scaled_range : 0 ≤ scaled (q.signed i) ∧ scaled (q.signed i) ≤ 1023 := by
  obtain ⟨low, high⟩ := kept_range unit other
  rw [scaled_eq]
  exact ⟨level_nonneg limit_pos low, level_le limit_pos high⟩

theorem quantized_eq : quantized (q.signed i) = nearest (level limit 1023 (q.signed i)) := by
  rw [quantized, truncate_eq (scaled_range unit other).1, scaled_eq]

/-- The rounded component needs no clamping. -/
theorem quantized_range : 0 ≤ quantized (q.signed i) ∧ quantized (q.signed i) ≤ 1023 := by
  obtain ⟨low, high⟩ := scaled_range unit other
  rw [scaled_eq] at low high
  rw [quantized_eq unit other]
  have range : 0 ≤ nearest (level limit 1023 (q.signed i))
      ∧ nearest (level limit 1023 (q.signed i)) ≤ ((1023 : ℕ) : ℤ) := nearest_mem low high
  exact range

end Other

/-- The field of a slot. -/
theorem field_toNat (slot : Fin 3) :
    ((clamped (quantized (q.signed (q.top.succAbove slot)))).toNat : ℤ)
      = quantized (q.signed (q.top.succAbove slot)) := by
  obtain ⟨low, high⟩ := quantized_range unit (q.top.succAbove_ne slot)
  exact clamped_toNat low high

theorem field_lt (slot : Fin 3) : (clamped (quantized (q.signed (q.top.succAbove slot)))).toNat < 2 ^ 10 := by
  have high := (quantized_range unit (q.top.succAbove_ne slot)).2
  rw [← field_toNat unit slot] at high
  omega

theorem compress_toNat : q.compress.toNat = q.top.val * 2 ^ 30
    + ((clamped (quantized (q.signed (q.top.succAbove 2)))).toNat * 2 ^ 20
    + ((clamped (quantized (q.signed (q.top.succAbove 1)))).toNat * 2 ^ 10
    + (clamped (quantized (q.signed (q.top.succAbove 0)))).toNat)) := by
  rw [compress_eq, word_toNat _ (field_lt unit 0) (field_lt unit 1) (field_lt unit 2)]

theorem index_compress : index q.compress = q.top.val := by
  have zero := field_lt unit 0
  have one := field_lt unit 1
  have two := field_lt unit 2
  exact index_word (compress_toNat unit) (by omega)

theorem slot_compress (slot : Fin 3) :
    ((q.compress >>> UInt32.ofNat (slot.val * 10)) &&& 0x3FF).toNat
      = (clamped (quantized (q.signed (q.top.succAbove slot)))).toNat :=
  slot_word (field_lt unit) (compress_toNat unit) slot

/-- A kept component comes back as the value of its level. -/
theorem dequantize_compress (slot : Fin 3) : (dequantize q.compress slot.val : ℝ)
    = value (limit : ℝ) 1023 (nearest (level limit 1023 (q.signed (q.top.succAbove slot)))) := by
  have cast : (((clamped (quantized (q.signed (q.top.succAbove slot)))).toNat : ℕ) : ℝ)
      = nearest (level limit 1023 (q.signed (q.top.succAbove slot))) := by
    rw [← quantized_eq unit (q.top.succAbove_ne slot)]
    exact_mod_cast field_toNat unit slot
  unfold dequantize
  dsimp only
  rw [slot_compress unit slot, cast, value, range_eq]
  norm_num

/-! ### The dropped component -/

theorem kept_error (slot : Fin 3) :
    |(dequantize q.compress slot.val : ℝ) - q.signed (q.top.succAbove slot)| ≤ 1 / 1446 := by
  rw [dequantize_compress unit slot]
  refine (quantized_error limit_pos (by norm_num)).trans ?_
  norm_num [limit]

theorem dropped_sq : q.signed q.top ^ 2 = 1 - ∑ slot : Fin 3, q.signed (q.top.succAbove slot) ^ 2 := by
  have all := sum_signed unit
  rw [Fin.sum_univ_succAbove _ q.top] at all
  linarith

theorem half_le_dropped : 1 / 2 ≤ q.signed q.top := by
  have quarter := one_le_card_mul_sq (sum_signed unit) signed_greatest
  rw [Fintype.card_fin] at quarter
  refine abs_le_of_sq_le_sq' ?_ signed_nonneg |>.2
  push_cast at quarter
  linarith

/-- What the three errors do to the sum of the squares. -/
theorem sumSq_error : |∑ slot : Fin 3, (dequantize q.compress slot.val : ℝ) ^ 2
    - ∑ slot : Fin 3, q.signed (q.top.succAbove slot) ^ 2| ≤ 21 / 10000 := by
  have total : ∑ slot : Fin 3, |q.signed (q.top.succAbove slot)| ≤ 3 / 2 := by
    refine sum_abs_le (by norm_num) ?_
    have half := half_le_dropped unit
    have rest := dropped_sq unit
    rw [Fintype.card_fin]
    push_cast
    nlinarith
  refine (sumSq_sub_le (by norm_num) (kept_error unit) total).trans ?_
  norm_num

/-- The square under the root is not cut off. -/
theorem rest_nonneg : (49 / 100) ^ 2 ≤ 1 - ∑ slot : Fin 3, (dequantize q.compress slot.val : ℝ) ^ 2 := by
  have half := half_le_dropped unit
  have rest := dropped_sq unit
  have error := (abs_le.mp (sumSq_error unit)).2
  nlinarith

/-- The component that is restored. -/
noncomputable def restored (q : Quat ℝ) : ℝ :=
  √(max 0 (1 - ∑ slot : Fin 3, (dequantize q.compress slot.val : ℝ) ^ 2))

theorem restored_sq : q.restored ^ 2 = 1 - ∑ slot : Fin 3, (dequantize q.compress slot.val : ℝ) ^ 2 := by
  have nonneg : 0 ≤ 1 - ∑ slot : Fin 3, (dequantize q.compress slot.val : ℝ) ^ 2 :=
    le_trans (by norm_num) (rest_nonneg unit)
  rw [restored, max_eq_right nonneg, Real.sq_sqrt nonneg]

/-- **The error of the dropped component.** The two roots add up to almost one. -/
theorem restored_error : |q.restored - q.signed q.top| ≤ 3 / 1000 := by
  have half := half_le_dropped unit
  have almost : 49 / 100 ≤ q.restored := by
    have nonneg : 0 ≤ q.restored := Real.sqrt_nonneg _
    refine abs_le_of_sq_le_sq' ?_ nonneg |>.2
    rw [restored_sq unit]
    exact rest_nonneg unit
  have product : |q.restored - q.signed q.top| * (q.restored + q.signed q.top) ≤ 21 / 10000 := by
    calc |q.restored - q.signed q.top| * (q.restored + q.signed q.top)
        = |(q.restored - q.signed q.top) * (q.restored + q.signed q.top)| := by
          rw [abs_mul, abs_of_nonneg (by linarith : 0 ≤ q.restored + q.signed q.top)]
      _ = |∑ slot : Fin 3, (dequantize q.compress slot.val : ℝ) ^ 2
          - ∑ slot : Fin 3, q.signed (q.top.succAbove slot) ^ 2| := by
          rw [abs_sub_comm (∑ slot : Fin 3, (dequantize q.compress slot.val : ℝ) ^ 2)]
          congr 1
          linear_combination restored_sq unit - dropped_sq unit
      _ ≤ 21 / 10000 := sumSq_error unit
  have error := abs_nonneg (q.restored - q.signed q.top)
  nlinarith

/-! ### The round trip -/

theorem comps_roundTrip : (fun i : Fin 4 => q.roundTrip.comps i)
    = Fin.insertNth q.top q.restored fun slot : Fin 3 => (dequantize q.compress slot.val : ℝ) :=
  decompress_eq Real.sqrt (index_compress unit)

/-- Every component is close to the one without the sign. -/
theorem roundTrip_error (i : Fin 4) : |q.roundTrip.comps i - q.comps i * q.sign| ≤ 3 / 1000 := by
  rw [congrFun (comps_roundTrip unit) i]
  show |_ - q.signed i| ≤ _
  refine Fin.succAboveCases q.top ?_ (fun slot => ?_) i
  · rw [Fin.insertNth_apply_same]
    exact restored_error unit
  · rw [Fin.insertNth_apply_succAbove]
    exact (kept_error unit slot).trans (by norm_num)

theorem norm_roundTrip : q.roundTrip.norm = 1 := by
  have squared : q.roundTrip.normSq = ∑ i : Fin 4, (fun i : Fin 4 => q.roundTrip.comps i) i ^ 2 := by
    rw [Fin.sum_univ_four]
    rfl
  rw [norm, Real.sqrt_eq_one, squared, Fin.sum_univ_succAbove _ q.top, comps_roundTrip unit]
  simp only [Fin.insertNth_apply_same, Fin.insertNth_apply_succAbove, restored_sq unit, sub_add_cancel]

theorem close_roundTrip : q.roundTrip.Close q ∨ q.roundTrip.Close q.neg := by
  have error := roundTrip_error unit
  unfold sign at error
  split_ifs at error
  · simp only [mul_neg_one] at error
    exact .inr ⟨error 0, error 1, error 2, error 3⟩
  · simp only [mul_one] at error
    exact .inl ⟨error 0, error 1, error 2, error 3⟩

end Unit

/-- **The compression is accurate**: up to its sign every unit quaternion comes back within 0.003 and as a unit
quaternion, nothing needs clamping, and a second round trip stays as close. -/
theorem compression_accurate (q : Quat ℝ) (unit : q.norm = 1) :
    (q.roundTrip.Close q ∨ q.roundTrip.Close q.neg)
      ∧ q.roundTrip.norm = 1
      ∧ (∀ i < 4, i ≠ q.largest → (0 ≤ scaled (q.comps i * q.sign) ∧ scaled (q.comps i * q.sign) ≤ 1023)
        ∧ 0 ≤ quantized (q.comps i * q.sign) ∧ quantized (q.comps i * q.sign) ≤ 1023)
      ∧ (q.roundTrip.roundTrip.Close q.roundTrip ∨ q.roundTrip.roundTrip.Close q.roundTrip.neg) := by
  have again := close_roundTrip (norm_roundTrip unit)
  refine ⟨close_roundTrip unit, norm_roundTrip unit, fun i four other => ?_, again⟩
  have kept : (⟨i, four⟩ : Fin 4) ≠ q.top := fun same => other (congrArg Fin.val same)
  have signed : q.signed ⟨i, four⟩ = q.comps i * q.sign := rfl
  rw [← signed]
  exact ⟨scaled_range unit kept, quantized_range unit kept⟩

theorem compression_accurate_turn :
    ((⟨0, 0, 3 / 5, -4 / 5⟩ : Quat ℝ).roundTrip.Close ⟨0, 0, 3 / 5, -4 / 5⟩
        ∨ (⟨0, 0, 3 / 5, -4 / 5⟩ : Quat ℝ).roundTrip.Close (neg ⟨0, 0, 3 / 5, -4 / 5⟩))
      ∧ (⟨0, 0, 3 / 5, -4 / 5⟩ : Quat ℝ).roundTrip.norm = 1 := by
  have unit : (⟨0, 0, 3 / 5, -4 / 5⟩ : Quat ℝ).norm = 1 := by
    rw [norm, Real.sqrt_eq_one]
    norm_num [normSq]
  exact ⟨(compression_accurate _ unit).1, (compression_accurate _ unit).2.1⟩

end Quat

end Exact

end KenshiMP
