/-
**The set bits of a mask, lowest first.**

A mask is searched by taking its lowest set bit and clearing it, until nothing is left. `setBits` is
the list of the bits that this visits (`setBits_cons`).
-/

import Mathlib.Tactic

namespace Mask

/-- The index of the lowest set bit among the first `width`. -/
def lowest (width mask : Nat) : Nat := ((List.range width).find? mask.testBit).getD 0

/-- The mask without its lowest set bit. -/
def clearLowest (mask : Nat) : Nat := mask &&& (mask - 1)

/-- The set bits among the first `width`, lowest first. -/
def setBits (width mask : Nat) : List Nat := (List.range width).filter mask.testBit

variable {width mask bit : Nat}

theorem mem_setBits : bit ∈ setBits width mask ↔ bit < width ∧ mask.testBit bit = true := by
  unfold setBits
  rw [List.mem_filter, List.mem_range]

theorem lt_of_mem (member : bit ∈ setBits width mask) : bit < width := (mem_setBits.mp member).1

theorem length_setBits_le : (setBits width mask).length ≤ width :=
  (List.length_filter_le _ _).trans_eq List.length_range

/-- No set bit is below the lowest one. -/
theorem lowest_le (member : bit ∈ setBits width mask) : lowest width mask ≤ bit := by
  obtain ⟨inside, set⟩ := mem_setBits.mp member
  unfold lowest
  cases found : (List.range width).find? mask.testBit with
  | none => exact Nat.zero_le bit
  | some first =>
    rw [Option.getD_some]
    by_contra below
    obtain ⟨-, before, after, range, none⟩ := List.find?_eq_some_iff_append.mp found
    have sorted : (before ++ first :: after).Pairwise (· < ·) := range ▸ List.pairwise_lt_range
    have listed : bit ∈ before ++ first :: after := range ▸ List.mem_range.mpr inside
    rcases List.mem_append.mp listed with early | late
    · have unset := none bit early
      rw [set] at unset
      cases unset
    · rcases List.mem_cons.mp late with rfl | late
      · exact below (Nat.le_refl bit)
      · have greater := List.rel_of_pairwise_cons (List.pairwise_append.mp sorted).2.1 late
        exact below (Nat.le_of_lt greater)

theorem setBits_zero : setBits width 0 = [] := by
  unfold setBits
  exact List.filter_eq_nil_iff.mpr fun i _ => by rw [Nat.zero_testBit]; exact Bool.false_ne_true

theorem setBits_ne_nil (small : mask < 2 ^ width) (some : mask ≠ 0) : setBits width mask ≠ [] := by
  intro none
  refine some (Nat.eq_of_testBit_eq fun i => ?_)
  rw [Nat.zero_testBit]
  rcases Nat.lt_or_ge i width with inside | outside
  · exact Bool.eq_false_iff.mpr (List.filter_eq_nil_iff.mp none i (List.mem_range.mpr inside))
  · exact Nat.testBit_lt_two_pow (lt_of_lt_of_le small (Nat.pow_le_pow_right Nat.two_pos outside))

/-- A mask, cut at its lowest set bit. -/
theorem split_at (set : mask.testBit bit = true) (below : ∀ i < bit, mask.testBit i = false) :
    ∃ high, mask = 2 ^ bit * (2 * high + 1) := by
  have low : mask % 2 ^ bit = 0 := by
    refine Nat.eq_of_testBit_eq fun i => ?_
    rw [Nat.testBit_mod_two_pow, Nat.zero_testBit]
    rcases Nat.lt_or_ge i bit with inside | outside
    · rw [below i inside, Bool.and_false]
    · rw [decide_eq_false (Nat.not_lt.mpr outside), Bool.false_and]
  have odd : mask / 2 ^ bit % 2 = 1 := by
    have first := set
    rw [Nat.testBit_eq_decide_div_mod_eq] at first
    exact of_decide_eq_true first
  refine ⟨mask / 2 ^ bit / 2, ?_⟩
  have whole := Nat.div_add_mod mask (2 ^ bit)
  have half := Nat.div_add_mod (mask / 2 ^ bit) 2
  rw [odd] at half
  rw [half, ← Nat.add_zero (2 ^ bit * _), ← low, whole]

/-- Clearing the lowest set bit leaves all others. -/
theorem testBit_clearLowest (set : mask.testBit bit = true)
    (below : ∀ i < bit, mask.testBit i = false) (i : Nat) :
    (clearLowest mask).testBit i = (decide (i ≠ bit) && mask.testBit i) := by
  obtain ⟨high, rfl⟩ := split_at set below
  have positive := Nat.two_pow_pos bit
  have less : 2 ^ bit * (2 * high + 1) - 1 = 2 ^ bit * (2 * high) + (2 ^ bit - 1) := by
    rw [Nat.mul_add, Nat.mul_one]
    omega
  unfold clearLowest
  rw [less, Nat.testBit_and, Nat.testBit_two_pow_mul_add _ (Nat.sub_one_lt_of_lt positive),
    Nat.testBit_two_pow_mul]
  rcases Nat.lt_trichotomy i bit with before | rfl | after
  · rw [decide_eq_false (Nat.not_le.mpr before), Bool.false_and, Bool.false_and, Bool.and_false]
  · rw [if_neg (Nat.lt_irrefl i), Nat.sub_self, decide_eq_false (not_not_intro rfl),
      Bool.false_and, Nat.testBit_zero (2 * high), Nat.mul_mod_right]
    exact Bool.and_false _
  · obtain ⟨above, rfl⟩ := Nat.exists_eq_add_of_lt after
    have offset : bit + above + 1 - bit = above + 1 := by omega
    have even : 2 * high / 2 = high := by omega
    have odd : (2 * high + 1) / 2 = high := by omega
    rw [if_neg (Nat.not_lt.mpr (Nat.le_of_lt after)), offset, Nat.testBit_succ, Nat.testBit_succ,
      even, odd, decide_eq_true (Nat.ne_of_gt after), Bool.true_and, Bool.and_assoc, Bool.and_self]

/-- **The first set bit is the lowest one, and the others are those of the cleared mask.** -/
theorem setBits_cons (small : mask < 2 ^ width) (some : mask ≠ 0) :
    setBits width mask = lowest width mask :: setBits width (clearLowest mask) := by
  obtain ⟨bit, rest, listed⟩ := List.exists_cons_of_ne_nil (setBits_ne_nil small some)
  obtain ⟨before, after, range, none, set, others⟩ := List.filter_eq_cons_iff.mp listed
  have found : (List.range width).find? mask.testBit = .some bit := by
    rw [List.find?_eq_some_iff_append]
    exact ⟨set, before, after, range, fun i inside => by
      rw [Bool.not_eq_true _ |>.mp (none i inside)]
      rfl⟩
  have below : ∀ i < bit, mask.testBit i = false := by
    intro i less
    refine Bool.not_eq_true _ |>.mp (none i ?_)
    have sorted : (before ++ bit :: after).Pairwise (· < ·) := range ▸ List.pairwise_lt_range
    have member : i ∈ before ++ bit :: after := by
      rw [← range]
      have inside : bit ∈ List.range width := by
        rw [range]
        exact List.mem_append_right _ List.mem_cons_self
      exact List.mem_range.mpr (less.trans (List.mem_range.mp inside))
    rcases List.mem_append.mp member with inside | inside
    · exact inside
    · rcases List.mem_cons.mp inside with rfl | inside
      · exact absurd less (Nat.lt_irrefl i)
      · have greater := List.rel_of_pairwise_cons (List.pairwise_append.mp sorted).2.1 inside
        exact absurd less (Nat.lt_asymm greater)
  have first : lowest width mask = bit := by
    unfold lowest
    rw [found]
    rfl
  rw [listed, first]
  congr 1
  rw [← others]
  have cleared : (clearLowest mask).testBit = fun i => decide (i ≠ bit) && mask.testBit i :=
    funext (testBit_clearLowest set below)
  have nodup : (before ++ bit :: after).Nodup := range ▸ List.nodup_range
  unfold setBits
  rw [cleared, range, List.filter_append, List.filter_cons, if_neg (by simp)]
  have left : before.filter (fun i => decide (i ≠ bit) && mask.testBit i) = [] := by
    refine List.filter_eq_nil_iff.mpr fun i inside => ?_
    rw [Bool.not_eq_true _ |>.mp (none i inside), Bool.and_false]
    exact Bool.false_ne_true
  rw [left, List.nil_append]
  refine (List.filter_congr fun i inside => ?_).symm
  have apart : i ≠ bit := by
    rintro rfl
    exact (List.nodup_cons.mp (List.nodup_append.mp nodup).2.1).1 inside
  rw [decide_eq_true apart, Bool.true_and]

theorem lowest_mem (small : mask < 2 ^ width) (some : mask ≠ 0) : lowest width mask ∈ setBits width mask := by
  rw [setBits_cons small some]
  exact List.mem_cons_self

end Mask
