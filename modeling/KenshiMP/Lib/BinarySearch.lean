/-
**Binary search, on sorted tables and on others.**

`partitionPoint` is the halving loop of the searches for a bound: it looks at the middle of what is left
and goes behind it or in front of it. On a table that is partitioned it finds the border
(`lt_partitionPoint_iff`), which is where going through the places from the front ends
(`takeWhile_eq_take`). On any table it returns a place, and a table on which each element is found at its
own place is sorted (`strictMono_of_found`): what the loop compares each place with are the ancestors of
that place in a search tree.
-/

import Mathlib.Order.Defs.LinearOrder
import Mathlib.Tactic

namespace BinarySearch

/-- The loop, from a place on and for a number of places; `right` says that the bound is behind a place. -/
def partitionPoint (right : ℕ → Bool) (first count : ℕ) : ℕ :=
  if count = 0 then first
  else if right (first + count / 2) then
    partitionPoint right (first + count / 2 + 1) (count - (count / 2 + 1))
  else partitionPoint right first (count / 2)
termination_by count
decreasing_by all_goals omega

variable {right : ℕ → Bool} {first count : ℕ}

theorem partitionPoint_zero : partitionPoint right first 0 = first := by
  rw [partitionPoint, if_pos rfl]

theorem partitionPoint_right (some : count ≠ 0) (behind : right (first + count / 2) = true) :
    partitionPoint right first count
      = partitionPoint right (first + count / 2 + 1) (count - (count / 2 + 1)) := by
  rw [partitionPoint, if_neg some, if_pos behind]

theorem partitionPoint_left (some : count ≠ 0) (before : right (first + count / 2) = false) :
    partitionPoint right first count = partitionPoint right first (count / 2) := by
  rw [partitionPoint, if_neg some, before]
  rfl

/-- The loop stays inside. -/
theorem partitionPoint_bounds (right : ℕ → Bool) (first count : ℕ) :
    first ≤ partitionPoint right first count ∧ partitionPoint right first count ≤ first + count := by
  induction first, count using partitionPoint.induct right with
  | case1 first => simp [partitionPoint_zero]
  | case2 first count some behind ih =>
    rw [partitionPoint_right some behind]
    omega
  | case3 first count some before ih =>
    rw [partitionPoint_left some (by simpa using before)]
    omega

/-- Only the places inside are looked at. -/
theorem partitionPoint_congr {other : ℕ → Bool}
    (same : ∀ i, first ≤ i → i < first + count → right i = other i) :
    partitionPoint right first count = partitionPoint other first count := by
  induction first, count using partitionPoint.induct right with
  | case1 first => rw [partitionPoint_zero, partitionPoint_zero]
  | case2 first count some behind ih =>
    have behind' := same (first + count / 2) (by omega) (by omega) ▸ behind
    rw [partitionPoint_right some behind, partitionPoint_right some behind']
    exact ih fun i low high => same i (by omega) (by omega)
  | case3 first count some before ih =>
    have before' : right (first + count / 2) = false := by simpa using before
    have before'' := same (first + count / 2) (by omega) (by omega) ▸ before'
    rw [partitionPoint_left some before', partitionPoint_left some before'']
    exact ih fun i low high => same i low (by omega)

/-- **On a partitioned table** the loop finds the border. -/
theorem lt_partitionPoint_iff
    (down : ∀ i j, first ≤ i → i ≤ j → j < first + count → right j = true → right i = true) :
    ∀ i, first ≤ i → i < first + count → (i < partitionPoint right first count ↔ right i = true) := by
  induction first, count using partitionPoint.induct right with
  | case1 first => intro i low high; omega
  | case2 first count some behind ih =>
    intro i low high
    rw [partitionPoint_right some behind]
    have bounds := partitionPoint_bounds right (first + count / 2 + 1) (count - (count / 2 + 1))
    by_cases upper : first + count / 2 < i
    · exact ih (fun i j low' le high' => down i j (by omega) le (by omega)) i (by omega) (by omega)
    · have here := down i (first + count / 2) low (by omega) (by omega) behind
      rw [iff_true_right here]
      omega
  | case3 first count some before ih =>
    intro i low high
    rw [partitionPoint_left some (by simpa using before)]
    have bounds := partitionPoint_bounds right first (count / 2)
    by_cases lower : i < first + count / 2
    · exact ih (fun i j low' le high' => down i j low' le (by omega)) i low (by omega)
    · have here : right i ≠ true := fun behind =>
        before (down (first + count / 2) i (by omega) (by omega) high behind)
      rw [iff_false_right here]
      omega

section Lists

variable {α : Type*} {table : List α} {p : α → Bool} {border : ℕ}

/-- Going through the places from the front ends at the border too. -/
theorem takeWhile_eq_take
    (before : ∀ i, (inside : i < table.length) → (i < border ↔ p table[i] = true)) :
    table.takeWhile p = table.take border := by
  induction table generalizing border with
  | nil => simp
  | cons a rest ih =>
    cases border with
    | zero =>
      have here : ¬ p a = true := mt (before 0 (by simp)).mpr (Nat.lt_irrefl 0)
      rw [List.takeWhile_cons_of_neg here, List.take_zero]
    | succ border =>
      have here : p a = true := (before 0 (by simp)).mp (Nat.succ_pos border)
      rw [List.takeWhile_cons_of_pos here, List.take_succ_cons]
      refine congrArg (a :: ·) (ih fun i inside => ?_)
      rw [← Nat.succ_lt_succ_iff]
      exact before (i + 1) (by simpa using inside)

end Lists

section Keys

variable {κ : Type*} [LinearOrder κ] {key : ℕ → κ}

/-- **A table on which every key is found at its own place is sorted.** -/
theorem strictMono_of_found
    (found : ∀ i, first ≤ i → i < first + count →
      partitionPoint (fun m => decide (key m < key i)) first count = i) :
    ∀ i j, first ≤ i → i < j → j < first + count → key i < key j := by
  induction count using Nat.strong_induction_on generalizing first with
  | _ count ih =>
    intro i j low less high
    have some : count ≠ 0 := by omega
    -- The middle is the root of the search tree: the searches for places in front of it go left, those
    -- for places behind it go right.
    have lower : ∀ k, first ≤ k → k ≤ first + count / 2 → ¬ key (first + count / 2) < key k := by
      intro k low' high' less'
      have place := found k low' (by omega)
      rw [partitionPoint_right some (by simpa using less')] at place
      have bounds := partitionPoint_bounds (fun m => decide (key m < key k)) (first + count / 2 + 1)
        (count - (count / 2 + 1))
      omega
    have upper : ∀ k, first + count / 2 < k → k < first + count → key (first + count / 2) < key k := by
      intro k low' high'
      by_contra same
      have place := found k (by omega) high'
      rw [partitionPoint_left some (by simpa using same)] at place
      have bounds := partitionPoint_bounds (fun m => decide (key m < key k)) first (count / 2)
      omega
    -- Two places with one key would be found at one place.
    have apart : key i ≠ key j := by
      intro same
      have placeI := found i low (by omega)
      have placeJ := found j (by omega) high
      rw [same] at placeI
      omega
    rcases Nat.lt_trichotomy j (first + count / 2) with left | middle | behind
    · refine ih (count / 2) (by omega) (fun k low' high' => ?_) i j low less left
      have place := found k low' (by omega)
      rwa [partitionPoint_left some (by simpa using lower k low' (by omega))] at place
    · rw [← middle] at lower
      exact lt_of_le_of_ne (not_lt.mp (lower i low less.le)) apart
    · rcases Nat.lt_trichotomy i (first + count / 2) with left | middle | behind'
      · exact lt_of_le_of_lt (not_lt.mp (lower i low left.le)) (upper j behind high)
      · rw [middle]
        exact upper j behind high
      · refine ih (count - (count / 2 + 1)) (by omega) (fun k low' high' => ?_) i j behind' less (by omega)
        have place := found k (by omega) (by omega)
        rwa [partitionPoint_right some (by simpa using upper k (by omega) (by omega))] at place

end Keys

end BinarySearch
