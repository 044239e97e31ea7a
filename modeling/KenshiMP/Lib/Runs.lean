/-
**Maximal runs of a property of numbers.**

A run is an interval in which a property holds; it is maximal if the property does not hold beside it.
`runEnd` looks for the end of the run that a number is in, below a bound.

* `Maximal.length_eq`: at one start there is one maximal run at most;
* `Maximal.behind`: where the property holds up to a number at which it does not, every maximal run
  starts with the interval or behind it.
-/

import Mathlib.Tactic

namespace Runs

variable {p : Nat → Prop}

/-- The property holds in the interval, and not directly before or behind it. -/
structure Maximal (p : Nat → Prop) (start length : Nat) : Prop where
  some : 0 < length
  holds : ∀ k < length, p (start + k)
  first : start = 0 ∨ ¬ p (start - 1)
  last : ¬ p (start + length)

namespace Maximal

variable {start length : Nat}

theorem length_eq {other : Nat} (run : Maximal p start length) (same : Maximal p start other) :
    length = other := by
  rcases lt_trichotomy length other with less | equal | more
  · exact absurd (same.holds length less) run.last
  · exact equal
  · exact absurd (run.holds other more) same.last

theorem not_inside {i : Nat} (run : Maximal p start length) (here : p i) (before : i < start) :
    ∃ k, i < k ∧ k < start ∧ ¬ p k := by
  have fails := run.first.resolve_left (by omega)
  refine ⟨start - 1, ?_, by omega, fails⟩
  have differs : start - 1 ≠ i := fun same => fails (same ▸ here)
  omega

/-- **Behind an interval** on which the property holds, a maximal run starts behind its end, too, or it
starts with the interval. -/
theorem behind {i stop : Nat} (run : Maximal p start length) (inside : ∀ k, i ≤ k → k < stop → p k)
    (above : i ≤ start) : start = i ∨ stop ≤ start := by
  by_contra neither
  have both := not_or.mp neither
  have here := inside i le_rfl (by omega)
  obtain ⟨k, after, below, fails⟩ := run.not_inside here (by omega)
  exact fails (inside k (by omega) (by omega))

end Maximal

/-! ### The end of a run -/

variable (p) [DecidablePred p]

/-- The first number from `i` on at which the property does not hold, or the bound `i + left`. -/
def runEnd : (left i : Nat) → Nat
  | 0, i => i
  | left + 1, i => if p i then runEnd left (i + 1) else i

theorem runEnd_succ {left i : Nat} (here : p i) : runEnd p (left + 1) i = runEnd p left (i + 1) :=
  if_pos here

theorem runEnd_here {left i : Nat} (fails : ¬ p i) : runEnd p (left + 1) i = i := if_neg fails

theorem le_runEnd (left i : Nat) : i ≤ runEnd p left i := by
  induction left generalizing i with
  | zero => exact le_rfl
  | succ left ih =>
    by_cases here : p i
    · rw [runEnd_succ p here]
      exact Nat.le_of_succ_le (ih (i + 1))
    · rw [runEnd_here p here]

theorem runEnd_le (left i : Nat) : runEnd p left i ≤ i + left := by
  induction left generalizing i with
  | zero => exact le_rfl
  | succ left ih =>
    by_cases here : p i
    · rw [runEnd_succ p here]
      have rest := ih (i + 1)
      omega
    · rw [runEnd_here p here]
      exact Nat.le_add_right i _

/-- Up to the end, the property holds. -/
theorem runEnd_holds (left i : Nat) : ∀ k, i ≤ k → k < runEnd p left i → p k := by
  induction left generalizing i with
  | zero => exact fun k above below => absurd (lt_of_le_of_lt above below) (lt_irrefl _)
  | succ left ih =>
    by_cases here : p i
    · rw [runEnd_succ p here]
      intro k above below
      rcases Nat.eq_or_lt_of_le above with rfl | later
      · exact here
      · exact ih (i + 1) k later below
    · rw [runEnd_here p here]
      exact fun k above below => absurd (lt_of_le_of_lt above below) (lt_irrefl _)

/-- At the end it does not, unless that is the bound. -/
theorem runEnd_fails {left i : Nat} (before : runEnd p left i < i + left) : ¬ p (runEnd p left i) := by
  induction left generalizing i with
  | zero => exact absurd before (lt_irrefl _)
  | succ left ih =>
    by_cases here : p i
    · rw [runEnd_succ p here] at before ⊢
      exact ih (by omega)
    · rw [runEnd_here p here]
      exact here

end Runs
