/-
**Counting by kind.**

Each place has a kind, or none. The tally of a kind is how many places have it, and a place that
changes its kind changes no more than two tallies, each by one.
-/

import Mathlib.Data.Set.Card
import Mathlib.Tactic

set_option linter.unusedSectionVars false

namespace Tally

variable {α κ : Type*} {kind : α → Option κ} {k : κ}

/-- How many places have the kind. -/
noncomputable def tally (kind : α → Option κ) (k : κ) : ℕ := {a | kind a = some k}.ncard

theorem tally_congr {kind' : α → Option κ} (same : ∀ a, kind' a = some k ↔ kind a = some k) :
    tally kind' k = tally kind k := by
  unfold tally
  congr 1
  ext a
  exact same a

section Finite

variable [Finite α]

theorem tally_eq_zero : tally kind k = 0 ↔ ∀ a, kind a ≠ some k := by
  unfold tally
  rw [Set.ncard_eq_zero (Set.toFinite _), Set.eq_empty_iff_forall_notMem]
  rfl

/-- A list that has all the places of a kind is as long as the tally, or longer. -/
theorem tally_le_length {places : List α} (all : ∀ a, kind a = some k → a ∈ places) :
    tally kind k ≤ places.length := by
  classical
  calc tally kind k ≤ (places.toFinset : Set α).ncard :=
        Set.ncard_le_ncard fun a here => List.mem_toFinset.mpr (all a here)
    _ = places.toFinset.card := Set.ncard_coe_finset _
    _ ≤ places.length := List.toFinset_card_le _

variable [DecidableEq α] [DecidableEq κ]

/-- One place counts for itself. -/
theorem tally_split (kind : α → Option κ) (k : κ) (x : α) :
    tally kind k = {a | a ≠ x ∧ kind a = some k}.ncard + if kind x = some k then 1 else 0 := by
  unfold tally
  split_ifs with here
  · have all : {a | kind a = some k} = insert x {a | a ≠ x ∧ kind a = some k} := by
      ext a
      simp only [Set.mem_ofPred_eq, Set.mem_insert_iff]
      by_cases same : a = x
      · simp [same, here]
      · simp [same]
    rw [all, Set.ncard_insert_of_notMem fun inside => inside.1 rfl]
  · rw [Nat.add_zero]
    congr 1
    ext a
    refine ⟨fun same => ⟨?_, same⟩, And.right⟩
    rintro rfl
    exact here same

/-- **One place changes its kind.** -/
theorem tally_update (kind : α → Option κ) (k : κ) (x : α) (c : Option κ) :
    tally (Function.update kind x c) k + (if kind x = some k then 1 else 0)
      = tally kind k + if c = some k then 1 else 0 := by
  have others : {a | a ≠ x ∧ Function.update kind x c a = some k} = {a | a ≠ x ∧ kind a = some k} := by
    ext a
    refine and_congr_right fun apart => ?_
    rw [Function.update_of_ne apart]
  rw [tally_split (Function.update kind x c) k x, others, Function.update_self, tally_split kind k x]
  omega

/-- From another kind to another kind. -/
theorem tally_update_other {x : α} {c : Option κ} (before : kind x ≠ some k) (after : c ≠ some k) :
    tally (Function.update kind x c) k = tally kind k := by
  have moved := tally_update kind k x c
  rwa [if_neg before, if_neg after] at moved

end Finite

end Tally
