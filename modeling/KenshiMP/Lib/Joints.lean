/-
**Relations between two times, across joints.**

What holds between two times with no joint strictly between them, and can be put together at a joint, holds
between any two times (`across`). The induction is on the number of the joints between.
-/

import Mathlib.Tactic

universe u

namespace Joints

variable {τ : Type u} [LinearOrder τ]

/-- The joints strictly between two times. -/
def inside (joints : Finset τ) (s t : τ) : Finset τ := joints.filter fun joint => s < joint ∧ joint < t

theorem mem_inside {joints : Finset τ} {s t joint : τ} :
    joint ∈ inside joints s t ↔ joint ∈ joints ∧ s < joint ∧ joint < t := Finset.mem_filter

theorem across (joints : Finset τ) {R : τ → τ → Prop}
    (smooth : ∀ s t, s ≤ t → (∀ joint ∈ joints, ¬ (s < joint ∧ joint < t)) → R s t)
    (joined : ∀ s, ∀ joint ∈ joints, ∀ t, s < joint → joint < t → R s joint → R joint t → R s t)
    {s t : τ} (order : s ≤ t) : R s t := by
  induction number : (inside joints s t).card using Nat.strong_induction_on generalizing s t with
  | _ count ih =>
    rcases (inside joints s t).eq_empty_or_nonempty with none | ⟨joint, member⟩
    · refine smooth s t order fun joint there between => ?_
      exact Finset.notMem_empty joint (none ▸ mem_inside.mpr ⟨there, between⟩)
    · obtain ⟨there, above, below⟩ := mem_inside.mp member
      have fewer {s' t' : τ} (low : s ≤ s') (high : t' ≤ t) (without : ¬ (s' < joint ∧ joint < t')) :
          (inside joints s' t').card < count := by
        rw [← number]
        refine Finset.card_lt_card (Finset.ssubset_iff_of_subset ?_ |>.mpr ⟨joint, member, ?_⟩)
        · intro other inside'
          obtain ⟨of, after, before⟩ := mem_inside.mp inside'
          exact mem_inside.mpr ⟨of, low.trans_lt after, before.trans_le high⟩
        · exact fun inside' => without (mem_inside.mp inside').2
      refine joined s joint there t above below (ih _ (fewer le_rfl below.le ?_) above.le rfl)
        (ih _ (fewer above.le le_rfl ?_) below.le rfl)
      · exact fun between => lt_irrefl joint between.2
      · exact fun between => lt_irrefl joint between.1

end Joints
