/-
**An index from values back to those that have them.**

Everyone has one value, or `null`; an index says who has a value. The index is the inverse as long as
nobody gets a value that another one has: `link_iff` is exact about it. Forgetting a value and handing
it on never do harm.
-/

import Mathlib.Tactic

set_option linter.unusedSectionVars false

universe u v

namespace ReverseIndex

variable {I : Type u} {G : Type v} [DecidableEq I] [DecidableEq G] {null : G}
variable {value : I → G} {holder : G → Option I}

/-- Whom the index names for a value other than `null` has it, and the other way round. -/
def Inverts (null : G) (value : I → G) (holder : G → Option I) : Prop :=
  ∀ g, g ≠ null → ∀ i, holder g = some i ↔ value i = g

/-- The index without the value of somebody. -/
def forget (null : G) (value : I → G) (holder : G → Option I) (i : I) : G → Option I :=
  if value i = null then holder else Function.update holder (value i) none

variable (inverts : Inverts null value holder)

include inverts

/-- Nobody shares a value. -/
theorem Inverts.unshared {i j : I} (same : value i = value j) (some : value i ≠ null) : i = j := by
  have first : holder (value i) = .some i := (inverts _ some i).mpr rfl
  have second : holder (value i) = .some j := (inverts _ some j).mpr same.symm
  exact Option.some.inj (first.symm.trans second)

theorem Inverts.holder_none_iff {g : G} (some : g ≠ null) : holder g = none ↔ ∀ i, value i ≠ g := by
  constructor
  · intro none i has
    rw [(inverts g some i).mpr has] at none
    cases none
  · intro nobody
    cases found : holder g with
    | none => rfl
    | some i => exact absurd ((inverts g some i).mp found) (nobody i)

/-- The index may say anything about `null`. -/
theorem Inverts.congr {other : G → Option I}
    (same : ∀ g, g ≠ null → other g = holder g) : Inverts null value other := by
  intro g some i
  rw [same g some]
  exact inverts g some i

/-- Somebody gives up a value. -/
theorem Inverts.forget (i : I) :
    Inverts null (Function.update value i null) (forget null value holder i) := by
  intro g some j
  have left : ReverseIndex.forget null value holder i g = if value i = g then none else holder g := by
    unfold ReverseIndex.forget
    by_cases none : value i = null
    · rw [if_pos none, if_neg fun same => some (same.symm.trans none)]
    · rw [if_neg none, Function.update_apply]
      exact if_congr eq_comm rfl rfl
  rw [left, Function.update_apply]
  split_ifs with has same same
  · exact iff_of_false (fun absent => (nomatch absent)) fun null => some null.symm
  · refine iff_of_false (fun absent => (nomatch absent)) fun other => same ?_
    exact inverts.unshared (other.trans has.symm) (other ▸ some)
  · refine iff_of_false (fun found => has ?_) fun null => some null.symm
    exact same ▸ (inverts g some j).mp found
  · exact inverts g some j

/-- **Somebody gets a value.** The index stays the inverse exactly if the value is in place of none or
of itself, and nobody else has it. -/
theorem Inverts.link_iff {g : G} (some : g ≠ null) (i : I) :
    Inverts null (Function.update value i g) (Function.update holder g (.some i))
      ↔ (value i = null ∨ value i = g) ∧ ∀ j, j ≠ i → value j ≠ g := by
  constructor
  · intro after
    constructor
    · by_contra lost
      obtain ⟨there, other⟩ := not_or.mp lost
      have before : holder (value i) = .some i := (inverts _ there i).mpr rfl
      have kept : Function.update holder g (.some i) (value i) = .some i := by
        rw [Function.update_of_ne other, before]
      have has := (after _ there i).mp kept
      rw [Function.update_self] at has
      exact other has.symm
    · intro j different has
      have kept : Function.update value i g j = g := by
        rw [Function.update_of_ne different, has]
      have named := (after g some j).mpr kept
      rw [Function.update_self] at named
      exact different (Option.some.inj named).symm
  · rintro ⟨room, alone⟩ h other j
    rw [Function.update_apply, Function.update_apply]
    split_ifs with same this this
    · exact iff_of_true (congrArg Option.some this.symm) same.symm
    · refine iff_of_false (fun named => this (Option.some.inj named).symm) fun has => ?_
      exact alone j this (has.trans same)
    · refine iff_of_false (fun named => ?_) fun has => same has.symm
      have has := (inverts h other j).mp named
      rw [this] at has
      exact room.elim (fun none => other (has.symm.trans none)) fun one => same (has.symm.trans one)
    · exact inverts h other j

/-- Somebody takes over the place of another one, with the value. -/
theorem Inverts.rename {old new : I} (free : value new = null) :
    Inverts null (Function.update (Function.update value old null) new (value old))
      (if value old = null then holder else Function.update holder (value old) (some new)) := by
  have forgotten := inverts.forget old
  have vacant : Function.update value old null new = null := by
    rw [Function.update_apply, free, ite_self]
  by_cases none : value old = null
  · have unchanged : Function.update (Function.update value old null) new (value old)
        = Function.update value old null := by
      rw [none]
      exact Function.update_eq_self_iff.mpr vacant.symm
    have same : ReverseIndex.forget null value holder old = holder := if_pos none
    rw [unchanged, if_pos none, ← same]
    exact forgotten
  · have removed : ReverseIndex.forget null value holder old
        = Function.update holder (value old) Option.none := if_neg none
    have linked := (forgotten.link_iff none new).mpr ⟨.inl vacant, fun j different has => ?_⟩
    · rw [removed, Function.update_idem] at linked
      rw [if_neg none]
      exact linked
    · rw [Function.update_apply] at has
      split_ifs at has with same
      · exact none has.symm
      · exact same (inverts.unshared has (has ▸ none))

end ReverseIndex
