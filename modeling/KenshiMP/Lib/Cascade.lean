/-
**Stages that are gone through one after the other until something is accepted.**

A stage finds something or nothing, and what it finds may be turned down; then the next stage has its
turn. Some stages are counted when they find something, and some report whether they have found
something, accepted or not.

* `taken`, `counts`, `Honest`: what is accepted, what has been counted, and that no stage has reported
  what was turned down;
* `Clean`: the first stage that finds something is counted, and what it finds is accepted;
* `counts_of_clean`, `clean_of_counts`: the counts are exact in the clean cases only.
-/

import Mathlib.Tactic

namespace Cascade

/-- What a stage finds, whether that is counted, and whether it is reported. -/
structure Stage (φ : Type*) where
  found : Option φ
  counted : Bool
  reported : Bool

variable {φ : Type*} (accepted : φ → Bool)

/-- The first thing that is accepted. -/
def taken : List (Stage φ) → Option φ
  | [] => none
  | stage :: others =>
    match stage.found with
    | none => taken others
    | some thing => if accepted thing then some thing else taken others

/-- What is counted until then. -/
def counts : List (Stage φ) → List φ
  | [] => []
  | stage :: others =>
    match stage.found with
    | none => counts others
    | some thing =>
      (if stage.counted then [thing] else []) ++ if accepted thing then [] else counts others

/-- What is reported until then has been accepted. -/
def Honest : List (Stage φ) → Prop
  | [] => True
  | stage :: others =>
    match stage.found with
    | none => Honest others
    | some thing => if accepted thing then True else stage.reported = false ∧ Honest others

/-- The first stage that finds something is counted, and that is accepted. -/
def Clean : List (Stage φ) → Prop
  | [] => True
  | stage :: others =>
    match stage.found with
    | none => Clean others
    | some thing => accepted thing = true ∧ stage.counted = true

variable {accepted} {stage : Stage φ} {stages : List (Stage φ)} {thing : φ}

/-! ### The first stage -/

theorem taken_none (nothing : stage.found = none) :
    taken accepted (stage :: stages) = taken accepted stages := by
  rw [taken, nothing]

theorem taken_accepted (found : stage.found = some thing) (good : accepted thing = true) :
    taken accepted (stage :: stages) = some thing := by
  rw [taken, found]
  exact if_pos good

theorem taken_rejected (found : stage.found = some thing) (bad : accepted thing = false) :
    taken accepted (stage :: stages) = taken accepted stages := by
  rw [taken, found]
  exact if_neg (Bool.eq_false_iff.mp bad)

theorem counts_none (nothing : stage.found = none) :
    counts accepted (stage :: stages) = counts accepted stages := by
  rw [counts, nothing]

theorem counts_accepted (found : stage.found = some thing) (good : accepted thing = true) :
    counts accepted (stage :: stages) = if stage.counted then [thing] else [] := by
  rw [counts, found]
  dsimp only
  rw [if_pos good, List.append_nil]

theorem counts_rejected (found : stage.found = some thing) (bad : accepted thing = false) :
    counts accepted (stage :: stages) = (if stage.counted then [thing] else []) ++ counts accepted stages := by
  rw [counts, found]
  dsimp only
  rw [if_neg (Bool.eq_false_iff.mp bad)]

theorem honest_none (nothing : stage.found = none) :
    Honest accepted (stage :: stages) ↔ Honest accepted stages := by
  rw [Honest, nothing]

theorem honest_accepted (found : stage.found = some thing) (good : accepted thing = true) :
    Honest accepted (stage :: stages) := by
  rw [Honest, found]
  dsimp only
  rw [if_pos good]
  trivial

theorem honest_rejected (found : stage.found = some thing) (bad : accepted thing = false) :
    Honest accepted (stage :: stages) ↔ stage.reported = false ∧ Honest accepted stages := by
  rw [Honest, found]
  dsimp only
  rw [if_neg (Bool.eq_false_iff.mp bad)]

theorem clean_none (nothing : stage.found = none) :
    Clean accepted (stage :: stages) ↔ Clean accepted stages := by
  rw [Clean, nothing]

theorem clean_some (found : stage.found = some thing) :
    Clean accepted (stage :: stages) ↔ accepted thing = true ∧ stage.counted = true := by
  rw [Clean, found]

/-- What is accepted has been found by a stage. -/
theorem mem_of_taken (found : taken accepted stages = some thing) :
    ∃ stage ∈ stages, stage.found = some thing := by
  induction stages with
  | nil => exact absurd found.symm (Option.some_ne_none thing)
  | cons stage others ih =>
    have later (rest : taken accepted others = some thing) :
        ∃ other ∈ stage :: others, other.found = some thing := by
      obtain ⟨other, inside, here⟩ := ih rest
      exact ⟨other, List.mem_cons_of_mem stage inside, here⟩
    cases here : stage.found with
    | none =>
      rw [taken_none here] at found
      exact later found
    | some other =>
      cases judged : accepted other with
      | true =>
        rw [taken_accepted here judged] at found
        exact ⟨stage, List.mem_cons_self, here.trans found⟩
      | false =>
        rw [taken_rejected here judged] at found
        exact later found

/-! ### Clean cases -/

/-- **In the clean cases the counts are exact**, and nothing is reported that was turned down. -/
theorem counts_of_clean (clean : Clean accepted stages) :
    counts accepted stages = (taken accepted stages).toList ∧ Honest accepted stages := by
  induction stages with
  | nil => exact ⟨rfl, trivial⟩
  | cons stage others ih =>
    cases found : stage.found with
    | none =>
      rw [counts_none found, taken_none found, honest_none found]
      exact ih ((clean_none found).mp clean)
    | some thing =>
      obtain ⟨good, counted⟩ := (clean_some found).mp clean
      rw [counts_accepted found good, taken_accepted found good, if_pos counted]
      exact ⟨rfl, honest_accepted found good⟩

/-- Where nothing is accepted there, nothing has been found. -/
theorem none_of_clean (clean : Clean accepted stages) (nothing : taken accepted stages = none) :
    ∀ stage ∈ stages, stage.found = none := by
  induction stages with
  | nil => exact fun stage member => absurd member List.not_mem_nil
  | cons stage others ih =>
    cases found : stage.found with
    | none =>
      rw [taken_none found] at nothing
      exact List.forall_mem_cons.mpr ⟨found, ih ((clean_none found).mp clean) nothing⟩
    | some thing =>
      rw [taken_accepted found ((clean_some found).mp clean).1] at nothing
      exact absurd nothing (Option.some_ne_none thing)

/-- **Where all that is counted is reported**, honest stages count what is accepted, or nothing. -/
theorem counts_of_honest (reported : ∀ stage ∈ stages, stage.counted = true → stage.reported = true)
    (honest : Honest accepted stages) :
    counts accepted stages = [] ∨ counts accepted stages = (taken accepted stages).toList := by
  induction stages with
  | nil => exact .inl rfl
  | cons stage others ih =>
    obtain ⟨here, later⟩ := List.forall_mem_cons.mp reported
    cases found : stage.found with
    | none =>
      rw [counts_none found, taken_none found]
      exact ih later ((honest_none found).mp honest)
    | some thing =>
      cases judged : accepted thing with
      | true =>
        rw [counts_accepted found judged, taken_accepted found judged]
        split_ifs with counted
        · exact .inr rfl
        · exact .inl rfl
      | false =>
        obtain ⟨silent, rest⟩ := (honest_rejected found judged).mp honest
        have uncounted : ¬ stage.counted = true := by
          intro counted
          rw [here counted] at silent
          exact absurd silent.symm Bool.false_ne_true
        rw [counts_rejected found judged, taken_rejected found judged, if_neg uncounted]
        exact ih later rest

/-- **Exact counts are those of the clean cases**, if stages that report nothing are never turned down. -/
theorem clean_of_counts
    (silent : ∀ stage ∈ stages, stage.reported = false → ∀ thing, stage.found = some thing →
      accepted thing = true) (honest : Honest accepted stages)
    (exact : counts accepted stages = (taken accepted stages).toList) : Clean accepted stages := by
  induction stages with
  | nil => trivial
  | cons stage others ih =>
    obtain ⟨here, later⟩ := List.forall_mem_cons.mp silent
    cases found : stage.found with
    | none =>
      rw [counts_none found, taken_none found] at exact
      exact (clean_none found).mpr (ih later ((honest_none found).mp honest) exact)
    | some thing =>
      cases judged : accepted thing with
      | true =>
        rw [counts_accepted found judged, taken_accepted found judged] at exact
        refine (clean_some found).mpr ⟨judged, ?_⟩
        by_contra uncounted
        rw [if_neg uncounted] at exact
        exact absurd exact.symm (List.cons_ne_nil thing [])
      | false =>
        obtain ⟨unreported, -⟩ := (honest_rejected found judged).mp honest
        rw [here unreported thing found] at judged
        exact absurd judged.symm Bool.false_ne_true

end Cascade
