/-
**Views that are told by what enters and what leaves.**

A source shows a view again and again, and with each view it says which elements are new in it and which
are gone, compared with the view before. Someone who only hears the differences adds and removes.

* `mem_replay`: what the listener has is the last view;
* `leaves_between`: an element that enters twice has left in between.
-/

import Mathlib.Tactic

set_option linter.unusedSectionVars false

universe u

/-- A view with its differences. -/
structure ViewChange (α : Type u) where
  view : List α
  entering : List α
  leaving : List α

namespace ViewChange

variable {α : Type u} [DecidableEq α]

/-- A view with the differences to an old one. -/
def since (old view : List α) : ViewChange α where
  view := view
  entering := view.filter fun x => x ∉ old
  leaving := old.filter fun x => x ∉ view

/-- Each change is the one since the view before it. -/
def Follows : List α → List (ViewChange α) → Prop
  | _, [] => True
  | old, change :: rest => change = since old change.view ∧ Follows change.view rest

def lastView (old : List α) (changes : List (ViewChange α)) : List α :=
  changes.foldl (fun _ change => change.view) old

/-- The listener adds what enters, and removes what leaves. -/
def hear (heard : Finset α) (change : ViewChange α) : Finset α :=
  (heard ∪ change.entering.toFinset) \ change.leaving.toFinset

def replay (heard : Finset α) (changes : List (ViewChange α)) : Finset α := changes.foldl hear heard

variable {old view : List α} {changes : List (ViewChange α)} {x : α}

theorem mem_entering_since : x ∈ (since old view).entering ↔ x ∈ view ∧ x ∉ old := by
  simp [since]

theorem mem_leaving_since : x ∈ (since old view).leaving ↔ x ∈ old ∧ x ∉ view := by
  simp [since]

theorem nodup_since (before : old.Nodup) (now : view.Nodup) :
    (since old view).entering.Nodup ∧ (since old view).leaving.Nodup :=
  ⟨now.filter _, before.filter _⟩

/-- **No element is on both sides.** -/
theorem disjoint_since : (since old view).entering.Disjoint (since old view).leaving := by
  intro x enters leaves
  exact (mem_entering_since.mp enters).2 (mem_leaving_since.mp leaves).1

theorem hear_since : hear old.toFinset (since old view) = view.toFinset := by
  ext x
  simp only [hear, Finset.mem_sdiff, Finset.mem_union, List.mem_toFinset, mem_entering_since,
    mem_leaving_since]
  tauto

theorem lastView_append (change : ViewChange α) : lastView old (changes ++ [change]) = change.view := by
  simp [lastView]

theorem follows_append {change : ViewChange α} :
    Follows old (changes ++ [change])
      ↔ Follows old changes ∧ change = since (lastView old changes) change.view := by
  induction changes generalizing old with
  | nil => simp [Follows, lastView]
  | cons first rest ih =>
    show first = _ ∧ Follows first.view (rest ++ [change]) ↔ (first = _ ∧ _) ∧ change = _
    rw [ih, and_assoc]
    rfl

/-- **The listener has the last view.** -/
theorem replay_eq (follows : Follows old changes) :
    replay old.toFinset changes = (lastView old changes).toFinset := by
  induction changes generalizing old with
  | nil => rfl
  | cons first rest ih =>
    have heard : hear old.toFinset first = first.view.toFinset := by
      rw [follows.1]
      exact hear_since
    show replay (hear old.toFinset first) rest = (lastView first.view rest).toFinset
    rw [heard]
    exact ih follows.2

/-- Each change is the one since the old view or since another one. -/
theorem Follows.mem (follows : Follows old changes) {change : ViewChange α} (inside : change ∈ changes) :
    ∃ before, change = since before change.view ∧ (before = old ∨ ∃ other ∈ changes, before = other.view) := by
  induction changes generalizing old with
  | nil => cases inside
  | cons first rest ih =>
    rcases List.mem_cons.mp inside with rfl | later
    · exact ⟨old, follows.1, .inl rfl⟩
    · obtain ⟨before, same, origin⟩ := ih follows.2 later
      refine ⟨before, same, .inr ?_⟩
      rcases origin with rfl | ⟨other, there, rfl⟩
      · exact ⟨first, List.mem_cons_self, rfl⟩
      · exact ⟨other, List.mem_cons_of_mem _ there, rfl⟩

theorem lastView_eq (old : List α) (changes : List (ViewChange α)) :
    lastView old changes = (changes.getLast?.map ViewChange.view).getD old := by
  induction changes using List.reverseRecOn with
  | nil => rfl
  | append_singleton changes change _ => simp [lastView]

/-- An element of the view that enters has left before. -/
theorem leaves_first (follows : Follows old changes) (shown : x ∈ old) {between : List (ViewChange α)}
    {second : ViewChange α} {later : List (ViewChange α)}
    (parts : changes = between ++ second :: later) (enters : x ∈ second.entering) :
    ∃ change ∈ between, x ∈ change.leaving := by
  induction between generalizing old changes with
  | nil =>
    subst parts
    rw [follows.1] at enters
    exact absurd shown (mem_entering_since.mp enters).2
  | cons next rest ih =>
    subst parts
    by_cases still : x ∈ next.view
    · obtain ⟨change, inside, leaves⟩ := ih follows.2 still rfl
      exact ⟨change, List.mem_cons_of_mem _ inside, leaves⟩
    · refine ⟨next, List.mem_cons_self, ?_⟩
      rw [follows.1]
      exact mem_leaving_since.mpr ⟨shown, still⟩

/-- **An element that enters twice has left in between.** -/
theorem leaves_between (follows : Follows old changes) {earlier between later : List (ViewChange α)}
    {first second : ViewChange α} (parts : changes = earlier ++ first :: (between ++ second :: later))
    (entered : x ∈ first.entering) (enters : x ∈ second.entering) :
    ∃ change ∈ between, x ∈ change.leaving := by
  induction earlier generalizing old changes with
  | nil =>
    subst parts
    rw [follows.1] at entered
    exact leaves_first follows.2 (mem_entering_since.mp entered).1 rfl enters
  | cons next rest ih =>
    subst parts
    exact ih follows.2 rfl

end ViewChange
