/-
**Machines with outputs, their runs, and the rules for invariants.**

A machine is a step function from a state and an event to the next state and the outputs of the
step. A *guard* is a condition on a state and the event about to be handled; a run is *along* a
guard when each of its steps meets the guard in the state it starts from.

* `run_invariant`: what every guarded step preserves holds at the end of every guarded run;
* `along_append`: a guarded run of two parts is a guarded run of each part;
* `along_iff`: where the guard is also necessary, a run is guarded exactly if the invariant holds
  all along it;
* `along_congr`: two guards that say the same of the states of a run;
* `along_iff_along`: two machines side by side, with guards that say the same;
* `run_filter`: events that keep a relation on one side alone may be left out on the other side;
* `exists_break`: what holds at the start of a run and not at its end is broken by one of its steps.
-/

import Mathlib.Tactic

universe u v w

/-- A machine: the next state and the outputs of one step. -/
structure Machine (σ : Type u) (ε : Type v) (ο : Type w) where
  step : σ → ε → σ × List ο

namespace Machine

variable {σ : Type u} {ε : Type v} {ο : Type w} (M : Machine σ ε ο)

/-- The state after one event. -/
def next (state : σ) (event : ε) : σ := (M.step state event).1

/-- The outputs of one event. -/
def emit (state : σ) (event : ε) : List ο := (M.step state event).2

/-- The state after a list of events. -/
def run : σ → List ε → σ
  | state, [] => state
  | state, event :: rest => run (M.next state event) rest

/-- The outputs of a list of events, in order. -/
def outputs : σ → List ε → List ο
  | _, [] => []
  | state, event :: rest => M.emit state event ++ outputs (M.next state event) rest

/-- Every step of the run meets the guard in the state it starts from. -/
def Along (guard : σ → ε → Prop) : σ → List ε → Prop
  | _, [] => True
  | state, event :: rest => guard state event ∧ Along guard (M.next state event) rest

instance decidableAlong (guard : σ → ε → Prop) [∀ s e, Decidable (guard s e)] :
    ∀ state events, Decidable (M.Along guard state events)
  | _, [] => .isTrue trivial
  | state, event :: rest =>
    have := decidableAlong guard (M.next state event) rest
    inferInstanceAs (Decidable (guard state event ∧ M.Along guard (M.next state event) rest))

variable {M}

theorem run_append (state : σ) (first second : List ε) :
    M.run state (first ++ second) = M.run (M.run state first) second := by
  induction first generalizing state with
  | nil => rfl
  | cons event rest ih => exact ih (M.next state event)

theorem outputs_append (state : σ) (first second : List ε) :
    M.outputs state (first ++ second) = M.outputs state first ++ M.outputs (M.run state first) second := by
  induction first generalizing state with
  | nil => rfl
  | cons event rest ih =>
    simp only [List.cons_append, outputs, ih, List.append_assoc]
    rfl

theorem along_append {guard : σ → ε → Prop} {state : σ} {first second : List ε} :
    M.Along guard state (first ++ second)
      ↔ M.Along guard state first ∧ M.Along guard (M.run state first) second := by
  induction first generalizing state with
  | nil => exact ⟨fun rest => ⟨trivial, rest⟩, fun both => both.2⟩
  | cons event rest ih =>
    simp only [List.cons_append, Along, ih, and_assoc]
    rfl

/-- A run of events that meet the guard in every state. -/
theorem along_of_forall {guard : σ → ε → Prop} {events : List ε}
    (always : ∀ event ∈ events, ∀ state, guard state event) {state : σ} :
    M.Along guard state events := by
  induction events generalizing state with
  | nil => trivial
  | cons event rest ih =>
    exact ⟨always event List.mem_cons_self state,
      ih fun other inside => always other (List.mem_cons_of_mem _ inside)⟩

/-- A guard that follows from another one may replace it. -/
theorem Along.mono {guard weaker : σ → ε → Prop} (weaken : ∀ s e, guard s e → weaker s e)
    {state : σ} {events : List ε} (along : M.Along guard state events) :
    M.Along weaker state events := by
  induction events generalizing state with
  | nil => trivial
  | cons event rest ih => exact ⟨weaken _ _ along.1, ih along.2⟩

/-- **The run rule.** What every guarded step preserves holds after every guarded run. -/
theorem run_invariant {guard : σ → ε → Prop} {motive : σ → Prop}
    (preserved : ∀ s e, guard s e → motive s → motive (M.next s e))
    {state : σ} (initial : motive state) {events : List ε}
    (along : M.Along guard state events) : motive (M.run state events) := by
  induction events generalizing state with
  | nil => exact initial
  | cons event rest ih => exact ih (preserved _ _ along.1 initial) along.2

/-- Along a guarded run, what every guarded step preserves holds before each step. -/
theorem Along.strengthen {guard : σ → ε → Prop} {motive : σ → Prop}
    (preserved : ∀ s e, guard s e → motive s → motive (M.next s e))
    {state : σ} (initial : motive state) {events : List ε} (along : M.Along guard state events) :
    M.Along (fun s e => motive s ∧ guard s e) state events := by
  induction events generalizing state with
  | nil => trivial
  | cons event rest ih =>
    exact ⟨⟨initial, along.1⟩, ih (preserved _ _ along.1 initial) along.2⟩

theorem Along.take {guard : σ → ε → Prop} {state : σ} {events : List ε}
    (along : M.Along guard state events) (count : Nat) :
    M.Along guard state (events.take count) := by
  rw [← List.take_append_drop count events] at along
  exact (along_append.mp along).1

/-- **The run rule in both directions.** An invariant that every guarded step preserves, and no
other step does, holds all along a run exactly if each step is guarded. -/
theorem along_iff {guard : σ → ε → Prop} {motive : σ → Prop}
    (preserved : ∀ s e, guard s e → motive s → motive (M.next s e))
    (necessary : ∀ s e, motive s → motive (M.next s e) → guard s e)
    {state : σ} (initial : motive state) {events : List ε} :
    M.Along guard state events ↔ ∀ count, motive (M.run state (events.take count)) := by
  constructor
  · exact fun along count => run_invariant preserved initial (along.take count)
  · intro always
    induction events generalizing state with
    | nil => trivial
    | cons event rest ih =>
      have first : motive (M.next state event) := always 1
      exact ⟨necessary state event initial first, ih first fun count => always (count + 1)⟩

/-- Two guards that say the same wherever an invariant holds that every guarded step preserves. -/
theorem along_congr {guard guard' : σ → ε → Prop} {motive : σ → Prop}
    (same : ∀ s e, motive s → (guard s e ↔ guard' s e))
    (preserved : ∀ s e, motive s → guard s e → motive (M.next s e))
    {state : σ} (initial : motive state) (events : List ε) :
    M.Along guard state events ↔ M.Along guard' state events := by
  induction events generalizing state with
  | nil => exact Iff.rfl
  | cons event rest ih =>
    have here := same state event initial
    constructor
    · rintro ⟨first, later⟩
      exact ⟨here.mp first, (ih (preserved state event initial first)).mp later⟩
    · rintro ⟨first, later⟩
      exact ⟨here.mpr first, (ih (preserved state event initial (here.mpr first))).mpr later⟩

/-- **Two machines side by side.** Where the states stay related and the guards say the same of related
states, a run of one is guarded exactly if the run of the other is. -/
theorem along_iff_along {τ : Type*} {π : Type*} {N : Machine τ ε π} (related : σ → τ → Prop)
    {guard : σ → ε → Prop} {guard' : τ → ε → Prop}
    (steps : ∀ s t e, related s t → related (M.next s e) (N.next t e))
    (same : ∀ s t e, related s t → (guard s e ↔ guard' t e))
    {state : σ} {other : τ} (initial : related state other) (events : List ε) :
    M.Along guard state events ↔ N.Along guard' other events := by
  induction events generalizing state other with
  | nil => exact Iff.rfl
  | cons event rest ih =>
    exact and_congr (same state other event initial) (ih (steps state other event initial))

/-- **Hidden events.** Where events of one kind keep a relation on the left alone, and all others on both
sides, a run is related to the run without the events of that kind. -/
theorem run_filter (related : σ → σ → Prop) (shown : ε → Bool) {guard : σ → ε → Prop}
    (skip : ∀ s t e, shown e = false → guard s e → related s t → related (M.next s e) t)
    (both : ∀ s t e, shown e = true → related s t → related (M.next s e) (M.next t e))
    {state other : σ} (initial : related state other) {events : List ε}
    (along : M.Along guard state events) :
    related (M.run state events) (M.run other (events.filter shown)) := by
  induction events generalizing state other with
  | nil => exact initial
  | cons event rest ih =>
    rw [List.filter_cons]
    split_ifs with visible
    · exact ih (both _ _ _ visible initial) along.2
    · exact ih (skip _ _ _ (Bool.not_eq_true _ |>.mp visible) along.1 initial) along.2

/-- **What holds at the start and not at the end** of a run is broken by one of its steps. -/
theorem exists_break {motive : σ → Prop} {state : σ} {events : List ε} (initial : motive state)
    (broken : ¬ motive (M.run state events)) :
    ∃ first event last, events = first ++ event :: last ∧ motive (M.run state first)
      ∧ ¬ motive (M.next (M.run state first) event) := by
  induction events generalizing state with
  | nil => exact absurd initial broken
  | cons event rest ih =>
    by_cases kept : motive (M.next state event)
    · obtain ⟨first, breaks, last, rfl, held, lost⟩ := ih kept broken
      exact ⟨event :: first, breaks, last, rfl, held, lost⟩
    · exact ⟨[], event, rest, rfl, initial, kept⟩

/-- Every run is along the guard that asks for nothing. -/
theorem along_true (state : σ) (events : List ε) : M.Along (fun _ _ => True) state events :=
  along_of_forall fun _ _ _ => trivial

/-- **The run rule without a guard.** -/
theorem run_invariant_always {motive : σ → Prop} (preserved : ∀ s e, motive s → motive (M.next s e))
    {state : σ} (initial : motive state) (events : List ε) : motive (M.run state events) :=
  run_invariant (fun s e _ => preserved s e) initial (along_true state events)

end Machine
