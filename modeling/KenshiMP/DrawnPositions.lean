/-
**Where a buffer draws an entity, whatever is in it.**

* `lengthSq_sub_le`: two moves that are no faster than a bound, one after the other, are no faster together;
* `placed_early`, `placed_at`, `placed_between`, `placed_late`: the four cases of the interpolation, for
  snapshots whose timestamps are apart.
-/

import KenshiMP.InterpolatedPositions

namespace KenshiMP

namespace Exact

/-! ### Vectors -/

namespace Vec3

theorem lengthSq_nonneg (v : Vec3) : 0 ≤ v.lengthSq :=
  add_nonneg (add_nonneg (mul_self_nonneg _) (mul_self_nonneg _)) (mul_self_nonneg _)

theorem lengthSq_scale (v : Vec3) (s : ℚ) : (v.scale s).lengthSq = v.lengthSq * s ^ 2 := by
  unfold lengthSq scale
  ring

theorem lengthSq_sub_comm (v w : Vec3) : (v.sub w).lengthSq = (w.sub v).lengthSq := by
  unfold lengthSq sub
  ring

theorem lengthSq_sub_self (v : Vec3) : (v.sub v).lengthSq = 0 := by
  unfold lengthSq sub
  ring

def dot (v w : Vec3) : ℚ := v.x * w.x + v.y * w.y + v.z * w.z

/-- The inequality of Cauchy and Schwarz. -/
theorem dot_sq_le (v w : Vec3) : v.dot w ^ 2 ≤ v.lengthSq * w.lengthSq := by
  have gap : v.lengthSq * w.lengthSq - v.dot w ^ 2
      = (v.x * w.y - v.y * w.x) ^ 2 + (v.x * w.z - v.z * w.x) ^ 2 + (v.y * w.z - v.z * w.y) ^ 2 := by
    unfold lengthSq dot
    ring
  have positive : 0 ≤ v.lengthSq * w.lengthSq - v.dot w ^ 2 := by
    rw [gap]
    positivity
  linarith

/-- **Two moves in a row** are no faster than the faster one. -/
theorem lengthSq_sub_le {p m q : Vec3} {bound a b : ℚ} (positive : 0 ≤ bound) (first : 0 ≤ a)
    (second : 0 ≤ b) (before : (m.sub p).lengthSq ≤ bound * a ^ 2)
    (after : (q.sub m).lengthSq ≤ bound * b ^ 2) : (q.sub p).lengthSq ≤ bound * (a + b) ^ 2 := by
  have split : (q.sub p).lengthSq
      = (m.sub p).lengthSq + (q.sub m).lengthSq + 2 * (m.sub p).dot (q.sub m) := by
    unfold lengthSq sub dot
    ring
  have product : (m.sub p).dot (q.sub m) ^ 2 ≤ (bound * a * b) ^ 2 :=
    calc (m.sub p).dot (q.sub m) ^ 2 ≤ (m.sub p).lengthSq * (q.sub m).lengthSq := dot_sq_le _ _
      _ ≤ (bound * a ^ 2) * (bound * b ^ 2) :=
        mul_le_mul before after (lengthSq_nonneg _) (by positivity)
      _ = (bound * a * b) ^ 2 := by ring
  have mixed := le_of_abs_le (abs_le_of_sq_le_sq product (by positivity))
  calc (q.sub p).lengthSq = (m.sub p).lengthSq + (q.sub m).lengthSq + 2 * (m.sub p).dot (q.sub m) := split
    _ ≤ bound * a ^ 2 + bound * b ^ 2 + 2 * (bound * a * b) := by linarith
    _ = bound * (a + b) ^ 2 := by ring

end Vec3

/-! ### The four cases -/

theorem Snapshot.eq_iff {one two : Snapshot} :
    one.toSample = two.toSample ∧ one.velocity = two.velocity ↔ one = two := by
  constructor
  · cases one
    cases two
    rintro ⟨rfl, rfl⟩
    rfl
  · rintro rfl
    exact ⟨rfl, rfl⟩

instance Snapshot.decidableEq : DecidableEq Snapshot := fun _ _ => decidable_of_iff _ Snapshot.eq_iff

namespace EntityInterpState

variable (state : EntityInterpState)

/-- Where the entity is drawn, by the time without the delay. -/
def placed (t : ℚ) : Option Vec3 :=
  match state.bracket t with
  | (none, none) => none
  | (none, some (_, a)) => some a.position
  | (some (_, b), none) => some (extrapolated b t)
  | (some (older, b), some (newer, a)) =>
    if newer = older then some (extrapolated b t) else some (between b a t)

theorem interpolateEntity_eq (renderTime : ℚ) :
    state.interpolateEntity renderTime = state.placed (renderTime - state.jitter.adaptiveDelay) := rfl

/-- Slow enough that it counts as still. -/
theorem extrapolated_still {last : Snapshot} (still : last.velocity.lengthSq ≤ 1 / 1000) (t : ℚ) :
    extrapolated last t = last.position := by
  unfold extrapolated
  exact if_neg fun moves => not_lt.mpr still moves.2.2

/-- The loop comes to the newer snapshots first. -/
theorem snapshots_sorted : state.snapshots.Pairwise fun s s' => s.1 < s'.1 := by
  unfold snapshots
  refine List.Pairwise.filterMap _ (fun i j order s made s' made' => ?_) List.pairwise_lt_range
  obtain ⟨_, -, rfl⟩ := Option.map_eq_some_iff.mp made
  obtain ⟨_, -, rfl⟩ := Option.map_eq_some_iff.mp made'
  exact order

/-- The snapshots that the loop comes to before one are newer. -/
theorem split_ages {s : Nat × Snapshot} {front rest : List (Nat × Snapshot)}
    (parts : state.snapshots = front ++ s :: rest) :
    (∀ x ∈ front, x.1 < s.1) ∧ ∀ x ∈ rest, s.1 < x.1 := by
  have sorted := state.snapshots_sorted
  rw [parts, List.pairwise_append, List.pairwise_cons] at sorted
  exact ⟨fun x inside => sorted.2.2 x inside s List.mem_cons_self, sorted.2.1.1⟩

/-- Different snapshots are more than a millisecond apart. -/
def Apart : Prop :=
  ∀ one ∈ state.snapshots, ∀ two ∈ state.snapshots, one.1 ≠ two.1 →
    1 / 1000 < |one.2.timestamp - two.2.timestamp|

variable {state} {t : ℚ}

theorem Apart.same (apart : state.Apart) {one two : Nat × Snapshot} (first : one ∈ state.snapshots)
    (second : two ∈ state.snapshots) (now : one.2.timestamp = two.2.timestamp) : one = two := by
  by_cases ages : one.1 = two.1
  · exact snapshots_age_inj first second ages
  · have far := apart one first two second ages
    rw [now, sub_self, abs_zero] at far
    exact absurd far (by norm_num)

/-! ### The loop, with ties -/

theorem latest_of {b : Nat × Snapshot} (member : b ∈ state.snapshots) (before : b.2.timestamp ≤ t)
    (newer : ∀ s ∈ state.snapshots, s.1 < b.1 → s.2.timestamp ≤ t → s.2.timestamp < b.2.timestamp)
    (older : ∀ s ∈ state.snapshots, b.1 < s.1 → s.2.timestamp ≤ t → s.2.timestamp ≤ b.2.timestamp) :
    Selection.select (fun s => s.2.timestamp ≤ t) (fun s b => b.2.timestamp < s.2.timestamp)
      state.snapshots = some b := by
  obtain ⟨front, rest, parts⟩ := List.append_of_mem member
  obtain ⟨young, old⟩ := state.split_ages parts
  rw [parts]
  refine Selection.select_first later_iff before (fun s inside => newer s ?_ (young s inside))
    fun s inside => older s ?_ (old s inside)
  · rw [parts]
    exact List.mem_append_left _ inside
  · rw [parts]
    exact List.mem_append_right _ (List.mem_cons_of_mem _ inside)

theorem earliest_of {a : Nat × Snapshot} (member : a ∈ state.snapshots) (after : t ≤ a.2.timestamp)
    (newer : ∀ s ∈ state.snapshots, s.1 < a.1 → t ≤ s.2.timestamp → a.2.timestamp < s.2.timestamp)
    (older : ∀ s ∈ state.snapshots, a.1 < s.1 → t ≤ s.2.timestamp → a.2.timestamp ≤ s.2.timestamp) :
    Selection.select (fun s => t ≤ s.2.timestamp) (fun s a => s.2.timestamp < a.2.timestamp)
      state.snapshots = some a := by
  obtain ⟨front, rest, parts⟩ := List.append_of_mem member
  obtain ⟨young, old⟩ := state.split_ages parts
  rw [parts]
  refine Selection.select_first (fun _ _ => Iff.rfl) after (fun s inside => newer s ?_ (young s inside))
    fun s inside => older s ?_ (old s inside)
  · rw [parts]
    exact List.mem_append_left _ inside
  · rw [parts]
    exact List.mem_append_right _ (List.mem_cons_of_mem _ inside)

/-- Of snapshots with one time, the newest is the earliest from a time on. -/
theorem earliest_newest {a s : Nat × Snapshot}
    (found : Selection.select (fun s => t ≤ s.2.timestamp) (fun s a => s.2.timestamp < a.2.timestamp)
      state.snapshots = some a) (member : s ∈ state.snapshots) (younger : s.1 < a.1) :
    s.2.timestamp ≠ a.2.timestamp := by
  intro same
  obtain ⟨front, rest, parts, worse⟩ := Selection.select_before (fun _ _ => Iff.rfl) found
  obtain ⟨-, after, -⟩ := Selection.select_some (fun _ _ => Iff.rfl) found
  obtain ⟨-, old⟩ := state.split_ages parts
  rw [parts] at member
  rcases List.mem_append.mp member with inside | inside
  · exact absurd (worse s inside (same ▸ after)) (not_lt.mpr same.le)
  · rcases List.mem_cons.mp inside with rfl | later
    · exact lt_irrefl _ younger
    · exact lt_asymm younger (old s later)

section Cases

variable (apart : state.Apart)
include apart

theorem latest_unique {b : Nat × Snapshot} (member : b ∈ state.snapshots) (before : b.2.timestamp ≤ t)
    (latest : ∀ s ∈ state.snapshots, s.2.timestamp ≤ t → s.2.timestamp ≤ b.2.timestamp) :
    Selection.select (fun s => s.2.timestamp ≤ t) (fun s b => b.2.timestamp < s.2.timestamp)
      state.snapshots = some b := by
  refine Selection.select_unique later_iff member before latest fun s inside same => ?_
  exact apart.same inside member (OrderDual.toDual_inj.mp same)

theorem earliest_unique {a : Nat × Snapshot} (member : a ∈ state.snapshots) (after : t ≤ a.2.timestamp)
    (earliest : ∀ s ∈ state.snapshots, t ≤ s.2.timestamp → a.2.timestamp ≤ s.2.timestamp) :
    Selection.select (fun s => t ≤ s.2.timestamp) (fun s a => s.2.timestamp < a.2.timestamp)
      state.snapshots = some a :=
  Selection.select_unique (fun _ _ => Iff.rfl) member after earliest fun _ inside same =>
    apart.same inside member same

theorem placed_early {a : Nat × Snapshot} (member : a ∈ state.snapshots)
    (first : ∀ s ∈ state.snapshots, a.2.timestamp ≤ s.2.timestamp) (early : t < a.2.timestamp) :
    state.placed t = some a.2.position := by
  unfold placed
  rw [bracket_eq, earliest_unique apart member early.le fun s inside _ => first s inside,
    Selection.select_none.mpr fun s inside => not_le.mpr (early.trans_le (first s inside))]

theorem placed_at {s : Nat × Snapshot} (member : s ∈ state.snapshots) :
    state.placed s.2.timestamp = some s.2.position := by
  unfold placed
  rw [bracket_eq, earliest_unique apart member le_rfl fun _ _ after => after,
    latest_unique apart member le_rfl fun _ _ before => before]
  simp only [if_true, extrapolated_self]

theorem placed_between {b a : Nat × Snapshot} (start : b ∈ state.snapshots) (stop : a ∈ state.snapshots)
    (above : b.2.timestamp < t) (below : t < a.2.timestamp)
    (adjacent : ∀ s ∈ state.snapshots, ¬ (b.2.timestamp < s.2.timestamp ∧ s.2.timestamp < a.2.timestamp)) :
    state.placed t = some (lineAt b.2.toSample a.2.toSample t) := by
  have ages : a.1 ≠ b.1 := by
    intro same
    rw [snapshots_age_inj stop start same] at below
    exact lt_asymm above below
  have far := apart a stop b start ages
  rw [abs_of_pos (sub_pos.mpr (above.trans below))] at far
  unfold placed
  rw [bracket_eq, earliest_unique apart stop below.le fun s inside after => ?_,
    latest_unique apart start above.le fun s inside before => ?_]
  · simp only [ages, if_false, between_eq above.le below.le far]
  · by_contra more
    exact adjacent s inside ⟨not_le.mp more, before.trans_lt below⟩
  · by_contra less
    exact adjacent s inside ⟨above.trans_le after, not_le.mp less⟩

theorem placed_late {b : Nat × Snapshot} (member : b ∈ state.snapshots)
    (last : ∀ s ∈ state.snapshots, s.2.timestamp ≤ b.2.timestamp) (late : b.2.timestamp < t) :
    state.placed t = some (extrapolated b.2 t) := by
  unfold placed
  rw [bracket_eq, latest_unique apart member late.le fun s inside _ => last s inside,
    Selection.select_none.mpr fun s inside => not_le.mpr ((last s inside).trans_lt late)]

end Cases

end EntityInterpState

end Exact

end KenshiMP
