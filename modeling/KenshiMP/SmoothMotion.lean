/-
**Whether drawn motion is smooth in time.**

Between two neighbouring snapshots the position is on a line, and the lines meet at the snapshots; the joints
are put together by `Joints.across`. Beyond the last snapshot the position runs ahead with its velocity for a
quarter of a second, and then it is back at the snapshot (`jumps_back`). So the motion is as smooth as the
speeds say exactly if the last snapshot has no velocity that counts.
-/

import KenshiMP.Client.SnapCorrection
import KenshiMP.DrawnPositions
import KenshiMP.Lib.Joints

namespace KenshiMP

namespace Exact

/-! ### What should be -/

namespace EntityInterpState

variable (state : EntityInterpState)

/-- The square of each speed is within the bound: of the speeds between neighbours in time, and of those that
are stored. -/
structure SpeedBound (bound : ℚ) : Prop where
  between : ∀ b ∈ state.snapshots, ∀ a ∈ state.snapshots, b.2.timestamp < a.2.timestamp →
    (∀ s ∈ state.snapshots, ¬ (b.2.timestamp < s.2.timestamp ∧ s.2.timestamp < a.2.timestamp)) →
    (a.2.position.sub b.2.position).lengthSq ≤ bound * (a.2.timestamp - b.2.timestamp) ^ 2
  stored : ∀ s ∈ state.snapshots, s.2.velocity.lengthSq ≤ bound

/-- The latest snapshot has no velocity that the extrapolation would use. -/
def EndsStill : Prop :=
  ∀ b ∈ state.snapshots, (∀ s ∈ state.snapshots, s.2.timestamp ≤ b.2.timestamp) →
    b.2.velocity.lengthSq ≤ 1 / 1000

end EntityInterpState

/-- In no time the entity is drawn to move more than at the greatest of the speeds. -/
def Tracked.Smooth (entity : Tracked) : Prop :=
  ∀ bound, entity.SpeedBound bound → ∀ deltaTime s t p q,
    (entity.getInterpolated deltaTime s).1 = some p → (entity.getInterpolated deltaTime t).1 = some q →
    (q.sub p).lengthSq ≤ bound * (t - s) ^ 2

/-- Without a correction the position is that of the interpolation. -/
theorem getInterpolated_still {entity : Tracked} (still : entity.snap.active = false)
    (deltaTime renderTime : ℚ) :
    (entity.getInterpolated deltaTime renderTime).1 = entity.interpolateEntity renderTime := by
  unfold Tracked.getInterpolated
  cases entity.interpolateEntity renderTime with
  | none => rfl
  | some pos =>
    simp only
    rw [if_neg (by rw [still]; exact Bool.false_ne_true)]

namespace EntityInterpState

variable {state : EntityInterpState} {bound : ℚ}

/-! ### Smooth pieces -/

theorem SpeedBound.nonneg (speeds : state.SpeedBound bound) {s : Nat × Snapshot}
    (member : s ∈ state.snapshots) : 0 ≤ bound :=
  (Vec3.lengthSq_nonneg _).trans (speeds.stored s member)

/-- On one line, the way is the part of the whole that the time is. -/
theorem lineAt_sub (b a : Sample) (s t : ℚ) :
    ((lineAt b a t).sub (lineAt b a s)).lengthSq
      = (a.position.sub b.position).lengthSq * ((t - s) / (a.timestamp - b.timestamp)) ^ 2 := by
  rw [← Vec3.lengthSq_scale]
  congr 1
  unfold lineAt Vec3.add Vec3.sub Vec3.scale
  ext
  · ring
  · ring
  · ring

/-- No faster between two times than the bound allows. -/
def Steady (state : EntityInterpState) (bound s t : ℚ) : Prop :=
  ∀ p q, state.placed s = some p → state.placed t = some q → (q.sub p).lengthSq ≤ bound * (t - s) ^ 2

theorem Steady.of_same {s t : ℚ} {pos : Vec3} (nonneg : 0 ≤ bound) (start : state.placed s = some pos)
    (stop : state.placed t = some pos) : state.Steady bound s t := by
  intro p q first second
  rw [start] at first
  rw [stop] at second
  rw [← Option.some.inj first, ← Option.some.inj second, Vec3.lengthSq_sub_self]
  positivity

section Pieces

variable (apart : state.Apart) (speeds : state.SpeedBound bound) {s t : ℚ}
include apart speeds

/-- Between two neighbours. -/
theorem steady_between {b a : Nat × Snapshot} (start : b ∈ state.snapshots) (stop : a ∈ state.snapshots)
    (above : b.2.timestamp ≤ s) (order : s < t) (below : t ≤ a.2.timestamp)
    (adjacent : ∀ x ∈ state.snapshots,
      ¬ (b.2.timestamp < x.2.timestamp ∧ x.2.timestamp < a.2.timestamp)) : state.Steady bound s t := by
  have span : 0 < a.2.timestamp - b.2.timestamp := by linarith
  have on_line : ∀ time, b.2.timestamp ≤ time → time ≤ a.2.timestamp →
      state.placed time = some (lineAt b.2.toSample a.2.toSample time) := by
    intro time after before
    rcases after.eq_or_lt with rfl | after
    · rw [placed_at apart start]
      unfold lineAt Vec3.add Vec3.scale
      simp
    · rcases before.eq_or_lt with rfl | before
      · rw [placed_at apart stop, lineAt_end after]
      · exact placed_between apart start stop after before adjacent
  intro p q first second
  rw [on_line s above (by linarith)] at first
  rw [on_line t (by linarith) below] at second
  rw [← Option.some.inj first, ← Option.some.inj second, lineAt_sub, div_pow, mul_div_assoc']
  refine (div_le_iff₀ (by positivity)).mpr ?_
  have speed := speeds.between b start a stop (by linarith) adjacent
  calc (a.2.position.sub b.2.position).lengthSq * (t - s) ^ 2
      ≤ bound * (a.2.timestamp - b.2.timestamp) ^ 2 * (t - s) ^ 2 :=
        mul_le_mul_of_nonneg_right speed (sq_nonneg _)
    _ = bound * (t - s) ^ 2 * (a.2.timestamp - b.2.timestamp) ^ 2 := by ring

/-- Before the first snapshot. -/
theorem steady_early {a : Nat × Snapshot} (member : a ∈ state.snapshots)
    (first : ∀ x ∈ state.snapshots, a.2.timestamp ≤ x.2.timestamp) (order : s < t)
    (below : t ≤ a.2.timestamp) : state.Steady bound s t := by
  refine .of_same (speeds.nonneg member) (placed_early apart member first (order.trans_le below)) ?_
  rcases below.eq_or_lt with rfl | early
  · exact placed_at apart member
  · exact placed_early apart member first early

/-- Behind the last one, if it is still. -/
theorem steady_late {b : Nat × Snapshot} (member : b ∈ state.snapshots)
    (last : ∀ x ∈ state.snapshots, x.2.timestamp ≤ b.2.timestamp)
    (still : b.2.velocity.lengthSq ≤ 1 / 1000) (above : b.2.timestamp ≤ s) (order : s < t) :
    state.Steady bound s t := by
  have stays : ∀ time, b.2.timestamp ≤ time → state.placed time = some b.2.position := by
    intro time after
    rcases after.eq_or_lt with rfl | late
    · exact placed_at apart member
    · rw [placed_late apart member last late, extrapolated_still still]
  exact .of_same (speeds.nonneg member) (stays s above) (stays t (above.trans order.le))

end Pieces

/-- What the loop finds beside an interval without snapshots. -/
theorem beside (state : EntityInterpState) (s t : ℚ) :
    ((∀ x ∈ state.snapshots, s < x.2.timestamp)
        ∨ ∃ b ∈ state.snapshots, b.2.timestamp ≤ s
          ∧ ∀ x ∈ state.snapshots, x.2.timestamp ≤ s → x.2.timestamp ≤ b.2.timestamp)
      ∧ ((∀ x ∈ state.snapshots, x.2.timestamp < t)
        ∨ ∃ a ∈ state.snapshots, t ≤ a.2.timestamp
          ∧ ∀ x ∈ state.snapshots, t ≤ x.2.timestamp → a.2.timestamp ≤ x.2.timestamp) := by
  constructor
  · cases found : Selection.select (fun x => x.2.timestamp ≤ s) (fun x b => b.2.timestamp < x.2.timestamp)
        state.snapshots with
    | none => exact .inl fun x inside => not_le.mp (Selection.select_none.mp found x inside)
    | some b =>
      obtain ⟨member, before, latest⟩ := Selection.select_some later_iff found
      exact .inr ⟨b, member, before, latest⟩
  · cases found : Selection.select (fun x => t ≤ x.2.timestamp) (fun x a => x.2.timestamp < a.2.timestamp)
        state.snapshots with
    | none => exact .inl fun x inside => not_le.mp (Selection.select_none.mp found x inside)
    | some a =>
      obtain ⟨member, after, earliest⟩ := Selection.select_some (fun _ _ => Iff.rfl) found
      exact .inr ⟨a, member, after, earliest⟩

section Steadiness

variable (apart : state.Apart) (speeds : state.SpeedBound bound) (still : state.EndsStill) {s t : ℚ}
  (order : s ≤ t)

include apart speeds still order

/-- No snapshot is strictly between the two times: they are on one piece. -/
theorem steady_piece (none : ∀ x ∈ state.snapshots, ¬ (s < x.2.timestamp ∧ x.2.timestamp < t)) :
    state.Steady bound s t := by
  rcases order.eq_or_lt with rfl | order
  · intro p q first second
    rw [first] at second
    rw [Option.some.inj second, Vec3.lengthSq_sub_self, sub_self]
    simp
  · obtain ⟨before, after⟩ := state.beside s t
    rcases before with early | ⟨b, start, above, latest⟩
    · rcases after with late | ⟨a, stop, below, earliest⟩
      · have empty : state.snapshots = [] := by
          refine List.eq_nil_iff_forall_not_mem.mpr fun x inside => ?_
          exact none x inside ⟨early x inside, late x inside⟩
        intro p q first
        unfold placed at first
        rw [bracket_eq, empty] at first
        cases first
      · refine steady_early apart speeds stop (fun x inside => earliest x inside ?_) order below
        exact not_lt.mp fun less => none x inside ⟨early x inside, less⟩
    · have last : ∀ x ∈ state.snapshots, x.2.timestamp < t → x.2.timestamp ≤ b.2.timestamp := by
        intro x inside less
        exact latest x inside (not_lt.mp fun more => none x inside ⟨more, less⟩)
      rcases after with late | ⟨a, stop, below, earliest⟩
      · have final := fun x inside => last x inside (late x inside)
        exact steady_late apart speeds start final (still b start final) above order
      · refine steady_between apart speeds start stop above order below fun x inside between => ?_
        rcases lt_or_ge x.2.timestamp t with less | more
        · exact not_lt.mpr (last x inside less) between.1
        · exact not_lt.mpr (earliest x inside more) between.2

/-- **A buffer that ends still** moves no faster than its speeds. -/
theorem steady_of_endsStill : state.Steady bound s t := by
  refine Joints.across (R := state.Steady bound) (state.snapshots.map fun x => x.2.timestamp).toFinset
    (fun s t order none => ?_) (fun s joint there t above below before after => ?_) order
  · refine steady_piece apart speeds still order fun x inside => none x.2.timestamp ?_
    exact List.mem_toFinset.mpr (List.mem_map_of_mem inside)
  · obtain ⟨x, inside, rfl⟩ := List.mem_map.mp (List.mem_toFinset.mp there)
    have here := placed_at apart inside
    intro p q first second
    have both := Vec3.lengthSq_sub_le (speeds.nonneg inside) (sub_nonneg.mpr above.le)
      (sub_nonneg.mpr below.le) (before p _ first here) (after _ q here second)
    rwa [show x.2.timestamp - s + (t - x.2.timestamp) = t - s by ring] at both

end Steadiness

/-! ### The cap -/

/-- There is a bound. -/
theorem exists_speedBound (state : EntityInterpState) : ∃ bound, state.SpeedBound bound := by
  obtain ⟨between, pairs⟩ := ((state.snapshots ×ˢ state.snapshots).map fun pair =>
    (pair.2.2.position.sub pair.1.2.position).lengthSq
      / (pair.2.2.timestamp - pair.1.2.timestamp) ^ 2).toFinset.exists_le
  obtain ⟨stored, all⟩ := (state.snapshots.map fun x => x.2.velocity.lengthSq).toFinset.exists_le
  refine ⟨max between stored, fun b start a stop order _ => ?_, fun x inside => ?_⟩
  · have span : 0 < (a.2.timestamp - b.2.timestamp) ^ 2 := by
      have positive : 0 < a.2.timestamp - b.2.timestamp := sub_pos.mpr order
      positivity
    have speed := pairs _ (List.mem_toFinset.mpr
      (List.mem_map_of_mem (List.pair_mem_product.mpr ⟨start, stop⟩)))
    exact (div_le_iff₀ span).mp (speed.trans (le_max_left _ _))
  · exact (all _ (List.mem_toFinset.mpr (List.mem_map_of_mem inside))).trans (le_max_right _ _)

/-- **When the quarter of a second is over**, the entity is back at the snapshot, in no time. -/
theorem jumps_back (apart : state.Apart) {b : Nat × Snapshot} (member : b ∈ state.snapshots)
    (last : ∀ x ∈ state.snapshots, x.2.timestamp ≤ b.2.timestamp)
    (moves : 1 / 1000 < b.2.velocity.lengthSq) {later : ℚ} (positive : 0 < later) :
    ∃ p q, state.placed (b.2.timestamp + KMP_EXTRAP_MAX_SEC) = some p
      ∧ state.placed (b.2.timestamp + KMP_EXTRAP_MAX_SEC + later) = some q
      ∧ 1 / 16000 < (q.sub p).lengthSq := by
  have cap : (0 : ℚ) < KMP_EXTRAP_MAX_SEC := by norm_num [KMP_EXTRAP_MAX_SEC]
  refine ⟨_, _, placed_late apart member last (by linarith), placed_late apart member last (by linarith), ?_⟩
  have ahead : extrapolated b.2 (b.2.timestamp + KMP_EXTRAP_MAX_SEC)
      = b.2.position.add (b.2.velocity.scale KMP_EXTRAP_MAX_SEC) := by
    unfold extrapolated
    simp only [add_sub_cancel_left]
    exact if_pos ⟨cap, le_rfl, moves⟩
  have back : extrapolated b.2 (b.2.timestamp + KMP_EXTRAP_MAX_SEC + later) = b.2.position := by
    unfold extrapolated
    exact if_neg fun runs => by linarith [runs.2.1]
  have way : (b.2.position.sub (b.2.position.add (b.2.velocity.scale KMP_EXTRAP_MAX_SEC))).lengthSq
      = b.2.velocity.lengthSq / 16 := by
    unfold Vec3.lengthSq Vec3.sub Vec3.add Vec3.scale KMP_EXTRAP_MAX_SEC
    ring
  rw [ahead, back, way]
  linarith

end EntityInterpState

/-- The drawn motion is as smooth as the speeds exactly if the last snapshot is still. -/
theorem motion_smooth_iff (entity : Tracked) (inactive : entity.snap.active = false)
    (apart : entity.Apart) : entity.Smooth ↔ entity.EndsStill := by
  have drawn (deltaTime renderTime : ℚ) : (entity.getInterpolated deltaTime renderTime).1
      = entity.placed (renderTime - entity.jitter.adaptiveDelay) := by
    rw [getInterpolated_still inactive, EntityInterpState.interpolateEntity_eq]
  constructor
  · intro smooth b member last
    by_contra fast
    obtain ⟨bound, speeds⟩ := entity.exists_speedBound
    have nonneg := speeds.nonneg member
    have soon : (0 : ℚ) < 1 / (1000 * (bound + 1)) := by positivity
    obtain ⟨p, q, start, stop, way⟩ :=
      EntityInterpState.jumps_back apart member last (not_le.mp fast) soon
    have slow := smooth bound speeds 0
      (b.2.timestamp + KMP_EXTRAP_MAX_SEC + entity.jitter.adaptiveDelay)
      (b.2.timestamp + KMP_EXTRAP_MAX_SEC + 1 / (1000 * (bound + 1)) + entity.jitter.adaptiveDelay) p q
      (by rw [drawn, add_sub_cancel_right, start]) (by rw [drawn, add_sub_cancel_right, stop])
    have short : bound * (1 / (1000 * (bound + 1))) ^ 2 ≤ 1 / 1000000 := by
      rw [div_pow, one_pow, mul_one_div, div_le_div_iff₀ (by positivity) (by norm_num)]
      nlinarith [sq_nonneg bound]
    rw [show b.2.timestamp + KMP_EXTRAP_MAX_SEC + 1 / (1000 * (bound + 1)) + entity.jitter.adaptiveDelay
        - (b.2.timestamp + KMP_EXTRAP_MAX_SEC + entity.jitter.adaptiveDelay) = 1 / (1000 * (bound + 1))
      by ring] at slow
    linarith
  · intro still bound speeds deltaTime s t p q first second
    rw [drawn] at first second
    rcases le_total s t with order | order
    · have steady := EntityInterpState.steady_of_endsStill apart speeds still
        (sub_le_sub_right order entity.jitter.adaptiveDelay) p q first second
      rwa [sub_sub_sub_cancel_right] at steady
    · have steady := EntityInterpState.steady_of_endsStill apart speeds still
        (sub_le_sub_right order entity.jitter.adaptiveDelay) q p second first
      rw [sub_sub_sub_cancel_right, Vec3.lengthSq_sub_comm] at steady
      rwa [show (t - s) ^ 2 = (s - t) ^ 2 by ring]

/-- Two snapshots three seconds apart, the second without a velocity. -/
def farApart : Tracked := { toEntityInterpState := EntityInterpState.after [⟨1, {}⟩, ⟨4, { x := 30 }⟩] }

/-- Two snapshots of a walk. -/
def walks : Tracked := { toEntityInterpState := EntityInterpState.after [⟨1, {}⟩, ⟨11 / 10, { x := 1 }⟩] }

theorem motion_smooth_farApart : farApart.Smooth :=
  (motion_smooth_iff farApart rfl (by unfold EntityInterpState.Apart; decide +kernel)).mpr
    (by unfold EntityInterpState.EndsStill; decide +kernel)

/-- A walk of ten units a second jumps back by two and a half when the packets stay away. -/
theorem motion_smooth_fails : ¬ ∀ entity : Tracked, entity.snap.active = false → entity.Apart →
    entity.Smooth := by
  intro holds
  have speeds : walks.SpeedBound 100 := ⟨by decide +kernel, by decide +kernel⟩
  have jump := holds walks rfl (by unfold EntityInterpState.Apart; decide +kernel) 100 speeds 0
    (1350 / 1000 + walks.jitter.adaptiveDelay) (1351 / 1000 + walks.jitter.adaptiveDelay)
    { x := 35 / 10 } { x := 1 } (by decide +kernel) (by decide +kernel)
  norm_num [Vec3.lengthSq, Vec3.sub] at jump

end Exact

end KenshiMP
