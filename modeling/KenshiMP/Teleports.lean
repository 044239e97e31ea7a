/-
**Teleports: between the two snapshots of one, and beyond it.**

A teleport cancels the correction; the line between the two snapshots and the velocity are those of any other
pair. So the entity is drawn on the way between the two, where it is near one of them everywhere exactly if
two discs around them cover the way (`covered_iff`), and it is flung past the second one with the velocity
of the teleport (`flung_iff`). A correction that a later snapshot has started shifts the way; what of it is
at right angles to the way counts.
-/

import KenshiMP.Client.SnapCorrection
import KenshiMP.DrawnPositions

set_option linter.unusedSectionVars false

namespace KenshiMP

namespace Exact

/-! ### What should be -/

/-- The sample is further than the threshold from where the snapshot before leads. -/
def Teleports (b a : Snapshot) : Prop := (predictionError b a.toSample).Longer KMP_SNAP_THRESHOLD_MAX

/-- Within the threshold. -/
def Near (pos place : Vec3) : Prop := ¬ (pos.sub place).Longer KMP_SNAP_THRESHOLD_MAX

/-- Near one of two snapshots, in a frame: at the times between them, and past the second if it is the
newest. -/
structure Jumps (entity : Tracked) (deltaTime : ℚ) (age : Nat) (b a : Snapshot) : Prop where
  between : ∀ renderTime pos,
    entity.bracket (renderTime - entity.jitter.adaptiveDelay) = (some (age + 1, b), some (age, a)) →
    (entity.getInterpolated deltaTime renderTime).1 = some pos → Near pos b.position ∨ Near pos a.position
  beyond : age = 0 → ∀ renderTime pos, a.timestamp < renderTime - entity.jitter.adaptiveDelay →
    (entity.getInterpolated deltaTime renderTime).1 = some pos → Near pos b.position ∨ Near pos a.position

/-- What the correction takes away in a frame. -/
def Tracked.correction (entity : Tracked) (deltaTime : ℚ) : Vec3 :=
  if entity.snap.active then (entity.snap.apply deltaTime).1 else {}

/-- The square of the part of a vector that is at right angles to another one. -/
def aside (c way : Vec3) : ℚ := c.lengthSq - c.dot way ^ 2 / way.lengthSq

/-- The pair is too near for a line or short enough, and if nothing is newer, the second snapshot has no
velocity from the first or a small one. A pair is not drawn if a newer snapshot has the time of the second
one. -/
structure ShortWay (entity : Tracked) (deltaTime : ℚ) (age : Nat) (b a : Snapshot) : Prop where
  between : (∃ younger s, younger < age ∧ entity.ring.get younger = some s ∧ s.timestamp = a.timestamp)
    ∨ a.timestamp - b.timestamp ≤ 1 / 1000
    ∨ (a.position.sub b.position).lengthSq
        + 4 * aside (entity.correction deltaTime) (a.position.sub b.position)
      ≤ (2 * KMP_SNAP_THRESHOLD_MAX) ^ 2
  beyond : age = 0 → a.timestamp - b.timestamp ≤ 1 / 1000 ∨ 2 ≤ a.timestamp - b.timestamp
    ∨ (a.position.sub b.position).lengthSq
      ≤ (4 * KMP_SNAP_THRESHOLD_MAX * (a.timestamp - b.timestamp)) ^ 2

/-! ### Two discs -/

/-- **Two discs of one size cover a way** that starts in the one and ends in the other exactly if they cover
the point of it that is as far from both. The way has the square `way` of its length, and is shifted by a
vector with the product `along` with it and the square `shift`. -/
theorem covered_iff {way along shift radius : ℚ} (positive : 0 < way) (starts : shift ≤ radius) :
    (∀ w, 0 < w → w < 1 → way * w ^ 2 - 2 * along * w + shift ≤ radius
        ∨ way * (1 - w) ^ 2 + 2 * along * (1 - w) + shift ≤ radius)
      ↔ way + 4 * (shift - along ^ 2 / way) ≤ 4 * radius := by
  obtain ⟨m, rfl⟩ : ∃ m, along = m * way := ⟨along / way, by field_simp⟩
  have square : (m * way) ^ 2 / way = m ^ 2 * way := by field_simp
  rw [square]
  constructor
  · intro covered
    by_cases inner : -(1 / 2) < m ∧ m < 1 / 2
    · have both := covered (1 / 2 + m) (by linarith) (by linarith)
      rcases both with first | second
      · nlinarith
      · nlinarith
    · have far : 1 / 4 ≤ m ^ 2 := by
        by_contra near
        exact inner (abs_lt.mp (abs_lt_of_sq_lt_sq (by linarith) (by norm_num)))
      nlinarith
  · intro covers w above below
    rcases le_total (w - m) (1 / 2) with low | high
    · refine .inl ?_
      rcases le_total (-(1 / 2)) (w - m) with inner | outer
      · have near : (w - m) ^ 2 ≤ 1 / 4 := by nlinarith
        nlinarith
      · have back : w * (w - 2 * m) ≤ 0 := by nlinarith
        nlinarith
    · refine .inr ?_
      rcases le_total (w - m) (3 / 2) with inner | outer
      · have near : (1 - w + m) ^ 2 ≤ 1 / 4 := by nlinarith
        nlinarith
      · have back : (1 - w) * (1 - w + 2 * m) ≤ 0 := by nlinarith
        nlinarith

/-! ### What is drawn -/

section RenderTime

variable (entity : Tracked) (deltaTime renderTime : ℚ)

/-- In a frame the correction is taken away from the position of the interpolation. -/
theorem getInterpolated_fst :
    (entity.getInterpolated deltaTime renderTime).1
      = (entity.interpolateEntity renderTime).map fun pos => pos.sub (entity.correction deltaTime) := by
  unfold Tracked.getInterpolated Tracked.correction
  cases entity.interpolateEntity renderTime with
  | none => rfl
  | some pos =>
    simp only [Option.map_some]
    split_ifs
    · rfl
    · refine congrArg some (Vec3.ext ?_ ?_ ?_)
      · simp [Vec3.sub]
      · simp [Vec3.sub]
      · simp [Vec3.sub]

/-- A look at an entity leaves its snapshots as they are. -/
theorem getInterpolated_state :
    (entity.getInterpolated deltaTime renderTime).2.toEntityInterpState = entity.toEntityInterpState := by
  unfold Tracked.getInterpolated
  cases entity.interpolateEntity renderTime with
  | none => rfl
  | some pos =>
    simp only
    split_ifs <;> rfl

/-- And it only advances the correction. -/
theorem getInterpolated_snap :
    (entity.getInterpolated deltaTime renderTime).2.snap = entity.snap
      ∨ (entity.getInterpolated deltaTime renderTime).2.snap = (entity.snap.apply deltaTime).2 := by
  unfold Tracked.getInterpolated
  cases entity.interpolateEntity renderTime with
  | none => exact .inl rfl
  | some pos =>
    simp only
    split_ifs
    · exact .inr rfl
    · exact .inl rfl

end RenderTime

/-! ### Corrections -/

namespace SnapCorrection

/-- A correction that is within the threshold, with time left. -/
def Bounded (snap : SnapCorrection) : Prop :=
  snap.active = true → ¬ snap.errorOffset.Longer KMP_SNAP_THRESHOLD_MAX ∧ 0 ≤ snap.blendTimer
    ∧ snap.blendTimer ≤ snap.blendTotal

variable {snap : SnapCorrection}

theorem Bounded.start (bounded : snap.Bounded) (error : Vec3) : (snap.startCorrection error).Bounded := by
  unfold startCorrection
  split_ifs with far some
  · exact fun active => absurd active Bool.false_ne_true
  · exact fun _ => ⟨far, by norm_num [KMP_SNAP_CORRECT_SEC], le_rfl⟩
  · exact bounded

theorem Bounded.apply (bounded : snap.Bounded) {dt : ℚ} (positive : 0 ≤ dt) : (snap.apply dt).2.Bounded := by
  unfold SnapCorrection.apply
  simp only
  split_ifs with still ended
  · exact bounded
  · exact fun active => absurd active Bool.false_ne_true
  · intro active
    obtain ⟨near, -, less⟩ := bounded active
    exact ⟨near, le_of_not_ge ended, by simp only; linarith⟩

/-- What is taken away is a part of the error. -/
theorem Bounded.part (bounded : snap.Bounded) {dt : ℚ} (positive : 0 ≤ dt) :
    (snap.apply dt).1.lengthSq ≤ KMP_SNAP_THRESHOLD_MAX ^ 2 := by
  unfold SnapCorrection.apply
  simp only
  split_ifs with still ended
  · norm_num [Vec3.lengthSq, KMP_SNAP_THRESHOLD_MAX]
  · norm_num [Vec3.lengthSq, KMP_SNAP_THRESHOLD_MAX]
  · obtain ⟨near, -, less⟩ := bounded (by simpa using still)
    have left : 0 ≤ (snap.blendTimer - dt) / snap.blendTotal :=
      div_nonneg (le_of_not_ge ended) (by linarith)
    have part : (snap.blendTimer - dt) / snap.blendTotal ≤ 1 :=
      div_le_one_of_le₀ (by linarith) (by linarith)
    rw [Vec3.lengthSq_scale]
    calc snap.errorOffset.lengthSq * ((snap.blendTimer - dt) / snap.blendTotal) ^ 2
        ≤ snap.errorOffset.lengthSq * 1 :=
          mul_le_mul_of_nonneg_left (pow_le_one₀ left part) (Vec3.lengthSq_nonneg _)
      _ ≤ KMP_SNAP_THRESHOLD_MAX ^ 2 := by
          rw [mul_one]
          exact not_lt.mp near

end SnapCorrection

/-! ### The account -/

/-- The snapshots are in order, with the velocities between them; after a teleport nothing is corrected. -/
structure Account (samples : List Sample) (entity : Tracked) : Prop where
  known : ∀ age s, entity.ring.get age = some s → s.toSample ∈ samples
  ordered : ∀ younger older a b, younger ≤ older → entity.ring.get younger = some a →
    entity.ring.get older = some b → b.timestamp ≤ a.timestamp
  velocities : ∀ age b a, entity.ring.get (age + 1) = some b → entity.ring.get age = some a →
    a.velocity = EntityInterpState.velocitySince b a.timestamp a.position
  bounded : entity.snap.Bounded
  teleported : ∀ b a, entity.ring.get 1 = some b → entity.ring.get 0 = some a → Teleports b a →
    entity.snap.active = false

theorem account_start : Account [] {} where
  known _ _ stored := by cases stored
  ordered _ _ _ _ _ stored := by cases stored
  velocities _ _ _ stored := by cases stored
  bounded active := absurd active Bool.false_ne_true
  teleported _ _ stored := by cases stored

theorem account_frame {samples : List Sample} {entity : Tracked} (account : Account samples entity)
    (deltaTime : ℚ≥0) (renderTime : ℚ) :
    Account samples (entity.getInterpolated deltaTime renderTime).2 := by
  have state := getInterpolated_state entity deltaTime renderTime
  have ring : (entity.getInterpolated deltaTime renderTime).2.ring = entity.ring :=
    congrArg EntityInterpState.ring state
  have positive : (0 : ℚ) ≤ deltaTime := deltaTime.2
  refine ⟨?_, ?_, ?_, ?_, ?_⟩
  · rw [ring]
    exact account.known
  · rw [ring]
    exact account.ordered
  · rw [ring]
    exact account.velocities
  · rcases getInterpolated_snap entity deltaTime renderTime with same | applied
    · rw [same]
      exact account.bounded
    · rw [applied]
      exact account.bounded.apply positive
  · rw [ring]
    intro b a older newer teleports
    have still := account.teleported b a older newer teleports
    rcases getInterpolated_snap entity deltaTime renderTime with same | applied
    · rw [same, still]
    · rw [applied]
      unfold SnapCorrection.apply
      simp [still]

/-- What is in the ring after another sample. -/
theorem get_add {entity : Tracked} {sample : Sample} {age : Nat} {s : Snapshot}
    (found : (entity.addSnapshot sample).ring.get age = some s) :
    (age = 0 ∧ s = entity.snapshotOf sample) ∨ ∃ before, age = before + 1
      ∧ entity.ring.get before = some s := by
  change (entity.ring.push (entity.snapshotOf sample)).get age = some s at found
  cases age with
  | zero =>
    rw [RecentRing.get_push_zero] at found
    exact .inl ⟨rfl, (Option.some.inj found).symm⟩
  | succ before =>
    rcases Nat.lt_or_ge (before + 1) KMP_MAX_SNAPSHOTS with recent | old
    · rw [RecentRing.get_push_succ _ _ recent] at found
      exact .inr ⟨before, rfl, found⟩
    · rw [RecentRing.get_none old] at found
      cases found

theorem corrected_bounded {entity : Tracked} (bounded : entity.snap.Bounded) (prev : Snapshot)
    (sample : Sample) : (entity.corrected prev sample).Bounded := by
  unfold Tracked.corrected
  simp only
  split_ifs
  · exact fun active => absurd active Bool.false_ne_true
  · exact bounded.start _
  · exact bounded

theorem account_add {samples : List Sample} {entity : Tracked} (account : Account samples entity)
    {sample : Sample} (inOrder : ∀ s ∈ samples, s.timestamp ≤ sample.timestamp) :
    Account (samples ++ [sample]) (entity.addSnapshot sample) where
  known age s found := by
    rcases get_add found with ⟨-, rfl⟩ | ⟨before, -, there⟩
    · exact List.mem_append_right _ List.mem_cons_self
    · exact List.mem_append_left _ (account.known before s there)
  ordered younger older a b order newer found := by
    rcases get_add newer with ⟨-, rfl⟩ | ⟨before, rfl, there⟩
    · rcases get_add found with ⟨-, rfl⟩ | ⟨before, -, there⟩
      · exact le_rfl
      · exact inOrder _ (account.known before b there)
    · rcases get_add found with ⟨rfl, -⟩ | ⟨earlier, rfl, there'⟩
      · omega
      · exact account.ordered before earlier a b (by omega) there there'
  velocities age b a older newer := by
    rcases get_add older with ⟨now, -⟩ | ⟨before, same, there⟩
    · cases now
    · obtain rfl : age = before := Nat.succ.inj same
      rcases get_add newer with ⟨rfl, rfl⟩ | ⟨earlier, rfl, there'⟩
      · show ((entity.ring.get 0).map _).getD ({} : Vec3) = _
        rw [there]
        rfl
      · exact account.velocities earlier b a there there'
  bounded := by
    show (((entity.ring.get 0).map fun prev => entity.corrected prev sample).getD entity.snap).Bounded
    cases entity.ring.get 0 with
    | none => exact account.bounded
    | some prev => exact corrected_bounded account.bounded prev sample
  teleported b a older newer teleports := by
    rcases get_add older with ⟨now, -⟩ | ⟨before, same, there⟩
    · cases now
    · obtain rfl : 0 = before := Nat.succ.inj same
      rcases get_add newer with ⟨-, rfl⟩ | ⟨earlier, now, -⟩
      · show (((entity.ring.get 0).map fun prev => entity.corrected prev sample).getD entity.snap).active
          = false
        rw [there]
        unfold Teleports at teleports
        simp only [Option.map_some, Option.getD_some, Tracked.corrected]
        exact congrArg SnapCorrection.active (if_pos teleports)
      · cases now

/-- The samples of a run. -/
def samplesOf (events : List TrackedEvent) : List Sample := events.filterMap TrackedEvent.sample

theorem account_run (events : List TrackedEvent)
    (inOrder : (samplesOf events).Pairwise fun s s' => s.timestamp ≤ s'.timestamp) :
    Account (samplesOf events) (Tracked.after events) := by
  unfold samplesOf Tracked.after at *
  induction events using List.reverseRecOn with
  | nil => exact account_start
  | append_singleton events event ih =>
    rw [List.filterMap_append, List.pairwise_append] at inOrder
    rw [List.filterMap_append, List.foldl_append, List.foldl_cons, List.foldl_nil]
    have account := ih inOrder.1
    cases event with
    | add sample =>
      exact account_add account fun s inside => inOrder.2.2 s inside sample List.mem_cons_self
    | frame deltaTime renderTime =>
      simp only [List.filterMap_cons, TrackedEvent.sample, List.filterMap_nil, List.append_nil]
      exact account_frame account deltaTime renderTime

/-! ### The bracket -/

section Pair

open EntityInterpState (snapshots_mem bracket_eq)

variable {samples : List Sample} {entity : Tracked} (account : Account samples entity) {age : Nat}
  {b a : Snapshot} (older : entity.ring.get (age + 1) = some b) (newer : entity.ring.get age = some a)
  {t : ℚ}
include account older newer

/-- Between their times the two snapshots are the bracket, unless a newer one has the time of the second. -/
theorem bracket_pair (above : b.timestamp < t) (below : t < a.timestamp)
    (first : ∀ younger s, younger < age → entity.ring.get younger = some s → s.timestamp ≠ a.timestamp) :
    entity.bracket t = (some (age + 1, b), some (age, a)) := by
  rw [bracket_eq]
  refine Prod.ext ?_ ?_
  · refine EntityInterpState.latest_of (snapshots_mem.mpr older) above.le
      (fun s member young before => ?_) fun s member old _ => ?_
    · have later := account.ordered s.1 age s.2 a (Nat.le_of_lt_succ young) (snapshots_mem.mp member) newer
      linarith
    · exact account.ordered (age + 1) s.1 b s.2 old.le older (snapshots_mem.mp member)
  · refine EntityInterpState.earliest_of (snapshots_mem.mpr newer) below.le
      (fun s member young _ => ?_) fun s member old after => ?_
    · have later := account.ordered s.1 age s.2 a young.le (snapshots_mem.mp member) newer
      exact lt_of_le_of_ne later (first s.1 s.2 young (snapshots_mem.mp member)).symm
    · have earlier := account.ordered (age + 1) s.1 b s.2 old older (snapshots_mem.mp member)
      linarith

/-- The two are the bracket only then. -/
theorem pair_of_bracket (found : entity.bracket t = (some (age + 1, b), some (age, a))) :
    b.timestamp ≤ t ∧ t ≤ a.timestamp
      ∧ ∀ younger s, younger < age → entity.ring.get younger = some s → s.timestamp ≠ a.timestamp := by
  rw [bracket_eq] at found
  obtain ⟨latest, earliest⟩ := Prod.mk.inj found
  obtain ⟨-, before, -⟩ := Selection.select_some EntityInterpState.later_iff latest
  obtain ⟨-, after, -⟩ := Selection.select_some (fun _ _ => Iff.rfl) earliest
  refine ⟨before, after, fun younger s young there => ?_⟩
  exact EntityInterpState.earliest_newest (s := (younger, s)) earliest (snapshots_mem.mpr there) young

end Pair

section Newest

open EntityInterpState (snapshots_mem bracket_eq)

variable {samples : List Sample} {entity : Tracked} (account : Account samples entity) {a : Snapshot}
  (newest : entity.ring.get 0 = some a)
include account newest

/-- Past the newest snapshot the position runs ahead of it. -/
theorem placed_beyond {t : ℚ} (late : a.timestamp < t) :
    entity.placed t = some (EntityInterpState.extrapolated a t) := by
  have last (s : Nat × Snapshot) (member : s ∈ entity.snapshots) : s.2.timestamp ≤ a.timestamp :=
    account.ordered 0 s.1 a s.2 (Nat.zero_le _) newest (snapshots_mem.mp member)
  unfold EntityInterpState.placed
  rw [bracket_eq, EntityInterpState.latest_of (b := (0, a)) (snapshots_mem.mpr newest) late.le
      (fun _ _ young _ => absurd young (Nat.not_lt_zero _)) (fun s member _ _ => last s member),
    Selection.select_none.mpr fun s member => not_le.mpr ((last s member).trans_lt late)]

end Newest

/-! ### Distances -/

/-- A shifted place on a way, from its start. -/
theorem near_start {start shift way : Vec3} {w : ℚ} :
    Near ((start.add (way.scale w)).sub shift) start
      ↔ way.lengthSq * w ^ 2 - 2 * shift.dot way * w + shift.lengthSq ≤ KMP_SNAP_THRESHOLD_MAX ^ 2 := by
  unfold Near Vec3.Longer
  rw [not_lt]
  have same : (((start.add (way.scale w)).sub shift).sub start).lengthSq
      = way.lengthSq * w ^ 2 - 2 * shift.dot way * w + shift.lengthSq := by
    unfold Vec3.lengthSq Vec3.sub Vec3.add Vec3.scale Vec3.dot
    ring
  rw [same]

/-- And from its end. -/
theorem near_end {start stop shift : Vec3} {w : ℚ} :
    Near ((start.add ((stop.sub start).scale w)).sub shift) stop
      ↔ (stop.sub start).lengthSq * (1 - w) ^ 2 + 2 * shift.dot (stop.sub start) * (1 - w) + shift.lengthSq
        ≤ KMP_SNAP_THRESHOLD_MAX ^ 2 := by
  unfold Near Vec3.Longer
  rw [not_lt]
  have same : (((start.add ((stop.sub start).scale w)).sub shift).sub stop).lengthSq
      = (stop.sub start).lengthSq * (1 - w) ^ 2 + 2 * shift.dot (stop.sub start) * (1 - w)
        + shift.lengthSq := by
    unfold Vec3.lengthSq Vec3.sub Vec3.add Vec3.scale Vec3.dot
    ring
  rw [same]

/-- Between two snapshots the entity is on the way, at a weight; it is the start if they are too near. -/
theorem between_weight {b a : Snapshot} {t : ℚ} (before : b.timestamp ≤ t) (after : t ≤ a.timestamp) :
    ∃ w, 0 ≤ w ∧ w ≤ 1 ∧ (a.timestamp - b.timestamp ≤ 1 / 1000 → w = 0)
      ∧ EntityInterpState.between b a t = b.position.add ((a.position.sub b.position).scale w) := by
  by_cases apart : 1 / 1000 < a.timestamp - b.timestamp
  · obtain ⟨low, high⟩ := weight_bounds before after
    exact ⟨_, low, high, fun near => absurd near (not_le.mpr apart), between_eq before after apart⟩
  · refine ⟨0, le_rfl, zero_le_one, fun _ => rfl, ?_⟩
    unfold EntityInterpState.between clamp
    dsimp only
    rw [if_neg apart, if_neg (lt_irrefl 0), if_neg (not_lt.mpr zero_le_one)]

/-- The whole way of a pair is near one of the two exactly if two discs cover it. -/
theorem way_near_iff {start stop shift : Vec3} (bounded : shift.lengthSq ≤ KMP_SNAP_THRESHOLD_MAX ^ 2) :
    (∀ w, 0 < w → w < 1 → Near ((start.add ((stop.sub start).scale w)).sub shift) start
        ∨ Near ((start.add ((stop.sub start).scale w)).sub shift) stop)
      ↔ (stop.sub start).lengthSq + 4 * aside shift (stop.sub start) ≤ (2 * KMP_SNAP_THRESHOLD_MAX) ^ 2 := by
  simp only [near_start, near_end]
  unfold aside
  have four : (2 * KMP_SNAP_THRESHOLD_MAX) ^ 2 = 4 * KMP_SNAP_THRESHOLD_MAX ^ 2 := by ring
  rw [four]
  rcases (Vec3.lengthSq_nonneg (stop.sub start)).eq_or_lt with zero | positive
  · have none : shift.dot (stop.sub start) = 0 := by
      have product := Vec3.dot_sq_le shift (stop.sub start)
      rw [← zero, mul_zero] at product
      exact pow_eq_zero_iff two_ne_zero |>.mp (le_antisymm product (sq_nonneg _))
    rw [← zero, none]
    refine iff_of_true (fun w _ _ => .inl ?_) ?_
    · linarith
    · norm_num
      linarith
  · exact covered_iff positive bounded

theorem correction_bounded {entity : Tracked} (bounded : entity.snap.Bounded) {deltaTime : ℚ}
    (positive : 0 ≤ deltaTime) :
    (entity.correction deltaTime).lengthSq ≤ KMP_SNAP_THRESHOLD_MAX ^ 2 := by
  unfold Tracked.correction
  split_ifs
  · exact bounded.part positive
  · norm_num [Vec3.lengthSq, KMP_SNAP_THRESHOLD_MAX]

/-! ### The two parts -/

section Parts

variable {samples : List Sample} {entity : Tracked} (account : Account samples entity) {deltaTime : ℚ}
  (positive : 0 ≤ deltaTime) {age : Nat} {b a : Snapshot}
  (older : entity.ring.get (age + 1) = some b) (newer : entity.ring.get age = some a)
include account positive older newer

/-- Between the two: what is drawn, if they are the bracket. -/
theorem drawn_between {renderTime : ℚ} {w : ℚ}
    (found : entity.bracket (renderTime - entity.jitter.adaptiveDelay) = (some (age + 1, b), some (age, a)))
    (weight : EntityInterpState.between b a (renderTime - entity.jitter.adaptiveDelay)
      = b.position.add ((a.position.sub b.position).scale w)) :
    (entity.getInterpolated deltaTime renderTime).1
      = some ((b.position.add ((a.position.sub b.position).scale w)).sub (entity.correction deltaTime)) := by
  rw [getInterpolated_fst, EntityInterpState.interpolateEntity_eq]
  unfold EntityInterpState.placed
  rw [found]
  simp only [Nat.ne_of_lt (Nat.lt_succ_self age), if_false, Option.map_some, weight]

theorem between_iff :
    (∀ renderTime pos,
      entity.bracket (renderTime - entity.jitter.adaptiveDelay) = (some (age + 1, b), some (age, a)) →
      (entity.getInterpolated deltaTime renderTime).1 = some pos → Near pos b.position ∨ Near pos a.position)
      ↔ (∃ younger s, younger < age ∧ entity.ring.get younger = some s ∧ s.timestamp = a.timestamp)
        ∨ a.timestamp - b.timestamp ≤ 1 / 1000
        ∨ (a.position.sub b.position).lengthSq
            + 4 * aside (entity.correction deltaTime) (a.position.sub b.position)
          ≤ (2 * KMP_SNAP_THRESHOLD_MAX) ^ 2 := by
  have shift := correction_bounded account.bounded positive
  constructor
  · intro jumps
    by_contra none
    obtain ⟨first, apart, long⟩ := not_or.mp none |>.imp id not_or.mp
    have span : 1 / 1000 < a.timestamp - b.timestamp := not_le.mp apart
    refine long ((way_near_iff shift).mp fun w above below => ?_)
    have time : b.timestamp + w * (a.timestamp - b.timestamp) + entity.jitter.adaptiveDelay
        - entity.jitter.adaptiveDelay = b.timestamp + w * (a.timestamp - b.timestamp) := by ring
    have after : b.timestamp < b.timestamp + w * (a.timestamp - b.timestamp) := by nlinarith
    have before : b.timestamp + w * (a.timestamp - b.timestamp) < a.timestamp := by nlinarith
    have found := bracket_pair account older newer after before fun younger s young there same =>
      first ⟨younger, s, young, there, same⟩
    have weight : EntityInterpState.between b a (b.timestamp + w * (a.timestamp - b.timestamp))
        = b.position.add ((a.position.sub b.position).scale w) := by
      rw [between_eq after.le before.le span]
      unfold lineAt
      congr 2
      rw [add_sub_cancel_left, mul_div_assoc, div_self (by linarith), mul_one]
    refine jumps (b.timestamp + w * (a.timestamp - b.timestamp) + entity.jitter.adaptiveDelay) _ ?_
      (drawn_between account positive older newer ?_ ?_)
    · rw [time]
      exact found
    · rw [time]
      exact found
    · rw [time]
      exact weight
  · intro short renderTime pos found drawn
    obtain ⟨before, after, first⟩ := pair_of_bracket account older newer found
    obtain ⟨w, low, high, near, weight⟩ := between_weight before after
    rw [drawn_between account positive older newer found weight] at drawn
    rw [← Option.some.inj drawn]
    have at_start : w = 0 → Near ((b.position.add ((a.position.sub b.position).scale w)).sub
        (entity.correction deltaTime)) b.position := by
      rintro rfl
      rw [near_start]
      linarith
    rcases short with ⟨younger, s, young, there, same⟩ | tiny | covered
    · exact absurd same (first younger s young there)
    · exact .inl (at_start (near tiny))
    · rcases low.eq_or_lt with zero | above
      · exact .inl (at_start zero.symm)
      · rcases high.eq_or_lt with one | below
        · refine .inr ?_
          rw [near_end, one]
          linarith
        · exact (way_near_iff shift).mpr covered w above below

end Parts

/-- The speed of the way between two snapshots. -/
theorem way_speed {way : Vec3} {dt : ℚ} : (way.scale (1 / dt)).lengthSq = way.lengthSq / dt ^ 2 := by
  rw [Vec3.lengthSq_scale]
  ring

/-- With the velocity of a long way the entity is near none of the two after a quarter of a second. -/
theorem flung_ahead {b a : Snapshot}
    (velocity : a.velocity = (a.position.sub b.position).scale (1 / (a.timestamp - b.timestamp)))
    (span : 0 < a.timestamp - b.timestamp)
    (long : (4 * KMP_SNAP_THRESHOLD_MAX * (a.timestamp - b.timestamp)) ^ 2
      < (a.position.sub b.position).lengthSq) :
    ¬ (Near (EntityInterpState.extrapolated a (a.timestamp + 1 / 4)) b.position
      ∨ Near (EntityInterpState.extrapolated a (a.timestamp + 1 / 4)) a.position) := by
  have speed : (4 * KMP_SNAP_THRESHOLD_MAX) ^ 2 < a.velocity.lengthSq := by
    rw [velocity, way_speed, lt_div_iff₀ (by positivity)]
    linarith [mul_pow (4 * KMP_SNAP_THRESHOLD_MAX) (a.timestamp - b.timestamp) 2]
  have ahead : EntityInterpState.extrapolated a (a.timestamp + 1 / 4)
      = a.position.add (a.velocity.scale (1 / 4)) := by
    unfold EntityInterpState.extrapolated
    simp only [add_sub_cancel_left]
    refine if_pos ⟨by norm_num, by norm_num [KMP_EXTRAP_MAX_SEC], ?_⟩
    norm_num [KMP_SNAP_THRESHOLD_MAX] at speed
    linarith
  have from_stop : ((a.position.add (a.velocity.scale (1 / 4))).sub a.position).lengthSq
      = a.velocity.lengthSq / 16 := by
    unfold Vec3.lengthSq Vec3.sub Vec3.add Vec3.scale
    ring
  have from_start : ((a.position.add (a.velocity.scale (1 / 4))).sub b.position).lengthSq
      = a.velocity.lengthSq * (a.timestamp - b.timestamp + 1 / 4) ^ 2 := by
    have way : a.position.sub b.position = a.velocity.scale (a.timestamp - b.timestamp) := by
      rw [velocity]
      unfold Vec3.scale
      ext
      · field_simp
      · field_simp
      · field_simp
    rw [← Vec3.lengthSq_scale]
    congr 1
    have x := congrArg Vec3.x way
    have y := congrArg Vec3.y way
    have z := congrArg Vec3.z way
    unfold Vec3.sub Vec3.scale at x y z
    unfold Vec3.add Vec3.sub Vec3.scale
    simp only at x y z
    ext
    · simp only
      linarith
    · simp only
      linarith
    · simp only
      linarith
  rw [ahead]
  unfold Near Vec3.Longer
  rw [from_stop, from_start]
  norm_num [KMP_SNAP_THRESHOLD_MAX] at speed ⊢
  constructor
  · nlinarith
  · linarith

/-- With another velocity it is near the second one. -/
theorem near_beyond {b a : Snapshot} {t : ℚ}
    (velocity : a.velocity = EntityInterpState.velocitySince b a.timestamp a.position)
    (short : a.timestamp - b.timestamp ≤ 1 / 1000 ∨ 2 ≤ a.timestamp - b.timestamp
      ∨ (a.position.sub b.position).lengthSq
        ≤ (4 * KMP_SNAP_THRESHOLD_MAX * (a.timestamp - b.timestamp)) ^ 2) : Near (EntityInterpState.extrapolated a t) a.position := by
  have slow : a.velocity.lengthSq ≤ (4 * KMP_SNAP_THRESHOLD_MAX) ^ 2 := by
    rw [velocity]
    unfold EntityInterpState.velocitySince
    simp only
    split_ifs with moves
    · have span : 0 < a.timestamp - b.timestamp := by linarith [moves.1]
      rcases short with near | far | less
      · linarith [moves.1]
      · linarith [moves.2]
      · rw [way_speed, div_le_iff₀ (by positivity)]
        linarith [mul_pow (4 * KMP_SNAP_THRESHOLD_MAX) (a.timestamp - b.timestamp) 2]
    · norm_num [Vec3.lengthSq, KMP_SNAP_THRESHOLD_MAX]
  unfold EntityInterpState.extrapolated Near Vec3.Longer
  simp only [not_lt]
  split_ifs with runs
  · have same : ((a.position.add (a.velocity.scale (t - a.timestamp))).sub a.position).lengthSq
        = a.velocity.lengthSq * (t - a.timestamp) ^ 2 := by
      unfold Vec3.lengthSq Vec3.sub Vec3.add Vec3.scale
      ring
    have part : (t - a.timestamp) ^ 2 ≤ (1 / 4) ^ 2 := by
      refine pow_le_pow_left₀ runs.1.le (runs.2.1.trans (by norm_num [KMP_EXTRAP_MAX_SEC])) 2
    rw [same]
    calc a.velocity.lengthSq * (t - a.timestamp) ^ 2
        ≤ (4 * KMP_SNAP_THRESHOLD_MAX) ^ 2 * (1 / 4) ^ 2 :=
          mul_le_mul slow part (sq_nonneg _) (sq_nonneg _)
      _ = KMP_SNAP_THRESHOLD_MAX ^ 2 := by ring
  · rw [Vec3.lengthSq_sub_self]
    positivity

section Beyond

variable {samples : List Sample} {entity : Tracked} (account : Account samples entity) (deltaTime : ℚ)
  {b a : Snapshot} (older : entity.ring.get 1 = some b) (newer : entity.ring.get 0 = some a)
  (teleports : Teleports b a)
include account older newer teleports

theorem drawn_beyond {renderTime : ℚ} (late : a.timestamp < renderTime - entity.jitter.adaptiveDelay) :
    (entity.getInterpolated deltaTime renderTime).1
      = some (EntityInterpState.extrapolated a (renderTime - entity.jitter.adaptiveDelay)) := by
  have still := account.teleported b a older newer teleports
  rw [getInterpolated_fst, EntityInterpState.interpolateEntity_eq, placed_beyond account newer late]
  unfold Tracked.correction
  rw [still]
  refine congrArg some (Vec3.ext ?_ ?_ ?_)
  · simp [Vec3.sub]
  · simp [Vec3.sub]
  · simp [Vec3.sub]

/-- **Flung past the second snapshot**, unless its velocity is that of a short way. -/
theorem flung_iff :
    (∀ renderTime pos, a.timestamp < renderTime - entity.jitter.adaptiveDelay →
      (entity.getInterpolated deltaTime renderTime).1 = some pos → Near pos b.position ∨ Near pos a.position)
      ↔ a.timestamp - b.timestamp ≤ 1 / 1000 ∨ 2 ≤ a.timestamp - b.timestamp
        ∨ (a.position.sub b.position).lengthSq
          ≤ (4 * KMP_SNAP_THRESHOLD_MAX * (a.timestamp - b.timestamp)) ^ 2 := by
  have velocity := account.velocities 0 b a older newer
  have drawn {renderTime : ℚ} := @drawn_beyond samples entity account deltaTime b a older newer teleports
    renderTime
  constructor
  · intro jumps
    by_contra none
    obtain ⟨far, soon, long⟩ := not_or.mp none |>.imp id not_or.mp
    have span : 0 < a.timestamp - b.timestamp := by linarith
    have made := velocity.trans (if_pos ⟨not_le.mp far, not_le.mp soon⟩)
    have time : a.timestamp + 1 / 4 + entity.jitter.adaptiveDelay - entity.jitter.adaptiveDelay
        = a.timestamp + 1 / 4 := add_sub_cancel_right _ _
    have late : a.timestamp < a.timestamp + 1 / 4 + entity.jitter.adaptiveDelay
        - entity.jitter.adaptiveDelay := by linarith
    refine flung_ahead made span (not_le.mp long) (jumps _ _ late ?_)
    rw [drawn late, time]
  · intro short renderTime pos late found
    rw [drawn late] at found
    rw [← Option.some.inj found]
    exact .inr (near_beyond velocity short)

end Beyond

/-- After any samples in order, and any frames between them: in a frame, the entity is near one of the two
snapshots of a teleport at all their times exactly if the way is short. -/
theorem teleport_jumps_iff (events : List TrackedEvent)
    (inOrder : (samplesOf events).Pairwise fun s s' => s.timestamp ≤ s'.timestamp) (deltaTime : ℚ≥0)
    (age : Nat) (b a : Snapshot) (older : (Tracked.after events).ring.get (age + 1) = some b)
    (newer : (Tracked.after events).ring.get age = some a) (teleports : Teleports b a) :
    Jumps (Tracked.after events) deltaTime age b a ↔ ShortWay (Tracked.after events) deltaTime age b a := by
  have account := account_run events inOrder
  have between := between_iff account deltaTime.2 older newer
  have beyond (newest : age = 0) := by
    subst newest
    exact flung_iff account deltaTime older newer teleports
  constructor
  · intro jumps
    exact ⟨between.mp jumps.between, fun newest => (beyond newest).mp (jumps.beyond newest)⟩
  · intro short
    exact ⟨between.mpr short.between, fun newest => (beyond newest).mpr (short.beyond newest)⟩

/-- A teleport after three seconds, and one after a tenth of a second. -/
def slowTeleport : List TrackedEvent := [.add ⟨1, {}⟩, .add ⟨4, { x := 80 }⟩]

def fastTeleport : List TrackedEvent := [.add ⟨1, {}⟩, .add ⟨11 / 10, { x := 200 }⟩]

/-- Eighty units in three seconds: the entity is always drawn near the one or the other. -/
theorem teleport_jumps_slow :
    Jumps (Tracked.after slowTeleport) 0 0 { timestamp := 1 } { timestamp := 4, position := { x := 80 } } :=
  (teleport_jumps_iff slowTeleport (by decide +kernel) 0 0 _ _ (by decide +kernel) (by decide +kernel)
    (by unfold Teleports; decide +kernel)).mpr
      ⟨.inr (.inr (by decide +kernel)), fun _ => .inr (.inl (by decide +kernel))⟩

/-- Half way the entity is drawn a hundred units from both. -/
theorem teleport_jumps_fails : ¬ ∀ events : List TrackedEvent,
    (samplesOf events).Pairwise (fun s s' => s.timestamp ≤ s'.timestamp) →
    ∀ (deltaTime : ℚ≥0) (age : Nat) (b a : Snapshot), (Tracked.after events).ring.get (age + 1) = some b →
      (Tracked.after events).ring.get age = some a → Teleports b a →
      Jumps (Tracked.after events) deltaTime age b a := by
  intro holds
  have jumps := holds fastTeleport (by decide +kernel) 0 0 { timestamp := 1 }
    { timestamp := 11 / 10, position := { x := 200 }, velocity := { x := 2000 } }
    (by decide +kernel) (by decide +kernel) (by unfold Teleports; decide +kernel)
  have half := jumps.between (21 / 20 + (Tracked.after fastTeleport).jitter.adaptiveDelay) { x := 100 }
    (by decide +kernel) (by decide +kernel)
  revert half
  unfold Near
  decide +kernel

end Exact

end KenshiMP
