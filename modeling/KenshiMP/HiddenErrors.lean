/-
**The correction right after a snapshot that was not expected.**

The error is measured at the new snapshot, but drawn is an earlier time. `placed_push`: the new snapshot
changes what is drawn only from the last of the others on (`approach`); besides, the oldest one may go
(`forgotten`). The correction takes away the whole error at once, so it hides what has changed exactly if
this is near the error (`snap_hides_iff`): not at the times between older snapshots, where nothing has changed,
and past the newest one only as far as the time has come to the sample. The correction itself fades out as it
should (`corrections_fade`, `corrections_last`).
-/

import KenshiMP.Teleports

namespace KenshiMP

namespace Exact

/-! ### What should be -/

/-- What frames take away, one after the other. -/
def corrections (snap : SnapCorrection) : List ℚ≥0 → List Vec3
  | [] => []
  | dt :: rest => (snap.apply dt).1 :: corrections (snap.apply dt).2 rest

/-- The correction never grows, and is over when its time is. -/
def Fades (snap : SnapCorrection) : Prop :=
  ∀ frames : List ℚ≥0,
    (snap.errorOffset :: corrections snap frames).Pairwise (fun c c' => c'.lengthSq ≤ c.lengthSq)
      ∧ (KMP_SNAP_CORRECT_SEC ≤ (frames.map fun dt : ℚ≥0 => (dt : ℚ)).sum →
        (corrections snap frames).getLast? = some {})

/-- At one time, the position right after the arrival of a sample is not far from the one right before, and
the correction fades. -/
structure SnapHides (entity : Tracked) (sample : Sample) (renderTime : ℚ) : Prop where
  hides : ∀ before after, (entity.getInterpolated 0 renderTime).1 = some before →
    ((entity.addSnapshot sample).getInterpolated 0 renderTime).1 = some after →
    ¬ (after.sub before).Longer KMP_SNAP_THRESHOLD_MIN
  fades : Fades (entity.addSnapshot sample).snap

namespace EntityInterpState

/-- The snapshots that another one leaves in the ring. -/
def kept (state : EntityInterpState) : EntityInterpState :=
  { state with
    ring := { state.ring with
      count := min state.ring.count (KMP_MAX_SNAPSHOTS - 1)
      few := (min_le_left _ _).trans state.ring.few } }

/-- The velocity with which the position runs past a snapshot. -/
def ahead (last : Snapshot) (t : ℚ) : Vec3 :=
  let overshoot := t - last.timestamp
  if 0 < overshoot ∧ overshoot ≤ KMP_EXTRAP_MAX_SEC ∧ 1 / 1000 < last.velocity.lengthSq then last.velocity
  else {}

/-- The velocity from a snapshot to the next one. -/
def towards (last next : Snapshot) : Vec3 :=
  let span := next.timestamp - last.timestamp
  if 1 / 1000 < span then (next.position.sub last.position).scale (1 / span) else {}

/-- What a new snapshot changes at a time, from those that the ring keeps. -/
def approach (state : EntityInterpState) (new : Snapshot) (t : ℚ) : Vec3 :=
  match state.bracket t with
  | (none, none) => {}
  | (none, some (_, next)) =>
    if next.timestamp < new.timestamp then {} else new.position.sub next.position
  | (some (_, last), none) =>
    if t < new.timestamp then ((towards last new).sub (ahead last t)).scale (t - last.timestamp)
    else (extrapolated new t).sub (extrapolated last t)
  | (some (_, last), some (_, next)) =>
    if next.timestamp < new.timestamp then {}
    else if t < new.timestamp then ((towards last new).sub (towards last next)).scale (t - last.timestamp)
    else new.position.sub last.position

/-- What the loss of the oldest snapshot changes at a time. -/
def forgotten (state : EntityInterpState) (t : ℚ) : Vec3 :=
  ((state.kept.placed t).getD {}).sub ((state.placed t).getD {})

end EntityInterpState

/-- What changes at a time is near the error. -/
def Hidden (entity : Tracked) (prev : Snapshot) (sample : Sample) (t : ℚ) : Prop :=
  ¬ (((entity.forgotten t).add (entity.kept.approach (entity.snapshotOf sample) t)).sub
    (predictionError prev sample)).Longer KMP_SNAP_THRESHOLD_MIN

/-! ### The ring after another snapshot -/

namespace EntityInterpState

variable {state : EntityInterpState}

theorem get_kept {age : Nat} (recent : age + 1 < KMP_MAX_SNAPSHOTS) :
    state.kept.ring.get age = state.ring.get age := by
  have bound : age < min state.ring.count (KMP_MAX_SNAPSHOTS - 1) ↔ age < state.ring.count := by
    unfold KMP_MAX_SNAPSHOTS at *
    omega
  unfold RecentRing.get
  exact if_congr bound rfl rfl

theorem snapshots_kept {s : Nat × Snapshot} (member : s ∈ state.kept.snapshots) : s ∈ state.snapshots := by
  have found := snapshots_mem.mp member
  have less : s.1 < min state.ring.count (KMP_MAX_SNAPSHOTS - 1) := get_lt_count found
  rw [get_kept (by unfold KMP_MAX_SNAPSHOTS at *; omega)] at found
  exact snapshots_mem.mpr found

/-- A snapshot is older by one. -/
def aged (s : Nat × Snapshot) : Nat × Snapshot := (s.1 + 1, s.2)

/-- The new snapshot comes before the others. -/
theorem snapshots_push (state : EntityInterpState) (new : Snapshot) (jitter : JitterEstimator) :
    snapshots ⟨state.ring.push new, jitter⟩ = (0, new) :: state.kept.snapshots.map aged := by
  have count : (state.ring.push new).count = min state.ring.count (KMP_MAX_SNAPSHOTS - 1) + 1 := by
    rw [RecentRing.count_push]
    unfold KMP_MAX_SNAPSHOTS
    omega
  unfold snapshots
  rw [count, List.range_succ_eq_map, List.filterMap_cons, RecentRing.get_push_zero]
  simp only [Option.map_some]
  congr 1
  rw [List.filterMap_map, List.map_filterMap]
  refine List.filterMap_congr fun i inside => ?_
  have recent : i + 1 < KMP_MAX_SNAPSHOTS := by
    have less : i < min state.ring.count (KMP_MAX_SNAPSHOTS - 1) := List.mem_range.mp inside
    unfold KMP_MAX_SNAPSHOTS at *
    omega
  simp only [Function.comp_apply, Nat.succ_eq_add_one]
  rw [RecentRing.get_push_succ _ _ recent, get_kept recent, Option.map_map]
  rfl

theorem latest_eq (state : EntityInterpState) (t : ℚ) : (state.bracket t).1
    = Selection.select (fun s => s.2.timestamp ≤ t) (fun s b => b.2.timestamp < s.2.timestamp)
        state.snapshots := congrArg Prod.fst (bracket_eq state t)

theorem earliest_eq (state : EntityInterpState) (t : ℚ) : (state.bracket t).2
    = Selection.select (fun s => t ≤ s.2.timestamp) (fun s a => s.2.timestamp < a.2.timestamp)
        state.snapshots := congrArg Prod.snd (bracket_eq state t)

theorem latest_some {t : ℚ} {b : Nat × Snapshot} (found : (state.bracket t).1 = some b) :
    b ∈ state.snapshots ∧ b.2.timestamp ≤ t ∧ ∀ s ∈ state.snapshots, s.2.timestamp ≤ t →
      s.2.timestamp ≤ b.2.timestamp := by
  rw [latest_eq] at found
  exact Selection.select_some later_iff found

theorem earliest_some {t : ℚ} {a : Nat × Snapshot} (found : (state.bracket t).2 = some a) :
    a ∈ state.snapshots ∧ t ≤ a.2.timestamp ∧ ∀ s ∈ state.snapshots, t ≤ s.2.timestamp →
      a.2.timestamp ≤ s.2.timestamp := by
  rw [earliest_eq] at found
  exact Selection.select_some (fun _ _ => Iff.rfl) found

/-- Something is drawn if there is a snapshot. -/
theorem placed_some {s : Nat × Snapshot} (member : s ∈ state.snapshots) (t : ℚ) :
    ∃ place, state.placed t = some place := by
  have sides : state.bracket t ≠ (none, none) := by
    intro none
    rw [bracket_eq, Prod.mk.injEq, Selection.select_none, Selection.select_none] at none
    rcases le_total s.2.timestamp t with before | after
    · exact none.1 s member before
    · exact none.2 s member after
  unfold placed
  rcases found : state.bracket t with ⟨_ | ⟨i, b⟩, _ | ⟨j, a⟩⟩
  · exact absurd found sides
  · exact ⟨_, rfl⟩
  · exact ⟨_, rfl⟩
  · simp only
    split_ifs
    · exact ⟨_, rfl⟩
    · exact ⟨_, rfl⟩

/-! ### Velocities -/

theorem extrapolated_eq (last : Snapshot) (t : ℚ) :
    extrapolated last t = last.position.add ((ahead last t).scale (t - last.timestamp)) := by
  unfold extrapolated ahead
  simp only
  split_ifs
  · rfl
  · ext <;> simp [Vec3.add, Vec3.scale]

theorem between_towards {b a : Snapshot} {t : ℚ} (above : b.timestamp ≤ t) (below : t ≤ a.timestamp) :
    between b a t = b.position.add ((towards b a).scale (t - b.timestamp)) := by
  unfold between towards
  simp only
  split_ifs with far
  · have positive : 0 < a.timestamp - b.timestamp := by linarith
    have least : 0 ≤ (t - b.timestamp) / (a.timestamp - b.timestamp) :=
      div_nonneg (sub_nonneg.mpr above) positive.le
    have most : (t - b.timestamp) / (a.timestamp - b.timestamp) ≤ 1 :=
      (div_le_one positive).mpr (by linarith)
    unfold clamp
    rw [if_neg (not_lt.mpr least), if_neg (not_lt.mpr most)]
    ext <;> simp only [Vec3.add, Vec3.sub, Vec3.scale] <;> ring
  · ext <;> simp [clamp, Vec3.add, Vec3.sub, Vec3.scale]

/-! ### The cases -/

section Cases

variable {t : ℚ} {b a : Nat × Snapshot}

theorem placed_first (none : (state.bracket t).1 = none) (next : (state.bracket t).2 = some a) :
    state.placed t = some a.2.position := by
  unfold placed
  rw [← Prod.eta (state.bracket t), none, next]

theorem placed_last (last : (state.bracket t).1 = some b) (none : (state.bracket t).2 = none) :
    state.placed t = some (extrapolated b.2 t) := by
  unfold placed
  rw [← Prod.eta (state.bracket t), last, none]

theorem placed_middle (last : (state.bracket t).1 = some b) (next : (state.bracket t).2 = some a) :
    state.placed t = some (b.2.position.add ((towards b.2 a.2).scale (t - b.2.timestamp))) := by
  obtain ⟨member, above, -⟩ := latest_some last
  obtain ⟨member', below, -⟩ := earliest_some next
  unfold placed
  rw [← Prod.eta (state.bracket t), last, next]
  simp only
  split_ifs with ages
  · obtain rfl : a = b := snapshots_age_inj member' member ages
    obtain rfl : t = a.2.timestamp := le_antisymm below above
    rw [extrapolated_self _ rfl]
    refine congrArg some ?_
    ext <;> simp [Vec3.add, Vec3.scale]
  · rw [between_towards above below]

end Cases

section Push

variable {new : Snapshot} (later : ∀ s ∈ state.kept.snapshots, s.2.timestamp ≤ new.timestamp)
  (jitter : JitterEstimator) {t : ℚ}

/-- Before its time, the new snapshot is no latest one. -/
theorem latest_push_early (early : t < new.timestamp) :
    (bracket ⟨state.ring.push new, jitter⟩ t).1 = (state.kept.bracket t).1.map aged := by
  rw [latest_eq, latest_eq, snapshots_push, Selection.select_skips]
  · exact Selection.select_map (fun _ => Iff.rfl) (fun _ _ => Iff.rfl) _
  · exact not_le.mpr early

theorem earliest_aged : Selection.select (fun s => t ≤ s.2.timestamp)
    (fun s a => s.2.timestamp < a.2.timestamp) (state.kept.snapshots.map aged)
      = (state.kept.bracket t).2.map aged := by
  rw [earliest_eq]
  exact Selection.select_map (fun _ => Iff.rfl) (fun _ _ => Iff.rfl) _

theorem earliest_push (early : t ≤ new.timestamp) : (bracket ⟨state.ring.push new, jitter⟩ t).2
    = (state.kept.snapshots.map aged).foldl (Selection.pick (fun s => t ≤ s.2.timestamp)
        fun s a => s.2.timestamp < a.2.timestamp) (some (0, new)) := by
  rw [earliest_eq, snapshots_push, Selection.select_cons]
  exact early

/-- An earlier one on the far side of the time stays there. -/
theorem earliest_push_earlier (early : t ≤ new.timestamp) {a : Nat × Snapshot}
    (found : (state.kept.bracket t).2 = some a) (earlier : a.2.timestamp < new.timestamp) :
    (bracket ⟨state.ring.push new, jitter⟩ t).2 = some (aged a) := by
  rw [earliest_push jitter early]
  refine Selection.walks_better (fun _ _ => Iff.rfl) early ?_ earlier
  rw [earliest_aged, found, Option.map_some]

/-- Otherwise the new one is there. -/
theorem earliest_push_new (early : t ≤ new.timestamp)
    (none : ∀ a, (state.kept.bracket t).2 = some a → new.timestamp ≤ a.2.timestamp) :
    (bracket ⟨state.ring.push new, jitter⟩ t).2 = some (0, new) := by
  rw [earliest_push jitter early]
  refine Selection.keeps fun x inside after => ?_
  obtain ⟨s, member, rfl⟩ := List.mem_map.mp inside
  cases found : (state.kept.bracket t).2 with
  | none =>
    rw [earliest_eq] at found
    exact absurd after (Selection.select_none.mp found s member)
  | some a => exact not_lt.mpr ((none a found).trans ((earliest_some found).2.2 s member after))

theorem placed_push_early {place : Vec3} (early : t < new.timestamp)
    (drawn : state.kept.placed t = some place) :
    placed ⟨state.ring.push new, jitter⟩ t = some (place.add (state.kept.approach new t)) := by
  have latest := @latest_push_early state new jitter t early
  have unchanged := @earliest_push_earlier state new jitter t early.le
  have changed := @earliest_push_new state new jitter t early.le
  unfold approach
  rcases sides : state.kept.bracket t with ⟨_ | last, _ | next⟩
  · unfold placed at drawn
    rw [sides] at drawn
    cases drawn
  · rw [sides] at latest unchanged changed
    obtain rfl := Option.some.inj (drawn.symm.trans (placed_first (by rw [sides]) (by rw [sides])))
    simp only
    split_ifs with earlier
    · rw [placed_first latest (unchanged rfl earlier)]
      refine congrArg some ?_
      ext <;> simp [Vec3.add, aged]
    · rw [placed_first latest (changed fun a there => Option.some.inj there ▸ not_lt.mp earlier)]
      refine congrArg some ?_
      ext <;> simp [Vec3.add, Vec3.sub]
  · rw [sides] at latest changed
    obtain rfl := Option.some.inj (drawn.symm.trans (placed_last (by rw [sides]) (by rw [sides])))
    simp only [early, if_true]
    rw [placed_middle latest (changed fun a there => by cases there), extrapolated_eq]
    refine congrArg some ?_
    ext <;> simp only [Vec3.add, Vec3.sub, Vec3.scale, aged] <;> ring
  · rw [sides] at latest unchanged changed
    obtain rfl := Option.some.inj (drawn.symm.trans (placed_middle (by rw [sides]) (by rw [sides])))
    simp only [early, if_true]
    split_ifs with earlier
    · rw [placed_middle latest (unchanged rfl earlier)]
      refine congrArg some ?_
      ext <;> simp [Vec3.add, aged]
    · rw [placed_middle latest (changed fun a there => Option.some.inj there ▸ not_lt.mp earlier)]
      refine congrArg some ?_
      ext <;> simp only [Vec3.add, Vec3.sub, Vec3.scale, aged] <;> ring

include later

/-- From its time on, the new snapshot is drawn alone. -/
theorem placed_push_late (late : new.timestamp ≤ t) :
    placed ⟨state.ring.push new, jitter⟩ t = some (extrapolated new t) := by
  have latest : (bracket ⟨state.ring.push new, jitter⟩ t).1 = some (0, new) := by
    rw [latest_eq, snapshots_push, Selection.select_cons]
    · refine Selection.keeps fun x inside _ => ?_
      obtain ⟨s, member, rfl⟩ := List.mem_map.mp inside
      exact not_lt.mpr (later s member)
    · exact late
  unfold placed
  rcases found : bracket ⟨state.ring.push new, jitter⟩ t with ⟨l, _ | ⟨j, a⟩⟩
  · obtain rfl : l = some (0, new) := (congrArg Prod.fst found).symm.trans latest
    rfl
  · obtain rfl : l = some (0, new) := (congrArg Prod.fst found).symm.trans latest
    have known : ∀ s ∈ snapshots ⟨state.ring.push new, jitter⟩, s.2.timestamp ≤ new.timestamp := by
      rw [snapshots_push, List.forall_mem_cons]
      refine ⟨le_rfl, fun x inside => ?_⟩
      obtain ⟨s, member, rfl⟩ := List.mem_map.mp inside
      exact later s member
    obtain ⟨member, after, -⟩ := earliest_some (congrArg Prod.snd found)
    have now : t = new.timestamp := le_antisymm (after.trans (known _ member)) late
    have front := @earliest_push_new state new jitter t now.le fun a there => now ▸ (earliest_some there).2.1
    rw [found] at front
    exact if_pos (congrArg Prod.fst (Option.some.inj front))

/-- **What the new snapshot changes** at a time. -/
theorem placed_push {place : Vec3} (drawn : state.kept.placed t = some place) :
    placed ⟨state.ring.push new, jitter⟩ t = some (place.add (state.kept.approach new t)) := by
  rcases lt_or_ge t new.timestamp with early | late
  · exact placed_push_early jitter early drawn
  rw [placed_push_late later jitter late]
  unfold approach
  rcases sides : state.kept.bracket t with ⟨_ | last, _ | next⟩
  · unfold placed at drawn
    rw [sides] at drawn
    cases drawn
  · obtain ⟨member, after, -⟩ := earliest_some (congrArg Prod.snd sides)
    have none := (latest_eq state.kept t).symm.trans (congrArg Prod.fst sides)
    exact absurd ((later _ member).trans late) (Selection.select_none.mp none _ member)
  · obtain rfl := Option.some.inj (drawn.symm.trans (placed_last (by rw [sides]) (by rw [sides])))
    simp only [not_lt.mpr late, if_false]
    refine congrArg some ?_
    ext <;> simp [Vec3.add, Vec3.sub]
  · obtain rfl := Option.some.inj (drawn.symm.trans (placed_middle (by rw [sides]) (by rw [sides])))
    obtain ⟨-, above, latest⟩ := latest_some (congrArg Prod.fst sides)
    obtain ⟨member, after, -⟩ := earliest_some (congrArg Prod.snd sides)
    have now : next.2.timestamp = t := le_antisymm ((later next member).trans late) after
    have same : last.2.timestamp = t := le_antisymm above (now ▸ latest next member now.le)
    have stop : t = new.timestamp := le_antisymm (now ▸ later next member) late
    simp only [not_lt.mpr (now.symm ▸ late), not_lt.mpr late, if_false]
    rw [same, stop, extrapolated_self _ rfl]
    refine congrArg some ?_
    ext <;> simp [Vec3.add, Vec3.sub, Vec3.scale]

end Push

end EntityInterpState

/-! ### The correction -/

namespace SnapCorrection

variable {snap : SnapCorrection}

theorem apply_still (still : snap.active = false) (dt : ℚ) : snap.apply dt = ({}, snap) := by
  unfold SnapCorrection.apply
  simp [still]

theorem apply_ended (active : snap.active = true) {dt : ℚ} (ended : snap.blendTimer ≤ dt) :
    snap.apply dt = ({}, { snap with blendTimer := snap.blendTimer - dt, active := false }) := by
  unfold SnapCorrection.apply
  simp [active, ended]

theorem apply_runs (active : snap.active = true) {dt : ℚ} (runs : dt < snap.blendTimer) :
    snap.apply dt = (snap.errorOffset.scale ((snap.blendTimer - dt) / snap.blendTotal),
      { snap with blendTimer := snap.blendTimer - dt }) := by
  unfold SnapCorrection.apply
  simp [active, runs]

/-- The square of the length of what is still taken away. -/
def left (snap : SnapCorrection) : ℚ :=
  if snap.active then snap.errorOffset.lengthSq * (snap.blendTimer / snap.blendTotal) ^ 2 else 0

/-- Time is left, of some. -/
def Running (snap : SnapCorrection) : Prop :=
  snap.active = true → 0 ≤ snap.blendTimer ∧ 0 < snap.blendTotal

/-- **One frame**: it takes away what is left after it, and that is not more than before. -/
theorem apply_left (running : snap.Running) (dt : ℚ≥0) : (snap.apply dt).2.Running
    ∧ (snap.apply dt).1.lengthSq = (snap.apply dt).2.left ∧ (snap.apply dt).2.left ≤ snap.left := by
  have nothing : ({} : Vec3).lengthSq = 0 := by norm_num [Vec3.lengthSq]
  by_cases active : snap.active = true
  · have start : snap.left = snap.errorOffset.lengthSq * (snap.blendTimer / snap.blendTotal) ^ 2 :=
      if_pos active
    obtain ⟨more, total⟩ := running active
    rcases le_or_gt snap.blendTimer dt with ended | runs
    · rw [apply_ended active ended, start]
      refine ⟨fun active => absurd active Bool.false_ne_true, nothing, ?_⟩
      exact mul_nonneg (Vec3.lengthSq_nonneg _) (sq_nonneg _)
    · rw [apply_runs active runs, start]
      have after : left { snap with blendTimer := snap.blendTimer - dt }
          = snap.errorOffset.lengthSq * ((snap.blendTimer - dt) / snap.blendTotal) ^ 2 := if_pos active
      refine ⟨fun _ => ⟨(sub_pos.mpr runs).le, total⟩, ?_, ?_⟩
      · rw [after, Vec3.lengthSq_scale]
      · have positive : (0 : ℚ) ≤ dt := dt.2
        rw [after]
        refine mul_le_mul_of_nonneg_left ?_ (Vec3.lengthSq_nonneg _)
        refine pow_le_pow_left₀ (div_nonneg (sub_pos.mpr runs).le total.le) ?_ 2
        exact div_le_div_of_nonneg_right (by linarith) total.le
  · have still := Bool.eq_false_iff.mpr active
    have none : snap.left = 0 := if_neg active
    rw [apply_still still]
    exact ⟨running, nothing.trans none.symm, le_rfl⟩

/-- A correction that goes on has the time that is left. -/
theorem apply_active {dt : ℚ} (goes : (snap.apply dt).2.active = true) :
    snap.active = true ∧ (snap.apply dt).2.blendTimer = snap.blendTimer - dt := by
  by_cases active : snap.active = true
  · refine ⟨active, ?_⟩
    rcases le_or_gt snap.blendTimer dt with ended | runs
    · rw [apply_ended active ended]
    · rw [apply_runs active runs]
  · rw [apply_still (Bool.eq_false_iff.mpr active)] at goes
    exact absurd goes active

/-- The correction is over at the end of frames that take its time. -/
theorem corrections_last {frames : List ℚ≥0} (some : frames ≠ [])
    (time : snap.active = true → snap.blendTimer ≤ (frames.map fun dt : ℚ≥0 => (dt : ℚ)).sum) :
    (corrections snap frames).getLast? = Option.some {} := by
  induction frames generalizing snap with
  | nil => exact absurd rfl some
  | cons dt rest ih =>
    rw [List.map_cons, List.sum_cons] at time
    unfold corrections
    rw [List.getLast?_cons]
    refine congrArg Option.some ?_
    by_cases last : rest = []
    · subst last
      rw [List.map_nil, List.sum_nil, add_zero] at time
      show (snap.apply dt).1 = {}
      by_cases active : snap.active = true
      · rw [apply_ended active (time active)]
      · rw [apply_still (Bool.eq_false_iff.mpr active)]
    · rw [ih last fun goes => ?_, Option.getD_some]
      obtain ⟨active, timer⟩ := apply_active goes
      rw [timer]
      linarith [time active]

/-- **All frames**: what they take away never grows. -/
theorem corrections_fade (running : snap.Running) (frames : List ℚ≥0) :
    (∀ c ∈ corrections snap frames, c.lengthSq ≤ snap.left)
      ∧ (corrections snap frames).Pairwise fun c c' => c'.lengthSq ≤ c.lengthSq := by
  induction frames generalizing snap with
  | nil => exact ⟨fun c inside => absurd inside List.not_mem_nil, .nil⟩
  | cons dt rest ih =>
    obtain ⟨runs, taken, less⟩ := apply_left running dt
    obtain ⟨bounded, fades⟩ := ih runs
    refine ⟨List.forall_mem_cons.mpr ⟨taken.trans_le less, fun c inside => (bounded c inside).trans less⟩,
      List.pairwise_cons.mpr ⟨fun c inside => ?_, fades⟩⟩
    rw [taken]
    exact bounded c inside

/-- A correction that has just been started. -/
theorem fades_started (error : Vec3) : Fades ⟨true, error, KMP_SNAP_CORRECT_SEC, KMP_SNAP_CORRECT_SEC⟩ := by
  intro frames
  have running : Running ⟨true, error, KMP_SNAP_CORRECT_SEC, KMP_SNAP_CORRECT_SEC⟩ :=
    fun _ => by norm_num [KMP_SNAP_CORRECT_SEC]
  have whole : left ⟨true, error, KMP_SNAP_CORRECT_SEC, KMP_SNAP_CORRECT_SEC⟩ = error.lengthSq := by
    norm_num [left, KMP_SNAP_CORRECT_SEC]
  obtain ⟨bounded, fades⟩ := corrections_fade running frames
  rw [whole] at bounded
  refine ⟨List.pairwise_cons.mpr ⟨bounded, fades⟩, fun time => corrections_last ?_ fun _ => time⟩
  rintro rfl
  norm_num [KMP_SNAP_CORRECT_SEC] at time

end SnapCorrection

/-! ### The arrival of a sample -/

section Arrival

variable {entity : Tracked} {sample : Sample} {prev : Snapshot} (newest : entity.ring.get 0 = some prev)
  (some : (predictionError prev sample).Longer KMP_SNAP_THRESHOLD_MIN)
  (few : ¬ (predictionError prev sample).Longer KMP_SNAP_THRESHOLD_MAX)
include newest some few

/-- The whole error is to be taken away. -/
theorem add_starts : (entity.addSnapshot sample).snap
    = ⟨true, predictionError prev sample, KMP_SNAP_CORRECT_SEC, KMP_SNAP_CORRECT_SEC⟩ := by
  unfold Tracked.addSnapshot Tracked.corrected SnapCorrection.startCorrection
  simp only [newest, Option.map_some, Option.getD_some, if_neg few, if_pos some]

theorem add_correction : (entity.addSnapshot sample).correction 0 = predictionError prev sample := by
  unfold Tracked.correction
  rw [add_starts newest some few, SnapCorrection.apply_runs rfl (by norm_num [KMP_SNAP_CORRECT_SEC])]
  norm_num [Vec3.scale, KMP_SNAP_CORRECT_SEC]

end Arrival

/-- A sample in order that is not where the newest snapshot leads, but not very far from there either, and
that leaves the delay as it is: its arrival is hidden at a time exactly if what it changes there is near
the error. -/
theorem snap_hides_iff (entity : Tracked) (inactive : entity.snap.active = false) (sample : Sample)
    (prev : Snapshot) (newest : entity.ring.get 0 = Option.some prev)
    (inOrder : ∀ s ∈ entity.snapshots, s.2.timestamp ≤ sample.timestamp)
    (some : (predictionError prev sample).Longer KMP_SNAP_THRESHOLD_MIN)
    (few : ¬ (predictionError prev sample).Longer KMP_SNAP_THRESHOLD_MAX)
    (delay : (entity.addSnapshot sample).jitter.adaptiveDelay = entity.jitter.adaptiveDelay)
    (renderTime : ℚ) : SnapHides entity sample renderTime
      ↔ Hidden entity prev sample (renderTime - entity.jitter.adaptiveDelay) := by
  have member : (0, prev) ∈ entity.kept.snapshots := by
    refine EntityInterpState.snapshots_mem.mpr ?_
    rw [EntityInterpState.get_kept (by norm_num [KMP_MAX_SNAPSHOTS])]
    exact newest
  have fades : Fades (entity.addSnapshot sample).snap := by
    rw [add_starts newest some few]
    exact SnapCorrection.fades_started _
  obtain ⟨place, drawn⟩ := EntityInterpState.placed_some (EntityInterpState.snapshots_kept member)
    (renderTime - entity.jitter.adaptiveDelay)
  obtain ⟨kept, drawn'⟩ := EntityInterpState.placed_some member (renderTime - entity.jitter.adaptiveDelay)
  have pushed : (entity.addSnapshot sample).toEntityInterpState.placed
      (renderTime - entity.jitter.adaptiveDelay) = Option.some (kept.add (entity.kept.approach
        (entity.snapshotOf sample) (renderTime - entity.jitter.adaptiveDelay))) :=
    EntityInterpState.placed_push (fun s inside => inOrder s (EntityInterpState.snapshots_kept inside)) _
      drawn'
  have before : (entity.getInterpolated 0 renderTime).1 = Option.some place := by
    rw [getInterpolated_fst, EntityInterpState.interpolateEntity_eq, drawn]
    unfold Tracked.correction
    rw [inactive]
    refine congrArg Option.some ?_
    ext <;> simp [Vec3.sub]
  have after : ((entity.addSnapshot sample).getInterpolated 0 renderTime).1
      = Option.some ((kept.add (entity.kept.approach (entity.snapshotOf sample)
          (renderTime - entity.jitter.adaptiveDelay))).sub (predictionError prev sample)) := by
    rw [getInterpolated_fst, EntityInterpState.interpolateEntity_eq, delay, pushed,
      add_correction newest some few]
    rfl
  have change : (((kept.add (entity.kept.approach (entity.snapshotOf sample)
      (renderTime - entity.jitter.adaptiveDelay))).sub (predictionError prev sample)).sub place)
      = ((entity.forgotten (renderTime - entity.jitter.adaptiveDelay)).add (entity.kept.approach
        (entity.snapshotOf sample) (renderTime - entity.jitter.adaptiveDelay))).sub
          (predictionError prev sample) := by
    unfold EntityInterpState.forgotten
    rw [drawn, drawn']
    ext <;> simp only [Vec3.add, Vec3.sub, Option.getD_some] <;> ring
  unfold Hidden
  rw [← change]
  constructor
  · intro hides
    exact hides.hides place _ before after
  · intro near
    refine ⟨fun old new found found' => ?_, fades⟩
    obtain rfl := Option.some.inj (before.symm.trans found)
    obtain rfl := Option.some.inj (after.symm.trans found')
    exact near

/-- An entity that stands still, and a sample ten units away. -/
def standing : Tracked := Tracked.after [.add ⟨1, {}⟩, .add ⟨21 / 20, {}⟩]

/-- At the time of the sample the correction takes back what the sample has changed. -/
theorem snap_hides_standing :
    SnapHides standing ⟨11 / 10, { x := 10 }⟩ (11 / 10 + standing.jitter.adaptiveDelay) :=
  (snap_hides_iff standing (by decide +kernel) ⟨11 / 10, { x := 10 }⟩ { timestamp := 21 / 20 }
    (by decide +kernel) (by decide +kernel) (by decide +kernel) (by decide +kernel) (by decide +kernel) _).mpr
      (by unfold Hidden; decide +kernel)

/-- Between the two snapshots the entity is drawn ten units away from where it was. -/
theorem snap_hides_fails : ¬ ∀ entity : Tracked, entity.snap.active = false →
    ∀ (sample : Sample) (prev : Snapshot), entity.ring.get 0 = some prev →
      (∀ s ∈ entity.snapshots, s.2.timestamp ≤ sample.timestamp) →
      (predictionError prev sample).Longer KMP_SNAP_THRESHOLD_MIN →
      ¬ (predictionError prev sample).Longer KMP_SNAP_THRESHOLD_MAX →
      (entity.addSnapshot sample).jitter.adaptiveDelay = entity.jitter.adaptiveDelay →
      ∀ renderTime, SnapHides entity sample renderTime := by
  intro holds
  have hides := (holds standing (by decide +kernel) ⟨11 / 10, { x := 10 }⟩ { timestamp := 21 / 20 }
    (by decide +kernel) (by decide +kernel) (by decide +kernel) (by decide +kernel) (by decide +kernel)
    (51 / 50 + standing.jitter.adaptiveDelay)).hides {} { x := -10 } (by decide +kernel) (by decide +kernel)
  revert hides
  decide +kernel

end Exact

end KenshiMP
