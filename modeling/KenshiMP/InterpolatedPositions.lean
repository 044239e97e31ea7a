/-
**Interpolated positions: what the interpolation of an entity returns.**

* `snapshots_mem`: the loop comes to the last eight snapshots;
* `bracket_eq`: it finds the latest one up to a time, and the earliest one from it on;
* `interpolateEntity_reference`: up to the largest timestamp, the position is on the line between the
  two, at the place that belongs to the time.
-/

import KenshiMP.Client.ExactInterpolation

namespace KenshiMP

namespace Exact

/-! ### The reference -/

/-- The last eight snapshots. -/
def lastEight (adds : List Sample) : List Sample := adds.reverse.take KMP_MAX_SNAPSHOTS

/-- On the line through two samples, at a time. -/
def lineAt (b a : Sample) (t : ℚ) : Vec3 :=
  b.position.add ((a.position.sub b.position).scale ((t - b.timestamp) / (a.timestamp - b.timestamp)))

structure Latest (recent : List Sample) (t : ℚ) (b : Sample) : Prop where
  member : b ∈ recent
  not_after : b.timestamp ≤ t
  latest : ∀ s ∈ recent, s.timestamp ≤ t → s.timestamp ≤ b.timestamp

structure Earliest (recent : List Sample) (t : ℚ) (a : Sample) : Prop where
  member : a ∈ recent
  not_before : t ≤ a.timestamp
  earliest : ∀ s ∈ recent, t ≤ s.timestamp → a.timestamp ≤ s.timestamp

/-- The position at a time, from some samples. -/
structure Reference (recent : List Sample) (t : ℚ) (pos : Vec3) : Prop where
  early : (∀ s ∈ recent, t < s.timestamp) → ∃ a, Earliest recent t a ∧ pos = a.position
  between : (∃ s ∈ recent, s.timestamp ≤ t) →
    ∃ b a, Latest recent t b ∧ Earliest recent t a ∧ pos = lineAt b a t
  exact : ∀ s ∈ recent, s.timestamp = t → pos = s.position
  segment : ∃ b ∈ recent, ∃ a ∈ recent, ∃ w : ℚ, 0 ≤ w ∧ w ≤ 1
    ∧ pos = b.position.add ((a.position.sub b.position).scale w)

/-! ### The loop -/

namespace EntityInterpState

theorem get_lt_count {state : EntityInterpState} {i : Nat} {s : Snapshot}
    (found : state.ring.get i = some s) : i < state.ring.count := by
  unfold RecentRing.get at found
  split_ifs at found with inside
  exact inside

theorem snapshots_mem {state : EntityInterpState} {i : Nat} {s : Snapshot} :
    (i, s) ∈ state.snapshots ↔ state.ring.get i = some s := by
  unfold snapshots
  rw [List.mem_filterMap]
  constructor
  · rintro ⟨j, -, made⟩
    obtain ⟨other, found, same⟩ := Option.map_eq_some_iff.mp made
    obtain ⟨rfl, rfl⟩ := Prod.mk.inj same
    exact found
  · intro found
    refine ⟨i, List.mem_range.mpr (get_lt_count found), ?_⟩
    rw [found, Option.map_some]

/-- **The ring has the samples**, with some velocities. -/
theorem after_ring (adds : List Sample) :
    ∃ made : List Snapshot, made.map Snapshot.toSample = adds
      ∧ (after adds).ring = noSnapshots.pushAll made := by
  unfold after
  induction adds using List.reverseRecOn with
  | nil => exact ⟨[], rfl, rfl⟩
  | append_singleton adds add ih =>
    obtain ⟨made, same, ring⟩ := ih
    refine ⟨made ++ [(adds.foldl addSnapshot {}).snapshotOf add], ?_, ?_⟩
    · rw [List.map_append, same]
      rfl
    · unfold RecentRing.pushAll at ring ⊢
      rw [List.foldl_append, List.foldl_append, List.foldl_cons, List.foldl_nil, List.foldl_cons,
        List.foldl_nil, ← ring]
      rfl

/-- The sample of an age. -/
theorem after_get (adds : List Sample) (i : Nat) :
    ((after adds).ring.get i).map Snapshot.toSample = (lastEight adds)[i]? := by
  obtain ⟨made, same, ring⟩ := after_ring adds
  unfold lastEight
  rw [ring, RecentRing.get_pushAll rfl, ← same, ← List.map_reverse, ← List.map_take, List.getElem?_map]

/-- One loop does the work of two. -/
theorem bracket_eq (state : EntityInterpState) (t : ℚ) : state.bracket t
    = (Selection.select (fun s => s.2.timestamp ≤ t) (fun s b => b.2.timestamp < s.2.timestamp)
        state.snapshots,
      Selection.select (fun s => t ≤ s.2.timestamp) (fun s a => s.2.timestamp < a.2.timestamp)
        state.snapshots) := by
  have pairs (elements : List (Nat × Snapshot)) (b a : Option (Nat × Snapshot)) :
      elements.foldl (bracketStep t) (b, a)
        = (elements.foldl (Selection.pick (fun s => s.2.timestamp ≤ t)
            (fun s b => b.2.timestamp < s.2.timestamp)) b,
          elements.foldl (Selection.pick (fun s => t ≤ s.2.timestamp)
            (fun s a => s.2.timestamp < a.2.timestamp)) a) := by
    induction elements generalizing b a with
    | nil => rfl
    | cons s rest ih => exact ih _ _
  exact pairs _ none none

/-! ### The last eight -/

section Run

variable {adds : List Sample}

theorem mem_lastEight {s : Sample} :
    s ∈ lastEight adds ↔ ∃ entry ∈ (after adds).snapshots, entry.2.toSample = s := by
  constructor
  · intro member
    obtain ⟨i, found⟩ := List.mem_iff_getElem?.mp member
    rw [← after_get] at found
    obtain ⟨snapshot, here, same⟩ := Option.map_eq_some_iff.mp found
    exact ⟨(i, snapshot), snapshots_mem.mpr here, same⟩
  · rintro ⟨⟨i, snapshot⟩, member, same⟩
    have found := after_get adds i
    rw [snapshots_mem.mp member, Option.map_some, same] at found
    exact List.mem_of_getElem? found.symm

/-- Snapshots of different ages have timestamps that differ. -/
theorem snapshots_apart
    (apart : (lastEight adds).Pairwise fun one two => 1 / 1000 < |one.timestamp - two.timestamp|)
    {one two : Nat × Snapshot} (first : one ∈ (after adds).snapshots)
    (second : two ∈ (after adds).snapshots) (differ : one.1 ≠ two.1) :
    1 / 1000 < |one.2.timestamp - two.2.timestamp| := by
  have sample (entry : Nat × Snapshot) (member : entry ∈ (after adds).snapshots) :
      (lastEight adds)[entry.1]? = some entry.2.toSample := by
    rw [← after_get, snapshots_mem.mp member, Option.map_some]
  obtain ⟨within, same⟩ := List.getElem?_eq_some_iff.mp (sample one first)
  obtain ⟨within', same'⟩ := List.getElem?_eq_some_iff.mp (sample two second)
  have ordered := List.pairwise_iff_getElem.mp apart
  rcases Nat.lt_or_gt_of_ne differ with less | more
  · have far := ordered one.1 two.1 within within' less
    rwa [same, same'] at far
  · have far := ordered two.1 one.1 within' within more
    rw [same, same'] at far
    rwa [abs_sub_comm]

theorem forall_lastEight (P : Sample → Prop) :
    (∀ s ∈ lastEight adds, P s) ↔ ∀ entry ∈ (after adds).snapshots, P entry.2.toSample := by
  constructor
  · exact fun all entry member => all _ (mem_lastEight.mpr ⟨entry, member, rfl⟩)
  · intro all s member
    obtain ⟨entry, inside, rfl⟩ := mem_lastEight.mp member
    exact all entry inside

theorem snapshots_age_inj {state : EntityInterpState} {one two : Nat × Snapshot}
    (first : one ∈ state.snapshots) (second : two ∈ state.snapshots) (ages : one.1 = two.1) :
    one = two := by
  have here := snapshots_mem.mp first
  have there := snapshots_mem.mp second
  rw [ages, there] at here
  exact Prod.ext ages (Option.some.inj here).symm

theorem lastEight_distinct
    (apart : (lastEight adds).Pairwise fun one two => 1 / 1000 < |one.timestamp - two.timestamp|) :
    ∀ s ∈ lastEight adds, ∀ s' ∈ lastEight adds, s.timestamp = s'.timestamp → s = s' := by
  rw [forall_lastEight]
  intro one first
  rw [forall_lastEight]
  intro two second same
  by_cases ages : one.1 = two.1
  · rw [snapshots_age_inj first second ages]
  · have far := snapshots_apart apart first second ages
    have zero : one.2.timestamp - two.2.timestamp = 0 := sub_eq_zero.mpr same
    rw [zero, abs_zero] at far
    exact absurd far (by norm_num)

theorem later_iff (s b : Nat × Snapshot) : b.2.timestamp < s.2.timestamp
    ↔ OrderDual.toDual s.2.timestamp < OrderDual.toDual b.2.timestamp := Iff.rfl

/-- What the loop keeps is the latest sample up to the time, and the earliest one from it on. -/
theorem latest_of_select {t : ℚ} {b : Nat × Snapshot}
    (found : Selection.select (fun s => s.2.timestamp ≤ t) (fun s b => b.2.timestamp < s.2.timestamp)
      (after adds).snapshots = some b) : Latest (lastEight adds) t b.2.toSample := by
  obtain ⟨member, not_after, greatest⟩ := Selection.select_some later_iff found
  exact ⟨mem_lastEight.mpr ⟨b, member, rfl⟩, not_after, (forall_lastEight _).mpr greatest⟩

theorem earliest_of_select {t : ℚ} {a : Nat × Snapshot}
    (found : Selection.select (fun s => t ≤ s.2.timestamp) (fun s a => s.2.timestamp < a.2.timestamp)
      (after adds).snapshots = some a) : Earliest (lastEight adds) t a.2.toSample := by
  obtain ⟨member, not_before, least⟩ := Selection.select_some (fun _ _ => Iff.rfl) found
  exact ⟨mem_lastEight.mpr ⟨a, member, rfl⟩, not_before, (forall_lastEight _).mpr least⟩

end Run

end EntityInterpState

/-! ### The line -/

theorem lineAt_start (b : Sample) (t : ℚ) : lineAt b b t = b.position := by
  unfold lineAt Vec3.add Vec3.sub Vec3.scale
  ext
  · simp
  · simp
  · simp

/-- At the time of the second sample, the line is there. -/
theorem lineAt_end {b a : Sample} (later : b.timestamp < a.timestamp) :
    lineAt b a a.timestamp = a.position := by
  have span : a.timestamp - b.timestamp ≠ 0 := sub_ne_zero.mpr (ne_of_gt later)
  unfold lineAt Vec3.add Vec3.sub Vec3.scale
  rw [div_self span]
  ext
  · ring
  · ring
  · ring

theorem weight_bounds {b a t : ℚ} (before : b ≤ t) (after : t ≤ a) :
    0 ≤ (t - b) / (a - b) ∧ (t - b) / (a - b) ≤ 1 := by
  refine ⟨div_nonneg (sub_nonneg.mpr before) (sub_nonneg.mpr (le_trans before after)), ?_⟩
  exact div_le_one_of_le₀ (sub_le_sub_right after b) (sub_nonneg.mpr (le_trans before after))

/-- Between two samples that are apart, the weight is not clamped. -/
theorem between_eq {b a : Snapshot} {t : ℚ} (before : b.timestamp ≤ t) (after : t ≤ a.timestamp)
    (apart : 1 / 1000 < a.timestamp - b.timestamp) :
    EntityInterpState.between b a t = lineAt b.toSample a.toSample t := by
  obtain ⟨low, high⟩ := weight_bounds before after
  unfold EntityInterpState.between lineAt clamp
  dsimp only
  rw [if_pos apart, if_neg (not_lt.mpr low), if_neg (not_lt.mpr high)]

/-- At its own time, a snapshot is not extrapolated. -/
theorem extrapolated_self (s : Snapshot) {t : ℚ} (now : s.timestamp = t) :
    EntityInterpState.extrapolated s t = s.position := by
  unfold EntityInterpState.extrapolated
  dsimp only
  rw [now, sub_self]
  exact if_neg fun moves => lt_irrefl 0 moves.1

/-! ### The position -/

open EntityInterpState (forall_lastEight earliest_of_select latest_of_select)

/-- From the two samples beside a time, the position is on the line between them. -/
theorem reference_of_lineAt {recent : List Sample} {t : ℚ} {b a : Sample} (before : Latest recent t b)
    (after : Earliest recent t a)
    (distinct : ∀ s ∈ recent, ∀ s' ∈ recent, s.timestamp = s'.timestamp → s = s') :
    Reference recent t (lineAt b a t) where
  early all := absurd (all b before.member) (not_lt.mpr before.not_after)
  between _ := ⟨b, a, before, after, rfl⟩
  exact s member now := by
    have same_b : b.timestamp = s.timestamp :=
      le_antisymm (now ▸ before.not_after) (before.latest s member (le_of_eq now))
    have same_a : a.timestamp = s.timestamp :=
      le_antisymm (after.earliest s member (ge_of_eq now)) (now ▸ after.not_before)
    rw [distinct b before.member s member same_b, distinct a after.member s member same_a, lineAt_start]
  segment := by
    obtain ⟨low, high⟩ := weight_bounds before.not_after after.not_before
    exact ⟨b, before.member, a, after.member, _, low, high, rfl⟩

/-- Before all samples, it is that of the first one. -/
theorem reference_of_early {recent : List Sample} {t : ℚ} {a : Sample}
    (all : ∀ s ∈ recent, t < s.timestamp) (first : Earliest recent t a) :
    Reference recent t a.position where
  early _ := ⟨a, first, rfl⟩
  between := fun ⟨s, member, before⟩ => absurd (all s member) (not_lt.mpr before)
  exact s member now := absurd (all s member) (not_lt.mpr (le_of_eq now))
  segment := by
    refine ⟨a, first.member, a, first.member, 0, le_rfl, zero_le_one, ?_⟩
    unfold Vec3.add Vec3.sub Vec3.scale
    ext
    · simp
    · simp
    · simp

/-- **The interpolation of an entity**, up to the largest timestamp of the last eight snapshots. -/
theorem interpolateEntity_reference (adds : List Sample) (renderTime : ℚ)
    (apart : (lastEight adds).Pairwise fun one two => 1 / 1000 < |one.timestamp - two.timestamp|)
    (reached : ∃ s ∈ lastEight adds,
      renderTime - (EntityInterpState.after adds).jitter.adaptiveDelay ≤ s.timestamp) :
    ∃ pos, (EntityInterpState.after adds).interpolateEntity renderTime = some pos
      ∧ Reference (lastEight adds)
          (renderTime - (EntityInterpState.after adds).jitter.adaptiveDelay) pos := by
  generalize time : renderTime - (EntityInterpState.after adds).jitter.adaptiveDelay = t at reached ⊢
  have distinct := EntityInterpState.lastEight_distinct apart
  unfold EntityInterpState.interpolateEntity
  dsimp only
  rw [time, EntityInterpState.bracket_eq]
  cases earliest : Selection.select (fun s => t ≤ s.2.timestamp)
      (fun s a => s.2.timestamp < a.2.timestamp) (EntityInterpState.after adds).snapshots with
  | none =>
    obtain ⟨s, member, behind⟩ := reached
    have none := (forall_lastEight fun s => ¬ t ≤ s.timestamp).mpr (Selection.select_none.mp earliest)
    exact absurd behind (none s member)
  | some a =>
    have after := earliest_of_select earliest
    cases latest : Selection.select (fun s => s.2.timestamp ≤ t)
        (fun s b => b.2.timestamp < s.2.timestamp) (EntityInterpState.after adds).snapshots with
    | none =>
      have all := (forall_lastEight fun s => ¬ s.timestamp ≤ t).mpr (Selection.select_none.mp latest)
      exact ⟨_, rfl, reference_of_early (fun s member => not_le.mp (all s member)) after⟩
    | some b =>
      have before := latest_of_select latest
      have reference := reference_of_lineAt before after distinct
      have inside := (Selection.select_some (fun _ _ => Iff.rfl) earliest).1
      have within := (Selection.select_some EntityInterpState.later_iff latest).1
      dsimp only
      by_cases same : a.1 = b.1
      · -- the loop has found one snapshot twice: its time is `t`
        have one : a = b := EntityInterpState.snapshots_age_inj inside within same
        subst one
        have now : a.2.timestamp = t := le_antisymm before.not_after after.not_before
        rw [if_pos same, extrapolated_self a.2 now]
        rw [lineAt_start] at reference
        exact ⟨_, rfl, reference⟩
      · have far := EntityInterpState.snapshots_apart apart inside within same
        have ordered : b.2.timestamp ≤ a.2.timestamp := le_trans before.not_after after.not_before
        rw [abs_of_nonneg (sub_nonneg.mpr ordered)] at far
        rw [if_neg same, between_eq before.not_after after.not_before far]
        exact ⟨_, rfl, reference⟩

/-- Three samples on a line, the last one late. -/
def lateSample : List Sample := [⟨1, {}⟩, ⟨3, { x := 30 }⟩, ⟨2, { x := 20 }⟩]

theorem interpolateEntity_late :
    ((EntityInterpState.after lateSample).interpolateEntity (27 / 10) = some { x := 25 })
      ∧ ((lastEight lateSample).Pairwise fun one two => 1 / 1000 < |one.timestamp - two.timestamp|)
      ∧ ∃ pos, (EntityInterpState.after lateSample).interpolateEntity (27 / 10) = some pos
        ∧ Reference (lastEight lateSample)
            (27 / 10 - (EntityInterpState.after lateSample).jitter.adaptiveDelay) pos := by
  have apart : (lastEight lateSample).Pairwise fun one two => 1 / 1000 < |one.timestamp - two.timestamp| := by
    decide +kernel
  have reached : ∃ s ∈ lastEight lateSample,
      27 / 10 - (EntityInterpState.after lateSample).jitter.adaptiveDelay ≤ s.timestamp := by decide +kernel
  exact ⟨by decide +kernel, apart, interpolateEntity_reference lateSample (27 / 10) apart reached⟩

end Exact

end KenshiMP
