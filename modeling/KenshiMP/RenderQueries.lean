/-
**Queries of the interpolation, and the time of a correction.**

A correction has its time from the queries: each takes the time of the frame off it. `Clock` is the entity as
it should be, whose correction goes on with the frames and which queries leave alone.

* `follows_run`: an entity with an active correction that is looked at once in every frame follows the
  clock (`OncePerFrame`);
* `timely_run`: its correction has less time left than the frames leave, up to the rounding of the
  subtractions (`Measured`);
* `render_queries`: so what is drawn depends on the snapshots and the frames alone, and the correction ends.
-/

import KenshiMP.Lib.BinaryErrors
import KenshiMP.Client.RenderCalls

namespace KenshiMP

open Assoc Binary

namespace Interpolation

/-! ### What should be -/

def Call.isQuery : Call → Bool
  | .getInterpolated _ _ => true
  | _ => false

/-- The calls that are no queries. -/
def writes (calls : List Call) : List Call := calls.filter fun call => !call.isQuery

/-- What is drawn without a correction. -/
def drawn (interp : Interpolation) (entityId : EntityID) (renderTime : F32) : Option Vec3 :=
  (interp.entities.lookup entityId).bind fun state => state.interpolateEntity renderTime

/-- The correction of an entity is active. -/
def correcting (interp : Interpolation) (entityId : EntityID) : Bool :=
  ((interp.entities.lookup entityId).map fun state => state.snap.active).getD false

/-- A position starts a correction, after some snapshots. -/
def starts (snapshots : List Snapshot) (timestamp : F32) (pos : Vec3) : Bool :=
  match snapshots with
  | [] => false
  | prev :: _ =>
    let error := pos.sub (prev.position.add (prev.velocity.scale (timestamp.sub prev.timestamp)))
    !KMP_SNAP_THRESHOLD_MAX.lt error.length && KMP_SNAP_THRESHOLD_MIN.lt error.length

/-- The interpolation, and for one entity: whether its correction has gone on in this frame, and since the
start of the correction the sum of the steps of `Update`, the time of the frame in which it was, and the
number of frames. -/
structure Watch where
  interp : Interpolation := {}
  asked : Bool := false
  since : ℚ := 0
  head : ℚ := 0
  frames : Nat := 0

namespace Watch

def step (entityId : EntityID) (w : Watch) : Call → Watch
  | .addSnapshot id timestamp pos rot =>
    let interp := w.interp.addSnapshot id timestamp pos rot
    let snapshots := ((w.interp.entities.lookup entityId).map fun state => state.snapshots).getD []
    if id = entityId ∧ pos.isFinite ∧ rot.isFinite ∧ starts snapshots timestamp pos then
      ⟨interp, false, 0, w.interp.deltaTime.toRat, 0⟩
    else { w with interp := interp }
  | .update deltaTime =>
    ⟨w.interp.update deltaTime, false, w.since + deltaTime.toRat, w.head, w.frames + 1⟩
  | .getInterpolated id renderTime =>
    { w with
      interp := (w.interp.getInterpolated id renderTime).2
      asked := w.asked
        || (id = entityId && w.interp.correcting entityId && (w.interp.drawn entityId renderTime).isSome) }

end Watch

/-- The entity as it should be: with every frame its correction goes on, and a query changes nothing. -/
structure Clock where
  entity : Option EntityInterpState := none
  deltaTime : F32 := lit 0 1

namespace Clock

def step (entityId : EntityID) (clock : Clock) : Call → Clock
  | .addSnapshot id timestamp pos rot =>
    if id = entityId ∧ pos.isFinite ∧ rot.isFinite then
      { clock with entity := some ((clock.entity.getD {}).addSnapshot timestamp pos) }
    else clock
  | .update deltaTime =>
    ⟨clock.entity.map fun state => { state with snap := (state.snap.apply clock.deltaTime).2 }, deltaTime⟩
  | .getInterpolated _ _ => clock

/-- The clock after some calls. -/
def run (entityId : EntityID) (calls : List Call) : Clock := calls.foldl (step entityId) {}

end Clock

/-- What has happened to an entity after some calls. -/
def watch (entityId : EntityID) (calls : List Call) : Watch := calls.foldl (Watch.step entityId) {}

/-- An active correction goes on once in every frame, that of its start included. -/
def OncePerFrame (entityId : EntityID) (w : Watch) : Call → Prop
  | .addSnapshot _ _ _ _ => True
  | .update _ => w.interp.correcting entityId = true → w.asked = true
  | .getInterpolated id renderTime => id = entityId → w.interp.correcting entityId = true →
      (w.interp.drawn entityId renderTime).isSome = true → w.asked = false

/-- The times of frames are numbers and not negative; the frame of the start was not shorter than what the
subtractions may round up, which is `2 ^ -26` in a frame at most. -/
def Measured (entityId : EntityID) (w : Watch) : Call → Prop
  | .update deltaTime => deltaTime.isFinite = true ∧ 0 ≤ deltaTime.toRat
      ∧ (w.interp.correcting entityId = true → ((w.frames + 2 : ℕ) : ℚ) / 2 ^ 26 ≤ w.head)
  | _ => True

instance decidableOncePerFrame (entityId : EntityID) (w : Watch) (call : Call) :
    Decidable (OncePerFrame entityId w call) :=
  match call with
  | .addSnapshot _ _ _ _ => isTrue trivial
  | .update _ => inferInstanceAs (Decidable (_ → _))
  | .getInterpolated _ _ => inferInstanceAs (Decidable (_ → _ → _ → _))

instance decidableMeasured (entityId : EntityID) (w : Watch) (call : Call) :
    Decidable (Measured entityId w call) :=
  match call with
  | .addSnapshot _ _ _ _ => isTrue trivial
  | .update _ => inferInstanceAs (Decidable (_ ∧ _ ∧ (_ → _)))
  | .getInterpolated _ _ => isTrue trivial

/-- A condition holds of every call, in the state before it. -/
def Along (allowed : Watch → Call → Prop) (entityId : EntityID) (calls : List Call) : Prop :=
  ∀ before call rest, calls = before ++ call :: rest → allowed (watch entityId before) call

/-! ### Runs -/

section Runs

variable {allowed : Watch → Call → Prop} {entityId : EntityID}

theorem watch_append (calls : List Call) (call : Call) :
    watch entityId (calls ++ [call]) = (watch entityId calls).step entityId call := by
  unfold watch
  rw [List.foldl_append, List.foldl_cons, List.foldl_nil]

theorem watch_interp (calls : List Call) : (watch entityId calls).interp = after calls := by
  induction calls using List.reverseRecOn with
  | nil => rfl
  | append_singleton calls call ih =>
    have next : after (calls ++ [call]) = (after calls).call call := by
      unfold after
      rw [List.foldl_append, List.foldl_cons, List.foldl_nil]
    rw [watch_append, next, ← ih]
    cases call with
    | addSnapshot id timestamp pos rot =>
      unfold Watch.step
      simp only
      split_ifs <;> rfl
    | update deltaTime => rfl
    | getInterpolated id renderTime => rfl

theorem Along.last {calls : List Call} {call : Call} (along : Along allowed entityId (calls ++ [call])) :
    Along allowed entityId calls ∧ allowed (watch entityId calls) call := by
  refine ⟨fun before entry rest parts => along before entry (rest ++ [call]) ?_, along calls call [] rfl⟩
  rw [parts, List.append_assoc, List.cons_append]

theorem along_of_all {calls : List Call}
    (all : ∀ i : Fin calls.length, allowed (watch entityId (calls.take i)) calls[i]) :
    Along allowed entityId calls := by
  rintro before call rest rfl
  have here := all ⟨before.length, by simp⟩
  simpa using here

/-- What every step keeps that is allowed, a run keeps. -/
theorem along_run {property : List Call → Watch → Prop} (start : property [] {})
    (step : ∀ calls w call, property calls w → allowed w call →
      property (calls ++ [call]) (w.step entityId call))
    {calls : List Call} (along : Along allowed entityId calls) : property calls (watch entityId calls) := by
  induction calls using List.reverseRecOn with
  | nil => exact start
  | append_singleton calls call ih =>
    obtain ⟨before, now⟩ := along.last
    rw [watch_append]
    exact step calls _ call (ih before) now

end Runs

/-! ### One call -/

section Calls

variable (interp : Interpolation)

theorem lookup_addSnapshot (id other : EntityID) (timestamp : F32) (pos : Vec3) (rot : Quat) :
    (interp.addSnapshot id timestamp pos rot).entities.lookup other
      = if id = other ∧ pos.isFinite ∧ rot.isFinite then
          some (((interp.entities.lookup other).getD {}).addSnapshot timestamp pos)
        else interp.entities.lookup other := by
  unfold addSnapshot
  by_cases finite : pos.isFinite = true ∧ rot.isFinite = true
  · rw [if_neg (by simp [finite.1, finite.2])]
    simp only [AMap.lookup_insert_eq]
    by_cases same : other = id
    · rw [if_pos same, if_pos ⟨same.symm, finite⟩, same]
    · rw [if_neg same, if_neg fun both => same both.1.symm]
  · rw [if_pos, if_neg fun all => finite all.2]
    simp only [not_and, Bool.not_eq_true] at finite
    cases known : pos.isFinite with
    | true => simp [finite known]
    | false => rfl

theorem deltaTime_addSnapshot (id : EntityID) (timestamp : F32) (pos : Vec3) (rot : Quat) :
    (interp.addSnapshot id timestamp pos rot).deltaTime = interp.deltaTime := by
  unfold addSnapshot
  split_ifs <;> rfl

/-- What is drawn of a state in a frame. -/
def shown (state : EntityInterpState) (deltaTime renderTime : F32) : Option Vec3 :=
  (state.interpolateEntity renderTime).map fun pos =>
    if state.snap.active then pos.sub (state.snap.apply deltaTime).1 else pos

theorem getInterpolated_fst (id : EntityID) (renderTime : F32) :
    (interp.getInterpolated id renderTime).1
      = (interp.entities.lookup id).bind fun state => shown state interp.deltaTime renderTime := by
  unfold getInterpolated shown
  cases interp.entities.lookup id with
  | none => rfl
  | some state =>
    simp only [Option.bind_some]
    cases state.interpolateEntity renderTime with
    | none => rfl
    | some pos =>
      simp only [Option.map_some]
      split_ifs <;> rfl

theorem deltaTime_getInterpolated (id : EntityID) (renderTime : F32) :
    (interp.getInterpolated id renderTime).2.deltaTime = interp.deltaTime := by
  unfold getInterpolated
  cases interp.entities.lookup id with
  | none => rfl
  | some state =>
    simp only
    cases state.interpolateEntity renderTime with
    | none => rfl
    | some pos =>
      simp only
      split_ifs <;> rfl

theorem lookup_getInterpolated_ne {id other : EntityID} (differ : other ≠ id) (renderTime : F32) :
    (interp.getInterpolated id renderTime).2.entities.lookup other = interp.entities.lookup other := by
  unfold getInterpolated
  cases interp.entities.lookup id with
  | none => rfl
  | some state =>
    simp only
    cases state.interpolateEntity renderTime with
    | none => rfl
    | some pos =>
      simp only
      split_ifs
      · exact (AMap.lookup_insert_eq id other _ _).trans (if_neg differ)
      · rfl

variable {interp}

/-- A query of an active correction lets it go on. -/
theorem lookup_getInterpolated {id : EntityID} {state : EntityInterpState}
    (found : interp.entities.lookup id = some state) (renderTime : F32) :
    (interp.getInterpolated id renderTime).2.entities.lookup id
      = some (if state.snap.active && (state.interpolateEntity renderTime).isSome then
          { state with snap := (state.snap.apply interp.deltaTime).2 } else state) := by
  unfold getInterpolated
  rw [found]
  simp only
  cases state.interpolateEntity renderTime with
  | none => simp [found]
  | some pos =>
    simp only
    by_cases active : state.snap.active = true
    · simp [active]
    · simp [active, found]

theorem lookup_getInterpolated_none {id : EntityID} (unknown : interp.entities.lookup id = none)
    (renderTime : F32) : (interp.getInterpolated id renderTime).2 = interp := by
  unfold getInterpolated
  rw [unknown]

end Calls

/-! ### Snapshots and corrections -/

section States

variable {state state' : EntityInterpState} {timestamp deltaTime renderTime : F32} {pos : Vec3}

/-- The correction after a sample. -/
def afterSample (snapshots : List Snapshot) (timestamp : F32) (pos : Vec3) (snap : SnapCorrection) :
    SnapCorrection :=
  match snapshots with
  | [] => snap
  | prev :: _ =>
    let error := pos.sub (prev.position.add (prev.velocity.scale (timestamp.sub prev.timestamp)))
    if KMP_SNAP_THRESHOLD_MAX.lt error.length then { snap with active := false }
    else if KMP_SNAP_THRESHOLD_MIN.lt error.length then
      ⟨true, error, KMP_SNAP_CORRECT_SEC, KMP_SNAP_CORRECT_SEC⟩
    else snap

section Added

variable (state : EntityInterpState) (timestamp : F32) (pos : Vec3)

theorem addSnapshot_snap :
    (state.addSnapshot timestamp pos).snap = afterSample state.snapshots timestamp pos state.snap := by
  unfold EntityInterpState.addSnapshot afterSample
  cases state.snapshots with
  | nil => rfl
  | cons prev rest =>
    simp only [EntityInterpState.pushSnapshot, EntityInterpState.corrected]
    split_ifs with far some
    · rfl
    · unfold SnapCorrection.startCorrection
      rw [if_neg far, if_pos some]
    · rfl

theorem addSnapshot_jitter :
    (state.addSnapshot timestamp pos).jitter = state.jitter.onPacketArrived timestamp := by
  unfold EntityInterpState.addSnapshot
  cases state.snapshots <;> rfl

end Added

theorem addSnapshot_snapshots (same : state.snapshots = state'.snapshots) (timestamp : F32) (pos : Vec3) :
    (state.addSnapshot timestamp pos).snapshots = (state'.addSnapshot timestamp pos).snapshots := by
  unfold EntityInterpState.addSnapshot
  rw [same]
  cases state'.snapshots with
  | nil => simp only [EntityInterpState.pushSnapshot]
  | cons prev rest => simp only [EntityInterpState.pushSnapshot]

/-- One that starts a correction leaves nothing of the old one; any other leaves it, or ends it. -/
theorem afterSample_cases (snapshots : List Snapshot) (timestamp : F32) (pos : Vec3) :
    (starts snapshots timestamp pos = true ∧ ∃ error, ∀ snap, afterSample snapshots timestamp pos snap
        = ⟨true, error, KMP_SNAP_CORRECT_SEC, KMP_SNAP_CORRECT_SEC⟩)
      ∨ (starts snapshots timestamp pos = false ∧
        ((∀ snap, afterSample snapshots timestamp pos snap = snap)
          ∨ ∀ snap, afterSample snapshots timestamp pos snap = { snap with active := false })) := by
  unfold starts afterSample
  cases snapshots with
  | nil => exact .inr ⟨rfl, .inl fun _ => rfl⟩
  | cons prev rest =>
    simp only
    split_ifs with far some
    · exact .inr ⟨by simp [far], .inr fun _ => rfl⟩
    · exact .inl ⟨by simp [far, some], _, fun _ => rfl⟩
    · exact .inr ⟨by simp [some], .inl fun _ => rfl⟩

/-- The interpolation reads the snapshots and the delay. -/
theorem interpolateEntity_congr (snapshots : state.snapshots = state'.snapshots)
    (jitter : state.jitter = state'.jitter) (renderTime : F32) :
    state.interpolateEntity renderTime = state'.interpolateEntity renderTime := by
  unfold EntityInterpState.interpolateEntity
  rw [snapshots, jitter]

/-- Two corrections that are over, or the same one. -/
def SameSnap (snap snap' : SnapCorrection) : Prop :=
  snap.active = snap'.active ∧ (snap.active = true → snap = snap')

theorem SameSnap.refl (snap : SnapCorrection) : SameSnap snap snap := ⟨rfl, fun _ => rfl⟩

variable {snap : SnapCorrection}

theorem apply_still (still : snap.active = false) (deltaTime : F32) : snap.apply deltaTime = ({}, snap) := by
  unfold SnapCorrection.apply
  rw [still]
  rfl

theorem apply_ended {deltaTime : F32} (active : snap.active = true)
    (ended : (snap.blendTimer.sub deltaTime).le (lit 0 1) = true) :
    snap.apply deltaTime = ({}, { snap with blendTimer := snap.blendTimer.sub deltaTime, active := false }) := by
  unfold SnapCorrection.apply
  rw [active, if_neg (by simp)]
  simp only
  rw [if_pos ended]

theorem apply_runs {deltaTime : F32} (active : snap.active = true)
    (runs : (snap.blendTimer.sub deltaTime).le (lit 0 1) = false) :
    snap.apply deltaTime = (snap.errorOffset.scale ((snap.blendTimer.sub deltaTime).div snap.blendTotal),
      { snap with blendTimer := snap.blendTimer.sub deltaTime }) := by
  unfold SnapCorrection.apply
  rw [active, if_neg (by simp)]
  simp only
  rw [if_neg (by simp [runs])]

/-- A correction that is not active after a frame takes nothing away in it. -/
theorem apply_inactive {deltaTime : F32}
    (inactive : (snap.apply deltaTime).2.active = false) : (snap.apply deltaTime).1 = {} := by
  cases active : snap.active with
  | false => rw [apply_still active]
  | true =>
    cases ended : (snap.blendTimer.sub deltaTime).le (lit 0 1) with
    | true => rw [apply_ended active ended]
    | false =>
      rw [apply_runs active ended] at inactive
      exact absurd active (Bool.eq_false_iff.mp inactive)

end States

/-! ### The clock -/

theorem clock_writes (entityId : EntityID) (calls : List Call) :
    Clock.run entityId (writes calls) = Clock.run entityId calls := by
  unfold Clock.run writes
  generalize ({} : Clock) = clock
  induction calls generalizing clock with
  | nil => rfl
  | cons call rest ih =>
    cases call with
    | addSnapshot id timestamp pos rot => exact ih _
    | update deltaTime => exact ih _
    | getInterpolated id renderTime => exact ih _

/-- A state that has gone on in this frame, or not, beside that of the clock. -/
structure Follows (asked : Bool) (deltaTime : F32) (state state' : EntityInterpState) : Prop where
  snapshots : state.snapshots = state'.snapshots
  jitter : state.jitter = state'.jitter
  snap : SameSnap state.snap (if asked then (state'.snap.apply deltaTime).2 else state'.snap)

namespace Follows

variable {asked : Bool} {deltaTime : F32} {state state' : EntityInterpState}

theorem start (asked : Bool) (deltaTime : F32) : Follows asked deltaTime {} {} := by
  refine ⟨rfl, rfl, ?_⟩
  have still : SnapCorrection.apply {} deltaTime = ({}, {}) := apply_still rfl deltaTime
  rw [still, ite_self]
  exact SameSnap.refl _

section Follows

variable (follows : Follows asked deltaTime state state')

include follows

/-- A sample that starts a correction makes the two agree. -/
theorem sample_starts {timestamp : F32} {pos : Vec3} (started : starts state.snapshots timestamp pos = true) :
    Follows false deltaTime (state.addSnapshot timestamp pos) (state'.addSnapshot timestamp pos) := by
  refine ⟨addSnapshot_snapshots follows.snapshots _ _, ?_, ?_⟩
  · rw [addSnapshot_jitter, addSnapshot_jitter, follows.jitter]
  · rw [addSnapshot_snap, addSnapshot_snap, ← follows.snapshots]
    rcases afterSample_cases state.snapshots timestamp pos with ⟨-, error, fresh⟩ | ⟨not, -⟩
    · rw [fresh, fresh]
      exact SameSnap.refl _
    · rw [started] at not
      cases not

/-- Any other one leaves them as they are. -/
theorem sample {timestamp : F32} {pos : Vec3} (none : starts state.snapshots timestamp pos = false) :
    Follows asked deltaTime (state.addSnapshot timestamp pos) (state'.addSnapshot timestamp pos) := by
  refine ⟨addSnapshot_snapshots follows.snapshots _ _, ?_, ?_⟩
  · rw [addSnapshot_jitter, addSnapshot_jitter, follows.jitter]
  · rw [addSnapshot_snap, addSnapshot_snap, ← follows.snapshots]
    rcases afterSample_cases state.snapshots timestamp pos with ⟨started, -⟩ | ⟨-, same | ends⟩
    · rw [started] at none
      cases none
    · rw [same, same]
      exact follows.snap
    · have still : SnapCorrection.apply { state'.snap with active := false } deltaTime
          = ({}, { state'.snap with active := false }) := apply_still rfl deltaTime
      rw [ends, ends, still, ite_self]
      exact ⟨rfl, fun active => absurd active Bool.false_ne_true⟩

/-- A frame that was asked for, or in which there was nothing to ask for. -/
theorem frame (once : state.snap.active = true → asked = true) (next : F32) :
    Follows false next state { state' with snap := (state'.snap.apply deltaTime).2 } := by
  refine ⟨follows.snapshots, follows.jitter, ?_⟩
  have same := follows.snap
  rw [if_neg Bool.false_ne_true]
  cases asked with
  | true =>
    rw [if_pos rfl] at same
    exact same
  | false =>
    rw [if_neg Bool.false_ne_true] at same
    have still : state.snap.active = false := Bool.eq_false_iff.mpr fun active =>
      Bool.false_ne_true (once active)
    have still' : state'.snap.active = false := same.1.symm.trans still
    rw [apply_still still']
    exact same

end Follows

/-- A query lets an active correction go on. -/
theorem query (follows : Follows false deltaTime state state') (active : state.snap.active = true) :
    Follows true deltaTime { state with snap := (state.snap.apply deltaTime).2 } state' := by
  refine ⟨follows.snapshots, follows.jitter, ?_⟩
  have same : state.snap = state'.snap := follows.snap.2 active
  rw [if_pos rfl, same]
  exact SameSnap.refl _

end Follows

/-- The entity beside the clock. -/
structure Beside (entityId : EntityID) (clock : Clock) (w : Watch) : Prop where
  deltaTime : w.interp.deltaTime = clock.deltaTime
  known : (w.interp.entities.lookup entityId = none ∧ clock.entity = none)
    ∨ ∃ state state', w.interp.entities.lookup entityId = some state ∧ clock.entity = some state'
      ∧ Follows w.asked clock.deltaTime state state'

namespace Beside

variable {entityId : EntityID} {clock : Clock} {w : Watch}

variable (beside : Beside entityId clock w)

include beside

/-- The states of an entity that may be unknown. -/
theorem getD : Follows w.asked clock.deltaTime
    ((w.interp.entities.lookup entityId).getD {}) (clock.entity.getD {}) := by
  rcases beside.known with ⟨unknown, unknown'⟩ | ⟨state, state', found, found', follows⟩
  · rw [unknown, unknown']
    exact Follows.start _ _
  · rw [found, found']
    exact follows

theorem addSnapshot (id : EntityID) (timestamp : F32) (pos : Vec3)
    (rot : Quat) : Beside entityId (clock.step entityId (.addSnapshot id timestamp pos rot))
      (w.step entityId (.addSnapshot id timestamp pos rot)) := by
  have lookup := lookup_addSnapshot w.interp id entityId timestamp pos rot
  have time := (deltaTime_addSnapshot w.interp id timestamp pos rot).trans beside.deltaTime
  have snapshots : ((w.interp.entities.lookup entityId).map fun state => state.snapshots).getD []
      = ((w.interp.entities.lookup entityId).getD {}).snapshots := by
    cases w.interp.entities.lookup entityId <;> rfl
  unfold Clock.step Watch.step
  simp only
  rw [snapshots]
  by_cases here : id = entityId ∧ pos.isFinite ∧ rot.isFinite
  · rw [if_pos here] at lookup ⊢
    by_cases started : starts ((w.interp.entities.lookup entityId).getD {}).snapshots timestamp pos = true
    · rw [if_pos ⟨here.1, here.2.1, here.2.2, started⟩]
      exact ⟨time, .inr ⟨_, _, lookup, rfl, beside.getD.sample_starts started⟩⟩
    · rw [if_neg fun all => started all.2.2.2]
      exact ⟨time, .inr ⟨_, _, lookup, rfl, beside.getD.sample (Bool.eq_false_iff.mpr started)⟩⟩
  · rw [if_neg here] at lookup ⊢
    rw [if_neg fun all => here ⟨all.1, all.2.1, all.2.2.1⟩]
    refine ⟨time, ?_⟩
    simp only [lookup]
    exact beside.known

theorem update (next : F32) (once : w.interp.correcting entityId = true → w.asked = true) :
    Beside entityId (clock.step entityId (.update next)) (w.step entityId (.update next)) := by
  refine ⟨rfl, ?_⟩
  rcases beside.known with ⟨unknown, unknown'⟩ | ⟨state, state', found, found', follows⟩
  · refine .inl ⟨unknown, ?_⟩
    unfold Clock.step
    rw [unknown']
    rfl
  · refine .inr ⟨state, _, found, ?_, follows.frame (fun active => once ?_) next⟩
    · unfold Clock.step
      rw [found']
      rfl
    · unfold correcting
      rw [found]
      exact active

theorem getInterpolated (id : EntityID) (renderTime : F32)
    (once : OncePerFrame entityId w (.getInterpolated id renderTime)) :
    Beside entityId clock (w.step entityId (.getInterpolated id renderTime)) := by
  refine ⟨(deltaTime_getInterpolated w.interp id renderTime).trans beside.deltaTime, ?_⟩
  unfold Watch.step
  simp only
  by_cases same : id = entityId
  · subst same
    rcases beside.known with ⟨unknown, unknown'⟩ | ⟨state, state', found, found', follows⟩
    · rw [lookup_getInterpolated_none unknown]
      exact .inl ⟨unknown, unknown'⟩
    · have active : w.interp.correcting id = state.snap.active := by
        unfold correcting
        rw [found]
        rfl
      have drawn : w.interp.drawn id renderTime = state.interpolateEntity renderTime := by
        unfold drawn
        rw [found]
        rfl
      have asked := once rfl
      rw [active, drawn] at asked ⊢
      rw [lookup_getInterpolated found, decide_eq_true rfl, Bool.true_and]
      refine .inr ⟨_, state', rfl, found', ?_⟩
      by_cases goes : state.snap.active = true ∧ (state.interpolateEntity renderTime).isSome = true
      · have first := asked goes.1 goes.2
        rw [first] at follows ⊢
        rw [beside.deltaTime, goes.1, goes.2]
        exact follows.query goes.1
      · have none : (state.snap.active && (state.interpolateEntity renderTime).isSome) = false := by
          rw [Bool.eq_false_iff, Ne, Bool.and_eq_true]
          exact goes
        rw [none, Bool.or_false]
        exact follows
  · have differ : entityId ≠ id := fun equal => same equal.symm
    rw [lookup_getInterpolated_ne w.interp differ]
    simp only [same, decide_false, Bool.false_and, Bool.or_false]
    exact beside.known

end Beside

theorem clock_append (entityId : EntityID) (calls : List Call) (call : Call) :
    Clock.run entityId (calls ++ [call]) = (Clock.run entityId calls).step entityId call := by
  unfold Clock.run
  rw [List.foldl_append, List.foldl_cons, List.foldl_nil]

variable {calls : List Call}

/-- **An entity that is looked at once in every frame** follows the clock. -/
theorem follows_run {entityId : EntityID} (along : Along (OncePerFrame entityId) entityId calls) :
    Beside entityId (Clock.run entityId calls) (watch entityId calls) := by
  refine @along_run _ entityId (fun calls w => Beside entityId (Clock.run entityId calls) w)
    ⟨rfl, .inl ⟨rfl, rfl⟩⟩ (fun calls w call beside once => ?_) calls along
  rw [clock_append]
  cases call with
  | addSnapshot id timestamp pos rot => exact beside.addSnapshot id timestamp pos rot
  | update deltaTime => exact beside.update deltaTime once
  | getInterpolated id renderTime => exact beside.getInterpolated id renderTime once

/-! ### Positions -/

/-- Without a correction of nothing it is the same, bit for bit. -/
def Settled (pos : Vec3) : Prop := pos.sub {} = pos

theorem settled_of_clean {pos : Vec3} (x : pos.x.isNaN = true → pos.x = Flt.nan)
    (y : pos.y.isNaN = true → pos.y = Flt.nan) (z : pos.z.isNaN = true → pos.z = Flt.nan) :
    Settled pos := by
  have none : (lit 0 1).mag = 0 := by decide +kernel
  have plus : (lit 0 1).neg = false := by decide +kernel
  unfold Settled Vec3.sub
  rw [Flt.sub_zero none plus x, Flt.sub_zero none plus y, Flt.sub_zero none plus z]

theorem settled_of_finite {pos : Vec3} (finite : pos.isFinite = true) : Settled pos := by
  unfold Vec3.isFinite at finite
  obtain ⟨⟨x, y⟩, z⟩ : (pos.x.isFinite = true ∧ pos.y.isFinite = true) ∧ pos.z.isFinite = true := by
    simpa using finite
  have number {v : F32} (finite : v.isFinite = true) (isNaN : v.isNaN = true) : v = Flt.nan := by
    rw [Flt.isNaN_of_isFinite finite] at isNaN
    cases isNaN
  exact settled_of_clean (number x) (number y) (number z)

theorem settled_add (v w : Vec3) : Settled (v.add w) :=
  settled_of_clean Flt.add_clean Flt.add_clean Flt.add_clean

section Neighbours

variable {interpTime : F32} {snapshots : List Snapshot} {age : Nat} {s : Snapshot}

/-- A walk that keeps or takes ends with what it started with, or with something on its way. -/
theorem walk_mem {choose : Option (Nat × Snapshot) → Snapshot × Nat → Option (Nat × Snapshot)}
    (takes : ∀ best entry, choose best entry = best ∨ choose best entry = some (entry.2, entry.1))
    {walked : List (Snapshot × Nat)} {best : Option (Nat × Snapshot)}
    (found : walked.foldl choose best = some (age, s)) : best = some (age, s) ∨ (s, age) ∈ walked := by
  induction walked generalizing best with
  | nil => exact .inl found
  | cons entry rest ih =>
    rcases ih found with here | later
    · rcases takes best entry with same | taken
      · exact .inl (same.symm.trans here)
      · have this := Option.some.inj (taken.symm.trans here)
        refine .inr (List.mem_cons.mpr (.inl ?_))
        exact Prod.ext (congrArg Prod.snd this).symm (congrArg Prod.fst this).symm
    · exact .inr (List.mem_cons_of_mem _ later)

theorem before_mem (found : EntityInterpState.before interpTime snapshots = some (age, s)) :
    s ∈ snapshots := by
  unfold EntityInterpState.before at found
  have walked := walk_mem (fun best entry => by
    simp only
    split_ifs with early
    · cases best with
      | none => exact .inr rfl
      | some b =>
        simp only
        split_ifs
        · exact .inr rfl
        · exact .inl rfl
    · exact .inl rfl) found
  rcases walked with none | member
  · cases none
  · exact List.fst_mem_of_mem_zipIdx member

theorem after_mem (found : EntityInterpState.after interpTime snapshots = some (age, s)) : s ∈ snapshots := by
  unfold EntityInterpState.after at found
  have walked := walk_mem (fun best entry => by
    simp only
    split_ifs with late
    · cases best with
      | none => exact .inr rfl
      | some a =>
        simp only
        split_ifs
        · exact .inr rfl
        · exact .inl rfl
    · exact .inl rfl) found
  rcases walked with none | member
  · cases none
  · exact List.fst_mem_of_mem_zipIdx member

end Neighbours

/-- What is drawn is the position of a snapshot or comes from an addition. -/
theorem interpolateEntity_settled {state : EntityInterpState} {renderTime : F32} {pos : Vec3}
    (finite : ∀ s ∈ state.snapshots, s.position.isFinite = true)
    (found : state.interpolateEntity renderTime = some pos) : Settled pos := by
  have runs {b : Snapshot} (member : b ∈ state.snapshots) (time : F32) :
      Settled (EntityInterpState.extrapolated b time) := by
    unfold EntityInterpState.extrapolated
    simp only
    split_ifs
    · exact settled_add _ _
    · exact settled_of_finite (finite b member)
  unfold EntityInterpState.interpolateEntity at found
  simp only at found
  split at found
  · cases found
  · next none next =>
    cases found
    exact settled_of_finite (finite _ (after_mem next))
  · next last none =>
    cases found
    exact runs (before_mem last) _
  · next last next =>
    split_ifs at found
    · cases found
      exact runs (before_mem last) _
    · cases found
      exact settled_add _ _

/-- The positions in the ring of an entity are finite. -/
def Sound (entityId : EntityID) (interp : Interpolation) : Prop :=
  ∀ state, interp.entities.lookup entityId = some state → ∀ s ∈ state.snapshots, s.position.isFinite = true

theorem addSnapshot_mem {state : EntityInterpState} {timestamp : F32} {pos : Vec3} {s : Snapshot}
    (member : s ∈ (state.addSnapshot timestamp pos).snapshots) : s.position = pos ∨ s ∈ state.snapshots := by
  have stored {arrived : EntityInterpState} {first : Snapshot} (same : arrived.snapshots = state.snapshots)
      (inside : s ∈ (arrived.pushSnapshot first).snapshots) : s = first ∨ s ∈ state.snapshots := by
    have all := List.mem_of_mem_take inside
    rw [same] at all
    exact List.mem_cons.mp all
  unfold EntityInterpState.addSnapshot at member
  simp only at member
  split at member
  · rcases stored rfl member with rfl | older
    · exact .inl rfl
    · exact .inr older
  · rcases stored rfl member with rfl | older
    · exact .inl rfl
    · exact .inr older

theorem sound_call {entityId : EntityID} {interp : Interpolation} (sound : Sound entityId interp)
    (call : Call) : Sound entityId (interp.call call) := by
  intro state found s member
  cases call with
  | addSnapshot id timestamp pos rot =>
    have lookup := lookup_addSnapshot interp id entityId timestamp pos rot
    rw [show (interp.addSnapshot id timestamp pos rot).entities.lookup entityId = some state from found]
      at lookup
    split_ifs at lookup with here
    · obtain rfl := Option.some.inj lookup
      rcases addSnapshot_mem member with same | older
      · rw [same]
        exact here.2.1
      · cases known : interp.entities.lookup entityId with
        | none =>
          rw [known] at older
          exact absurd older List.not_mem_nil
        | some before =>
          rw [known] at older
          exact sound before known s older
    · exact sound state lookup.symm s member
  | update deltaTime => exact sound state found s member
  | getInterpolated id renderTime =>
    change (interp.getInterpolated id renderTime).2.entities.lookup entityId = some state at found
    by_cases same : entityId = id
    · subst same
      cases known : interp.entities.lookup entityId with
      | none =>
        rw [lookup_getInterpolated_none known] at found
        exact sound state found s member
      | some before =>
        rw [lookup_getInterpolated known] at found
        have snapshots : state.snapshots = before.snapshots := by
          rw [← Option.some.inj found]
          split_ifs <;> rfl
        exact sound before known s (snapshots ▸ member)
    · rw [lookup_getInterpolated_ne interp same] at found
      exact sound state found s member

theorem sound_run (entityId : EntityID) (calls : List Call) : Sound entityId (after calls) := by
  unfold after
  induction calls using List.reverseRecOn with
  | nil => exact fun state found => by cases found
  | append_singleton calls call ih =>
    rw [List.foldl_append, List.foldl_cons, List.foldl_nil]
    exact sound_call ih call

/-! ### What is drawn -/

theorem Follows.shown_eq {asked : Bool} {deltaTime : F32} {state state' : EntityInterpState}
    (follows : Follows asked deltaTime state state')
    (finite : ∀ s ∈ state.snapshots, s.position.isFinite = true) {renderTime : F32}
    (once : state.snap.active = true → (state.interpolateEntity renderTime).isSome = true → asked = false) :
    shown state deltaTime renderTime = shown state' deltaTime renderTime := by
  unfold shown
  rw [← interpolateEntity_congr follows.snapshots follows.jitter]
  cases drawn : state.interpolateEntity renderTime with
  | none => simp only [Option.map_none]
  | some pos =>
    have settled : pos.sub {} = pos := interpolateEntity_settled finite drawn
    have same := follows.snap
    rw [drawn] at once
    simp only [Option.map_some]
    refine congrArg some ?_
    by_cases active : state.snap.active = true
    · rw [once active Option.isSome_some, if_neg Bool.false_ne_true] at same
      rw [same.2 active]
    · cases asked with
      | false =>
        rw [if_neg Bool.false_ne_true] at same
        have inactive' := mt same.1.trans active
        rw [if_neg active, if_neg inactive']
      | true =>
        rw [if_pos rfl] at same
        have inactive := same.1.symm.trans (Bool.eq_false_iff.mpr active)
        rw [if_neg active, apply_inactive inactive, settled, ite_self]

/-- **A query shows what the clock shows.** -/
theorem query_shown {entityId : EntityID} {renderTime : F32}
    (along : Along (OncePerFrame entityId) entityId (calls ++ [.getInterpolated entityId renderTime])) :
    ((after calls).getInterpolated entityId renderTime).1
      = (Clock.run entityId calls).entity.bind fun state =>
          shown state (Clock.run entityId calls).deltaTime renderTime := by
  obtain ⟨before, once⟩ := along.last
  have beside := follows_run before
  have sound := sound_run entityId calls
  have once' : (watch entityId calls).interp.correcting entityId = true →
      ((watch entityId calls).interp.drawn entityId renderTime).isSome = true →
      (watch entityId calls).asked = false := once rfl
  have known := beside.known
  rw [← @watch_interp entityId] at sound ⊢
  rw [getInterpolated_fst, beside.deltaTime]
  rcases known with ⟨unknown, unknown'⟩ | ⟨state, state', found, found', follows⟩
  · rw [unknown, unknown']
  · unfold correcting drawn at once'
    rw [found] at once'
    rw [found, found']
    exact follows.shown_eq (sound state found) once'

/-! ### The time that is left -/

/-- The time that the frames leave to a correction, up to the rounding. -/
structure Timely (entityId : EntityID) (w : Watch) : Prop where
  finite : w.interp.deltaTime.isFinite = true
  nonneg : 0 ≤ w.interp.deltaTime.toRat
  start : w.frames = 0 → w.since = 0
  long : w.interp.correcting entityId = true → 0 < w.frames → ((w.frames + 1 : ℕ) : ℚ) / 2 ^ 26 ≤ w.head
  left : ∀ state, w.interp.entities.lookup entityId = some state → state.snap.active = true →
    state.snap.blendTimer.Bounded 147
      ∧ (w.asked = true → 0 < state.snap.blendTimer.toRat)
      ∧ state.snap.blendTimer.toRat + w.head + w.since
        ≤ KMP_SNAP_CORRECT_SEC.toRat + (if w.asked then 0 else w.interp.deltaTime.toRat)
          + ((if w.asked then w.frames + 1 else w.frames : ℕ) : ℚ) / 2 ^ 26

theorem timely_start (entityId : EntityID) : Timely entityId {} where
  finite := by decide +kernel
  nonneg := by decide +kernel
  start _ := rfl
  long active := absurd active (by unfold correcting; exact Bool.false_ne_true)
  left state found := by cases found

theorem duration_bounded : KMP_SNAP_CORRECT_SEC.Bounded 147 := by
  unfold Flt.Bounded
  decide +kernel

theorem duration_pos : 0 < KMP_SNAP_CORRECT_SEC.toRat := by decide +kernel

theorem le_zero_iff {x : F32} (number : x.isNaN = false) : x.le (lit 0 1) = true ↔ x.key ≤ 0 := by
  have none : (lit 0 1).isNaN = false := by decide +kernel
  have zero : (lit 0 1).key = 0 := by decide +kernel
  unfold Flt.le
  simp [number, none, zero]

section Steps

variable {entityId : EntityID} {w : Watch} {state : EntityInterpState}

theorem correcting_of (found : w.interp.entities.lookup entityId = some state)
    (active : state.snap.active = true) : w.interp.correcting entityId = true := by
  unfold correcting
  rw [found]
  exact active

theorem correcting_some (active : w.interp.correcting entityId = true) :
    ∃ state, w.interp.entities.lookup entityId = some state ∧ state.snap.active = true := by
  unfold correcting at active
  cases found : w.interp.entities.lookup entityId with
  | none =>
    rw [found] at active
    cases active
  | some state =>
    rw [found] at active
    exact ⟨state, rfl, active⟩

/-- Nothing that is active comes from a sample that starts nothing. -/
theorem active_before {timestamp : F32} {pos : Vec3} (before : Option EntityInterpState)
    (none : starts (before.getD {}).snapshots timestamp pos = false)
    (active : ((before.getD {}).addSnapshot timestamp pos).snap.active = true) :
    ∃ state, before = some state ∧ state.snap = ((before.getD {}).addSnapshot timestamp pos).snap := by
  rw [addSnapshot_snap] at active ⊢
  rcases afterSample_cases (before.getD {}).snapshots timestamp pos with ⟨started, -⟩ | ⟨-, same | ends⟩
  · rw [started] at none
    cases none
  · rw [same] at active ⊢
    cases before with
    | none => exact absurd active Bool.false_ne_true
    | some state => exact ⟨state, rfl, rfl⟩
  · rw [ends] at active
    exact absurd active Bool.false_ne_true

variable (timely : Timely entityId w)
include timely

/-- What leaves the entity and the frame as they are, or ends a correction. -/
theorem Timely.keeps {interp : Interpolation} (time : interp.deltaTime = w.interp.deltaTime)
    (same : ∀ state, interp.entities.lookup entityId = some state → state.snap.active = true →
      ∃ before, w.interp.entities.lookup entityId = some before ∧ before.snap = state.snap) :
    Timely entityId { w with interp := interp } where
  finite := time ▸ timely.finite
  nonneg := time ▸ timely.nonneg
  start := timely.start
  long active := by
    obtain ⟨state, found, goes⟩ := correcting_some (w := { w with interp := interp }) active
    obtain ⟨before, found', snap⟩ := same state found goes
    exact timely.long (correcting_of found' (snap ▸ goes))
  left state found active := by
    obtain ⟨before, found', snap⟩ := same state found active
    have left := timely.left before found' (snap ▸ active)
    rw [snap] at left
    simp only [time]
    exact left

theorem Timely.addSnapshot (id : EntityID) (timestamp : F32) (pos : Vec3) (rot : Quat) :
    Timely entityId (w.step entityId (.addSnapshot id timestamp pos rot)) := by
  have lookup := lookup_addSnapshot w.interp id entityId timestamp pos rot
  have time := deltaTime_addSnapshot w.interp id timestamp pos rot
  have snapshots : ((w.interp.entities.lookup entityId).map fun state => state.snapshots).getD []
      = ((w.interp.entities.lookup entityId).getD {}).snapshots := by
    cases w.interp.entities.lookup entityId <;> rfl
  unfold Watch.step
  simp only
  rw [snapshots]
  split_ifs with started
  · rw [if_pos ⟨started.1, started.2.1, started.2.2.1⟩] at lookup
    refine ⟨time ▸ timely.finite, time ▸ timely.nonneg, fun _ => rfl, fun _ more => absurd more (lt_irrefl _),
      fun state found active => ?_⟩
    have fresh : state.snap.blendTimer = KMP_SNAP_CORRECT_SEC := by
      rw [← Option.some.inj (lookup.symm.trans found), addSnapshot_snap]
      rcases afterSample_cases ((w.interp.entities.lookup entityId).getD {}).snapshots timestamp pos
        with ⟨-, error, new⟩ | ⟨none, -⟩
      · rw [new]
      · rw [started.2.2.2] at none
        cases none
    rw [fresh]
    refine ⟨duration_bounded, fun asked => absurd asked Bool.false_ne_true, ?_⟩
    simp [time]
  · refine timely.keeps time fun state found active => ?_
    split_ifs at lookup with here
    · obtain rfl := Option.some.inj (lookup.symm.trans found)
      exact active_before _ (Bool.eq_false_iff.mpr fun starts => started ⟨here.1, here.2.1, here.2.2, starts⟩)
        active
    · exact ⟨state, lookup.symm.trans found, rfl⟩

theorem Timely.update (next : F32) (once : OncePerFrame entityId w (.update next))
    (measured : Measured entityId w (.update next)) :
    Timely entityId (w.step entityId (.update next)) := by
  obtain ⟨finite, nonneg, long⟩ := measured
  refine ⟨finite, nonneg, fun none => absurd none (Nat.succ_ne_zero _), fun active _ => long active,
    fun state found active => ?_⟩
  obtain ⟨bounded, -, left⟩ := timely.left state found active
  have asked : w.asked = true := once (correcting_of found active)
  refine ⟨bounded, fun asked => absurd asked Bool.false_ne_true, ?_⟩
  rw [asked, if_pos rfl, if_pos rfl] at left
  unfold Watch.step
  simp only [Bool.false_eq_true, if_false]
  show _ ≤ _ + next.toRat + _
  linarith

/-- A frame takes its time off the correction, up to the rounding, if something is left. -/
theorem Timely.goes (found : w.interp.entities.lookup entityId = some state)
    (active : state.snap.active = true) (first : w.asked = false)
    (goes : (state.snap.apply w.interp.deltaTime).2.active = true) :
    (state.snap.apply w.interp.deltaTime).2.blendTimer.Bounded 147
      ∧ 0 < (state.snap.apply w.interp.deltaTime).2.blendTimer.toRat
      ∧ (state.snap.apply w.interp.deltaTime).2.blendTimer.toRat + w.head + w.since
        ≤ KMP_SNAP_CORRECT_SEC.toRat + ((w.frames + 1 : ℕ) : ℚ) / 2 ^ 26 := by
  obtain ⟨bounded, -, left⟩ := timely.left state found active
  rw [first, if_neg Bool.false_ne_true, if_neg Bool.false_ne_true] at left
  have runs : (state.snap.blendTimer.sub w.interp.deltaTime).le (lit 0 1) = false := by
    cases ended : (state.snap.blendTimer.sub w.interp.deltaTime).le (lit 0 1) with
    | false => rfl
    | true =>
      rw [apply_ended active ended] at goes
      exact absurd goes Bool.false_ne_true
  have more : w.interp.deltaTime.toRat < state.snap.blendTimer.toRat := by
    by_contra less
    obtain ⟨number, none⟩ := Flt.sub_key_nonpos bounded.1 timely.finite (not_lt.mp less)
    rw [(le_zero_iff number).mpr none] at runs
    cases runs
  obtain ⟨inside, error⟩ := Flt.toRat_sub_le bounded timely.finite timely.nonneg (by decide) more
  have number := Flt.isNaN_of_isFinite inside.1
  have positive : 0 < (state.snap.blendTimer.sub w.interp.deltaTime).key := by
    by_contra none
    rw [(le_zero_iff number).mpr (not_lt.mp none)] at runs
    cases runs
  rw [apply_runs active runs]
  refine ⟨inside, Flt.toRat_pos positive, ?_⟩
  have rounding : (2 : ℚ) ^ (147 - binary32.mant) / 2 ^ (binary32.scale + 1) = 1 / 2 ^ 26 := by
    norm_num [binary32, Format.scale]
  rw [rounding] at error
  push_cast
  rw [add_div]
  linarith

/-- **A query** keeps the account. -/
theorem Timely.getInterpolated (id : EntityID) (renderTime : F32)
    (once : OncePerFrame entityId w (.getInterpolated id renderTime)) :
    Timely entityId (w.step entityId (.getInterpolated id renderTime)) := by
  have time := deltaTime_getInterpolated w.interp id renderTime
  unfold Watch.step
  simp only
  by_cases same : id = entityId
  · subst same
    rw [decide_eq_true rfl, Bool.true_and]
    cases found : w.interp.entities.lookup id with
    | none =>
      have still : w.interp.correcting id = false := by
        unfold correcting
        rw [found]
        rfl
      rw [lookup_getInterpolated_none found, still, Bool.false_and, Bool.or_false]
      exact timely
    | some state =>
      have drawn : w.interp.drawn id renderTime = state.interpolateEntity renderTime := by
        unfold drawn
        rw [found]
        rfl
      have active : w.interp.correcting id = state.snap.active := by
        unfold correcting
        rw [found]
        rfl
      have lookup := lookup_getInterpolated found renderTime
      rw [drawn, active]
      by_cases asks : (state.snap.active && (state.interpolateEntity renderTime).isSome) = true
      · obtain ⟨here, some⟩ := Bool.and_eq_true_iff.mp asks
        have first : w.asked = false := once rfl (active.trans here) (drawn ▸ some)
        rw [asks, Bool.or_true]
        rw [asks, if_pos rfl] at lookup
        refine ⟨time ▸ timely.finite, time ▸ timely.nonneg, timely.start,
          fun _ more => timely.long (active.trans here) more, fun after found' goes => ?_⟩
        obtain rfl := Option.some.inj (lookup.symm.trans found')
        obtain ⟨bounded, positive, left⟩ := timely.goes found here first goes
        simp only [if_true, add_zero]
        exact ⟨bounded, fun _ => positive, left⟩
      · rw [Bool.eq_false_iff.mpr asks, Bool.or_false]
        rw [if_neg asks] at lookup
        exact timely.keeps time fun after found' _ => ⟨after, found.trans (lookup.symm.trans found'), rfl⟩
  · have differ : entityId ≠ id := fun equal => same equal.symm
    have lookup := lookup_getInterpolated_ne w.interp differ renderTime
    rw [decide_eq_false same, Bool.false_and, Bool.false_and, Bool.or_false]
    exact timely.keeps time fun after found' _ => ⟨after, lookup.symm.trans found', rfl⟩

end Steps

section Along

variable {entityId : EntityID}
  (along : Along (fun w call => OncePerFrame entityId w call ∧ Measured entityId w call) entityId calls)

include along

/-- **The account** of an entity that is looked at once in every frame. -/
theorem timely_run : Timely entityId (watch entityId calls) := by
  refine @along_run _ entityId (fun _ w => Timely entityId w) (timely_start entityId)
    (fun _ w call timely allowed => ?_) calls along
  obtain ⟨once, measured⟩ := allowed
  cases call with
  | addSnapshot id timestamp pos rot => exact timely.addSnapshot id timestamp pos rot
  | update deltaTime => exact timely.update deltaTime once measured
  | getInterpolated id renderTime => exact timely.getInterpolated id renderTime once

/-- Nothing is taken away when the frames have taken the time of the correction. -/
theorem correction_ends (time : KMP_SNAP_CORRECT_SEC.toRat ≤ (watch entityId calls).since) (renderTime : F32) :
    ((after calls).getInterpolated entityId renderTime).1 = (after calls).drawn entityId renderTime := by
  have timely := timely_run along
  have sound := sound_run entityId calls
  rw [← @watch_interp entityId] at sound ⊢
  rw [getInterpolated_fst]
  unfold drawn
  cases found : (watch entityId calls).interp.entities.lookup entityId with
  | none => simp only [Option.bind_none]
  | some state =>
    simp only [Option.bind_some]
    unfold shown
    cases place : state.interpolateEntity renderTime with
    | none => simp only [Option.map_none]
    | some pos =>
      simp only [Option.map_some]
      refine congrArg some ?_
      split_ifs with active
      · have settled : pos.sub {} = pos := interpolateEntity_settled (sound state found) place
        have correcting := correcting_of found active
        have some : 0 < (watch entityId calls).frames := by
          by_contra none
          have start := timely.start (Nat.eq_zero_of_not_pos none)
          rw [start] at time
          exact absurd duration_pos (not_lt.mpr time)
        have long := timely.long correcting some
        obtain ⟨bounded, positive, left⟩ := timely.left state found active
        cases asked : (watch entityId calls).asked with
        | true =>
          rw [asked, if_pos rfl, if_pos rfl] at left
          linarith [positive asked]
        | false =>
          rw [asked, if_neg Bool.false_ne_true, if_neg Bool.false_ne_true] at left
          have less : ((watch entityId calls).frames : ℚ) / 2 ^ 26
              ≤ ((watch entityId calls).frames + 1 : ℕ) / 2 ^ 26 := by
            refine div_le_div_of_nonneg_right ?_ (by positivity)
            push_cast
            linarith
          obtain ⟨number, none⟩ := Flt.sub_key_nonpos bounded.1 timely.finite
            (show state.snap.blendTimer.toRat ≤ (watch entityId calls).interp.deltaTime.toRat by linarith)
          rw [apply_ended active ((le_zero_iff number).mpr none), settled]
      · rfl

end Along

/-- **Queries**: of an entity that is looked at once in every frame while its correction is active, what is
drawn depends on the snapshots and the frames before and on the time; and where the times of the frames are
measured, the correction has ended when they have taken its time. -/
theorem render_queries (entityId : EntityID) :
    (∀ (calls calls' : List Call) (renderTime : F32), writes calls = writes calls' →
      Along (OncePerFrame entityId) entityId (calls ++ [.getInterpolated entityId renderTime]) →
      Along (OncePerFrame entityId) entityId (calls' ++ [.getInterpolated entityId renderTime]) →
      ((after calls).getInterpolated entityId renderTime).1
        = ((after calls').getInterpolated entityId renderTime).1)
    ∧ ∀ calls : List Call,
      Along (fun w call => OncePerFrame entityId w call ∧ Measured entityId w call) entityId calls →
      KMP_SNAP_CORRECT_SEC.toRat ≤ (watch entityId calls).since → ∀ renderTime,
      ((after calls).getInterpolated entityId renderTime).1 = (after calls).drawn entityId renderTime := by
  refine ⟨fun calls calls' renderTime same once once' => ?_, fun calls along time renderTime => ?_⟩
  · rw [query_shown once, query_shown once', ← clock_writes, same, clock_writes]
  · exact correction_ends along time renderTime

/-- A character that stands still, and is then ten units away. -/
def displaced : List Call :=
  [.update (lit 5 100), .addSnapshot 1 (lit 1 1) {} {}, .addSnapshot 1 (lit 105 100) {} {},
    .addSnapshot 1 (lit 11 10) { x := lit 10 1 } {}]

/-- Looked at in every frame, and before the correction once more. -/
def lookedAt : List Call :=
  displaced ++ [.getInterpolated 1 (lit 12 10), .update (lit 1 10), .getInterpolated 1 (lit 13 10),
    .update (lit 1 10)]

def lookedAtMore : List Call :=
  [.update (lit 5 100), .addSnapshot 1 (lit 1 1) {} {}, .getInterpolated 1 (lit 12 10)]
    ++ lookedAt.drop 2

theorem render_queries_displaced :
    ((after lookedAt).getInterpolated 1 (lit 14 10)).1 = ((after lookedAtMore).getInterpolated 1 (lit 14 10)).1
      ∧ ((after lookedAt).getInterpolated 1 (lit 14 10)).1 = (after lookedAt).drawn 1 (lit 14 10) :=
  ⟨(render_queries 1).1 lookedAt lookedAtMore (lit 14 10) rfl (along_of_all (by decide +kernel))
      (along_of_all (by decide +kernel)),
    (render_queries 1).2 lookedAt (along_of_all (by decide +kernel)) (by decide +kernel) (lit 14 10)⟩

/-- A query before takes the time of a frame more off the correction. -/
theorem render_queries_fails : ¬ ∀ entityId : EntityID,
    (∀ (calls calls' : List Call) (renderTime : F32), writes calls = writes calls' →
      ((after calls).getInterpolated entityId renderTime).1
        = ((after calls').getInterpolated entityId renderTime).1)
    ∧ ∀ calls : List Call, KMP_SNAP_CORRECT_SEC.toRat ≤ (watch entityId calls).since → ∀ renderTime,
      ((after calls).getInterpolated entityId renderTime).1 = (after calls).drawn entityId renderTime := by
  intro holds
  have same := (holds 1).1 displaced (displaced ++ [.getInterpolated 1 (lit 12 10)]) (lit 12 10) rfl
  revert same
  decide +kernel

end Interpolation

end KenshiMP
