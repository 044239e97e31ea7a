/-
**The interpolation of remote characters.**

Snapshots of an entity, eight at most and the newest first, with an estimate of the jitter of their
arrival and a correction that fades out. What is left out is what no other part here reads: the
rotation, the speed and the animation between two snapshots.

`getInterpolated_first`: from the first snapshot of an entity comes its own position.
-/

import KenshiMP.Lib.Assoc
import KenshiMP.Types

namespace KenshiMP

open Assoc

def KMP_TICK_INTERVAL_SEC : F32 := (lit 1 1).div (Binary.Flt.ofInt 20)
def KMP_INTERP_DELAY_SEC : F32 := lit 1 10
def KMP_MAX_SNAPSHOTS : Nat := 8
def KMP_INTERP_DELAY_MIN : F32 := lit 5 100
def KMP_INTERP_DELAY_MAX : F32 := lit 2 10
def KMP_EXTRAP_MAX_SEC : F32 := lit 25 100
def KMP_SNAP_THRESHOLD_MIN : F32 := lit 5 1
def KMP_SNAP_THRESHOLD_MAX : F32 := lit 50 1
def KMP_SNAP_CORRECT_SEC : F32 := lit 15 100
def KMP_JITTER_EMA_ALPHA : F32 := lit 1 10

namespace Vec3

def add (v w : Vec3) : Vec3 := ⟨v.x.add w.x, v.y.add w.y, v.z.add w.z⟩
def sub (v w : Vec3) : Vec3 := ⟨v.x.sub w.x, v.y.sub w.y, v.z.sub w.z⟩
def scale (v : Vec3) (s : F32) : Vec3 := ⟨v.x.mul s, v.y.mul s, v.z.mul s⟩

def lengthSq (v : Vec3) : F32 := ((v.x.mul v.x).add (v.y.mul v.y)).add (v.z.mul v.z)
def length (v : Vec3) : F32 := v.lengthSq.sqrt

end Vec3

/-! ### One entity -/

structure Snapshot where
  timestamp : F32
  position : Vec3
  velocity : Vec3

structure JitterEstimator where
  lastArrivalTime : F32 := lit 0 1
  jitterEma : F32 := lit 2 100
  adaptiveDelay : F32 := KMP_INTERP_DELAY_SEC
  initialized : Bool := false

def JitterEstimator.onPacketArrived (jitter : JitterEstimator) (arrivalTime : F32) : JitterEstimator :=
  if !jitter.initialized then { jitter with lastArrivalTime := arrivalTime, initialized := true }
  else
    let interval := arrivalTime.sub jitter.lastArrivalTime
    let ema := (KMP_JITTER_EMA_ALPHA.mul (interval.sub KMP_TICK_INTERVAL_SEC).abs).add
      (((lit 1 1).sub KMP_JITTER_EMA_ALPHA).mul jitter.jitterEma)
    let t := clamp ((ema.sub (lit 2 100)).div ((lit 8 100).sub (lit 2 100))) (lit 0 1) (lit 1 1)
    { jitter with
      jitterEma := ema
      lastArrivalTime := arrivalTime
      adaptiveDelay := KMP_INTERP_DELAY_MIN.add
        (t.mul (KMP_INTERP_DELAY_MAX.sub KMP_INTERP_DELAY_MIN)) }

structure SnapCorrection where
  active : Bool := false
  errorOffset : Vec3 := {}
  blendTimer : F32 := lit 0 1
  blendTotal : F32 := lit 0 1

def SnapCorrection.startCorrection (snap : SnapCorrection) (error : Vec3) : SnapCorrection :=
  if KMP_SNAP_THRESHOLD_MAX.lt error.length then { snap with active := false }
  else if KMP_SNAP_THRESHOLD_MIN.lt error.length then
    ⟨true, error, KMP_SNAP_CORRECT_SEC, KMP_SNAP_CORRECT_SEC⟩
  else snap

/-- The part of the error that is left after another frame. -/
def SnapCorrection.apply (snap : SnapCorrection) (dt : F32) : Vec3 × SnapCorrection :=
  if !snap.active then ({}, snap)
  else
    let timer := snap.blendTimer.sub dt
    if timer.le (lit 0 1) then ({}, { snap with blendTimer := timer, active := false })
    else (snap.errorOffset.scale (timer.div snap.blendTotal), { snap with blendTimer := timer })

/-- The newest snapshot comes first. -/
structure EntityInterpState where
  snapshots : List Snapshot := []
  jitter : JitterEstimator := {}
  snap : SnapCorrection := {}

namespace EntityInterpState

variable (state : EntityInterpState)

def pushSnapshot (s : Snapshot) : EntityInterpState :=
  { state with snapshots := (s :: state.snapshots).take KMP_MAX_SNAPSHOTS }

/-- The velocity since the last snapshot, if that is neither too near nor too long ago. -/
def velocitySince (prev : Snapshot) (timestamp : F32) (pos : Vec3) : Vec3 :=
  let dt := timestamp.sub prev.timestamp
  if (lit 1 1000).lt dt && dt.lt (lit 2 1) then (pos.sub prev.position).scale ((lit 1 1).div dt)
  else {}

/-- A position far from the expected one starts a correction, or cancels it if it is a teleport. -/
def corrected (prev : Snapshot) (timestamp : F32) (pos : Vec3) : SnapCorrection :=
  let dt := timestamp.sub prev.timestamp
  let error := pos.sub (prev.position.add (prev.velocity.scale dt))
  if KMP_SNAP_THRESHOLD_MAX.lt error.length then { state.snap with active := false }
  else if KMP_SNAP_THRESHOLD_MIN.lt error.length then state.snap.startCorrection error
  else state.snap

def addSnapshot (timestamp : F32) (pos : Vec3) : EntityInterpState :=
  let arrived := { state with jitter := state.jitter.onPacketArrived timestamp }
  match state.snapshots with
  | [] => arrived.pushSnapshot ⟨timestamp, pos, {}⟩
  | prev :: _ =>
    { arrived with snap := state.corrected prev timestamp pos }.pushSnapshot
      ⟨timestamp, pos, velocitySince prev timestamp pos⟩

/-- The latest snapshot up to a time, with its age in snapshots; the newer one on a tie. -/
def before (interpTime : F32) (snapshots : List Snapshot) : Option (Nat × Snapshot) :=
  (snapshots.zipIdx).foldl (fun best (s, age) =>
    if s.timestamp.le interpTime then
      match best with
      | none => some (age, s)
      | some (_, b) => if b.timestamp.lt s.timestamp then some (age, s) else best
    else best) none

/-- The earliest snapshot from a time on. -/
def after (interpTime : F32) (snapshots : List Snapshot) : Option (Nat × Snapshot) :=
  (snapshots.zipIdx).foldl (fun best (s, age) =>
    if interpTime.le s.timestamp then
      match best with
      | none => some (age, s)
      | some (_, a) => if s.timestamp.lt a.timestamp then some (age, s) else best
    else best) none

/-- Dead reckoning beyond the last snapshot, for a quarter of a second. -/
def extrapolated (last : Snapshot) (interpTime : F32) : Vec3 :=
  let overshoot := interpTime.sub last.timestamp
  if (lit 0 1).lt overshoot && overshoot.le KMP_EXTRAP_MAX_SEC && (lit 1 1000).lt last.velocity.lengthSq then
    last.position.add (last.velocity.scale overshoot)
  else last.position

/-- Between two snapshots. -/
def between (b a : Snapshot) (interpTime : F32) : Vec3 :=
  let span := a.timestamp.sub b.timestamp
  let t := clamp
    (if (lit 1 1000).lt span then (interpTime.sub b.timestamp).div span else lit 0 1)
    (lit 0 1) (lit 1 1)
  b.position.add ((a.position.sub b.position).scale t)

def interpolateEntity (renderTime : F32) : Option Vec3 :=
  let interpTime := renderTime.sub state.jitter.adaptiveDelay
  match before interpTime state.snapshots, after interpTime state.snapshots with
  | none, none => none
  | none, some (_, a) => some a.position
  | some (_, b), none => some (extrapolated b interpTime)
  | some (older, b), some (newer, a) =>
    if older = newer then some (extrapolated b interpTime) else some (between b a interpTime)

end EntityInterpState

/-! ### All entities -/

structure Interpolation where
  entities : AMap EntityID EntityInterpState := ∅
  deltaTime : F32 := lit 0 1

namespace Interpolation

variable (interp : Interpolation)

/-- A snapshot with a coordinate or a component that is not finite is dropped. -/
def addSnapshot (entityId : EntityID) (timestamp : F32) (pos : Vec3) (rot : Quat) : Interpolation :=
  if !pos.isFinite || !rot.isFinite then interp
  else
    let state := (interp.entities.lookup entityId).getD {}
    let entities := AList.insert entityId (state.addSnapshot timestamp pos) interp.entities
    { interp with entities := entities }

/-- The position at a time, and the state of the correction afterwards. -/
def getInterpolated (entityId : EntityID) (renderTime : F32) : Option Vec3 × Interpolation :=
  match interp.entities.lookup entityId with
  | none => (none, interp)
  | some state =>
    match state.interpolateEntity renderTime with
    | none => (none, interp)
    | some pos =>
      if state.snap.active then
        let (correction, snap) := state.snap.apply interp.deltaTime
        let entities := AList.insert entityId { state with snap := snap } interp.entities
        (some (pos.sub correction), { interp with entities := entities })
      else (some pos, interp)

/-- From the only snapshot of an entity comes its position, or nothing. -/
theorem interpolateEntity_single (s : Snapshot) (still : s.velocity = {}) (jitter : JitterEstimator)
    (snap : SnapCorrection) (renderTime : F32) (pos : Vec3)
    (found : EntityInterpState.interpolateEntity ⟨[s], jitter, snap⟩ renderTime = some pos) :
    pos = s.position := by
  have stays (interpTime : F32) : EntityInterpState.extrapolated s interpTime = s.position := by
    unfold EntityInterpState.extrapolated
    simp only
    rw [still, show (lit 1 1000).lt (Vec3.lengthSq {}) = false from by decide +kernel, Bool.and_false]
    rfl
  unfold EntityInterpState.interpolateEntity EntityInterpState.before EntityInterpState.after at found
  simp only [List.zipIdx_cons, List.zipIdx_nil, List.foldl_cons, List.foldl_nil] at found
  split_ifs at found
  · cases found
    exact stays _
  · cases found
    exact stays _
  · cases found
    rfl

/-- The first snapshot of an entity is where it is. -/
theorem getInterpolated_first {entityId : EntityID}
    (unknown : interp.entities.lookup entityId = none) (timestamp renderTime : F32) (pos : Vec3)
    (rot : Quat) (found : Vec3)
    (interpolated : ((interp.addSnapshot entityId timestamp pos rot).getInterpolated entityId
      renderTime).1 = some found) : found = pos := by
  unfold addSnapshot at interpolated
  split_ifs at interpolated
  · unfold getInterpolated at interpolated
    rw [unknown] at interpolated
    cases interpolated
  · unfold getInterpolated at interpolated
    rw [unknown] at interpolated
    simp only [AMap.lookup_insert_eq, if_true, Option.getD_none] at interpolated
    cases first : EntityInterpState.interpolateEntity
        (EntityInterpState.addSnapshot {} timestamp pos) renderTime with
    | none =>
      rw [first] at interpolated
      cases interpolated
    | some place =>
      rw [first] at interpolated
      have here : place = pos := interpolateEntity_single _ rfl _ _ renderTime place first
      have found' : some place = some found := interpolated
      rw [← Option.some.inj found', here]

end Interpolation

end KenshiMP
