/-
**The interpolation of remote characters, over the rational numbers.**

The same functions with exact arithmetic, where every snapshot is finite and none is dropped, and with
the ring of snapshots as it stands in memory. The rotation, the movement and the correction that
`GetInterpolated` subtracts are left out: the position does not depend on them.
-/

import KenshiMP.Lib.RecentRing
import KenshiMP.Lib.Selection

namespace KenshiMP

namespace Exact

def KMP_TICK_INTERVAL_SEC : ℚ := 1 / 20
def KMP_INTERP_DELAY_SEC : ℚ := 1 / 10
def KMP_MAX_SNAPSHOTS : Nat := 8
def KMP_INTERP_DELAY_MIN : ℚ := 5 / 100
def KMP_INTERP_DELAY_MAX : ℚ := 2 / 10
def KMP_EXTRAP_MAX_SEC : ℚ := 25 / 100
def KMP_JITTER_EMA_ALPHA : ℚ := 1 / 10

@[ext] structure Vec3 where
  x : ℚ := 0
  y : ℚ := 0
  z : ℚ := 0
deriving DecidableEq

namespace Vec3

def add (v w : Vec3) : Vec3 := ⟨v.x + w.x, v.y + w.y, v.z + w.z⟩
def sub (v w : Vec3) : Vec3 := ⟨v.x - w.x, v.y - w.y, v.z - w.z⟩
def scale (v : Vec3) (s : ℚ) : Vec3 := ⟨v.x * s, v.y * s, v.z * s⟩
def lengthSq (v : Vec3) : ℚ := v.x * v.x + v.y * v.y + v.z * v.z

end Vec3

/-- `std::clamp` -/
def clamp (v lo hi : ℚ) : ℚ := if v < lo then lo else if hi < v then hi else v

/-! ### One entity -/

/-- What a snapshot is made from. -/
structure Sample where
  timestamp : ℚ := 0
  position : Vec3 := {}
deriving DecidableEq

structure Snapshot extends Sample where
  velocity : Vec3 := {}

structure JitterEstimator where
  lastArrivalTime : ℚ := 0
  jitterEma : ℚ := 2 / 100
  adaptiveDelay : ℚ := KMP_INTERP_DELAY_SEC
  initialized : Bool := false

def JitterEstimator.onPacketArrived (jitter : JitterEstimator) (arrivalTime : ℚ) : JitterEstimator :=
  if !jitter.initialized then { jitter with lastArrivalTime := arrivalTime, initialized := true }
  else
    let interval := arrivalTime - jitter.lastArrivalTime
    let ema := KMP_JITTER_EMA_ALPHA * |interval - KMP_TICK_INTERVAL_SEC|
      + (1 - KMP_JITTER_EMA_ALPHA) * jitter.jitterEma
    let t := clamp ((ema - 2 / 100) / (8 / 100 - 2 / 100)) 0 1
    { jitter with
      jitterEma := ema
      lastArrivalTime := arrivalTime
      adaptiveDelay := KMP_INTERP_DELAY_MIN + t * (KMP_INTERP_DELAY_MAX - KMP_INTERP_DELAY_MIN) }

/-- No cell is in use, and the first one is written next. -/
def noSnapshots : RecentRing Snapshot KMP_MAX_SNAPSHOTS where
  cells _ := {}
  head := ⟨0, Nat.succ_pos 7⟩
  count := 0
  few := Nat.zero_le _

structure EntityInterpState where
  ring : RecentRing Snapshot KMP_MAX_SNAPSHOTS := noSnapshots
  jitter : JitterEstimator := {}

namespace EntityInterpState

variable (state : EntityInterpState)

/-- The velocity since the last snapshot, if that is neither too near nor too long ago. -/
def velocitySince (prev : Snapshot) (timestamp : ℚ) (pos : Vec3) : Vec3 :=
  let dt := timestamp - prev.timestamp
  if 1 / 1000 < dt ∧ dt < 2 then (pos.sub prev.position).scale (1 / dt) else {}

/-- A sample with its velocity since the newest snapshot. -/
def snapshotOf (add : Sample) : Snapshot :=
  { add with
    velocity := ((state.ring.get 0).map fun prev =>
      velocitySince prev add.timestamp add.position).getD {} }

def addSnapshot (add : Sample) : EntityInterpState where
  ring := state.ring.push (state.snapshotOf add)
  jitter := state.jitter.onPacketArrived add.timestamp

/-- The snapshots with their ages, as the loop comes to them. -/
def snapshots : List (Nat × Snapshot) :=
  (List.range state.ring.count).filterMap fun i => (state.ring.get i).map fun s => (i, s)

/-- One round of the loop: the latest snapshot up to a time, and the earliest one from it on. -/
def bracketStep (interpTime : ℚ) (found : Option (Nat × Snapshot) × Option (Nat × Snapshot))
    (s : Nat × Snapshot) : Option (Nat × Snapshot) × Option (Nat × Snapshot) :=
  (Selection.pick (fun s => s.2.timestamp ≤ interpTime) (fun s b => b.2.timestamp < s.2.timestamp) found.1 s,
    Selection.pick (fun s => interpTime ≤ s.2.timestamp) (fun s a => s.2.timestamp < a.2.timestamp)
      found.2 s)

def bracket (interpTime : ℚ) : Option (Nat × Snapshot) × Option (Nat × Snapshot) :=
  state.snapshots.foldl (bracketStep interpTime) (none, none)

/-- Dead reckoning beyond the last snapshot, for a quarter of a second. -/
def extrapolated (last : Snapshot) (interpTime : ℚ) : Vec3 :=
  let overshoot := interpTime - last.timestamp
  if 0 < overshoot ∧ overshoot ≤ KMP_EXTRAP_MAX_SEC ∧ 1 / 1000 < last.velocity.lengthSq then
    last.position.add (last.velocity.scale overshoot)
  else last.position

/-- Between two snapshots. -/
def between (b a : Snapshot) (interpTime : ℚ) : Vec3 :=
  let span := a.timestamp - b.timestamp
  let t := clamp (if 1 / 1000 < span then (interpTime - b.timestamp) / span else 0) 0 1
  b.position.add ((a.position.sub b.position).scale t)

def interpolateEntity (renderTime : ℚ) : Option Vec3 :=
  let interpTime := renderTime - state.jitter.adaptiveDelay
  match state.bracket interpTime with
  | (none, none) => none
  | (none, some (_, a)) => some a.position
  | (some (_, b), none) => some (extrapolated b interpTime)
  | (some (older, b), some (newer, a)) =>
    if newer = older then some (extrapolated b interpTime) else some (between b a interpTime)

/-- The state after some snapshots. -/
def after (adds : List Sample) : EntityInterpState := adds.foldl addSnapshot {}

end EntityInterpState

end Exact

end KenshiMP
