/-
**The correction of remote characters, over the rational numbers.**

A snapshot that is not where the one before it leads starts a correction, which `GetInterpolated` subtracts
and lets fade out; one that is very far away cancels it. A length is compared by its square.
-/

import KenshiMP.Client.ExactInterpolation

namespace KenshiMP

namespace Exact

def KMP_SNAP_THRESHOLD_MIN : ℚ := 5
def KMP_SNAP_THRESHOLD_MAX : ℚ := 50
def KMP_SNAP_CORRECT_SEC : ℚ := 15 / 100

/-- The length is greater than a bound that is not negative. -/
def Vec3.Longer (v : Vec3) (bound : ℚ) : Prop := bound ^ 2 < v.lengthSq

instance Vec3.decidableLonger (v : Vec3) (bound : ℚ) : Decidable (v.Longer bound) :=
  inferInstanceAs (Decidable (_ < _))

structure SnapCorrection where
  active : Bool := false
  errorOffset : Vec3 := {}
  blendTimer : ℚ := 0
  blendTotal : ℚ := 0

namespace SnapCorrection

variable (snap : SnapCorrection)

def startCorrection (error : Vec3) : SnapCorrection :=
  if error.Longer KMP_SNAP_THRESHOLD_MAX then { snap with active := false }
  else if error.Longer KMP_SNAP_THRESHOLD_MIN then
    ⟨true, error, KMP_SNAP_CORRECT_SEC, KMP_SNAP_CORRECT_SEC⟩
  else snap

/-- The part of the error that is left after another frame. -/
def apply (dt : ℚ) : Vec3 × SnapCorrection :=
  if !snap.active then ({}, snap)
  else
    let timer := snap.blendTimer - dt
    if timer ≤ 0 then ({}, { snap with blendTimer := timer, active := false })
    else (snap.errorOffset.scale (timer / snap.blendTotal), { snap with blendTimer := timer })

end SnapCorrection

/-- How far a sample is from where a snapshot leads. -/
def predictionError (prev : Snapshot) (add : Sample) : Vec3 :=
  add.position.sub (prev.position.add (prev.velocity.scale (add.timestamp - prev.timestamp)))

/-- The state of an entity with its correction. -/
structure Tracked extends EntityInterpState where
  snap : SnapCorrection := {}

namespace Tracked

variable (entity : Tracked)

/-- A sample far from the expected place starts a correction, or cancels it if it is a teleport. -/
def corrected (prev : Snapshot) (add : Sample) : SnapCorrection :=
  let error := predictionError prev add
  if error.Longer KMP_SNAP_THRESHOLD_MAX then { entity.snap with active := false }
  else if error.Longer KMP_SNAP_THRESHOLD_MIN then entity.snap.startCorrection error
  else entity.snap

def addSnapshot (add : Sample) : Tracked where
  toEntityInterpState := entity.toEntityInterpState.addSnapshot add
  snap := ((entity.ring.get 0).map fun prev => entity.corrected prev add).getD entity.snap

/-- The position at a time, and the entity after another frame of its correction. -/
def getInterpolated (deltaTime renderTime : ℚ) : Option Vec3 × Tracked :=
  match entity.interpolateEntity renderTime with
  | none => (none, entity)
  | some pos =>
    if entity.snap.active then
      let (correction, snap) := entity.snap.apply deltaTime
      (some (pos.sub correction), { entity with snap := snap })
    else (some pos, entity)

end Tracked

/-- What happens to an entity: a sample, and a look at it in a frame. -/
inductive TrackedEvent where
  | add (sample : Sample)
  | frame (deltaTime : ℚ≥0) (renderTime : ℚ)

namespace TrackedEvent

def sample : TrackedEvent → Option Sample
  | add sample => some sample
  | frame _ _ => none

end TrackedEvent

namespace Tracked

def step (entity : Tracked) : TrackedEvent → Tracked
  | .add sample => entity.addSnapshot sample
  | .frame deltaTime renderTime => (entity.getInterpolated deltaTime renderTime).2

/-- The entity after some events. -/
def after (events : List TrackedEvent) : Tracked := events.foldl step {}

end Tracked

end Exact

end KenshiMP
