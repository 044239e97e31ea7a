/-
**The calls of the interpolation: snapshots, frames and queries.**

`Update` keeps the time of the frame, by which every query with a result advances the correction of its
entity. The sum of these times is left out: nothing reads it.
-/

import KenshiMP.Client.Interpolation

namespace KenshiMP

namespace Interpolation

variable (interp : Interpolation)

def update (deltaTime : F32) : Interpolation := { interp with deltaTime := deltaTime }

inductive Call where
  | addSnapshot (entityId : EntityID) (timestamp : F32) (pos : Vec3) (rot : Quat)
  | update (deltaTime : F32)
  | getInterpolated (entityId : EntityID) (renderTime : F32)

def call : Call → Interpolation
  | .addSnapshot entityId timestamp pos rot => interp.addSnapshot entityId timestamp pos rot
  | .update deltaTime => interp.update deltaTime
  | .getInterpolated entityId renderTime => (interp.getInterpolated entityId renderTime).2

/-- The interpolation after some calls. -/
def after (calls : List Call) : Interpolation := calls.foldl call {}

end Interpolation

end KenshiMP
