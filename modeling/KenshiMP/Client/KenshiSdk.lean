/-
**The polled snapshots of the SDK.**

Each update polls the characters of the game, compares what it has found with the poll before, and keeps both
the snapshot and the differences. The reading of the game's memory is what an update is given, and the numbers
are exact.
-/

import KenshiMP.Client.ExactInterpolation
import KenshiMP.ExactRotations
import KenshiMP.Lib.Assoc
import KenshiMP.Lib.Wire

namespace KenshiMP

namespace Sdk

open Assoc
open Exact (Vec3 Quat)
open Wire (Bytes)

/-! ### Snapshots -/

def Dirty_None : UInt16 := 0x000
def Dirty_Position : UInt16 := 0x001
def Dirty_Rotation : UInt16 := 0x002
def Dirty_Animation : UInt16 := 0x004
def Dirty_Health : UInt16 := 0x008
def Dirty_All : UInt16 := 0xFFF

structure EntitySnapshot where
  gamePtr : UInt64 := 0
  position : Vec3 := {}
  rotation : Quat ℚ := ⟨1, 0, 0, 0⟩
  health : Fin 7 → ℚ := fun _ => 0
  factionPtr : UInt64 := 0
  factionId : UInt32 := 0
  name : Bytes := []
  animState : UInt8 := 0
  moveSpeed : ℚ := 0
  alive : Bool := true
  playerControlled : Bool := false
deriving DecidableEq

namespace EntitySnapshot

variable (entity prev : EntitySnapshot)

def distSq : ℚ := (entity.position.sub prev.position).lengthSq

def rotationSq : ℚ :=
  (entity.rotation.w - prev.rotation.w) ^ 2 + (entity.rotation.x - prev.rotation.x) ^ 2
    + (entity.rotation.y - prev.rotation.y) ^ 2 + (entity.rotation.z - prev.rotation.z) ^ 2

def diffAgainst : UInt16 :=
  let flags := Dirty_None
  let flags := if 1 / 100 < entity.distSq prev then flags ||| Dirty_Position else flags
  let flags := if 1 / 10000 < entity.rotationSq prev then flags ||| Dirty_Rotation else flags
  let flags := if entity.animState ≠ prev.animState then flags ||| Dirty_Animation else flags
  let flags := if ∃ i, 1 / 2 < |entity.health i - prev.health i| then flags ||| Dirty_Health else flags
  if entity.alive ≠ prev.alive then flags ||| Dirty_Health else flags

end EntitySnapshot

structure WorldSnapshot where
  entities : List EntitySnapshot := []
  timeOfDay : ℚ := 0
  gameSpeed : ℚ := 1
  frameNumber : UInt32 := 0

/-- The pointers of some entities. -/
def pointers (entities : List EntitySnapshot) : List UInt64 := entities.map EntitySnapshot.gamePtr

def WorldSnapshot.findByPtr (snapshot : WorldSnapshot) (ptr : UInt64) : Option EntitySnapshot :=
  snapshot.entities.find? fun e => e.gamePtr = ptr

structure EntityDelta where
  gamePtr : UInt64 := 0
  dirtyFlags : UInt16 := 0
  snapshot : EntitySnapshot

structure WorldDiff where
  changed : List EntityDelta := []
  added : List UInt64 := []
  removed : List UInt64 := []

/-! ### Polling -/

/-- What the memory of the game holds: the characters that `ReadEntity` reads, in the order of the iterator,
and the time and the speed where the game's world is known. -/
structure GameReading where
  characters : List EntitySnapshot
  world : Option (ℚ × ℚ)

/-- The characters that are polled. -/
def GameReading.polled (reading : GameReading) : List EntitySnapshot :=
  reading.characters.filter fun entity => entity.gamePtr ≠ 0

def pollEntities (reading : GameReading) (snapshot : WorldSnapshot) : WorldSnapshot :=
  let snapshot := { snapshot with entities := snapshot.entities ++ reading.polled }
  match reading.world with
  | none => snapshot
  | some (timeOfDay, gameSpeed) => { snapshot with timeOfDay := timeOfDay, gameSpeed := gameSpeed }

/-! ### Differences -/

/-- What the loop over the new snapshot does with one entity. -/
def WorldDiff.check (oldMap : AMap UInt64 EntitySnapshot) (diff : WorldDiff) (e : EntitySnapshot) : WorldDiff :=
  match oldMap.lookup e.gamePtr with
  | none =>
    { diff with
      added := diff.added ++ [e.gamePtr]
      changed := diff.changed ++ [⟨e.gamePtr, Dirty_All, e⟩] }
  | some old =>
    let flags := e.diffAgainst old
    if flags ≠ Dirty_None then { diff with changed := diff.changed ++ [⟨e.gamePtr, flags, e⟩] } else diff

def computeDiff (oldSnap newSnap : WorldSnapshot) : WorldDiff :=
  let oldMap := AMap.insertAll EntitySnapshot.gamePtr oldSnap.entities ∅
  let diff := newSnap.entities.foldl (WorldDiff.check oldMap) {}
  let seen := pointers newSnap.entities
  { diff with removed := diff.removed ++ pointers (oldSnap.entities.filter fun e => e.gamePtr ∉ seen) }

/-! ### The SDK -/

structure KenshiSDK where
  current : WorldSnapshot := {}
  previous : WorldSnapshot := {}
  lastDiff : WorldDiff := {}
  frameNumber : UInt32 := 0
  initialized : Bool := false

namespace KenshiSDK

variable (sdk : KenshiSDK)

def initializeSdk (playerBase gameWorld : UInt64) : KenshiSDK × Bool :=
  if playerBase = 0 ∧ gameWorld = 0 then (sdk, false)
  else ({ sdk with initialized := true, frameNumber := 0 }, true)

/-- The current snapshot is moved away before the poll; nothing looks at what is left in its place. -/
def update (reading : GameReading) : KenshiSDK :=
  if sdk.initialized then
    let previous := sdk.current
    let newSnap := pollEntities reading { frameNumber := sdk.frameNumber + 1 }
    { sdk with
      current := newSnap
      previous := previous
      lastDiff := computeDiff previous newSnap
      frameNumber := sdk.frameNumber + 1 }
  else sdk

end KenshiSDK

end Sdk

end KenshiMP
