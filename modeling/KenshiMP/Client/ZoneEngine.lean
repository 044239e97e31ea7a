/-
**The zone engine of a client: who is in which zone.**

The entities of the zones around the local player, as of the last rebuild, and for the players two maps, each
the inverse of the other. A zone is a key of 64 bits; the callback and the message of a change of the local
zone are left out, and the time of the last one.
-/

import KenshiMP.Lib.Buckets
import KenshiMP.Client.EntityResolver

namespace KenshiMP

open Assoc

/-- The zone of the local player, the entities around it, and the zones of the players, both ways. -/
structure ZoneEngine where
  localZone : ZoneCoord := {}
  prevLocalZone : ZoneCoord := {}
  zoneEntities : AMap UInt64 (List EntityID) := ∅
  playerZones : AMap PlayerID ZoneCoord := ∅
  zonePlayers : AMap UInt64 (List PlayerID) := ∅

namespace ZoneEngine

/-- Both numbers in one, as bits. -/
def zoneKey (z : ZoneCoord) : UInt64 := (z.x.toUInt32.toUInt64 <<< 32) ||| z.y.toUInt32.toUInt64

variable (engine : ZoneEngine)

/-! ### The local player -/

def updateLocalPlayerZone (position : Vec3) : ZoneEngine :=
  let newZone := ZoneCoord.fromWorldPos position
  if newZone = engine.localZone then engine
  else { engine with prevLocalZone := engine.localZone, localZone := newZone }

/-- The nine zones around the local player, with numbers that wrap around. -/
def getInterestZones : List ZoneCoord := EntityRegistry.neighborhood engine.localZone

/-! ### The entities -/

/-- The index is made anew; zones without entities are left out. -/
def rebuildZoneIndex (registry : EntityRegistry) : ZoneEngine :=
  { engine with
    zoneEntities := engine.getInterestZones.foldl (fun index zone =>
      let entities := registry.getEntitiesInZone zone
      if entities.isEmpty then index else AList.insert (zoneKey zone) entities index) ∅ }

/-- A key as two signed numbers. -/
def unpack (key : UInt64) : ZoneCoord :=
  ⟨(key >>> 32).toUInt32.toInt32, (key &&& 0xFFFFFFFF).toUInt32.toInt32⟩

def getPopulatedZones : List ZoneCoord :=
  (engine.zoneEntities.toList.filter fun (_, entities) => !entities.isEmpty).map fun (key, _) => unpack key

/-! ### The players -/

/-- A player leaves the list of one zone for that of another. -/
def updatePlayerZone (playerId : PlayerID) (zone : ZoneCoord) : ZoneEngine :=
  match engine.playerZones.lookup playerId with
  | none =>
    { engine with
      playerZones := AList.insert playerId zone engine.playerZones
      zonePlayers := Buckets.put engine.zonePlayers (zoneKey zone) playerId }
  | some oldZone =>
    if oldZone = zone then engine
    else
      let left := Buckets.take engine.zonePlayers (zoneKey oldZone) playerId
      { engine with
        playerZones := AList.insert playerId zone engine.playerZones
        zonePlayers := Buckets.put left (zoneKey zone) playerId }

def getPlayersInZone (zone : ZoneCoord) : List PlayerID := Buckets.members engine.zonePlayers (zoneKey zone)

/-- Who is in no zone is said to be at the origin. -/
def getPlayerZone (playerId : PlayerID) : ZoneCoord := (engine.playerZones.lookup playerId).getD ⟨0, 0⟩

def removePlayer (playerId : PlayerID) : ZoneEngine :=
  match engine.playerZones.lookup playerId with
  | none => engine
  | some zone =>
    { engine with
      playerZones := AList.erase playerId engine.playerZones
      zonePlayers := Buckets.take engine.zonePlayers (zoneKey zone) playerId }

def reset (_ : ZoneEngine) : ZoneEngine := {}

end ZoneEngine

inductive ZoneEngineOp where
  | updatePlayerZone (playerId : PlayerID) (zone : ZoneCoord)
  | removePlayer (playerId : PlayerID)
  | reset
  | updateLocalPlayerZone (position : Vec3)
  | rebuildZoneIndex (registry : EntityRegistry)

def ZoneEngineOp.apply (engine : ZoneEngine) : ZoneEngineOp → ZoneEngine
  | .updatePlayerZone playerId zone => engine.updatePlayerZone playerId zone
  | .removePlayer playerId => engine.removePlayer playerId
  | .reset => engine.reset
  | .updateLocalPlayerZone position => engine.updateLocalPlayerZone position
  | .rebuildZoneIndex registry => engine.rebuildZoneIndex registry

def zoneEngineMachine : Machine ZoneEngine ZoneEngineOp Unit where
  step engine op := (op.apply engine, [])

end KenshiMP
