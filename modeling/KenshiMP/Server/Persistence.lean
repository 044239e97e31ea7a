/-
**The world file.**

`worldJson` is the document the server writes and `loadWorldFromFile` reads one. The reader works
through references: when an exception ends it in the middle, what it has written so far stays
(`World`, with the flag of its return value). Members of a document are read as the JSON library
does, `none` being an exception.
-/

import KenshiMP.Lib.Json
import KenshiMP.Server.State

namespace KenshiMP

open Wire (Bytes ascii)
open Assoc
open Json (Value)

namespace Persistence

/-! ### Writing -/

/-- A float is written as a double. -/
def number (x : F32) : Value := .float x.convert

def unsigned (n : UInt32) : Value := .int n.toNat

def entityJson (entity : ServerEntity) : Value :=
  .obj [(ascii "id", unsigned entity.id),
    (ascii "type", .int entity.type.toNat),
    (ascii "owner", unsigned entity.owner),
    (ascii "templateId", unsigned entity.templateId),
    (ascii "factionId", unsigned entity.factionId),
    (ascii "position",
      .arr [number entity.position.x, number entity.position.y, number entity.position.z]),
    (ascii "rotation",
      .arr [number entity.rotation.w, number entity.rotation.x, number entity.rotation.y,
        number entity.rotation.z]),
    (ascii "alive", .bool entity.alive),
    (ascii "health", .arr (List.ofFn fun i => number (entity.health i))),
    (ascii "templateName", .str entity.templateName),
    (ascii "equipment", .arr (List.ofFn fun i => unsigned (entity.equipment i)))]

def worldJson (entities : AMap EntityID ServerEntity) (savedPlayers : AMap Bytes SavedPlayer)
    (timeOfDay : F32) (weatherState : Int32) : Value :=
  .obj [(ascii "version", .int 2),
    (ascii "timeOfDay", number timeOfDay),
    (ascii "weather", .int weatherState.toInt),
    (ascii "entities", .arr (entities.toList.map fun (_, entity) => entityJson entity)),
    (ascii "players", .obj (savedPlayers.toList.map fun (name, saved) =>
      (name, .arr (saved.entityIds.map unsigned))))]

/-- The document of a save; none when it throws. -/
def saveWorldToFile (lib : Json.Library) (entities : AMap EntityID ServerEntity)
    (savedPlayers : AMap Bytes SavedPlayer) (timeOfDay : F32) (weatherState : Int32) :
    Option lib.Text :=
  lib.dump (worldJson entities savedPlayers timeOfDay weatherState)

/-! ### Reading -/

/-- What the reader writes through its references. -/
structure World where
  entities : AMap EntityID ServerEntity
  savedPlayers : AMap Bytes SavedPlayer
  timeOfDay : F32
  weatherState : Int32
  nextEntityId : EntityID

/-- An integer cast to an entity type keeps its low eight bits. -/
def toEntityType (n : Int32) : UInt8 := n.toUInt32.toUInt8

/-- The members read before the position is judged. -/
def readHead (e : Value) : Option ServerEntity := do
  let id ← (← e.atKey (ascii "id")).getUInt32
  let type ← (← e.atKey (ascii "type")).getInt32
  let templateId ← (← e.atKey (ascii "templateId")).getUInt32
  let factionId ← (← e.atKey (ascii "factionId")).getUInt32
  let pos ← e.atKey (ascii "position")
  let x ← (← pos.atIndex 0).getFloat
  let y ← (← pos.atIndex 1).getFloat
  let z ← (← pos.atIndex 2).getFloat
  pure { id := id, type := toEntityType type, owner := 0, templateId := templateId,
         factionId := factionId, position := ⟨x, y, z⟩ }

/-- As many elements as the array and the document both have. -/
def readElements {α : Type} {count : Nat} (get : Value → Option α) (source : Value)
    (values : Fin count → α) : Option (Fin count → α) :=
  (List.range (min count source.size)).foldlM
    (fun values i => do
      let value ← get (← source.atIndex i)
      pure (GameServer.store values i value))
    values

/-- The equipment is read when the document has it. -/
def readEquipment (e : Value) (equipment : Fin 14 → UInt32) : Option (Fin 14 → UInt32) :=
  if e.contains (ascii "equipment") then do
    readElements Value.getUInt32 (← e.atKey (ascii "equipment")) equipment
  else some equipment

/-- The members read once the position is accepted. -/
def readRest (e : Value) (entity : ServerEntity) : Option ServerEntity := do
  let rot ← e.atKey (ascii "rotation")
  let w ← (← rot.atIndex 0).getFloat
  let x ← (← rot.atIndex 1).getFloat
  let y ← (← rot.atIndex 2).getFloat
  let z ← (← rot.atIndex 3).getFloat
  let alive ← e.valueOr Value.getBool (ascii "alive") true
  let health ← readElements Value.getFloat (← e.atKey (ascii "health")) entity.health
  let templateName ← e.valueOr Value.getString (ascii "templateName") []
  let equipment ← readEquipment e entity.equipment
  pure { entity with
    rotation := ⟨w, x, y, z⟩, zone := ZoneCoord.fromWorldPos entity.position, alive := alive,
    health := health, templateName := templateName, equipment := equipment }

/-- The variables of the entity loop. -/
structure LoadLoop where
  entities : AMap EntityID ServerEntity
  maxId : EntityID
  loadedCount : Nat

/-- Remember the greatest identifier. -/
def LoadLoop.seen (loop : LoadLoop) (id : EntityID) : LoadLoop :=
  { loop with maxId := if loop.maxId < id then id else loop.maxId }

def LoadLoop.stored (loop : LoadLoop) (entity : ServerEntity) : LoadLoop :=
  { loop.seen entity.id with
    entities := AList.insert entity.id entity loop.entities
    loadedCount := loop.loadedCount + 1 }

/-- The entity loop; the flag is false when an exception ends it. -/
def loadEntities : LoadLoop → List Value → Bool × LoadLoop
  | loop, [] => (true, loop)
  | loop, e :: rest =>
    if KMP_MAX_SYNC_ENTITIES ≤ loop.loadedCount then (true, loop)
    else
      match readHead e with
      | none => (false, loop)
      | some head =>
        if badCoords head.position.x head.position.y head.position.z then
          loadEntities (loop.seen head.id) rest
        else
          match readRest e head with
          | none => (false, loop)
          | some entity => loadEntities (loop.stored entity) rest

/-- The player loop keeps the identifiers of loaded entities, and no empty record. -/
def loadPlayers (entities : AMap EntityID ServerEntity) :
    AMap Bytes SavedPlayer → List (Bytes × Value) → Bool × AMap Bytes SavedPlayer
  | saved, [] => (true, saved)
  | saved, (name, ids) :: rest =>
    match ids.items.mapM Value.getUInt32 with
    | none => (false, saved)
    | some ids =>
      let kept := ids.filter fun id => (entities.lookup id).isSome
      loadPlayers entities
        (if kept = [] then saved else AList.insert name ⟨name, kept⟩ saved) rest

/-- The members of `j["players"]`, when it is an object. -/
def playerMembers (j : Value) : List (Bytes × Value) :=
  if j.contains (ascii "players") then
    match j.atKey (ascii "players") with
    | some (.obj members) => members
    | _ => []
  else []

/-- Read a document into a world. -/
def loadDocument (j : Value) (world : World) : Bool × World :=
  match j.valueOr Value.getFloat (ascii "timeOfDay") (lit 1 2) with
  | none => (false, world)
  | some timeOfDay =>
    match j.valueOr Value.getInt32 (ascii "weather") 0 with
    | none => (false, { world with timeOfDay := timeOfDay })
    | some weatherState =>
      let elements := ((j.atKey (ascii "entities")).getD .null).items
      let (complete, loop) := loadEntities ⟨∅, 0, 0⟩ elements
      if !complete then (false, ⟨loop.entities, ∅, timeOfDay, weatherState, world.nextEntityId⟩)
      else
        let (complete, saved) := loadPlayers loop.entities ∅ (playerMembers j)
        if !complete then
          (false, ⟨loop.entities, saved, timeOfDay, weatherState, world.nextEntityId⟩)
        else (true, ⟨loop.entities, saved, timeOfDay, weatherState, loop.maxId + 1⟩)

/-- Read a file: none when there is none or it is not a document. -/
def loadWorldFromFile (file : Option Value) (world : World) : Bool × World :=
  match file with
  | none => (false, world)
  | some j => loadDocument j world

end Persistence

namespace GameServer

open Persistence

variable (server : GameServer)

/-- The world as the loader gets it by reference. -/
def world : World :=
  ⟨server.entities, server.savedPlayers, server.timeOfDay, server.weatherState, server.nextEntityId⟩

/-- Entities and saved players are loaded in place; the rest is taken over on success only. -/
def loadWorld (file : Option Value) : GameServer :=
  let (success, loaded) := loadWorldFromFile file server.world
  let placed :=
    { server with entities := loaded.entities, savedPlayers := loaded.savedPlayers }
  if success then
    { placed with
      timeOfDay := loaded.timeOfDay
      weatherState := loaded.weatherState
      nextEntityId := loaded.nextEntityId }
  else placed

/-- The saved players with the connected ones merged in, under their names. -/
def savedForWrite : AMap Bytes SavedPlayer :=
  server.players.toList.foldl
    (fun saved (pid, player) =>
      if server.ownedIds pid = [] then saved
      else AList.insert player.name ⟨player.name, server.ownedIds pid⟩ saved)
    server.savedPlayers

/-- The document of a save. -/
def saveDocument : Value :=
  worldJson server.entities server.savedForWrite server.timeOfDay server.weatherState

/-- Saving writes this text, or throws. -/
def saveWorld (lib : Json.Library) : Option lib.Text :=
  saveWorldToFile lib server.entities server.savedForWrite server.timeOfDay server.weatherState

end GameServer

end KenshiMP
