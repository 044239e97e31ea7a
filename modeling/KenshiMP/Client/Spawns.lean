/-
**How a client takes up the entities of other players.**

An announcement of an entity is read (`readEntitySpawn`) and handled (`handleEntitySpawn`): an own
entity gets the server's number, the entity of another player is registered and is either linked to
a character of the game that waits under the name of the player, or queued for the factory. Before
the game is ready the announcement goes into a queue, and `processAll` handles it later with a
second copy of the handler (`processDeferredSpawn`). A character that is given to an entity gets the
name of its player (`onRemoteCharacterSpawned`), so that it does not wait any more.

Left out are the other writes into the memory of the game, the display and the log.
-/

import KenshiMP.Client.Interpolation
import KenshiMP.Client.Senders

namespace KenshiMP

open Wire (Bytes ascii)
open Assoc

/-! ### Names -/

/-- The conversions of the system, empty when they fail. -/
structure CodePages where
  multiByteToWideChar : Bytes → List UInt16
  wideCharToMultiByte : List UInt16 → Bytes

/-- A text that cannot be converted stays as it is. -/
def utf8ToAnsi (pages : CodePages) (utf8 : Bytes) : Bytes :=
  let wide := pages.multiByteToWideChar utf8
  let ansi := pages.wideCharToMultiByte wide
  if utf8 = [] || wide = [] || ansi = [] then utf8 else ansi

/-! ### The announcement -/

/-- What an announcement says; the health and the alive byte are optional. -/
structure EntitySpawn where
  entityId : EntityID
  type : UInt8
  ownerId : PlayerID
  templateId : UInt32
  spawnPos : Vec3
  compQuat : UInt32
  factionId : UInt32
  templateName : Bytes
  extended : Option ((Fin 7 → F32) × Bool)

/-- The fields are those of a request, with the server's number of the entity in front. -/
def readEntitySpawn (reader : PacketReader) : Option EntitySpawn :=
  match reader.readRaw GameServer.spawnRequest with
  | none => none
  | some ((entityId, type, ownerId, templateId, (px, py, pz), compQuat, factionId), rest) =>
    let (templateName, rest) := GameServer.readTemplateName rest
    some ⟨entityId, type, ownerId, templateId, ⟨px, py, pz⟩, compQuat, factionId, templateName,
      GameServer.readExtended rest⟩

/-- What the server's announcement says; it always has the health and the alive byte. -/
def EntitySpawn.ofRecord (record : SpawnRecord) : EntitySpawn where
  entityId := record.entityId
  type := record.type
  ownerId := record.ownerId
  templateId := record.templateId
  spawnPos := record.position
  compQuat := record.compressedQuat
  factionId := record.factionId
  templateName := record.templateName
  extended := some (record.health, record.alive)

/-- An announcement in the queue; without a health, the array for it is not set. -/
structure DeferredSpawn where
  entityId : EntityID
  type : UInt8
  ownerId : PlayerID
  templateId : UInt32
  posX : F32
  posY : F32
  posZ : F32
  compressedQuat : UInt32
  factionId : UInt32
  templateName : Bytes
  health : Option (Fin 7 → F32)
  isAlive : Bool

/-- The queue copies every field. -/
def EntitySpawn.deferred (spawn : EntitySpawn) : DeferredSpawn where
  entityId := spawn.entityId
  type := spawn.type
  ownerId := spawn.ownerId
  templateId := spawn.templateId
  posX := spawn.spawnPos.x
  posY := spawn.spawnPos.y
  posZ := spawn.spawnPos.z
  compressedQuat := spawn.compQuat
  factionId := spawn.factionId
  templateName := spawn.templateName
  health := spawn.extended.map Prod.fst
  isAlive := (spawn.extended.map Prod.snd).getD true

/-- What the factory is asked for. -/
structure FactoryRequest where
  netId : EntityID
  owner : PlayerID
  type : UInt8
  templateName : Bytes
  position : Vec3
  rotation : Quat
  templateId : UInt32
  factionId : UInt32
  retryCount : UInt32 := 0
  hasExtendedState : Bool := false
  health : Fin 7 → F32 := fun _ => lit 100 1
  alive : Bool := true

/-! ### The client -/

inductive ClientPhase where
  | Startup | MainMenu | Loading | GameReady | Connecting | Connected
deriving DecidableEq, Repr

/-- At least `GameReady`. -/
def ClientPhase.inGame (phase : ClientPhase) : Bool := ClientPhase.GameReady.ctorIdx ≤ phase.ctorIdx

structure PendingSnapshot where
  position : CharacterPosition
  sourcePlayerId : PlayerID
  timestamp : F32
deriving DecidableEq

/-- The part of a client that announcements read and write. -/
structure GameClient where
  localPlayerId : PlayerID := 0
  gameLoaded : Bool := false
  clientPhase : ClientPhase := .Startup
  hostSpawnPoint : Option Vec3 := none
  registry : EntityRegistry := {}
  interpolation : Interpolation := {}
  pendingSnapshots : AMap EntityID (List PendingSnapshot) := ∅
  /-- the characters of the game with their names -/
  characters : List (Bytes × GameObject) := []
  /-- the names of the other players -/
  remotePlayers : AMap PlayerID Bytes := ∅
  spawnQueue : List FactoryRequest := []
  deferredSpawns : List DeferredSpawn := []

namespace EntityRegistry

variable (registry : EntityRegistry)

/-- The own entity nearest to a confirmed position gets the server's number. -/
def confirm (entityId : EntityID) (spawnPos : Vec3) (ownerId : PlayerID) : EntityRegistry :=
  let localId := registry.findLocalEntityNear spawnPos ownerId
  if localId ≠ 0 && localId ≠ entityId then registry.remapEntityId localId entityId else registry

end EntityRegistry

namespace GameClient

variable (client : GameClient)

def ready : Bool := client.gameLoaded && client.clientPhase.inGame

/-- The character that waits for a player, or zero. -/
def findModCharacterBySlot (slot : PlayerID) : GameObject :=
  if slot < 1 || 16 < slot then 0
  else
    ((client.characters.find? fun character =>
      character.1 = ascii ("Player " ++ toString slot.toNat)).map Prod.snd).getD 0

/-- The name of a player, or one that is made of the number. -/
def displayName (owner : PlayerID) : Bytes :=
  match client.remotePlayers.lookup owner with
  | none | some [] => ascii ("Player_" ++ toString owner.toNat)
  | some name => name

/-- A character that is given to an entity gets the name of the player, of which 15 bytes fit in place. -/
def onRemoteCharacterSpawned (character : GameObject) (owner : PlayerID) : GameClient :=
  let safeName := (client.displayName owner).take 15
  { client with
    characters :=
      if client.characters.any fun entry => entry.2 = character then
        client.characters.map fun entry => if entry.2 = character then (safeName, character) else entry
      else client.characters ++ [(safeName, character)] }

@[simp] theorem onRemoteCharacterSpawned_registry (character : GameObject) (owner : PlayerID) :
    (client.onRemoteCharacterSpawned character owner).registry = client.registry := rfl

/-- What came before the announcement goes into the interpolation. -/
def flushForEntity (entityId : EntityID) : GameClient :=
  match client.pendingSnapshots.lookup entityId with
  | none => client
  | some snapshots =>
    { client with
      interpolation := snapshots.foldl (fun interp snapshot =>
        let pos := snapshot.position
        interp.addSnapshot pos.entityId snapshot.timestamp ⟨pos.posX, pos.posY, pos.posZ⟩
          (Quat.decompress pos.compressedQuat)) client.interpolation
      pendingSnapshots := AList.erase entityId client.pendingSnapshots }

/-- Registering the entity of another player, with its first positions. -/
def introduce (entityId : EntityID) (type : UInt8) (ownerId : PlayerID) (spawnPos : Vec3)
    (rot : Quat) (now : F32) : GameClient :=
  let registered :=
    { client with registry := client.registry.registerRemote entityId type ownerId spawnPos }
  let flushed := registered.flushForEntity entityId
  { flushed with interpolation := flushed.interpolation.addSnapshot entityId now spawnPos rot }

def queueSpawn (request : FactoryRequest) : GameClient :=
  { client with spawnQueue := client.spawnQueue ++ [request] }

/-- The first position other than that of a character at zero is where the host is. -/
def noteHostSpawnPoint (spawnPos : Vec3) : GameClient :=
  if client.hostSpawnPoint.isNone && !SyncOrchestrator.isZero spawnPos.x
      && !SyncOrchestrator.isZero spawnPos.z then
    { client with hostSpawnPoint := some spawnPos }
  else client

/-! ### Announcements that come in time -/

/-- The character of the owner, unless it is linked to another entity. -/
def existingChar (entityId : EntityID) (ownerId : PlayerID) : GameObject :=
  let character := client.findModCharacterBySlot ownerId
  let linkedId := client.registry.getNetId character
  if character ≠ 0 && linkedId ≠ 0 && linkedId ≠ entityId then 0 else character

/-- Linking puts the entity where the interpolation has it, or else where it was announced, and names
the character. -/
def linkExisting (spawn : EntitySpawn) (existing : GameObject) (render : F32) : GameClient :=
  let linked := (client.registry.setGameObject spawn.entityId existing).updatePosition
    spawn.entityId spawn.spawnPos
  let (found, interpolation) := client.interpolation.getInterpolated spawn.entityId render
  let placed :=
    match found with
    | none => linked
    | some bestPos => linked.updatePosition spawn.entityId bestPos
  let registry :=
    match spawn.extended with
    | none => placed
    | some (healthData, _) =>
      if client.gameLoaded then placed.updateLimbHealth spawn.entityId healthData else placed
  { client with registry := registry, interpolation := interpolation }.onRemoteCharacterSpawned
    existing spawn.ownerId

/-- The request to the factory has the name in the code page of the game, and the health. -/
def factoryRequest (pages : CodePages) (spawn : EntitySpawn) : FactoryRequest :=
  let req : FactoryRequest :=
    { netId := spawn.entityId, owner := spawn.ownerId, type := spawn.type,
      templateName := utf8ToAnsi pages spawn.templateName, position := spawn.spawnPos,
      rotation := Quat.decompress spawn.compQuat, templateId := spawn.templateId,
      factionId := spawn.factionId }
  match spawn.extended with
  | none => req
  | some (healthData, isAlive) =>
    { req with hasExtendedState := true, health := healthData, alive := isAlive }

/-- The entity of another player, once the game is ready. -/
def spawnRemote (pages : CodePages) (spawn : EntitySpawn) (now render : F32) : GameClient :=
  let introduced := (client.noteHostSpawnPoint spawn.spawnPos).introduce spawn.entityId spawn.type
    spawn.ownerId spawn.spawnPos (Quat.decompress spawn.compQuat) now
  let existing := introduced.existingChar spawn.entityId spawn.ownerId
  if existing ≠ 0 then introduced.linkExisting spawn existing render
  else introduced.queueSpawn (factoryRequest pages spawn)

/-- An announcement that was read, at a time, with the time at which the interpolation is read. -/
def takeUp (pages : CodePages) (spawn : EntitySpawn) (now render : F32) : GameClient :=
  if spawn.ownerId = client.localPlayerId then
    { client with registry := client.registry.confirm spawn.entityId spawn.spawnPos spawn.ownerId }
  else if !client.ready then
    { client with deferredSpawns := client.deferredSpawns ++ [spawn.deferred] }
  else client.spawnRemote pages spawn now render

def handleEntitySpawn (pages : CodePages) (reader : PacketReader) (now render : F32) : GameClient :=
  match readEntitySpawn reader with
  | none => client
  | some spawn => client.takeUp pages spawn now render

/-! ### Announcements that came too early -/

def processDeferredSpawn (ds : DeferredSpawn) (now : F32) : GameClient :=
  let spawnPos : Vec3 := ⟨ds.posX, ds.posY, ds.posZ⟩
  let rot := Quat.decompress ds.compressedQuat
  if ds.ownerId = client.localPlayerId then client
  else
    let introduced := client.introduce ds.entityId ds.type ds.ownerId spawnPos rot now
    let existing := introduced.findModCharacterBySlot ds.ownerId
    if existing ≠ 0 && introduced.registry.getNetId existing = 0 then
      let linked := (introduced.registry.setGameObject ds.entityId existing).updatePosition
        ds.entityId spawnPos
      let registry :=
        match ds.health with
        | none => linked
        | some health =>
          if introduced.gameLoaded then linked.updateLimbHealth ds.entityId health else linked
      { introduced with registry := registry }.onRemoteCharacterSpawned existing ds.ownerId
    else
      introduced.queueSpawn
        { netId := ds.entityId, owner := ds.ownerId, type := ds.type,
          templateName := ds.templateName, position := spawnPos, rotation := rot,
          templateId := ds.templateId, factionId := ds.factionId }

/-- One entry after the other, each at its own time. -/
def processEach (clock : Nat → F32) (spawns : List DeferredSpawn) : GameClient :=
  spawns.zipIdx.foldl (fun client entry => client.processDeferredSpawn entry.1 (clock entry.2)) client

/-- The whole queue, which is empty then. -/
def processAll (clock : Nat → F32) : GameClient :=
  { client.processEach clock client.deferredSpawns with deferredSpawns := [] }

/-- The game has loaded. -/
def enterGame (phase : ClientPhase) : GameClient :=
  { client with gameLoaded := true, clientPhase := phase }

end GameClient

end KenshiMP
