/-
**A client with the tables around its registry.**

Around the registry a client keeps the characters whose own decisions are overridden, the positions in
the interpolation, the requests to the factory, and two counts of the characters that a player has been
given. Characters are given in five places: a character of the save is linked (when its entity is
announced, when the queue of early announcements is processed, when the game has loaded), and a request
is taken from the queue by `handleSpawnQueue`, by `stageProcessSpawns` and by the hook on the creation
of a character of the game. Entities are removed in eight.

The removals are one function with parameters, `retire`; each place says which tables it cleans. Left
out are the memory of the game, the display, the log, and the commands of the console that spawn.
-/

import KenshiMP.Client.Connection
import Mathlib.Data.Finset.Basic

namespace KenshiMP

open Wire (Bytes)
open Assoc

/-- The ways in which a character is given to an entity. -/
inductive SpawnPath where
  | link | direct | staged | hijack
deriving DecidableEq, Repr

def MAX_SPAWN_RETRIES : UInt32 := 200
def MAX_SPAWNS_PER_PLAYER : Nat := 4
def MAX_DIRECT_SPAWNS_PER_PLAYER : Nat := 1

structure ClientWorld where
  client : GameClient := {}
  connected : Bool := false
  remoteControlled : Finset GameObject := ∅
  /-- the count of the hook -/
  spawnsPerPlayer : PlayerID → Nat := fun _ => 0
  /-- the count of `handleSpawnQueue` -/
  directSpawnsPerPlayer : PlayerID → Nat := fun _ => 0
  needSpawnQueueReset : Bool := false
  /-- how the present character of an entity was given; the source does not keep it -/
  paths : EntityID → Option SpawnPath := fun _ => none

/-- The tables that a removal cleans. -/
structure CleanUp where
  unmarks : Bool
  counts : Bool
  forgets : Bool
deriving DecidableEq

/-- What a visit of the queue finds: whether it is time for an attempt, what the factory makes (zero if
it fails), whether the hooks are resumed for want of a factory, and whether the check for stuck
entities is due. -/
structure QueueVisit where
  due : Bool
  character : GameObject
  resumes : Bool
  stuckCheck : Bool

namespace ClientWorld

variable (w : ClientWorld)

/-! ### The tables -/

def info (id : EntityID) : Option EntityInfo := w.client.registry.getInfo id

def withRegistry (registry : EntityRegistry) : ClientWorld :=
  { w with client := w.client.withRegistry registry }

def withQueue (queue : List FactoryRequest) : ClientWorld :=
  { w with client := { w.client with spawnQueue := queue } }

def markRemoteControlled (character : GameObject) : ClientWorld :=
  { w with remoteControlled := insert character w.remoteControlled }

def unmarkRemoteControlled (character : GameObject) : ClientWorld :=
  { w with remoteControlled := w.remoteControlled.erase character }

def decrementSpawnCount (owner : PlayerID) : ClientWorld :=
  { w with
    spawnsPerPlayer := Function.update w.spawnsPerPlayer owner (w.spawnsPerPlayer owner - 1) }

def countSpawn (owner : PlayerID) : ClientWorld :=
  { w with
    spawnsPerPlayer := Function.update w.spawnsPerPlayer owner (w.spawnsPerPlayer owner + 1) }

def countDirectSpawn (owner : PlayerID) : ClientWorld :=
  { w with
    directSpawnsPerPlayer :=
      Function.update w.directSpawnsPerPlayer owner (w.directSpawnsPerPlayer owner + 1) }

/-- A new connection resumes the hooks, with new counts. -/
def resumeForNetwork : ClientWorld := { w with spawnsPerPlayer := fun _ => 0 }

/-- How a character came to an entity is noted unless it is the same character. -/
def note (path : SpawnPath) (id : EntityID) (character : GameObject) : ClientWorld :=
  { w with
    paths :=
      if w.client.registry.getGameObject id = character then w.paths
      else Function.update w.paths id (some path) }

/-- A character is given for a request, and named. -/
def embody (path : SpawnPath) (req : FactoryRequest) (character : GameObject) : ClientWorld :=
  { (w.note path req.netId character).markRemoteControlled character with
    client :=
      (w.client.withRegistry
        ((w.client.registry.setGameObject req.netId character).updatePosition req.netId
          req.position)).onRemoteCharacterSpawned character req.owner }

/-- Remove an entity, from the registry and from some of the other tables. -/
def retire (cleanUp : CleanUp) (owner : PlayerID) (id : EntityID) : ClientWorld :=
  let object := w.client.registry.getGameObject id
  let unmarked :=
    if cleanUp.unmarks && object ≠ 0 then w.unmarkRemoteControlled object else w
  let counted := if cleanUp.counts then unmarked.decrementSpawnCount owner else unmarked
  { counted with
    client :=
      { w.client with
        registry := w.client.registry.unregister id
        interpolation :=
          if cleanUp.forgets then w.client.interpolation.removeEntity id
          else w.client.interpolation } }

/-- Remove some entities, each with its own owner. -/
def retireAll (cleanUp : CleanUp) (ids : List EntityID) : ClientWorld :=
  ids.foldl (fun w id => w.retire cleanUp (w.client.registry.getOwnerPlayerId id) id) w

/-! ### Packets -/

def handlePlayerLeft (playerId : PlayerID) : ClientWorld :=
  let purged :=
    { w with client := (w.client.removeRemotePlayer playerId).clearSpawnsForOwner playerId }
  (w.client.registry.getPlayerEntities playerId).foldl
    (fun w id => w.retire ⟨true, true, true⟩ playerId id) purged

/-- Only a remote entity counts, and the entity loses its character before it goes. -/
def handleEntityDespawn (entityId : EntityID) : ClientWorld :=
  { w.retire ⟨true, w.client.registry.isRemote entityId, true⟩
      (w.client.registry.getOwnerPlayerId entityId) entityId with
    client := w.client.handleEntityDespawn entityId }

def handleEntityHeartbeat (entityCount : UInt16) (ids : List EntityID) : ClientWorld :=
  w.retireAll ⟨false, true, true⟩
    (w.client.registry.getRemoteEntities.filter fun localId => localId ∉ ids.take entityCount.toNat)

def handleBuildDestroyed (buildingId : EntityID) : ClientWorld :=
  w.retire ⟨false, false, false⟩ (w.client.registry.getOwnerPlayerId buildingId) buildingId

/-- A character of the save is marked when it is linked. -/
def linked (character : GameObject) (entityId : EntityID) (client : GameClient) : ClientWorld :=
  { (w.note .link entityId character).markRemoteControlled character with client := client }

def handleEntitySpawn (pages : CodePages) (reader : PacketReader) (now render : F32) : ClientWorld :=
  let client := w.client.handleEntitySpawn pages reader now render
  match readEntitySpawn reader with
  | none => w
  | some spawn =>
    let introduced := (w.client.noteHostSpawnPoint spawn.spawnPos).introduce spawn.entityId
      spawn.type spawn.ownerId spawn.spawnPos (Quat.decompress spawn.compQuat) now
    let existing := introduced.existingChar spawn.entityId spawn.ownerId
    if spawn.ownerId ≠ w.client.localPlayerId && w.client.ready && existing ≠ 0 then
      w.linked existing spawn.entityId client
    else { w with client := client }

def processDeferredSpawn (ds : DeferredSpawn) (now : F32) : ClientWorld :=
  let client := w.client.processDeferredSpawn ds now
  let introduced := w.client.introduce ds.entityId ds.type ds.ownerId ⟨ds.posX, ds.posY, ds.posZ⟩
    (Quat.decompress ds.compressedQuat) now
  let existing := introduced.findModCharacterBySlot ds.ownerId
  if ds.ownerId ≠ w.client.localPlayerId && existing ≠ 0 && introduced.registry.getNetId existing = 0 then
    w.linked existing ds.entityId client
  else { w with client := client }

def processAll (clock : Nat → F32) : ClientWorld :=
  let processed := w.client.deferredSpawns.zipIdx.foldl
    (fun w entry => w.processDeferredSpawn entry.1 (clock entry.2)) w
  { processed with client := { processed.client with deferredSpawns := [] } }

/-- The client is connected then, and the hooks of a loaded game are resumed. -/
def handleHandshakeAck (ack : MsgHandshakeAck) : ClientWorld :=
  let acknowledged := { w with client := w.client.handleHandshakeAck ack, connected := true }
  if w.client.gameLoaded then acknowledged.resumeForNetwork else acknowledged

def receive (pages : CodePages) (arrival : Arrival) : ClientWorld :=
  match arrival.msg with
  | .handshakeAck ack => w.handleHandshakeAck ack
  | .allPlayersReady => w.processAll arrival.clock
  | .entitySpawn record =>
    w.handleEntitySpawn pages (PacketReader.start record.write) arrival.now arrival.render
  | .playerLeft playerId _ => if w.client.gameLoaded then w.handlePlayerLeft playerId else w
  | .entityDespawn entityId _ => if w.client.gameLoaded then w.handleEntityDespawn entityId else w
  | .entityHeartbeat _ entityCount ids =>
    if w.client.gameLoaded then w.handleEntityHeartbeat entityCount ids else w
  | .buildDestroyed buildingId _ =>
    if w.client.gameLoaded then w.handleBuildDestroyed buildingId else w
  | _ => { w with client := w.client.handlePacket pages arrival }

/-! ### The game -/

/-- A remote entity without a game object gets the character that waits for its owner. -/
def linkLate (entityId : EntityID) : ClientWorld :=
  let client := w.client.linkLate entityId
  match w.info entityId with
  | none => w
  | some info =>
    let modChar := w.client.findModCharacterBySlot info.ownerPlayerId
    if w.client.registry.getGameObject entityId = 0 && modChar ≠ 0
        && w.client.registry.getNetId modChar = 0 then
      w.linked modChar entityId client
    else w

/-- Runs once for a load; a client that is connected resumes its hooks and links what waits. -/
def onGameLoaded (characters : List (Bytes × GameObject)) : ClientWorld :=
  if w.client.gameLoaded then w
  else
    let loaded := { w with client := { w.client.enterGame .GameReady with characters := characters } }
    if w.connected then
      loaded.client.registry.getRemoteEntities.foldl linkLate loaded.resumeForNetwork
    else loaded

def onLoadingGapDetected : ClientWorld := { w with client := w.client.onLoadingGapDetected }

/-- The tick of the game runs while the client is connected and its game has loaded. -/
def ticks : Bool := w.connected && w.client.gameLoaded

/-- A zone is unloaded: its remote entities go, and of the others only their positions. -/
def unloadZone (zone : ZoneCoord) : ClientWorld :=
  let zoneEntities := w.client.registry.entities.toList.filter fun (_, info) => info.zone = zone
  let cleaned := zoneEntities.foldl (fun w (id, info) =>
    let counted := if info.isRemote then w.decrementSpawnCount info.ownerPlayerId else w
    { counted with
      client := { w.client with interpolation := w.client.interpolation.removeEntity id } }) w
  cleaned.withRegistry (cleaned.client.registry.removeEntitiesInZone zone)

/-- An address turns out to be bad. -/
def objectLost (id : EntityID) : ClientWorld :=
  w.withRegistry (w.client.registry.setGameObject id 0)

/-- A character of this player. -/
def registerOwn (character : GameObject) (type : UInt8) : ClientWorld :=
  w.withRegistry (w.client.registry.register character type w.client.localPlayerId)

/-! ### The end of a connection -/

/-- The requests and the remote entities go; the counts stay until the next connection. -/
def setDisconnected : ClientWorld :=
  { w with
    client := w.client.setDisconnected, connected := false, needSpawnQueueReset := true }

/-- Where the display notices that the connection is gone, the characters are unmarked first. -/
def lossNoticed : ClientWorld :=
  (w.client.registry.getRemoteEntities.foldl (fun w id =>
    let object := w.client.registry.getGameObject id
    if object ≠ 0 then w.unmarkRemoteControlled object else w) w).setDisconnected

/-! ### Requests -/

/-- An aligned address in the space of the user. -/
def isCharacter (lowest character : GameObject) : Bool :=
  lowest ≤ character && character < 0x00007FFFFFFFFFFF && character &&& 7 = 0

/-- Another attempt, unless there were too many. -/
def requeue (req : FactoryRequest) (exhausted : ClientWorld → ClientWorld) : ClientWorld :=
  let retried := { req with retryCount := req.retryCount + 1 }
  if retried.retryCount < MAX_SPAWN_RETRIES then w.withQueue (w.client.spawnQueue ++ [retried])
  else exhausted w

/-- The health that came with the announcement. -/
def applyHealth (req : FactoryRequest) : ClientWorld :=
  if req.hasExtendedState then
    w.withRegistry (w.client.registry.updateLimbHealth req.netId req.health)
  else w

/-- A request whose entity has a character is dropped, and counted. -/
def discards : Bool :=
  match w.client.spawnQueue with
  | [] => false
  | req :: _ => w.client.registry.getGameObject req.netId ≠ 0

/-- The character of the save that `handleSpawnQueue` links, or zero. -/
def deferredLink (req : FactoryRequest) : GameObject :=
  let existing := w.client.findModCharacterBySlot req.owner
  let linkedId := w.client.registry.getNetId existing
  if existing ≠ 0 && (linkedId = 0 || linkedId = req.netId) then existing else 0

/-- The next request: beyond the cap it is dropped, and otherwise the character of the save is linked
or what the factory makes is. -/
def spawnNext (character : GameObject) : ClientWorld :=
  match w.client.spawnQueue with
  | [] => w
  | req :: rest =>
    let popped := w.withQueue rest
    if w.client.registry.getGameObject req.netId ≠ 0 then popped.countDirectSpawn req.owner
    else if MAX_DIRECT_SPAWNS_PER_PLAYER ≤ w.directSpawnsPerPlayer req.owner then popped
    else if w.deferredLink req ≠ 0 then
      ((popped.embody .direct req (w.deferredLink req)).applyHealth req).countDirectSpawn req.owner
    else if isCharacter 0x10001 character then
      ((popped.embody .direct req character).applyHealth req).countDirectSpawn req.owner
    else popped.requeue req fun w => w.retire ⟨false, true, true⟩ req.owner req.netId

/-- Remote, on its way, without a character and without a request in the queue. -/
def stuck (id : EntityID) : Bool :=
  match w.info id with
  | none => false
  | some info => info.state = .Spawning && info.gameObject = 0 && w.client.spawnQueue = []

/-- The check for stuck entities. -/
def cleanUpStuck : ClientWorld :=
  w.client.registry.getRemoteEntities.foldl (fun w id =>
    if w.stuck id then
      w.retire ⟨false, true, true⟩ (w.client.registry.getOwnerPlayerId id) id
    else w) w

/-- The counts of an earlier connection go first; a dropped request ends the visit. -/
def handleSpawnQueue (visit : QueueVisit) : ClientWorld :=
  if w.ticks then
    let ready :=
      if w.needSpawnQueueReset then
        { w with needSpawnQueueReset := false, directSpawnsPerPlayer := fun _ => 0 }
      else w
    let spawned :=
      if visit.due then ready.spawnNext visit.character
      else if visit.resumes then ready.resumeForNetwork
      else ready
    if visit.stuckCheck && !(visit.due && ready.discards) then spawned.cleanUpStuck else spawned
  else w

/-- The other pipeline makes the character first, and then looks for its entity. -/
def stageProcessSpawns (character : GameObject) : ClientWorld :=
  if w.ticks then
    match w.client.spawnQueue with
    | [] => w
    | req :: rest =>
      let popped := w.withQueue rest
      if character ≠ 0 then
        if (w.info req.netId).isNone then popped.decrementSpawnCount req.owner
        else popped.embody .staged req character
      else popped.requeue req fun w => w.decrementSpawnCount req.owner
  else w

/-- A character that the game has just created is taken over for a request. -/
def onCharacterCreate (character : GameObject) (succeeds : Bool) : ClientWorld :=
  if w.ticks then
    match w.client.spawnQueue with
    | [] => w
    | req :: rest =>
      let popped := w.withQueue rest
      if w.spawnsPerPlayer req.owner < MAX_SPAWNS_PER_PLAYER then
        if isCharacter 0x10000 character && succeeds then
          (popped.embody .hijack req character).countSpawn req.owner
        else popped.requeue req id
      else popped.withQueue (rest ++ [req])
  else w

/-! ### The machine -/

inductive Event where
  | receive (arrival : Arrival)
  | gameLoaded (characters : List (Bytes × GameObject))
  | loadingGap
  | zoneUnloaded (zone : ZoneCoord)
  | objectLost (id : EntityID)
  | registerOwn (character : GameObject) (type : UInt8)
  /-- the user leaves, or connects elsewhere -/
  | disconnect
  | lossNoticed
  /-- a command of a connected client in its game -/
  | resumeForNetwork
  | handleSpawnQueue (visit : QueueVisit)
  | stageProcessSpawns (character : GameObject)
  | characterCreate (character : GameObject) (succeeds : Bool)

def step (pages : CodePages) (w : ClientWorld) (event : Event) : ClientWorld :=
  match event with
  | .receive arrival => w.receive pages arrival
  | .gameLoaded characters => w.onGameLoaded characters
  | .loadingGap => w.onLoadingGapDetected
  | .zoneUnloaded zone => if w.ticks then w.unloadZone zone else w
  | .objectLost id => if w.ticks then w.objectLost id else w
  | .registerOwn character type => if w.ticks then w.registerOwn character type else w
  | .disconnect => w.setDisconnected
  | .lossNoticed => if w.connected then w.lossNoticed else w
  | .resumeForNetwork => if w.ticks then w.resumeForNetwork else w
  | .handleSpawnQueue visit => w.handleSpawnQueue visit
  | .stageProcessSpawns character => w.stageProcessSpawns character
  | .characterCreate character succeeds => w.onCharacterCreate character succeeds

/-- The machine of a client; it has no outputs. -/
def machine (pages : CodePages) : Machine ClientWorld Event Empty where
  step w event := (w.step pages event, [])

end ClientWorld

end KenshiMP
