/-
**Entities, buildings, inventory, squads and factions.**

The handlers that create and remove entities (`handleEntitySpawnReq`, `handleBuildRequest`,
`handleEntityDespawnReq`, `handleBuildDismantle`), those that update one, and those that only pass
a message on. A new entity gets the next identifier and replaces whatever is stored under it.
-/

import KenshiMP.Server.Combat

namespace KenshiMP

open Wire (Bytes Codec)
open Wire.Codec
open Assoc

namespace GameServer

variable (server : GameServer) (player : ConnectedPlayer) (reader : PacketReader)

/-! ### Spawning -/

/-- The fixed part of a spawn request: client entity id, type, owner id, template, position,
rotation, faction. -/
def spawnRequest : Codec (UInt32 × UInt8 × UInt32 × UInt32 × (F32 × F32 × F32) × UInt32 × UInt32) :=
  u32.prod (u8.prod (u32.prod (u32.prod ((f32.prod (f32.prod f32)).prod (u32.prod u32)))))

/-- The optional name: a length of 1 to 255 and that many bytes, if they are there. -/
def readTemplateName (reader : PacketReader) : Bytes × PacketReader :=
  match reader.readU16 with
  | none => ([], reader)
  | some (nameLen, rest) =>
    if 0 < nameLen && nameLen ≤ 255 then
      match rest.readBytes nameLen.toNat with
      | none => ([], rest)
      | some (name, rest) => (name, rest)
    else ([], rest)

/-- The optional state: a flag of one, seven healths and the alive byte. -/
def readExtended (reader : PacketReader) : Option ((Fin 7 → F32) × Bool) :=
  match reader.readU8 with
  | none => none
  | some (extFlag, rest) =>
    if extFlag = 1 then
      (rest.readRaw ((f32.array 7).prod u8)).map fun (extended, _) =>
        (extended.1, extended.2 ≠ 0)
    else none

/-- The entity of a spawn request. -/
def spawnedEntity (serverId : EntityID) (owner : PlayerID) (type : UInt8) (templateId : UInt32)
    (position : Vec3) (compQuat factionId : UInt32) (templateName : Bytes)
    (extended : Option ((Fin 7 → F32) × Bool)) : ServerEntity :=
  let entity : ServerEntity :=
    { id := serverId, type := type, owner := owner, position := position,
      rotation := Quat.decompress compQuat, templateId := templateId, factionId := factionId,
      templateName := templateName, zone := ZoneCoord.fromWorldPos position }
  match extended with
  | none => entity
  | some (health, alive) => { entity with health := health, alive := alive }

/-- What a spawn request asks for: everything but the identifier and the owner. -/
structure SpawnRequest where
  type : UInt8
  templateId : UInt32
  position : Vec3
  compQuat : UInt32
  factionId : UInt32
  templateName : Bytes
  extended : Option ((Fin 7 → F32) × Bool)

/-- A spawn request in a packet. -/
def readSpawnRequest (reader : PacketReader) : Option SpawnRequest :=
  match reader.readRaw spawnRequest with
  | none => none
  | some ((_, type, _, templateId, (px, py, pz), compQuat, factionId), rest) =>
    let (templateName, rest) := readTemplateName rest
    some ⟨type, templateId, ⟨px, py, pz⟩, compQuat, factionId, templateName, readExtended rest⟩

namespace SpawnRequest

variable (request : SpawnRequest)

/-- The entity that is stored for a request. -/
def entity (serverId : EntityID) (owner : PlayerID) : ServerEntity :=
  spawnedEntity serverId owner request.type request.templateId request.position request.compQuat
    request.factionId request.templateName request.extended

/-- The announcement of a request. -/
def record (serverId : EntityID) (owner : PlayerID) : SpawnRecord where
  entityId := serverId
  type := request.type
  ownerId := owner
  templateId := request.templateId
  position := request.position
  compressedQuat := request.compQuat
  factionId := request.factionId
  templateName := request.templateName
  health := (request.extended.map Prod.fst).getD fun _ => lit 100 1
  alive := (request.extended.map Prod.snd).getD true

end SpawnRequest

/-- Store a new entity under the next identifier. -/
def addEntity (entity : ServerEntity) : GameServer :=
  { server with
    entities := AList.insert server.nextEntityId entity server.entities
    nextEntityId := server.nextEntityId + 1 }

/-- A player still in the zone of the origin is placed where their entity is. -/
def placePlayer (position : Vec3) (player : ConnectedPlayer) : ConnectedPlayer :=
  if player.zone = ⟨0, 0⟩ then
    { player with position := position, zone := ZoneCoord.fromWorldPos position }
  else player

/-- The type is a known one, and there is room for one more entity. -/
def acceptsSpawn (request : SpawnRequest) : Bool :=
  request.type ≤ EntityType.Turret && server.entities.size < KMP_MAX_SYNC_ENTITIES

def handleEntitySpawnReq (key : PlayerID) : Outcome :=
  match readSpawnRequest reader with
  | none => (server, [])
  | some request =>
    if !server.acceptsSpawn request then (server, [])
    else
      let serverId := server.nextEntityId
      ((server.addEntity (request.entity serverId player.id)).updatePlayer key (placePlayer request.position),
        broadcast KMP_CHANNEL_RELIABLE_ORDERED (.entitySpawn (request.record serverId player.id)))

/-- The reason byte is optional; `junk` is what the unset variable holds. -/
def handleEntityDespawnReq (junk : UInt8) : Outcome :=
  match reader.readU32 with
  | none => (server, [])
  | some (entityId, rest) =>
    let reason := (rest.readU8.map Prod.fst).getD junk
    if !server.owns player entityId then (server, [])
    else
      ({ server with entities := AList.erase entityId server.entities },
        broadcast KMP_CHANNEL_RELIABLE_ORDERED (.entityDespawn entityId reason))

def handleEquipmentUpdate : Outcome :=
  server.onMessage reader MsgEquipmentUpdate.codec fun msg =>
    if !server.owns player msg.entityId then (server, [])
    else if 14 ≤ msg.slot then (server, [])
    else
      (server.updateEntity msg.entityId fun entity =>
        { entity with equipment := store entity.equipment msg.slot.toNat msg.itemTemplateId },
        server.broadcastExcept player.id KMP_CHANNEL_RELIABLE_UNORDERED (.equipmentUpdate msg))

/-! ### Announcing stored entities -/

/-- The announcement of a stored entity; its name is cut at 255 bytes. -/
def entityRecord (entity : ServerEntity) : SpawnRecord where
  entityId := entity.id
  type := entity.type
  ownerId := entity.owner
  templateId := entity.templateId
  position := entity.position
  compressedQuat := entity.rotation.compress
  factionId := entity.factionId
  templateName := entity.templateName.take 255
  health := entity.health
  alive := entity.alive

/-- One entity's announcement, to one slot. -/
def announce (peer : Peer) (entity : ServerEntity) : Call :=
  .send peer ⟨KMP_CHANNEL_RELIABLE_ORDERED, true, .entitySpawn (entityRecord entity)⟩

/-- The equipment of an entity, one message for each slot in use. -/
def announceEquipment (peer : Peer) (entity : ServerEntity) : List Call :=
  (List.finRange 14).filterMap fun slot =>
    if entity.equipment slot = 0 then none
    else some (.send peer ⟨KMP_CHANNEL_RELIABLE_UNORDERED, true,
      .equipmentUpdate ⟨entity.id, UInt8.ofNat slot.val, entity.equipment slot⟩⟩)

/-- The zones of a request are within 500 of the origin. -/
def zoneInBounds (zone : ZoneCoord) : Bool :=
  -500 ≤ zone.x && zone.x ≤ 500 && -500 ≤ zone.y && zone.y ≤ 500

def handleZoneRequest : Outcome :=
  server.onMessage reader (i32.prod i32) fun (zoneX, zoneY) =>
    let requestedZone : ZoneCoord := ⟨zoneX, zoneY⟩
    if !zoneInBounds requestedZone then (server, [])
    else
      (server, server.entities.toList.filterMap fun (_, entity) =>
        if entity.owner = player.id then none
        else if requestedZone.isAdjacent entity.zone || entity.zone = requestedZone then
          some (announce player.peer entity)
        else none)

/-- The entities a snapshot leaves out: of vanished owners, or at an unusable place. -/
def skippedBySnapshot (entity : ServerEntity) : Bool :=
  server.isOrphan entity || badCoords entity.position.x entity.position.y entity.position.z

def sendWorldSnapshot : List Call :=
  server.entities.toList.flatMap fun (_, entity) =>
    if server.skippedBySnapshot entity then []
    else announce player.peer entity :: announceEquipment player.peer entity

/-! ### Buildings -/

/-- The building of a request. -/
def builtEntity (buildId : EntityID) (owner : PlayerID) (msg : MsgBuildRequest) : ServerEntity :=
  { id := buildId
    type := EntityType.Building
    owner := owner
    position := ⟨msg.posX, msg.posY, msg.posZ⟩
    rotation := Quat.decompress msg.compressedQuat
    zone := ZoneCoord.fromWorldPos ⟨msg.posX, msg.posY, msg.posZ⟩
    templateId := msg.templateId
    alive := true }

def MAX_BUILD_DISTANCE : F32 := lit 500 1

/-- The place is usable and within 500 of where the player is known to be. -/
def acceptsBuild (player : ConnectedPlayer) (msg : MsgBuildRequest) : Bool :=
  !badCoords msg.posX msg.posY msg.posZ
    && !(MAX_BUILD_DISTANCE.mul MAX_BUILD_DISTANCE).lt
      (Vec3.distSq ⟨msg.posX, msg.posY, msg.posZ⟩ player.position)

def handleBuildRequest : Outcome :=
  server.onMessage reader MsgBuildRequest.codec fun msg =>
    if !acceptsBuild player msg then (server, [])
    else
      let buildId := server.nextEntityId
      (server.addEntity (builtEntity buildId player.id msg),
        server.broadcastExcept player.id KMP_CHANNEL_RELIABLE_ORDERED
          (.buildPlaced ⟨buildId, msg.templateId, ⟨msg.posX, msg.posY, msg.posZ⟩,
            msg.compressedQuat, player.id⟩))

/-- The entity exists, and the player owns it or is the host. -/
def ownsOrHosts (id : EntityID) : Bool :=
  match server.entities.lookup id with
  | none => false
  | some entity => entity.owner = player.id || player.id = server.hostPlayerId

def handleBuildDismantle : Outcome :=
  server.onMessage reader MsgBuildDismantle.codec fun msg =>
    if !server.ownsOrHosts player msg.buildingId then (server, [])
    else
      ({ server with entities := AList.erase msg.buildingId server.entities },
        server.broadcastExcept player.id KMP_CHANNEL_RELIABLE_ORDERED
          (.buildDestroyed msg.buildingId 2))

/-- The progress after a repair. -/
def repaired (amount progress : F32) : F32 := clamp (progress.add amount) (lit 0 1) (lit 1 1)

def handleBuildRepair : Outcome :=
  server.onMessage reader MsgBuildRepair.codec fun msg =>
    match server.entities.lookup msg.buildingId with
    | none => (server, [])
    | some building =>
      if building.owner ≠ player.id ∧ player.id ≠ server.hostPlayerId then (server, [])
      else if msg.amount.le (lit 0 1) || msg.amount.isNaN || (lit 1 1).lt msg.amount then
        (server, [])
      else
        (server.updateEntity msg.buildingId fun entity =>
          { entity with buildProgress := repaired msg.amount entity.buildProgress },
          server.broadcastExcept player.id KMP_CHANNEL_RELIABLE_UNORDERED
            (.buildProgress msg.buildingId (repaired msg.amount building.buildProgress)))

def handleDoorInteract : Outcome :=
  server.onMessage reader MsgDoorInteract.codec fun msg =>
    if !server.owns player msg.actorEntityId then (server, [])
    else if (server.entities.lookup msg.entityId).isNone then (server, [])
    else if 3 < msg.action then (server, [])
    else (server, broadcast KMP_CHANNEL_RELIABLE_ORDERED (.doorState msg.entityId msg.action))

/-! ### Inventory and trade -/

def handleItemPickup : Outcome :=
  server.onMessage reader MsgItemPickup.codec fun msg =>
    if !server.owns player msg.entityId then (server, [])
    else
      (server, server.broadcastExcept player.id KMP_CHANNEL_RELIABLE_UNORDERED
        (.inventoryUpdate ⟨msg.entityId, 0, msg.itemTemplateId, msg.quantity⟩))

def handleItemDrop : Outcome :=
  server.onMessage reader MsgItemDrop.codec fun msg =>
    if !server.owns player msg.entityId then (server, [])
    else
      (server, server.broadcastExcept player.id KMP_CHANNEL_RELIABLE_UNORDERED
        (.inventoryUpdate ⟨msg.entityId, 1, msg.itemTemplateId, 1⟩))

/-- The answer to a trade. -/
def tradeResult (msg : MsgTradeRequest) (success : Bool) : S2C :=
  .tradeResult ⟨msg.buyerEntityId, msg.itemTemplateId, msg.quantity, success⟩

def handleTradeRequest : Outcome :=
  server.onMessage reader MsgTradeRequest.codec fun msg =>
    if !server.owns player msg.buyerEntityId then (server, [])
    else if msg.quantity ≤ 0 ∨ 10000 < msg.quantity ∨ msg.price < 0 then
      (server, server.sendTo player.id KMP_CHANNEL_RELIABLE_ORDERED (tradeResult msg false))
    else if msg.sellerEntityId ≠ 0 ∧ (server.entities.lookup msg.sellerEntityId).isNone then
      (server, server.sendTo player.id KMP_CHANNEL_RELIABLE_ORDERED (tradeResult msg false))
    else (server, broadcast KMP_CHANNEL_RELIABLE_ORDERED (tradeResult msg true))

def handleItemTransfer : Outcome :=
  server.onMessage reader MsgItemTransfer.codec fun msg =>
    if !server.owns player msg.sourceEntityId then (server, [])
    else if (server.entities.lookup msg.destEntityId).isNone then (server, [])
    else if msg.quantity ≤ 0 ∨ 10000 < msg.quantity then (server, [])
    else
      (server,
        server.broadcastExcept player.id KMP_CHANNEL_RELIABLE_UNORDERED
            (.inventoryUpdate ⟨msg.sourceEntityId, 1, msg.itemTemplateId, msg.quantity⟩)
          ++ server.broadcastExcept player.id KMP_CHANNEL_RELIABLE_UNORDERED
            (.inventoryUpdate ⟨msg.destEntityId, 0, msg.itemTemplateId, msg.quantity⟩))

/-! ### Squads and factions -/

def handleSquadCreate : Outcome :=
  match reader.readU32 with
  | none => (server, [])
  | some (creatorEntityId, rest) =>
    match rest.readString with
    | none => (server, [])
    | some (squadName, _) =>
      if !server.owns player creatorEntityId then (server, [])
      else
        ({ server with nextSquadId := server.nextSquadId + 1 },
          broadcast KMP_CHANNEL_RELIABLE_ORDERED
            (.squadCreated creatorEntityId server.nextSquadId squadName))

def handleSquadAddMember : Outcome :=
  server.onMessage reader MsgSquadMemberUpdate.codec fun msg =>
    if !server.owns player msg.memberEntityId then (server, [])
    else
      (server, server.broadcastExcept player.id KMP_CHANNEL_RELIABLE_ORDERED
        (.squadMemberUpdate msg))

def handleFactionRelation : Outcome :=
  server.onMessage reader MsgFactionRelation.codec fun msg =>
    if msg.relation.lt (lit (-100) 1) || (lit 100 1).lt msg.relation then (server, [])
    else if msg.causerEntityId ≠ 0 && !server.owns player msg.causerEntityId then (server, [])
    else (server, broadcast KMP_CHANNEL_RELIABLE_ORDERED (.factionRelation msg))

end GameServer

end KenshiMP
