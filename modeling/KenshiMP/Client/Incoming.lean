/-
**What a client does with the packets of the server.**

`handlePacket` is the dispatch: a few messages are handled in any case, an announcement is handled or
queued, and whatever else is about the world is dropped until the game has loaded. What is written
here is the registry, the interpolation and the queues; the memory of the game, the display and the
log are left out, and with them the messages that only reach those.

`onGameLoaded` runs once for a loaded game; a client that is connected by then links the characters
that wait for the remote entities it already has.
-/

import KenshiMP.Client.Replication
import KenshiMP.SpawnCodec

namespace KenshiMP

open Wire (Bytes)
open Assoc

def Interpolation.removeEntity (interp : Interpolation) (entityId : EntityID) : Interpolation :=
  { interp with entities := AList.erase entityId interp.entities }

def BodyPart.Count : UInt8 := 7

/-- A packet, with the times the handlers read: when it is handled, when the interpolation is read,
and when each entry of the queue is processed. -/
structure Arrival where
  msg : S2C
  now : F32
  render : F32
  clock : Nat → F32

namespace GameClient

variable (client : GameClient)

/-! ### Entities that go -/

/-- The entities are forgotten, and with them their positions. -/
def forget (ids : List EntityID) : GameClient :=
  { client with
    registry := client.registry.unregisterAll ids
    interpolation := ids.foldl Interpolation.removeEntity client.interpolation }

def handleEntityDespawn (entityId : EntityID) : GameClient :=
  { client with
    registry := (client.registry.setGameObject entityId 0).unregister entityId
    interpolation := client.interpolation.removeEntity entityId }

/-- A building that is gone keeps its positions. -/
def handleBuildDestroyed (buildingId : EntityID) : GameClient :=
  { client with registry := client.registry.unregister buildingId }

/-- What the factory has been asked for is asked for no more. -/
def clearSpawnsForOwner (owner : PlayerID) : GameClient :=
  { client with spawnQueue := client.spawnQueue.filter fun req => req.owner ≠ owner }

def removeRemotePlayer (playerId : PlayerID) : GameClient :=
  { client with remotePlayers := AList.erase playerId client.remotePlayers }

def handlePlayerLeft (playerId : PlayerID) : GameClient :=
  ((client.removeRemotePlayer playerId).clearSpawnsForOwner playerId).forget
    (client.registry.getPlayerEntities playerId)

def handleEntityHeartbeat (entityCount : UInt16) (ids : List EntityID) : GameClient :=
  client.forget
    (client.registry.getRemoteEntities.filter fun localId => localId ∉ ids.take entityCount.toNat)

/-! ### Entities that come -/

def handleBuildPlaced (msg : MsgBuildPlaced) : GameClient :=
  { client with
    registry := client.registry.registerRemote msg.entityId EntityType.Building msg.builderId
      msg.position }

/-! ### Positions -/

def queueSnapshot (pos : CharacterPosition) (sourcePlayer : PlayerID) (now : F32) : GameClient :=
  { client with
    pendingSnapshots := AList.insert pos.entityId
      ((client.pendingSnapshots.lookup pos.entityId).getD [] ++ [⟨pos, sourcePlayer, now⟩])
      client.pendingSnapshots }

/-- One record of a position packet. -/
def handlePosition (sourcePlayer : PlayerID) (now : F32) (client : GameClient)
    (pos : CharacterPosition) : GameClient :=
  let position : Vec3 := ⟨pos.posX, pos.posY, pos.posZ⟩
  if !position.isFinite then client
  else
    match validateInboundSnapshot pos sourcePlayer client.localPlayerId client.registry with
    | .ApplyRemote =>
      { client with
        interpolation := client.interpolation.addSnapshot pos.entityId now position
          (Quat.decompress pos.compressedQuat) }
    | .QueuePendingSpawn => client.queueSnapshot pos sourcePlayer now
    | _ => client

def handlePositionUpdate (sourcePlayer : PlayerID) (count : UInt8)
    (records : List CharacterPosition) (now : F32) : GameClient :=
  (records.take count.toNat).foldl (handlePosition sourcePlayer now) client

/-- A character is on its way for a second. -/
def handleMoveCommand (msg : MsgMoveCommand) (now : F32) : GameClient :=
  { client with
    interpolation := client.interpolation.addSnapshot msg.entityId (now.add (lit 1 1))
      ⟨msg.targetX, msg.targetY, msg.targetZ⟩ {} }

/-! ### Health -/

def withRegistry (registry : EntityRegistry) : GameClient := { client with registry := registry }

/-- One limb of an entity. -/
def setLimb (entityId : EntityID) (part : Fin 7) (health : F32) : GameClient :=
  client.withRegistry
    (client.registry.update entityId fun info =>
      { info with limbs := Function.update info.limbs part health })

/-- A hit counts for a character that is there. -/
def handleCombatHit (msg : MsgCombatHit) : GameClient :=
  if part : msg.bodyPart.toNat < 7 then
    if client.registry.getGameObject msg.targetId = 0 then client
    else client.setLimb msg.targetId ⟨msg.bodyPart.toNat, part⟩ msg.resultHealth
  else client

/-- So does a death. -/
def handleCombatDeath (msg : MsgCombatDeath) : GameClient :=
  if client.registry.getGameObject msg.entityId = 0 then client
  else client.withRegistry (client.registry.updateLimbHealth msg.entityId fun _ => lit (-100) 1)

/-- A knockout counts for every entity. -/
def handleCombatKO (msg : MsgCombatKO) : GameClient :=
  if BodyPart.Count ≤ msg.bodyPart then client
  else client.setLimb msg.entityId BodyPart.Chest msg.resultHealth

def handleLimbHealth (msg : MsgLimbHealth) : GameClient :=
  client.withRegistry (client.registry.updateLimbHealth msg.entityId msg.health)

def handleStatusEffect (msg : MsgStatusEffect) : GameClient :=
  client.withRegistry
    (RegistryOp.apply client.registry
      (.updateStatusEffect msg.entityId msg.effectType (msg.active ≠ 0)))

/-! ### The dispatch -/

/-- The messages about the world, once it has loaded. -/
def handleWorld (arrival : Arrival) : GameClient :=
  match arrival.msg with
  | .playerLeft playerId _ => client.handlePlayerLeft playerId
  | .entityDespawn entityId _ => client.handleEntityDespawn entityId
  | .positionUpdate sourcePlayer count records =>
    client.handlePositionUpdate sourcePlayer count records arrival.now
  | .moveCommand msg => client.handleMoveCommand msg arrival.now
  | .combatHit msg => client.handleCombatHit msg
  | .combatDeath msg => client.handleCombatDeath msg
  | .combatKO msg => client.handleCombatKO msg
  | .entityHeartbeat _ entityCount ids => client.handleEntityHeartbeat entityCount ids
  | .buildPlaced msg => client.handleBuildPlaced msg
  | .limbHealth msg => client.handleLimbHealth msg
  | .statusEffect msg => client.handleStatusEffect msg
  | .buildDestroyed buildingId _ => client.handleBuildDestroyed buildingId
  | _ => client

def handleHandshakeAck (ack : MsgHandshakeAck) : GameClient :=
  { client with localPlayerId := ack.playerId, clientPhase := .Connected }

/-- The name of another player; the packet has room for 31 bytes and the zero behind them. -/
def handlePlayerJoined (playerId : PlayerID) (playerName : Bytes) : GameClient :=
  if playerId = client.localPlayerId then client
  else
    { client with
      remotePlayers := AList.insert playerId
        ((playerName.take KMP_MAX_NAME_LENGTH).takeWhile (· ≠ 0)) client.remotePlayers }

/-- Only the names of the players change. -/
theorem handlePlayerJoined_eq (playerId : PlayerID) (playerName : Bytes) :
    ∃ names, client.handlePlayerJoined playerId playerName = { client with remotePlayers := names } := by
  unfold handlePlayerJoined
  split_ifs
  · exact ⟨client.remotePlayers, rfl⟩
  · exact ⟨_, rfl⟩

def handleHandshakeReject : GameClient :=
  if client.gameLoaded then { client with clientPhase := .GameReady } else client

/-- The announcement is read from the bytes of the server. -/
def handlePacket (pages : CodePages) (client : GameClient) (arrival : Arrival) : GameClient :=
  match arrival.msg with
  | .handshakeAck ack => client.handleHandshakeAck ack
  | .handshakeReject _ _ => client.handleHandshakeReject
  | .playerJoined playerId playerName => client.handlePlayerJoined playerId playerName
  | .allPlayersReady => client.processAll arrival.clock
  | .entitySpawn record =>
    client.handleEntitySpawn pages (PacketReader.start record.write) arrival.now arrival.render
  | _ => if client.gameLoaded then client.handleWorld arrival else client

/-! ### The game -/

/-- A remote entity without a game object gets the character that waits for its owner. -/
def linkLate (client : GameClient) (entityId : EntityID) : GameClient :=
  if client.registry.getGameObject entityId ≠ 0 then client
  else
    match client.registry.getInfo entityId with
    | none => client
    | some info =>
      let modChar := client.findModCharacterBySlot info.ownerPlayerId
      if modChar ≠ 0 && client.registry.getNetId modChar = 0 then
        (client.withRegistry
          ((client.registry.setGameObject entityId modChar).updatePosition entityId
            info.lastPosition)).onRemoteCharacterSpawned modChar info.ownerPlayerId
      else client

/-- The world is there, with its characters. -/
def onGameLoaded (connected : Bool) (characters : List (Bytes × GameObject)) : GameClient :=
  if client.gameLoaded then client
  else
    let loaded := { client.enterGame .GameReady with characters := characters }
    if connected then loaded.registry.getRemoteEntities.foldl linkLate loaded else loaded

end GameClient

/-- A client that gets one packet after the other. -/
def GameClient.machine (pages : CodePages) : Machine GameClient Arrival Empty where
  step client arrival := (client.handlePacket pages arrival, [])

end KenshiMP
