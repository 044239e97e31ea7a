/-
**Dispatch of packets, and the periodic work.**

`handlePacket` checks the channel and hands the packet to its handler. `updateBegin` and
`updateEnd` are the update of the server before and after it has handled the network events of the
tick: positions every tick, time and heartbeat every five seconds, orphans every thirty.
-/

import KenshiMP.Server.Session

namespace KenshiMP

open Wire (Bytes)
open Wire.Codec
open Assoc

/-- What a packet's handling takes from outside the server: the combat draws, the content of an
unset byte, whether the handshake packets can be created. -/
structure PacketEnv where
  dice : Dice := ⟨1, lit 1 1, lit 1 1⟩
  junk : UInt8 := 0
  created : PacketCreation := {}

namespace GameServer

variable (server : GameServer)

/-! ### Dispatch -/

/-- Positions come on the unreliable channel, and of the rest only keepalives may. -/
def wrongChannel (type : Option MessageType) (channel : Nat) : Bool :=
  if type = some .C2S_PositionUpdate then channel ≠ KMP_CHANNEL_UNRELIABLE_SEQ
  else channel = KMP_CHANNEL_UNRELIABLE_SEQ && type ≠ some .C2S_Keepalive

/-- The handlers that need a player. -/
def handlePlayerMessage (type : MessageType) (peer : Peer) (key : PlayerID)
    (player : ConnectedPlayer) (reader : PacketReader) (env : PacketEnv) : Outcome :=
  match type with
  | .C2S_PositionUpdate => server.handlePositionUpdate player reader key
  | .C2S_MoveCommand => server.handleMoveCommand player reader
  | .C2S_AttackIntent => server.handleAttackIntent player reader env.dice
  | .C2S_ChatMessage => server.handleChatMessage player reader
  | .C2S_BuildRequest => server.handleBuildRequest player reader
  | .C2S_EntitySpawnReq => server.handleEntitySpawnReq player reader key
  | .C2S_EntityDespawnReq => server.handleEntityDespawnReq player reader env.junk
  | .C2S_EquipmentUpdate => server.handleEquipmentUpdate player reader
  | .C2S_ZoneRequest => server.handleZoneRequest player reader
  | .C2S_ItemPickup => server.handleItemPickup player reader
  | .C2S_ItemDrop => server.handleItemDrop player reader
  | .C2S_TradeRequest => server.handleTradeRequest player reader
  | .C2S_SquadCreate => server.handleSquadCreate player reader
  | .C2S_SquadAddMember => server.handleSquadAddMember player reader
  | .C2S_FactionRelation => server.handleFactionRelation player reader
  | .C2S_PlayerReady => server.handlePlayerReady key player
  | .C2S_BuildDismantle => server.handleBuildDismantle player reader
  | .C2S_BuildRepair => server.handleBuildRepair player reader
  | .C2S_CombatStance => server.handleCombatStance player reader
  | .C2S_CombatKO => server.handleCombatKO player reader
  | .C2S_CombatDeath => server.handleCombatDeath player reader
  | .C2S_LimbHealth => server.handleLimbHealth player reader
  | .C2S_StatusEffect => server.handleStatusEffect player reader
  | .C2S_ItemTransfer => server.handleItemTransfer player reader
  | .C2S_DoorInteract => server.handleDoorInteract player reader
  | .C2S_AdminCommand => server.handleAdminCommand player reader
  | .C2S_LobbyReady => server.handleLobbyReady key player
  | .C2S_Keepalive => server.handleKeepalive key peer
  | .C2S_PipelineSnapshot => server.forward player reader .pipelineSnapshot
  | .C2S_PipelineEvent => server.forward player reader .pipelineEvent
  | .C2S_Handshake | .C2S_Disconnect | .C2S_ServerQuery => (server, [])

/-- The handler of a message type; all but three types need a player behind the slot. -/
def dispatch (type : MessageType) (peer : Peer) (reader : PacketReader) (env : PacketEnv) : Outcome :=
  match type with
  | .C2S_Handshake => server.handleHandshake peer reader env.created
  | .C2S_Disconnect => (server, [.disconnect peer])
  | .C2S_ServerQuery => server.handleServerQuery peer reader
  | _ =>
    match server.getPlayer peer with
    | none => (server, [])
    | some (key, player) => server.handlePlayerMessage type peer key player reader env

/-- The type of a packet and what follows its header; none when the packet is dropped. -/
def openPacket (data : Bytes) (channel : Nat) : Option (MessageType × PacketReader) :=
  match (PacketReader.start data).readRaw PacketHeader.codec with
  | none => none
  | some (header, reader) =>
    if wrongChannel (MessageType.ofCode header.type) channel then none
    else (MessageType.ofCode header.type).map fun type => (type, reader)

def handlePacket (peer : Peer) (data : Bytes) (channel : Nat) (env : PacketEnv) : Outcome :=
  match openPacket data channel with
  | none => (server, [])
  | some (type, reader) => server.dispatch type peer reader env

/-! ### Periodic broadcasts -/

/-- The record of an entity in a position broadcast. -/
def positionRecord (entity : ServerEntity) : CharacterPosition where
  entityId := entity.id
  generation := entity.generation
  posX := entity.position.x
  posY := entity.position.y
  posZ := entity.position.z
  compressedQuat := entity.rotation.compress
  animStateId := entity.animState
  moveSpeed := entity.moveSpeed
  flags := entity.flags

/-- The entities a player does not own, in walking order. -/
def notOwnedBy (playerId : PlayerID) : List ServerEntity :=
  (server.entities.toList.map Prod.snd).filter fun entity => entity.owner ≠ playerId

/-- The position packet of a player: at most 255 records, source player zero. -/
def positionPacket (playerId : PlayerID) : Option Sent :=
  let nearby := server.notOwnedBy playerId
  if nearby = [] then none
  else
    let sendCount := min nearby.length 255
    some ⟨KMP_CHANNEL_UNRELIABLE_SEQ, false,
      .positionUpdate 0 (UInt8.ofNat sendCount) ((nearby.take sendCount).map positionRecord)⟩

def broadcastPositions : List Call :=
  server.players.toList.filterMap fun (playerId, player) =>
    (server.positionPacket playerId).map fun packet => .send player.peer packet

/-- An active entity that is a player's own, near the player, or nobody's. -/
def isRelevant (playerId : PlayerID) (player : ConnectedPlayer) (entity : ServerEntity) : Bool :=
  entity.state = .Active
    && (entity.owner = playerId || entity.zone.isAdjacent player.zone || entity.owner = 0)

/-- The identifiers in a player's heartbeat. -/
def relevantIds (playerId : PlayerID) (player : ConnectedPlayer) : List EntityID :=
  (server.entities.toList.filter fun (_, entity) => isRelevant playerId player entity).map Prod.fst

/-- The heartbeat of a player; the count in front of the list has 16 bits. -/
def heartbeat (playerId : PlayerID) (player : ConnectedPlayer) : S2C :=
  let ids := server.relevantIds playerId player
  .entityHeartbeat server.serverTick (UInt16.ofNat ids.length) ids

def broadcastEntityHeartbeat : List Call :=
  server.players.toList.flatMap fun (playerId, player) =>
    server.sendTo playerId KMP_CHANNEL_RELIABLE_ORDERED (server.heartbeat playerId player)

/-! ### The update -/

/-- The start of an update. -/
def updateBegin (deltaTime : F32) : GameServer :=
  { server with serverTick := server.serverTick + 1, uptime := server.uptime.add deltaTime }

/-- The day turns with the game speed. -/
def advanceTime (deltaTime : F32) : GameServer :=
  let advanced :=
    server.timeOfDay.add ((deltaTime.mul server.config.gameSpeed).div (lit 86400 1))
  { server with
    timeOfDay := if (lit 1 1).le advanced then advanced.sub (lit 1 1) else advanced }

def syncTime (deltaTime : F32) : Outcome :=
  let elapsed := server.timeSinceTimeSync.add deltaTime
  if (lit 5 1).le elapsed then
    ({ server with timeSinceTimeSync := lit 0 1 }, server.broadcastTimeSync)
  else ({ server with timeSinceTimeSync := elapsed }, [])

def beatHeart (deltaTime : F32) : Outcome :=
  let elapsed := server.timeSinceHeartbeat.add deltaTime
  if (lit 5 1).le elapsed && server.entities.size ≠ 0 then
    ({ server with timeSinceHeartbeat := lit 0 1 }, server.broadcastEntityHeartbeat)
  else ({ server with timeSinceHeartbeat := elapsed }, [])

/-- The players' pings are what the host has measured. -/
def updatePings (roundTripTime : Peer → UInt32) : GameServer :=
  { server with players := AMap.mapVals (fun _ player =>
      { player with ping := roundTripTime player.peer }) server.players }

/-- The entities of owners that are not connected. -/
def orphans : List EntityID :=
  server.entities.toList.filterMap fun (eid, entity) =>
    if server.isOrphan entity then some eid else none

def cleanUpOrphans (deltaTime : F32) : Outcome :=
  let elapsed := server.timeSinceOrphanCleanup.add deltaTime
  if (lit 30 1).le elapsed && server.entities.size ≠ 0 then
    ({ server with
        entities := AMap.eraseAll server.orphans server.entities
        timeSinceOrphanCleanup := lit 0 1 },
      server.orphans.flatMap fun eid =>
        broadcast KMP_CHANNEL_RELIABLE_ORDERED (.entityDespawn eid 2))
  else ({ server with timeSinceOrphanCleanup := elapsed }, [])

/-- Whether this update ends with saving the world. -/
def autoSaveDue (deltaTime : F32) : Bool :=
  server.autoSaveInterval.le (server.timeSinceAutoSave.add deltaTime) && server.entities.size ≠ 0

def autoSave (deltaTime : F32) : GameServer :=
  { server with timeSinceAutoSave :=
      if server.autoSaveDue deltaTime then lit 0 1 else server.timeSinceAutoSave.add deltaTime }

/-- The rest of an update, after the network events. -/
def updateEnd (deltaTime : F32) (roundTripTime : Peer → UInt32) : Outcome :=
  let advanced := server.advanceTime deltaTime
  let (synced, syncCalls) := advanced.syncTime deltaTime
  let (beaten, heartCalls) := synced.beatHeart deltaTime
  let pinged := beaten.updatePings roundTripTime
  let (cleaned, cleanCalls) := pinged.cleanUpOrphans deltaTime
  (cleaned.autoSave deltaTime,
    advanced.broadcastPositions ++ syncCalls ++ heartCalls ++ cleanCalls)

end GameServer

end KenshiMP
