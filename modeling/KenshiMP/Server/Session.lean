/-
**Connections, handshakes, departures, administration.**

`handleHandshake` admits a player: sanitised name, fresh identifier, the entities saved under the
name, the host, then acknowledgement, faction, the other players and the world. Creating the
acknowledgement or the faction packet may fail, and the handler returns in the middle.
`handleDisconnect` frees the player's entities and saves them under the name.
-/

import KenshiMP.Server.Entities

namespace KenshiMP

open Wire (Bytes ascii)
open Wire.Codec
open Assoc

/-- A decimal number. -/
def decimal (n : Int) : Bytes := ascii (toString n)

/-- A non-negative float with two decimals. -/
def fixed2 (x : F32) : Bytes :=
  let hundredths := Binary.Format.divEven (x.units * 100) (2 ^ Binary.binary32.scale)
  decimal (hundredths / 100) ++ ascii "." ++ decimal (hundredths / 10 % 10)
    ++ decimal (hundredths % 10)

/-- Whether the two packets whose failure ends a handshake can be created. -/
structure PacketCreation where
  ack : Bool := true
  faction : Bool := true

namespace GameServer

variable (server : GameServer)

/-! ### Connecting -/

def isLoopbackAddress (host : UInt32) : Bool := host = 0x0100007F

def full : Bool := server.config.maxPlayers ≤ server.players.size

def handleConnect (peer : Peer) : Outcome :=
  if server.full then (server, [.disconnect peer])
  else (server.setPeerData peer 0, [])

/-! ### Handshake -/

/-- The printable ASCII of a name, at most 31 characters of it; `Player` if nothing is left. -/
def sanitizeName (playerName : Bytes) : Bytes :=
  let sanitizedName :=
    ((playerName.take KMP_MAX_NAME_LENGTH).takeWhile (· ≠ 0)).filter fun c => 32 ≤ c && c < 127
  if sanitizedName = [] then ascii "Player" else sanitizedName

/-- A refusal, after which the slot is closed. -/
def reject (peer : Peer) (reasonCode : UInt8) (reasonText : Bytes) : List Call :=
  [.send peer ⟨KMP_CHANNEL_RELIABLE_ORDERED, true, .handshakeReject reasonCode reasonText⟩,
    .disconnectLater peer]

def newPlayer (peer : Peer) (name : Bytes) : ConnectedPlayer where
  id := server.nextPlayerId
  name := name
  peer := peer
  ping := ((server.peers.lookup peer).map ENetPeer.roundTripTime).getD 0
  lastUpdate := server.uptime
  isLoopback := ((server.peers.lookup peer).map fun slot => isLoopbackAddress slot.host).getD false

/-- Take the next identifier, mark the slot, store the player. -/
def addPlayer (peer : Peer) (name : Bytes) : GameServer :=
  let player := server.newPlayer peer name
  let marked := server.setPeerData peer player.id
  { marked with
    players := AList.insert player.id player marked.players
    nextPlayerId := server.nextPlayerId + 1 }

/-- One entity of a saved record: the new player gets it if it exists and has no owner. -/
def reclaimOne (id : PlayerID) (server : GameServer) (eid : EntityID) : GameServer :=
  match server.entities.lookup eid with
  | none => server
  | some entity =>
    if entity.owner = 0 then
      (server.updateEntity eid fun entity => { entity with owner := id }).updatePlayer id
        fun player => { player with ownedEntities := player.ownedEntities ++ [eid] }
    else server

/-- The saved record of a name goes to the new player, and is erased. -/
def reclaim (id : PlayerID) (name : Bytes) : GameServer :=
  match server.savedPlayers.lookup name with
  | none => server
  | some saved =>
    let reclaimed := saved.entityIds.foldl (reclaimOne id) server
    { reclaimed with savedPlayers := AList.erase name reclaimed.savedPlayers }

/-- The new player becomes the host when there is none, or as the first loopback one. -/
def hostChanges (player : ConnectedPlayer) : Bool :=
  if server.hostPlayerId = 0 then true
  else if player.isLoopback then
    match server.players.lookup server.hostPlayerId with
    | none => false
    | some host => !host.isLoopback
  else false

def assignHost (player : ConnectedPlayer) : GameServer :=
  if server.hostChanges player then { server with hostPlayerId := player.id } else server

/-- A failed packet: the player is dropped and the slot is free again. -/
def dropPlayer (peer : Peer) (id : PlayerID) : GameServer :=
  { server with players := AList.erase id server.players }.setPeerData peer 0

def handshakeAck (peer : Peer) (id : PlayerID) : Call :=
  .send peer ⟨KMP_CHANNEL_RELIABLE_ORDERED, true, .handshakeAck
    ⟨id, server.serverTick, server.timeOfDay, server.weatherState,
      UInt8.ofNat server.config.maxPlayers, UInt8.ofNat server.players.size⟩⟩

/-- The faction of the first slot and of the second one. -/
def factionStrings (slot : UInt32) : Bytes :=
  if slot = 0 then ascii "10-kenshi-online.mod" else ascii "12-kenshi-online.mod"

def factionAssignment (peer : Peer) (id : PlayerID) : Call :=
  let slot := (id - 1) % 2
  .send peer ⟨KMP_CHANNEL_RELIABLE_ORDERED, true,
    .factionAssignment (factionStrings slot) slot.toInt32⟩

/-- The players that are already there, told to the new one. -/
def introduceOthers (peer : Peer) (id : PlayerID) : List Call :=
  server.players.toList.filterMap fun (existingId, existing) =>
    if existingId = id then none
    else some (.send peer ⟨KMP_CHANNEL_RELIABLE_ORDERED, true,
      .playerJoined existingId (existing.name.take (KMP_MAX_NAME_LENGTH - 1))⟩)

/-- The messages of a handshake after the faction: the others, the world, the farewell line. -/
def welcome (player : ConnectedPlayer) : List Call :=
  server.broadcastExcept player.id KMP_CHANNEL_RELIABLE_ORDERED
      (.playerJoined player.id (player.name.take (KMP_MAX_NAME_LENGTH - 1)))
    ++ server.introduceOthers player.peer player.id
    ++ server.sendWorldSnapshot player
    ++ broadcastSystemMessage (player.name ++ ascii " joined the game")

/-- A handshake that passed its checks. -/
def seatPlayer (peer : Peer) (name : Bytes) (created : PacketCreation) : Outcome :=
  let player := server.newPlayer peer name
  let joined := (server.addPlayer peer name).reclaim player.id name
  let hosted := joined.assignHost player
  if !created.ack then (hosted.dropPlayer peer player.id, [])
  else
    let acked := hosted.handshakeAck peer player.id ::
      (if joined.hostChanges player then hosted.broadcastHostAssignment else [])
    if !created.faction then (hosted.dropPlayer peer player.id, acked)
    else (hosted, acked ++ factionAssignment peer player.id :: hosted.welcome player)

/-- The slot has no player, there is room, and the version is the server's. -/
def admits (peer : Peer) (msg : MsgHandshake) : Bool :=
  server.peerData peer = 0 && !server.full && msg.protocolVersion = KMP_PROTOCOL_VERSION

def handleHandshake (peer : Peer) (reader : PacketReader) (created : PacketCreation) : Outcome :=
  server.onMessage reader MsgHandshake.codec fun msg =>
    if server.peerData peer ≠ 0 then (server, [])
    else if server.full then
      (server, reject peer 0 (ascii "Server is full (" ++ decimal server.players.size ++ ascii "/"
        ++ decimal server.config.maxPlayers ++ ascii ")"))
    else if msg.protocolVersion ≠ KMP_PROTOCOL_VERSION then
      (server, reject peer 1 (ascii "Version mismatch: server=1, client="
        ++ decimal msg.protocolVersion.toInt32.toInt))
    else server.seatPlayer peer (sanitizeName msg.playerName.1) created

/-- A query is answered without a handshake, and the slot is closed. -/
def handleServerQuery (peer : Peer) (reader : PacketReader) : Outcome :=
  server.onMessage reader MsgServerQuery.codec fun _ =>
    (server,
      [.send peer ⟨KMP_CHANNEL_RELIABLE_ORDERED, true, .serverInfo
          { protocolVersion := KMP_PROTOCOL_VERSION
            currentPlayers := UInt8.ofNat server.players.size
            maxPlayers := UInt8.ofNat server.config.maxPlayers
            port := server.config.port
            timeOfDay := server.timeOfDay
            pvpEnabled := server.config.pvpEnabled
            serverName := server.config.serverName.take 63 }⟩,
        .disconnectLater peer])

/-! ### Leaving -/

/-- The player's entities have no owner any more. -/
def freeEntities (id : PlayerID) : GameServer :=
  { server with entities := AMap.mapVals (fun _ entity =>
      if entity.owner = id then { entity with owner := 0 } else entity) server.entities }

/-- What a leaving player owned is saved under the name, in place of what was saved there. -/
def saveOwned (player : ConnectedPlayer) (ids : List EntityID) : GameServer :=
  if ids = [] then server
  else
    { server with
      savedPlayers := AList.insert player.name ⟨player.name, ids⟩ server.savedPlayers }

/-- A new host if the host has left: the first player of the walk. -/
def reassignHost (leavingId : PlayerID) : Outcome :=
  if leavingId ≠ server.hostPlayerId then (server, [])
  else
    match server.players.toList with
    | [] => ({ server with hostPlayerId := 0 }, [])
    | (id, player) :: _ =>
      ({ server with hostPlayerId := id },
        broadcastSystemMessage (player.name ++ ascii " is now the host")
          ++ broadcast KMP_CHANNEL_RELIABLE_ORDERED (.hostAssignment id))

/-- A player leaves. -/
def removePlayer (player : ConnectedPlayer) : Outcome :=
  let freed := (server.freeEntities player.id).saveOwned player (server.ownedIds player.id)
  let left := { freed with players := AList.erase player.id freed.players }
  let (hosted, hostCalls) := left.reassignHost player.id
  (hosted,
    freed.broadcastExcept player.id KMP_CHANNEL_RELIABLE_ORDERED (.playerLeft player.id 0)
      ++ hostCalls ++ broadcastSystemMessage (player.name ++ ascii " left the game"))

def handleDisconnect (peer : Peer) : Outcome :=
  match server.getPlayer peer with
  | none => (server.setPeerData peer 0, [])
  | some (_, player) =>
    let (left, calls) := server.removePlayer player
    (left.setPeerData peer 0, calls)

def kickPlayer (id : PlayerID) (reason : Bytes) : Outcome :=
  match server.players.lookup id with
  | none => (server, [])
  | some player =>
    (server, broadcastSystemMessage (player.name ++ ascii " was kicked: " ++ reason)
      ++ [.disconnect player.peer])

/-! ### Chat and readiness -/

variable (key : PlayerID) (player : ConnectedPlayer) (reader : PacketReader)

def handleChatMessage : Outcome :=
  match reader.readU32 with
  | none => (server, [])
  | some (_, rest) =>
    match rest.readString with
    | none => (server, [])
    | some (message, _) =>
      if message = [] then (server, [])
      else
        (server, server.broadcastExcept player.id KMP_CHANNEL_RELIABLE_ORDERED
          (.chatMessage player.id message))

def handleKeepalive (peer : Peer) : Outcome :=
  (server.updatePlayer key fun player => { player with lastUpdate := server.uptime },
    [.send peer ⟨KMP_CHANNEL_RELIABLE_ORDERED, true, .keepaliveAck⟩])

/-- The line that ends the lobby, with its dash in UTF-8. -/
def allReadyText : Bytes :=
  ascii "All players ready " ++ [0xE2, 0x80, 0x94] ++ ascii " starting game!"

def handleLobbyReady : Outcome :=
  let ready := server.updatePlayer key fun player => { player with lobbyReady := true }
  let allReady := ready.players.toList.all fun (_, player) => player.lobbyReady
  (ready,
    broadcastSystemMessage (player.name ++ ascii " is ready!")
      ++ (if allReady && ready.players.size ≠ 0 then
            broadcastSystemMessage allReadyText
              ++ broadcast KMP_CHANNEL_RELIABLE_ORDERED (.lobbyStart (UInt8.ofNat ready.players.size))
          else []))

def getReadyPlayerCount : Nat :=
  (server.players.toList.filter fun (_, player) => player.isReady).length

def handlePlayerReady : Outcome :=
  if player.isReady then (server, [])
  else
    let ready := server.updatePlayer key fun player => { player with isReady := true }
    let connected := ready.players.size
    (ready,
      if 1 < connected && ready.getReadyPlayerCount = connected then
        broadcast KMP_CHANNEL_RELIABLE_ORDERED .allPlayersReady
      else [])

/-- A debug message is passed on with the sender's identifier in front. -/
def forward (wrap : PlayerID → Bytes → S2C) : Outcome :=
  (server, server.broadcastExcept player.id KMP_CHANNEL_RELIABLE_UNORDERED
    (wrap player.id reader.current))

/-! ### Administration -/

/-- The answer to a command, cut to the size of its field. -/
def respond (success : Bool) (text : Bytes) : List Call :=
  server.sendTo player.id KMP_CHANNEL_RELIABLE_ORDERED (.adminResponse success (text.take 127))

/-- Kick by the host: the host itself is exempt. -/
def adminKick (msg : MsgAdminCommand) : Outcome :=
  match server.players.lookup msg.targetPlayerId with
  | none => (server, server.respond player true (ascii "Player not found or cannot kick host."))
  | some target =>
    if target.id = server.hostPlayerId then
      (server, server.respond player true (ascii "Player not found or cannot kick host."))
    else
      let given := cString msg.textParam.1
      let reason := if given = [] then ascii "Kicked by host" else given
      (server,
        broadcastSystemMessage (target.name ++ ascii " was kicked: " ++ reason)
          ++ reject target.peer 2 (reason.take 127)
          ++ server.respond player true (ascii "Kicked " ++ target.name))

def weatherNames : List Bytes :=
  [ascii "Clear", ascii "Cloudy", ascii "Dust Storm", ascii "Rain", ascii "Acid Rain"]

/-- A setting changes: everybody is told, then the host is answered. -/
def changed (text : Bytes) : Outcome :=
  (server, server.broadcastTimeSync ++ server.respond player true text)

def adminSetTime (newTime : F32) : Outcome :=
  if (lit 0 1).le newTime && newTime.lt (lit 1 1) then
    { server with timeOfDay := newTime }.changed player (ascii "Time set to " ++ fixed2 newTime)
  else (server, server.respond player true (ascii "Invalid time (0.0-1.0)"))

def adminSetWeather (param : F32) : Outcome :=
  let weather := toInt32 param
  if 0 ≤ weather ∧ weather ≤ 4 then
    { server with weatherState := weather }.changed player
      (ascii "Weather set to " ++ weatherNames.getD weather.toNatClampNeg [])
  else (server, server.respond player true (ascii "Invalid weather (0-4)"))

def adminAnnounce (announcement : Bytes) : Outcome :=
  if announcement = [] then (server, server.respond player true (ascii "Empty announcement."))
  else
    (server, broadcastSystemMessage (ascii "[HOST] " ++ announcement)
      ++ server.respond player true (ascii "Announced."))

def adminSetSpeed (newSpeed : F32) : Outcome :=
  if range : (lit 1 10).le newSpeed ∧ newSpeed.le (lit 10 1) then
    { server with config := { server.config with gameSpeed := newSpeed, gameSpeed_range := range }
      }.changed player (ascii "Game speed set to " ++ fixed2 newSpeed ++ ascii "x")
  else (server, server.respond player true (ascii "Invalid speed (must be 0.1-10.0)"))

/-- Only the host may command; the text parameter ends at its first null. -/
def handleAdminCommand : Outcome :=
  server.onMessage reader MsgAdminCommand.codec fun msg =>
    if player.id ≠ server.hostPlayerId then
      (server, server.respond player false
        (ascii "Permission denied: only the host can use admin commands."))
    else
      match msg.commandType.toNat with
      | 0 => server.adminKick player msg
      | 2 => server.adminSetTime player msg.floatParam
      | 3 => server.adminSetWeather player msg.floatParam
      | 4 => server.adminAnnounce player (cString msg.textParam.1)
      | 5 => server.adminSetSpeed player msg.floatParam
      | _ => (server, server.respond player true (ascii "Unknown admin command."))

end GameServer

end KenshiMP
