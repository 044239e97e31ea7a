/-
**What a step does to the players who are stored.**

Only five types of message touch the table of players (`handlePlayerMessage_players`). A player has
a place and two flags of readiness; a step that is not an admission, a departure or a report of
readiness keeps the flags, and moves a player only to a place that has been checked or to that of a
character they have spawned (`Roll`). `next_turn` classifies the steps by what they do to the table.
-/

import KenshiMP.Invariants

namespace KenshiMP

open Wire (Bytes Codec)
open Assoc
open GameServer
open ServerAuthorityValidator

/-! ### Messages that leave the table alone -/

def MessageType.touchesPlayers : MessageType → Bool
  | .C2S_PositionUpdate | .C2S_EntitySpawnReq | .C2S_PlayerReady | .C2S_LobbyReady
  | .C2S_Keepalive => true
  | _ => false

namespace GameServer

variable {server : GameServer} {player : ConnectedPlayer} {reader : PacketReader}

theorem players_onMessage {α : Type} {codec : Codec α} {handle : α → Outcome}
    (handled : ∀ msg, (handle msg).1.players = server.players) :
    (server.onMessage reader codec handle).1.players = server.players := by
  unfold onMessage
  cases reader.readRaw codec with
  | none => rfl
  | some message => exact handled message.1

theorem players_unless {check : Prop} [Decidable check] {outcome : Outcome}
    (passed : outcome.1.players = server.players) :
    (if check then (server, []) else outcome).1.players = server.players := by
  split_ifs
  · rfl
  · exact passed

theorem handleAttackIntent_players (dice : Dice) :
    (server.handleAttackIntent player reader dice).1.players = server.players := by
  refine players_onMessage fun msg => players_unless ?_
  split
  · exact players_unless (players_unless rfl)
  · rfl

theorem handleChatMessage_players : (server.handleChatMessage player reader).1.players = server.players := by
  unfold handleChatMessage
  cases reader.readU32 with
  | none => rfl
  | some first =>
    simp only
    cases first.2.readString with
    | none => rfl
    | some second => exact players_unless rfl

theorem handleSquadCreate_players : (server.handleSquadCreate player reader).1.players = server.players := by
  unfold handleSquadCreate
  cases reader.readU32 with
  | none => rfl
  | some first =>
    simp only
    cases first.2.readString with
    | none => rfl
    | some second => exact players_unless rfl

theorem handleEntityDespawnReq_players (junk : UInt8) :
    (server.handleEntityDespawnReq player reader junk).1.players = server.players := by
  unfold handleEntityDespawnReq
  cases reader.readU32 with
  | none => rfl
  | some first => exact players_unless rfl

theorem handleBuildRepair_players : (server.handleBuildRepair player reader).1.players = server.players := by
  refine players_onMessage fun msg => ?_
  cases server.entities.lookup msg.buildingId with
  | none => rfl
  | some building => exact players_unless (players_unless rfl)

theorem handleTradeRequest_players :
    (server.handleTradeRequest player reader).1.players = server.players := by
  refine players_onMessage fun msg => players_unless ?_
  split_ifs
  · rfl
  · rfl
  · rfl

theorem handleAdminCommand_players :
    (server.handleAdminCommand player reader).1.players = server.players := by
  refine players_onMessage fun msg => ?_
  split_ifs
  · rfl
  · split
    · unfold adminKick
      cases server.players.lookup msg.targetPlayerId with
      | none => rfl
      | some target =>
        simp only
        by_cases host : target.id = server.hostPlayerId
        · rw [if_pos host]
        · rw [if_neg host]
    · unfold adminSetTime
      split_ifs
      · rfl
      · rfl
    · unfold adminSetWeather
      simp only
      split_ifs
      · rfl
      · rfl
    · unfold adminAnnounce
      split_ifs
      · rfl
      · rfl
    · unfold adminSetSpeed
      split_ifs
      · rfl
      · rfl
    · rfl

/-- **The other messages leave the table of players as it is.** -/
theorem handlePlayerMessage_players {type : MessageType} (apart : type.touchesPlayers = false)
    (peer : Peer) (key : PlayerID) (env : PacketEnv) :
    (server.handlePlayerMessage type peer key player reader env).1.players = server.players := by
  cases type with
  | C2S_PositionUpdate => cases apart
  | C2S_EntitySpawnReq => cases apart
  | C2S_PlayerReady => cases apart
  | C2S_LobbyReady => cases apart
  | C2S_Keepalive => cases apart
  | C2S_MoveCommand => exact players_onMessage fun msg => players_unless rfl
  | C2S_AttackIntent => exact handleAttackIntent_players env.dice
  | C2S_ChatMessage => exact handleChatMessage_players
  | C2S_BuildRequest => exact players_onMessage fun msg => players_unless rfl
  | C2S_EntityDespawnReq => exact handleEntityDespawnReq_players env.junk
  | C2S_EquipmentUpdate => exact players_onMessage fun msg => players_unless (players_unless rfl)
  | C2S_ZoneRequest => exact players_onMessage fun msg => players_unless rfl
  | C2S_ItemPickup => exact players_onMessage fun msg => players_unless rfl
  | C2S_ItemDrop => exact players_onMessage fun msg => players_unless rfl
  | C2S_TradeRequest => exact handleTradeRequest_players
  | C2S_SquadCreate => exact handleSquadCreate_players
  | C2S_SquadAddMember => exact players_onMessage fun msg => players_unless rfl
  | C2S_FactionRelation => exact players_onMessage fun msg => players_unless (players_unless rfl)
  | C2S_BuildDismantle => exact players_onMessage fun msg => players_unless rfl
  | C2S_BuildRepair => exact handleBuildRepair_players
  | C2S_CombatStance => exact players_onMessage fun msg => players_unless (players_unless rfl)
  | C2S_CombatKO => exact players_onMessage fun msg => players_unless rfl
  | C2S_CombatDeath => exact players_onMessage fun msg => players_unless rfl
  | C2S_LimbHealth => exact players_onMessage fun msg => players_unless rfl
  | C2S_StatusEffect => exact players_onMessage fun msg => players_unless (players_unless rfl)
  | C2S_ItemTransfer =>
    exact players_onMessage fun msg => players_unless (players_unless (players_unless rfl))
  | C2S_DoorInteract =>
    exact players_onMessage fun msg => players_unless (players_unless (players_unless rfl))
  | C2S_AdminCommand => exact handleAdminCommand_players
  | C2S_PipelineSnapshot => rfl
  | C2S_PipelineEvent => rfl
  | C2S_Handshake => rfl
  | C2S_Disconnect => rfl
  | C2S_ServerQuery => rfl

end GameServer

/-! ### Standing -/

/-- What a player has said about being ready. -/
def ConnectedPlayer.flags (player : ConnectedPlayer) : Bool × Bool :=
  (player.isReady, player.lobbyReady)

/-- The same players with the same flags, each where they were or at a place of a kind. -/
structure Rolled (placed : Vec3 → Prop) (before after : AMap PlayerID ConnectedPlayer) : Prop where
  size : after.size = before.size
  flags : ∀ id, (after.lookup id).map ConnectedPlayer.flags
    = (before.lookup id).map ConnectedPlayer.flags
  places : ∀ {id new}, after.lookup id = some new → ∃ old, before.lookup id = some old
    ∧ (new.position = old.position ∨ placed new.position)

namespace Rolled

variable {placed : Vec3 → Prop} {before after : AMap PlayerID ConnectedPlayer}

theorem refl (players : AMap PlayerID ConnectedPlayer) : Rolled placed players players :=
  ⟨rfl, fun _ => rfl, fun found => ⟨_, found, Or.inl rfl⟩⟩

theorem trans {last : AMap PlayerID ConnectedPlayer} (one : Rolled placed before after)
    (two : Rolled placed after last) : Rolled placed before last := by
  refine ⟨two.size.trans one.size, fun id => (two.flags id).trans (one.flags id), fun found => ?_⟩
  obtain ⟨middle, stored, second⟩ := two.places found
  obtain ⟨old, stored', first⟩ := one.places stored
  refine ⟨old, stored', ?_⟩
  rcases second with same | moved
  · rw [same]
    exact first
  · exact Or.inr moved

theorem mono {weaker : Vec3 → Prop} (weaken : ∀ {place}, placed place → weaker place)
    (rolled : Rolled placed before after) : Rolled weaker before after := by
  refine ⟨rolled.size, rolled.flags, fun found => ?_⟩
  obtain ⟨old, stored, moved⟩ := rolled.places found
  exact ⟨old, stored, moved.imp_right weaken⟩

variable (players : AMap PlayerID ConnectedPlayer)

/-- Every player is updated in place. -/
theorem mapVals (f : PlayerID → ConnectedPlayer → ConnectedPlayer)
    (flags : ∀ id player, (f id player).flags = player.flags)
    (places : ∀ id player, (f id player).position = player.position ∨ placed (f id player).position) :
    Rolled placed players (AMap.mapVals f players) := by
  refine ⟨AMap.size_mapVals f players, fun id => ?_, fun {id new} found => ?_⟩
  · rw [AMap.lookup_mapVals, Option.map_map]
    congr 1
    funext player
    exact flags id player
  · rw [AMap.lookup_mapVals] at found
    obtain ⟨old, stored, rfl⟩ := Option.map_eq_some_iff.mp found
    exact ⟨old, stored, places id old⟩

/-- One player is updated in place. -/
theorem modify (key : PlayerID)
    (f : ConnectedPlayer → ConnectedPlayer) (flags : ∀ player, (f player).flags = player.flags)
    (places : ∀ player, (f player).position = player.position ∨ placed (f player).position) :
    Rolled placed players (AMap.modify key f players) := by
  refine mapVals players _ (fun id player => ?_) fun id player => ?_
  · split_ifs
    · exact flags player
    · rfl
  · split_ifs
    · exact places player
    · exact Or.inl rfl

end Rolled

/-- The place has passed the check. -/
def Checked (place : Vec3) : Prop := badCoords place.x place.y place.z = false

/-- A place a step may bring a player to: a checked one, or that of a character just spawned. -/
def Reaches (sys : System) (event : Event) (place : Vec3) : Prop :=
  Checked place ∨ ∃ player request, SpawnAccepted sys event player request ∧ request.position = place

namespace GameServer

variable {server : GameServer} {player : ConnectedPlayer} {reader : PacketReader}

variable (key : PlayerID)

theorem applyPosition_rolled (progress : GameServer × Bool) (pos : CharacterPosition) :
    Rolled Checked progress.1.players (applyPosition player key progress pos).1.players := by
  obtain ⟨server, placed⟩ := progress
  unfold applyPosition
  simp only
  split_ifs with bad refused again
  · exact Rolled.refl _
  · exact Rolled.refl _
  · exact Rolled.refl _
  · rw [Bool.not_eq_true] at bad
    exact Rolled.modify server.players key
      (fun player => { player with
        position := ⟨pos.posX, pos.posY, pos.posZ⟩
        zone := ZoneCoord.fromWorldPos ⟨pos.posX, pos.posY, pos.posZ⟩ })
      (fun _ => rfl) fun _ => Or.inr bad

theorem applyPositions_rolled (records : List CharacterPosition) (progress : GameServer × Bool) :
    Rolled Checked progress.1.players (records.foldl (applyPosition player key) progress).1.players := by
  induction records generalizing progress with
  | nil => exact Rolled.refl _
  | cons pos rest ih => exact (applyPosition_rolled key progress pos).trans (ih _)

theorem handlePositionUpdate_rolled :
    Rolled Checked server.players (server.handlePositionUpdate player reader key).1.players := by
  unfold handlePositionUpdate
  cases reader.readU8 with
  | none => exact Rolled.refl _
  | some read => exact applyPositions_rolled key _ (server, false)

/-- A spawn may place its player where the character is. -/
theorem handleEntitySpawnReq_rolled :
    Rolled (fun place => ∃ request, readSpawnRequest reader = some request
        ∧ server.acceptsSpawn request = true ∧ request.position = place)
      server.players (server.handleEntitySpawnReq player reader key).1.players := by
  unfold handleEntitySpawnReq
  cases readSpawnRequest reader with
  | none => exact Rolled.refl _
  | some request =>
    simp only
    split_ifs with refused
    · exact Rolled.refl _
    · rw [Bool.not_eq_true', Bool.not_eq_false] at refused
      refine Rolled.modify server.players key _ (fun player => ?_) fun player => ?_
      · unfold placePlayer
        split_ifs
        · rfl
        · rfl
      · unfold placePlayer
        split_ifs
        · exact Or.inr ⟨request, rfl, refused, rfl⟩
        · exact Or.inl rfl

end GameServer

/-- A message that does not report its player ready. -/
theorem message_rolled {sys : System} {peer : Peer} {data : Bytes} {channel : Nat}
    {env : PacketEnv} {type : MessageType} {reader : PacketReader} {key : PlayerID}
    {player : ConnectedPlayer} (received : sys.receives peer = true)
    (opened : openPacket data channel = some (type, reader))
    (behind : sys.server.getPlayer peer = some (key, player)) (noReady : type ≠ .C2S_PlayerReady)
    (noLobby : type ≠ .C2S_LobbyReady) :
    Rolled (Reaches sys (.packet peer data channel env)) sys.server.players
      (sys.server.handlePlayerMessage type peer key player reader env).1.players := by
  by_cases apart : type.touchesPlayers = false
  · rw [handlePlayerMessage_players apart]
    exact Rolled.refl _
  · cases type with
    | C2S_PositionUpdate => exact (handlePositionUpdate_rolled key).mono Or.inl
    | C2S_EntitySpawnReq =>
      refine (handleEntitySpawnReq_rolled key).mono fun ⟨request, read, accepted, here⟩ => ?_
      exact Or.inr ⟨player, request, ⟨reader, ⟨peer, data, channel, env, key, rfl, received, opened,
        behind⟩, read, accepted⟩, here⟩
    | C2S_PlayerReady => exact absurd rfl noReady
    | C2S_LobbyReady => exact absurd rfl noLobby
    | C2S_Keepalive =>
      exact Rolled.modify sys.server.players key
        (fun player => { player with lastUpdate := sys.server.uptime }) (fun _ => rfl)
        fun _ => Or.inl rfl
    | _ => exact absurd rfl apart

/-! ### The newcomer -/

namespace GameServer

variable (server : GameServer)

/-- A reclaim changes what a player owns, and nothing else about them. -/
theorem reclaim_field {α : Type} (field : ConnectedPlayer → α)
    (same : ∀ player ids, field { player with ownedEntities := ids } = field player)
    (id : PlayerID) (name : Bytes) (other : PlayerID) :
    ((server.reclaim id name).players.lookup other).map field = (server.players.lookup other).map field := by
  have one (server : GameServer) (eid : EntityID) :
      ((reclaimOne id server eid).players.lookup other).map field
        = (server.players.lookup other).map field := by
    unfold reclaimOne
    cases server.entities.lookup eid with
    | none => rfl
    | some entity =>
      simp only
      split_ifs
      · show (AList.lookup other (AMap.modify id _ server.players)).map field = _
        rw [AMap.lookup_modify, Option.map_map]
        congr 1
        funext player
        show field (if other = id then _ else player) = field player
        split_ifs
        · exact same player _
        · rfl
      · rfl
  have all (ids : List EntityID) (server : GameServer) :
      ((ids.foldl (reclaimOne id) server).players.lookup other).map field
        = (server.players.lookup other).map field := by
    induction ids generalizing server with
    | nil => rfl
    | cons first rest ih => exact (ih _).trans (one server first)
  unfold reclaim
  cases server.savedPlayers.lookup name with
  | none => rfl
  | some saved => exact all saved.entityIds server

/-- A player who has just joined is at the origin, and has not said that they are ready. -/
theorem newcomer_standing {peer : Peer} {name : Bytes} {created : PacketCreation}
    {player : ConnectedPlayer}
    (stored : (server.seatPlayer peer name created).1.players.lookup server.nextPlayerId = some player) :
    player.position = {} ∧ player.flags = (false, false) ∧ (created.ack && created.faction) = true := by
  have identity := (seatPlayer_spec server peer name created).players server.nextPlayerId
  rw [stored, if_pos rfl] at identity
  by_cases both : (created.ack && created.faction) = true
  · rw [seatPlayer_fst, if_pos both] at stored
    have players : (server.hosted peer name).players
        = ((server.addPlayer peer name).reclaim server.nextPlayerId name).players :=
      (assignHost_fields _ _).2.2.1
    rw [players] at stored
    have kept := (server.addPlayer peer name).reclaim_field
      (fun player => (player.position, player.flags)) (fun _ _ => rfl) server.nextPlayerId name
      server.nextPlayerId
    rw [stored] at kept
    have inserted : (server.addPlayer peer name).players.lookup server.nextPlayerId
        = some (server.newPlayer peer name) := by
      show AList.lookup _ (AList.insert _ _ server.players) = _
      rw [AMap.lookup_insert_eq]
      exact if_pos rfl
    rw [inserted] at kept
    have standing := Option.some.inj kept
    exact ⟨congrArg Prod.fst standing, congrArg Prod.snd standing, both⟩
  · rw [if_neg both] at identity
    cases identity

end GameServer

/-! ### One step -/

/-- What a step does to the table of players, with its calls where they matter. -/
inductive Turn (sys : System) : Event → Outcome → Prop
  | tend {event : Event} {outcome : Outcome}
      (rolled : Rolled (Reaches sys event) sys.server.players outcome.1.players) :
      Turn sys event outcome
  | ready {peer : Peer} {data : Bytes} {channel : Nat} {env : PacketEnv} {key : PlayerID}
      {player : ConnectedPlayer} (behind : sys.server.getPlayer peer = some (key, player)) :
      Turn sys (.packet peer data channel env) (sys.server.handlePlayerReady key player)
  | lobby {peer : Peer} {data : Bytes} {channel : Nat} {env : PacketEnv} {key : PlayerID}
      {player : ConnectedPlayer} (behind : sys.server.getPlayer peer = some (key, player)) :
      Turn sys (.packet peer data channel env) (sys.server.handleLobbyReady key player)
  | seatPlayer {event : Event} {peer : Peer} {name : Bytes} {created : PacketCreation}
      (admitted : HandshakeAdmitted sys event peer name created) :
      Turn sys event (sys.server.seatPlayer peer name created)
  | leave {event : Event} {peer : Peer} {player : ConnectedPlayer}
      (leaves : Leaves sys event peer player) :
      Turn sys event
        ((sys.server.removePlayer player).1.setPeerData peer 0, (sys.server.removePlayer player).2)

theorem turn_same {sys : System} {event : Event} {outcome : Outcome}
    (same : outcome.1.players = sys.server.players) : Turn sys event outcome := by
  refine .tend ?_
  rw [same]
  exact Rolled.refl _

/-- The end of an update writes the players' pings. -/
theorem updateEnd_players (server : GameServer) (deltaTime : F32) (roundTripTime : Peer → UInt32) :
    (server.updateEnd deltaTime roundTripTime).1.players = (server.updatePings roundTripTime).players := by
  obtain ⟨-, -, -, synced, -⟩ := (server.advanceTime deltaTime).syncTime_spec deltaTime
  obtain ⟨-, -, -, beaten, -⟩ :=
    ((server.advanceTime deltaTime).syncTime deltaTime).1.beatHeart_spec deltaTime
  have cleaned (server : GameServer) : (server.cleanUpOrphans deltaTime).1.players = server.players := by
    unfold cleanUpOrphans
    simp only
    split_ifs
    · rfl
    · rfl
  have saved (server : GameServer) : (server.autoSave deltaTime).players = server.players := rfl
  unfold updateEnd
  simp only
  rw [saved, cleaned]
  unfold updatePings
  simp only
  rw [beaten, synced]
  rfl

namespace System

variable (sys : System)

theorem dispatch_turn {peer : Peer} {data : Bytes} {channel : Nat} {env : PacketEnv}
    {type : MessageType} {reader : PacketReader} (received : sys.receives peer = true)
    (opened : openPacket data channel = some (type, reader)) :
    Turn sys (.packet peer data channel env) (sys.server.dispatch type peer reader env) := by
  refine dispatch_cases sys.server (P := fun outcome => Turn sys (.packet peer data channel env) outcome)
    (fun msg rest handshake read admitted => ?_) (fun calls _ => turn_same rfl) fun key player behind => ?_
  · subst handshake
    exact .seatPlayer ⟨data, channel, env, reader, rest, msg, rfl, received, opened, read, admitted, rfl,
      rfl⟩
  · by_cases ready : type = .C2S_PlayerReady
    · subst ready
      exact .ready behind
    · by_cases lobby : type = .C2S_LobbyReady
      · subst lobby
        exact .lobby behind
      · exact .tend (message_rolled received opened behind ready lobby)

/-- **Every step is one of the five turns.** -/
theorem react_turn (event : Event) : Turn sys event (sys.react event).2 := by
  cases event with
  | connect peer host roundTripTime =>
    unfold react
    simp only
    split_ifs with present
    · exact turn_same rfl
    · refine turn_same ?_
      unfold handleConnect
      split_ifs
      · rfl
      · rfl
  | packet peer data channel env =>
    unfold react
    simp only
    split_ifs with received
    · unfold handlePacket
      cases opened : openPacket data channel with
      | none => exact turn_same rfl
      | some packet => exact sys.dispatch_turn received opened
    · exact turn_same rfl
  | disconnect peer =>
    unfold react
    simp only
    split_ifs with present
    · unfold handleDisconnect
      cases behind : sys.server.getPlayer peer with
      | none => exact turn_same rfl
      | some found => exact .leave ⟨rfl, present, found.1, behind⟩
    · exact turn_same rfl
  | updateBegin elapsed => exact turn_same rfl
  | updateEnd elapsed roundTripTime =>
    refine .tend ?_
    show Rolled _ _ (sys.server.updateEnd (seconds elapsed) roundTripTime).1.players
    rw [updateEnd_players]
    exact Rolled.mapVals sys.server.players
      (fun _ player => { player with ping := roundTripTime player.peer }) (fun _ _ => rfl)
      fun _ _ => Or.inl rfl
  | kick id =>
    unfold react kickPlayer
    simp only
    cases sys.server.players.lookup id with
    | none => exact turn_same rfl
    | some player => exact turn_same rfl
  | say line => exact turn_same rfl
  | rehash players entities savedPlayers =>
    refine .tend ⟨AMap.size_reorder _ _, fun id => ?_, fun {id new} found => ?_⟩
    · show (AList.lookup id (AMap.reorder players sys.server.players)).map _ = _
      rw [AMap.lookup_reorder]
    · have stored : AList.lookup id (AMap.reorder players sys.server.players) = some new := found
      rw [AMap.lookup_reorder] at stored
      exact ⟨new, stored, Or.inl rfl⟩

theorem next_turn (event : Event) :
    Turn sys event ((machine.next sys event).server, machine.emit sys event) := sys.react_turn event

end System

end KenshiMP
