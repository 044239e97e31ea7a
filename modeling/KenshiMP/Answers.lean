/-
**Which message of a client leads to which message of the server.**

A handler speaks of its own matters only: `MessageType.answers` lists, for each type a player can
send, what the server may say because of it. Joining, leaving and the periodic work say a few things
more (`S2C.unprompted`). What is neither on the second list nor on that of its type is never sent
(`answer_of_inbox`), so whoever receives it knows which message of which player caused it.
-/

import KenshiMP.Attendance
import KenshiMP.PlayerFates

namespace KenshiMP

open Wire (Bytes Codec)
open Assoc
open GameServer
open KenshiMP.System

/-! ### The lists -/

/-- What a message of a player may be answered with. -/
def MessageType.answers : MessageType → S2C → Bool
  | .C2S_MoveCommand, .moveCommand _ => true
  | .C2S_AttackIntent, .combatHit _ => true
  | .C2S_AttackIntent, .combatDeath _ => true
  | .C2S_AttackIntent, .combatKO _ => true
  | .C2S_ChatMessage, .chatMessage _ _ => true
  | .C2S_BuildRequest, .buildPlaced _ => true
  | .C2S_EntitySpawnReq, .entitySpawn _ => true
  | .C2S_EntityDespawnReq, .entityDespawn _ _ => true
  | .C2S_EquipmentUpdate, .equipmentUpdate _ => true
  | .C2S_ZoneRequest, .entitySpawn _ => true
  | .C2S_ItemPickup, .inventoryUpdate _ => true
  | .C2S_ItemDrop, .inventoryUpdate _ => true
  | .C2S_ItemTransfer, .inventoryUpdate _ => true
  | .C2S_TradeRequest, .tradeResult _ => true
  | .C2S_SquadCreate, .squadCreated _ _ _ => true
  | .C2S_SquadAddMember, .squadMemberUpdate _ => true
  | .C2S_FactionRelation, .factionRelation _ => true
  | .C2S_PlayerReady, .allPlayersReady => true
  | .C2S_BuildDismantle, .buildDestroyed _ _ => true
  | .C2S_BuildRepair, .buildProgress _ _ => true
  | .C2S_CombatStance, .combatBlock _ => true
  | .C2S_CombatKO, .combatKO _ => true
  | .C2S_CombatDeath, .combatDeath _ => true
  | .C2S_LimbHealth, .limbHealth _ => true
  | .C2S_StatusEffect, .statusEffect _ => true
  | .C2S_DoorInteract, .doorState _ _ => true
  | .C2S_AdminCommand, .systemMessage _ => true
  | .C2S_AdminCommand, .handshakeReject _ _ => true
  | .C2S_AdminCommand, .adminResponse _ _ => true
  | .C2S_AdminCommand, .timeSync _ => true
  | .C2S_LobbyReady, .systemMessage _ => true
  | .C2S_LobbyReady, .lobbyStart _ => true
  | .C2S_Keepalive, .keepaliveAck => true
  | .C2S_PipelineSnapshot, .pipelineSnapshot _ _ => true
  | .C2S_PipelineEvent, .pipelineEvent _ _ => true
  | _, _ => false

/-- What the server may say without a message of a player. -/
def S2C.unprompted : S2C → Bool
  | .handshakeAck _ | .handshakeReject _ _ | .playerJoined _ _ | .playerLeft _ _ | .timeSync _
  | .entitySpawn _ | .entityDespawn _ _ | .positionUpdate _ _ _ | .equipmentUpdate _
  | .systemMessage _ | .hostAssignment _ | .serverInfo _ | .entityHeartbeat _ _ _
  | .factionAssignment _ _ => true
  | _ => false

/-! ### Messages of players -/

namespace GameServer

variable {server : GameServer} {player : ConnectedPlayer} {reader : PacketReader}
  {kind : S2C → Bool}

/-- A message that cannot be read is answered with nothing. -/
theorem without_onMessage {α : Type} {codec : Codec α} {handle : α → Outcome}
    (handled : ∀ msg, Without kind (handle msg).2) :
    Without kind (server.onMessage reader codec handle).2 := by
  unfold onMessage
  cases reader.readRaw codec with
  | none => exact without_nil
  | some message => exact handled message.1

theorem without_unless {check : Prop} [Decidable check] {outcome : Outcome}
    (passed : Without kind outcome.2) :
    Without kind (if check then (server, []) else outcome).2 := by
  split_ifs
  · exact without_nil
  · exact passed

theorem without_sendTo (id : PlayerID) (channel : Nat) {msg : S2C} (silent : kind msg = false) :
    Without kind (server.sendTo id channel msg) := by
  unfold sendTo
  cases server.players.lookup id with
  | none => exact without_nil
  | some player =>
    refine without_of_calls fun call inside => ?_
    rw [List.mem_singleton.mp inside]
    exact without_send silent

/-- An attack is answered with a hit, and a death or a knock-out. -/
theorem handleAttackIntent_without (dice : Dice) (hit : ∀ msg, kind (.combatHit msg) = false)
    (death : ∀ msg, kind (.combatDeath msg) = false) (ko : ∀ msg, kind (.combatKO msg) = false) :
    Without kind (server.handleAttackIntent player reader dice).2 := by
  refine without_onMessage fun msg => without_unless ?_
  split
  · refine without_unless (without_unless ?_)
    refine (without_broadcast _ (hit _)).append ?_
    split_ifs
    · exact without_broadcast _ (death _)
    · exact without_broadcast _ (ko _)
    · exact without_nil
  · exact without_nil

theorem handleChatMessage_without (silent : ∀ id text, kind (.chatMessage id text) = false) :
    Without kind (server.handleChatMessage player reader).2 := by
  unfold handleChatMessage
  cases reader.readU32 with
  | none => exact without_nil
  | some first =>
    simp only
    cases first.2.readString with
    | none => exact without_nil
    | some second => exact without_unless (without_broadcastExcept _ _ _ (silent _ _))

theorem handleSquadCreate_without
    (silent : ∀ creator squad name, kind (.squadCreated creator squad name) = false) :
    Without kind (server.handleSquadCreate player reader).2 := by
  unfold handleSquadCreate
  cases reader.readU32 with
  | none => exact without_nil
  | some first =>
    simp only
    cases first.2.readString with
    | none => exact without_nil
    | some second => exact without_unless (without_broadcast _ (silent _ _ _))

theorem handleEntitySpawnReq_without (key : PlayerID)
    (silent : ∀ record, kind (.entitySpawn record) = false) :
    Without kind (server.handleEntitySpawnReq player reader key).2 := by
  unfold handleEntitySpawnReq
  cases readSpawnRequest reader with
  | none => exact without_nil
  | some request => exact without_unless (without_broadcast _ (silent _))

theorem handleEntityDespawnReq_without (junk : UInt8)
    (silent : ∀ id reason, kind (.entityDespawn id reason) = false) :
    Without kind (server.handleEntityDespawnReq player reader junk).2 := by
  unfold handleEntityDespawnReq
  cases reader.readU32 with
  | none => exact without_nil
  | some first => exact without_unless (without_broadcast _ (silent _ _))

theorem handleZoneRequest_without (silent : ∀ record, kind (.entitySpawn record) = false) :
    Without kind (server.handleZoneRequest player reader).2 := by
  refine without_of_calls fun call inside => ?_
  obtain ⟨id, entity, -, rfl⟩ := mem_handleZoneRequest server player reader inside
  exact without_send (silent _)

theorem handleBuildRepair_without (silent : ∀ id progress, kind (.buildProgress id progress) = false) :
    Without kind (server.handleBuildRepair player reader).2 := by
  refine without_onMessage fun msg => ?_
  cases server.entities.lookup msg.buildingId with
  | none => exact without_nil
  | some building =>
    exact without_unless (without_unless (without_broadcastExcept _ _ _ (silent _ _)))

theorem handleTradeRequest_without (silent : ∀ msg, kind (.tradeResult msg) = false) :
    Without kind (server.handleTradeRequest player reader).2 := by
  refine without_onMessage fun msg => without_unless ?_
  split_ifs
  · exact without_sendTo _ _ (silent _)
  · exact without_sendTo _ _ (silent _)
  · exact without_broadcast _ (silent _)

theorem handlePlayerReady_without (key : PlayerID) (silent : kind .allPlayersReady = false) :
    Without kind (server.handlePlayerReady key player).2 := by
  refine without_unless ?_
  simp only
  split_ifs
  · exact without_broadcast _ silent
  · exact without_nil

theorem handleLobbyReady_without (key : PlayerID) (line : ∀ text, kind (.systemMessage text) = false)
    (start : ∀ count, kind (.lobbyStart count) = false) :
    Without kind (server.handleLobbyReady key player).2 := by
  refine (without_broadcast _ (line _)).append ?_
  split_ifs
  · exact (without_broadcast _ (line _)).append (without_broadcast _ (start _))
  · exact without_nil

/-- A command may throw somebody out, set the time, or speak to all. -/
theorem handleAdminCommand_without (line : ∀ text, kind (.systemMessage text) = false)
    (refusal : ∀ code text, kind (.handshakeReject code text) = false)
    (answer : ∀ success text, kind (.adminResponse success text) = false)
    (time : ∀ msg, kind (.timeSync msg) = false) :
    Without kind (server.handleAdminCommand player reader).2 := by
  have respond (server : GameServer) (success : Bool) (text : Bytes) :
      Without kind (server.respond player success text) := without_sendTo _ _ (answer _ _)
  have changed (server : GameServer) (text : Bytes) : Without kind (server.changed player text).2 :=
    (without_broadcast _ (time _)).append (respond _ _ _)
  have refused (peer : Peer) (code : UInt8) (text : Bytes) : Without kind (reject peer code text) := by
    refine without_of_calls fun call inside => ?_
    rcases List.mem_cons.mp inside with rfl | inside
    · exact without_send (refusal _ _)
    · rw [List.mem_singleton.mp inside]
      exact fun other packet made => nomatch made
  refine without_onMessage fun msg => ?_
  split_ifs
  · exact respond _ _ _
  · split
    · unfold adminKick
      cases server.players.lookup msg.targetPlayerId with
      | none => exact respond _ _ _
      | some target =>
        simp only
        by_cases host : target.id = server.hostPlayerId
        · rw [if_pos host]
          exact respond _ _ _
        · rw [if_neg host]
          exact ((without_broadcast _ (line _)).append (refused _ _ _)).append (respond _ _ _)
    · unfold adminSetTime
      split_ifs
      · exact changed _ _
      · exact respond _ _ _
    · unfold adminSetWeather
      simp only
      split_ifs
      · exact changed _ _
      · exact respond _ _ _
    · unfold adminAnnounce
      split_ifs
      · exact respond _ _ _
      · exact (without_broadcast _ (line _)).append (respond _ _ _)
    · unfold adminSetSpeed
      split_ifs
      · exact changed _ _
      · exact respond _ _ _
    · exact respond _ _ _

/-- **A handler says nothing that is not on its list.** -/
theorem handlePlayerMessage_without {type : MessageType}
    (silent : ∀ msg, type.answers msg = true → kind msg = false) (peer : Peer) (key : PlayerID)
    (env : PacketEnv) :
    Without kind (server.handlePlayerMessage type peer key player reader env).2 := by
  have relay {channel : Nat} {msg : S2C} (listed : type.answers msg = true) :
      Without kind (server.broadcastExcept player.id channel msg) :=
    without_broadcastExcept _ _ _ (silent _ listed)
  have tell {channel : Nat} {msg : S2C} (listed : type.answers msg = true) :
      Without kind (broadcast channel msg) := without_broadcast _ (silent _ listed)
  cases type with
  | C2S_PositionUpdate =>
    show Without kind (server.handlePositionUpdate player reader key).2
    unfold handlePositionUpdate
    cases reader.readU8 with
    | none => exact without_nil
    | some read => exact without_nil
  | C2S_MoveCommand => exact without_onMessage fun msg => without_unless (relay rfl)
  | C2S_AttackIntent =>
    exact handleAttackIntent_without env.dice (fun _ => silent _ rfl) (fun _ => silent _ rfl)
      fun _ => silent _ rfl
  | C2S_ChatMessage => exact handleChatMessage_without fun _ _ => silent _ rfl
  | C2S_BuildRequest => exact without_onMessage fun msg => without_unless (relay rfl)
  | C2S_EntitySpawnReq => exact handleEntitySpawnReq_without key fun _ => silent _ rfl
  | C2S_EntityDespawnReq => exact handleEntityDespawnReq_without env.junk fun _ _ => silent _ rfl
  | C2S_EquipmentUpdate =>
    exact without_onMessage fun msg => without_unless (without_unless (relay rfl))
  | C2S_ZoneRequest => exact handleZoneRequest_without fun _ => silent _ rfl
  | C2S_ItemPickup => exact without_onMessage fun msg => without_unless (relay rfl)
  | C2S_ItemDrop => exact without_onMessage fun msg => without_unless (relay rfl)
  | C2S_TradeRequest => exact handleTradeRequest_without fun _ => silent _ rfl
  | C2S_SquadCreate => exact handleSquadCreate_without fun _ _ _ => silent _ rfl
  | C2S_SquadAddMember => exact without_onMessage fun msg => without_unless (relay rfl)
  | C2S_FactionRelation =>
    exact without_onMessage fun msg => without_unless (without_unless (tell rfl))
  | C2S_PlayerReady => exact handlePlayerReady_without key (silent _ rfl)
  | C2S_BuildDismantle => exact without_onMessage fun msg => without_unless (relay rfl)
  | C2S_BuildRepair => exact handleBuildRepair_without fun _ _ => silent _ rfl
  | C2S_CombatStance =>
    exact without_onMessage fun msg => without_unless (without_unless (relay rfl))
  | C2S_CombatKO => exact without_onMessage fun msg => without_unless (tell rfl)
  | C2S_CombatDeath => exact without_onMessage fun msg => without_unless (tell rfl)
  | C2S_LimbHealth => exact without_onMessage fun msg => without_unless (relay rfl)
  | C2S_StatusEffect =>
    exact without_onMessage fun msg => without_unless (without_unless (relay rfl))
  | C2S_ItemTransfer =>
    exact without_onMessage fun msg =>
      without_unless (without_unless (without_unless ((relay rfl).append (relay rfl))))
  | C2S_DoorInteract =>
    exact without_onMessage fun msg =>
      without_unless (without_unless (without_unless (tell rfl)))
  | C2S_AdminCommand =>
    exact handleAdminCommand_without (fun _ => silent _ rfl) (fun _ _ => silent _ rfl)
      (fun _ _ => silent _ rfl) fun _ => silent _ rfl
  | C2S_LobbyReady =>
    exact handleLobbyReady_without key (fun _ => silent _ rfl) fun _ => silent _ rfl
  | C2S_Keepalive =>
    refine without_of_calls fun call inside => ?_
    rw [List.mem_singleton.mp inside]
    exact without_send (silent _ rfl)
  | C2S_PipelineSnapshot => exact relay rfl
  | C2S_PipelineEvent => exact relay rfl
  | C2S_Handshake => exact without_nil
  | C2S_Disconnect => exact without_nil
  | C2S_ServerQuery => exact without_nil

end GameServer

/-! ### Everything else -/

namespace GameServer

variable {server : GameServer} {kind : S2C → Bool}

theorem without_cons {peer : Peer} {packet : Sent} {calls : List Call}
    (silent : kind packet.msg = false) (rest : Without kind calls) :
    Without kind (.send peer packet :: calls) := by
  show Without kind ([.send peer packet] ++ calls)
  refine Without.append (without_of_calls fun call inside => ?_) rest
  rw [List.mem_singleton.mp inside]
  exact without_send silent

theorem without_cut {call : Call} (cuts : ∀ peer, call.packetFor peer = none) : Without kind [call] := by
  refine without_of_calls fun other inside peer packet made => ?_
  rw [List.mem_singleton.mp inside, cuts] at made
  cases made

theorem without_flatMap {α : Type} {items : List α} {calls : α → List Call}
    (each : ∀ item ∈ items, Without kind (calls item)) : Without kind (items.flatMap calls) := by
  refine without_of_calls fun call inside peer packet made => ?_
  obtain ⟨item, member, called⟩ := List.mem_flatMap.mp inside
  exact each item member peer packet (List.mem_filterMap.mpr ⟨call, called, made⟩)

variable (silent : ∀ msg, msg.unprompted = true → msg.introduces = false → kind msg = false)

include silent

/-- Who is refused is told why, and cut off. -/
theorem reject_without (peer : Peer) (code : UInt8) (text : Bytes) : Without kind (reject peer code text) :=
  without_cons (silent _ rfl rfl) (without_cut fun _ => rfl)

theorem reassignHost_without (leavingId : PlayerID) : Without kind (server.reassignHost leavingId).2 := by
  unfold reassignHost
  split_ifs
  · exact without_nil
  · split
    · exact without_nil
    · exact (without_broadcast _ (silent _ rfl rfl)).append (without_broadcast _ (silent _ rfl rfl))

/-- The others hear of a player who leaves, and of the new host. -/
theorem removePlayer_without (player : ConnectedPlayer) : Without kind (server.removePlayer player).2 :=
  ((without_broadcastExcept _ _ _ (silent _ rfl rfl)).append (reassignHost_without silent _)).append
    (without_broadcast _ (silent _ rfl rfl))

theorem handleDisconnect_without (peer : Peer) : Without kind (server.handleDisconnect peer).2 := by
  unfold handleDisconnect
  cases server.getPlayer peer with
  | none => exact without_nil
  | some found => exact removePlayer_without silent found.2

/-- An admission says nothing of the kind if the snapshot does not. -/
theorem seatPlayer_without {peer : Peer} {name : Bytes} (created : PacketCreation)
    (snapshot : Without kind ((server.hosted peer name).sendWorldSnapshot (server.newPlayer peer name))) :
    Without kind (server.seatPlayer peer name created).2 := by
  have host {server : GameServer} {check : Prop} [Decidable check] :
      Without kind (if check then server.broadcastHostAssignment else []) := by
    split_ifs
    · exact without_broadcast _ (silent _ rfl rfl)
    · exact without_nil
  unfold seatPlayer
  simp only
  cases created.ack with
  | false => exact without_nil
  | true =>
    cases created.faction with
    | false => exact without_cons (silent _ rfl rfl) host
    | true =>
      refine (without_cons (silent _ rfl rfl) host).append ?_
      exact without_cons (silent _ rfl rfl) (without_welcome (fun _ _ => silent _ rfl rfl) (fun _ => silent _ rfl rfl)
        snapshot)

/-- A handshake is refused, or answered with all there is. -/
theorem handleHandshake_without (peer : Peer) (reader : PacketReader) (created : PacketCreation)
    (spawn : ∀ record, kind (.entitySpawn record) = false) :
    Without kind (server.handleHandshake peer reader created).2 := by
  refine without_onMessage fun msg => ?_
  split_ifs
  · exact without_nil
  · exact reject_without silent _ _ _
  · exact reject_without silent _ _ _
  · exact seatPlayer_without silent _ (without_snapshot _ _ (fun _ _ _ => spawn _) fun _ => silent _ rfl rfl)

theorem handleServerQuery_without (peer : Peer) (reader : PacketReader) :
    Without kind (server.handleServerQuery peer reader).2 :=
  without_onMessage fun _ => without_cons (silent _ rfl rfl) (without_cut fun _ => rfl)

/-- The periodic work tells positions, the time and who is there. -/
theorem updateEnd_without (deltaTime : F32) (roundTripTime : Peer → UInt32) :
    Without kind (server.updateEnd deltaTime roundTripTime).2 := by
  have positions (server : GameServer) : Without kind server.broadcastPositions := by
    refine without_of_calls fun call inside => ?_
    obtain ⟨⟨id, player⟩, -, made⟩ := List.mem_filterMap.mp inside
    obtain ⟨packet, packed, rfl⟩ := Option.map_eq_some_iff.mp made
    unfold positionPacket at packed
    simp only at packed
    split_ifs at packed
    cases packed
    exact without_send (silent _ rfl rfl)
  have time (server : GameServer) : Without kind (server.syncTime deltaTime).2 := by
    unfold syncTime
    simp only
    split_ifs
    · exact without_broadcast _ (silent _ rfl rfl)
    · exact without_nil
  have heart (server : GameServer) : Without kind (server.beatHeart deltaTime).2 := by
    unfold beatHeart
    simp only
    split_ifs
    · exact without_flatMap fun entry _ => without_sendTo _ _ (silent _ rfl rfl)
    · exact without_nil
  have clean (server : GameServer) : Without kind (server.cleanUpOrphans deltaTime).2 := by
    unfold cleanUpOrphans
    simp only
    split_ifs
    · exact without_flatMap fun id _ => without_broadcast _ (silent _ rfl rfl)
    · exact without_nil
  exact (((positions _).append (time _)).append (heart _)).append (clean _)

end GameServer

/-- A message of this type, from this player, is handled. -/
def Handles (sys : System) (event : Event) (type : MessageType) (key : PlayerID)
    (player : ConnectedPlayer) : Prop :=
  ∃ peer data channel env reader, event = .packet peer data channel env
    ∧ sys.receives peer = true ∧ openPacket data channel = some (type, reader)
    ∧ sys.server.getPlayer peer = some (key, player)

/-- **What is not said without being asked is an answer.** -/
theorem answer_of_inbox {sys : System} {event : Event} {slot : Peer} {packet : Sent}
    (inside : packet ∈ inbox slot (machine.emit sys event)) (prompted : packet.msg.unprompted = false) :
    ∃ type key player, Handles sys event type key player ∧ type.answers packet.msg = true := by
  by_contra unasked
  push Not at unasked
  have silent (msg : S2C) (often : msg.unprompted = true) : decide (msg = packet.msg) = false := by
    refine decide_eq_false fun same => ?_
    rw [same, prompted] at often
    cases often
  have also (msg : S2C) (often : msg.unprompted = true) (_ : msg.introduces = false) := silent msg often
  have never : Without (fun msg => decide (msg = packet.msg)) (sys.react event).2.2 := by
    cases event with
    | connect peer host roundTripTime =>
      unfold react
      simp only
      split_ifs
      · exact without_nil
      · unfold handleConnect
        split_ifs
        · exact without_cut fun _ => rfl
        · exact without_nil
    | packet peer data channel env =>
      unfold react
      simp only
      split_ifs with received
      · unfold handlePacket
        cases opened : openPacket data channel with
        | none => exact without_nil
        | some found =>
          obtain ⟨type, reader⟩ := found
          show Without _ (sys.server.dispatch type peer reader env).2
          by_cases handshake : type = .C2S_Handshake
          · rw [handshake]
            exact handleHandshake_without also peer reader env.created fun _ => silent _ rfl
          · by_cases query : type = .C2S_ServerQuery
            · rw [query]
              exact handleServerQuery_without also peer reader
            · by_cases goodbye : type = .C2S_Disconnect
              · rw [goodbye]
                exact without_cut fun _ => rfl
              · rw [dispatch_needsPlayer sys.server handshake query goodbye]
                cases behind : sys.server.getPlayer peer with
                | none => exact without_nil
                | some player =>
                  refine handlePlayerMessage_without (fun msg listed => ?_) peer player.1 env
                  refine decide_eq_false fun same => ?_
                  rw [same] at listed
                  exact unasked type player.1 player.2
                    ⟨peer, data, channel, env, reader, rfl, received, opened, behind⟩ listed
      · exact without_nil
    | disconnect peer =>
      unfold react
      simp only
      split_ifs
      · exact handleDisconnect_without also peer
      · exact without_nil
    | updateBegin elapsed => exact without_nil
    | updateEnd elapsed roundTripTime => exact updateEnd_without also _ _
    | kick id =>
      unfold react kickPlayer
      simp only
      cases sys.server.players.lookup id with
      | none => exact without_nil
      | some player =>
        exact (without_broadcast _ (silent _ rfl)).append (without_cut fun _ => rfl)
    | say line => exact without_broadcast _ (silent _ rfl)
    | rehash players entities savedPlayers => exact without_nil
  have said := never slot packet inside
  simp at said

end KenshiMP
