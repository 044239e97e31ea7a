/-
**What a player can do to the entities of others.**

A message of a player who is not the host leaves every entity of another owner where it is, and of
its fields only health and life can change, in a fight that the player's own entity has begun. The
one exception is not a handler with a missing check: a new entity is stored under the next number
whether or not something is stored there (`packetIsolation_iff`).
-/

import KenshiMP.FreshIds

namespace KenshiMP

open Wire (Bytes ascii)
open Assoc
open GameServer
open ServerAuthorityValidator
open Persistence
open KenshiMP.System

/-! ### The property -/

/-- The packet is an attack, a knockout or a death, and names this attacker or killer. -/
inductive NamesAttacker (data : Bytes) (channel : Nat) (attacker : EntityID) : Prop
  | attack {reader rest : PacketReader} {msg : MsgAttackIntent}
      (opened : openPacket data channel = some (.C2S_AttackIntent, reader))
      (read : reader.readRaw MsgAttackIntent.codec = some (msg, rest))
      (named : msg.attackerId = attacker) : NamesAttacker data channel attacker
  | knockout {reader rest : PacketReader} {id : EntityID} {reason : UInt8} {health : F32}
      (opened : openPacket data channel = some (.C2S_CombatKO, reader))
      (read : reader.readRaw combatKOReport = some ((id, attacker, reason, health), rest)) :
      NamesAttacker data channel attacker
  | death {reader rest : PacketReader} {msg : MsgCombatDeath}
      (opened : openPacket data channel = some (.C2S_CombatDeath, reader))
      (read : reader.readRaw MsgCombatDeath.codec = some (msg, rest))
      (named : msg.killerId = attacker) : NamesAttacker data channel attacker

/-- The packet is a spawn or build request that the server accepts. -/
inductive StoresNew (server : GameServer) (player : ConnectedPlayer) (data : Bytes) (channel : Nat) : Prop
  | spawn {reader : PacketReader} {request : SpawnRequest}
      (opened : openPacket data channel = some (.C2S_EntitySpawnReq, reader))
      (read : readSpawnRequest reader = some request) (accepted : server.acceptsSpawn request = true) :
      StoresNew server player data channel
  | build {reader rest : PacketReader} {msg : MsgBuildRequest}
      (opened : openPacket data channel = some (.C2S_BuildRequest, reader))
      (read : reader.readRaw MsgBuildRequest.codec = some (msg, rest))
      (accepted : acceptsBuild player msg = true) : StoresNew server player data channel

/-- The entity is stored as it was, but for its health and life, and these changed only if the packet
names an entity of the player as the attacker. -/
def Isolated (server after : GameServer) (player : ConnectedPlayer) (data : Bytes) (channel : Nat)
    (id : EntityID) (entity : ServerEntity) : Prop :=
  ∃ kept, after.entities.lookup id = some kept
    ∧ kept = { entity with health := kept.health, alive := kept.alive }
    ∧ ((kept.health ≠ entity.health ∨ kept.alive ≠ entity.alive) →
      ∃ attacker own, NamesAttacker data channel attacker
        ∧ server.entities.lookup attacker = some own ∧ own.owner = player.id)

variable {server : GameServer} {player : ConnectedPlayer} {data : Bytes} {channel : Nat}
  {id : EntityID} {entity : ServerEntity}

theorem isolated_of_same {after : GameServer} (same : after.entities.lookup id = some entity) :
    Isolated server after player data channel id entity := by
  refine ⟨entity, same, rfl, ?_⟩
  rintro (changed | changed)
  · exact absurd rfl changed
  · exact absurd rfl changed

/-! ### The effects -/

/-- A fight touches one entity, and of that the health and the life. -/
theorem isolated_of_fight {victim attacker : EntityID} {f : ServerEntity → ServerEntity}
    {own : ServerEntity} (stored : server.entities.lookup id = some entity) (hit : id = victim →
      f entity = { entity with health := (f entity).health, alive := (f entity).alive })
    (named : NamesAttacker data channel attacker)
    (there : id = victim → server.entities.lookup attacker = some own ∧ own.owner = player.id) :
    Isolated server (server.updateEntity victim f) player data channel id entity := by
  by_cases same : id = victim
  · refine ⟨f entity, ?_, hit same, fun _ => ⟨attacker, own, named, there same⟩⟩
    show AList.lookup id (AMap.modify victim f server.entities) = _
    rw [AMap.lookup_modify, stored, Option.map_some, if_pos same]
  · refine isolated_of_same ?_
    show AList.lookup id (AMap.modify victim f server.entities) = _
    rw [AMap.lookup_modify_ne same, stored]

/-- Who may report a fight against somebody else's entity has named one of their own. -/
theorem attacker_of_mayReport {attacker : EntityID} (may : server.mayReport player id attacker = true)
    (stored : server.entities.lookup id = some entity) (foreign : entity.owner ≠ player.id) :
    ∃ own, server.entities.lookup attacker = some own ∧ own.owner = player.id := by
  unfold mayReport at may
  rw [stored] at may
  simp only [Bool.and_eq_true, Bool.or_eq_true, decide_eq_true_eq] at may
  exact owner_of_owns server player (may.2.resolve_left foreign).2

theorem attacker_of_commands {attacker : EntityID}
    (commands : canClientCommandEntity player.id attacker server.entities = true) :
    ∃ own, server.entities.lookup attacker = some own ∧ own.owner = player.id := by
  cases found : server.entities.lookup attacker with
  | none =>
    unfold canClientCommandEntity at commands
    rw [found] at commands
    cases commands
  | some own => exact ⟨own, rfl, owner_of_commands commands found⟩

/-- Erasing an entity of one's own erases no other. -/
theorem isolated_of_erase {key : EntityID} {erased : ServerEntity}
    (stored : server.entities.lookup id = some entity) (foreign : entity.owner ≠ player.id)
    (target : server.entities.lookup key = some erased) (own : erased.owner = player.id) :
    Isolated server { server with entities := AList.erase key server.entities } player data channel id
      entity := by
  refine isolated_of_same ?_
  show AList.lookup id (AList.erase key server.entities) = _
  rw [AMap.lookup_erase_eq, if_neg, stored]
  rintro rfl
  rw [stored] at target
  cases target
  exact foreign own

/-- A new entity is stored beside the others. -/
theorem isolated_of_insert {after : GameServer} {new : ServerEntity}
    (stored : server.entities.lookup id = some entity)
    (entities : after.entities = AList.insert server.nextEntityId new server.entities)
    (beside : server.nextEntityId ≠ id) : Isolated server after player data channel id entity := by
  refine isolated_of_same ?_
  rw [entities, AMap.lookup_insert_eq, if_neg (Ne.symm beside), stored]

theorem Effect.isolated {type : MessageType} {reader : PacketReader} {outcome : Outcome}
    (effect : Effect server player type reader outcome)
    (opened : openPacket data channel = some (type, reader))
    (guest : player.id ≠ server.hostPlayerId) (stored : server.entities.lookup id = some entity)
    (foreign : entity.owner ≠ player.id)
    (beside : StoresNew server player data channel → server.nextEntityId ≠ id) :
    Isolated server outcome.1 player data channel id entity := by
  cases effect with
  | tend keeps entities next quiet others =>
    exact isolated_of_same (others id entity stored foreign guest)
  | announce => exact isolated_of_same stored
  | @wound reader victim attacker reason health rest read may calls quiet =>
    by_cases same : id = victim
    · obtain ⟨own, there⟩ := attacker_of_mayReport (same ▸ may) stored foreign
      exact isolated_of_fight stored (fun _ => rfl) (.knockout opened read) fun _ => there
    · refine isolated_of_same ?_
      show AList.lookup id (AMap.modify victim _ server.entities) = _
      rw [AMap.lookup_modify_ne same, stored]
  | @strike reader msg target dice commands found alive rest read =>
    obtain ⟨own, there⟩ := attacker_of_commands commands
    refine isolated_of_fight stored (fun same => ?_) (.attack opened read rfl) fun _ => there
    rw [same, found] at stored
    cases stored
    rfl
  | @kill reader msg may rest read =>
    by_cases same : id = msg.entityId
    · obtain ⟨own, there⟩ := attacker_of_mayReport (same ▸ may) stored foreign
      exact isolated_of_fight stored (fun _ => rfl) (.death opened read rfl) fun _ => there
    · refine isolated_of_same ?_
      show AList.lookup id (AMap.modify msg.entityId _ server.entities) = _
      rw [AMap.lookup_modify_ne same, stored]
  | spawn read accepted keeps entities next =>
    exact isolated_of_insert stored entities (beside (.spawn opened read accepted))
  | build read accepted => exact isolated_of_insert stored rfl (beside (.build opened read accepted))
  | despawn reason target owner => exact isolated_of_erase stored foreign target owner
  | dismantle read target allowed =>
    exact isolated_of_erase stored foreign target (allowed.resolve_right guest)

/-! ### Every packet -/

/-- Storing a new entity under the number of somebody else's leaves nothing of it. -/
theorem StoresNew.overwrites {peer : Peer} {key : PlayerID} (env : PacketEnv)
    (behind : server.getPlayer peer = some (key, player))
    (stores : StoresNew server player data channel) :
    ∃ new, (server.handlePacket peer data channel env).1.entities.lookup server.nextEntityId
        = some new ∧ new.owner = player.id := by
  have handled {type : MessageType} {reader : PacketReader}
      (opened : openPacket data channel = some (type, reader)) :
      server.handlePacket peer data channel env = server.dispatch type peer reader env := by
    unfold handlePacket
    rw [opened]
  cases stores with
  | @spawn reader request opened read accepted =>
    refine ⟨request.entity server.nextEntityId player.id, ?_, ?_⟩
    · rw [handled opened, dispatch_needsPlayer server (by decide) (by decide) (by decide), behind]
      show (server.handleEntitySpawnReq player reader key).1.entities.lookup _ = _
      unfold handleEntitySpawnReq
      rw [read]
      simp only
      rw [if_neg (by rw [accepted]; decide)]
      exact AList.lookup_insert _
    · unfold SpawnRequest.entity spawnedEntity
      simp only
      cases request.extended with
      | none => rfl
      | some extended => rfl
  | @build reader rest msg opened read accepted =>
    refine ⟨builtEntity server.nextEntityId player.id msg, ?_, rfl⟩
    rw [handled opened, dispatch_needsPlayer server (by decide) (by decide) (by decide), behind]
    show (server.handleBuildRequest player reader).1.entities.lookup _ = _
    unfold handleBuildRequest onMessage
    rw [read]
    simp only
    rw [if_neg (by rw [accepted]; decide)]
    exact AList.lookup_insert _

/-- **Packets are isolated exactly when they store nothing in the place of the entity.** For every
server, every packet of a player who is not the host, and every entity of another owner. -/
theorem packetIsolation_iff {peer : Peer} {key : PlayerID} (env : PacketEnv)
    (behind : server.getPlayer peer = some (key, player)) (guest : player.id ≠ server.hostPlayerId)
    (stored : server.entities.lookup id = some entity) (foreign : entity.owner ≠ player.id) :
    Isolated server (server.handlePacket peer data channel env).1 player data channel id entity
      ↔ ¬ (server.nextEntityId = id ∧ StoresNew server player data channel) := by
  constructor
  · rintro ⟨kept, found, same, -⟩ ⟨rfl, stores⟩
    obtain ⟨new, there, owner⟩ := stores.overwrites env behind
    rw [found] at there
    cases there
    rw [same] at owner
    exact foreign owner
  · intro beside
    rcases handlePacket_effect server behind data channel env with
      same | ⟨type, reader, opened, effect⟩
    · rw [same]
      exact isolated_of_same stored
    · exact effect.isolated opened guest stored foreign fun stores same => beside ⟨same, stores⟩

/-! ### Two spawns -/

/-- A host, and a guest beside them, on a server that has loaded this file. -/
def withGuest (file : Option Json.Value) : System :=
  machine.run (boot {} file) (Client.joins 0 (ascii "Beep") ++ Client.joins 1 (ascii "Bo"))

/-- What the guest sends to get a character. -/
def spawnPacket : Bytes := Client.entitySpawn 1 0 2 0 {} {} 0 (ascii "Greenlander")

theorem withGuest_player (file : Option Json.Value)
    (known : ((withGuest file).server.getPlayer 1).map (fun found => (found.1, found.2.id))
      = some (2, 2)) :
    ∃ player, (withGuest file).server.getPlayer 1 = some (2, player) ∧ player.id = 2 := by
  obtain ⟨⟨key, player⟩, found, same⟩ := Option.map_eq_some_iff.mp known
  cases (Prod.mk.inj same).1
  exact ⟨player, found, (Prod.mk.inj same).2⟩

/-- The file ends in the middle: the shopkeeper is loaded, and the guest's spawn takes their place. -/
theorem packetIsolation_fails :
    ∃ player entity, (withGuest (some (document [entityJson shopkeeper, .null]))).server.getPlayer 1
        = some (2, player)
      ∧ player.id ≠ (withGuest (some (document [entityJson shopkeeper, .null]))).server.hostPlayerId
      ∧ (withGuest (some (document [entityJson shopkeeper, .null]))).server.entities.lookup 1
        = some entity
      ∧ entity.owner ≠ player.id
      ∧ ¬ Isolated (withGuest (some (document [entityJson shopkeeper, .null]))).server
        ((withGuest (some (document [entityJson shopkeeper, .null]))).server.handlePacket 1 spawnPacket
          KMP_CHANNEL_RELIABLE_ORDERED {}).1 player spawnPacket KMP_CHANNEL_RELIABLE_ORDERED 1
          entity := by
  obtain ⟨player, behind, second⟩ :=
    withGuest_player (some (document [entityJson shopkeeper, .null])) (by decide +kernel)
  have known : storedAs (withGuest (some (document [entityJson shopkeeper, .null]))).server 1
      = some (ascii "Shopkeeper", 0) := by decide +kernel
  obtain ⟨entity, stored, same⟩ := Option.map_eq_some_iff.mp known
  have unowned : entity.owner = 0 := (Prod.mk.inj same).2
  refine ⟨player, entity, behind, ?_, stored, ?_, ?_⟩
  · rw [second]
    decide +kernel
  · rw [second, unowned]
    decide
  · rintro ⟨kept, found, unchanged, -⟩
    have replaced : storedAs ((withGuest (some (document [entityJson shopkeeper, .null]))
        ).server.handlePacket 1 spawnPacket KMP_CHANNEL_RELIABLE_ORDERED {}).1 1
        = some (ascii "Greenlander", 2) := by decide +kernel
    unfold storedAs at replaced
    rw [found] at replaced
    have owner : kept.owner = 2 := (Prod.mk.inj (Option.some.inj replaced)).2
    rw [unchanged] at owner
    exact absurd (unowned.symm.trans owner) (by decide)

/-- From a whole file the counter is right, and the shopkeeper stays. -/
theorem packetIsolation_iff_whole :
    ∃ player entity, (withGuest (some (document [entityJson shopkeeper]))).server.getPlayer 1
        = some (2, player)
      ∧ Isolated (withGuest (some (document [entityJson shopkeeper]))).server
        ((withGuest (some (document [entityJson shopkeeper]))).server.handlePacket 1 spawnPacket
          KMP_CHANNEL_RELIABLE_ORDERED {}).1 player spawnPacket KMP_CHANNEL_RELIABLE_ORDERED 1
          entity := by
  obtain ⟨player, behind, second⟩ :=
    withGuest_player (some (document [entityJson shopkeeper])) (by decide +kernel)
  have known : storedAs (withGuest (some (document [entityJson shopkeeper]))).server 1
      = some (ascii "Shopkeeper", 0) := by decide +kernel
  obtain ⟨entity, stored, same⟩ := Option.map_eq_some_iff.mp known
  have unowned : entity.owner = 0 := (Prod.mk.inj same).2
  refine ⟨player, entity, behind, (packetIsolation_iff {} behind ?_ stored ?_).mpr ?_⟩
  · rw [second]
    decide +kernel
  · rw [second, unowned]
    decide
  · rintro ⟨taken, -⟩
    exact absurd taken (by decide +kernel)

end KenshiMP
