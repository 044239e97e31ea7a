/-
**What a message of a player can do to the server.**

The thirty handlers do nine different things (`Effect`): tend entities without touching who they
are, whom they belong to or how healthy they are; announce stored entities; wound, strike, kill;
store a spawned or a built entity; erase one for its owner, or for its owner or the host. None of
them touches slots, players' identities, saved players or the host (`Keeps`).

`handlePlayerMessage_effect` says so once for the whole dispatch. Invariants are proved over
`Effect`, not over the handlers.
-/

import KenshiMP.Server.Update

namespace KenshiMP

open Wire (Bytes Codec)
open Assoc
open ServerAuthorityValidator

/-! ### News -/

/-- The messages about what exists, to whom it belongs, who has died and who is the host. -/
def S2C.isNews : S2C → Bool
  | .handshakeAck _ | .hostAssignment _ | .entitySpawn _ | .buildPlaced _ | .entityDespawn _ _
  | .buildDestroyed _ _ | .playerLeft _ _ | .combatDeath _ => true
  | _ => false

def Call.isNews : Call → Bool
  | .broadcast packet | .send _ packet => packet.msg.isNews
  | .disconnect _ | .disconnectLater _ => false

/-- No call carries news. -/
def Quiet (calls : List Call) : Prop := ∀ call ∈ calls, call.isNews = false

theorem quiet_nil : Quiet [] := fun _ inside => by cases inside

theorem Quiet.append {first second : List Call} (one : Quiet first) (two : Quiet second) :
    Quiet (first ++ second) := by
  intro call inside
  rcases List.mem_append.mp inside with inside | inside
  · exact one call inside
  · exact two call inside

theorem quiet_cons {call : Call} {calls : List Call} (one : call.isNews = false)
    (two : Quiet calls) : Quiet (call :: calls) := by
  intro other inside
  rcases List.mem_cons.mp inside with rfl | inside
  · exact one
  · exact two other inside

theorem quiet_broadcast (channel : Nat) {msg : S2C} (noNews : msg.isNews = false) :
    Quiet (GameServer.broadcast channel msg) := quiet_cons noNews quiet_nil

theorem quiet_systemMessage (text : Bytes) : Quiet (GameServer.broadcastSystemMessage text) :=
  quiet_broadcast _ rfl

/-! ### Changes of entities -/

/-- The entity is the same one, under the same authority, of the same owner. -/
structure SameCore (before after : ServerEntity) : Prop where
  id : after.id = before.id
  generation : after.generation = before.generation
  type : after.type = before.type
  owner : after.owner = before.owner
  state : after.state = before.state
  authority : after.authority = before.authority
  templateId : after.templateId = before.templateId
  factionId : after.factionId = before.factionId
  templateName : after.templateName = before.templateName

theorem SameCore.refl (entity : ServerEntity) : SameCore entity entity :=
  ⟨rfl, rfl, rfl, rfl, rfl, rfl, rfl, rfl, rfl⟩

theorem SameCore.trans {a b c : ServerEntity} (one : SameCore a b) (two : SameCore b c) : SameCore a c :=
  ⟨two.id.trans one.id, two.generation.trans one.generation, two.type.trans one.type,
    two.owner.trans one.owner, two.state.trans one.state, two.authority.trans one.authority,
    two.templateId.trans one.templateId, two.factionId.trans one.factionId,
    two.templateName.trans one.templateName⟩

/-- The entity is at a usable place. -/
def WellPlaced (entity : ServerEntity) : Prop :=
  badCoords entity.position.x entity.position.y entity.position.z = false
    ∧ entity.rotation.isFinite = true

/-- Tending an entity keeps its life and health, and moves it to usable places only. -/
structure Tended (before after : ServerEntity) : Prop extends SameCore before after where
  alive : after.alive = before.alive
  health : after.health = before.health
  place : (after.position = before.position ∧ after.rotation = before.rotation) ∨ WellPlaced after

theorem Tended.refl (entity : ServerEntity) : Tended entity entity :=
  ⟨SameCore.refl entity, rfl, rfl, Or.inl ⟨rfl, rfl⟩⟩

theorem Tended.trans {a b c : ServerEntity} (one : Tended a b) (two : Tended b c) : Tended a c := by
  refine ⟨one.toSameCore.trans two.toSameCore, two.alive.trans one.alive,
    two.health.trans one.health, ?_⟩
  rcases two.place with ⟨position, rotation⟩ | placed
  · rcases one.place with ⟨position', rotation'⟩ | placed
    · exact Or.inl ⟨position.trans position', rotation.trans rotation'⟩
    · refine Or.inr ?_
      unfold WellPlaced at placed ⊢
      rw [position, rotation]
      exact placed
  · exact Or.inr placed

/-- Each entity is related to the one it becomes; none comes and none goes. -/
structure Related (relation : ServerEntity → ServerEntity → Prop)
    (before after : AMap EntityID ServerEntity) : Prop where
  size : after.size = before.size
  back : ∀ {id new}, after.lookup id = some new → ∃ old, before.lookup id = some old ∧ relation old new
  forth : ∀ {id old}, before.lookup id = some old → ∃ new, after.lookup id = some new ∧ relation old new

namespace Related

variable {relation : ServerEntity → ServerEntity → Prop} {before after : AMap EntityID ServerEntity}

theorem refl (reflexive : ∀ entity, relation entity entity) (entities : AMap EntityID ServerEntity) :
    Related relation entities entities :=
  ⟨rfl, fun found => ⟨_, found, reflexive _⟩, fun found => ⟨_, found, reflexive _⟩⟩

theorem trans (transitive : ∀ a b c, relation a b → relation b c → relation a c)
    {last : AMap EntityID ServerEntity} (one : Related relation before after)
    (two : Related relation after last) : Related relation before last := by
  refine ⟨two.size.trans one.size, fun found => ?_, fun found => ?_⟩
  · obtain ⟨middle, stored, second⟩ := two.back found
    obtain ⟨old, stored', first⟩ := one.back stored
    exact ⟨old, stored', transitive _ _ _ first second⟩
  · obtain ⟨middle, stored, first⟩ := one.forth found
    obtain ⟨new, stored', second⟩ := two.forth stored
    exact ⟨new, stored', transitive _ _ _ first second⟩

theorem tended_trans {first second third : AMap EntityID ServerEntity}
    (one : Related Tended first second) (two : Related Tended second third) :
    Related Tended first third :=
  trans (fun a b c (ab : Tended a b) (bc : Tended b c) => ab.trans bc) one two

/-- Every entity is updated in place. -/
theorem mapVals {f : EntityID → ServerEntity → ServerEntity}
    (changed : ∀ id entity, before.lookup id = some entity → relation entity (f id entity)) :
    Related relation before (AMap.mapVals f before) := by
  refine ⟨AMap.size_mapVals f before, fun {id new} found => ?_, fun {id old} found => ?_⟩
  · rw [AMap.lookup_mapVals] at found
    obtain ⟨old, stored, rfl⟩ := Option.map_eq_some_iff.mp found
    exact ⟨old, stored, changed id old stored⟩
  · refine ⟨f id old, ?_, changed id old found⟩
    rw [AMap.lookup_mapVals, found]
    rfl

/-- One entity is updated in place. -/
theorem modify (reflexive : ∀ entity, relation entity entity) {key : EntityID}
    {f : ServerEntity → ServerEntity}
    (changed : ∀ entity, before.lookup key = some entity → relation entity (f entity)) :
    Related relation before (AMap.modify key f before) := by
  refine mapVals fun id entity stored => ?_
  split_ifs with same
  · exact changed entity (same ▸ stored)
  · exact reflexive entity

end Related

/-! ### What every message keeps -/

/-- What makes a player who they are to the server. -/
def ConnectedPlayer.identity (player : ConnectedPlayer) : PlayerID × Bytes × Peer :=
  (player.id, player.name, player.peer)

/-- No slot, no player's identity or address, no saved record and not the host has changed, and the
time of day is finite if it was. -/
structure Keeps (before after : GameServer) : Prop where
  peers : after.peers = before.peers
  players : ∀ id, (after.players.lookup id).map ConnectedPlayer.identity
    = (before.players.lookup id).map ConnectedPlayer.identity
  loopback : ∀ id, (after.players.lookup id).map ConnectedPlayer.isLoopback
    = (before.players.lookup id).map ConnectedPlayer.isLoopback
  nextPlayerId : after.nextPlayerId = before.nextPlayerId
  hostPlayerId : after.hostPlayerId = before.hostPlayerId
  savedPlayers : ∀ name, after.savedPlayers.lookup name = before.savedPlayers.lookup name
  time : before.timeOfDay.isFinite = true → after.timeOfDay.isFinite = true

theorem Keeps.refl (server : GameServer) : Keeps server server :=
  ⟨rfl, fun _ => rfl, fun _ => rfl, rfl, rfl, fun _ => rfl, id⟩

theorem Keeps.trans {a b c : GameServer} (one : Keeps a b) (two : Keeps b c) : Keeps a c :=
  ⟨two.peers.trans one.peers, fun id => (two.players id).trans (one.players id),
    fun id => (two.loopback id).trans (one.loopback id),
    two.nextPlayerId.trans one.nextPlayerId, two.hostPlayerId.trans one.hostPlayerId,
    fun name => (two.savedPlayers name).trans (one.savedPlayers name), fun finite => two.time (one.time finite)⟩

theorem Keeps.isNone {before after : GameServer} (keeps : Keeps before after) (id : PlayerID) :
    (after.players.lookup id).isNone = (before.players.lookup id).isNone := by
  have same := congrArg Option.isNone (keeps.players id)
  rwa [Option.isNone_map, Option.isNone_map] at same

theorem keeps_updatePlayer (server : GameServer) (key : PlayerID) {f : ConnectedPlayer → ConnectedPlayer}
    (same : ∀ player, (f player).identity = player.identity
      ∧ (f player).isLoopback = player.isLoopback) :
    Keeps server (server.updatePlayer key f) := by
  have kept {α : Type} (field : ConnectedPlayer → α)
      (same : ∀ player, field (f player) = field player) (id : PlayerID) :
      ((server.updatePlayer key f).players.lookup id).map field
        = (server.players.lookup id).map field := by
    show (AList.lookup id (AMap.modify key f server.players)).map _ = _
    rw [AMap.lookup_modify, Option.map_map]
    congr 1
    funext player
    show field (if id = key then f player else player) = field player
    split_ifs
    · exact same player
    · rfl
  exact ⟨rfl, kept _ fun player => (same player).1, kept _ fun player => (same player).2, rfl, rfl,
    fun _ => rfl, fun finite => finite⟩

theorem keeps_updateEntity (server : GameServer) (key : EntityID)
    (f : ServerEntity → ServerEntity) : Keeps server (server.updateEntity key f) :=
  ⟨rfl, fun _ => rfl, fun _ => rfl, rfl, rfl, fun _ => rfl, id⟩

/-! ### The nine effects -/

/-- The entities of other owners stay as they are, unless the player is the host. -/
def SparesOthers (server : GameServer) (player : ConnectedPlayer) (after : GameServer) : Prop :=
  ∀ id entity, server.entities.lookup id = some entity → entity.owner ≠ player.id →
    player.id ≠ server.hostPlayerId → after.entities.lookup id = some entity

theorem spares_of_same {server after : GameServer} {player : ConnectedPlayer}
    (same : after.entities = server.entities) : SparesOthers server player after := by
  intro id entity stored _ _
  rw [same]
  exact stored

/-- What one message of a player does, with the calls it makes. The effects that change what
exists, who lives and how well carry the request that was accepted. -/
inductive Effect (server : GameServer) (player : ConnectedPlayer) :
    MessageType → PacketReader → Outcome → Prop
  | tend {type : MessageType} {reader : PacketReader} {after : GameServer} {calls : List Call}
      (keeps : Keeps server after) (entities : Related Tended server.entities after.entities)
      (nextEntityId : after.nextEntityId = server.nextEntityId) (quiet : Quiet calls)
      (others : SparesOthers server player after) :
      Effect server player type reader (after, calls)
  | announce {type : MessageType} {reader : PacketReader} {calls : List Call}
      (stored : ∀ call ∈ calls, ∃ id entity, server.entities.lookup id = some entity
        ∧ entity.owner ≠ player.id ∧ call = GameServer.announce player.peer entity) :
      Effect server player type reader (server, calls)
  | wound {reader : PacketReader} {id attacker : EntityID} {reason : UInt8} {health : F32}
      {rest : PacketReader}
      (read : reader.readRaw GameServer.combatKOReport = some ((id, attacker, reason, health), rest))
      (may : server.mayReport player id attacker = true) {calls : List Call}
      (quiet : Quiet calls) :
      Effect server player .C2S_CombatKO reader
        (server.updateEntity id fun entity =>
          { entity with health := Function.update entity.health 0 health }, calls)
  | strike {reader : PacketReader} {msg : MsgAttackIntent} {target : ServerEntity} (dice : Dice)
      (commands : canClientCommandEntity player.id msg.attackerId server.entities = true)
      (stored : server.entities.lookup msg.targetId = some target) (alive : target.alive = true)
      {rest : PacketReader} (read : reader.readRaw MsgAttackIntent.codec = some (msg, rest)) :
      Effect server player .C2S_AttackIntent reader
        (server.updateEntity msg.targetId fun _ => (resolveCombat target dice).2,
          GameServer.attackMessages msg (resolveCombat target dice).1)
  | kill {reader : PacketReader} {msg : MsgCombatDeath}
      (may : server.mayReport player msg.entityId msg.killerId = true)
      {rest : PacketReader} (read : reader.readRaw MsgCombatDeath.codec = some (msg, rest)) :
      Effect server player .C2S_CombatDeath reader
        (server.updateEntity msg.entityId fun entity => { entity with alive := false },
          GameServer.broadcast KMP_CHANNEL_RELIABLE_ORDERED (.combatDeath msg))
  | spawn {reader : PacketReader} {after : GameServer} {request : GameServer.SpawnRequest}
      (read : GameServer.readSpawnRequest reader = some request)
      (accepted : server.acceptsSpawn request = true) (keeps : Keeps server after)
      (entities : after.entities = AList.insert server.nextEntityId
        (request.entity server.nextEntityId player.id) server.entities)
      (nextEntityId : after.nextEntityId = server.nextEntityId + 1) :
      Effect server player .C2S_EntitySpawnReq reader
        (after, GameServer.broadcast KMP_CHANNEL_RELIABLE_ORDERED
          (.entitySpawn (request.record server.nextEntityId player.id)))
  | build {reader rest : PacketReader} {msg : MsgBuildRequest}
      (read : reader.readRaw MsgBuildRequest.codec = some (msg, rest))
      (accepted : GameServer.acceptsBuild player msg = true) :
      Effect server player .C2S_BuildRequest reader
        (server.addEntity (GameServer.builtEntity server.nextEntityId player.id msg),
          server.broadcastExcept player.id KMP_CHANNEL_RELIABLE_ORDERED
            (.buildPlaced ⟨server.nextEntityId, msg.templateId, ⟨msg.posX, msg.posY, msg.posZ⟩,
              msg.compressedQuat, player.id⟩))
  | despawn {reader : PacketReader} {id : EntityID} {entity : ServerEntity} (reason : UInt8)
      (stored : server.entities.lookup id = some entity) (owner : entity.owner = player.id) :
      Effect server player .C2S_EntityDespawnReq reader
        ({ server with entities := AList.erase id server.entities },
          GameServer.broadcast KMP_CHANNEL_RELIABLE_ORDERED (.entityDespawn id reason))
  | dismantle {reader rest : PacketReader} {msg : MsgBuildDismantle} {entity : ServerEntity}
      (read : reader.readRaw MsgBuildDismantle.codec = some (msg, rest))
      (stored : server.entities.lookup msg.buildingId = some entity)
      (allowed : entity.owner = player.id ∨ player.id = server.hostPlayerId) :
      Effect server player .C2S_BuildDismantle reader
        ({ server with entities := AList.erase msg.buildingId server.entities },
          server.broadcastExcept player.id KMP_CHANNEL_RELIABLE_ORDERED
            (.buildDestroyed msg.buildingId 2))

namespace GameServer

variable {server : GameServer} {player : ConnectedPlayer} {type : MessageType}
  {reader : PacketReader}

theorem quiet_broadcastExcept (exclude : PlayerID) (channel : Nat) {msg : S2C}
    (noNews : msg.isNews = false) : Quiet (server.broadcastExcept exclude channel msg) := by
  intro call inside
  obtain ⟨⟨id, other⟩, -, made⟩ := List.mem_filterMap.mp inside
  simp only at made
  split_ifs at made
  cases made
  exact noNews

theorem quiet_sendTo (id : PlayerID) (channel : Nat) {msg : S2C} (noNews : msg.isNews = false) :
    Quiet (server.sendTo id channel msg) := by
  unfold sendTo
  cases server.players.lookup id with
  | none => exact quiet_nil
  | some player => exact quiet_cons noNews quiet_nil

/-- Only messages are sent. -/
theorem effect_quiet {calls : List Call} (quiet : Quiet calls) : Effect server player type reader (server, calls) :=
  .tend (Keeps.refl server) (Related.refl Tended.refl _) rfl quiet (spares_of_same rfl)

theorem effect_nothing : Effect server player type reader (server, []) := effect_quiet quiet_nil

/-- An entity of the player's own is changed, or of anybody by the host. -/
theorem spares_updateEntity {id : EntityID} {f : ServerEntity → ServerEntity}
    (own : ∀ entity, server.entities.lookup id = some entity →
      entity.owner = player.id ∨ player.id = server.hostPlayerId) :
    SparesOthers server player (server.updateEntity id f) := by
  intro other entity stored foreign guest
  show AList.lookup other (AMap.modify id f server.entities) = _
  rw [AMap.lookup_modify_ne, stored]
  rintro rfl
  rcases own entity stored with owner | host
  · exact foreign owner
  · exact guest host

/-- One entity is tended. -/
theorem effect_tend {id : EntityID} {f : ServerEntity → ServerEntity} {calls : List Call}
    (tended : ∀ entity, Tended entity (f entity)) (quiet : Quiet calls)
    (own : ∀ entity, server.entities.lookup id = some entity →
      entity.owner = player.id ∨ player.id = server.hostPlayerId) :
    Effect server player type reader (server.updateEntity id f, calls) :=
  .tend (keeps_updateEntity server id f)
    (Related.modify Tended.refl fun entity _ => tended entity) rfl quiet (spares_updateEntity own)

/-- A packet that is too short does nothing. -/
theorem effect_onRead {α : Type} {codec : Codec α} {handle : α → Outcome}
    (handled : ∀ msg rest, reader.readRaw codec = some (msg, rest) →
      Effect server player type reader (handle msg)) :
    Effect server player type reader (server.onMessage reader codec handle) := by
  unfold onMessage
  cases read : reader.readRaw codec with
  | none => exact effect_nothing
  | some message => exact handled message.1 message.2 read

theorem effect_onMessage {α : Type} {codec : Codec α} {handle : α → Outcome}
    (handled : ∀ msg, Effect server player type reader (handle msg)) :
    Effect server player type reader (server.onMessage reader codec handle) :=
  effect_onRead fun msg _ _ => handled msg

/-- A check that fails does nothing. -/
theorem effect_unless {check : Prop} [Decidable check] {outcome : Outcome}
    (passed : ¬ check → Effect server player type reader outcome) :
    Effect server player type reader (if check then (server, []) else outcome) := by
  split_ifs with failed
  · exact effect_nothing
  · exact passed failed

/-- A check of what has to hold. -/
theorem effect_when {check : Bool} {outcome : Outcome}
    (passed : check = true → Effect server player type reader outcome) :
    Effect server player type reader (if !check then (server, []) else outcome) :=
  effect_unless fun accepted => passed (by simpa using accepted)

/-- A message that is passed on to the others. -/
theorem effect_relay {channel : Nat} {msg : S2C} (noNews : msg.isNews = false) :
    Effect server player type reader (server, server.broadcastExcept player.id channel msg) :=
  effect_quiet (quiet_broadcastExcept _ _ noNews)

/-! ### Movement and combat -/

variable (server player reader)

theorem tended_moveEntity (pos : CharacterPosition)
    (usable : badCoords pos.posX pos.posY pos.posZ = false) (entity : ServerEntity) :
    Tended entity (moveEntity pos entity) :=
  ⟨⟨rfl, rfl, rfl, rfl, rfl, rfl, rfl, rfl, rfl⟩, rfl, rfl,
    Or.inr ⟨usable, Quat.decompress_isFinite _⟩⟩

/-- Who may command an entity owns it. -/
theorem owner_of_commands {entities : AMap EntityID ServerEntity} {clientPlayerId : PlayerID}
    {id : EntityID} {entity : ServerEntity}
    (commands : canClientCommandEntity clientPlayerId id entities = true)
    (stored : entities.lookup id = some entity) : entity.owner = clientPlayerId := by
  unfold canClientCommandEntity at commands
  rw [stored] at commands
  simp only at commands
  split_ifs at commands with dead authority foreign
  exact not_not.mp foreign

/-- One record of a position packet tends at most one entity, and places at most the player. -/
theorem applyPosition_tends (key : PlayerID) (progress : GameServer × Bool) (pos : CharacterPosition) :
    Keeps progress.1 (applyPosition player key progress pos).1
      ∧ Related Tended progress.1.entities (applyPosition player key progress pos).1.entities
      ∧ (applyPosition player key progress pos).1.nextEntityId = progress.1.nextEntityId
      ∧ SparesOthers progress.1 player (applyPosition player key progress pos).1 := by
  have nothing : Keeps progress.1 progress.1 ∧ Related Tended progress.1.entities progress.1.entities
      ∧ progress.1.nextEntityId = progress.1.nextEntityId
      ∧ SparesOthers progress.1 player progress.1 :=
    ⟨Keeps.refl _, Related.refl Tended.refl _, rfl, spares_of_same rfl⟩
  obtain ⟨server, placed⟩ := progress
  have own (valid : ¬ (!validatePositionUpdate player.id pos.entityId server.entities) = true)
      (entity : ServerEntity) (stored : server.entities.lookup pos.entityId = some entity) :
      entity.owner = player.id := by
    rw [Bool.not_eq_true, Bool.not_eq_false'] at valid
    exact owner_of_commands valid stored
  unfold applyPosition
  simp only
  split_ifs with bad refused again
  · exact nothing
  · exact nothing
  · rw [Bool.not_eq_true] at bad
    exact ⟨keeps_updateEntity _ _ _,
      Related.modify Tended.refl fun entity _ => tended_moveEntity pos bad entity, rfl,
      spares_updateEntity fun entity stored => Or.inl (own refused entity stored)⟩
  · rw [Bool.not_eq_true] at bad
    refine ⟨(keeps_updateEntity _ _ _).trans (keeps_updatePlayer _ _ fun _ => ⟨rfl, rfl⟩),
      Related.modify Tended.refl fun entity _ => tended_moveEntity pos bad entity, rfl, ?_⟩
    exact spares_updateEntity fun entity stored => Or.inl (own refused entity stored)

/-- The records of a packet tend entities of the sender, one after the other. -/
theorem applyPositions_tends (key : PlayerID) (records : List CharacterPosition)
    (progress : GameServer × Bool) :
    Keeps progress.1 (records.foldl (applyPosition player key) progress).1
      ∧ Related Tended progress.1.entities
        (records.foldl (applyPosition player key) progress).1.entities
      ∧ (records.foldl (applyPosition player key) progress).1.nextEntityId
        = progress.1.nextEntityId
      ∧ SparesOthers progress.1 player (records.foldl (applyPosition player key) progress).1 := by
  induction records generalizing progress with
  | nil => exact ⟨Keeps.refl _, Related.refl Tended.refl _, rfl, spares_of_same rfl⟩
  | cons pos rest ih =>
    obtain ⟨keeps, entities, next, others⟩ := applyPosition_tends player key progress pos
    obtain ⟨keeps', entities', next', others'⟩ := ih (applyPosition player key progress pos)
    refine ⟨keeps.trans keeps', Related.tended_trans entities entities', next'.trans next, ?_⟩
    intro id entity stored foreign guest
    refine others' id entity (others id entity stored foreign guest) foreign ?_
    rw [keeps.hostPlayerId]
    exact guest

/-- Each handler has one of the effects: this one tends what has moved. -/
theorem handlePositionUpdate_effect (key : PlayerID) :
    Effect server player .C2S_PositionUpdate reader (server.handlePositionUpdate player reader key) := by
  unfold handlePositionUpdate
  cases reader.readU8 with
  | none => exact effect_nothing
  | some read =>
    obtain ⟨keeps, entities, next, others⟩ := applyPositions_tends player key
      (readPositions read.1.toNat read.2).1 (server, false)
    exact .tend keeps entities next quiet_nil others

theorem handleMoveCommand_effect : Effect server player .C2S_MoveCommand reader (server.handleMoveCommand player reader) :=
  effect_onMessage fun _ => effect_unless fun _ => effect_relay rfl

theorem handleCombatStance_effect :
    Effect server player .C2S_CombatStance reader (server.handleCombatStance player reader) :=
  effect_onMessage fun _ => effect_unless fun _ => effect_unless fun _ => effect_relay rfl

theorem handleAttackIntent_effect (dice : Dice) :
    Effect server player .C2S_AttackIntent reader (server.handleAttackIntent player reader dice) := by
  refine effect_onRead fun msg rest read => effect_when fun commands => ?_
  split
  · rename_i attacker target found stored
    refine effect_when fun alive => effect_unless fun _ => ?_
    exact .strike dice commands stored alive read
  · exact effect_nothing

/-- What a report needs: a living entity. -/
theorem alive_of_mayReport {victim attacker : EntityID} {entity : ServerEntity}
    (may : server.mayReport player victim attacker = true)
    (stored : server.entities.lookup victim = some entity) : entity.alive = true := by
  unfold mayReport at may
  rw [stored] at may
  exact (Bool.and_eq_true_iff.mp may).1

theorem handleCombatKO_effect :
    Effect server player .C2S_CombatKO reader (server.handleCombatKO player reader) :=
  effect_onRead fun _ _ read => effect_when fun may => .wound read may (quiet_broadcast _ rfl)

theorem handleCombatDeath_effect :
    Effect server player .C2S_CombatDeath reader (server.handleCombatDeath player reader) :=
  effect_onRead fun _ _ read => effect_when fun may => .kill may read

/-- An entity a player owns. -/
theorem owner_of_owns {id : EntityID} (owned : server.owns player id = true) :
    ∃ entity, server.entities.lookup id = some entity ∧ entity.owner = player.id := by
  unfold owns at owned
  cases found : server.entities.lookup id with
  | none => simp [found] at owned
  | some entity =>
    rw [found] at owned
    exact ⟨entity, rfl, of_decide_eq_true owned⟩

theorem own_of_owns {id : EntityID} (checked : server.owns player id = true)
    (entity : ServerEntity) (stored : server.entities.lookup id = some entity) :
    entity.owner = player.id ∨ player.id = server.hostPlayerId := by
  obtain ⟨found, here, owner⟩ := owner_of_owns server player checked
  rw [stored] at here
  cases here
  exact Or.inl owner

theorem handleLimbHealth_effect :
    Effect server player .C2S_LimbHealth reader (server.handleLimbHealth player reader) :=
  effect_onMessage fun _ => effect_when fun own =>
    effect_tend
      (fun _ => ⟨⟨rfl, rfl, rfl, rfl, rfl, rfl, rfl, rfl, rfl⟩, rfl, rfl, Or.inl ⟨rfl, rfl⟩⟩)
      (quiet_broadcastExcept _ _ rfl) (own_of_owns server player own)

theorem handleStatusEffect_effect :
    Effect server player .C2S_StatusEffect reader (server.handleStatusEffect player reader) :=
  effect_onMessage fun _ => effect_when fun own => effect_unless fun _ =>
    effect_tend
      (fun _ => ⟨⟨rfl, rfl, rfl, rfl, rfl, rfl, rfl, rfl, rfl⟩, rfl, rfl, Or.inl ⟨rfl, rfl⟩⟩)
      (quiet_broadcastExcept _ _ rfl) (own_of_owns server player own)

/-! ### Entities and buildings -/

theorem handleEntitySpawnReq_effect (key : PlayerID) :
    Effect server player .C2S_EntitySpawnReq reader (server.handleEntitySpawnReq player reader key) := by
  unfold handleEntitySpawnReq
  cases read : readSpawnRequest reader with
  | none => exact effect_nothing
  | some request =>
    refine effect_when fun accepted => ?_
    have placed : Keeps (server.addEntity (request.entity server.nextEntityId player.id))
        ((server.addEntity (request.entity server.nextEntityId player.id)).updatePlayer key
          (placePlayer request.position)) := by
      refine keeps_updatePlayer _ _ fun player => ?_
      unfold placePlayer
      split_ifs
      · exact ⟨rfl, rfl⟩
      · exact ⟨rfl, rfl⟩
    exact .spawn read accepted ⟨placed.peers, placed.players, placed.loopback, placed.nextPlayerId,
      placed.hostPlayerId, placed.savedPlayers, placed.time⟩ rfl rfl

theorem handleEntityDespawnReq_effect (junk : UInt8) :
    Effect server player .C2S_EntityDespawnReq reader (server.handleEntityDespawnReq player reader junk) := by
  unfold handleEntityDespawnReq
  cases reader.readU32 with
  | none => exact effect_nothing
  | some read =>
    refine effect_when fun owned => ?_
    obtain ⟨entity, stored, owner⟩ := owner_of_owns server player owned
    exact .despawn _ stored owner

theorem handleEquipmentUpdate_effect :
    Effect server player .C2S_EquipmentUpdate reader (server.handleEquipmentUpdate player reader) :=
  effect_onMessage fun _ => effect_when fun own => effect_unless fun _ =>
    effect_tend
      (fun _ => ⟨⟨rfl, rfl, rfl, rfl, rfl, rfl, rfl, rfl, rfl⟩, rfl, rfl, Or.inl ⟨rfl, rfl⟩⟩)
      (quiet_broadcastExcept _ _ rfl) (own_of_owns server player own)

/-- A snapshot announces stored entities, and tells of equipment. -/
theorem mem_sendWorldSnapshot {call : Call} (inside : call ∈ server.sendWorldSnapshot player) :
    (∃ id entity, server.entities.lookup id = some entity ∧ call = announce player.peer entity)
      ∨ ∃ msg, call = .send player.peer ⟨KMP_CHANNEL_RELIABLE_UNORDERED, true, .equipmentUpdate msg⟩ := by
  obtain ⟨⟨id, entity⟩, member, made⟩ := List.mem_flatMap.mp inside
  simp only at made
  split_ifs at made
  · cases made
  · rcases List.mem_cons.mp made with same | equipment
    · exact .inl ⟨id, entity, AMap.mem_toList.mp member, same⟩
    · obtain ⟨slot, -, sent⟩ := List.mem_filterMap.mp equipment
      split_ifs at sent
      cases sent
      exact .inr ⟨_, rfl⟩

/-- What is sent for a zone are announcements of stored entities. -/
theorem mem_handleZoneRequest {call : Call} (inside : call ∈ (server.handleZoneRequest player reader).2) :
    ∃ id entity, server.entities.lookup id = some entity ∧ call = announce player.peer entity := by
  unfold handleZoneRequest onMessage at inside
  cases read : reader.readRaw (Codec.i32.prod Codec.i32) with
  | none =>
    rw [read] at inside
    cases inside
  | some message =>
    rw [read] at inside
    simp only at inside
    split_ifs at inside
    · cases inside
    · obtain ⟨⟨id, entity⟩, member, made⟩ := List.mem_filterMap.mp inside
      simp only at made
      split_ifs at made
      cases made
      exact ⟨id, entity, AMap.mem_toList.mp member, rfl⟩

theorem handleZoneRequest_effect : Effect server player .C2S_ZoneRequest reader (server.handleZoneRequest player reader) := by
  refine effect_onMessage fun msg => effect_unless fun _ => .announce fun call inside => ?_
  obtain ⟨⟨id, entity⟩, member, made⟩ := List.mem_filterMap.mp inside
  simp only at made
  split_ifs at made with own near
  cases made
  exact ⟨id, entity, AMap.mem_toList.mp member, own, rfl⟩

theorem handleBuildRequest_effect :
    Effect server player .C2S_BuildRequest reader (server.handleBuildRequest player reader) :=
  effect_onRead fun _ _ read => effect_when fun accepted => .build read accepted

theorem handleBuildDismantle_effect :
    Effect server player .C2S_BuildDismantle reader (server.handleBuildDismantle player reader) := by
  refine effect_onRead fun msg rest read => effect_when fun allowed => ?_
  unfold ownsOrHosts at allowed
  cases stored : server.entities.lookup msg.buildingId with
  | none => simp [stored] at allowed
  | some entity =>
    rw [stored] at allowed
    simp only [Bool.or_eq_true, decide_eq_true_eq] at allowed
    exact .dismantle read stored allowed

theorem handleBuildRepair_effect :
    Effect server player .C2S_BuildRepair reader (server.handleBuildRepair player reader) := by
  refine effect_onMessage fun msg => ?_
  cases stored : server.entities.lookup msg.buildingId with
  | none => exact effect_nothing
  | some building =>
    refine effect_unless fun allowed => effect_unless fun _ =>
      effect_tend
        (fun _ => ⟨⟨rfl, rfl, rfl, rfl, rfl, rfl, rfl, rfl, rfl⟩, rfl, rfl, Or.inl ⟨rfl, rfl⟩⟩)
        (quiet_broadcastExcept _ _ rfl) fun entity found => ?_
    rw [stored] at found
    cases found
    by_cases owner : building.owner = player.id
    · exact Or.inl owner
    · exact Or.inr (not_not.mp fun guest => allowed ⟨owner, guest⟩)

theorem handleDoorInteract_effect :
    Effect server player .C2S_DoorInteract reader (server.handleDoorInteract player reader) :=
  effect_onMessage fun _ => effect_unless fun _ => effect_unless fun _ => effect_unless fun _ =>
    effect_quiet (quiet_broadcast _ rfl)

/-! ### The messages that are passed on or answered -/

theorem handleItemPickup_effect : Effect server player .C2S_ItemPickup reader (server.handleItemPickup player reader) :=
  effect_onMessage fun _ => effect_unless fun _ => effect_relay rfl

theorem handleItemDrop_effect : Effect server player .C2S_ItemDrop reader (server.handleItemDrop player reader) :=
  effect_onMessage fun _ => effect_unless fun _ => effect_relay rfl

theorem handleItemTransfer_effect :
    Effect server player .C2S_ItemTransfer reader (server.handleItemTransfer player reader) :=
  effect_onMessage fun _ => effect_unless fun _ => effect_unless fun _ => effect_unless fun _ =>
    effect_quiet ((quiet_broadcastExcept _ _ rfl).append (quiet_broadcastExcept _ _ rfl))

theorem handleTradeRequest_effect :
    Effect server player .C2S_TradeRequest reader (server.handleTradeRequest player reader) := by
  refine effect_onMessage fun msg => effect_unless fun _ => ?_
  split_ifs
  · exact effect_quiet (quiet_sendTo _ _ rfl)
  · exact effect_quiet (quiet_sendTo _ _ rfl)
  · exact effect_quiet (quiet_broadcast _ rfl)

theorem handleSquadCreate_effect : Effect server player .C2S_SquadCreate reader (server.handleSquadCreate player reader) := by
  unfold handleSquadCreate
  cases reader.readU32 with
  | none => exact effect_nothing
  | some read =>
    obtain ⟨creatorEntityId, rest⟩ := read
    simp only
    cases rest.readString with
    | none => exact effect_nothing
    | some name =>
      exact effect_unless fun _ =>
        .tend ⟨rfl, fun _ => rfl, fun _ => rfl, rfl, rfl, fun _ => rfl, id⟩
          (Related.refl Tended.refl _) rfl (quiet_broadcast _ rfl) (spares_of_same rfl)

theorem handleSquadAddMember_effect :
    Effect server player .C2S_SquadAddMember reader (server.handleSquadAddMember player reader) :=
  effect_onMessage fun _ => effect_unless fun _ => effect_relay rfl

theorem handleFactionRelation_effect :
    Effect server player .C2S_FactionRelation reader (server.handleFactionRelation player reader) :=
  effect_onMessage fun _ => effect_unless fun _ => effect_unless fun _ =>
    effect_quiet (quiet_broadcast _ rfl)

theorem handleChatMessage_effect : Effect server player .C2S_ChatMessage reader (server.handleChatMessage player reader) := by
  unfold handleChatMessage
  cases reader.readU32 with
  | none => exact effect_nothing
  | some read =>
    obtain ⟨senderId, rest⟩ := read
    simp only
    cases rest.readString with
    | none => exact effect_nothing
    | some text => exact effect_unless fun _ => effect_relay rfl

/-- A player's flag or timer changes. -/
theorem effect_player (key : PlayerID) {f : ConnectedPlayer → ConnectedPlayer} {calls : List Call}
    (same : ∀ player, (f player).identity = player.identity
      ∧ (f player).isLoopback = player.isLoopback) (quiet : Quiet calls) :
    Effect server player type reader (server.updatePlayer key f, calls) :=
  .tend (keeps_updatePlayer server key same) (Related.refl Tended.refl _) rfl quiet
    (spares_of_same rfl)

theorem handleKeepalive_effect (key : PlayerID) (peer : Peer) :
    Effect server player .C2S_Keepalive reader (server.handleKeepalive key peer) :=
  effect_player server player reader key (fun _ => ⟨rfl, rfl⟩) (quiet_cons rfl quiet_nil)

theorem handleLobbyReady_effect (key : PlayerID) :
    Effect server player .C2S_LobbyReady reader (server.handleLobbyReady key player) := by
  refine effect_player server player reader key (fun _ => ⟨rfl, rfl⟩) ((quiet_systemMessage _).append ?_)
  split_ifs
  · exact (quiet_systemMessage _).append (quiet_broadcast _ rfl)
  · exact quiet_nil

theorem handlePlayerReady_effect (key : PlayerID) :
    Effect server player .C2S_PlayerReady reader (server.handlePlayerReady key player) := by
  refine effect_unless fun _ => effect_player server player reader key (fun _ => ⟨rfl, rfl⟩) ?_
  split_ifs
  · exact quiet_broadcast _ rfl
  · exact quiet_nil

theorem forward_effect {wrap : PlayerID → Bytes → S2C}
    (noNews : ∀ id payload, (wrap id payload).isNews = false) :
    Effect server player type reader (server.forward player reader wrap) :=
  effect_relay (noNews _ _)

/-! ### Administration -/

theorem quiet_respond (success : Bool) (text : Bytes) :
    Quiet (server.respond player success text) := quiet_sendTo _ _ rfl

theorem quiet_changed (text : Bytes) : Quiet (server.changed player text).2 :=
  (quiet_broadcast _ rfl).append (quiet_respond _ _ _ _)

/-- What lies between two finite values of which the lower one is not negative is finite. -/
theorem isFinite_of_range {x lo hi : F32} (low : lo.key ≤ x.key) (high : x.key ≤ hi.key)
    (least : 0 ≤ lo.key) (most : hi.key < Binary.binary32.infMag) : x.isFinite = true := by
  rw [Binary.Flt.isFinite_iff]
  have shape : x.key = if x.neg then -(x.mag : Int) else x.mag := rfl
  rw [shape] at low high
  split_ifs at low high <;> omega

theorem key_le_of_le {x y : F32} (order : x.le y = true) : x.key ≤ y.key := by
  unfold Binary.Flt.le at order
  simp only [Bool.and_eq_true, decide_eq_true_eq] at order
  exact order.2

theorem key_lt_of_lt {x y : F32} (order : x.lt y = true) : x.key < y.key := by
  unfold Binary.Flt.lt at order
  simp only [Bool.and_eq_true, decide_eq_true_eq] at order
  exact order.2

theorem handleAdminCommand_effect :
    Effect server player .C2S_AdminCommand reader (server.handleAdminCommand player reader) := by
  refine effect_onMessage fun msg => ?_
  have respond (success : Bool) (text : Bytes) :
      Effect server player .C2S_AdminCommand reader (server, server.respond player success text) :=
    effect_quiet (quiet_respond _ _ _ _)
  split_ifs
  · exact respond _ _
  · split
    · unfold adminKick
      cases server.players.lookup msg.targetPlayerId with
      | none => exact respond _ _
      | some target =>
        simp only
        by_cases host : target.id = server.hostPlayerId
        · rw [if_pos host]
          exact respond _ _
        · rw [if_neg host]
          exact effect_quiet (((quiet_systemMessage _).append
            (quiet_cons rfl (quiet_cons rfl quiet_nil))).append (quiet_respond _ _ _ _))
    · unfold adminSetTime
      split_ifs with range
      · refine .tend ⟨rfl, fun _ => rfl, fun _ => rfl, rfl, rfl, fun _ => rfl, fun _ => ?_⟩
          (Related.refl Tended.refl _) rfl (quiet_changed _ _ _) (spares_of_same rfl)
        rw [Bool.and_eq_true] at range
        exact isFinite_of_range (key_le_of_le range.1) (key_lt_of_lt range.2).le (by decide)
          (by decide +kernel)
      · exact respond _ _
    · unfold adminSetWeather
      simp only
      split_ifs
      · exact .tend ⟨rfl, fun _ => rfl, fun _ => rfl, rfl, rfl, fun _ => rfl, id⟩
          (Related.refl Tended.refl _) rfl (quiet_changed _ _ _) (spares_of_same rfl)
      · exact respond _ _
    · unfold adminAnnounce
      split_ifs
      · exact respond _ _
      · exact effect_quiet ((quiet_systemMessage _).append (quiet_respond _ _ _ _))
    · unfold adminSetSpeed
      split_ifs
      · exact .tend ⟨rfl, fun _ => rfl, fun _ => rfl, rfl, rfl, fun _ => rfl, id⟩
          (Related.refl Tended.refl _) rfl (quiet_changed _ _ _) (spares_of_same rfl)
      · exact respond _ _
    · exact respond _ _

/-! ### The dispatch -/

/-- **Every message of a player has one of the nine effects.** -/
theorem handlePlayerMessage_effect (type : MessageType) (peer : Peer) (key : PlayerID)
    (env : PacketEnv) :
    Effect server player type reader (server.handlePlayerMessage type peer key player reader env) := by
  cases type with
  | C2S_PositionUpdate => exact handlePositionUpdate_effect ..
  | C2S_MoveCommand => exact handleMoveCommand_effect ..
  | C2S_AttackIntent => exact handleAttackIntent_effect ..
  | C2S_ChatMessage => exact handleChatMessage_effect ..
  | C2S_BuildRequest => exact handleBuildRequest_effect ..
  | C2S_EntitySpawnReq => exact handleEntitySpawnReq_effect ..
  | C2S_EntityDespawnReq => exact handleEntityDespawnReq_effect ..
  | C2S_EquipmentUpdate => exact handleEquipmentUpdate_effect ..
  | C2S_ZoneRequest => exact handleZoneRequest_effect ..
  | C2S_ItemPickup => exact handleItemPickup_effect ..
  | C2S_ItemDrop => exact handleItemDrop_effect ..
  | C2S_TradeRequest => exact handleTradeRequest_effect ..
  | C2S_SquadCreate => exact handleSquadCreate_effect ..
  | C2S_SquadAddMember => exact handleSquadAddMember_effect ..
  | C2S_FactionRelation => exact handleFactionRelation_effect ..
  | C2S_PlayerReady => exact handlePlayerReady_effect ..
  | C2S_BuildDismantle => exact handleBuildDismantle_effect ..
  | C2S_BuildRepair => exact handleBuildRepair_effect ..
  | C2S_CombatStance => exact handleCombatStance_effect ..
  | C2S_CombatKO => exact handleCombatKO_effect ..
  | C2S_CombatDeath => exact handleCombatDeath_effect ..
  | C2S_LimbHealth => exact handleLimbHealth_effect ..
  | C2S_StatusEffect => exact handleStatusEffect_effect ..
  | C2S_ItemTransfer => exact handleItemTransfer_effect ..
  | C2S_DoorInteract => exact handleDoorInteract_effect ..
  | C2S_AdminCommand => exact handleAdminCommand_effect ..
  | C2S_LobbyReady => exact handleLobbyReady_effect ..
  | C2S_Keepalive => exact handleKeepalive_effect ..
  | C2S_PipelineSnapshot => exact forward_effect _ _ _ fun _ _ => rfl
  | C2S_PipelineEvent => exact forward_effect _ _ _ fun _ _ => rfl
  | C2S_Handshake => exact effect_nothing
  | C2S_Disconnect => exact effect_nothing
  | C2S_ServerQuery => exact effect_nothing

end GameServer

end KenshiMP
