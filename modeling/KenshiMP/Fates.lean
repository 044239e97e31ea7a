/-
**Where a stored entity comes from.**

`Delivers` says that an event is a message of a player that reaches its handler; the accepted
requests (`SpawnAccepted`, `BuildAccepted`, ...) are conditions on the event and the state it
arrives in. An entity that is stored after a step was stored before it and has changed in one of
six ways (`Change`), or it has just been spawned or built under the next identifier (`Created`):
`origin`. Invariants of single entities are proved by cases on the two.
-/

import KenshiMP.Reactions
import KenshiMP.Server.SessionFacts

namespace KenshiMP

open Wire (Bytes)
open Assoc
open GameServer
open ServerAuthorityValidator

/-! ### Accepted requests -/

/-- The event is a message of this type, from this player, that reaches its handler. -/
def Delivers (sys : System) (event : Event) (type : MessageType) (player : ConnectedPlayer)
    (reader : PacketReader) : Prop :=
  ∃ peer data channel env key, event = .packet peer data channel env
    ∧ sys.receives peer = true ∧ openPacket data channel = some (type, reader)
    ∧ sys.server.getPlayer peer = some (key, player)

def SpawnAccepted (sys : System) (event : Event) (player : ConnectedPlayer) (request : SpawnRequest) : Prop :=
  ∃ reader, Delivers sys event .C2S_EntitySpawnReq player reader
    ∧ readSpawnRequest reader = some request ∧ sys.server.acceptsSpawn request = true

def BuildAccepted (sys : System) (event : Event) (player : ConnectedPlayer) (msg : MsgBuildRequest) : Prop :=
  ∃ reader rest, Delivers sys event .C2S_BuildRequest player reader
    ∧ reader.readRaw MsgBuildRequest.codec = some (msg, rest) ∧ acceptsBuild player msg = true

def KnockoutAccepted (sys : System) (event : Event) (id : EntityID) (health : F32) : Prop :=
  ∃ player reader rest attacker reason, Delivers sys event .C2S_CombatKO player reader
    ∧ reader.readRaw combatKOReport = some ((id, attacker, reason, health), rest)
    ∧ sys.server.mayReport player id attacker = true

/-- A handshake is admitted, under this name. -/
def HandshakeAdmitted (sys : System) (event : Event) (peer : Peer) (name : Bytes)
    (created : PacketCreation) : Prop :=
  ∃ data channel env reader rest msg, event = .packet peer data channel env
    ∧ sys.receives peer = true ∧ openPacket data channel = some (.C2S_Handshake, reader)
    ∧ reader.readRaw MsgHandshake.codec = some (msg, rest) ∧ sys.server.admits peer msg = true
    ∧ name = sanitizeName msg.playerName.1 ∧ created = env.created

/-- The connection of a player ends. -/
def Leaves (sys : System) (event : Event) (peer : Peer) (player : ConnectedPlayer) : Prop :=
  event = .disconnect peer ∧ (sys.links.lookup peer).isSome = true
    ∧ ∃ key, sys.server.getPlayer peer = some (key, player)

/-! ### Changes -/

/-- What a step makes of an entity that stays. -/
inductive Change (sys : System) (event : Event) (id : EntityID) : ServerEntity → ServerEntity → Prop
  | tend {before after : ServerEntity} (tended : Tended before after) : Change sys event id before after
  | claim {before : ServerEntity} {peer : Peer} {name : Bytes} {created : PacketCreation}
      (admitted : HandshakeAdmitted sys event peer name created) (unowned : before.owner = 0)
      (listed : id ∈ sys.server.savedIds name) :
      Change sys event id before { before with owner := sys.server.nextPlayerId }
  | free {before : ServerEntity} {peer : Peer} {player : ConnectedPlayer}
      (leaves : Leaves sys event peer player) (owned : before.owner = player.id) :
      Change sys event id before { before with owner := 0 }
  | wound {before : ServerEntity} {health : F32} (accepted : KnockoutAccepted sys event id health)
      (alive : before.alive = true) :
      Change sys event id before { before with health := Function.update before.health 0 health }
  | strike {before : ServerEntity} {player : ConnectedPlayer} {attacker : EntityID} (dice : Dice)
      (commands : canClientCommandEntity player.id attacker sys.server.entities = true)
      (alive : before.alive = true) : Change sys event id before (resolveCombat before dice).2
  | kill {before : ServerEntity} (alive : before.alive = true) :
      Change sys event id before { before with alive := false }

theorem Change.refl {sys : System} {event : Event} {id : EntityID} (entity : ServerEntity) :
    Change sys event id entity entity := .tend (Tended.refl entity)

/-- What no change touches. -/
theorem Change.core {sys : System} {event : Event} {id : EntityID} {before after : ServerEntity}
    (change : Change sys event id before after) :
    after.id = before.id ∧ after.generation = before.generation ∧ after.type = before.type
      ∧ after.state = before.state ∧ after.authority = before.authority
      ∧ after.templateId = before.templateId ∧ after.factionId = before.factionId
      ∧ after.templateName = before.templateName := by
  cases change with
  | tend tended =>
    exact ⟨tended.id, tended.generation, tended.type, tended.state, tended.authority,
      tended.templateId, tended.factionId, tended.templateName⟩
  | claim admitted unowned listed => exact ⟨rfl, rfl, rfl, rfl, rfl, rfl, rfl, rfl⟩
  | free leaves owned => exact ⟨rfl, rfl, rfl, rfl, rfl, rfl, rfl, rfl⟩
  | wound accepted alive => exact ⟨rfl, rfl, rfl, rfl, rfl, rfl, rfl, rfl⟩
  | strike dice commands alive => exact ⟨rfl, rfl, rfl, rfl, rfl, rfl, rfl, rfl⟩
  | kill alive => exact ⟨rfl, rfl, rfl, rfl, rfl, rfl, rfl, rfl⟩

/-- What a step stores under the next identifier. -/
inductive Created (sys : System) (event : Event) : ServerEntity → Prop
  | spawn {player : ConnectedPlayer} {request : SpawnRequest}
      (accepted : SpawnAccepted sys event player request) :
      Created sys event (request.entity sys.server.nextEntityId player.id)
  | build {player : ConnectedPlayer} {msg : MsgBuildRequest}
      (accepted : BuildAccepted sys event player msg) :
      Created sys event (builtEntity sys.server.nextEntityId player.id msg)

/-- A new entity keeps the defaults of the fields that no request sets. -/
theorem Created.core {sys : System} {event : Event} {entity : ServerEntity}
    (created : Created sys event entity) :
    entity.id = sys.server.nextEntityId ∧ entity.generation = 0 ∧ entity.state = .Active
      ∧ entity.authority = .Server := by
  cases created with
  | @spawn player request accepted =>
    unfold SpawnRequest.entity spawnedEntity
    simp only
    cases request.extended with
    | none => exact ⟨rfl, rfl, rfl, rfl⟩
    | some extended => exact ⟨rfl, rfl, rfl, rfl⟩
  | build accepted => exact ⟨rfl, rfl, rfl, rfl⟩

/-- An event that is no packet admits nobody and stores nothing. -/
theorem noHandshake {sys : System} {event : Event} {peer : Peer} {name : Bytes}
    {created : PacketCreation} (noPacket : ∀ peer data channel env, event ≠ .packet peer data channel env) :
    ¬ HandshakeAdmitted sys event peer name created := by
  rintro ⟨data, channel, env, reader, rest, msg, same, -⟩
  exact noPacket _ _ _ _ same

theorem noCreation {sys : System} {event : Event} {new : ServerEntity}
    (noPacket : ∀ peer data channel env, event ≠ .packet peer data channel env) :
    ¬ Created sys event new := by
  intro created
  cases created with
  | spawn accepted =>
    obtain ⟨reader, ⟨peer, data, channel, env, key, same, -⟩, -⟩ := accepted
    exact noPacket _ _ _ _ same
  | build accepted =>
    obtain ⟨reader, rest, ⟨peer, data, channel, env, key, same, -⟩, -⟩ := accepted
    exact noPacket _ _ _ _ same

/-! ### The origin of an entity -/

/-- The tables before and after a step: what is stored after it, and the next identifier. -/
structure Descends (sys : System) (event : Event) (after : GameServer) : Prop where
  origin : ∀ id new, after.entities.lookup id = some new →
    (∃ old, sys.server.entities.lookup id = some old ∧ Change sys event id old new)
      ∨ (id = sys.server.nextEntityId ∧ Created sys event new
        ∧ after.nextEntityId = sys.server.nextEntityId + 1)
  counter : after.nextEntityId = sys.server.nextEntityId
    ∨ (after.nextEntityId = sys.server.nextEntityId + 1 ∧ ∃ new, Created sys event new)

variable {sys : System} {event : Event}

/-- No entity comes, and each that stays changes as told. -/
theorem descends_of_changes {after : GameServer}
    (changes : ∀ id new, after.entities.lookup id = some new →
      ∃ old, sys.server.entities.lookup id = some old ∧ Change sys event id old new)
    (counter : after.nextEntityId = sys.server.nextEntityId) : Descends sys event after :=
  ⟨fun id new stored => Or.inl (changes id new stored), Or.inl counter⟩

/-- One entity changes in place. -/
theorem changes_modify {key : EntityID} {f : ServerEntity → ServerEntity}
    (changed : ∀ old, sys.server.entities.lookup key = some old → Change sys event key old (f old))
    (id : EntityID) (new : ServerEntity)
    (stored : AList.lookup id (AMap.modify key f sys.server.entities) = some new) :
    ∃ old, sys.server.entities.lookup id = some old ∧ Change sys event id old new := by
  rw [AMap.lookup_modify] at stored
  obtain ⟨old, found, rfl⟩ := Option.map_eq_some_iff.mp stored
  refine ⟨old, found, ?_⟩
  by_cases same : id = key
  · subst same
    rw [if_pos rfl]
    exact changed old found
  · rw [if_neg same]
    exact .refl old

/-- One entity is erased. -/
theorem changes_erase (key id : EntityID) (new : ServerEntity)
    (stored : AList.lookup id (AList.erase key sys.server.entities) = some new) :
    ∃ old, sys.server.entities.lookup id = some old ∧ Change sys event id old new := by
  rw [AMap.lookup_erase_eq] at stored
  split_ifs at stored
  exact ⟨new, stored, .refl new⟩

/-- One entity is stored under the next identifier. -/
theorem descends_insert {after : GameServer} {entity : ServerEntity} (created : Created sys event entity)
    (entities : after.entities = AList.insert sys.server.nextEntityId entity sys.server.entities)
    (counter : after.nextEntityId = sys.server.nextEntityId + 1) : Descends sys event after := by
  refine ⟨fun id new stored => ?_, Or.inr ⟨counter, entity, created⟩⟩
  rw [entities, AMap.lookup_insert_eq] at stored
  split_ifs at stored with same
  · cases stored
    exact Or.inr ⟨same, created, counter⟩
  · exact Or.inl ⟨new, stored, .refl new⟩

theorem descends_effect {peer : Peer} {data : Bytes} {channel : Nat} {env : PacketEnv}
    {type : MessageType} {reader : PacketReader} {key : PlayerID} {player : ConnectedPlayer}
    {outcome : Outcome} (received : sys.receives peer = true)
    (opened : openPacket data channel = some (type, reader))
    (behind : sys.server.getPlayer peer = some (key, player))
    (effect : Effect sys.server player type reader outcome) :
    Descends sys (.packet peer data channel env) outcome.1 := by
  have delivered : Delivers sys (.packet peer data channel env) type player reader :=
    ⟨peer, data, channel, env, key, rfl, received, opened, behind⟩
  cases effect with
  | tend keeps entities next quiet =>
    refine descends_of_changes (fun id new stored => ?_) next
    obtain ⟨old, found, tended⟩ := entities.back stored
    exact ⟨old, found, .tend tended⟩
  | announce stored => exact descends_of_changes (fun id new stored => ⟨new, stored, .refl new⟩) rfl
  | wound read may quiet =>
    refine descends_of_changes (changes_modify fun old stored => ?_) rfl
    exact .wound ⟨player, reader, _, _, _, delivered, read, may⟩ (alive_of_mayReport _ _ may stored)
  | strike dice commands target alive =>
    refine descends_of_changes (changes_modify fun old stored => ?_) rfl
    rw [target] at stored
    cases stored
    exact .strike dice commands alive
  | kill may =>
    exact descends_of_changes (changes_modify fun old stored =>
      .kill (alive_of_mayReport _ _ may stored)) rfl
  | spawn read accepted keeps entities next =>
    exact descends_insert (.spawn ⟨reader, delivered, read, accepted⟩) entities next
  | build read accepted => exact descends_insert (.build ⟨reader, _, delivered, read, accepted⟩) rfl rfl
  | despawn reason stored owner => exact descends_of_changes (changes_erase _) rfl
  | dismantle read stored allowed => exact descends_of_changes (changes_erase _) rfl

theorem descends_reaction {outcome : Links × Outcome} (reaction : Reaction sys event outcome) :
    Descends sys event outcome.2.1 := by
  cases reaction with
  | tend keeps entities next quiet =>
    refine descends_of_changes (fun id new stored => ?_) next
    obtain ⟨old, found, tended⟩ := entities.back stored
    exact ⟨old, found, .tend tended⟩
  | cleanUp orphans keeps entities next quiet =>
    refine descends_of_changes (fun id new stored => ?_) next
    rw [entities, AMap.lookup_eraseAll] at stored
    split_ifs at stored
    exact ⟨new, stored, .refl new⟩
  | message received opened behind effect => exact descends_effect received opened behind effect
  | @seatPlayer peer data channel env reader rest msg received opened read admitted =>
    have spec := seatPlayer_spec sys.server peer (sanitizeName msg.playerName.1) env.created
    refine descends_of_changes (fun id new stored => ?_) spec.nextEntityId
    rw [spec.entities] at stored
    obtain ⟨old, found, rfl⟩ := Option.map_eq_some_iff.mp stored
    refine ⟨old, found, ?_⟩
    unfold claimed
    split_ifs with claims
    · exact .claim ⟨data, channel, env, reader, rest, msg, rfl, received, opened, read, admitted, rfl,
        rfl⟩ claims.1 claims.2
    · exact .refl old
  | @connect peer host roundTripTime absent =>
    have same : ((sys.openSlot peer host roundTripTime).handleConnect peer).1.entities
        = sys.server.entities
          ∧ ((sys.openSlot peer host roundTripTime).handleConnect peer).1.nextEntityId
            = sys.server.nextEntityId := by
      unfold handleConnect
      split_ifs
      · exact ⟨rfl, rfl⟩
      · exact ⟨rfl, rfl⟩
    refine descends_of_changes (fun id new stored => ?_) same.2
    rw [same.1] at stored
    exact ⟨new, stored, .refl new⟩
  | @leave peer key player present behind =>
    have spec := removePlayer_spec sys.server player
    refine descends_of_changes (fun id new stored => ?_) spec.nextEntityId
    have kept : (sys.server.removePlayer player).1.entities.lookup id = some new := stored
    rw [spec.entities] at kept
    obtain ⟨old, found, rfl⟩ := Option.map_eq_some_iff.mp kept
    refine ⟨old, found, ?_⟩
    unfold freed
    split_ifs with owned
    · exact .free ⟨rfl, present, key, behind⟩ owned
    · exact .refl old
  | depart present nobody =>
    exact descends_of_changes (fun id new stored => ⟨new, stored, .refl new⟩) rfl

/-- **Every stored entity descends from a stored one, or has just been made.** -/
theorem System.next_descends (sys : System) (event : Event) :
    Descends sys event (System.machine.next sys event).server :=
  descends_reaction (sys.react_reaction event)

end KenshiMP
