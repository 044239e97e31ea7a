/-
**Command authority, movement and combat.**

`canClientCommandEntity` is the gate in front of positions, move commands and attacks. The combat
handlers trust the reporter's ownership instead, of the victim or of the attacker. The three random
draws of a resolved attack are an argument.
-/

import KenshiMP.Server.State

namespace KenshiMP

open Wire (Codec)
open Wire.Codec
open Assoc

/-- A handler's result: the new state and what the network host is asked to do. -/
abbrev Outcome := GameServer × List Call

/-! ### Authority -/

namespace ServerAuthorityValidator

/-- The entity exists, is alive, is under player authority and belongs to the player. -/
def canClientCommandEntity (clientPlayerId : PlayerID) (entityId : EntityID)
    (entities : AMap EntityID ServerEntity) : Bool :=
  match entities.lookup entityId with
  | none => false
  | some entity =>
    if !entity.alive then false
    else if entity.authority ≠ .Player then false
    else if entity.owner ≠ clientPlayerId then false
    else true

def validatePositionUpdate (clientPlayerId : PlayerID) (entityId : EntityID)
    (entities : AMap EntityID ServerEntity) : Bool :=
  canClientCommandEntity clientPlayerId entityId entities

end ServerAuthorityValidator

open ServerAuthorityValidator

/-! ### Combat resolution -/

/-- The draws of one attack: the body part roll of 1 to 100, the damage factor, the block roll. -/
structure Dice where
  roll : Nat
  randomFactor : F32
  block : F32

structure CombatResult where
  hitPart : Fin 7
  cutDamage : F32
  bluntDamage : F32
  pierceDamage : F32
  resultHealth : F32
  wasBlocked : Bool
  wasKO : Bool
  wasDeath : Bool

def BodyPart.Head : Fin 7 := 0
def BodyPart.Chest : Fin 7 := 1

/-- The parts and their weights: chest, stomach, head, arms, legs. -/
def bodyPartWeights : List (Fin 7 × Nat) :=
  [(1, 30), (2, 20), (0, 10), (3, 10), (4, 10), (5, 10), (6, 10)]

/-- The first part at which the cumulative weight reaches the roll. -/
def selectBodyPart (roll : Nat) : Fin 7 :=
  let rec walk : Nat → List (Fin 7 × Nat) → Fin 7
    | _, [] => BodyPart.Chest
    | cumulative, (part, weight) :: rest =>
      if roll ≤ cumulative + weight then part else walk (cumulative + weight) rest
  walk 0 bodyPartWeights

/-- One attack on a target: the result and the target after it. -/
def resolveCombat (target : ServerEntity) (dice : Dice) : CombatResult × ServerEntity :=
  let hitPart := selectBodyPart dice.roll
  let attackStat := lit 20 1
  let defenseStat := lit 10 1
  let defenseReduction := (lit 1 1).sub (clamp (defenseStat.div (lit 100 1)) (lit 0 1) (lit 9 10))
  let totalDamage := (attackStat.mul dice.randomFactor).mul defenseReduction
  let wasBlocked := dice.block.lt (lit 2 10)
  let blocked (damage : F32) : F32 := if wasBlocked then damage.mul (lit 3 10) else damage
  let cutDamage := blocked (totalDamage.mul (lit 1 2))
  let bluntDamage := blocked (totalDamage.mul (lit 1 2))
  let pierceDamage := lit 0 1
  let resultHealth := (target.health hitPart).sub ((cutDamage.add bluntDamage).add pierceDamage)
  let health := Function.update target.health hitPart resultHealth
  let wasKO := decide (∃ part, ((health part).le (lit (-50) 1) : Bool))
  let wasDeath := (health BodyPart.Chest).le (lit (-100) 1) || (health BodyPart.Head).le (lit (-100) 1)
  (⟨hitPart, cutDamage, bluntDamage, pierceDamage, resultHealth, wasBlocked, wasKO, wasDeath⟩,
    { target with health := health, alive := if wasDeath then false else target.alive })

namespace GameServer

variable (server : GameServer) (player : ConnectedPlayer) (reader : PacketReader)

/-- Handle one packed message; a packet too short for it is dropped. -/
def onMessage {α : Type} (codec : Codec α) (handle : α → Outcome) : Outcome :=
  match reader.readRaw codec with
  | none => (server, [])
  | some (msg, _) => handle msg

/-- The player owns an entity of this id. -/
def owns (id : EntityID) : Bool :=
  match server.entities.lookup id with
  | none => false
  | some entity => entity.owner = player.id

/-! ### Movement -/

/-- The records of a position packet, up to the first one that is cut short. -/
def readPositions : Nat → PacketReader → List CharacterPosition × PacketReader
  | 0, reader => ([], reader)
  | count + 1, reader =>
    match reader.readRaw CharacterPosition.codec with
    | none => ([], reader)
    | some (pos, rest) =>
      let (records, last) := readPositions count rest
      (pos :: records, last)

/-- What a record writes into an entity. -/
def moveEntity (pos : CharacterPosition) (entity : ServerEntity) : ServerEntity :=
  { entity with
    position := ⟨pos.posX, pos.posY, pos.posZ⟩
    rotation := Quat.decompress pos.compressedQuat
    zone := ZoneCoord.fromWorldPos ⟨pos.posX, pos.posY, pos.posZ⟩
    animState := pos.animStateId
    moveSpeed := pos.moveSpeed
    flags := pos.flags }

/-- One record of a position packet; the flag says that the player has been placed already. -/
def applyPosition (key : PlayerID) (progress : GameServer × Bool) (pos : CharacterPosition) :
    GameServer × Bool :=
  let (server, playerPosUpdated) := progress
  if badCoords pos.posX pos.posY pos.posZ then progress
  else if !validatePositionUpdate player.id pos.entityId server.entities then progress
  else
    let moved := server.updateEntity pos.entityId (moveEntity pos)
    if playerPosUpdated then (moved, true)
    else
      (moved.updatePlayer key fun player =>
        { player with
          position := ⟨pos.posX, pos.posY, pos.posZ⟩
          zone := ZoneCoord.fromWorldPos ⟨pos.posX, pos.posY, pos.posZ⟩ }, true)

def handlePositionUpdate (key : PlayerID) : Outcome :=
  match reader.readU8 with
  | none => (server, [])
  | some (count, rest) =>
    (((readPositions count.toNat rest).1.foldl (applyPosition player key) (server, false)).1, [])

def handleMoveCommand : Outcome :=
  server.onMessage reader MsgMoveCommand.codec fun msg =>
    if !canClientCommandEntity player.id msg.entityId server.entities then (server, [])
    else
      (server, server.broadcastExcept player.id KMP_CHANNEL_RELIABLE_UNORDERED (.moveCommand msg))

/-! ### Combat -/

/-- The messages about a resolved attack: the hit, then a death or else a knockout. -/
def attackMessages (msg : MsgAttackIntent) (result : CombatResult) : List Call :=
  broadcast KMP_CHANNEL_RELIABLE_UNORDERED
      (.combatHit ⟨msg.attackerId, msg.targetId, UInt8.ofNat result.hitPart.val, result.cutDamage,
        result.bluntDamage, result.pierceDamage, result.resultHealth, result.wasBlocked,
        result.wasKO⟩)
    ++ (if result.wasDeath then
          broadcast KMP_CHANNEL_RELIABLE_ORDERED (.combatDeath ⟨msg.targetId, msg.attackerId⟩)
        else if result.wasKO then
          broadcast KMP_CHANNEL_RELIABLE_ORDERED
            (.combatKO ⟨msg.targetId, msg.attackerId, UInt8.ofNat result.hitPart.val,
              result.resultHealth⟩)
        else [])

def handleAttackIntent (dice : Dice) : Outcome :=
  server.onMessage reader MsgAttackIntent.codec fun msg =>
    if !canClientCommandEntity player.id msg.attackerId server.entities then (server, [])
    else
      match server.entities.lookup msg.attackerId, server.entities.lookup msg.targetId with
      | some attacker, some target =>
        let maxDist := if msg.attackType = 1 then lit 150 1 else lit 15 1
        if !target.alive then (server, [])
        else if (maxDist.mul maxDist).lt (attacker.position.distSq target.position) then (server, [])
        else
          let (result, hurt) := resolveCombat target dice
          (server.updateEntity msg.targetId fun _ => hurt, attackMessages msg result)
      | _, _ => (server, [])

def handleCombatStance : Outcome :=
  server.onMessage reader MsgCombatStance.codec fun msg =>
    if !server.owns player msg.entityId then (server, [])
    else if 3 < msg.stance then (server, [])
    else
      (server, server.broadcastExcept player.id KMP_CHANNEL_RELIABLE_UNORDERED (.combatBlock msg))

/-- The layout of a knockout report: entity, attacker, reason, chest health. -/
def combatKOReport : Codec (EntityID × EntityID × UInt8 × F32) :=
  u32.prod (u32.prod (u8.prod f32))

/-- The entity exists and is alive, and the reporter owns it or the entity named as attacker. -/
def mayReport (victim attacker : EntityID) : Bool :=
  match server.entities.lookup victim with
  | none => false
  | some entity =>
    entity.alive && (entity.owner = player.id || (attacker ≠ 0 && server.owns player attacker))

/-- The reported health is the chest's, and goes into the first element of the array. -/
def handleCombatKO : Outcome :=
  server.onMessage reader combatKOReport fun (entityId, attackerId, reason, chestHealth) =>
    if !server.mayReport player entityId attackerId then (server, [])
    else
      (server.updateEntity entityId fun entity =>
        { entity with health := Function.update entity.health 0 chestHealth },
        broadcast KMP_CHANNEL_RELIABLE_UNORDERED
          (.combatKO ⟨entityId, attackerId, reason, chestHealth⟩))

def handleCombatDeath : Outcome :=
  server.onMessage reader MsgCombatDeath.codec fun msg =>
    if !server.mayReport player msg.entityId msg.killerId then (server, [])
    else
      (server.updateEntity msg.entityId fun entity => { entity with alive := false },
        broadcast KMP_CHANNEL_RELIABLE_ORDERED (.combatDeath msg))

/-! ### Limbs and status -/

def handleLimbHealth : Outcome :=
  server.onMessage reader MsgLimbHealth.codec fun msg =>
    if !server.owns player msg.entityId then (server, [])
    else
      (server.updateEntity msg.entityId fun entity => { entity with limbHealth := msg.health },
        server.broadcastExcept player.id KMP_CHANNEL_RELIABLE_UNORDERED (.limbHealth msg))

def handleStatusEffect : Outcome :=
  server.onMessage reader MsgStatusEffect.codec fun msg =>
    if !server.owns player msg.entityId then (server, [])
    else if StatusEffect_Bandaged < msg.effectType then (server, [])
    else
      (server.updateEntity msg.entityId fun entity =>
        { entity with statusEffects := store entity.statusEffects msg.effectType.toNat msg.active },
        server.broadcastExcept player.id KMP_CHANNEL_RELIABLE_UNORDERED (.statusEffect msg))

end GameServer

end KenshiMP
