/-
**Packed messages a client sends.**

One structure a message, with the field names and the field order of the packed declaration; its
codec is the memory image. A codec's two laws come with its type, so that a message is read back
from exactly the bytes it is sent as.
-/

import KenshiMP.Lib.Wire
import KenshiMP.Types

namespace KenshiMP

open Wire (Bytes Codec)
open Wire.Codec

/-- A character array of fixed size. -/
abbrev CharArray (count : Nat) := {bytes : Bytes // bytes.length = count}

/-- The text in front of the first null character. -/
def cString (bytes : Bytes) : Bytes := bytes.takeWhile (· ≠ 0)

/-- The four bytes of a float. -/
def f32 : Codec F32 :=
  u32.iso (fun v => ⟨v.toBitVec⟩) (fun x => ⟨x.bits⟩) (fun _ => rfl) (fun _ => rfl)

/-! ### Connection -/

structure MsgHandshake where
  protocolVersion : UInt32
  playerName : CharArray 32
  (gameVersionMajor gameVersionMinor gameVersionPatch reserved : UInt8)
deriving DecidableEq

def MsgHandshake.codec : Codec MsgHandshake :=
  (u32.prod ((raw 32).prod (u8.prod (u8.prod (u8.prod u8))))).iso
    (fun (protocolVersion, playerName, gameVersionMajor, gameVersionMinor, gameVersionPatch,
      reserved) =>
      ⟨protocolVersion, playerName, gameVersionMajor, gameVersionMinor, gameVersionPatch, reserved⟩)
    (fun m => (m.protocolVersion, m.playerName, m.gameVersionMajor, m.gameVersionMinor,
      m.gameVersionPatch, m.reserved))
    (fun _ => rfl) (fun _ => rfl)

structure MsgServerQuery where
  protocolVersion : UInt32
deriving DecidableEq

def MsgServerQuery.codec : Codec MsgServerQuery :=
  u32.iso (fun protocolVersion => ⟨protocolVersion⟩) (fun m => m.protocolVersion)
    (fun _ => rfl) (fun _ => rfl)

/-! ### Movement -/

/-- Where a character is and how it moves. -/
structure CharacterPosition where
  entityId : EntityID
  generation : UInt32
  (posX posY posZ : F32)
  compressedQuat : UInt32
  (animStateId moveSpeed : UInt8)
  flags : UInt16
deriving DecidableEq

def CharacterPosition.codec : Codec CharacterPosition :=
  (u32.prod (u32.prod (f32.prod (f32.prod (f32.prod (u32.prod (u8.prod (u8.prod u16)))))))).iso
    (fun (entityId, generation, posX, posY, posZ, compressedQuat, animStateId, moveSpeed, flags) =>
      ⟨entityId, generation, posX, posY, posZ, compressedQuat, animStateId, moveSpeed, flags⟩)
    (fun m => (m.entityId, m.generation, m.posX, m.posY, m.posZ, m.compressedQuat, m.animStateId,
      m.moveSpeed, m.flags))
    (fun _ => rfl) (fun _ => rfl)

/-- Where a character is sent. -/
structure MsgMoveCommand where
  entityId : EntityID
  (targetX targetY targetZ : F32)
  moveType : UInt8
deriving DecidableEq

def MsgMoveCommand.codec : Codec MsgMoveCommand :=
  (u32.prod (f32.prod (f32.prod (f32.prod u8)))).iso
    (fun (entityId, targetX, targetY, targetZ, moveType) =>
      ⟨entityId, targetX, targetY, targetZ, moveType⟩)
    (fun m => (m.entityId, m.targetX, m.targetY, m.targetZ, m.moveType))
    (fun _ => rfl) (fun _ => rfl)

/-! ### Combat -/

structure MsgAttackIntent where
  (attackerId targetId : EntityID)
  attackType : UInt8
deriving DecidableEq

def MsgAttackIntent.codec : Codec MsgAttackIntent :=
  (u32.prod (u32.prod u8)).iso
    (fun (attackerId, targetId, attackType) =>
      ⟨attackerId, targetId, attackType⟩)
    (fun m => (m.attackerId, m.targetId, m.attackType))
    (fun _ => rfl) (fun _ => rfl)

structure MsgCombatDeath where
  (entityId killerId : EntityID)
deriving DecidableEq

def MsgCombatDeath.codec : Codec MsgCombatDeath :=
  (u32.prod u32).iso
    (fun (entityId, killerId) =>
      ⟨entityId, killerId⟩)
    (fun m => (m.entityId, m.killerId))
    (fun _ => rfl) (fun _ => rfl)

structure MsgCombatStance where
  entityId : EntityID
  stance : UInt8
deriving DecidableEq

def MsgCombatStance.codec : Codec MsgCombatStance :=
  (u32.prod u8).iso
    (fun (entityId, stance) =>
      ⟨entityId, stance⟩)
    (fun m => (m.entityId, m.stance))
    (fun _ => rfl) (fun _ => rfl)

/-! ### Stats -/

structure MsgEquipmentUpdate where
  entityId : EntityID
  slot : UInt8
  itemTemplateId : UInt32
deriving DecidableEq

def MsgEquipmentUpdate.codec : Codec MsgEquipmentUpdate :=
  (u32.prod (u8.prod u32)).iso
    (fun (entityId, slot, itemTemplateId) =>
      ⟨entityId, slot, itemTemplateId⟩)
    (fun m => (m.entityId, m.slot, m.itemTemplateId))
    (fun _ => rfl) (fun _ => rfl)

structure MsgLimbHealth where
  entityId : EntityID
  health : Fin 7 → F32
deriving DecidableEq

def MsgLimbHealth.codec : Codec MsgLimbHealth :=
  (u32.prod (f32.array 7)).iso
    (fun (entityId, health) =>
      ⟨entityId, health⟩)
    (fun m => (m.entityId, m.health))
    (fun _ => rfl) (fun _ => rfl)

structure MsgStatusEffect where
  entityId : EntityID
  (effectType active : UInt8)
deriving DecidableEq

def MsgStatusEffect.codec : Codec MsgStatusEffect :=
  (u32.prod (u8.prod u8)).iso
    (fun (entityId, effectType, active) =>
      ⟨entityId, effectType, active⟩)
    (fun m => (m.entityId, m.effectType, m.active))
    (fun _ => rfl) (fun _ => rfl)

/-! ### Buildings -/

structure MsgBuildRequest where
  templateId : UInt32
  (posX posY posZ : F32)
  compressedQuat : UInt32
deriving DecidableEq

def MsgBuildRequest.codec : Codec MsgBuildRequest :=
  (u32.prod (f32.prod (f32.prod (f32.prod u32)))).iso
    (fun (templateId, posX, posY, posZ, compressedQuat) =>
      ⟨templateId, posX, posY, posZ, compressedQuat⟩)
    (fun m => (m.templateId, m.posX, m.posY, m.posZ, m.compressedQuat))
    (fun _ => rfl) (fun _ => rfl)

structure MsgBuildDismantle where
  (buildingId dismantlerId : EntityID)
deriving DecidableEq

def MsgBuildDismantle.codec : Codec MsgBuildDismantle :=
  (u32.prod u32).iso
    (fun (buildingId, dismantlerId) =>
      ⟨buildingId, dismantlerId⟩)
    (fun m => (m.buildingId, m.dismantlerId))
    (fun _ => rfl) (fun _ => rfl)

structure MsgBuildRepair where
  buildingId : EntityID
  amount : F32
deriving DecidableEq

def MsgBuildRepair.codec : Codec MsgBuildRepair :=
  (u32.prod f32).iso
    (fun (buildingId, amount) =>
      ⟨buildingId, amount⟩)
    (fun m => (m.buildingId, m.amount))
    (fun _ => rfl) (fun _ => rfl)

structure MsgDoorInteract where
  (entityId actorEntityId : EntityID)
  action : UInt8
deriving DecidableEq

def MsgDoorInteract.codec : Codec MsgDoorInteract :=
  (u32.prod (u32.prod u8)).iso
    (fun (entityId, actorEntityId, action) =>
      ⟨entityId, actorEntityId, action⟩)
    (fun m => (m.entityId, m.actorEntityId, m.action))
    (fun _ => rfl) (fun _ => rfl)

/-! ### Inventory and trade -/

structure MsgItemPickup where
  entityId : EntityID
  itemTemplateId : UInt32
  quantity : Int32
deriving DecidableEq

def MsgItemPickup.codec : Codec MsgItemPickup :=
  (u32.prod (u32.prod i32)).iso
    (fun (entityId, itemTemplateId, quantity) =>
      ⟨entityId, itemTemplateId, quantity⟩)
    (fun m => (m.entityId, m.itemTemplateId, m.quantity))
    (fun _ => rfl) (fun _ => rfl)

structure MsgItemDrop where
  entityId : EntityID
  itemTemplateId : UInt32
  (posX posY posZ : F32)
deriving DecidableEq

def MsgItemDrop.codec : Codec MsgItemDrop :=
  (u32.prod (u32.prod (f32.prod (f32.prod f32)))).iso
    (fun (entityId, itemTemplateId, posX, posY, posZ) =>
      ⟨entityId, itemTemplateId, posX, posY, posZ⟩)
    (fun m => (m.entityId, m.itemTemplateId, m.posX, m.posY, m.posZ))
    (fun _ => rfl) (fun _ => rfl)

structure MsgItemTransfer where
  (sourceEntityId destEntityId : EntityID)
  itemTemplateId : UInt32
  quantity : Int32
deriving DecidableEq

def MsgItemTransfer.codec : Codec MsgItemTransfer :=
  (u32.prod (u32.prod (u32.prod i32))).iso
    (fun (sourceEntityId, destEntityId, itemTemplateId, quantity) =>
      ⟨sourceEntityId, destEntityId, itemTemplateId, quantity⟩)
    (fun m => (m.sourceEntityId, m.destEntityId, m.itemTemplateId, m.quantity))
    (fun _ => rfl) (fun _ => rfl)

/-- An item is bought for a price. -/
structure MsgTradeRequest where
  (buyerEntityId sellerEntityId : EntityID)
  itemTemplateId : UInt32
  (quantity price : Int32)
deriving DecidableEq

def MsgTradeRequest.codec : Codec MsgTradeRequest :=
  (u32.prod (u32.prod (u32.prod (i32.prod i32)))).iso
    (fun (buyerEntityId, sellerEntityId, itemTemplateId, quantity, price) =>
      ⟨buyerEntityId, sellerEntityId, itemTemplateId, quantity, price⟩)
    (fun m => (m.buyerEntityId, m.sellerEntityId, m.itemTemplateId, m.quantity, m.price))
    (fun _ => rfl) (fun _ => rfl)

/-! ### Squads, factions, administration -/

structure MsgSquadMemberUpdate where
  squadNetId : UInt32
  memberEntityId : EntityID
  action : UInt8
deriving DecidableEq

def MsgSquadMemberUpdate.codec : Codec MsgSquadMemberUpdate :=
  (u32.prod (u32.prod u8)).iso
    (fun (squadNetId, memberEntityId, action) =>
      ⟨squadNetId, memberEntityId, action⟩)
    (fun m => (m.squadNetId, m.memberEntityId, m.action))
    (fun _ => rfl) (fun _ => rfl)

structure MsgFactionRelation where
  (factionIdA factionIdB : UInt32)
  relation : F32
  causerEntityId : EntityID
deriving DecidableEq

def MsgFactionRelation.codec : Codec MsgFactionRelation :=
  (u32.prod (u32.prod (f32.prod u32))).iso
    (fun (factionIdA, factionIdB, relation, causerEntityId) =>
      ⟨factionIdA, factionIdB, relation, causerEntityId⟩)
    (fun m => (m.factionIdA, m.factionIdB, m.relation, m.causerEntityId))
    (fun _ => rfl) (fun _ => rfl)

/-- What the host orders, of whom, and with what text. -/
structure MsgAdminCommand where
  commandType : UInt8
  targetPlayerId : PlayerID
  floatParam : F32
  textParam : CharArray 128
deriving DecidableEq

def MsgAdminCommand.codec : Codec MsgAdminCommand :=
  (u8.prod (u32.prod (f32.prod (raw 128)))).iso
    (fun (commandType, targetPlayerId, floatParam, textParam) =>
      ⟨commandType, targetPlayerId, floatParam, textParam⟩)
    (fun m => (m.commandType, m.targetPlayerId, m.floatParam, m.textParam))
    (fun _ => rfl) (fun _ => rfl)

end KenshiMP
