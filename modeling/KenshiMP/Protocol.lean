/-
**The packet layer: message types, header, reader, and the messages the server sends.**

What a client sends is bytes: `PacketReader` walks them and every read may fail, leaving the reader
where it was. What the server sends is a typed message, `S2C`, with the data its writer puts into
the packet: the counts in front of lists are kept, as they are narrower than the lists.
-/

import KenshiMP.Messages

namespace KenshiMP

open Wire (Bytes Codec)
open Wire.Codec

/-! ### Client messages -/

/-- The message types the dispatch of the server knows. -/
inductive MessageType where
  | C2S_Handshake | C2S_Disconnect | C2S_Keepalive | C2S_PlayerReady | C2S_ZoneRequest
  | C2S_EntitySpawnReq | C2S_EntityDespawnReq | C2S_PositionUpdate | C2S_MoveCommand
  | C2S_AttackIntent | C2S_CombatStance | C2S_CombatDeath | C2S_CombatKO | C2S_EquipmentUpdate
  | C2S_LimbHealth | C2S_StatusEffect | C2S_ItemPickup | C2S_ItemDrop | C2S_ItemTransfer
  | C2S_TradeRequest | C2S_BuildRequest | C2S_DoorInteract | C2S_BuildDismantle | C2S_BuildRepair
  | C2S_ChatMessage | C2S_AdminCommand | C2S_ServerQuery | C2S_SquadCreate | C2S_SquadAddMember
  | C2S_FactionRelation | C2S_PipelineSnapshot | C2S_PipelineEvent | C2S_LobbyReady
deriving DecidableEq, Repr

namespace MessageType

/-- The byte of a type on the wire. -/
def code : MessageType → UInt8
  | C2S_Handshake => 0x01
  | C2S_Disconnect => 0x04
  | C2S_Keepalive => 0x07
  | C2S_PlayerReady => 0x09
  | C2S_ZoneRequest => 0x13
  | C2S_EntitySpawnReq => 0x22
  | C2S_EntityDespawnReq => 0x23
  | C2S_PositionUpdate => 0x30
  | C2S_MoveCommand => 0x32
  | C2S_AttackIntent => 0x40
  | C2S_CombatStance => 0x45
  | C2S_CombatDeath => 0x46
  | C2S_CombatKO => 0x47
  | C2S_EquipmentUpdate => 0x53
  | C2S_LimbHealth => 0x54
  | C2S_StatusEffect => 0x56
  | C2S_ItemPickup => 0x60
  | C2S_ItemDrop => 0x61
  | C2S_ItemTransfer => 0x62
  | C2S_TradeRequest => 0x64
  | C2S_BuildRequest => 0x70
  | C2S_DoorInteract => 0x74
  | C2S_BuildDismantle => 0x76
  | C2S_BuildRepair => 0x77
  | C2S_ChatMessage => 0x80
  | C2S_AdminCommand => 0x90
  | C2S_ServerQuery => 0xA0
  | C2S_SquadCreate => 0xB0
  | C2S_SquadAddMember => 0xB2
  | C2S_FactionRelation => 0xC0
  | C2S_PipelineSnapshot => 0xE0
  | C2S_PipelineEvent => 0xE2
  | C2S_LobbyReady => 0xF1

def all : List MessageType :=
  [C2S_Handshake, C2S_Disconnect, C2S_Keepalive, C2S_PlayerReady, C2S_ZoneRequest,
    C2S_EntitySpawnReq, C2S_EntityDespawnReq, C2S_PositionUpdate, C2S_MoveCommand, C2S_AttackIntent,
    C2S_CombatStance, C2S_CombatDeath, C2S_CombatKO, C2S_EquipmentUpdate, C2S_LimbHealth,
    C2S_StatusEffect, C2S_ItemPickup, C2S_ItemDrop, C2S_ItemTransfer, C2S_TradeRequest,
    C2S_BuildRequest, C2S_DoorInteract, C2S_BuildDismantle, C2S_BuildRepair, C2S_ChatMessage,
    C2S_AdminCommand, C2S_ServerQuery, C2S_SquadCreate, C2S_SquadAddMember, C2S_FactionRelation,
    C2S_PipelineSnapshot, C2S_PipelineEvent, C2S_LobbyReady]

/-- The type of a byte, if the dispatch knows it. -/
def ofCode (byte : UInt8) : Option MessageType := all.find? fun type => type.code = byte

theorem ofCode_code (type : MessageType) : ofCode type.code = some type := by
  cases type <;> decide

end MessageType

structure PacketHeader where
  type : UInt8
  flags : UInt8
  sequence : UInt16
  timestamp : UInt32
deriving DecidableEq

def PacketHeader.codec : Codec PacketHeader :=
  (u8.prod (u8.prod (u16.prod u32))).iso
    (fun (type, flags, sequence, timestamp) => ⟨type, flags, sequence, timestamp⟩)
    (fun h => (h.type, h.flags, h.sequence, h.timestamp))
    (fun _ => rfl) (fun _ => rfl)

/-- The bytes a client writes in front of a message. -/
def writeHeader (type : MessageType) : Bytes := PacketHeader.codec.encode ⟨type.code, 0, 0, 0⟩

/-! ### Reading -/

/-- A position in a packet. -/
structure PacketReader where
  data : Bytes
  pos : Nat := 0
  inside : pos ≤ data.length

namespace PacketReader

/-- A reader at the start of a packet. -/
def start (data : Bytes) : PacketReader := ⟨data, 0, Nat.zero_le _⟩

def remaining (reader : PacketReader) : Nat := reader.data.length - reader.pos

def current (reader : PacketReader) : Bytes := reader.data.drop reader.pos

/-- Read the bytes of one value, or fail and stay. -/
def readRaw {α : Type} (codec : Codec α) (reader : PacketReader) : Option (α × PacketReader) :=
  if fits : reader.pos + codec.size ≤ reader.data.length then
    some (codec.decode (reader.current.take codec.size),
      ⟨reader.data, reader.pos + codec.size, fits⟩)
  else none

def readU8 (reader : PacketReader) := readRaw u8 reader
def readU16 (reader : PacketReader) := readRaw u16 reader
def readU32 (reader : PacketReader) := readRaw u32 reader
def readI32 (reader : PacketReader) := readRaw i32 reader
def readF32 (reader : PacketReader) := readRaw f32 reader
def readVec3 (reader : PacketReader) := readRaw (f32.prod (f32.prod f32)) reader

/-- Read `count` bytes. -/
def readBytes (count : Nat) (reader : PacketReader) : Option (Bytes × PacketReader) :=
  (readRaw (raw count) reader).map fun (text, rest) => (text.1, rest)

/-- A length and that many bytes, at most 1024. -/
def readString (reader : PacketReader) : Option (Bytes × PacketReader) :=
  match reader.readU16 with
  | none => none
  | some (len, rest) => if 1024 < len then none else rest.readBytes len.toNat

variable {α : Type} (codec : Codec α) (reader : PacketReader)

/-- The bytes ahead are those of a value. -/
theorem readRaw_append (value : α) (rest : Bytes) (ahead : reader.current = codec.encode value ++ rest) :
    ∃ next, reader.readRaw codec = some (value, next) ∧ next.current = rest ∧ next.data = reader.data := by
  have length : reader.current.length = codec.size + rest.length := by
    rw [ahead, List.length_append, codec.length_encode]
  have inside := reader.inside
  have fits : reader.pos + codec.size ≤ reader.data.length := by
    unfold current at length
    rw [List.length_drop] at length
    omega
  refine ⟨⟨reader.data, reader.pos + codec.size, fits⟩, ?_, ?_, rfl⟩
  · unfold readRaw
    rw [dif_pos fits, ahead, codec.decode_take]
  · show reader.data.drop (reader.pos + codec.size) = rest
    rw [← List.drop_drop]
    show reader.current.drop codec.size = rest
    rw [ahead, List.drop_left' (codec.length_encode value)]

/-- Too few bytes ahead: the read fails. -/
theorem readRaw_short (short : reader.current.length < codec.size) : reader.readRaw codec = none := by
  have inside := reader.inside
  unfold current at short
  rw [List.length_drop] at short
  unfold readRaw
  rw [dif_neg (by omega)]

end PacketReader

/-! ### Server messages -/

/-- What the three spawn encoders write. -/
structure SpawnRecord where
  entityId : EntityID
  type : UInt8
  ownerId : PlayerID
  templateId : UInt32
  position : Vec3
  compressedQuat : UInt32
  factionId : UInt32
  templateName : Bytes
  health : Fin 7 → F32
  alive : Bool
deriving DecidableEq

structure MsgHandshakeAck where
  playerId : PlayerID
  serverTick : UInt32
  timeOfDay : F32
  weatherState : Int32
  maxPlayers : UInt8
  currentPlayers : UInt8
deriving DecidableEq

structure MsgCombatHit where
  attackerId : EntityID
  targetId : EntityID
  bodyPart : UInt8
  cutDamage : F32
  bluntDamage : F32
  pierceDamage : F32
  resultHealth : F32
  wasBlocked : Bool
  wasKO : Bool
deriving DecidableEq

structure MsgCombatKO where
  entityId : EntityID
  attackerId : EntityID
  bodyPart : UInt8
  resultHealth : F32
deriving DecidableEq

structure MsgBuildPlaced where
  entityId : EntityID
  templateId : UInt32
  position : Vec3
  compressedQuat : UInt32
  builderId : PlayerID
deriving DecidableEq

structure MsgTradeResult where
  buyerEntityId : EntityID
  itemTemplateId : UInt32
  quantity : Int32
  success : Bool
deriving DecidableEq

structure MsgInventoryUpdate where
  entityId : EntityID
  action : UInt8
  itemTemplateId : UInt32
  quantity : Int32
deriving DecidableEq

structure MsgTimeSync where
  serverTick : UInt32
  timeOfDay : F32
  weatherState : Int32
  gameSpeed : F32
deriving DecidableEq

structure MsgServerInfo where
  protocolVersion : UInt32
  currentPlayers : UInt8
  maxPlayers : UInt8
  port : UInt16
  timeOfDay : F32
  pvpEnabled : Bool
  serverName : Bytes
deriving DecidableEq

/-- A message of the server, one constructor a message type. -/
inductive S2C where
  | handshakeAck (ack : MsgHandshakeAck)
  | handshakeReject (reasonCode : UInt8) (reasonText : Bytes)
  | playerJoined (playerId : PlayerID) (playerName : Bytes)
  | playerLeft (playerId : PlayerID) (reason : UInt8)
  | keepaliveAck
  | allPlayersReady
  | timeSync (msg : MsgTimeSync)
  | entitySpawn (record : SpawnRecord)
  | entityDespawn (entityId : EntityID) (reason : UInt8)
  | positionUpdate (sourcePlayer : PlayerID) (count : UInt8) (records : List CharacterPosition)
  | moveCommand (msg : MsgMoveCommand)
  | combatHit (msg : MsgCombatHit)
  | combatBlock (msg : MsgCombatStance)
  | combatDeath (msg : MsgCombatDeath)
  | combatKO (msg : MsgCombatKO)
  | equipmentUpdate (msg : MsgEquipmentUpdate)
  | limbHealth (msg : MsgLimbHealth)
  | statusEffect (msg : MsgStatusEffect)
  | inventoryUpdate (msg : MsgInventoryUpdate)
  | tradeResult (msg : MsgTradeResult)
  | buildPlaced (msg : MsgBuildPlaced)
  | buildProgress (entityId : EntityID) (progress : F32)
  | buildDestroyed (entityId : EntityID) (reason : UInt8)
  | doorState (entityId : EntityID) (state : UInt8)
  | squadCreated (creatorEntityId squadNetId : UInt32) (squadName : Bytes)
  | squadMemberUpdate (msg : MsgSquadMemberUpdate)
  | factionRelation (msg : MsgFactionRelation)
  | chatMessage (senderId : PlayerID) (text : Bytes)
  | systemMessage (text : Bytes)
  | adminResponse (success : Bool) (responseText : Bytes)
  | hostAssignment (newHostPlayerId : PlayerID)
  | serverInfo (info : MsgServerInfo)
  | pipelineSnapshot (playerId : PlayerID) (payload : Bytes)
  | pipelineEvent (playerId : PlayerID) (payload : Bytes)
  | entityHeartbeat (serverTick : UInt32) (entityCount : UInt16) (ids : List EntityID)
  | factionAssignment (faction : Bytes) (slot : Int32)
  | lobbyStart (playerCount : UInt8)
deriving DecidableEq

/-- A packet in a channel. -/
structure Sent where
  channel : Nat
  reliable : Bool
  msg : S2C
deriving DecidableEq

/-- A slot of the network host. -/
abbrev Peer := Nat

/-- What the server asks of the network host. -/
inductive Call where
  /-- to every connected slot, with or without a player behind it -/
  | broadcast (packet : Sent)
  | send (peer : Peer) (packet : Sent)
  | disconnect (peer : Peer)
  | disconnectLater (peer : Peer)
deriving DecidableEq

end KenshiMP
