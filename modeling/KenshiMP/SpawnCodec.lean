/-
**The announcement of an entity, as bytes.**

Three handlers write it: for a request (`handleEntitySpawnReqBytes`), in a snapshot and for a zone
(`sendWorldSnapshotBytes`, `handleZoneRequestBytes`). The layout is that of a request with the state
behind the name, and a client reads back what was written (`readEntitySpawn_write`).

The first handler passes the rotation of the request on, the other two compress the stored one again.
Compression is not exact where two components are the greatest, so a quarter turn comes back as
another packing of nearly the same rotation (`quarterTurn_differs`).
-/

import KenshiMP.Client.Spawns

namespace KenshiMP

open Wire (Bytes Codec ascii)
open Wire.Codec
open GameServer

/-! ### Reading what is ahead -/

namespace PacketReader

/-- A value is read if there are bytes enough. -/
theorem readRaw_take {α : Type} (codec : Codec α) (reader : PacketReader)
    (enough : codec.size ≤ reader.current.length) :
    ∃ next, reader.readRaw codec = some (codec.decode (reader.current.take codec.size), next)
      ∧ next.current = reader.current.drop codec.size := by
  have inside := reader.inside
  have fits : reader.pos + codec.size ≤ reader.data.length := by
    unfold current at enough
    rw [List.length_drop] at enough
    omega
  refine ⟨⟨reader.data, reader.pos + codec.size, fits⟩, ?_, ?_⟩
  · unfold readRaw
    rw [dif_pos fits]
  · show reader.data.drop (reader.pos + codec.size) = (reader.data.drop reader.pos).drop codec.size
    rw [List.drop_drop]

theorem readBytes_append (reader : PacketReader) (bytes rest : Bytes)
    (ahead : reader.current = bytes ++ rest) :
    ∃ next, reader.readBytes bytes.length = some (bytes, next) ∧ next.current = rest := by
  obtain ⟨next, read, behind, -⟩ := readRaw_append (raw bytes.length) reader ⟨bytes, rfl⟩ rest ahead
  refine ⟨next, ?_, behind⟩
  unfold readBytes
  rw [read]
  rfl

theorem readBytes_short {count : Nat} (reader : PacketReader)
    (short : reader.current.length < count) : reader.readBytes count = none := by
  unfold readBytes
  rw [readRaw_short (raw count) reader short]
  rfl

end PacketReader

/-! ### The layout -/

/-- The name with its 16-bit length in front. -/
def writeTemplateName (templateName : Bytes) : Bytes :=
  u16.encode (UInt16.ofNat templateName.length) ++ templateName.take (templateName.length % 65536)

/-- The flag, the seven healths and the alive byte. -/
def writeExtended (health : Fin 7 → F32) (alive : UInt8) : Bytes :=
  u8.encode 1 ++ ((f32.array 7).prod u8).encode (health, alive)

/-- What follows the header of an announcement. -/
def SpawnRecord.write (record : SpawnRecord) : Bytes :=
  spawnRequest.encode (record.entityId, record.type, record.ownerId, record.templateId,
      (record.position.x, record.position.y, record.position.z), record.compressedQuat,
      record.factionId)
    ++ writeTemplateName record.templateName
    ++ writeExtended record.health (if record.alive then 1 else 0)

/-- `HandleEntitySpawnReq`: the values of the request, under the new identifier. -/
def handleEntitySpawnReqBytes (request : SpawnRequest) (serverId : EntityID) (owner : PlayerID) :
    Bytes := (request.record serverId owner).write

/-- `SendWorldSnapshot`: those of the entity. -/
def sendWorldSnapshotBytes (entity : ServerEntity) : Bytes := (entityRecord entity).write

/-- `HandleZoneRequest`: those of the entity. -/
def handleZoneRequestBytes (entity : ServerEntity) : Bytes := (entityRecord entity).write

/-- What a client reads behind the header. -/
def decodeSpawn (payload : Bytes) : Option EntitySpawn := readEntitySpawn (PacketReader.start payload)

/-- What a client should read about an entity. -/
def EntitySpawn.ofEntity (entity : ServerEntity) (compQuat : UInt32) : EntitySpawn where
  entityId := entity.id
  type := entity.type
  ownerId := entity.owner
  templateId := entity.templateId
  spawnPos := entity.position
  compQuat := compQuat
  factionId := entity.factionId
  templateName := entity.templateName.take 255
  extended := some (entity.health, entity.alive)

theorem EntitySpawn.compQuat_ofEntity (entity : ServerEntity) (compQuat : UInt32) :
    (EntitySpawn.ofEntity entity compQuat).compQuat = compQuat := rfl

/-! ### Reading it back -/

/-- A name of at most 255 bytes is read back. -/
theorem readTemplateName_write (reader : PacketReader) (templateName rest : Bytes)
    (short : templateName.length ≤ 255)
    (ahead : reader.current = writeTemplateName templateName ++ rest) :
    ∃ next, readTemplateName reader = (templateName, next) ∧ next.current = rest := by
  have whole : templateName.take (templateName.length % 65536) = templateName := by
    rw [Nat.mod_eq_of_lt (by omega)]
    exact List.take_length
  have number : (UInt16.ofNat templateName.length).toNat = templateName.length := by
    rw [UInt16.toNat_ofNat']
    exact Nat.mod_eq_of_lt (by omega)
  unfold writeTemplateName at ahead
  rw [whole, List.append_assoc] at ahead
  obtain ⟨counted, read, current, -⟩ := PacketReader.readRaw_append u16 reader _ _ ahead
  unfold readTemplateName PacketReader.readU16
  rw [read]
  simp only
  by_cases empty : templateName = []
  · subst empty
    exact ⟨counted, rfl, current⟩
  · have some : (0 < UInt16.ofNat templateName.length && UInt16.ofNat templateName.length ≤ 255) = true := by
      have positive := List.length_pos_of_ne_nil empty
      rw [Bool.and_eq_true, decide_eq_true_eq, decide_eq_true_eq, UInt16.lt_iff_toNat_lt,
        UInt16.le_iff_toNat_le, number]
      exact ⟨positive, short⟩
    rw [if_pos some, number]
    obtain ⟨next, bytes, behind⟩ := counted.readBytes_append templateName rest current
    rw [bytes]
    exact ⟨next, rfl, behind⟩

/-- The state is read back, whatever follows. -/
theorem readExtended_write (reader : PacketReader) (health : Fin 7 → F32) (alive : UInt8)
    (rest : Bytes) (ahead : reader.current = writeExtended health alive ++ rest) :
    readExtended reader = some (health, decide (alive ≠ 0)) := by
  unfold writeExtended at ahead
  rw [List.append_assoc] at ahead
  obtain ⟨flagged, flag, current, -⟩ := PacketReader.readRaw_append u8 reader 1 _ ahead
  obtain ⟨next, read, -, -⟩ :=
    PacketReader.readRaw_append ((f32.array 7).prod u8) flagged (health, alive) rest current
  unfold readExtended PacketReader.readU8
  rw [flag]
  simp only [if_true]
  rw [read]
  rfl

/-- A client reads what was written, if the name has at most 255 bytes. -/
theorem readEntitySpawn_write (record : SpawnRecord) (short : record.templateName.length ≤ 255) :
    decodeSpawn record.write = some (.ofRecord record) := by
  have ahead : (PacketReader.start record.write).current = record.write := rfl
  unfold SpawnRecord.write at ahead
  rw [List.append_assoc] at ahead
  obtain ⟨fixed, read, current, -⟩ := PacketReader.readRaw_append spawnRequest
    (PacketReader.start record.write) _ _ ahead
  obtain ⟨named, name, behind⟩ := readTemplateName_write fixed record.templateName _ short current
  have extended := readExtended_write named record.health (if record.alive then 1 else 0) []
    (by rw [behind, List.append_nil])
  have alive : decide ((if record.alive then 1 else 0 : UInt8) ≠ 0) = record.alive := by
    cases record.alive <;> rfl
  rw [alive] at extended
  unfold decodeSpawn readEntitySpawn
  rw [read]
  simp only [name, extended]
  rfl

/-- The name of a request is short. -/
theorem readTemplateName_length (reader : PacketReader) : (readTemplateName reader).1.length ≤ 255 := by
  unfold readTemplateName
  cases reader.readU16 with
  | none => exact Nat.zero_le _
  | some counted =>
    obtain ⟨nameLen, rest⟩ := counted
    simp only
    split_ifs with range
    · rw [Bool.and_eq_true, decide_eq_true_eq, decide_eq_true_eq, UInt16.le_iff_toNat_le] at range
      unfold PacketReader.readBytes
      cases rest.readRaw (raw nameLen.toNat) with
      | none => exact Nat.zero_le _
      | some read =>
        show read.1.1.length ≤ 255
        rw [read.1.2]
        exact range.2
    · exact Nat.zero_le _

theorem readSpawnRequest_name {reader : PacketReader} {request : SpawnRequest}
    (read : readSpawnRequest reader = some request) : request.templateName.length ≤ 255 := by
  unfold readSpawnRequest at read
  cases fixed : reader.readRaw spawnRequest with
  | none =>
    rw [fixed] at read
    cases read
  | some found =>
    obtain ⟨⟨clientEntityId, type, ownerId, templateId, ⟨px, py, pz⟩, compQuat, factionId⟩, rest⟩ :=
      found
    rw [fixed] at read
    cases read
    exact readTemplateName_length rest

/-! ### The three encoders -/

section Requested

variable (request : SpawnRequest) (serverId : EntityID) (owner : PlayerID)

/-- What is announced of a request is what is stored, but for the rotation. -/
theorem ofRecord_request (short : request.templateName.length ≤ 255) :
    EntitySpawn.ofRecord (request.record serverId owner)
      = .ofEntity (request.entity serverId owner) request.compQuat := by
  have name : request.templateName.take 255 = request.templateName := List.take_of_length_le short
  unfold SpawnRequest.entity SpawnRequest.record spawnedEntity EntitySpawn.ofRecord
    EntitySpawn.ofEntity
  cases request.extended with
  | none => simp only [name, Option.map_none, Option.getD_none]
  | some extended => simp only [name, Option.map_some, Option.getD_some]

theorem rotation_request : (request.entity serverId owner).rotation = Quat.decompress request.compQuat := by
  unfold SpawnRequest.entity spawnedEntity
  cases request.extended with
  | none => rfl
  | some extended => rfl

end Requested

/-- A stored entity is read back, with its rotation compressed again. -/
theorem decode_entityRecord (entity : ServerEntity) :
    decodeSpawn (entityRecord entity).write = some (.ofEntity entity entity.rotation.compress) := by
  have short : (entityRecord entity).templateName.length ≤ 255 := by
    unfold entityRecord
    exact List.length_take_le 255 entity.templateName
  have record : EntitySpawn.ofRecord (entityRecord entity) = .ofEntity entity entity.rotation.compress := by
    simp only [EntitySpawn.ofRecord, entityRecord, EntitySpawn.ofEntity]
  rw [readEntitySpawn_write _ short, record]

/-- A request is read back as the entity that was stored for it, with the rotation it asked for. -/
theorem decode_request (request : SpawnRequest) (serverId : EntityID) (owner : PlayerID)
    (short : request.templateName.length ≤ 255) :
    decodeSpawn (handleEntitySpawnReqBytes request serverId owner)
      = some (.ofEntity (request.entity serverId owner) request.compQuat) := by
  have name : (request.record serverId owner).templateName = request.templateName := rfl
  unfold handleEntitySpawnReqBytes
  rw [readEntitySpawn_write _ (name ▸ short), ofRecord_request request serverId owner short]

/-- **Every announcement is read back.** Snapshot and zone give the stored entity with its rotation
compressed, for every entity; the answer to a request gives the entity stored for it with the rotation
as the request had it, which the stored one is unpacked from. So the three agree exactly if packing
that again gives the same. -/
theorem announcements_decode (entity : ServerEntity) {reader : PacketReader} {request : SpawnRequest}
    (read : readSpawnRequest reader = some request) (serverId : EntityID) (owner : PlayerID) :
    decodeSpawn (sendWorldSnapshotBytes entity) = some (.ofEntity entity entity.rotation.compress)
      ∧ decodeSpawn (handleZoneRequestBytes entity)
        = some (.ofEntity entity entity.rotation.compress)
      ∧ decodeSpawn (handleEntitySpawnReqBytes request serverId owner)
        = some (.ofEntity (request.entity serverId owner) request.compQuat)
      ∧ (request.entity serverId owner).rotation = Quat.decompress request.compQuat
      ∧ (decodeSpawn (handleEntitySpawnReqBytes request serverId owner)
          = decodeSpawn (sendWorldSnapshotBytes (request.entity serverId owner))
        ↔ (Quat.decompress request.compQuat).compress = request.compQuat) := by
  have requested := decode_request request serverId owner (readSpawnRequest_name read)
  have rotation := rotation_request request serverId owner
  have stored (entity : ServerEntity) : decodeSpawn (sendWorldSnapshotBytes entity)
      = some (.ofEntity entity entity.rotation.compress) := by
    unfold sendWorldSnapshotBytes
    exact decode_entityRecord entity
  refine ⟨stored entity, ?_, requested, rotation, ?_⟩
  · unfold handleZoneRequestBytes
    exact decode_entityRecord entity
  · rw [requested, stored, rotation, Option.some.injEq]
    constructor
    · intro same
      have quat := congrArg EntitySpawn.compQuat same
      rw [EntitySpawn.compQuat_ofEntity, EntitySpawn.compQuat_ofEntity] at quat
      exact quat.symm
    · intro stable
      rw [stable]

/-! ### A quarter turn -/

/-- A quarter turn about the first axis. -/
def quarterTurn : Quat := ⟨lit 70710678 100000000, lit 70710678 100000000, lit 0 1, lit 0 1⟩

/-- What the server reads of a client's request for a character that has turned so. -/
def turnedRequest : SpawnRequest where
  type := EntityType.NPC
  templateId := 0
  position := {}
  compQuat := quarterTurn.compress
  factionId := 0
  templateName := ascii "Greenlander"
  extended := none

/-- The body of that request. -/
def turnedBody : Bytes :=
  spawnRequest.encode (1, EntityType.NPC, 1, 0, (lit 0 1, lit 0 1, lit 0 1), quarterTurn.compress, 0)
    ++ writeTemplateName (ascii "Greenlander")

/-- The server reads it so. -/
theorem turnedRequest_read : readSpawnRequest (PacketReader.start turnedBody) = some turnedRequest := by
  obtain ⟨fixed, read, current, -⟩ := PacketReader.readRaw_append spawnRequest
    (PacketReader.start turnedBody) _ _ (show _ = spawnRequest.encode _ ++ _ from rfl)
  obtain ⟨named, name, behind⟩ := readTemplateName_write fixed (ascii "Greenlander") []
    (by decide) (by rw [current, List.append_nil])
  have extended : readExtended named = none := by
    unfold readExtended PacketReader.readU8
    rw [PacketReader.readRaw_short u8 named (by rw [behind]; exact Nat.one_pos)]
  unfold readSpawnRequest turnedRequest
  rw [read]
  simp only [name, extended]

/-- Packing the stored rotation again gives another word. -/
theorem quarterTurn_differs : (Quat.decompress quarterTurn.compress).compress ≠ quarterTurn.compress := by
  decide +kernel

/-- The announcement has all that was requested, the stored entity the rotation that the word stands for, and
a snapshot gives that rotation under another word. -/
theorem announcements_decode_turned :
    readSpawnRequest (PacketReader.start turnedBody) = some turnedRequest
      ∧ decodeSpawn (handleEntitySpawnReqBytes turnedRequest 1 1)
        = some (.ofEntity (turnedRequest.entity 1 1) turnedRequest.compQuat)
      ∧ (turnedRequest.entity 1 1).rotation = Quat.decompress turnedRequest.compQuat
      ∧ decodeSpawn (handleEntitySpawnReqBytes turnedRequest 1 1)
        ≠ decodeSpawn (sendWorldSnapshotBytes (turnedRequest.entity 1 1)) := by
  obtain ⟨-, -, requested, rotation, same_iff⟩ :=
    announcements_decode (turnedRequest.entity 1 1) turnedRequest_read 1 1
  exact ⟨turnedRequest_read, requested, rotation, mt same_iff.mp quarterTurn_differs⟩

/-- A server accepts the request; its announcement and that of the entity stored for it are read
differently. -/
theorem announcements_differ :
    readSpawnRequest (PacketReader.start turnedBody) = some turnedRequest
      ∧ ({} : GameServer).acceptsSpawn turnedRequest = true
      ∧ decodeSpawn (handleEntitySpawnReqBytes turnedRequest 1 1)
        ≠ decodeSpawn (sendWorldSnapshotBytes (turnedRequest.entity 1 1)) := by
  refine ⟨turnedRequest_read, by decide +kernel, fun same => ?_⟩
  unfold sendWorldSnapshotBytes at same
  rw [decode_request turnedRequest 1 1 (readSpawnRequest_name turnedRequest_read),
    decode_entityRecord, rotation_request, Option.some.injEq] at same
  have quat := congrArg EntitySpawn.compQuat same
  rw [EntitySpawn.compQuat_ofEntity, EntitySpawn.compQuat_ofEntity] at quat
  exact quarterTurn_differs quat.symm

end KenshiMP
