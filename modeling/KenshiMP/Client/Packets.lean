/-
**What a client puts on the wire.**

A packet is a header and a body. `openPacket_packet`: the server finds the body behind the header;
`readRaw_packet`: a packed message is read back as it was written. The packets below are those of
the client's senders, header with zero flags, sequence and timestamp.
-/

import KenshiMP.System

namespace KenshiMP

open Wire (Bytes Codec ascii)
open Wire.Codec

/-! ### Packets as the server opens them -/

def packet (header : PacketHeader) (body : Bytes) : Bytes := PacketHeader.codec.encode header ++ body

open GameServer

/-- The body is what the handler reads. -/
theorem openPacket_packet {header : PacketHeader} {type : MessageType} (code : header.type = type.code)
    {channel : Nat} (right : wrongChannel (some type) channel = false) (body : Bytes) :
    ∃ reader, openPacket (packet header body) channel = some (type, reader) ∧ reader.current = body := by
  obtain ⟨reader, read, current, -⟩ := PacketReader.readRaw_append PacketHeader.codec
    (PacketReader.start (packet header body)) header body rfl
  refine ⟨reader, ?_, current⟩
  unfold openPacket
  rw [read]
  simp only
  rw [code, MessageType.ofCode_code, right]
  rfl

/-- A message in a packet is what the handler gets. -/
theorem readRaw_packet {α : Type} (codec : Codec α) {header : PacketHeader} {type : MessageType}
    (code : header.type = type.code) {channel : Nat}
    (right : wrongChannel (some type) channel = false) (msg : α) (trailing : Bytes) :
    ∃ reader rest,
      openPacket (packet header (codec.encode msg ++ trailing)) channel = some (type, reader)
        ∧ reader.readRaw codec = some (msg, rest) := by
  obtain ⟨reader, opened, current⟩ := openPacket_packet code right (codec.encode msg ++ trailing)
  obtain ⟨rest, read, -, -⟩ := PacketReader.readRaw_append codec reader msg trailing current
  exact ⟨reader, rest, opened, read⟩

/-! ### Position packets -/

/-- A count and that many packed records. -/
def positionBody (records : List CharacterPosition) : Bytes :=
  u8.encode (UInt8.ofNat records.length) ++ records.flatMap CharacterPosition.codec.encode

/-- Packed records are read back one by one, and nothing behind them is touched. -/
theorem readPositions_append (records : List CharacterPosition) (reader : PacketReader)
    (trailing : Bytes)
    (ahead : reader.current = records.flatMap CharacterPosition.codec.encode ++ trailing) :
    ∃ last, readPositions records.length reader = (records, last) ∧ last.current = trailing := by
  induction records generalizing reader with
  | nil => exact ⟨reader, rfl, ahead⟩
  | cons record rest ih =>
    rw [List.flatMap_cons, List.append_assoc] at ahead
    obtain ⟨next, read, current, -⟩ := PacketReader.readRaw_append _ reader record _ ahead
    obtain ⟨last, others, behind⟩ := ih next current
    refine ⟨last, ?_, behind⟩
    rw [List.length_cons, readPositions, read]
    simp only [others]

/-- A count below 256 is read back. -/
theorem toNat_ofNat_length {records : List CharacterPosition} (few : records.length < 256) :
    (UInt8.ofNat records.length).toNat = records.length := by
  rw [UInt8.toNat_ofNat']
  exact Nat.mod_eq_of_lt few

/-! ### The packets of the senders -/

namespace Client

def message {α : Type} (type : MessageType) (codec : Codec α) (msg : α) : Bytes :=
  writeHeader type ++ codec.encode msg

/-- `strncpy` into an array, with a null at its end. -/
def charArray (count : Nat) (text : Bytes) : CharArray count :=
  ⟨(text.take (count - 1) ++ List.replicate count 0).take count, by
    rw [List.length_take, List.length_append, List.length_replicate]
    omega⟩

def handshake (playerName : Bytes) : Bytes :=
  message .C2S_Handshake MsgHandshake.codec
    ⟨KMP_PROTOCOL_VERSION, charArray 32 playerName, 1, 0, 68, 0⟩

/-- A spawn request; the name comes with a 16-bit length, and nothing more follows. -/
def entitySpawn (netId : EntityID) (type : UInt8) (owner : PlayerID) (templateId : UInt32)
    (position : Vec3) (rotation : Quat) (factionId : UInt32) (templateName : Bytes) : Bytes :=
  message .C2S_EntitySpawnReq spawnRequest
      (netId, type, owner, templateId, (position.x, position.y, position.z), rotation.compress,
        factionId)
    ++ u16.encode (UInt16.ofNat templateName.length) ++ templateName

/-- The state that may follow the name: a flag, the healths, the alive byte. -/
def extendedState (health : Fin 7 → F32) (alive : UInt8) : Bytes :=
  u8.encode 1 ++ ((f32.array 7).prod u8).encode (health, alive)

/-- The server reads from a handshake what the client has put into it. -/
theorem handshake_read (playerName : Bytes) :
    ∃ reader rest,
      openPacket (handshake playerName) KMP_CHANNEL_RELIABLE_ORDERED = some (.C2S_Handshake, reader)
        ∧ reader.readRaw MsgHandshake.codec
          = some (⟨KMP_PROTOCOL_VERSION, charArray 32 playerName, 1, 0, 68, 0⟩, rest) := by
  have sent := @readRaw_packet _ MsgHandshake.codec ⟨MessageType.code .C2S_Handshake, 0, 0, 0⟩
    .C2S_Handshake rfl KMP_CHANNEL_RELIABLE_ORDERED rfl
    ⟨KMP_PROTOCOL_VERSION, charArray 32 playerName, 1, 0, 68, 0⟩ []
  rw [List.append_nil] at sent
  exact sent

/-! ### What happens to the server -/

/-- A client connects and shakes hands. -/
def joins (peer : Peer) (playerName : Bytes) : List Event :=
  [.connect peer 0 0, .packet peer (handshake playerName) KMP_CHANNEL_RELIABLE_ORDERED {}]

/-- A client sends a packed message on the reliable channel. -/
def sends {α : Type} (peer : Peer) (type : MessageType) (codec : Codec α) (msg : α) : Event :=
  .packet peer (message type codec msg) KMP_CHANNEL_RELIABLE_ORDERED {}

/-- A client asks for a character at a place. -/
def spawns (peer : Peer) (position : Vec3) : Event :=
  .packet peer (entitySpawn 1 0 1 0 position {} 0 (ascii "Greenlander"))
    KMP_CHANNEL_RELIABLE_ORDERED {}

end Client

end KenshiMP
