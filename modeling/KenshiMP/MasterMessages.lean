/-
**Packed messages of the master server.**

What a game server sends to the master server, and an entry of the list that a browser gets.
-/

import KenshiMP.Protocol

namespace KenshiMP

open Wire (Bytes Codec)
open Wire.Codec

/-! ### Message types -/

def MS_Register : UInt8 := 0xD0
def MS_Heartbeat : UInt8 := 0xD1
def MS_Deregister : UInt8 := 0xD2
def MS_QueryList : UInt8 := 0xD3
def MS_ServerList : UInt8 := 0xD4

/-! ### Messages -/

structure MsgMasterRegister where
  protocolVersion : UInt32
  gamePort : UInt16
  (currentPlayers maxPlayers : UInt8)
  timeOfDay : F32
  pvpEnabled : UInt8
  reserved : CharArray 3
  serverName : CharArray 64
  externalIP : CharArray 46
deriving DecidableEq

def MsgMasterRegister.codec : Codec MsgMasterRegister :=
  (u32.prod (u16.prod (u8.prod (u8.prod (f32.prod (u8.prod ((raw 3).prod
    ((raw 64).prod (raw 46))))))))).iso
    (fun (protocolVersion, gamePort, currentPlayers, maxPlayers, timeOfDay, pvpEnabled, reserved, serverName,
      externalIP) =>
      ⟨protocolVersion, gamePort, currentPlayers, maxPlayers, timeOfDay, pvpEnabled, reserved, serverName,
        externalIP⟩)
    (fun m => (m.protocolVersion, m.gamePort, m.currentPlayers, m.maxPlayers, m.timeOfDay, m.pvpEnabled,
      m.reserved, m.serverName, m.externalIP))
    (fun _ => rfl) (fun _ => rfl)

structure MsgMasterHeartbeat where
  gamePort : UInt16
  (currentPlayers maxPlayers : UInt8)
  timeOfDay : F32
deriving DecidableEq

def MsgMasterHeartbeat.codec : Codec MsgMasterHeartbeat :=
  (u16.prod (u8.prod (u8.prod f32))).iso
    (fun (gamePort, currentPlayers, maxPlayers, timeOfDay) =>
      ⟨gamePort, currentPlayers, maxPlayers, timeOfDay⟩)
    (fun m => (m.gamePort, m.currentPlayers, m.maxPlayers, m.timeOfDay))
    (fun _ => rfl) (fun _ => rfl)

structure MsgMasterServerEntry where
  serverName : CharArray 64
  address : CharArray 46
  port : UInt16
  (currentPlayers maxPlayers pvpEnabled reserved : UInt8)
deriving DecidableEq

def MsgMasterServerEntry.codec : Codec MsgMasterServerEntry :=
  ((raw 64).prod ((raw 46).prod (u16.prod (u8.prod (u8.prod (u8.prod u8)))))).iso
    (fun (serverName, address, port, currentPlayers, maxPlayers, pvpEnabled, reserved) =>
      ⟨serverName, address, port, currentPlayers, maxPlayers, pvpEnabled, reserved⟩)
    (fun m => (m.serverName, m.address, m.port, m.currentPlayers, m.maxPlayers, m.pvpEnabled, m.reserved))
    (fun _ => rfl) (fun _ => rfl)

/-! ### Reading -/

/-- The header of a packet and the message behind it. -/
def readMessage {α : Type} (codec : Codec α) (data : Bytes) : Option α :=
  match (PacketReader.start data).readRaw PacketHeader.codec with
  | none => none
  | some (_, reader) => (reader.readRaw codec).map Prod.fst

/-- The type in the header of a packet. -/
def packetType (data : Bytes) : Option UInt8 :=
  ((PacketReader.start data).readRaw PacketHeader.codec).map fun (header, _) => header.type

end KenshiMP
