/-
**The state of the game server.**

`GameServer` holds the tables of the server class. Hash maps have no specified order, so the order
of an `AMap` stands for the order of a walk at that moment, and a rehash may change it to any other
(`Event.rehash` in the system). Identifiers are 32-bit numbers and their counters wrap.

The slot of a connection keeps the player id behind it in `data`, zero when there is none.
-/

import KenshiMP.Lib.Assoc
import KenshiMP.Protocol

namespace KenshiMP

open Wire (Bytes ascii)
open Assoc

/-- A connection slot of the network host. -/
structure ENetPeer where
  data : UInt32
  host : UInt32
  roundTripTime : UInt32
deriving DecidableEq

theorem ServerConfig.one_le_default : 1 ≤ 16 := by decide

theorem ServerConfig.default_le : 16 ≤ 16 := by decide

theorem ServerConfig.default_range : (lit 1 10).le (lit 1 1) ∧ (lit 1 1).le (lit 10 1) := by
  decide +kernel

/-- The settings the server starts with, as loading them validates them. -/
structure ServerConfig where
  serverName : Bytes := ascii "KenshiMP Server"
  port : UInt16 := 27800
  maxPlayers : Nat := 16
  pvpEnabled : Bool := true
  gameSpeed : F32 := lit 1 1
  one_le_maxPlayers : 1 ≤ maxPlayers := by first | exact ServerConfig.one_le_default | decide
  maxPlayers_le : maxPlayers ≤ 16 := by first | exact ServerConfig.default_le | decide
  gameSpeed_range : (lit 1 10).le gameSpeed ∧ gameSpeed.le (lit 10 1) := by
    first | exact ServerConfig.default_range | decide +kernel

structure ConnectedPlayer where
  id : PlayerID
  name : Bytes
  peer : Peer
  position : Vec3 := {}
  zone : ZoneCoord := {}
  ping : UInt32
  lastUpdate : F32
  ownedEntities : List EntityID := []
  lobbyReady : Bool := false
  isLoopback : Bool := false
  isReady : Bool := false
deriving DecidableEq

structure ServerEntity where
  id : EntityID := 0
  generation : UInt32 := 0
  type : UInt8 := EntityType.NPC
  owner : PlayerID := 0
  state : EntityState := .Active
  authority : AuthorityType := .Server
  position : Vec3 := {}
  rotation : Quat := {}
  zone : ZoneCoord := {}
  templateId : UInt32 := 0
  factionId : UInt32 := 0
  templateName : Bytes := []
  health : Fin 7 → F32 := fun _ => lit 100 1
  limbHealth : Fin 7 → F32 := fun _ => lit 100 1
  statusEffects : Fin 5 → UInt8 := fun _ => 0
  animState : UInt8 := 0
  moveSpeed : UInt8 := 0
  flags : UInt16 := 0
  alive : Bool := true
  buildProgress : F32 := lit 0 1
  equipment : Fin 14 → UInt32 := fun _ => 0
deriving DecidableEq

/-- The entities a returning player may reclaim. -/
structure SavedPlayer where
  name : Bytes
  entityIds : List EntityID
deriving DecidableEq

structure GameServer where
  peers : AMap Peer ENetPeer := ∅
  config : ServerConfig := {}
  players : AMap PlayerID ConnectedPlayer := ∅
  entities : AMap EntityID ServerEntity := ∅
  savedPlayers : AMap Bytes SavedPlayer := ∅
  nextPlayerId : PlayerID := 1
  nextEntityId : EntityID := 1
  nextSquadId : UInt32 := 0x80000000
  hostPlayerId : PlayerID := 0
  serverTick : UInt32 := 0
  timeOfDay : F32 := lit 1 2
  weatherState : Int32 := 0
  timeSinceTimeSync : F32 := lit 0 1
  timeSinceHeartbeat : F32 := lit 0 1
  uptime : F32 := lit 0 1
  timeSinceOrphanCleanup : F32 := lit 0 1
  timeSinceAutoSave : F32 := lit 0 1
  autoSaveInterval : F32 := lit 60 1

namespace GameServer

variable (server : GameServer)

/-! ### Looking up -/

/-- `peer->data`. -/
def peerData (peer : Peer) : UInt32 := ((server.peers.lookup peer).map ENetPeer.data).getD 0

/-- Write `peer->data`. -/
def setPeerData (peer : Peer) (data : UInt32) : GameServer :=
  { server with peers := AMap.modify peer (fun slot => { slot with data := data }) server.peers }

/-- The player behind a slot, with the key it is stored under. -/
def getPlayer (peer : Peer) : Option (PlayerID × ConnectedPlayer) :=
  if server.peerData peer = 0 then none
  else (server.players.lookup (server.peerData peer)).map fun player => (server.peerData peer, player)

/-- The entity has an owner that is not connected. -/
def isOrphan (entity : ServerEntity) : Bool :=
  entity.owner ≠ 0 && (server.players.lookup entity.owner).isNone

def updatePlayer (key : PlayerID) (f : ConnectedPlayer → ConnectedPlayer) : GameServer :=
  { server with players := AMap.modify key f server.players }

def updateEntity (key : EntityID) (f : ServerEntity → ServerEntity) : GameServer :=
  { server with entities := AMap.modify key f server.entities }

/-- The identifiers of a player's entities, in walking order. -/
def ownedIds (id : PlayerID) : List EntityID :=
  server.entities.toList.filterMap fun (eid, entity) => if entity.owner = id then some eid else none

/-- Write one element of an array; an index past its end writes nothing. -/
def store {α : Type} {count : Nat} (values : Fin count → α) (index : Nat) (value : α) : Fin count → α :=
  fun i => if i.val = index then value else values i

/-! ### Sending -/

/-- `Broadcast` on a reliable channel. -/
def broadcast (channel : Nat) (msg : S2C) : List Call := [.broadcast ⟨channel, true, msg⟩]

/-- `BroadcastExcept`: to the players, one by one, but for one. -/
def broadcastExcept (exclude : PlayerID) (channel : Nat) (msg : S2C) : List Call :=
  server.players.toList.filterMap fun (id, player) =>
    if id = exclude then none else some (.send player.peer ⟨channel, true, msg⟩)

/-- `SendTo`. -/
def sendTo (id : PlayerID) (channel : Nat) (msg : S2C) : List Call :=
  match server.players.lookup id with
  | none => []
  | some player => [.send player.peer ⟨channel, true, msg⟩]

/-- The length of a string on the wire is 16 bits, and so many bytes follow. -/
def wireString (text : Bytes) : Bytes := text.take (text.length % 65536)

def broadcastSystemMessage (text : Bytes) : List Call :=
  broadcast KMP_CHANNEL_RELIABLE_ORDERED (.systemMessage (wireString text))

def broadcastTimeSync : List Call :=
  broadcast KMP_CHANNEL_RELIABLE_ORDERED
    (.timeSync ⟨server.serverTick, server.timeOfDay, server.weatherState, server.config.gameSpeed⟩)

def broadcastHostAssignment : List Call :=
  broadcast KMP_CHANNEL_RELIABLE_ORDERED (.hostAssignment server.hostPlayerId)

end GameServer

end KenshiMP
