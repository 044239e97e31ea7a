/-
**The master server.**

A list of game servers, kept under the text of an address and a port. A game server may name its address
itself; without one it is the address its connection comes from. A text that fills its array has no end in
the message and runs on into whatever stands behind it, so that a packet comes with these bytes (`beyond`).

The network host reports packets and disconnects only for a connection that is there. Times are nanoseconds
of the steady clock since the program started.
-/

import KenshiMP.MasterMessages
import KenshiMP.Client.Packets
import KenshiMP.Server.Decimals

namespace KenshiMP

open Wire (Bytes)
open Assoc

structure RegisteredServer where
  serverName : Bytes
  address : Bytes
  port : UInt16
  (currentPlayers maxPlayers : UInt8)
  timeOfDay : F32
  pvpEnabled : UInt8
  lastHeartbeat : Nat
  peer : Peer
deriving DecidableEq

structure MasterServer where
  servers : AMap Bytes RegisteredServer := ∅
  peers : AMap Peer Bytes := ∅
  clock : Nat := 0

inductive MasterCall where
  | send (peer : Peer) (count : UInt16) (entries : List MsgMasterServerEntry)
  | disconnectLater (peer : Peer)
deriving DecidableEq

namespace MasterServer

def HEARTBEAT_TIMEOUT_SEC : F32 := lit 90 1

def makeKey (ip : Bytes) (port : UInt16) : Bytes := ip ++ 0x3A :: decimal port.toNat

variable (master : MasterServer)

def peerAddressString (peer : Peer) : Bytes := (master.peers.lookup peer).getD []

/-- Remove the servers that a walk over the list picks. -/
def removeServers (picked : RegisteredServer → Bool) : MasterServer :=
  { master with
    servers := AMap.eraseAll ((master.servers.toList.filter fun (_, srv) => picked srv).map Prod.fst)
      master.servers }

/-! ### Packets -/

/-- The text of an array of the message; `rest` is what stands behind the array. -/
def textOf {count : Nat} (array : CharArray count) (rest : Bytes) : Bytes := cString (array.1 ++ rest)

/-- The address a server is kept under. -/
def externalIP (peer : Peer) (msg : MsgMasterRegister) (beyond : Bytes) : Bytes :=
  if textOf msg.externalIP beyond = [] then master.peerAddressString peer else textOf msg.externalIP beyond

def registration (peer : Peer) (msg : MsgMasterRegister) (beyond : Bytes) : RegisteredServer where
  serverName := textOf msg.serverName (msg.externalIP.1 ++ beyond)
  address := master.externalIP peer msg beyond
  port := msg.gamePort
  currentPlayers := msg.currentPlayers
  maxPlayers := msg.maxPlayers
  timeOfDay := msg.timeOfDay
  pvpEnabled := msg.pvpEnabled
  lastHeartbeat := master.clock
  peer := peer

def handleRegister (peer : Peer) (data beyond : Bytes) : MasterServer :=
  match readMessage MsgMasterRegister.codec data with
  | none => master
  | some msg =>
    if msg.protocolVersion ≠ KMP_PROTOCOL_VERSION then master
    else
      { master with
        servers := AList.insert (makeKey (master.externalIP peer msg beyond) msg.gamePort)
          (master.registration peer msg beyond) master.servers }

/-- What a heartbeat writes into an entry. -/
def refreshed (msg : MsgMasterHeartbeat) (srv : RegisteredServer) : RegisteredServer :=
  { srv with
    currentPlayers := msg.currentPlayers
    maxPlayers := msg.maxPlayers
    timeOfDay := msg.timeOfDay
    lastHeartbeat := master.clock }

/-- The entry that a heartbeat refreshes: the one under the address of the connection, else the first one in
the order of the walk that the connection registered for the port. -/
def heartbeatKey (peer : Peer) (msg : MsgMasterHeartbeat) : Option Bytes :=
  let key := makeKey (master.peerAddressString peer) msg.gamePort
  if (master.servers.lookup key).isSome then some key
  else (master.servers.toList.find? fun (_, s) => s.peer = peer && s.port = msg.gamePort).map Prod.fst

def handleHeartbeat (peer : Peer) (data : Bytes) : MasterServer :=
  match readMessage MsgMasterHeartbeat.codec data with
  | none => master
  | some msg =>
    match master.heartbeatKey peer msg with
    | none => master
    | some key => { master with servers := AMap.modify key (master.refreshed msg) master.servers }

def handleDeregister (peer : Peer) : MasterServer := master.removeServers fun srv => srv.peer = peer

def listEntry (srv : RegisteredServer) : MsgMasterServerEntry where
  serverName := Client.charArray 64 srv.serverName
  address := Client.charArray 46 srv.address
  port := srv.port
  currentPlayers := srv.currentPlayers
  maxPlayers := srv.maxPlayers
  pvpEnabled := srv.pvpEnabled
  reserved := 0

/-- Send the list, its size cut to sixteen bits, and close the connection. -/
def handleQueryList (peer : Peer) : List MasterCall :=
  [.send peer (UInt16.ofNat master.servers.size) (master.servers.toList.map fun (_, srv) => listEntry srv),
    .disconnectLater peer]

def handlePacket (peer : Peer) (data beyond : Bytes) : MasterServer × List MasterCall :=
  match packetType data with
  | none => (master, [])
  | some type =>
    if type = MS_Register then (master.handleRegister peer data beyond, [])
    else if type = MS_Heartbeat then (master.handleHeartbeat peer data, [])
    else if type = MS_Deregister then (master.handleDeregister peer, [])
    else if type = MS_QueryList then (master, master.handleQueryList peer)
    else (master, [])

/-! ### Time -/

/-- A time of the steady clock in seconds. -/
def elapsed (nanoseconds : Nat) : F32 := (Binary.Flt.ofInt nanoseconds).div (lit 1000000000 1)

def stale (srv : RegisteredServer) : Bool :=
  HEARTBEAT_TIMEOUT_SEC.lt (elapsed (master.clock - srv.lastHeartbeat))

def pruneStaleServers : MasterServer := master.removeServers master.stale

/-! ### Connections -/

def handleDisconnect (peer : Peer) : MasterServer :=
  { master.removeServers fun srv => srv.peer = peer with peers := AList.erase peer master.peers }

end MasterServer

inductive MasterEvent where
  /-- a connection is made, from an address -/
  | connect (peer : Peer) (ip : Bytes)
  | receive (peer : Peer) (data beyond : Bytes)
  | disconnect (peer : Peer)
  | prune
  | tick (nanoseconds : Nat)
  /-- the hash map is put into another order -/
  | rehash (rank : Bytes → Nat)

def MasterServer.react (master : MasterServer) : MasterEvent → MasterServer × List MasterCall
  | .connect peer ip =>
    if (master.peers.lookup peer).isSome then (master, [])
    else ({ master with peers := AList.insert peer ip master.peers }, [])
  | .receive peer data beyond =>
    if (master.peers.lookup peer).isSome then master.handlePacket peer data beyond else (master, [])
  | .disconnect peer =>
    if (master.peers.lookup peer).isSome then (master.handleDisconnect peer, []) else (master, [])
  | .prune => (master.pruneStaleServers, [])
  | .tick nanoseconds => ({ master with clock := master.clock + nanoseconds }, [])
  | .rehash rank => ({ master with servers := AMap.reorder rank master.servers }, [])

def masterMachine : Machine MasterServer MasterEvent MasterCall where
  step := MasterServer.react

end KenshiMP
