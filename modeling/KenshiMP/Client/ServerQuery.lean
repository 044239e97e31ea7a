/-
**Queries of game servers.**

A query is a connection of its own; what arrives on it, or a time of three seconds, ends the query. The
network host gives out slots: a slot that is in use is not given out again, and no slot at all may be left.
The client is the one of the server browser when it only queries game servers directly, so that no pending
query is one of a master server.

Around the client stand the calls that were made (`QueryCall`): which slot each still holds, and whether a
server has answered it.
-/

import KenshiMP.Server.MasterServer

namespace KenshiMP

open Wire (Bytes Codec)
open Wire.Codec

/-! ### Messages -/

def S2C_ServerInfo : UInt8 := 0xA1

/-- The memory image of the information of a server. -/
structure ServerInfoImage where
  protocolVersion : UInt32
  (currentPlayers maxPlayers : UInt8)
  port : UInt16
  timeOfDay : F32
  pvpEnabled : UInt8
  reserved : CharArray 3
  serverName : CharArray 64
deriving DecidableEq

def ServerInfoImage.codec : Codec ServerInfoImage :=
  (u32.prod (u8.prod (u8.prod (u16.prod (f32.prod (u8.prod ((raw 3).prod (raw 64)))))))).iso
    (fun (protocolVersion, currentPlayers, maxPlayers, port, timeOfDay, pvpEnabled, reserved, serverName) =>
      ⟨protocolVersion, currentPlayers, maxPlayers, port, timeOfDay, pvpEnabled, reserved, serverName⟩)
    (fun m => (m.protocolVersion, m.currentPlayers, m.maxPlayers, m.port, m.timeOfDay, m.pvpEnabled, m.reserved,
      m.serverName))
    (fun _ => rfl) (fun _ => rfl)

/-! ### The client -/

structure ServerQueryResult where
  address : Bytes
  port : UInt16
  serverName : Bytes
  currentPlayers : UInt8 := 0
  maxPlayers : UInt8 := 0
  ping : UInt32 := 0
  online : Bool := false
  pending : Bool := true
deriving DecidableEq

structure PendingQuery where
  peer : Peer
  address : Bytes
  port : UInt16
  startTime : F32
deriving DecidableEq

/-- `epoch` is the first reading of the clock, from which the seconds are counted. -/
structure ServerQueryClient where
  active : Bool := false
  pending : List PendingQuery := []
  results : List ServerQueryResult := []
  epoch : Option Nat := none

inductive QueryOutput where
  | send (peer : Peer) (data : Bytes)
  | reset (peer : Peer)
deriving DecidableEq

namespace ServerQueryClient

variable (client : ServerQueryClient)

def getTimeSeconds (clock : Nat) : F32 := MasterServer.elapsed (clock - client.epoch.getD clock)

/-- A server that does not answer, under its address as its name. -/
def offline (address : Bytes) (port : UInt16) : ServerQueryResult where
  address := address
  port := port
  serverName := MasterServer.makeKey address port
  pending := false

/-- Start a query on the slot that the network host gives out, if it has one left. -/
def queryServer (clock : Nat) (address : Bytes) (port : UInt16) : Option Peer → ServerQueryClient
  | none => { client with results := client.results ++ [offline address port] }
  | some peer =>
    { client with
      active := true
      pending := client.pending ++ [⟨peer, address, port, client.getTimeSeconds clock⟩]
      epoch := some (client.epoch.getD clock) }

/-! ### What arrives -/

/-- A float cast to an unsigned number. -/
def toUInt32 (x : F32) : UInt32 :=
  if x.isFinite && decide (0 ≤ x.trunc) && decide (x.trunc < 4294967296) then UInt32.ofNat x.trunc.toNat else 0

/-- The answer of a server: a result for the query of the slot, which is over. -/
def handleServerInfo (clock : Nat) (peer : Peer) (info : ServerInfoImage) (beyond : Bytes) : ServerQueryClient :=
  match client.pending.find? fun q => q.peer = peer with
  | none => client
  | some q =>
    { client with
      results := client.results ++ [
        { address := q.address
          port := q.port
          serverName := MasterServer.textOf info.serverName beyond
          currentPlayers := info.currentPlayers
          maxPlayers := info.maxPlayers
          ping := toUInt32 (((client.getTimeSeconds clock).sub q.startTime).mul (lit 1000 1))
          online := true
          pending := false }]
      pending := client.pending.eraseP fun q => q.peer = peer }

/-- The entries of a list, as many as are there. -/
def readEntries : Nat → PacketReader → List MsgMasterServerEntry
  | 0, _ => []
  | count + 1, reader =>
    match reader.readRaw MsgMasterServerEntry.codec with
    | none => []
    | some (entry, rest) => entry :: readEntries count rest

/-- A text of an entry runs on into the fields behind it. -/
def listed (beyond : Bytes) (entry : MsgMasterServerEntry) : ServerQueryResult where
  address := cString ((MsgMasterServerEntry.codec.encode entry).drop 64 ++ beyond)
  port := entry.port
  serverName := cString (MsgMasterServerEntry.codec.encode entry ++ beyond)
  currentPlayers := entry.currentPlayers
  maxPlayers := entry.maxPlayers
  online := true
  pending := false

/-- A list of servers: a result for each, and the query of the slot is over. -/
def handleServerList (peer : Peer) (entries : List MsgMasterServerEntry) (beyond : Bytes) : ServerQueryClient :=
  { client with
    results := client.results ++ entries.map (listed beyond)
    pending := client.pending.eraseP fun q => q.peer = peer }

/-- The information of a server in a packet. -/
def serverInfo (data : Bytes) : Option ServerInfoImage :=
  if packetType data = some S2C_ServerInfo then readMessage ServerInfoImage.codec data else none

/-- The list of servers in a packet. -/
def serverList (data : Bytes) : Option (List MsgMasterServerEntry) :=
  match (PacketReader.start data).readRaw PacketHeader.codec with
  | none => none
  | some (header, reader) =>
    if header.type = MS_ServerList then reader.readU16.map fun (count, rest) => readEntries count.toNat rest
    else none

def handleReceive (clock : Nat) (peer : Peer) (data beyond : Bytes) : ServerQueryClient :=
  match serverInfo data with
  | some info => client.handleServerInfo clock peer info beyond
  | none =>
    match serverList data with
    | some entries => client.handleServerList peer entries beyond
    | none => client

def handleDisconnect (peer : Peer) : ServerQueryClient :=
  { client with pending := client.pending.eraseP fun q => q.peer = peer }

/-- The question that is sent on a new connection. -/
def question : Bytes := Client.message .C2S_ServerQuery MsgServerQuery.codec ⟨KMP_PROTOCOL_VERSION⟩

/-! ### Timeouts -/

def stale (clock : Nat) (q : PendingQuery) : Bool :=
  (lit 3 1).lt ((client.getTimeSeconds clock).sub q.startTime)

def expire (clock : Nat) : ServerQueryClient :=
  { client with
    active := !(client.pending.filter fun q => !client.stale clock q).isEmpty
    results := client.results ++ (client.pending.filter (client.stale clock)).map fun q => offline q.address q.port
    pending := client.pending.filter fun q => !client.stale clock q }

/-- The connections that a timeout resets. -/
def resets (clock : Nat) : List Peer := (client.pending.filter (client.stale clock)).map PendingQuery.peer

end ServerQueryClient

/-! ### The calls and the network host -/

/-- A call of `QueryServer`, the slot it still holds, and whether a server has answered it. -/
structure QueryCall where
  address : Bytes
  port : UInt16
  start : Nat
  peer : Option Peer
  answered : Bool := false
deriving DecidableEq

namespace QueryCall

/-- The information of a server has arrived on a slot. -/
def answer (peer : Peer) (q : QueryCall) : QueryCall :=
  if q.peer = some peer then { q with answered := true } else q

/-- Slots are free again. -/
def release (peers : List Peer) (q : QueryCall) : QueryCall :=
  if q.peer.any (· ∈ peers) then { q with peer := none } else q

end QueryCall

structure QueryRun where
  client : ServerQueryClient := {}
  calls : List QueryCall := []
  clock : Nat := 0

inductive HostEvent where
  | connect (peer : Peer)
  | receive (peer : Peer) (data beyond : Bytes)
  | disconnect (peer : Peer)

def HostEvent.peer : HostEvent → Peer
  | .connect peer => peer
  | .receive peer _ _ => peer
  | .disconnect peer => peer

namespace QueryRun

variable (run : QueryRun)

/-- A slot is in use. -/
def inUse (peer : Peer) : Bool := run.calls.any fun q => q.peer = some peer

/-- An event of a connection that is there. -/
def dispatch : HostEvent → QueryRun × List QueryOutput
  | .connect peer => (run, [.send peer ServerQueryClient.question])
  | .receive peer data beyond =>
    ({ run with
      client := run.client.handleReceive run.clock peer data beyond
      calls := if (ServerQueryClient.serverInfo data).isSome then run.calls.map (QueryCall.answer peer)
        else run.calls }, [])
  | .disconnect peer =>
    ({ run with
      client := run.client.handleDisconnect peer
      calls := run.calls.map (QueryCall.release [peer]) }, [])

/-- The host reports events of slots in use only. -/
def service (event : HostEvent) : QueryRun × List QueryOutput :=
  if run.inUse event.peer then run.dispatch event else (run, [])

end QueryRun

def hostMachine : Machine QueryRun HostEvent QueryOutput where
  step := QueryRun.service

inductive QueryEvent where
  /-- a call, with the slot the host would give it -/
  | queryServer (address : Bytes) (port : UInt16) (slot : Option Peer)
  /-- an update, with what the host has to report -/
  | update (events : List HostEvent)
  | tick (nanoseconds : Nat)

namespace QueryRun

variable (run : QueryRun)

def queryServer (address : Bytes) (port : UInt16) (slot : Option Peer) : QueryRun :=
  let given := slot.filter fun peer => !run.inUse peer
  { run with
    client := run.client.queryServer run.clock address port given
    calls := ⟨address, port, run.clock, given, false⟩ :: run.calls }

def expire : QueryRun × List QueryOutput :=
  ({ run with
    client := run.client.expire run.clock
    calls := run.calls.map (QueryCall.release (run.client.resets run.clock)) },
    (run.client.resets run.clock).map .reset)

/-- Nothing is asked for while no query is pending. -/
def update (events : List HostEvent) : QueryRun × List QueryOutput :=
  if run.client.pending.isEmpty then ({ run with client := { run.client with active := false } }, [])
  else
    let served := hostMachine.run run events
    (served.expire.1, hostMachine.outputs run events ++ served.expire.2)

def react : QueryEvent → QueryRun × List QueryOutput
  | .queryServer address port slot => (run.queryServer address port slot, [])
  | .update events => run.update events
  | .tick nanoseconds => ({ run with clock := run.clock + nanoseconds }, [])

end QueryRun

def queryMachine : Machine QueryRun QueryEvent QueryOutput where
  step := QueryRun.react

end KenshiMP
