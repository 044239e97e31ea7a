/-
**The server together with its connections, as a machine.**

A link is one connection: its state, and the packets queued for it since it was made. The network
host tells the server about connections, packets and disconnections; a packet cannot come from a
slot without a connection, nor after the server has cut it. What a handler asks of the host
(`Call`) is carried out in order: a broadcast reaches every connected link, whether or not it has
shaken hands, and nothing is queued for a link that is closing.

Between two events the hash maps may be rehashed, which puts their walks into any other order. An
exception of saving ends the process; a run here goes on, so it has all the states of a run that
stops.
-/

import KenshiMP.Lib.Machine
import KenshiMP.Server.Persistence
import KenshiMP.Server.Update

namespace KenshiMP

open Wire (Bytes)
open Assoc

inductive LinkState where
  | connected | disconnectLater | disconnecting
deriving DecidableEq, Repr

/-- A connection and the packets queued for it, in order. -/
structure Link where
  state : LinkState := .connected
  sent : List Sent := []
deriving DecidableEq

/-- Queue a packet; only a connected link takes it. -/
def Link.push (packet : Sent) (link : Link) : Link :=
  if link.state = .connected then { link with sent := link.sent ++ [packet] } else link

/-- Cut a connection at once. -/
def Link.cut (link : Link) : Link := { link with state := .disconnecting }

/-- Cut a connection once its queue is empty. -/
def Link.cutLater (link : Link) : Link :=
  if link.state = .connected then { link with state := .disconnectLater } else link

abbrev Links := AMap Peer Link

/-- Carry out one call. -/
def Links.perform (links : Links) : Call → Links
  | .broadcast packet => AMap.mapVals (fun _ link => link.push packet) links
  | .send peer packet => AMap.modify peer (Link.push packet) links
  | .disconnect peer => AMap.modify peer Link.cut links
  | .disconnectLater peer => AMap.modify peer Link.cutLater links

/-- Carry out calls in order. -/
def Links.performAll (links : Links) (calls : List Call) : Links :=
  calls.foldl Links.perform links

structure System where
  server : GameServer
  links : Links := ∅

/-- What happens to a server. -/
inductive Event where
  /-- a slot is connected, from an address -/
  | connect (peer : Peer) (host roundTripTime : UInt32)
  | packet (peer : Peer) (data : Bytes) (channel : Nat) (env : PacketEnv)
  /-- a slot's connection has ended, by either side or by a timeout -/
  | disconnect (peer : Peer)
  /-- the main loop calls the update after so many milliseconds -/
  | updateBegin (elapsed : UInt64)
  | updateEnd (elapsed : UInt64) (roundTripTime : Peer → UInt32)
  /-- console commands -/
  | kick (id : PlayerID)
  | say (line : Bytes)
  | rehash (players : PlayerID → Nat) (entities : EntityID → Nat) (savedPlayers : Bytes → Nat)

/-- Milliseconds in seconds. -/
def seconds (elapsed : UInt64) : F32 := (Binary.Flt.ofInt elapsed.toNat).div (lit 1000 1)

namespace System

variable (sys : System)

/-- Take over a handler's result. -/
def carryOut (links : Links) (outcome : Outcome) : System :=
  ⟨outcome.1, links.performAll outcome.2⟩

/-- A packet can come from a link that is not cut. -/
def receives (peer : Peer) : Bool :=
  match sys.links.lookup peer with
  | none => false
  | some link => link.state ≠ .disconnecting

/-- The slot of a new connection keeps what it held. -/
def openSlot (peer : Peer) (host roundTripTime : UInt32) : GameServer :=
  { sys.server with
    peers := AList.insert peer ⟨sys.server.peerData peer, host, roundTripTime⟩ sys.server.peers }

/-- What the server does at an event, and the links it does it on. -/
def react (event : Event) : Links × Outcome :=
  match event with
  | .connect peer host roundTripTime =>
    if (sys.links.lookup peer).isSome then (sys.links, (sys.server, []))
    else (AList.insert peer {} sys.links, (sys.openSlot peer host roundTripTime).handleConnect peer)
  | .packet peer data channel env =>
    if sys.receives peer then (sys.links, sys.server.handlePacket peer data channel env)
    else (sys.links, (sys.server, []))
  | .disconnect peer =>
    if (sys.links.lookup peer).isSome then
      (AList.erase peer sys.links, sys.server.handleDisconnect peer)
    else (sys.links, (sys.server, []))
  | .updateBegin elapsed => (sys.links, (sys.server.updateBegin (seconds elapsed), []))
  | .updateEnd elapsed roundTripTime =>
    (sys.links, sys.server.updateEnd (seconds elapsed) roundTripTime)
  | .kick id => (sys.links, sys.server.kickPlayer id (Wire.ascii "Kicked by admin"))
  | .say line => (sys.links, (sys.server, GameServer.broadcastSystemMessage line))
  | .rehash players entities savedPlayers =>
    (sys.links,
      ({ sys.server with
          players := AMap.reorder players sys.server.players
          entities := AMap.reorder entities sys.server.entities
          savedPlayers := AMap.reorder savedPlayers sys.server.savedPlayers }, []))

/-- The machine; its outputs are the calls the server makes. -/
def machine : Machine System Event Call where
  step sys event := (carryOut (sys.react event).1 (sys.react event).2, (sys.react event).2.2)

/-- The server right after it has started and tried to load the world file. -/
def boot (config : ServerConfig) (file : Option Json.Value) : System :=
  ⟨{ config := config : GameServer }.loadWorld file, ∅⟩

/-- The states a server can be in. -/
def Reachable (sys : System) : Prop :=
  ∃ config file events, sys = machine.run (boot config file) events

theorem Reachable.next {sys : System} (reachable : Reachable sys) (event : Event) :
    Reachable (machine.next sys event) := by
  obtain ⟨config, file, events, same⟩ := reachable
  refine ⟨config, file, events ++ [event], ?_⟩
  rw [Machine.run_append, ← same]
  rfl

theorem Reachable.run {sys : System} (reachable : Reachable sys) (events : List Event) :
    Reachable (machine.run sys events) := by
  induction events generalizing sys with
  | nil => exact reachable
  | cons event rest ih => exact ih (reachable.next event)

/-- What the boot establishes and every step keeps holds in every reachable state. -/
theorem Reachable.induct {motive : System → Prop} (start : ∀ config file, motive (boot config file))
    (step : ∀ sys event, motive sys → motive (machine.next sys event))
    {sys : System} (reachable : Reachable sys) : motive sys := by
  obtain ⟨config, file, events, rfl⟩ := reachable
  exact Machine.run_invariant_always step (start config file) events

end System

end KenshiMP
