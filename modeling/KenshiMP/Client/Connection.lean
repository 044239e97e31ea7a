/-
**A client from its start on: the game, the connection, and what waits for both.**

`Guest` is one client of a server. The game loads, possibly several times, and the connection is made
by hand, by a retry or when the game has loaded; the packets of the connection are handled in order.
The library of the network and the core both keep a flag for the connection: the first one goes with
the connection (`session`), the second one is set by the acknowledgement of the handshake and cleared
when the user leaves or when the display notices that the connection is gone (`connected`).

The announcements that came too early stay in their queue when a connection ends: nothing in the
source calls the function that would clear them.
-/

import KenshiMP.Client.Incoming
import KenshiMP.HostViews

namespace KenshiMP

open Wire (Bytes)
open Assoc

/-! ### The phases of the game -/

def Interpolation.clear (interp : Interpolation) : Interpolation := { interp with entities := ∅ }

namespace GameClient

variable (client : GameClient)

def transitionTo (phase : ClientPhase) : GameClient := { client with clientPhase := phase }

/-- The end of a connection, in the core: the remote entities and what the factory was asked for. -/
def setDisconnected : GameClient :=
  { client with
    clientPhase := if client.gameLoaded then .GameReady else client.clientPhase
    registry := client.registry.clearRemoteEntities
    interpolation := client.interpolation.clear
    remotePlayers := ∅
    hostSpawnPoint := none
    spawnQueue := [] }

/-- A long gap between two frames: a save is being loaded, from the menu or from within the game. -/
def onLoadingGapDetected : GameClient :=
  match client.clientPhase with
  | .MainMenu => { client with gameLoaded := false, clientPhase := .Loading }
  | .GameReady =>
    { client with
      gameLoaded := false
      clientPhase := .Loading
      registry := client.registry.clear
      interpolation := client.interpolation.clear
      remotePlayers := ∅ }
  | _ => client

/-- Five seconds of frames after the start. -/
def onPresent : GameClient :=
  if client.clientPhase = .Startup then client.transitionTo .MainMenu else client

end GameClient

/-! ### The client and its server -/

structure Guest where
  sys : System
  client : GameClient := {}
  /-- the core has a number and counts itself as connected -/
  connected : Bool := false
  /-- an attempt to connect is under way -/
  connecting : Bool := false
  session : Option Session := none
  /-- the readiness has been reported on the session -/
  readySent : Bool := false
  autoConnect : Bool := false

namespace Guest

inductive Event where
  /-- the server handles an event -/
  | server (event : KenshiMP.Event)
  /-- an attempt to connect: the user, a retry, or the display some time after the load -/
  | connectAsync
  /-- the attempt succeeds, through a slot that is free -/
  | connects (peer : Peer) (host roundTripTime : UInt32)
  /-- it fails, and the display gives up or tries again later -/
  | connectFails (exhausted : Bool)
  /-- the next packet of the connection -/
  | receive (now render : F32) (clock : Nat → F32)
  /-- the network library reports that the connection is gone -/
  | connectionLost
  /-- the display sees that the core is connected and the network library is not -/
  | lossNoticed
  /-- the user leaves -/
  | disconnect
  | settingsSaved (autoConnect : Bool)
  | present
  | loadingGap
  /-- the detection of the end of a load fires, with the characters of the game -/
  | gameLoaded (characters : List (Bytes × GameObject))

variable (guest : Guest)

/-- Refused while there is a connection or an attempt. -/
def connectAsync : Guest :=
  if guest.session.isNone && !guest.connecting then
    { guest with connecting := true, client := guest.client.transitionTo .Connecting }
  else guest

/-- The packets on the way. -/
def pending : List Sent := Network.pending guest.sys guest.session

def isAck : S2C → Bool
  | .handshakeAck _ => true
  | _ => false

/-- The load of the game is detected while it loads, or on the tick of a core that is connected. -/
def detectsLoad : Bool :=
  !guest.client.gameLoaded && (guest.client.clientPhase = .Loading || guest.connected)

/-- The game has loaded: connect if that is wanted, and report the readiness if connected. The report
gets nowhere if the connection is gone. -/
def onGameLoaded (characters : List (Bytes × GameObject)) : Guest :=
  let loaded := { guest with client := guest.client.onGameLoaded guest.connected characters }
  if guest.connected then { loaded with readySent := guest.readySent || guest.session.isSome }
  else if guest.autoConnect then loaded.connectAsync
  else loaded

def step (pages : CodePages) (guest : Guest) (event : Event) : Guest :=
  match event with
  | .server event =>
    { guest with
      sys := System.machine.next guest.sys event
      session := Network.afterEvent guest.sys event guest.session }
  | .connectAsync => guest.connectAsync
  | .connects peer host roundTripTime =>
    if guest.connecting && guest.session.isNone && (guest.sys.links.lookup peer).isNone then
      { guest with
        sys := System.machine.next guest.sys (.connect peer host roundTripTime)
        session := some (.live peer 0)
        connecting := false
        readySent := false }
    else guest
  | .connectFails exhausted =>
    if guest.connecting then
      { guest with
        connecting := false
        client :=
          if exhausted && guest.client.gameLoaded then guest.client.transitionTo .GameReady
          else guest.client }
    else guest
  | .receive now render clock =>
    match guest.pending with
    | [] => guest
    | packet :: _ =>
      { guest with
        client := guest.client.handlePacket pages ⟨packet.msg, now, render, clock⟩
        connected := guest.connected || isAck packet.msg
        session := Network.advance guest.session }
  | .connectionLost => { guest with session := none }
  | .lossNoticed =>
    if guest.connected && guest.session.isNone then
      { guest with connected := false, client := guest.client.setDisconnected }
    else guest
  | .disconnect =>
    { guest with
      connected := false
      connecting := false
      session := none
      client := guest.client.setDisconnected }
  | .settingsSaved autoConnect => { guest with autoConnect := autoConnect }
  | .present => { guest with client := guest.client.onPresent }
  | .loadingGap => { guest with client := guest.client.onLoadingGapDetected }
  | .gameLoaded characters => if guest.detectsLoad then guest.onGameLoaded characters else guest

/-- A server that has just started, and a client that has. -/
def boot (config : ServerConfig) (file : Option Json.Value) (autoConnect : Bool) : Guest :=
  { sys := System.boot config file, autoConnect := autoConnect }

end Guest

/-- The machine of a client and its server; it has no outputs. -/
def Guest.machine (pages : CodePages) : Machine Guest Guest.Event Empty where
  step guest event := (guest.step pages event, [])

end KenshiMP
