/-
**How a client tells that a save is being loaded, and that it has been.**

The phase of the client is written for two reasons. A long gap between two frames, the detection of
the end of a load and the start of the program write it because of the game; an attempt to connect,
the answer of the server and the end of a connection write it because of the network. Out of each
change of the phase `bridge` derives the flag under which the characters of the game are not read.

The end of a load is detected by the characters that the game creates: some were counted, and the last
one is more than three seconds old (`pollForGameLoad`); a connected client also detects it on its tick.

Left out are the memory of the game, the display and the log.
-/

import KenshiMP.Client.Connection

namespace KenshiMP

open Wire (Bytes)

/-- The connection, as the network library has it. -/
inductive NetworkState where
  | idle | connecting | connected
deriving DecidableEq, Repr

structure LoadingClient where
  client : GameClient := {}
  /-- set while the characters of the game may not be read -/
  loadingState : Bool := false
  connected : Bool := false
  network : NetworkState := .idle
  /-- the display waits for the outcome of an attempt -/
  overlayConnecting : Bool := false
  retryPending : Bool := false
  autoConnect : Bool := false
  needPollReset : Bool := false
  noCharCount : Nat := 0
  /-- created characters are counted, and nothing else is done with them -/
  loadingPassthrough : Bool := true
  loadingCreateCount : Nat := 0
  lastCreateTimeMs : Nat := 0

/-- What a poll finds: the time, what the globals of the game point to, and its characters. -/
structure PollView where
  now : Nat
  playerBaseValid : Bool
  gameWorldValid : Bool
  charCount : Int
  characters : List (Bytes × GameObject)
  /-- the network library would start an attempt -/
  starts : Bool

namespace LoadingClient

/-- The flag after a change of the phase. -/
def bridge (old new : ClientPhase) (loadingState : Bool) : Bool :=
  if old = new then loadingState
  else if new = .Loading then true
  else if old = .Loading then false
  else loadingState

variable (core : LoadingClient)

def transitionTo (newPhase : ClientPhase) : LoadingClient :=
  { core with
    client := core.client.transitionTo newPhase
    loadingState := bridge core.client.clientPhase newPhase core.loadingState }

/-! ### The game -/

def onPresent : LoadingClient :=
  if core.client.clientPhase = .Startup then core.transitionTo .MainMenu else core

/-- The phases in which a gap counts as the load of a save. -/
def acceptsGap : Bool :=
  core.client.clientPhase = .MainMenu || core.client.clientPhase = .GameReady

def onLoadingGapDetected : LoadingClient :=
  if core.acceptsGap then
    { core with
      client := core.client.onLoadingGapDetected
      loadingState := bridge core.client.clientPhase .Loading core.loadingState
      needPollReset := true
      loadingCreateCount := 0
      lastCreateTimeMs := 0
      loadingPassthrough := true }
  else core

/-- The game creates a character. Without a connection the hook goes back to counting once it has
captured what it needs. -/
def onCharacterCreate (now : Nat) (captured : Bool) : LoadingClient :=
  if core.loadingPassthrough then
    { core with
      lastCreateTimeMs := now, loadingCreateCount := core.loadingCreateCount + 1 }
  else
    { core with
      lastCreateTimeMs := now, loadingPassthrough := !core.connected && captured }

/-- None ever counts as very long ago. -/
def quiet (now : Nat) : Bool :=
  core.lastCreateTimeMs = 0 || core.lastCreateTimeMs + 3000 < now

/-- Runs once for a load. A client that is to connect and is not connected does so, and its phase is
stored without the flag. -/
def onGameLoaded (characters : List (Bytes × GameObject)) (starts : Bool) : LoadingClient :=
  if core.client.gameLoaded then core
  else
    let loaded :=
      { core with
        client := core.client.onGameLoaded core.connected characters
        loadingState := bridge core.client.clientPhase .GameReady core.loadingState
        loadingPassthrough := false }
    if !core.connected && core.autoConnect && core.network = .idle && starts then
      { loaded with client := loaded.client.transitionTo .Connecting, network := .connecting }
    else loaded

/-- The branches of a poll: the burst of created characters is over, it goes on, or there was none; in
the last case three limits on the number of polls end the wait. -/
def pollForGameLoad (view : PollView) : LoadingClient :=
  if core.client.gameLoaded then core
  else if core.client.clientPhase = .Connected || core.client.clientPhase = .Connecting then core
  else
    let noCharCount := if core.needPollReset then 0 else core.noCharCount
    let polled := { core with needPollReset := false, noCharCount := noCharCount }
    if 0 < core.loadingCreateCount && core.quiet view.now then
      polled.onGameLoaded view.characters view.starts
    else if 0 < core.loadingCreateCount then polled
    else
      let waited := { polled with noCharCount := noCharCount + 1 }
      let fallback := 30 ≤ waited.noCharCount && (view.playerBaseValid || view.gameWorldValid)
        && (0 < view.charCount || 60 ≤ waited.noCharCount)
      if fallback || 45 ≤ waited.noCharCount then
        waited.onGameLoaded view.characters view.starts
      else waited

/-- The tick of a connected client detects the load by the base of the player. -/
def onGameTick (view : PollView) : LoadingClient :=
  if core.connected && !core.client.gameLoaded && view.playerBaseValid then
    core.onGameLoaded view.characters view.starts
  else core

/-! ### The connection -/

def setDisconnected : LoadingClient :=
  { core with
    client := core.client.setDisconnected
    loadingState :=
      if core.client.gameLoaded then bridge core.client.clientPhase .GameReady core.loadingState
      else core.loadingState
    connected := false
    loadingPassthrough := true
    retryPending := false }

/-- An attempt to connect; the network library refuses it while it has a connection or makes one. -/
def connectAsync (starts : Bool) : LoadingClient :=
  if core.network = .idle && starts then
    { core.transitionTo .Connecting with network := .connecting, overlayConnecting := true }
  else core

/-- By itself, when the game has loaded. -/
def autoConnects (starts : Bool) : LoadingClient :=
  if core.client.gameLoaded && !core.overlayConnecting then core.connectAsync starts else core

/-- Some time after an attempt that failed. -/
def retryConnect (starts : Bool) : LoadingClient :=
  if core.retryPending && !core.overlayConnecting then
    { core with retryPending := false }.connectAsync starts
  else core

/-- By the menu, which ends what there is. -/
def menuConnect (starts : Bool) : LoadingClient :=
  if core.network = .idle then core.connectAsync starts
  else { core.setDisconnected with network := .idle }.connectAsync starts

/-- By a command, which ends what there is if the core is connected. -/
def commandConnect (starts : Bool) : LoadingClient :=
  if core.connected then { core.setDisconnected with network := .idle }.connectAsync starts
  else core.connectAsync starts

/-- The display looks at the outcome of an attempt. -/
def checkResult (exhausted : Bool) : LoadingClient :=
  if core.overlayConnecting then
    match core.network with
    | .connected => { core with overlayConnecting := false, retryPending := false }
    | .connecting => core
    | .idle =>
      if exhausted then
        if core.client.gameLoaded then { core.transitionTo .GameReady with overlayConnecting := false }
        else { core with overlayConnecting := false }
      else { core with overlayConnecting := false, retryPending := true }
  else core

/-- A packet of the server. An acknowledgement resumes the hooks of a loaded game. -/
def receive (pages : CodePages) (arrival : Arrival) : LoadingClient :=
  if core.network = .connected then
    let client := core.client.handlePacket pages arrival
    { core with
      client := client
      loadingState := bridge core.client.clientPhase client.clientPhase core.loadingState
      connected := core.connected || Guest.isAck arrival.msg
      loadingPassthrough :=
        core.loadingPassthrough && !(Guest.isAck arrival.msg && core.client.gameLoaded) }
  else core

def lossNoticed : LoadingClient :=
  if core.connected && core.network ≠ .connected then
    { core.setDisconnected with overlayConnecting := false }
  else core

def disconnect : LoadingClient :=
  if core.connected then { core.setDisconnected with network := .idle } else core

/-- A command, or the queue of the factory, of a connected client in a loaded game. -/
def resumeForNetwork : LoadingClient :=
  if core.connected && core.client.gameLoaded then { core with loadingPassthrough := false } else core

/-! ### The machine -/

inductive Event where
  | present
  /-- a gap; if a save is being loaded while a world is there, with the objects of that world -/
  | loadingGap (old : List GameObject)
  | characterCreate (now : Nat) (captured : Bool)
  | poll (view : PollView)
  | gameTick (view : PollView)
  | autoConnects (starts : Bool)
  | retryConnect (starts : Bool)
  | menuConnect (starts : Bool)
  | commandConnect (starts : Bool)
  /-- the network library has connected -/
  | connects
  | connectionLost
  | checkResult (exhausted : Bool)
  | receive (arrival : Arrival)
  | lossNoticed
  | disconnect
  | resumeForNetwork
  | settingsSaved (autoConnect : Bool)
  /-- what the game does with its own entities -/
  | registry (op : RegistryOp)

def step (pages : CodePages) (core : LoadingClient) (event : Event) : LoadingClient :=
  match event with
  | .present => core.onPresent
  | .loadingGap _ => core.onLoadingGapDetected
  | .characterCreate now captured => core.onCharacterCreate now captured
  | .poll view => core.pollForGameLoad view
  | .gameTick view => core.onGameTick view
  | .autoConnects starts => core.autoConnects starts
  | .retryConnect starts => core.retryConnect starts
  | .menuConnect starts => core.menuConnect starts
  | .commandConnect starts => core.commandConnect starts
  | .connects => if core.network = .connecting then { core with network := .connected } else core
  | .connectionLost => { core with network := .idle }
  | .checkResult exhausted => core.checkResult exhausted
  | .receive arrival => core.receive pages arrival
  | .lossNoticed => core.lossNoticed
  | .disconnect => core.disconnect
  | .resumeForNetwork => core.resumeForNetwork
  | .settingsSaved autoConnect => { core with autoConnect := autoConnect }
  | .registry op =>
    { core with client := core.client.withRegistry (op.apply core.client.registry) }

/-- The machine of a client; it has no outputs. -/
def machine (pages : CodePages) : Machine LoadingClient Event Empty where
  step core event := (core.step pages event, [])

/-- A client that has just started. -/
def boot (autoConnect : Bool) : LoadingClient := { autoConnect := autoConnect }

end LoadingClient

end KenshiMP
