/-
**The loading orchestrator: phases of the loading, and the gate for spawns.**

Bursts of created characters, zones that load, and the first load all write one phase. Resources are
tracked by their names. Times are those of the steady clock, in nanoseconds; the default time is zero.
What is left out is the log, the record of each resource, and the callback that is told about the gate.
-/

import KenshiMP.Lib.Machine
import KenshiMP.Lib.Wire

namespace KenshiMP

open Wire (Bytes)

inductive LoadingPhase where
  | Idle | InitialLoad | ZoneTransition | SpawnLoad
deriving DecidableEq, Repr

def SPAWN_COOLDOWN_MS : Int := 2000
def ZONE_SETTLE_MS : Int := 1500
def BURST_TIMEOUT_MS : Int := 30000

/-- The milliseconds between two times. -/
def elapsedMs (now start : Int) : Int := (now - start).tdiv 1000000

structure LoadingOrchestrator where
  phase : LoadingPhase := .InitialLoad
  pendingResources : Finset Bytes := ∅
  gameLoaded : Bool := false
  inBurst : Bool := false
  burstStartTime : Int := 0
  lastLoadCompleteTime : Int := 0
  zoneLoadEndTime : Int := 0
  hasResourceHooks : Bool := false
deriving DecidableEq

namespace LoadingOrchestrator

variable (orch : LoadingOrchestrator)

def isSafeToSpawn (now : Int) : Bool :=
  if orch.phase ≠ .Idle then false
  else if orch.inBurst then false
  else if !orch.gameLoaded then false
  else if orch.hasResourceHooks && orch.pendingResources ≠ ∅ then false
  else if elapsedMs now orch.lastLoadCompleteTime < SPAWN_COOLDOWN_MS then false
  else true

def transitionTo (phase : LoadingPhase) : LoadingOrchestrator := { orch with phase := phase }

def onResourceRequested (name : Bytes) : LoadingOrchestrator :=
  { orch with pendingResources := insert name orch.pendingResources, hasResourceHooks := true }

def onResourceLoaded (now : Int) (name : Bytes) : LoadingOrchestrator :=
  { orch with pendingResources := orch.pendingResources.erase name, lastLoadCompleteTime := now }

def onResourceFailed (now : Int) (name : Bytes) : LoadingOrchestrator :=
  { orch with pendingResources := orch.pendingResources.erase name, lastLoadCompleteTime := now }

/-- A burst in the game is a zone that loads. -/
def onBurstDetected (now : Int) : LoadingOrchestrator :=
  let burst := { orch with inBurst := true, burstStartTime := now }
  if orch.phase = .Idle && orch.gameLoaded then burst.transitionTo .ZoneTransition else burst

def settles : Bool := orch.phase = .InitialLoad || orch.phase = .ZoneTransition

def onBurstEnded (now : Int) : LoadingOrchestrator :=
  let ended := { orch with inBurst := false, lastLoadCompleteTime := now }
  if orch.settles then ended.transitionTo .Idle else ended

def onGameLoaded (now : Int) : LoadingOrchestrator :=
  let loaded := { orch with gameLoaded := true, lastLoadCompleteTime := now }
  if orch.phase = .InitialLoad then loaded.transitionTo .Idle else loaded

def onZoneLoadStart : LoadingOrchestrator :=
  if orch.gameLoaded then orch.transitionTo .ZoneTransition else orch

def onZoneLoadEnd (now : Int) : LoadingOrchestrator :=
  { orch with zoneLoadEndTime := now, lastLoadCompleteTime := now }

/-- A burst that has lasted too long is over. -/
def timeOut (now : Int) : LoadingOrchestrator :=
  if orch.inBurst && BURST_TIMEOUT_MS ≤ elapsedMs now orch.burstStartTime then
    let cleared := { orch with inBurst := false, lastLoadCompleteTime := now }
    if orch.settles then cleared.transitionTo .Idle else cleared
  else orch

/-- The phase before the tick decides whether a zone settles. -/
def tick (now : Int) : LoadingOrchestrator :=
  let timed := orch.timeOut now
  if orch.phase = .ZoneTransition && !timed.inBurst
      && ZONE_SETTLE_MS ≤ elapsedMs now timed.zoneLoadEndTime then timed.transitionTo .Idle
  else timed

inductive Event where
  | resourceRequested (name type : Bytes)
  | resourceLoaded (name type : Bytes)
  | resourceFailed (name type : Bytes)
  | burstDetected (createCount : Int)
  | burstEnded (totalCreates : Int)
  | gameLoaded
  | zoneLoadStart
  | zoneLoadEnd
  | tick
deriving DecidableEq

/-- An event at its time. -/
def step (orch : LoadingOrchestrator) (event : Int × Event) : LoadingOrchestrator :=
  match event.2 with
  | .resourceRequested name _ => orch.onResourceRequested name
  | .resourceLoaded name _ => orch.onResourceLoaded event.1 name
  | .resourceFailed name _ => orch.onResourceFailed event.1 name
  | .burstDetected _ => orch.onBurstDetected event.1
  | .burstEnded _ => orch.onBurstEnded event.1
  | .gameLoaded => orch.onGameLoaded event.1
  | .zoneLoadStart => orch.onZoneLoadStart
  | .zoneLoadEnd => orch.onZoneLoadEnd event.1
  | .tick => orch.tick event.1

/-- The machine of the orchestrator; it has no outputs. -/
def machine : Machine LoadingOrchestrator (Int × Event) Empty where
  step orch event := (orch.step event, [])

end LoadingOrchestrator

end KenshiMP
