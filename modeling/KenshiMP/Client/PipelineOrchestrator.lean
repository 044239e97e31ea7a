/-
**The pipeline orchestrator: the detection of anomalies.**

The orchestrator has a snapshot of its own and the last one of each peer, and looks through them for
anomalies. An anomaly has a type and a source and stays in a list of at most 32 until newer ones push it
out; what a run raised, resolved and pushed out comes with its result. Times are those of the steady clock,
in nanoseconds, which stands still during a run; a peer without a time gets the clock's epoch. Left out are
the fields of a snapshot that the detection does not read, the log and the lines of the HUD.
-/

import KenshiMP.Types
import KenshiMP.Client.LoadingOrchestrator
import KenshiMP.Lib.Alarms
import KenshiMP.Lib.Assoc

namespace KenshiMP

open Assoc

inductive AnomalyType where
  | SpawnQueueMismatch | CanSpawnStuck | EntityGhostMismatch | HookNotFiring | PhaseStuck | PingSpike
  | SnapshotStale
deriving DecidableEq, Repr

/-- Something that is wrong with a player, or was. -/
structure PipelineAnomaly where
  type : AnomalyType
  sourcePlayer : PlayerID
  detectedAt : UInt32
  description : String
  resolved : Bool := false
deriving DecidableEq, Repr

/-- What a client tells the others of its spawning. -/
structure PipelineSnapshot where
  totalCreates : UInt16 := 0
  pendingSpawnCount : UInt16 := 0
  loadingPhase : UInt8 := 0
  orchFlags : UInt8 := 0
  spawnedRemoteCount : UInt16 := 0
  ghostCount : UInt16 := 0
  uptimeSeconds : UInt32 := 0
deriving DecidableEq, Repr

def getPhaseName (phase : UInt8) : String :=
  if phase = 0 then "Idle"
  else if phase = 1 then "InitLoad"
  else if phase = 2 then "ZoneTrans"
  else if phase = 3 then "SpawnLoad"
  else "???"

def MAX_ANOMALIES : Nat := 32
def CANSPAWN_STUCK_THRESHOLD_MS : Int := 30000
def SNAPSHOT_STALE_THRESHOLD_MS : Int := 5000

/-- The own snapshot, those of the others with their times, and what is wrong. -/
structure PipelineOrchestrator where
  localPlayerId : PlayerID := 0
  connectionStart : Int := 0
  gameLoadedTime : Int := 0
  gameLoadedTimeSet : Bool := false
  lastLocalSnapshot : PipelineSnapshot := {}
  remoteSnapshots : AMap PlayerID PipelineSnapshot := ∅
  remoteSnapshotTimes : AMap PlayerID Int := ∅
  anomalies : List PipelineAnomaly := []

/-- What became of an anomaly. -/
abbrev AnomalyEvent := Alarms.Event PipelineAnomaly

namespace PipelineOrchestrator

variable (orch : PipelineOrchestrator) (now : Int)

def getTimestampMs : UInt32 := UInt32.ofInt (elapsedMs now orch.connectionStart)

/-- What is open is not raised again; the oldest entry makes room. -/
def raiseAnomaly (type : AnomalyType) (source : PlayerID) (desc : String) :
    PipelineOrchestrator × List AnomalyEvent :=
  if orch.anomalies.any fun a => a.type = type && a.sourcePlayer = source && !a.resolved then (orch, [])
  else
    let anomaly : PipelineAnomaly :=
      { type := type, sourcePlayer := source, detectedAt := orch.getTimestampMs now, description := desc }
    let grown := orch.anomalies ++ [anomaly]
    if MAX_ANOMALIES < grown.length then
      ({ orch with anomalies := grown.drop 1 }, .raised anomaly :: (grown.take 1).map .dropped)
    else ({ orch with anomalies := grown }, [.raised anomaly])

def resolveAnomaly (type : AnomalyType) (source : PlayerID) : PipelineOrchestrator × List AnomalyEvent :=
  ({ orch with
      anomalies := orch.anomalies.map fun a =>
        if a.type = type && a.sourcePlayer = source && !a.resolved then { a with resolved := true } else a },
    (orch.anomalies.filter fun a => a.type = type && a.sourcePlayer = source && !a.resolved).map .resolved)

/-- One thing after another. -/
def andThen (first : PipelineOrchestrator × List AnomalyEvent)
    (next : PipelineOrchestrator → PipelineOrchestrator × List AnomalyEvent) :
    PipelineOrchestrator × List AnomalyEvent :=
  ((next first.1).1, first.2 ++ (next first.1).2)

/-! ### The checks -/

/-- A peer waits for spawns, and we do not. -/
def spawnMismatch (remoteSnap : PipelineSnapshot) : Bool :=
  5 < remoteSnap.pendingSpawnCount && orch.lastLocalSnapshot.pendingSpawnCount = 0

def spawnText (peerId : PlayerID) (remoteSnap : PipelineSnapshot) : String :=
  "P" ++ toString peerId ++ " has " ++ toString remoteSnap.pendingSpawnCount
    ++ " pending spawns, local has 0"

def checkSpawns (peerId : PlayerID) (remoteSnap : PipelineSnapshot) :
    PipelineOrchestrator × List AnomalyEvent :=
  if orch.spawnMismatch remoteSnap then
    orch.raiseAnomaly now .SpawnQueueMismatch peerId (spawnText peerId remoteSnap)
  else orch.resolveAnomaly .SpawnQueueMismatch peerId

def ghostMismatch (remoteSnap : PipelineSnapshot) : Bool :=
  0 < remoteSnap.spawnedRemoteCount && 3 < orch.lastLocalSnapshot.ghostCount

def ghostText : String :=
  "Local has " ++ toString orch.lastLocalSnapshot.ghostCount ++ " ghost entities (no game object)"

/-- Each peer is checked, but the anomaly is the local player's. -/
def checkGhosts (remoteSnap : PipelineSnapshot) : PipelineOrchestrator × List AnomalyEvent :=
  if orch.ghostMismatch remoteSnap then
    orch.raiseAnomaly now .EntityGhostMismatch orch.localPlayerId orch.ghostText
  else orch.resolveAnomaly .EntityGhostMismatch orch.localPlayerId

/-- A reference to the time of a peer, which is made if there is none. -/
def touchTime (times : AMap PlayerID Int) (peerId : PlayerID) : AMap PlayerID Int :=
  if (times.lookup peerId).isSome then times else times.insert peerId 0

def snapTime (peerId : PlayerID) : Int := (orch.remoteSnapshotTimes.lookup peerId).getD 0

/-- Nothing has been heard of the peer for five seconds. -/
def snapshotStale (peerId : PlayerID) : Bool :=
  SNAPSHOT_STALE_THRESHOLD_MS < elapsedMs now (orch.snapTime peerId)

def staleText (peerId : PlayerID) : String :=
  "No snapshot from P" ++ toString peerId ++ " for "
    ++ toString ((elapsedMs now (orch.snapTime peerId)).tdiv 1000) ++ "s"

def checkStale (peerId : PlayerID) : PipelineOrchestrator × List AnomalyEvent :=
  let orch := { orch with remoteSnapshotTimes := touchTime orch.remoteSnapshotTimes peerId }
  if orch.snapshotStale now peerId then
    orch.raiseAnomaly now .SnapshotStale peerId (orch.staleText now peerId)
  else orch.resolveAnomaly .SnapshotStale peerId

/-- A round of the loop over the peers. -/
def checkPeer (peer : PlayerID × PipelineSnapshot) : PipelineOrchestrator × List AnomalyEvent :=
  andThen (andThen (orch.checkSpawns now peer.1 peer.2) fun orch => orch.checkGhosts now peer.2)
    fun orch => orch.checkStale now peer.1

def canSpawn : Bool := orch.lastLocalSnapshot.orchFlags &&& 0x02 ≠ 0

/-- Half a minute after the load, nothing may spawn yet. -/
def spawnStuck : Bool :=
  !orch.canSpawn && CANSPAWN_STUCK_THRESHOLD_MS < elapsedMs now orch.gameLoadedTime

def stuckText : String :=
  "CanSpawn stuck false for " ++ toString ((elapsedMs now orch.gameLoadedTime).tdiv 1000)
    ++ "s (phase=" ++ getPhaseName orch.lastLocalSnapshot.loadingPhase ++ ")"

def checkCanSpawn : PipelineOrchestrator × List AnomalyEvent :=
  if orch.gameLoadedTimeSet then
    if orch.spawnStuck now then
      orch.raiseAnomaly now .CanSpawnStuck orch.localPlayerId (orch.stuckText now)
    else if orch.canSpawn then orch.resolveAnomaly .CanSpawnStuck orch.localPlayerId
    else (orch, [])
  else (orch, [])

def hookSilent : Bool :=
  30 < orch.lastLocalSnapshot.uptimeSeconds && orch.lastLocalSnapshot.totalCreates = 0

def hookText : String :=
  "CharacterCreate: 0 calls after " ++ toString orch.lastLocalSnapshot.uptimeSeconds ++ "s"

def checkHook : PipelineOrchestrator × List AnomalyEvent :=
  if orch.hookSilent then
    orch.raiseAnomaly now .HookNotFiring orch.localPlayerId orch.hookText
  else if 0 < orch.lastLocalSnapshot.totalCreates then
    orch.resolveAnomaly .HookNotFiring orch.localPlayerId
  else (orch, [])

def phaseStuck : Bool :=
  orch.lastLocalSnapshot.loadingPhase ≠ 0 && 60 < orch.lastLocalSnapshot.uptimeSeconds

def phaseText : String :=
  "Loading phase " ++ getPhaseName orch.lastLocalSnapshot.loadingPhase ++ " stuck for >60s"

def checkPhase : PipelineOrchestrator × List AnomalyEvent :=
  if orch.phaseStuck then
    orch.raiseAnomaly now .PhaseStuck orch.localPlayerId orch.phaseText
  else if orch.lastLocalSnapshot.loadingPhase = 0 then
    orch.resolveAnomaly .PhaseStuck orch.localPlayerId
  else (orch, [])

/-- The loop over the peers, in some order. -/
def checkPeers : PipelineOrchestrator → List (PlayerID × PipelineSnapshot) →
    PipelineOrchestrator × List AnomalyEvent
  | orch, [] => (orch, [])
  | orch, peer :: rest => andThen (orch.checkPeer now peer) fun orch => checkPeers orch rest

/-- The checks that need no peer. -/
def checkLocal : PipelineOrchestrator × List AnomalyEvent :=
  andThen (andThen (orch.checkCanSpawn now) fun orch => orch.checkHook now)
    fun orch => orch.checkPhase now

/-- A run, in which the map of the peers is walked in the given order. -/
def runAnomalyDetection (order : List (PlayerID × PipelineSnapshot)) :
    PipelineOrchestrator × List AnomalyEvent :=
  andThen (orch.checkPeers now order) fun orch => orch.checkLocal now

end PipelineOrchestrator

end KenshiMP
