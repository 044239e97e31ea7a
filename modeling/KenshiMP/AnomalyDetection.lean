/-
**When the detection of anomalies settles.**

Each check of a run is about one anomaly, except that of the ghosts: every peer raises or resolves the same
anomaly, the local player's. The list of anomalies is an alarm log with a cap, and a run is a pass of checks
over it.

* `runAnomalyDetection_eq`: a run is a pass of checks over the log;
* `raise_mem_checks`: what a run raises are the anomalies whose condition holds, in every order;
* `anomaly_detection`: the order of the peers does not matter, a second run does nothing and no anomaly goes
  whose condition still holds, exactly if the peers agree about the ghosts and the list has room.
-/

import KenshiMP.Client.PipelineOrchestrator
import Mathlib.Data.Set.Card

namespace KenshiMP

open Assoc

namespace PipelineOrchestrator

variable (orch : PipelineOrchestrator) (now : Int)

/-! ### What a run is for -/

/-- The condition of an anomaly of this type and source. -/
def Holds (key : AnomalyType × PlayerID) : Prop :=
  match key.1 with
  | .SpawnQueueMismatch =>
    ∃ remoteSnap, orch.remoteSnapshots.lookup key.2 = some remoteSnap ∧ orch.spawnMismatch remoteSnap
  | .EntityGhostMismatch => key.2 = orch.localPlayerId
      ∧ ∃ peerId remoteSnap, orch.remoteSnapshots.lookup peerId = some remoteSnap
        ∧ orch.ghostMismatch remoteSnap
  | .SnapshotStale => (orch.remoteSnapshots.lookup key.2).isSome ∧ orch.snapshotStale now key.2
  | .CanSpawnStuck => key.2 = orch.localPlayerId ∧ orch.gameLoadedTimeSet ∧ orch.spawnStuck now
  | .HookNotFiring => key.2 = orch.localPlayerId ∧ orch.hookSilent
  | .PhaseStuck => key.2 = orch.localPlayerId ∧ orch.phaseStuck
  | .PingSpike => False

/-- An unresolved anomaly whose condition holds. -/
def Stays (a : PipelineAnomaly) : Prop :=
  a.resolved = false ∧ orch.Holds now (a.type, a.sourcePlayer)

/-- An order in which the map of the peers may be walked. -/
def Order (order : List (PlayerID × PipelineSnapshot)) : Prop := order.Perm orch.remoteSnapshots.toList

/-- **Settling**: the unresolved anomalies do not depend on the order of the peers, a second run does
nothing, and nothing is dropped that has to stay. -/
structure Settles : Prop where
  orderFree : ∀ order order', orch.Order order → orch.Order order' → ∀ a,
    (a ∈ (orch.runAnomalyDetection now order).1.anomalies ∧ a.resolved = false
      ↔ a ∈ (orch.runAnomalyDetection now order').1.anomalies ∧ a.resolved = false)
  again : ∀ order order', orch.Order order → orch.Order order' →
    ((orch.runAnomalyDetection now order).1.runAnomalyDetection now order').2 = []
      ∧ ((orch.runAnomalyDetection now order).1.runAnomalyDetection now order').1.anomalies
        = (orch.runAnomalyDetection now order).1.anomalies
  kept : ∀ order, orch.Order order → ∀ a,
    .dropped a ∈ (orch.runAnomalyDetection now order).2 → ¬ orch.Stays now a

/-- The check of the ghosts comes out the same for every peer. -/
def GhostsAgree : Prop :=
  ∀ peerId remoteSnap peerId' remoteSnap', orch.remoteSnapshots.lookup peerId = some remoteSnap →
    orch.remoteSnapshots.lookup peerId' = some remoteSnap' →
    orch.ghostMismatch remoteSnap = orch.ghostMismatch remoteSnap'

/-- The conditions that hold and have no unresolved anomaly. -/
def pending : Set (AnomalyType × PlayerID) :=
  {key | orch.Holds now key ∧ ∀ a ∈ orch.anomalies, (a.type, a.sourcePlayer) = key → a.resolved = true}

/-- The list has room for an anomaly of each of them, the oldest ones that need not stay given up. -/
def HasRoom : Prop :=
  ∃ front rest, orch.anomalies = front ++ rest ∧ (∀ a ∈ front, ¬ orch.Stays now a)
    ∧ (orch.pending now).ncard ≤ MAX_ANOMALIES - orch.anomalies.length + front.length

/-! ### A run as a pass of checks -/

abbrev AnomalyCheck := Alarms.Check PipelineAnomaly (AnomalyType × PlayerID)

/-- The list of anomalies as a log of alarms. -/
def entries : Alarms.Entries PipelineAnomaly (AnomalyType × PlayerID) where
  key a := (a.type, a.sourcePlayer)
  resolved := PipelineAnomaly.resolved
  resolve a := { a with resolved := true }
  key_resolve _ := rfl
  resolved_resolve _ := rfl

/-- The anomaly that is raised now. -/
def anomaly (key : AnomalyType × PlayerID) (desc : String) : PipelineAnomaly :=
  ⟨key.1, key.2, orch.getTimestampMs now, desc, false⟩

def ghostKey : AnomalyType × PlayerID := (.EntityGhostMismatch, orch.localPlayerId)

def spawnCheck (peerId : PlayerID) (remoteSnap : PipelineSnapshot) : AnomalyCheck :=
  if orch.spawnMismatch remoteSnap then
    .raise (orch.anomaly now (.SpawnQueueMismatch, peerId) (spawnText peerId remoteSnap))
  else .resolve (.SpawnQueueMismatch, peerId)

def ghostCheck (remoteSnap : PipelineSnapshot) : AnomalyCheck :=
  if orch.ghostMismatch remoteSnap then .raise (orch.anomaly now orch.ghostKey orch.ghostText)
  else .resolve orch.ghostKey

def staleCheck (peerId : PlayerID) : AnomalyCheck :=
  if orch.snapshotStale now peerId then
    .raise (orch.anomaly now (.SnapshotStale, peerId) (orch.staleText now peerId))
  else .resolve (.SnapshotStale, peerId)

def peerChecks (peer : PlayerID × PipelineSnapshot) : List AnomalyCheck :=
  [orch.spawnCheck now peer.1 peer.2, orch.ghostCheck now peer.2, orch.staleCheck now peer.1]

def spawnStuckChecks : List AnomalyCheck :=
  if orch.gameLoadedTimeSet then
    if orch.spawnStuck now then
      [.raise (orch.anomaly now (.CanSpawnStuck, orch.localPlayerId) (orch.stuckText now))]
    else if orch.canSpawn then [.resolve (.CanSpawnStuck, orch.localPlayerId)]
    else []
  else []

def hookChecks : List AnomalyCheck :=
  if orch.hookSilent then [.raise (orch.anomaly now (.HookNotFiring, orch.localPlayerId) orch.hookText)]
  else if 0 < orch.lastLocalSnapshot.totalCreates then [.resolve (.HookNotFiring, orch.localPlayerId)]
  else []

def phaseChecks : List AnomalyCheck :=
  if orch.phaseStuck then [.raise (orch.anomaly now (.PhaseStuck, orch.localPlayerId) orch.phaseText)]
  else if orch.lastLocalSnapshot.loadingPhase = 0 then [.resolve (.PhaseStuck, orch.localPlayerId)]
  else []

def localChecks : List AnomalyCheck :=
  orch.spawnStuckChecks now ++ orch.hookChecks now ++ orch.phaseChecks now

def checks (order : List (PlayerID × PipelineSnapshot)) : List AnomalyCheck :=
  order.flatMap (orch.peerChecks now) ++ orch.localChecks now

/-- The log after some checks, and the times. -/
def after (checks : List AnomalyCheck) (times : AMap PlayerID Int) :
    PipelineOrchestrator × List AnomalyEvent :=
  ({ orch with
      anomalies := (entries.run MAX_ANOMALIES orch.anomalies checks).1
      remoteSnapshotTimes := times },
    (entries.run MAX_ANOMALIES orch.anomalies checks).2)

variable {orch now}

section Source

variable (type : AnomalyType) (source : PlayerID)

theorem openFor_entries (a : PipelineAnomaly) :
    entries.openFor (type, source) a = (a.type = type && a.sourcePlayer = source && !a.resolved) := by
  simp [Alarms.Entries.openFor, entries, Prod.ext_iff]

theorem raiseAnomaly_eq (desc : String) :
    orch.raiseAnomaly now type source desc
      = orch.after [.raise (orch.anomaly now (type, source) desc)] orch.remoteSnapshotTimes := by
  have key : entries.key (orch.anomaly now (type, source) desc) = (type, source) := rfl
  have active : entries.active (type, source) orch.anomalies
      = orch.anomalies.any fun a => a.type = type && a.sourcePlayer = source && !a.resolved := by
    unfold Alarms.Entries.active
    congr 1
    funext a
    exact openFor_entries type source a
  rw [after, Alarms.Entries.run_singleton, Alarms.Entries.step, key, active, raiseAnomaly]
  split
  · rfl
  · dsimp only
    rw [Alarms.Entries.excess, List.length_append, List.length_singleton]
    split <;> rfl

theorem resolveAnomaly_eq :
    orch.resolveAnomaly type source = orch.after [.resolve (type, source)] orch.remoteSnapshotTimes := by
  have closes : entries.close (type, source)
      = fun a => if a.type = type && a.sourcePlayer = source && !a.resolved then { a with resolved := true }
        else a := by
    funext a
    rw [Alarms.Entries.close, openFor_entries]
    rfl
  have opens : entries.openFor (type, source)
      = fun a => a.type = type && a.sourcePlayer = source && !a.resolved := by
    funext a
    exact openFor_entries type source a
  rw [after, Alarms.Entries.run_singleton, Alarms.Entries.step, closes, opens, resolveAnomaly]

end Source

theorem andThen_after {first second : List AnomalyCheck} {times times' : AMap PlayerID Int}
    {next : PipelineOrchestrator → PipelineOrchestrator × List AnomalyEvent}
    (then' : next (orch.after first times).1 = (orch.after first times).1.after second times') :
    andThen (orch.after first times) next = orch.after (first ++ second) times' := by
  rw [andThen, then', after, after, after, Alarms.Entries.run_append]

theorem checkSpawns_eq (peerId : PlayerID) (remoteSnap : PipelineSnapshot) :
    orch.checkSpawns now peerId remoteSnap
      = orch.after [orch.spawnCheck now peerId remoteSnap] orch.remoteSnapshotTimes := by
  rw [checkSpawns, spawnCheck]
  split
  · exact raiseAnomaly_eq ..
  · exact resolveAnomaly_eq ..

theorem checkGhosts_eq (remoteSnap : PipelineSnapshot) :
    orch.checkGhosts now remoteSnap
      = orch.after [orch.ghostCheck now remoteSnap] orch.remoteSnapshotTimes := by
  rw [checkGhosts, ghostCheck]
  split
  · exact raiseAnomaly_eq ..
  · exact resolveAnomaly_eq ..

@[simp] theorem after_remoteSnapshotTimes (cs : List AnomalyCheck) (times : AMap PlayerID Int) :
    (orch.after cs times).1.remoteSnapshotTimes = times := rfl

@[simp] theorem after_anomaly (cs : List AnomalyCheck) (times : AMap PlayerID Int)
    (key : AnomalyType × PlayerID) (desc : String) :
    (orch.after cs times).1.anomaly now key desc = orch.anomaly now key desc := rfl

/-- Times that read the same. -/
def SameTimes (times times' : AMap PlayerID Int) : Prop :=
  ∀ peerId, (times'.lookup peerId).getD 0 = (times.lookup peerId).getD 0

theorem touchTime_same (times : AMap PlayerID Int) (peerId : PlayerID) :
    SameTimes times (touchTime times peerId) := by
  intro other
  unfold touchTime
  split
  · rfl
  · rename_i missing
    rw [AMap.lookup_insert_eq]
    split
    · rename_i same
      subst same
      rw [Option.not_isSome_iff_eq_none.mp missing]
      rfl
    · rfl

/-- The check of a peer's time reads that time. -/
theorem staleCheck_congr {first second : PipelineOrchestrator} {peerId : PlayerID}
    (read : first.snapTime peerId = second.snapTime peerId)
    (raises : ∀ key desc, first.anomaly now key desc = second.anomaly now key desc) :
    first.staleCheck now peerId = second.staleCheck now peerId := by
  have stale : first.snapshotStale now peerId = second.snapshotStale now peerId := by
    rw [snapshotStale, snapshotStale, read]
  have text : first.staleText now peerId = second.staleText now peerId := by
    unfold staleText
    rw [read]
  rw [staleCheck, staleCheck, stale, text, raises]

theorem staleCheck_after {cs : List AnomalyCheck} {times : AMap PlayerID Int}
    (same : SameTimes orch.remoteSnapshotTimes times) (peerId : PlayerID) :
    (orch.after cs times).1.staleCheck now peerId = orch.staleCheck now peerId := by
  refine staleCheck_congr ?_ (after_anomaly cs times)
  rw [snapTime, after_remoteSnapshotTimes]
  exact same peerId

theorem checkStale_eq (peerId : PlayerID) :
    orch.checkStale now peerId
      = orch.after [orch.staleCheck now peerId] (touchTime orch.remoteSnapshotTimes peerId) := by
  have start : { orch with remoteSnapshotTimes := touchTime orch.remoteSnapshotTimes peerId }
      = (orch.after [] (touchTime orch.remoteSnapshotTimes peerId)).1 := rfl
  rw [← @staleCheck_after orch now [] _ (touchTime_same orch.remoteSnapshotTimes peerId), checkStale,
    start, staleCheck]
  split
  · exact raiseAnomaly_eq ..
  · exact resolveAnomaly_eq ..

theorem checkPeer_eq (peer : PlayerID × PipelineSnapshot) :
    orch.checkPeer now peer
      = orch.after (orch.peerChecks now peer) (touchTime orch.remoteSnapshotTimes peer.1) := by
  have ghosts : andThen (orch.checkSpawns now peer.1 peer.2) (fun orch => orch.checkGhosts now peer.2)
      = orch.after [orch.spawnCheck now peer.1 peer.2, orch.ghostCheck now peer.2]
        orch.remoteSnapshotTimes := by
    rw [checkSpawns_eq]
    exact andThen_after (checkGhosts_eq peer.2)
  rw [checkPeer, ghosts]
  refine andThen_after ?_
  rw [checkStale_eq, staleCheck_after fun _ => rfl]
  rfl

theorem peerChecks_after {cs : List AnomalyCheck} {times : AMap PlayerID Int}
    (same : SameTimes orch.remoteSnapshotTimes times) :
    (orch.after cs times).1.peerChecks now = orch.peerChecks now := by
  funext peer
  rw [peerChecks, staleCheck_after same]
  rfl

theorem checkPeers_eq (order : List (PlayerID × PipelineSnapshot)) :
    ∃ times, SameTimes orch.remoteSnapshotTimes times
      ∧ orch.checkPeers now order = orch.after (order.flatMap (orch.peerChecks now)) times := by
  induction order generalizing orch with
  | nil => exact ⟨orch.remoteSnapshotTimes, fun _ => rfl, rfl⟩
  | cons peer rest ih =>
    have touched := touchTime_same orch.remoteSnapshotTimes peer.1
    obtain ⟨times, same, loop⟩ :=
      @ih (orch.after (orch.peerChecks now peer) (touchTime orch.remoteSnapshotTimes peer.1)).1
    refine ⟨times, fun peerId => (same peerId).trans (touched peerId), ?_⟩
    rw [peerChecks_after touched] at loop
    rw [checkPeers, checkPeer_eq, List.flatMap_cons]
    exact andThen_after loop

theorem checkCanSpawn_eq :
    orch.checkCanSpawn now = orch.after (orch.spawnStuckChecks now) orch.remoteSnapshotTimes := by
  rw [checkCanSpawn, spawnStuckChecks]
  split
  · split
    · exact raiseAnomaly_eq ..
    · split
      · exact resolveAnomaly_eq ..
      · rfl
  · rfl

theorem checkHook_eq : orch.checkHook now = orch.after (orch.hookChecks now) orch.remoteSnapshotTimes := by
  rw [checkHook, hookChecks]
  split
  · exact raiseAnomaly_eq ..
  · split
    · exact resolveAnomaly_eq ..
    · rfl

theorem checkPhase_eq : orch.checkPhase now = orch.after (orch.phaseChecks now) orch.remoteSnapshotTimes := by
  rw [checkPhase, phaseChecks]
  split
  · exact raiseAnomaly_eq ..
  · split
    · exact resolveAnomaly_eq ..
    · rfl

theorem checkLocal_eq : orch.checkLocal now = orch.after (orch.localChecks now) orch.remoteSnapshotTimes := by
  have hook : andThen (orch.checkCanSpawn now) (fun orch => orch.checkHook now)
      = orch.after (orch.spawnStuckChecks now ++ orch.hookChecks now) orch.remoteSnapshotTimes := by
    rw [checkCanSpawn_eq]
    exact andThen_after checkHook_eq
  rw [checkLocal, hook]
  exact andThen_after checkPhase_eq

/-- **A run** is a pass of checks over the log. -/
theorem runAnomalyDetection_eq (order : List (PlayerID × PipelineSnapshot)) :
    ∃ times, SameTimes orch.remoteSnapshotTimes times
      ∧ orch.runAnomalyDetection now order = orch.after (orch.checks now order) times := by
  obtain ⟨times, same, loop⟩ := @checkPeers_eq orch now order
  refine ⟨times, same, ?_⟩
  rw [runAnomalyDetection, loop]
  exact andThen_after checkLocal_eq

/-- The checks of a second run are those of the first one. -/
theorem checks_after {cs : List AnomalyCheck} {times : AMap PlayerID Int}
    (same : SameTimes orch.remoteSnapshotTimes times) (order : List (PlayerID × PipelineSnapshot)) :
    (orch.after cs times).1.checks now order = orch.checks now order := by
  rw [checks, peerChecks_after same]
  rfl

/-! ### What the checks say -/

/-- What an anomaly of this type and source says. -/
def describe (orch : PipelineOrchestrator) (now : Int) (key : AnomalyType × PlayerID) : String :=
  match key.1 with
  | .SpawnQueueMismatch => ((orch.remoteSnapshots.lookup key.2).map (spawnText key.2)).getD ""
  | .EntityGhostMismatch => orch.ghostText
  | .SnapshotStale => orch.staleText now key.2
  | .CanSpawnStuck => orch.stuckText now
  | .HookNotFiring => orch.hookText
  | .PhaseStuck => orch.phaseText
  | .PingSpike => ""

/-- The anomaly of this type and source. -/
def alarm (orch : PipelineOrchestrator) (now : Int) (key : AnomalyType × PlayerID) : PipelineAnomaly :=
  orch.anomaly now key (orch.describe now key)

variable {order : List (PlayerID × PipelineSnapshot)} {key : AnomalyType × PlayerID}
  {a : PipelineAnomaly}

theorem mem_order (walk : orch.Order order) {peerId : PlayerID} {remoteSnap : PipelineSnapshot} :
    (peerId, remoteSnap) ∈ order ↔ orch.remoteSnapshots.lookup peerId = some remoteSnap := by
  rw [List.Perm.mem_iff walk]
  exact AMap.mem_toList

theorem mem_checks {c : AnomalyCheck} (walk : orch.Order order) :
    c ∈ orch.checks now order ↔
      (∃ peerId remoteSnap, orch.remoteSnapshots.lookup peerId = some remoteSnap
        ∧ (c = orch.spawnCheck now peerId remoteSnap ∨ c = orch.ghostCheck now remoteSnap
          ∨ c = orch.staleCheck now peerId))
      ∨ c ∈ orch.localChecks now := by
  rw [checks, List.mem_append, List.mem_flatMap]
  refine or_congr ⟨?_, ?_⟩ Iff.rfl
  · rintro ⟨⟨peerId, remoteSnap⟩, inside, here⟩
    refine ⟨peerId, remoteSnap, (mem_order walk).mp inside, ?_⟩
    simpa [peerChecks] using here
  · rintro ⟨peerId, remoteSnap, found, here⟩
    exact ⟨(peerId, remoteSnap), (mem_order walk).mpr found, by simpa [peerChecks] using here⟩

theorem raise_mem_localChecks :
    .raise a ∈ orch.localChecks now
      ↔ orch.gameLoadedTimeSet ∧ orch.spawnStuck now ∧ a = orch.alarm now (.CanSpawnStuck, orch.localPlayerId)
        ∨ orch.hookSilent ∧ a = orch.alarm now (.HookNotFiring, orch.localPlayerId)
        ∨ orch.phaseStuck ∧ a = orch.alarm now (.PhaseStuck, orch.localPlayerId) := by
  have stuck : .raise a ∈ orch.spawnStuckChecks now ↔ orch.gameLoadedTimeSet ∧ orch.spawnStuck now
      ∧ a = orch.alarm now (.CanSpawnStuck, orch.localPlayerId) := by
    unfold spawnStuckChecks
    split_ifs with loaded stuck spawn <;> simp [alarm, describe, *]
  have silent : .raise a ∈ orch.hookChecks now
      ↔ orch.hookSilent ∧ a = orch.alarm now (.HookNotFiring, orch.localPlayerId) := by
    unfold hookChecks
    split_ifs with silent calls <;> simp [alarm, describe, *]
  have phase : .raise a ∈ orch.phaseChecks now
      ↔ orch.phaseStuck ∧ a = orch.alarm now (.PhaseStuck, orch.localPlayerId) := by
    unfold phaseChecks
    split_ifs with stuck idle <;> simp [alarm, describe, *]
  rw [localChecks, List.mem_append, List.mem_append, stuck, silent, phase, or_assoc]

/-- **What is raised** are the anomalies whose condition holds. -/
theorem raise_mem_checks (walk : orch.Order order) :
    .raise a ∈ orch.checks now order ↔ ∃ key, orch.Holds now key ∧ a = orch.alarm now key := by
  rw [mem_checks walk]
  constructor
  · rintro (⟨peerId, remoteSnap, found, spawn | ghost | stale⟩ | inside)
    · unfold spawnCheck at spawn
      split at spawn
      · rename_i mismatch
        cases spawn
        refine ⟨(.SpawnQueueMismatch, peerId), ⟨remoteSnap, found, mismatch⟩, ?_⟩
        rw [alarm, describe, found]
        rfl
      · cases spawn
    · unfold ghostCheck at ghost
      split at ghost
      · rename_i mismatch
        cases ghost
        exact ⟨orch.ghostKey, ⟨rfl, peerId, remoteSnap, found, mismatch⟩, rfl⟩
      · cases ghost
    · unfold staleCheck at stale
      split at stale
      · rename_i old
        cases stale
        exact ⟨(.SnapshotStale, peerId), ⟨by rw [found]; rfl, old⟩, rfl⟩
      · cases stale
    · rcases raise_mem_localChecks.mp inside with ⟨loaded, stuck, rfl⟩ | ⟨silent, rfl⟩ | ⟨stuck, rfl⟩
      · exact ⟨(.CanSpawnStuck, orch.localPlayerId), ⟨rfl, loaded, stuck⟩, rfl⟩
      · exact ⟨(.HookNotFiring, orch.localPlayerId), ⟨rfl, silent⟩, rfl⟩
      · exact ⟨(.PhaseStuck, orch.localPlayerId), ⟨rfl, stuck⟩, rfl⟩
  · rintro ⟨⟨type, source⟩, holds, rfl⟩
    cases type with
    | SpawnQueueMismatch =>
      obtain ⟨remoteSnap, found, mismatch⟩ := holds
      refine .inl ⟨source, remoteSnap, found, .inl ?_⟩
      rw [spawnCheck, if_pos mismatch, alarm, describe, found]
      rfl
    | EntityGhostMismatch =>
      obtain ⟨rfl, peerId, remoteSnap, found, mismatch⟩ := holds
      refine .inl ⟨peerId, remoteSnap, found, .inr (.inl ?_)⟩
      rw [ghostCheck, if_pos mismatch]
      rfl
    | SnapshotStale =>
      obtain ⟨known, old⟩ := holds
      obtain ⟨remoteSnap, found⟩ := Option.isSome_iff_exists.mp known
      refine .inl ⟨source, remoteSnap, found, .inr (.inr ?_)⟩
      rw [staleCheck, if_pos old]
      rfl
    | CanSpawnStuck =>
      obtain ⟨rfl, loaded, stuck⟩ := holds
      exact .inr (raise_mem_localChecks.mpr (.inl ⟨loaded, stuck, rfl⟩))
    | HookNotFiring =>
      obtain ⟨rfl, silent⟩ := holds
      exact .inr (raise_mem_localChecks.mpr (.inr (.inl ⟨silent, rfl⟩)))
    | PhaseStuck =>
      obtain ⟨rfl, stuck⟩ := holds
      exact .inr (raise_mem_localChecks.mpr (.inr (.inr ⟨stuck, rfl⟩)))
    | PingSpike => exact holds.elim

theorem not_holds_of_localChecks (inside : .resolve key ∈ orch.localChecks now) :
    ¬ orch.Holds now key ∧ key.1 ≠ .EntityGhostMismatch := by
  rw [localChecks, List.mem_append, List.mem_append] at inside
  rcases inside with (stuck | silent) | phase
  · unfold spawnStuckChecks at stuck
    split_ifs at stuck with loaded raised spawn
    all_goals simp only [List.mem_singleton, List.not_mem_nil, Alarms.Check.resolve.injEq,
      reduceCtorEq] at stuck
    subst stuck
    exact ⟨fun holds => raised holds.2.2, by simp⟩
  · unfold hookChecks at silent
    split_ifs at silent with raised calls
    all_goals simp only [List.mem_singleton, List.not_mem_nil, Alarms.Check.resolve.injEq,
      reduceCtorEq] at silent
    subst silent
    exact ⟨fun holds => raised holds.2, by simp⟩
  · unfold phaseChecks at phase
    split_ifs at phase with raised idle
    all_goals simp only [List.mem_singleton, List.not_mem_nil, Alarms.Check.resolve.injEq,
      reduceCtorEq] at phase
    subst phase
    exact ⟨fun holds => raised holds.2, by simp⟩

/-- Where the peers agree, nothing is resolved whose condition holds. -/
theorem not_holds_of_resolve (walk : orch.Order order) (agree : orch.GhostsAgree)
    (inside : .resolve key ∈ orch.checks now order) : ¬ orch.Holds now key := by
  rcases (mem_checks walk).mp inside with ⟨peerId, remoteSnap, found, spawn | ghost | stale⟩ | local'
  · unfold spawnCheck at spawn
    split at spawn
    · cases spawn
    · rename_i fine
      cases spawn
      rintro ⟨remoteSnap', found', mismatch⟩
      rw [found] at found'
      cases found'
      exact fine mismatch
  · unfold ghostCheck at ghost
    split at ghost
    · cases ghost
    · rename_i fine
      cases ghost
      rintro ⟨-, peerId', remoteSnap', found', mismatch⟩
      exact fine ((agree peerId remoteSnap peerId' remoteSnap' found found').trans mismatch)
  · unfold staleCheck at stale
    split at stale
    · cases stale
    · rename_i fine
      cases stale
      exact fun holds => fine holds.2
  · exact (not_holds_of_localChecks local').1

/-- Where the peers agree, a run is a consistent pass. -/
theorem consistent_checks (walk : orch.Order order) (agree : orch.GhostsAgree) :
    entries.Consistent (orch.checks now order) where
  unresolved a inside := by
    obtain ⟨key, -, rfl⟩ := (raise_mem_checks walk).mp inside
    rfl
  one a b first second same := by
    obtain ⟨key, -, rfl⟩ := (raise_mem_checks walk).mp first
    obtain ⟨key', -, rfl⟩ := (raise_mem_checks walk).mp second
    have equal : key = key' := same
    rw [equal]
  apart a k raises resolves := by
    obtain ⟨key, holds, rfl⟩ := (raise_mem_checks walk).mp raises
    intro same
    have equal : key = k := same
    rw [← equal] at resolves
    exact not_holds_of_resolve walk agree resolves holds

/-- The checks are the same in every order. -/
theorem checks_congr {order' : List (PlayerID × PipelineSnapshot)} (walk : orch.Order order)
    (walk' : orch.Order order') (c : AnomalyCheck) :
    c ∈ orch.checks now order ↔ c ∈ orch.checks now order' := by
  rw [mem_checks walk, mem_checks walk']

theorem due_iff_holds (walk : orch.Order order) :
    entries.due (orch.checks now order) key = true ↔ orch.Holds now key := by
  rw [Alarms.Entries.due_iff]
  constructor
  · rintro ⟨a, inside, same⟩
    obtain ⟨key', holds, rfl⟩ := (raise_mem_checks walk).mp inside
    have equal : key' = key := same
    exact equal ▸ holds
  · exact fun holds => ⟨orch.alarm now key, (raise_mem_checks walk).mpr ⟨key, holds, rfl⟩, rfl⟩

theorem holding_iff_stays (walk : orch.Order order) :
    entries.holding (orch.checks now order) a = true ↔ orch.Stays now a := by
  rw [Alarms.Entries.holding_iff, due_iff_holds walk]
  rfl

/-! ### Peers that do not agree -/

/-- The anomalies after a run, and what has happened to them. -/
theorem run_anomalies (order : List (PlayerID × PipelineSnapshot)) :
    (orch.runAnomalyDetection now order).1.anomalies
        = (entries.run MAX_ANOMALIES orch.anomalies (orch.checks now order)).1
      ∧ (orch.runAnomalyDetection now order).2
        = (entries.run MAX_ANOMALIES orch.anomalies (orch.checks now order)).2 := by
  obtain ⟨times, -, run⟩ := @runAnomalyDetection_eq orch now order
  rw [run]
  exact ⟨rfl, rfl⟩

/-- The peer last. -/
def peerLast (orch : PipelineOrchestrator) (peer : PlayerID × PipelineSnapshot) :
    List (PlayerID × PipelineSnapshot) := orch.remoteSnapshots.toList.erase peer ++ [peer]

variable {peer : PlayerID × PipelineSnapshot}

theorem order_peerLast (known : peer ∈ orch.remoteSnapshots.toList) : orch.Order (orch.peerLast peer) :=
  List.perm_append_comm.trans (List.perm_cons_erase known).symm

/-- What comes behind the ghost check of the last peer. -/
def behind (orch : PipelineOrchestrator) (now : Int) (peer : PlayerID × PipelineSnapshot) :
    List AnomalyCheck := orch.staleCheck now peer.1 :: orch.localChecks now

theorem checks_peerLast (peer : PlayerID × PipelineSnapshot) :
    ∃ before, orch.checks now (orch.peerLast peer)
      = before ++ orch.ghostCheck now peer.2 :: orch.behind now peer := by
  refine ⟨(orch.remoteSnapshots.toList.erase peer).flatMap (orch.peerChecks now)
    ++ [orch.spawnCheck now peer.1 peer.2], ?_⟩
  simp only [checks, peerLast, List.flatMap_append, List.flatMap_singleton, peerChecks, behind,
    List.append_assoc, List.cons_append, List.nil_append]

theorem raise_behind (raises : .raise a ∈ orch.behind now peer) : entries.key a ≠ orch.ghostKey := by
  intro same
  have type : a.type = .EntityGhostMismatch := congrArg Prod.fst same
  rcases List.mem_cons.mp raises with stale | local'
  · unfold staleCheck at stale
    split at stale
    · cases stale
      cases type
    · cases stale
  · rcases raise_mem_localChecks.mp local' with ⟨-, -, rfl⟩ | ⟨-, rfl⟩ | ⟨-, rfl⟩ <;> cases type

theorem resolve_behind : .resolve orch.ghostKey ∉ orch.behind now peer := by
  intro resolves
  rcases List.mem_cons.mp resolves with stale | local'
  · unfold staleCheck at stale
    split at stale
    · cases stale
    · cases stale
  · exact (not_holds_of_localChecks local').2 rfl

/-- A last peer that sees no ghosts leaves no unresolved anomaly of them. -/
theorem ghosts_resolved {peer : PlayerID × PipelineSnapshot} (fine : orch.ghostMismatch peer.2 = false) :
    entries.active orch.ghostKey (orch.runAnomalyDetection now (orch.peerLast peer)).1.anomalies
      = false := by
  obtain ⟨before, shape⟩ := @checks_peerLast orch now peer
  rw [(run_anomalies _).1, shape, Alarms.Entries.run_append]
  have check : orch.ghostCheck now peer.2 = .resolve orch.ghostKey := if_neg (by simp [fine])
  rw [check, Alarms.Entries.run]
  exact Alarms.Entries.not_active_run Alarms.Entries.active_close fun a raises => raise_behind raises

/-- A last peer that sees ghosts leaves one, if nothing goes that has to stay. -/
theorem ghosts_raised (mismatch : orch.ghostMismatch peer.2 = true)
    (known : peer ∈ orch.remoteSnapshots.toList)
    (kept : ∀ a, .dropped a ∈ (orch.runAnomalyDetection now (orch.peerLast peer)).2 →
      ¬ orch.Stays now a) :
    entries.active orch.ghostKey (orch.runAnomalyDetection now (orch.peerLast peer)).1.anomalies = true := by
  obtain ⟨before, shape⟩ := @checks_peerLast orch now peer
  have check : orch.ghostCheck now peer.2 = .raise (orch.anomaly now orch.ghostKey orch.ghostText) :=
    if_pos mismatch
  rw [(run_anomalies _).2, shape, check, Alarms.Entries.run_append, Alarms.Entries.run] at kept
  rw [(run_anomalies _).1, shape, check, Alarms.Entries.run_append, Alarms.Entries.run]
  refine Alarms.Entries.active_run (Alarms.Entries.active_step (by decide) rfl) resolve_behind ?_
  rintro a gone ⟨same, unresolved⟩
  refine kept a (List.mem_append_right _ (List.mem_append_right _ gone)) ⟨unresolved, ?_⟩
  have ghost : (a.type, a.sourcePlayer) = orch.ghostKey := same
  rw [ghost]
  exact ⟨rfl, peer.1, peer.2, AMap.mem_toList.mp known, mismatch⟩

/-- **Peers that do not agree** make the order matter. -/
theorem ghostsAgree_of_settles (settles : orch.Settles now) : orch.GhostsAgree := by
  have apart : ∀ peer peer', peer ∈ orch.remoteSnapshots.toList → peer' ∈ orch.remoteSnapshots.toList →
      orch.ghostMismatch peer.2 = true → orch.ghostMismatch peer'.2 ≠ false := by
    intro peer peer' known known' mismatch fine
    obtain ⟨a, inside, same, unresolved⟩ := Alarms.Entries.active_iff.mp
      (ghosts_raised mismatch known (settles.kept _ (order_peerLast known)))
    have still := (settles.orderFree _ _ (order_peerLast known) (order_peerLast known') a).mp
      ⟨inside, unresolved⟩
    have closed := Alarms.Entries.active_eq_false.mp (@ghosts_resolved orch now _ fine) a still.1 same
    have unresolved' : a.resolved = true := closed
    rw [still.2] at unresolved'
    cases unresolved'
  intro peerId remoteSnap peerId' remoteSnap' found found'
  have known := AMap.mem_toList.mpr found
  have known' := AMap.mem_toList.mpr found'
  cases first : orch.ghostMismatch remoteSnap <;> cases second : orch.ghostMismatch remoteSnap'
  · rfl
  · exact absurd first (apart _ _ known' known second)
  · exact absurd second (apart _ _ known known' first)
  · rfl

/-! ### Room -/

theorem pending_ncard (walk : orch.Order order) (agree : orch.GhostsAgree) :
    (orch.pending now).ncard = (entries.missing (orch.checks now order) orch.anomalies).length := by
  have consistent := @consistent_checks orch now _ walk agree
  have distinct : ((entries.missing (orch.checks now order) orch.anomalies).map entries.key).Nodup := by
    refine List.Nodup.map_on (fun a inside b inside' same => ?_) Alarms.Entries.missing_nodup
    exact consistent.one a b (Alarms.Entries.mem_missing.mp inside).1
      (Alarms.Entries.mem_missing.mp inside').1 same
  have keys : orch.pending now
      = (((entries.missing (orch.checks now order) orch.anomalies).map entries.key).toFinset : Set _) := by
    ext key
    simp only [List.coe_toFinset, List.mem_map, Alarms.Entries.mem_missing, Set.mem_ofPred_eq]
    constructor
    · rintro ⟨holds, closed⟩
      exact ⟨orch.alarm now key, ⟨(raise_mem_checks walk).mpr ⟨key, holds, rfl⟩,
        Alarms.Entries.active_eq_false.mpr closed⟩, rfl⟩
    · rintro ⟨a, ⟨raises, closed⟩, rfl⟩
      exact ⟨(due_iff_holds walk).mp (Alarms.Entries.due_iff.mpr ⟨a, raises, rfl⟩),
        Alarms.Entries.active_eq_false.mp closed⟩
  rw [keys, Set.ncard_coe_finset, List.toFinset_card_of_nodup distinct, List.length_map]

theorem hasRoom_iff (walk : orch.Order order) (agree : orch.GhostsAgree) :
    orch.HasRoom now ↔ entries.Room MAX_ANOMALIES (orch.checks now order) orch.anomalies := by
  have stays : ∀ a, (!entries.holding (orch.checks now order) a) = true ↔ ¬ orch.Stays now a := by
    intro a
    rw [← holding_iff_stays walk, Bool.not_eq_true', Bool.not_eq_true]
  unfold HasRoom Alarms.Entries.Room
  rw [pending_ncard walk agree]
  constructor
  · rintro ⟨front, rest, shape, harmless, room⟩
    refine room.trans (Nat.add_le_add_left ?_ _)
    rw [shape, List.takeWhile_append_of_pos fun a inside => (stays a).mpr (harmless a inside),
      List.length_append]
    exact Nat.le_add_right _ _
  · intro room
    exact ⟨_, _, List.takeWhile_append_dropWhile.symm,
      fun a inside => (stays a).mp (List.mem_takeWhile_imp (p := fun a => !entries.holding _ a) inside),
      room⟩

/-- **The detection settles** if and only if the peers agree about the ghosts and the list has room. -/
theorem anomaly_detection (orch : PipelineOrchestrator) (now : Int) :
    orch.Settles now ↔ orch.GhostsAgree ∧ orch.HasRoom now := by
  constructor
  · intro settles
    have agree := ghostsAgree_of_settles settles
    refine ⟨agree, (hasRoom_iff (List.Perm.refl _) agree).mpr ?_⟩
    refine (Alarms.Entries.kept_iff (consistent_checks (List.Perm.refl _) agree)).mp fun a gone => ?_
    rw [← (run_anomalies _).2] at gone
    rw [← Bool.not_eq_true, holding_iff_stays (List.Perm.refl _)]
    exact settles.kept _ (List.Perm.refl _) a gone
  · rintro ⟨agree, room⟩
    have room' : ∀ order, orch.Order order →
        entries.Room MAX_ANOMALIES (orch.checks now order) orch.anomalies :=
      fun order walk => (hasRoom_iff walk agree).mp room
    refine ⟨fun order order' walk walk' a => ?_, fun order order' walk walk' => ?_,
      fun order walk a gone => ?_⟩
    · rw [(run_anomalies order).1, (run_anomalies order').1]
      exact Alarms.Entries.unresolved_congr (consistent_checks walk agree) (room' order walk)
        (checks_congr walk walk')
    · obtain ⟨times, same, run⟩ := @runAnomalyDetection_eq orch now order
      have again := Alarms.Entries.run_again (consistent_checks walk agree) (room' order walk)
        (checks_congr walk walk')
      have log : (orch.after (orch.checks now order) times).1.anomalies
          = (entries.run MAX_ANOMALIES orch.anomalies (orch.checks now order)).1 := rfl
      rw [(run_anomalies order').1, (run_anomalies order').2, run, checks_after same, log, again]
      exact ⟨rfl, rfl⟩
    · rw [(run_anomalies order).2] at gone
      rw [← holding_iff_stays walk, Bool.not_eq_true]
      exact (Alarms.Entries.kept_iff (consistent_checks walk agree)).mpr (room' order walk) a gone

/-- Four ghosts here, and of two peers one has spawned something. -/
def divided : PipelineOrchestrator where
  localPlayerId := 1
  lastLocalSnapshot := { ghostCount := 4 }
  remoteSnapshots := AList.insert 2 { spawnedRemoteCount := 1 } (AList.insert 3 {} ∅)

/-- Whichever of the two comes last decides. -/
theorem anomaly_detection_fails : ¬ ∀ (orch : PipelineOrchestrator) (now : Int), orch.Settles now := by
  intro claim
  have agree := ghostsAgree_of_settles (claim divided 0)
  have same := agree 2 { spawnedRemoteCount := 1 } 3 {} (by rfl) (by rfl)
  exact absurd same (by decide)

end PipelineOrchestrator

end KenshiMP
