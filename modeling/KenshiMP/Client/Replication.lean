/-
**What a client does with the positions and the heartbeats of the server.**

`validateInboundSnapshot` decides about one record of a position packet. `handleEntityHeartbeat`
removes every remote entity that the list of a heartbeat does not name (`heartbeat_removes`).
-/

import KenshiMP.Client.Registry

namespace KenshiMP

open Assoc

/-! ### Snapshots -/

inductive SnapshotDecision where
  | ApplyRemote | ReconcileLocal | QueuePendingSpawn | RejectAuthorityViolation | RejectEcho
  | RejectStaleGeneration | RejectDestroyed | RejectUnknown
deriving DecidableEq, Repr

/-- What becomes of a record that came with a packet of a source. -/
def validateInboundSnapshot (pos : CharacterPosition) (sourcePlayerId myPlayerId : PlayerID)
    (registry : EntityRegistry) : SnapshotDecision :=
  match registry.getInfo pos.entityId with
  | none => .QueuePendingSpawn
  | some info =>
    if info.generation ≠ pos.generation then .RejectStaleGeneration
    else if info.state = .Inactive then .RejectDestroyed
    else if registry.getOwnerPlayerId pos.entityId = myPlayerId then .ReconcileLocal
    else if registry.getOwnerPlayerId pos.entityId ≠ sourcePlayerId then .RejectAuthorityViolation
    else if registry.isRemote pos.entityId then .ApplyRemote
    else .RejectUnknown

/-- A record of the right generation about a remote entity in use is applied exactly if its packet
comes from the owner, who is somebody else. -/
theorem applyRemote_iff {pos : CharacterPosition} {sourcePlayerId myPlayerId : PlayerID}
    {registry : EntityRegistry} {info : EntityInfo}
    (known : registry.getInfo pos.entityId = some info) (generation : info.generation = pos.generation)
    (active : info.state ≠ .Inactive) (remote : info.isRemote = true) :
    validateInboundSnapshot pos sourcePlayerId myPlayerId registry = .ApplyRemote
      ↔ info.ownerPlayerId ≠ myPlayerId ∧ info.ownerPlayerId = sourcePlayerId := by
  have stored : registry.entities.lookup pos.entityId = some info := known
  have owner : registry.getOwnerPlayerId pos.entityId = info.ownerPlayerId := by
    unfold EntityRegistry.getOwnerPlayerId
    rw [stored]
    rfl
  have isRemote : registry.isRemote pos.entityId = true := by
    unfold EntityRegistry.isRemote
    rw [stored]
    exact remote
  unfold validateInboundSnapshot
  rw [known]
  simp only
  rw [if_neg (not_not.mpr generation), if_neg active, owner]
  by_cases mine : info.ownerPlayerId = myPlayerId
  · rw [if_pos mine]
    exact ⟨fun decided => (nomatch decided), fun both => absurd mine both.1⟩
  · rw [if_neg mine]
    by_cases fromOwner : info.ownerPlayerId = sourcePlayerId
    · rw [if_neg (not_not.mpr fromOwner), if_pos isRemote]
      exact ⟨fun _ => ⟨mine, fromOwner⟩, fun _ => rfl⟩
    · rw [if_pos fromOwner]
      exact ⟨fun decided => (nomatch decided), fun both => absurd both.2 fromOwner⟩

/-! ### Heartbeats -/

namespace EntityRegistry

variable (registry : EntityRegistry)

/-- Remove every remote entity that the list does not name; the count in front of it says how many
of its identifiers are read. Before the game is loaded a heartbeat is ignored. -/
def handleEntityHeartbeat (gameLoaded : Bool) (entityCount : UInt16) (ids : List EntityID) : EntityRegistry :=
  if !gameLoaded then registry
  else registry.unregisterAll
    (registry.getRemoteEntities.filter fun localId => localId ∉ ids.take entityCount.toNat)

theorem lookup_unregisterAll (ids : List EntityID) (id : EntityID) :
    (registry.unregisterAll ids).entities.lookup id
      = if id ∈ ids then none else registry.entities.lookup id := by
  induction ids generalizing registry with
  | nil => rfl
  | cons first rest ih =>
    show ((registry.unregister first).unregisterAll rest).entities.lookup id = _
    rw [ih]
    show (if id ∈ rest then none else AList.lookup id (AList.erase first registry.entities)) = _
    rw [AMap.lookup_erase_eq]
    by_cases later : id ∈ rest
    · rw [if_pos later, if_pos (List.mem_cons_of_mem _ later)]
    · rw [if_neg later]
      by_cases here : id = first
      · rw [if_pos here, if_pos (here ▸ List.mem_cons_self)]
      · rw [if_neg here, if_neg fun inside => (List.mem_cons.mp inside).elim here later]

theorem mem_getRemoteEntities {id : EntityID} :
    id ∈ registry.getRemoteEntities ↔ ∃ info, registry.getInfo id = some info ∧ info.isRemote = true := by
  unfold getRemoteEntities getInfo
  simp only [List.mem_map, List.mem_filter, Prod.exists, exists_and_right, exists_eq_right]
  exact exists_congr fun info => and_congr_left fun _ => AMap.mem_toList

/-- A registry with one remote entity. -/
theorem registerRemote_only (netId : EntityID) (type : UInt8) (owner : PlayerID) (pos : Vec3) :
    ∃ info : EntityInfo, (∀ id other, (({} : EntityRegistry).registerRemote netId type owner pos).getInfo
        id = some other ↔ id = netId ∧ other = info) ∧ info.isRemote = true := by
  let info : EntityInfo :=
    { netId := netId, type := type, ownerPlayerId := owner, lastPosition := pos, isRemote := true,
      state := .Spawning, authority := .Player, localState := .RemoteOwned,
      zone := ZoneCoord.fromWorldPos pos }
  refine ⟨info, fun id other => ?_, rfl⟩
  show AList.lookup id (AList.insert netId info ({} : EntityRegistry).entities) = some other ↔ _
  rw [AMap.lookup_insert_eq]
  split_ifs with same
  · rw [Option.some.injEq]
    exact ⟨fun equal => ⟨same, equal.symm⟩, fun both => both.2.symm⟩
  · exact ⟨fun stored => (nomatch stored), fun both => absurd both.1 same⟩

/-- What a heartbeat removes. -/
theorem heartbeat_removes {entityCount : UInt16} {ids : List EntityID} {id : EntityID}
    {info : EntityInfo} (known : registry.getInfo id = some info) (remote : info.isRemote = true) :
    (registry.handleEntityHeartbeat true entityCount ids).getInfo id = none
      ↔ id ∉ ids.take entityCount.toNat := by
  have inside : id ∈ registry.getRemoteEntities :=
    registry.mem_getRemoteEntities.mpr ⟨info, known, remote⟩
  show (registry.unregisterAll _).entities.lookup id = none ↔ _
  rw [lookup_unregisterAll]
  have stored : registry.entities.lookup id = some info := known
  simp only [List.mem_filter, inside, true_and, decide_eq_true_eq, stored]
  split_ifs with named
  · simp [named]
  · simp [named]

end EntityRegistry

end KenshiMP
