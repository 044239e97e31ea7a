/-
**The entity registry of a client.**

`EntityRegistry` keeps what a client knows of each entity, its own ones (`register`) and those the
server has told it about (`registerRemote`). Game objects are addresses, zero for none. The fields
that no operation here touches (health, combat, velocity, speeds) are left out.

`RegistryOp` lists everything the rest of the client does to a registry, and `registryMachine` runs
it: `generation_zero` holds of every registry a client can have.
-/

import KenshiMP.Lib.Assoc
import KenshiMP.Lib.Machine
import KenshiMP.Protocol

namespace KenshiMP

open Assoc

/-- The address of a game object. -/
abbrev GameObject := UInt64

inductive LocalAuthorityState where
  | LocalOwned | RemoteOwned | ServerOwned | PendingSpawn | Destroyed
deriving DecidableEq, Repr

structure EntityInfo where
  netId : EntityID := 0
  generation : UInt32 := 0
  gameObject : GameObject := 0
  type : UInt8 := EntityType.NPC
  ownerPlayerId : PlayerID := 0
  state : EntityState := .Inactive
  authority : AuthorityType := .None
  localState : LocalAuthorityState := .RemoteOwned
  dirtyFlags : UInt16 := 0
  zone : ZoneCoord := {}
  lastPosition : Vec3 := {}
  lastRotation : Quat := {}
  limbs : Fin 7 → F32 := fun _ => lit 100 1
  statusEffects : Fin 5 → UInt8 := fun _ => 0
  isRemote : Bool := false
  lastEquipment : Fin 14 → UInt32 := fun _ => 0

structure EntityRegistry where
  entities : AMap EntityID EntityInfo := ∅
  ptrToId : AMap GameObject EntityID := ∅
  nextId : EntityID := 0x10000000

/-- `DistanceTo`. -/
def Vec3.distanceTo (v w : Vec3) : F32 := (v.distSq w).sqrt

namespace EntityRegistry

variable (registry : EntityRegistry)

/-! ### Queries -/

def getInfo (netId : EntityID) : Option EntityInfo := registry.entities.lookup netId

def getGameObject (netId : EntityID) : GameObject :=
  ((registry.entities.lookup netId).map EntityInfo.gameObject).getD 0

def getNetId (gameObject : GameObject) : EntityID := (registry.ptrToId.lookup gameObject).getD 0

def getOwnerPlayerId (netId : EntityID) : PlayerID :=
  ((registry.entities.lookup netId).map EntityInfo.ownerPlayerId).getD 0

def isRemote (netId : EntityID) : Bool :=
  ((registry.entities.lookup netId).map EntityInfo.isRemote).getD false

def getPlayerEntities (playerId : PlayerID) : List EntityID :=
  (registry.entities.toList.filter fun (_, info) => info.ownerPlayerId = playerId).map Prod.fst

def getRemoteEntities : List EntityID :=
  (registry.entities.toList.filter fun (_, info) => info.isRemote).map Prod.fst

/-- The nearest local entity of an owner that is less than five units away, or zero. -/
def findLocalEntityNear (pos : Vec3) (owner : PlayerID) : EntityID :=
  (registry.entities.toList.foldl (fun (best : EntityID × F32) (id, info) =>
    if info.isRemote || info.ownerPlayerId ≠ owner then best
    else
      let d := info.lastPosition.distanceTo pos
      if d.lt best.2 then (id, d) else best) (0, lit 5 1)).1

/-! ### Operations -/

/-- Addresses that cannot be a game object: low, beyond user space, or not aligned. -/
def invalidPointer (gameObject : GameObject) : Bool :=
  gameObject ≠ 0
    && (gameObject < 0x10000 || 0x00007FFFFFFFFFFF < gameObject || gameObject &&& 3 ≠ 0)

/-- A local object; one that is known already keeps its identifier. -/
def register (gameObject : GameObject) (type : UInt8) (owner : PlayerID) : EntityRegistry :=
  if invalidPointer gameObject then registry
  else
    match registry.ptrToId.lookup gameObject with
    | some _ => registry
    | none =>
      let info : EntityInfo :=
        { netId := registry.nextId, gameObject := gameObject, type := type, ownerPlayerId := owner,
          state := .Active, authority := .Player, localState := .LocalOwned }
      { entities := AList.insert registry.nextId info registry.entities
        ptrToId := AList.insert gameObject registry.nextId registry.ptrToId
        nextId := registry.nextId + 1 }

/-- The identifier that `register` returns. -/
def registerId (gameObject : GameObject) : EntityID :=
  if invalidPointer gameObject then 0
  else (registry.ptrToId.lookup gameObject).getD registry.nextId

/-- Keep the counter ahead of an identifier. -/
def ahead (netId : EntityID) : EntityID :=
  if registry.nextId < netId + 1 then netId + 1 else registry.nextId

/-- An entity of the network; one that is registered already stays as it is. -/
def registerRemote (netId : EntityID) (type : UInt8) (owner : PlayerID) (pos : Vec3) : EntityRegistry :=
  match registry.entities.lookup netId with
  | some _ => registry
  | none =>
    let info : EntityInfo :=
      { netId := netId, type := type, ownerPlayerId := owner, lastPosition := pos, isRemote := true,
        state := .Spawning, authority := .Player, localState := .RemoteOwned,
        zone := ZoneCoord.fromWorldPos pos }
    { registry with
      entities := AList.insert netId info registry.entities
      nextId := registry.ahead netId }

def update (netId : EntityID) (f : EntityInfo → EntityInfo) : EntityRegistry :=
  { registry with entities := AMap.modify netId f registry.entities }

/-- Forget the address of an entity that has one. -/
def unlink (netId : EntityID) : AMap GameObject EntityID :=
  if registry.getGameObject netId = 0 then registry.ptrToId
  else AList.erase (registry.getGameObject netId) registry.ptrToId

/-- Link an address; an invalid one counts as none. A spawning entity becomes active. -/
def setGameObject (netId : EntityID) (gameObject : GameObject) : EntityRegistry :=
  let gameObject := if invalidPointer gameObject then 0 else gameObject
  match registry.entities.lookup netId with
  | none => registry
  | some _ =>
    { registry.update netId fun info =>
        { info with
          gameObject := gameObject
          state := if gameObject ≠ 0 ∧ info.state = .Spawning then .Active else info.state } with
      ptrToId :=
        if gameObject = 0 then registry.unlink netId
        else AList.insert gameObject netId (registry.unlink netId) }

def updatePosition (netId : EntityID) (pos : Vec3) : EntityRegistry :=
  registry.update netId fun info =>
    { info with lastPosition := pos, zone := ZoneCoord.fromWorldPos pos }

def updateRotation (netId : EntityID) (rot : Quat) : EntityRegistry :=
  registry.update netId fun info => { info with lastRotation := rot }

def updateTransform (netId : EntityID) (pos : Vec3) (rot : Quat) : EntityRegistry :=
  (registry.updatePosition netId pos).updateRotation netId rot

def updateLimbHealth (netId : EntityID) (health : Fin 7 → F32) : EntityRegistry :=
  registry.update netId fun info => { info with limbs := health }

def updateOwner (netId : EntityID) (newOwner : PlayerID) : EntityRegistry :=
  registry.update netId fun info => { info with ownerPlayerId := newOwner }

/-- Give an entity another identifier, if that one is free. -/
def remapEntityId (oldId newId : EntityID) : EntityRegistry :=
  match registry.entities.lookup oldId, registry.entities.lookup newId with
  | some info, none =>
    { entities := AList.insert newId { info with netId := newId } (AList.erase oldId registry.entities)
      ptrToId :=
        if info.gameObject = 0 then registry.ptrToId
        else AList.insert info.gameObject newId registry.ptrToId
      nextId := registry.ahead newId }
  | _, _ => registry

def unregister (netId : EntityID) : EntityRegistry :=
  { registry with
    entities := AList.erase netId registry.entities
    ptrToId := registry.unlink netId }

def unregisterAll (ids : List EntityID) : EntityRegistry :=
  ids.foldl EntityRegistry.unregister registry

/-- The remote entities of a zone are removed. -/
def removeEntitiesInZone (zone : ZoneCoord) : EntityRegistry :=
  registry.unregisterAll
    ((registry.entities.toList.filter fun (_, info) => info.zone = zone && info.isRemote).map Prod.fst)

def clearRemoteEntities : EntityRegistry := registry.unregisterAll registry.getRemoteEntities

def clear : EntityRegistry := { registry with entities := ∅, ptrToId := ∅ }

end EntityRegistry

/-! ### Runs of a registry -/

inductive RegistryOp where
  | register (gameObject : GameObject) (type : UInt8) (owner : PlayerID)
  | registerRemote (netId : EntityID) (type : UInt8) (owner : PlayerID) (pos : Vec3)
  | setGameObject (netId : EntityID) (gameObject : GameObject)
  | updatePosition (netId : EntityID) (pos : Vec3)
  | updateRotation (netId : EntityID) (rot : Quat)
  | updateOwner (netId : EntityID) (newOwner : PlayerID)
  | updateEquipment (netId : EntityID) (slot : Int) (itemTemplateId : UInt32)
  | updateLimbHealth (netId : EntityID) (health : Fin 7 → F32)
  | updateStatusEffect (netId : EntityID) (effectType : UInt8) (active : Bool)
  | setDirtyFlags (netId : EntityID) (flags : UInt16)
  | clearDirtyFlags (netId : EntityID) (mask : UInt16)
  | remapEntityId (oldId newId : EntityID)
  | unregister (netId : EntityID)
  | removeEntitiesInZone (zone : ZoneCoord)
  | clearRemoteEntities
  | clear

/-- One operation. -/
def RegistryOp.apply (registry : EntityRegistry) : RegistryOp → EntityRegistry
  | .register gameObject type owner => registry.register gameObject type owner
  | .registerRemote netId type owner pos => registry.registerRemote netId type owner pos
  | .setGameObject netId gameObject => registry.setGameObject netId gameObject
  | .updatePosition netId pos => registry.updatePosition netId pos
  | .updateRotation netId rot => registry.updateRotation netId rot
  | .updateOwner netId newOwner => registry.updateOwner netId newOwner
  | .updateEquipment netId slot itemTemplateId =>
    registry.update netId fun info =>
      { info with lastEquipment := fun i =>
          if (i.val : Int) = slot then itemTemplateId else info.lastEquipment i }
  | .updateLimbHealth netId health => registry.updateLimbHealth netId health
  | .updateStatusEffect netId effectType active =>
    registry.update netId fun info =>
      { info with statusEffects := fun i =>
          if i.val = effectType.toNat then (if active then 1 else 0) else info.statusEffects i }
  | .setDirtyFlags netId flags =>
    registry.update netId fun info => { info with dirtyFlags := info.dirtyFlags ||| flags }
  | .clearDirtyFlags netId mask =>
    registry.update netId fun info => { info with dirtyFlags := info.dirtyFlags &&& ~~~mask }
  | .remapEntityId oldId newId => registry.remapEntityId oldId newId
  | .unregister netId => registry.unregister netId
  | .removeEntitiesInZone zone => registry.removeEntitiesInZone zone
  | .clearRemoteEntities => registry.clearRemoteEntities
  | .clear => registry.clear

def registryMachine : Machine EntityRegistry RegistryOp Empty where
  step registry op := (op.apply registry, [])

/-! ### What no operation changes -/

namespace EntityRegistry

/-- A property of every entry. -/
def All (holds : EntityInfo → Prop) (registry : EntityRegistry) : Prop :=
  ∀ id info, registry.entities.lookup id = some info → holds info

variable {holds : EntityInfo → Prop} {registry : EntityRegistry}

section All

variable (all : All holds registry)

include all

theorem All.insert {key : EntityID} {info : EntityInfo} (new : holds info)
    (ptrToId : AMap GameObject EntityID) (nextId : EntityID) :
    All holds ⟨AList.insert key info registry.entities, ptrToId, nextId⟩ := by
  intro id other stored
  rw [AMap.lookup_insert_eq] at stored
  split_ifs at stored
  · cases stored
    exact new
  · exact all id other stored

theorem All.erase (key : EntityID) (ptrToId : AMap GameObject EntityID)
    (nextId : EntityID) : All holds ⟨AList.erase key registry.entities, ptrToId, nextId⟩ := by
  intro id other stored
  rw [AMap.lookup_erase_eq] at stored
  split_ifs at stored
  exact all id other stored

theorem All.update {f : EntityInfo → EntityInfo}
    (kept : ∀ info, holds info → holds (f info)) (key : EntityID) (ptrToId : AMap GameObject EntityID) :
    All holds ⟨AMap.modify key f registry.entities, ptrToId, registry.nextId⟩ := by
  intro id other stored
  rw [AMap.lookup_modify] at stored
  obtain ⟨info, found, rfl⟩ := Option.map_eq_some_iff.mp stored
  split_ifs
  · exact kept info (all id info found)
  · exact all id info found

theorem All.unregisterAll (ids : List EntityID) : All holds (registry.unregisterAll ids) := by
  induction ids generalizing registry with
  | nil => exact all
  | cons id rest ih => exact ih (all.erase id _ _)

end All

/-- What new entries have and no operation takes away: operations keep the generation, and a state
can only become active. -/
structure Lasting (holds : EntityInfo → Prop) : Prop where
  fresh : ∀ info, info.generation = 0 → (info.state = .Spawning ∨ info.state = .Active) → holds info
  changed : ∀ before after, holds before → after.generation = before.generation →
    (after.state = before.state ∨ after.state = .Active) → holds after

theorem All.op (lasting : Lasting holds) (all : All holds registry) (op : RegistryOp) :
    All holds (op.apply registry) := by
  have kept {key : EntityID} {f : EntityInfo → EntityInfo} {ptrToId : AMap GameObject EntityID}
      (same : ∀ info, (f info).generation = info.generation ∧ (f info).state = info.state) :
      All holds ⟨AMap.modify key f registry.entities, ptrToId, registry.nextId⟩ :=
    all.update (fun info before => lasting.changed info _ before (same info).1 (.inl (same info).2)) _ _
  cases op with
  | register gameObject type owner =>
    simp only [RegistryOp.apply, register]
    split_ifs
    · exact all
    · cases registry.ptrToId.lookup gameObject with
      | some known => exact all
      | none => exact all.insert (lasting.fresh _ rfl (.inr rfl)) _ _
  | registerRemote netId type owner pos =>
    simp only [RegistryOp.apply, registerRemote]
    cases registry.entities.lookup netId with
    | some known => exact all
    | none => exact all.insert (lasting.fresh _ rfl (.inl rfl)) _ _
  | setGameObject netId gameObject =>
    simp only [RegistryOp.apply, setGameObject]
    cases registry.entities.lookup netId with
    | none => exact all
    | some known =>
      refine all.update (fun info before => ?_) _ _
      refine lasting.changed info _ before rfl ?_
      by_cases spawning : (if invalidPointer gameObject = true then 0 else gameObject) ≠ 0
          ∧ info.state = .Spawning
      · exact .inr (if_pos spawning)
      · exact .inl (if_neg spawning)
  | updatePosition netId pos => exact kept fun _ => ⟨rfl, rfl⟩
  | updateRotation netId rot => exact kept fun _ => ⟨rfl, rfl⟩
  | updateOwner netId newOwner => exact kept fun _ => ⟨rfl, rfl⟩
  | updateEquipment netId slot itemTemplateId => exact kept fun _ => ⟨rfl, rfl⟩
  | updateLimbHealth netId health => exact kept fun _ => ⟨rfl, rfl⟩
  | updateStatusEffect netId effectType active => exact kept fun _ => ⟨rfl, rfl⟩
  | setDirtyFlags netId flags => exact kept fun _ => ⟨rfl, rfl⟩
  | clearDirtyFlags netId mask => exact kept fun _ => ⟨rfl, rfl⟩
  | remapEntityId oldId newId =>
    simp only [RegistryOp.apply, remapEntityId]
    cases old : registry.entities.lookup oldId with
    | none => exact all
    | some info =>
      cases registry.entities.lookup newId with
      | some taken => exact all
      | none =>
        have erased : All holds ⟨AList.erase oldId registry.entities, registry.ptrToId, registry.nextId⟩ :=
          all.erase oldId _ _
        exact erased.insert (by exact lasting.changed info _ (all oldId info old) rfl (.inl rfl)) _ _
  | unregister netId => exact all.erase netId _ _
  | removeEntitiesInZone zone => exact all.unregisterAll _
  | clearRemoteEntities => exact all.unregisterAll _
  | clear => exact fun id info found => by cases found

theorem All.run (lasting : Lasting holds) (all : All holds registry) (ops : List RegistryOp) :
    All holds (registryMachine.run registry ops) :=
  @Machine.run_invariant_always _ _ _ registryMachine (All holds)
    (fun _ op before => All.op lasting before op) registry all ops

/-- **No entry ever has another generation than zero.** -/
theorem generation_zero (ops : List RegistryOp) (id : EntityID) (info : EntityInfo)
    (stored : (registryMachine.run {} ops).getInfo id = some info) : info.generation = 0 := by
  have lasting : Lasting fun info => info.generation = 0 :=
    ⟨fun _ zero _ => zero, fun _ _ before same _ => same.trans before⟩
  exact All.run lasting (fun _ _ found => by cases found) ops id info stored

/-- Every entry is on its way into the game or in it. -/
theorem lasting_present : Lasting fun info => info.state = .Spawning ∨ info.state = .Active where
  fresh _ _ state := state
  changed _ _ before _ state := state.elim (fun same => same ▸ before) .inr

end EntityRegistry

end KenshiMP
