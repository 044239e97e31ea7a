/-
**The numbers that a client gives to its own entities.**

`register` takes the number from a counter. `registerRemote` and `remapEntityId` keep the counter
ahead of the numbers of the server with `netId + 1`, which is zero for the largest one; and an
allocation of the largest number leaves the counter at zero. As long as neither has happened, a new
number is that of no entity (`Ahead.apply`, `Ahead.vacant`), and the number of a game object that is
known already is that of the entity that has it (`Inverse`). The index of addresses is cleaned for
game objects only, so that a registration without one is answered from it for good.

`local_ids_fresh` puts these together over the runs of a registry.
-/

import KenshiMP.Client.RegistryIndex

namespace KenshiMP

open Assoc

namespace EntityRegistry

variable {registry : EntityRegistry}

/-! ### What a registration promises -/

/-- The number that is returned is one, it is that of the game object, and a new number was free. -/
def Allotted (registry : EntityRegistry) : RegistryOp → Prop
  | .register gameObject type owner =>
    invalidPointer gameObject = false →
      registry.registerId gameObject ≠ 0
        ∧ (∃ info, (registry.register gameObject type owner).getInfo (registry.registerId gameObject)
            = some info ∧ info.gameObject = gameObject)
        ∧ (registry.ptrToId.lookup gameObject = none →
            registry.getInfo (registry.registerId gameObject) = none)
  | _ => True

/-- The counter is in front of every entity, and what the index says can be relied on. Linking an
object must not take it from another entity. -/
def Orderly (registry : EntityRegistry) : RegistryOp → Prop
  | .register gameObject _ _ =>
    invalidPointer gameObject = false →
      (∀ id, registry.ptrToId.lookup gameObject = some id →
        id ≠ 0 ∧ (gameObject = 0 → ∃ info, registry.getInfo id = some info ∧ info.gameObject = 0))
        ∧ (registry.ptrToId.lookup gameObject = none →
          registry.nextId ≠ 0 ∧ (registry.nextId = 0xFFFFFFFF → registry.getInfo 0xFFFFFFFF = none))
  | .registerRemote netId _ _ _ => registry.getInfo netId = none → registry.nextId ≠ 0
  | .remapEntityId oldId newId =>
    (registry.getInfo oldId).isSome → registry.getInfo newId = none → registry.nextId ≠ 0
  | .setGameObject netId gameObject => Unshared registry (.setGameObject netId gameObject)
  | _ => True

/-! ### The counter -/

/-- Unless the counter has run over, it is above the number of every entity but the largest one. -/
def Ahead (registry : EntityRegistry) : Prop :=
  registry.nextId ≠ 0 → ∀ id, registry.getInfo id ≠ none → id ≠ 0xFFFFFFFF → id < registry.nextId

theorem lt_succ_of_ne {id : EntityID} (inside : id ≠ 0xFFFFFFFF) : id < id + 1 := by
  rw [UInt32.lt_iff_toNat_lt, UInt32.toNat_add]
  have bound := id.toNat_lt
  have other : id.toNat ≠ 0xFFFFFFFF := fun same => inside (UInt32.toNat_inj.mp same)
  have one : (1 : UInt32).toNat = 1 := rfl
  omega

section Ahead

variable (ahead : registry.Ahead)

include ahead

/-- The next number is that of no entity. -/
theorem Ahead.vacant (counting : registry.nextId ≠ 0)
    (last : registry.nextId = 0xFFFFFFFF → registry.getInfo 0xFFFFFFFF = none) :
    registry.getInfo registry.nextId = none := by
  by_contra taken
  by_cases largest : registry.nextId = 0xFFFFFFFF
  · rw [largest] at taken
    exact taken (last largest)
  · exact absurd (ahead counting registry.nextId taken largest) (UInt32.lt_irrefl _)

/-- Where no entity is added and the counter stays, it stays ahead. -/
theorem Ahead.of_subset {after : EntityRegistry} (counter : after.nextId = registry.nextId)
    (subset : ∀ id, registry.getInfo id = none → after.getInfo id = none) : after.Ahead := by
  intro counting id known inside
  rw [counter] at counting ⊢
  exact ahead counting id (fun unknown => known (subset id unknown)) inside

theorem Ahead.update (netId : EntityID) (f : EntityInfo → EntityInfo) : (registry.update netId f).Ahead := by
  refine ahead.of_subset rfl fun id unknown => ?_
  rw [getInfo_update, unknown]
  rfl

theorem Ahead.unregister (netId : EntityID) : (registry.unregister netId).Ahead := by
  refine ahead.of_subset rfl fun id unknown => ?_
  show (AList.erase netId registry.entities).lookup id = none
  rw [AMap.lookup_erase_eq]
  split_ifs
  · rfl
  · exact unknown

theorem Ahead.unregisterAll (ids : List EntityID) : (registry.unregisterAll ids).Ahead := by
  induction ids generalizing registry with
  | nil => exact ahead
  | cons id rest ih => exact ih (ahead.unregister id)

end Ahead

theorem le_ahead (netId : EntityID) : registry.nextId ≤ registry.ahead netId := by
  unfold EntityRegistry.ahead
  split_ifs with below
  · exact UInt32.le_of_lt below
  · exact UInt32.le_refl _

theorem lt_ahead {netId : EntityID} (inside : netId ≠ 0xFFFFFFFF) : netId < registry.ahead netId := by
  have next := lt_succ_of_ne inside
  unfold EntityRegistry.ahead
  split_ifs with below
  · exact next
  · exact UInt32.lt_of_lt_of_le next (UInt32.not_lt.mp below)

/-- An entity of the network, with the counter in front of it. -/
theorem Ahead.insert (ahead : registry.Ahead) (counting : registry.nextId ≠ 0)
    {entities : AMap EntityID EntityInfo} {netId : EntityID}
    (others : ∀ id, id ≠ netId → registry.getInfo id = none → entities.lookup id = none)
    (ptrToId : AMap GameObject EntityID) :
    Ahead ⟨entities, ptrToId, registry.ahead netId⟩ := by
  intro _ id known inside
  show id < registry.ahead netId
  by_cases new : id = netId
  · subst new
    exact lt_ahead inside
  · have old : registry.getInfo id ≠ none := fun unknown => known (others id new unknown)
    exact UInt32.lt_of_lt_of_le (ahead counting id old inside) (le_ahead netId)

variable {gameObject : GameObject} {owner : PlayerID} {type : UInt8}

section Ahead

variable (ahead : registry.Ahead)

include ahead

theorem Ahead.register (orderly : Orderly registry (.register gameObject type owner)) :
    (registry.register gameObject type owner).Ahead := by
  unfold EntityRegistry.register
  split_ifs with invalid
  · exact ahead
  · cases unknown : registry.ptrToId.lookup gameObject with
    | some known => exact ahead
    | none =>
      obtain ⟨counting, -⟩ := (orderly (Bool.eq_false_of_not_eq_true invalid)).2 unknown
      intro more id known inside
      replace more : registry.nextId + 1 ≠ 0 := more
      have last : registry.nextId ≠ 0xFFFFFFFF := by
        intro largest
        rw [largest] at more
        exact more (by decide)
      show id < registry.nextId + 1
      have next := lt_succ_of_ne last
      by_cases new : id = registry.nextId
      · rw [new]
        exact next
      · have old : registry.getInfo id ≠ none := by
          intro unknown
          refine known ?_
          show (AList.insert registry.nextId _ registry.entities).lookup id = none
          rw [AMap.lookup_insert_eq, if_neg new]
          exact unknown
        exact UInt32.lt_trans (ahead counting id old inside) next

theorem Ahead.registerRemote {netId : EntityID} {pos : Vec3}
    (orderly : Orderly registry (.registerRemote netId type owner pos)) :
    (registry.registerRemote netId type owner pos).Ahead := by
  unfold EntityRegistry.registerRemote
  cases unknown : registry.entities.lookup netId with
  | some known => exact ahead
  | none =>
    refine ahead.insert (orderly unknown) (fun id other none => ?_) _
    rw [AMap.lookup_insert_eq, if_neg other]
    exact none

theorem Ahead.remapEntityId {oldId newId : EntityID} (orderly : Orderly registry (.remapEntityId oldId newId)) :
    (registry.remapEntityId oldId newId).Ahead := by
  unfold EntityRegistry.remapEntityId
  cases known : registry.entities.lookup oldId with
  | none => exact ahead
  | some info =>
    cases unknown : registry.entities.lookup newId with
    | some taken => exact ahead
    | none =>
      have some : (registry.getInfo oldId).isSome := by
        rw [show registry.getInfo oldId = some info from known]
        rfl
      refine ahead.insert (orderly some unknown) (fun id other none => ?_) _
      rw [AMap.lookup_insert_eq, if_neg other, AMap.lookup_erase_eq]
      split_ifs
      · rfl
      · exact none

theorem Ahead.apply {op : RegistryOp} (orderly : Orderly registry op) : (op.apply registry).Ahead := by
  cases op with
  | register gameObject type owner => exact ahead.register orderly
  | registerRemote netId type owner pos => exact ahead.registerRemote orderly
  | setGameObject netId gameObject =>
    refine ahead.of_subset ?_ fun id unknown => ?_
    · show (registry.setGameObject netId gameObject).nextId = registry.nextId
      unfold EntityRegistry.setGameObject
      cases registry.entities.lookup netId <;> rfl
    · show (registry.setGameObject netId gameObject).getInfo id = none
      rw [getInfo_setGameObject, unknown]
      rfl
  | updatePosition netId pos => exact ahead.update netId _
  | updateRotation netId rot => exact ahead.update netId _
  | updateOwner netId newOwner => exact ahead.update netId _
  | updateEquipment netId slot itemTemplateId => exact ahead.update netId _
  | updateLimbHealth netId health => exact ahead.update netId _
  | updateStatusEffect netId effectType active => exact ahead.update netId _
  | setDirtyFlags netId flags => exact ahead.update netId _
  | clearDirtyFlags netId mask => exact ahead.update netId _
  | remapEntityId oldId newId => exact ahead.remapEntityId orderly
  | unregister netId => exact ahead.unregister netId
  | removeEntitiesInZone zone => exact ahead.unregisterAll _
  | clearRemoteEntities => exact ahead.unregisterAll _
  | clear => exact ahead.of_subset rfl fun _ _ => rfl

end Ahead

/-! ### Registrations -/

/-- A new number takes no entity its place, so that the index stays right. -/
theorem Orderly.unshared {op : RegistryOp} (orderly : Orderly registry op) (ahead : registry.Ahead) :
    Unshared registry op := by
  cases op with
  | register gameObject type owner =>
    intro valid unknown
    obtain ⟨counting, last⟩ := (orderly valid).2 unknown
    exact registry.getGameObject_of_unknown (ahead.vacant counting last)
  | setGameObject netId gameObject => exact orderly
  | _ => trivial

section Valid

variable (valid : invalidPointer gameObject = false)

include valid

theorem registerId_of_valid :
    registry.registerId gameObject = (registry.ptrToId.lookup gameObject).getD registry.nextId := by
  unfold registerId
  rw [if_neg (by rw [valid]; decide)]

theorem register_of_known {id : EntityID} (known : registry.ptrToId.lookup gameObject = some id) (type : UInt8)
    (owner : PlayerID) : registry.register gameObject type owner = registry := by
  unfold EntityRegistry.register
  rw [if_neg (by rw [valid]; decide), known]

/-- The entity that a registration adds. -/
theorem getInfo_register_new
    (unknown : registry.ptrToId.lookup gameObject = none) (type : UInt8) (owner : PlayerID) :
    ∃ info, (registry.register gameObject type owner).getInfo registry.nextId = some info
      ∧ info.gameObject = gameObject := by
  unfold EntityRegistry.register getInfo
  rw [if_neg (by rw [valid]; decide), unknown]
  simp only
  rw [AMap.lookup_insert_eq, if_pos rfl]
  exact ⟨_, rfl, rfl⟩

end Valid

/-- The number of an object that is known is that of its entity. -/
theorem Orderly.known {id : EntityID}
    (orderly : Orderly registry (.register gameObject type owner)) (inverse : registry.Inverse)
    (valid : invalidPointer gameObject = false) (found : registry.ptrToId.lookup gameObject = some id) :
    id ≠ 0 ∧ ∃ info, registry.getInfo id = some info ∧ info.gameObject = gameObject := by
  obtain ⟨number, absent⟩ := (orderly valid).1 id found
  refine ⟨number, ?_⟩
  by_cases none : gameObject = 0
  · rw [none]
    exact absent none
  · exact (inverse.inverse gameObject none id).mp found

theorem Orderly.allotted {op : RegistryOp} (orderly : Orderly registry op) (inverse : registry.Inverse)
    (ahead : registry.Ahead) : Allotted registry op := by
  cases op with
  | register gameObject type owner =>
    intro valid
    rw [registerId_of_valid valid]
    cases found : registry.ptrToId.lookup gameObject with
    | some id =>
      rw [register_of_known valid found]
      obtain ⟨some, own⟩ := orderly.known inverse valid found
      exact ⟨some, own, fun none => by cases none⟩
    | none =>
      obtain ⟨counting, last⟩ := (orderly valid).2 found
      exact ⟨counting, getInfo_register_new valid found type owner,
        fun _ => ahead.vacant counting last⟩
  | _ => trivial

theorem orderly_new
    (unknown : registry.ptrToId.lookup gameObject = none) (counting : registry.nextId ≠ 0)
    (last : registry.nextId ≠ 0xFFFFFFFF) : Orderly registry (.register gameObject type owner) := by
  refine fun _ => ⟨fun id found => ?_, fun _ => ⟨counting, fun same => absurd same last⟩⟩
  rw [unknown] at found
  cases found

theorem orderly_known {gameObject : GameObject} {type : UInt8} {owner : PlayerID} {id : EntityID}
    (known : registry.ptrToId.lookup gameObject = some id) (number : id ≠ 0)
    (own : gameObject = 0 → ∃ info, registry.getInfo id = some info ∧ info.gameObject = 0) :
    Orderly registry (.register gameObject type owner) := by
  refine fun _ => ⟨fun other found => ?_, fun unknown => ?_⟩
  · obtain rfl := Option.some.inj (known.symm.trans found)
    exact ⟨number, own⟩
  · rw [known] at unknown
    cases unknown

/-- For a registration it is not only enough: one that keeps its promise was orderly. -/
theorem orderly_of_allotted (allotted : Allotted registry (.register gameObject type owner)) :
    Orderly registry (.register gameObject type owner) := by
  intro valid
  obtain ⟨number, ⟨info, stored, own⟩, vacant⟩ := allotted valid
  rw [registerId_of_valid valid] at number stored vacant
  refine ⟨fun id found => ?_, fun unknown => ?_⟩
  · rw [found] at number stored
    rw [register_of_known valid found] at stored
    exact ⟨number, fun none => ⟨info, stored, own.trans none⟩⟩
  · have free := vacant unknown
    rw [unknown] at number free
    refine ⟨number, fun largest => ?_⟩
    rw [← largest]
    exact free

/-! ### Runs -/

/-- **In a run whose steps are all orderly, every registration returns a number of its own.** -/
theorem local_ids_fresh {ops : List RegistryOp} (orderly : registryMachine.Along Orderly {} ops) :
    registryMachine.Along Allotted {} ops := by
  have start : ({} : EntityRegistry).Inverse ∧ ({} : EntityRegistry).Ahead :=
    ⟨Inverse.start, fun _ _ known => absurd rfl known⟩
  have steps (s : EntityRegistry) (op : RegistryOp) (guard : Orderly s op)
      (sound : s.Inverse ∧ s.Ahead) : (op.apply s).Inverse ∧ (op.apply s).Ahead :=
    ⟨(sound.1.apply_iff op).mpr (guard.unshared sound.2), sound.2.apply guard⟩
  have sound : registryMachine.Along (fun s op => (s.Inverse ∧ s.Ahead) ∧ Orderly s op) {} ops :=
    @Machine.Along.strengthen _ _ _ registryMachine Orderly (fun s => s.Inverse ∧ s.Ahead) steps {}
      start ops orderly
  exact sound.mono fun _ _ both => both.2.allotted both.1.1 both.1.2

theorem local_ids_fresh_run : registryMachine.Along Allotted {}
    [.register 0x10000 0 1, .registerRemote 7 0 2 {}, .remapEntityId 0x10000000 0x20000000,
      .register 0x20000 0 1, .unregister 0x20000000, .register 0x10000 0 1, .register 0 0 1,
      .clearRemoteEntities, .register 0 0 1, .removeEntitiesInZone {}, .clear, .register 0 0 1] := by
  refine local_ids_fresh ⟨?_, fun _ => ?_, fun _ _ => ?_, ?_, trivial, ?_, ?_, trivial, ?_, trivial,
    trivial, ?_, trivial⟩
  · exact orderly_new (by decide +kernel) (by decide +kernel) (by decide +kernel)
  · decide +kernel
  · decide +kernel
  · exact orderly_new (by decide +kernel) (by decide +kernel) (by decide +kernel)
  · exact orderly_new (by decide +kernel) (by decide +kernel) (by decide +kernel)
  · exact orderly_new (by decide +kernel) (by decide +kernel) (by decide +kernel)
  · refine @orderly_known _ 0 0 1 0x20000003 (by decide +kernel) (by decide) fun _ => ?_
    exact ⟨_, by rfl, by rfl⟩
  · exact orderly_new (by decide +kernel) (by decide +kernel) (by decide +kernel)

/-- The server hands out the largest number but one, and the second object after it gets none. An
entity under the largest number is replaced. A registration without an object is answered with the
number of an entity that is gone, and one whose entity was given the number zero with that. -/
theorem local_ids_fresh_fails :
    ¬ registryMachine.Along Allotted {}
        [.registerRemote 0xFFFFFFFE 0 2 {}, .register 0x10000 0 1, .register 0x20000 0 1]
      ∧ ¬ registryMachine.Along Allotted {}
        [.registerRemote 0xFFFFFFFE 0 2 {}, .registerRemote 0xFFFFFFFF 0 2 {}, .register 0x10000 0 1]
      ∧ ¬ registryMachine.Along Allotted {}
        [.register 0 0 1, .unregister 0x10000000, .register 0 0 1]
      ∧ ¬ registryMachine.Along Allotted {}
        [.register 0x10000 0 1, .remapEntityId 0x10000000 0, .register 0x10000 0 1] := by
  refine ⟨fun run => ?_, fun run => ?_, fun run => ?_, fun run => ?_⟩
  · exact absurd (run.2.2.1 (by decide)).1 (by decide +kernel)
  · exact absurd ((run.2.2.1 (by decide)).2.2 (by decide +kernel)) (by decide +kernel)
  · obtain ⟨info, found, -⟩ := (run.2.2.1 (by decide)).2.1
    have gone : Option.isSome (Option.some info) = false := by
      rw [← found]
      decide +kernel
    cases gone
  · exact absurd (run.2.2.1 (by decide)).1 (by decide +kernel)

end EntityRegistry

end KenshiMP
