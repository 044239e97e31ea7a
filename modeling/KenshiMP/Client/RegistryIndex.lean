/-
**The two maps of a registry.**

`ptrToId` is meant to lead from a game object back to the entity that has it, `Inverse`. Every
operation keeps it so but two: linking an object that another entity has, and registering under a
number that an entity with an object has. `registry_inverse_iff` is the exact statement for every
sequence of operations.
-/

import KenshiMP.Client.RegistryFacts
import KenshiMP.Lib.ReverseIndex

namespace KenshiMP

open Assoc ReverseIndex

namespace EntityRegistry

variable (registry : EntityRegistry)

/-! ### The game object of an entity -/

variable {info : EntityInfo} {netId : EntityID} {f : EntityInfo → EntityInfo}

theorem getGameObject_of_known
    (known : registry.getInfo netId = some info) : registry.getGameObject netId = info.gameObject := by
  unfold getGameObject
  rw [show registry.entities.lookup netId = some info from known]
  rfl

theorem getGameObject_of_unknown (unknown : registry.getInfo netId = none) :
    registry.getGameObject netId = 0 := by
  unfold getGameObject
  rw [show registry.entities.lookup netId = none from unknown]
  rfl

theorem getGameObject_update (netId id : EntityID)
    (kept : ∀ info, (f info).gameObject = info.gameObject) :
    (registry.update netId f).getGameObject id = registry.getGameObject id := by
  show ((AMap.modify netId f registry.entities).lookup id |>.map EntityInfo.gameObject).getD 0 = _
  rw [AMap.lookup_modify, Option.map_map]
  congr 1
  refine congrArg (fun read => (registry.entities.lookup id).map read) (funext fun info => ?_)
  show (if id = netId then f info else info).gameObject = info.gameObject
  split_ifs
  · exact kept info
  · rfl

theorem getGameObject_setGameObject
    (known : registry.getInfo netId = some info) (gameObject : GameObject) :
    (registry.setGameObject netId gameObject).getGameObject
      = Function.update registry.getGameObject netId (linkable gameObject) := by
  funext id
  rw [Function.update_apply]
  unfold getGameObject
  show (((registry.setGameObject netId gameObject).getInfo id).map EntityInfo.gameObject).getD 0 = _
  rw [getInfo_setGameObject]
  split_ifs with here
  · subst here
    rw [known]
    rfl
  · rw [Option.map_map]
    rfl

theorem getGameObject_insert (netId : EntityID) (info : EntityInfo)
    (ptrToId : AMap GameObject EntityID) (nextId : EntityID) :
    (EntityRegistry.mk (AList.insert netId info registry.entities) ptrToId nextId).getGameObject
      = Function.update registry.getGameObject netId info.gameObject := by
  funext id
  rw [Function.update_apply]
  unfold getGameObject
  simp only
  rw [AMap.lookup_insert_eq]
  split_ifs <;> rfl

theorem getGameObject_erase (netId : EntityID) (ptrToId : AMap GameObject EntityID) (nextId : EntityID) :
    (EntityRegistry.mk (AList.erase netId registry.entities) ptrToId nextId).getGameObject
      = Function.update registry.getGameObject netId 0 := by
  funext id
  rw [Function.update_apply]
  unfold getGameObject
  simp only
  rw [AMap.lookup_erase_eq]
  split_ifs <;> rfl

/-- The entity that the index has for a game object. -/
def holder (gameObject : GameObject) : Option EntityID := registry.ptrToId.lookup gameObject

theorem holder_unlink (netId : EntityID) :
    (fun gameObject => (registry.unlink netId).lookup gameObject)
      = forget 0 registry.getGameObject registry.holder netId := by
  funext gameObject
  unfold unlink forget
  split_ifs
  · rfl
  · rw [AMap.lookup_erase_eq, Function.update_apply]
    rfl

theorem holder_setGameObject (known : registry.getInfo netId = some info) (gameObject : GameObject) :
    (registry.setGameObject netId gameObject).holder
      = if linkable gameObject = 0 then forget 0 registry.getGameObject registry.holder netId
        else Function.update (forget 0 registry.getGameObject registry.holder netId)
          (linkable gameObject) (some netId) := by
  rw [← holder_unlink]
  funext other
  unfold holder setGameObject
  rw [show registry.entities.lookup netId = some info from known]
  show AList.lookup other (if linkable gameObject = 0 then registry.unlink netId
    else AList.insert (linkable gameObject) netId (registry.unlink netId)) = _
  split_ifs
  · rfl
  · rw [AMap.lookup_insert_eq, Function.update_apply]

/-! ### The invariant -/

/-- Every entry is under its own number. -/
def Keyed : Prop := ∀ id info, registry.entities.lookup id = some info → info.netId = id

/-- **The two maps are inverse to each other.** -/
structure Inverse : Prop where
  keyed : registry.Keyed
  inverse : ∀ gameObject, gameObject ≠ 0 → ∀ id, registry.ptrToId.lookup gameObject = some id
    ↔ ∃ info, registry.entities.lookup id = some info ∧ info.gameObject = gameObject

variable {registry}

theorem inverse_iff :
    registry.Inverse ↔ registry.Keyed ∧ Inverts 0 registry.getGameObject registry.holder := by
  have holds {gameObject : GameObject} (some : gameObject ≠ 0) (id : EntityID) :
      (∃ info, registry.entities.lookup id = .some info ∧ info.gameObject = gameObject)
        ↔ registry.getGameObject id = gameObject := by
    unfold getGameObject
    cases registry.entities.lookup id with
    | none => exact iff_of_false (fun ⟨_, absent, _⟩ => nomatch absent) fun same => some same.symm
    | some info =>
      constructor
      · rintro ⟨other, found, same⟩
        obtain rfl := Option.some.inj found
        exact same
      · exact fun same => ⟨info, rfl, same⟩
  constructor
  · exact fun inverse => ⟨inverse.keyed, fun gameObject some id =>
      (inverse.inverse gameObject some id).trans (holds some id)⟩
  · exact fun ⟨keyed, inverts⟩ => ⟨keyed, fun gameObject some id =>
      (inverts gameObject some id).trans (holds some id).symm⟩

/-- No two entities share a game object. -/
theorem Inverse.unshared (inverse : registry.Inverse) {one two : EntityID}
    (some : registry.getGameObject one ≠ 0)
    (same : registry.getGameObject one = registry.getGameObject two) : one = two :=
  (inverse_iff.mp inverse).2.unshared same some

/-- No number is used twice and no object linked twice: a new number is not that of an entity with a
game object, and a game object that is linked is not that of another entity. -/
def Unshared (registry : EntityRegistry) : RegistryOp → Prop
  | .register gameObject _ _ =>
    invalidPointer gameObject = false → registry.ptrToId.lookup gameObject = none →
      registry.getGameObject registry.nextId = 0
  | .setGameObject netId gameObject =>
    (registry.getInfo netId).isSome → linkable gameObject ≠ 0 →
      ∀ other, other ≠ netId → registry.getGameObject other ≠ linkable gameObject
  | _ => True

/-! ### Every entry under its own number -/

theorem Keyed.insert (keyed : registry.Keyed)
    (own : info.netId = netId) (ptrToId : AMap GameObject EntityID) (nextId : EntityID) :
    Keyed ⟨AList.insert netId info registry.entities, ptrToId, nextId⟩ := by
  intro id other stored
  rw [AMap.lookup_insert_eq] at stored
  split_ifs at stored with here
  · cases stored
    exact own.trans here.symm
  · exact keyed id other stored

theorem Keyed.erase (keyed : registry.Keyed) (netId : EntityID)
    (ptrToId : AMap GameObject EntityID) (nextId : EntityID) :
    Keyed ⟨AList.erase netId registry.entities, ptrToId, nextId⟩ := by
  intro id other stored
  rw [AMap.lookup_erase_eq] at stored
  split_ifs at stored
  exact keyed id other stored

theorem Keyed.modify (keyed : registry.Keyed) (netId : EntityID)
    (kept : ∀ info, (f info).netId = info.netId) (ptrToId : AMap GameObject EntityID)
    (nextId : EntityID) : Keyed ⟨AMap.modify netId f registry.entities, ptrToId, nextId⟩ := by
  intro id other stored
  rw [AMap.lookup_modify] at stored
  obtain ⟨info, found, rfl⟩ := Option.map_eq_some_iff.mp stored
  split_ifs
  · exact (kept info).trans (keyed id info found)
  · exact keyed id info found

/-! ### One operation -/

section Kept

variable (inverse : registry.Inverse)

include inverse

theorem Inverse.update (netId : EntityID)
    (kept : ∀ info, (f info).netId = info.netId ∧ (f info).gameObject = info.gameObject) :
    (registry.update netId f).Inverse := by
  obtain ⟨keyed, inverts⟩ := inverse_iff.mp inverse
  refine inverse_iff.mpr ⟨keyed.modify netId (fun info => (kept info).1) _ _, ?_⟩
  have same : (registry.update netId f).getGameObject = registry.getGameObject :=
    funext fun id => registry.getGameObject_update netId id fun info => (kept info).2
  rw [same]
  exact inverts

theorem Inverse.unregister (netId : EntityID) : (registry.unregister netId).Inverse := by
  obtain ⟨keyed, inverts⟩ := inverse_iff.mp inverse
  refine inverse_iff.mpr ⟨keyed.erase netId _ _, ?_⟩
  have forgotten := inverts.forget netId
  rw [← holder_unlink] at forgotten
  unfold EntityRegistry.unregister
  rw [getGameObject_erase]
  exact forgotten

theorem Inverse.unregisterAll (ids : List EntityID) : (registry.unregisterAll ids).Inverse := by
  induction ids generalizing registry with
  | nil => exact inverse
  | cons id rest ih => exact ih (inverse.unregister id)

theorem Inverse.registerRemote (netId : EntityID) (type : UInt8)
    (owner : PlayerID) (pos : Vec3) : (registry.registerRemote netId type owner pos).Inverse := by
  obtain ⟨keyed, inverts⟩ := inverse_iff.mp inverse
  unfold EntityRegistry.registerRemote
  cases unknown : registry.entities.lookup netId with
  | some info => exact inverse
  | none =>
    simp only
    refine inverse_iff.mpr ⟨?_, ?_⟩
    · exact keyed.insert (by exact rfl) _ _
    · rw [getGameObject_insert]
      have vacant : Function.update registry.getGameObject netId 0 = registry.getGameObject :=
        Function.update_eq_self_iff.mpr (registry.getGameObject_of_unknown unknown).symm
      show Inverts 0 (Function.update registry.getGameObject netId 0) registry.holder
      rw [vacant]
      exact inverts

theorem Inverse.remapEntityId (oldId newId : EntityID) : (registry.remapEntityId oldId newId).Inverse := by
  obtain ⟨keyed, inverts⟩ := inverse_iff.mp inverse
  unfold EntityRegistry.remapEntityId
  cases old : registry.entities.lookup oldId with
  | none => exact inverse
  | some info =>
    cases new : registry.entities.lookup newId with
    | some taken => exact inverse
    | none =>
      have object := registry.getGameObject_of_known old
      have renamed := @Inverts.rename _ _ _ _ _ _ _ inverts oldId newId
        (registry.getGameObject_of_unknown new)
      rw [object] at renamed
      simp only
      refine inverse_iff.mpr ⟨?_, ?_⟩
      · have erased : Keyed ⟨AList.erase oldId registry.entities, registry.ptrToId, registry.nextId⟩ :=
          keyed.erase oldId _ _
        exact erased.insert (by exact rfl) _ _
      · have moved := getGameObject_insert
          ⟨AList.erase oldId registry.entities, registry.ptrToId, registry.nextId⟩ newId
          { info with netId := newId }
          (if info.gameObject = 0 then registry.ptrToId
            else AList.insert info.gameObject newId registry.ptrToId) (registry.ahead newId)
        rw [getGameObject_erase] at moved
        rw [moved]
        refine renamed.congr fun gameObject _ => ?_
        unfold holder
        split_ifs
        · rfl
        · rw [AMap.lookup_insert_eq, Function.update_apply]

/-- Linking is the one operation that can take an object from another entity. -/
theorem Inverse.setGameObject_iff (netId : EntityID) (gameObject : GameObject) :
    (registry.setGameObject netId gameObject).Inverse
      ↔ Unshared registry (.setGameObject netId gameObject) := by
  obtain ⟨keyed, inverts⟩ := inverse_iff.mp inverse
  cases known : registry.getInfo netId with
  | none =>
    have unchanged : registry.setGameObject netId gameObject = registry := by
      unfold EntityRegistry.setGameObject
      rw [show registry.entities.lookup netId = none from known]
    rw [unchanged]
    refine iff_of_true inverse fun some => ?_
    rw [known] at some
    cases some
  | some info =>
    have still : (registry.setGameObject netId gameObject).Keyed := by
      unfold EntityRegistry.setGameObject
      rw [show registry.entities.lookup netId = some info from known]
      exact keyed.modify netId (by exact fun _ => rfl) _ _
    rw [inverse_iff, and_iff_right still, registry.getGameObject_setGameObject known,
      registry.holder_setGameObject known]
    have forgotten := inverts.forget netId
    by_cases none : linkable gameObject = 0
    · rw [if_pos none, none]
      exact iff_of_true forgotten fun _ some => absurd none some
    · have linked := forgotten.link_iff none netId
      rw [Function.update_idem, Function.update_self] at linked
      rw [if_neg none, linked, and_iff_right (.inl rfl)]
      constructor
      · intro alone _ _ other different
        have apart := alone other different
        rw [Function.update_of_ne different] at apart
        exact apart
      · intro alone other different
        rw [Function.update_of_ne different]
        exact alone (known ▸ rfl) none other different

/-- An entity that comes under a number may take it from another one. -/
theorem Inverse.insert_iff (own : info.netId = netId) (unknown : registry.ptrToId.lookup info.gameObject = none)
    (nextId : EntityID) :
    Inverse ⟨AList.insert netId info registry.entities,
        AList.insert info.gameObject netId registry.ptrToId, nextId⟩ ↔ registry.getGameObject netId = 0 := by
  obtain ⟨keyed, inverts⟩ := inverse_iff.mp inverse
  have holders : EntityRegistry.holder ⟨AList.insert netId info registry.entities,
        AList.insert info.gameObject netId registry.ptrToId, nextId⟩
      = Function.update registry.holder info.gameObject (some netId) := by
    funext other
    unfold holder
    rw [AMap.lookup_insert_eq, Function.update_apply]
  rw [inverse_iff, and_iff_right (keyed.insert own _ _), getGameObject_insert, holders]
  by_cases none : info.gameObject = 0
  · rw [none]
    constructor
    · intro after
      by_contra there
      have before : registry.holder (registry.getGameObject netId) = some netId :=
        (inverts _ there netId).mpr rfl
      have kept := (after _ there netId).mp (by rw [Function.update_of_ne there, before])
      rw [Function.update_self] at kept
      exact there kept.symm
    · intro vacant
      rw [Function.update_eq_self_iff.mpr vacant.symm]
      exact inverts.congr fun other some => Function.update_of_ne some _ _
  · have nobody := (inverts.holder_none_iff none).mp unknown
    rw [inverts.link_iff none netId]
    constructor
    · rintro ⟨room, -⟩
      exact room.resolve_right (nobody netId)
    · exact fun vacant => ⟨.inl vacant, fun other _ => nobody other⟩

/-- Registering is the one operation that can take a number from another entity. -/
theorem Inverse.register_iff (gameObject : GameObject) (type : UInt8) (owner : PlayerID) :
    (registry.register gameObject type owner).Inverse
      ↔ Unshared registry (.register gameObject type owner) := by
  unfold EntityRegistry.register
  split_ifs with invalid
  · exact iff_of_true inverse fun valid => absurd valid (by rw [invalid]; decide)
  · cases unknown : registry.ptrToId.lookup gameObject with
    | some id =>
      refine iff_of_true inverse fun _ none => ?_
      rw [unknown] at none
      cases none
    | none =>
      have asked : Unshared registry (.register gameObject type owner)
          ↔ registry.getGameObject registry.nextId = 0 :=
        ⟨fun unshared => unshared (Bool.eq_false_of_not_eq_true invalid) unknown,
          fun vacant _ _ => vacant⟩
      rw [asked]
      exact inverse.insert_iff (by exact rfl) (by exact unknown) _

theorem Inverse.apply_iff (op : RegistryOp) : (op.apply registry).Inverse ↔ Unshared registry op := by
  cases op with
  | register gameObject type owner => exact inverse.register_iff gameObject type owner
  | registerRemote netId type owner pos =>
    exact iff_of_true (inverse.registerRemote netId type owner pos) trivial
  | setGameObject netId gameObject => exact inverse.setGameObject_iff netId gameObject
  | updatePosition netId pos => exact iff_of_true (inverse.update netId fun _ => ⟨rfl, rfl⟩) trivial
  | updateRotation netId rot => exact iff_of_true (inverse.update netId fun _ => ⟨rfl, rfl⟩) trivial
  | updateOwner netId newOwner =>
    exact iff_of_true (inverse.update netId fun _ => ⟨rfl, rfl⟩) trivial
  | updateEquipment netId slot itemTemplateId =>
    exact iff_of_true (inverse.update netId fun _ => ⟨rfl, rfl⟩) trivial
  | updateLimbHealth netId health =>
    exact iff_of_true (inverse.update netId fun _ => ⟨rfl, rfl⟩) trivial
  | updateStatusEffect netId effectType active =>
    exact iff_of_true (inverse.update netId fun _ => ⟨rfl, rfl⟩) trivial
  | setDirtyFlags netId flags =>
    exact iff_of_true (inverse.update netId fun _ => ⟨rfl, rfl⟩) trivial
  | clearDirtyFlags netId mask =>
    exact iff_of_true (inverse.update netId fun _ => ⟨rfl, rfl⟩) trivial
  | remapEntityId oldId newId => exact iff_of_true (inverse.remapEntityId oldId newId) trivial
  | unregister netId => exact iff_of_true (inverse.unregister netId) trivial
  | removeEntitiesInZone zone => exact iff_of_true (inverse.unregisterAll _) trivial
  | clearRemoteEntities => exact iff_of_true (inverse.unregisterAll _) trivial
  | clear =>
    refine iff_of_true ⟨fun _ _ absent => (nomatch absent), fun _ _ _ => ?_⟩ trivial
    exact iff_of_false (fun absent => (nomatch absent)) fun ⟨_, absent, _⟩ => (nomatch absent)

end Kept

/-! ### Every sequence of operations -/

theorem Inverse.start : ({} : EntityRegistry).Inverse :=
  ⟨fun _ _ absent => (nomatch absent), fun _ _ _ =>
    iff_of_false (fun absent => (nomatch absent)) fun ⟨_, absent, _⟩ => (nomatch absent)⟩

/-- **The two maps are inverse all along a sequence of operations exactly if no operation of it links
an object of another entity or takes the number of an entity with an object.** -/
theorem registry_inverse_iff (ops : List RegistryOp) :
    (∀ count, (registryMachine.run {} (ops.take count)).Inverse)
      ↔ registryMachine.Along Unshared {} ops :=
  (Machine.along_iff (fun _ op unshared inverse => (inverse.apply_iff op).mpr unshared)
    (fun _ op inverse after => (inverse.apply_iff op).mp after) Inverse.start).symm

/-- Two entities get one object; then the first is removed, and the object of the second leads to
nothing any more. A number runs over, and an entity with an object loses its place. -/
theorem registry_inverse_fails :
    ¬ (registryMachine.run {} [.registerRemote 1 0 2 {}, .registerRemote 2 0 2 {},
        .setGameObject 1 0x10000, .setGameObject 2 0x10000]).Inverse
      ∧ ((registryMachine.run {} [.registerRemote 1 0 2 {}, .registerRemote 2 0 2 {},
          .setGameObject 1 0x10000, .setGameObject 2 0x10000, .unregister 1]).getNetId 0x10000 = 0
        ∧ (registryMachine.run {} [.registerRemote 1 0 2 {}, .registerRemote 2 0 2 {},
          .setGameObject 1 0x10000, .setGameObject 2 0x10000, .unregister 1]).getGameObject 2
          = 0x10000)
      ∧ ¬ (registryMachine.run {} [.registerRemote 0 0 2 {}, .setGameObject 0 0x20000,
          .registerRemote 0xFFFFFFFE 0 2 {}, .register 0x10000 0 1, .register 0x30000 0 1]).Inverse := by
  refine ⟨fun inverse => ?_, ⟨by decide +kernel, by decide +kernel⟩, fun inverse => ?_⟩
  · have same : (1 : EntityID) = 2 := inverse.unshared (by decide +kernel) (by decide +kernel)
    exact absurd same (by decide)
  · have lost := (inverse_iff.mp inverse).2 0x20000 (by decide) 0
    exact absurd lost (by decide +kernel)

end EntityRegistry

end KenshiMP
