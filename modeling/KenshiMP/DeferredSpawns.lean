/-
**Whether it matters that an announcement came before the game was ready.**

An announcement of another player's entity that comes too early is queued, and handled once the game
is ready; had it come then, the other copy of the handler would have handled it. The outcome that is
compared (`SpawnOutcome`) is the registry's entry, with the health and the linked object, and what the
factory is asked for. The two copies differ in three ways: the queued one links a character only if
that is linked to nothing at all, leaves it where the announcement has it, and forgets the health and
the code page of the name when it asks the factory.

`deferral_iff`: for every client, every announcement and every queue, the outcome is the same
exactly if none of the three shows (`Indifferent`).
-/

import KenshiMP.Client.RegistryFacts
import KenshiMP.Client.Spawns

namespace KenshiMP

open Wire (Bytes ascii)
open Wire.Codec
open Assoc

/-! ### What is compared -/

/-- What an announcement leaves behind for its entity: the registry's entry (with the health and the
linked object) and the queue of the factory. -/
structure SpawnOutcome where
  entry : Option EntityInfo
  linked : GameObject
  requests : List FactoryRequest

namespace GameClient

variable (client : GameClient)

def outcome (entityId : EntityID) : SpawnOutcome :=
  ⟨client.registry.getInfo entityId, client.registry.getGameObject entityId, client.spawnQueue⟩

/-- The position that linking reads from the interpolation. -/
def bestPos (spawn : EntitySpawn) (now render : F32) : Option Vec3 :=
  ((client.introduce spawn.entityId spawn.type spawn.ownerId spawn.spawnPos
    (Quat.decompress spawn.compQuat) now).interpolation.getInterpolated spawn.entityId render).1

/-- A character that an entity has been given no longer waits for a slot, unless the player's own name is
that of the slot's character. -/
theorem findModCharacterBySlot_renamed (character : GameObject) (owner slot : PlayerID) (given : character ≠ 0)
    (renamed : (client.displayName owner).take 15 ≠ ascii ("Player " ++ toString slot.toNat)) :
    (client.onRemoteCharacterSpawned character owner).findModCharacterBySlot slot ≠ character := by
  unfold findModCharacterBySlot
  split_ifs
  · exact given.symm
  · intro same
    cases found : (client.onRemoteCharacterSpawned character owner).characters.find? fun entry =>
        entry.1 = ascii ("Player " ++ toString slot.toNat) with
    | none =>
      rw [found] at same
      exact given same.symm
    | some entry =>
      rw [found] at same
      have named : entry.1 = ascii ("Player " ++ toString slot.toNat) := by simpa using List.find?_some found
      have inside := List.mem_of_find?_eq_some found
      have here : entry.2 = character := same
      unfold onRemoteCharacterSpawned at inside
      simp only at inside
      split_ifs at inside with known
      · obtain ⟨before, -, made⟩ := List.mem_map.mp inside
        split_ifs at made with its
        · exact renamed (by rw [← named, ← made])
        · exact its (by rw [made, here])
      · rcases List.mem_append.mp inside with before | new
        · exact known (List.any_eq_true.mpr ⟨entry, before, decide_eq_true here⟩)
        · exact renamed (by rw [← named, List.mem_singleton.mp new])

/-- It makes no difference which copy of the handler runs. -/
def Indifferent (pages : CodePages) (spawn : EntitySpawn) (now render : F32) : Prop :=
  let character := client.findModCharacterBySlot spawn.ownerId
  if character ≠ 0 ∧ client.registry.getNetId character = 0 then
    ∀ bestPos, client.bestPos spawn now render = some bestPos → bestPos = spawn.spawnPos
  else if character ≠ 0 ∧ client.registry.getNetId character = spawn.entityId then False
  else utf8ToAnsi pages spawn.templateName = spawn.templateName ∧ spawn.extended = none

/-! ### The registry -/

end GameClient

namespace EntityRegistry

variable (registry : EntityRegistry)

/-- The health of an announcement, once the game is loaded. -/
def healed (netId : EntityID) (loaded : Bool) (health : Option (Fin 7 → F32)) : EntityRegistry :=
  match health with
  | none => registry
  | some health => if loaded then registry.updateLimbHealth netId health else registry

/-- Healing updates the entry, and keeps its position. -/
theorem getInfo_healed (netId : EntityID) (loaded : Bool) (health : Option (Fin 7 → F32)) :
    ∃ limbs : (Fin 7 → F32) → Fin 7 → F32, ∀ registry : EntityRegistry,
      (registry.healed netId loaded health).getInfo netId
        = (registry.getInfo netId).map fun info => { info with limbs := limbs info.limbs } := by
  have same (registry : EntityRegistry) : registry.getInfo netId
      = (registry.getInfo netId).map fun info => { info with limbs := id info.limbs } := by
    cases registry.getInfo netId <;> rfl
  cases health with
  | none => exact ⟨id, same⟩
  | some health =>
    cases loaded with
    | false => exact ⟨id, same⟩
    | true => exact ⟨fun _ => health, fun registry => registry.getInfo_update_self netId _⟩

/-- Two positions of a healed entity differ in its entry. -/
theorem healed_position {netId : EntityID} {info : EntityInfo}
    (known : registry.getInfo netId = some info) (loaded : Bool) (health : Option (Fin 7 → F32))
    (announced best : Vec3) :
    (((registry.updatePosition netId announced).updatePosition netId best).healed netId loaded
        health).getInfo netId
      = ((registry.updatePosition netId announced).healed netId loaded health).getInfo netId
      ↔ best = announced := by
  obtain ⟨limbs, entry⟩ := getInfo_healed netId loaded health
  rw [entry, entry]
  have at_announced : (registry.updatePosition netId announced).getInfo netId
      = some { info with lastPosition := announced, zone := ZoneCoord.fromWorldPos announced } :=
    registry.getInfo_update_of_known known _
  have at_best : ((registry.updatePosition netId announced).updatePosition netId best).getInfo netId
      = some { info with lastPosition := best, zone := ZoneCoord.fromWorldPos best } :=
    getInfo_update_of_known _ at_announced _
  rw [at_announced, at_best]
  constructor
  · intro same
    exact congrArg (fun entry : EntityInfo => entry.lastPosition) (Option.some.inj same)
  · rintro rfl
    rfl

/-- The linked object is part of the entry. -/
theorem getGameObject_of_getInfo {first second : EntityRegistry} {netId : EntityID}
    (same : first.getInfo netId = second.getInfo netId) :
    first.getGameObject netId = second.getGameObject netId :=
  congrArg (fun entry => (entry.map EntityInfo.gameObject).getD 0) same

end EntityRegistry

/-! ### The two copies of the handler -/

namespace GameClient

variable (client : GameClient)

/-- Flushing touches the interpolation and what was pending. -/
theorem flushForEntity_fields (entityId : EntityID) :
    ∃ interpolation pendingSnapshots, client.flushForEntity entityId
      = { client with interpolation := interpolation, pendingSnapshots := pendingSnapshots } := by
  unfold flushForEntity
  cases client.pendingSnapshots.lookup entityId with
  | none => exact ⟨client.interpolation, client.pendingSnapshots, rfl⟩
  | some snapshots => exact ⟨_, _, rfl⟩

/-- Introducing touches these and the registry. -/
theorem introduce_fields (entityId : EntityID) (type : UInt8) (ownerId : PlayerID)
    (spawnPos : Vec3) (rot : Quat) (now : F32) :
    ∃ interpolation pendingSnapshots,
      client.introduce entityId type ownerId spawnPos rot now
        = { client with
            registry := client.registry.registerRemote entityId type ownerId spawnPos
            interpolation := interpolation
            pendingSnapshots := pendingSnapshots } := by
  obtain ⟨interpolation, pendingSnapshots, same⟩ := flushForEntity_fields
    { client with registry := client.registry.registerRemote entityId type ownerId spawnPos } entityId
  refine ⟨interpolation.addSnapshot entityId now spawnPos rot, pendingSnapshots, ?_⟩
  unfold introduce
  simp only [same]

/-- The host's place is of no concern to it. -/
theorem introduce_noteHostSpawnPoint (noted : Vec3) (entityId : EntityID) (type : UInt8)
    (ownerId : PlayerID) (spawnPos : Vec3) (rot : Quat) (now : F32) :
    ∃ hostSpawnPoint, (client.noteHostSpawnPoint noted).introduce entityId type ownerId spawnPos rot now
      = { client.introduce entityId type ownerId spawnPos rot now with
          hostSpawnPoint := hostSpawnPoint } := by
  unfold noteHostSpawnPoint
  split_ifs
  · refine ⟨some noted, ?_⟩
    unfold introduce flushForEntity
    simp only
    cases client.pendingSnapshots.lookup entityId <;> rfl
  · obtain ⟨interpolation, pendingSnapshots, same⟩ :=
      client.introduce_fields entityId type ownerId spawnPos rot now
    refine ⟨client.hostSpawnPoint, ?_⟩
    rw [same]

section Copies

variable (pages : CodePages) (spawn : EntitySpawn) (now render : F32)

/-- The character that waits for the owner. -/
def waiting : GameObject := client.findModCharacterBySlot spawn.ownerId

/-- The registry with the entity in it. -/
def registered : EntityRegistry :=
  client.registry.registerRemote spawn.entityId spawn.type spawn.ownerId spawn.spawnPos

/-- The registry with the character linked, where the announcement has it. -/
def linkedHere : EntityRegistry :=
  ((client.registered spawn).setGameObject spawn.entityId (client.waiting spawn)).updatePosition
    spawn.entityId spawn.spawnPos

/-- The registry with the character linked, where the interpolation has it. -/
def linkedBest : EntityRegistry :=
  match client.bestPos spawn now render with
  | none => client.linkedHere spawn
  | some best => (client.linkedHere spawn).updatePosition spawn.entityId best

theorem getNetId_registered (gameObject : GameObject) :
    (client.registered spawn).getNetId gameObject = client.registry.getNetId gameObject :=
  client.registry.getNetId_registerRemote _ _ _ _ _

/-- What stands in the client when the handlers look for a character. -/
theorem introduced_fields :
    ∃ introduced : GameClient,
      (client.noteHostSpawnPoint spawn.spawnPos).introduce spawn.entityId spawn.type spawn.ownerId
          spawn.spawnPos (Quat.decompress spawn.compQuat) now = introduced
        ∧ introduced.localPlayerId = client.localPlayerId
        ∧ introduced.registry = client.registered spawn
        ∧ introduced.spawnQueue = client.spawnQueue ∧ introduced.gameLoaded = client.gameLoaded
        ∧ introduced.findModCharacterBySlot spawn.ownerId = client.waiting spawn
        ∧ (introduced.interpolation.getInterpolated spawn.entityId render).1
          = client.bestPos spawn now render := by
  obtain ⟨interpolation, pendingSnapshots, introduced⟩ := client.introduce_fields spawn.entityId
    spawn.type spawn.ownerId spawn.spawnPos (Quat.decompress spawn.compQuat) now
  obtain ⟨hostSpawnPoint, noted⟩ := client.introduce_noteHostSpawnPoint spawn.spawnPos spawn.entityId
    spawn.type spawn.ownerId spawn.spawnPos (Quat.decompress spawn.compQuat) now
  refine ⟨_, noted, ?_⟩
  unfold bestPos
  rw [introduced]
  exact ⟨rfl, rfl, rfl, rfl, rfl, rfl⟩

theorem spawnRemote_player :
    (client.spawnRemote pages spawn now render).localPlayerId = client.localPlayerId := by
  obtain ⟨introduced, same, player, -⟩ := client.introduced_fields spawn now render
  unfold spawnRemote
  simp only [same]
  split_ifs
  · exact player
  · exact player

/-- What is left behind in time by linking the character. -/
theorem spawnRemote_links (there : client.waiting spawn ≠ 0)
    (free : client.registry.getNetId (client.waiting spawn) = 0
      ∨ client.registry.getNetId (client.waiting spawn) = spawn.entityId) :
    (client.spawnRemote pages spawn now render).registry
        = (client.linkedBest spawn now render).healed spawn.entityId client.gameLoaded
          (spawn.extended.map Prod.fst)
      ∧ (client.spawnRemote pages spawn now render).spawnQueue = client.spawnQueue := by
  obtain ⟨introduced, same, -, registry, queue, loaded, found, best⟩ :=
    client.introduced_fields spawn now render
  have chosen : introduced.existingChar spawn.entityId spawn.ownerId = client.waiting spawn := by
    unfold existingChar
    simp only [registry, found, getNetId_registered]
    rcases free with none | own
    · simp [none]
    · simp [own]
  have linked : client.spawnRemote pages spawn now render
      = introduced.linkExisting spawn (client.waiting spawn) render := by
    unfold spawnRemote
    simp only [same, chosen]
    exact if_pos there
  rw [linked]
  unfold linkExisting linkedBest linkedHere
  generalize introduced.interpolation.getInterpolated spawn.entityId render = read at best
  obtain ⟨position, interpolation⟩ := read
  rw [registry, loaded, ← best]
  refine ⟨?_, queue⟩
  cases position <;> cases spawn.extended <;> rfl

/-- What is left behind in time by asking the factory. -/
theorem spawnRemote_asks
    (taken : client.waiting spawn = 0 ∨ client.registry.getNetId (client.waiting spawn) ≠ 0
      ∧ client.registry.getNetId (client.waiting spawn) ≠ spawn.entityId) :
    (client.spawnRemote pages spawn now render).registry = client.registered spawn
      ∧ (client.spawnRemote pages spawn now render).spawnQueue
        = client.spawnQueue ++ [factoryRequest pages spawn] := by
  obtain ⟨introduced, same, -, registry, queue, -, found, -⟩ :=
    client.introduced_fields spawn now render
  have chosen : introduced.existingChar spawn.entityId spawn.ownerId = 0 := by
    unfold existingChar
    simp only [registry, found, getNetId_registered]
    rcases taken with none | ⟨linked, other⟩
    · simp [none]
    · simp [linked, other]
  have asked : client.spawnRemote pages spawn now render
      = introduced.queueSpawn (factoryRequest pages spawn) := by
    unfold spawnRemote
    simp only [same, chosen]
    exact if_neg (by simp)
  rw [asked]
  refine ⟨registry, ?_⟩
  show introduced.spawnQueue ++ _ = _
  rw [queue]

/-- What is left behind later by linking the character. -/
theorem processDeferredSpawn_links (other : spawn.ownerId ≠ client.localPlayerId)
    (there : client.waiting spawn ≠ 0) (free : client.registry.getNetId (client.waiting spawn) = 0) :
    (client.processDeferredSpawn spawn.deferred now).registry
        = (client.linkedHere spawn).healed spawn.entityId client.gameLoaded
          (spawn.extended.map Prod.fst)
      ∧ (client.processDeferredSpawn spawn.deferred now).spawnQueue = client.spawnQueue := by
  obtain ⟨interpolation, pendingSnapshots, introduced⟩ := client.introduce_fields spawn.entityId
    spawn.type spawn.ownerId spawn.spawnPos (Quat.decompress spawn.compQuat) now
  have chosen : (client.waiting spawn ≠ 0
      && (client.registered spawn).getNetId (client.waiting spawn) = 0) = true := by
    simp [there, free, getNetId_registered]
  unfold processDeferredSpawn
  rw [if_neg (show spawn.deferred.ownerId ≠ client.localPlayerId from other)]
  simp only [EntitySpawn.deferred, introduced]
  rw [if_pos (by exact chosen)]
  refine ⟨?_, rfl⟩
  cases spawn.extended <;> rfl

/-- What is left behind later by asking the factory. -/
theorem processDeferredSpawn_asks (other : spawn.ownerId ≠ client.localPlayerId)
    (taken : client.waiting spawn = 0 ∨ client.registry.getNetId (client.waiting spawn) ≠ 0) :
    (client.processDeferredSpawn spawn.deferred now).registry = client.registered spawn
      ∧ (client.processDeferredSpawn spawn.deferred now).spawnQueue
        = client.spawnQueue ++ [{ factoryRequest pages { spawn with extended := none } with
            templateName := spawn.templateName }] := by
  obtain ⟨interpolation, pendingSnapshots, introduced⟩ := client.introduce_fields spawn.entityId
    spawn.type spawn.ownerId spawn.spawnPos (Quat.decompress spawn.compQuat) now
  have chosen : ¬ (client.waiting spawn ≠ 0
      && (client.registered spawn).getNetId (client.waiting spawn) = 0) = true := by
    rcases taken with none | linked
    · simp [none]
    · simp [linked, getNetId_registered]
  unfold processDeferredSpawn
  rw [if_neg (show spawn.deferred.ownerId ≠ client.localPlayerId from other)]
  simp only [EntitySpawn.deferred, introduced]
  rw [if_neg (by exact chosen)]
  exact ⟨rfl, rfl⟩

/-- The two requests to the factory are the same. -/
theorem factoryRequest_same :
    factoryRequest pages spawn
        = { factoryRequest pages { spawn with extended := none } with
            templateName := spawn.templateName }
      ↔ utf8ToAnsi pages spawn.templateName = spawn.templateName ∧ spawn.extended = none := by
  constructor
  · intro same
    have names : (factoryRequest pages spawn).templateName = spawn.templateName :=
      congrArg FactoryRequest.templateName same
    have flags : (factoryRequest pages spawn).hasExtendedState = false :=
      congrArg FactoryRequest.hasExtendedState same
    unfold factoryRequest at names flags
    cases extended : spawn.extended with
    | none =>
      rw [extended] at names
      exact ⟨names, rfl⟩
    | some state =>
      rw [extended] at flags
      cases flags
  · rintro ⟨names, none⟩
    unfold factoryRequest
    simp only [none, names]

/-- Two outcomes are the same if the entries and the requests are. -/
theorem outcome_eq {first second : GameClient} {entityId : EntityID} :
    first.outcome entityId = second.outcome entityId
      ↔ first.registry.getInfo entityId = second.registry.getInfo entityId
        ∧ first.spawnQueue = second.spawnQueue := by
  unfold outcome
  rw [SpawnOutcome.mk.injEq]
  refine ⟨fun same => ⟨same.1, same.2.2⟩, fun same => ⟨same.1, ?_, same.2⟩⟩
  exact EntityRegistry.getGameObject_of_getInfo same.1

/-- The two places of a linked character show in its entry. -/
theorem linkedBest_same (loaded : Bool) (health : Option (Fin 7 → F32)) :
    ((client.linkedHere spawn).healed spawn.entityId loaded health).getInfo spawn.entityId
        = ((client.linkedBest spawn now render).healed spawn.entityId loaded health).getInfo
          spawn.entityId
      ↔ ∀ best, client.bestPos spawn now render = some best → best = spawn.spawnPos := by
  obtain ⟨info, known, -⟩ := client.registry.getInfo_registerRemote spawn.entityId spawn.type
    spawn.ownerId spawn.spawnPos
  have entry := EntityRegistry.getInfo_setGameObject_of_known _ known (client.waiting spawn)
  unfold linkedBest
  cases client.bestPos spawn now render with
  | none => exact ⟨fun _ best found => (nomatch found), fun _ => rfl⟩
  | some best =>
    refine eq_comm.trans ((EntityRegistry.healed_position _ entry loaded health spawn.spawnPos
      best).trans ?_)
    exact ⟨fun here best' found => Option.some.inj found ▸ here, fun all => all best rfl⟩

/-- Of an entity without earlier positions, the interpolation has the announced one. -/
theorem bestPos_first (unknown : client.interpolation.entities.lookup spawn.entityId = none)
    (nothing : client.pendingSnapshots.lookup spawn.entityId = none) (best : Vec3)
    (found : client.bestPos spawn now render = some best) : best = spawn.spawnPos := by
  unfold bestPos introduce flushForEntity at found
  simp only [nothing] at found
  exact Interpolation.getInterpolated_first _ unknown now render _ _ best found

/-- **One announcement, handled in time or later.** -/
theorem outcome_iff (other : spawn.ownerId ≠ client.localPlayerId) (later : F32) :
    (client.processDeferredSpawn spawn.deferred later).outcome spawn.entityId
        = (client.spawnRemote pages spawn now render).outcome spawn.entityId
      ↔ client.Indifferent pages spawn now render := by
  rw [outcome_eq]
  unfold Indifferent
  simp only
  change _ ↔ if client.waiting spawn ≠ 0 ∧ client.registry.getNetId (client.waiting spawn) = 0 then _
    else if client.waiting spawn ≠ 0
      ∧ client.registry.getNetId (client.waiting spawn) = spawn.entityId then False else _
  split_ifs with free own
  · -- both copies link the character
    obtain ⟨inTime, queue⟩ := client.spawnRemote_links pages spawn now render free.1 (.inl free.2)
    obtain ⟨afterwards, queue'⟩ := client.processDeferredSpawn_links spawn later other free.1 free.2
    rw [inTime, afterwards, queue, queue', and_iff_left rfl]
    exact client.linkedBest_same spawn now render _ _
  · -- the character is linked to this entity already, and only one copy asks the factory
    have linked : client.registry.getNetId (client.waiting spawn) ≠ 0 := fun none => free ⟨own.1, none⟩
    obtain ⟨-, queue⟩ := client.spawnRemote_links pages spawn now render own.1 (.inr own.2)
    obtain ⟨-, queue'⟩ := client.processDeferredSpawn_asks pages spawn later other (.inr linked)
    rw [queue, queue']
    refine ⟨fun same => ?_, False.elim⟩
    exact absurd same.2 (by simp)
  · -- both copies ask the factory
    have taken : client.waiting spawn = 0 ∨ client.registry.getNetId (client.waiting spawn) ≠ 0 := by
      by_contra neither
      rw [not_or, not_not] at neither
      exact free neither
    have elsewhere : client.waiting spawn = 0 ∨ client.registry.getNetId (client.waiting spawn) ≠ 0
        ∧ client.registry.getNetId (client.waiting spawn) ≠ spawn.entityId := by
      refine (em (client.waiting spawn = 0)).imp_right fun there => ⟨?_, fun same => own ⟨there, same⟩⟩
      exact taken.resolve_left there
    obtain ⟨inTime, queue⟩ := client.spawnRemote_asks pages spawn now render elsewhere
    obtain ⟨afterwards, queue'⟩ := client.processDeferredSpawn_asks pages spawn later other taken
    rw [inTime, afterwards, queue, queue', ← factoryRequest_same]
    constructor
    · intro same
      exact (List.singleton_inj.mp (List.append_cancel_left same.2)).symm
    · intro same
      exact ⟨rfl, by rw [← same]⟩

end Copies

/-! ### The queue -/

section Queue

variable (clock : Nat → F32)

/-- The last one of a queue comes after the others. -/
theorem processEach_append (spawns : List DeferredSpawn) (ds : DeferredSpawn) :
    client.processEach clock (spawns ++ [ds])
      = (client.processEach clock spawns).processDeferredSpawn ds (clock spawns.length) := by
  unfold processEach
  rw [List.zipIdx_append, List.foldl_append]
  simp

/-- Handling what was queued keeps the player and the phase. -/
theorem processDeferredSpawn_kept (ds : DeferredSpawn) (now : F32) :
    (client.processDeferredSpawn ds now).localPlayerId = client.localPlayerId
      ∧ (client.processDeferredSpawn ds now).ready = client.ready := by
  obtain ⟨interpolation, pendingSnapshots, introduced⟩ := client.introduce_fields ds.entityId ds.type
    ds.ownerId ⟨ds.posX, ds.posY, ds.posZ⟩ (Quat.decompress ds.compressedQuat) now
  unfold processDeferredSpawn
  simp only [introduced]
  split_ifs <;> exact ⟨rfl, rfl⟩

/-- Nothing looks at the queue. -/
theorem flushForEntity_queue (queue : List DeferredSpawn) (entityId : EntityID) :
    { client with deferredSpawns := queue }.flushForEntity entityId
      = { client.flushForEntity entityId with deferredSpawns := queue } := by
  unfold flushForEntity
  simp only
  cases client.pendingSnapshots.lookup entityId <;> rfl

theorem introduce_queue (queue : List DeferredSpawn) (entityId : EntityID) (type : UInt8)
    (ownerId : PlayerID) (spawnPos : Vec3) (rot : Quat) (now : F32) :
    { client with deferredSpawns := queue }.introduce entityId type ownerId spawnPos rot now
      = { client.introduce entityId type ownerId spawnPos rot now with deferredSpawns := queue } := by
  have flushed := flushForEntity_queue
    { client with registry := client.registry.registerRemote entityId type ownerId spawnPos } queue
    entityId
  unfold introduce
  simp only at flushed ⊢
  rw [flushed]

theorem processDeferredSpawn_queue (queue : List DeferredSpawn) (ds : DeferredSpawn) (now : F32) :
    { client with deferredSpawns := queue }.processDeferredSpawn ds now
      = { client.processDeferredSpawn ds now with deferredSpawns := queue } := by
  unfold processDeferredSpawn
  simp only [introduce_queue]
  set introduced := client.introduce ds.entityId ds.type ds.ownerId ⟨ds.posX, ds.posY, ds.posZ⟩
    (Quat.decompress ds.compressedQuat) now
  by_cases own : ds.ownerId = client.localPlayerId
  · rw [if_pos own, if_pos own]
  · rw [if_neg own, if_neg own]
    by_cases free : (introduced.findModCharacterBySlot ds.ownerId ≠ 0
        && introduced.registry.getNetId (introduced.findModCharacterBySlot ds.ownerId) = 0) = true
    · rw [if_pos (by exact free), if_pos (by exact free)]
      rfl
    · rw [if_neg (by exact free), if_neg (by exact free)]
      rfl

theorem foldl_kept (entries : List (DeferredSpawn × Nat)) :
    (entries.foldl (fun client entry => client.processDeferredSpawn entry.1 (clock entry.2))
        client).localPlayerId = client.localPlayerId
      ∧ (entries.foldl (fun client entry => client.processDeferredSpawn entry.1 (clock entry.2))
        client).ready = client.ready := by
  induction entries generalizing client with
  | nil => exact ⟨rfl, rfl⟩
  | cons entry rest ih =>
    obtain ⟨player, ready⟩ := client.processDeferredSpawn_kept entry.1 (clock entry.2)
    obtain ⟨player', ready'⟩ := ih (client.processDeferredSpawn entry.1 (clock entry.2))
    exact ⟨player'.trans player, ready'.trans ready⟩

theorem foldl_queue (queue : List DeferredSpawn) (entries : List (DeferredSpawn × Nat)) :
    entries.foldl (fun client entry => client.processDeferredSpawn entry.1 (clock entry.2))
        { client with deferredSpawns := queue }
      = { entries.foldl (fun client entry => client.processDeferredSpawn entry.1 (clock entry.2))
          client with deferredSpawns := queue } := by
  induction entries generalizing client with
  | nil => rfl
  | cons entry rest ih =>
    rw [List.foldl_cons, List.foldl_cons]
    simp only [processDeferredSpawn_queue]
    exact ih _

end Queue

/-- **An announcement that comes too early leaves behind what it would have left in time, if and only
if neither the linking nor the request shows the difference.** The queue may hold others already. -/
theorem deferral_iff (pages : CodePages) (reader : PacketReader) (spawn : EntitySpawn)
    (read : readEntitySpawn reader = some spawn) (other : spawn.ownerId ≠ client.localPlayerId)
    (early : client.ready = false) (phase : ClientPhase) (inGame : phase.inGame = true)
    (clock : Nat → F32) (now render now' render' : F32) :
    (((client.handleEntitySpawn pages reader now' render').enterGame phase).processAll clock).outcome
        spawn.entityId
      = (((client.enterGame phase).processAll clock).handleEntitySpawn pages reader now render).outcome
        spawn.entityId
      ↔ ((client.enterGame phase).processAll clock).Indifferent pages spawn now render := by
  set before := (client.enterGame phase).processAll clock with inGameClient
  obtain ⟨player, ready⟩ := foldl_kept (client.enterGame phase) clock client.deferredSpawns.zipIdx
  have player' : before.localPlayerId = client.localPlayerId := player
  have ready' : before.ready = true := by
    have entered : (client.enterGame phase).ready = true := by
      show (true && phase.inGame) = true
      rw [inGame]
      rfl
    exact ready.trans entered
  have inTime : before.handleEntitySpawn pages reader now render
      = before.spawnRemote pages spawn now render := by
    unfold handleEntitySpawn takeUp
    rw [read]
    simp only [player', if_neg other, ready', Bool.not_true, Bool.false_eq_true, if_false]
  have queued : client.handleEntitySpawn pages reader now' render'
      = { client with deferredSpawns := client.deferredSpawns ++ [spawn.deferred] } := by
    unfold handleEntitySpawn takeUp
    rw [read]
    simp only [if_neg other, early, Bool.not_false, if_true]
  have afterwards : ((client.handleEntitySpawn pages reader now' render').enterGame phase).processAll
      clock = before.processDeferredSpawn spawn.deferred (clock client.deferredSpawns.length) := by
    have each := foldl_queue (client.enterGame phase) clock
      (client.deferredSpawns ++ [spawn.deferred]) (client.deferredSpawns ++ [spawn.deferred]).zipIdx
    have last := (client.enterGame phase).processEach_append clock client.deferredSpawns spawn.deferred
    rw [queued]
    calc ({ client with
          deferredSpawns := client.deferredSpawns ++ [spawn.deferred] }.enterGame phase).processAll clock
        = { (client.enterGame phase).processEach clock (client.deferredSpawns ++ [spawn.deferred]) with
            deferredSpawns := [] } :=
          congrArg (fun after : GameClient => { after with deferredSpawns := [] }) each
      _ = before.processDeferredSpawn spawn.deferred (clock client.deferredSpawns.length) := by
          rw [last]
          exact (processDeferredSpawn_queue _ [] _ _).symm
  rw [inTime, afterwards]
  exact before.outcome_iff pages spawn now render (by rw [player']; exact other) _

/-! ### Two announcements -/

/-- The conversions as they are for plain letters. -/
def plainPages : CodePages := ⟨List.map UInt8.toUInt16, List.map UInt16.toUInt8⟩

/-- A character of the first player, with its health. -/
def announcement : Bytes :=
  GameServer.spawnRequest.encode (1, 0, 1, 0, (lit 10 1, lit 0 1, lit 10 1), 0, 0)
    ++ u16.encode 11 ++ ascii "Greenlander" ++ Client.extendedState (fun _ => lit 50 1) 1

def announced : EntitySpawn :=
  (readEntitySpawn (PacketReader.start announcement)).get (by decide +kernel)

/-- The second player, whose game is still loading. -/
def loading (characters : List (Bytes × GameObject)) : GameClient :=
  { localPlayerId := 2, characters := characters }

/-- A character that waits for the first player is linked in both ways. -/
theorem deferral_linked :
    ((((loading [(ascii "Player 1", 0x10000)]).handleEntitySpawn plainPages
        (PacketReader.start announcement) (lit 0 1) (lit 0 1)).enterGame .GameReady).processAll
          (fun _ => lit 5 1)).outcome 1
      = ((((loading [(ascii "Player 1", 0x10000)]).enterGame .GameReady).processAll
          (fun _ => lit 5 1)).handleEntitySpawn plainPages (PacketReader.start announcement) (lit 5 1)
            (lit 5 1)).outcome 1 := by
  refine (deferral_iff (loading [(ascii "Player 1", 0x10000)]) plainPages
    (PacketReader.start announcement) announced (Option.some_get _).symm (by decide +kernel) rfl
    .GameReady rfl (fun _ => lit 5 1) (lit 5 1) (lit 5 1) (lit 0 1) (lit 0 1)).mpr ?_
  have free : (loading [(ascii "Player 1", 0x10000)]).findModCharacterBySlot announced.ownerId ≠ 0
      ∧ EntityRegistry.getNetId {}
        ((loading [(ascii "Player 1", 0x10000)]).findModCharacterBySlot announced.ownerId) = 0 := by
    decide +kernel
  unfold Indifferent
  simp only
  rw [if_pos (by exact free)]
  exact fun best found => bestPos_first _ announced _ _ rfl rfl best found

/-- Without one, the request that was queued first has lost the health. -/
theorem deferral_fails :
    ((((loading []).handleEntitySpawn plainPages (PacketReader.start announcement) (lit 0 1)
        (lit 0 1)).enterGame .GameReady).processAll (fun _ => lit 5 1)).outcome 1
      ≠ ((((loading []).enterGame .GameReady).processAll (fun _ => lit 5 1)).handleEntitySpawn
          plainPages (PacketReader.start announcement) (lit 5 1) (lit 5 1)).outcome 1 := by
  intro same
  have flags := congrArg (fun outcome : SpawnOutcome =>
    outcome.requests.map FactoryRequest.hasExtendedState) same
  have lost : ((((loading []).handleEntitySpawn plainPages (PacketReader.start announcement) (lit 0 1)
      (lit 0 1)).enterGame .GameReady).processAll (fun _ => lit 5 1)).spawnQueue.map
        FactoryRequest.hasExtendedState = [false] := by
    decide +kernel
  have kept : ((((loading []).enterGame .GameReady).processAll (fun _ => lit 5 1)).handleEntitySpawn
      plainPages (PacketReader.start announcement) (lit 5 1) (lit 5 1)).spawnQueue.map
        FactoryRequest.hasExtendedState = [true] := by
    decide +kernel
  exact absurd (lost.symm.trans (flags.trans kept)) (by decide)

end GameClient

end KenshiMP
