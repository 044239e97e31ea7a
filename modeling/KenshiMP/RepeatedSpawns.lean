/-
**Announcing an entity again.**

The server announces the entities of a zone whenever a client asks for it, also those the client has
already. The registry ignores the second announcement, but the handler goes on behind it as it does
for a new entity: it links the character that waits for the owner, or else asks the factory.
`spawnAgain_iff` says when that leaves everything as it is.
-/

import KenshiMP.Client.IncomingFacts
import KenshiMP.Client.RegistryIndex

namespace KenshiMP

open Assoc

/-! ### The registry -/

namespace EntityRegistry

variable (registry : EntityRegistry)

/-- The number of registered entities. -/
def count : Nat := registry.entities.size

theorem count_update (netId : EntityID) (f : EntityInfo → EntityInfo) :
    (registry.update netId f).count = registry.count :=
  AMap.size_modify netId f registry.entities

theorem count_setGameObject (netId : EntityID) (gameObject : GameObject) :
    (registry.setGameObject netId gameObject).count = registry.count := by
  unfold setGameObject
  cases registry.entities.lookup netId with
  | none => rfl
  | some info => exact registry.count_update netId _

theorem healed_frame (netId id : EntityID) (loaded : Bool) (health : Option (Fin 7 → F32)) :
    (registry.healed netId loaded health).getGameObject id = registry.getGameObject id
      ∧ (registry.healed netId loaded health).count = registry.count := by
  cases health with
  | none => exact ⟨rfl, rfl⟩
  | some health =>
    cases loaded with
    | false => exact ⟨rfl, rfl⟩
    | true =>
      exact ⟨registry.getGameObject_update netId id fun _ => rfl, registry.count_update netId _⟩

theorem updatePosition_frame (netId id : EntityID) (pos : Vec3) :
    (registry.updatePosition netId pos).getGameObject id = registry.getGameObject id
      ∧ (registry.updatePosition netId pos).count = registry.count :=
  ⟨registry.getGameObject_update netId id fun _ => rfl, registry.count_update netId _⟩

variable {netId : EntityID} {info : EntityInfo} (known : registry.getInfo netId = some info)

include known

/-- What is registered already is not registered again. -/
theorem registerRemote_known (type : UInt8) (owner : PlayerID) (pos : Vec3) :
    registry.registerRemote netId type owner pos = registry := by
  unfold registerRemote
  rw [show registry.entities.lookup netId = some info from known]

/-- Nor does it take the place of an own entity. -/
theorem confirm_known (pos : Vec3) (owner : PlayerID) : registry.confirm netId pos owner = registry := by
  have stored : registry.entities.lookup netId = some info := known
  unfold confirm remapEntityId
  simp only [stored]
  split_ifs
  · cases registry.entities.lookup (registry.findLocalEntityNear pos owner) <;> rfl
  · rfl

end EntityRegistry

/-! ### The handler -/

namespace GameClient

open EntityRegistry

variable (client : GameClient)

/-- How often the factory is asked for an entity. -/
def pendingFor (entityId : EntityID) : Nat :=
  (client.spawnQueue.filter fun req => req.netId = entityId).length

/-- The character that waits for the owner is not linked to another entity. -/
def Links (record : SpawnRecord) : Prop :=
  client.findModCharacterBySlot record.ownerId ≠ 0
    ∧ (client.registry.getNetId (client.findModCharacterBySlot record.ownerId) = 0
      ∨ client.registry.getNetId (client.findModCharacterBySlot record.ownerId) = record.entityId)

/-- Nobody looks for a character: the announcement confirms an own entity, or has come too early. -/
def Passes (record : SpawnRecord) : Prop :=
  record.ownerId = client.localPlayerId ∨ client.ready = false

/-- The character is the one that the entity has. -/
def Relinks (record : SpawnRecord) : Prop :=
  client.Links record
    ∧ linkable (client.findModCharacterBySlot record.ownerId)
      = client.registry.getGameObject record.entityId

variable {client} {record : SpawnRecord} {info : EntityInfo}

/-- The announcement is read, and taken up. -/
theorem handlePacket_taken (pages : CodePages) (client : GameClient) (record : SpawnRecord)
    (now render : F32) (clock : Nat → F32) :
    ∃ spawn : EntitySpawn, spawn.entityId = record.entityId ∧ spawn.ownerId = record.ownerId
      ∧ client.handlePacket pages ⟨.entitySpawn record, now, render, clock⟩
        = client.takeUp pages spawn now render := by
  obtain ⟨spawn, read, id, owner, -⟩ := readEntitySpawn_fixed record
  refine ⟨spawn, id, owner, ?_⟩
  show client.handleEntitySpawn pages (PacketReader.start record.write) now render = _
  unfold handleEntitySpawn
  rw [read]

/-- Linking gives a known entity the character of its owner. -/
theorem linkedBest_frame {spawn : EntitySpawn}
    (known : client.registry.getInfo spawn.entityId = some info) (now render : F32) :
    (client.linkedBest spawn now render).getGameObject spawn.entityId = linkable (client.waiting spawn)
      ∧ (client.linkedBest spawn now render).count = client.registry.count := by
  have registered : client.registered spawn = client.registry :=
    client.registry.registerRemote_known known _ _ _
  have here : (client.linkedHere spawn).getGameObject spawn.entityId = linkable (client.waiting spawn)
      ∧ (client.linkedHere spawn).count = client.registry.count := by
    unfold linkedHere
    rw [registered]
    obtain ⟨object, counted⟩ := updatePosition_frame
      (client.registry.setGameObject spawn.entityId (client.waiting spawn)) spawn.entityId
      spawn.entityId spawn.spawnPos
    rw [object, counted, client.registry.getGameObject_setGameObject known, Function.update_self]
    exact ⟨rfl, client.registry.count_setGameObject _ _⟩
  unfold linkedBest
  cases client.bestPos spawn now render with
  | none => exact here
  | some best =>
    obtain ⟨object, counted⟩ :=
      (client.linkedHere spawn).updatePosition_frame spawn.entityId spawn.entityId best
    rw [object, counted]
    exact here

section Again

variable (pages : CodePages) (now render : F32) (clock : Nat → F32)

/-- Where nobody looks for a character, nothing changes. -/
theorem again_passes (known : client.registry.getInfo record.entityId = some info)
    (passes : client.Passes record) :
    (client.handlePacket pages ⟨.entitySpawn record, now, render, clock⟩).registry = client.registry
      ∧ (client.handlePacket pages ⟨.entitySpawn record, now, render, clock⟩).spawnQueue
        = client.spawnQueue := by
  obtain ⟨spawn, id, owner, taken⟩ := handlePacket_taken pages client record now render clock
  rw [taken]
  unfold takeUp
  rw [owner, id]
  rcases Decidable.em (record.ownerId = client.localPlayerId) with own | other
  · rw [if_pos own]
    exact ⟨client.registry.confirm_known known _ _, rfl⟩
  · have early : client.ready = false := passes.resolve_left other
    rw [if_neg other, early]
    exact ⟨rfl, rfl⟩

theorem again_spawns (busy : ¬ client.Passes record) :
    ∃ spawn : EntitySpawn, spawn.entityId = record.entityId ∧ spawn.ownerId = record.ownerId
      ∧ client.handlePacket pages ⟨.entitySpawn record, now, render, clock⟩
        = client.spawnRemote pages spawn now render := by
  obtain ⟨spawn, id, owner, taken⟩ := handlePacket_taken pages client record now render clock
  refine ⟨spawn, id, owner, taken.trans ?_⟩
  obtain ⟨other, early⟩ := not_or.mp busy
  have ready : client.ready = true := Bool.of_not_eq_false early
  unfold takeUp
  rw [owner, if_neg other, ready]
  rfl

variable (known : client.registry.getInfo record.entityId = some info) (busy : ¬ client.Passes record)

include known busy

/-- The entity gets the character of its owner, whichever it had. -/
theorem again_links (links : client.Links record) :
    (client.handlePacket pages ⟨.entitySpawn record, now, render, clock⟩).registry.getGameObject
          record.entityId = linkable (client.findModCharacterBySlot record.ownerId)
      ∧ (client.handlePacket pages ⟨.entitySpawn record, now, render, clock⟩).registry.count
        = client.registry.count
      ∧ (client.handlePacket pages ⟨.entitySpawn record, now, render, clock⟩).spawnQueue
        = client.spawnQueue := by
  obtain ⟨spawn, id, owner, taken⟩ := again_spawns pages now render clock busy
  have waits : client.waiting spawn = client.findModCharacterBySlot record.ownerId := by
    unfold waiting
    rw [owner]
  obtain ⟨there, free⟩ := links
  rw [← waits, ← id] at free
  rw [← waits] at there ⊢
  rw [← id] at known ⊢
  obtain ⟨linked, queue⟩ := client.spawnRemote_links pages spawn now render there free
  obtain ⟨object, counted⟩ := (client.linkedBest spawn now render).healed_frame spawn.entityId
    spawn.entityId client.gameLoaded (spawn.extended.map Prod.fst)
  obtain ⟨best, same⟩ := linkedBest_frame known now render
  rw [id, taken, linked, queue, ← id]
  exact ⟨object.trans best, counted.trans same, rfl⟩

/-- The factory is asked once more. -/
theorem again_asks (asks : ¬ client.Links record) :
    (client.handlePacket pages ⟨.entitySpawn record, now, render, clock⟩).registry = client.registry
      ∧ (client.handlePacket pages ⟨.entitySpawn record, now, render, clock⟩).pendingFor
          record.entityId = client.pendingFor record.entityId + 1 := by
  obtain ⟨spawn, id, owner, taken⟩ := again_spawns pages now render clock busy
  have waits : client.waiting spawn = client.findModCharacterBySlot record.ownerId := by
    unfold waiting
    rw [owner]
  obtain ⟨same, queue⟩ := client.spawnRemote_asks pages spawn now render (by
    rw [waits, id]
    rcases Decidable.em (client.findModCharacterBySlot record.ownerId = 0) with none | there
    · exact .inl none
    · exact .inr (not_or.mp (not_and.mp asks there)))
  have requested : (factoryRequest pages spawn).netId = record.entityId := by
    rw [← id]
    unfold factoryRequest
    cases spawn.extended <;> rfl
  rw [taken, same]
  rw [← id] at known
  refine ⟨client.registry.registerRemote_known known _ _ _, ?_⟩
  unfold pendingFor
  rw [queue, List.filter_append, List.length_append, List.filter_singleton, requested,
    decide_eq_true rfl]
  rfl

end Again

/-- **Announcing an entity again is harmless exactly in these cases.** Nobody looks for a character,
or the character found is the one the entity has; or, if only a *second* request counts as harm, the
factory is asked for the first time. -/
theorem spawnAgain_iff (pages : CodePages) (client : GameClient) (record : SpawnRecord)
    {info : EntityInfo} (known : client.registry.getInfo record.entityId = some info)
    (now render : F32) (clock : Nat → F32) :
    let after := client.handlePacket pages ⟨.entitySpawn record, now, render, clock⟩
    ((after.pendingFor record.entityId ≤ max 1 (client.pendingFor record.entityId)
          ∧ after.registry.getGameObject record.entityId
            = client.registry.getGameObject record.entityId
          ∧ after.registry.count = client.registry.count)
        ↔ client.Passes record ∨ client.Relinks record
          ∨ ¬ client.Links record ∧ client.pendingFor record.entityId = 0)
      ∧ ((after.pendingFor record.entityId = client.pendingFor record.entityId
          ∧ after.registry.getGameObject record.entityId
            = client.registry.getGameObject record.entityId
          ∧ after.registry.count = client.registry.count)
        ↔ client.Passes record ∨ client.Relinks record) := by
  intro after
  have passed (passes : client.Passes record) :
      after.registry = client.registry ∧ after.spawnQueue = client.spawnQueue :=
    again_passes pages now render clock known passes
  have linked (busy : ¬ client.Passes record) (links : client.Links record) :
      after.registry.getGameObject record.entityId = linkable (client.findModCharacterBySlot record.ownerId)
        ∧ after.registry.count = client.registry.count ∧ after.spawnQueue = client.spawnQueue :=
    again_links pages now render clock known busy links
  have asked (busy : ¬ client.Passes record) (asks : ¬ client.Links record) :
      after.registry = client.registry
        ∧ after.pendingFor record.entityId = client.pendingFor record.entityId + 1 :=
    again_asks pages now render clock known busy asks
  clear_value after
  have queued (same : after.spawnQueue = client.spawnQueue) :
      after.pendingFor record.entityId = client.pendingFor record.entityId := by
    unfold pendingFor
    rw [same]
  rcases Classical.em (client.Passes record) with passes | busy
  · obtain ⟨registry, queue⟩ := passed passes
    have counted := queued queue
    have object := congrArg (fun registry => registry.getGameObject record.entityId) registry
    have number := congrArg EntityRegistry.count registry
    exact ⟨iff_of_true ⟨counted ▸ le_max_right _ _, object, number⟩ (.inl passes),
      iff_of_true ⟨counted, object, number⟩ (.inl passes)⟩
  · rcases Classical.em (client.Links record) with links | asks
    · obtain ⟨object, number, queue⟩ := linked busy links
      have counted := queued queue
      constructor
      · rw [object]
        constructor
        · exact fun kept => .inr (.inl ⟨links, kept.2.1⟩)
        · rintro (passes | relinks | ⟨asks, -⟩)
          · exact absurd passes busy
          · exact ⟨counted ▸ le_max_right _ _, relinks.2, number⟩
          · exact absurd links asks
      · rw [object]
        constructor
        · exact fun kept => .inr ⟨links, kept.2.1⟩
        · rintro (passes | relinks)
          · exact absurd passes busy
          · exact ⟨counted, relinks.2, number⟩
    · obtain ⟨registry, counted⟩ := asked busy asks
      have object := congrArg (fun registry => registry.getGameObject record.entityId) registry
      have number := congrArg EntityRegistry.count registry
      rw [counted]
      constructor
      · constructor
        · rintro ⟨few, -, -⟩
          exact .inr (.inr ⟨asks, by omega⟩)
        · rintro (passes | relinks | ⟨-, none⟩)
          · exact absurd passes busy
          · exact absurd relinks.1 asks
          · exact ⟨by omega, object, number⟩
      · refine iff_of_false (fun kept => ?_) ?_
        · exact absurd kept.1 (Nat.succ_ne_self _)
        · rintro (passes | relinks)
          · exact busy passes
          · exact asks relinks.1

end GameClient

/-! ### The same zone twice -/

namespace GameClient

namespace Again

/-- The announcement of a character of the second player. -/
def told : SpawnRecord := GameServer.entityRecord { id := 5, owner := 2 }

/-- A client of the first player that has been told of it, with a character for it or without. -/
def watcher (linked : GameObject) (characters : List (Wire.Bytes × GameObject))
    (requests : List FactoryRequest) : GameClient where
  localPlayerId := 1
  gameLoaded := true
  clientPhase := .Connected
  registry := (({} : EntityRegistry).registerRemote 5 EntityType.NPC 2 {}).setGameObject 5 linked
  characters := characters
  spawnQueue := requests

def pages : CodePages := ⟨fun _ => [], fun _ => []⟩

def request : FactoryRequest where
  netId := 5
  owner := 2
  type := EntityType.NPC
  templateName := []
  position := {}
  rotation := {}
  templateId := 0
  factionId := 0

/-- The character that waits under the name of the second player. -/
def waiting : Wire.Bytes × GameObject := (Wire.ascii "Player 2", 0x10000)

def announced (client : GameClient) : GameClient :=
  client.handlePacket pages ⟨.entitySpawn told, lit 0 1, lit 0 1, fun _ => lit 0 1⟩

end Again

/-- The character of the owner is linked already, and stays. -/
theorem spawnAgain_linked :
    (Again.announced (Again.watcher 0x10000 [Again.waiting] [])).pendingFor 5
        = (Again.watcher 0x10000 [Again.waiting] []).pendingFor 5
      ∧ (Again.announced (Again.watcher 0x10000 [Again.waiting] [])).registry.getGameObject 5
        = (Again.watcher 0x10000 [Again.waiting] []).registry.getGameObject 5
      ∧ (Again.announced (Again.watcher 0x10000 [Again.waiting] [])).registry.count
        = (Again.watcher 0x10000 [Again.waiting] []).registry.count :=
  (spawnAgain_iff Again.pages (Again.watcher 0x10000 [Again.waiting] []) Again.told rfl
    (lit 0 1) (lit 0 1) fun _ => lit 0 1).2.mpr
    (.inr ⟨⟨by decide +kernel, .inr (by decide +kernel)⟩, by decide +kernel⟩)

/-- An entity that waits for the factory is asked for a second time; one that the factory has made is
asked for again; and one that the factory has made loses its body to a character that waits. -/
theorem spawnAgain_fails :
    (Again.announced (Again.watcher 0 [] [Again.request])).pendingFor 5 = 2
      ∧ (Again.announced (Again.watcher 0x20000 [] [])).pendingFor 5 = 1
      ∧ (Again.announced (Again.watcher 0x20000 [Again.waiting] [])).registry.getGameObject 5 ≠ 0x20000 := by
  refine ⟨?_, ?_, ?_⟩
  · exact (@again_asks (Again.watcher 0 [] [Again.request]) Again.told _ Again.pages
      (lit 0 1) (lit 0 1) (fun _ => lit 0 1) rfl
      (by unfold Passes; decide +kernel) (by unfold Links; decide +kernel)).2
  · exact (@again_asks (Again.watcher 0x20000 [] []) Again.told _ Again.pages
      (lit 0 1) (lit 0 1) (fun _ => lit 0 1) rfl
      (by unfold Passes; decide +kernel) (by unfold Links; decide +kernel)).2
  · have linked := (@again_links (Again.watcher 0x20000 [Again.waiting] []) Again.told _ Again.pages
      (lit 0 1) (lit 0 1) (fun _ => lit 0 1) rfl
      (by unfold Passes; decide +kernel) (by unfold Links; decide +kernel)).1
    intro same
    exact absurd (linked.symm.trans same) (by decide +kernel)

end GameClient

end KenshiMP
