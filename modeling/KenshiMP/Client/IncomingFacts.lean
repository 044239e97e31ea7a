/-
**What the packets of the server do to what a client holds.**

For each packet, what stays as it is (`SameGame`) and what becomes of the holdings of the registry:
a message about the world registers one entity or retracts some (`holdings_handleWorld`), an
announcement registers its entity, in time (`holdings_spawnRemote`) or from the queue
(`processAll_holdings`).
-/

import KenshiMP.Client.Holdings
import KenshiMP.Client.Incoming
import KenshiMP.DeferredSpawns

namespace KenshiMP

open Assoc

/-! ### What a packet is about -/

/-- The entities a message takes away, of their owner; the flag says whether they are remote. -/
def S2C.retracts (msg : S2C) (id : EntityID) (owner : PlayerID) (remote : Bool) : Bool :=
  match msg with
  | .entityDespawn entityId _ => id = entityId
  | .buildDestroyed buildingId _ => id = buildingId
  | .playerLeft playerId _ => owner = playerId
  | .entityHeartbeat _ entityCount ids => remote && id ∉ ids.take entityCount.toNat
  | _ => false

/-- The entity a message announces. -/
def S2C.announces (msg : S2C) (id : EntityID) : Bool :=
  match msg with
  | .entitySpawn record => record.entityId = id
  | .buildPlaced msg => msg.entityId = id
  | _ => false

/-- What a message about the world does to what a client holds. -/
def Holdings.world (holdings : Holdings) (msg : S2C) : Holdings :=
  match msg with
  | .buildPlaced msg => holdings.register msg.entityId msg.builderId
  | _ => holdings.retract msg.retracts

theorem Holdings.world_nothing (holdings : Holdings) {msg : S2C}
    (nothing : msg.retracts = fun _ _ _ => false) : holdings.retract msg.retracts = holdings := by
  rw [nothing]
  exact Holdings.retract_nothing (fun _ _ => rfl) fun _ _ _ => rfl

/-- The fields of an announcement are read back. -/
theorem readEntitySpawn_fixed (record : SpawnRecord) :
    ∃ spawn, readEntitySpawn (PacketReader.start record.write) = some spawn
      ∧ spawn.entityId = record.entityId ∧ spawn.ownerId = record.ownerId
      ∧ spawn.spawnPos = record.position := by
  have ahead : (PacketReader.start record.write).current = record.write := rfl
  unfold SpawnRecord.write at ahead
  rw [List.append_assoc] at ahead
  obtain ⟨fixed, read, -, -⟩ := PacketReader.readRaw_append GameServer.spawnRequest
    (PacketReader.start record.write) _ _ ahead
  unfold readEntitySpawn
  rw [read]
  exact ⟨_, rfl, rfl, rfl, rfl⟩

namespace GameClient

variable (client : GameClient)

def holdings : Holdings := client.registry.holdings

/-! ### What stays -/

/-- The player, the game and the queue are the same. -/
structure SameGame (client after : GameClient) : Prop where
  player : after.localPlayerId = client.localPlayerId
  loaded : after.gameLoaded = client.gameLoaded
  phase : after.clientPhase = client.clientPhase
  deferred : after.deferredSpawns = client.deferredSpawns

variable {client}

theorem SameGame.refl : SameGame client client := ⟨rfl, rfl, rfl, rfl⟩

theorem SameGame.trans {middle after : GameClient} (first : SameGame client middle)
    (second : SameGame middle after) : SameGame client after :=
  ⟨second.player.trans first.player, second.loaded.trans first.loaded,
    second.phase.trans first.phase, second.deferred.trans first.deferred⟩

theorem SameGame.ready {after : GameClient} (same : SameGame client after) : after.ready = client.ready := by
  unfold GameClient.ready
  rw [same.loaded, same.phase]

theorem sameGame_foldl {α : Type} {step : GameClient → α → GameClient}
    (same : ∀ client entry, SameGame client (step client entry)) (entries : List α) :
    SameGame client (entries.foldl step client) := by
  induction entries generalizing client with
  | nil => exact .refl
  | cons entry rest ih => exact (same client entry).trans ih

variable (client)

theorem introduce_sameGame (entityId : EntityID) (type : UInt8) (ownerId : PlayerID)
    (spawnPos : Vec3) (rot : Quat) (now : F32) :
    SameGame client (client.introduce entityId type ownerId spawnPos rot now) := by
  obtain ⟨interpolation, pendingSnapshots, introduced⟩ :=
    client.introduce_fields entityId type ownerId spawnPos rot now
  rw [introduced]
  exact ⟨rfl, rfl, rfl, rfl⟩

theorem spawnRemote_sameGame (pages : CodePages) (spawn : EntitySpawn) (now render : F32) :
    SameGame client (client.spawnRemote pages spawn now render) := by
  have noted : SameGame client (client.noteHostSpawnPoint spawn.spawnPos) := by
    unfold noteHostSpawnPoint
    split_ifs
    · exact ⟨rfl, rfl, rfl, rfl⟩
    · exact .refl
  refine (noted.trans (introduce_sameGame _ spawn.entityId spawn.type spawn.ownerId spawn.spawnPos
    (Quat.decompress spawn.compQuat) now)).trans ?_
  unfold spawnRemote
  simp only
  split_ifs
  · exact ⟨rfl, rfl, rfl, rfl⟩
  · exact ⟨rfl, rfl, rfl, rfl⟩

theorem processDeferredSpawn_sameGame (ds : DeferredSpawn) (now : F32) :
    SameGame client (client.processDeferredSpawn ds now) := by
  have introduced := client.introduce_sameGame ds.entityId ds.type ds.ownerId
    ⟨ds.posX, ds.posY, ds.posZ⟩ (Quat.decompress ds.compressedQuat) now
  unfold processDeferredSpawn
  simp only
  generalize client.introduce ds.entityId ds.type ds.ownerId ⟨ds.posX, ds.posY, ds.posZ⟩
    (Quat.decompress ds.compressedQuat) now = middle at introduced ⊢
  split_ifs
  · exact .refl
  · exact introduced.trans ⟨rfl, rfl, rfl, rfl⟩
  · exact introduced.trans ⟨rfl, rfl, rfl, rfl⟩
  · exact introduced.trans ⟨rfl, rfl, rfl, rfl⟩

theorem handlePosition_sameGame (sourcePlayer : PlayerID) (now : F32) (pos : CharacterPosition) :
    SameGame client (handlePosition sourcePlayer now client pos) := by
  unfold handlePosition
  simp only
  split_ifs
  · exact .refl
  · cases validateInboundSnapshot pos sourcePlayer client.localPlayerId client.registry <;>
      exact ⟨rfl, rfl, rfl, rfl⟩

theorem handleWorld_sameGame (arrival : Arrival) : SameGame client (client.handleWorld arrival) := by
  unfold handleWorld
  cases arrival.msg with
  | positionUpdate sourcePlayer count records =>
    exact sameGame_foldl (fun client => client.handlePosition_sameGame sourcePlayer arrival.now) _
  | combatHit msg =>
    show SameGame client (client.handleCombatHit msg)
    unfold handleCombatHit
    split_ifs
    · exact .refl
    · exact ⟨rfl, rfl, rfl, rfl⟩
    · exact .refl
  | combatDeath msg =>
    show SameGame client (client.handleCombatDeath msg)
    unfold handleCombatDeath
    split_ifs
    · exact .refl
    · exact ⟨rfl, rfl, rfl, rfl⟩
  | combatKO msg =>
    show SameGame client (client.handleCombatKO msg)
    unfold handleCombatKO
    split_ifs
    · exact .refl
    · exact ⟨rfl, rfl, rfl, rfl⟩
  | _ => exact ⟨rfl, rfl, rfl, rfl⟩

theorem linkLate_sameGame (entityId : EntityID) : SameGame client (client.linkLate entityId) := by
  unfold linkLate
  split_ifs
  · exact .refl
  · cases client.registry.getInfo entityId with
    | none => exact .refl
    | some info =>
      simp only
      split_ifs
      · exact ⟨rfl, rfl, rfl, rfl⟩
      · exact .refl

/-! ### What is held -/

/-- The records of a position packet do not register anything. -/
theorem handlePosition_registry (sourcePlayer : PlayerID) (now : F32) (pos : CharacterPosition) :
    (handlePosition sourcePlayer now client pos).registry = client.registry := by
  unfold handlePosition
  simp only
  split_ifs
  · rfl
  · cases validateInboundSnapshot pos sourcePlayer client.localPlayerId client.registry <;> rfl

theorem handlePositionUpdate_registry (sourcePlayer : PlayerID) (count : UInt8)
    (records : List CharacterPosition) (now : F32) :
    (client.handlePositionUpdate sourcePlayer count records now).registry = client.registry := by
  unfold handlePositionUpdate
  induction records.take count.toNat generalizing client with
  | nil => rfl
  | cons pos rest ih =>
    rw [List.foldl_cons, ih]
    exact client.handlePosition_registry sourcePlayer now pos

theorem holdings_setLimb (entityId : EntityID) (part : Fin 7) (health : F32) :
    (client.setLimb entityId part health).holdings = client.holdings :=
  client.registry.holdings_updateLimbs entityId fun limbs => Function.update limbs part health

theorem holdings_handleWorld (arrival : Arrival) :
    (client.handleWorld arrival).holdings = client.holdings.world arrival.msg := by
  unfold handleWorld Holdings.world
  cases arrival.msg with
  | playerLeft playerId reason => exact client.registry.holdings_unregister_player playerId
  | entityDespawn entityId reason =>
    show ((client.registry.setGameObject entityId 0).unregister entityId).holdings = _
    rw [EntityRegistry.holdings_unregister, EntityRegistry.holdings_setGameObject]
    rfl
  | buildDestroyed buildingId reason => exact client.registry.holdings_unregister buildingId
  | entityHeartbeat serverTick entityCount ids =>
    exact client.registry.holdings_unregister_remote fun id => id ∉ ids.take entityCount.toNat
  | buildPlaced msg =>
    exact client.registry.holdings_registerRemote msg.entityId EntityType.Building msg.builderId
      msg.position
  | positionUpdate sourcePlayer count records =>
    rw [Holdings.world_nothing _ rfl]
    exact congrArg EntityRegistry.holdings
      (client.handlePositionUpdate_registry sourcePlayer count records arrival.now)
  | combatHit msg =>
    rw [Holdings.world_nothing _ rfl]
    show (client.handleCombatHit msg).holdings = _
    unfold handleCombatHit
    split_ifs
    · rfl
    · exact client.holdings_setLimb _ _ _
    · rfl
  | combatDeath msg =>
    rw [Holdings.world_nothing _ rfl]
    show (client.handleCombatDeath msg).holdings = _
    unfold handleCombatDeath
    split_ifs
    · rfl
    · exact client.registry.holdings_updateLimbs msg.entityId fun _ _ => lit (-100) 1
  | combatKO msg =>
    rw [Holdings.world_nothing _ rfl]
    show (client.handleCombatKO msg).holdings = _
    unfold handleCombatKO
    split_ifs
    · rfl
    · exact client.holdings_setLimb _ _ _
  | limbHealth msg =>
    rw [Holdings.world_nothing _ rfl]
    exact client.registry.holdings_updateLimbs msg.entityId fun _ => msg.health
  | statusEffect msg =>
    rw [Holdings.world_nothing _ rfl]
    exact client.registry.holdings_update msg.entityId _ (fun _ => rfl) (fun _ => rfl)
      (fun _ _ => rfl)
  | _ => exact (Holdings.world_nothing _ rfl).symm

theorem introduce_registry (entityId : EntityID) (type : UInt8) (ownerId : PlayerID)
    (spawnPos : Vec3) (rot : Quat) (now : F32) :
    (client.introduce entityId type ownerId spawnPos rot now).registry
      = client.registry.registerRemote entityId type ownerId spawnPos := by
  obtain ⟨interpolation, pendingSnapshots, introduced⟩ :=
    client.introduce_fields entityId type ownerId spawnPos rot now
  rw [introduced]

/-- Linking, placing and healing what is not an own entity. -/
theorem holdings_linked (registry : EntityRegistry) {entityId : EntityID}
    (notOwn : ¬ registry.holdings.IsOwn entityId) (character : GameObject) (pos : Vec3) :
    ((registry.setGameObject entityId character).updatePosition entityId pos).holdings
      = registry.holdings := by
  rw [EntityRegistry.holdings_updatePosition, EntityRegistry.holdings_setGameObject]
  rwa [EntityRegistry.holdings_setGameObject]

theorem holdings_healed (registry : EntityRegistry) (entityId : EntityID) (loaded : Bool)
    (health : Option (Fin 7 → F32)) :
    (registry.healed entityId loaded health).holdings = registry.holdings := by
  unfold EntityRegistry.healed
  cases health with
  | none => rfl
  | some health =>
    simp only
    split_ifs
    · exact registry.holdings_updateLimbs entityId fun _ => health
    · rfl

/-- An announcement in time registers the entity. -/
theorem holdings_spawnRemote (pages : CodePages) (spawn : EntitySpawn) (now render : F32)
    (notOwn : ¬ client.holdings.IsOwn spawn.entityId) :
    (client.spawnRemote pages spawn now render).holdings
      = client.holdings.register spawn.entityId spawn.ownerId := by
  have registered : (client.registered spawn).holdings
      = client.holdings.register spawn.entityId spawn.ownerId :=
    client.registry.holdings_registerRemote _ _ _ _
  have notOwn' : ¬ (client.registered spawn).holdings.IsOwn spawn.entityId := by
    rw [registered]
    unfold Holdings.IsOwn
    rw [Holdings.own_register]
    exact notOwn
  have here : (client.linkedHere spawn).holdings = (client.registered spawn).holdings :=
    holdings_linked _ notOwn' _ _
  rw [← registered]
  by_cases free : client.waiting spawn ≠ 0 ∧ (client.registry.getNetId (client.waiting spawn) = 0
      ∨ client.registry.getNetId (client.waiting spawn) = spawn.entityId)
  · obtain ⟨linked, -⟩ := client.spawnRemote_links pages spawn now render free.1 free.2
    show (client.spawnRemote pages spawn now render).registry.holdings = _
    rw [linked, holdings_healed]
    unfold linkedBest
    cases client.bestPos spawn now render with
    | none => exact here
    | some best =>
      rw [EntityRegistry.holdings_updatePosition, here]
      rwa [here]
  · have taken : client.waiting spawn = 0 ∨ client.registry.getNetId (client.waiting spawn) ≠ 0
        ∧ client.registry.getNetId (client.waiting spawn) ≠ spawn.entityId := by
      rw [not_and_or, not_not, not_or] at free
      exact free
    obtain ⟨asked, -⟩ := client.spawnRemote_asks pages spawn now render taken
    exact congrArg EntityRegistry.holdings asked

/-- So does one that was queued. -/
theorem holdings_processDeferredSpawn (ds : DeferredSpawn) (now : F32)
    (other : ds.ownerId ≠ client.localPlayerId) (notOwn : ¬ client.holdings.IsOwn ds.entityId) :
    (client.processDeferredSpawn ds now).holdings = client.holdings.register ds.entityId ds.ownerId := by
  have introduced := client.introduce_registry ds.entityId ds.type ds.ownerId
    ⟨ds.posX, ds.posY, ds.posZ⟩ (Quat.decompress ds.compressedQuat) now
  unfold processDeferredSpawn
  rw [if_neg other]
  simp only
  generalize client.introduce ds.entityId ds.type ds.ownerId ⟨ds.posX, ds.posY, ds.posZ⟩
    (Quat.decompress ds.compressedQuat) now = middle at introduced ⊢
  have registered : middle.registry.holdings = client.holdings.register ds.entityId ds.ownerId := by
    rw [introduced]
    exact client.registry.holdings_registerRemote _ _ _ _
  have notOwn' : ¬ middle.registry.holdings.IsOwn ds.entityId := by
    rw [registered]
    unfold Holdings.IsOwn
    rw [Holdings.own_register]
    exact notOwn
  rw [← registered]
  by_cases free : (middle.findModCharacterBySlot ds.ownerId ≠ 0
      && middle.registry.getNetId (middle.findModCharacterBySlot ds.ownerId) = 0) = true
  · rw [if_pos (by exact free)]
    have linked := holdings_linked middle.registry notOwn'
      (middle.findModCharacterBySlot ds.ownerId) ⟨ds.posX, ds.posY, ds.posZ⟩
    cases ds.health with
    | none => exact linked
    | some health =>
      show (EntityRegistry.healed _ ds.entityId middle.gameLoaded (some health)).holdings = _
      rw [holdings_healed, linked]
  · rw [if_neg (by exact free)]
    rfl

/-! ### The queue -/

/-- The owner under which a queue registers an entity: the first one that it has. -/
def queuedOwner (spawns : List DeferredSpawn) (id : EntityID) : Option PlayerID :=
  (spawns.find? fun ds => ds.entityId = id).map DeferredSpawn.ownerId

/-- Nothing in the queue is, or is taken for, an own entity. -/
def Foreign (spawns : List DeferredSpawn) : Prop :=
  ∀ ds ∈ spawns, ds.ownerId ≠ client.localPlayerId ∧ ¬ client.holdings.IsOwn ds.entityId

theorem queuedOwner_cons (ds : DeferredSpawn) (rest : List DeferredSpawn) (id : EntityID) :
    queuedOwner (ds :: rest) id
      = if id = ds.entityId then some ds.ownerId else queuedOwner rest id := by
  unfold queuedOwner
  rw [List.find?_cons]
  by_cases here : ds.entityId = id
  · rw [decide_eq_true here, if_pos here.symm]
    rfl
  · rw [decide_eq_false here, if_neg (Ne.symm here)]

theorem queuedOwner_append (spawns : List DeferredSpawn) (ds : DeferredSpawn) (id : EntityID) :
    queuedOwner (spawns ++ [ds]) id
      = (queuedOwner spawns id).or (if id = ds.entityId then some ds.ownerId else none) := by
  induction spawns with
  | nil => rw [List.nil_append, queuedOwner_cons]; rfl
  | cons first rest ih =>
    rw [List.cons_append, queuedOwner_cons, queuedOwner_cons, ih]
    split_ifs <;> rfl

theorem queuedOwner_isSome {spawns : List DeferredSpawn} {ds : DeferredSpawn} (inside : ds ∈ spawns) :
    (queuedOwner spawns ds.entityId).isSome = true := by
  unfold queuedOwner
  rw [Option.isSome_map, List.find?_isSome]
  exact ⟨ds, inside, decide_eq_true rfl⟩

theorem queuedOwner_mem {spawns : List DeferredSpawn} {id : EntityID} {owner : PlayerID}
    (queued : queuedOwner spawns id = some owner) :
    ∃ ds ∈ spawns, ds.entityId = id ∧ ds.ownerId = owner := by
  obtain ⟨ds, found, rfl⟩ := Option.map_eq_some_iff.mp queued
  have here : decide (ds.entityId = id) = true := by
    simpa using List.find?_some found
  exact ⟨ds, List.mem_of_find?_eq_some found, of_decide_eq_true here, rfl⟩

/-- Processing a queue: every entity that is not known is registered under its first owner. -/
theorem processEntries (clock : Nat → F32) (entries : List (DeferredSpawn × Nat))
    (foreign : client.Foreign (entries.map Prod.fst)) :
    let after := entries.foldl
      (fun client entry => client.processDeferredSpawn entry.1 (clock entry.2)) client
    after.holdings.own = client.holdings.own
      ∧ ∀ id, after.holdings.remote id
        = (client.holdings.remote id).or (queuedOwner (entries.map Prod.fst) id) := by
  induction entries generalizing client with
  | nil => exact ⟨rfl, fun id => (Option.or_none).symm⟩
  | cons entry rest ih =>
    obtain ⟨other, notOwn⟩ := foreign entry.1 List.mem_cons_self
    have same := client.processDeferredSpawn_sameGame entry.1 (clock entry.2)
    have registered := client.holdings_processDeferredSpawn entry.1 (clock entry.2) other notOwn
    have foreign' : (client.processDeferredSpawn entry.1 (clock entry.2)).Foreign (rest.map Prod.fst) := by
      intro ds inside
      obtain ⟨other', notOwn'⟩ := foreign ds (List.mem_cons_of_mem _ inside)
      refine ⟨same.player ▸ other', ?_⟩
      rw [registered]
      unfold Holdings.IsOwn
      rw [Holdings.own_register]
      exact notOwn'
    obtain ⟨own, remote⟩ := ih _ foreign'
    refine ⟨?_, fun id => ?_⟩
    · rw [List.foldl_cons, own, registered, Holdings.own_register]
    · rw [List.foldl_cons, remote, registered, Holdings.remote_register _ _ _ _ notOwn,
        List.map_cons, queuedOwner_cons]
      by_cases here : id = entry.1.entityId
      · rw [if_pos here, if_pos here, here, Option.or_assoc]
        rfl
      · rw [if_neg here, if_neg here]

/-- What a client has of the other players, once its queue is processed. -/
def willHold (id : EntityID) : Option PlayerID :=
  (client.holdings.remote id).or (queuedOwner client.deferredSpawns id)

theorem processAll_holdings (clock : Nat → F32) (foreign : client.Foreign client.deferredSpawns) :
    (client.processAll clock).holdings.own = client.holdings.own
      ∧ ∀ id, (client.processAll clock).holdings.remote id = client.willHold id := by
  have entries : client.deferredSpawns.zipIdx.map Prod.fst = client.deferredSpawns :=
    List.zipIdx_map_fst 0 client.deferredSpawns
  have processed := client.processEntries clock client.deferredSpawns.zipIdx (by
    rw [entries]
    exact foreign)
  rw [entries] at processed
  exact processed

theorem processAll_sameGame (clock : Nat → F32) :
    (client.processAll clock).localPlayerId = client.localPlayerId
      ∧ (client.processAll clock).ready = client.ready :=
  foldl_kept client clock client.deferredSpawns.zipIdx

theorem takeUp_queue (pages : CodePages) (spawn : EntitySpawn) (now render : F32) :
    (client.takeUp pages spawn now render).gameLoaded = client.gameLoaded
      ∧ (client.takeUp pages spawn now render).clientPhase = client.clientPhase
      ∧ (client.ready = true →
        (client.takeUp pages spawn now render).deferredSpawns = client.deferredSpawns) := by
  unfold takeUp
  by_cases own : spawn.ownerId = client.localPlayerId
  · rw [if_pos own]
    exact ⟨rfl, rfl, fun _ => rfl⟩
  · rw [if_neg own]
    by_cases ready : client.ready = true
    · rw [if_neg (by rw [ready]; decide)]
      have same := client.spawnRemote_sameGame pages spawn now render
      exact ⟨same.loaded, same.phase, fun _ => same.deferred⟩
    · rw [if_pos (by rw [Bool.not_eq_true _ |>.mp ready]; rfl)]
      exact ⟨rfl, rfl, fun yes => absurd yes ready⟩

/-- Only the answers to a handshake write the phase, and none writes whether the game has loaded. -/
theorem handlePacket_phase (pages : CodePages) (arrival : Arrival) :
    (client.handlePacket pages arrival).gameLoaded = client.gameLoaded
      ∧ (client.handlePacket pages arrival).clientPhase
        = match arrival.msg with
          | .handshakeAck _ => .Connected
          | .handshakeReject _ _ => if client.gameLoaded then .GameReady else client.clientPhase
          | _ => client.clientPhase := by
  obtain ⟨msg, now, render, clock⟩ := arrival
  have world : client.SameGame
      (if client.gameLoaded then client.handleWorld ⟨msg, now, render, clock⟩ else client) := by
    split_ifs
    · exact client.handleWorld_sameGame _
    · exact .refl
  cases msg with
  | handshakeAck ack => exact ⟨rfl, rfl⟩
  | handshakeReject code text =>
    have step : client.handlePacket pages ⟨.handshakeReject code text, now, render, clock⟩
        = client.handleHandshakeReject := rfl
    rw [step]
    unfold handleHandshakeReject
    split_ifs <;> exact ⟨rfl, rfl⟩
  | playerJoined playerId playerName =>
    obtain ⟨names, joined⟩ := client.handlePlayerJoined_eq playerId playerName
    have step : client.handlePacket pages ⟨.playerJoined playerId playerName, now, render, clock⟩
        = { client with remotePlayers := names } := joined
    rw [step]
    exact ⟨rfl, rfl⟩
  | allPlayersReady =>
    have each : client.SameGame (client.processEach clock client.deferredSpawns) :=
      sameGame_foldl (fun client (entry : DeferredSpawn × Nat) =>
        client.processDeferredSpawn_sameGame entry.1 (clock entry.2)) _
    exact ⟨each.loaded, each.phase⟩
  | entitySpawn record =>
    have step : client.handlePacket pages ⟨.entitySpawn record, now, render, clock⟩
        = client.handleEntitySpawn pages (PacketReader.start record.write) now render := rfl
    rw [step]
    unfold handleEntitySpawn
    obtain ⟨spawn, read, -⟩ := readEntitySpawn_fixed record
    rw [read]
    obtain ⟨loaded, phase, -⟩ := client.takeUp_queue pages spawn now render
    exact ⟨loaded, phase⟩
  | _ => exact ⟨world.loaded, world.phase⟩

end GameClient

end KenshiMP
