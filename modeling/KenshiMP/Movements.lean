/-
**Which movements reach the interpolation, and what the registry says of them at that moment.**

Three paths lead a snapshot of a movement into the interpolation: a record of a position packet, which
is validated; a record that waited for its entity to be announced, which was validated before the
entity was known and is not again; and a move command, which is not validated at all and is dated a
second ahead. `packetOps` lists what a packet does to the interpolation, in order
(`packetOps_interpolation`), and its additions carry the registry of their moment.

`movements_validated`: in a run every addition is valid exactly if each packet meets `Fitting`, which
asks nothing of a position packet. `movements_fail` has a run for each of the other two paths.
-/

import KenshiMP.Client.Connection
import KenshiMP.Client.IncomingFacts

namespace KenshiMP

open Wire (Bytes)
open Assoc

/-! ### What a packet does to the interpolation -/

/-- A snapshot of a movement, with what holds when it is added. -/
structure Addition where
  entityId : EntityID
  timestamp : F32
  pos : Vec3
  rot : Quat
  /-- the record and the player of its packet; a command has none -/
  record : Option (CharacterPosition × PlayerID)
  registry : EntityRegistry
  localPlayerId : PlayerID
  now : F32

inductive InterpOp where
  | add (addition : Addition)
  /-- where an entity is announced -/
  | place (entityId : EntityID) (now : F32) (pos : Vec3) (rot : Quat)
  | remove (entityId : EntityID)
  | read (entityId : EntityID) (render : F32)

def InterpOp.apply (interp : Interpolation) : InterpOp → Interpolation
  | .add addition =>
    interp.addSnapshot addition.entityId addition.timestamp addition.pos addition.rot
  | .place entityId now pos rot => interp.addSnapshot entityId now pos rot
  | .remove entityId => interp.removeEntity entityId
  | .read entityId render => (interp.getInterpolated entityId render).2

/-- What is not finite is not added. -/
def InterpOp.addition : InterpOp → Option Addition
  | .add addition =>
    if addition.pos.isFinite && addition.rot.isFinite then some addition else none
  | _ => none

def CharacterPosition.position (pos : CharacterPosition) : Vec3 := ⟨pos.posX, pos.posY, pos.posZ⟩

namespace GameClient

variable (client : GameClient)

/-- What a position record adds, with the state it meets. -/
def recordAddition (pos : CharacterPosition) (sourcePlayer : PlayerID) (timestamp now : F32) : Addition where
  entityId := pos.entityId
  timestamp := timestamp
  pos := pos.position
  rot := Quat.decompress pos.compressedQuat
  record := some (pos, sourcePlayer)
  registry := client.registry
  localPlayerId := client.localPlayerId
  now := now

/-- What a move command adds: a place, one second ahead. -/
def commandAddition (msg : MsgMoveCommand) (now : F32) : Addition where
  entityId := msg.entityId
  timestamp := now.add (lit 1 1)
  pos := ⟨msg.targetX, msg.targetY, msg.targetZ⟩
  rot := {}
  record := none
  registry := client.registry
  localPlayerId := client.localPlayerId
  now := now

/-- The records of a packet, one after the other; what is not validated adds nothing. -/
def positionOps (sourcePlayer : PlayerID) (now : F32) : List CharacterPosition → GameClient → List InterpOp
  | [], _ => []
  | pos :: rest, client =>
    (if pos.position.isFinite && validateInboundSnapshot pos sourcePlayer client.localPlayerId
        client.registry = .ApplyRemote then
      [.add (client.recordAddition pos sourcePlayer now now)]
    else []) ++ positionOps sourcePlayer now rest (handlePosition sourcePlayer now client pos)

/-- The positions that have waited for the entity. -/
def flushOps (entityId : EntityID) (now : F32) : List InterpOp :=
  ((client.pendingSnapshots.lookup entityId).getD []).map fun snapshot =>
    .add (client.recordAddition snapshot.position snapshot.sourcePlayerId snapshot.timestamp now)

/-- The registration comes first. -/
def introduceOps (entityId : EntityID) (type : UInt8) (ownerId : PlayerID) (spawnPos : Vec3)
    (rot : Quat) (now : F32) : List InterpOp :=
  (client.withRegistry (client.registry.registerRemote entityId type ownerId spawnPos)).flushOps
    entityId now ++ [.place entityId now spawnPos rot]

def spawnOps (spawn : EntitySpawn) (now render : F32) : List InterpOp :=
  let noted := client.noteHostSpawnPoint spawn.spawnPos
  let introduced := noted.introduce spawn.entityId spawn.type spawn.ownerId spawn.spawnPos
    (Quat.decompress spawn.compQuat) now
  noted.introduceOps spawn.entityId spawn.type spawn.ownerId spawn.spawnPos
      (Quat.decompress spawn.compQuat) now
    ++ if introduced.existingChar spawn.entityId spawn.ownerId ≠ 0 then [.read spawn.entityId render]
      else []

def takeUpOps (spawn : EntitySpawn) (now render : F32) : List InterpOp :=
  if spawn.ownerId = client.localPlayerId ∨ client.ready = false then []
  else client.spawnOps spawn now render

def deferredOps (clock : Nat → F32) : List (DeferredSpawn × Nat) → GameClient → List InterpOp
  | [], _ => []
  | (ds, index) :: rest, client =>
    (if ds.ownerId = client.localPlayerId then []
      else client.introduceOps ds.entityId ds.type ds.ownerId ⟨ds.posX, ds.posY, ds.posZ⟩
        (Quat.decompress ds.compressedQuat) (clock index))
      ++ deferredOps clock rest (client.processDeferredSpawn ds (clock index))

def worldOps (arrival : Arrival) : List InterpOp :=
  match arrival.msg with
  | .playerLeft playerId _ => (client.registry.getPlayerEntities playerId).map .remove
  | .entityDespawn entityId _ => [.remove entityId]
  | .positionUpdate sourcePlayer count records =>
    positionOps sourcePlayer arrival.now (records.take count.toNat) client
  | .moveCommand msg => [.add (client.commandAddition msg arrival.now)]
  | .entityHeartbeat _ entityCount ids =>
    (client.registry.getRemoteEntities.filter fun localId =>
      localId ∉ ids.take entityCount.toNat).map .remove
  | _ => []

/-- What a packet does to the interpolation, in order. -/
def packetOps (arrival : Arrival) : List InterpOp :=
  match arrival.msg with
  | .handshakeAck _ => []
  | .handshakeReject _ _ => []
  | .allPlayersReady => deferredOps arrival.clock client.deferredSpawns.zipIdx client
  | .entitySpawn record =>
    match readEntitySpawn (PacketReader.start record.write) with
    | none => []
    | some spawn => client.takeUpOps spawn arrival.now arrival.render
  | _ => if client.gameLoaded then client.worldOps arrival else []

theorem foldl_remove (ids : List EntityID) (interp : Interpolation) :
    (ids.map InterpOp.remove).foldl InterpOp.apply interp = ids.foldl Interpolation.removeEntity interp := by
  rw [List.foldl_map]
  rfl

/-- The operations do what the code does. -/
theorem positionOps_interpolation (sourcePlayer : PlayerID) (now : F32)
    (records : List CharacterPosition) :
    (records.foldl (handlePosition sourcePlayer now) client).interpolation
      = (positionOps sourcePlayer now records client).foldl InterpOp.apply client.interpolation := by
  induction records generalizing client with
  | nil => rfl
  | cons pos rest ih =>
    rw [List.foldl_cons, ih]
    simp only [positionOps, List.foldl_append]
    congr 1
    unfold handlePosition CharacterPosition.position
    simp only
    by_cases finite : Vec3.isFinite ⟨pos.posX, pos.posY, pos.posZ⟩ = true
    · rw [finite]
      cases validateInboundSnapshot pos sourcePlayer client.localPlayerId client.registry <;> rfl
    · rw [Bool.not_eq_true _ |>.mp finite]
      rfl

theorem introduceOps_interpolation (entityId : EntityID) (type : UInt8) (ownerId : PlayerID)
    (spawnPos : Vec3) (rot : Quat) (now : F32) :
    (client.introduce entityId type ownerId spawnPos rot now).interpolation
      = (client.introduceOps entityId type ownerId spawnPos rot now).foldl InterpOp.apply
        client.interpolation := by
  unfold introduceOps introduce flushForEntity flushOps
  rw [List.foldl_append, List.foldl_map]
  simp only [withRegistry]
  cases client.pendingSnapshots.lookup entityId <;> rfl

theorem noteHostSpawnPoint_interpolation (spawnPos : Vec3) :
    (client.noteHostSpawnPoint spawnPos).interpolation = client.interpolation := by
  unfold noteHostSpawnPoint
  split_ifs <;> rfl

theorem spawnOps_interpolation (pages : CodePages) (spawn : EntitySpawn) (now render : F32) :
    (client.spawnRemote pages spawn now render).interpolation
      = (client.spawnOps spawn now render).foldl InterpOp.apply client.interpolation := by
  have introduced := (client.noteHostSpawnPoint spawn.spawnPos).introduceOps_interpolation
    spawn.entityId spawn.type spawn.ownerId spawn.spawnPos (Quat.decompress spawn.compQuat) now
  rw [noteHostSpawnPoint_interpolation] at introduced
  unfold spawnRemote spawnOps
  simp only
  rw [List.foldl_append, ← introduced]
  split_ifs
  · rfl
  · rfl

theorem deferredOps_interpolation (clock : Nat → F32) (entries : List (DeferredSpawn × Nat)) :
    (entries.foldl (fun client entry => client.processDeferredSpawn entry.1 (clock entry.2))
        client).interpolation
      = (deferredOps clock entries client).foldl InterpOp.apply client.interpolation := by
  induction entries generalizing client with
  | nil => rfl
  | cons entry rest ih =>
    obtain ⟨ds, index⟩ := entry
    rw [List.foldl_cons, ih]
    simp only [deferredOps, List.foldl_append]
    congr 1
    unfold processDeferredSpawn
    simp only
    by_cases own : ds.ownerId = client.localPlayerId
    · rw [if_pos own, if_pos own]
      rfl
    · rw [if_neg own, if_neg own, ← introduceOps_interpolation]
      split_ifs <;> rfl

theorem worldOps_interpolation (arrival : Arrival) :
    (client.handleWorld arrival).interpolation
      = (client.worldOps arrival).foldl InterpOp.apply client.interpolation := by
  unfold handleWorld worldOps
  cases arrival.msg with
  | playerLeft playerId reason => exact (foldl_remove _ _).symm
  | entityHeartbeat serverTick entityCount ids => exact (foldl_remove _ _).symm
  | positionUpdate sourcePlayer count records =>
    exact client.positionOps_interpolation sourcePlayer arrival.now _
  | combatHit msg =>
    show (client.handleCombatHit msg).interpolation = client.interpolation
    unfold handleCombatHit
    split_ifs <;> rfl
  | combatDeath msg =>
    show (client.handleCombatDeath msg).interpolation = client.interpolation
    unfold handleCombatDeath
    split_ifs <;> rfl
  | combatKO msg =>
    show (client.handleCombatKO msg).interpolation = client.interpolation
    unfold handleCombatKO
    split_ifs <;> rfl
  | _ => rfl

theorem takeUpOps_interpolation (pages : CodePages) (spawn : EntitySpawn) (now render : F32) :
    (client.takeUp pages spawn now render).interpolation
      = (client.takeUpOps spawn now render).foldl InterpOp.apply client.interpolation := by
  unfold takeUp takeUpOps
  by_cases own : spawn.ownerId = client.localPlayerId
  · rw [if_pos own, if_pos (.inl own)]
    rfl
  · rw [if_neg own]
    by_cases ready : client.ready = true
    · rw [ready, if_neg (by simp), if_neg (by simp [own])]
      exact client.spawnOps_interpolation pages spawn now render
    · rw [Bool.not_eq_true _ |>.mp ready, if_pos (by rfl), if_pos (.inr rfl)]
      rfl

/-- **Nothing else happens to the interpolation.** -/
theorem packetOps_interpolation (pages : CodePages) (arrival : Arrival) :
    (client.handlePacket pages arrival).interpolation
      = (client.packetOps arrival).foldl InterpOp.apply client.interpolation := by
  have world : (if client.gameLoaded then client.handleWorld arrival else client).interpolation
      = (if client.gameLoaded then client.worldOps arrival else []).foldl InterpOp.apply
        client.interpolation := by
    split_ifs
    · exact client.worldOps_interpolation arrival
    · rfl
  unfold handlePacket packetOps
  cases found : arrival.msg with
  | handshakeAck ack => rfl
  | handshakeReject code text =>
    show client.handleHandshakeReject.interpolation = client.interpolation
    unfold handleHandshakeReject
    split_ifs <;> rfl
  | playerJoined playerId playerName =>
    obtain ⟨names, joined⟩ := client.handlePlayerJoined_eq playerId playerName
    show (client.handlePlayerJoined playerId playerName).interpolation = _
    rw [joined]
    split_ifs
    · unfold worldOps
      rw [found]
      rfl
    · rfl
  | allPlayersReady =>
    exact client.deferredOps_interpolation arrival.clock client.deferredSpawns.zipIdx
  | entitySpawn record =>
    show (client.handleEntitySpawn pages _ arrival.now arrival.render).interpolation = _
    unfold handleEntitySpawn
    simp only
    cases readEntitySpawn (PacketReader.start record.write) with
    | none => rfl
    | some spawn => exact client.takeUpOps_interpolation pages spawn arrival.now arrival.render
  | _ => exact world

end GameClient

/-! ### What a movement has to be -/

namespace Addition

variable (addition : Addition)

/-- The entity is there, it is another client's, and it is in the game or on its way; a record is of
its generation and from its owner, as the validation wants it; and the date is not in the future. -/
def Valid : Prop :=
  (∃ info, addition.registry.getInfo addition.entityId = some info ∧ info.isRemote = true
    ∧ (info.state = .Spawning ∨ info.state = .Active)
    ∧ ∀ pos sourcePlayer, addition.record = some (pos, sourcePlayer) →
      info.generation = pos.generation ∧ info.ownerPlayerId = sourcePlayer
        ∧ validateInboundSnapshot pos sourcePlayer addition.localPlayerId addition.registry
          = .ApplyRemote)
    ∧ addition.now.lt addition.timestamp = false

end Addition

theorem validateInboundSnapshot_iff {pos : CharacterPosition} {sourcePlayer me : PlayerID}
    {registry : EntityRegistry} :
    validateInboundSnapshot pos sourcePlayer me registry = .ApplyRemote
      ↔ ∃ info, registry.getInfo pos.entityId = some info ∧ info.generation = pos.generation
        ∧ info.state ≠ .Inactive ∧ info.ownerPlayerId ≠ me ∧ info.ownerPlayerId = sourcePlayer
        ∧ info.isRemote = true := by
  cases known : registry.getInfo pos.entityId with
  | none =>
    unfold validateInboundSnapshot
    rw [known]
    simp
  | some info =>
    have stored : registry.entities.lookup pos.entityId = some info := known
    have owner : registry.getOwnerPlayerId pos.entityId = info.ownerPlayerId := by
      unfold EntityRegistry.getOwnerPlayerId
      rw [stored]
      rfl
    have remote : registry.isRemote pos.entityId = info.isRemote := by
      unfold EntityRegistry.isRemote
      rw [stored]
      rfl
    unfold validateInboundSnapshot
    rw [known]
    simp only [owner, remote, Option.some.injEq, exists_eq_left']
    split_ifs with stale inactive mine foreign here <;> simp_all

/-- A record of a known entity in the game is valid exactly if it is of its generation, from its owner,
who is another player, and not dated ahead. -/
theorem recordAddition_valid_iff {client : GameClient}
    (present : client.registry.All fun info => info.state = .Spawning ∨ info.state = .Active)
    (pos : CharacterPosition) (sourcePlayer : PlayerID) (timestamp now : F32) :
    (client.recordAddition pos sourcePlayer timestamp now).Valid
      ↔ (∃ info, client.registry.getInfo pos.entityId = some info
          ∧ info.generation = pos.generation ∧ info.ownerPlayerId ≠ client.localPlayerId
          ∧ info.ownerPlayerId = sourcePlayer ∧ info.isRemote = true)
        ∧ now.lt timestamp = false := by
  refine and_congr_left fun _ => ?_
  constructor
  · rintro ⟨info, known, remote, -, record⟩
    obtain ⟨generation, owner, applied⟩ := record pos sourcePlayer rfl
    obtain ⟨info', known', -, -, other, -, -⟩ := validateInboundSnapshot_iff.mp applied
    cases known.symm.trans known'
    exact ⟨info, known, generation, other, owner, remote⟩
  · rintro ⟨info, known, generation, other, owner, remote⟩
    have state := present _ info known
    refine ⟨info, known, remote, state, ?_⟩
    rintro pos' sourcePlayer' same
    cases same
    refine ⟨generation, owner, validateInboundSnapshot_iff.mpr
      ⟨info, known, generation, ?_, other, owner, remote⟩⟩
    rcases state with state | state <;> rw [state] <;> decide

/-! ### What the registry becomes -/

namespace EntityRegistry

/-- Whatever lasts lasts. -/
def Becomes (before after : EntityRegistry) : Prop :=
  ∀ holds, Lasting holds → All holds before → All holds after

variable {before middle after : EntityRegistry}

theorem Becomes.refl : Becomes before before := fun _ _ all => all

theorem Becomes.trans (first : Becomes before middle) (second : Becomes middle after) :
    Becomes before after :=
  fun holds lasting all => second holds lasting (first holds lasting all)

theorem Becomes.op (op : RegistryOp) : Becomes before (op.apply before) :=
  fun _ lasting all => all.op lasting op

/-- The health of an entity. -/
theorem Becomes.limbs (entityId : EntityID) (f : (Fin 7 → F32) → Fin 7 → F32) :
    Becomes before (before.update entityId fun info => { info with limbs := f info.limbs }) :=
  fun _ lasting all => all.update
    (fun info holds => by exact lasting.changed info _ holds rfl (.inl rfl)) entityId before.ptrToId

theorem Becomes.unregisterAll (ids : List EntityID) : Becomes before (before.unregisterAll ids) := by
  induction ids generalizing before with
  | nil => exact .refl
  | cons id rest ih => exact (Becomes.op (.unregister id)).trans ih

theorem Becomes.confirm (entityId : EntityID) (pos : Vec3) (owner : PlayerID) :
    Becomes before (before.confirm entityId pos owner) := by
  unfold EntityRegistry.confirm
  simp only
  split_ifs
  · exact .op (.remapEntityId _ _)
  · exact .refl

theorem Becomes.linked (entityId : EntityID) (character : GameObject) (pos : Vec3) :
    Becomes before ((before.setGameObject entityId character).updatePosition entityId pos) :=
  (Becomes.op (.setGameObject entityId character)).trans (.op (.updatePosition entityId pos))

end EntityRegistry

open EntityRegistry

namespace GameClient

variable (client : GameClient)

/-- The parts of a packet change the registry by its operations only. -/
theorem introduce_becomes (entityId : EntityID) (type : UInt8) (ownerId : PlayerID) (spawnPos : Vec3)
    (rot : Quat) (now : F32) :
    Becomes client.registry (client.introduce entityId type ownerId spawnPos rot now).registry := by
  rw [introduce_registry]
  exact .op (.registerRemote entityId type ownerId spawnPos)

theorem noteHostSpawnPoint_registry (spawnPos : Vec3) :
    (client.noteHostSpawnPoint spawnPos).registry = client.registry := by
  unfold noteHostSpawnPoint
  split_ifs <;> rfl

theorem linkExisting_becomes (spawn : EntitySpawn) (existing : GameObject) (render : F32) :
    Becomes client.registry (client.linkExisting spawn existing render).registry := by
  have linked : Becomes client.registry
      ((client.registry.setGameObject spawn.entityId existing).updatePosition spawn.entityId
        spawn.spawnPos) := .linked spawn.entityId existing spawn.spawnPos
  unfold linkExisting
  rcases client.interpolation.getInterpolated spawn.entityId render with ⟨_ | best, interpolation⟩
  · rcases spawn.extended with _ | ⟨health, alive⟩
    · exact linked
    · simp only
      split_ifs
      · exact linked.trans (.op (.updateLimbHealth spawn.entityId health))
      · exact linked
  · have placed := linked.trans (.op (.updatePosition spawn.entityId best))
    rcases spawn.extended with _ | ⟨health, alive⟩
    · exact placed
    · simp only
      split_ifs
      · exact placed.trans (.op (.updateLimbHealth spawn.entityId health))
      · exact placed

theorem takeUp_becomes (pages : CodePages) (spawn : EntitySpawn) (now render : F32) :
    Becomes client.registry (client.takeUp pages spawn now render).registry := by
  unfold takeUp
  split_ifs
  · exact .confirm spawn.entityId spawn.spawnPos spawn.ownerId
  · exact .refl
  · have introduced := (client.noteHostSpawnPoint spawn.spawnPos).introduce_becomes spawn.entityId
      spawn.type spawn.ownerId spawn.spawnPos (Quat.decompress spawn.compQuat) now
    rw [noteHostSpawnPoint_registry] at introduced
    unfold spawnRemote
    simp only
    split_ifs
    · exact introduced.trans (linkExisting_becomes _ spawn _ render)
    · exact introduced

theorem processDeferredSpawn_becomes (ds : DeferredSpawn) (now : F32) :
    Becomes client.registry (client.processDeferredSpawn ds now).registry := by
  have introduced := client.introduce_becomes ds.entityId ds.type ds.ownerId
    ⟨ds.posX, ds.posY, ds.posZ⟩ (Quat.decompress ds.compressedQuat) now
  have linked (object : GameObject) :=
    introduced.trans (.linked ds.entityId object ⟨ds.posX, ds.posY, ds.posZ⟩)
  unfold processDeferredSpawn
  simp only
  split_ifs
  · exact .refl
  · cases ds.health with
    | none => exact linked _
    | some health => exact (linked _).trans (.op (.updateLimbHealth ds.entityId health))
  · cases ds.health with
    | none => exact linked _
    | some health => exact linked _
  · exact introduced

theorem handleWorld_becomes (arrival : Arrival) :
    Becomes client.registry (client.handleWorld arrival).registry := by
  unfold handleWorld
  cases arrival.msg with
  | playerLeft playerId reason => exact .unregisterAll _
  | entityDespawn entityId reason =>
    exact (Becomes.op (.setGameObject entityId 0)).trans (.op (.unregister entityId))
  | entityHeartbeat serverTick entityCount ids => exact .unregisterAll _
  | buildPlaced msg => exact .op (.registerRemote msg.entityId EntityType.Building msg.builderId msg.position)
  | buildDestroyed buildingId reason => exact .op (.unregister buildingId)
  | limbHealth msg => exact .op (.updateLimbHealth msg.entityId msg.health)
  | statusEffect msg => exact .op (.updateStatusEffect msg.entityId msg.effectType (msg.active ≠ 0))
  | positionUpdate sourcePlayer count records =>
    show Becomes client.registry (client.handlePositionUpdate sourcePlayer count records arrival.now).registry
    rw [handlePositionUpdate_registry]
    exact .refl
  | combatHit msg =>
    show Becomes client.registry (client.handleCombatHit msg).registry
    unfold handleCombatHit
    split_ifs with part
    · exact .refl
    · exact .limbs msg.targetId fun limbs =>
        Function.update limbs ⟨msg.bodyPart.toNat, part⟩ msg.resultHealth
    · exact .refl
  | combatDeath msg =>
    show Becomes client.registry (client.handleCombatDeath msg).registry
    unfold handleCombatDeath
    split_ifs
    · exact .refl
    · exact .op (.updateLimbHealth msg.entityId _)
  | combatKO msg =>
    show Becomes client.registry (client.handleCombatKO msg).registry
    unfold handleCombatKO
    split_ifs
    · exact .refl
    · exact .limbs msg.entityId fun limbs => Function.update limbs BodyPart.Chest msg.resultHealth
  | _ => exact .refl

theorem processEach_becomes (clock : Nat → F32) (entries : List (DeferredSpawn × Nat)) :
    Becomes client.registry (entries.foldl (fun client entry =>
      client.processDeferredSpawn entry.1 (clock entry.2)) client).registry := by
  induction entries generalizing client with
  | nil => exact .refl
  | cons entry rest ih =>
    exact (client.processDeferredSpawn_becomes entry.1 (clock entry.2)).trans (ih _)

theorem handlePacket_becomes (pages : CodePages) (arrival : Arrival) :
    Becomes client.registry (client.handlePacket pages arrival).registry := by
  have world : Becomes client.registry
      (if client.gameLoaded then client.handleWorld arrival else client).registry := by
    split_ifs
    · exact client.handleWorld_becomes arrival
    · exact .refl
  unfold handlePacket
  cases arrival.msg with
  | handshakeAck ack => exact .refl
  | handshakeReject code text =>
    show Becomes client.registry client.handleHandshakeReject.registry
    unfold handleHandshakeReject
    split_ifs <;> exact .refl
  | playerJoined playerId playerName =>
    obtain ⟨names, joined⟩ := client.handlePlayerJoined_eq playerId playerName
    show Becomes client.registry (client.handlePlayerJoined playerId playerName).registry
    rw [joined]
    exact .refl
  | allPlayersReady => exact client.processEach_becomes arrival.clock client.deferredSpawns.zipIdx
  | entitySpawn record =>
    show Becomes client.registry (client.handleEntitySpawn pages _ arrival.now arrival.render).registry
    unfold handleEntitySpawn
    cases readEntitySpawn (PacketReader.start record.write) with
    | none => exact .refl
    | some spawn => exact client.takeUp_becomes pages spawn arrival.now arrival.render
  | _ => exact world

/-! ### What waits -/

/-- What waits for an entity is about that entity. -/
def Keyed : Prop :=
  ∀ id snapshots, client.pendingSnapshots.lookup id = some snapshots →
    ∀ snapshot ∈ snapshots, snapshot.position.entityId = id

variable {client}

theorem Keyed.handlePosition (keyed : client.Keyed) (sourcePlayer : PlayerID) (now : F32)
    (pos : CharacterPosition) : (handlePosition sourcePlayer now client pos).Keyed := by
  unfold GameClient.handlePosition
  simp only
  split_ifs
  · exact keyed
  · cases validateInboundSnapshot pos sourcePlayer client.localPlayerId client.registry with
    | QueuePendingSpawn =>
      intro id snapshots waiting snapshot inside
      have waiting' : AList.lookup id (AList.insert pos.entityId
        ((client.pendingSnapshots.lookup pos.entityId).getD [] ++ [⟨pos, sourcePlayer, now⟩])
        client.pendingSnapshots) = some snapshots := waiting
      rw [AMap.lookup_insert_eq] at waiting'
      split_ifs at waiting' with here
      · cases waiting'
        rcases List.mem_append.mp inside with before | new
        · cases found : client.pendingSnapshots.lookup pos.entityId with
          | none =>
            rw [found] at before
            cases before
          | some old =>
            rw [found] at before
            exact (keyed pos.entityId old found snapshot before).trans here.symm
        · rw [List.mem_singleton.mp new]
          exact here.symm
      · exact keyed id snapshots waiting' snapshot inside
    | _ => exact keyed

theorem Keyed.handlePositions (keyed : client.Keyed) (sourcePlayer : PlayerID) (now : F32)
    (records : List CharacterPosition) :
    (records.foldl (GameClient.handlePosition sourcePlayer now) client).Keyed := by
  induction records generalizing client with
  | nil => exact keyed
  | cons pos rest ih => exact ih (keyed.handlePosition sourcePlayer now pos)

variable (client)

/-- What an introduction leaves in the queue. -/
theorem introduce_pending (entityId : EntityID) (type : UInt8) (ownerId : PlayerID) (spawnPos : Vec3)
    (rot : Quat) (now : F32) (id : EntityID) :
    (client.introduce entityId type ownerId spawnPos rot now).pendingSnapshots.lookup id
      = if id = entityId then none else client.pendingSnapshots.lookup id := by
  unfold introduce flushForEntity
  simp only
  cases found : client.pendingSnapshots.lookup entityId with
  | none =>
    simp only
    split_ifs with here
    · rw [here, found]
    · rfl
  | some snapshots =>
    show AList.lookup id (AList.erase entityId client.pendingSnapshots) = _
    exact AMap.lookup_erase_eq ..

theorem processDeferredSpawn_pending (ds : DeferredSpawn) (now : F32) (id : EntityID) :
    (client.processDeferredSpawn ds now).pendingSnapshots.lookup id
      = if ds.ownerId ≠ client.localPlayerId ∧ id = ds.entityId then none
        else client.pendingSnapshots.lookup id := by
  unfold processDeferredSpawn
  simp only
  by_cases own : ds.ownerId = client.localPlayerId
  · rw [if_pos own, if_neg (fun both => both.1 own)]
  · have introduced := client.introduce_pending ds.entityId ds.type ds.ownerId
      ⟨ds.posX, ds.posY, ds.posZ⟩ (Quat.decompress ds.compressedQuat) now id
    rw [if_neg own]
    simp only [ne_eq, own, not_false_eq_true, true_and]
    rw [← introduced]
    split_ifs <;> rfl

theorem spawnRemote_pending (pages : CodePages) (spawn : EntitySpawn) (now render : F32) (id : EntityID) :
    (client.spawnRemote pages spawn now render).pendingSnapshots.lookup id
      = if id = spawn.entityId then none else client.pendingSnapshots.lookup id := by
  have introduced := (client.noteHostSpawnPoint spawn.spawnPos).introduce_pending spawn.entityId
    spawn.type spawn.ownerId spawn.spawnPos (Quat.decompress spawn.compQuat) now id
  have noted : (client.noteHostSpawnPoint spawn.spawnPos).pendingSnapshots = client.pendingSnapshots := by
    unfold noteHostSpawnPoint
    split_ifs <;> rfl
  rw [noted] at introduced
  rw [← introduced]
  unfold spawnRemote
  simp only
  split_ifs <;> rfl

variable {client}

theorem Keyed.fewer {after : GameClient} (keyed : client.Keyed)
    (fewer : ∀ id, after.pendingSnapshots.lookup id = none
      ∨ after.pendingSnapshots.lookup id = client.pendingSnapshots.lookup id) : after.Keyed := by
  intro id snapshots waiting
  rcases fewer id with gone | same
  · rw [gone] at waiting
    cases waiting
  · exact keyed id snapshots (same ▸ waiting)

theorem Keyed.processEach (keyed : client.Keyed) (clock : Nat → F32)
    (entries : List (DeferredSpawn × Nat)) :
    (entries.foldl (fun client entry => client.processDeferredSpawn entry.1 (clock entry.2))
      client).Keyed := by
  induction entries generalizing client with
  | nil => exact keyed
  | cons entry rest ih =>
    refine ih (keyed.fewer fun id => ?_)
    rw [processDeferredSpawn_pending]
    split_ifs
    · exact .inl rfl
    · exact .inr rfl

theorem Keyed.handlePacket (keyed : client.Keyed) (pages : CodePages) (arrival : Arrival) :
    (client.handlePacket pages arrival).Keyed := by
  have same {after : GameClient} (kept : after.pendingSnapshots = client.pendingSnapshots) :
      after.Keyed := keyed.fewer fun id => .inr (congrArg (AList.lookup id) kept)
  have world : (if client.gameLoaded then client.handleWorld arrival else client).Keyed := by
    split_ifs
    · unfold handleWorld
      cases arrival.msg with
      | positionUpdate sourcePlayer count records =>
        exact keyed.handlePositions sourcePlayer arrival.now _
      | combatHit msg =>
        refine same (show (client.handleCombatHit msg).pendingSnapshots = _ from ?_)
        unfold handleCombatHit
        split_ifs <;> rfl
      | combatDeath msg =>
        refine same (show (client.handleCombatDeath msg).pendingSnapshots = _ from ?_)
        unfold handleCombatDeath
        split_ifs <;> rfl
      | combatKO msg =>
        refine same (show (client.handleCombatKO msg).pendingSnapshots = _ from ?_)
        unfold handleCombatKO
        split_ifs <;> rfl
      | _ => exact same rfl
    · exact keyed
  unfold GameClient.handlePacket
  cases arrival.msg with
  | handshakeAck ack => exact same rfl
  | handshakeReject code text =>
    refine same (show client.handleHandshakeReject.pendingSnapshots = _ from ?_)
    unfold handleHandshakeReject
    split_ifs <;> rfl
  | playerJoined playerId playerName =>
    obtain ⟨names, joined⟩ := client.handlePlayerJoined_eq playerId playerName
    refine same (show (client.handlePlayerJoined playerId playerName).pendingSnapshots = _ from ?_)
    rw [joined]
  | allPlayersReady => exact keyed.processEach arrival.clock client.deferredSpawns.zipIdx
  | entitySpawn record =>
    show (client.handleEntitySpawn pages _ arrival.now arrival.render).Keyed
    unfold handleEntitySpawn
    cases readEntitySpawn (PacketReader.start record.write) with
    | none => exact keyed
    | some spawn =>
      show (client.takeUp pages spawn arrival.now arrival.render).Keyed
      unfold takeUp
      split_ifs
      · exact same rfl
      · exact same rfl
      · refine keyed.fewer fun id => ?_
        rw [spawnRemote_pending]
        split_ifs
        · exact .inl rfl
        · exact .inr rfl
  | _ => exact world

end GameClient

/-! ### When everything that is added is valid -/

namespace GameClient

/-- A client as the packets and the game make it: its entities are in the game or on their way, and
what waits is kept under the entity it is about. -/
structure Proper (client : GameClient) : Prop where
  present : client.registry.All fun info => info.state = .Spawning ∨ info.state = .Active
  keyed : client.Keyed

variable {client : GameClient}

theorem Proper.handlePacket (proper : client.Proper) (pages : CodePages) (arrival : Arrival) :
    (client.handlePacket pages arrival).Proper :=
  ⟨client.handlePacket_becomes pages arrival _ lasting_present proper.present,
    proper.keyed.handlePacket pages arrival⟩

variable (client)

/-- What waits for an entity that is announced for an owner: nothing is dated ahead; if the entity is
new, it has generation zero and came from the owner; if not, it fits what is known. -/
def QueueFits (entityId : EntityID) (owner : PlayerID) (now : F32) : Prop :=
  ∀ snapshot ∈ (client.pendingSnapshots.lookup entityId).getD [],
    snapshot.position.position.isFinite = true →
      (match client.registry.getInfo entityId with
        | none => snapshot.position.generation = 0 ∧ snapshot.sourcePlayerId = owner
        | some info => info.generation = snapshot.position.generation
          ∧ info.ownerPlayerId ≠ client.localPlayerId
          ∧ info.ownerPlayerId = snapshot.sourcePlayerId ∧ info.isRemote = true)
      ∧ now.lt snapshot.timestamp = false

/-- The same for the first announcement of each entity in a queue; the others find nothing. -/
def DeferredFits (clock : Nat → F32) : List (DeferredSpawn × Nat) → List EntityID → Prop
  | [], _ => True
  | (ds, index) :: rest, seen =>
    if ds.ownerId = client.localPlayerId then DeferredFits clock rest seen
    else (ds.entityId ∉ seen → client.QueueFits ds.entityId ds.ownerId (clock index))
      ∧ DeferredFits clock rest (ds.entityId :: seen)

/-- A move command is for a remote entity and one second is no difference to the clock; and what waits
for an entity that is announced fits the announcement. -/
def Fitting (client : GameClient) (arrival : Arrival) : Prop :=
  match arrival.msg with
  | .moveCommand msg => client.gameLoaded = true →
    Vec3.isFinite ⟨msg.targetX, msg.targetY, msg.targetZ⟩ = true →
      client.registry.isRemote msg.entityId = true
        ∧ arrival.now.lt (arrival.now.add (lit 1 1)) = false
  | .entitySpawn record => ∀ spawn, readEntitySpawn (PacketReader.start record.write) = some spawn →
    spawn.ownerId ≠ client.localPlayerId → client.ready = true →
      client.QueueFits spawn.entityId spawn.ownerId arrival.now
  | .allPlayersReady => client.DeferredFits arrival.clock client.deferredSpawns.zipIdx []
  | _ => True

variable {client}

theorem getInfo_registerRemote_ne {registry : EntityRegistry} {netId id : EntityID}
    (other : id ≠ netId) (type : UInt8) (owner : PlayerID) (pos : Vec3) :
    (registry.registerRemote netId type owner pos).getInfo id = registry.getInfo id := by
  unfold EntityRegistry.registerRemote EntityRegistry.getInfo
  cases registry.entities.lookup netId with
  | some info => rfl
  | none =>
    simp only
    rw [AMap.lookup_insert_eq, if_neg other]

theorem getInfo_registerRemote_known {registry : EntityRegistry} {netId : EntityID} {info : EntityInfo}
    (known : registry.getInfo netId = some info) (type : UInt8) (owner : PlayerID) (pos : Vec3) :
    (registry.registerRemote netId type owner pos).getInfo netId = some info := by
  have stored : registry.entities.lookup netId = some info := known
  unfold EntityRegistry.registerRemote
  rw [stored]
  exact known

theorem getInfo_registerRemote_new {registry : EntityRegistry} {netId : EntityID}
    (unknown : registry.getInfo netId = none) (type : UInt8) (owner : PlayerID) (pos : Vec3) :
    ∃ info, (registry.registerRemote netId type owner pos).getInfo netId = some info
      ∧ info.generation = 0 ∧ info.ownerPlayerId = owner ∧ info.isRemote = true := by
  have absent : registry.entities.lookup netId = none := unknown
  unfold EntityRegistry.registerRemote EntityRegistry.getInfo
  rw [absent]
  simp only
  rw [AMap.lookup_insert_eq, if_pos rfl]
  exact ⟨_, rfl, rfl, rfl, rfl⟩

/-- The additions of the records that wait: those that are finite. -/
theorem flushOps_additions (entityId : EntityID) (now : F32) (motive : Addition → Prop) :
    (∀ addition ∈ (client.flushOps entityId now).filterMap InterpOp.addition, motive addition)
      ↔ ∀ snapshot ∈ (client.pendingSnapshots.lookup entityId).getD [],
        snapshot.position.position.isFinite = true →
          motive (client.recordAddition snapshot.position snapshot.sourcePlayerId
            snapshot.timestamp now) := by
  have each (snapshot : PendingSnapshot) :
      InterpOp.addition (.add (client.recordAddition snapshot.position snapshot.sourcePlayerId
          snapshot.timestamp now))
        = if snapshot.position.position.isFinite then
            some (client.recordAddition snapshot.position snapshot.sourcePlayerId
              snapshot.timestamp now)
          else none := by
    unfold InterpOp.addition recordAddition
    simp only [Quat.decompress_isFinite, Bool.and_true]
  unfold flushOps
  simp only [List.mem_filterMap, List.mem_map]
  constructor
  · intro all snapshot waiting finite
    exact all _ ⟨_, ⟨snapshot, waiting, rfl⟩, (each snapshot).trans (if_pos finite)⟩
  · rintro all addition ⟨op, ⟨snapshot, waiting, rfl⟩, added⟩
    rw [each] at added
    split_ifs at added with finite
    cases added
    exact all snapshot waiting finite

/-- What an announcement adds is valid exactly if what waits for the entity fits. -/
theorem introduceOps_valid_iff (proper : client.Proper) {entityId : EntityID} {type : UInt8}
    {ownerId : PlayerID} {spawnPos : Vec3} {rot : Quat} {now : F32}
    (other : ownerId ≠ client.localPlayerId) :
    (∀ addition ∈ (client.introduceOps entityId type ownerId spawnPos rot now).filterMap
        InterpOp.addition, addition.Valid) ↔ client.QueueFits entityId ownerId now := by
  have present := (Becomes.op (.registerRemote entityId type ownerId spawnPos)) _ lasting_present
    proper.present
  unfold introduceOps
  rw [List.filterMap_append, show List.filterMap InterpOp.addition [.place entityId now spawnPos rot]
    = [] from rfl, List.append_nil, flushOps_additions]
  refine forall₃_congr fun snapshot waiting finite => ?_
  rw [recordAddition_valid_iff present]
  refine and_congr_left fun _ => ?_
  have about : snapshot.position.entityId = entityId := by
    have waiting' : snapshot ∈ (client.pendingSnapshots.lookup entityId).getD [] := waiting
    cases found : client.pendingSnapshots.lookup entityId with
    | none =>
      rw [found] at waiting'
      cases waiting'
    | some snapshots =>
      rw [found] at waiting'
      exact proper.keyed entityId snapshots found snapshot waiting'
  rw [about]
  show (∃ info, (client.registry.registerRemote entityId type ownerId spawnPos).getInfo entityId
    = some info ∧ _) ↔ _
  cases known : client.registry.getInfo entityId with
  | some info =>
    rw [getInfo_registerRemote_known known]
    simp only [Option.some.injEq, exists_eq_left']
    exact Iff.rfl
  | none =>
    obtain ⟨info, registered, generation, owner, remote⟩ :=
      getInfo_registerRemote_new known type ownerId spawnPos
    rw [registered]
    simp only [Option.some.injEq, exists_eq_left']
    rw [generation, owner, remote]
    show 0 = _ ∧ ownerId ≠ client.localPlayerId ∧ _ ∧ _ ↔ _
    simp only [other, ne_eq, not_false_eq_true, true_and, and_true]
    exact and_congr eq_comm eq_comm

/-- Other entities are none of its business. -/
theorem getInfo_processDeferredSpawn_ne (client : GameClient) {ds : DeferredSpawn} {id : EntityID}
    (different : id ≠ ds.entityId) (now : F32) :
    (client.processDeferredSpawn ds now).registry.getInfo id = client.registry.getInfo id := by
  have introduced : (client.introduce ds.entityId ds.type ds.ownerId ⟨ds.posX, ds.posY, ds.posZ⟩
      (Quat.decompress ds.compressedQuat) now).registry.getInfo id = client.registry.getInfo id := by
    rw [introduce_registry]
    exact getInfo_registerRemote_ne different _ _ _
  have linked (registry : EntityRegistry) (character : GameObject) (pos : Vec3) :
      ((registry.setGameObject ds.entityId character).updatePosition ds.entityId pos).getInfo id
        = registry.getInfo id := by
    unfold EntityRegistry.updatePosition
    rw [EntityRegistry.getInfo_update, EntityRegistry.getInfo_setGameObject, Option.map_map]
    simp only [Function.comp_def, different, if_false]
    exact Option.map_id'
  have healed (registry : EntityRegistry) (health : Fin 7 → F32) :
      (registry.updateLimbHealth ds.entityId health).getInfo id = registry.getInfo id := by
    unfold EntityRegistry.updateLimbHealth
    rw [EntityRegistry.getInfo_update]
    simp only [different, if_false]
    exact Option.map_id'
  unfold processDeferredSpawn
  simp only
  split_ifs
  · rfl
  · cases ds.health with
    | none => exact (linked _ _ _).trans introduced
    | some health => exact (healed _ _).trans ((linked _ _ _).trans introduced)
  · cases ds.health with
    | none => exact (linked _ _ _).trans introduced
    | some health => exact (linked _ _ _).trans introduced
  · exact introduced

/-- A walk over the queue so far: what has been announced waits no more, the rest is as it was. -/
structure Walked (start : GameClient) (seen : List EntityID) (client : GameClient) : Prop where
  proper : client.Proper
  player : client.localPlayerId = start.localPlayerId
  flushed : ∀ id ∈ seen, client.pendingSnapshots.lookup id = none
  waiting : ∀ id, id ∉ seen → client.pendingSnapshots.lookup id = start.pendingSnapshots.lookup id
  known : ∀ id, id ∉ seen → client.registry.getInfo id = start.registry.getInfo id

theorem deferredOps_valid_iff {start : GameClient} (clock : Nat → F32)
    (entries : List (DeferredSpawn × Nat)) {seen : List EntityID} {client : GameClient}
    (walked : Walked start seen client) :
    (∀ addition ∈ (deferredOps clock entries client).filterMap InterpOp.addition, addition.Valid)
      ↔ start.DeferredFits clock entries seen := by
  induction entries generalizing seen client with
  | nil => exact iff_of_true (fun _ member => absurd member List.not_mem_nil) trivial
  | cons entry rest ih =>
    obtain ⟨ds, index⟩ := entry
    simp only [deferredOps, DeferredFits, List.filterMap_append, List.mem_append, or_imp,
      forall_and]
    by_cases own : ds.ownerId = start.localPlayerId
    · have own' : ds.ownerId = client.localPlayerId := own.trans walked.player.symm
      have skipped : client.processDeferredSpawn ds (clock index) = client := by
        unfold processDeferredSpawn
        exact if_pos own'
      rw [if_pos own, if_pos own', skipped]
      refine Iff.trans (and_iff_right fun _ member => absurd member List.not_mem_nil) (ih walked)
    · have own' : ds.ownerId ≠ client.localPlayerId := walked.player ▸ own
      rw [if_neg own, if_neg own', introduceOps_valid_iff walked.proper own']
      refine and_congr ?_ (ih ?_)
      · unfold QueueFits
        by_cases before : ds.entityId ∈ seen
        · rw [walked.flushed _ before]
          exact iff_of_true (fun _ member => absurd member List.not_mem_nil) fun absent =>
            absurd before absent
        · rw [walked.waiting _ before, walked.known _ before, walked.player]
          exact ⟨fun fits _ => fits, fun fits => fits before⟩
      · refine ⟨⟨client.processDeferredSpawn_becomes ds (clock index) _ lasting_present
          walked.proper.present, walked.proper.keyed.fewer fun id => ?_⟩, ?_, ?_, ?_, ?_⟩
        · rw [processDeferredSpawn_pending]
          split_ifs
          · exact .inl rfl
          · exact .inr rfl
        · exact (client.processDeferredSpawn_sameGame ds (clock index)).player.trans walked.player
        · intro id member
          rw [processDeferredSpawn_pending]
          rcases List.mem_cons.mp member with rfl | before
          · rw [if_pos ⟨own', rfl⟩]
          · rw [walked.flushed id before, ite_self]
        · intro id absent
          obtain ⟨different, before⟩ := not_or.mp (mt List.mem_cons.mpr absent)
          rw [processDeferredSpawn_pending, if_neg (fun both => different both.2)]
          exact walked.waiting id before
        · intro id absent
          obtain ⟨different, before⟩ := not_or.mp (mt List.mem_cons.mpr absent)
          rw [getInfo_processDeferredSpawn_ne client different]
          exact walked.known id before

theorem lt_self (now : F32) : now.lt now = false := by
  unfold Binary.Flt.lt
  rw [decide_eq_false (lt_irrefl _), Bool.and_false]

theorem positionOps_valid (sourcePlayer : PlayerID) (now : F32) (records : List CharacterPosition)
    (present : client.registry.All fun info => info.state = .Spawning ∨ info.state = .Active)
    (inOrder : now.lt now = false) :
    ∀ addition ∈ (positionOps sourcePlayer now records client).filterMap InterpOp.addition,
      addition.Valid := by
  induction records generalizing client with
  | nil => exact fun _ member => absurd member List.not_mem_nil
  | cons pos rest ih =>
    intro addition member
    simp only [positionOps, List.filterMap_append, List.mem_append] at member
    rcases member with here | later
    · split_ifs at here with applied
      · obtain ⟨op, inside, added⟩ := List.mem_filterMap.mp here
        rw [List.mem_singleton.mp inside] at added
        unfold InterpOp.addition at added
        simp only at added
        split_ifs at added
        cases added
        obtain ⟨-, decided⟩ := Bool.and_eq_true_iff.mp applied
        obtain ⟨info, known, generation, -, other, owner, remote⟩ :=
          validateInboundSnapshot_iff.mp (of_decide_eq_true decided)
        exact (recordAddition_valid_iff present pos sourcePlayer now now).mpr
          ⟨⟨info, known, generation, other, owner, remote⟩, inOrder⟩
      · cases here
    · refine ih ?_ addition later
      rw [client.handlePosition_registry]
      exact present

theorem commandAddition_valid_iff
    (present : client.registry.All fun info => info.state = .Spawning ∨ info.state = .Active)
    (msg : MsgMoveCommand) (now : F32) :
    (client.commandAddition msg now).Valid
      ↔ client.registry.isRemote msg.entityId = true ∧ now.lt (now.add (lit 1 1)) = false := by
  refine and_congr_left fun _ => ?_
  show (∃ info, client.registry.getInfo msg.entityId = some info ∧ _) ↔ _
  unfold EntityRegistry.isRemote
  constructor
  · rintro ⟨info, known, remote, -⟩
    rw [show client.registry.entities.lookup msg.entityId = some info from known]
    exact remote
  · intro remote
    cases known : client.registry.entities.lookup msg.entityId with
    | none =>
      rw [known] at remote
      cases remote
    | some info =>
      rw [known] at remote
      exact ⟨info, known, remote, present _ info known, fun _ _ none => nomatch none⟩

theorem takeUpOps_valid_iff (proper : client.Proper) (spawn : EntitySpawn) (now render : F32) :
    (∀ addition ∈ (client.takeUpOps spawn now render).filterMap InterpOp.addition, addition.Valid)
      ↔ (spawn.ownerId ≠ client.localPlayerId → client.ready = true →
        client.QueueFits spawn.entityId spawn.ownerId now) := by
  unfold takeUpOps
  by_cases skip : spawn.ownerId = client.localPlayerId ∨ client.ready = false
  · rw [if_pos skip]
    refine iff_of_true (fun _ member => absurd member List.not_mem_nil) fun other ready => ?_
    rcases skip with own | unready
    · exact absurd own other
    · rw [ready] at unready
      cases unready
  · rw [if_neg skip]
    obtain ⟨other, ready⟩ := not_or.mp skip
    have noted : (client.noteHostSpawnPoint spawn.spawnPos).Proper
        ∧ (client.noteHostSpawnPoint spawn.spawnPos).localPlayerId = client.localPlayerId
        ∧ ((client.noteHostSpawnPoint spawn.spawnPos).QueueFits spawn.entityId spawn.ownerId now
          ↔ client.QueueFits spawn.entityId spawn.ownerId now) := by
      unfold noteHostSpawnPoint
      split_ifs
      · exact ⟨⟨proper.present, proper.keyed⟩, rfl, Iff.rfl⟩
      · exact ⟨proper, rfl, Iff.rfl⟩
    have reads : (if ((client.noteHostSpawnPoint spawn.spawnPos).introduce spawn.entityId spawn.type
          spawn.ownerId spawn.spawnPos (Quat.decompress spawn.compQuat) now).existingChar
            spawn.entityId spawn.ownerId ≠ 0 then [InterpOp.read spawn.entityId render]
        else []).filterMap InterpOp.addition = [] := by
      split_ifs <;> rfl
    unfold spawnOps
    simp only
    rw [List.filterMap_append, reads, List.append_nil,
      introduceOps_valid_iff noted.1 (noted.2.1 ▸ other), noted.2.2]
    exact ⟨fun fits _ _ => fits, fun fits => fits other (Bool.not_eq_false _ |>.mp ready)⟩

/-- One packet. -/
theorem packetOps_valid_iff (proper : client.Proper) (arrival : Arrival) :
    (∀ addition ∈ (client.packetOps arrival).filterMap InterpOp.addition, addition.Valid)
      ↔ client.Fitting arrival := by
  have world (quiet : client.worldOps arrival = [] ∨ ∃ ids, client.worldOps arrival
      = List.map InterpOp.remove ids) :
      (∀ addition ∈ (if client.gameLoaded then client.worldOps arrival else []).filterMap
        InterpOp.addition, addition.Valid) ↔ True := by
    refine iff_of_true (fun addition member => ?_) trivial
    split_ifs at member
    · rcases quiet with none | ⟨ids, removes⟩
      · rw [none] at member
        cases member
      · rw [removes] at member
        obtain ⟨op, inside, added⟩ := List.mem_filterMap.mp member
        obtain ⟨id, -, rfl⟩ := List.mem_map.mp inside
        cases added
    · cases member
  unfold packetOps Fitting
  cases found : arrival.msg with
  | handshakeAck ack => exact iff_of_true (fun _ member => absurd member List.not_mem_nil) trivial
  | handshakeReject code text =>
    exact iff_of_true (fun _ member => absurd member List.not_mem_nil) trivial
  | allPlayersReady =>
    exact deferredOps_valid_iff arrival.clock client.deferredSpawns.zipIdx
      ⟨proper, rfl, fun _ member => absurd member List.not_mem_nil, fun _ _ => rfl, fun _ _ => rfl⟩
  | entitySpawn record =>
    simp only
    cases readEntitySpawn (PacketReader.start record.write) with
    | none =>
      exact iff_of_true (fun _ member => absurd member List.not_mem_nil) fun _ none => nomatch none
    | some spawn =>
      simp only [Option.some.injEq, forall_eq']
      exact takeUpOps_valid_iff proper spawn arrival.now arrival.render
  | moveCommand msg =>
    simp only [worldOps, found]
    by_cases loaded : client.gameLoaded = true
    · rw [if_pos loaded]
      by_cases finite : Vec3.isFinite ⟨msg.targetX, msg.targetY, msg.targetZ⟩ = true
      · have added : List.filterMap InterpOp.addition [.add (client.commandAddition msg arrival.now)]
            = [client.commandAddition msg arrival.now] := by
          have counts : InterpOp.addition (.add (client.commandAddition msg arrival.now))
              = some (client.commandAddition msg arrival.now) :=
            if_pos (Bool.and_eq_true_iff.mpr ⟨finite, show Quat.isFinite {} = true by decide⟩)
          rw [List.filterMap_cons_some counts, List.filterMap_nil]
        rw [added]
        simp only [List.mem_singleton, forall_eq, loaded, finite, forall_const]
        exact commandAddition_valid_iff proper.present msg arrival.now
      · have dropped : List.filterMap InterpOp.addition [.add (client.commandAddition msg arrival.now)]
            = [] := by
          have drops : InterpOp.addition (.add (client.commandAddition msg arrival.now)) = none :=
            if_neg fun both => finite (Bool.and_eq_true_iff.mp both).1
          rw [List.filterMap_cons_none drops, List.filterMap_nil]
        rw [dropped]
        exact iff_of_true (fun _ member => absurd member List.not_mem_nil) fun _ yes =>
          absurd yes finite
    · rw [if_neg loaded]
      exact iff_of_true (fun _ member => absurd member List.not_mem_nil) fun yes => absurd yes loaded
  | positionUpdate sourcePlayer count records =>
    refine iff_of_true (fun addition member => ?_) trivial
    simp only [worldOps, found] at member
    split_ifs at member
    · exact positionOps_valid sourcePlayer arrival.now _ proper.present (lt_self _) addition member
    · cases member
  | playerLeft playerId reason =>
    exact world (.inr ⟨_, by unfold worldOps; rw [found]⟩)
  | entityDespawn entityId reason => exact world (.inr ⟨[entityId], by unfold worldOps; rw [found]; rfl⟩)
  | entityHeartbeat serverTick entityCount ids =>
    exact world (.inr ⟨_, by unfold worldOps; rw [found]⟩)
  | _ => exact world (.inl (by unfold worldOps; rw [found]))

/-! ### Runs -/

variable (client)

/-- What has waited for too long is dropped. -/
def cleanupOld (currentTime maxAge : F32) : GameClient :=
  let cutoffTime := currentTime.sub maxAge
  let kept := AMap.mapVals
    (fun _ snapshots => snapshots.filter fun snapshot => !snapshot.timestamp.lt cutoffTime)
    client.pendingSnapshots
  let emptied := (kept.toList.filter fun entry => entry.2.isEmpty).map Prod.fst
  { client with pendingSnapshots := AMap.eraseAll emptied kept }

/-- What happens to a client between its packets, as far as it decides about a movement. -/
inductive Happening where
  | packet (arrival : Arrival)
  /-- the game, its hooks and the other parts of the client work on the registry -/
  | registry (op : RegistryOp)
  | gameLoaded (connected : Bool) (characters : List (Bytes × GameObject))
  | loadingGap
  | transition (phase : ClientPhase)
  | disconnected
  | cleanupOld (currentTime maxAge : F32)

def happens (pages : CodePages) (client : GameClient) : Happening → GameClient
  | .packet arrival => client.handlePacket pages arrival
  | .registry op => client.withRegistry (op.apply client.registry)
  | .gameLoaded connected characters => client.onGameLoaded connected characters
  | .loadingGap => client.onLoadingGapDetected
  | .transition phase => client.transitionTo phase
  | .disconnected => client.setDisconnected
  | .cleanupOld currentTime maxAge => client.cleanupOld currentTime maxAge

/-- The machine of a client; its outputs are the movements that reach the interpolation. -/
def movementMachine (pages : CodePages) : Machine GameClient Happening Addition where
  step client happening :=
    (client.happens pages happening,
      match happening with
      | .packet arrival => (client.packetOps arrival).filterMap InterpOp.addition
      | _ => [])

/-- Only packets add movements. -/
def Fits (client : GameClient) : Happening → Prop
  | .packet arrival => client.Fitting arrival
  | _ => True

variable {client}

theorem Keyed.cleanupOld (keyed : client.Keyed) (currentTime maxAge : F32) :
    (client.cleanupOld currentTime maxAge).Keyed := by
  intro id snapshots waiting snapshot inside
  unfold GameClient.cleanupOld at waiting
  simp only [AMap.lookup_eraseAll, AMap.lookup_mapVals] at waiting
  split_ifs at waiting
  obtain ⟨old, found, rfl⟩ := Option.map_eq_some_iff.mp waiting
  exact keyed id old found snapshot (List.mem_of_mem_filter inside)

theorem linkLate_proper (proper : client.Proper) (entityId : EntityID) :
    (client.linkLate entityId).Proper := by
  unfold linkLate
  split_ifs
  · exact proper
  · cases client.registry.getInfo entityId with
    | none => exact proper
    | some info =>
      simp only
      split_ifs
      · exact ⟨Becomes.linked entityId _ _ _ lasting_present proper.present, proper.keyed⟩
      · exact proper

theorem Proper.happens (proper : client.Proper) (pages : CodePages) (happening : Happening) :
    (client.happens pages happening).Proper := by
  cases happening with
  | packet arrival => exact proper.handlePacket pages arrival
  | registry op => exact ⟨proper.present.op lasting_present op, proper.keyed⟩
  | gameLoaded connected characters =>
    show (client.onGameLoaded connected characters).Proper
    unfold onGameLoaded
    simp only
    have loaded : ({ client.enterGame .GameReady with characters := characters } : GameClient).Proper :=
      ⟨proper.present, proper.keyed⟩
    split_ifs
    · exact proper
    · generalize ({ client.enterGame .GameReady with characters := characters } :
        GameClient).registry.getRemoteEntities = ids
      generalize ({ client.enterGame .GameReady with characters := characters } : GameClient)
        = start at loaded ⊢
      induction ids generalizing start with
      | nil => exact loaded
      | cons id rest ih => exact ih _ (linkLate_proper loaded id)
    · exact loaded
  | loadingGap =>
    show client.onLoadingGapDetected.Proper
    unfold onLoadingGapDetected
    split
    · exact ⟨proper.present, proper.keyed⟩
    · exact ⟨proper.present.op lasting_present .clear, proper.keyed⟩
    · exact proper
  | transition phase => exact ⟨proper.present, proper.keyed⟩
  | disconnected => exact ⟨proper.present.op lasting_present .clearRemoteEntities, proper.keyed⟩
  | cleanupOld currentTime maxAge => exact ⟨proper.present, proper.keyed.cleanupOld _ _⟩

theorem proper_start : GameClient.Proper {} := by
  refine ⟨fun id info found => ?_, fun id snapshots found => ?_⟩
  · cases found
  · cases found

theorem run_valid_iff (pages : CodePages) (happenings : List Happening) {client : GameClient}
    (proper : client.Proper) :
    (∀ addition ∈ (movementMachine pages).outputs client happenings, addition.Valid)
      ↔ (movementMachine pages).Along Fits client happenings := by
  induction happenings generalizing client with
  | nil => exact iff_of_true (fun _ member => absurd member List.not_mem_nil) trivial
  | cons happening rest ih =>
    simp only [Machine.outputs, Machine.Along, List.mem_append, or_imp, forall_and]
    refine and_congr ?_ (ih (proper.happens pages happening))
    cases happening with
    | packet arrival => exact packetOps_valid_iff proper arrival
    | _ => exact iff_of_true (fun _ member => absurd member List.not_mem_nil) trivial

/-- **Every movement that reaches the interpolation is valid at that moment exactly if each packet
fits**: position packets always do; a move command does only if the clock cannot tell a second, and an
announcement if what waited for the entity came from the owner that it names. -/
theorem movements_validated (pages : CodePages) (happenings : List Happening) :
    (∀ addition ∈ (movementMachine pages).outputs {} happenings, addition.Valid)
      ↔ (movementMachine pages).Along Fits {} happenings :=
  run_valid_iff pages happenings proper_start

/-- A character of player 1, and where player 3 says that it is. -/
def walker : SpawnRecord where
  entityId := 7
  type := EntityType.PlayerCharacter
  ownerId := 1
  templateId := 0
  position := ⟨lit 10 1, lit 0 1, lit 10 1⟩
  compressedQuat := 0
  factionId := 0
  templateName := []
  health _ := lit 100 1
  alive := true

def strayRecord : CharacterPosition := ⟨7, 0, lit 90 1, lit 0 1, lit 90 1, 0, 0, 0, 0⟩

def received (msg : S2C) : Happening := .packet ⟨msg, lit 1 1, lit 1 1, fun _ => lit 1 1⟩

/-- Player 2 is connected and its game is loaded. -/
def arrival2 : List Happening :=
  [received (.handshakeAck ⟨2, 0, lit 12 1, 0, 16, 2⟩), .gameLoaded true []]

/-- **Not every movement is valid.** A move command for an entity that is not registered moves it, in a
second; and a record that waits goes with the announcement of another player's entity. -/
theorem movements_fail :
    (¬ ∀ addition ∈ (movementMachine plainPages).outputs {}
        (arrival2 ++ [received (.moveCommand ⟨7, lit 5 1, lit 0 1, lit 5 1, 0⟩)]), addition.Valid)
      ∧ ¬ ∀ addition ∈ (movementMachine plainPages).outputs {}
        (arrival2 ++ [received (.positionUpdate 3 1 [strayRecord]), received (.entitySpawn walker)]),
          addition.Valid := by
  refine ⟨fun valid => ?_, fun valid => ?_⟩
  · obtain ⟨-, -, command, -⟩ := (run_valid_iff plainPages _ proper_start).mp valid
    exact absurd (command rfl (by decide +kernel)).1 (by decide +kernel)
  · obtain ⟨-, -, -, spawn, -⟩ := (run_valid_iff plainPages _ proper_start).mp valid
    obtain ⟨announced, read, same, owner, -⟩ := readEntitySpawn_fixed walker
    have fits := spawn announced read (by rw [owner]; decide +kernel) (by decide +kernel)
    rw [same, owner] at fits
    have stray := (fits ⟨strayRecord, 3, lit 1 1⟩ (by decide +kernel) (by decide +kernel)).1
    split at stray
    · exact absurd stray.2 (by decide)
    · rename_i known
      exact absurd (Option.isSome_of_eq_some known) (by decide +kernel)

end GameClient

end KenshiMP
