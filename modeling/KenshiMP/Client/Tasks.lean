/-
**What the handlers of a client do to its tables.**

`ClientWorld.tasks` lists the tasks of one event, each with what the handler finds when it comes to it,
and `step_tables` says that they are all that happens to the tables.
-/

import KenshiMP.Client.TableFacts

namespace KenshiMP

open Wire (Bytes)
open Assoc

/-! ### The tasks of an event -/

/-- An announcement, with the entities that get a position. -/
def GameClient.introduces (client : GameClient) (entityId : EntityID) (type : UInt8)
    (ownerId : PlayerID) (spawnPos : Vec3) (rot : Quat) (now : F32) (character : GameObject) : Task :=
  .announce entityId ownerId
    ((client.introduceOps entityId type ownerId spawnPos rot now).filterMap InterpOp.buffered)
    (if character = 0 then none else some character)

/-- Positions that come alone. -/
def snapshotTasks (ops : List InterpOp) : List Task := (ops.filterMap InterpOp.buffered).map .snapshot

namespace ClientWorld

/-- The tasks of a walk, those of each entry with what the walk has left so far. -/
def walk {α : Type} (step : ClientWorld → α → ClientWorld) (tasks : ClientWorld → α → List Task) :
    List α → ClientWorld → List Task
  | [], _ => []
  | entry :: rest, w => tasks w entry ++ walk step tasks rest (step w entry)

variable (w : ClientWorld)

/-- An entity goes, and its owner is known from the registry. -/
def retireTask (cleanUp : CleanUp) (id : EntityID) : Task :=
  .retire cleanUp (w.client.registry.getOwnerPlayerId id) id

def retireTasks (cleanUp : CleanUp) (ids : List EntityID) : List Task :=
  walk (fun w id => w.retire cleanUp (w.client.registry.getOwnerPlayerId id) id)
    (fun w id => [w.retireTask cleanUp id]) ids w

/-- An announcement confirms an entity of the own player, or introduces one of another. -/
def spawnTasks (spawn : EntitySpawn) (now : F32) : List Task :=
  if spawn.ownerId = w.client.localPlayerId then
    let localId := w.client.registry.findLocalEntityNear spawn.spawnPos spawn.ownerId
    if localId ≠ 0 && localId ≠ spawn.entityId then [.confirm localId spawn.entityId] else []
  else if !w.client.ready then []
  else
    let noted := w.client.noteHostSpawnPoint spawn.spawnPos
    let rot := Quat.decompress spawn.compQuat
    let introduced := noted.introduce spawn.entityId spawn.type spawn.ownerId spawn.spawnPos rot now
    [noted.introduces spawn.entityId spawn.type spawn.ownerId spawn.spawnPos rot now
      (introduced.existingChar spawn.entityId spawn.ownerId)]

def deferredTasks (ds : DeferredSpawn) (now : F32) : List Task :=
  if ds.ownerId = w.client.localPlayerId then []
  else
    let spawnPos : Vec3 := ⟨ds.posX, ds.posY, ds.posZ⟩
    let rot := Quat.decompress ds.compressedQuat
    let introduced := w.client.introduce ds.entityId ds.type ds.ownerId spawnPos rot now
    let existing := introduced.findModCharacterBySlot ds.ownerId
    [w.client.introduces ds.entityId ds.type ds.ownerId spawnPos rot now
      (if introduced.registry.getNetId existing = 0 then existing else 0)]

def worldTasks (arrival : Arrival) : List Task :=
  match arrival.msg with
  | .playerLeft playerId _ => [.leave playerId (w.client.registry.getPlayerEntities playerId)]
  | .entityDespawn entityId _ =>
    [w.retireTask ⟨true, w.client.registry.isRemote entityId, true⟩ entityId]
  | .entityHeartbeat _ entityCount ids =>
    w.retireTasks ⟨false, true, true⟩
      (w.client.registry.getRemoteEntities.filter fun localId => localId ∉ ids.take entityCount.toNat)
  | .buildDestroyed buildingId _ => [w.retireTask ⟨false, false, false⟩ buildingId]
  | .buildPlaced msg => [.build msg.entityId msg.builderId]
  | .positionUpdate sourcePlayer count records =>
    snapshotTasks
      (GameClient.positionOps sourcePlayer arrival.now (records.take count.toNat) w.client)
  | .moveCommand msg => snapshotTasks [.add (w.client.commandAddition msg arrival.now)]
  | _ => []

def packetTasks (arrival : Arrival) : List Task :=
  match arrival.msg with
  | .handshakeAck _ => if w.client.gameLoaded then [.resetHijacks] else []
  | .handshakeReject _ _ => []
  | .allPlayersReady =>
    walk (fun w entry => w.processDeferredSpawn entry.1 (arrival.clock entry.2))
      (fun w entry => w.deferredTasks entry.1 (arrival.clock entry.2)) w.client.deferredSpawns.zipIdx w
  | .entitySpawn record =>
    match readEntitySpawn (PacketReader.start record.write) with
    | none => []
    | some spawn => w.spawnTasks spawn arrival.now
  | _ => if w.client.gameLoaded then w.worldTasks arrival else []

/-- An entity without a character is linked to the one that waits for its owner. -/
def linkLateTasks (entityId : EntityID) : List Task :=
  match w.info entityId with
  | none => []
  | some info =>
    let modChar := w.client.findModCharacterBySlot info.ownerPlayerId
    if w.client.registry.getGameObject entityId = 0 && modChar ≠ 0
        && w.client.registry.getNetId modChar = 0 then
      [.link entityId modChar]
    else []

def loadTasks (characters : List (Bytes × GameObject)) : List Task :=
  if w.client.gameLoaded || !w.connected then []
  else
    let loaded := { w with client := { w.client.enterGame .GameReady with characters := characters } }
    .resetHijacks :: walk linkLate linkLateTasks loaded.client.registry.getRemoteEntities
      loaded.resumeForNetwork

def unloadTask (entry : EntityID × EntityInfo) : Task :=
  if entry.2.isRemote then .retire ⟨false, true, true⟩ entry.2.ownerPlayerId entry.1
  else .unbuffer entry.1

def unloadTasks (zone : ZoneCoord) : List Task :=
  (w.client.registry.entities.toList.filter fun (_, info) => info.zone = zone).map unloadTask

def ownTasks (character : GameObject) : List Task :=
  if EntityRegistry.invalidPointer character || (w.client.registry.ids character).isSome then []
  else [.own w.client.registry.nextId character w.client.localPlayerId]

/-- Another attempt, or what becomes of the request after too many. -/
def requeueFate (req : FactoryRequest) (exhausted : RequestFate) : RequestFate :=
  if req.retryCount + 1 < MAX_SPAWN_RETRIES then .requeue else exhausted

/-- What becomes of a request when the queue is visited. -/
def spawnFate (character : GameObject) (req : FactoryRequest) : RequestFate :=
  if w.client.registry.getGameObject req.netId ≠ 0 then .discard
  else if MAX_DIRECT_SPAWNS_PER_PLAYER ≤ w.directSpawnsPerPlayer req.owner then .drop
  else if w.deferredLink req ≠ 0 then .give .direct (w.deferredLink req)
  else if isCharacter 0x10001 character then .give .direct character
  else requeueFate req .exhaust

def stagedFate (character : GameObject) (req : FactoryRequest) : RequestFate :=
  if character ≠ 0 then
    if (w.info req.netId).isNone then .release else .give .staged character
  else requeueFate req .release

/-- What becomes of it when the game makes a character. -/
def hijackFate (character : GameObject) (succeeds : Bool) (req : FactoryRequest) : RequestFate :=
  if w.spawnsPerPlayer req.owner < MAX_SPAWNS_PER_PLAYER then
    if isCharacter 0x10000 character && succeeds then .give .hijack character
    else requeueFate req .drop
  else .requeue

/-- The first request meets its fate. -/
def takeTasks (fate : FactoryRequest → RequestFate) : List Task :=
  (w.client.spawnQueue.head?.map fun req => Task.take (fate req)).toList

/-- The counts of an earlier connection go. -/
def readied : ClientWorld :=
  if w.needSpawnQueueReset then
    { w with needSpawnQueueReset := false, directSpawnsPerPlayer := fun _ => 0 }
  else w

/-- The visit of the queue, up to the check for stuck entities. -/
def visited (visit : QueueVisit) : ClientWorld :=
  if visit.due then w.readied.spawnNext visit.character
  else if visit.resumes then w.readied.resumeForNetwork
  else w.readied

def cleansUp (visit : QueueVisit) : Bool :=
  visit.stuckCheck && !(visit.due && w.readied.discards)

/-- The entities that wait for nothing are forgotten. -/
def stuckTasks : List Task :=
  walk (fun w id =>
      if w.stuck id then w.retire ⟨false, true, true⟩ (w.client.registry.getOwnerPlayerId id) id
      else w)
    (fun w id => if w.stuck id then [w.retireTask ⟨false, true, true⟩ id] else [])
    w.client.registry.getRemoteEntities w

def visitTasks (visit : QueueVisit) : List Task :=
  (if w.needSpawnQueueReset then [.resetDirects] else [])
    ++ (if visit.due then w.readied.takeTasks (w.readied.spawnFate visit.character)
      else if visit.resumes then [.resetHijacks] else [])
    ++ if w.cleansUp visit then (w.visited visit).stuckTasks else []

/-- The tasks of an event, in their order. -/
def tasks (event : Event) : List Task :=
  match event with
  | .receive arrival => w.packetTasks arrival
  | .gameLoaded characters => w.loadTasks characters
  | .loadingGap => if w.client.clientPhase = .GameReady then [.reload] else []
  | .zoneUnloaded zone => if w.ticks then w.unloadTasks zone else []
  | .objectLost id => if w.ticks then [.lose id] else []
  | .registerOwn character _ => if w.ticks then w.ownTasks character else []
  | .disconnect => [.disconnect false]
  | .lossNoticed => if w.connected then [.disconnect true] else []
  | .resumeForNetwork => if w.ticks then [.resetHijacks] else []
  | .handleSpawnQueue visit => if w.ticks then w.visitTasks visit else []
  | .stageProcessSpawns character => if w.ticks then w.takeTasks (w.stagedFate character) else []
  | .characterCreate character succeeds =>
    if w.ticks then w.takeTasks (w.hijackFate character succeeds) else []

/-! ### The tasks are all that happens -/

theorem walk_tables {α : Type} {step : ClientWorld → α → ClientWorld}
    {tasks : ClientWorld → α → List Task}
    (each : ∀ w entry, (step w entry).tables = (tasks w entry).foldl Tables.apply w.tables)
    (entries : List α) (w : ClientWorld) :
    (entries.foldl step w).tables = (walk step tasks entries w).foldl Tables.apply w.tables := by
  induction entries generalizing w with
  | nil => rfl
  | cons entry rest ih =>
    rw [List.foldl_cons, ih, walk, List.foldl_append, each]

/-- What is removed from the client is removed from its tables. -/
theorem retireTasks_tables (cleanUp : CleanUp) (ids : List EntityID) :
    (w.retireAll cleanUp ids).tables = (w.retireTasks cleanUp ids).foldl Tables.apply w.tables :=
  walk_tables (fun w id => w.tables_retire cleanUp (w.client.registry.getOwnerPlayerId id) id) ids w

theorem snapshotTasks_tables (client : GameClient) (ops : List InterpOp)
    (keep : ∀ op ∈ ops, op.removes = false) (registry : client.registry = w.client.registry)
    (queue : client.spawnQueue = w.client.spawnQueue)
    (interpolation : client.interpolation = ops.foldl InterpOp.apply w.client.interpolation) :
    ({ w with client := client } : ClientWorld).tables = (snapshotTasks ops).foldl Tables.apply w.tables := by
  have fold (ids : List EntityID) (t : Tables) :
      (ids.map Task.snapshot).foldl Tables.apply t = t.buffer ids := by
    induction ids generalizing t with
    | nil =>
      refine Tables.ext rfl rfl (funext fun id => ?_) rfl rfl rfl rfl rfl
      show t.buffers id = (t.buffers id || decide (id ∈ []))
      simp
    | cons first rest ih =>
      rw [List.map_cons, List.foldl_cons, ih]
      refine Tables.ext rfl rfl (funext fun id => ?_) rfl rfl rfl rfl rfl
      show (t.buffers id || decide (id ∈ [first]) || decide (id ∈ rest))
        = (t.buffers id || decide (id ∈ first :: rest))
      by_cases here : id = first
      · simp [here]
      · simp [here]
  unfold snapshotTasks
  rw [fold]
  refine Tables.ext ?_ ?_ ?_ rfl ?_ rfl rfl rfl
  · show client.registry.rows = _
    rw [registry]
    rfl
  · show client.registry.ids = _
    rw [registry]
    rfl
  · show client.interpolation.buffers = _
    rw [interpolation, InterpOp.buffers_foldl ops _ keep]
    rfl
  · show client.spawnQueue.map _ = _
    rw [queue]
    rfl

/-- A confirmed entity changes its number in the tables too. -/
theorem confirm_tables (spawn : EntitySpawn) (now : F32) (own : spawn.ownerId = w.client.localPlayerId) :
    (w.withRegistry (w.client.registry.confirm spawn.entityId spawn.spawnPos spawn.ownerId)).tables
      = (w.spawnTasks spawn now).foldl Tables.apply w.tables := by
  unfold spawnTasks EntityRegistry.confirm
  rw [if_pos own]
  simp only
  split_ifs
  · exact w.tables_remapEntityId _ _
  · rfl

theorem spawnTasks_tables (pages : CodePages) (spawn : EntitySpawn) (now render : F32) :
    (if spawn.ownerId ≠ w.client.localPlayerId && w.client.ready
        && ((w.client.noteHostSpawnPoint spawn.spawnPos).introduce spawn.entityId spawn.type
          spawn.ownerId spawn.spawnPos (Quat.decompress spawn.compQuat) now).existingChar
            spawn.entityId spawn.ownerId ≠ 0 then
        w.linked (((w.client.noteHostSpawnPoint spawn.spawnPos).introduce spawn.entityId spawn.type
          spawn.ownerId spawn.spawnPos (Quat.decompress spawn.compQuat) now).existingChar
            spawn.entityId spawn.ownerId) spawn.entityId (w.client.takeUp pages spawn now render)
      else { w with client := w.client.takeUp pages spawn now render }).tables
      = (w.spawnTasks spawn now).foldl Tables.apply w.tables := by
  by_cases own : spawn.ownerId = w.client.localPlayerId
  · rw [if_neg (by simp [own]), ← w.confirm_tables spawn now own]
    unfold GameClient.takeUp
    rw [if_pos own]
    rfl
  by_cases ready : w.client.ready = true
  case neg =>
    rw [Bool.not_eq_true] at ready
    unfold spawnTasks GameClient.takeUp
    rw [if_neg (by simp [ready]), if_neg own, if_neg own, ready]
    rfl
  have taken : w.client.takeUp pages spawn now render = w.client.spawnRemote pages spawn now render := by
    unfold GameClient.takeUp
    rw [if_neg own, ready]
    rfl
  have tasks : w.spawnTasks spawn now
      = [(w.client.noteHostSpawnPoint spawn.spawnPos).introduces spawn.entityId spawn.type
        spawn.ownerId spawn.spawnPos (Quat.decompress spawn.compQuat) now
        (((w.client.noteHostSpawnPoint spawn.spawnPos).introduce spawn.entityId spawn.type
          spawn.ownerId spawn.spawnPos (Quat.decompress spawn.compQuat) now).existingChar
            spawn.entityId spawn.ownerId)] := by
    unfold spawnTasks
    rw [if_neg own, ready]
    rfl
  have noted : ∃ hostSpawnPoint, w.client.noteHostSpawnPoint spawn.spawnPos
      = { w.client with hostSpawnPoint := hostSpawnPoint } := by
    unfold GameClient.noteHostSpawnPoint
    split_ifs
    · exact ⟨_, rfl⟩
    · exact ⟨w.client.hostSpawnPoint, rfl⟩
  obtain ⟨hostSpawnPoint, noted⟩ := noted
  rw [taken, tasks, GameClient.spawnRemote, noted]
  have registry := ({ w.client with hostSpawnPoint := hostSpawnPoint } : GameClient).introduce_registry
    spawn.entityId spawn.type spawn.ownerId spawn.spawnPos (Quat.decompress spawn.compQuat) now
  have buffers := ({ w.client with hostSpawnPoint := hostSpawnPoint } : GameClient).introduce_buffers
    spawn.entityId spawn.type spawn.ownerId spawn.spawnPos (Quat.decompress spawn.compQuat) now
  have queue : (({ w.client with hostSpawnPoint := hostSpawnPoint } : GameClient).introduce
      spawn.entityId spawn.type spawn.ownerId spawn.spawnPos (Quat.decompress spawn.compQuat)
      now).spawnQueue = w.client.spawnQueue := by
    obtain ⟨interpolation, pendingSnapshots, introduced⟩ :=
      ({ w.client with hostSpawnPoint := hostSpawnPoint } : GameClient).introduce_fields
        spawn.entityId spawn.type spawn.ownerId spawn.spawnPos (Quat.decompress spawn.compQuat) now
    rw [introduced]
  unfold GameClient.introduces
  simp only [List.foldl_cons, List.foldl_nil]
  generalize ({ w.client with hostSpawnPoint := hostSpawnPoint } : GameClient).introduce
    spawn.entityId spawn.type spawn.ownerId spawn.spawnPos (Quat.decompress spawn.compQuat) now
      = introduced at registry buffers queue ⊢
  by_cases waits : introduced.existingChar spawn.entityId spawn.ownerId = 0
  · rw [if_neg (by simp [waits]), if_pos waits, if_neg (not_not.mpr waits)]
    refine w.tables_queued registry buffers ?_
    show (introduced.spawnQueue ++ [_]).map _ = _
    rw [queue, List.map_append]
    refine congrArg (_ ++ ·) ?_
    unfold GameClient.factoryRequest
    cases spawn.extended <;> rfl
  · rw [if_pos (by simp [own, ready, waits]), if_neg waits, if_pos waits]
    have rows := introduced.linkExisting_rows spawn
      (introduced.existingChar spawn.entityId spawn.ownerId) render
    have ids := introduced.linkExisting_ids spawn
      (introduced.existingChar spawn.entityId spawn.ownerId) render
    rw [registry] at rows ids
    exact w.tables_linked spawn.type spawn.spawnPos rows ids
      ((introduced.linkExisting_buffers spawn _ render).trans buffers) queue

theorem deferredTasks_tables (ds : DeferredSpawn) (now : F32) :
    (w.processDeferredSpawn ds now).tables = (w.deferredTasks ds now).foldl Tables.apply w.tables := by
  unfold processDeferredSpawn deferredTasks GameClient.processDeferredSpawn
  simp only
  by_cases own : ds.ownerId = w.client.localPlayerId
  · rw [if_neg (by simp [own]), if_pos own, if_pos own]
    rfl
  rw [if_neg own, if_neg own]
  have registry := w.client.introduce_registry ds.entityId ds.type ds.ownerId
    ⟨ds.posX, ds.posY, ds.posZ⟩ (Quat.decompress ds.compressedQuat) now
  have buffers := w.client.introduce_buffers ds.entityId ds.type ds.ownerId
    ⟨ds.posX, ds.posY, ds.posZ⟩ (Quat.decompress ds.compressedQuat) now
  have queue : (w.client.introduce ds.entityId ds.type ds.ownerId ⟨ds.posX, ds.posY, ds.posZ⟩
      (Quat.decompress ds.compressedQuat) now).spawnQueue = w.client.spawnQueue := by
    obtain ⟨interpolation, pendingSnapshots, introduced⟩ := w.client.introduce_fields ds.entityId
      ds.type ds.ownerId ⟨ds.posX, ds.posY, ds.posZ⟩ (Quat.decompress ds.compressedQuat) now
    rw [introduced]
  unfold GameClient.introduces
  simp only [List.foldl_cons, List.foldl_nil]
  generalize w.client.introduce ds.entityId ds.type ds.ownerId ⟨ds.posX, ds.posY, ds.posZ⟩
    (Quat.decompress ds.compressedQuat) now = introduced at registry buffers queue ⊢
  generalize introduced.findModCharacterBySlot ds.ownerId = existing
  by_cases free : existing ≠ 0 ∧ introduced.registry.getNetId existing = 0
  · obtain ⟨there, free⟩ := free
    rw [if_pos (by simp [own, there, free]), if_pos (by simp [there, free]), if_pos free,
      if_neg there]
    have rows : ((introduced.registry.setGameObject ds.entityId existing).updatePosition ds.entityId
        ⟨ds.posX, ds.posY, ds.posZ⟩).rows
          = (introduced.registry.setGameObject ds.entityId existing).rows :=
      EntityRegistry.rows_updatePosition _ _ _
    rw [registry] at rows ⊢
    refine w.tables_linked ds.type ⟨ds.posX, ds.posY, ds.posZ⟩ ?_ ?_ buffers queue
    · cases ds.health with
      | none => exact rows
      | some health =>
        simp only
        split_ifs
        · exact (EntityRegistry.rows_updateLimbHealth _ _ _).trans rows
        · exact rows
    · cases ds.health with
      | none => rfl
      | some health => simp only; split_ifs <;> rfl
  · have waits : (if introduced.registry.getNetId existing = 0 then existing else 0) = 0 := by
      split_ifs with unlinked
      · exact not_not.mp fun there => free ⟨there, unlinked⟩
      · rfl
    have skipped : ¬ (decide (existing ≠ 0) && decide (introduced.registry.getNetId existing = 0))
        = true := by
      rw [Bool.and_eq_true, decide_eq_true_eq, decide_eq_true_eq]
      exact free
    rw [Bool.and_assoc, Bool.not_eq_true _ |>.mp skipped, Bool.and_false, if_neg Bool.false_ne_true,
      if_neg Bool.false_ne_true, if_pos waits]
    refine w.tables_queued registry buffers ?_
    show (introduced.spawnQueue ++ [_]).map _ = _
    rw [queue, List.map_append]
    rfl

theorem leave_tables (playerId : PlayerID) :
    (w.handlePlayerLeft playerId).tables
      = w.tables.apply (.leave playerId (w.client.registry.getPlayerEntities playerId)) := by
  have purged : ({ w with
      client := (w.client.removeRemotePlayer playerId).clearSpawnsForOwner playerId } :
        ClientWorld).tables = w.tables.purge playerId := by
    refine Tables.ext rfl rfl rfl rfl ?_ rfl rfl rfl
    show (w.client.spawnQueue.filter _).map _ = (w.client.spawnQueue.map _).filter _
    rw [List.filter_map]
    rfl
  have fold (ids : List EntityID) (v : ClientWorld) :
      (ids.foldl (fun w id => w.retire ⟨true, true, true⟩ playerId id) v).tables
        = ids.foldl (fun t id => t.retire ⟨true, true, true⟩ playerId id) v.tables := by
    induction ids generalizing v with
    | nil => rfl
    | cons id rest ih => rw [List.foldl_cons, List.foldl_cons, ih, tables_retire]
  unfold handlePlayerLeft
  rw [fold, purged]
  rfl

/-- An entity that loses its character first goes in the same way. -/
theorem despawn_tables (entityId : EntityID) :
    (w.handleEntityDespawn entityId).tables
      = w.tables.apply (w.retireTask ⟨true, w.client.registry.isRemote entityId, true⟩ entityId) := by
  have retired := w.tables_retire ⟨true, w.client.registry.isRemote entityId, true⟩
    (w.client.registry.getOwnerPlayerId entityId) entityId
  refine Eq.trans ?_ retired
  have rows : ((w.client.registry.setGameObject entityId 0).unregister entityId).rows
      = (w.client.registry.unregister entityId).rows := by
    rw [EntityRegistry.rows_unregister, EntityRegistry.rows_unregister,
      EntityRegistry.rows_setGameObject]
    funext other
    cases known : w.client.registry.rows entityId with
    | none => rfl
    | some row =>
      simp only [Function.update_apply]
      split_ifs <;> rfl
  have ids : ((w.client.registry.setGameObject entityId 0).unregister entityId).ids
      = (w.client.registry.unregister entityId).ids := by
    have bodiless : (w.client.registry.setGameObject entityId 0).getGameObject entityId = 0 := by
      unfold EntityRegistry.getGameObject
      have after := w.client.registry.getInfo_setGameObject_zero entityId entityId
      unfold EntityRegistry.getInfo at after
      rw [after, Option.map_map]
      cases w.client.registry.entities.lookup entityId with
      | none => rfl
      | some info => simp
    rw [EntityRegistry.ids_unregister, bodiless, if_pos rfl, EntityRegistry.ids_unregister,
      EntityRegistry.ids_setGameObject, ← EntityRegistry.object_rows]
    cases w.client.registry.rows entityId with
    | none => rfl
    | some row => rfl
  exact Tables.ext rows ids rfl rfl rfl rfl rfl rfl

theorem handlePositionUpdate_queue (sourcePlayer : PlayerID) (now : F32) (client : GameClient)
    (records : List CharacterPosition) :
    (records.foldl (GameClient.handlePosition sourcePlayer now) client).spawnQueue = client.spawnQueue := by
  induction records generalizing client with
  | nil => rfl
  | cons pos rest ih =>
    rw [List.foldl_cons, ih]
    unfold GameClient.handlePosition
    simp only
    split_ifs
    · rfl
    · cases validateInboundSnapshot pos sourcePlayer client.localPlayerId client.registry <;> rfl

/-- Health and status change no row. -/
theorem updated_tables (id : EntityID) {f : EntityInfo → EntityInfo}
    (kept : ∀ info, Row.of (f info) = Row.of info) :
    (w.withRegistry (w.client.registry.update id f)).tables = w.tables := by
  rw [tables_withRegistry, EntityRegistry.rows_update _ _ kept]
  rfl

theorem processAll_tables (clock : Nat → F32) :
    (w.processAll clock).tables
      = (walk (fun w entry => w.processDeferredSpawn entry.1 (clock entry.2))
          (fun w entry => w.deferredTasks entry.1 (clock entry.2)) w.client.deferredSpawns.zipIdx
            w).foldl Tables.apply w.tables := by
  have each (w : ClientWorld) (entry : DeferredSpawn × Nat) :
      (w.processDeferredSpawn entry.1 (clock entry.2)).tables
        = (w.deferredTasks entry.1 (clock entry.2)).foldl Tables.apply w.tables :=
    w.deferredTasks_tables entry.1 (clock entry.2)
  exact walk_tables each w.client.deferredSpawns.zipIdx w

/-- The messages about the world that only the client handles. -/
theorem world_tables (msg : S2C) (now render : F32) (clock : Nat → F32)
    (plain : (∀ playerId reason, msg ≠ .playerLeft playerId reason)
      ∧ (∀ entityId reason, msg ≠ .entityDespawn entityId reason)
      ∧ (∀ serverTick entityCount ids, msg ≠ .entityHeartbeat serverTick entityCount ids)
      ∧ ∀ buildingId reason, msg ≠ .buildDestroyed buildingId reason) :
    ({ w with client := w.client.handleWorld ⟨msg, now, render, clock⟩ } : ClientWorld).tables
      = (w.worldTasks ⟨msg, now, render, clock⟩).foldl Tables.apply w.tables := by
  obtain ⟨noLeft, noDespawn, noHeartbeat, noDestroyed⟩ := plain
  cases msg with
  | playerLeft playerId reason => exact absurd rfl (noLeft playerId reason)
  | entityDespawn entityId reason => exact absurd rfl (noDespawn entityId reason)
  | entityHeartbeat serverTick entityCount ids =>
    exact absurd rfl (noHeartbeat serverTick entityCount ids)
  | buildDestroyed buildingId reason => exact absurd rfl (noDestroyed buildingId reason)
  | positionUpdate sourcePlayer count records =>
    exact w.snapshotTasks_tables (w.client.handlePositionUpdate sourcePlayer count records now) _
      (w.client.positionOps_keep sourcePlayer now _)
      (w.client.handlePositionUpdate_registry sourcePlayer count records now)
      (handlePositionUpdate_queue sourcePlayer now w.client _)
      (w.client.positionOps_interpolation sourcePlayer now _)
  | moveCommand msg =>
    refine w.snapshotTasks_tables (w.client.handleMoveCommand msg now)
      [.add (w.client.commandAddition msg now)] (fun op inside => ?_) rfl rfl rfl
    rw [List.mem_singleton.mp inside]
    rfl
  | buildPlaced msg =>
    exact w.tables_registerRemote msg.entityId EntityType.Building msg.builderId msg.position
  | combatHit msg =>
    show ({ w with client := w.client.handleCombatHit msg } : ClientWorld).tables = w.tables
    unfold GameClient.handleCombatHit
    split_ifs
    · rfl
    · exact w.updated_tables _ fun _ => rfl
    · rfl
  | combatDeath msg =>
    show ({ w with client := w.client.handleCombatDeath msg } : ClientWorld).tables = w.tables
    unfold GameClient.handleCombatDeath
    split_ifs
    · rfl
    · exact w.updated_tables _ fun _ => rfl
  | combatKO msg =>
    show ({ w with client := w.client.handleCombatKO msg } : ClientWorld).tables = w.tables
    unfold GameClient.handleCombatKO
    split_ifs
    · rfl
    · exact w.updated_tables _ fun _ => rfl
  | limbHealth msg => exact w.updated_tables msg.entityId fun _ => rfl
  | statusEffect msg => exact w.updated_tables msg.entityId fun _ => rfl
  | _ => rfl

/-- A handler that runs in a loaded game only. -/
theorem inGame_tables {after : ClientWorld} {tasks : List Task}
    (loaded : after.tables = tasks.foldl Tables.apply w.tables) :
    (if w.client.gameLoaded then after else w).tables
      = (if w.client.gameLoaded then tasks else []).foldl Tables.apply w.tables := by
  split_ifs
  · exact loaded
  · rfl

theorem receive_tables (pages : CodePages) (arrival : Arrival) :
    (w.receive pages arrival).tables = (w.packetTasks arrival).foldl Tables.apply w.tables := by
  obtain ⟨msg, now, render, clock⟩ := arrival
  have plain (other : (∀ playerId reason, msg ≠ .playerLeft playerId reason)
      ∧ (∀ entityId reason, msg ≠ .entityDespawn entityId reason)
      ∧ (∀ serverTick entityCount ids, msg ≠ .entityHeartbeat serverTick entityCount ids)
      ∧ ∀ buildingId reason, msg ≠ .buildDestroyed buildingId reason) :
      ({ w with
          client := if w.client.gameLoaded then w.client.handleWorld ⟨msg, now, render, clock⟩
            else w.client } : ClientWorld).tables
        = (if w.client.gameLoaded then w.worldTasks ⟨msg, now, render, clock⟩ else []).foldl
          Tables.apply w.tables := by
    split_ifs
    · exact w.world_tables msg now render clock other
    · rfl
  cases msg with
  | handshakeAck ack =>
    show (w.handleHandshakeAck ack).tables
      = (if w.client.gameLoaded then [.resetHijacks] else [] : List Task).foldl Tables.apply w.tables
    unfold handleHandshakeAck
    simp only
    split_ifs <;> rfl
  | handshakeReject reasonCode reasonText =>
    show ({ w with client := w.client.handleHandshakeReject } : ClientWorld).tables = w.tables
    unfold GameClient.handleHandshakeReject
    split_ifs <;> rfl
  | playerJoined playerId playerName =>
    obtain ⟨names, joined⟩ := w.client.handlePlayerJoined_eq playerId playerName
    show ({ w with client := w.client.handlePlayerJoined playerId playerName } : ClientWorld).tables
      = (if w.client.gameLoaded then [] else []).foldl Tables.apply w.tables
    rw [joined, ite_self]
    rfl
  | allPlayersReady => exact w.processAll_tables clock
  | entitySpawn record =>
    show (w.handleEntitySpawn pages (PacketReader.start record.write) now render).tables = _
    unfold handleEntitySpawn GameClient.handleEntitySpawn packetTasks
    simp only
    cases readEntitySpawn (PacketReader.start record.write) with
    | none => rfl
    | some spawn => exact w.spawnTasks_tables pages spawn now render
  | playerLeft playerId reason => exact w.inGame_tables (w.leave_tables playerId)
  | entityDespawn entityId reason => exact w.inGame_tables (w.despawn_tables entityId)
  | entityHeartbeat serverTick entityCount ids =>
    exact w.inGame_tables (w.retireTasks_tables ⟨false, true, true⟩ _)
  | buildDestroyed buildingId reason =>
    exact w.inGame_tables (w.tables_retire ⟨false, false, false⟩ _ buildingId)
  | _ =>
    exact plain (by simp)

/-! ### Events of the game -/

theorem linkLateTasks_tables (entityId : EntityID) :
    (w.linkLate entityId).tables = (w.linkLateTasks entityId).foldl Tables.apply w.tables := by
  unfold linkLate linkLateTasks
  simp only
  cases known : w.info entityId with
  | none => rfl
  | some info =>
    simp only
    split_ifs with links
    · obtain ⟨both, free⟩ := (Bool.and_eq_true _ _).mp links
      obtain ⟨bodiless, waits⟩ := (Bool.and_eq_true _ _).mp both
      have registry : w.client.linkLate entityId
          = (w.client.withRegistry ((w.client.registry.setGameObject entityId
            (w.client.findModCharacterBySlot info.ownerPlayerId)).updatePosition entityId
              info.lastPosition)).onRemoteCharacterSpawned
                (w.client.findModCharacterBySlot info.ownerPlayerId) info.ownerPlayerId := by
        unfold GameClient.linkLate
        rw [if_neg (not_not.mpr (of_decide_eq_true bodiless)),
          show w.client.registry.getInfo entityId = some info from known]
        simp only
        rw [if_pos (by rw [waits, free]; rfl)]
      rw [registry]
      have given := w.tables_embody .link
        ⟨entityId, 0, 0, [], info.lastPosition, {}, 0, 0, 0, false, fun _ => lit 100 1, true⟩
        (w.client.findModCharacterBySlot info.ownerPlayerId)
      exact given
    · rfl

theorem loadTasks_tables (characters : List (Bytes × GameObject)) :
    (w.onGameLoaded characters).tables = (w.loadTasks characters).foldl Tables.apply w.tables := by
  unfold onGameLoaded loadTasks
  by_cases loaded : w.client.gameLoaded = true
  · rw [if_pos loaded, loaded]
    rfl
  rw [if_neg loaded, Bool.not_eq_true _ |>.mp loaded]
  cases connected : w.connected with
  | false => rfl
  | true =>
    simp only [Bool.not_true, Bool.or_self, Bool.false_eq_true, if_false, if_true]
    rw [walk_tables fun w entityId => w.linkLateTasks_tables entityId]
    rfl

/-- The removals of a zone come last, and each might as well come with its cleaning. -/
theorem unload_tables (entries : List (EntityID × EntityInfo)) (registry : EntityRegistry)
    (w : ClientWorld) :
    ((entries.foldl (fun (w : ClientWorld) (id, info) =>
        let counted := if info.isRemote then w.decrementSpawnCount info.ownerPlayerId else w
        { counted with
          client := { w.client with interpolation := w.client.interpolation.removeEntity id } })
        w).withRegistry
          (registry.unregisterAll ((entries.filter fun (_, info) => info.isRemote).map Prod.fst))).tables
      = (entries.map unloadTask).foldl Tables.apply (w.withRegistry registry).tables := by
  induction entries generalizing registry w with
  | nil => rfl
  | cons entry rest ih =>
    obtain ⟨id, info⟩ := entry
    rw [List.foldl_cons, List.map_cons, List.foldl_cons, List.filter_cons]
    simp only
    cases remote : info.isRemote with
    | true =>
      simp only [if_true, List.map_cons]
      show (ClientWorld.withRegistry _ ((registry.unregister id).unregisterAll _)).tables = _
      rw [ih]
      refine congrArg (List.foldl Tables.apply · _) ?_
      have retired := (w.withRegistry registry).tables_retire ⟨false, true, true⟩ info.ownerPlayerId id
      unfold unloadTask
      rw [remote, if_pos rfl]
      exact retired
    | false =>
      simp only [Bool.false_eq_true, if_false]
      rw [ih]
      refine congrArg (List.foldl Tables.apply · _) ?_
      unfold unloadTask
      rw [remote, if_neg Bool.false_ne_true]
      refine Tables.ext rfl rfl ?_ rfl rfl rfl rfl rfl
      exact w.client.interpolation.buffers_removeEntity id

theorem unloadTasks_tables (zone : ZoneCoord) :
    (w.unloadZone zone).tables = (w.unloadTasks zone).foldl Tables.apply w.tables := by
  have registry (entries : List (EntityID × EntityInfo)) (v : ClientWorld) :
      (entries.foldl (fun (w : ClientWorld) (id, info) =>
        let counted := if info.isRemote then w.decrementSpawnCount info.ownerPlayerId else w
        { counted with
          client := { w.client with interpolation := w.client.interpolation.removeEntity id } })
        v).client.registry = v.client.registry := by
    induction entries generalizing v with
    | nil => rfl
    | cons entry rest ih => rw [List.foldl_cons, ih]
  have unloaded := unload_tables (w.client.registry.entities.toList.filter fun (_, info) =>
    info.zone = zone) w.client.registry w
  rw [List.filter_filter] at unloaded
  unfold unloadZone unloadTasks EntityRegistry.removeEntitiesInZone
  simp only
  rw [registry]
  refine Eq.trans ?_ unloaded
  refine congrArg (fun gone => (ClientWorld.withRegistry _
    (w.client.registry.unregisterAll (List.map Prod.fst gone))).tables) ?_
  refine List.filter_congr fun entry _ => ?_
  exact Bool.and_comm _ _

/-- The characters of some entities are unmarked. -/
theorem unmarked_remoteControlled (ids : List EntityID) (w : ClientWorld) :
    ids.foldl (fun w id =>
        let object := w.client.registry.getGameObject id
        if object ≠ 0 then w.unmarkRemoteControlled object else w) w
      = { w with remoteControlled := w.remoteControlled.filter fun object =>
          ¬ (object ≠ 0 ∧ ∃ id ∈ ids, w.client.registry.getGameObject id = object) } := by
  induction ids generalizing w with
  | nil =>
    have all : w.remoteControlled.filter (fun object =>
        ¬ (object ≠ 0 ∧ ∃ id ∈ ([] : List EntityID), w.client.registry.getGameObject id = object))
          = w.remoteControlled :=
      Finset.filter_true_of_mem fun object _ both => by obtain ⟨-, id, inside, -⟩ := both; cases inside
    rw [all]
    rfl
  | cons id rest ih =>
    rw [List.foldl_cons, ih]
    have client : (let object := w.client.registry.getGameObject id
        if object ≠ 0 then w.unmarkRemoteControlled object else w).client = w.client := by
      simp only
      split_ifs <;> rfl
    rw [client]
    simp only
    split_ifs with embodied
    · unfold unmarkRemoteControlled
      simp only
      congr 1
      ext object
      simp only [Finset.mem_filter, Finset.mem_erase, List.mem_cons, exists_eq_or_imp]
      constructor
      · rintro ⟨⟨other, marked⟩, rest⟩
        refine ⟨marked, fun both => ?_⟩
        rcases both.2 with here | later
        · exact other here.symm
        · exact rest ⟨both.1, later⟩
      · rintro ⟨marked, rest⟩
        refine ⟨⟨fun here => rest ⟨here ▸ embodied, .inl here.symm⟩, marked⟩, fun both => ?_⟩
        exact rest ⟨both.1, .inr both.2⟩
    · congr 1
      refine Finset.filter_congr fun object _ => not_congr (and_congr_right fun there => ?_)
      simp only [List.mem_cons, exists_eq_or_imp]
      refine ⟨.inr, fun either => either.resolve_left fun here => ?_⟩
      exact there (here.symm.trans (not_not.mp embodied))

theorem isLinked_iff (object : GameObject) :
    w.tables.IsLinked object ↔ object ≠ 0
      ∧ ∃ id ∈ w.client.registry.getRemoteEntities, w.client.registry.getGameObject id = object := by
  refine and_congr_right fun _ => exists_congr fun id => ?_
  have rows : w.tables.rows id = (w.client.registry.entities.lookup id).map Row.of := rfl
  rw [EntityRegistry.mem_getRemoteEntities, rows]
  unfold EntityRegistry.getInfo EntityRegistry.getGameObject
  cases w.client.registry.entities.lookup id with
  | none => simp
  | some info => simp [Row.of]

theorem clearRemoteEntities_tables :
    (w.withRegistry w.client.registry.clearRemoteEntities).tables
      = { w.tables with
          rows := (w.tables.disconnect false).rows, ids := (w.tables.disconnect false).ids } := by
  classical
  unfold EntityRegistry.clearRemoteEntities
  rw [tables_withRegistry]
  refine Tables.ext (funext fun id => ?_) (funext fun object => ?_) rfl rfl rfl rfl rfl rfl
  · show (w.client.registry.unregisterAll _).rows id = (w.tables.rows id).filter _
    have rows : w.tables.rows id = (w.client.registry.entities.lookup id).map Row.of := rfl
    rw [EntityRegistry.rows_unregisterAll, rows]
    unfold EntityRegistry.rows
    by_cases remote : id ∈ w.client.registry.getRemoteEntities
    · rw [if_pos remote]
      obtain ⟨info, known, remote⟩ := w.client.registry.mem_getRemoteEntities.mp remote
      rw [show w.client.registry.entities.lookup id = some info from known]
      simp [Row.of, remote, Option.filter]
    · rw [if_neg remote]
      unfold EntityRegistry.getInfo
      cases known : w.client.registry.entities.lookup id with
      | none => rfl
      | some info =>
        have local' : info.isRemote = false := Bool.not_eq_true _ |>.mp fun isRemote =>
          remote (w.client.registry.mem_getRemoteEntities.mpr ⟨info, known, isRemote⟩)
        simp [Row.of, local', Option.filter]
  · show (w.client.registry.unregisterAll _).ids object = _
    unfold Tables.disconnect
    simp only
    rw [EntityRegistry.ids_unregisterAll]
    exact if_congr (w.isLinked_iff object).symm rfl rfl

theorem disconnect_tables : w.setDisconnected.tables = w.tables.apply (.disconnect false) := by
  have cleared := w.clearRemoteEntities_tables
  have rows := congrArg Tables.rows cleared
  have ids := congrArg Tables.ids cleared
  exact Tables.ext rows ids (funext fun _ => rfl) rfl rfl rfl rfl rfl

theorem lossNoticed_tables : w.lossNoticed.tables = w.tables.apply (.disconnect true) := by
  classical
  unfold lossNoticed
  rw [unmarked_remoteControlled, disconnect_tables]
  refine Tables.ext rfl rfl rfl ?_ rfl rfl rfl rfl
  ext object
  refine Finset.mem_filter.trans (Iff.trans ?_ Finset.mem_filter.symm)
  exact and_congr_right fun _ => not_congr (w.isLinked_iff object).symm

theorem ownTasks_tables (character : GameObject) (type : UInt8) :
    (w.registerOwn character type).tables = (w.ownTasks character).foldl Tables.apply w.tables := by
  unfold registerOwn ownTasks EntityRegistry.register EntityRegistry.ids
  by_cases invalid : EntityRegistry.invalidPointer character = true
  · rw [if_pos invalid, invalid]
    rfl
  rw [if_neg invalid, Bool.not_eq_true _ |>.mp invalid]
  cases w.client.registry.ptrToId.lookup character with
  | some known => rfl
  | none =>
    refine Tables.ext (funext fun id => ?_) (funext fun object => ?_) rfl rfl rfl rfl rfl rfl
    · show ((AList.insert w.client.registry.nextId _ w.client.registry.entities).lookup id).map Row.of
        = Function.update w.tables.rows w.client.registry.nextId _ id
      rw [AMap.lookup_insert_eq, Function.update_apply]
      split_ifs <;> rfl
    · show (AList.insert character w.client.registry.nextId w.client.registry.ptrToId).lookup object
        = Function.update w.tables.ids character _ object
      rw [AMap.lookup_insert_eq, Function.update_apply]
      rfl

/-! ### Requests -/

theorem tables_count (path : SpawnPath) (owner : PlayerID) :
    (match path with
      | .direct => w.countDirectSpawn owner
      | .hijack => w.countSpawn owner
      | _ => w).tables = w.tables.count path owner := by
  cases path <;> rfl

section Take

variable {w} {req : FactoryRequest} {rest : List FactoryRequest}
  (queued : w.client.spawnQueue = req :: rest)
include queued

/-- The tables at the next request. -/
theorem take_tables (fate : RequestFate) :
    w.tables.apply (.take fate)
      = match fate with
        | .discard => (w.withQueue rest).tables.count .direct req.owner
        | .drop => (w.withQueue rest).tables
        | .give path character =>
          ((w.withQueue rest).tables.embody path req.netId character).count path req.owner
        | .requeue =>
          { w.tables with
            queue := (rest.map fun req => (req.netId, req.owner)) ++ [(req.netId, req.owner)] }
        | .exhaust => (w.withQueue rest).tables.retire ⟨false, true, true⟩ req.owner req.netId
        | .release => (w.withQueue rest).tables.decrement req.owner := by
  have queue : w.tables.queue = (req.netId, req.owner) :: rest.map fun req => (req.netId, req.owner) := by
    show w.client.spawnQueue.map _ = _
    rw [queued]
    rfl
  unfold Tables.apply Tables.take
  rw [queue]
  cases fate <;> rfl

theorem takeTasks_cons (fate : FactoryRequest → RequestFate) : w.takeTasks fate = [.take (fate req)] := by
  unfold takeTasks
  rw [queued]
  rfl

theorem requeue_tables {exhausted : ClientWorld → ClientWorld} {fate : RequestFate}
    (last : (exhausted (w.withQueue rest)).tables = w.tables.apply (.take fate)) :
    ((w.withQueue rest).requeue req exhausted).tables = w.tables.apply (.take (requeueFate req fate)) := by
  unfold requeue requeueFate
  by_cases again : req.retryCount + 1 < MAX_SPAWN_RETRIES
  · rw [if_pos again, if_pos again, take_tables queued]
    refine Tables.ext rfl rfl rfl rfl ?_ rfl rfl rfl
    show (rest ++ [_]).map _ = _
    rw [List.map_append]
    rfl
  · rw [if_neg again, if_neg again, last]

end Take

theorem spawnNext_tables (character : GameObject) :
    (w.spawnNext character).tables = (w.takeTasks (w.spawnFate character)).foldl Tables.apply w.tables := by
  unfold spawnNext
  cases queued : w.client.spawnQueue with
  | nil =>
    unfold takeTasks
    rw [queued]
    rfl
  | cons req rest =>
    rw [takeTasks_cons queued, List.foldl_cons, List.foldl_nil]
    unfold spawnFate
    simp only
    have given (character : GameObject) :
        ((((w.withQueue rest).embody .direct req character).applyHealth req).countDirectSpawn
          req.owner).tables = w.tables.apply (.take (.give .direct character)) := by
      rw [take_tables queued]
      refine (tables_count _ .direct req.owner).trans ?_
      rw [tables_applyHealth, tables_embody]
    split_ifs
    · rw [take_tables queued]
      exact tables_count _ .direct req.owner
    · rw [take_tables queued]
    · exact given _
    · exact given _
    · refine requeue_tables queued ?_
      rw [take_tables queued, tables_retire]

theorem stageProcessSpawns_tables (character : GameObject) (ticks : w.ticks = true) :
    (w.stageProcessSpawns character).tables
      = (w.takeTasks (w.stagedFate character)).foldl Tables.apply w.tables := by
  unfold stageProcessSpawns
  rw [if_pos ticks]
  cases queued : w.client.spawnQueue with
  | nil =>
    unfold takeTasks
    rw [queued]
    rfl
  | cons req rest =>
    rw [takeTasks_cons queued, List.foldl_cons, List.foldl_nil]
    unfold stagedFate
    simp only
    split_ifs
    · rw [take_tables queued]
      rfl
    · rw [take_tables queued, tables_embody]
      rfl
    · refine requeue_tables queued ?_
      rw [take_tables queued]
      rfl

theorem onCharacterCreate_tables (character : GameObject) (succeeds : Bool) (ticks : w.ticks = true) :
    (w.onCharacterCreate character succeeds).tables
      = (w.takeTasks (w.hijackFate character succeeds)).foldl Tables.apply w.tables := by
  unfold onCharacterCreate
  rw [if_pos ticks]
  cases queued : w.client.spawnQueue with
  | nil =>
    unfold takeTasks
    rw [queued]
    rfl
  | cons req rest =>
    rw [takeTasks_cons queued, List.foldl_cons, List.foldl_nil]
    unfold hijackFate
    simp only
    split_ifs
    · rw [take_tables queued]
      refine (tables_count _ .hijack req.owner).trans ?_
      rw [tables_embody]
    · refine requeue_tables queued ?_
      rw [take_tables queued]
      rfl
    · rw [take_tables queued]
      refine Tables.ext rfl rfl rfl rfl ?_ rfl rfl rfl
      show (rest ++ [_]).map _ = _
      rw [List.map_append]
      rfl

theorem cleanUpStuck_tables : w.cleanUpStuck.tables = w.stuckTasks.foldl Tables.apply w.tables := by
  refine walk_tables (fun w id => ?_) w.client.registry.getRemoteEntities w
  split_ifs
  · exact w.tables_retire ⟨false, true, true⟩ _ id
  · rfl

/-- A visit readies the counts, takes a request, and cleans up. -/
theorem handleSpawnQueue_eq (visit : QueueVisit) (ticks : w.ticks = true) :
    w.handleSpawnQueue visit
      = if w.cleansUp visit then (w.visited visit).cleanUpStuck else w.visited visit := by
  unfold handleSpawnQueue
  rw [if_pos ticks]
  rfl

theorem readied_tables :
    w.readied.tables
      = (if w.needSpawnQueueReset then [.resetDirects] else [] : List Task).foldl Tables.apply
        w.tables := by
  unfold readied
  split_ifs <;> rfl

/-- The tasks of a visit, up to the check for stuck entities. -/
def visitedTasks (visit : QueueVisit) : List Task :=
  (if w.needSpawnQueueReset then [.resetDirects] else [])
    ++ if visit.due then w.readied.takeTasks (w.readied.spawnFate visit.character)
      else if visit.resumes then [.resetHijacks] else []

theorem visited_tables (visit : QueueVisit) :
    (w.visited visit).tables = (w.visitedTasks visit).foldl Tables.apply w.tables := by
  unfold visitedTasks visited
  rw [List.foldl_append, ← readied_tables]
  split_ifs
  · exact w.readied.spawnNext_tables visit.character
  · rfl
  · rfl

theorem visitTasks_eq (visit : QueueVisit) :
    w.visitTasks visit
      = w.visitedTasks visit ++ if w.cleansUp visit then (w.visited visit).stuckTasks else [] := rfl

theorem visitTasks_tables (visit : QueueVisit) (ticks : w.ticks = true) :
    (w.handleSpawnQueue visit).tables = (w.visitTasks visit).foldl Tables.apply w.tables := by
  rw [handleSpawnQueue_eq w visit ticks, visitTasks_eq, List.foldl_append, ← visited_tables]
  split_ifs
  · exact (w.visited visit).cleanUpStuck_tables
  · rfl

/-! ### One event -/

/-- **The tasks of an event are all that happens to the tables.** -/
theorem step_tables (pages : CodePages) (event : Event) :
    (w.step pages event).tables = (w.tasks event).foldl Tables.apply w.tables := by
  have ticking {after : ClientWorld} {tasks : List Task}
      (running : w.ticks = true → after.tables = tasks.foldl Tables.apply w.tables) :
      (if w.ticks then after else w).tables
        = (if w.ticks then tasks else []).foldl Tables.apply w.tables := by
    split_ifs with ticks
    · exact running ticks
    · rfl
  cases event with
  | receive arrival => exact w.receive_tables pages arrival
  | gameLoaded characters => exact w.loadTasks_tables characters
  | loadingGap =>
    unfold step tasks onLoadingGapDetected GameClient.onLoadingGapDetected
    cases phase : w.client.clientPhase <;> rfl
  | zoneUnloaded zone => exact ticking fun _ => w.unloadTasks_tables zone
  | objectLost id => exact ticking fun _ => w.tables_setGameObject id 0
  | registerOwn character type => exact ticking fun _ => w.ownTasks_tables character type
  | disconnect => exact w.disconnect_tables
  | lossNoticed =>
    unfold step tasks
    simp only
    split_ifs
    · exact w.lossNoticed_tables
    · rfl
  | resumeForNetwork => exact ticking fun _ => rfl
  | handleSpawnQueue visit =>
    unfold step tasks
    simp only
    by_cases ticks : w.ticks = true
    · rw [if_pos ticks]
      exact w.visitTasks_tables visit ticks
    · rw [if_neg ticks]
      unfold handleSpawnQueue
      rw [if_neg ticks]
      rfl
  | stageProcessSpawns character =>
    unfold step tasks
    simp only
    by_cases ticks : w.ticks = true
    · rw [if_pos ticks]
      exact w.stageProcessSpawns_tables character ticks
    · rw [if_neg ticks]
      unfold stageProcessSpawns
      rw [if_neg ticks]
      rfl
  | characterCreate character succeeds =>
    unfold step tasks
    simp only
    by_cases ticks : w.ticks = true
    · rw [if_pos ticks]
      exact w.onCharacterCreate_tables character succeeds ticks
    · rw [if_neg ticks]
      unfold onCharacterCreate
      rw [if_neg ticks]
      rfl

end ClientWorld

end KenshiMP
