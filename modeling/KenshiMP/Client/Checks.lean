/-
**What the handlers of a client have checked when they come to a task.**

`tasks_checked`: a request gets a character only below the cap of its path, the entities of a player who
leaves are all of them, only an own entity gets another number, and an announcement brings positions of
no other entity. `receive_client` connects the client with its tables to the one of `Client/Incoming.lean`.
-/

import KenshiMP.Client.Tasks

namespace KenshiMP

open Wire (Bytes)
open Assoc

/-! ### What the handlers have checked -/

/-- What holds of the tables when a handler comes to a task. -/
def Tables.Checked (t : Tables) : Task → Prop
  | .announce id _ buffered _ => ∀ other ∈ buffered, other = id
  | .take fate =>
    ∀ id owner rest, t.queue = (id, owner) :: rest →
      match fate with
      | .discard => t.object id ≠ 0
      | .give .direct _ => t.object id = 0 ∧ t.directs owner < MAX_DIRECT_SPAWNS_PER_PLAYER
      | .give .hijack _ => t.hijacks owner < MAX_SPAWNS_PER_PLAYER
      | .exhaust => t.object id = 0
      | _ => True
  | .leave owner ids => ids.Nodup ∧ ∀ id, id ∈ ids ↔ ∃ row, t.rows id = some row ∧ row.owner = owner
  | .own _ character _ => t.ids character = none
  | .confirm oldId _ => ¬ t.IsRemote oldId
  | _ => True

namespace Tables

theorem run_eq_foldl (t : Tables) (tasks : List Task) : machine.run t tasks = tasks.foldl Tables.apply t := by
  induction tasks generalizing t with
  | nil => rfl
  | cons task rest ih => exact ih (t.apply task)

variable {guard : Tables → Task → Prop}

theorem along_append {t : Tables} {first second : List Task} :
    machine.Along guard t (first ++ second)
      ↔ machine.Along guard t first ∧ machine.Along guard (first.foldl Tables.apply t) second := by
  rw [Machine.along_append, run_eq_foldl]

theorem along_single {t : Tables} {task : Task} :
    machine.Along guard t [task] ↔ guard t task := and_iff_left trivial

/-- What every guarded task preserves holds after guarded tasks. -/
theorem foldl_invariant {motive : Tables → Prop}
    (preserved : ∀ t task, t.Checked task → guard t task → motive t → motive (t.apply task))
    {t : Tables} (initial : motive t) {tasks : List Task}
    (checked : machine.Along Checked t tasks) (along : machine.Along guard t tasks) :
    motive (tasks.foldl Tables.apply t) := by
  induction tasks generalizing t with
  | nil => exact initial
  | cons task rest ih =>
    exact ih (preserved t task checked.1 along.1 initial) checked.2 along.2

end Tables

theorem GameClient.Keyed.buffered {client : GameClient} (keyed : client.Keyed) (entityId : EntityID)
    (type : UInt8) (ownerId : PlayerID) (spawnPos : Vec3) (rot : Quat) (now : F32) :
    ∀ other ∈ (client.introduceOps entityId type ownerId spawnPos rot now).filterMap
      InterpOp.buffered, other = entityId := by
  intro other inside
  obtain ⟨op, member, found⟩ := List.mem_filterMap.mp inside
  rcases List.mem_append.mp member with flushed | placed
  · obtain ⟨snapshot, waiting, rfl⟩ := List.mem_map.mp flushed
    have waits : snapshot ∈ (client.pendingSnapshots.lookup entityId).getD [] := waiting
    cases pending : client.pendingSnapshots.lookup entityId with
    | none =>
      rw [pending] at waits
      cases waits
    | some snapshots =>
      rw [pending] at waits
      simp only [InterpOp.buffered] at found
      split_ifs at found
      exact (Option.some.inj found).symm.trans (keyed entityId snapshots pending snapshot waits)
  · rw [List.mem_singleton.mp placed] at found
    simp only [InterpOp.buffered] at found
    split_ifs at found
    exact (Option.some.inj found).symm

namespace ClientWorld

variable (w : ClientWorld)

variable {guard : Tables → Task → Prop} {motive : Tables → Prop}

/-- A walk is guarded if the tasks of each entry are. -/
theorem walk_along {α : Type} {motive : ClientWorld → Prop}
    {step : ClientWorld → α → ClientWorld} {tasks : ClientWorld → α → List Task}
    (each : ∀ w entry, (step w entry).tables = (tasks w entry).foldl Tables.apply w.tables)
    (kept : ∀ w entry, motive w → motive (step w entry))
    (guarded : ∀ w entry, motive w → Tables.machine.Along guard w.tables (tasks w entry))
    (entries : List α) (w : ClientWorld) (initial : motive w) :
    Tables.machine.Along guard w.tables (walk step tasks entries w) := by
  induction entries generalizing w with
  | nil => trivial
  | cons entry rest ih =>
    refine Tables.along_append.mpr ⟨guarded w entry initial, ?_⟩
    rw [← each]
    exact ih _ (kept w entry initial)

theorem mem_walk {α : Type} {step : ClientWorld → α → ClientWorld}
    {tasks : ClientWorld → α → List Task} {task : Task} {entries : List α} {w : ClientWorld}
    (inside : task ∈ walk step tasks entries w) : ∃ v, ∃ entry ∈ entries, task ∈ tasks v entry := by
  induction entries generalizing w with
  | nil => cases inside
  | cons entry rest ih =>
    rcases List.mem_append.mp inside with here | later
    · exact ⟨w, entry, List.mem_cons_self, here⟩
    · obtain ⟨v, other, member, found⟩ := ih later
      exact ⟨v, other, List.mem_cons_of_mem _ member, found⟩

theorem retireTasks_checked (cleanUp : CleanUp) (ids : List EntityID) (t : Tables) :
    Tables.machine.Along Tables.Checked t (w.retireTasks cleanUp ids) := by
  refine Machine.along_of_forall fun task inside t => ?_
  obtain ⟨v, id, -, found⟩ := mem_walk inside
  rw [List.mem_singleton.mp found]
  trivial

theorem deferredTasks_checked (keyed : w.client.Keyed) (ds : DeferredSpawn) (now : F32) :
    Tables.machine.Along Tables.Checked w.tables (w.deferredTasks ds now) := by
  unfold deferredTasks
  split_ifs
  · trivial
  · exact Tables.along_single.mpr (keyed.buffered _ _ _ _ _ _)

/-- What is confirmed is an entity of the own player. -/
theorem spawnTasks_checked (keyed : w.client.Keyed) (spawn : EntitySpawn) (now : F32) :
    Tables.machine.Along Tables.Checked w.tables (w.spawnTasks spawn now) := by
  unfold spawnTasks
  simp only
  split_ifs with own renamed
  · refine Tables.along_single.mpr ?_
    rintro ⟨row, known, remote⟩
    obtain ⟨there, -⟩ := (Bool.and_eq_true _ _).mp renamed
    rw [EntityRegistry.findLocalEntityNear_eq_nearest] at there known
    obtain ⟨entry, inside, here⟩ := (Holdings.nearest_mem _ _ _).resolve_left (of_decide_eq_true there)
    obtain ⟨info, stored, local', -, -⟩ := w.client.registry.mem_own.mp inside
    rw [← here] at known
    have rows : w.tables.rows entry.1 = (w.client.registry.getInfo entry.1).map Row.of := rfl
    rw [rows, stored] at known
    cases known
    rw [show (Row.of info).remote = info.isRemote from rfl, local'] at remote
    cases remote
  · trivial
  · trivial
  · have noted : (w.client.noteHostSpawnPoint spawn.spawnPos).Keyed := by
      unfold GameClient.noteHostSpawnPoint
      split_ifs
      · exact keyed
      · exact keyed
    exact Tables.along_single.mpr (noted.buffered _ _ _ _ _ _)

theorem leave_checked (playerId : PlayerID) :
    w.tables.Checked (.leave playerId (w.client.registry.getPlayerEntities playerId)) := by
  constructor
  · exact (AMap.toList_keys_nodup w.client.registry.entities).sublist (List.filter_sublist.map Prod.fst)
  · intro id
    have rows : w.tables.rows id = (w.client.registry.getInfo id).map Row.of := rfl
    rw [w.client.registry.mem_getPlayerEntities, rows]
    cases w.client.registry.getInfo id with
    | none => simp
    | some info => simp [Row.of]

theorem packetTasks_checked (keyed : w.client.Keyed) (arrival : Arrival) :
    Tables.machine.Along Tables.Checked w.tables (w.packetTasks arrival) := by
  obtain ⟨msg, now, render, clock⟩ := arrival
  have inGame {tasks : List Task} (loaded : Tables.machine.Along Tables.Checked w.tables tasks) :
      Tables.machine.Along Tables.Checked w.tables (if w.client.gameLoaded then tasks else []) := by
    split_ifs
    · exact loaded
    · trivial
  have snapshots (ops : List InterpOp) :
      Tables.machine.Along Tables.Checked w.tables (snapshotTasks ops) := by
    refine Machine.along_of_forall fun task inside t => ?_
    obtain ⟨id, -, rfl⟩ := List.mem_map.mp inside
    trivial
  cases msg with
  | handshakeAck ack => exact inGame (Tables.along_single.mpr trivial)
  | allPlayersReady =>
    have each (w : ClientWorld) (entry : DeferredSpawn × Nat) :
        (w.processDeferredSpawn entry.1 (clock entry.2)).tables
          = (w.deferredTasks entry.1 (clock entry.2)).foldl Tables.apply w.tables :=
      w.deferredTasks_tables entry.1 (clock entry.2)
    have kept (w : ClientWorld) (entry : DeferredSpawn × Nat) (keyed : w.client.Keyed) :
        (w.processDeferredSpawn entry.1 (clock entry.2)).client.Keyed := by
      have processed := keyed.processEach clock [entry]
      unfold processDeferredSpawn
      simp only
      split_ifs <;> exact processed
    exact walk_along each kept
      (fun w entry keyed => w.deferredTasks_checked keyed entry.1 (clock entry.2)) _ w keyed
  | entitySpawn record =>
    unfold packetTasks
    simp only
    cases readEntitySpawn (PacketReader.start record.write) with
    | none => trivial
    | some spawn => exact w.spawnTasks_checked keyed spawn now
  | playerLeft playerId reason =>
    exact inGame (Tables.along_single.mpr (w.leave_checked playerId))
  | entityDespawn entityId reason => exact inGame (Tables.along_single.mpr trivial)
  | entityHeartbeat serverTick entityCount ids =>
    exact inGame (w.retireTasks_checked ⟨false, true, true⟩ _ _)
  | positionUpdate sourcePlayer count records => exact inGame (snapshots _)
  | moveCommand msg => exact inGame (snapshots _)
  | buildPlaced msg => exact inGame (Tables.along_single.mpr trivial)
  | buildDestroyed buildingId reason => exact inGame (Tables.along_single.mpr trivial)
  | handshakeReject reasonCode reasonText => trivial
  | _ =>
    refine inGame ?_
    trivial

/-- What a handler of requests has checked. -/
theorem takeTasks_checked {fate : FactoryRequest → RequestFate}
    (checked : ∀ req rest, w.client.spawnQueue = req :: rest →
      match fate req with
      | .discard => w.client.registry.getGameObject req.netId ≠ 0
      | .give .direct _ => w.client.registry.getGameObject req.netId = 0
        ∧ w.directSpawnsPerPlayer req.owner < MAX_DIRECT_SPAWNS_PER_PLAYER
      | .give .hijack _ => w.spawnsPerPlayer req.owner < MAX_SPAWNS_PER_PLAYER
      | .exhaust => w.client.registry.getGameObject req.netId = 0
      | _ => True) :
    Tables.machine.Along Tables.Checked w.tables (w.takeTasks fate) := by
  cases queued : w.client.spawnQueue with
  | nil =>
    unfold takeTasks
    rw [queued]
    trivial
  | cons req rest =>
    rw [takeTasks_cons queued]
    refine Tables.along_single.mpr fun id owner others queue => ?_
    have head : w.tables.queue = (req.netId, req.owner) :: rest.map fun req => (req.netId, req.owner) := by
      show w.client.spawnQueue.map _ = _
      rw [queued]
      rfl
    rw [head] at queue
    cases queue
    rw [tables_object]
    exact checked req rest queued

/-- A request waits for another attempt, or has had its last. -/
theorem requeueFate_cases (req : FactoryRequest) (last : RequestFate) :
    requeueFate req last = .requeue ∨ requeueFate req last = last := by
  unfold requeueFate
  split_ifs
  · exact .inl rfl
  · exact .inr rfl

/-- A character is given only below the cap, to an entity that has none. -/
theorem spawnFate_checked (character : GameObject) :
    Tables.machine.Along Tables.Checked w.tables (w.takeTasks (w.spawnFate character)) := by
  refine w.takeTasks_checked fun req rest queued => ?_
  unfold spawnFate
  split_ifs with embodied capped linked made
  · exact embodied
  · trivial
  · exact ⟨not_not.mp embodied, Nat.not_le.mp capped⟩
  · exact ⟨not_not.mp embodied, Nat.not_le.mp capped⟩
  · rcases requeueFate_cases req .exhaust with again | last
    · rw [again]
      trivial
    · rw [last]
      exact not_not.mp embodied

theorem stagedFate_checked (character : GameObject) :
    Tables.machine.Along Tables.Checked w.tables (w.takeTasks (w.stagedFate character)) := by
  refine w.takeTasks_checked fun req rest queued => ?_
  unfold stagedFate
  split_ifs
  · trivial
  · trivial
  · rcases requeueFate_cases req .release with again | last
    · rw [again]
      trivial
    · rw [last]
      trivial

theorem hijackFate_checked (character : GameObject) (succeeds : Bool) :
    Tables.machine.Along Tables.Checked w.tables (w.takeTasks (w.hijackFate character succeeds)) := by
  refine w.takeTasks_checked fun req rest queued => ?_
  unfold hijackFate
  split_ifs with below made
  · exact below
  · rcases requeueFate_cases req .drop with again | last
    · rw [again]
      trivial
    · rw [last]
      trivial
  · trivial

theorem stuckTasks_checked (t : Tables) : Tables.machine.Along Tables.Checked t w.stuckTasks := by
  refine Machine.along_of_forall fun task inside t => ?_
  obtain ⟨v, id, -, found⟩ := mem_walk inside
  split_ifs at found
  · rw [List.mem_singleton.mp found]
    trivial
  · cases found

theorem visitedTasks_checked (visit : QueueVisit) :
    Tables.machine.Along Tables.Checked w.tables (w.visitedTasks visit) := by
  unfold visitedTasks
  refine Tables.along_append.mpr ⟨?_, ?_⟩
  · split_ifs
    · exact Tables.along_single.mpr trivial
    · trivial
  · rw [← readied_tables]
    split_ifs
    · exact w.readied.spawnFate_checked visit.character
    · exact Tables.along_single.mpr trivial
    · trivial

theorem visitTasks_checked (visit : QueueVisit) :
    Tables.machine.Along Tables.Checked w.tables (w.visitTasks visit) := by
  rw [visitTasks_eq]
  refine Tables.along_append.mpr ⟨w.visitedTasks_checked visit, ?_⟩
  split_ifs
  · exact (w.visited visit).stuckTasks_checked _
  · trivial

theorem loadTasks_checked (characters : List (Bytes × GameObject)) (t : Tables) :
    Tables.machine.Along Tables.Checked t (w.loadTasks characters) := by
  unfold loadTasks
  split_ifs
  · trivial
  · refine ⟨trivial, Machine.along_of_forall fun task inside t => ?_⟩
    obtain ⟨v, id, -, found⟩ := mem_walk inside
    unfold linkLateTasks at found
    cases known : v.info id with
    | none =>
      rw [known] at found
      cases found
    | some info =>
      rw [known] at found
      simp only at found
      split_ifs at found
      · rw [List.mem_singleton.mp found]
        trivial
      · cases found

theorem unloadTasks_checked (zone : ZoneCoord) (t : Tables) :
    Tables.machine.Along Tables.Checked t (w.unloadTasks zone) := by
  refine Machine.along_of_forall fun task inside t => ?_
  obtain ⟨entry, -, rfl⟩ := List.mem_map.mp inside
  unfold unloadTask
  split_ifs <;> trivial

/-- **What the handlers have checked holds at each task.** -/
theorem tasks_checked (keyed : w.client.Keyed) (event : Event) :
    Tables.machine.Along Tables.Checked w.tables (w.tasks event) := by
  have running {asked : Bool} {tasks : List Task}
      (checked : Tables.machine.Along Tables.Checked w.tables tasks) :
      Tables.machine.Along Tables.Checked w.tables (if asked then tasks else []) := by
    split_ifs
    · exact checked
    · trivial
  cases event with
  | receive arrival => exact w.packetTasks_checked keyed arrival
  | gameLoaded characters => exact w.loadTasks_checked characters _
  | loadingGap =>
    unfold tasks
    simp only
    split_ifs
    · exact Tables.along_single.mpr trivial
    · trivial
  | zoneUnloaded zone => exact running (w.unloadTasks_checked zone _)
  | objectLost id => exact running (Tables.along_single.mpr trivial)
  | registerOwn character type =>
    refine running ?_
    unfold ownTasks
    split_ifs with refused
    · trivial
    · refine Tables.along_single.mpr ?_
      rw [Bool.or_eq_true, not_or, Bool.not_eq_true, Bool.not_eq_true] at refused
      exact Option.isSome_eq_false_iff.mp refused.2 |> Option.isNone_iff_eq_none.mp
  | disconnect => exact Tables.along_single.mpr trivial
  | lossNoticed => exact running (Tables.along_single.mpr trivial)
  | resumeForNetwork => exact running (Tables.along_single.mpr trivial)
  | handleSpawnQueue visit => exact running (w.visitTasks_checked visit)
  | stageProcessSpawns character => exact running (w.stagedFate_checked character)
  | characterCreate character succeeds => exact running (w.hijackFate_checked character succeeds)

/-- A property of the tables that every guarded task preserves is one that every guarded event does. -/
theorem step_tables_invariant
    (preserved : ∀ t task, t.Checked task → guard t task → motive t → motive (t.apply task))
    (pages : CodePages) {event : Event} (keyed : w.client.Keyed) (initial : motive w.tables)
    (along : Tables.machine.Along guard w.tables (w.tasks event)) :
    motive (w.step pages event).tables := by
  rw [step_tables]
  exact Tables.foldl_invariant preserved initial (w.tasks_checked keyed event) along

/-! ### What waits for entities -/

theorem foldl_client {α : Type} {step : ClientWorld → α → ClientWorld}
    (alone : GameClient → α → GameClient)
    (each : ∀ w entry, (step w entry).client = alone w.client entry) (entries : List α)
    (w : ClientWorld) : (entries.foldl step w).client = entries.foldl alone w.client := by
  induction entries generalizing w with
  | nil => rfl
  | cons entry rest ih => rw [List.foldl_cons, List.foldl_cons, ih, each]

/-- Entities that go one after the other, with their positions. -/
theorem forget_eq_foldl (ids : List EntityID) (client : GameClient) :
    client.forget ids = ids.foldl (fun client id =>
      { client with
        registry := client.registry.unregister id
        interpolation := client.interpolation.removeEntity id }) client := by
  induction ids generalizing client with
  | nil => rfl
  | cons id rest ih =>
    exact ih
      { client with
        registry := client.registry.unregister id
        interpolation := client.interpolation.removeEntity id }

theorem linkLate_client (entityId : EntityID) :
    (w.linkLate entityId).client = w.client.linkLate entityId := by
  unfold linkLate
  simp only
  cases known : w.info entityId with
  | none =>
    have unknown : w.client.registry.getInfo entityId = none := known
    unfold GameClient.linkLate
    rw [unknown]
    split_ifs <;> rfl
  | some info =>
    have found : w.client.registry.getInfo entityId = some info := known
    simp only
    split_ifs with links
    · rfl
    · unfold GameClient.linkLate
      rw [found]
      simp only
      by_cases bodiless : w.client.registry.getGameObject entityId = 0
      · rw [if_neg (not_not.mpr bodiless)]
        rw [decide_eq_true bodiless, Bool.true_and] at links
        rw [if_neg links]
      · rw [if_pos bodiless]

/-- The client handles its packets as it would alone. -/
theorem receive_client (pages : CodePages) (arrival : Arrival) :
    (w.receive pages arrival).client = w.client.handlePacket pages arrival := by
  obtain ⟨msg, now, render, clock⟩ := arrival
  have inGame {after : ClientWorld} {client : GameClient} (loaded : after.client = client) :
      (if w.client.gameLoaded then after else w).client
        = if w.client.gameLoaded then client else w.client := by
    split_ifs
    · exact loaded
    · rfl
  cases msg with
  | handshakeAck ack =>
    show (w.handleHandshakeAck ack).client = w.client.handleHandshakeAck ack
    unfold handleHandshakeAck
    dsimp only
    generalize w.client.handleHandshakeAck ack = client
    split_ifs <;> rfl
  | allPlayersReady =>
    have each (w : ClientWorld) (entry : DeferredSpawn × Nat) :
        (w.processDeferredSpawn entry.1 (clock entry.2)).client
          = w.client.processDeferredSpawn entry.1 (clock entry.2) := by
      unfold processDeferredSpawn
      dsimp only
      generalize w.client.processDeferredSpawn entry.1 (clock entry.2) = client
      split_ifs <;> rfl
    have processed := foldl_client (fun client (entry : DeferredSpawn × Nat) =>
      client.processDeferredSpawn entry.1 (clock entry.2)) each w.client.deferredSpawns.zipIdx w
    exact congrArg (fun client : GameClient => { client with deferredSpawns := [] }) processed
  | entitySpawn record =>
    show (w.handleEntitySpawn pages (PacketReader.start record.write) now render).client
      = w.client.handleEntitySpawn pages (PacketReader.start record.write) now render
    unfold handleEntitySpawn
    simp only
    cases read : readEntitySpawn (PacketReader.start record.write) with
    | none =>
      unfold GameClient.handleEntitySpawn
      rw [read]
    | some spawn =>
      dsimp only
      generalize w.client.handleEntitySpawn pages (PacketReader.start record.write) now render = client
      split_ifs <;> rfl
  | playerLeft playerId reason =>
    refine inGame ?_
    show (w.handlePlayerLeft playerId).client = w.client.handlePlayerLeft playerId
    unfold handlePlayerLeft GameClient.handlePlayerLeft
    rw [forget_eq_foldl]
    exact foldl_client _ (fun _ _ => rfl) _ _
  | entityDespawn entityId reason => exact inGame rfl
  | entityHeartbeat serverTick entityCount ids =>
    refine inGame ?_
    show (w.handleEntityHeartbeat entityCount ids).client = w.client.handleEntityHeartbeat entityCount ids
    unfold handleEntityHeartbeat GameClient.handleEntityHeartbeat retireAll
    rw [forget_eq_foldl]
    exact foldl_client _ (fun _ _ => rfl) _ _
  | buildDestroyed buildingId reason => exact inGame rfl
  | _ => rfl

theorem foldl_pending {α : Type} {step : ClientWorld → α → ClientWorld}
    (each : ∀ w entry, (step w entry).client.pendingSnapshots = w.client.pendingSnapshots)
    (entries : List α) (w : ClientWorld) :
    (entries.foldl step w).client.pendingSnapshots = w.client.pendingSnapshots := by
  induction entries generalizing w with
  | nil => rfl
  | cons entry rest ih => rw [List.foldl_cons, ih, each]

theorem requeue_pending (req : FactoryRequest) {exhausted : ClientWorld → ClientWorld}
    (kept : (exhausted w).client.pendingSnapshots = w.client.pendingSnapshots) :
    (w.requeue req exhausted).client.pendingSnapshots = w.client.pendingSnapshots := by
  unfold requeue
  simp only
  split_ifs
  · rfl
  · exact kept

theorem spawnNext_pending (character : GameObject) :
    (w.spawnNext character).client.pendingSnapshots = w.client.pendingSnapshots := by
  have healed (w : ClientWorld) (req : FactoryRequest) :
      ((w.applyHealth req).countDirectSpawn req.owner).client.pendingSnapshots
        = w.client.pendingSnapshots := by
    unfold applyHealth
    split_ifs <;> rfl
  unfold spawnNext
  cases w.client.spawnQueue with
  | nil => rfl
  | cons req rest =>
    simp only
    split_ifs
    · rfl
    · rfl
    · exact healed _ req
    · exact healed _ req
    · exact requeue_pending _ req rfl

theorem handleSpawnQueue_pending (visit : QueueVisit) :
    (w.handleSpawnQueue visit).client.pendingSnapshots = w.client.pendingSnapshots := by
  have readied : w.readied.client.pendingSnapshots = w.client.pendingSnapshots := by
    unfold readied
    split_ifs <;> rfl
  have visited : (w.visited visit).client.pendingSnapshots = w.client.pendingSnapshots := by
    unfold visited
    split_ifs
    · rw [spawnNext_pending, readied]
    · exact readied
    · exact readied
  by_cases ticks : w.ticks = true
  · rw [handleSpawnQueue_eq w visit ticks]
    split_ifs
    · unfold cleanUpStuck
      rw [foldl_pending fun w id => by split_ifs <;> rfl, visited]
    · exact visited
  · unfold handleSpawnQueue
    rw [if_neg ticks]

/-- No event but a packet touches the snapshots that wait. -/
theorem step_pending (pages : CodePages) {event : Event} (silent : ∀ arrival, event ≠ .receive arrival) :
    (w.step pages event).client.pendingSnapshots = w.client.pendingSnapshots := by
  have ticking {after : ClientWorld}
      (running : after.client.pendingSnapshots = w.client.pendingSnapshots) :
      (if w.ticks then after else w).client.pendingSnapshots = w.client.pendingSnapshots := by
    split_ifs
    · exact running
    · rfl
  unfold step
  cases event with
  | receive arrival => exact absurd rfl (silent arrival)
  | gameLoaded characters =>
    show (w.onGameLoaded characters).client.pendingSnapshots = _
    unfold onGameLoaded
    simp only
    split_ifs
    · rfl
    · refine (foldl_pending (fun w id => ?_) _ _).trans rfl
      rw [linkLate_client]
      unfold GameClient.linkLate
      split_ifs
      · rfl
      · cases w.client.registry.getInfo id with
        | none => rfl
        | some info => simp only; split_ifs <;> rfl
    · rfl
  | loadingGap =>
    show w.client.onLoadingGapDetected.pendingSnapshots = _
    unfold GameClient.onLoadingGapDetected
    cases w.client.clientPhase <;> rfl
  | zoneUnloaded zone =>
    refine ticking ?_
    unfold unloadZone
    refine (foldl_pending (fun w entry => ?_) _ w :)
    obtain ⟨id, info⟩ := entry
    simp only
  | objectLost id => exact ticking rfl
  | registerOwn character type => exact ticking rfl
  | disconnect => rfl
  | lossNoticed =>
    show (if w.connected then w.lossNoticed else w).client.pendingSnapshots = _
    split_ifs
    · unfold lossNoticed
      rw [unmarked_remoteControlled]
      rfl
    · rfl
  | resumeForNetwork => exact ticking rfl
  | handleSpawnQueue visit => exact w.handleSpawnQueue_pending visit
  | stageProcessSpawns character =>
    show (w.stageProcessSpawns character).client.pendingSnapshots = _
    unfold stageProcessSpawns
    refine ticking ?_
    cases w.client.spawnQueue with
    | nil => rfl
    | cons req rest =>
      simp only
      split_ifs
      · rfl
      · rfl
      · exact requeue_pending _ req rfl
  | characterCreate character succeeds =>
    show (w.onCharacterCreate character succeeds).client.pendingSnapshots = _
    unfold onCharacterCreate
    refine ticking ?_
    cases w.client.spawnQueue with
    | nil => rfl
    | cons req rest =>
      simp only
      split_ifs
      · rfl
      · exact requeue_pending _ req rfl
      · rfl

theorem keyed_step (pages : CodePages) (keyed : w.client.Keyed) (event : Event) :
    (w.step pages event).client.Keyed := by
  by_cases packet : ∃ arrival, event = .receive arrival
  · obtain ⟨arrival, rfl⟩ := packet
    show (w.receive pages arrival).client.Keyed
    rw [receive_client]
    exact keyed.handlePacket pages arrival
  · have silent (arrival : Arrival) : event ≠ .receive arrival := fun same => packet ⟨arrival, same⟩
    exact keyed.fewer fun id => .inr (congrArg (AList.lookup id) (w.step_pending pages silent))

section Along

variable (preserved : ∀ t task, t.Checked task → guard t task → motive t → motive (t.apply task))
  (pages : CodePages) {w : ClientWorld} (keyed : w.client.Keyed) (initial : motive w.tables)
  {events : List Event}
  (along : (machine pages).Along (fun w event => Tables.machine.Along guard w.tables (w.tasks event)) w events)

include preserved keyed initial along

end Along

/-- Nothing waits at the start. -/
theorem start_keyed : ({} : ClientWorld).client.Keyed := fun _ _ waiting => (nomatch waiting)

end ClientWorld

end KenshiMP
