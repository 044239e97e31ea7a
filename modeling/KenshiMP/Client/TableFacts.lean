/-
**The tables of a client under the operations of its registry and its interpolation.**

What each operation of a client does to its `Tables`, and that it does the same to them as the operation
of that name: giving a character, removing an entity, taking up an announcement. The additions of the
interpolation count only as far as an entity gets a position.
-/

import KenshiMP.Client.Tables
import KenshiMP.Movements

namespace KenshiMP

open Assoc

/-! ### The registry -/

namespace EntityRegistry

variable (registry : EntityRegistry) (id : EntityID)

theorem rows_update {f : EntityInfo → EntityInfo}
    (kept : ∀ info, Row.of (f info) = Row.of info) : (registry.update id f).rows = registry.rows := by
  funext other
  unfold rows
  rw [getInfo_update, Option.map_map]
  refine congrArg (fun g => (registry.getInfo other).map g) (funext fun info => ?_)
  simp only [Function.comp_apply]
  split_ifs
  · exact kept info
  · rfl

theorem rows_updatePosition (pos : Vec3) : (registry.updatePosition id pos).rows = registry.rows :=
  registry.rows_update id fun _ => rfl

theorem rows_updateLimbHealth (health : Fin 7 → F32) :
    (registry.updateLimbHealth id health).rows = registry.rows :=
  registry.rows_update id fun _ => rfl

/-- A new entity is remote and on its way; a known one stays as it is. -/
theorem rows_registerRemote (type : UInt8) (owner : PlayerID) (pos : Vec3) :
    (registry.registerRemote id type owner pos).rows
      = match registry.rows id with
        | some _ => registry.rows
        | none => Function.update registry.rows id (some ⟨true, 0, owner, true⟩) := by
  unfold registerRemote
  cases known : registry.entities.lookup id with
  | some info =>
    have stored : registry.rows id = some (Row.of info) := by
      unfold rows getInfo
      rw [known]
      rfl
    rw [stored]
  | none =>
    have stored : registry.rows id = none := by
      unfold rows getInfo
      rw [known]
      rfl
    rw [stored]
    funext other
    simp only
    rw [Function.update_apply]
    unfold rows getInfo
    simp only
    rw [AMap.lookup_insert_eq]
    split_ifs <;> rfl

theorem ids_registerRemote (type : UInt8) (owner : PlayerID) (pos : Vec3) :
    (registry.registerRemote id type owner pos).ids = registry.ids := by
  unfold registerRemote
  cases registry.entities.lookup id <;> rfl

/-- The character of an entity, as the tables have it. -/
theorem object_rows : ((registry.rows id).map Row.object).getD 0 = registry.getGameObject id := by
  unfold rows getGameObject getInfo
  rw [Option.map_map]
  rfl

theorem ids_unlink (object : GameObject) :
    (registry.unlink id).lookup object
      = if registry.getGameObject id = 0 then registry.ids object
        else Function.update registry.ids (registry.getGameObject id) none object := by
  unfold unlink
  split_ifs
  · rfl
  · rw [AMap.lookup_erase_eq, Function.update_apply]
    rfl

theorem setGameObject_unknown {id : EntityID} {object : GameObject} (unknown : registry.getInfo id = none) :
    registry.setGameObject id object = registry := by
  unfold setGameObject
  rw [show registry.entities.lookup id = none from unknown]

theorem rows_setGameObject (object : GameObject) :
    (registry.setGameObject id object).rows
      = match registry.rows id with
        | none => registry.rows
        | some row => Function.update registry.rows id (some { row with
            object := linkable object
            spawning := row.spawning && linkable object = 0 }) := by
  cases known : registry.getInfo id with
  | none =>
    rw [setGameObject_unknown registry known, show registry.rows id = none by unfold rows; rw [known]; rfl]
  | some info =>
    rw [show registry.rows id = some (Row.of info) by unfold rows; rw [known]; rfl]
    funext other
    simp only
    rw [Function.update_apply]
    unfold rows
    rw [getInfo_setGameObject]
    split_ifs with here
    · subst here
      rw [known]
      simp only [Option.map_some, Row.of, link]
      congr 2
      by_cases none : linkable object = 0
      · simp [none]
      · by_cases spawning : info.state = .Spawning
        · simp [none, spawning]
        · simp [none, spawning]
    · rw [Option.map_map]
      refine congrArg (fun g => (registry.getInfo other).map g) (funext fun info => ?_)
      simp only [Function.comp_apply]

theorem ids_setGameObject (object : GameObject) :
    (registry.setGameObject id object).ids
      = match registry.rows id with
        | none => registry.ids
        | some row =>
          if linkable object = 0 then
            if row.object = 0 then registry.ids else Function.update registry.ids row.object none
          else Function.update
            (if row.object = 0 then registry.ids else Function.update registry.ids row.object none)
            (linkable object) (some id) := by
  cases known : registry.getInfo id with
  | none =>
    rw [setGameObject_unknown registry known, show registry.rows id = none by unfold rows; rw [known]; rfl]
  | some info =>
    rw [show registry.rows id = some (Row.of info) by unfold rows; rw [known]; rfl]
    funext other
    unfold ids
    rw [ptrToId_setGameObject registry known]
    simp only [Row.of]
    by_cases none : linkable object = 0
    · by_cases old : info.gameObject = 0
      · simp [none, old]
      · simp [none, old, Function.update_apply]
    · by_cases old : info.gameObject = 0
      · simp [none, old, Function.update_apply]
      · simp [none, old, Function.update_apply]

/-- The entity is gone from the rows. -/
theorem rows_unregister : (registry.unregister id).rows = Function.update registry.rows id none := by
  funext other
  unfold rows getInfo unregister
  simp only
  rw [AMap.lookup_erase_eq, Function.update_apply]
  split_ifs
  · rfl
  · rfl

theorem ids_unregister :
    (registry.unregister id).ids
      = if registry.getGameObject id = 0 then registry.ids
        else Function.update registry.ids (registry.getGameObject id) none := by
  funext object
  show (registry.unlink id).lookup object = _
  rw [ids_unlink]
  split_ifs <;> rfl

theorem getGameObject_unregister (id other : EntityID) :
    (registry.unregister id).getGameObject other
      = if other = id then 0 else registry.getGameObject other := by
  unfold getGameObject unregister
  simp only
  rw [AMap.lookup_erase_eq]
  split_ifs <;> rfl

/-- The addresses of removed entities are forgotten. -/
theorem ids_unregisterAll (gone : List EntityID) (object : GameObject) :
    (registry.unregisterAll gone).ids object
      = if object ≠ 0 ∧ ∃ id ∈ gone, registry.getGameObject id = object then none
        else registry.ids object := by
  induction gone generalizing registry with
  | nil =>
    rw [if_neg fun both => by obtain ⟨-, id, inside, -⟩ := both; cases inside]
    rfl
  | cons id rest ih =>
    show ((registry.unregister id).unregisterAll rest).ids object = _
    rw [ih]
    by_cases null : object = 0
    · have left : ¬ (object ≠ 0 ∧ ∃ other ∈ rest, (registry.unregister id).getGameObject other = object) :=
        fun both => both.1 null
      have right : ¬ (object ≠ 0 ∧ ∃ other ∈ id :: rest, registry.getGameObject other = object) :=
        fun both => both.1 null
      rw [if_neg left, if_neg right, ids_unregister]
      split_ifs with bodiless
      · rfl
      · exact Function.update_of_ne (fun same => bodiless (same.symm.trans null)) _ _
    by_cases here : registry.getGameObject id = object
    · have right : object ≠ 0 ∧ ∃ other ∈ id :: rest, registry.getGameObject other = object :=
        ⟨null, id, List.mem_cons_self, here⟩
      rw [if_pos right, ids_unregister, here, if_neg null, Function.update_self, ite_self]
    · have same : (object ≠ 0 ∧ ∃ other ∈ rest, (registry.unregister id).getGameObject other = object)
          ↔ object ≠ 0 ∧ ∃ other ∈ id :: rest, registry.getGameObject other = object := by
        refine and_congr_right fun _ => ?_
        constructor
        · rintro ⟨other, inside, found⟩
          rw [getGameObject_unregister] at found
          split_ifs at found
          · exact absurd found.symm null
          · exact ⟨other, List.mem_cons_of_mem _ inside, found⟩
        · rintro ⟨other, inside, found⟩
          rcases List.mem_cons.mp inside with rfl | later
          · exact absurd found here
          · refine ⟨other, later, ?_⟩
            rw [getGameObject_unregister, if_neg (by rintro rfl; exact here found), found]
      rw [if_congr same rfl rfl, ids_unregister]
      refine if_congr Iff.rfl rfl ?_
      split_ifs
      · rfl
      · exact Function.update_of_ne (Ne.symm here) _ _

theorem rows_unregisterAll (gone : List EntityID) (id : EntityID) :
    (registry.unregisterAll gone).rows id = if id ∈ gone then none else registry.rows id := by
  unfold rows getInfo
  rw [lookup_unregisterAll]
  split_ifs <;> rfl

end EntityRegistry

/-! ### The interpolation -/

namespace Interpolation

variable (interp : Interpolation)

variable (entityId : EntityID)

/-- Only a finite position is kept. -/
theorem buffers_addSnapshot (timestamp : F32) (pos : Vec3) (rot : Quat) (id : EntityID) :
    (interp.addSnapshot entityId timestamp pos rot).buffers id
      = (interp.buffers id || (pos.isFinite && rot.isFinite && id = entityId)) := by
  unfold addSnapshot buffers
  cases pos.isFinite with
  | false => simp
  | true =>
    cases rot.isFinite with
    | false => simp
    | true =>
      simp only [Bool.not_true, Bool.or_self, Bool.false_eq_true, if_false, Bool.and_self,
        Bool.true_and]
      rw [AMap.lookup_insert_eq]
      by_cases here : id = entityId
      · simp [here]
      · simp [here]

theorem buffers_removeEntity :
    (interp.removeEntity entityId).buffers = Function.update interp.buffers entityId false := by
  funext id
  unfold removeEntity buffers
  simp only
  rw [AMap.lookup_erase_eq, Function.update_apply]
  split_ifs <;> rfl

theorem buffers_getInterpolated (render : F32) :
    (interp.getInterpolated entityId render).2.buffers = interp.buffers := by
  funext id
  unfold getInterpolated
  cases known : interp.entities.lookup entityId with
  | none => rfl
  | some state =>
    simp only
    cases state.interpolateEntity render with
    | none => rfl
    | some pos =>
      simp only
      split_ifs
      · unfold buffers
        simp only
        rw [AMap.lookup_insert_eq]
        split_ifs with here
        · rw [here, known]
          rfl
        · rfl
      · rfl

end Interpolation

/-- The entity that gets a position. -/
def InterpOp.buffered : InterpOp → Option EntityID
  | .add addition =>
    if addition.pos.isFinite && addition.rot.isFinite then some addition.entityId else none
  | .place entityId _ pos rot => if pos.isFinite && rot.isFinite then some entityId else none
  | _ => none

/-- The operation takes positions away. -/
def InterpOp.removes : InterpOp → Bool
  | .remove _ => true
  | _ => false

theorem InterpOp.buffers_apply (interp : Interpolation) {op : InterpOp} (keeps : op.removes = false)
    (id : EntityID) :
    (op.apply interp).buffers id = (interp.buffers id || op.buffered = some id) := by
  have added (entityId : EntityID) (now : F32) (pos : Vec3) (rot : Quat) :
      (interp.addSnapshot entityId now pos rot).buffers id = (interp.buffers id
        || (if pos.isFinite && rot.isFinite then some entityId else none) = some id) := by
    rw [Interpolation.buffers_addSnapshot]
    split_ifs with finite
    · rw [finite, Bool.true_and]
      refine congrArg (interp.buffers id || ·) (Bool.decide_congr ?_)
      exact ⟨fun here => by rw [here], fun here => (Option.some.inj here).symm⟩
    · rw [Bool.not_eq_true _ |>.mp finite, Bool.false_and, decide_eq_false (fun none => nomatch none)]
  cases op with
  | add addition => exact added ..
  | place entityId now pos rot => exact added ..
  | remove entityId => cases keeps
  | read entityId render =>
    show (interp.getInterpolated entityId render).2.buffers id = _
    rw [Interpolation.buffers_getInterpolated]
    simp [buffered]

/-- Without removals, an entity has positions if it had or is given one. -/
theorem InterpOp.buffers_foldl (ops : List InterpOp) (interp : Interpolation)
    (keep : ∀ op ∈ ops, op.removes = false) :
    (ops.foldl InterpOp.apply interp).buffers
      = fun id => interp.buffers id || id ∈ ops.filterMap InterpOp.buffered := by
  induction ops generalizing interp with
  | nil =>
    funext id
    simp
  | cons op rest ih =>
    rw [List.foldl_cons, ih _ fun other inside => keep other (List.mem_cons_of_mem _ inside)]
    funext id
    rw [buffers_apply interp (keep op List.mem_cons_self), Bool.or_assoc, List.filterMap_cons]
    congr 1
    cases op.buffered with
    | none => simp
    | some entityId =>
      by_cases here : entityId = id
      · simp [here]
      · simp [here, Ne.symm here]

namespace GameClient

variable (client : GameClient) (entityId : EntityID) (type : UInt8) (ownerId : PlayerID) (spawnPos : Vec3)
  (rot : Quat) (now : F32)

/-- Taking up an announcement takes no positions away. -/
theorem introduceOps_keep :
    ∀ op ∈ client.introduceOps entityId type ownerId spawnPos rot now, op.removes = false := by
  intro op inside
  rcases List.mem_append.mp inside with flushed | placed
  · obtain ⟨snapshot, -, rfl⟩ := List.mem_map.mp flushed
    rfl
  · rw [List.mem_singleton.mp placed]
    rfl

theorem positionOps_keep (sourcePlayer : PlayerID) (now : F32) (records : List CharacterPosition) :
    ∀ op ∈ positionOps sourcePlayer now records client, op.removes = false := by
  induction records generalizing client with
  | nil => exact fun _ inside => nomatch inside
  | cons pos rest ih =>
    intro op inside
    rcases List.mem_append.mp inside with here | later
    · split_ifs at here
      · rw [List.mem_singleton.mp here]
        rfl
      · cases here
    · exact ih _ op later

theorem introduce_buffers :
    (client.introduce entityId type ownerId spawnPos rot now).interpolation.buffers
      = fun id => client.interpolation.buffers id
        || id ∈ (client.introduceOps entityId type ownerId spawnPos rot now).filterMap
          InterpOp.buffered := by
  rw [introduceOps_interpolation]
  exact InterpOp.buffers_foldl _ _ (client.introduceOps_keep entityId type ownerId spawnPos rot now)

variable (spawn : EntitySpawn) (existing : GameObject) (render : F32)

/-- Linking counts as far as the character goes. -/
theorem linkExisting_rows :
    (client.linkExisting spawn existing render).registry.rows
      = (client.registry.setGameObject spawn.entityId existing).rows := by
  unfold linkExisting
  simp only [onRemoteCharacterSpawned_registry]
  cases (client.interpolation.getInterpolated spawn.entityId render).1 with
  | none =>
    cases spawn.extended with
    | none => exact EntityRegistry.rows_updatePosition _ _ _
    | some extended =>
      simp only
      split_ifs
      · rw [EntityRegistry.rows_updateLimbHealth, EntityRegistry.rows_updatePosition]
      · exact EntityRegistry.rows_updatePosition _ _ _
  | some place =>
    cases spawn.extended with
    | none =>
      simp only
      rw [EntityRegistry.rows_updatePosition, EntityRegistry.rows_updatePosition]
    | some extended =>
      simp only
      split_ifs
      · rw [EntityRegistry.rows_updateLimbHealth, EntityRegistry.rows_updatePosition,
          EntityRegistry.rows_updatePosition]
      · rw [EntityRegistry.rows_updatePosition, EntityRegistry.rows_updatePosition]

theorem linkExisting_ids :
    (client.linkExisting spawn existing render).registry.ids
      = (client.registry.setGameObject spawn.entityId existing).ids := by
  unfold linkExisting
  simp only
  cases (client.interpolation.getInterpolated spawn.entityId render).1 with
  | none =>
    cases spawn.extended with
    | none => rfl
    | some extended => simp only; split_ifs <;> rfl
  | some place =>
    cases spawn.extended with
    | none => rfl
    | some extended => simp only; split_ifs <;> rfl

theorem linkExisting_buffers :
    (client.linkExisting spawn existing render).interpolation.buffers = client.interpolation.buffers :=
  client.interpolation.buffers_getInterpolated spawn.entityId render

end GameClient

/-! ### The tables under the operations -/

namespace Tables

variable (t : Tables) (id : EntityID)

theorem setObject_rows (object : GameObject) :
    (t.setObject id object).rows
      = match t.rows id with
        | none => t.rows
        | some row => Function.update t.rows id (some { row with
            object := object
            spawning := row.spawning && object = 0 }) := by
  unfold setObject
  cases t.rows id <;> rfl

theorem setObject_ids (object : GameObject) :
    (t.setObject id object).ids
      = match t.rows id with
        | none => t.ids
        | some row =>
          if object = 0 then t.unlink row.object
          else Function.update (t.unlink row.object) object (some id) := by
  unfold setObject
  cases t.rows id <;> rfl

/-- The other tables stay as they are. -/
theorem setObject_rest (object : GameObject) :
    t.setObject id object
      = { t with rows := (t.setObject id object).rows, ids := (t.setObject id object).ids } := by
  unfold setObject
  cases t.rows id <;> rfl

variable (owner : PlayerID)

theorem register_rows :
    (t.register id owner).rows
      = match t.rows id with
        | some _ => t.rows
        | none => Function.update t.rows id (some ⟨true, 0, owner, true⟩) := by
  unfold register
  cases t.rows id <;> rfl

theorem register_rest : t.register id owner = { t with rows := (t.register id owner).rows } := by
  unfold register
  cases t.rows id <;> rfl

/-- A new entity has no character. -/
theorem register_object (other : EntityID) : (t.register id owner).object other = t.object other := by
  unfold object
  rw [register_rows]
  cases known : t.rows id with
  | some row => rfl
  | none =>
    simp only
    rw [Function.update_apply]
    split_ifs with here
    · rw [here, known]
      rfl
    · rfl

end Tables

namespace ClientWorld

variable (w : ClientWorld) (id : EntityID)

@[simp] theorem tables_object (id : EntityID) : w.tables.object id = w.client.registry.getGameObject id :=
  w.client.registry.object_rows id

/-- The part of the tables that the registry gives. -/
theorem tables_withRegistry (registry : EntityRegistry) :
    (w.withRegistry registry).tables = { w.tables with rows := registry.rows, ids := registry.ids } := rfl

/-- The tables after an operation of the client are those after the operation of that name. -/
theorem tables_setGameObject (object : GameObject) :
    (w.withRegistry (w.client.registry.setGameObject id object)).tables
      = w.tables.setObject id (EntityRegistry.linkable object) := by
  rw [tables_withRegistry, EntityRegistry.rows_setGameObject, EntityRegistry.ids_setGameObject,
    Tables.setObject_rest, Tables.setObject_rows, Tables.setObject_ids]
  rfl

theorem tables_unregister :
    (w.withRegistry (w.client.registry.unregister id)).tables = w.tables.unregister id := by
  rw [tables_withRegistry, EntityRegistry.rows_unregister, EntityRegistry.ids_unregister]
  unfold Tables.unregister
  rw [tables_object]
  rfl

theorem tables_registerRemote (type : UInt8) (owner : PlayerID) (pos : Vec3) :
    (w.withRegistry (w.client.registry.registerRemote id type owner pos)).tables
      = w.tables.register id owner := by
  rw [tables_withRegistry, EntityRegistry.rows_registerRemote, EntityRegistry.ids_registerRemote,
    Tables.register_rest, Tables.register_rows]
  rfl

theorem tables_remapEntityId (oldId newId : EntityID) :
    (w.withRegistry (w.client.registry.remapEntityId oldId newId)).tables = w.tables.confirm oldId newId := by
  have rows (id : EntityID) : w.tables.rows id = (w.client.registry.entities.lookup id).map Row.of :=
    rfl
  unfold Tables.confirm EntityRegistry.remapEntityId
  rw [rows, rows]
  cases w.client.registry.entities.lookup oldId with
  | none => rfl
  | some info =>
    cases w.client.registry.entities.lookup newId with
    | some taken => rfl
    | none =>
      refine Tables.ext (funext fun id => ?_) (funext fun object => ?_) rfl rfl rfl rfl rfl rfl
      · show ((AList.insert newId _ (AList.erase oldId w.client.registry.entities)).lookup id).map _
          = Function.update (Function.update w.tables.rows oldId none) newId (some (Row.of info)) id
        rw [AMap.lookup_insert_eq, AMap.lookup_erase_eq, Function.update_apply, Function.update_apply]
        split_ifs <;> rfl
      · show (if info.gameObject = 0 then _ else _ : AMap GameObject EntityID).lookup object = _
        show _ = (if info.gameObject = 0 then w.tables.ids
          else Function.update w.tables.ids info.gameObject (some newId)) object
        split_ifs
        · rfl
        · rw [AMap.lookup_insert_eq, Function.update_apply]
          rfl

theorem tables_note (path : SpawnPath) (id : EntityID) (character : GameObject) :
    (w.note path id character).tables = w.tables.note path id character := by
  unfold Tables.note
  rw [tables_object]
  rfl

theorem tables_embody (path : SpawnPath) (req : FactoryRequest) (character : GameObject) :
    (w.embody path req character).tables = w.tables.embody path req.netId character := by
  have linked := (w.note path req.netId character).tables_setGameObject req.netId character
  rw [tables_note] at linked
  unfold Tables.embody
  rw [← linked]
  refine Tables.ext ?_ rfl rfl rfl rfl rfl rfl rfl
  exact EntityRegistry.rows_updatePosition _ _ _

theorem tables_applyHealth (req : FactoryRequest) : (w.applyHealth req).tables = w.tables := by
  unfold applyHealth
  split_ifs
  · rw [tables_withRegistry, EntityRegistry.rows_updateLimbHealth]
    rfl
  · rfl

theorem tables_retire (cleanUp : CleanUp) (owner : PlayerID) (id : EntityID) :
    (w.retire cleanUp owner id).tables = w.tables.retire cleanUp owner id := by
  have gone := w.tables_unregister id
  unfold Tables.retire
  rw [← gone, tables_object]
  obtain ⟨unmarks, counts, forgets⟩ := cleanUp
  refine Tables.ext ?_ ?_ ?_ ?_ ?_ ?_ ?_ ?_
  · rfl
  · rfl
  · unfold retire
    cases forgets with
    | true => exact Interpolation.buffers_removeEntity _ _
    | false => rfl
  all_goals
    unfold retire
    cases counts <;> cases unmarks <;> by_cases bodiless : w.client.registry.getGameObject id = 0 <;>
      simp [tables, bodiless, withRegistry, GameClient.withRegistry, unmarkRemoteControlled,
        decrementSpawnCount]

/-! ### Announcements -/

/-- A client that took up an announcement, with a request. -/
theorem tables_queued {client : GameClient} {id : EntityID} {type : UInt8} {owner : PlayerID}
    {pos : Vec3} {buffered : List EntityID}
    (registry : client.registry = w.client.registry.registerRemote id type owner pos)
    (buffers : client.interpolation.buffers
      = fun other => w.client.interpolation.buffers other || other ∈ buffered)
    (queue : client.spawnQueue.map (fun req => (req.netId, req.owner))
      = w.tables.queue ++ [(id, owner)]) :
    ({ w with client := client } : ClientWorld).tables
      = w.tables.apply (.announce id owner buffered none) := by
  have registered := w.tables_registerRemote id type owner pos
  simp only [Tables.apply]
  rw [← registered]
  refine Tables.ext ?_ ?_ buffers rfl queue rfl rfl rfl
  · show client.registry.rows = _
    rw [registry]
    rfl
  · show client.registry.ids = _
    rw [registry]
    rfl

/-- A client that took up an announcement, with a character. -/
theorem tables_linked (type : UInt8) (pos : Vec3) {client : GameClient} {id : EntityID}
    {owner : PlayerID} {buffered : List EntityID} {character : GameObject}
    (rows : client.registry.rows
      = ((w.client.registry.registerRemote id type owner pos).setGameObject id character).rows)
    (ids : client.registry.ids
      = ((w.client.registry.registerRemote id type owner pos).setGameObject id character).ids)
    (buffers : client.interpolation.buffers
      = fun other => w.client.interpolation.buffers other || other ∈ buffered)
    (queue : client.spawnQueue = w.client.spawnQueue) :
    (w.linked character id client).tables
      = w.tables.apply (.announce id owner buffered (some character)) := by
  set registered := w.withRegistry (w.client.registry.registerRemote id type owner pos)
  have known : registered.tables = w.tables.register id owner := w.tables_registerRemote id type owner pos
  have given := registered.tables_setGameObject id character
  rw [known] at given
  simp only [Tables.apply]
  refine Tables.ext ?_ ?_ ?_ ?_ ?_ ?_ ?_ ?_
  · show client.registry.rows = _
    rw [rows]
    refine (congrArg Tables.rows given).trans ?_
    unfold Tables.embody
    rw [Tables.setObject_rows, Tables.setObject_rows]
    rfl
  · show client.registry.ids = _
    rw [ids]
    refine (congrArg Tables.ids given).trans ?_
    unfold Tables.embody
    rw [Tables.setObject_ids, Tables.setObject_ids]
    rfl
  · refine Eq.trans (show _ = client.interpolation.buffers from rfl) (buffers.trans ?_)
    unfold Tables.embody
    rw [Tables.setObject_rest, Tables.register_rest]
    rfl
  · unfold Tables.embody
    rw [Tables.setObject_rest, Tables.register_rest]
    rfl
  · show client.spawnQueue.map _ = _
    rw [queue]
    unfold Tables.embody
    rw [Tables.setObject_rest, Tables.register_rest]
    rfl
  · unfold Tables.embody
    rw [Tables.setObject_rest, Tables.register_rest]
    rfl
  · unfold Tables.embody
    rw [Tables.setObject_rest, Tables.register_rest]
    rfl
  · unfold Tables.embody
    rw [Tables.setObject_rest]
    show (w.note .link id character).paths = (Tables.note _ _ _ _).paths
    unfold Tables.note
    show _ = if ((w.tables.register id owner).buffer buffered).object id = character then _ else _
    rw [show ((w.tables.register id owner).buffer buffered).object id
        = (w.tables.register id owner).object id from rfl, Tables.register_object, tables_object,
      Tables.register_rest]
    rfl

end ClientWorld

end KenshiMP
