/-
**What a load that fails leaves behind.**

The loader writes the time, the weather and the two tables as it goes. `spelled` and
`spelledRecords` say what a document spells up to the point where it cannot be read; a failed load
leaves the world alone exactly when the world is what the document spells so far
(`failedLoad_iff`), as it is for a document whose time cannot be read.
-/

import KenshiMP.FreshIds

namespace KenshiMP

open Wire (Bytes ascii)
open Assoc
open Persistence
open Json (Value)
open KenshiMP.System

namespace Persistence

/-! ### What a document spells -/

/-- The entities that elements spell, in order, until there is no room or an element cannot be
read; the flag is false in the second case. -/
def spelled : Nat → List Value → Bool × List ServerEntity
  | _, [] => (true, [])
  | 0, _ => (true, [])
  | room + 1, e :: rest =>
    match readHead e with
    | none => (false, [])
    | some head =>
      if badCoords head.position.x head.position.y head.position.z then spelled (room + 1) rest
      else
        match readRest e head with
        | none => (false, [])
        | some entity => ((spelled room rest).1, entity :: (spelled room rest).2)

/-- The records that members spell, until one cannot be read: identifiers of spelled entities. -/
def spelledRecords (entities : List ServerEntity) : List (Bytes × Value) → List SavedPlayer
  | [] => []
  | (name, ids) :: rest =>
    match ids.items.mapM Value.getUInt32 with
    | none => []
    | some ids =>
      let known := ids.filter fun id => entities.any fun entity => entity.id = id
      if known = [] then spelledRecords entities rest
      else ⟨name, known⟩ :: spelledRecords entities rest

/-- The entity loop stores what is spelled. -/
theorem loadEntities_spelled (elements : List Value) (loop : LoadLoop)
    (inside : loop.loadedCount ≤ KMP_MAX_SYNC_ENTITIES) :
    (loadEntities loop elements).1 = (spelled (KMP_MAX_SYNC_ENTITIES - loop.loadedCount) elements).1
      ∧ (loadEntities loop elements).2.entities
        = AMap.insertAll ServerEntity.id
          (spelled (KMP_MAX_SYNC_ENTITIES - loop.loadedCount) elements).2 loop.entities := by
  induction elements generalizing loop with
  | nil =>
    cases KMP_MAX_SYNC_ENTITIES - loop.loadedCount with
    | zero => exact ⟨rfl, rfl⟩
    | succ room => exact ⟨rfl, rfl⟩
  | cons e rest ih =>
    unfold loadEntities
    split_ifs with full
    · rw [Nat.sub_eq_zero_of_le full]
      exact ⟨rfl, rfl⟩
    · obtain ⟨room, more⟩ : ∃ room, KMP_MAX_SYNC_ENTITIES - loop.loadedCount = room + 1 :=
        Nat.exists_eq_succ_of_ne_zero (by omega)
      rw [more]
      unfold spelled
      cases readHead e with
      | none => exact ⟨rfl, rfl⟩
      | some head =>
        simp only
        split_ifs with bad
        · have later := ih (loop.seen head.id) inside
          rw [show KMP_MAX_SYNC_ENTITIES - (loop.seen head.id).loadedCount = room + 1 from more]
            at later
          exact later
        · cases readRest e head with
          | none => exact ⟨rfl, rfl⟩
          | some entity =>
            have later := ih (loop.stored entity) (Nat.lt_of_not_le full)
            have fewer : KMP_MAX_SYNC_ENTITIES - (loop.stored entity).loadedCount = room := by
              show KMP_MAX_SYNC_ENTITIES - (loop.loadedCount + 1) = room
              omega
            rw [fewer] at later
            exact later

/-- The player loop stores what is spelled. -/
theorem loadPlayers_spelled {table : AMap EntityID ServerEntity} {entities : List ServerEntity}
    (same : ∀ id, (table.lookup id).isSome = entities.any fun entity => entity.id = id)
    (members : List (Bytes × Value)) (saved : AMap Bytes SavedPlayer) :
    (loadPlayers table saved members).2
      = AMap.insertAll SavedPlayer.name (spelledRecords entities members) saved := by
  induction members generalizing saved with
  | nil => rfl
  | cons member rest ih =>
    obtain ⟨name, ids⟩ := member
    unfold loadPlayers spelledRecords
    cases ids.items.mapM Value.getUInt32 with
    | none => rfl
    | some ids =>
      simp only [same]
      rw [ih]
      split_ifs with none
      · rfl
      · rfl

/-! ### Worlds -/

/-- Two worlds are the same for every lookup. -/
structure SameWorld (before after : World) : Prop where
  entities : ∀ id, after.entities.lookup id = before.entities.lookup id
  savedPlayers : ∀ name, after.savedPlayers.lookup name = before.savedPlayers.lookup name
  timeOfDay : after.timeOfDay = before.timeOfDay
  weatherState : after.weatherState = before.weatherState
  nextEntityId : after.nextEntityId = before.nextEntityId

/-- The tables of a world are those that a document spells. -/
structure SpelledBy (j : Value) (world : World) : Prop where
  entities : ∀ id, world.entities.lookup id
    = (spelled KMP_MAX_SYNC_ENTITIES (elements j)).2.reverse.find? fun entity => entity.id = id
  savedPlayers : ∀ name, world.savedPlayers.lookup name
    = if (spelled KMP_MAX_SYNC_ENTITIES (elements j)).1 then
        (spelledRecords (spelled KMP_MAX_SYNC_ENTITIES (elements j)).2
          (playerMembers j)).reverse.find? fun record => record.name = name
      else none

/-- The time of a document is unreadable, or that of the world; and in the second case its weather
is unreadable, or that of the world; and in the second case the tables are those of the world. -/
def Untouched (j : Value) (world : World) : Prop :=
  j.valueOr Value.getFloat (ascii "timeOfDay") (lit 1 2) = none
    ∨ j.valueOr Value.getFloat (ascii "timeOfDay") (lit 1 2) = some world.timeOfDay
      ∧ (j.valueOr Value.getInt32 (ascii "weather") 0 = none
        ∨ j.valueOr Value.getInt32 (ascii "weather") 0 = some world.weatherState
          ∧ SpelledBy j world)

variable {j : Value} {world : World}

theorem loop_spelled : (loop j).1 = (spelled KMP_MAX_SYNC_ENTITIES (elements j)).1
    ∧ ∀ id, (loop j).2.entities.lookup id
      = (spelled KMP_MAX_SYNC_ENTITIES (elements j)).2.reverse.find? fun entity => entity.id = id := by
  obtain ⟨complete, table⟩ := loadEntities_spelled (elements j) ⟨∅, 0, 0⟩ (Nat.zero_le _)
  refine ⟨complete, fun id => ?_⟩
  rw [show (loop j).2.entities = _ from table, AMap.lookup_insertAll]
  exact Option.or_none ..

theorem playerLoop_spelled (name : Bytes) : (playerLoop j).2.lookup name
    = (spelledRecords (spelled KMP_MAX_SYNC_ENTITIES (elements j)).2
        (playerMembers j)).reverse.find? fun record => record.name = name := by
  have present : ∀ id, ((loop j).2.entities.lookup id).isSome
      = (spelled KMP_MAX_SYNC_ENTITIES (elements j)).2.any fun entity => entity.id = id := by
    intro id
    rw [loop_spelled.2, Bool.eq_iff_iff, List.find?_isSome, List.any_eq_true]
    constructor
    · rintro ⟨entity, inside, same⟩
      exact ⟨entity, List.mem_reverse.mp inside, same⟩
    · rintro ⟨entity, inside, same⟩
      exact ⟨entity, List.mem_reverse.mpr inside, same⟩
  unfold playerLoop
  rw [loadPlayers_spelled present, AMap.lookup_insertAll]
  exact Option.or_none ..

/-- What the saved records are once the entity loop has ended. -/
theorem records_spelled (name : Bytes) :
    (if (loop j).1 then (playerLoop j).2 else ∅).lookup name
      = if (spelled KMP_MAX_SYNC_ENTITIES (elements j)).1 then
          (spelledRecords (spelled KMP_MAX_SYNC_ENTITIES (elements j)).2
            (playerMembers j)).reverse.find? fun record => record.name = name
        else none := by
  rw [loop_spelled.1]
  split_ifs
  · exact playerLoop_spelled name
  · rfl

/-- What a failing load has written once the time and the weather are read. -/
theorem loadDocument_thrown {timeOfDay : F32} {weatherState : Int32}
    (time : j.valueOr Value.getFloat (ascii "timeOfDay") (lit 1 2) = some timeOfDay)
    (weather : j.valueOr Value.getInt32 (ascii "weather") 0 = some weatherState)
    (thrown : (loadDocument j world).1 = false) :
    (loadDocument j world).2 = ⟨(loop j).2.entities, if (loop j).1 then (playerLoop j).2 else ∅,
      timeOfDay, weatherState, world.nextEntityId⟩ := by
  rw [loadDocument_loops time weather] at thrown ⊢
  split_ifs at thrown ⊢
  · rfl
  · rfl

/-- A document that cannot be loaded leaves alone what it spells. -/
theorem sameWorld_iff (thrown : (loadDocument j world).1 = false) :
    SameWorld world (loadDocument j world).2 ↔ Untouched j world := by
  unfold Untouched
  cases time : j.valueOr Value.getFloat (ascii "timeOfDay") (lit 1 2) with
  | none =>
    rw [loadDocument_noTime time]
    exact ⟨fun _ => Or.inl rfl, fun _ => ⟨fun _ => rfl, fun _ => rfl, rfl, rfl, rfl⟩⟩
  | some timeOfDay =>
    cases weather : j.valueOr Value.getInt32 (ascii "weather") 0 with
    | none =>
      rw [loadDocument_noWeather time weather]
      constructor
      · rintro ⟨-, -, same, -, -⟩
        exact Or.inr ⟨congrArg some same, Or.inl rfl⟩
      · rintro (absent | ⟨same, -⟩)
        · cases absent
        · exact ⟨fun _ => rfl, fun _ => rfl, Option.some.inj same, rfl, rfl⟩
    | some weatherState =>
      rw [loadDocument_thrown time weather thrown]
      constructor
      · rintro ⟨entities, savedPlayers, sameTime, sameWeather, -⟩
        refine Or.inr ⟨congrArg some sameTime, Or.inr ⟨congrArg some sameWeather, ?_, ?_⟩⟩
        · exact fun id => (entities id).symm.trans (loop_spelled.2 id)
        · exact fun name => (savedPlayers name).symm.trans (records_spelled name)
      · rintro (absent | ⟨sameTime, absent | ⟨sameWeather, spells⟩⟩)
        · cases absent
        · cases absent
        · refine ⟨fun id => ?_, fun name => ?_, Option.some.inj sameTime, Option.some.inj sameWeather, rfl⟩
          · exact (loop_spelled.2 id).trans (spells.entities id).symm
          · exact (records_spelled name).trans (spells.savedPlayers name).symm

/-! ### A fresh server -/

theorem spelledRecords_none (members : List (Bytes × Value)) : spelledRecords [] members = [] := by
  induction members with
  | nil => rfl
  | cons member rest ih =>
    obtain ⟨name, ids⟩ := member
    unfold spelledRecords
    cases ids.items.mapM Value.getUInt32 with
    | none => rfl
    | some ids =>
      have unknown : ids.filter (fun id => ([] : List ServerEntity).any fun entity => entity.id = id)
          = [] := List.filter_eq_nil_iff.mpr fun id _ => by simp
      simp only [unknown]
      exact ih

/-- The tables of a world are empty. -/
def World.Empty (world : World) : Prop :=
  (∀ id, world.entities.lookup id = none) ∧ ∀ name, world.savedPlayers.lookup name = none

/-- The document fails before its first entity is stored. -/
def StoresNothing (j : Value) : Prop :=
  j.valueOr Value.getFloat (ascii "timeOfDay") (lit 1 2) = none
    ∨ j.valueOr Value.getInt32 (ascii "weather") 0 = none
    ∨ (spelled KMP_MAX_SYNC_ENTITIES (elements j)).2 = []

theorem empty_iff (thrown : (loadDocument j world).1 = false) (empty : World.Empty world) :
    World.Empty (loadDocument j world).2 ↔ StoresNothing j := by
  unfold StoresNothing
  cases time : j.valueOr Value.getFloat (ascii "timeOfDay") (lit 1 2) with
  | none =>
    rw [loadDocument_noTime time]
    exact ⟨fun _ => Or.inl rfl, fun _ => empty⟩
  | some timeOfDay =>
    cases weather : j.valueOr Value.getInt32 (ascii "weather") 0 with
    | none =>
      rw [loadDocument_noWeather time weather]
      exact ⟨fun _ => Or.inr (Or.inl rfl), fun _ => empty⟩
    | some weatherState =>
      rw [loadDocument_thrown time weather thrown]
      constructor
      · rintro ⟨entities, -⟩
        refine Or.inr (Or.inr (List.eq_nil_iff_forall_not_mem.mpr fun entity inside => ?_))
        have absent := (loop_spelled.2 entity.id).symm.trans (entities entity.id)
        rw [List.find?_eq_none] at absent
        exact absent entity (List.mem_reverse.mpr inside) (decide_eq_true rfl)
      · rintro (absent | absent | nothing)
        · cases absent
        · cases absent
        · refine ⟨fun id => ?_, fun name => ?_⟩
          · rw [loop_spelled.2, nothing]
            rfl
          · rw [records_spelled, nothing, spelledRecords_none]
            split_ifs
            · rfl
            · rfl

/-! ### Files -/

/-- Whether a document can be loaded does not depend on the world. -/
theorem loadDocument_fst (j : Value) (world other : World) :
    (loadDocument j world).1 = (loadDocument j other).1 := by
  cases time : j.valueOr Value.getFloat (ascii "timeOfDay") (lit 1 2) with
  | none => rw [loadDocument_noTime time, loadDocument_noTime time]
  | some timeOfDay =>
    cases weather : j.valueOr Value.getInt32 (ascii "weather") 0 with
    | none => rw [loadDocument_noWeather time weather, loadDocument_noWeather time weather]
    | some weatherState =>
      rw [loadDocument_loops time weather, loadDocument_loops time weather]
      split_ifs
      · rfl
      · rfl
      · rfl

theorem fresh_empty (config : ServerConfig) :
    World.Empty (GameServer.world { config := config }) := ⟨fun _ => rfl, fun _ => rfl⟩

/-- **A failed load leaves the world as it was** exactly when the file is none or spells, as far as
it can be read, what was there; and a server that has just started stays without entities and saved
players exactly when the file fails before its first entity. -/
theorem failedLoad_iff {file : Option Value} {world : World}
    (failed : (loadWorldFromFile file world).1 = false) :
    (SameWorld world (loadWorldFromFile file world).2 ↔ ∀ j, file = some j → Untouched j world)
      ∧ ∀ config : ServerConfig, World.Empty ({ config := config : GameServer }.loadWorld file).world
        ↔ ∀ j, file = some j → StoresNothing j := by
  cases file with
  | none =>
    refine ⟨⟨fun _ j absent => (by cases absent), fun _ => ?_⟩, fun config =>
      ⟨fun _ j absent => (by cases absent), fun _ => fresh_empty config⟩⟩
    exact ⟨fun _ => rfl, fun _ => rfl, rfl, rfl, rfl⟩
  | some j =>
    have thrown : (loadDocument j world).1 = false := failed
    constructor
    · rw [show (loadWorldFromFile (some j) world).2 = (loadDocument j world).2 from rfl, sameWorld_iff thrown]
      exact ⟨fun untouched other same => Option.some.inj same ▸ untouched, fun all => all j rfl⟩
    · intro config
      have again : (loadDocument j (GameServer.world { config := config })).1 = false :=
        (loadDocument_fst j _ world).trans thrown
      have tables : World.Empty ({ config := config : GameServer }.loadWorld (some j)).world
          ↔ World.Empty (loadDocument j (GameServer.world { config := config })).2 := by
        obtain ⟨entities, savedPlayers, -⟩ := loadWorld_fields { config := config } (some j)
        unfold World.Empty GameServer.world
        rw [entities, savedPlayers]
        rfl
      rw [tables, empty_iff again (fresh_empty config)]
      exact ⟨fun nothing other same => Option.some.inj same ▸ nothing, fun all => all j rfl⟩

/-! ### Two files -/

/-- A document of a character whose time cannot be read. -/
def untimely : Value :=
  .obj [(ascii "version", .int 2), (ascii "timeOfDay", .null), (ascii "weather", .int 0),
    (ascii "entities", .arr [entityJson shopkeeper]), (ascii "players", .obj [])]

/-- A world with a wall. -/
def wallWorld : World := ⟨AList.insert 7 { id := 7, type := EntityType.Building } ∅, ∅, lit 1 3, 2, 8⟩

/-- Nothing has been written when the load fails. -/
theorem failedLoad_iff_untimely : SameWorld wallWorld (loadWorldFromFile (some untimely) wallWorld).2 := by
  refine (failedLoad_iff (by decide +kernel)).1.mpr fun j same => ?_
  cases same
  exact Or.inl (by decide +kernel)

/-- A document with a character and a null: the load fails, and the character stays. -/
theorem failedLoad_fails :
    (loadWorldFromFile (some (document [entityJson shopkeeper, .null])) ⟨∅, ∅, lit 1 2, 0, 1⟩).1 = false
      ∧ ¬ SameWorld ⟨∅, ∅, lit 1 2, 0, 1⟩
        (loadWorldFromFile (some (document [entityJson shopkeeper, .null])) ⟨∅, ∅, lit 1 2, 0, 1⟩).2
      ∧ ¬ World.Empty (GameServer.loadWorld {}
        (some (document [entityJson shopkeeper, .null]))).world := by
  have stored : ((loadWorldFromFile (some (document [entityJson shopkeeper, .null]))
      ⟨∅, ∅, lit 1 2, 0, 1⟩).2.entities.lookup 1).isSome = true := by decide +kernel
  have kept : ((GameServer.loadWorld {} (some (document [entityJson shopkeeper, .null]))).world.entities.lookup
      1).isSome = true := by decide +kernel
  refine ⟨by decide +kernel, fun same => ?_, fun empty => ?_⟩
  · rw [same.entities] at stored
    cases stored
  · rw [empty.1] at kept
    cases kept

end Persistence

end KenshiMP
