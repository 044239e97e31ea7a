/-
**What the loader can leave in the tables.**

`loadEntities` is the loop with two exits in the middle, the exception and the cap. Its rule,
`loadEntities_invariant`: what remembering a skipped identifier and storing a read entity both keep
holds at the end, whichever exit is taken. `boot_entities` says where the table of a fresh server
comes from.
-/

import KenshiMP.Server.Persistence

namespace KenshiMP

open Wire (Bytes ascii)
open Assoc
open Json (Value)

namespace Persistence

/-! ### The entity loop -/

/-- An element is read, and its place is unusable: only its identifier is remembered. -/
def Skipped (e : Value) (head : ServerEntity) : Prop :=
  readHead e = some head ∧ badCoords head.position.x head.position.y head.position.z = true

/-- An element is read to its end. -/
def ReadAs (e : Value) (entity : ServerEntity) : Prop :=
  ∃ head, readHead e = some head
    ∧ badCoords head.position.x head.position.y head.position.z = false
    ∧ readRest e head = some entity

/-- **The rule of the entity loop.** -/
theorem loadEntities_invariant {motive : LoadLoop → Prop} (elements : List Value)
    (skip : ∀ loop, ∀ e ∈ elements, ∀ head, Skipped e head → motive loop → motive (loop.seen head.id))
    (keep : ∀ loop, ∀ e ∈ elements, ∀ entity, ReadAs e entity → motive loop → motive (loop.stored entity))
    (loop : LoadLoop) (start : motive loop) : motive (loadEntities loop elements).2 := by
  induction elements generalizing loop with
  | nil => exact start
  | cons e rest ih =>
    have later := ih (fun loop other inside => skip loop other (List.mem_cons_of_mem _ inside))
      fun loop other inside => keep loop other (List.mem_cons_of_mem _ inside)
    unfold loadEntities
    split_ifs
    · exact start
    · cases head : readHead e with
      | none => exact start
      | some head' =>
        simp only
        split_ifs with bad
        · exact later _ (skip loop e List.mem_cons_self head' ⟨head, bad⟩ start)
        · cases entity : readRest e head' with
          | none => exact start
          | some entity' =>
            exact later _ (keep loop e List.mem_cons_self entity'
              ⟨head', head, Bool.not_eq_true _ |>.mp bad, entity⟩ start)

/-! ### One element -/

/-- What no member of the document sets is as a new entity has it. -/
theorem readHead_fields {e : Value} {head : ServerEntity} (read : readHead e = some head) :
    head.generation = 0 ∧ head.state = .Active ∧ head.authority = .Server ∧ head.owner = 0 := by
  unfold readHead at read
  iterate 15 obtain ⟨_, -, read⟩ := Option.bind_eq_some_iff.mp read
  cases read
  exact ⟨rfl, rfl, rfl, rfl⟩

/-- The rest of an element leaves alone what the head has set. -/
theorem readRest_fields {e : Value} {head entity : ServerEntity} (read : readRest e head = some entity) :
    entity.id = head.id ∧ entity.position = head.position ∧ entity.generation = head.generation
      ∧ entity.state = head.state ∧ entity.authority = head.authority
      ∧ entity.owner = head.owner := by
  unfold readRest at read
  iterate 14 obtain ⟨_, -, read⟩ := Option.bind_eq_some_iff.mp read
  cases read
  exact ⟨rfl, rfl, rfl, rfl, rfl, rfl⟩

/-- A read element has its identifier, its usable place, and the defaults of a new entity. -/
theorem ReadAs.fields {e : Value} {entity : ServerEntity} (read : ReadAs e entity) :
    badCoords entity.position.x entity.position.y entity.position.z = false
      ∧ entity.generation = 0 ∧ entity.state = .Active ∧ entity.authority = .Server
      ∧ entity.owner = 0 := by
  obtain ⟨head, headRead, placed, restRead⟩ := read
  obtain ⟨generation, state, authority, owner⟩ := readHead_fields headRead
  obtain ⟨-, position, generation', state', authority', owner'⟩ := readRest_fields restRead
  refine ⟨?_, generation'.trans generation, state'.trans state, authority'.trans authority,
    owner'.trans owner⟩
  rw [position]
  exact placed

/-- The fields that no document has. -/
structure Unmarked (entity : ServerEntity) : Prop where
  limbHealth : entity.limbHealth = fun _ => lit 100 1
  statusEffects : entity.statusEffects = fun _ => 0
  buildProgress : entity.buildProgress = lit 0 1

theorem ReadAs.unmarked {e : Value} {entity : ServerEntity} (read : ReadAs e entity) : Unmarked entity := by
  obtain ⟨head, headRead, -, restRead⟩ := read
  unfold readHead at headRead
  iterate 15 obtain ⟨_, -, headRead⟩ := Option.bind_eq_some_iff.mp headRead
  cases headRead
  unfold readRest at restRead
  iterate 14 obtain ⟨_, -, restRead⟩ := Option.bind_eq_some_iff.mp restRead
  cases restRead
  exact ⟨rfl, rfl, rfl⟩

/-- Every loaded entity has been read, and is under its own identifier. -/
theorem loadEntities_loaded (elements : List Value) {id : EntityID} {entity : ServerEntity}
    (stored : (loadEntities ⟨∅, 0, 0⟩ elements).2.entities.lookup id = some entity) :
    entity.id = id ∧ ∃ e ∈ elements, ReadAs e entity := by
  refine loadEntities_invariant
    (motive := fun loop => ∀ id entity, loop.entities.lookup id = some entity →
      entity.id = id ∧ ∃ e ∈ elements, ReadAs e entity) elements
    (fun _ _ _ _ _ before => before) (fun loop e inside new read before id entity stored => ?_) _
    (fun id entity stored => (by cases stored)) id entity stored
  have inserted : AList.lookup id (AList.insert new.id new loop.entities) = some entity := stored
  rw [AMap.lookup_insert_eq] at inserted
  split_ifs at inserted with same
  · cases inserted
    exact ⟨same.symm, e, inside, read⟩
  · exact before id entity inserted

/-! ### What the loops make of a short document -/

/-- Within the cap and without an exception, every accepted element is in the table, and what an
identifier has is what the elements with that identifier agree on. -/
theorem loadEntities_stores {key : EntityID} {motive : ServerEntity → Prop}
    (elements : List Value) (loop : LoadLoop)
    (few : loop.loadedCount + elements.length ≤ KMP_MAX_SYNC_ENTITIES)
    (complete : (loadEntities loop elements).1 = true)
    (agree : ∀ e ∈ elements, ∀ entity, ReadAs e entity → entity.id = key → motive entity)
    (source : (∃ old, loop.entities.lookup key = some old ∧ motive old)
      ∨ ∃ e ∈ elements, ∃ entity, ReadAs e entity ∧ entity.id = key) :
    ∃ found, (loadEntities loop elements).2.entities.lookup key = some found ∧ motive found := by
  induction elements generalizing loop with
  | nil =>
    rcases source with old | ⟨e, inside, -⟩
    · exact old
    · cases inside
  | cons e rest ih =>
    rw [List.length_cons] at few
    have room : ¬ KMP_MAX_SYNC_ENTITIES ≤ loop.loadedCount := by omega
    have later : ∀ e ∈ rest, ∀ entity, ReadAs e entity → entity.id = key → motive entity :=
      fun other inside => agree other (List.mem_cons_of_mem _ inside)
    unfold loadEntities at complete ⊢
    rw [if_neg room] at complete ⊢
    cases head : readHead e with
    | none =>
      rw [head] at complete
      cases complete
    | some head' =>
      rw [head] at complete
      simp only at complete ⊢
      split_ifs at complete ⊢ with bad
      · -- a skipped element is not the source
        refine ih (loop.seen head'.id) (show loop.loadedCount + _ ≤ _ by omega) complete later ?_
        rcases source with old | ⟨other, inside, entity, read, same⟩
        · exact Or.inl old
        · rcases List.mem_cons.mp inside with rfl | inside
          · obtain ⟨again, headRead, placed, -⟩ := read
            rw [head] at headRead
            cases headRead
            rw [placed] at bad
            cases bad
          · exact Or.inr ⟨other, inside, entity, read, same⟩
      · cases body : readRest e head' with
        | none =>
          rw [body] at complete
          cases complete
        | some stored =>
          rw [body] at complete
          have accepted : ReadAs e stored := ⟨head', head, Bool.not_eq_true _ |>.mp bad, body⟩
          refine ih (loop.stored stored) (show loop.loadedCount + 1 + _ ≤ _ by omega) complete later ?_
          have table : (loop.stored stored).entities
            = AList.insert stored.id stored loop.entities := rfl
          rw [table, AMap.lookup_insert_eq]
          by_cases here : key = stored.id
          · rw [if_pos here]
            exact Or.inl ⟨stored, rfl, agree e (List.mem_cons_self ..) stored accepted here.symm⟩
          · rw [if_neg here]
            rcases source with old | ⟨other, inside, entity, read, same⟩
            · exact Or.inl old
            · rcases List.mem_cons.mp inside with rfl | inside
              · obtain ⟨again, headRead, -, rest⟩ := read
                rw [head] at headRead
                cases headRead
                rw [body] at rest
                cases rest
                exact absurd same.symm here
              · exact Or.inr ⟨other, inside, entity, read, same⟩

/-- Elements that can all be read raise no exception. -/
theorem loadEntities_complete (elements : List Value) (loop : LoadLoop)
    (readable : ∀ e ∈ elements, (∃ head, Skipped e head) ∨ ∃ entity, ReadAs e entity) :
    (loadEntities loop elements).1 = true := by
  induction elements generalizing loop with
  | nil => rfl
  | cons e rest ih =>
    have later := fun loop => ih loop fun other inside => readable other (List.mem_cons_of_mem _ inside)
    unfold loadEntities
    split_ifs
    · rfl
    · rcases readable e (List.mem_cons_self ..) with ⟨head, read, bad⟩ | ⟨entity, head, read, placed, body⟩
      · simp only [read]
        rw [if_pos bad]
        exact later _
      · simp only [read]
        rw [if_neg (by rw [placed]; decide), body]
        exact later _

/-- Within the cap, no exception means that every element can be read. -/
theorem loadEntities_reads (elements : List Value) (loop : LoadLoop)
    (few : loop.loadedCount + elements.length ≤ KMP_MAX_SYNC_ENTITIES)
    (complete : (loadEntities loop elements).1 = true) :
    ∀ e ∈ elements, (∃ head, Skipped e head) ∨ ∃ entity, ReadAs e entity := by
  induction elements generalizing loop with
  | nil => exact fun e inside => by cases inside
  | cons e rest ih =>
    rw [List.length_cons] at few
    have room : ¬ KMP_MAX_SYNC_ENTITIES ≤ loop.loadedCount := by omega
    unfold loadEntities at complete
    rw [if_neg room] at complete
    intro other inside
    cases head : readHead e with
    | none =>
      rw [head] at complete
      cases complete
    | some head' =>
      rw [head] at complete
      simp only at complete
      split_ifs at complete with bad
      · rcases List.mem_cons.mp inside with rfl | inside
        · exact Or.inl ⟨head', head, bad⟩
        · exact ih (loop.seen head'.id) (show loop.loadedCount + _ ≤ _ by omega) complete other inside
      · cases body : readRest e head' with
        | none =>
          rw [body] at complete
          cases complete
        | some stored =>
          rw [body] at complete
          rcases List.mem_cons.mp inside with rfl | inside
          · exact Or.inr ⟨stored, head', head, Bool.not_eq_true _ |>.mp bad, body⟩
          · exact ih (loop.stored stored) (show loop.loadedCount + 1 + _ ≤ _ by omega) complete other inside

/-- An element is read in one way. -/
theorem ReadAs.unique {e : Value} {one two : ServerEntity} (first : ReadAs e one)
    (second : ReadAs e two) : one = two := by
  obtain ⟨head, read, -, body⟩ := first
  obtain ⟨head', read', -, body'⟩ := second
  rw [read] at read'
  cases read'
  rw [body] at body'
  exact Option.some.inj body'

theorem loadPlayers_complete (entities : AMap EntityID ServerEntity) (saved : AMap Bytes SavedPlayer)
    (members : List (Bytes × Value)) :
    (loadPlayers entities saved members).1
      = members.all fun entry => (entry.2.items.mapM Value.getUInt32).isSome := by
  induction members generalizing saved with
  | nil => rfl
  | cons entry rest ih =>
    obtain ⟨name, ids⟩ := entry
    unfold loadPlayers
    rw [List.all_cons]
    cases ids.items.mapM Value.getUInt32 with
    | none => rfl
    | some ids' =>
      simp only
      rw [ih]
      rfl

/-! ### The document -/

/-- What the entity loop runs over. -/
def elements (j : Value) : List Value := ((j.atKey (ascii "entities")).getD .null).items

/-- The loop of a document. -/
def loop (j : Value) : Bool × LoadLoop := loadEntities ⟨∅, 0, 0⟩ (elements j)

/-- The player loop of a document. -/
def playerLoop (j : Value) : Bool × AMap Bytes SavedPlayer :=
  loadPlayers (loop j).2.entities ∅ (playerMembers j)

theorem loadDocument_noTime {j : Value} {world : World}
    (time : j.valueOr Value.getFloat (ascii "timeOfDay") (lit 1 2) = none) :
    loadDocument j world = (false, world) := by
  unfold loadDocument
  rw [time]

theorem loadDocument_noWeather {j : Value} {world : World} {timeOfDay : F32}
    (time : j.valueOr Value.getFloat (ascii "timeOfDay") (lit 1 2) = some timeOfDay)
    (weather : j.valueOr Value.getInt32 (ascii "weather") 0 = none) :
    loadDocument j world = (false, { world with timeOfDay := timeOfDay }) := by
  unfold loadDocument
  rw [time]
  simp only
  rw [weather]

/-- A document that is loaded has a time of day. -/
theorem loadDocument_time {j : Value} {world : World} (complete : (loadDocument j world).1 = true) :
    ∃ timeOfDay, j.valueOr Value.getFloat (ascii "timeOfDay") (lit 1 2) = some timeOfDay := by
  cases time : j.valueOr Value.getFloat (ascii "timeOfDay") (lit 1 2) with
  | none =>
    rw [loadDocument_noTime time] at complete
    cases complete
  | some timeOfDay => exact ⟨timeOfDay, rfl⟩

/-- The two loops decide whether a document is loaded. -/
theorem loadDocument_loops {j : Value} {world : World} {timeOfDay : F32} {weatherState : Int32}
    (time : j.valueOr Value.getFloat (ascii "timeOfDay") (lit 1 2) = some timeOfDay)
    (weather : j.valueOr Value.getInt32 (ascii "weather") 0 = some weatherState) :
    loadDocument j world
      = if (loop j).1 then
          if (playerLoop j).1 then
            (true, ⟨(loop j).2.entities, (playerLoop j).2, timeOfDay, weatherState,
              (loop j).2.maxId + 1⟩)
          else
            (false, ⟨(loop j).2.entities, (playerLoop j).2, timeOfDay, weatherState,
              world.nextEntityId⟩)
        else (false, ⟨(loop j).2.entities, ∅, timeOfDay, weatherState, world.nextEntityId⟩) := by
  unfold loadDocument
  rw [time]
  simp only
  rw [weather]
  unfold playerLoop loop elements
  simp only
  cases (loadEntities ⟨∅, 0, 0⟩ ((j.atKey (ascii "entities")).getD .null).items).1 with
  | false => rfl
  | true =>
    cases (loadPlayers (loadEntities ⟨∅, 0, 0⟩ ((j.atKey (ascii "entities")).getD .null).items
      ).2.entities ∅ (playerMembers j)).1 with
    | false => rfl
    | true => rfl

/-- Loading writes the tables in place, and takes over the rest on success. -/
theorem loadWorld_fields (server : GameServer) (file : Option Value) :
    (server.loadWorld file).entities = (loadWorldFromFile file server.world).2.entities
      ∧ (server.loadWorld file).savedPlayers = (loadWorldFromFile file server.world).2.savedPlayers
      ∧ (server.loadWorld file).players = server.players
      ∧ (server.loadWorld file).peers = server.peers
      ∧ (server.loadWorld file).nextPlayerId = server.nextPlayerId
      ∧ (server.loadWorld file).nextEntityId
        = (if (loadWorldFromFile file server.world).1 then
            (loadWorldFromFile file server.world).2.nextEntityId else server.nextEntityId)
      ∧ (server.loadWorld file).timeOfDay
        = (if (loadWorldFromFile file server.world).1 then
            (loadWorldFromFile file server.world).2.timeOfDay else server.timeOfDay)
      ∧ (server.loadWorld file).hostPlayerId = server.hostPlayerId := by
  unfold GameServer.loadWorld
  simp only
  cases (loadWorldFromFile file server.world).1 with
  | false => exact ⟨rfl, rfl, rfl, rfl, rfl, rfl, rfl, rfl⟩
  | true => exact ⟨rfl, rfl, rfl, rfl, rfl, rfl, rfl, rfl⟩

/-- The table of a fresh server is empty, or what the loop has stored. -/
theorem boot_entities (config : ServerConfig) (file : Option Value) :
    ({ config := config : GameServer }.loadWorld file).entities = ∅
      ∨ ∃ j, file = some j
        ∧ ({ config := config : GameServer }.loadWorld file).entities = (loop j).2.entities := by
  rw [(loadWorld_fields _ file).1]
  cases file with
  | none => exact Or.inl rfl
  | some j =>
    show (loadDocument j _).2.entities = ∅ ∨ _
    cases time : j.valueOr Value.getFloat (ascii "timeOfDay") (lit 1 2) with
    | none =>
      rw [loadDocument_noTime time]
      exact Or.inl rfl
    | some timeOfDay =>
      cases weather : j.valueOr Value.getInt32 (ascii "weather") 0 with
      | none =>
        rw [loadDocument_noWeather time weather]
        exact Or.inl rfl
      | some weatherState =>
        refine Or.inr ⟨j, rfl, ?_⟩
        show (loadDocument j _).2.entities = _
        rw [loadDocument_loops time weather]
        split_ifs
        · rfl
        · rfl
        · rfl

/-- An entity of a fresh server has been read from the file. -/
theorem boot_reads {config : ServerConfig} {file : Option Value} {id : EntityID} {entity : ServerEntity}
    (stored : ({ config := config : GameServer }.loadWorld file).entities.lookup id = some entity) :
    entity.id = id ∧ ∃ e, ReadAs e entity := by
  rcases boot_entities config file with empty | ⟨j, -, table⟩
  · rw [empty] at stored
    cases stored
  · rw [table] at stored
    obtain ⟨same, e, -, read⟩ := loadEntities_loaded _ stored
    exact ⟨same, e, read⟩

end Persistence

end KenshiMP
