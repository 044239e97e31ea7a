/-
**Whether new entities get unused identifiers.**

The counter and the table are loaded together, but the counter is taken over on success only. A
file that fails after its first stored entity leaves a table that the counter has not passed;
`soundFile` says which files do not. From a sound file, and while the counter does not wrap, every
stored identifier stays below the counter (`Fresh.next`, `boot_fresh`), so that the next one is
unused.
-/

import KenshiMP.Client.Packets
import KenshiMP.Invariants

namespace KenshiMP

open Wire (Bytes ascii)
open Assoc
open GameServer
open Persistence
open Json (Value)
open KenshiMP.System

/-! ### Sound files -/

namespace Persistence

/-- The loop throws before it stores anything. -/
def failsAtOnce : List Value → Bool
  | [] => false
  | e :: rest =>
    match readHead e with
    | none => true
    | some head =>
      if badCoords head.position.x head.position.y head.position.z then failsAtOnce rest
      else (readRest e head).isNone

/-- The loop ends, in one way or the other, before it stores anything. -/
def storesNothing : List Value → Bool
  | [] => true
  | e :: rest =>
    match readHead e with
    | none => true
    | some head =>
      if badCoords head.position.x head.position.y head.position.z then storesNothing rest
      else (readRest e head).isNone

/-- Up to the cap every element can be read, no stored identifier is zero, and none is the greatest
32-bit number. -/
def wellNumbered : Nat → List Value → Bool
  | _, [] => true
  | count, e :: rest =>
    if KMP_MAX_SYNC_ENTITIES ≤ count then true
    else
      match readHead e with
      | none => false
      | some head =>
        if head.id = 0xFFFFFFFF then false
        else if badCoords head.position.x head.position.y head.position.z then
          wellNumbered count rest
        else head.id ≠ 0 && (readRest e head).isSome && wellNumbered (count + 1) rest

def playersReadable (j : Value) : Bool :=
  (playerMembers j).all fun entry => (entry.2.items.mapM Value.getUInt32).isSome

/-- Either nothing is stored when loading fails, or loading succeeds with usable identifiers. -/
def soundDocument (j : Value) : Bool :=
  (j.valueOr Value.getFloat (ascii "timeOfDay") (lit 1 2)).isNone
    || (j.valueOr Value.getInt32 (ascii "weather") 0).isNone
    || failsAtOnce (elements j)
    || (storesNothing (elements j) && !playersReadable j)
    || (wellNumbered 0 (elements j) && playersReadable j)

def soundFile : Option Value → Bool
  | none => true
  | some j => soundDocument j

/-! ### The loop on sound files -/

theorem loadEntities_failsAtOnce (elements : List Value) (loop : LoadLoop)
    (room : loop.loadedCount < KMP_MAX_SYNC_ENTITIES) (fails : failsAtOnce elements = true) :
    (loadEntities loop elements).1 = false ∧ (loadEntities loop elements).2.entities = loop.entities := by
  induction elements generalizing loop with
  | nil => cases fails
  | cons e rest ih =>
    unfold failsAtOnce at fails
    unfold loadEntities
    rw [if_neg (Nat.not_le.mpr room)]
    cases head : readHead e with
    | none => exact ⟨rfl, rfl⟩
    | some head' =>
      rw [head] at fails
      simp only at fails ⊢
      split_ifs at fails ⊢ with bad
      · exact ih (loop.seen head'.id) room fails
      · rw [Option.isNone_iff_eq_none.mp fails]
        exact ⟨rfl, rfl⟩

theorem loadEntities_storesNothing (elements : List Value) (loop : LoadLoop)
    (nothing : storesNothing elements = true) :
    (loadEntities loop elements).2.entities = loop.entities := by
  induction elements generalizing loop with
  | nil => rfl
  | cons e rest ih =>
    unfold storesNothing at nothing
    unfold loadEntities
    split_ifs
    · rfl
    · cases head : readHead e with
      | none => rfl
      | some head' =>
        rw [head] at nothing
        simp only at nothing ⊢
        split_ifs at nothing ⊢ with bad
        · exact ih (loop.seen head'.id) nothing
        · rw [Option.isNone_iff_eq_none.mp nothing]

/-- What the loop has stored so far is below the greatest identifier it has seen. -/
structure Numbered (loop : LoadLoop) : Prop where
  below : ∀ id entity, loop.entities.lookup id = some entity →
    entity.id = id ∧ id ≠ 0 ∧ id ≤ loop.maxId
  maxId : loop.maxId ≠ 0xFFFFFFFF

theorem Numbered.seen {loop : LoadLoop} (numbered : Numbered loop) {id : EntityID}
    (notLast : id ≠ 0xFFFFFFFF) : Numbered (loop.seen id) ∧ id ≤ (loop.seen id).maxId := by
  unfold LoadLoop.seen
  refine ⟨⟨fun other entity stored => ?_, ?_⟩, ?_⟩
  · obtain ⟨same, nonzero, least⟩ := numbered.below other entity stored
    refine ⟨same, nonzero, ?_⟩
    show other ≤ if loop.maxId < id then id else loop.maxId
    split_ifs with greater
    · exact UInt32.le_trans least (UInt32.le_of_lt greater)
    · exact least
  · show (if loop.maxId < id then id else loop.maxId) ≠ _
    split_ifs
    · exact notLast
    · exact numbered.maxId
  · show id ≤ if loop.maxId < id then id else loop.maxId
    split_ifs with greater
    · exact UInt32.le_refl id
    · exact UInt32.not_lt.mp greater

theorem loadEntities_wellNumbered (elements : List Value) (loop : LoadLoop)
    (numbered : Numbered loop) (well : wellNumbered loop.loadedCount elements = true) :
    (loadEntities loop elements).1 = true ∧ Numbered (loadEntities loop elements).2 := by
  induction elements generalizing loop with
  | nil => exact ⟨rfl, numbered⟩
  | cons e rest ih =>
    unfold wellNumbered at well
    unfold loadEntities
    split_ifs at well ⊢ with full
    · exact ⟨rfl, numbered⟩
    · cases head : readHead e with
      | none =>
        rw [head] at well
        cases well
      | some head' =>
        rw [head] at well
        simp only at well ⊢
        split_ifs at well ⊢ with bad last last
        · exact ih (loop.seen head'.id) (numbered.seen last).1 well
        · simp only [Bool.and_eq_true, decide_eq_true_eq] at well
          obtain ⟨⟨nonzero, readable⟩, well⟩ := well
          obtain ⟨entity, read⟩ := Option.isSome_iff_exists.mp readable
          have sameId : entity.id = head'.id := (readRest_fields read).1
          rw [← sameId] at last nonzero
          obtain ⟨seen, least⟩ := numbered.seen last
          rw [read]
          refine ih (loop.stored entity) ⟨fun id other stored => ?_, seen.maxId⟩ well
          have inserted : AList.lookup id (AList.insert entity.id entity loop.entities)
            = some other := stored
          rw [AMap.lookup_insert_eq] at inserted
          split_ifs at inserted with same
          · cases inserted
            exact ⟨same.symm, by rw [same]; exact nonzero, by rw [same]; exact least⟩
          · exact seen.below id other inserted

end Persistence

/-! ### Fresh identifiers -/

/-- Every key is its entity's identifier, nonzero, and below the counter. -/
def Fresh (server : GameServer) : Prop :=
  ∀ id entity, server.entities.lookup id = some entity →
    entity.id = id ∧ id ≠ 0 ∧ id < server.nextEntityId

/-- The next identifier is not in use. -/
theorem Fresh.unused {server : GameServer} (fresh : Fresh server) :
    server.entities.lookup server.nextEntityId = none := by
  cases stored : server.entities.lookup server.nextEntityId with
  | none => rfl
  | some entity => exact absurd (fresh _ _ stored).2.2 (UInt32.lt_irrefl _)

/-- The counter does not wrap at this event. -/
def CounterHolds (sys : System) (event : Event) : Prop :=
  ∀ new, Created sys event new → sys.server.nextEntityId ≠ 0xFFFFFFFF

/-- The counter passes nothing twice. -/
theorem CounterHolds.below {sys : System} {event : Event} (holds : CounterHolds sys event) {id : EntityID}
    (below : id < sys.server.nextEntityId) : id < (machine.next sys event).server.nextEntityId := by
  rcases (sys.next_descends event).counter with same | ⟨more, new, created⟩
  · rw [same]
    exact below
  · rw [more]
    exact UInt32.lt_trans below (lt_succ_of_ne (holds new created)).1

/-- **One step.** -/
theorem Fresh.next {sys : System} {event : Event} (fresh : Fresh sys.server)
    (positive : sys.server.nextEntityId ≠ 0) (holds : CounterHolds sys event) :
    Fresh (machine.next sys event).server ∧ (machine.next sys event).server.nextEntityId ≠ 0 := by
  obtain ⟨origin, counter⟩ := sys.next_descends event
  refine ⟨fun id new stored => ?_, ?_⟩
  · rcases origin id new stored with ⟨old, found, change⟩ | ⟨rfl, created, more⟩
    · obtain ⟨same, nonzero, below⟩ := fresh id old found
      exact ⟨change.core.1.trans same, nonzero, holds.below below⟩
    · refine ⟨created.core.1, positive, ?_⟩
      rw [more]
      exact (lt_succ_of_ne (holds new created)).1
  · rcases counter with same | ⟨more, new, created⟩
    · rw [same]
      exact positive
    · rw [more]
      exact (lt_succ_of_ne (holds new created)).2

theorem fresh_of_empty {server : GameServer} (none : server.entities = ∅) : Fresh server := by
  intro id entity stored
  rw [none] at stored
  cases stored

/-- What the loop has numbered is below the counter that loading takes over. -/
theorem fresh_of_numbered {server : GameServer} {progress : LoadLoop} (numbered : Numbered progress)
    (entities : server.entities = progress.entities)
    (counter : server.nextEntityId = progress.maxId + 1) :
    Fresh server ∧ server.nextEntityId ≠ 0 := by
  rw [counter]
  refine ⟨fun id entity stored => ?_, (lt_succ_of_ne numbered.maxId).2⟩
  rw [entities] at stored
  obtain ⟨same, nonzero, least⟩ := numbered.below id entity stored
  rw [counter]
  exact ⟨same, nonzero, UInt32.lt_of_le_of_lt least (lt_succ_of_ne numbered.maxId).1⟩

/-- **A sound file gives a fresh start.** -/
theorem boot_fresh (config : ServerConfig) (file : Option Value) (sound : soundFile file = true) :
    Fresh (boot config file).server ∧ (boot config file).server.nextEntityId ≠ 0 := by
  obtain ⟨entities, -, -, -, -, counter, -⟩ := loadWorld_fields { config := config } file
  have started : (GameServer.nextEntityId { config := config }) ≠ 0 := by
    show (1 : EntityID) ≠ 0
    decide
  -- nothing is stored, and the counter is the one the server starts with
  have failed {world : World} (result : loadWorldFromFile file (GameServer.world { config := config })
      = (false, world)) (nothing : world.entities = ∅) :
      Fresh (boot config file).server ∧ (boot config file).server.nextEntityId ≠ 0 := by
    rw [result] at entities counter
    refine ⟨fresh_of_empty (entities.trans nothing), ?_⟩
    show GameServer.nextEntityId (GameServer.loadWorld _ file) ≠ 0
    rw [counter]
    exact started
  cases file with
  | none => exact failed rfl rfl
  | some j =>
    cases time : j.valueOr Value.getFloat (ascii "timeOfDay") (lit 1 2) with
    | none => exact failed (loadDocument_noTime time) rfl
    | some timeOfDay =>
      cases weather : j.valueOr Value.getInt32 (ascii "weather") 0 with
      | none => exact failed (loadDocument_noWeather time weather) rfl
      | some weatherState =>
        have loops := @loadDocument_loops j (GameServer.world { config := config }) _ _ time weather
        have sound : soundDocument j = true := sound
        unfold soundDocument at sound
        rw [time, weather] at sound
        simp only [Option.isNone_some, Bool.false_or, Bool.or_eq_true, Bool.and_eq_true] at sound
        rcases sound with (fails | ⟨nothing, unreadable⟩) | ⟨well, readable⟩
        · obtain ⟨thrown, kept⟩ := loadEntities_failsAtOnce (elements j) ⟨∅, 0, 0⟩ (by decide) fails
          rw [if_neg (by rw [loop, thrown]; decide)] at loops
          exact failed loops kept
        · have kept := loadEntities_storesNothing (elements j) ⟨∅, 0, 0⟩ nothing
          have thrown : (playerLoop j).1 = false :=
            (loadPlayers_complete _ _ _).trans (Bool.not_eq_true' _ |>.mp unreadable)
          rw [thrown, if_neg Bool.false_ne_true] at loops
          split_ifs at loops
          · exact failed loops kept
          · exact failed loops kept
        · obtain ⟨done, numbered⟩ := loadEntities_wellNumbered (elements j) ⟨∅, 0, 0⟩
            ⟨fun id entity stored => (by cases stored), by decide⟩ well
          have complete : (playerLoop j).1 = true := (loadPlayers_complete _ _ _).trans readable
          rw [if_pos (show (loop j).1 = true from done), if_pos complete] at loops
          have result : loadWorldFromFile (some j) (GameServer.world { config := config })
            = (true, ⟨(loop j).2.entities, (playerLoop j).2, timeOfDay, weatherState,
              (loop j).2.maxId + 1⟩) := loops
          rw [result] at entities counter
          exact fresh_of_numbered numbered entities counter

/-- **Identifiers are fresh** in every state of every run from a sound file. -/
theorem idsFresh {config : ServerConfig} {file : Option Value} (sound : soundFile file = true)
    {events : List Event} (along : machine.Along CounterHolds (boot config file) events) :
    Fresh (machine.run (boot config file) events).server
      ∧ (machine.run (boot config file) events).server.entities.lookup
          (machine.run (boot config file) events).server.nextEntityId = none := by
  have fresh := Machine.run_invariant
    (motive := fun sys => Fresh sys.server ∧ sys.server.nextEntityId ≠ 0)
    (fun sys event holds both => both.1.next both.2 holds) (boot_fresh config file sound) along
  exact ⟨fresh.1, fresh.1.unused⟩

/-! ### Two files -/

/-- A character as a file has it. -/
def shopkeeper : ServerEntity := { id := 1, templateName := ascii "Shopkeeper" }

/-- A document of these elements. -/
def document (elements : List Value) : Value :=
  .obj [(ascii "version", .int 2), (ascii "timeOfDay", number (lit 1 2)), (ascii "weather", .int 0),
    (ascii "entities", .arr elements), (ascii "players", .obj [])]

theorem idsFresh_document :
    soundFile (some (document [entityJson shopkeeper])) = true
      ∧ Fresh (machine.run (boot {} (some (document [entityJson shopkeeper])))
        (Client.joins 0 (ascii "Beep") ++ [Client.spawns 0 {}])).server := by
  have sound : soundFile (some (document [entityJson shopkeeper])) = true := by decide +kernel
  have along : machine.Along CounterHolds (boot {} (some (document [entityJson shopkeeper])))
      (Client.joins 0 (ascii "Beep") ++ [Client.spawns 0 {}]) := by
    refine ⟨fun _ _ => ?_, fun _ _ => ?_, fun _ _ => ?_, trivial⟩
    · decide +kernel
    · decide +kernel
    · decide +kernel
  exact ⟨sound, (idsFresh sound along).1⟩

/-- The name and the owner an entity is stored with. -/
def storedAs (server : GameServer) (id : EntityID) : Option (Bytes × PlayerID) :=
  (server.entities.lookup id).map fun entity => (entity.templateName, entity.owner)

/-- A file whose second element is a null: the first character is loaded, the counter is not, and
the first character that a player spawns replaces the loaded one. -/
theorem idsFresh_fails :
    ¬ Fresh (boot {} (some (document [entityJson shopkeeper, .null]))).server
      ∧ storedAs (boot {} (some (document [entityJson shopkeeper, .null]))).server 1
        = some (ascii "Shopkeeper", 0)
      ∧ storedAs (machine.run (boot {} (some (document [entityJson shopkeeper, .null])))
          (Client.joins 0 (ascii "Beep") ++ [Client.spawns 0 {}])).server 1
        = some (ascii "Greenlander", 1) := by
  have loaded : storedAs (boot {} (some (document [entityJson shopkeeper, .null]))).server 1
      = some (ascii "Shopkeeper", 0) := by decide +kernel
  refine ⟨fun fresh => ?_, loaded, by decide +kernel⟩
  obtain ⟨entity, stored, -⟩ := Option.map_eq_some_iff.mp loaded
  have counter : (boot {} (some (document [entityJson shopkeeper, .null]))).server.nextEntityId = 1 := by
    decide +kernel
  have below := (fresh 1 entity stored).2.2
  rw [counter] at below
  exact UInt32.lt_irrefl 1 below

end KenshiMP
