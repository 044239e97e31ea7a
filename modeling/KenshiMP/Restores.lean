/-
**What a save and a load restore.**

The document has no limb health, no status effects and no build progress, and one record for each
player name. So the state of the entities comes back exactly when those three are as a new entity
has them, and every connected player finds their entities exactly when no two of one name have any:
`restored_iff`. What a first restart leaves of a world, all further ones leave as it is:
`restarts_settle`.
-/

import KenshiMP.FailedLoads
import KenshiMP.Saves

namespace KenshiMP

open Wire (ascii)
open Assoc
open GameServer
open Persistence
open KenshiMP.System

/-! ### What is to be restored -/

/-- The state of an entity that the handlers maintain. -/
structure SameState (before after : ServerEntity) : Prop where
  id : after.id = before.id
  type : after.type = before.type
  templateId : after.templateId = before.templateId
  factionId : after.factionId = before.factionId
  templateName : after.templateName = before.templateName
  position : after.position = before.position
  rotation : after.rotation = before.rotation
  alive : after.alive = before.alive
  health : after.health = before.health
  limbHealth : after.limbHealth = before.limbHealth
  statusEffects : after.statusEffects = before.statusEffects
  buildProgress : after.buildProgress = before.buildProgress
  equipment : after.equipment = before.equipment

/-- A loaded world is that of the server. -/
structure Restored (server : GameServer) (world : World) : Prop where
  entities : ∀ id entity, server.entities.lookup id = some entity →
    ∃ loaded, world.entities.lookup id = some loaded ∧ SameState entity loaded
  timeOfDay : world.timeOfDay = server.timeOfDay
  weatherState : world.weatherState = server.weatherState
  owned : ∀ pid player, server.players.lookup pid = some player →
    ∀ id entity, server.entities.lookup id = some entity → entity.owner = pid →
      ∃ record, world.savedPlayers.lookup player.name = some record ∧ id ∈ record.entityIds

/-- A state within the limits of a file: finite, in range, with UTF-8 names. -/
structure Storable (server : GameServer) : Prop where
  few : server.entities.size ≤ KMP_MAX_SYNC_ENTITIES
  finite : ∀ id entity, server.entities.lookup id = some entity → FiniteEntity entity
  placed : ∀ id entity, server.entities.lookup id = some entity →
    badCoords entity.position.x entity.position.y entity.position.z = false
  texts : PlainTexts server.entities server.savedPlayers
  names : ∀ id player, server.players.lookup id = some player → Json.utf8 player.name = true
  time : server.timeOfDay.isFinite = true

/-- What a file can hold of a state. -/
structure Lossless (server : GameServer) : Prop where
  keyed : SelfKeyed server.entities
  unmarked : ∀ id entity, server.entities.lookup id = some entity → Unmarked entity
  apart : ∀ pid player pid' player', server.players.lookup pid = some player →
    server.players.lookup pid' = some player' → player.name = player'.name →
    server.ownedIds pid ≠ [] → server.ownedIds pid' ≠ [] → pid = pid'

/-! ### There and back -/

variable {server : GameServer}

/-- The world that is read back. -/
def reread (server : GameServer) : World :=
  let j := readBack server.entities server.savedForWrite server.timeOfDay server.weatherState
  ⟨(loop j).2.entities, (playerLoop j).2, server.timeOfDay, server.weatherState, (loop j).2.maxId + 1⟩

/-- The record that is read back for a player with entities. -/
theorem reread_record {pid : PlayerID} {player : ConnectedPlayer}
    (connected : server.players.lookup pid = some player) (owns : server.ownedIds pid ≠ []) :
    ∃ pid' player', server.players.lookup pid' = some player' ∧ player'.name = player.name
      ∧ server.ownedIds pid' ≠ []
      ∧ (reread server).savedPlayers.lookup player.name
        = if kept (reread server).entities ⟨player.name, server.ownedIds pid'⟩ = [] then none
          else some ⟨player.name,
            kept (reread server).entities ⟨player.name, server.ownedIds pid'⟩⟩ := by
  obtain ⟨⟨pid', player'⟩, inside, called, richer, merged⟩ := mergeAll_present server
    server.players.toList server.savedPlayers
    ⟨(pid, player), AMap.mem_toList.mpr connected, rfl, owns⟩
  exact ⟨pid', player', AMap.mem_toList.mp inside, called, richer,
    (playerLoop_readBack.2 player.name).trans (congrArg (Option.bind · _) merged)⟩

/-- **A lossless state is restored.** -/
theorem Lossless.restored (lossless : Lossless server) (storable : Storable server) :
    Restored server (reread server) := by
  have loaded : ∀ id entity, server.entities.lookup id = some entity →
      (reread server).entities.lookup id = some (reloaded entity) := fun id entity stored =>
    loop_readBack_lookup storable.few lossless.keyed storable.finite stored
      (storable.placed id entity stored)
  refine ⟨fun id entity stored => ?_, rfl, rfl, fun pid player connected id entity stored owner => ?_⟩
  · have unmarked := lossless.unmarked id entity stored
    exact ⟨reloaded entity, loaded id entity stored, rfl, rfl, rfl, rfl, rfl, rfl, rfl, rfl, rfl,
      unmarked.limbHealth.symm, unmarked.statusEffects.symm, unmarked.buildProgress.symm, rfl⟩
  · have owned : id ∈ server.ownedIds pid := (mem_ownedIds server).mpr ⟨entity, stored, owner⟩
    obtain ⟨pid', player', connected', called, richer, record⟩ :=
      reread_record connected (List.ne_nil_of_mem owned)
    have same : pid' = pid :=
      lossless.apart pid' player' pid player connected' connected called richer
        (List.ne_nil_of_mem owned)
    rw [same] at record
    have listed : id ∈ kept (reread server).entities ⟨player.name, server.ownedIds pid⟩ := by
      refine List.mem_filter.mpr ⟨owned, ?_⟩
      rw [loaded id entity stored]
      rfl
    rw [if_neg (List.ne_nil_of_mem listed)] at record
    exact ⟨_, record, listed⟩

/-- **A restored state was lossless.** -/
theorem Restored.lossless (restored : Restored server (reread server)) : Lossless server := by
  refine ⟨fun id entity stored => ?_, fun id entity stored => ?_, ?_⟩
  · obtain ⟨loaded, found, same⟩ := restored.entities id entity stored
    exact same.id.symm.trans (loadEntities_loaded _ found).1
  · obtain ⟨loaded, found, same⟩ := restored.entities id entity stored
    obtain ⟨-, e, -, read⟩ := loadEntities_loaded _ found
    obtain ⟨limbHealth, statusEffects, buildProgress⟩ := read.unmarked
    exact ⟨same.limbHealth.symm.trans limbHealth, same.statusEffects.symm.trans statusEffects,
      same.buildProgress.symm.trans buildProgress⟩
  · intro pid player pid' player' connected connected' called owns owns'
    -- the record of the name has the entities of one player only
    obtain ⟨winner, -, -, -, -, record⟩ := reread_record connected owns
    have only : ∀ pid player, server.players.lookup pid = some player →
        player.name = player'.name → server.ownedIds pid ≠ [] → pid = winner := by
      intro other known connected named owns
      obtain ⟨id, owned⟩ := List.exists_mem_of_ne_nil _ owns
      obtain ⟨entity, stored, owner⟩ := (mem_ownedIds server).mp owned
      obtain ⟨saved, found, listed⟩ := restored.owned other known connected id entity stored owner
      rw [named, ← called, record] at found
      split_ifs at found
      cases found
      obtain ⟨entity', stored', owner'⟩ := (mem_ownedIds server).mp (List.mem_filter.mp listed).1
      rw [stored] at stored'
      cases stored'
      exact owner.symm.trans owner'
    exact (only pid player connected called owns).trans
      (only pid' player' connected' rfl owns').symm

/-- **What persists.** A state within the limits of a file is saved and loaded, and it is restored
if and only if it is lossless. -/
theorem restored_iff (storable : Storable server) (lib : Json.Library) :
    ∃ text j, server.saveWorld lib = some text ∧ lib.parse text = some j
      ∧ ∀ world, (loadDocument j world).1 = true
        ∧ (Restored server (loadDocument j world).2 ↔ Lossless server) := by
  have valid : server.saveDocument.validUtf8 = true :=
    validUtf8_worldJson.mpr (plainTexts_savedForWrite storable.texts storable.names)
  have written := lib.dump_isSome server.saveDocument
  rw [valid] at written
  obtain ⟨text, saved⟩ := Option.isSome_iff_exists.mp written
  refine ⟨text, _, saved, lib.parse_dump _ _ saved, fun world => ?_⟩
  have loaded : loadDocument server.saveDocument.nullNonFinite world = (true, reread server) :=
    loadDocument_readBack storable.time storable.finite world
  rw [loaded]
  exact ⟨rfl, fun restored => restored.lossless, fun lossless => lossless.restored storable⟩

/-! ### Restarts -/

/-- Another server is started from what this one saves; there is none when the save throws. -/
def restart (lib : Json.Library) (server : GameServer) : Option GameServer :=
  (server.saveWorld lib).map fun text => { config := server.config : GameServer }.loadWorld (lib.parse text)

/-- Some restarts, one after the other. -/
def restarts (lib : Json.Library) : ℕ → GameServer → Option GameServer
  | 0, server => some server
  | count + 1, server => (restart lib server).bind (restarts lib count)

/-- The server with the world that is read back, and nobody connected. -/
def rebooted (server : GameServer) : GameServer :=
  { config := server.config
    entities := (reread server).entities
    savedPlayers := (reread server).savedPlayers
    timeOfDay := (reread server).timeOfDay
    weatherState := (reread server).weatherState
    nextEntityId := (reread server).nextEntityId }

/-- The greatest number in use, or zero. -/
def Top (entities : AMap EntityID ServerEntity) (top : EntityID) : Prop :=
  (∀ id, (entities.lookup id).isSome → id ≤ top) ∧ (top ≠ 0 → (entities.lookup top).isSome)

theorem Top.le {entities others : AMap EntityID ServerEntity} {top other : EntityID}
    (same : ∀ id, (entities.lookup id).isSome = (others.lookup id).isSome) (one : Top entities top)
    (two : Top others other) : top ≤ other := by
  by_cases zero : top = 0
  · rw [zero]
    exact UInt32.zero_le
  · exact two.1 top (same top ▸ one.2 zero)

theorem Top.stored {progress : LoadLoop} (top : Top progress.entities progress.maxId) (entity : ServerEntity) :
    Top (progress.stored entity).entities (progress.stored entity).maxId := by
  show Top (AList.insert entity.id entity progress.entities)
    (if progress.maxId < entity.id then entity.id else progress.maxId)
  by_cases greater : progress.maxId < entity.id
  · rw [if_pos greater]
    simp only [Top, AMap.lookup_insert_eq, UInt32.lt_iff_toNat_lt, UInt32.le_iff_toNat_le] at *
    grind
  · rw [if_neg greater]
    simp only [Top, AMap.lookup_insert_eq, UInt32.lt_iff_toNat_lt, UInt32.le_iff_toNat_le] at *
    grind

theorem Persistence.SameWorld.trans {first second third : World} (one : SameWorld first second)
    (two : SameWorld second third) : SameWorld first third :=
  ⟨fun id => (two.entities id).trans (one.entities id),
    fun name => (two.savedPlayers name).trans (one.savedPlayers name), two.timeOfDay.trans one.timeOfDay,
    two.weatherState.trans one.weatherState, two.nextEntityId.trans one.nextEntityId⟩

theorem reread_saved (name : Wire.Bytes) : (reread server).savedPlayers.lookup name
    = (server.savedForWrite.lookup name).bind fun saved =>
        if kept (reread server).entities saved = [] then none
        else some ⟨name, kept (reread server).entities saved⟩ := playerLoop_readBack.2 name

section Restart

variable (storable : Storable server)

include storable

theorem restart_eq (lib : Json.Library) : restart lib server = some (rebooted server) := by
  have valid : server.saveDocument.validUtf8 = true :=
    validUtf8_worldJson.mpr (plainTexts_savedForWrite storable.texts storable.names)
  obtain ⟨text, saved⟩ := Option.isSome_iff_exists.mp ((lib.dump_isSome _).trans valid)
  have loaded : loadDocument server.saveDocument.nullNonFinite
      ({ config := server.config : GameServer }.world) = (true, reread server) :=
    loadDocument_readBack storable.time storable.finite _
  rw [restart, show server.saveWorld lib = some text from saved, Option.map_some, lib.parse_dump _ _ saved,
    GameServer.loadWorld, loadWorldFromFile, loaded]
  rfl

/-- No entity is skipped, so that the next number is behind the greatest one. -/
theorem reread_top : ∃ top, Top (reread server).entities top ∧ (reread server).nextEntityId = top + 1 := by
  refine ⟨_, loadEntities_invariant (motive := fun progress => Top progress.entities progress.maxId) _
    (fun _ e inside head skipped _ => ?_) (fun _ _ _ entity _ top => top.stored entity) _
    ⟨fun id stored => (by cases stored), fun nonzero => absurd rfl nonzero⟩, rfl⟩
  obtain ⟨id, entity, stored, rfl⟩ := mem_elements_readBack.mp inside
  obtain ⟨head', read, placed, -⟩ :=
    readAs_written (storable.finite id entity stored) (storable.placed id entity stored)
  rw [skipped.1] at read
  cases read
  rw [skipped.2] at placed
  cases placed

variable (keyed : SelfKeyed server.entities)

include keyed

theorem reread_lookup (id : EntityID) :
    (reread server).entities.lookup id = (server.entities.lookup id).map reloaded := by
  cases stored : server.entities.lookup id with
  | some entity =>
    exact loop_readBack_lookup storable.few keyed storable.finite stored (storable.placed id entity stored)
  | none =>
    cases found : (reread server).entities.lookup id with
    | none => rfl
    | some loaded =>
      obtain ⟨same, e, inside, read⟩ := loadEntities_loaded _ found
      obtain ⟨other, entity, stored', rfl⟩ := mem_elements_readBack.mp inside
      rw [read.unique (readAs_written (storable.finite other entity stored')
        (storable.placed other entity stored'))] at same
      rw [← same, show (reloaded entity).id = other from keyed other entity stored', stored'] at stored
      cases stored

theorem rebooted_storable : Storable (rebooted server) ∧ SelfKeyed (rebooted server).entities := by
  have origin : ∀ id entity, (reread server).entities.lookup id = some entity →
      ∃ old, server.entities.lookup id = some old ∧ reloaded old = entity := fun id entity stored =>
    Option.map_eq_some_iff.mp ((reread_lookup storable keyed id).symm.trans stored)
  refine ⟨⟨loadEntities_size _ ⟨∅, 0, 0⟩ (Nat.le_refl 0) (Nat.zero_le _), fun id entity stored => ?_,
    fun id entity stored => ?_, ⟨fun id entity stored => ?_, fun name record found => ?_⟩,
    fun id player connected => (by cases connected), storable.time⟩,
    fun id entity stored => (loadEntities_loaded _ stored).1⟩
  · obtain ⟨old, before, rfl⟩ := origin id entity stored
    have finite := storable.finite id old before
    exact ⟨finite.position, finite.rotation, finite.health⟩
  · obtain ⟨old, before, rfl⟩ := origin id entity stored
    exact storable.placed id old before
  · obtain ⟨old, before, rfl⟩ := origin id entity stored
    exact storable.texts.entities id old before
  · obtain ⟨saved, before, -⟩ := Option.bind_eq_some_iff.mp ((reread_saved name).symm.trans found)
    exact (plainTexts_savedForWrite storable.texts storable.names).savedPlayers name saved before

/-- **What is read back is read back again.** -/
theorem reread_rebooted : SameWorld (reread server) (reread (rebooted server)) := by
  obtain ⟨storable', keyed'⟩ := rebooted_storable storable keyed
  have entities : ∀ id, (reread (rebooted server)).entities.lookup id = (reread server).entities.lookup id := by
    intro id
    rw [reread_lookup storable' keyed', reread_lookup storable keyed,
      show (rebooted server).entities.lookup id = _ from reread_lookup storable keyed id, Option.map_map]
    rfl
  have some' : ∀ id, ((reread (rebooted server)).entities.lookup id).isSome
      = ((reread server).entities.lookup id).isSome := fun id => congrArg Option.isSome (entities id)
  refine ⟨entities, fun name => ?_, rfl, rfl, ?_⟩
  · rw [reread_saved, show (rebooted server).savedForWrite.lookup name
      = (reread server).savedPlayers.lookup name from rfl, reread_saved]
    cases server.savedForWrite.lookup name with
    | none => rfl
    | some saved =>
      rw [Option.bind_some]
      split_ifs with empty
      · rfl
      · have whole : kept (reread (rebooted server)).entities ⟨name, kept (reread server).entities saved⟩
            = kept (reread server).entities saved :=
          List.filter_eq_self.mpr fun id inside => (some' id).trans (List.mem_filter.mp inside).2
        rw [Option.bind_some, whole, if_neg empty]
  · obtain ⟨top, one, next⟩ := reread_top storable
    obtain ⟨top', two, next'⟩ := reread_top storable'
    rw [next, next', UInt32.le_antisymm (two.le some' one) (one.le (fun id => (some' id).symm) two)]

/-- **A restart settles the world**: what the first one makes of it, every further one gives back. -/
theorem restarts_settle (lib : Json.Library) (count : ℕ) :
    ∃ first last, restart lib server = some first ∧ restarts lib count first = some last
      ∧ (∀ id, first.entities.lookup id = (server.entities.lookup id).map reloaded)
      ∧ SameWorld first.world last.world := by
  refine ⟨rebooted server, ?_⟩
  induction count generalizing server with
  | zero =>
    exact ⟨_, restart_eq storable lib, rfl, reread_lookup storable keyed,
      ⟨fun _ => rfl, fun _ => rfl, rfl, rfl, rfl⟩⟩
  | succ count ih =>
    obtain ⟨storable', keyed'⟩ := rebooted_storable storable keyed
    obtain ⟨last, again, later, -, same⟩ := ih storable' keyed'
    refine ⟨last, restart_eq storable lib, ?_, reread_lookup storable keyed,
      (reread_rebooted storable keyed).trans same⟩
    rw [restarts, again, Option.bind_some, later]

end Restart

/-! ### Two states -/

/-- A server with one player and one character of theirs. -/
def household (character : ServerEntity) : GameServer :=
  { players := AList.insert 1 { id := 1, name := ascii "Beep", peer := 0, ping := 0, lastUpdate := lit 0 1 } ∅
    entities := AList.insert 1 character ∅ }

/-- The character as it has been spawned, and after a report of a wounded limb. -/
def recruit : ServerEntity := { id := 1, owner := 1, templateName := ascii "Greenlander" }

def bruised : ServerEntity := { recruit with limbHealth := Function.update recruit.limbHealth 3 (lit 40 1) }

theorem household_entity {character entity : ServerEntity} {id : EntityID}
    (stored : (household character).entities.lookup id = some entity) : id = 1 ∧ entity = character := by
  have inserted : AList.lookup id (AList.insert 1 character (∅ : AMap EntityID ServerEntity))
      = some entity := stored
  rw [AMap.lookup_insert_eq] at inserted
  split_ifs at inserted with first
  · exact ⟨first, (Option.some.inj inserted).symm⟩
  · cases inserted

theorem household_player {character : ServerEntity} {id : PlayerID} {player : ConnectedPlayer}
    (connected : (household character).players.lookup id = some player) :
    id = 1 ∧ player.name = ascii "Beep" := by
  have inserted : AList.lookup id (AList.insert 1 _ (∅ : AMap PlayerID ConnectedPlayer))
      = some player := connected
  rw [AMap.lookup_insert_eq] at inserted
  split_ifs at inserted with first
  · cases inserted
    exact ⟨first, rfl⟩
  · cases inserted

theorem household_storable {character : ServerEntity} (finite : FiniteEntity character)
    (placed : badCoords character.position.x character.position.y character.position.z = false)
    (plain : Json.utf8 character.templateName = true) : Storable (household character) := by
  have time : (lit 1 2).isFinite = true := by decide +kernel
  refine ⟨show 1 ≤ 2048 by decide, fun id entity stored => ?_, fun id entity stored => ?_,
    ⟨fun id entity stored => ?_, fun name record stored => (by cases stored)⟩,
    fun id player connected => ?_, time⟩
  · rw [(household_entity stored).2]
    exact finite
  · rw [(household_entity stored).2]
    exact placed
  · rw [(household_entity stored).2]
    exact plain
  · rw [(household_player connected).2]
    decide +kernel

theorem recruit_finite : FiniteEntity recruit :=
  ⟨by decide +kernel, by decide +kernel, by decide +kernel⟩

/-- The recruit comes back whole. -/
theorem restored_iff_recruit :
    ∃ text j, (household recruit).saveWorld .direct = some text
      ∧ Json.Library.direct.parse text = some j
      ∧ ∀ world, Restored (household recruit) (loadDocument j world).2 := by
  obtain ⟨text, j, saved, parsed, loads⟩ :=
    restored_iff (household_storable recruit_finite (by decide +kernel) (by decide +kernel)) .direct
  refine ⟨text, j, saved, parsed, fun world => (loads world).2.mpr ⟨?_, ?_, ?_⟩⟩
  · intro id entity stored
    obtain ⟨first, same⟩ := household_entity stored
    rw [first, same]
    rfl
  · intro id entity stored
    rw [(household_entity stored).2]
    exact ⟨rfl, rfl, rfl⟩
  · intro pid player pid' player' connected connected' _ _ _
    exact (household_player connected).1.trans (household_player connected').1.symm

theorem restarts_settle_recruit : ∃ first last, restart .direct (household recruit) = some first
    ∧ restarts .direct 3 first = some last
    ∧ (∀ id, first.entities.lookup id = ((household recruit).entities.lookup id).map reloaded)
    ∧ SameWorld first.world last.world := by
  refine restarts_settle (household_storable recruit_finite (by decide +kernel) (by decide +kernel))
    (fun id entity stored => ?_) .direct 3
  obtain ⟨first, same⟩ := household_entity stored
  rw [first, same]
  rfl

/-- The wound of the bruised one does not. -/
theorem restored_fails :
    Storable (household bruised)
      ∧ ∀ world, (loadDocument (household bruised).saveDocument.nullNonFinite world).1 = true
        ∧ ¬ Restored (household bruised)
          (loadDocument (household bruised).saveDocument.nullNonFinite world).2 := by
  have finite : FiniteEntity bruised := ⟨by decide +kernel, by decide +kernel, by decide +kernel⟩
  have storable := household_storable finite (by decide +kernel) (by decide +kernel)
  refine ⟨storable, fun world => ?_⟩
  have loaded : loadDocument (household bruised).saveDocument.nullNonFinite world
      = (true, reread (household bruised)) :=
    loadDocument_readBack storable.time storable.finite world
  rw [loaded]
  refine ⟨rfl, fun restored => ?_⟩
  have unmarked := (restored.lossless.unmarked 1 bruised (by decide +kernel)).limbHealth
  have limb := congrFun unmarked 3
  exact absurd limb (by decide +kernel)

end KenshiMP
