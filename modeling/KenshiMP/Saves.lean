/-
**Whether a saved world can be loaded.**

A state is `Saveable` when its floats are finite, its names are UTF-8, and its table is within the
cap; then a save writes a document that loads again, with every entity at a usable place
(`Saveable.loads`). Spawn requests and knockout reports put the sender's bytes into the world as they
are, and a building is stored without a look at the table; nothing else can spoil a saveable state
(`Saveable.next`).
-/

import KenshiMP.EntityCap

namespace KenshiMP

open Wire (Bytes ascii)
open Assoc
open GameServer
open Persistence
open Json (Value)
open KenshiMP.System

/-! ### The merged records -/

section Merged

variable (server : GameServer)

/-- One player's entities go under the player's name. -/
def mergeOne (saved : AMap Bytes SavedPlayer) (entry : PlayerID × ConnectedPlayer) : AMap Bytes SavedPlayer :=
  if server.ownedIds entry.1 = [] then saved
  else AList.insert entry.2.name ⟨entry.2.name, server.ownedIds entry.1⟩ saved

theorem lookup_mergeOne (saved : AMap Bytes SavedPlayer) (entry : PlayerID × ConnectedPlayer)
    (name : Bytes) :
    (mergeOne server saved entry).lookup name
      = if name = entry.2.name ∧ server.ownedIds entry.1 ≠ [] then
          some ⟨entry.2.name, server.ownedIds entry.1⟩
        else saved.lookup name := by
  unfold mergeOne
  split_ifs with none both both
  · exact absurd none both.2
  · rfl
  · rw [both.1]
    exact AList.lookup_insert saved
  · exact AList.lookup_insert_ne fun same => both ⟨same, none⟩

variable (entries : List (PlayerID × ConnectedPlayer)) (saved : AMap Bytes SavedPlayer) {name : Bytes}

/-- A merged record is one of before, or the entities of a player of the name. -/
theorem mergeAll_origin {record : SavedPlayer}
    (found : (entries.foldl (mergeOne server) saved).lookup name = some record) :
    saved.lookup name = some record
      ∨ ∃ entry ∈ entries, entry.2.name = name ∧ server.ownedIds entry.1 ≠ []
        ∧ record = ⟨name, server.ownedIds entry.1⟩ := by
  induction entries generalizing saved with
  | nil => exact Or.inl found
  | cons entry rest ih =>
    rcases ih (mergeOne server saved entry) found with old | ⟨other, inside, fits⟩
    · rw [lookup_mergeOne] at old
      split_ifs at old with both
      · cases old
        exact Or.inr ⟨entry, List.mem_cons_self .., both.1.symm, both.2, by rw [both.1]⟩
      · exact Or.inl old
    · exact Or.inr ⟨other, List.mem_cons_of_mem _ inside, fits⟩

/-- A player with entities has a merged record, of their own or of another player of the name. -/
theorem mergeAll_present (owner : ∃ entry ∈ entries, entry.2.name = name ∧ server.ownedIds entry.1 ≠ []) :
    ∃ entry ∈ entries, entry.2.name = name ∧ server.ownedIds entry.1 ≠ []
      ∧ (entries.foldl (mergeOne server) saved).lookup name
        = some ⟨name, server.ownedIds entry.1⟩ := by
  induction entries using List.reverseRecOn with
  | nil =>
    obtain ⟨entry, inside, -⟩ := owner
    cases inside
  | append_singleton before last ih =>
    rw [List.foldl_append]
    show ∃ entry ∈ before ++ [last], entry.2.name = name ∧ server.ownedIds entry.1 ≠ []
      ∧ (mergeOne server (before.foldl (mergeOne server) saved) last).lookup name = _
    by_cases overwritten : name = last.2.name ∧ server.ownedIds last.1 ≠ []
    · refine ⟨last, List.mem_append_right _ (List.mem_singleton_self _), overwritten.1.symm,
        overwritten.2, ?_⟩
      rw [lookup_mergeOne, if_pos overwritten, overwritten.1]
    · obtain ⟨entry, inside, named, owns⟩ := owner
      have earlier : entry ∈ before := by
        rcases List.mem_append.mp inside with earlier | here
        · exact earlier
        · cases List.mem_singleton.mp here
          exact absurd ⟨named.symm, owns⟩ overwritten
      obtain ⟨winner, among, called, richer, record⟩ := ih ⟨entry, earlier, named, owns⟩
      refine ⟨winner, List.mem_append_left _ among, called, richer, ?_⟩
      rw [lookup_mergeOne, if_neg overwritten, record]

end Merged

/-! ### Saveable states -/

/-- A state whose save can be written and loaded. -/
structure Saveable (server : GameServer) : Prop where
  few : server.entities.size ≤ KMP_MAX_SYNC_ENTITIES
  keyed : SelfKeyed server.entities
  finite : ∀ id entity, server.entities.lookup id = some entity → FiniteEntity entity
  texts : PlainTexts server.entities server.savedPlayers
  names : ∀ id player, server.players.lookup id = some player → Json.utf8 player.name = true
  time : server.timeOfDay.isFinite = true

theorem plainTexts_savedForWrite {server : GameServer}
    (texts : PlainTexts server.entities server.savedPlayers)
    (names : ∀ id player, server.players.lookup id = some player → Json.utf8 player.name = true) :
    PlainTexts server.entities server.savedForWrite := by
  refine ⟨texts.entities, fun name record found => ?_⟩
  rcases mergeAll_origin server _ _ found with old | ⟨⟨pid, player⟩, inside, rfl, -⟩
  · exact texts.savedPlayers name record old
  · exact names pid player (AMap.mem_toList.mp inside)

/-- **A saveable state is saved and loaded**, whatever the writer and the reader are. -/
theorem Saveable.loads {server : GameServer} (saveable : Saveable server) (lib : Json.Library) :
    ∃ text j, server.saveWorld lib = some text ∧ lib.parse text = some j
      ∧ ∀ world, (loadDocument j world).1 = true
        ∧ ∀ id entity, server.entities.lookup id = some entity →
          badCoords entity.position.x entity.position.y entity.position.z = false →
          (loadDocument j world).2.entities.lookup id = some (reloaded entity) := by
  have valid : server.saveDocument.validUtf8 = true :=
    validUtf8_worldJson.mpr (plainTexts_savedForWrite saveable.texts saveable.names)
  have written := lib.dump_isSome server.saveDocument
  rw [valid] at written
  obtain ⟨text, saved⟩ := Option.isSome_iff_exists.mp written
  refine ⟨text, _, saved, lib.parse_dump _ _ saved, fun world => ?_⟩
  have loaded := @loadDocument_readBack server.entities server.savedForWrite server.timeOfDay
    server.weatherState saveable.time saveable.finite world
  rw [show server.saveDocument.nullNonFinite = readBack server.entities server.savedForWrite
    server.timeOfDay server.weatherState from rfl, loaded]
  exact ⟨rfl, fun id entity stored placed =>
    loop_readBack_lookup saveable.few saveable.keyed saveable.finite stored placed⟩

/-! ### One step -/

/-- The requests of the step bring only finite floats and UTF-8 names, and build below the cap. -/
structure Sound (sys : System) (event : Event) : Prop where
  position : ∀ player request, SpawnAccepted sys event player request →
    request.position.isFinite = true
  health : ∀ player request, SpawnAccepted sys event player request →
    ∀ extended, request.extended = some extended → ∀ part, (extended.1 part).isFinite = true
  templateName : ∀ player request, SpawnAccepted sys event player request →
    Json.utf8 request.templateName = true
  knockout : ∀ id health, KnockoutAccepted sys event id health → health.isFinite = true
  below : BuildsBelowCap sys event

variable {sys : System} {event : Event}

/-- The name that a handshake leaves is printable ASCII. -/
theorem utf8_sanitizeName (playerName : Bytes) : Json.utf8 (sanitizeName playerName) = true := by
  refine Json.utf8_of_ascii fun byte inside => ?_
  unfold sanitizeName at inside
  simp only at inside
  split_ifs at inside
  · have plain : ∀ byte ∈ ascii "Player", byte < 0x80 := by decide +kernel
    exact plain byte inside
  · have printable := (List.mem_filter.mp inside).2
    simp only [Bool.and_eq_true, decide_eq_true_eq] at printable
    exact UInt8.lt_trans printable.2 (by decide)

/-- What a sound request creates is finite. -/
theorem Created.finite (sound : Sound sys event) {new : ServerEntity} (created : Created sys event new) :
    FiniteEntity new ∧ Json.utf8 new.templateName = true := by
  have hundred : (lit 100 1).isFinite = true := by decide +kernel
  cases created with
  | @spawn player request accepted =>
    have position := sound.position player request accepted
    have templateName := sound.templateName player request accepted
    have health := sound.health player request accepted
    unfold SpawnRequest.entity spawnedEntity
    simp only
    cases extended : request.extended with
    | none => exact ⟨⟨position, Quat.decompress_isFinite _, fun _ => hundred⟩, templateName⟩
    | some state => exact ⟨⟨position, Quat.decompress_isFinite _, health state extended⟩, templateName⟩
  | @build player msg accepted =>
    obtain ⟨reader, rest, -, -, accepts⟩ := accepted
    unfold acceptsBuild at accepts
    simp only [Bool.and_eq_true, Bool.not_eq_true'] at accepts
    exact ⟨⟨isFinite_of_placed accepts.1, Quat.decompress_isFinite _, fun _ => hundred⟩, rfl⟩

/-- What a sound step makes of a finite entity. -/
theorem Change.finite (reachable : Reachable sys) (sound : Sound sys event) {id : EntityID}
    {old new : ServerEntity} (change : Change sys event id old new) (finite : FiniteEntity old) :
    FiniteEntity new := by
  cases change with
  | tend tended =>
    have health : ∀ part, (new.health part).isFinite = true := by
      rw [tended.health]
      exact finite.health
    rcases tended.place with ⟨position, rotation⟩ | ⟨placed, turned⟩
    · exact ⟨by rw [position]; exact finite.position, by rw [rotation]; exact finite.rotation, health⟩
    · exact ⟨isFinite_of_placed placed, turned, health⟩
  | claim => exact ⟨finite.position, finite.rotation, finite.health⟩
  | free => exact ⟨finite.position, finite.rotation, finite.health⟩
  | @wound health accepted alive =>
    refine ⟨finite.position, finite.rotation, fun part => ?_⟩
    show (Function.update old.health 0 health part).isFinite = true
    rw [Function.update_apply]
    split_ifs
    · exact sound.knockout id health accepted
    · exact finite.health part
  | @strike player attacker dice commands alive =>
    -- the gate in front of attacks never opens
    rw [canClientCommandEntity_never reachable] at commands
    cases commands
  | kill => exact ⟨finite.position, finite.rotation, finite.health⟩

/-- The names of players, and those they leave behind. -/
structure PlainNames (server : GameServer) : Prop where
  players : ∀ id player, server.players.lookup id = some player → Json.utf8 player.name = true
  savedPlayers : ∀ name record, server.savedPlayers.lookup name = some record → Json.utf8 name = true

theorem PlainNames.keeps {before after : GameServer} (plain : PlainNames before)
    (keeps : Keeps before after) : PlainNames after := by
  refine ⟨fun id player found => ?_, fun name record found => ?_⟩
  · have same := keeps.players id
    rw [found] at same
    obtain ⟨old, stored, identity⟩ := Option.map_eq_some_iff.mp same.symm
    have names : old.name = player.name := congrArg (fun triple => triple.2.1) identity
    rw [← names]
    exact plain.players id old stored
  · rw [keeps.savedPlayers] at found
    exact plain.savedPlayers name record found

/-- A name comes from a handshake, or was there before. -/
theorem PlainNames.next (plain : PlainNames sys.server) {outcome : Links × Outcome}
    (reaction : Reaction sys event outcome) : PlainNames outcome.2.1 := by
  cases reaction with
  | tend keeps => exact plain.keeps keeps
  | cleanUp orphans keeps => exact plain.keeps keeps
  | message received opened behind effect => exact plain.keeps effect.keeps
  | @seatPlayer peer data channel env reader rest msg received opened read admitted =>
    have spec := seatPlayer_spec sys.server peer (sanitizeName msg.playerName.1) env.created
    refine ⟨fun id player found => ?_, fun name record found => ?_⟩
    · have identity := spec.players id
      rw [found] at identity
      by_cases same : id = sys.server.nextPlayerId
      · rw [if_pos same] at identity
        split_ifs at identity
        · have names := congrArg (fun triple => triple.2.1) (Option.some.inj identity)
          rw [show player.name = sanitizeName msg.playerName.1 from names]
          exact utf8_sanitizeName _
        · cases identity
      · rw [if_neg same] at identity
        obtain ⟨old, stored, same⟩ := Option.map_eq_some_iff.mp identity.symm
        have names : old.name = player.name := congrArg (fun triple => triple.2.1) same
        rw [← names]
        exact plain.players id old stored
    · rw [spec.savedPlayers] at found
      split_ifs at found
      exact plain.savedPlayers name record found
  | @connect peer host roundTripTime absent =>
    unfold handleConnect
    split_ifs
    · exact ⟨plain.players, plain.savedPlayers⟩
    · exact ⟨plain.players, plain.savedPlayers⟩
  | @leave peer key player present behind =>
    have spec := removePlayer_spec sys.server player
    have inside := (stored_of_getPlayer behind).1
    refine ⟨fun id other left => ?_, fun name record left => ?_⟩
    · have kept : (sys.server.removePlayer player).1.players.lookup id = some other := left
      rw [spec.players] at kept
      split_ifs at kept
      exact plain.players id other kept
    · have kept : (sys.server.removePlayer player).1.savedPlayers.lookup name = some record := left
      rw [spec.savedPlayers] at kept
      split_ifs at kept with renewed
      · rw [renewed.1]
        exact plain.players _ player inside
      · exact plain.savedPlayers name record kept
  | depart present nobody => exact ⟨plain.players, plain.savedPlayers⟩

/-- The time of day stays finite. -/
theorem time_next (finite : sys.server.timeOfDay.isFinite = true) {outcome : Links × Outcome}
    (reaction : Reaction sys event outcome) : outcome.2.1.timeOfDay.isFinite = true := by
  cases reaction with
  | tend keeps => exact keeps.time finite
  | cleanUp orphans keeps => exact keeps.time finite
  | message received opened behind effect => exact effect.keeps.time finite
  | seatPlayer => exact (seatPlayer_spec _ _ _ _).time finite
  | connect =>
    unfold handleConnect
    split_ifs
    · exact finite
    · exact finite
  | @leave peer key player present behind =>
    have same := (removePlayer_spec sys.server player).time
    show (sys.server.removePlayer player).1.timeOfDay.isFinite = true
    rw [same]
    exact finite
  | depart present nobody => exact finite

/-- **One step.** A sound step of a reachable server keeps it saveable. -/
theorem Saveable.next (reachable : Reachable sys) (sound : Sound sys event)
    (saveable : Saveable sys.server) : Saveable (machine.next sys event).server := by
  have reaction := sys.react_reaction event
  have plain : PlainNames (machine.next sys event).server :=
    PlainNames.next ⟨saveable.names, saveable.texts.savedPlayers⟩ reaction
  refine ⟨size_next_le sys event sound.below saveable.few, fun id entity stored => ?_,
    fun id entity stored => ?_, ⟨fun id entity stored => ?_, plain.savedPlayers⟩, plain.players,
    time_next saveable.time reaction⟩
  · exact entities_invariant (motive := fun id entity => entity.id = id)
      (fun new created => created.core.1)
      (fun id old new change _ same => change.core.1.trans same) saveable.keyed stored
  · exact entities_invariant (motive := fun _ entity => FiniteEntity entity)
      (fun new created => (created.finite sound).1)
      (fun id old new change _ finite => change.finite reachable sound finite) saveable.finite stored
  · exact entities_invariant (motive := fun _ entity => Json.utf8 entity.templateName = true)
      (fun new created => (created.finite sound).2)
      (fun id old new change _ plain => by
        rw [change.core.2.2.2.2.2.2.2]
        exact plain) saveable.texts.entities stored

/-! ### Whole runs -/

/-- **Every saved world can be loaded**, over every run from a saveable start whose requests are
sound: the save throws nothing, the load succeeds, and every entity at a usable place is there. -/
theorem savedWorldLoads {config : ServerConfig} {file : Option Value} {events : List Event}
    (start : Saveable (boot config file).server)
    (along : machine.Along Sound (boot config file) events) (lib : Json.Library) :
    let server := (machine.run (boot config file) events).server
    ∃ text j, server.saveWorld lib = some text ∧ lib.parse text = some j
      ∧ ∀ world, (loadDocument j world).1 = true
        ∧ ∀ id entity, server.entities.lookup id = some entity →
          badCoords entity.position.x entity.position.y entity.position.z = false →
          ((loadDocument j world).2.entities.lookup id).isSome = true := by
  have saveable := Machine.run_invariant
    (motive := fun sys => Reachable sys ∧ Saveable sys.server)
    (fun sys event sound both => ⟨both.1.next event, both.2.next both.1 sound⟩)
    ⟨⟨config, file, [], rfl⟩, start⟩ along
  obtain ⟨text, j, saved, parsed, loads⟩ := saveable.2.loads lib
  refine ⟨text, j, saved, parsed, fun world => ⟨(loads world).1, fun id entity stored placed => ?_⟩⟩
  rw [(loads world).2 id entity stored placed]
  rfl

/-! ### Two runs -/

/-- A server without a world file can be saved. -/
theorem fresh_saveable (config : ServerConfig) : Saveable (boot config none).server where
  few := Nat.zero_le _
  keyed id entity stored := by cases stored
  finite id entity stored := by cases stored
  texts := ⟨fun id entity stored => (by cases stored), fun name record stored => (by cases stored)⟩
  names id player stored := by cases stored
  time := by
    show (lit 1 2).isFinite = true
    decide +kernel

/-- An event that reaches no handler of a player is sound. -/
theorem sound_of_nobody (nobody : ∀ peer, sys.server.getPlayer peer = none) : Sound sys event := by
  have undelivered {type : MessageType} {player : ConnectedPlayer} {reader : PacketReader} :
      ¬ Delivers sys event type player reader := by
    rintro ⟨peer, data, channel, env, key, -, -, -, behind⟩
    rw [nobody peer] at behind
    cases behind
  refine ⟨?_, ?_, ?_, ?_, ?_⟩
  · rintro player request ⟨reader, delivered, -⟩
    exact absurd delivered undelivered
  · rintro player request ⟨reader, delivered, -⟩
    exact absurd delivered undelivered
  · rintro player request ⟨reader, delivered, -⟩
    exact absurd delivered undelivered
  · rintro id health ⟨player, reader, rest, attacker, reason, delivered, -⟩
    exact absurd delivered undelivered
  · rintro player msg ⟨reader, rest, delivered, -⟩
    exact absurd delivered undelivered

theorem nobody_of_no_players {server : GameServer} (empty : server.players = ∅) (peer : Peer) :
    server.getPlayer peer = none := by
  unfold getPlayer
  rw [empty]
  split_ifs
  · rfl
  · rfl

/-- The type of a packet that is delivered. -/
theorem type_of_delivers {peer : Peer} {data : Bytes} {channel : Nat} {env : PacketEnv}
    {type : MessageType} {player : ConnectedPlayer} {reader : PacketReader}
    (delivered : Delivers sys (.packet peer data channel env) type player reader) :
    openPacket data channel = some (type, reader) := by
  obtain ⟨peer', data', channel', env', key, same, -, opened, -⟩ := delivered
  cases same
  exact opened

/-- A character at the origin is a sound request. -/
theorem sound_spawns (peer : Peer) : Sound sys (Client.spawns peer {}) := by
  have whole : ((openPacket (Client.entitySpawn 1 0 1 0 {} {} 0 (ascii "Greenlander"))
      KMP_CHANNEL_RELIABLE_ORDERED).bind fun opened => (readSpawnRequest opened.2).map fun request =>
        (request.position.isFinite, request.extended.isNone, Json.utf8 request.templateName))
      = some (true, true, true) := by decide +kernel
  have spawn : (openPacket (Client.entitySpawn 1 0 1 0 {} {} 0 (ascii "Greenlander"))
      KMP_CHANNEL_RELIABLE_ORDERED).map Prod.fst = some .C2S_EntitySpawnReq := by decide +kernel
  have request {player : ConnectedPlayer} {request : SpawnRequest}
      (accepted : SpawnAccepted sys (Client.spawns peer {}) player request) :
      request.position.isFinite = true ∧ request.extended.isNone = true
        ∧ Json.utf8 request.templateName = true := by
    obtain ⟨reader, delivered, read, -⟩ := accepted
    rw [type_of_delivers delivered, Option.bind_some, read] at whole
    simpa only [Option.map_some, Option.some.injEq, Prod.mk.injEq] using whole
  have other {type : MessageType} (different : type ≠ .C2S_EntitySpawnReq) {player : ConnectedPlayer}
      {reader : PacketReader} : ¬ Delivers sys (Client.spawns peer {}) type player reader := by
    intro delivered
    rw [type_of_delivers delivered] at spawn
    exact different (Option.some.inj spawn)
  refine ⟨fun player req accepted => (request accepted).1, fun player req accepted state extended => ?_,
    fun player req accepted => (request accepted).2.2, ?_, ?_⟩
  · have absent := (request accepted).2.1
    rw [extended] at absent
    cases absent
  · rintro id health ⟨player, reader, rest, attacker, reason, delivered, -⟩
    exact absurd delivered (other (by decide))
  · rintro player msg ⟨reader, rest, delivered, -⟩
    exact absurd delivered (other (by decide))

theorem savedWorldLoads_spawned :
    ∃ text j, (machine.run (boot {} none)
        (Client.joins 0 (ascii "Beep") ++ [Client.spawns 0 {}])).server.saveWorld .direct = some text
      ∧ Json.Library.direct.parse text = some j
      ∧ ∀ world, (loadDocument j world).1 = true := by
  have along : machine.Along Sound (boot {} none) (Client.joins 0 (ascii "Beep") ++ [Client.spawns 0 {}]) :=
    ⟨sound_of_nobody (nobody_of_no_players rfl), sound_of_nobody (nobody_of_no_players rfl),
      sound_spawns 0, trivial⟩
  obtain ⟨text, j, saved, parsed, loads⟩ := savedWorldLoads (fresh_saveable {}) along .direct
  exact ⟨text, j, saved, parsed, fun world => (loads world).1⟩

/-- A character with a name that is no UTF-8. -/
def unnameable : Event :=
  .packet 0 (Client.entitySpawn 1 0 1 0 {} {} 0 [0xFF]) KMP_CHANNEL_RELIABLE_ORDERED {}

/-- A report that the chest of character 1 has a health that is not a number. -/
def injures : Event :=
  Client.sends 0 .C2S_CombatKO combatKOReport (1, 1, 0, Binary.Flt.nan)

/-- With the one the save throws, with the other the saved file cannot be loaded. -/
theorem savedWorldLoads_fails :
    (machine.run (boot {} none)
        (Client.joins 0 (ascii "Beep") ++ [unnameable])).server.saveWorld .direct = none
      ∧ (loadDocument (machine.run (boot {} none)
          (Client.joins 0 (ascii "Beep") ++ [Client.spawns 0 {}, injures])
        ).server.saveDocument.nullNonFinite ⟨∅, ∅, lit 1 2, 0, 1⟩).1 = false := by
  refine ⟨?_, by decide +kernel⟩
  have invalid : (machine.run (boot {} none)
      (Client.joins 0 (ascii "Beep") ++ [unnameable])).server.saveDocument.validUtf8 = false := by
    decide +kernel
  have thrown := Json.Library.direct.dump_isSome (machine.run (boot {} none)
    (Client.joins 0 (ascii "Beep") ++ [unnameable])).server.saveDocument
  rw [invalid] at thrown
  exact Option.isNone_iff_eq_none.mp (Option.isSome_eq_false_iff.mp thrown)

end KenshiMP
