/-
**Whether a heartbeat names everything a client has been told of.**

Announcements go to every player, wherever they are; a heartbeat names only what is a player's own,
nobody's, or near the player, and a client removes what it does not name. The list is complete, and
the client keeps everything that exists, exactly when all that was announced and exists is so
(`heartbeat_iff`).
-/

import KenshiMP.Snapshots

namespace KenshiMP

open Wire (ascii)
open Assoc
open GameServer
open KenshiMP.System

variable {sys : System} {key : PlayerID} {player : ConnectedPlayer}

theorem mem_relevantIds {server : GameServer} {id : EntityID} :
    id ∈ server.relevantIds key player ↔ ∃ entity, server.entities.lookup id = some entity
      ∧ isRelevant key player entity = true := by
  unfold relevantIds
  simp only [List.mem_map, List.mem_filter, Prod.exists, exists_and_right, exists_eq_right]
  exact exists_congr fun entity => and_congr_left fun _ => AMap.mem_toList

/-- The heartbeat of a player names everything that was announced to them and still exists. -/
def HeartbeatComplete (sys : System) (key : PlayerID) (player : ConnectedPlayer) : Prop :=
  ∀ record, Announced sys player.peer record →
    (sys.server.entities.lookup record.entityId).isSome = true →
    record.entityId ∈ sys.server.relevantIds key player

/-- A client that knows only what was announced keeps everything that still exists. -/
def HeartbeatHarmless (sys : System) (key : PlayerID) (player : ConnectedPlayer) : Prop :=
  ∀ registry : EntityRegistry,
    (∀ id ∈ registry.getRemoteEntities, ∃ record, Announced sys player.peer record
      ∧ record.entityId = id) →
    ∀ id info, registry.getInfo id = some info → (sys.server.entities.lookup id).isSome = true →
    ∀ tick count ids, sys.server.heartbeat key player = .entityHeartbeat tick count ids →
      (registry.handleEntityHeartbeat true count ids).getInfo id = some info

/-- Everything announced to a player that still exists is their own, nobody's, or near them. -/
def AnnouncedNearby (sys : System) (key : PlayerID) (player : ConnectedPlayer) : Prop :=
  ∀ record entity, Announced sys player.peer record →
    sys.server.entities.lookup record.entityId = some entity →
    entity.owner = key ∨ entity.zone.isAdjacent player.zone = true ∨ entity.owner = 0

/-- An entity of a reachable server is relevant by its owner and its zone. -/
theorem isRelevant_iff (reachable : Reachable sys) {id : EntityID} {entity : ServerEntity}
    (stored : sys.server.entities.lookup id = some entity) :
    isRelevant key player entity = true
      ↔ entity.owner = key ∨ entity.zone.isAdjacent player.zone = true ∨ entity.owner = 0 := by
  unfold isRelevant
  rw [(reachable.pristine id entity stored).state]
  simp [or_assoc]

theorem heartbeatComplete_iff (reachable : Reachable sys) :
    HeartbeatComplete sys key player ↔ AnnouncedNearby sys key player := by
  constructor
  · intro complete record entity announced stored
    obtain ⟨other, stored', relevant⟩ :=
      mem_relevantIds.mp (complete record announced (by rw [stored]; rfl))
    obtain rfl : other = entity := Option.some.inj (stored'.symm.trans stored)
    exact (isRelevant_iff reachable stored).mp relevant
  · intro nearby record announced there
    obtain ⟨entity, stored⟩ := Option.isSome_iff_exists.mp there
    exact mem_relevantIds.mpr
      ⟨entity, stored, (isRelevant_iff reachable stored).mpr (nearby record entity announced stored)⟩

/-- A list of fewer than 2 ^ 16 identifiers is read whole. -/
theorem take_count {ids : List EntityID} (fits : ids.length < 65536) :
    ids.take (UInt16.ofNat ids.length).toNat = ids := by
  rw [UInt16.toNat_ofNat', Nat.mod_eq_of_lt (by simpa using fits)]
  exact List.take_length

section Known

variable {registry : EntityRegistry} {id : EntityID} {info : EntityInfo}
  (known : registry.getInfo id = some info)

include known

/-- An entity that is not remote is never removed. -/
theorem heartbeat_keeps_local (own : id ∉ registry.getRemoteEntities) (count : UInt16) (ids : List EntityID) :
    (registry.handleEntityHeartbeat true count ids).getInfo id = some info := by
  show (registry.unregisterAll _).entities.lookup id = some info
  rw [EntityRegistry.lookup_unregisterAll, if_neg fun inside => own (List.mem_filter.mp inside).1]
  exact known

/-- A remote entity that the list names is not removed either. -/
theorem heartbeat_keeps_named {count : UInt16} {ids : List EntityID} (named : id ∈ ids.take count.toNat) :
    (registry.handleEntityHeartbeat true count ids).getInfo id = some info := by
  show (registry.unregisterAll _).entities.lookup id = some info
  have kept : id ∉ registry.getRemoteEntities.filter fun localId =>
      localId ∉ ids.take count.toNat := by
    intro inside
    exact absurd named (by simpa using (List.mem_filter.mp inside).2)
  rw [EntityRegistry.lookup_unregisterAll, if_neg kept]
  exact known

end Known

theorem heartbeatHarmless_iff (reachable : Reachable sys)
    (fits : (sys.server.relevantIds key player).length < 65536) :
    HeartbeatHarmless sys key player ↔ AnnouncedNearby sys key player := by
  rw [← heartbeatComplete_iff reachable]
  constructor
  · intro harmless record announced there
    -- a client that knows nothing but this entity
    obtain ⟨info, known, remote⟩ := EntityRegistry.registerRemote_only record.entityId record.type
      record.ownerId record.position
    have kept := harmless _ (fun id inside => ⟨record, announced, ?_⟩) record.entityId info
      ((known _ _).mpr ⟨rfl, rfl⟩) there _ _ _ rfl
    · have survives : ¬ ((({} : EntityRegistry).registerRemote record.entityId record.type
          record.ownerId record.position).handleEntityHeartbeat true
          (UInt16.ofNat (sys.server.relevantIds key player).length)
          (sys.server.relevantIds key player)).getInfo record.entityId = none := by
        rw [kept]
        exact Option.some_ne_none info
      rw [EntityRegistry.heartbeat_removes _ ((known _ _).mpr ⟨rfl, rfl⟩) remote, take_count fits,
        not_not] at survives
      exact survives
    · obtain ⟨other, stored, -⟩ := (EntityRegistry.mem_getRemoteEntities _).mp inside
      exact ((known _ _).mp stored).1.symm
  · intro complete registry onlyAnnounced id info known there tick count ids beat
    by_cases remote : id ∈ registry.getRemoteEntities
    · obtain ⟨record, announced, rfl⟩ := onlyAnnounced id remote
      refine heartbeat_keeps_named known ?_
      cases beat
      rw [take_count fits]
      exact complete record announced there
    · exact heartbeat_keeps_local known remote count ids

/-- **The heartbeat of a player names everything announced to them that still exists exactly when all
of it is their own, nobody's, or near them**, and then, as long as the count in front of the list does
not wrap, no client removes anything that exists. -/
theorem heartbeat_iff (reachable : Reachable sys) (key : PlayerID) (player : ConnectedPlayer) :
    (HeartbeatComplete sys key player ↔ AnnouncedNearby sys key player)
      ∧ ((sys.server.relevantIds key player).length < 65536 →
        (HeartbeatHarmless sys key player ↔ AnnouncedNearby sys key player)) :=
  ⟨heartbeatComplete_iff reachable, heartbeatHarmless_iff reachable⟩

/-! ### A character far away -/

def farPlace : Vec3 := ⟨lit 10000 1, lit 0 1, lit 10000 1⟩

/-- Two players; the first has a character far from the place where the second is known to be. -/
def apart : System :=
  machine.run (boot {} none)
    (Client.joins 0 (ascii "Beep") ++ Client.joins 1 (ascii "Ruka") ++ [Client.spawns 0 farPlace])

def apartCharacter : ServerEntity := (apart.server.entities.lookup 1).getD {}

def apartPlayer : ConnectedPlayer :=
  (apart.server.players.lookup 2).getD
    { id := 0, name := [], peer := 0, ping := 0, lastUpdate := lit 0 1 }

/-- The character was announced to the second player, exists, and is missing from their heartbeat. -/
theorem heartbeat_misses :
    Reachable apart ∧ apart.server.players.lookup 2 = some apartPlayer
      ∧ apart.server.entities.lookup 1 = some apartCharacter
      ∧ Announced apart apartPlayer.peer (entityRecord apartCharacter)
      ∧ apart.server.relevantIds 2 apartPlayer = []
      ∧ ¬ HeartbeatComplete apart 2 apartPlayer
      ∧ ((registryMachine.run {} (announcedTo (entityRecord apartCharacter))).handleEntityHeartbeat
          true 0 []).getInfo 1 = none := by
  have announced : Announced apart apartPlayer.peer (entityRecord apartCharacter) :=
    announced_of (by decide +kernel)
  have empty : apart.server.relevantIds 2 apartPlayer = [] := by decide +kernel
  refine ⟨⟨{}, none, _, rfl⟩, by decide +kernel, by decide +kernel, announced, empty,
    fun complete => ?_, ?_⟩
  · have named := complete _ announced (by decide +kernel)
    rw [empty] at named
    cases named
  · rw [← Option.isNone_iff_eq_none]
    decide +kernel

def watchedPlayer : ConnectedPlayer :=
  (watched.server.players.lookup 2).getD
    { id := 0, name := [], peer := 0, ping := 0, lastUpdate := lit 0 1 }

/-- Two players near each other. -/
theorem heartbeat_near : HeartbeatComplete watched 2 watchedPlayer := by
  have reachable : Reachable watched := ⟨{}, none, _, rfl⟩
  have near : ∀ entry ∈ watched.server.entities.toList,
      entry.2.zone.isAdjacent watchedPlayer.zone = true := by decide +kernel
  exact (heartbeat_iff reachable 2 watchedPlayer).1.mpr fun record entity _ stored =>
    Or.inr (Or.inl (near (record.entityId, entity) (AMap.mem_toList.mpr stored)))

end KenshiMP
