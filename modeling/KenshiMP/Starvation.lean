/-
**Whether every entity gets its turn in the position broadcasts.**

A broadcast has room for 255 records, and takes the first 255 of the walk over the table. The order of
the walk stays as it is while no entity comes or goes, so that the same 255 are sent again and again
(`sentIds_eq`). `noneStarved_iff`: over as many broadcasts as all entities would need, each one is
sent exactly if there are at most 255. What is sent is well counted and up to date in any case.
-/

import KenshiMP.EntityCap

namespace KenshiMP

open Wire (ascii)
open Assoc
open GameServer
open KenshiMP.System

/-! ### Runs in which no entity comes or goes -/

/-- What a walk over the entities meets: the keys and the owners, in order. -/
def GameServer.walk (server : GameServer) : List (EntityID × PlayerID) :=
  server.entities.toList.map fun (id, entity) => (id, entity.owner)

/-- The step leaves the set of entities, their owners and the order of their walk alone. -/
def SameWalk (sys : System) (event : Event) : Prop :=
  (machine.next sys event).server.walk = sys.server.walk

instance (sys : System) (event : Event) : Decidable (SameWalk sys event) :=
  inferInstanceAs (Decidable (_ = _))

/-- The states in which a run broadcasts positions. -/
def broadcasts (sys : System) : List Event → List GameServer
  | [] => []
  | event :: rest =>
    (match event with
      | .updateEnd elapsed _ => [sys.server.advanceTime (seconds elapsed)]
      | _ => []) ++ broadcasts (machine.next sys event) rest

/-- The records of the packet that is built for a player. -/
def GameServer.recordsFor (server : GameServer) (playerId : PlayerID) : List CharacterPosition :=
  match server.positionPacket playerId with
  | some ⟨_, _, .positionUpdate _ _ records⟩ => records
  | _ => []

/-- Each entity that was not the player's own has been sent to them, in packets that hold what they
count, with records as of then. -/
structure NoneStarved (first : GameServer) (playerId : PlayerID) (ticks : List GameServer) : Prop where
  covered : ∀ id entity, first.entities.lookup id = some entity → entity.owner ≠ playerId →
    ∃ tick ∈ ticks, ∃ record ∈ tick.recordsFor playerId, record.entityId = id
  counted : ∀ tick ∈ ticks, ∀ packet, tick.positionPacket playerId = some packet →
    ∃ count records, packet.msg = .positionUpdate 0 count records ∧ records.length = count.toNat
  current : ∀ tick ∈ ticks, ∀ record ∈ tick.recordsFor playerId,
    ∃ entity, tick.entities.lookup record.entityId = some entity
      ∧ entity.position = ⟨record.posX, record.posY, record.posZ⟩

/-! ### One packet -/

/-- The keys of the entities a player does not own, in walking order. -/
def foreignIds (walk : List (EntityID × PlayerID)) (playerId : PlayerID) : List EntityID :=
  (walk.filter fun entry => entry.2 ≠ playerId).map Prod.fst

section
open Persistence

variable {server : GameServer} {playerId : PlayerID}

theorem recordsFor_eq (playerId : PlayerID) :
    server.recordsFor playerId = ((server.notOwnedBy playerId).take 255).map positionRecord := by
  unfold recordsFor positionPacket
  simp only
  by_cases nobody : server.notOwnedBy playerId = []
  · rw [if_pos nobody, nobody]
    rfl
  · rw [if_neg nobody]
    simp only
    rw [min_comm, ← List.take_take, List.take_length]

theorem mem_notOwnedBy {entity : ServerEntity} (inside : entity ∈ server.notOwnedBy playerId) :
    ∃ id, server.entities.lookup id = some entity := by
  obtain ⟨⟨id, stored⟩, member, rfl⟩ := List.mem_map.mp (List.mem_filter.mp inside).1
  exact ⟨id, AMap.mem_toList.mp member⟩

/-- The identifiers of the entities are the keys of the walk. -/
theorem notOwnedBy_ids (keyed : SelfKeyed server.entities) :
    (server.notOwnedBy playerId).map ServerEntity.id = foreignIds server.walk playerId := by
  unfold notOwnedBy foreignIds walk
  rw [List.filter_map, List.map_map, List.filter_map, List.map_map]
  refine List.map_congr_left fun entry inside => ?_
  exact keyed entry.1 entry.2 (AMap.mem_toList.mp (List.mem_filter.mp inside).1)

theorem notOwnedBy_length (playerId : PlayerID) :
    (server.notOwnedBy playerId).length = (foreignIds server.walk playerId).length := by
  unfold notOwnedBy foreignIds walk
  rw [List.filter_map, List.length_map, List.length_map, List.filter_map, List.length_map]
  rfl

theorem foreignIds_nodup (server : GameServer) (playerId : PlayerID) :
    (foreignIds server.walk playerId).Nodup := by
  have keys : server.walk.map Prod.fst = server.entities.toList.map Prod.fst := by
    unfold walk
    rw [List.map_map]
    rfl
  unfold foreignIds
  refine List.Nodup.sublist (List.Sublist.map Prod.fst List.filter_sublist) ?_
  rw [keys]
  exact AMap.toList_keys_nodup _

theorem mem_foreignIds {id : EntityID} :
    id ∈ foreignIds server.walk playerId
      ↔ ∃ entity, server.entities.lookup id = some entity ∧ entity.owner ≠ playerId := by
  unfold foreignIds walk
  simp only [List.mem_map, List.mem_filter, decide_eq_true_eq]
  constructor
  · rintro ⟨-, ⟨⟨⟨key, entity⟩, member, rfl⟩, foreign⟩, rfl⟩
    exact ⟨entity, AMap.mem_toList.mp member, foreign⟩
  · rintro ⟨entity, stored, foreign⟩
    exact ⟨(id, entity.owner), ⟨⟨(id, entity), AMap.mem_toList.mpr stored, rfl⟩, foreign⟩, rfl⟩

/-- **A packet has the first 255 keys of the walk.** -/
theorem sentIds_eq (keyed : SelfKeyed server.entities) :
    (server.recordsFor playerId).map CharacterPosition.entityId
      = (foreignIds server.walk playerId).take 255 := by
  rw [recordsFor_eq, List.map_map, ← notOwnedBy_ids keyed, List.map_take]
  rfl

/-- A packet holds as many records as it counts. -/
theorem positionPacket_counts {packet : Sent} (built : server.positionPacket playerId = some packet) :
    ∃ count records, packet.msg = .positionUpdate 0 count records ∧ records.length = count.toNat := by
  unfold positionPacket at built
  simp only at built
  split_ifs at built
  cases built
  refine ⟨_, _, rfl, ?_⟩
  rw [List.length_map, List.length_take, UInt8.toNat_ofNat', Nat.mod_eq_of_lt (by omega)]
  omega

/-- A record is that of a stored entity. -/
theorem recordsFor_current (keyed : SelfKeyed server.entities) {record : CharacterPosition}
    (sent : record ∈ server.recordsFor playerId) :
    ∃ entity, server.entities.lookup record.entityId = some entity
      ∧ entity.position = ⟨record.posX, record.posY, record.posZ⟩ := by
  rw [recordsFor_eq] at sent
  obtain ⟨entity, taken, rfl⟩ := List.mem_map.mp sent
  obtain ⟨id, stored⟩ := mem_notOwnedBy (List.mem_of_mem_take taken)
  refine ⟨entity, ?_, rfl⟩
  show server.entities.lookup entity.id = some entity
  rw [keyed id entity stored]
  exact stored

end

/-! ### Whole runs -/

theorem System.Reachable.selfKeyed {sys : System} (reachable : Reachable sys) :
    Persistence.SelfKeyed sys.server.entities := by
  refine Reachable.induct (motive := fun sys => Persistence.SelfKeyed sys.server.entities)
    (fun config file id entity stored => (Persistence.boot_reads stored).1)
    (fun sys event keyed id entity stored => ?_) reachable
  exact entities_invariant (motive := fun id entity => entity.id = id)
    (fun new created => created.core.1)
    (fun id old new change _ same => change.core.1.trans same) keyed stored

/-- Every broadcast of a run without a change takes the same walk. -/
theorem broadcasts_steady {sys : System} (reachable : Reachable sys) {events : List Event}
    (steady : machine.Along SameWalk sys events) :
    ∀ tick ∈ broadcasts sys events, tick.walk = sys.server.walk ∧ Persistence.SelfKeyed tick.entities := by
  induction events generalizing sys with
  | nil => exact fun tick inside => (nomatch inside)
  | cons event rest ih =>
    intro tick inside
    rcases List.mem_append.mp inside with here | later
    · cases event with
      | updateEnd elapsed roundTripTime =>
        obtain rfl := List.mem_singleton.mp here
        exact ⟨rfl, reachable.selfKeyed⟩
      | _ => cases here
    · obtain ⟨same, keyed⟩ := ih (reachable.next event) steady.2 tick later
      exact ⟨same.trans steady.1, keyed⟩

section Same

variable {sys : System} {playerId : PlayerID} {ticks : List GameServer}
  (same : ∀ tick ∈ ticks, tick.walk = sys.server.walk ∧ Persistence.SelfKeyed tick.entities)

include same

/-- **What of the walk is sent at all**: its first 255 keys, if there is a broadcast. -/
theorem sent_iff (id : EntityID) :
    (∃ tick ∈ ticks, ∃ record ∈ tick.recordsFor playerId, record.entityId = id)
      ↔ ticks ≠ [] ∧ id ∈ (foreignIds sys.server.walk playerId).take 255 := by
  have sent (tick : GameServer) (inside : tick ∈ ticks) :
      (∃ record ∈ tick.recordsFor playerId, record.entityId = id)
        ↔ id ∈ (foreignIds sys.server.walk playerId).take 255 := by
    obtain ⟨walk, keyed⟩ := same tick inside
    rw [← walk, ← sentIds_eq keyed, List.mem_map]
  constructor
  · rintro ⟨tick, inside, record⟩
    exact ⟨List.ne_nil_of_mem inside, (sent tick inside).mp record⟩
  · rintro ⟨some, early⟩
    obtain ⟨tick, inside⟩ := List.exists_mem_of_ne_nil ticks some
    exact ⟨tick, inside, (sent tick inside).mpr early⟩

/-- The 256th entity of the walk is in no packet. -/
theorem few_of_covered (served : NoneStarved sys.server playerId ticks) :
    (sys.server.notOwnedBy playerId).length ≤ 255 := by
  rw [notOwnedBy_length]
  by_contra many
  have late : 255 < (foreignIds sys.server.walk playerId).length := by omega
  set id := (foreignIds sys.server.walk playerId)[255] with idEq
  have listed : id ∈ foreignIds sys.server.walk playerId := List.getElem_mem late
  obtain ⟨entity, stored, foreign⟩ := mem_foreignIds.mp listed
  obtain ⟨-, early⟩ := (sent_iff same id).mp (served.covered id entity stored foreign)
  have behind : id ∈ (foreignIds sys.server.walk playerId).drop 255 := by
    rw [List.drop_eq_getElem_cons late]
    exact List.mem_cons_self
  exact List.disjoint_take_drop (foreignIds_nodup _ _) le_rfl early behind

end Same

/-- **Nobody is starved by the position broadcasts, exactly if all fit into one packet.** The run
makes as many broadcasts as all entities together would need, and no entity comes or goes. -/
theorem noneStarved_iff {sys : System} (reachable : Reachable sys) {playerId : PlayerID}
    {player : ConnectedPlayer} (_connected : sys.server.players.lookup playerId = some player)
    {events : List Event} (steady : machine.Along SameWalk sys events)
    (calls : (broadcasts sys events).length = ((sys.server.notOwnedBy playerId).length + 254) / 255) :
    NoneStarved sys.server playerId (broadcasts sys events)
      ↔ (sys.server.notOwnedBy playerId).length ≤ 255 := by
  have same := broadcasts_steady reachable steady
  constructor
  · exact few_of_covered same
  · intro few
    refine ⟨fun id entity stored foreign => ?_, fun tick _ packet built => positionPacket_counts built,
      fun tick inside record sent => recordsFor_current (same tick inside).2 sent⟩
    have listed : id ∈ foreignIds sys.server.walk playerId :=
      mem_foreignIds.mpr ⟨entity, stored, foreign⟩
    rw [sent_iff same]
    rw [notOwnedBy_length] at few calls
    refine ⟨fun none => ?_, ?_⟩
    · rw [none] at calls
      have positive := List.length_pos_of_mem listed
      simp only [List.length_nil] at calls
      omega
    · rwa [List.take_of_length_le few]

/-! ### A town of 256 walls -/

/-- Two clients have joined. -/
def pair : System :=
  machine.run (boot {} none) (Client.joins 0 (ascii "Beep") ++ Client.joins 1 (ascii "Izumi"))

/-- The first of two clients has built so many walls, and done nothing else. -/
structure Crowded (count : Nat) (sys : System) : Prop where
  received : sys.receives 0 = true
  players : sys.server.players = pair.server.players
  peers : sys.server.peers = pair.server.peers
  counter : sys.server.nextEntityId = UInt32.ofNat (count + 1)
  walls : ∀ id entity, sys.server.entities.lookup id = some entity →
    entity.owner = 1 ∧ id < sys.server.nextEntityId
  size : sys.server.entities.size = count

theorem pair_reachable : Reachable pair :=
  ⟨{}, none, Client.joins 0 (ascii "Beep") ++ Client.joins 1 (ascii "Izumi"), rfl⟩

theorem pair_crowded : Crowded 0 pair :=
  ⟨by decide +kernel, rfl, rfl, by decide +kernel, fun _ _ stored => (nomatch stored),
    by decide +kernel⟩

theorem Crowded.next {count : Nat} (few : count < 4096) {sys : System}
    (crowded : Crowded count sys) : Crowded (count + 1) (machine.next sys (Client.builds 0)) := by
  obtain ⟨player, behind, first, accepted⟩ : ∃ player, sys.server.getPlayer 0 = some (1, player)
      ∧ player.id = 1 ∧ acceptsBuild player wall = true := by
    unfold getPlayer peerData
    rw [crowded.players, crowded.peers]
    exact ⟨{ id := 1, name := ascii "Beep", peer := 0, ping := 0, lastUpdate := lit 0 1 },
      by decide +kernel⟩
  have other (msg : S2C) : sys.server.broadcastExcept 1 KMP_CHANNEL_RELIABLE_ORDERED msg
      = [.send 1 ⟨KMP_CHANNEL_RELIABLE_ORDERED, true, msg⟩] := by
    unfold broadcastExcept
    rw [crowded.players]
    rfl
  have step := builds_react crowded.received behind first accepted
  rw [other] at step
  have after : (machine.next sys (Client.builds 0)).server
      = sys.server.addEntity (builtEntity sys.server.nextEntityId 1 wall) :=
    congrArg (fun outcome => outcome.2.1) step
  have notLast : sys.server.nextEntityId ≠ 0xFFFFFFFF := by
    rw [crowded.counter]
    intro last
    have wide := congrArg UInt32.toNat last
    rw [UInt32.toNat_ofNat', Nat.mod_eq_of_lt (by omega)] at wide
    simp only [UInt32.reduceToNat] at wide
    omega
  have grown := (lt_succ_of_ne notLast).1
  have unused : sys.server.entities.lookup sys.server.nextEntityId = none := by
    cases stored : sys.server.entities.lookup sys.server.nextEntityId with
    | none => rfl
    | some entity => exact absurd (crowded.walls _ _ stored).2 (UInt32.lt_irrefl _)
  refine ⟨?_, ?_, ?_, ?_, ?_, ?_⟩
  · have links : (machine.next sys (Client.builds 0)).links.lookup 0 = sys.links.lookup 0 := by
      show ((sys.react (Client.builds 0)).1.performAll (sys.react (Client.builds 0)).2.2).lookup 0 = _
      rw [step]
      exact AMap.lookup_modify_ne (by decide) _ _
    have received := crowded.received
    unfold receives at received ⊢
    rwa [links]
  · rw [after]
    exact crowded.players
  · rw [after]
    exact crowded.peers
  · rw [after]
    show sys.server.nextEntityId + 1 = _
    rw [crowded.counter, UInt32.ofNat_add (count + 1) 1]
    rfl
  · rw [after]
    intro id entity stored
    have inserted : AList.lookup id (AList.insert sys.server.nextEntityId
      (builtEntity sys.server.nextEntityId 1 wall) sys.server.entities) = some entity := stored
    rw [AMap.lookup_insert_eq] at inserted
    split_ifs at inserted with same
    · cases inserted
      rw [same]
      exact ⟨rfl, grown⟩
    · obtain ⟨owner, below⟩ := crowded.walls id entity inserted
      exact ⟨owner, UInt32.lt_trans below grown⟩
  · rw [after]
    show AMap.size (AList.insert sys.server.nextEntityId _ sys.server.entities) = _
    rw [AMap.size_insert_of_absent unused, crowded.size]

theorem crowded_run (count : Nat) (few : count ≤ 4096) :
    Crowded count (machine.run pair (List.replicate count (Client.builds 0))) := by
  induction count with
  | zero => exact pair_crowded
  | succ count ih =>
    rw [List.replicate_succ', Machine.run_append]
    exact (ih (by omega)).next few

/-- With no orphans, the end of an update leaves the walk alone. -/
theorem sameWalk_updateEnd {sys : System} (none : sys.server.orphans = [])
    (elapsed : UInt64) (roundTripTime : Peer → UInt32) :
    SameWalk sys (.updateEnd elapsed roundTripTime)
      ∧ (machine.next sys (.updateEnd elapsed roundTripTime)).server.orphans = [] := by
  obtain ⟨erased, calls, which, -, -, entities, keeps, -⟩ :=
    updateEnd_spec sys.server elapsed roundTripTime
  have nothing : erased = [] := by
    rcases which with here | here
    · exact here
    · exact here.trans none
  rw [nothing] at entities
  have same : (machine.next sys (.updateEnd elapsed roundTripTime)).server.entities
      = sys.server.entities := entities
  constructor
  · unfold SameWalk walk
    rw [same]
  · rw [← none]
    exact orphans_congr same keeps.isNone

/-- The 256th wall of the other player is never sent, however often positions are. -/
theorem noneStarved_fails :
    ¬ ∀ sys, Reachable sys → ∀ playerId player, sys.server.players.lookup playerId = some player →
      ∀ events, machine.Along SameWalk sys events →
      (broadcasts sys events).length = ((sys.server.notOwnedBy playerId).length + 254) / 255 →
      NoneStarved sys.server playerId (broadcasts sys events) := by
  intro served
  set town := machine.run pair (List.replicate 256 (Client.builds 0)) with townEq
  have crowded : Crowded 256 town := crowded_run 256 (by decide)
  have reachable : Reachable town := pair_reachable.run _
  have guest : ∃ player, town.server.players.lookup 2 = some player := by
    rw [crowded.players]
    exact Option.isSome_iff_exists.mp (by decide +kernel)
  obtain ⟨player, connected⟩ := guest
  have all : (town.server.notOwnedBy 2).length = 256 := by
    have foreign : ∀ entity ∈ town.server.entities.toList.map Prod.snd, decide (entity.owner ≠ 2) = true := by
      intro entity inside
      obtain ⟨⟨id, stored⟩, member, rfl⟩ := List.mem_map.mp inside
      rw [(crowded.walls id stored (AMap.mem_toList.mp member)).1]
      decide
    unfold notOwnedBy
    rw [List.filter_eq_self.mpr foreign, List.length_map, AMap.size_toList]
    exact crowded.size
  have noOrphans : town.server.orphans = [] := by
    refine List.eq_nil_iff_forall_not_mem.mpr fun id inside => ?_
    obtain ⟨entity, stored, orphan⟩ := (mem_orphans town.server).mp inside
    unfold isOrphan at orphan
    rw [(crowded.walls id entity stored).1, crowded.players] at orphan
    exact absurd orphan (by decide +kernel)
  obtain ⟨first, noOrphans'⟩ := sameWalk_updateEnd noOrphans 0 fun _ => 0
  obtain ⟨second, -⟩ := sameWalk_updateEnd noOrphans' 0 fun _ => 0
  have steady : machine.Along SameWalk town [.updateEnd 0 fun _ => 0, .updateEnd 0 fun _ => 0] :=
    ⟨first, second, trivial⟩
  have few := few_of_covered (broadcasts_steady reachable steady)
    (served town reachable 2 player connected _ steady (by rw [all]; rfl))
  omega

/-- One wall, and one broadcast. -/
theorem noneStarved_hamlet :
    let hamlet := machine.next pair (Client.builds 0)
    NoneStarved hamlet.server 2 (broadcasts hamlet [.updateEnd 0 fun _ => 0]) := by
  intro hamlet
  have guest : (hamlet.server.players.lookup 2).isSome = true := by decide +kernel
  obtain ⟨player, connected⟩ := Option.isSome_iff_exists.mp guest
  have reachable : Reachable hamlet := pair_reachable.next _
  exact (noneStarved_iff reachable connected (by decide +kernel) (by decide +kernel)).mpr
    (by decide +kernel)

end KenshiMP
