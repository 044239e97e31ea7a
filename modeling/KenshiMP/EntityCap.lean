/-
**How many entities there are.**

The loader stops at the cap and a spawn request is refused there, but a building is stored without
a look at the table. `size_next` says by how much a step can grow it; `entityCap` is the bound over
all runs that build only below the cap, with what follows for the heartbeat's count and for a
saved world.
-/

import KenshiMP.FreshIds
import KenshiMP.Server.SaveFacts

namespace KenshiMP

open Wire (Bytes ascii)
open Assoc
open GameServer
open Persistence
open Json (Value)
open KenshiMP.System

/-! ### One step -/

/-- How a step can change the number of entities. -/
def Grows (sys : System) (event : Event) (after : GameServer) : Prop :=
  after.entities.size ≤ sys.server.entities.size
    ∨ ((∃ player request, SpawnAccepted sys event player request)
      ∧ after.entities.size ≤ KMP_MAX_SYNC_ENTITIES)
    ∨ ((∃ player msg, BuildAccepted sys event player msg)
      ∧ after.entities.size ≤ sys.server.entities.size + 1)

variable {sys : System} {event : Event}

theorem grows_effect {peer : Peer} {data : Bytes} {channel : Nat} {env : PacketEnv}
    {type : MessageType} {reader : PacketReader} {key : PlayerID} {player : ConnectedPlayer}
    {outcome : Outcome} (received : sys.receives peer = true)
    (opened : openPacket data channel = some (type, reader))
    (behind : sys.server.getPlayer peer = some (key, player))
    (effect : Effect sys.server player type reader outcome) :
    Grows sys (.packet peer data channel env) outcome.1 := by
  have delivered : Delivers sys (.packet peer data channel env) type player reader :=
    ⟨peer, data, channel, env, key, rfl, received, opened, behind⟩
  cases effect with
  | tend keeps entities => exact Or.inl entities.size.le
  | announce => exact Or.inl le_rfl
  | wound => exact Or.inl (AMap.size_modify _ _ _).le
  | strike => exact Or.inl (AMap.size_modify _ _ _).le
  | kill => exact Or.inl (AMap.size_modify _ _ _).le
  | @spawn reader after request read accepted keeps entities =>
    refine Or.inr (Or.inl ⟨⟨player, request, reader, delivered, read, accepted⟩, ?_⟩)
    have room := accepted
    unfold acceptsSpawn at room
    simp only [Bool.and_eq_true, decide_eq_true_eq] at room
    rw [entities]
    exact (AMap.size_insert_le _ _ _).trans room.2
  | @build reader rest msg read accepted =>
    exact Or.inr (Or.inr ⟨⟨player, msg, reader, rest, delivered, read, accepted⟩,
      AMap.size_insert_le _ _ _⟩)
  | despawn => exact Or.inl (AMap.size_erase_le _ _)
  | dismantle => exact Or.inl (AMap.size_erase_le _ _)

/-- **One step**: the table grows by a spawn below the cap, or by a building. -/
theorem size_next (sys : System) (event : Event) : Grows sys event (machine.next sys event).server := by
  have same {outcome : Links × Outcome} (reaction : Reaction sys event outcome) :
      Grows sys event outcome.2.1 := by
    cases reaction with
    | tend keeps entities => exact Or.inl entities.size.le
    | cleanUp orphans keeps entities =>
      refine Or.inl ?_
      rw [entities]
      exact AMap.size_eraseAll_le _ _
    | message received opened behind effect => exact grows_effect received opened behind effect
    | seatPlayer => exact Or.inl (seatPlayer_spec _ _ _ _).size.le
    | connect =>
      refine Or.inl ?_
      unfold handleConnect
      split_ifs
      · exact le_rfl
      · exact le_rfl
    | @leave peer key player => exact Or.inl (removePlayer_spec sys.server player).size.le
    | depart => exact Or.inl le_rfl
  exact same (sys.react_reaction event)

/-! ### The start -/

/-- The entity loop stores at most as many entities as it counts, and counts up to the cap. -/
theorem loadEntities_size (elements : List Value) (loop : LoadLoop)
    (counted : loop.entities.size ≤ loop.loadedCount)
    (inside : loop.loadedCount ≤ KMP_MAX_SYNC_ENTITIES) :
    (loadEntities loop elements).2.entities.size ≤ KMP_MAX_SYNC_ENTITIES := by
  induction elements generalizing loop with
  | nil => exact counted.trans inside
  | cons e rest ih =>
    unfold loadEntities
    split_ifs with full
    · exact counted.trans inside
    · cases readHead e with
      | none => exact counted.trans inside
      | some head =>
        simp only
        split_ifs
        · exact ih (loop.seen head.id) counted inside
        · cases readRest e head with
          | none => exact counted.trans inside
          | some entity =>
            refine ih (loop.stored entity) ?_ (Nat.lt_of_not_le full)
            exact (AMap.size_insert_le _ _ _).trans (Nat.add_le_add_right counted 1)

/-- Whatever the file, the table starts within the cap. -/
theorem boot_size (config : ServerConfig) (file : Option Value) :
    (boot config file).server.entities.size ≤ KMP_MAX_SYNC_ENTITIES := by
  rcases boot_entities config file with empty | ⟨j, -, table⟩
  · show AMap.size (GameServer.loadWorld _ file).entities ≤ _
    rw [empty]
    exact Nat.zero_le _
  · show AMap.size (GameServer.loadWorld _ file).entities ≤ _
    rw [table]
    exact loadEntities_size (elements j) ⟨∅, 0, 0⟩ (Nat.le_refl 0) (Nat.zero_le _)

/-! ### Whole runs -/

/-- A building is accepted below the cap only. -/
def BuildsBelowCap (sys : System) (event : Event) : Prop :=
  ∀ player msg, BuildAccepted sys event player msg →
    sys.server.entities.size < KMP_MAX_SYNC_ENTITIES

theorem size_next_le (sys : System) (event : Event) (below : BuildsBelowCap sys event)
    (inside : sys.server.entities.size ≤ KMP_MAX_SYNC_ENTITIES) :
    (machine.next sys event).server.entities.size ≤ KMP_MAX_SYNC_ENTITIES := by
  rcases size_next sys event with less | ⟨-, capped⟩ | ⟨⟨player, msg, accepted⟩, grown⟩
  · exact less.trans inside
  · exact capped
  · exact grown.trans (below player msg accepted)

/-- The count of a heartbeat is the length of its list. -/
theorem heartbeat_count {server : GameServer} (few : server.entities.size ≤ KMP_MAX_SYNC_ENTITIES)
    (playerId : PlayerID) (player : ConnectedPlayer) :
    (UInt16.ofNat (server.relevantIds playerId player).length).toNat
      = (server.relevantIds playerId player).length := by
  have short : (server.relevantIds playerId player).length ≤ server.entities.size := by
    unfold relevantIds
    rw [List.length_map, ← AMap.size_toList]
    exact List.length_filter_le _ _
  have bound : (server.relevantIds playerId player).length < 65536 := by
    unfold KMP_MAX_SYNC_ENTITIES at few
    omega
  rw [UInt16.toNat_ofNat']
  exact Nat.mod_eq_of_lt bound

/-- **The cap holds** over every run that builds only below it, from every file; so no count of a
heartbeat is cut, and no save is cut by the loader's cap. -/
theorem entityCap {config : ServerConfig} {file : Option Value} {events : List Event}
    (along : machine.Along BuildsBelowCap (boot config file) events) :
    let server := (machine.run (boot config file) events).server
    server.entities.size ≤ KMP_MAX_SYNC_ENTITIES
      ∧ (∀ playerId player, (UInt16.ofNat (server.relevantIds playerId player).length).toNat
        = (server.relevantIds playerId player).length)
      ∧ ∀ (lib : Json.Library) text j world, server.saveWorld lib = some text →
        lib.parse text = some j → (loadDocument j world).1 = true →
        ∀ id entity, server.entities.lookup id = some entity →
          badCoords entity.position.x entity.position.y entity.position.z = false →
          ((loadDocument j world).2.entities.lookup entity.id).isSome = true := by
  intro server
  have few : server.entities.size ≤ KMP_MAX_SYNC_ENTITIES :=
    Machine.run_invariant
      (motive := fun sys => sys.server.entities.size ≤ KMP_MAX_SYNC_ENTITIES)
      size_next_le (boot_size config file) along
  refine ⟨few, heartbeat_count few, ?_⟩
  intro lib text j world saved parsed complete id entity stored placed
  have document : j = readBack server.entities server.savedForWrite server.timeOfDay
      server.weatherState := Option.some.inj (parsed.symm.trans (lib.parse_dump _ _ saved))
  subst document
  obtain ⟨timeOfDay, time⟩ := loadDocument_time complete
  rw [loadDocument_loops time weather_readBack] at complete ⊢
  split_ifs at complete ⊢ with entities players
  exact loop_readBack_present few entities stored placed

/-! ### A client that keeps building -/

/-- A wall where the player stands. -/
def wall : MsgBuildRequest := ⟨7, lit 0 1, lit 0 1, lit 0 1, 0⟩

def Client.builds (peer : Peer) : Event := Client.sends peer .C2S_BuildRequest MsgBuildRequest.codec wall

/-- One client has joined. -/
def settler : System := machine.run (boot {} none) (Client.joins 0 (ascii "Beep"))

/-- A server with one client that has built so many walls, and done nothing else. -/
structure Walled (count : Nat) (sys : System) : Prop where
  links : sys.links = settler.links
  players : sys.server.players = settler.server.players
  peers : sys.server.peers = settler.server.peers
  counter : sys.server.nextEntityId = UInt32.ofNat (count + 1)
  fresh : Fresh sys.server
  size : sys.server.entities.size = count

theorem settler_walled : Walled 0 settler :=
  ⟨rfl, rfl, rfl, by decide +kernel, fresh_of_empty rfl, by decide +kernel⟩

/-- What an accepted build request does. -/
theorem handleBuildRequest_accepted {server : GameServer} {player : ConnectedPlayer}
    {reader rest : PacketReader} {msg : MsgBuildRequest}
    (read : reader.readRaw MsgBuildRequest.codec = some (msg, rest))
    (accepted : acceptsBuild player msg = true) :
    server.handleBuildRequest player reader
      = (server.addEntity (builtEntity server.nextEntityId player.id msg),
        server.broadcastExcept player.id KMP_CHANNEL_RELIABLE_ORDERED
          (.buildPlaced ⟨server.nextEntityId, msg.templateId, ⟨msg.posX, msg.posY, msg.posZ⟩,
            msg.compressedQuat, player.id⟩)) := by
  unfold handleBuildRequest onMessage
  rw [read]
  simp only
  rw [if_neg (by rw [accepted]; decide)]

/-- The server builds the wall of its first player. -/
theorem builds_react {sys : System} (received : sys.receives 0 = true) {player : ConnectedPlayer}
    (behind : sys.server.getPlayer 0 = some (1, player)) (first : player.id = 1)
    (accepted : acceptsBuild player wall = true) :
    sys.react (Client.builds 0)
      = (sys.links, (sys.server.addEntity (builtEntity sys.server.nextEntityId 1 wall),
        sys.server.broadcastExcept 1 KMP_CHANNEL_RELIABLE_ORDERED
          (.buildPlaced ⟨sys.server.nextEntityId, wall.templateId, ⟨wall.posX, wall.posY, wall.posZ⟩,
            wall.compressedQuat, 1⟩))) := by
  obtain ⟨reader, rest, opened, read⟩ := readRaw_packet MsgBuildRequest.codec
    (show PacketHeader.type ⟨MessageType.code .C2S_BuildRequest, 0, 0, 0⟩ = _ from rfl)
    (show wrongChannel (some .C2S_BuildRequest) KMP_CHANNEL_RELIABLE_ORDERED = false from rfl) wall []
  rw [List.append_nil] at opened
  rw [show Client.builds 0 = .packet 0 (packet ⟨MessageType.code .C2S_BuildRequest, 0, 0, 0⟩
      (MsgBuildRequest.codec.encode wall)) KMP_CHANNEL_RELIABLE_ORDERED {} from rfl,
    sys.react_packet received opened (fun _ => rfl) behind]
  show (sys.links, sys.server.handleBuildRequest player reader) = _
  rw [handleBuildRequest_accepted read accepted, first]

/-- The next wall. -/
theorem Walled.next {count : Nat} (few : count < 4096) {sys : System} (walled : Walled count sys) :
    Walled (count + 1) (machine.next sys (Client.builds 0)) := by
  have received : sys.receives 0 = true := by
    unfold receives
    rw [walled.links]
    decide +kernel
  obtain ⟨player, behind, first, accepted⟩ : ∃ player, sys.server.getPlayer 0 = some (1, player)
      ∧ player.id = 1 ∧ acceptsBuild player wall = true := by
    unfold getPlayer peerData
    rw [walled.players, walled.peers]
    exact ⟨{ id := 1, name := ascii "Beep", peer := 0, ping := 0, lastUpdate := lit 0 1 },
      by decide +kernel⟩
  have nobody : ∀ msg, sys.server.broadcastExcept 1 KMP_CHANNEL_RELIABLE_ORDERED msg = [] := by
    intro msg
    unfold broadcastExcept
    rw [walled.players]
    rfl
  have after : machine.next sys (Client.builds 0)
      = ⟨sys.server.addEntity (builtEntity sys.server.nextEntityId 1 wall), sys.links⟩ := by
    show carryOut (sys.react _).1 (sys.react _).2 = _
    rw [builds_react received behind first accepted, nobody]
    rfl
  have holds : CounterHolds sys (Client.builds 0) := by
    intro _ _
    rw [walled.counter]
    intro last
    have wide := congrArg UInt32.toNat last
    rw [UInt32.toNat_ofNat', Nat.mod_eq_of_lt (by omega)] at wide
    simp only [UInt32.reduceToNat] at wide
    omega
  have positive : sys.server.nextEntityId ≠ 0 := by
    rw [walled.counter]
    intro zero
    have wide := congrArg UInt32.toNat zero
    rw [UInt32.toNat_ofNat', Nat.mod_eq_of_lt (by omega)] at wide
    cases wide
  have fresh := (walled.fresh.next positive holds).1
  rw [after] at fresh ⊢
  refine ⟨walled.links, walled.players, walled.peers, ?_, fresh, ?_⟩
  · show sys.server.nextEntityId + 1 = _
    rw [walled.counter, UInt32.ofNat_add (count + 1) 1]
    rfl
  · show AMap.size (AList.insert sys.server.nextEntityId _ sys.server.entities) = _
    rw [AMap.size_insert_of_absent walled.fresh.unused, walled.size]

theorem walled_run (count : Nat) (few : count ≤ 4096) :
    Walled count (machine.run settler (List.replicate count (Client.builds 0))) := by
  induction count with
  | zero => exact settler_walled
  | succ count ih =>
    rw [List.replicate_succ', Machine.run_append]
    exact (ih (by omega)).next few

/-- 2049 build requests of one client: the table outgrows the cap. -/
theorem entityCap_fails :
    ¬ ∀ config file events,
      (machine.run (boot config file) events).server.entities.size ≤ KMP_MAX_SYNC_ENTITIES := by
  intro capped
  have walled := (walled_run 2049 (by decide)).size
  have run := capped {} none
    (Client.joins 0 (ascii "Beep") ++ List.replicate 2049 (Client.builds 0))
  rw [Machine.run_append] at run
  rw [show machine.run (boot {} none) (Client.joins 0 (ascii "Beep")) = settler from rfl, walled] at run
  exact absurd run (by decide)

/-- A character and two walls, built while there is room. -/
def homestead : List Event :=
  Client.joins 0 (ascii "Beep") ++ [Client.spawns 0 {}, Client.builds 0, Client.builds 0]

theorem entityCap_settler :
    let server := (machine.run (boot {} none) homestead).server
    server.entities.size ≤ KMP_MAX_SYNC_ENTITIES
      ∧ ∀ playerId player, (UInt16.ofNat (server.relevantIds playerId player).length).toNat
        = (server.relevantIds playerId player).length := by
  have along : machine.Along BuildsBelowCap (boot {} none) homestead := by
    refine ⟨?_, ?_, ?_, ?_, ?_, trivial⟩
    all_goals
      intro _ _ _
      decide +kernel
  exact ⟨(entityCap along).1, (entityCap along).2.1⟩

end KenshiMP
