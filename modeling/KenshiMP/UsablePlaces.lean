/-
**Where entities and players can be.**

Builds, position records and the loader check a place; a spawn request is stored unchecked. A
checked place is finite and within a million of the origin (`usable_iff`), its zone is computed
without an undefined conversion (`castsInRange`), and a client takes what it is told about it.
`placesUsable_iff`: all that is so in every state of a run exactly if no spawn request that is
accepted names an unusable place.
-/

import KenshiMP.Client.Packets
import KenshiMP.PlayerFates
import KenshiMP.Server.SaveFacts

namespace KenshiMP

open Wire (ascii)
open Assoc
open GameServer
open Persistence
open Binary (Flt)
open Binary.Flt (Bounded)
open KenshiMP.System

/-! ### Usable places -/

/-- Finite, and at most a million away from the origin along each axis. -/
structure Usable (place : Vec3) : Prop where
  finite : place.isFinite = true
  x : place.x.abs.le (lit 1000000 1) = true
  y : place.y.abs.le (lit 1000000 1) = true
  z : place.z.abs.le (lit 1000000 1) = true

/-- A magnitude is finite when its value is. -/
theorem isNaN_abs (x : F32) : x.abs.isNaN = x.isNaN := by
  unfold Flt.isNaN Flt.abs
  rw [Flt.mag_ofParts _ (Flt.mag_lt x)]

theorem le_iff_not_lt {x y : F32} (first : x.isNaN = false) (second : y.isNaN = false) :
    x.le y = true ↔ y.lt x = false := by
  unfold Flt.le Flt.lt
  simp only [first, second, Bool.not_false, Bool.true_and, decide_eq_true_eq, decide_eq_false_iff_not,
    not_lt]

/-- **The check of the source accepts the usable places**, and no others. -/
theorem usable_iff (place : Vec3) : Usable place ↔ Checked place := by
  have million : (lit 1000000 1).isNaN = false := by decide +kernel
  have magnitude {c : F32} (number : c.isNaN = false) :
      c.abs.le (lit 1000000 1) = true ↔ (lit 1000000 1).lt c.abs = false :=
    le_iff_not_lt ((isNaN_abs c).trans number) million
  unfold Checked badCoords
  simp only [Bool.or_eq_false_iff]
  constructor
  · rintro ⟨finite, x, y, z⟩
    unfold Vec3.isFinite at finite
    simp only [Bool.and_eq_true] at finite
    obtain ⟨⟨finiteX, finiteY⟩, finiteZ⟩ := finite
    have number {c : F32} (finite : c.isFinite = true) := Flt.isNaN_of_isFinite finite
    exact ⟨⟨⟨⟨⟨⟨⟨⟨number finiteX, number finiteY⟩, number finiteZ⟩, Flt.isInf_of_isFinite finiteX⟩,
      Flt.isInf_of_isFinite finiteY⟩, Flt.isInf_of_isFinite finiteZ⟩,
      (magnitude (number finiteX)).mp x⟩, (magnitude (number finiteY)).mp y⟩,
      (magnitude (number finiteZ)).mp z⟩
  · intro checked
    have finite : place.isFinite = true := isFinite_of_placed (by
      unfold badCoords
      simpa only [Bool.or_eq_false_iff] using checked)
    obtain ⟨⟨⟨⟨⟨⟨⟨⟨nanX, nanY⟩, nanZ⟩, -⟩, -⟩, -⟩, x⟩, y⟩, z⟩ := checked
    exact ⟨finite, (magnitude nanX).mpr x, (magnitude nanY).mpr y, (magnitude nanZ).mpr z⟩

/-! ### Zones -/

/-- A cast to a signed 32-bit integer that is defined. -/
def CastInRange (x : F32) : Prop :=
  x.isFinite = true ∧ -2147483648 ≤ x.trunc ∧ x.trunc ≤ 2147483647

/-- What is cast to the zone coordinate of a world coordinate. -/
def ZoneCoord.floored (coord : F32) : F32 :=
  let quotient := coord.div KMP_ZONE_SIZE
  if quotient.isFinite then Flt.ofInt quotient.floor else quotient

/-- Both conversions of a place to its zone are defined. -/
def CastsInRange (place : Vec3) : Prop :=
  CastInRange (ZoneCoord.floored place.x) ∧ CastInRange (ZoneCoord.floored place.z)

/-- The units of a magnitude up to a million. -/
theorem bounded_of_million {c : F32} (finite : c.isFinite = true)
    (small : c.abs.le (lit 1000000 1) = true) : Bounded c 169 := by
  have order := key_le_of_le small
  have most : (lit 1000000 1).key = 0x49742400 := by decide +kernel
  have magnitude : c.abs.key = c.mag := by
    unfold Flt.key Flt.abs
    rw [Flt.neg_ofParts _ (Flt.mag_lt c), Flt.mag_ofParts _ (Flt.mag_lt c)]
    rfl
  rw [most, magnitude] at order
  have mag : c.mag ≤ 0x49742400 := by omega
  exact ⟨finite, Binary.binary32.unitsOf_le_pow (k := 146)
    (Nat.le_trans (Nat.div_le_div_right mag) (by decide)) (by decide)⟩

/-- The integer part of a small value is small. -/
theorem natAbs_floor_le {x : F32} {j : Nat} (small : x.units ≤ 2 ^ (j + 149)) : x.floor.natAbs ≤ 2 ^ j := by
  have whole := Flt.natAbs_signedUnits x
  have wide : (2 : Int) ^ (j + 149) = 2 ^ j * 2 ^ 149 := pow_add _ _ _
  unfold Flt.floor
  have scale : Binary.binary32.scale = 149 := rfl
  rw [scale]
  have positive : (0 : Int) < 2 ^ 149 := by positivity
  have upper : x.signedUnits / 2 ^ 149 ≤ 2 ^ j := by
    refine Int.ediv_le_of_le_mul positive ?_
    rw [← wide]
    have bound : x.signedUnits ≤ (x.units : Int) := by omega
    exact_mod_cast bound.trans (by exact_mod_cast small)
  have lower : -(2 ^ j : Int) ≤ x.signedUnits / 2 ^ 149 := by
    rw [Int.le_ediv_iff_mul_le positive, neg_mul, ← wide]
    have bound : -(x.units : Int) ≤ x.signedUnits := by omega
    have small' : (x.units : Int) ≤ 2 ^ (j + 149) := by exact_mod_cast small
    omega
  have same : ((2 ^ j : Nat) : Int) = 2 ^ j := by push_cast; rfl
  omega

theorem natAbs_trunc_le {x : F32} {j : Nat} (small : x.units ≤ 2 ^ (j + 149)) : x.trunc.natAbs ≤ 2 ^ j := by
  have part : x.units / 2 ^ Binary.binary32.scale ≤ 2 ^ j := by
    refine Nat.div_le_of_le_mul ?_
    rw [Nat.mul_comm, ← pow_add]
    exact small
  unfold Flt.trunc
  split_ifs
  · rwa [Int.natAbs_neg, Int.natAbs_natCast]
  · rwa [Int.natAbs_natCast]

theorem castInRange {c : F32} (bounded : Bounded c 169) : CastInRange (ZoneCoord.floored c) := by
  have size : (2 : Nat) ^ 158 ≤ KMP_ZONE_SIZE.units := by decide +kernel
  have quotient : Bounded (c.div KMP_ZONE_SIZE) 160 :=
    Flt.div_bounded (k := 158) bounded (by decide +kernel) size (by decide) (by decide)
  have floored : Bounded (Flt.ofInt (c.div KMP_ZONE_SIZE).floor : F32) (11 + 149) :=
    Flt.ofInt_bounded (j := 11) (natAbs_floor_le quotient.2) (by decide)
  have small := natAbs_trunc_le floored.2
  unfold ZoneCoord.floored CastInRange
  simp only
  rw [if_pos quotient.1]
  refine ⟨floored.1, ?_, ?_⟩
  · omega
  · omega

/-- **The zone of a usable place is defined.** -/
theorem castsInRange {place : Vec3} (usable : Usable place) : CastsInRange place := by
  have finite := usable.finite
  unfold Vec3.isFinite at finite
  simp only [Bool.and_eq_true] at finite
  exact ⟨castInRange (bounded_of_million finite.1.1 usable.x),
    castInRange (bounded_of_million finite.2 usable.z)⟩

/-! ### What clients accept -/

/-- The checks a client makes of a position and a rotation before it keeps them. -/
def finitePlace (place : Vec3) (compressedQuat : UInt32) : Bool :=
  place.isFinite && (Quat.decompress compressedQuat).isFinite

/-- A client drops nothing of the message for a number that is not finite. -/
def S2C.acceptable : S2C → Bool
  | .entitySpawn record => finitePlace record.position record.compressedQuat
  | .positionUpdate _ _ records =>
    records.all fun record => finitePlace ⟨record.posX, record.posY, record.posZ⟩ record.compressedQuat
  | _ => true

def Call.acceptable : Call → Bool
  | .broadcast packet | .send _ packet => packet.msg.acceptable
  | .disconnect _ | .disconnectLater _ => true

/-- Every place is usable, its zone is defined, and what is sent about it is accepted. -/
structure PlacesUsable (server : GameServer) : Prop where
  entities : ∀ id entity, server.entities.lookup id = some entity →
    Usable entity.position ∧ CastsInRange entity.position
  players : ∀ id player, server.players.lookup id = some player →
    Usable player.position ∧ CastsInRange player.position
  snapshot : ∀ player, ∀ call ∈ server.sendWorldSnapshot player, call.acceptable = true
  zone : ∀ player reader, ∀ call ∈ (server.handleZoneRequest player reader).2,
    call.acceptable = true
  positions : ∀ call ∈ server.broadcastPositions, call.acceptable = true

/-- Every place has passed the check. -/
structure PlacesChecked (server : GameServer) : Prop where
  entities : ∀ id entity, server.entities.lookup id = some entity → Checked entity.position
  players : ∀ id player, server.players.lookup id = some player → Checked player.position

theorem finitePlace_of_usable {place : Vec3} (usable : Usable place) (compressedQuat : UInt32) :
    finitePlace place compressedQuat = true := by
  unfold finitePlace
  rw [usable.finite, Quat.decompress_isFinite]
  rfl

theorem PlacesChecked.usable {server : GameServer} (checked : PlacesChecked server) :
    PlacesUsable server := by
  have usable (id : EntityID) (entity : ServerEntity)
      (stored : server.entities.lookup id = some entity) : Usable entity.position :=
    (usable_iff _).mpr (checked.entities id entity stored)
  have usablePlayer (id : PlayerID) (player : ConnectedPlayer)
      (stored : server.players.lookup id = some player) : Usable player.position :=
    (usable_iff _).mpr (checked.players id player stored)
  have announced {id : EntityID} {entity : ServerEntity} (stored : server.entities.lookup id = some entity)
      (peer : Peer) : (announce peer entity).acceptable = true :=
    finitePlace_of_usable (usable id entity stored) _
  refine ⟨fun id entity stored => ⟨usable id entity stored, castsInRange (usable id entity stored)⟩,
    fun id player stored =>
      ⟨usablePlayer id player stored, castsInRange (usablePlayer id player stored)⟩, ?_, ?_, ?_⟩
  · intro player call inside
    rcases mem_sendWorldSnapshot server player inside with ⟨id, entity, stored, rfl⟩ | ⟨msg, rfl⟩
    · exact announced stored player.peer
    · rfl
  · intro player reader call inside
    obtain ⟨id, entity, stored, rfl⟩ := mem_handleZoneRequest server player reader inside
    exact announced stored player.peer
  · intro call inside
    obtain ⟨⟨id, player⟩, -, made⟩ := List.mem_filterMap.mp inside
    obtain ⟨packet, written, rfl⟩ := Option.map_eq_some_iff.mp made
    unfold positionPacket at written
    simp only at written
    split_ifs at written
    cases written
    refine List.all_eq_true.mpr fun record listed => ?_
    obtain ⟨entity, taken, rfl⟩ := List.mem_map.mp listed
    obtain ⟨⟨key, stored⟩, member, rfl⟩ :=
      List.mem_map.mp (List.mem_filter.mp (List.mem_of_mem_take taken)).1
    exact finitePlace_of_usable (usable key stored (AMap.mem_toList.mp member)) _

/-! ### Whole runs -/

/-- No spawn request that is accepted names an unusable place. -/
def SpawnsUsable (sys : System) (event : Event) : Prop :=
  ∀ player request, SpawnAccepted sys event player request → Checked request.position

theorem origin_checked : Checked {} := by
  show badCoords (lit 0 1) (lit 0 1) (lit 0 1) = false
  decide +kernel

theorem boot_checked (config : ServerConfig) (file : Option Json.Value) :
    PlacesChecked (boot config file).server := by
  refine ⟨fun id entity stored => ?_, fun id player stored => ?_⟩
  · obtain ⟨-, e, read⟩ := boot_reads stored
    exact read.fields.1
  · have nobody : (boot config file).server.players = ∅ := (loadWorld_fields _ file).2.2.1
    rw [nobody] at stored
    cases stored

theorem entity_position (request : SpawnRequest) (serverId : EntityID) (owner : PlayerID) :
    (request.entity serverId owner).position = request.position := by
  unfold SpawnRequest.entity spawnedEntity
  simp only
  cases request.extended with
  | none => rfl
  | some extended => rfl

/-- Players stay where they are, or come to a checked place. -/
theorem players_checked {sys : System} {event : Event} (spawns : SpawnsUsable sys event)
    (checked : ∀ id player, sys.server.players.lookup id = some player → Checked player.position)
    {outcome : Outcome} (turn : Turn sys event outcome) {id : PlayerID} {new : ConnectedPlayer}
    (stored : outcome.1.players.lookup id = some new) : Checked new.position := by
  have kept (key : PlayerID) (f : ConnectedPlayer → ConnectedPlayer)
      (same : ∀ player, (f player).position = player.position)
      (found : AList.lookup id (AMap.modify key f sys.server.players) = some new) :
      Checked new.position := by
    rw [AMap.lookup_modify] at found
    obtain ⟨old, before, rfl⟩ := Option.map_eq_some_iff.mp found
    split_ifs
    · rw [same]
      exact checked id old before
    · exact checked id old before
  cases turn with
  | tend rolled =>
    obtain ⟨old, before, unmoved | good | ⟨player, request, accepted, here⟩⟩ := rolled.places stored
    · rw [unmoved]
      exact checked id old before
    · exact good
    · rw [← here]
      exact spawns player request accepted
  | @ready _ _ _ _ key player behind =>
    unfold handlePlayerReady at stored
    split_ifs at stored
    · exact checked id new stored
    · exact kept key (fun player => { player with isReady := true }) (fun _ => rfl) stored
  | @lobby _ _ _ _ key player behind =>
    exact kept key (fun player => { player with lobbyReady := true }) (fun _ => rfl) stored
  | @seatPlayer _ peer name created admitted =>
    by_cases newcomer : id = sys.server.nextPlayerId
    · subst newcomer
      rw [(newcomer_standing sys.server stored).1]
      exact origin_checked
    · rw [(seatPlayer_spec sys.server peer name created).others id newcomer] at stored
      exact checked id new stored
  | @leave _ peer player leaves =>
    have left : (sys.server.removePlayer player).1.players.lookup id = some new := stored
    rw [(removePlayer_spec sys.server player).players] at left
    split_ifs at left
    exact checked id new left

theorem placesChecked_next (sys : System) (event : Event) (spawns : SpawnsUsable sys event)
    (checked : PlacesChecked sys.server) : PlacesChecked (machine.next sys event).server := by
  refine ⟨fun id entity stored => ?_, fun id player stored =>
    players_checked spawns checked.players (sys.next_turn event) stored⟩
  refine entities_invariant (motive := fun _ entity => Checked entity.position)
    (fun new created => ?_) (fun id old new change _ before => ?_) checked.entities stored
  · cases created with
    | @spawn player request accepted =>
      rw [entity_position]
      exact spawns player request accepted
    | build accepted =>
      obtain ⟨reader, rest, -, -, near⟩ := accepted
      unfold acceptsBuild at near
      rw [Bool.and_eq_true, Bool.not_eq_true'] at near
      exact near.1
  · cases change with
    | tend tended =>
      rcases tended.place with ⟨same, -⟩ | placed
      · rw [same]
        exact before
      · exact placed.1
    | claim => exact before
    | free => exact before
    | wound => exact before
    | strike => exact before
    | kill => exact before

/-- An accepted spawn request stores its character. -/
theorem spawn_stores {sys : System} {event : Event} {player : ConnectedPlayer}
    {request : SpawnRequest} (accepted : SpawnAccepted sys event player request) :
    (machine.next sys event).server.entities.lookup sys.server.nextEntityId
      = some (request.entity sys.server.nextEntityId player.id) := by
  obtain ⟨reader, ⟨peer, data, channel, env, key, rfl, received, opened, behind⟩, read, room⟩ :=
    accepted
  have handled : (sys.server.handlePlayerMessage .C2S_EntitySpawnReq peer key player reader env).1
      = (sys.server.addEntity (request.entity sys.server.nextEntityId player.id)).updatePlayer key
        (placePlayer request.position) := by
    show (sys.server.handleEntitySpawnReq player reader key).1 = _
    unfold handleEntitySpawnReq
    rw [read]
    simp only
    rw [if_neg (by rw [room]; decide)]
  show (sys.react _).2.1.entities.lookup _ = _
  rw [sys.react_packet received opened (fun _ => rfl) behind, handled]
  show AList.lookup _ (AList.insert _ _ sys.server.entities) = _
  rw [AMap.lookup_insert_eq]
  exact if_pos rfl

/-- A state with usable places has been reached without storing anything elsewhere. -/
theorem spawnsUsable_of_checked (sys : System) (event : Event)
    (checked : PlacesChecked (machine.next sys event).server) : SpawnsUsable sys event := by
  intro player request accepted
  have stored := checked.entities _ _ (spawn_stores accepted)
  rwa [entity_position] at stored

theorem PlacesUsable.checked {server : GameServer} (usable : PlacesUsable server) : PlacesChecked server :=
  ⟨fun id entity stored => (usable_iff _).mp (usable.entities id entity stored).1,
    fun id player stored => (usable_iff _).mp (usable.players id player stored).1⟩

/-- **Every place is usable in every state of a run, exactly if no spawn request that is accepted
names an unusable place**; the file the server has started with does not matter. -/
theorem placesUsable_iff (config : ServerConfig) (file : Option Json.Value) (events : List Event) :
    (∀ count, PlacesUsable (machine.run (boot config file) (events.take count)).server)
      ↔ machine.Along SpawnsUsable (boot config file) events := by
  have rule : machine.Along SpawnsUsable (boot config file) events
      ↔ ∀ count, PlacesChecked (machine.run (boot config file) (events.take count)).server :=
    Machine.along_iff (motive := fun sys => PlacesChecked sys.server) placesChecked_next
      (fun sys event _ checked => spawnsUsable_of_checked sys event checked) (boot_checked config file)
  rw [rule]
  exact forall_congr' fun count => ⟨PlacesUsable.checked, PlacesChecked.usable⟩

/-- The quiet not-a-number, as a client may send it. -/
def nowhere : Vec3 := ⟨⟨0x7FC00000⟩, lit 0 1, lit 0 1⟩

/-- One client asks for a character at not-a-number: there it is stored. -/
theorem placesUsable_fails :
    ¬ ∀ config file events, PlacesUsable (machine.run (boot config file) events).server := by
  intro always
  have usable := always {} none (Client.joins 0 (ascii "Beep") ++ [Client.spawns 0 nowhere])
  obtain ⟨entity, stored, bad⟩ : ∃ entity,
      (machine.run (boot {} none) (Client.joins 0 (ascii "Beep")
        ++ [Client.spawns 0 nowhere])).server.entities.lookup 1 = some entity
      ∧ entity.position.isFinite = false := by
    refine ⟨((machine.run (boot {} none) (Client.joins 0 (ascii "Beep")
      ++ [Client.spawns 0 nowhere])).server.entities.lookup 1).get (by decide +kernel), ?_, ?_⟩
    · exact (Option.some_get _).symm
    · decide +kernel
  have finite := (usable.entities 1 entity stored).1.finite
  rw [bad] at finite
  cases finite

end KenshiMP
