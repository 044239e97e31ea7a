/-
**The zone index is the inverse of the zones of the players.**

The players are in an index of places whose keys are packed zones (`Buckets.Indexes`): a key is the zone
again when it is unpacked (`unpack_zoneKey`), so two zones have two keys. `indexed_run`: every operation keeps
the index. `zones_apply`: what an operation does to the zones of the players. `exactZones`: after a rebuild,
the keys are those of the zones around that have an entity.
-/

import KenshiMP.Client.ZoneEngine

namespace KenshiMP

open Assoc

namespace ZoneEngine

/-! ### What should be -/

/-- The player has a zone. -/
def Tracked (engine : ZoneEngine) (playerId : PlayerID) : Prop := (engine.playerZones.lookup playerId).isSome

/-- The players of the zones are those that have them; everyone who has one is in one list once, and no list
is empty. -/
structure ExactPlayers (engine : ZoneEngine) : Prop where
  inverse : ∀ playerId zone, playerId ∈ engine.getPlayersInZone zone
    ↔ engine.Tracked playerId ∧ engine.getPlayerZone playerId = zone
  once : ∀ playerId, engine.Tracked playerId → (Buckets.all engine.zonePlayers).count playerId = 1
  others : ∀ playerId, ¬ engine.Tracked playerId → playerId ∉ Buckets.all engine.zonePlayers
  inhabited : ∀ key players, engine.zonePlayers.lookup key = some players → players ≠ []

/-- The zones of the players after an operation, from those before it. -/
def zonesAfter (zones : PlayerID → Option ZoneCoord) : ZoneEngineOp → PlayerID → Option ZoneCoord
  | .updatePlayerZone playerId zone => Function.update zones playerId (some zone)
  | .removePlayer playerId => Function.update zones playerId none
  | .reset => fun _ => none
  | .updateLocalPlayerZone _ | .rebuildZoneIndex _ => zones

/-- The populated zones are the zones around that have an entity. -/
structure ExactZones (engine : ZoneEngine) (registry : EntityRegistry) : Prop where
  populated : ∀ zone, zone ∈ engine.getPopulatedZones ↔ zone ∈ engine.getInterestZones
    ∧ ∃ netId info, registry.getInfo netId = some info ∧ info.zone = zone
  once : engine.getPopulatedZones.Nodup

/-! ### Keys -/

theorem toNat_pack (high low : UInt32) :
    (high.toUInt64 <<< 32 ||| low.toUInt64).toNat = 2 ^ 32 * high.toNat + low.toNat := by
  have small : high.toNat <<< 32 < 2 ^ 64 := by
    rw [Nat.shiftLeft_eq]
    exact Nat.mul_lt_mul_of_pos_right high.toNat_lt (by decide)
  rw [UInt64.toNat_or, UInt64.toNat_shiftLeft, UInt32.toNat_toUInt64, UInt32.toNat_toUInt64]
  show high.toNat <<< 32 % 2 ^ 64 ||| low.toNat = _
  rw [Nat.mod_eq_of_lt small, Nat.shiftLeft_eq, Nat.mul_comm, Nat.two_pow_add_eq_or_of_lt low.toNat_lt]

theorem toNat_high (key : UInt64) : (key >>> 32).toUInt32.toNat = key.toNat / 2 ^ 32 := by
  have bound := key.toNat_lt
  rw [UInt64.toNat_toUInt32, UInt64.toNat_shiftRight]
  show key.toNat >>> 32 % 2 ^ 32 = _
  rw [Nat.shiftRight_eq_div_pow]
  omega

theorem toNat_low (key : UInt64) : (key &&& 0xFFFFFFFF).toUInt32.toNat = key.toNat % 2 ^ 32 := by
  rw [UInt64.toNat_toUInt32, UInt64.toNat_and]
  show (key.toNat &&& (2 ^ 32 - 1)) % 2 ^ 32 = _
  rw [Nat.and_two_pow_sub_one_eq_mod]
  omega

/-- **The coordinates come back**, negative ones too. -/
theorem unpack_zoneKey (zone : ZoneCoord) : unpack (zoneKey zone) = zone := by
  have low := zone.y.toUInt32.toNat_lt
  have packed := toNat_pack zone.x.toUInt32 zone.y.toUInt32
  have x_back : (zoneKey zone >>> 32).toUInt32 = zone.x.toUInt32 := by
    apply UInt32.toNat_inj.mp
    rw [toNat_high, zoneKey, packed]
    omega
  have y_back : (zoneKey zone &&& 0xFFFFFFFF).toUInt32 = zone.y.toUInt32 := by
    apply UInt32.toNat_inj.mp
    rw [toNat_low, zoneKey, packed]
    omega
  unfold unpack
  rw [x_back, y_back, Int32.toInt32_toUInt32, Int32.toInt32_toUInt32]

/-- Every number is the key of a zone. -/
theorem zoneKey_unpack (key : UInt64) : zoneKey (unpack key) = key := by
  apply UInt64.toNat_inj.mp
  unfold zoneKey unpack
  rw [UInt32.toUInt32_toInt32, UInt32.toUInt32_toInt32, toNat_pack, toNat_high, toNat_low]
  omega

theorem zoneKey_inj {one two : ZoneCoord} (same : zoneKey one = zoneKey two) : one = two := by
  rw [← unpack_zoneKey one, same, unpack_zoneKey]

/-! ### The players -/

variable {engine : ZoneEngine}

/-- The key of the zone of a player. -/
def place (engine : ZoneEngine) (playerId : PlayerID) : Option UInt64 :=
  (engine.playerZones.lookup playerId).map zoneKey

theorem place_insert (playerId : PlayerID) (zone : ZoneCoord) (players : AMap UInt64 (List PlayerID)) :
    place { engine with playerZones := AList.insert playerId zone engine.playerZones, zonePlayers := players }
      = Function.update engine.place playerId (some (zoneKey zone)) := by
  funext other
  unfold place
  rw [AMap.lookup_insert_eq, Function.update_apply]
  split_ifs <;> rfl

theorem place_erase (playerId : PlayerID) (players : AMap UInt64 (List PlayerID)) :
    place { engine with playerZones := AList.erase playerId engine.playerZones, zonePlayers := players }
      = Function.update engine.place playerId none := by
  funext other
  unfold place
  rw [AMap.lookup_erase_eq, Function.update_apply]
  split_ifs <;> rfl

/-- The index of the players is right. -/
def Indexed (engine : ZoneEngine) : Prop := Buckets.Indexes engine.place engine.zonePlayers

theorem indexed_updatePlayerZone (indexed : engine.Indexed) (playerId : PlayerID) (zone : ZoneCoord) :
    (engine.updatePlayerZone playerId zone).Indexed := by
  unfold updatePlayerZone
  cases known : engine.playerZones.lookup playerId with
  | none =>
    have nowhere : engine.place playerId = none := by
      unfold place
      rw [known]
      rfl
    unfold Indexed
    rw [place_insert]
    exact Buckets.Indexes.put indexed nowhere _
  | some oldZone =>
    simp only
    split_ifs with same
    · exact indexed
    · have here : engine.place playerId = some (zoneKey oldZone) := by
        unfold place
        rw [known]
        rfl
      have left := Buckets.Indexes.take indexed here
      have arrived := left.put (Function.update_self playerId none engine.place) (zoneKey zone)
      rw [Function.update_idem] at arrived
      unfold Indexed
      rw [place_insert]
      exact arrived

theorem indexed_removePlayer (indexed : engine.Indexed) (playerId : PlayerID) :
    (engine.removePlayer playerId).Indexed := by
  unfold removePlayer
  cases known : engine.playerZones.lookup playerId with
  | none => exact indexed
  | some zone =>
    have here : engine.place playerId = some (zoneKey zone) := by
      unfold place
      rw [known]
      rfl
    unfold Indexed
    rw [place_erase]
    exact Buckets.Indexes.take indexed here

theorem indexed_start : ({} : ZoneEngine).Indexed := Buckets.Indexes.start

theorem indexed_apply (indexed : engine.Indexed) (op : ZoneEngineOp) : (op.apply engine).Indexed := by
  cases op with
  | updatePlayerZone playerId zone => exact indexed_updatePlayerZone indexed playerId zone
  | removePlayer playerId => exact indexed_removePlayer indexed playerId
  | reset => exact indexed_start
  | updateLocalPlayerZone position =>
    show (engine.updateLocalPlayerZone position).Indexed
    unfold updateLocalPlayerZone
    simp only
    split_ifs
    · exact indexed
    · exact indexed
  | rebuildZoneIndex registry => exact indexed

theorem indexed_run (ops : List ZoneEngineOp) : (zoneEngineMachine.run {} ops).Indexed :=
  zoneEngineMachine.run_invariant_always (motive := Indexed) (fun _ op indexed => indexed_apply indexed op)
    indexed_start ops

theorem exactPlayers (indexed : engine.Indexed) : engine.ExactPlayers where
  inverse playerId zone := by
    have inverse := Buckets.Indexes.inverse indexed (zoneKey zone) playerId
    unfold getPlayersInZone Tracked getPlayerZone
    rw [inverse]
    unfold place
    cases engine.playerZones.lookup playerId with
    | none => simp
    | some other =>
      simp only [Option.map_some, Option.some.injEq, Option.isSome_some, Option.getD_some, true_and]
      exact ⟨zoneKey_inj, congrArg zoneKey⟩
  once playerId tracked := by
    rw [Buckets.Indexes.count_all indexed, if_pos]
    unfold place
    rw [Option.isSome_map]
    exact tracked
  others playerId not := by
    rw [Buckets.Indexes.mem_all indexed]
    unfold place
    rw [Option.isSome_map]
    exact not
  inhabited := Buckets.Indexes.inhabited indexed

/-- **Each operation moves the player that it names**, and no other one. -/
theorem zones_apply (op : ZoneEngineOp) :
    (op.apply engine).playerZones.lookup = zonesAfter engine.playerZones.lookup op := by
  cases op with
  | updatePlayerZone playerId zone =>
    funext other
    show (engine.updatePlayerZone playerId zone).playerZones.lookup other
      = Function.update engine.playerZones.lookup playerId (some zone) other
    unfold updatePlayerZone
    rw [Function.update_apply]
    cases known : engine.playerZones.lookup playerId with
    | none => exact AMap.lookup_insert_eq ..
    | some oldZone =>
      simp only
      split_ifs with same here here
      · rw [here, known, same]
      · rfl
      · rw [AMap.lookup_insert_eq, if_pos here]
      · rw [AMap.lookup_insert_eq, if_neg here]
  | removePlayer playerId =>
    funext other
    show (engine.removePlayer playerId).playerZones.lookup other
      = Function.update engine.playerZones.lookup playerId none other
    unfold removePlayer
    rw [Function.update_apply]
    cases known : engine.playerZones.lookup playerId with
    | none =>
      split_ifs with here
      · rw [here, known]
      · rfl
    | some zone => exact AMap.lookup_erase_eq ..
  | reset => rfl
  | updateLocalPlayerZone position =>
    show (engine.updateLocalPlayerZone position).playerZones.lookup = _
    unfold updateLocalPlayerZone
    simp only
    split_ifs <;> rfl
  | rebuildZoneIndex registry => rfl

theorem zones_run (ops : List ZoneEngineOp) :
    (zoneEngineMachine.run engine ops).playerZones.lookup = ops.foldl zonesAfter engine.playerZones.lookup := by
  induction ops generalizing engine with
  | nil => rfl
  | cons op rest ih =>
    rw [List.foldl_cons, ← zones_apply]
    exact ih

/-! ### The entities -/

/-- The index of some zones: of each that has entities, its entities under its key. -/
theorem lookup_rebuild (registry : EntityRegistry) (zones : List ZoneCoord)
    (index : AMap UInt64 (List EntityID)) (zone : ZoneCoord) :
    (zones.foldl (fun index zone =>
        let entities := registry.getEntitiesInZone zone
        if entities.isEmpty then index else AList.insert (zoneKey zone) entities index) index).lookup
        (zoneKey zone)
      = if zone ∈ zones ∧ registry.getEntitiesInZone zone ≠ [] then some (registry.getEntitiesInZone zone)
        else index.lookup (zoneKey zone) := by
  induction zones generalizing index with
  | nil => simp
  | cons first rest ih =>
    rw [List.foldl_cons, ih]
    simp only [List.isEmpty_iff]
    by_cases same : zone = first
    · subst same
      by_cases nobody : registry.getEntitiesInZone zone = []
      · simp [nobody]
      · simp [nobody]
    · have other : zoneKey zone ≠ zoneKey first := fun keys => same (zoneKey_inj keys)
      by_cases nobody : registry.getEntitiesInZone first = []
      · simp [nobody, same]
      · simp [nobody, same, other]

theorem lookup_rebuildZoneIndex (engine : ZoneEngine) (registry : EntityRegistry) (zone : ZoneCoord) :
    (engine.rebuildZoneIndex registry).zoneEntities.lookup (zoneKey zone)
      = if zone ∈ engine.getInterestZones ∧ registry.getEntitiesInZone zone ≠ []
        then some (registry.getEntitiesInZone zone) else none :=
  lookup_rebuild registry engine.getInterestZones ∅ zone

theorem mem_getPopulatedZones {engine : ZoneEngine} {zone : ZoneCoord} :
    zone ∈ engine.getPopulatedZones
      ↔ ∃ entities, engine.zoneEntities.lookup (zoneKey zone) = some entities ∧ entities ≠ [] := by
  unfold getPopulatedZones
  rw [List.mem_map]
  constructor
  · rintro ⟨⟨key, entities⟩, stored, rfl⟩
    rw [List.mem_filter, AMap.mem_toList] at stored
    refine ⟨entities, ?_, by simpa using stored.2⟩
    rw [zoneKey_unpack]
    exact stored.1
  · rintro ⟨entities, stored, populated⟩
    refine ⟨(zoneKey zone, entities), ?_, unpack_zoneKey zone⟩
    rw [List.mem_filter, AMap.mem_toList]
    exact ⟨stored, by simpa using populated⟩

theorem nodup_getPopulatedZones (engine : ZoneEngine) : engine.getPopulatedZones.Nodup := by
  have keys : (engine.zoneEntities.toList.map Prod.fst).Nodup := AMap.toList_keys_nodup _
  have distinct : ((engine.zoneEntities.toList.map Prod.fst).map unpack).Nodup :=
    keys.map fun one two same => by rw [← zoneKey_unpack one, same, zoneKey_unpack]
  rw [List.map_map] at distinct
  exact distinct.sublist (List.filter_sublist.map _)

theorem exactZones (engine : ZoneEngine) (registry : EntityRegistry) :
    (engine.rebuildZoneIndex registry).ExactZones registry where
  populated zone := by
    rw [mem_getPopulatedZones, lookup_rebuildZoneIndex]
    have somebody : registry.getEntitiesInZone zone ≠ []
        ↔ ∃ netId info, registry.getInfo netId = some info ∧ info.zone = zone := by
      rw [Ne, List.eq_nil_iff_forall_not_mem]
      push Not
      exact exists_congr fun netId => EntityRegistry.mem_getEntitiesInZone
    rw [← somebody]
    show _ ↔ zone ∈ engine.getInterestZones ∧ _
    split_ifs with shown
    · exact iff_of_true ⟨_, rfl, shown.2⟩ shown
    · refine iff_of_false ?_ shown
      rintro ⟨entities, stored, -⟩
      cases stored
  once := nodup_getPopulatedZones _

end ZoneEngine

/-- **The index is exact**: in every run of the operations the lists of players are those of their zones, which
are where the operations have moved them, and after a rebuild from any registry the populated zones are those
around that hold an entity. -/
theorem zone_index (ops : List ZoneEngineOp) :
    (zoneEngineMachine.run {} ops).ExactPlayers
      ∧ (∀ registry, ((zoneEngineMachine.run {} ops).rebuildZoneIndex registry).ExactZones registry)
      ∧ (zoneEngineMachine.run {} ops).playerZones.lookup = ops.foldl ZoneEngine.zonesAfter fun _ => none :=
  ⟨ZoneEngine.exactPlayers (ZoneEngine.indexed_run ops), ZoneEngine.exactZones _, ZoneEngine.zones_run ops⟩

/-- A player walks over the border of two zones left of the origin. -/
example : ((zoneEngineMachine.run {} [.updatePlayerZone 1 ⟨-1, -2⟩, .updatePlayerZone 2 ⟨-1, -2⟩,
    .updatePlayerZone 1 ⟨-2, -2⟩]).zonePlayers).toList
      = [(0xFFFFFFFEFFFFFFFE, [1]), (0xFFFFFFFFFFFFFFFE, [2])] := by
  decide +kernel

end KenshiMP
