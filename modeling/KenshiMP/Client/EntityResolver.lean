/-
**The resolver of entities: queries over the registry, and who is interested in what.**

`EntityResolver` answers queries with a filter (`query`) and around a position (`inRadius`), keeps for
each player the entities around the player's zone with what has entered and left since the last time
(`computeInterest`). That it also hands out the entities with certain dirty flags is left to a module of
its own.

`inRadius` is computed in exact arithmetic: the positions of the registry are taken for the numbers that
they denote, and the centre and the radius are any rational numbers.
-/

import KenshiMP.Client.ExactInterpolation
import KenshiMP.Client.RegistryFacts
import KenshiMP.Client.Replication
import KenshiMP.Lib.Deltas

namespace KenshiMP

open Assoc

def INVALID_PLAYER : PlayerID := 0
def KMP_INTEREST_RADIUS : Int32 := 1
def Dirty_None : UInt16 := 0

/-- What a query asks for; an entity has to satisfy all of it. -/
structure EntityFilter where
  owner : PlayerID := INVALID_PLAYER
  zone : ZoneCoord := {}
  useZone : Bool := false
  type : UInt8 := EntityType.NPC
  useType : Bool := false
  state : EntityState := .Active
  useState : Bool := false
  localOnly : Bool := false
  remoteOnly : Bool := false
  dirtyMask : UInt16 := Dirty_None

/-- The checks are made one after the other. -/
def matchesFilter (info : EntityInfo) (filter : EntityFilter) : Bool :=
  if filter.owner ≠ INVALID_PLAYER && info.ownerPlayerId ≠ filter.owner then false
  else if filter.useZone && info.zone ≠ filter.zone then false
  else if filter.useType && info.type ≠ filter.type then false
  else if filter.useState && info.state ≠ filter.state then false
  else if filter.localOnly && info.isRemote then false
  else if filter.remoteOnly && !info.isRemote then false
  else if filter.dirtyMask ≠ Dirty_None && info.dirtyFlags &&& filter.dirtyMask = 0 then false
  else true

namespace EntityRegistry

variable (registry : EntityRegistry)

def getEntitiesInZone (zone : ZoneCoord) : List EntityID :=
  (registry.entities.toList.filter fun (_, info) => info.zone = zone).map Prod.fst

/-! ### Queries with a filter -/

/-- Those of a list that are registered and match. -/
def matching (filter : EntityFilter) (ids : List EntityID) : List EntityID :=
  ids.filter fun id => (registry.getInfo id).any fun info => matchesFilter info filter

/-- The filter decides where the search starts: in the zone, with the owner, or with the remote
entities, also if none of the three is asked for. -/
def query (filter : EntityFilter) : List EntityID :=
  if filter.useZone then registry.matching filter (registry.getEntitiesInZone filter.zone)
  else if filter.owner ≠ INVALID_PLAYER then
    registry.matching filter (registry.getPlayerEntities filter.owner)
  else if filter.remoteOnly then registry.matching filter registry.getRemoteEntities
  else registry.matching filter registry.getRemoteEntities

/-! ### The zones around a zone -/

/-- The nine zones, in the order of the loops. -/
def neighborhood (center : ZoneCoord) : List ZoneCoord :=
  [-KMP_INTEREST_RADIUS, 0, KMP_INTEREST_RADIUS].flatMap fun dx =>
    [-KMP_INTEREST_RADIUS, 0, KMP_INTEREST_RADIUS].map fun dy => ⟨center.x + dx, center.y + dy⟩

def inZoneNeighborhood (center : ZoneCoord) : List EntityID :=
  (neighborhood center).flatMap registry.getEntitiesInZone

end EntityRegistry

/-! ### Around a position -/

namespace Exact

def KMP_ZONE_SIZE : ℚ := 750

/-- The number of a zone; beyond the integers of the machine, the source leaves it open. -/
def cell (coord : ℚ) : Int32 := Int32.ofInt ⌊coord / KMP_ZONE_SIZE⌋

def zoneOf (pos : Vec3) : ZoneCoord := ⟨cell pos.x, cell pos.z⟩

/-- The numbers that three finite floats denote. -/
def ofFloats (pos : KenshiMP.Vec3) : Vec3 := ⟨pos.x.toRat, pos.y.toRat, pos.z.toRat⟩

end Exact

/-- The last position is in the ball: a coordinate that is not a finite number compares with nothing. -/
def EntityInfo.inBall (info : EntityInfo) (center : Exact.Vec3) (radius : ℚ) : Bool :=
  info.lastPosition.isFinite
    && ((Exact.ofFloats info.lastPosition).sub center).lengthSq ≤ radius * radius

namespace EntityRegistry

variable (registry : EntityRegistry)

/-- The entities around the zone of the centre are tried. -/
def inRadius (center : Exact.Vec3) (radius : ℚ) : List EntityID :=
  (registry.inZoneNeighborhood (Exact.zoneOf center)).filter fun id =>
    (registry.getInfo id).any fun info => info.inBall center radius

/-! ### What a search over the registry finds -/

variable {registry}

theorem mem_of_filter {keep : EntityID × EntityInfo → Bool} {id : EntityID} :
    id ∈ (registry.entities.toList.filter keep).map Prod.fst
      ↔ ∃ info, registry.getInfo id = some info ∧ keep (id, info) = true := by
  unfold getInfo
  simp only [List.mem_map, List.mem_filter, Prod.exists, exists_and_right, exists_eq_right]
  exact exists_congr fun info => and_congr_left fun _ => AMap.mem_toList

theorem nodup_of_filter (keep : EntityID × EntityInfo → Bool) :
    ((registry.entities.toList.filter keep).map Prod.fst).Nodup :=
  (List.filter_sublist.map Prod.fst).nodup (AMap.toList_keys_nodup _)

theorem mem_getEntitiesInZone {zone : ZoneCoord} {id : EntityID} :
    id ∈ registry.getEntitiesInZone zone ↔ ∃ info, registry.getInfo id = some info ∧ info.zone = zone := by
  unfold getEntitiesInZone
  rw [mem_of_filter]
  simp only [decide_eq_true_eq]

theorem mem_neighborhood {center zone : ZoneCoord} :
    zone ∈ neighborhood center
      ↔ (zone.x = center.x - 1 ∨ zone.x = center.x ∨ zone.x = center.x + 1)
        ∧ (zone.y = center.y - 1 ∨ zone.y = center.y ∨ zone.y = center.y + 1) := by
  obtain ⟨x, y⟩ := zone
  have less (n : Int32) : n + -KMP_INTEREST_RADIUS = n - 1 := (Int32.sub_eq_add_neg n 1).symm
  have more (n : Int32) : n + KMP_INTEREST_RADIUS = n + 1 := rfl
  have offsets (m n : Int32) : (∃ d ∈ [-KMP_INTEREST_RADIUS, 0, KMP_INTEREST_RADIUS], m + d = n)
      ↔ n = m - 1 ∨ n = m ∨ n = m + 1 := by
    simp only [List.mem_cons, List.not_mem_nil, or_false, exists_eq_or_imp, exists_eq_left,
      Int32.add_zero, less, more, @eq_comm _ n]
  unfold neighborhood
  rw [List.mem_flatMap, ← offsets, ← offsets]
  constructor
  · rintro ⟨dx, across, inside⟩
    obtain ⟨dy, along, same⟩ := List.mem_map.mp inside
    obtain ⟨first, second⟩ := ZoneCoord.mk.inj same
    exact ⟨⟨dx, across, first⟩, dy, along, second⟩
  · rintro ⟨⟨dx, across, rfl⟩, dy, along, rfl⟩
    exact ⟨dx, across, List.mem_map.mpr ⟨dy, along, rfl⟩⟩

/-- The numbers around a number are three, even at the ends of the integers. -/
theorem around_distinct (n : Int32) : n - 1 ≠ n ∧ n - 1 ≠ n + 1 ∧ n ≠ n + 1 := by
  have shift (a b : Int32) (same : n + a = n + b) : a = b := by
    have back := congrArg (fun m => -n + m) same
    simpa [← Int32.add_assoc, Int32.add_left_neg] using back
  refine ⟨fun same => ?_, fun same => ?_, fun same => ?_⟩
  · rw [Int32.sub_eq_add_neg] at same
    exact absurd (shift (-1) 0 (by rwa [Int32.add_zero])) (by decide)
  · rw [Int32.sub_eq_add_neg] at same
    exact absurd (shift (-1) 1 same) (by decide)
  · exact absurd (shift 0 1 (by rwa [Int32.add_zero])) (by decide)

theorem nodup_neighborhood (center : ZoneCoord) : (neighborhood center).Nodup := by
  obtain ⟨x, y⟩ := center
  obtain ⟨x₁, x₂, x₃⟩ := around_distinct x
  obtain ⟨y₁, y₂, y₃⟩ := around_distinct y
  have less (n : Int32) : n + -KMP_INTEREST_RADIUS = n - 1 := (Int32.sub_eq_add_neg n 1).symm
  have more (n : Int32) : n + KMP_INTEREST_RADIUS = n + 1 := rfl
  simp only [neighborhood, List.flatMap_cons, List.flatMap_nil, List.map_cons, List.map_nil,
    List.append_nil, Int32.add_zero, less, more]
  simp [x₁, x₂, x₃, y₁, y₂, y₃]

theorem mem_inZoneNeighborhood {center : ZoneCoord} {id : EntityID} :
    id ∈ registry.inZoneNeighborhood center
      ↔ ∃ info, registry.getInfo id = some info ∧ info.zone ∈ neighborhood center := by
  unfold inZoneNeighborhood
  simp only [List.mem_flatMap, mem_getEntitiesInZone]
  constructor
  · rintro ⟨zone, inside, info, known, rfl⟩
    exact ⟨info, known, inside⟩
  · rintro ⟨info, known, inside⟩
    exact ⟨_, inside, info, known, rfl⟩

/-- **An entity is in one zone only.** -/
theorem nodup_inZoneNeighborhood (center : ZoneCoord) : (registry.inZoneNeighborhood center).Nodup := by
  refine List.nodup_flatMap.mpr ⟨fun zone _ => nodup_of_filter _, ?_⟩
  refine (nodup_neighborhood center).imp fun {one two} differ id first second => ?_
  obtain ⟨info, known, rfl⟩ := mem_getEntitiesInZone.mp first
  obtain ⟨other, again, rfl⟩ := mem_getEntitiesInZone.mp second
  exact differ (congrArg EntityInfo.zone (Option.some.inj (known.symm.trans again)))

end EntityRegistry

/-! ### Interest -/

/-- What a player is interested in, and what has changed in it. -/
structure InterestSet where
  playerId : PlayerID := INVALID_PLAYER
  playerZone : ZoneCoord := {}
  entities : List EntityID := []
  enteringView : List EntityID := []
  leavingView : List EntityID := []
deriving DecidableEq

structure EntityResolver where
  registry : EntityRegistry := {}
  interestCache : AMap PlayerID InterestSet := ∅

namespace EntityResolver

variable (resolver : EntityResolver)

/-- The set of a player, compared with the one that is kept; the first time everything enters. -/
def interestOf (playerId : PlayerID) (playerZone : ZoneCoord) : InterestSet :=
  let entities := resolver.registry.inZoneNeighborhood playerZone
  match resolver.interestCache.lookup playerId with
  | some oldSet =>
    { playerId, playerZone, entities
      enteringView := entities.filter fun id => id ∉ oldSet.entities
      leavingView := oldSet.entities.filter fun id => id ∉ entities }
  | none => { playerId, playerZone, entities, enteringView := entities }

/-- The new set is kept, with its differences. -/
def computeInterest (playerId : PlayerID) (playerZone : ZoneCoord) : EntityResolver × InterestSet :=
  let newSet := resolver.interestOf playerId playerZone
  ({ resolver with interestCache := AList.insert playerId newSet resolver.interestCache }, newSet)

def getInterest (playerId : PlayerID) : Option InterestSet := resolver.interestCache.lookup playerId

def clearInterest (playerId : PlayerID) : EntityResolver :=
  { resolver with interestCache := AList.erase playerId resolver.interestCache }

end EntityResolver

end KenshiMP
