/-
**Resolver queries: which answers are complete.**

A query searches the entities of a zone, of an owner, or the remote ones, and keeps those that match. The
first two searches miss nothing, as what they leave out does not match. The third one is also made for a
filter that asks for none of the three, and misses what is not remote. A search around a position tries
nine zones, however large the radius is.

* `query_exact_iff`: when a query has all that matches;
* `inRadius_exact_iff`: when a search around a position has all that is in reach.
-/

import KenshiMP.Client.EntityResolver

namespace KenshiMP

open Assoc

/-- The distance from the centre is at most the radius. -/
def EntityInfo.Within (info : EntityInfo) (center : Exact.Vec3) (radius : ℚ) : Prop :=
  info.lastPosition.isFinite = true ∧ 0 ≤ radius
    ∧ ((Exact.ofFloats info.lastPosition).sub center).lengthSq ≤ radius * radius

namespace EntityRegistry

variable {registry : EntityRegistry} {filter : EntityFilter} {center : Exact.Vec3} {radius : ℚ}

/-- A list has the registered entities with a property, each of them once. -/
structure Lists (registry : EntityRegistry) (holds : EntityInfo → Prop) (ids : List EntityID) : Prop where
  once : ids.Nodup
  complete : ∀ id, id ∈ ids ↔ ∃ info, registry.getInfo id = some info ∧ holds info

/-- Keeping some of what a search finds. -/
theorem lists_filter_iff {found holds : EntityInfo → Prop} {keep : EntityInfo → Bool} {ids : List EntityID}
    (search : registry.Lists found ids) :
    registry.Lists holds (ids.filter fun id => (registry.getInfo id).any keep)
      ↔ ∀ id info, registry.getInfo id = some info → (found info ∧ keep info = true ↔ holds info) := by
  have kept (id : EntityID) : id ∈ ids.filter (fun id => (registry.getInfo id).any keep)
      ↔ ∃ info, registry.getInfo id = some info ∧ found info ∧ keep info = true := by
    rw [List.mem_filter, search.complete, Option.any_eq_true]
    constructor
    · rintro ⟨⟨info, known, here⟩, other, again, keeps⟩
      cases known.symm.trans again
      exact ⟨info, known, here, keeps⟩
    · rintro ⟨info, known, here, keeps⟩
      exact ⟨⟨info, known, here⟩, info, known, keeps⟩
  constructor
  · intro lists id info known
    have same := (kept id).symm.trans (lists.complete id)
    simp only [known, Option.some.injEq, exists_eq_left'] at same
    exact same
  · intro same
    refine ⟨search.once.filter _, fun id => (kept id).trans ?_⟩
    exact exists_congr fun info => and_congr_right fun known => same id info known

/-! ### Queries with a filter -/

theorem matchesFilter_iff {info : EntityInfo} : matchesFilter info filter = true
    ↔ (filter.owner ≠ INVALID_PLAYER → info.ownerPlayerId = filter.owner)
      ∧ (filter.useZone = true → info.zone = filter.zone)
      ∧ (filter.useType = true → info.type = filter.type)
      ∧ (filter.useState = true → info.state = filter.state)
      ∧ (filter.localOnly = true → info.isRemote = false)
      ∧ (filter.remoteOnly = true → info.isRemote = true)
      ∧ (filter.dirtyMask ≠ Dirty_None → info.dirtyFlags &&& filter.dirtyMask ≠ 0) := by
  have check (wrong : Bool) (rest : Bool) :
      (if wrong then false else rest) = true ↔ wrong = false ∧ rest = true := by
    cases wrong
    · simp
    · simp
  unfold matchesFilter
  simp only [check, Bool.and_eq_false_iff, decide_eq_false_iff_not, Bool.not_eq_false', not_not,
    and_true, ne_eq]
  simp only [imp_iff_not_or, not_not, Bool.not_eq_true]

theorem lists_zone (zone : ZoneCoord) :
    registry.Lists (fun info => info.zone = zone) (registry.getEntitiesInZone zone) :=
  ⟨nodup_of_filter _, fun _ => mem_getEntitiesInZone⟩

theorem lists_owner (owner : PlayerID) :
    registry.Lists (fun info => info.ownerPlayerId = owner) (registry.getPlayerEntities owner) :=
  ⟨nodup_of_filter _, fun _ => mem_getPlayerEntities _⟩

theorem lists_remote : registry.Lists (fun info => info.isRemote = true) registry.getRemoteEntities :=
  ⟨nodup_of_filter _, fun _ => mem_getRemoteEntities _⟩

/-- A search that finds all that matches. -/
theorem lists_matching {found : EntityInfo → Prop} {ids : List EntityID}
    (search : registry.Lists found ids)
    (covers : ∀ info, matchesFilter info filter = true → found info) :
    registry.Lists (fun info => matchesFilter info filter = true) (registry.matching filter ids) :=
  (lists_filter_iff search).mpr fun _ info _ => and_iff_right_of_imp (covers info)

/-- A zone or an owner is asked for, or nothing matches that is not remote. -/
def Covers (registry : EntityRegistry) (filter : EntityFilter) : Prop :=
  filter.useZone = true ∨ filter.owner ≠ INVALID_PLAYER
    ∨ ∀ id info, registry.getInfo id = some info → matchesFilter info filter = true →
      info.isRemote = true

/-- **When a query is complete.** -/
theorem query_exact_iff : registry.Lists (fun info => matchesFilter info filter = true)
    (registry.query filter) ↔ registry.Covers filter := by
  unfold query
  by_cases zone : filter.useZone = true
  · rw [if_pos zone]
    refine iff_of_true (lists_matching (lists_zone _) fun info kept => ?_) (.inl zone)
    exact (matchesFilter_iff.mp kept).2.1 zone
  · rw [if_neg zone]
    by_cases owner : filter.owner = INVALID_PLAYER
    · rw [if_neg (not_not.mpr owner), ite_self]
      refine (lists_filter_iff lists_remote).trans ?_
      simp only [Covers, zone, owner, ne_eq, not_true_eq_false, Bool.false_eq_true, false_or,
        and_iff_right_iff_imp]
    · rw [if_pos owner]
      refine iff_of_true (lists_matching (lists_owner _) fun info kept => ?_) (.inr (.inl owner))
      exact (matchesFilter_iff.mp kept).1 owner

/-! ### Around a position -/

/-- The nine zones around the zone of the centre have what the radius reaches, and nothing that only the
square of a negative radius reaches. -/
def Reached (registry : EntityRegistry) (center : Exact.Vec3) (radius : ℚ) : Prop :=
  ∀ id info, registry.getInfo id = some info → info.inBall center radius = true →
    (info.zone ∈ neighborhood (Exact.zoneOf center) ↔ 0 ≤ radius)

theorem lists_neighborhood (zone : ZoneCoord) :
    registry.Lists (fun info => info.zone ∈ neighborhood zone) (registry.inZoneNeighborhood zone) :=
  ⟨nodup_inZoneNeighborhood zone, fun _ => mem_inZoneNeighborhood⟩

theorem within_iff {info : EntityInfo} :
    info.Within center radius ↔ 0 ≤ radius ∧ info.inBall center radius = true := by
  unfold EntityInfo.Within EntityInfo.inBall
  rw [Bool.and_eq_true, decide_eq_true_eq]
  exact and_left_comm

/-- **When a search around a position is complete.** -/
theorem inRadius_exact_iff :
    registry.Lists (fun info => info.Within center radius) (registry.inRadius center radius)
      ↔ registry.Reached center radius := by
  refine (lists_filter_iff (lists_neighborhood _)).trans ?_
  refine forall₃_congr fun id info known => ?_
  rw [within_iff, and_congr_left_iff]

/-- **Resolver queries are exact** exactly if the filter asks for a zone or an owner or all that matches
is remote, and the nine zones have what the radius reaches. -/
theorem resolver_exact_iff (registry : EntityRegistry) (filter : EntityFilter) (center : Exact.Vec3)
    (radius : ℚ) :
    registry.Lists (fun info => matchesFilter info filter = true) (registry.query filter)
        ∧ registry.Lists (fun info => info.Within center radius) (registry.inRadius center radius)
      ↔ registry.Covers filter ∧ registry.Reached center radius :=
  and_congr query_exact_iff inRadius_exact_iff

/-- A character of this player is in no answer for an empty filter, and two zones away is beyond every
radius. -/
theorem resolver_exact_fails :
    ¬ (({} : EntityRegistry).register 0x10000 0 1).Lists (fun info => matchesFilter info {} = true)
        ((({} : EntityRegistry).register 0x10000 0 1).query {})
      ∧ ¬ (({} : EntityRegistry).registerRemote 7 0 2 { x := lit 1600 1 }).Lists
        (fun info => info.Within {} 2000)
        ((({} : EntityRegistry).registerRemote 7 0 2 { x := lit 1600 1 }).inRadius {} 2000) := by
  refine ⟨fun lists => ?_, fun lists => ?_⟩
  · have found := (lists.complete 0x10000000).mpr ⟨_, rfl, by decide +kernel⟩
    exact absurd found (by decide +kernel)
  · have found := (lists.complete 7).mpr ⟨_, rfl, by decide +kernel, by norm_num, by decide +kernel⟩
    exact absurd found (by decide +kernel)

end EntityRegistry

end KenshiMP
