/-
**Who is where, as far as a client knows.**

`Holdings` is what is left of a registry when only the identifiers, the owners and the places of the
own entities count: the own entities in the order in which the registry walks over them, and the owner
of each remote one. Registering, retracting and confirming are operations on that (`register`,
`retract`, `confirm`), and those of the registry refine them.
-/

import KenshiMP.Client.RegistryFacts
import KenshiMP.Client.Replication
import KenshiMP.Client.Spawns

namespace KenshiMP

open Assoc

structure Holdings where
  own : List (EntityID × PlayerID × Vec3)
  remote : EntityID → Option PlayerID

namespace Holdings

variable (holdings : Holdings)

def IsOwn (id : EntityID) : Prop := ∃ entry ∈ holdings.own, entry.1 = id

def Knows (id : EntityID) : Prop := holdings.IsOwn id ∨ (holdings.remote id).isSome = true

instance (id : EntityID) : Decidable (holdings.IsOwn id) :=
  inferInstanceAs (Decidable (∃ entry ∈ holdings.own, entry.1 = id))

instance (id : EntityID) : Decidable (holdings.Knows id) := inferInstanceAs (Decidable (_ ∨ _))

/-- A remote entity, unless the identifier is taken. -/
def register (id : EntityID) (owner : PlayerID) : Holdings :=
  if holdings.Knows id then holdings
  else { holdings with remote := Function.update holdings.remote id (some owner) }

/-- Drop what is gone; the flag says whether an entity is remote. -/
def retract (gone : EntityID → PlayerID → Bool → Bool) : Holdings where
  own := holdings.own.filter fun entry => !gone entry.1 entry.2.1 false
  remote id := (holdings.remote id).filter fun owner => !gone id owner true

/-- The own entity nearest to a place, as `findLocalEntityNear` finds it. -/
def nearest (own : List (EntityID × PlayerID × Vec3)) (pos : Vec3) (owner : PlayerID) : EntityID :=
  (own.foldl (fun (best : EntityID × F32) entry =>
    if entry.2.1 ≠ owner then best
    else
      let d := entry.2.2.distanceTo pos
      if d.lt best.2 then (entry.1, d) else best) (0, lit 5 1)).1

/-- The nearest own entity gets another identifier, if that one is free. -/
def confirm (entityId : EntityID) (pos : Vec3) (owner : PlayerID) : Holdings :=
  let localId := nearest holdings.own pos owner
  if localId ≠ 0 ∧ localId ≠ entityId ∧ ¬ holdings.Knows entityId then
    { holdings with
      own :=
        ((holdings.own.find? fun entry => entry.1 = localId).map
          fun entry => (entityId, entry.2)).toList
          ++ holdings.own.filter fun entry => entry.1 ≠ localId }
  else holdings

theorem remote_register (id other : EntityID) (owner : PlayerID) (notOwn : ¬ holdings.IsOwn id) :
    (holdings.register id owner).remote other
      = if other = id then (holdings.remote id).or (some owner) else holdings.remote other := by
  unfold register
  by_cases known : (holdings.remote id).isSome = true
  · rw [if_pos (.inr known)]
    split_ifs with here
    · subst here
      obtain ⟨recorded, found⟩ := Option.isSome_iff_exists.mp known
      rw [found]
      rfl
    · rfl
  · rw [if_neg (fun knows => knows.elim notOwn known)]
    show Function.update holdings.remote id (some owner) other = _
    rw [Option.not_isSome_iff_eq_none.mp known]
    by_cases here : other = id
    · rw [here, Function.update_self, if_pos rfl]
      rfl
    · rw [Function.update_of_ne here, if_neg here]

theorem own_register (id : EntityID) (owner : PlayerID) : (holdings.register id owner).own = holdings.own := by
  unfold register
  split_ifs
  · rfl
  · rfl

theorem remote_register_ne {id other : EntityID} (different : other ≠ id) (owner : PlayerID) :
    (holdings.register id owner).remote other = holdings.remote other := by
  unfold register
  split_ifs
  · rfl
  · exact Function.update_of_ne different _ _

/-- Confirming is about own entities. -/
theorem remote_confirm (entityId : EntityID) (pos : Vec3) (owner : PlayerID) :
    (holdings.confirm entityId pos owner).remote = holdings.remote := by
  unfold confirm
  simp only
  split_ifs
  · rfl
  · rfl

end Holdings

/-! ### The holdings of a registry -/

/-- An own entity, as far as it counts. -/
def ownEntry (entry : EntityID × EntityInfo) : Option (EntityID × PlayerID × Vec3) :=
  if entry.2.isRemote then none else some (entry.1, entry.2.ownerPlayerId, entry.2.lastPosition)

/-- The owner of a remote entity. -/
def remoteOwner (info : EntityInfo) : Option PlayerID :=
  if info.isRemote then some info.ownerPlayerId else none

namespace EntityRegistry

variable (registry : EntityRegistry)

def holdings : Holdings where
  own := registry.entities.toList.filterMap ownEntry
  remote id := (registry.getInfo id).bind remoteOwner

theorem ext_holdings {first second : EntityRegistry}
    (own : first.entities.toList.filterMap ownEntry = second.entities.toList.filterMap ownEntry)
    (remote : ∀ id, (first.getInfo id).bind remoteOwner = (second.getInfo id).bind remoteOwner) :
    first.holdings = second.holdings := by
  unfold holdings
  rw [own, funext remote]

theorem isRemote_eq (id : EntityID) : registry.isRemote id = (registry.holdings.remote id).isSome := by
  show ((registry.getInfo id).map EntityInfo.isRemote).getD false = ((registry.getInfo id).bind _).isSome
  cases registry.getInfo id with
  | none => rfl
  | some info =>
    show info.isRemote = (remoteOwner info).isSome
    unfold remoteOwner
    cases info.isRemote <;> rfl

/-- The own entities are the entries that are not remote. -/
theorem mem_own {id : EntityID} {owner : PlayerID} {place : Vec3} :
    (id, owner, place) ∈ registry.holdings.own
      ↔ ∃ info, registry.getInfo id = some info ∧ info.isRemote = false
        ∧ info.ownerPlayerId = owner ∧ info.lastPosition = place := by
  show _ ∈ List.filterMap _ _ ↔ _
  rw [List.mem_filterMap]
  constructor
  · rintro ⟨⟨other, info⟩, inside, found⟩
    unfold ownEntry at found
    split_ifs at found with remote
    cases found
    exact ⟨info, AMap.mem_toList.mp inside, Bool.not_eq_true _ |>.mp remote, rfl, rfl⟩
  · rintro ⟨info, known, local', rfl, rfl⟩
    refine ⟨(id, info), AMap.mem_toList.mpr known, ?_⟩
    unfold ownEntry
    rw [local']
    rfl

theorem isOwn_iff {id : EntityID} :
    registry.holdings.IsOwn id ↔ ∃ info, registry.getInfo id = some info ∧ info.isRemote = false := by
  constructor
  · rintro ⟨⟨other, owner, place⟩, inside, rfl⟩
    obtain ⟨info, known, here, -⟩ := registry.mem_own.mp inside
    exact ⟨info, known, here⟩
  · rintro ⟨info, known, here⟩
    exact ⟨_, registry.mem_own.mpr ⟨info, known, here, rfl, rfl⟩, rfl⟩

theorem knows_iff {id : EntityID} : registry.holdings.Knows id ↔ (registry.getInfo id).isSome = true := by
  unfold Holdings.Knows
  rw [isOwn_iff]
  show _ ∨ ((registry.getInfo id).bind remoteOwner).isSome = true ↔ _
  cases registry.getInfo id with
  | none => simp
  | some info => cases here : info.isRemote <;> simp [here, remoteOwner]

/-! ### Updates -/

/-- An update of what does not count. -/
theorem holdings_update (netId : EntityID) (f : EntityInfo → EntityInfo)
    (remote : ∀ info, (f info).isRemote = info.isRemote)
    (owner : ∀ info, (f info).ownerPlayerId = info.ownerPlayerId)
    (place : registry.holdings.IsOwn netId → ∀ info, (f info).lastPosition = info.lastPosition) :
    (registry.update netId f).holdings = registry.holdings := by
  refine ext_holdings ?_ fun id => ?_
  · have walked : (registry.update netId f).entities.toList
        = registry.entities.toList.map fun entry =>
          (entry.1, if entry.1 = netId then f entry.2 else entry.2) := by
      show (AMap.modify netId f registry.entities).toList = _
      unfold AMap.modify AMap.mapVals AMap.toList
      rw [List.map_map, List.map_map]
      rfl
    rw [walked, List.filterMap_map]
    refine List.filterMap_congr fun entry inside => ?_
    show ownEntry (entry.1, if entry.1 = netId then f entry.2 else entry.2) = ownEntry entry
    split_ifs with here
    · unfold ownEntry
      rw [remote, owner]
      split_ifs with far
      · rfl
      · have own : registry.holdings.IsOwn netId :=
          registry.isOwn_iff.mpr ⟨entry.2, by rw [← here]; exact AMap.mem_toList.mp inside,
            Bool.not_eq_true _ |>.mp far⟩
        rw [place own]
    · rfl
  · rw [getInfo_update]
    cases registry.getInfo id with
    | none => rfl
    | some info =>
      show remoteOwner (if id = netId then f info else info) = remoteOwner info
      split_ifs
      · unfold remoteOwner
        rw [remote, owner]
      · rfl

theorem holdings_updateLimbs (netId : EntityID) (limbs : (Fin 7 → F32) → Fin 7 → F32) :
    (registry.update netId fun info => { info with limbs := limbs info.limbs }).holdings
      = registry.holdings :=
  registry.holdings_update netId _ (fun _ => rfl) (fun _ => rfl) (fun _ _ => rfl)

/-- The place of a remote entity does not count. -/
theorem holdings_updatePosition {netId : EntityID} (notOwn : ¬ registry.holdings.IsOwn netId)
    (pos : Vec3) : (registry.updatePosition netId pos).holdings = registry.holdings :=
  registry.holdings_update netId _ (fun _ => rfl) (fun _ => rfl) (fun own => absurd own notOwn)

theorem holdings_setGameObject (netId : EntityID) (gameObject : GameObject) :
    (registry.setGameObject netId gameObject).holdings = registry.holdings := by
  unfold setGameObject
  cases registry.entities.lookup netId with
  | none => rfl
  | some info =>
    exact registry.holdings_update netId _ (fun _ => rfl) (fun _ => rfl) (fun _ _ => rfl)

/-! ### Registering and removing -/

theorem holdings_registerRemote (netId : EntityID) (type : UInt8) (owner : PlayerID) (pos : Vec3) :
    (registry.registerRemote netId type owner pos).holdings = registry.holdings.register netId owner := by
  unfold registerRemote Holdings.register
  cases stored : registry.entities.lookup netId with
  | some info =>
    have known : registry.getInfo netId = some info := stored
    rw [if_pos (registry.knows_iff.mpr (by rw [known]; rfl))]
  | none =>
    have unknown : registry.getInfo netId = none := stored
    rw [if_neg (fun knows => by rw [knows_iff, unknown] at knows; cases knows)]
    simp only
    have outside : netId ∉ registry.entities := AList.lookup_eq_none.mp stored
    unfold holdings
    simp only [Holdings.mk.injEq]
    refine ⟨?_, funext fun id => ?_⟩
    · unfold AMap.toList
      rw [AList.entries_insert_of_notMem outside]
      rfl
    · show (AList.lookup id (AList.insert netId _ registry.entities)).bind remoteOwner = _
      rw [AMap.lookup_insert_eq, Function.update_apply]
      split_ifs
      · rfl
      · rfl

/-- Passing over entries by their identifier. -/
theorem filterMap_ownEntry (keep : EntityID → Bool) (entries : List (EntityID × EntityInfo)) :
    (entries.filter fun entry => keep entry.1).filterMap ownEntry
      = (entries.filterMap ownEntry).filter fun entry => keep entry.1 := by
  induction entries with
  | nil => rfl
  | cons entry rest ih =>
    by_cases remote : entry.2.isRemote = true
    · have skipped : ownEntry entry = none := if_pos remote
      rw [List.filterMap_cons_none skipped, ← ih, List.filter_cons]
      split_ifs
      · exact List.filterMap_cons_none skipped
      · rfl
    · have taken : ownEntry entry = some (entry.1, entry.2.ownerPlayerId, entry.2.lastPosition) :=
        if_neg remote
      rw [List.filterMap_cons_some taken, List.filter_cons, List.filter_cons, ← ih]
      split_ifs
      · exact List.filterMap_cons_some taken
      · rfl

/-- An entity that is forgotten. -/
theorem holdings_unregister (netId : EntityID) :
    (registry.unregister netId).holdings = registry.holdings.retract fun id _ _ => id = netId := by
  unfold Holdings.retract holdings
  simp only [Holdings.mk.injEq]
  refine ⟨?_, funext fun id => ?_⟩
  · show (AMap.toList (AList.erase netId registry.entities)).filterMap ownEntry = _
    rw [AMap.toList_erase, filterMap_ownEntry fun id => id ≠ netId]
    refine List.filter_congr fun entry _ => ?_
    exact decide_not
  · show (AList.lookup id (AList.erase netId registry.entities)).bind remoteOwner = _
    rw [AMap.lookup_erase_eq]
    unfold getInfo
    by_cases here : id = netId
    · rw [if_pos here, decide_eq_true here]
      cases (AList.lookup id registry.entities).bind remoteOwner <;> rfl
    · rw [if_neg here, decide_eq_false here]
      cases (AList.lookup id registry.entities).bind remoteOwner <;> rfl

end EntityRegistry

namespace Holdings

variable {holdings : Holdings} {gone other : EntityID → PlayerID → Bool → Bool}

/-- What goes matters only for what is there. -/
theorem retract_congr (own : ∀ entry ∈ holdings.own, gone entry.1 entry.2.1 false = other entry.1 entry.2.1 false)
    (remote : ∀ id owner, holdings.remote id = some owner → gone id owner true = other id owner true) :
    holdings.retract gone = holdings.retract other := by
  unfold retract
  simp only [mk.injEq]
  refine ⟨List.filter_congr fun entry inside => by rw [own entry inside], funext fun id => ?_⟩
  cases found : holdings.remote id with
  | none => rfl
  | some owner =>
    simp only [Option.filter, remote id owner found]

theorem retract_nothing (own : ∀ entry ∈ holdings.own, gone entry.1 entry.2.1 false = false)
    (remote : ∀ id owner, holdings.remote id = some owner → gone id owner true = false) :
    holdings.retract gone = holdings := by
  have kept : holdings.retract gone = holdings.retract fun _ _ _ => false := retract_congr own remote
  rw [kept]
  unfold retract
  simp only [Bool.not_false, List.filter_true]
  congr 1
  funext id
  cases holdings.remote id <;> rfl

theorem retract_retract :
    (holdings.retract gone).retract other
      = holdings.retract fun id owner remote => gone id owner remote || other id owner remote := by
  unfold retract
  simp only [mk.injEq]
  refine ⟨?_, funext fun id => ?_⟩
  · rw [List.filter_filter]
    refine List.filter_congr fun entry _ => ?_
    rw [Bool.not_or, Bool.and_comm]
  · cases holdings.remote id with
    | none => rfl
    | some owner => cases kept : gone id owner true <;> simp [kept, Option.filter]

end Holdings

namespace EntityRegistry

variable (registry : EntityRegistry)

theorem holdings_unregisterAll (ids : List EntityID) :
    (registry.unregisterAll ids).holdings = registry.holdings.retract fun id _ _ => id ∈ ids := by
  induction ids generalizing registry with
  | nil => exact (Holdings.retract_nothing (fun _ _ => by simp) fun _ _ _ => by simp).symm
  | cons first rest ih =>
    show ((registry.unregister first).unregisterAll rest).holdings = _
    rw [ih, holdings_unregister, Holdings.retract_retract]
    refine Holdings.retract_congr (fun entry _ => ?_) fun id owner _ => ?_
    · simp
    · simp

/-- All entities of a player. -/
theorem holdings_unregister_player (playerId : PlayerID) :
    (registry.unregisterAll (registry.getPlayerEntities playerId)).holdings
      = registry.holdings.retract fun _ owner _ => owner = playerId := by
  rw [holdings_unregisterAll]
  refine Holdings.retract_congr (fun ⟨id, owner, place⟩ inside => ?_) fun id owner found => ?_
  · obtain ⟨info, known, -, rfl, -⟩ := registry.mem_own.mp inside
    simp [mem_getPlayerEntities, known]
  · obtain ⟨info, known, recorded⟩ := Option.bind_eq_some_iff.mp found
    unfold remoteOwner at recorded
    split_ifs at recorded
    cases recorded
    simp [mem_getPlayerEntities, known]

/-- The remote entities that a condition picks. -/
theorem holdings_unregister_remote (picked : EntityID → Bool) :
    (registry.unregisterAll (registry.getRemoteEntities.filter picked)).holdings
      = registry.holdings.retract fun id _ remote => remote && picked id := by
  rw [holdings_unregisterAll]
  refine Holdings.retract_congr (fun ⟨id, owner, place⟩ inside => ?_) fun id owner found => ?_
  · obtain ⟨info, known, here, -⟩ := registry.mem_own.mp inside
    simp [mem_getRemoteEntities, known, here]
  · obtain ⟨info, known, recorded⟩ := Option.bind_eq_some_iff.mp found
    unfold remoteOwner at recorded
    split_ifs at recorded with remote
    simp [mem_getRemoteEntities, known, remote]

/-! ### Confirming -/

theorem findLocalEntityNear_eq_nearest (pos : Vec3) (owner : PlayerID) :
    registry.findLocalEntityNear pos owner = Holdings.nearest registry.holdings.own pos owner := by
  unfold findLocalEntityNear Holdings.nearest holdings
  rw [List.foldl_filterMap]
  refine congrArg Prod.fst (congrArg (fun f => List.foldl f _ _) (funext₂ fun best entry => ?_))
  obtain ⟨id, info⟩ := entry
  unfold ownEntry
  cases remote : info.isRemote with
  | false => simp only [remote, Bool.false_or, decide_eq_true_eq, Bool.false_eq_true, if_false]
  | true => simp only [remote, Bool.true_or, if_true]

end EntityRegistry

/-- What is nearest is an own entity, or nothing. -/
theorem Holdings.nearest_mem (own : List (EntityID × PlayerID × Vec3)) (pos : Vec3)
    (owner : PlayerID) : nearest own pos owner = 0 ∨ ∃ entry ∈ own, entry.1 = nearest own pos owner := by
  unfold nearest
  suffices found : ∀ (walked : List (EntityID × PlayerID × Vec3)) (best : EntityID × F32),
      (best.1 = 0 ∨ ∃ entry ∈ own, entry.1 = best.1) → (∀ entry ∈ walked, entry ∈ own) →
      let last := (walked.foldl (fun (best : EntityID × F32) entry =>
        if entry.2.1 ≠ owner then best
        else
          let d := entry.2.2.distanceTo pos
          if d.lt best.2 then (entry.1, d) else best) best).1
      last = 0 ∨ ∃ entry ∈ own, entry.1 = last from
    found own (0, lit 5 1) (.inl rfl) fun _ inside => inside
  intro walked
  induction walked with
  | nil => exact fun best so_far _ => so_far
  | cons entry rest ih =>
    intro best so_far inside
    refine ih _ ?_ fun other later => inside other (List.mem_cons_of_mem _ later)
    simp only
    split_ifs
    · exact so_far
    · exact .inr ⟨entry, inside entry List.mem_cons_self, rfl⟩
    · exact so_far

namespace EntityRegistry

variable (registry : EntityRegistry)

theorem holdings_confirm (entityId : EntityID) (pos : Vec3) (owner : PlayerID) :
    (registry.confirm entityId pos owner).holdings = registry.holdings.confirm entityId pos owner := by
  unfold confirm Holdings.confirm
  rw [findLocalEntityNear_eq_nearest]
  have mem := Holdings.nearest_mem registry.holdings.own pos owner
  generalize Holdings.nearest registry.holdings.own pos owner = localId at mem ⊢
  simp only
  by_cases none : localId = 0
  · simp [none]
  by_cases same : localId = entityId
  · simp [same]
  rw [if_pos (by simp [none, same])]
  obtain ⟨⟨id, owner', place⟩, inside, rfl⟩ := mem.resolve_left none
  obtain ⟨info, known, here, rfl, rfl⟩ := registry.mem_own.mp inside
  have stored : registry.entities.lookup id = some info := known
  unfold remapEntityId
  rw [stored]
  cases free : registry.entities.lookup entityId with
  | some taken =>
    have knows : registry.holdings.Knows entityId := registry.knows_iff.mpr (by
      unfold getInfo
      rw [free]
      rfl)
    rw [if_neg fun both => both.2.2 knows]
  | none =>
    have unknown : ¬ registry.holdings.Knows entityId := fun knows => by
      rw [knows_iff] at knows
      unfold getInfo at knows
      rw [free] at knows
      cases knows
    rw [if_pos ⟨none, same, unknown⟩]
    have outside : entityId ∉ AList.erase id registry.entities := by
      refine AList.lookup_eq_none.mp ?_
      rw [AMap.lookup_erase_eq, free, ite_self]
    have first : (registry.holdings.own.find? fun entry => entry.1 = id)
        = some (id, info.ownerPlayerId, info.lastPosition) := by
      cases found : registry.holdings.own.find? fun entry => entry.1 = id with
      | none => exact absurd (decide_eq_true rfl) (List.find?_eq_none.mp found _ inside)
      | some entry =>
        obtain ⟨other, owner'', place⟩ := entry
        obtain rfl : other = id := by simpa using List.find?_some found
        obtain ⟨info', known', -, rfl, rfl⟩ := registry.mem_own.mp (List.mem_of_find?_eq_some found)
        cases known.symm.trans known'
        rfl
    show holdings ⟨AList.insert entityId _ _, _, _⟩ = _
    rw [first]
    unfold holdings
    simp only [Holdings.mk.injEq]
    refine ⟨?_, funext fun other => ?_⟩
    · unfold AMap.toList
      rw [AList.entries_insert_of_notMem outside, List.map_cons, List.filterMap_cons]
      have walked : (AList.erase id registry.entities).entries.map (fun entry => (entry.1, entry.2))
          = registry.entities.toList.filter fun entry => entry.1 ≠ id :=
        AMap.toList_erase id registry.entities
      have moved : ownEntry (entityId, { info with netId := entityId })
          = some (entityId, info.ownerPlayerId, info.lastPosition) := by
        unfold ownEntry
        rw [if_neg (by rw [here]; decide)]
      rw [walked, filterMap_ownEntry fun other => other ≠ id]
      simp only [moved]
      rfl
    · show (AList.lookup other (AList.insert entityId { info with netId := entityId }
        (AList.erase id registry.entities))).bind remoteOwner = _
      rw [AMap.lookup_insert_eq, AMap.lookup_erase_eq]
      unfold getInfo remoteOwner
      by_cases new : other = entityId
      · rw [if_pos new, new, free]
        simp [here]
      · rw [if_neg new]
        by_cases old : other = id
        · rw [if_pos old, old, stored]
          simp [here]
        · rw [if_neg old]

end EntityRegistry

end KenshiMP
