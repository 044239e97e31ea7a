/-
**What is found in a registry after each operation.**

`getInfo` and `getNetId` after the operations of `EntityRegistry`, and which entity
`findLocalEntityNear` finds (`findLocalEntityNear_eq`): the nearest one, in whatever order it walks
over the entities.
-/

import KenshiMP.Client.Registry

namespace KenshiMP

open Assoc

namespace EntityRegistry

variable (registry : EntityRegistry)

/-! ### Updates -/

theorem getInfo_update (netId id : EntityID) (f : EntityInfo → EntityInfo) :
    (registry.update netId f).getInfo id
      = (registry.getInfo id).map fun info => if id = netId then f info else info :=
  AMap.lookup_modify netId id f registry.entities

theorem getInfo_update_self (netId : EntityID) (f : EntityInfo → EntityInfo) :
    (registry.update netId f).getInfo netId = (registry.getInfo netId).map f :=
  AMap.lookup_modify_self netId f registry.entities

theorem getInfo_update_of_known {netId : EntityID} {info : EntityInfo}
    (known : registry.getInfo netId = some info) (f : EntityInfo → EntityInfo) :
    (registry.update netId f).getInfo netId = some (f info) := by
  rw [getInfo_update_self, known]
  rfl

theorem getInfo_updateTransform (netId id : EntityID) (pos : Vec3) (rot : Quat) :
    (registry.updateTransform netId pos rot).getInfo id
      = (registry.getInfo id).map fun info =>
        if id = netId then
          { info with lastPosition := pos, zone := ZoneCoord.fromWorldPos pos, lastRotation := rot }
        else info := by
  show ((registry.updatePosition netId pos).update netId _).getInfo id = _
  rw [getInfo_update]
  show ((registry.update netId _).getInfo id).map _ = _
  rw [getInfo_update, Option.map_map]
  refine congrArg (fun f => (registry.getInfo id).map f) (funext fun info => ?_)
  simp only [Function.comp_apply]
  split_ifs
  · rfl
  · rfl

/-! ### Linking -/

/-- The address that is linked: an invalid one counts as none. -/
def linkable (gameObject : GameObject) : GameObject := if invalidPointer gameObject then 0 else gameObject

/-- The entry of an entity after linking an address to it. -/
def link (gameObject : GameObject) (info : EntityInfo) : EntityInfo :=
  { info with
    gameObject := linkable gameObject
    state := if linkable gameObject ≠ 0 ∧ info.state = .Spawning then .Active else info.state }

theorem getInfo_setGameObject (netId id : EntityID) (gameObject : GameObject) :
    (registry.setGameObject netId gameObject).getInfo id
      = (registry.getInfo id).map fun info => if id = netId then link gameObject info else info := by
  unfold setGameObject
  cases known : registry.entities.lookup netId with
  | none =>
    show registry.getInfo id = _
    cases stored : registry.getInfo id with
    | none => rfl
    | some info =>
      rw [Option.map_some, if_neg]
      rintro rfl
      rw [show registry.getInfo id = none from known] at stored
      cases stored
  | some old => exact registry.getInfo_update netId id _

theorem getInfo_setGameObject_of_known {netId : EntityID} {info : EntityInfo}
    (known : registry.getInfo netId = some info) (gameObject : GameObject) :
    (registry.setGameObject netId gameObject).getInfo netId = some (link gameObject info) := by
  rw [getInfo_setGameObject, known, Option.map_some, if_pos rfl]

/-- An entity that loses its game object keeps the rest. -/
theorem getInfo_setGameObject_zero (netId id : EntityID) :
    (registry.setGameObject netId 0).getInfo id
      = (registry.getInfo id).map fun info =>
        if id = netId then { info with gameObject := 0 } else info := by
  rw [getInfo_setGameObject]
  refine congrArg (fun f => (registry.getInfo id).map f) (funext fun info => ?_)
  have none : linkable 0 = 0 := rfl
  simp only [link, none, ne_eq, not_true_eq_false, false_and, if_false]

/-- What an address leads to after linking. -/
theorem ptrToId_setGameObject {netId : EntityID} {info : EntityInfo}
    (known : registry.getInfo netId = some info) (gameObject other : GameObject) :
    (registry.setGameObject netId gameObject).ptrToId.lookup other
      = if linkable gameObject ≠ 0 ∧ other = linkable gameObject then some netId
        else if info.gameObject ≠ 0 ∧ other = info.gameObject then none
        else registry.ptrToId.lookup other := by
  have stored : registry.entities.lookup netId = some info := known
  have erased : (registry.unlink netId).lookup other
      = if info.gameObject ≠ 0 ∧ other = info.gameObject then none
        else registry.ptrToId.lookup other := by
    have object : registry.getGameObject netId = info.gameObject := by
      unfold getGameObject
      rw [stored]
      rfl
    unfold unlink
    rw [object]
    by_cases none : info.gameObject = 0
    · rw [if_pos none, if_neg (fun both => both.1 none)]
    · rw [if_neg none, AMap.lookup_erase_eq]
      simp only [ne_eq, none, not_false_eq_true, true_and]
  unfold setGameObject
  rw [stored]
  show AList.lookup other (if linkable gameObject = 0 then registry.unlink netId
    else AList.insert (linkable gameObject) netId (registry.unlink netId)) = _
  by_cases none : linkable gameObject = 0
  · rw [if_pos none, if_neg (fun both => both.1 none), erased]
  · rw [if_neg none, AMap.lookup_insert_eq, erased]
    simp only [ne_eq, none, not_false_eq_true, true_and]

/-! ### Registering -/

/-- What a registration adds is under the identifier it returns. -/
theorem getInfo_register {gameObject : GameObject} {type : UInt8} {owner : PlayerID} {id : EntityID}
    (other : id ≠ registry.registerId gameObject) :
    (registry.register gameObject type owner).getInfo id = registry.getInfo id := by
  unfold registerId at other
  unfold register
  split_ifs at other ⊢ with invalid
  · rfl
  · cases known : registry.ptrToId.lookup gameObject with
    | some taken => rfl
    | none =>
      rw [known] at other
      replace other : id ≠ registry.nextId := other
      show AList.lookup id (AList.insert registry.nextId _ registry.entities) = _
      rw [AMap.lookup_insert_eq, if_neg other]
      rfl

section Announced

variable (netId : EntityID) (type : UInt8) (owner : PlayerID) (pos : Vec3)

/-- Registering does not touch the addresses. -/
theorem getNetId_registerRemote (gameObject : GameObject) :
    (registry.registerRemote netId type owner pos).getNetId gameObject = registry.getNetId gameObject := by
  unfold registerRemote
  cases registry.entities.lookup netId <;> rfl

/-- After it, the entity is known, and remote unless it was known already. -/
theorem getInfo_registerRemote :
    ∃ info, (registry.registerRemote netId type owner pos).getInfo netId = some info
      ∧ (info.isRemote = true ∨ registry.getInfo netId = some info) := by
  unfold registerRemote getInfo
  cases known : registry.entities.lookup netId with
  | none =>
    simp only
    rw [AMap.lookup_insert_eq, if_pos rfl]
    exact ⟨_, rfl, .inl rfl⟩
  | some info => exact ⟨info, known, .inr rfl⟩

end Announced

/-! ### Searching -/

theorem mem_getPlayerEntities {playerId : PlayerID} {id : EntityID} :
    id ∈ registry.getPlayerEntities playerId
      ↔ ∃ info, registry.getInfo id = some info ∧ info.ownerPlayerId = playerId := by
  unfold getPlayerEntities getInfo
  simp only [List.mem_map, List.mem_filter, Prod.exists, exists_and_right, exists_eq_right,
    decide_eq_true_eq]
  exact exists_congr fun info => and_congr_left fun _ => AMap.mem_toList

/-- An entity of an owner on this side, less than five units from a position. -/
def Near (pos : Vec3) (owner : PlayerID) (info : EntityInfo) : Prop :=
  info.isRemote = false ∧ info.ownerPlayerId = owner
    ∧ (info.lastPosition.distanceTo pos).lt (lit 5 1) = true

/-- One step of the search. -/
def nearer (pos : Vec3) (owner : PlayerID) (best : EntityID × F32) (entry : EntityID × EntityInfo) :
    EntityID × F32 :=
  if entry.2.isRemote || entry.2.ownerPlayerId ≠ owner then best
  else if (entry.2.lastPosition.distanceTo pos).lt best.2 then
    (entry.1, entry.2.lastPosition.distanceTo pos)
  else best

/-- The search stays below its bound, and takes what it finds from the entities that are near. -/
theorem nearer_cases {pos : Vec3} {owner : PlayerID} (best : EntityID × F32)
    (entry : EntityID × EntityInfo) (bounded : best.2 = lit 5 1 ∨ best.2.lt (lit 5 1) = true) :
    nearer pos owner best entry = best
      ∨ Near pos owner entry.2 ∧ (entry.2.lastPosition.distanceTo pos).lt best.2 = true
        ∧ nearer pos owner best entry = (entry.1, entry.2.lastPosition.distanceTo pos) := by
  unfold nearer
  split_ifs with skipped closer
  · exact .inl rfl
  · rw [Bool.or_eq_true, not_or, Bool.not_eq_true, decide_eq_true_eq, not_not] at skipped
    refine .inr ⟨⟨skipped.1, skipped.2, ?_⟩, closer, rfl⟩
    rcases bounded with same | below
    · rw [← same]
      exact closer
    · exact Binary.Flt.lt_trans closer below
  · exact .inl rfl

variable {registry}

/-- **The nearest entity is found**, if it is near and nearer than the others that are near. -/
theorem findLocalEntityNear_eq {pos : Vec3} {owner : PlayerID} {id : EntityID} {info : EntityInfo}
    (known : registry.getInfo id = some info) (near : Near pos owner info)
    (farther : ∀ other info', other ≠ id → registry.getInfo other = some info' →
      Near pos owner info' →
        (info.lastPosition.distanceTo pos).lt (info'.lastPosition.distanceTo pos) = true) :
    registry.findLocalEntityNear pos owner = id := by
  set d := info.lastPosition.distanceTo pos
  have visited : (id, info) ∈ registry.entities.toList := AMap.mem_toList.mpr known
  have rivals : ∀ entry ∈ registry.entities.toList, entry.1 ≠ id → Near pos owner entry.2 →
      d.lt (entry.2.lastPosition.distanceTo pos) = true :=
    fun entry inside other => farther entry.1 entry.2 other (AMap.mem_toList.mp inside)
  have same : ∀ entry ∈ registry.entities.toList, entry.1 = id → entry.2 = info := by
    rintro ⟨other, info'⟩ inside rfl
    exact Option.some.inj ((AMap.mem_toList.mp inside).symm.trans known)
  have cases := @nearer_cases pos owner
  show ((registry.entities.toList.foldl (nearer pos owner) (0, lit 5 1))).1 = id
  -- the best so far is the nearest one, or it is farther away and the nearest one is still to come
  suffices found : ∀ (entries : List (EntityID × EntityInfo)) (best : EntityID × F32),
      (∀ entry ∈ entries, entry ∈ registry.entities.toList) →
      (best.2 = lit 5 1 ∨ best.2.lt (lit 5 1) = true) →
      (best = (id, d) ∨ d.lt best.2 = true ∧ (id, info) ∈ entries) →
      (entries.foldl (nearer pos owner) best).1 = id from
    found _ _ (fun _ inside => inside) (.inl rfl) (.inr ⟨near.2.2, visited⟩)
  intro entries
  induction entries with
  | nil =>
    rintro best - - (rfl | ⟨-, missing⟩)
    · rfl
    · cases missing
  | cons entry rest ih =>
    intro best inside bounded position
    rw [List.foldl_cons]
    have here := inside entry List.mem_cons_self
    have bounded' : (nearer pos owner best entry).2 = lit 5 1
        ∨ (nearer pos owner best entry).2.lt (lit 5 1) = true := by
      rcases cases best entry bounded with kept | ⟨close, -, taken⟩
      · rw [kept]
        exact bounded
      · rw [taken]
        exact .inr close.2.2
    refine ih _ (fun other later => inside other (List.mem_cons_of_mem _ later)) bounded' ?_
    rcases position with rfl | ⟨behind, ahead⟩
    · rcases cases (id, d) entry bounded with kept | ⟨close, closer, -⟩
      · exact .inl kept
      · by_cases own : entry.1 = id
        · rw [same entry here own] at closer
          exact absurd closer (by rw [Binary.Flt.lt_asymm closer]; decide)
        · exact absurd closer (by rw [Binary.Flt.lt_asymm (rivals entry here own close)]; decide)
    · by_cases own : entry.1 = id
      · refine .inl ?_
        unfold nearer
        rw [same entry here own, own, if_neg (by simp [near.1, near.2.1])]
        exact if_pos behind
      · have later : (id, info) ∈ rest := by
          refine (List.mem_cons.mp ahead).resolve_left fun first => own ?_
          rw [← first]
        rcases cases best entry bounded with kept | ⟨close, -, taken⟩
        · rw [kept]
          exact .inr ⟨behind, later⟩
        · rw [taken]
          exact .inr ⟨rivals entry here own close, later⟩

end EntityRegistry

end KenshiMP
