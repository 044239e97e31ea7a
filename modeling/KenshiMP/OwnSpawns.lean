/-
**Whether a client's characters get the numbers the server has given to them.**

A client registers each of its characters under a number of its own, and asks the server to spawn
it. The server answers with its number and the position of the request, and the client gives that
number to whichever of its characters is nearest to the position, if one is within five units.
The request's own number is not sent back. So the numbers end up where they belong as long as each
answer finds the character that was asked for nearest (`Obvious`), and not always otherwise
(`ownSpawns_swapped`: a character walks up to another one, and one number is lost).

`ownSpawns`: in every run in which each answer is obvious, in whatever order they come, every
confirmed character is registered under exactly its number, and no number is missing.
-/

import KenshiMP.DeferredSpawns

namespace KenshiMP

open Assoc

/-! ### The squad of a client -/

/-- A request for a character of the game, with the server's number once it has come. -/
structure OwnRequest where
  gameObject : GameObject
  position : Vec3
  serverId : Option EntityID := none
deriving DecidableEq

/-- A client, and what it has asked for. -/
structure Squad where
  client : GameClient
  requests : List OwnRequest := []

namespace Squad

variable (squad : Squad)

/-- A character that is not at the origin and not registered yet is registered and asked for. -/
def announce (gameObject : GameObject) (type : UInt8) (pos : Vec3) (rot : Quat) : Squad :=
  let client := squad.client
  if SyncOrchestrator.isZero pos.x && SyncOrchestrator.isZero pos.y && SyncOrchestrator.isZero pos.z
    || client.registry.getNetId gameObject ≠ 0 then squad
  else
    let netId := client.registry.registerId gameObject
    let registry := client.registry.register gameObject type client.localPlayerId
    { client := { client with registry := registry.updateTransform netId pos rot }
      requests := squad.requests ++ [⟨gameObject, pos, none⟩] }

/-- The server's answer to a request: the announcement that everyone gets, with the position that
was asked for. -/
def answer (own : OwnRequest) (serverId : EntityID) (request : GameServer.SpawnRequest) : EntitySpawn :=
  .ofRecord (GameServer.SpawnRequest.record { request with position := own.position } serverId
    squad.client.localPlayerId)

inductive Event where
  | announce (gameObject : GameObject) (type : UInt8) (pos : Vec3) (rot : Quat)
  /-- a position is written, whatever has moved -/
  | move (netId : EntityID) (pos : Vec3) (rot : Quat)
  /-- the answer to a request arrives; the other fields of the request are given -/
  | confirm (index : Nat) (serverId : EntityID) (request : GameServer.SpawnRequest) (now render : F32)
  /-- an announcement of an entity of another player -/
  | other (spawn : EntitySpawn) (now render : F32)

def step (pages : CodePages) (event : Event) : Squad :=
  match event with
  | .announce gameObject type pos rot => squad.announce gameObject type pos rot
  | .move netId pos rot =>
    { squad with client :=
        { squad.client with registry := squad.client.registry.updateTransform netId pos rot } }
  | .confirm index serverId request now render =>
    match squad.requests[index]? with
    | none => squad
    | some own =>
      if own.serverId.isSome then squad
      else
        { client := squad.client.takeUp pages (squad.answer own serverId request) now render
          requests := squad.requests.set index { own with serverId := some serverId } }
  | .other spawn now render =>
    if spawn.ownerId = squad.client.localPlayerId then squad
    else { squad with client := squad.client.takeUp pages spawn now render }

end Squad

def squadMachine (pages : CodePages) : Machine Squad Squad.Event Empty where
  step squad event := (squad.step pages event, [])

/-! ### What is promised -/

/-- Every confirmed character is registered under exactly its number, every number that was confirmed
is registered, and every character of the client is one that was asked for. -/
structure Matched (squad : Squad) : Prop where
  confirmed : ∀ own ∈ squad.requests, ∀ serverId, own.serverId = some serverId →
    squad.client.registry.getNetId own.gameObject = serverId
      ∧ ∃ info, squad.client.registry.getInfo serverId = some info
        ∧ info.gameObject = own.gameObject ∧ info.isRemote = false
  numbered : ∀ id info, squad.client.registry.getInfo id = some info → info.isRemote = false →
    ∃ own ∈ squad.requests, own.gameObject = info.gameObject
      ∧ ∀ serverId, own.serverId = some serverId → id = serverId

/-- An answer that finds the character it is about: it is within five units of the position that was
asked for, and nearer to it than every other character of the client that is. -/
def Obvious (registry : EntityRegistry) (owner : PlayerID) (own : OwnRequest) : Prop :=
  ∃ info, registry.getInfo (registry.getNetId own.gameObject) = some info
    ∧ (info.lastPosition.distanceTo own.position).lt (lit 5 1) = true
    ∧ ∀ id info', id ≠ registry.getNetId own.gameObject → registry.getInfo id = some info' →
      EntityRegistry.Near own.position owner info' →
        (info.lastPosition.distanceTo own.position).lt
          (info'.lastPosition.distanceTo own.position) = true

theorem obvious_iff {registry : EntityRegistry} {owner : PlayerID} {own : OwnRequest} :
    Obvious registry owner own ↔ ∃ entry ∈ registry.entities.toList,
      entry.1 = registry.getNetId own.gameObject
        ∧ (entry.2.lastPosition.distanceTo own.position).lt (lit 5 1) = true
        ∧ ∀ rival ∈ registry.entities.toList, rival.1 ≠ registry.getNetId own.gameObject →
          EntityRegistry.Near own.position owner rival.2 →
            (entry.2.lastPosition.distanceTo own.position).lt
              (rival.2.lastPosition.distanceTo own.position) = true := by
  constructor
  · rintro ⟨info, stored, close, farther⟩
    exact ⟨(_, info), AMap.mem_toList.mpr stored, rfl, close, fun rival inside different =>
      farther rival.1 rival.2 different (AMap.mem_toList.mp inside)⟩
  · rintro ⟨⟨id, info⟩, inside, rfl, close, farther⟩
    exact ⟨info, AMap.mem_toList.mp inside, close, fun id info' different stored =>
      farther (id, info') (AMap.mem_toList.mpr stored) different⟩

instance (pos : Vec3) (owner : PlayerID) (info : EntityInfo) :
    Decidable (EntityRegistry.Near pos owner info) :=
  inferInstanceAs (Decidable (_ ∧ _ ∧ _))

instance (registry : EntityRegistry) (owner : PlayerID) (own : OwnRequest) :
    Decidable (Obvious registry owner own) :=
  decidable_of_iff _ obvious_iff.symm

/-- The condition on a step, in the state before it. -/
def Clear (squad : Squad) : Squad.Event → Prop
  | .announce gameObject _ _ _ =>
    -- a character has an address, and the counter has not come round
    gameObject ≠ 0 ∧ EntityRegistry.invalidPointer gameObject = false
      ∧ squad.client.registry.nextId ≠ 0
      ∧ squad.client.registry.getInfo squad.client.registry.nextId = none
  | .move _ _ _ => True
  | .confirm index serverId _ _ _ =>
    ∀ own ∈ squad.requests[index]?, own.serverId = none →
      Obvious squad.client.registry squad.client.localPlayerId own ∧ serverId ≠ 0
        ∧ (squad.client.registry.getInfo serverId = none
          ∨ squad.client.registry.getNetId own.gameObject = serverId)
  | .other spawn _ _ =>
    -- the numbers of others are not those of characters of this client
    spawn.entityId ≠ 0
      ∧ ∀ info ∈ squad.client.registry.getInfo spawn.entityId, info.isRemote = true

instance (squad : Squad) (event : Squad.Event) : Decidable (Clear squad event) :=
  match event with
  | .announce _ _ _ _ => inferInstanceAs (Decidable (_ ∧ _ ∧ _ ∧ _))
  | .move _ _ _ => .isTrue trivial
  | .confirm index _ _ _ _ => inferInstanceAs (Decidable (∀ own ∈ squad.requests[index]?, _))
  | .other _ _ _ => inferInstanceAs (Decidable (_ ∧ _))

/-! ### The invariant -/

/-- The characters of a client and its requests. -/
structure Paired (registry : EntityRegistry) (owner : PlayerID) (requests : List OwnRequest) : Prop where
  nonzero : ∀ gameObject id, registry.ptrToId.lookup gameObject = some id → id ≠ 0
  linked : ∀ id info, registry.getInfo id = some info →
    id ≠ 0 ∧ (info.gameObject ≠ 0 → registry.ptrToId.lookup info.gameObject = some id)
  distinct : (requests.map OwnRequest.gameObject).Nodup
  own : ∀ id info, registry.getInfo id = some info → info.isRemote = false →
    info.ownerPlayerId = owner ∧ ∃ own ∈ requests, own.gameObject = info.gameObject
  registered : ∀ own ∈ requests, own.gameObject ≠ 0 ∧ ∃ id info,
    registry.ptrToId.lookup own.gameObject = some id ∧ registry.getInfo id = some info
      ∧ info.isRemote = false ∧ info.gameObject = own.gameObject
      ∧ ∀ serverId, own.serverId = some serverId → id = serverId

namespace Paired

variable {registry : EntityRegistry} {owner : PlayerID} {requests : List OwnRequest}

/-- The invariant says that the numbers are where they belong. -/
theorem matched {client : GameClient} (paired : Paired client.registry owner requests) :
    Matched ⟨client, requests⟩ := by
  constructor
  · intro own inside serverId confirmed
    obtain ⟨-, id, info, found, stored, here, same, number⟩ := paired.registered own inside
    obtain rfl := number serverId confirmed
    refine ⟨?_, info, stored, same, here⟩
    show (client.registry.ptrToId.lookup own.gameObject).getD 0 = id
    rw [found]
    rfl
  · intro id info stored here
    obtain ⟨-, own, inside, same⟩ := paired.own id info stored here
    refine ⟨own, inside, same, fun serverId confirmed => ?_⟩
    obtain ⟨nonzero, id', info', found, -, -, -, number⟩ := paired.registered own inside
    have linked := (paired.linked id info stored).2 (same ▸ nonzero)
    rw [← same, found] at linked
    exact (Option.some.inj linked).symm.trans (number serverId confirmed)

section Pairing

variable (paired : Paired registry owner requests)

include paired

/-- Changes of other fields of one entry. -/
theorem update (netId : EntityID) {f : EntityInfo → EntityInfo}
    (kept : ∀ info, (f info).gameObject = info.gameObject ∧ (f info).isRemote = info.isRemote
      ∧ (f info).ownerPlayerId = info.ownerPlayerId) :
    Paired (registry.update netId f) owner requests := by
  have fields {id : EntityID} {info' : EntityInfo}
      (stored : (registry.update netId f).getInfo id = some info') :
      ∃ info, registry.getInfo id = some info ∧ info'.gameObject = info.gameObject
        ∧ info'.isRemote = info.isRemote ∧ info'.ownerPlayerId = info.ownerPlayerId := by
    rw [EntityRegistry.getInfo_update] at stored
    obtain ⟨info, found, rfl⟩ := Option.map_eq_some_iff.mp stored
    refine ⟨info, found, ?_⟩
    split_ifs
    · exact kept info
    · exact ⟨rfl, rfl, rfl⟩
  refine ⟨paired.nonzero, fun id info' stored => ?_, paired.distinct, fun id info' stored here => ?_,
    fun own inside => ?_⟩
  · obtain ⟨info, found, object, -, -⟩ := fields stored
    rw [object]
    exact paired.linked id info found
  · obtain ⟨info, found, object, remote, player⟩ := fields stored
    rw [object, player]
    exact paired.own id info found (remote ▸ here)
  · obtain ⟨nonzero, id, info, found, stored, here, same, number⟩ := paired.registered own inside
    refine ⟨nonzero, id, if id = netId then f info else info, found, ?_, ?_, ?_, number⟩
    · rw [EntityRegistry.getInfo_update, stored]
      rfl
    · split_ifs
      · rw [(kept info).2.1, here]
      · exact here
    · split_ifs
      · rw [(kept info).1, same]
      · exact same

/-- An entity of another player is registered. -/
theorem registerRemote {netId : EntityID}
    (nonzero : netId ≠ 0) (type : UInt8) (player : PlayerID) (pos : Vec3) :
    Paired (registry.registerRemote netId type player pos) owner requests := by
  unfold EntityRegistry.registerRemote
  cases known : registry.entities.lookup netId with
  | some info => exact paired
  | none =>
    simp only
    set info : EntityInfo :=
      { netId := netId, type := type, ownerPlayerId := player, lastPosition := pos, isRemote := true,
        state := .Spawning, authority := .Player, localState := .RemoteOwned,
        zone := ZoneCoord.fromWorldPos pos } with new
    have entry (id : EntityID) :
        AList.lookup id (AList.insert netId info registry.entities)
          = if id = netId then some info else registry.getInfo id :=
      AMap.lookup_insert_eq netId id info registry.entities
    refine ⟨paired.nonzero, fun id info' stored => ?_, paired.distinct,
      fun id info' stored here => ?_, fun own inside => ?_⟩
    · rw [EntityRegistry.getInfo, entry] at stored
      split_ifs at stored with same
      · cases stored
        rw [same]
        exact ⟨nonzero, fun object => absurd rfl object⟩
      · exact paired.linked id info' stored
    · rw [EntityRegistry.getInfo, entry] at stored
      split_ifs at stored with same
      · cases stored
        cases here
      · exact paired.own id info' stored here
    · obtain ⟨object, id, info', found, stored, rest⟩ := paired.registered own inside
      refine ⟨object, id, info', found, ?_, rest⟩
      rw [EntityRegistry.getInfo, entry, if_neg]
      · exact stored
      · rintro rfl
        rw [show registry.getInfo id = none from known] at stored
        cases stored

/-- A character that is linked to nothing else is linked to the entity of another player. -/
theorem setGameObject {netId : EntityID} {info : EntityInfo}
    (known : registry.getInfo netId = some info) (remote : info.isRemote = true)
    {gameObject : GameObject}
    (free : registry.getNetId gameObject = 0 ∨ registry.getNetId gameObject = netId) :
    Paired (registry.setGameObject netId gameObject) owner requests := by
  -- what leads to another entity still does, and the character leads to this one
  have others {object : GameObject} {id : EntityID} (found : registry.ptrToId.lookup object = some id)
      (different : id ≠ netId) :
      (registry.setGameObject netId gameObject).ptrToId.lookup object = some id := by
    rw [EntityRegistry.ptrToId_setGameObject _ known, if_neg, if_neg]
    · exact found
    · rintro ⟨nonzero, rfl⟩
      have here := (paired.linked netId info known).2 nonzero
      rw [found] at here
      exact different (Option.some.inj here)
    · rintro ⟨valid, same⟩
      have same' : object = gameObject := by
        unfold EntityRegistry.linkable at valid same
        split_ifs at valid same
        · exact absurd rfl valid
        · exact same
      have id_ : registry.getNetId gameObject = id := by
        rw [← same']
        exact congrArg (fun found => found.getD 0) found
      rw [id_] at free
      exact free.elim (paired.nonzero object id found) different
  have entry (id : EntityID) := EntityRegistry.getInfo_setGameObject registry netId id gameObject
  refine ⟨fun object id found => ?_, fun id info' stored => ?_, paired.distinct,
    fun id info' stored here => ?_, fun own inside => ?_⟩
  · rw [EntityRegistry.ptrToId_setGameObject _ known] at found
    split_ifs at found
    · cases found
      exact (paired.linked netId info known).1
    · exact paired.nonzero object id found
  · rw [entry] at stored
    obtain ⟨old, found, rfl⟩ := Option.map_eq_some_iff.mp stored
    obtain ⟨nonzero, linked⟩ := paired.linked id old found
    refine ⟨nonzero, fun object => ?_⟩
    by_cases same : id = netId
    · rw [if_pos same] at object ⊢
      rw [EntityRegistry.ptrToId_setGameObject _ known, if_pos ⟨object, rfl⟩, same]
    · rw [if_neg same] at object ⊢
      exact others (linked object) same
  · rw [entry] at stored
    obtain ⟨old, found, rfl⟩ := Option.map_eq_some_iff.mp stored
    split_ifs at here ⊢ with same
    · subst same
      rw [known] at found
      cases found
      exact absurd remote (by rw [show info.isRemote = false from here]; decide)
    · exact paired.own id old found here
  · obtain ⟨object, id, info', found, stored, here, rest⟩ := paired.registered own inside
    have different : id ≠ netId := by
      rintro rfl
      rw [known] at stored
      cases stored
      rw [remote] at here
      cases here
    refine ⟨object, id, info', others found different, ?_, here, rest⟩
    rw [entry, stored, Option.map_some, if_neg different]

/-- A character is registered and asked for. -/
theorem register {gameObject : GameObject}
    (object : gameObject ≠ 0) (valid : EntityRegistry.invalidPointer gameObject = false)
    (unknown : registry.getNetId gameObject = 0) (counter : registry.nextId ≠ 0)
    (unused : registry.getInfo registry.nextId = none) (type : UInt8) (pos : Vec3) :
    registry.registerId gameObject = registry.nextId
      ∧ Paired (registry.register gameObject type owner) owner
        (requests ++ [⟨gameObject, pos, none⟩]) := by
  have new : registry.ptrToId.lookup gameObject = none := by
    cases found : registry.ptrToId.lookup gameObject with
    | none => rfl
    | some id =>
      refine absurd ?_ (paired.nonzero gameObject id found)
      have same := unknown
      unfold EntityRegistry.getNetId at same
      rwa [found] at same
  have nothing (own : OwnRequest) (inside : own ∈ requests) : own.gameObject ≠ gameObject := by
    rintro same
    obtain ⟨-, id, -, found, -⟩ := paired.registered own inside
    rw [same, new] at found
    cases found
  refine ⟨by unfold EntityRegistry.registerId; rw [valid, new]; rfl, ?_⟩
  unfold EntityRegistry.register
  rw [valid, new]
  simp only [Bool.false_eq_true, if_false]
  set info : EntityInfo :=
    { netId := registry.nextId, gameObject := gameObject, type := type, ownerPlayerId := owner,
      state := .Active, authority := .Player, localState := .LocalOwned }
  have entry (id : EntityID) :
      AList.lookup id (AList.insert registry.nextId info registry.entities)
        = if id = registry.nextId then some info else registry.getInfo id :=
    AMap.lookup_insert_eq registry.nextId id info registry.entities
  have address (other : GameObject) :
      AList.lookup other (AList.insert gameObject registry.nextId registry.ptrToId)
        = if other = gameObject then some registry.nextId else registry.ptrToId.lookup other :=
    AMap.lookup_insert_eq gameObject other registry.nextId registry.ptrToId
  refine ⟨fun other id found => ?_, fun id info' stored => ?_, ?_, fun id info' stored here => ?_,
    fun own inside => ?_⟩
  · rw [address] at found
    split_ifs at found
    · cases found
      exact counter
    · exact paired.nonzero other id found
  · rw [EntityRegistry.getInfo, entry] at stored
    split_ifs at stored with same
    · cases stored
      refine ⟨same ▸ counter, fun _ => ?_⟩
      rw [address, if_pos rfl, same]
    · obtain ⟨nonzero, linked⟩ := paired.linked id info' stored
      refine ⟨nonzero, fun object' => ?_⟩
      rw [address, if_neg]
      · exact linked object'
      · intro same
        have found := linked object'
        rw [same, new] at found
        cases found
  · rw [List.map_append, List.nodup_append]
    refine ⟨paired.distinct, List.nodup_singleton _, ?_⟩
    rintro known inside _ (_ | ⟨_, ⟨⟩⟩) same
    obtain ⟨own, member, rfl⟩ := List.mem_map.mp inside
    exact nothing own member same
  · rw [EntityRegistry.getInfo, entry] at stored
    split_ifs at stored with same
    · cases stored
      exact ⟨rfl, _, List.mem_append_right _ List.mem_cons_self, rfl⟩
    · obtain ⟨player, own, inside, object'⟩ := paired.own id info' stored here
      exact ⟨player, own, List.mem_append_left _ inside, object'⟩
  · rcases List.mem_append.mp inside with earlier | last
    · obtain ⟨object', id, info', found, stored, rest⟩ := paired.registered own earlier
      refine ⟨object', id, info', ?_, ?_, rest⟩
      · rw [address, if_neg (nothing own earlier)]
        exact found
      · rw [EntityRegistry.getInfo, entry, if_neg]
        · exact stored
        · rintro rfl
          rw [unused] at stored
          cases stored
    · obtain rfl := List.mem_singleton.mp last
      refine ⟨object, registry.nextId, info, ?_, ?_, rfl, rfl, fun _ none => by cases none⟩
      · rw [address, if_pos rfl]
      · rw [EntityRegistry.getInfo, entry, if_pos rfl]

/-- A character that waits for its number gets it. -/
theorem remap {id serverId : EntityID} {info : EntityInfo}
    (known : registry.getInfo id = some info) (object : info.gameObject ≠ 0)
    (nonzero : serverId ≠ 0) (free : registry.getInfo serverId = none)
    (waiting : ∀ own ∈ requests, own.gameObject = info.gameObject → own.serverId = none) :
    Paired (registry.remapEntityId id serverId) owner requests
      ∧ (registry.remapEntityId id serverId).ptrToId.lookup info.gameObject = some serverId := by
  have stored : registry.entities.lookup id = some info := known
  have unused : registry.entities.lookup serverId = none := free
  have linked := (paired.linked id info known).2 object
  unfold EntityRegistry.remapEntityId
  rw [stored, unused]
  simp only [if_neg object]
  have entry (other : EntityID) :
      AList.lookup other (AList.insert serverId { info with netId := serverId }
          (AList.erase id registry.entities))
        = if other = serverId then some { info with netId := serverId }
          else if other = id then none else registry.getInfo other := by
    rw [AMap.lookup_insert_eq, AMap.lookup_erase_eq]
    rfl
  have address (other : GameObject) :
      AList.lookup other (AList.insert info.gameObject serverId registry.ptrToId)
        = if other = info.gameObject then some serverId else registry.ptrToId.lookup other :=
    AMap.lookup_insert_eq info.gameObject other serverId registry.ptrToId
  refine ⟨⟨fun other found led => ?_, fun other info' found => ?_, paired.distinct,
    fun other info' found here => ?_, fun own inside => ?_⟩, by rw [address, if_pos rfl]⟩
  · rw [address] at led
    split_ifs at led
    · cases led
      exact nonzero
    · exact paired.nonzero other found led
  · rw [EntityRegistry.getInfo, entry] at found
    split_ifs at found with same gone
    · cases found
      refine ⟨same ▸ nonzero, fun _ => ?_⟩
      rw [address, if_pos rfl, same]
    · obtain ⟨nonzero', linked'⟩ := paired.linked other info' found
      refine ⟨nonzero', fun object' => ?_⟩
      rw [address, if_neg]
      · exact linked' object'
      · intro same'
        have led := linked' object'
        rw [same', linked] at led
        exact gone (Option.some.inj led).symm
  · rw [EntityRegistry.getInfo, entry] at found
    split_ifs at found
    · cases found
      exact paired.own id info known here
    · exact paired.own other info' found here
  · obtain ⟨object', id', info', led, found, here, same, number⟩ := paired.registered own inside
    refine ⟨object', ?_⟩
    by_cases this : own.gameObject = info.gameObject
    · rw [this, linked] at led
      obtain rfl := Option.some.inj led
      rw [known] at found
      obtain rfl := Option.some.inj found
      refine ⟨serverId, { info with netId := serverId }, ?_, ?_, here, same, ?_⟩
      · rw [address, if_pos this]
      · rw [EntityRegistry.getInfo, entry, if_pos rfl]
      · intro number' confirmed
        rw [waiting own inside this] at confirmed
        cases confirmed
    · refine ⟨id', info', ?_, ?_, here, same, number⟩
      · rw [address, if_neg this]
        exact led
      · rw [EntityRegistry.getInfo, entry, if_neg, if_neg]
        · exact found
        · rintro rfl
          rw [known] at found
          obtain rfl := Option.some.inj found
          exact this same.symm
        · rintro rfl
          rw [free] at found
          cases found

/-- Two requests are for two characters. -/
theorem differ {first second : Nat} {one two : OwnRequest}
    (here : requests[first]? = some one) (there : requests[second]? = some two)
    (different : first ≠ second) : one.gameObject ≠ two.gameObject := by
  intro same
  have map (index : Nat) : (requests.map OwnRequest.gameObject)[index]?
      = requests[index]?.map OwnRequest.gameObject := List.getElem?_map
  have inside : first < (requests.map OwnRequest.gameObject).length := by
    rw [List.length_map]
    exact (List.getElem?_eq_some_iff.mp here).1
  refine different ((List.getElem?_inj inside paired.distinct).mp ?_)
  rw [map, map, here, there, Option.map_some, Option.map_some, same]

/-- The number a character is registered under is noted with its request. -/
theorem noted {index : Nat} {own : OwnRequest} (here : requests[index]? = some own) {serverId : EntityID}
    (led : registry.ptrToId.lookup own.gameObject = some serverId) :
    Paired registry owner (requests.set index { own with serverId := some serverId }) := by
  have objects : (requests.set index { own with serverId := some serverId }).map
      OwnRequest.gameObject = requests.map OwnRequest.gameObject := by
    rw [List.map_set]
    refine List.ext_getElem? fun other => ?_
    rw [List.getElem?_set, List.getElem?_map]
    split_ifs with same inside
    · rw [← same, here]
      rfl
    · rw [List.length_map] at inside
      exact absurd (List.getElem?_eq_some_iff.mp here).1 inside
    · rfl
  have members {other : OwnRequest}
      (inside : other ∈ requests.set index { own with serverId := some serverId }) :
      other = { own with serverId := some serverId }
        ∨ other ∈ requests := (List.mem_or_eq_of_mem_set inside).symm
  refine ⟨paired.nonzero, paired.linked, objects ▸ paired.distinct, fun id info stored mine => ?_,
    fun other inside => ?_⟩
  · obtain ⟨player, found⟩ := paired.own id info stored mine
    refine ⟨player, ?_⟩
    have member : info.gameObject ∈ requests.map OwnRequest.gameObject := by
      obtain ⟨request, inside, same⟩ := found
      exact List.mem_map.mpr ⟨request, inside, same⟩
    rw [← objects] at member
    obtain ⟨request, inside, same⟩ := List.mem_map.mp member
    exact ⟨request, inside, same⟩
  · rcases members inside with rfl | earlier
    · obtain ⟨object, id, info, found, stored, mine, same, -⟩ :=
        paired.registered own (List.mem_of_getElem? here)
      rw [led] at found
      obtain rfl := Option.some.inj found
      exact ⟨object, serverId, info, led, stored, mine, same, fun _ number => Option.some.inj number⟩
    · exact paired.registered other earlier

/-- The answer finds the character that was asked for. -/
theorem found {own : OwnRequest} (inside : own ∈ requests) (obvious : Obvious registry owner own) :
    registry.findLocalEntityNear own.position owner = registry.getNetId own.gameObject := by
  obtain ⟨info, stored, close, farther⟩ := obvious
  obtain ⟨-, id, info', led, stored', here, -⟩ := paired.registered own inside
  have number : registry.getNetId own.gameObject = id := congrArg (fun found => found.getD 0) led
  rw [number] at stored farther ⊢
  rw [stored'] at stored
  obtain rfl := Option.some.inj stored
  exact EntityRegistry.findLocalEntityNear_eq stored'
    ⟨here, (paired.own id info' stored' here).1, close⟩ farther

/-- An obvious answer. -/
theorem confirm {index : Nat} {own : OwnRequest}
    (here : requests[index]? = some own) (waiting : own.serverId = none)
    (obvious : Obvious registry owner own) {serverId : EntityID} (nonzero : serverId ≠ 0)
    (free : registry.getInfo serverId = none ∨ registry.getNetId own.gameObject = serverId) :
    Paired (registry.confirm serverId own.position owner) owner
      (requests.set index { own with serverId := some serverId }) := by
  have inside := List.mem_of_getElem? here
  obtain ⟨object, id, info, led, stored, -, same, -⟩ := paired.registered own inside
  have number : registry.getNetId own.gameObject = id := congrArg (fun found => found.getD 0) led
  unfold EntityRegistry.confirm
  rw [paired.found inside obvious, number]
  simp only
  by_cases done : id = serverId
  · subst done
    rw [if_neg (by simp)]
    exact paired.noted here led
  · rw [if_pos (by simp [paired.nonzero _ _ led, done])]
    have unused := free.resolve_right (number.symm ▸ done)
    obtain ⟨remapped, led'⟩ := paired.remap stored (same ▸ object) nonzero unused
      (fun other member object' => by
        obtain ⟨place, there⟩ := List.mem_iff_getElem?.mp member
        by_cases first : place = index
        · subst first
          rw [here] at there
          exact Option.some.inj there ▸ waiting
        · exact absurd (object'.trans same) (paired.differ there here first))
    exact remapped.noted here (same ▸ led')

variable (netId : EntityID)

theorem updatePosition (pos : Vec3) : Paired (registry.updatePosition netId pos) owner requests :=
  paired.update netId fun _ => ⟨rfl, rfl, rfl⟩

theorem updateTransform (pos : Vec3)
    (rot : Quat) : Paired (registry.updateTransform netId pos rot) owner requests :=
  (paired.updatePosition netId pos).update netId fun _ => ⟨rfl, rfl, rfl⟩

theorem healed (loaded : Bool) (health : Option (Fin 7 → F32)) :
    Paired (registry.healed netId loaded health) owner requests := by
  unfold EntityRegistry.healed
  cases health with
  | none => exact paired
  | some health =>
    simp only
    split_ifs
    · exact paired.update netId fun _ => ⟨rfl, rfl, rfl⟩
    · exact paired

end Pairing

/-- The entity of another player is taken up: registered, and perhaps linked. -/
theorem takeUp {client : GameClient} (paired : Paired client.registry owner requests)
    (pages : CodePages) {spawn : EntitySpawn} (other : spawn.ownerId ≠ client.localPlayerId)
    (nonzero : spawn.entityId ≠ 0)
    (remote : ∀ info, client.registry.getInfo spawn.entityId = some info → info.isRemote = true)
    (now render : F32) :
    Paired (client.takeUp pages spawn now render).registry owner requests
      ∧ (client.takeUp pages spawn now render).localPlayerId = client.localPlayerId := by
  have registered : Paired (client.registered spawn) owner requests :=
    paired.registerRemote nonzero _ _ _
  unfold GameClient.takeUp
  rw [if_neg other]
  split_ifs with early
  · exact ⟨paired, rfl⟩
  · refine ⟨?_, client.spawnRemote_player pages spawn now render⟩
    by_cases links : client.waiting spawn ≠ 0
      ∧ (client.registry.getNetId (client.waiting spawn) = 0
        ∨ client.registry.getNetId (client.waiting spawn) = spawn.entityId)
    · obtain ⟨info, known, new⟩ := client.registry.getInfo_registerRemote spawn.entityId spawn.type
        spawn.ownerId spawn.spawnPos
      have linked : Paired (client.linkedHere spawn) owner requests := by
        refine (registered.setGameObject known (new.elim id (remote info)) ?_).updatePosition _ _
        rw [client.getNetId_registered]
        exact links.2
      rw [(client.spawnRemote_links pages spawn now render links.1 links.2).1]
      refine Paired.healed ?_ _ _ _
      unfold GameClient.linkedBest
      cases client.bestPos spawn now render with
      | none => exact linked
      | some best => exact linked.updatePosition _ best
    · have taken : client.waiting spawn = 0
          ∨ client.registry.getNetId (client.waiting spawn) ≠ 0
            ∧ client.registry.getNetId (client.waiting spawn) ≠ spawn.entityId := by
        by_contra neither
        rw [not_or, not_and_or, not_not, not_not] at neither
        exact links neither
      rw [(client.spawnRemote_asks pages spawn now render taken).1]
      exact registered

end Paired

/-! ### Runs -/

/-- One step keeps the invariant. -/
theorem paired_step (pages : CodePages) {squad : Squad} {event : Squad.Event} (clear : Clear squad event)
    (paired : Paired squad.client.registry squad.client.localPlayerId squad.requests) :
    Paired (squad.step pages event).client.registry (squad.step pages event).client.localPlayerId
      (squad.step pages event).requests := by
  cases event with
  | announce gameObject type pos rot =>
    obtain ⟨object, valid, counter, unused⟩ := clear
    show Paired (squad.announce gameObject type pos rot).client.registry
      (squad.announce gameObject type pos rot).client.localPlayerId
      (squad.announce gameObject type pos rot).requests
    unfold Squad.announce
    simp only
    split_ifs with skipped
    · exact paired
    · rw [Bool.or_eq_true, not_or, decide_eq_true_eq, not_not] at skipped
      obtain ⟨-, registered⟩ := paired.register object valid skipped.2 counter unused type pos
      exact registered.updateTransform _ pos rot
  | move netId pos rot => exact paired.updateTransform netId pos rot
  | confirm index serverId request now render =>
    unfold Squad.step
    simp only
    cases here : squad.requests[index]? with
    | none => exact paired
    | some own =>
      simp only
      split_ifs with answered
      · exact paired
      · have waiting : own.serverId = none := Option.not_isSome_iff_eq_none.mp answered
        obtain ⟨obvious, nonzero, free⟩ := clear own here waiting
        have confirmed := paired.confirm here waiting obvious nonzero free
        unfold GameClient.takeUp
        rw [if_pos (by rfl)]
        exact confirmed
  | other spawn now render =>
    unfold Squad.step
    simp only
    split_ifs with own
    · exact paired
    · obtain ⟨taken, player⟩ := paired.takeUp pages own clear.1 clear.2 now render
      rw [player]
      exact taken

/-- **Every character gets its number**: whatever is announced, moves, and comes in between, if every
answer is obvious, the characters are matched with their requests in every state of the run. -/
theorem ownSpawns (pages : CodePages) (client : GameClient) (events : List Squad.Event)
    (clear : (squadMachine pages).Along Clear ⟨{ client with registry := {} }, []⟩ events) :
    Matched ((squadMachine pages).run ⟨{ client with registry := {} }, []⟩ events) := by
  have initial : Paired {} client.localPlayerId [] := by
    refine ⟨fun gameObject id found => (nomatch found), fun id info stored => (nomatch stored),
      List.nodup_nil, fun id info stored => (nomatch stored), fun own inside => (nomatch inside)⟩
  let motive (squad : Squad) : Prop :=
    Paired squad.client.registry squad.client.localPlayerId squad.requests
  have preserved (squad : Squad) (event : Squad.Event) (clear : Clear squad event)
      (paired : motive squad) : motive ((squadMachine pages).next squad event) :=
    paired_step pages clear paired
  have paired := Machine.run_invariant preserved initial clear
  exact paired.matched

/-- Characters of the first player at places along a line. -/
def announceAt (gameObject : GameObject) (x : Int) : Squad.Event :=
  .announce gameObject EntityType.NPC ⟨lit x 1, lit 0 1, lit 0 1⟩ {}

def confirmAs (index : Nat) (serverId : EntityID) : Squad.Event :=
  .confirm index serverId ⟨EntityType.NPC, 0, {}, 0, 0, [], none⟩ (lit 0 1) (lit 0 1)

/-- The client of the first player. -/
def firstClient : GameClient := { localPlayerId := 1, registry := {} }

/-- Two characters that stand apart, and whose answers come the other way round. -/
theorem ownSpawns_apart :
    Matched ((squadMachine GameClient.plainPages).run ⟨firstClient, []⟩
      [announceAt 0x10000 10, announceAt 0x20000 100, confirmAs 1 2, confirmAs 0 1]) :=
  ownSpawns GameClient.plainPages firstClient
    [announceAt 0x10000 10, announceAt 0x20000 100, confirmAs 1 2, confirmAs 0 1] (by decide +kernel)

/-- Two characters that stand close together, of which the first has moved on when the answers come:
the second gets both numbers, one after the other. -/
def crossing : List Squad.Event :=
  [announceAt 0x10000 10, announceAt 0x20000 12,
    .move 0x10000000 ⟨lit 13 1, lit 0 1, lit 0 1⟩ {}, confirmAs 0 1, confirmAs 1 2]

theorem ownSpawns_swapped :
    ¬ Matched ((squadMachine GameClient.plainPages).run ⟨firstClient, []⟩ crossing)
      ∧ (((squadMachine GameClient.plainPages).run ⟨firstClient, []⟩ crossing).client.registry.getInfo 1).isNone
        = true := by
  have asked : (⟨0x10000, ⟨lit 10 1, lit 0 1, lit 0 1⟩, some 1⟩ : OwnRequest)
      ∈ ((squadMachine GameClient.plainPages).run ⟨firstClient, []⟩ crossing).requests := by
    decide +kernel
  have lost : (((squadMachine GameClient.plainPages).run ⟨firstClient, []⟩ crossing).client.registry.getInfo
      1).isNone = true := by
    decide +kernel
  refine ⟨fun matched => ?_, lost⟩
  obtain ⟨-, info, stored, -⟩ := matched.confirmed _ asked 1 rfl
  rw [stored] at lost
  cases lost

end KenshiMP
