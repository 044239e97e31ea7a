/-
**What joining and leaving do to the tables.**

`seatPlayer` and `removePlayer` in terms of lookups: which entities change owner, which saved record
goes, who is in the player table, and what the slot holds. `claimed` is an entity after a reclaim,
`freed` one after its owner has left.
-/

import KenshiMP.Server.Effects

namespace KenshiMP

open Wire (Bytes)
open Assoc

namespace GameServer

variable (server : GameServer)

/-! ### Slots -/

theorem peerData_setPeerData (peer other : Peer) (data : UInt32) :
    (server.setPeerData peer data).peerData other
      = if other = peer ∧ (server.peers.lookup peer).isSome then data else server.peerData other := by
  unfold peerData
  show ((AList.lookup other (AMap.modify peer _ server.peers)).map ENetPeer.data).getD 0 = _
  rw [AMap.lookup_modify]
  by_cases same : other = peer
  · subst same
    cases server.peers.lookup other with
    | none => simp
    | some slot => simp
  · simp only [same, if_false, false_and, Option.map_id']

/-! ### Reclaiming -/

/-- An entity after a player has reclaimed a list of identifiers. -/
def claimed (id : PlayerID) (ids : List EntityID) (eid : EntityID) (entity : ServerEntity) : ServerEntity :=
  if entity.owner = 0 ∧ eid ∈ ids then { entity with owner := id } else entity

section Reclaiming

variable (id : PlayerID)

theorem reclaimOne_lookup (eid other : EntityID) :
    (reclaimOne id server eid).entities.lookup other
      = (server.entities.lookup other).map (claimed id [eid] other) := by
  unfold reclaimOne
  cases stored : server.entities.lookup eid with
  | none =>
    simp only
    cases found : server.entities.lookup other with
    | none => rfl
    | some entity =>
      have different : other ≠ eid := by
        rintro rfl
        rw [stored] at found
        cases found
      simp [claimed, different]
  | some entity =>
    simp only
    by_cases unowned : entity.owner = 0
    · rw [if_pos unowned]
      show AList.lookup other (AMap.modify eid _ server.entities) = _
      rw [AMap.lookup_modify]
      cases found : server.entities.lookup other with
      | none => rfl
      | some here =>
        by_cases same : other = eid
        · subst same
          rw [stored] at found
          cases found
          simp [claimed, unowned]
        · simp [claimed, same]
    · rw [if_neg unowned]
      cases found : server.entities.lookup other with
      | none => rfl
      | some here =>
        by_cases same : other = eid
        · subst same
          rw [stored] at found
          cases found
          simp [claimed, unowned]
        · simp [claimed, same]

theorem claimed_claimed (first : EntityID) (rest : List EntityID) (eid : EntityID) (entity : ServerEntity) :
    claimed id rest eid (claimed id [first] eid entity) = claimed id (first :: rest) eid entity := by
  unfold claimed
  by_cases unowned : entity.owner = 0
  · by_cases here : eid = first
    · by_cases there : eid ∈ rest
      · simp [unowned, here]
      · simp [unowned, here]
    · simp [unowned, here]
  · simp [unowned]

theorem reclaimAll_lookup (ids : List EntityID) (other : EntityID) :
    (ids.foldl (reclaimOne id) server).entities.lookup other
      = (server.entities.lookup other).map (claimed id ids other) := by
  induction ids generalizing server with
  | nil =>
    have nothing : claimed id [] other = fun entity => entity := by
      funext entity
      simp [claimed]
    rw [nothing, Option.map_id']
    rfl
  | cons first rest ih =>
    rw [List.foldl_cons, ih, reclaimOne_lookup, Option.map_map]
    congr 1
    funext entity
    exact claimed_claimed id first rest other entity

theorem reclaimOne_keeps (eid : EntityID) :
    Keeps server (reclaimOne id server eid)
      ∧ (reclaimOne id server eid).nextEntityId = server.nextEntityId
      ∧ (reclaimOne id server eid).entities.size = server.entities.size := by
  unfold reclaimOne
  cases server.entities.lookup eid with
  | none => exact ⟨Keeps.refl _, rfl, rfl⟩
  | some entity =>
    simp only
    split_ifs
    · exact ⟨(keeps_updateEntity _ _ _).trans (keeps_updatePlayer _ _ fun _ => ⟨rfl, rfl⟩), rfl,
        AMap.size_modify _ _ _⟩
    · exact ⟨Keeps.refl _, rfl, rfl⟩

theorem reclaimAll_keeps (ids : List EntityID) :
    Keeps server (ids.foldl (reclaimOne id) server)
      ∧ (ids.foldl (reclaimOne id) server).nextEntityId = server.nextEntityId
      ∧ (ids.foldl (reclaimOne id) server).entities.size = server.entities.size := by
  induction ids generalizing server with
  | nil => exact ⟨Keeps.refl _, rfl, rfl⟩
  | cons first rest ih =>
    obtain ⟨keeps, next, size⟩ := reclaimOne_keeps server id first
    obtain ⟨keeps', next', size'⟩ := ih (reclaimOne id server first)
    exact ⟨keeps.trans keeps', next'.trans next, size'.trans size⟩

end Reclaiming

/-- A reclaim touches no other player. -/
theorem reclaimOne_others {id other : PlayerID} (different : other ≠ id) (eid : EntityID) :
    (reclaimOne id server eid).players.lookup other = server.players.lookup other := by
  unfold reclaimOne
  cases server.entities.lookup eid with
  | none => rfl
  | some entity =>
    simp only
    split_ifs
    · exact AMap.lookup_modify_ne different _ _
    · rfl

theorem reclaimAll_others {id other : PlayerID} (different : other ≠ id) (ids : List EntityID) :
    (ids.foldl (reclaimOne id) server).players.lookup other = server.players.lookup other := by
  induction ids generalizing server with
  | nil => rfl
  | cons first rest ih => exact (ih _).trans (reclaimOne_others server different first)

/-- The identifiers saved under a name. -/
def savedIds (name : Bytes) : List EntityID :=
  ((server.savedPlayers.lookup name).map SavedPlayer.entityIds).getD []

/-- What a reclaim does. -/
structure Reclaimed (id : PlayerID) (name : Bytes) (before after : GameServer) : Prop where
  entities : ∀ eid, after.entities.lookup eid
    = (before.entities.lookup eid).map (claimed id (before.savedIds name) eid)
  size : after.entities.size = before.entities.size
  savedPlayers : ∀ other, after.savedPlayers.lookup other
    = if other = name then none else before.savedPlayers.lookup other
  players : ∀ other, (after.players.lookup other).map ConnectedPlayer.identity
    = (before.players.lookup other).map ConnectedPlayer.identity
  loopback : ∀ other, (after.players.lookup other).map ConnectedPlayer.isLoopback
    = (before.players.lookup other).map ConnectedPlayer.isLoopback
  others : ∀ other, other ≠ id → after.players.lookup other = before.players.lookup other
  peers : after.peers = before.peers
  nextEntityId : after.nextEntityId = before.nextEntityId
  nextPlayerId : after.nextPlayerId = before.nextPlayerId
  hostPlayerId : after.hostPlayerId = before.hostPlayerId
  time : before.timeOfDay.isFinite = true → after.timeOfDay.isFinite = true

theorem reclaim_spec (id : PlayerID) (name : Bytes) : Reclaimed id name server (server.reclaim id name) := by
  unfold reclaim
  cases found : server.savedPlayers.lookup name with
  | none =>
    refine ⟨fun eid => ?_, rfl, fun other => ?_, fun _ => rfl, fun _ => rfl, fun _ _ => rfl, rfl, rfl,
      rfl, rfl, fun finite => finite⟩
    · have nothing : claimed id (server.savedIds name) eid = fun entity => entity := by
        funext entity
        simp [claimed, savedIds, found]
      rw [nothing, Option.map_id']
    · split_ifs with same
      · rw [same]
        exact found
      · rfl
  | some saved =>
    obtain ⟨keeps, next, size⟩ := reclaimAll_keeps server id saved.entityIds
    have ids : server.savedIds name = saved.entityIds := by simp [savedIds, found]
    refine ⟨fun eid => ?_, size, fun other => ?_, keeps.players, keeps.loopback,
      fun other different => reclaimAll_others server different saved.entityIds, keeps.peers, next,
      keeps.nextPlayerId, keeps.hostPlayerId, keeps.time⟩
    · rw [ids]
      exact reclaimAll_lookup server id saved.entityIds eid
    · show AList.lookup other (AList.erase name _) = _
      rw [AMap.lookup_erase_eq, keeps.savedPlayers]

/-! ### Admission -/

/-- The state of a handshake once the entities are reclaimed. -/
def joined (peer : Peer) (name : Bytes) : GameServer :=
  (server.addPlayer peer name).reclaim server.nextPlayerId name

/-- Whether a handshake moves the host. -/
def movesHost (peer : Peer) (name : Bytes) : Bool :=
  (server.joined peer name).hostChanges (server.newPlayer peer name)

/-- The new player overrides a host from elsewhere, if they are from here. -/
theorem hostChanges_eq (player : ConnectedPlayer) :
    server.hostChanges player
      = (decide (server.hostPlayerId = 0) || (player.isLoopback
        && (((server.players.lookup server.hostPlayerId).map ConnectedPlayer.isLoopback).map
          not).getD false)) := by
  unfold hostChanges
  by_cases nobody : server.hostPlayerId = 0
  · simp [nobody]
  · rw [if_neg nobody]
    cases player.isLoopback with
    | false => simp [nobody]
    | true =>
      cases server.players.lookup server.hostPlayerId with
      | none => simp [nobody]
      | some host => simp [nobody]

/-- Joining under an unused number does not bear on the question. -/
theorem movesHost_eq {peer : Peer} {name : Bytes}
    (unused : server.players.lookup server.nextPlayerId = none) :
    server.movesHost peer name = server.hostChanges (server.newPlayer peer name) := by
  have reclaimed := reclaim_spec (server.addPlayer peer name) server.nextPlayerId name
  have host : (server.joined peer name).hostPlayerId = server.hostPlayerId := reclaimed.hostPlayerId
  have loopback : ((server.joined peer name).players.lookup server.hostPlayerId).map
      ConnectedPlayer.isLoopback
      = if server.hostPlayerId = server.nextPlayerId then
          some (server.newPlayer peer name).isLoopback
        else (server.players.lookup server.hostPlayerId).map ConnectedPlayer.isLoopback := by
    rw [joined, reclaimed.loopback]
    show (AList.lookup _ (AList.insert _ _ server.players)).map _ = _
    rw [AMap.lookup_insert_eq]
    split_ifs with same same' same'
    · rfl
    · exact absurd same same'
    · exact absurd same' same
    · rfl
  unfold movesHost
  rw [hostChanges_eq, hostChanges_eq, host, loopback]
  split_ifs with same
  · rw [same, unused]
    cases (server.newPlayer peer name).isLoopback with
    | false => rfl
    | true => rfl
  · rfl

/-- What an admitted handshake does to the tables. -/
structure Admitted (peer : Peer) (name : Bytes) (created : PacketCreation)
    (before after : GameServer) : Prop where
  entities : ∀ eid, after.entities.lookup eid
    = (before.entities.lookup eid).map (claimed before.nextPlayerId (before.savedIds name) eid)
  size : after.entities.size = before.entities.size
  savedPlayers : ∀ other, after.savedPlayers.lookup other
    = if other = name then none else before.savedPlayers.lookup other
  players : ∀ other, (after.players.lookup other).map ConnectedPlayer.identity
    = if other = before.nextPlayerId then
        (if created.ack && created.faction then some (before.nextPlayerId, name, peer) else none)
      else (before.players.lookup other).map ConnectedPlayer.identity
  loopback : ∀ other, (after.players.lookup other).map ConnectedPlayer.isLoopback
    = if other = before.nextPlayerId then
        (if created.ack && created.faction then some (before.newPlayer peer name).isLoopback
          else none)
      else (before.players.lookup other).map ConnectedPlayer.isLoopback
  others : ∀ other, other ≠ before.nextPlayerId →
    after.players.lookup other = before.players.lookup other
  hostPlayerId : after.hostPlayerId
    = if before.movesHost peer name then before.nextPlayerId else before.hostPlayerId
  peerData : ∀ other, after.peerData other
    = if other = peer ∧ (before.peers.lookup peer).isSome then
        (if created.ack && created.faction then before.nextPlayerId else 0)
      else before.peerData other
  slots : ∀ other, (after.peers.lookup other).isSome = (before.peers.lookup other).isSome
  nextEntityId : after.nextEntityId = before.nextEntityId
  nextPlayerId : after.nextPlayerId = before.nextPlayerId + 1
  time : before.timeOfDay.isFinite = true → after.timeOfDay.isFinite = true

theorem assignHost_fields (player : ConnectedPlayer) :
    (server.assignHost player).entities = server.entities
      ∧ (server.assignHost player).savedPlayers = server.savedPlayers
      ∧ (server.assignHost player).players = server.players
      ∧ (server.assignHost player).peers = server.peers
      ∧ (server.assignHost player).nextEntityId = server.nextEntityId
      ∧ (server.assignHost player).nextPlayerId = server.nextPlayerId
      ∧ (server.assignHost player).timeOfDay = server.timeOfDay := by
  unfold assignHost
  split_ifs
  · exact ⟨rfl, rfl, rfl, rfl, rfl, rfl, rfl⟩
  · exact ⟨rfl, rfl, rfl, rfl, rfl, rfl, rfl⟩

theorem assignHost_host (player : ConnectedPlayer) :
    (server.assignHost player).hostPlayerId
      = if server.hostChanges player then player.id else server.hostPlayerId := by
  unfold assignHost
  split_ifs
  · rfl
  · rfl

theorem isSome_setPeerData (peer other : Peer) (data : UInt32) :
    ((server.setPeerData peer data).peers.lookup other).isSome = (server.peers.lookup other).isSome := by
  show (AList.lookup other (AMap.modify peer _ server.peers)).isSome = _
  rw [AMap.lookup_modify, Option.isSome_map]

/-- The state of a handshake once the entities are reclaimed and the host is settled. -/
def hosted (peer : Peer) (name : Bytes) : GameServer :=
  ((server.addPlayer peer name).reclaim server.nextPlayerId name).assignHost
    (server.newPlayer peer name)

section Seating

variable (peer : Peer) (name : Bytes)

theorem hosted_spec : Admitted peer name {} server (server.hosted peer name) := by
  have reclaimed := reclaim_spec (server.addPlayer peer name) server.nextPlayerId name
  obtain ⟨entities, savedPlayers, players, peers, nextEntity, nextPlayer, time⟩ :=
    assignHost_fields ((server.addPlayer peer name).reclaim server.nextPlayerId name)
      (server.newPlayer peer name)
  have inserted (other : PlayerID) : (server.addPlayer peer name).players.lookup other
      = if other = server.nextPlayerId then some (server.newPlayer peer name)
        else server.players.lookup other := AMap.lookup_insert_eq _ _ _ _
  refine ⟨fun eid => ?_, ?_, fun other => ?_, fun other => ?_, fun other => ?_,
    fun other different => ?_, ?_, fun other => ?_, fun other => ?_,
    nextEntity.trans reclaimed.nextEntityId, nextPlayer.trans reclaimed.nextPlayerId,
    fun finite => ?_⟩
  · show (AList.lookup eid (GameServer.entities (assignHost _ _))) = _
    rw [entities]
    exact reclaimed.entities eid
  · show AMap.size (GameServer.entities (assignHost _ _)) = _
    rw [entities]
    exact reclaimed.size
  · show (AList.lookup other (GameServer.savedPlayers (assignHost _ _))) = _
    rw [savedPlayers]
    exact reclaimed.savedPlayers other
  · show (AList.lookup other (GameServer.players (assignHost _ _))).map _ = _
    rw [players, reclaimed.players, inserted]
    by_cases same : other = server.nextPlayerId
    · rw [if_pos same, if_pos same]
      rfl
    · rw [if_neg same, if_neg same]
  · show (AList.lookup other (GameServer.players (assignHost _ _))).map _ = _
    rw [players, reclaimed.loopback, inserted]
    by_cases same : other = server.nextPlayerId
    · rw [if_pos same, if_pos same]
      rfl
    · rw [if_neg same, if_neg same]
  · show (AList.lookup other (GameServer.players (assignHost _ _))) = _
    rw [players, reclaimed.others other different, inserted, if_neg different]
  · show GameServer.hostPlayerId (assignHost _ _) = _
    rw [assignHost_host, reclaimed.hostPlayerId]
    rfl
  · show GameServer.peerData (assignHost _ _) other = _
    unfold peerData
    rw [peers, reclaimed.peers]
    exact peerData_setPeerData server peer other server.nextPlayerId
  · show (AList.lookup other (GameServer.peers (assignHost _ _))).isSome = _
    rw [peers, reclaimed.peers]
    exact isSome_setPeerData server peer other server.nextPlayerId
  · show (GameServer.timeOfDay (assignHost _ _)).isFinite = true
    rw [time]
    exact reclaimed.time finite

theorem seatPlayer_fst (created : PacketCreation) :
    (server.seatPlayer peer name created).1
      = if created.ack && created.faction then server.hosted peer name
        else (server.hosted peer name).dropPlayer peer server.nextPlayerId := by
  unfold seatPlayer
  simp only
  cases created.ack with
  | false => rfl
  | true =>
    cases created.faction with
    | false => rfl
    | true => rfl

theorem seatPlayer_spec (created : PacketCreation) :
    Admitted peer name created server (server.seatPlayer peer name created).1 := by
  have joined := hosted_spec server peer name
  rw [seatPlayer_fst]
  by_cases both : (created.ack && created.faction) = true
  · rw [if_pos both]
    refine ⟨joined.entities, joined.size, joined.savedPlayers, fun other => ?_, fun other => ?_,
      joined.others, joined.hostPlayerId, fun other => ?_, joined.slots, joined.nextEntityId,
      joined.nextPlayerId, joined.time⟩
    · rw [joined.players, both]
      rfl
    · rw [joined.loopback, both]
      rfl
    · rw [joined.peerData, both]
      rfl
  · rw [if_neg both]
    rw [Bool.not_eq_true] at both
    have dropped (other : PlayerID) :
        ((server.hosted peer name).dropPlayer peer server.nextPlayerId).players.lookup other
          = if other = server.nextPlayerId then none
            else (server.hosted peer name).players.lookup other := AMap.lookup_erase_eq _ _ _
    refine ⟨joined.entities, joined.size, joined.savedPlayers, fun other => ?_, fun other => ?_,
      fun other different => ?_, joined.hostPlayerId, fun other => ?_, fun other => ?_,
      joined.nextEntityId, joined.nextPlayerId, joined.time⟩
    · rw [dropped, both]
      by_cases same : other = server.nextPlayerId
      · rw [if_pos same, if_pos same]
        rfl
      · rw [if_neg same, joined.players, if_neg same, if_neg same]
    · rw [dropped, both]
      by_cases same : other = server.nextPlayerId
      · rw [if_pos same, if_pos same]
        rfl
      · rw [if_neg same, joined.loopback, if_neg same, if_neg same]
    · rw [dropped, if_neg different]
      exact joined.others other different
    · have slot := joined.slots peer
      unfold dropPlayer
      rw [peerData_setPeerData]
      show (if other = peer ∧ ((server.hosted peer name).peers.lookup peer).isSome then 0
        else (server.hosted peer name).peerData other) = _
      rw [slot, both, joined.peerData]
      by_cases here : other = peer ∧ (server.peers.lookup peer).isSome = true
      · rw [if_pos here, if_pos here]
        rfl
      · rw [if_neg here, if_neg here, if_neg here]
    · unfold dropPlayer
      rw [isSome_setPeerData]
      exact joined.slots other

end Seating

theorem quiet_introduceOthers (peer : Peer) (id : PlayerID) : Quiet (server.introduceOthers peer id) := by
  intro call inside
  obtain ⟨⟨existingId, existing⟩, -, made⟩ := List.mem_filterMap.mp inside
  simp only at made
  split_ifs at made
  cases made
  rfl

/-- What everybody is told about the host in an admission. -/
def hostNews (peer : Peer) (name : Bytes) : List Call :=
  if server.movesHost peer name then (server.hosted peer name).broadcastHostAssignment else []

/-- The calls of an admission: the acknowledgement, the host, and the world between quiet lines. -/
theorem seatPlayer_calls (peer : Peer) (name : Bytes) (created : PacketCreation) :
    ∃ first last, Quiet first ∧ Quiet last ∧ (server.seatPlayer peer name created).2
      = if created.ack then
          (server.hosted peer name).handshakeAck peer server.nextPlayerId ::
            (server.hostNews peer name ++ first ++ (if created.faction then
              (server.hosted peer name).sendWorldSnapshot (server.newPlayer peer name) else [])
              ++ last)
        else [] := by
  cases ack : created.ack with
  | false =>
    refine ⟨[], [], quiet_nil, quiet_nil, ?_⟩
    unfold seatPlayer
    simp only [ack]
    rfl
  | true =>
    cases faction : created.faction with
    | false =>
      refine ⟨[], [], quiet_nil, quiet_nil, ?_⟩
      unfold seatPlayer
      simp only [ack, faction]
      show _ :: server.hostNews peer name = _ :: (server.hostNews peer name ++ [] ++ [] ++ [])
      simp only [List.append_nil]
      rfl
    | true =>
      refine ⟨factionAssignment peer server.nextPlayerId ::
          ((server.hosted peer name).broadcastExcept server.nextPlayerId
              KMP_CHANNEL_RELIABLE_ORDERED
              (.playerJoined server.nextPlayerId (name.take (KMP_MAX_NAME_LENGTH - 1)))
            ++ (server.hosted peer name).introduceOthers peer server.nextPlayerId),
        broadcastSystemMessage (name ++ Wire.ascii " joined the game"), ?_, quiet_systemMessage _, ?_⟩
      · exact quiet_cons rfl ((quiet_broadcastExcept _ _ rfl).append (quiet_introduceOthers _ _ _))
      · unfold seatPlayer
        simp only [ack, faction]
        show ((_ :: server.hostNews peer name) ++ _ :: (_ ++ _ ++ _ ++ _) : List Call)
          = _ :: (server.hostNews peer name ++ _ ++ _ ++ _)
        simp only [List.cons_append, List.append_assoc]
        rfl

/-! ### Leaving -/

/-- An entity after a player has left. -/
def freed (id : PlayerID) (entity : ServerEntity) : ServerEntity :=
  if entity.owner = id then { entity with owner := 0 } else entity

/-- A departure up to the message to the others. -/
def vacated (player : ConnectedPlayer) : GameServer :=
  (server.freeEntities player.id).saveOwned player (server.ownedIds player.id)

/-- A departure up to the choice of a new host. -/
def struck (player : ConnectedPlayer) : GameServer :=
  { server.vacated player with players := AList.erase player.id (server.vacated player).players }

/-- What everybody is told about the host when a player has left. -/
def successorNews (leavingId : PlayerID) : List Call :=
  if leavingId ≠ server.hostPlayerId then []
  else
    match server.players.toList with
    | [] => []
    | (id, _) :: _ => broadcast KMP_CHANNEL_RELIABLE_ORDERED (.hostAssignment id)

/-- The host after a player has left. -/
def successor (leavingId : PlayerID) : PlayerID :=
  if leavingId ≠ server.hostPlayerId then server.hostPlayerId
  else ((server.players.toList.head?).map Prod.fst).getD 0

/-- What the departure of a player does to the tables. -/
structure Removed (player : ConnectedPlayer) (before after : GameServer) : Prop where
  entities : ∀ eid, after.entities.lookup eid = (before.entities.lookup eid).map (freed player.id)
  size : after.entities.size = before.entities.size
  savedPlayers : ∀ other, after.savedPlayers.lookup other
    = if other = player.name ∧ before.ownedIds player.id ≠ [] then
        some ⟨player.name, before.ownedIds player.id⟩
      else before.savedPlayers.lookup other
  players : ∀ other, after.players.lookup other
    = if other = player.id then none else before.players.lookup other
  peers : after.peers = before.peers
  nextEntityId : after.nextEntityId = before.nextEntityId
  nextPlayerId : after.nextPlayerId = before.nextPlayerId
  time : after.timeOfDay = before.timeOfDay
  hostPlayerId : after.hostPlayerId = (before.struck player).successor player.id

theorem saveOwned_fields (player : ConnectedPlayer) (ids : List EntityID) :
    (server.saveOwned player ids).entities = server.entities
      ∧ (server.saveOwned player ids).players = server.players
      ∧ (server.saveOwned player ids).peers = server.peers
      ∧ (server.saveOwned player ids).nextEntityId = server.nextEntityId
      ∧ (server.saveOwned player ids).nextPlayerId = server.nextPlayerId
      ∧ (server.saveOwned player ids).timeOfDay = server.timeOfDay
      ∧ ∀ other, (server.saveOwned player ids).savedPlayers.lookup other
        = if other = player.name ∧ ids ≠ [] then some ⟨player.name, ids⟩
          else server.savedPlayers.lookup other := by
  unfold saveOwned
  split_ifs with none
  · exact ⟨rfl, rfl, rfl, rfl, rfl, rfl, fun other => by simp [none]⟩
  · refine ⟨rfl, rfl, rfl, rfl, rfl, rfl, fun other => ?_⟩
    show AList.lookup other (AList.insert player.name _ server.savedPlayers) = _
    rw [AMap.lookup_insert_eq]
    simp [none]

/-- The host after a departure: who was it, the first player of the walk, or nobody. -/
theorem successor_cases (leavingId : PlayerID) :
    (leavingId ≠ server.hostPlayerId ∧ server.successor leavingId = server.hostPlayerId
        ∧ server.successorNews leavingId = [])
      ∨ (leavingId = server.hostPlayerId ∧ server.players.toList = []
        ∧ server.successor leavingId = 0 ∧ server.successorNews leavingId = [])
      ∨ ∃ id player rest, leavingId = server.hostPlayerId
        ∧ server.players.toList = (id, player) :: rest ∧ server.successor leavingId = id
        ∧ server.successorNews leavingId
          = broadcast KMP_CHANNEL_RELIABLE_ORDERED (.hostAssignment id) := by
  unfold successor successorNews
  by_cases same : leavingId = server.hostPlayerId
  · simp only [ne_eq, same, not_true_eq_false, if_false, true_and, false_and, false_or]
    cases server.players.toList with
    | nil => exact Or.inl ⟨rfl, rfl, rfl⟩
    | cons first rest => exact Or.inr ⟨first.1, first.2, rest, rfl, rfl, rfl⟩
  · exact Or.inl ⟨same, if_pos same, if_pos same⟩

theorem reassignHost_fields (leavingId : PlayerID) :
    (server.reassignHost leavingId).1.entities = server.entities
      ∧ (server.reassignHost leavingId).1.players = server.players
      ∧ (server.reassignHost leavingId).1.peers = server.peers
      ∧ (server.reassignHost leavingId).1.savedPlayers = server.savedPlayers
      ∧ (server.reassignHost leavingId).1.nextEntityId = server.nextEntityId
      ∧ (server.reassignHost leavingId).1.nextPlayerId = server.nextPlayerId
      ∧ (server.reassignHost leavingId).1.timeOfDay = server.timeOfDay
      ∧ (server.reassignHost leavingId).1.hostPlayerId = server.successor leavingId
      ∧ ∃ line, Quiet line
        ∧ (server.reassignHost leavingId).2 = line ++ server.successorNews leavingId := by
  unfold reassignHost successor successorNews
  split_ifs
  · exact ⟨rfl, rfl, rfl, rfl, rfl, rfl, rfl, rfl, [], quiet_nil, rfl⟩
  · cases server.players.toList with
    | nil => exact ⟨rfl, rfl, rfl, rfl, rfl, rfl, rfl, rfl, [], quiet_nil, rfl⟩
    | cons first rest =>
      exact ⟨rfl, rfl, rfl, rfl, rfl, rfl, rfl, rfl, _, quiet_systemMessage _, rfl⟩

section Player

variable (player : ConnectedPlayer)

theorem removePlayer_fst :
    (server.removePlayer player).1 = ((server.struck player).reassignHost player.id).1 := rfl

theorem removePlayer_snd :
    (server.removePlayer player).2
      = (server.vacated player).broadcastExcept player.id KMP_CHANNEL_RELIABLE_ORDERED
          (.playerLeft player.id 0)
        ++ ((server.struck player).reassignHost player.id).2
        ++ broadcastSystemMessage (player.name ++ Wire.ascii " left the game") := rfl

theorem removePlayer_spec : Removed player server (server.removePlayer player).1 := by
  obtain ⟨entities, players, peers, nextEntity, nextPlayer, time, saved⟩ :=
    saveOwned_fields (server.freeEntities player.id) player (server.ownedIds player.id)
  obtain ⟨entities', players', peers', saved', nextEntity', nextPlayer', time', host', -⟩ :=
    reassignHost_fields (server.struck player) player.id
  rw [removePlayer_fst]
  refine ⟨fun eid => ?_, ?_, fun other => ?_, fun other => ?_, peers'.trans peers,
    nextEntity'.trans nextEntity, nextPlayer'.trans nextPlayer, time'.trans time, host'⟩
  · rw [entities']
    show AList.lookup eid (GameServer.entities (saveOwned _ _ _)) = _
    rw [entities]
    exact AMap.lookup_mapVals _ _ _
  · rw [entities']
    show AMap.size (GameServer.entities (saveOwned _ _ _)) = _
    rw [entities]
    exact AMap.size_mapVals _ _
  · rw [saved']
    exact saved other
  · rw [players']
    show AList.lookup other (AList.erase player.id (GameServer.players (saveOwned _ _ _))) = _
    rw [players, AMap.lookup_erase_eq]
    rfl

/-- The calls of a departure: the others are told, then everybody about the host, between quiet
lines. -/
theorem removePlayer_calls :
    ∃ first last, Quiet first ∧ Quiet last ∧ (server.removePlayer player).2
      = server.broadcastExcept player.id KMP_CHANNEL_RELIABLE_ORDERED (.playerLeft player.id 0)
        ++ first ++ (server.struck player).successorNews player.id ++ last := by
  obtain ⟨-, players, -⟩ :=
    saveOwned_fields (server.freeEntities player.id) player (server.ownedIds player.id)
  obtain ⟨-, -, -, -, -, -, -, -, line, quiet, told⟩ :=
    reassignHost_fields (server.struck player) player.id
  refine ⟨line, _, quiet, quiet_systemMessage (player.name ++ Wire.ascii " left the game"), ?_⟩
  have same : broadcastExcept (server.vacated player) player.id KMP_CHANNEL_RELIABLE_ORDERED
      (.playerLeft player.id 0)
      = server.broadcastExcept player.id KMP_CHANNEL_RELIABLE_ORDERED (.playerLeft player.id 0) := by
    unfold broadcastExcept
    rw [show (server.vacated player).players = server.players from players]
  rw [removePlayer_snd, same, told]
  simp only [List.append_assoc]

end Player

/-- What a player owns, by identifier. -/
theorem mem_ownedIds {id : PlayerID} {eid : EntityID} :
    eid ∈ server.ownedIds id ↔ ∃ entity, server.entities.lookup eid = some entity ∧ entity.owner = id := by
  unfold ownedIds
  rw [List.mem_filterMap]
  constructor
  · rintro ⟨⟨other, entity⟩, member, made⟩
    simp only at made
    split_ifs at made with owner
    cases made
    exact ⟨entity, AMap.mem_toList.mp member, owner⟩
  · rintro ⟨entity, stored, owner⟩
    refine ⟨(eid, entity), AMap.mem_toList.mpr stored, ?_⟩
    simp only
    rw [if_pos owner]

end GameServer

end KenshiMP
