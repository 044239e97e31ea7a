/-
**What a handshake that fails midway leaves behind.**

When the acknowledgement or the faction packet cannot be created, the handler erases the player and
clears the slot. The entities that were already given to the player, the saved record that was used
up and the host it has become are not restored (`failedHandshake_iff`: they are right when there was
nothing to restore). If that is so at every failed handshake, owners and host are always connected
players (`Settled.next`).
-/

import KenshiMP.Attendance
import KenshiMP.Client.Packets

namespace KenshiMP

open Wire (Bytes ascii)
open Assoc
open GameServer
open Persistence
open KenshiMP.System

/-! ### One failed handshake -/

/-- The slot is connected from the machine the server runs on. -/
def isLoopbackPeer (server : GameServer) (peer : Peer) : Bool :=
  ((server.peers.lookup peer).map fun slot => isLoopbackAddress slot.host).getD false

/-- The packet has changed no player, no owner, no saved record, not the host and not the slot. -/
structure Undone (peer : Peer) (before after : GameServer) : Prop where
  players : ∀ id, after.players.lookup id = before.players.lookup id
  owners : ∀ id, (after.entities.lookup id).map ServerEntity.owner
    = (before.entities.lookup id).map ServerEntity.owner
  savedPlayers : ∀ name, after.savedPlayers.lookup name = before.savedPlayers.lookup name
  hostPlayerId : after.hostPlayerId = before.hostPlayerId
  peerData : after.peerData peer = before.peerData peer

/-- The next number is nobody's, nothing is saved under the name, and the host stays: there is one,
and it is not a player from elsewhere whom a player from here overrides. -/
structure Harmless (server : GameServer) (peer : Peer) (name : Bytes) : Prop where
  unused : server.players.lookup server.nextPlayerId = none
  unsaved : server.savedPlayers.lookup name = none
  hosted : server.hostPlayerId = 0 → server.nextPlayerId = 0
  notOverridden : isLoopbackPeer server peer = true →
    ∀ host, server.players.lookup server.hostPlayerId = some host → host.isLoopback = true

/-- When the host moves at an admission under an unused number. -/
theorem movesHost_iff {server : GameServer} {peer : Peer} {name : Bytes}
    (unused : server.players.lookup server.nextPlayerId = none) :
    server.movesHost peer name = true ↔ server.hostPlayerId = 0
      ∨ (isLoopbackPeer server peer = true
        ∧ ∃ host, server.players.lookup server.hostPlayerId = some host
          ∧ host.isLoopback = false) := by
  rw [movesHost_eq server unused, hostChanges_eq, Bool.or_eq_true, Bool.and_eq_true,
    decide_eq_true_eq, show (server.newPlayer peer name).isLoopback = isLoopbackPeer server peer
      from rfl]
  refine or_congr_right (and_congr_right fun _ => ?_)
  cases server.players.lookup server.hostPlayerId with
  | none => simp
  | some host => simp

theorem undone_iff {server : GameServer} {peer : Peer} {name : Bytes} {created : PacketCreation}
    (fails : (created.ack && created.faction) = false) (free : server.peerData peer = 0) :
    Undone peer server (server.seatPlayer peer name created).1 ↔ Harmless server peer name := by
  have spec := seatPlayer_spec server peer name created
  have gone : (server.seatPlayer peer name created).1.players.lookup server.nextPlayerId = none := by
    have known := spec.players server.nextPlayerId
    rw [if_pos rfl, fails] at known
    exact Option.map_eq_none_iff.mp known
  constructor
  · intro undone
    have unused : server.players.lookup server.nextPlayerId = none :=
      (undone.players server.nextPlayerId).symm.trans gone
    have host := spec.hostPlayerId
    rw [undone.hostPlayerId] at host
    refine ⟨unused, ?_, fun nobody => ?_, fun here other stored => ?_⟩
    · rw [← undone.savedPlayers name, spec.savedPlayers, if_pos rfl]
    · rw [if_pos ((movesHost_iff unused).mpr (Or.inl nobody)), nobody] at host
      exact host.symm
    · by_contra elsewhere
      rw [Bool.not_eq_true] at elsewhere
      -- the host would have become the new player, whose number is nobody's
      rw [if_pos ((movesHost_iff unused).mpr (Or.inr ⟨here, other, stored, elsewhere⟩))] at host
      rw [host, unused] at stored
      cases stored
  · intro harmless
    have nothing : server.savedIds name = [] := by
      unfold GameServer.savedIds
      rw [harmless.unsaved]
      rfl
    refine ⟨fun id => ?_, fun id => ?_, fun other => ?_, ?_, ?_⟩
    · by_cases same : id = server.nextPlayerId
      · rw [same, gone, harmless.unused]
      · exact spec.others id same
    · rw [spec.entities, nothing, Option.map_map]
      congr 1
      funext entity
      show (claimed _ _ _ entity).owner = entity.owner
      unfold claimed
      rw [if_neg fun listed => List.not_mem_nil listed.2]
    · rw [spec.savedPlayers]
      split_ifs with same
      · rw [same, harmless.unsaved]
      · rfl
    · rw [spec.hostPlayerId]
      split_ifs with moves
      · rcases (movesHost_iff harmless.unused).mp moves with nobody | ⟨here, host, stored, elsewhere⟩
        · rw [nobody]
          exact harmless.hosted nobody
        · rw [harmless.notOverridden here host stored] at elsewhere
          cases elsewhere
      · rfl
    · rw [spec.peerData, fails, if_neg Bool.false_ne_true, free]
      split_ifs
      · rfl
      · rfl

/-! ### Runs -/

/-- Every owner is nobody or a connected player, and so is the host. -/
structure Settled (server : GameServer) : Prop where
  owners : ∀ id entity, server.entities.lookup id = some entity →
    entity.owner = 0 ∨ (server.players.lookup entity.owner).isSome = true
  host : server.hostPlayerId = 0 ∨ (server.players.lookup server.hostPlayerId).isSome = true

/-- A handshake that fails at this event is harmless. -/
def FailsHarmlessly (sys : System) (event : Event) : Prop :=
  ∀ peer name created, HandshakeAdmitted sys event peer name created →
    (created.ack && created.faction) = false → Harmless sys.server peer name

theorem boot_settled (config : ServerConfig) (file : Option Json.Value) :
    Settled (boot config file).server := by
  refine ⟨fun id entity stored => Or.inl ?_, Or.inl ?_⟩
  · obtain ⟨-, e, read⟩ := boot_reads stored
    obtain ⟨-, -, -, -, owner⟩ := read.fields
    exact owner
  · obtain ⟨-, -, -, -, -, -, -, host⟩ := loadWorld_fields { config := config } file
    exact host

/-- A message of a player makes nobody an owner but the player. -/
theorem Effect.owner {server : GameServer} {player : ConnectedPlayer} {type : MessageType}
    {reader : PacketReader} {outcome : Outcome} (effect : Effect server player type reader outcome)
    {id : EntityID} {entity : ServerEntity} (stored : outcome.1.entities.lookup id = some entity) :
    entity.owner = player.id ∨ ∃ old, server.entities.lookup id = some old ∧ entity.owner = old.owner := by
  have modified {key : EntityID} {f : ServerEntity → ServerEntity}
      (stored : (server.updateEntity key f).entities.lookup id = some entity)
      (same : ∀ old, server.entities.lookup key = some old → (f old).owner = old.owner) :
      ∃ old, server.entities.lookup id = some old ∧ entity.owner = old.owner := by
    have there : AList.lookup id (AMap.modify key f server.entities) = some entity := stored
    rw [AMap.lookup_modify] at there
    obtain ⟨old, found, rfl⟩ := Option.map_eq_some_iff.mp there
    refine ⟨old, found, ?_⟩
    split_ifs with here
    · exact same old (here ▸ found)
    · rfl
  have inserted {key : EntityID} {new : ServerEntity} (owner : new.owner = player.id)
      (stored : AList.lookup id (AList.insert key new server.entities) = some entity) :
      entity.owner = player.id
        ∨ ∃ old, server.entities.lookup id = some old ∧ entity.owner = old.owner := by
    rw [AMap.lookup_insert_eq] at stored
    split_ifs at stored
    · cases stored
      exact Or.inl owner
    · exact Or.inr ⟨entity, stored, rfl⟩
  have erased {key : EntityID}
      (stored : AList.lookup id (AList.erase key server.entities) = some entity) :
      ∃ old, server.entities.lookup id = some old ∧ entity.owner = old.owner := by
    rw [AMap.lookup_erase_eq] at stored
    split_ifs at stored
    exact ⟨entity, stored, rfl⟩
  cases effect with
  | tend keeps entities next quiet =>
    obtain ⟨old, found, tended⟩ := entities.back stored
    exact Or.inr ⟨old, found, tended.owner⟩
  | announce => exact Or.inr ⟨entity, stored, rfl⟩
  | wound read may quiet => exact Or.inr (modified stored fun _ _ => rfl)
  | strike dice commands target alive =>
    refine Or.inr (modified stored fun old found => ?_)
    rw [target] at found
    cases found
    rfl
  | kill => exact Or.inr (modified stored fun _ _ => rfl)
  | @spawn reader after request read accepted keeps entities next =>
    rw [entities] at stored
    refine inserted ?_ stored
    unfold SpawnRequest.entity spawnedEntity
    simp only
    cases request.extended with
    | none => rfl
    | some extended => rfl
  | build => exact inserted rfl stored
  | despawn => exact Or.inr (erased stored)
  | dismantle => exact Or.inr (erased stored)

/-- Owners that were connected players still are, and the host still is. -/
theorem Settled.keeps {before after : GameServer} (settled : Settled before)
    (owners : ∀ id entity, after.entities.lookup id = some entity →
      (before.players.lookup entity.owner).isSome = true
        ∨ ∃ old, before.entities.lookup id = some old ∧ entity.owner = old.owner)
    (players : ∀ id, (after.players.lookup id).isNone = (before.players.lookup id).isNone)
    (host : after.hostPlayerId = before.hostPlayerId) : Settled after := by
  have present {id : PlayerID} (there : (before.players.lookup id).isSome = true) :
      (after.players.lookup id).isSome = true := by
    rw [← Option.not_isNone, players, Option.not_isNone]
    exact there
  refine ⟨fun id entity stored => ?_, ?_⟩
  · rcases owners id entity stored with there | ⟨old, found, same⟩
    · exact Or.inr (present there)
    · rw [same]
      exact (settled.owners id old found).imp_right present
  · rw [host]
    exact settled.host.imp_right present

/-- Entities that are related have the owners they had. -/
theorem owner_of_related {before after : AMap EntityID ServerEntity}
    (related : Related Tended before after) {id : EntityID} {entity : ServerEntity}
    (stored : after.lookup id = some entity) :
    ∃ old, before.lookup id = some old ∧ entity.owner = old.owner := by
  obtain ⟨old, found, tended⟩ := related.back stored
  exact ⟨old, found, tended.owner⟩

/-- A handshake that succeeds, or fails harmlessly. -/
theorem Settled.seatPlayer {server : GameServer} (settled : Settled server) {peer : Peer} {name : Bytes}
    {created : PacketCreation} (free : server.peerData peer = 0)
    (fails : (created.ack && created.faction) = false → Harmless server peer name) :
    Settled (server.seatPlayer peer name created).1 := by
  have spec := seatPlayer_spec server peer name created
  by_cases created' : (created.ack && created.faction) = true
  · have present {id : PlayerID} (there : id = server.nextPlayerId
        ∨ (server.players.lookup id).isSome = true) :
        ((server.seatPlayer peer name created).1.players.lookup id).isSome = true := by
      by_cases same : id = server.nextPlayerId
      · have known := spec.players id
        rw [if_pos same, created', if_pos rfl] at known
        rw [← Option.isSome_map (f := ConnectedPlayer.identity), known]
        rfl
      · rw [spec.others id same]
        exact there.resolve_left same
    refine ⟨fun id entity stored => ?_, ?_⟩
    · rw [spec.entities] at stored
      obtain ⟨old, found, rfl⟩ := Option.map_eq_some_iff.mp stored
      by_cases claims : old.owner = 0 ∧ id ∈ server.savedIds name
      · rw [show claimed server.nextPlayerId (server.savedIds name) id old
          = { old with owner := server.nextPlayerId } from if_pos claims]
        exact Or.inr (present (Or.inl rfl))
      · rw [show claimed server.nextPlayerId (server.savedIds name) id old = old from if_neg claims]
        exact (settled.owners id old found).imp_right fun there => present (Or.inr there)
    · rw [spec.hostPlayerId]
      cases server.movesHost peer name with
      | true => exact Or.inr (present (Or.inl rfl))
      | false => exact settled.host.imp_right fun there => present (Or.inr there)
  · rw [Bool.not_eq_true] at created'
    have undone := (undone_iff created' free).mpr (fails created')
    refine settled.keeps (fun id entity stored => Or.inr ?_) (fun id => by rw [undone.players])
      undone.hostPlayerId
    have same := undone.owners id
    rw [stored] at same
    obtain ⟨old, found, owner⟩ := Option.map_eq_some_iff.mp same.symm
    exact ⟨old, found, owner.symm⟩

/-- A departure frees the player's entities, and the host is somebody who is still there. -/
theorem Settled.remove {server : GameServer} (settled : Settled server) (player : ConnectedPlayer) :
    Settled (server.removePlayer player).1 := by
  have spec := removePlayer_spec server player
  have present {id : PlayerID} (other : id ≠ player.id)
      (there : (server.players.lookup id).isSome = true) :
      ((server.removePlayer player).1.players.lookup id).isSome = true := by
    rw [spec.players, if_neg other]
    exact there
  have walked : (server.removePlayer player).1.players = (server.struck player).players :=
    (reassignHost_fields (server.struck player) player.id).2.1
  have host : (server.struck player).hostPlayerId = server.hostPlayerId := by
    show (GameServer.saveOwned _ _ _).hostPlayerId = _
    unfold saveOwned
    split_ifs
    · rfl
    · rfl
  refine ⟨fun id entity stored => ?_, ?_⟩
  · rw [spec.entities] at stored
    obtain ⟨old, found, rfl⟩ := Option.map_eq_some_iff.mp stored
    by_cases owned : old.owner = player.id
    · rw [show freed player.id old = { old with owner := 0 } from if_pos owned]
      exact Or.inl rfl
    · rw [show freed player.id old = old from if_neg owned]
      exact (settled.owners id old found).imp_right (present owned)
  · rw [spec.hostPlayerId]
    rcases (server.struck player).successor_cases player.id with
      ⟨other, same, -⟩ | ⟨-, -, nobody, -⟩ | ⟨id, first, rest, -, walk, same, -⟩
    · rw [same, host]
      rw [host] at other
      exact settled.host.imp_right (present (Ne.symm other))
    · exact Or.inl nobody
    · refine Or.inr ?_
      have stored : (server.struck player).players.lookup id = some first :=
        AMap.mem_toList.mp (walk ▸ List.mem_cons_self)
      rw [same, walked, stored]
      rfl

/-- **One step.** -/
theorem Settled.next {sys : System} (settled : Settled sys.server) (keyed : PlayersKeyed sys.server)
    {event : Event} (harmless : FailsHarmlessly sys event) :
    Settled (machine.next sys event).server := by
  have reacted {outcome : Links × Outcome} (reaction : Reaction sys event outcome) : Settled outcome.2.1 := by
    cases reaction with
    | tend keeps entities next quiet =>
      exact settled.keeps (fun id entity stored => Or.inr (owner_of_related entities stored))
        keeps.isNone keeps.hostPlayerId
    | cleanUp orphans keeps entities next quiet =>
      refine settled.keeps (fun id entity stored => Or.inr ⟨entity, ?_, rfl⟩) keeps.isNone
        keeps.hostPlayerId
      rw [entities, AMap.lookup_eraseAll] at stored
      split_ifs at stored
      exact stored
    | @message peer data channel env type reader key player outcome received opened behind effect =>
      obtain ⟨stored, same, -⟩ := lookup_of_getPlayer keyed behind
      refine settled.keeps (fun id entity found => (effect.owner found).imp_left fun owner => ?_)
        effect.keeps.isNone effect.keeps.hostPlayerId
      rw [owner, same, stored]
      rfl
    | @seatPlayer peer data channel env reader rest msg received opened read admitted =>
      refine settled.seatPlayer ?_ fun fails => harmless peer _ env.created
        ⟨data, channel, env, reader, rest, msg, rfl, received, opened, read, admitted, rfl, rfl⟩ fails
      unfold admits at admitted
      simp only [Bool.and_eq_true, decide_eq_true_eq] at admitted
      exact admitted.1.1
    | @connect peer host roundTripTime absent =>
      unfold handleConnect
      split_ifs
      · exact ⟨settled.owners, settled.host⟩
      · exact ⟨settled.owners, settled.host⟩
    | @leave peer key player present behind =>
      exact ⟨(settled.remove player).owners, (settled.remove player).host⟩
    | depart present nobody => exact ⟨settled.owners, settled.host⟩
  exact reacted (sys.react_reaction event)

/-- **A failed handshake changes nothing exactly when there was nothing to restore**, and in every
run whose failed handshakes are like that, every owner and the host are nobody or a connected
player. -/
theorem failedHandshake (server : GameServer) (peer : Peer) {reader rest : PacketReader}
    {msg : MsgHandshake} (read : reader.readRaw MsgHandshake.codec = some (msg, rest))
    (admitted : server.admits peer msg = true) {created : PacketCreation}
    (fails : (created.ack && created.faction) = false) :
    (Undone peer server (server.handleHandshake peer reader created).1
        ↔ Harmless server peer (sanitizeName msg.playerName.1))
      ∧ ∀ config file events, machine.Along FailsHarmlessly (boot config file) events →
        Settled (machine.run (boot config file) events).server := by
  refine ⟨?_, fun config file events along => ?_⟩
  · rw [handleHandshake_admitted server read admitted]
    refine undone_iff fails ?_
    unfold admits at admitted
    simp only [Bool.and_eq_true, decide_eq_true_eq] at admitted
    exact admitted.1.1
  · have both := Machine.run_invariant
      (motive := fun sys => Settled sys.server ∧ PlayersKeyed sys.server)
      (fun sys event harmless both =>
        ⟨both.1.next both.2 harmless, both.2.next (sys.react_reaction event)⟩)
      ⟨boot_settled config file, Reachable.playersKeyed ⟨config, file, [], rfl⟩⟩ along
    exact both.1

/-! ### Two handshakes -/

/-- A player has left their character behind, and has connected again. -/
def returning : System :=
  machine.run (boot {} none)
    (Client.joins 0 (ascii "Beep") ++ [Client.spawns 0 {}, .disconnect 0, .connect 0 0 0])

/-- A handshake whose faction packet cannot be created. -/
def failsToJoin (peer : Peer) (playerName : Bytes) : Event :=
  .packet peer (Client.handshake playerName) KMP_CHANNEL_RELIABLE_ORDERED
    { created := { faction := false } }

/-- The second handshake of a player fails: nobody is connected, and yet the character has an owner
and the server a host. -/
theorem failedHandshake_fails :
    Reachable returning
      ∧ (∃ reader rest msg, openPacket (Client.handshake (ascii "Beep")) KMP_CHANNEL_RELIABLE_ORDERED
            = some (.C2S_Handshake, reader)
          ∧ reader.readRaw MsgHandshake.codec = some (msg, rest)
          ∧ returning.server.admits 0 msg = true
          ∧ ¬ Undone 0 returning.server
            (returning.server.handleHandshake 0 reader { faction := false }).1)
      ∧ ((machine.next returning (failsToJoin 0 (ascii "Beep"))).server.entities.lookup 1).map
          ServerEntity.owner = some 2
      ∧ ¬ Settled (machine.next returning (failsToJoin 0 (ascii "Beep"))).server := by
  obtain ⟨reader, rest, opened, read⟩ := Client.handshake_read (ascii "Beep")
  have admitted : returning.server.admits 0
      ⟨KMP_PROTOCOL_VERSION, Client.charArray 32 (ascii "Beep"), 1, 0, 68, 0⟩ = true := by
    decide +kernel
  refine ⟨⟨{}, none, _, rfl⟩, ⟨reader, rest, _, opened, read, admitted, fun undone => ?_⟩,
    by decide +kernel, fun settled => ?_⟩
  · rw [handleHandshake_admitted _ read admitted] at undone
    exact absurd undone.hostPlayerId (by decide +kernel)
  · exact absurd settled.host (by decide +kernel)

/-- A newcomer's first handshake fails beside a player, and nothing is left of it. -/
theorem failedHandshake_newcomer :
    (∃ reader, openPacket (Client.handshake (ascii "Bo")) KMP_CHANNEL_RELIABLE_ORDERED
          = some (.C2S_Handshake, reader)
        ∧ Undone 1 (machine.run (boot {} none) (Client.joins 0 (ascii "Beep")
            ++ [.connect 1 0 0])).server
          ((machine.run (boot {} none) (Client.joins 0 (ascii "Beep")
            ++ [.connect 1 0 0])).server.handleHandshake 1 reader { faction := false }).1)
      ∧ Settled (machine.run (boot {} none) (Client.joins 0 (ascii "Beep")
        ++ [.connect 1 0 0, failsToJoin 1 (ascii "Bo")])).server := by
  set beside := machine.run (boot {} none) (Client.joins 0 (ascii "Beep") ++ [.connect 1 0 0])
    with besideEq
  have harmless (name : Bytes) : Harmless beside.server 1 name := by
    have empty : beside.server.savedPlayers.entries = [] := by decide +kernel
    refine ⟨by decide +kernel, ?_, by decide +kernel, fun here => absurd here (by decide +kernel)⟩
    show List.dlookup name beside.server.savedPlayers.entries = none
    rw [empty]
    rfl
  obtain ⟨reader, rest, opened, read⟩ := Client.handshake_read (ascii "Bo")
  have both := failedHandshake beside.server 1 read (by decide +kernel)
    (show (({ faction := false } : PacketCreation).ack
      && ({ faction := false } : PacketCreation).faction) = false from rfl)
  constructor
  · exact ⟨reader, opened, both.1.mpr (harmless _)⟩
  · refine both.2 {} none _ ⟨?_, ?_, ?_, ?_, trivial⟩
    · exact fun peer name created admitted => absurd admitted (noHandshake (by simp))
    · rintro peer name created ⟨data, channel, env, -, -, -, same, -, -, -, -, -, rfl⟩ fails
      cases same
      cases fails
    · exact fun peer name created admitted => absurd admitted (noHandshake (by simp))
    · rintro peer name created ⟨data, channel, env, -, -, -, same, -⟩ -
      cases same
      exact harmless name

end KenshiMP
