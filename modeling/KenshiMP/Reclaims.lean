/-
**What becomes of the entities of a player who has left.**

They lose their owner and are listed in the saved record of the player's name (`Listed`), to be
claimed by the next player of that name. A record belongs to a name, and names are not unique: when
another player of the name leaves with entities of their own, the record is overwritten, and the
first player's entities are listed nowhere. Nothing else breaks the promise (`Listed.next`).
-/

import KenshiMP.Client.Packets
import KenshiMP.Invariants

namespace KenshiMP

open Wire (Bytes ascii)
open Assoc
open GameServer
open KenshiMP.System

/-! ### Saved records over one step -/

/-- The record of a name changes when a player joins or leaves under it. -/
theorem savedPlayers_next (sys : System) (event : Event) (name : Bytes) :
    (machine.next sys event).server.savedPlayers.lookup name = sys.server.savedPlayers.lookup name
      ∨ (∃ peer created, HandshakeAdmitted sys event peer name created)
      ∨ ∃ peer player, Leaves sys event peer player ∧ player.name = name
        ∧ sys.server.ownedIds player.id ≠ [] := by
  have saved {outcome : Links × Outcome} (reaction : Reaction sys event outcome) :
      outcome.2.1.savedPlayers.lookup name = sys.server.savedPlayers.lookup name
        ∨ (∃ peer created, HandshakeAdmitted sys event peer name created)
        ∨ ∃ peer player, Leaves sys event peer player ∧ player.name = name
          ∧ sys.server.ownedIds player.id ≠ [] := by
    cases reaction with
    | tend keeps => exact Or.inl (keeps.savedPlayers name)
    | cleanUp orphans keeps => exact Or.inl (keeps.savedPlayers name)
    | message received opened behind effect => exact Or.inl (effect.keeps.savedPlayers name)
    | @seatPlayer peer data channel env reader rest msg received opened read admitted =>
      by_cases same : name = sanitizeName msg.playerName.1
      · exact Or.inr (Or.inl ⟨peer, env.created, data, channel, env, reader, rest, msg, rfl, received,
          opened, read, admitted, same, rfl⟩)
      · have spec := seatPlayer_spec sys.server peer (sanitizeName msg.playerName.1) env.created
        exact Or.inl ((spec.savedPlayers name).trans (if_neg same))
    | @connect peer host roundTripTime absent =>
      refine Or.inl ?_
      unfold handleConnect
      split_ifs
      · rfl
      · rfl
    | @leave peer key player present behind =>
      by_cases renewed : name = player.name ∧ sys.server.ownedIds player.id ≠ []
      · exact Or.inr (Or.inr ⟨peer, player, ⟨rfl, present, key, behind⟩, renewed.1.symm, renewed.2⟩)
      · have spec := removePlayer_spec sys.server player
        exact Or.inl ((spec.savedPlayers name).trans (if_neg renewed))
    | depart present nobody => exact Or.inl rfl
  exact saved (sys.react_reaction event)

/-! ### Listed entities -/

/-- The entity has no owner, and the record of the name lists it. -/
structure Listed (server : GameServer) (id : EntityID) (name : Bytes) : Prop where
  unowned : ∃ entity, server.entities.lookup id = some entity ∧ entity.owner = 0
  saved : ∃ record, server.savedPlayers.lookup name = some record ∧ id ∈ record.entityIds

theorem Listed.savedIds {server : GameServer} {id : EntityID} {name : Bytes}
    (listed : Listed server id name) : id ∈ server.savedIds name := by
  obtain ⟨record, stored, inside⟩ := listed.saved
  unfold GameServer.savedIds
  rw [stored]
  exact inside

/-- The entity is neither erased nor claimed at this event. -/
structure LeftAlone (id : EntityID) (sys : System) (event : Event) : Prop where
  stays : ((machine.next sys event).server.entities.lookup id).isSome = true
  notClaimed : ∀ peer name created, HandshakeAdmitted sys event peer name created →
    id ∉ sys.server.savedIds name

/-- No player of the name leaves with entities of their own, and the identifier is not handed out
again. -/
structure Undisturbed (id : EntityID) (name : Bytes) (sys : System) (event : Event) : Prop where
  namesake : ∀ peer player, Leaves sys event peer player → player.name = name →
    sys.server.ownedIds player.id = []
  notReplaced : ∀ new, Created sys event new → sys.server.nextEntityId ≠ id

/-- **One step keeps the promise.** -/
theorem Listed.next {sys : System} {event : Event} {id : EntityID} {name : Bytes}
    (listed : Listed sys.server id name) (alone : LeftAlone id sys event)
    (undisturbed : Undisturbed id name sys event) :
    Listed (machine.next sys event).server id name := by
  obtain ⟨before, stored, unowned⟩ := listed.unowned
  constructor
  · obtain ⟨after, found⟩ := Option.isSome_iff_exists.mp alone.stays
    refine ⟨after, found, ?_⟩
    rcases (sys.next_descends event).origin id after found with
      ⟨old, same, change⟩ | ⟨same, created, -⟩
    · rw [stored] at same
      cases same
      cases change with
      | tend tended => exact tended.owner.trans unowned
      | claim admitted _ claimed => exact absurd claimed (alone.notClaimed _ _ _ admitted)
      | free => rfl
      | wound => exact unowned
      | strike => exact unowned
      | kill => exact unowned
    · exact absurd same.symm (undisturbed.notReplaced after created)
  · obtain ⟨record, kept, inside⟩ := listed.saved
    rcases savedPlayers_next sys event name with
      same | ⟨peer, created, admitted⟩ | ⟨peer, player, leaves, known, owns⟩
    · exact ⟨record, same.trans kept, inside⟩
    · exact absurd listed.savedIds (alone.notClaimed peer name created admitted)
    · exact absurd (undisturbed.namesake peer player leaves known) owns

/-- A player who leaves has all their entities listed. -/
theorem listed_of_leaves {sys : System} {event : Event} {peer : Peer} {player : ConnectedPlayer}
    (leaves : Leaves sys event peer player) {id : EntityID} {entity : ServerEntity}
    (stored : sys.server.entities.lookup id = some entity) (owned : entity.owner = player.id) :
    Listed (machine.next sys event).server id player.name := by
  obtain ⟨rfl, present, key, behind⟩ := leaves
  have spec := removePlayer_spec sys.server player
  have result : (machine.next sys (.disconnect peer)).server
      = (sys.server.removePlayer player).1.setPeerData peer 0 := by
    show (sys.react (.disconnect peer)).2.1 = _
    unfold react
    simp only
    rw [if_pos present]
    unfold handleDisconnect
    rw [behind]
  have mine : id ∈ sys.server.ownedIds player.id := (mem_ownedIds _).mpr ⟨entity, stored, owned⟩
  rw [result]
  constructor
  · refine ⟨{ entity with owner := 0 }, ?_, rfl⟩
    show (sys.server.removePlayer player).1.entities.lookup id = _
    rw [spec.entities, stored]
    show some (freed player.id entity) = _
    unfold freed
    rw [if_pos owned]
  · refine ⟨⟨player.name, sys.server.ownedIds player.id⟩, ?_, mine⟩
    show (sys.server.removePlayer player).1.savedPlayers.lookup player.name = _
    rw [spec.savedPlayers, if_pos ⟨rfl, List.ne_nil_of_mem mine⟩]

/-- An admitted handshake under the name makes the new player the owner. -/
theorem Listed.claimed {sys : System} {event : Event} {id : EntityID} {name : Bytes}
    (listed : Listed sys.server id name) {peer : Peer} {created : PacketCreation}
    (admitted : HandshakeAdmitted sys event peer name created) :
    (∃ entity, (machine.next sys event).server.entities.lookup id = some entity
        ∧ entity.owner = sys.server.nextPlayerId)
      ∧ (created.ack = true → created.faction = true →
        ((machine.next sys event).server.players.lookup sys.server.nextPlayerId).map
          ConnectedPlayer.identity = some (sys.server.nextPlayerId, name, peer)) := by
  obtain ⟨data, channel, env, reader, rest, msg, rfl, received, opened, read, admits, rfl, rfl⟩ :=
    admitted
  have spec := seatPlayer_spec sys.server peer (sanitizeName msg.playerName.1) env.created
  have result : (machine.next sys (.packet peer data channel env)).server
      = (sys.server.seatPlayer peer (sanitizeName msg.playerName.1) env.created).1 := by
    show (sys.react (.packet peer data channel env)).2.1 = _
    unfold react handlePacket
    simp only
    rw [if_pos received, opened]
    show (sys.server.handleHandshake peer reader env.created).1 = _
    rw [handleHandshake_admitted sys.server read admits]
  obtain ⟨entity, stored, unowned⟩ := listed.unowned
  rw [result]
  constructor
  · refine ⟨{ entity with owner := sys.server.nextPlayerId }, ?_, rfl⟩
    rw [spec.entities, stored]
    show some (GameServer.claimed _ _ _ _) = _
    unfold GameServer.claimed
    rw [if_pos ⟨unowned, listed.savedIds⟩]
  · intro ack faction
    rw [spec.players, if_pos rfl, ack, faction]
    rfl

/-- **No entity is stranded** as long as no other player of the name leaves with entities: in every
run after its owner has left, until it is erased or claimed, it stays listed, and the next handshake
of the name claims it. -/
theorem noneStranded {sys : System} {event : Event} {peer : Peer} {player : ConnectedPlayer}
    (leaves : Leaves sys event peer player) {id : EntityID} {entity : ServerEntity}
    (stored : sys.server.entities.lookup id = some entity) (owned : entity.owner = player.id)
    {events : List Event}
    (along : machine.Along
      (fun sys event => LeftAlone id sys event ∧ Undisturbed id player.name sys event)
      (machine.next sys event) events) :
    Listed (machine.run (machine.next sys event) events).server id player.name
      ∧ ∀ handshake slot created,
        HandshakeAdmitted (machine.run (machine.next sys event) events) handshake slot player.name
          created →
        (∃ entity, (machine.next (machine.run (machine.next sys event) events)
            handshake).server.entities.lookup id = some entity
          ∧ entity.owner = (machine.run (machine.next sys event) events).server.nextPlayerId)
        ∧ (created.ack = true → created.faction = true →
          ((machine.next (machine.run (machine.next sys event) events) handshake).server.players.lookup
            (machine.run (machine.next sys event) events).server.nextPlayerId).map
            ConnectedPlayer.identity
            = some ((machine.run (machine.next sys event) events).server.nextPlayerId, player.name,
              slot)) := by
  have listed := Machine.run_invariant
    (motive := fun sys => Listed sys.server id player.name)
    (fun sys event guard listed => listed.next guard.1 guard.2)
    (listed_of_leaves leaves stored owned) along
  exact ⟨listed, fun handshake slot created admitted => listed.claimed admitted⟩

/-! ### Two runs -/

/-- Two players of one name, each with a character. -/
def namesakes : System :=
  machine.run (boot {} none)
    (Client.joins 0 (ascii "Beep") ++ [Client.spawns 0 {}]
      ++ Client.joins 1 (ascii "Beep") ++ [Client.spawns 1 {}])

/-- The first of them leaves. -/
theorem namesakes_leaves : ∃ player entity, Leaves namesakes (.disconnect 0) 0 player
    ∧ player.name = ascii "Beep" ∧ namesakes.server.entities.lookup 1 = some entity
    ∧ entity.owner = player.id := by
  have known : (namesakes.server.getPlayer 0).map (fun found => (found.2.name, found.2.id))
      = some (ascii "Beep", 1) := by decide +kernel
  obtain ⟨⟨key, player⟩, behind, same⟩ := Option.map_eq_some_iff.mp known
  have owner : (namesakes.server.entities.lookup 1).map ServerEntity.owner = some 1 := by
    decide +kernel
  obtain ⟨entity, stored, owned⟩ := Option.map_eq_some_iff.mp owner
  exact ⟨player, entity, ⟨rfl, by decide +kernel, key, behind⟩, (Prod.mk.inj same).1, stored,
    owned.trans (Prod.mk.inj same).2.symm⟩

theorem noneStranded_namesakes :
    Listed (machine.run (machine.next namesakes (.disconnect 0)) [.updateBegin 50]).server 1
      (ascii "Beep") := by
  obtain ⟨player, entity, leaves, name, stored, owned⟩ := namesakes_leaves
  have along : machine.Along
      (fun sys event => LeftAlone 1 sys event ∧ Undisturbed 1 player.name sys event)
      (machine.next namesakes (.disconnect 0)) [.updateBegin 50] := by
    refine ⟨⟨⟨by decide +kernel, ?_⟩, ⟨?_, ?_⟩⟩, trivial⟩
    · exact fun peer name created admitted => absurd admitted (noHandshake (by simp))
    · rintro peer other ⟨same, -⟩
      cases same
    · exact fun new created => absurd created (noCreation (by simp))
  rw [← name]
  exact (noneStranded leaves stored owned along).1

/-- Then the second one leaves, and the character of the first is stranded: nobody owns it, the
record of the name does not list it, and the next player of the name does not get it. -/
theorem noneStranded_fails :
    (∃ player entity, Leaves namesakes (.disconnect 0) 0 player ∧ player.name = ascii "Beep"
        ∧ namesakes.server.entities.lookup 1 = some entity ∧ entity.owner = player.id)
      ∧ machine.Along (LeftAlone 1) (machine.next namesakes (.disconnect 0)) [.disconnect 1]
      ∧ ¬ Listed (machine.run (machine.next namesakes (.disconnect 0)) [.disconnect 1]).server 1
          (ascii "Beep")
      ∧ ((machine.run namesakes ([.disconnect 0, .disconnect 1]
          ++ Client.joins 2 (ascii "Beep"))).server.entities.lookup 1).map ServerEntity.owner
        = some 0 := by
  refine ⟨namesakes_leaves, ⟨⟨by decide +kernel, ?_⟩, trivial⟩, ?_, by decide +kernel⟩
  · exact fun peer name created admitted => absurd admitted (noHandshake (by simp))
  · intro listed
    have ids : ((machine.run (machine.next namesakes (.disconnect 0)) [.disconnect 1]).server.savedIds
        (ascii "Beep")) = [2] := by decide +kernel
    have inside := listed.savedIds
    rw [ids] at inside
    exact absurd inside (by decide)

end KenshiMP
