/-
**Whether a death is final, and announced once.**

An entity that stays stored can only lose its life: `Reaction.death` weighs the announcements of a
step against the life it takes, and no step touches the health of the dead. Only one thing brings a
dead identifier back to life, a new entity stored under it; a run in which new entities get unused
identifiers never does that (`deathIsFinal`).
-/

import KenshiMP.Client.Packets
import KenshiMP.Invariants

namespace KenshiMP

open Wire (Bytes ascii)
open Assoc
open GameServer
open Persistence
open KenshiMP.System

/-! ### Announcements -/

/-- The call announces the death of this entity. -/
def Call.announcesDeath (id : EntityID) : Call → Bool
  | .broadcast packet | .send _ packet =>
    match packet.msg with
    | .combatDeath msg => msg.entityId = id
    | _ => false
  | .disconnect _ | .disconnectLater _ => false

def deaths (id : EntityID) (calls : List Call) : Nat := calls.countP (Call.announcesDeath id)

theorem announcesDeath_of_quiet {call : Call} (noNews : call.isNews = false) (id : EntityID) :
    call.announcesDeath id = false := by
  cases call with
  | broadcast packet =>
    obtain ⟨channel, reliable, msg⟩ := packet
    cases msg with
    | combatDeath msg => cases noNews
    | _ => rfl
  | send peer packet =>
    obtain ⟨channel, reliable, msg⟩ := packet
    cases msg with
    | combatDeath msg => cases noNews
    | _ => rfl
  | disconnect peer => rfl
  | disconnectLater peer => rfl

variable {calls : List Call}

theorem deaths_eq_zero {id : EntityID}
    (none : ∀ call ∈ calls, call.announcesDeath id = false) : deaths id calls = 0 := by
  unfold deaths
  rw [List.countP_eq_zero]
  intro call inside
  rw [none call inside]
  exact Bool.false_ne_true

theorem deaths_quiet (quiet : Quiet calls) (id : EntityID) : deaths id calls = 0 :=
  deaths_eq_zero fun call inside => announcesDeath_of_quiet (quiet call inside) id

theorem deaths_append (id : EntityID) (first second : List Call) :
    deaths id (first ++ second) = deaths id first + deaths id second := List.countP_append

theorem deaths_broadcastExcept (server : GameServer) (exclude : PlayerID) (channel : Nat) {msg : S2C}
    {id : EntityID} (other : ∀ peer, (Call.send peer ⟨channel, true, msg⟩).announcesDeath id = false) :
    deaths id (server.broadcastExcept exclude channel msg) = 0 := by
  refine deaths_eq_zero fun call inside => ?_
  obtain ⟨⟨key, player⟩, -, made⟩ := List.mem_filterMap.mp inside
  simp only at made
  split_ifs at made
  cases made
  exact other player.peer

/-! ### Life -/

/-- One for the living. -/
def life (entity : ServerEntity) : Nat := if entity.alive then 1 else 0

theorem life_of_alive {before after : ServerEntity} (same : after.alive = before.alive) :
    life after = life before := by
  unfold life
  rw [same]

/-- A step announces no more deaths of an entity than the lives it takes, and leaves the health of
the dead alone. -/
structure Mortal (id : EntityID) (calls : List Call) (before after : ServerEntity) : Prop where
  once : deaths id calls + life after ≤ life before
  health : before.alive = false → after.health = before.health

theorem mortal_of_tended {id : EntityID} {before after : ServerEntity}
    (silent : deaths id calls = 0) (alive : after.alive = before.alive)
    (health : after.health = before.health) : Mortal id calls before after := by
  refine ⟨?_, fun _ => health⟩
  rw [silent, life_of_alive alive, Nat.zero_add]

/-- The entity under one key is replaced, all others stay. -/
theorem mortal_modify {server : GameServer} {key id : EntityID}
    {f : ServerEntity → ServerEntity} {before after : ServerEntity}
    (stored : server.entities.lookup id = some before)
    (found : (server.updateEntity key f).entities.lookup id = some after)
    (silent : id ≠ key → deaths id calls = 0)
    (hit : id = key → Mortal id calls before (f before)) : Mortal id calls before after := by
  have modified : AList.lookup id (AMap.modify key f server.entities) = some after := found
  rw [AMap.lookup_modify, stored] at modified
  cases modified
  split_ifs with same
  · exact hit same
  · exact mortal_of_tended (silent same) rfl rfl

/-- Nothing happens to a stored entity when another one is erased. -/
theorem mortal_erase {server : GameServer} {key id : EntityID}
    {before after : ServerEntity} (stored : server.entities.lookup id = some before)
    (found : AList.lookup id (AList.erase key server.entities) = some after)
    (silent : deaths id calls = 0) : Mortal id calls before after := by
  rw [AMap.lookup_erase_eq] at found
  split_ifs at found
  rw [stored] at found
  cases found
  exact mortal_of_tended silent rfl rfl

/-- A new entity gets an unused identifier. -/
theorem mortal_insert {server : GameServer} {new : ServerEntity} {id : EntityID}
    {before after : ServerEntity} (stored : server.entities.lookup id = some before)
    (unused : server.entities.lookup server.nextEntityId = none)
    (found : AList.lookup id (AList.insert server.nextEntityId new server.entities) = some after)
    (silent : deaths id calls = 0) : Mortal id calls before after := by
  rw [AMap.lookup_insert_eq] at found
  split_ifs at found with same
  · rw [same, unused] at stored
    cases stored
  · rw [stored] at found
    cases found
    exact mortal_of_tended silent rfl rfl

/-- New entities get unused identifiers at this event. -/
def NextUnused (sys : System) (event : Event) : Prop :=
  ∀ new, Created sys event new → sys.server.entities.lookup sys.server.nextEntityId = none

variable {sys : System} {event : Event} {id : EntityID} {before after : ServerEntity}

/-- An attack that kills takes the life it announces. -/
theorem mortal_strike (dice : Dice) (msg : MsgAttackIntent) (alive : before.alive = true) :
    Mortal msg.targetId (attackMessages msg (resolveCombat before dice).1) before
      (resolveCombat before dice).2 := by
  refine ⟨?_, fun dead => ?_⟩
  · unfold attackMessages
    rw [deaths_append]
    have full : life before = 1 := by
      unfold life
      rw [if_pos alive]
    have hit (channel : Nat) (result : MsgCombatHit) :
        deaths msg.targetId (broadcast channel (.combatHit result)) = 0 :=
      deaths_quiet (quiet_broadcast _ rfl) _
    rw [hit, full, Nat.zero_add]
    cases killed : (resolveCombat before dice).1.wasDeath with
    | true =>
      have dead : (resolveCombat before dice).2.alive = false := by
        show (if (resolveCombat before dice).1.wasDeath then false else before.alive) = false
        rw [killed]
        rfl
      have gone : life (resolveCombat before dice).2 = 0 := by
        unfold life
        rw [dead]
        rfl
      rw [if_pos rfl, gone]
      exact List.countP_le_length
    | false =>
      rw [if_neg Bool.false_ne_true]
      have bound : life (resolveCombat before dice).2 ≤ 1 := by
        unfold life
        split_ifs
        · exact Nat.le_refl 1
        · exact Nat.zero_le 1
      have none : deaths msg.targetId (if (resolveCombat before dice).1.wasKO = true then
          broadcast KMP_CHANNEL_RELIABLE_ORDERED (.combatKO ⟨msg.targetId, msg.attackerId,
            UInt8.ofNat (resolveCombat before dice).1.hitPart.val,
            (resolveCombat before dice).1.resultHealth⟩) else []) = 0 := by
        split_ifs
        · exact deaths_quiet (quiet_broadcast _ rfl) _
        · rfl
      rw [none, Nat.zero_add]
      exact bound
  · rw [alive] at dead
    cases dead

/-- The attack on one entity announces no other's death. -/
theorem deaths_attackMessages {msg : MsgAttackIntent} (other : id ≠ msg.targetId)
    (result : CombatResult) : deaths id (attackMessages msg result) = 0 := by
  have different : (Call.broadcast ⟨KMP_CHANNEL_RELIABLE_ORDERED, true,
      .combatDeath ⟨msg.targetId, msg.attackerId⟩⟩).announcesDeath id = false :=
    decide_eq_false (Ne.symm other)
  unfold attackMessages
  rw [deaths_append, deaths_quiet (quiet_broadcast _ rfl), Nat.zero_add]
  split_ifs
  · refine deaths_eq_zero fun call inside => ?_
    rw [List.mem_singleton.mp inside]
    exact different
  · exact deaths_quiet (quiet_broadcast _ rfl) _
  · rfl

theorem Effect.death {player : ConnectedPlayer} {type : MessageType} {reader : PacketReader}
    {outcome : Outcome} (effect : Effect sys.server player type reader outcome)
    (unused : (type = .C2S_EntitySpawnReq → ∀ request, readSpawnRequest reader = some request →
        sys.server.acceptsSpawn request = true →
        sys.server.entities.lookup sys.server.nextEntityId = none)
      ∧ (type = .C2S_BuildRequest → ∀ msg rest, reader.readRaw MsgBuildRequest.codec = some (msg, rest) →
        acceptsBuild player msg = true →
        sys.server.entities.lookup sys.server.nextEntityId = none))
    (stored : sys.server.entities.lookup id = some before)
    (found : outcome.1.entities.lookup id = some after) :
    Mortal id outcome.2 before after := by
  cases effect with
  | tend keeps entities next quiet =>
    obtain ⟨old, same, tended⟩ := entities.back found
    rw [stored] at same
    cases same
    exact mortal_of_tended (deaths_quiet quiet id) tended.alive tended.health
  | announce announced =>
    rw [stored] at found
    cases found
    refine mortal_of_tended (deaths_eq_zero fun call inside => ?_) rfl rfl
    obtain ⟨-, entity, -, -, rfl⟩ := announced call inside
    rfl
  | wound read may quiet =>
    refine mortal_modify stored found (fun _ => deaths_quiet quiet id) fun same => ?_
    have alive : before.alive = true := alive_of_mayReport _ _ may (same ▸ stored)
    refine ⟨?_, fun dead => ?_⟩
    · rw [deaths_quiet quiet id, Nat.zero_add]
      exact Nat.le_refl (life before)
    · rw [alive] at dead
      cases dead
  | strike dice commands target alive =>
    refine mortal_modify stored found (fun other => deaths_attackMessages other _) fun same => ?_
    subst same
    rw [stored] at target
    cases target
    exact mortal_strike dice _ alive
  | @kill reader msg may =>
    refine mortal_modify stored found (fun other => ?_) fun same => ?_
    · exact deaths_eq_zero fun call inside => by
        rw [List.mem_singleton.mp inside]
        exact decide_eq_false (Ne.symm other)
    · have alive : before.alive = true := alive_of_mayReport _ _ may (same ▸ stored)
      refine ⟨?_, fun _ => rfl⟩
      have full : life before = 1 := by
        unfold life
        rw [if_pos alive]
      rw [full]
      exact List.countP_le_length
  | spawn read accepted keeps entities next =>
    rw [entities] at found
    exact mortal_insert stored (unused.1 rfl _ read accepted) found rfl
  | build read accepted =>
    exact mortal_insert stored (unused.2 rfl _ _ read accepted) found
      (deaths_broadcastExcept _ _ _ fun _ => rfl)
  | despawn reason target owner => exact mortal_erase stored found rfl
  | dismantle read target allowed =>
    exact mortal_erase stored found (deaths_broadcastExcept _ _ _ fun _ => rfl)

section News

variable (server : GameServer)

/-- A snapshot announces no death. -/
theorem deaths_sendWorldSnapshot (player : ConnectedPlayer) :
    deaths id (server.sendWorldSnapshot player) = 0 := by
  refine deaths_eq_zero fun call inside => ?_
  rcases mem_sendWorldSnapshot server player inside with ⟨_, _, -, rfl⟩ | ⟨_, rfl⟩
  · rfl
  · rfl

theorem deaths_hostNews (peer : Peer) (name : Bytes) : deaths id (server.hostNews peer name) = 0 := by
  unfold hostNews
  split_ifs
  · rfl
  · rfl

theorem deaths_successorNews (leavingId : PlayerID) : deaths id (server.successorNews leavingId) = 0 := by
  unfold successorNews
  split_ifs
  · rfl
  · cases server.players.toList with
    | nil => rfl
    | cons first rest => rfl

theorem deaths_seatPlayer (peer : Peer) (name : Bytes) (created : PacketCreation) :
    deaths id (server.seatPlayer peer name created).2 = 0 := by
  obtain ⟨first, last, firstQuiet, lastQuiet, calls⟩ := seatPlayer_calls server peer name created
  have acked (rest : List Call) : deaths id ((server.hosted peer name).handshakeAck peer
      server.nextPlayerId :: rest) = deaths id rest := List.countP_cons_of_neg Bool.false_ne_true
  rw [calls]
  split_ifs
  · rw [acked, deaths_append, deaths_append, deaths_append, deaths_hostNews,
      deaths_quiet firstQuiet, deaths_quiet lastQuiet, deaths_sendWorldSnapshot]
  · rw [acked, deaths_append, deaths_append, deaths_append, deaths_hostNews,
      deaths_quiet firstQuiet, deaths_quiet lastQuiet]
    rfl
  · rfl

end News

/-- **One step**, of whatever kind, that stores new entities under unused identifiers only. -/
theorem Reaction.death {outcome : Links × Outcome} (reaction : Reaction sys event outcome)
    (unused : NextUnused sys event) (stored : sys.server.entities.lookup id = some before)
    (found : outcome.2.1.entities.lookup id = some after) :
    Mortal id outcome.2.2 before after := by
  cases reaction with
  | tend keeps entities next quiet =>
    obtain ⟨old, same, tended⟩ := entities.back found
    rw [stored] at same
    cases same
    exact mortal_of_tended (deaths_quiet quiet id) tended.alive tended.health
  | cleanUp orphans keeps entities next quiet =>
    rw [entities, AMap.lookup_eraseAll] at found
    split_ifs at found
    rw [stored] at found
    cases found
    refine mortal_of_tended ?_ rfl rfl
    rw [deaths_append, deaths_quiet quiet, Nat.zero_add]
    refine deaths_eq_zero fun call inside => ?_
    obtain ⟨eid, -, sent⟩ := List.mem_flatMap.mp inside
    rw [List.mem_singleton.mp sent]
    rfl
  | message received opened behind effect =>
    refine effect.death ⟨?_, ?_⟩ stored found
    · rintro rfl request read accepted
      exact unused _ (.spawn ⟨_, ⟨_, _, _, _, _, rfl, received, opened, behind⟩, read, accepted⟩)
    · rintro rfl msg rest read accepted
      exact unused _ (.build ⟨_, _, ⟨_, _, _, _, _, rfl, received, opened, behind⟩, read, accepted⟩)
  | @seatPlayer peer data channel env reader rest msg received opened read admitted =>
    have spec := seatPlayer_spec sys.server peer (sanitizeName msg.playerName.1) env.created
    have changed := (spec.entities id).symm.trans found
    rw [stored] at changed
    cases changed
    refine mortal_of_tended (deaths_seatPlayer _ _ _ _) ?_ ?_
    · unfold claimed
      split_ifs
      · rfl
      · rfl
    · unfold claimed
      split_ifs
      · rfl
      · rfl
  | @connect peer host roundTripTime absent =>
    unfold handleConnect at found ⊢
    split_ifs at found ⊢
    · exact mortal_of_tended rfl (by rw [Option.some.inj (stored.symm.trans found)])
        (by rw [Option.some.inj (stored.symm.trans found)])
    · exact mortal_of_tended rfl (by rw [Option.some.inj (stored.symm.trans found)])
        (by rw [Option.some.inj (stored.symm.trans found)])
  | @leave peer key player present behind =>
    have spec := removePlayer_spec sys.server player
    have changed := (spec.entities id).symm.trans found
    rw [stored] at changed
    cases changed
    obtain ⟨first, last, firstQuiet, lastQuiet, calls⟩ := removePlayer_calls sys.server player
    refine mortal_of_tended ?_ ?_ ?_
    · show deaths id (sys.server.removePlayer player).2 = 0
      rw [calls, deaths_append, deaths_append, deaths_append, deaths_quiet firstQuiet,
        deaths_quiet lastQuiet, deaths_successorNews, deaths_broadcastExcept _ _ _ fun _ => rfl]
    · unfold freed
      split_ifs
      · rfl
      · rfl
    · unfold freed
      split_ifs
      · rfl
      · rfl
  | depart present nobody =>
    exact mortal_of_tended rfl (by rw [Option.some.inj (stored.symm.trans found)])
      (by rw [Option.some.inj (stored.symm.trans found)])

/-! ### Runs -/

/-- The entity is still stored after this event. -/
def StaysStored (id : EntityID) (sys : System) (event : Event) : Prop :=
  ((machine.next sys event).server.entities.lookup id).isSome = true

/-- **Death is final and announced once.** From any state whatever, while the entity exists and new
entities get unused identifiers, the announcements of its death and the life it has left are no more
than the life it had, and the health of a dead one does not change. -/
theorem deathIsFinal {start : System} {id : EntityID} {first : ServerEntity}
    (stored : start.server.entities.lookup id = some first) {events : List Event}
    (along : machine.Along (fun sys event => NextUnused sys event ∧ StaysStored id sys event)
      start events) :
    ∃ last, (machine.run start events).server.entities.lookup id = some last
      ∧ deaths id (machine.outputs start events) + life last ≤ life first
      ∧ (first.alive = false → last.health = first.health) := by
  induction events generalizing start first with
  | nil => exact ⟨first, stored, Nat.le_of_eq (Nat.zero_add _), fun _ => rfl⟩
  | cons event rest ih =>
    obtain ⟨⟨unused, stays⟩, along⟩ := along
    obtain ⟨second, found⟩ := Option.isSome_iff_exists.mp stays
    have step := (start.react_reaction event).death unused stored found
    obtain ⟨last, lastStored, once, health⟩ := ih found along
    refine ⟨last, lastStored, ?_, fun dead => ?_⟩
    · have split : deaths id (machine.outputs start (event :: rest))
          = deaths id (start.react event).2.2
            + deaths id (machine.outputs (machine.next start event) rest) := deaths_append _ _ _
      have now := step.once
      rw [split]
      omega
    · have nowDead : second.alive = false := by
        have now := step.once
        unfold life at now
        rw [dead] at now
        by_contra living
        rw [Bool.not_eq_false] at living
        rw [living] at now
        simp at now
      exact (health nowDead).trans (step.health dead)

/-! ### Two runs -/

/-- A player reports a death. -/
def reportsDeath (peer : Peer) (entityId killerId : EntityID) : Event :=
  Client.sends peer .C2S_CombatDeath MsgCombatDeath.codec ⟨entityId, killerId⟩

/-- A player has joined and has spawned a character. -/
def settled : System :=
  machine.run (boot {} none) (Client.joins 0 (ascii "Beep") ++ [Client.spawns 0 {}])

/-- The death of a fresh character, reported twice, is announced once. -/
theorem deathIsFinal_settled :
    deaths 1 (machine.outputs settled [reportsDeath 0 1 0, reportsDeath 0 1 0]) ≤ 1 := by
  have stored : (settled.server.entities.lookup 1).isSome = true := by decide +kernel
  obtain ⟨first, found⟩ := Option.isSome_iff_exists.mp stored
  have along : machine.Along (fun sys event => NextUnused sys event ∧ StaysStored 1 sys event) settled
      [reportsDeath 0 1 0, reportsDeath 0 1 0] := by
    refine ⟨⟨fun _ _ => ?_, ?_⟩, ⟨fun _ _ => ?_, ?_⟩, trivial⟩
    · exact Option.isNone_iff_eq_none.mp (by decide +kernel)
    · unfold StaysStored
      decide +kernel
    · exact Option.isNone_iff_eq_none.mp (by decide +kernel)
    · unfold StaysStored
      decide +kernel
  obtain ⟨last, -, once, -⟩ := deathIsFinal found along
  have most : life first ≤ 1 := by
    unfold life
    split_ifs
    · exact Nat.le_refl 1
    · exact Nat.zero_le 1
  omega

/-- A server whose file broke off after two characters, with the counter still at one. -/
def broken : System :=
  boot {} (some (.obj [(ascii "timeOfDay", number (lit 1 2)), (ascii "weather", .int 0),
    (ascii "entities", .arr [entityJson { id := 1 }, entityJson { id := 2 }, .null])]))

/-- A player kills the second character, spawns two of their own, and kills the second again. -/
def doubleKill : List Event :=
  Client.joins 0 (ascii "Beep")
    ++ [Client.spawns 0 {}, reportsDeath 0 2 1, Client.spawns 0 {}, reportsDeath 0 2 1]

/-- One identifier, stored all the time, dies twice. -/
theorem deathIsFinal_fails :
    machine.Along (StaysStored 2) broken doubleKill
      ∧ deaths 2 (machine.outputs broken doubleKill) = 2
      ∧ ((machine.run broken (doubleKill.take 4)).server.entities.lookup 2).map ServerEntity.alive
        = some false
      ∧ ((machine.run broken (doubleKill.take 5)).server.entities.lookup 2).map ServerEntity.alive
        = some true := by
  refine ⟨?_, by decide +kernel, by decide +kernel, by decide +kernel⟩
  refine ⟨?_, ?_, ?_, ?_, ?_, ?_, trivial⟩
  all_goals
    unfold StaysStored
    decide +kernel

end KenshiMP
