/-
**Invariants of every reachable state.**

* `Reachable.pristine`: generation, state and authority of a stored entity are what its creation
  has put there, zero, `Active` and `Server`: no code writes them afterwards;
* `Reachable.playersKeyed`: a player is stored under their own identifier.
-/

import KenshiMP.Fates
import KenshiMP.Server.LoaderFacts

namespace KenshiMP

open Assoc
open GameServer
open ServerAuthorityValidator
open Persistence

/-! ### Entities one by one -/

variable {sys : System} {player : ConnectedPlayer}

/-- **The rule for single entities.** What creation establishes and every change keeps holds of
everything stored after a step. -/
theorem entities_invariant {event : Event} {motive : EntityID → ServerEntity → Prop}
    (creation : ∀ new, Created sys event new → motive sys.server.nextEntityId new)
    (changing : ∀ id old new, Change sys event id old new →
      sys.server.entities.lookup id = some old → motive id old → motive id new)
    (before : ∀ id old, sys.server.entities.lookup id = some old → motive id old)
    {id : EntityID} {new : ServerEntity}
    (stored : (System.machine.next sys event).server.entities.lookup id = some new) :
    motive id new := by
  rcases (sys.next_descends event).origin id new stored with
    ⟨old, found, change⟩ | ⟨same, created, -⟩
  · exact changing id old new change found (before id old found)
  · rw [same]
    exact creation new created

/-! ### Pristine fields -/

/-- The fields that only creation sets. -/
structure Pristine (entity : ServerEntity) : Prop where
  generation : entity.generation = 0
  state : entity.state = .Active
  authority : entity.authority = .Server

theorem boot_pristine (config : ServerConfig) (file : Option Json.Value) (id : EntityID)
    (entity : ServerEntity)
    (stored : (System.boot config file).server.entities.lookup id = some entity) :
    Pristine entity := by
  obtain ⟨-, e, read⟩ := boot_reads stored
  obtain ⟨-, generation, state, authority, -⟩ := read.fields
  exact ⟨generation, state, authority⟩

/-- **Nobody ever hands an entity to a player's authority.** -/
theorem System.Reachable.pristine (reachable : System.Reachable sys) :
    ∀ id entity, sys.server.entities.lookup id = some entity → Pristine entity := by
  refine System.Reachable.induct (motive := fun sys => ∀ id entity,
    sys.server.entities.lookup id = some entity → Pristine entity) boot_pristine
    (fun sys event kept id new stored => ?_) reachable
  refine entities_invariant (motive := fun _ entity => Pristine entity) (fun new created => ?_)
    (fun id old new change _ pristine => ?_) kept stored
  · obtain ⟨-, generation, state, authority⟩ := created.core
    exact ⟨generation, state, authority⟩
  · obtain ⟨-, generation, -, state, authority, -⟩ := change.core
    exact ⟨generation.trans pristine.generation, state.trans pristine.state,
      authority.trans pristine.authority⟩

/-- No entity of a reachable server may be commanded, by anybody. -/
theorem canClientCommandEntity_never (reachable : System.Reachable sys)
    (clientPlayerId : PlayerID) (id : EntityID) :
    canClientCommandEntity clientPlayerId id sys.server.entities = false := by
  unfold canClientCommandEntity
  cases stored : sys.server.entities.lookup id with
  | none => rfl
  | some entity =>
    have authority := (reachable.pristine id entity stored).authority
    simp [authority]

/-! ### Players -/

/-- A player is stored under their own identifier. -/
def PlayersKeyed (server : GameServer) : Prop :=
  ∀ key player, server.players.lookup key = some player → player.id = key

theorem PlayersKeyed.keeps {before after : GameServer} (keyed : PlayersKeyed before)
    (players : ∀ id, (after.players.lookup id).map ConnectedPlayer.identity
      = (before.players.lookup id).map ConnectedPlayer.identity) : PlayersKeyed after := by
  intro key player found
  have same := players key
  rw [found] at same
  obtain ⟨old, stored, identity⟩ := Option.map_eq_some_iff.mp same.symm
  exact (congrArg Prod.fst identity).symm.trans (keyed key old stored)

/-- No message of a player touches slots, identities, saved records or the host. -/
theorem Effect.keeps {server : GameServer} {type : MessageType}
    {reader : PacketReader} {outcome : Outcome} (effect : Effect server player type reader outcome) :
    Keeps server outcome.1 := by
  cases effect with
  | tend keeps => exact keeps
  | announce => exact Keeps.refl server
  | wound => exact keeps_updateEntity _ _ _
  | strike => exact keeps_updateEntity _ _ _
  | kill => exact keeps_updateEntity _ _ _
  | spawn read accepted keeps => exact keeps
  | build => exact ⟨rfl, fun _ => rfl, fun _ => rfl, rfl, rfl, fun _ => rfl, id⟩
  | despawn => exact ⟨rfl, fun _ => rfl, fun _ => rfl, rfl, rfl, fun _ => rfl, id⟩
  | dismantle => exact ⟨rfl, fun _ => rfl, fun _ => rfl, rfl, rfl, fun _ => rfl, id⟩

theorem PlayersKeyed.next (keyed : PlayersKeyed sys.server) {event : Event}
    {outcome : Links × Outcome} (reaction : Reaction sys event outcome) :
    PlayersKeyed outcome.2.1 := by
  cases reaction with
  | tend keeps => exact keyed.keeps keeps.players
  | cleanUp orphans keeps => exact keyed.keeps keeps.players
  | message received opened behind effect => exact keyed.keeps effect.keeps.players
  | @seatPlayer peer data channel env reader rest msg received opened read admitted =>
    have spec := seatPlayer_spec sys.server peer (sanitizeName msg.playerName.1) env.created
    intro key player found
    have identity := spec.players key
    rw [show (sys.server.seatPlayer peer (sanitizeName msg.playerName.1) env.created).1.players.lookup key
      = some player from found] at identity
    by_cases same : key = sys.server.nextPlayerId
    · rw [if_pos same] at identity
      split_ifs at identity
      · exact (congrArg Prod.fst (Option.some.inj identity)).trans same.symm
      · cases identity
    · rw [if_neg same] at identity
      obtain ⟨old, stored, known⟩ := Option.map_eq_some_iff.mp identity.symm
      exact (congrArg Prod.fst known).symm.trans (keyed key old stored)
  | @connect peer host roundTripTime absent =>
    refine keyed.keeps fun id => ?_
    unfold handleConnect
    split_ifs
    · rfl
    · rfl
  | @leave peer key player present behind =>
    have spec := removePlayer_spec sys.server player
    intro other found stored
    have kept : (sys.server.removePlayer player).1.players.lookup other = some found := stored
    rw [spec.players] at kept
    split_ifs at kept
    exact keyed other found kept
  | depart present nobody => exact keyed

theorem System.Reachable.playersKeyed (reachable : System.Reachable sys) : PlayersKeyed sys.server := by
  refine System.Reachable.induct (motive := fun sys => PlayersKeyed sys.server)
    (fun config file key player found => ?_)
    (fun sys event keyed => keyed.next (sys.react_reaction event)) reachable
  have nobody : (System.boot config file).server.players = ∅ := (loadWorld_fields _ file).2.2.1
  rw [nobody] at found
  cases found

/-- The player behind a slot is the one stored under the number in the slot. -/
theorem stored_of_getPlayer {server : GameServer} {peer : Peer} {key : PlayerID}
    (behind : server.getPlayer peer = some (key, player)) :
    server.players.lookup key = some player ∧ key = server.peerData peer ∧ key ≠ 0 := by
  unfold getPlayer at behind
  split_ifs at behind with zero
  obtain ⟨found, stored, same⟩ := Option.map_eq_some_iff.mp behind
  cases same
  exact ⟨stored, rfl, zero⟩

/-- The player behind a slot is stored under their identifier. -/
theorem lookup_of_getPlayer {server : GameServer} (keyed : PlayersKeyed server) {peer : Peer}
    {key : PlayerID} (behind : server.getPlayer peer = some (key, player)) :
    server.players.lookup key = some player ∧ player.id = key ∧ key = server.peerData peer ∧ key ≠ 0 := by
  obtain ⟨stored, slot, nonzero⟩ := stored_of_getPlayer behind
  exact ⟨stored, keyed _ _ stored, slot, nonzero⟩

end KenshiMP
