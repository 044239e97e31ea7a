/-
**Whether a player of a shared save sees where the other one is.**

The sync sends its own character under identifier zero, which the server drops as it does every record
that is not a known entity of the sender. What the server broadcasts carries source zero, and from that
source the sync takes nothing. So whatever two clients do, no position is ever passed on
(`exchange_undelivered`).
-/

import KenshiMP.Client.SharedSave
import KenshiMP.OwnerControl
import KenshiMP.Snapshots

namespace KenshiMP

open Wire (Bytes ascii)
open Assoc
open GameServer
open KenshiMP.System

/-! ### The sync of the other player -/

/-- The sync runs, and both characters are found. -/
def SharedSaveSync.Running (sync : SharedSaveSync) : Prop :=
  sync.initialized = true ∧ sync.ownFound = true ∧ sync.otherFound = true

instance (sync : SharedSaveSync) : Decidable sync.Running := inferInstanceAs (Decidable (_ ∧ _ ∧ _))

/-- The states of the sync of a player who hears position broadcasts of servers. -/
inductive Listens (playerId : PlayerID) : SharedSaveSync → Prop
  | start : Listens playerId {}
  | init {sync : SharedSaveSync} (before : Listens playerId sync) (lobby : LobbyManager) :
      Listens playerId (sync.init lobby)
  | update {sync : SharedSaveSync} (before : Listens playerId sync)
      (findByName : Bytes → Option TrackedChar) (connected gameLoaded : Bool) (lobby : LobbyManager)
      (readPosition : GameObject → Option Vec3) (now : Nat) :
      Listens playerId (sync.update findByName connected gameLoaded lobby readPosition now).1
  | reset {sync : SharedSaveSync} (before : Listens playerId sync) : Listens playerId sync.reset
  | hear {sync : SharedSaveSync} (before : Listens playerId sync) {sys : System}
      (reachable : Reachable sys) {channel : Nat} {reliable : Bool} {source : PlayerID} {count : UInt8}
      {records : List CharacterPosition}
      (broadcast : sys.server.positionPacket playerId
        = some ⟨channel, reliable, .positionUpdate source count records⟩)
      (registry : EntityRegistry) :
      Listens playerId (sync.handlePositionUpdate registry source playerId count records)

/-- The server signs its broadcasts with no player. -/
theorem positionPacket_source {server : GameServer} {playerId : PlayerID} {channel : Nat}
    {reliable : Bool} {source : PlayerID} {count : UInt8} {records : List CharacterPosition}
    (broadcast : server.positionPacket playerId
      = some ⟨channel, reliable, .positionUpdate source count records⟩) : source = 0 := by
  unfold positionPacket at broadcast
  simp only at broadcast
  split_ifs at broadcast
  cases broadcast
  rfl

namespace SharedSaveSync

variable (sync : SharedSaveSync)

/-- Nothing is taken from a packet that no player has signed. -/
theorem handlePositionUpdate_unsigned (registry : EntityRegistry) (playerId : PlayerID)
    (count : UInt8) (records : List CharacterPosition) :
    sync.handlePositionUpdate registry 0 playerId count records = sync := by
  have skipped (progress : SharedSaveSync × Bool) (pos : CharacterPosition) :
      feedOne registry 0 playerId progress pos = progress := by
    unfold feedOne
    simp only [ne_eq, not_true_eq_false, decide_false, Bool.and_false, Bool.false_and,
      Bool.false_eq_true, if_false, ite_self]
  have none (rest : List CharacterPosition) :
      rest.foldl (feedOne registry 0 playerId) (sync, false) = (sync, false) := by
    induction rest with
    | nil => rfl
    | cons pos rest ih =>
      rw [List.foldl_cons, skipped]
      exact ih
  unfold handlePositionUpdate
  rw [none]

theorem hasRemotePosition_init (lobby : LobbyManager) (nothing : sync.hasRemotePosition = false) :
    (sync.init lobby).hasRemotePosition = false := by
  unfold init
  simp only
  split_ifs
  · exact nothing
  · exact nothing
  · rfl

theorem hasRemotePosition_discover (findByName : Bytes → Option TrackedChar) :
    (sync.discover findByName).hasRemotePosition = sync.hasRemotePosition := by
  have own : (sync.discoverOwn findByName).hasRemotePosition = sync.hasRemotePosition := by
    unfold discoverOwn
    split_ifs
    · rfl
    · cases seen findByName sync.ownCharName with
      | none => rfl
      | some tc => rfl
  rw [← own]
  unfold discover discoverOther
  split_ifs
  · rfl
  · cases seen findByName (sync.discoverOwn findByName).otherCharName with
    | none => rfl
    | some tc => rfl

theorem hasRemotePosition_revalidate (findByName : Bytes → Option TrackedChar) :
    (sync.revalidate findByName).hasRemotePosition = sync.hasRemotePosition := by
  have own (counted : SharedSaveSync) :
      (counted.refreshOwn findByName).hasRemotePosition = counted.hasRemotePosition := by
    unfold refreshOwn
    cases findByName counted.ownCharName with
    | none => rfl
    | some tc =>
      simp only
      split <;> rfl
  have other (counted : SharedSaveSync) :
      (counted.refreshOther findByName).hasRemotePosition = counted.hasRemotePosition := by
    unfold refreshOther
    cases findByName counted.otherCharName with
    | none => rfl
    | some tc =>
      simp only
      split <;> rfl
  unfold revalidate
  simp only
  split_ifs
  · rfl
  · rw [other, own]

theorem hasRemotePosition_sendOwn (readPosition : GameObject → Option Vec3) (now : Nat) :
    (sync.sendOwn readPosition now).1.hasRemotePosition = sync.hasRemotePosition := by
  unfold sendOwn
  split_ifs
  · rfl
  · rfl

theorem hasRemotePosition_update (findByName : Bytes → Option TrackedChar)
    (connected gameLoaded : Bool) (lobby : LobbyManager)
    (readPosition : GameObject → Option Vec3) (now : Nat) (nothing : sync.hasRemotePosition = false) :
    (sync.update findByName connected gameLoaded lobby readPosition now).1.hasRemotePosition = false := by
  have started : (if sync.initialized then sync else sync.init lobby).hasRemotePosition = false := by
    split_ifs
    · exact nothing
    · exact sync.hasRemotePosition_init lobby nothing
  unfold update
  simp only
  generalize (if sync.initialized then sync else sync.init lobby) = begun at started ⊢
  split_ifs
  · exact nothing
  · exact started
  · rw [hasRemotePosition_discover]
    exact started
  · rw [hasRemotePosition_sendOwn, hasRemotePosition_discover]
    exact started
  · rw [hasRemotePosition_sendOwn, hasRemotePosition_revalidate]
    exact started

end SharedSaveSync

/-- Nothing has been passed to it, and nothing will be. -/
theorem Listens.nothing {playerId : PlayerID} {sync : SharedSaveSync}
    (listens : Listens playerId sync) : sync.hasRemotePosition = false := by
  induction listens with
  | start => rfl
  | init before lobby ih => exact SharedSaveSync.hasRemotePosition_init _ lobby ih
  | update before findByName connected gameLoaded lobby readPosition now ih =>
    exact SharedSaveSync.hasRemotePosition_update _ _ _ _ _ _ _ ih
  | reset before ih => rfl
  | hear before reachable broadcast registry ih =>
    rw [positionPacket_source broadcast, SharedSaveSync.handlePositionUpdate_unsigned]
    exact ih

/-! ### From one player to the other -/

/-- Two players of a server run the sync, one sends a position, and the other one gets a position
broadcast after the server has handled it. -/
structure Exchange where
  sys : System
  reachable : Reachable sys
  peer : Peer
  key : PlayerID
  player : ConnectedPlayer
  sender : sys.server.getPlayer peer = some (key, player)
  receives : sys.receives peer = true
  otherKey : PlayerID
  other : ConnectedPlayer
  receiver : sys.server.players.lookup otherKey = some other
  different : otherKey ≠ key
  sync : SharedSaveSync
  running : sync.Running
  listener : SharedSaveSync
  listens : Listens otherKey listener
  listening : listener.Running
  position : Vec3
  finite : position.isFinite = true
  sends : ∃ findByName lobby readPosition now,
    (sync.update findByName true true lobby readPosition now).2
      = some (SharedSaveSync.avatarPacket position)
  later : List Event
  registry : EntityRegistry
  channel : Nat
  reliable : Bool
  source : PlayerID
  count : UInt8
  records : List CharacterPosition
  broadcast : (machine.run (machine.next sys (.packet peer (SharedSaveSync.avatarPacket position)
      KMP_CHANNEL_UNRELIABLE_SEQ {})) later).server.positionPacket otherKey
    = some ⟨channel, reliable, .positionUpdate source count records⟩

namespace Exchange

variable (exchange : Exchange)

/-- The server, once it has handled the position. -/
def arrived : System :=
  machine.next exchange.sys (.packet exchange.peer
    (SharedSaveSync.avatarPacket exchange.position) KMP_CHANNEL_UNRELIABLE_SEQ {})

/-- The sync of the other player, once it has processed the broadcast. -/
def heard : SharedSaveSync :=
  exchange.listener.handlePositionUpdate exchange.registry exchange.source exchange.otherKey
    exchange.count exchange.records

/-- The position is the last one that the other sync was passed. -/
def Delivered : Prop :=
  exchange.heard.hasRemotePosition = true ∧ exchange.heard.remotePosition = exchange.position

theorem heard_nothing : exchange.heard.hasRemotePosition = false := by
  unfold heard
  rw [positionPacket_source exchange.broadcast, SharedSaveSync.handlePositionUpdate_unsigned]
  exact exchange.listens.nothing

end Exchange

/-- **No position is ever delivered**: the server drops it, and the other sync has been passed none. -/
theorem exchange_undelivered (exchange : Exchange) :
    ¬ exchange.Delivered ∧ exchange.arrived.server = exchange.sys.server
      ∧ exchange.heard.hasRemotePosition = false := by
  refine ⟨fun delivered => ?_, ?_, exchange.heard_nothing⟩
  · have nothing := exchange.heard_nothing
    rw [delivered.1] at nothing
    cases nothing
  · have dropped := @positionPacket_idle _ _ _ _ exchange.reachable exchange.receives
      exchange.sender ⟨MessageType.code .C2S_PositionUpdate, 0, 0, 0⟩ rfl
      (positionBody [SharedSaveSync.avatarRecord exchange.position]) {}
    show (exchange.sys.react _).2.1 = _
    exact congrArg (fun reaction => reaction.2.1) dropped

/-! ### One exchange -/

/-- Both characters are found under these names. -/
def bothSeen (name : Bytes) : Option TrackedChar :=
  if name = ascii "Player 1" then some ⟨1, 2⟩
  else if name = ascii "Player 2" then some ⟨3, 4⟩
  else none

def oneStep : Vec3 := ⟨lit 1 1, lit 0 1, lit 0 1⟩

/-- The sync of a client that has a faction its table knows. -/
def foundAs (faction : Bytes) : SharedSaveSync :=
  (({} : SharedSaveSync).update bothSeen true true ⟨faction, 0, true⟩ (fun _ => none) 0).1

/-- The first player's position is sent, and the second one gets a broadcast with one record. -/
def firstExchange : Exchange where
  sys := watched
  reachable := ⟨{}, none, _, rfl⟩
  peer := 0
  key := 1
  player := (watched.server.players.lookup 1).getD (watched.server.newPlayer 0 [])
  sender := by decide +kernel
  receives := by decide +kernel
  otherKey := 2
  other := (watched.server.players.lookup 2).getD (watched.server.newPlayer 0 [])
  receiver := by decide +kernel
  different := by decide
  sync := foundAs (ascii "10-kenshi-online")
  running := by decide +kernel
  listener := foundAs (ascii "12-kenshi-online")
  listens := .update .start _ _ _ _ _ _
  listening := by decide +kernel
  position := oneStep
  finite := by decide +kernel
  sends := ⟨bothSeen, {}, fun _ => some oneStep, 50, by decide +kernel⟩
  later := []
  registry := registryMachine.run {} (announcedTo (entityRecord watchedCharacter))
  channel := KMP_CHANNEL_UNRELIABLE_SEQ
  reliable := false
  source := 0
  count := 1
  records := [positionRecord watchedCharacter]
  broadcast := by decide +kernel

/-- It is a case of what holds of all. -/
theorem firstExchange_undelivered :
    ¬ firstExchange.Delivered ∧ firstExchange.arrived.server = firstExchange.sys.server
      ∧ firstExchange.heard.hasRemotePosition = false := exchange_undelivered firstExchange

/-- So positions are not delivered. -/
theorem exchanges_fail : ¬ ∀ exchange : Exchange, exchange.Delivered := by
  intro delivers
  have nothing := firstExchange.heard_nothing
  rw [(delivers firstExchange).1] at nothing
  cases nothing

end KenshiMP
