/-
**Whether a player's commands reach their entities.**

The gate asks for an entity under player authority, and by `Reachable.pristine` there is none:
`canClientCommandEntity_never`. So a position packet leaves the table as it is and a move command
is not passed on (`positionPacket_idle`, `moveCommand_idle`). The owner has control exactly where
nothing was asked for: the entity shows the record already, or there is nobody to tell.
-/

import KenshiMP.Client.Packets
import KenshiMP.Invariants

namespace KenshiMP

open Wire (Bytes)
open Assoc
open GameServer
open ServerAuthorityValidator
open KenshiMP.System

/-! ### The gate -/

variable {sys : System} {peer : Peer} {key : PlayerID} {player : ConnectedPlayer}

/-- No record of a position packet is applied. -/
theorem applyPositions_idle (reachable : Reachable sys) (records : List CharacterPosition)
    (placed : Bool) :
    records.foldl (applyPosition player key) (sys.server, placed) = (sys.server, placed) := by
  induction records with
  | nil => rfl
  | cons pos rest ih =>
    have skipped : applyPosition player key (sys.server, placed) pos = (sys.server, placed) := by
      unfold applyPosition validatePositionUpdate
      simp only
      rw [canClientCommandEntity_never reachable]
      simp
    rw [List.foldl_cons, skipped]
    exact ih

section Header

variable (reachable : Reachable sys) (received : sys.receives peer = true)
  (behind : sys.server.getPlayer peer = some (key, player)) {header : PacketHeader}

include reachable received behind

theorem positionPacket_idle
    (code : header.type = MessageType.code .C2S_PositionUpdate) (body : Bytes) (env : PacketEnv) :
    sys.react (.packet peer (packet header body) KMP_CHANNEL_UNRELIABLE_SEQ env)
      = (sys.links, (sys.server, [])) := by
  obtain ⟨reader, opened, -⟩ :=
    openPacket_packet code (show wrongChannel _ KMP_CHANNEL_UNRELIABLE_SEQ = false from rfl) body
  rw [sys.react_packet received opened (fun _ => rfl) behind]
  show (sys.links, sys.server.handlePositionUpdate player reader key) = _
  unfold handlePositionUpdate
  cases reader.readU8 with
  | none => rfl
  | some counted =>
    simp only
    rw [applyPositions_idle reachable]

theorem moveCommand_idle (code : header.type = MessageType.code .C2S_MoveCommand) {channel : Nat}
    (reliable : channel ≠ KMP_CHANNEL_UNRELIABLE_SEQ) (body : Bytes) (env : PacketEnv) :
    sys.react (.packet peer (packet header body) channel env) = (sys.links, (sys.server, [])) := by
  have right : wrongChannel (some .C2S_MoveCommand) channel = false := by
    simp [wrongChannel, reliable]
  obtain ⟨reader, opened, -⟩ := openPacket_packet code right body
  rw [sys.react_packet received opened (fun _ => rfl) behind]
  show (sys.links, sys.server.handleMoveCommand player reader) = _
  unfold handleMoveCommand onMessage
  cases reader.readRaw MsgMoveCommand.codec with
  | none => rfl
  | some message =>
    simp only
    rw [canClientCommandEntity_never reachable]
    rfl

end Header

/-! ### Owner control -/

/-- The player's own entity, alive. -/
structure OwnEntity (server : GameServer) (player : ConnectedPlayer) (id : EntityID)
    (entity : ServerEntity) : Prop where
  stored : server.entities.lookup id = some entity
  owner : entity.owner = player.id
  alive : entity.alive = true

/-- The last record for an entity with usable coordinates. -/
def lastRecord (id : EntityID) (records : List CharacterPosition) : Option CharacterPosition :=
  (records.filter fun pos => pos.entityId = id && !badCoords pos.posX pos.posY pos.posZ).getLast?

/-- The entity shows what a record says. -/
structure Shows (pos : CharacterPosition) (entity : ServerEntity) : Prop where
  position : entity.position = ⟨pos.posX, pos.posY, pos.posZ⟩
  zone : entity.zone = ZoneCoord.fromWorldPos ⟨pos.posX, pos.posY, pos.posZ⟩
  animState : entity.animState = pos.animStateId
  moveSpeed : entity.moveSpeed = pos.moveSpeed
  flags : entity.flags = pos.flags

/-- A well-formed position packet moves the entity to its last record for it. -/
def PositionObeyed (sys : System) (peer : Peer) (id : EntityID) (header : PacketHeader)
    (records : List CharacterPosition) (env : PacketEnv) (pos : CharacterPosition) : Prop :=
  ∃ entity, (machine.next sys (.packet peer (packet header (positionBody records))
      KMP_CHANNEL_UNRELIABLE_SEQ env)).server.entities.lookup id = some entity ∧ Shows pos entity

/-- A move command is passed on to every other player. -/
def CommandRelayed (sys : System) (peer : Peer) (player : ConnectedPlayer) (header : PacketHeader)
    (msg : MsgMoveCommand) (channel : Nat) (env : PacketEnv) : Prop :=
  ∀ other, (∃ key, sys.server.players.lookup key = some other ∧ key ≠ player.id) →
    Call.send other.peer ⟨KMP_CHANNEL_RELIABLE_UNORDERED, true, .moveCommand msg⟩
      ∈ machine.emit sys
        (.packet peer (packet header (MsgMoveCommand.codec.encode msg)) channel env)

/-- **Owner control holds exactly where there is nothing to do.** Of every reachable server, every
player and every entity of theirs that lives. -/
theorem ownerControl_iff (reachable : Reachable sys) (received : sys.receives peer = true)
    (behind : sys.server.getPlayer peer = some (key, player)) {id : EntityID}
    {entity : ServerEntity} (own : OwnEntity sys.server player id entity) :
    (∀ header records env pos, header.type = MessageType.code .C2S_PositionUpdate →
        records.length < 256 → lastRecord id records = some pos →
        (PositionObeyed sys peer id header records env pos ↔ Shows pos entity))
      ∧ ∀ header msg channel env, header.type = MessageType.code .C2S_MoveCommand →
        msg.entityId = id → channel ≠ KMP_CHANNEL_UNRELIABLE_SEQ →
        (CommandRelayed sys peer player header msg channel env
          ↔ ∀ key other, sys.server.players.lookup key = some other → key = player.id) := by
  refine ⟨fun header records env pos code _ _ => ?_, fun header msg channel env code _ reliable => ?_⟩
  · have idle := positionPacket_idle reachable received behind code (positionBody records) env
    have same : (machine.next sys (.packet peer (packet header (positionBody records))
        KMP_CHANNEL_UNRELIABLE_SEQ env)).server = sys.server :=
      congrArg (fun reaction => reaction.2.1) idle
    unfold PositionObeyed
    rw [same, own.stored]
    constructor
    · rintro ⟨found, is, shows⟩
      cases is
      exact shows
    · exact fun shows => ⟨entity, rfl, shows⟩
  · have idle := moveCommand_idle reachable received behind code reliable
      (MsgMoveCommand.codec.encode msg) env
    have silent : machine.emit sys
        (.packet peer (packet header (MsgMoveCommand.codec.encode msg)) channel env) = [] :=
      congrArg (fun reaction => reaction.2.2) idle
    unfold CommandRelayed
    rw [silent]
    constructor
    · intro relayed key other stored
      by_contra different
      exact List.not_mem_nil (relayed other ⟨key, stored, different⟩)
    · rintro alone other ⟨key, stored, different⟩
      exact absurd (alone key other stored) different

/-! ### A session -/

/-- A player has joined and has spawned a character at the origin. -/
def spawned : System :=
  machine.run (boot {} none) (Client.joins 0 (Wire.ascii "Beep") ++ [Client.spawns 0 {}])

/-- A step of the character. -/
def walked : CharacterPosition := ⟨1, 0, lit 1 1, lit 0 1, lit 0 1, 0, 1, 85, 1⟩

theorem spawned_reachable : Reachable spawned := ⟨{}, none, _, rfl⟩

theorem spawned_receives : spawned.receives 0 = true := by decide +kernel

theorem spawned_player : ∃ player, spawned.server.getPlayer 0 = some (1, player) ∧ player.id = 1 := by
  have known : (spawned.server.getPlayer 0).map (fun found => (found.1, found.2.id)) = some (1, 1) := by
    decide +kernel
  obtain ⟨⟨key, player⟩, found, same⟩ := Option.map_eq_some_iff.mp known
  cases (Prod.mk.inj same).1
  exact ⟨player, found, (Prod.mk.inj same).2⟩

theorem spawned_entity {player : ConnectedPlayer} (first : player.id = 1) :
    ∃ entity, OwnEntity spawned.server player 1 entity ∧ entity.position = {} := by
  have known : (spawned.server.entities.lookup 1).map
      (fun entity => (entity.owner, entity.alive, entity.position)) = some (1, true, {}) := by
    decide +kernel
  obtain ⟨entity, stored, same⟩ := Option.map_eq_some_iff.mp known
  obtain ⟨owner, rest⟩ := Prod.mk.inj same
  obtain ⟨alive, position⟩ := Prod.mk.inj rest
  exact ⟨entity, ⟨stored, owner.trans first.symm, alive⟩, position⟩

/-- The character that a player has just spawned cannot be moved by them. -/
theorem ownerControl_fails :
    Reachable spawned ∧ ∃ player entity, spawned.server.getPlayer 0 = some (1, player)
      ∧ OwnEntity spawned.server player 1 entity ∧ lastRecord 1 [walked] = some walked
      ∧ ¬ PositionObeyed spawned 0 1 ⟨0x30, 0, 0, 0⟩ [walked] {} walked := by
  obtain ⟨player, behind, first⟩ := spawned_player
  obtain ⟨entity, own, -⟩ := spawned_entity first
  refine ⟨spawned_reachable, player, entity, behind, own, by decide +kernel, ?_⟩
  rintro ⟨after, stored, shows⟩
  have stays : ((machine.next spawned (.packet 0
      (packet ⟨0x30, 0, 0, 0⟩ (positionBody [walked])) KMP_CHANNEL_UNRELIABLE_SEQ
      {})).server.entities.lookup 1).map ServerEntity.position = some {} := by decide +kernel
  rw [stored] at stays
  have same : ({} : Vec3) = ⟨walked.posX, walked.posY, walked.posZ⟩ :=
    (Option.some.inj stays).symm.trans shows.position
  exact absurd same (by decide +kernel)

theorem ownerControl_iff_spawned :
    ∃ player entity, OwnEntity spawned.server player 1 entity
      ∧ (PositionObeyed spawned 0 1 ⟨0x30, 0, 0, 0⟩ [walked] {} walked ↔ Shows walked entity)
      ∧ (CommandRelayed spawned 0 player ⟨0x32, 0, 0, 0⟩ ⟨1, lit 1 1, lit 0 1, lit 0 1, 0⟩ 0 {}
        ↔ ∀ key other, spawned.server.players.lookup key = some other → key = player.id) := by
  obtain ⟨player, behind, first⟩ := spawned_player
  obtain ⟨entity, own, -⟩ := spawned_entity first
  obtain ⟨positions, commands⟩ := ownerControl_iff spawned_reachable spawned_receives behind own
  exact ⟨player, entity, own,
    positions ⟨0x30, 0, 0, 0⟩ [walked] {} walked rfl (by decide) (by decide +kernel),
    commands ⟨0x32, 0, 0, 0⟩ ⟨1, lit 1 1, lit 0 1, lit 0 1, 0⟩ 0 {} rfl rfl (by decide)⟩

end KenshiMP
