/-
**Whether a client applies what the server broadcasts.**

The server signs every position packet with source zero. A client applies a record of somebody
else's character only if the source is the owner it knows, so it applies none of a character that was
announced with an owner (`snapshotRejected`), and those of characters that had none when they were
announced (`snapshotApplied_iff`).
-/

import KenshiMP.Client.Packets
import KenshiMP.Client.Replication
import KenshiMP.Invariants

namespace KenshiMP

open Wire (ascii)
open Assoc
open GameServer
open KenshiMP.System

/-- The announcement of an entity that a slot has been sent. -/
def Announced (sys : System) (peer : Peer) (record : SpawnRecord) : Prop :=
  ∃ link packet, sys.links.lookup peer = some link ∧ packet ∈ link.sent
    ∧ packet.msg = .entitySpawn record

theorem announced_of {sys : System} {peer : Peer} {record : SpawnRecord}
    (sent : (sys.links.lookup peer).map (fun link => link.sent.any fun packet =>
      packet.msg = .entitySpawn record) = some true) : Announced sys peer record := by
  obtain ⟨link, stored, some⟩ := Option.map_eq_some_iff.mp sent
  obtain ⟨packet, inside, same⟩ := List.any_eq_true.mp some
  exact ⟨link, packet, stored, inside, of_decide_eq_true same⟩

/-- The client of a player applies this record, if it comes in this packet. -/
def Applies (registry : EntityRegistry) (playerId : PlayerID) (packet : Sent)
    (pos : CharacterPosition) : Prop :=
  ∀ source count records, packet.msg = .positionUpdate source count records → pos ∈ records →
    validateInboundSnapshot pos source playerId registry = .ApplyRemote

/-- **A client applies a record exactly if the entity was announced without an owner**, for every
reachable server, every registry a client can have, and every entity that the position packet of a
player has a record of and that the registry holds as a remote one in use. -/
theorem snapshotApplied_iff {sys : System} (reachable : Reachable sys) {id : EntityID}
    {entity : ServerEntity} (stored : sys.server.entities.lookup id = some entity)
    {playerId : PlayerID} {packet : Sent} (sent : sys.server.positionPacket playerId = some packet)
    {source : PlayerID} {count : UInt8} {records : List CharacterPosition}
    (content : packet.msg = .positionUpdate source count records)
    (written : positionRecord entity ∈ records) {ops : List RegistryOp} {info : EntityInfo}
    (known : (registryMachine.run {} ops).getInfo entity.id = some info)
    (remote : info.isRemote = true) (inUse : info.state = .Spawning ∨ info.state = .Active) :
    Applies (registryMachine.run {} ops) playerId packet (positionRecord entity)
      ↔ info.ownerPlayerId = 0 ∧ playerId ≠ 0 := by
  have server : source = 0 := by
    unfold positionPacket at sent
    simp only at sent
    split_ifs at sent
    cases sent
    cases content
    rfl
  have generation : info.generation = (positionRecord entity).generation :=
    (EntityRegistry.generation_zero ops _ info known).trans
      (reachable.pristine id entity stored).generation.symm
  have active : info.state ≠ .Inactive := by
    rcases inUse with spawning | active
    · rw [spawning]
      decide
    · rw [active]
      decide
  have decided := @applyRemote_iff (positionRecord entity) source playerId _ info known generation
    active remote
  have applies : Applies (registryMachine.run {} ops) playerId packet (positionRecord entity)
      ↔ validateInboundSnapshot (positionRecord entity) source playerId
        (registryMachine.run {} ops) = .ApplyRemote := by
    refine ⟨fun applies => applies source count records content written,
      fun applied other number list same _ => ?_⟩
    rw [content] at same
    cases same
    exact applied
  rw [applies, decided, server]
  constructor
  · rintro ⟨other, unowned⟩
    exact ⟨unowned, fun zero => other (unowned.trans zero.symm)⟩
  · rintro ⟨unowned, nonzero⟩
    exact ⟨fun mine => nonzero (mine.symm.trans unowned), unowned⟩

/-! ### Two players -/

/-- The registry of a client that has handled an announcement. -/
def announcedTo (record : SpawnRecord) : List RegistryOp :=
  [.registerRemote record.entityId record.type record.ownerId record.position]

/-- Two players, of whom the first has a character. -/
def watched : System :=
  machine.run (boot {} none)
    (Client.joins 0 (ascii "Beep") ++ Client.joins 1 (ascii "Ruka") ++ [Client.spawns 0 {}])

def watchedCharacter : ServerEntity := (watched.server.entities.lookup 1).getD {}

/-- The character was announced to the second player with its owner, and a client that holds it so
does not apply the record of it. -/
theorem snapshotRejected :
    Reachable watched ∧ watched.server.entities.lookup 1 = some watchedCharacter
      ∧ (watched.server.getPlayer 0).map (fun found => found.2.id) = some watchedCharacter.owner
      ∧ (watched.server.getPlayer 1).map (fun found => found.2.id) = some 2
      ∧ Announced watched 1 (entityRecord watchedCharacter)
      ∧ ((registryMachine.run {} (announcedTo (entityRecord watchedCharacter))).getInfo 1).map
          (fun info => (info.isRemote, info.state, info.ownerPlayerId))
        = some (true, .Spawning, watchedCharacter.owner)
      ∧ ∃ packet, watched.server.positionPacket 2 = some packet
        ∧ packet.msg = .positionUpdate 0 1 [positionRecord watchedCharacter]
        ∧ ¬ Applies (registryMachine.run {} (announcedTo (entityRecord watchedCharacter))) 2 packet
          (positionRecord watchedCharacter) := by
  have packet : watched.server.positionPacket 2 = some ⟨KMP_CHANNEL_UNRELIABLE_SEQ, false,
      .positionUpdate 0 1 [positionRecord watchedCharacter]⟩ := by decide +kernel
  have decided : validateInboundSnapshot (positionRecord watchedCharacter) 0 2
      (registryMachine.run {} (announcedTo (entityRecord watchedCharacter)))
      = .RejectAuthorityViolation := by decide +kernel
  refine ⟨⟨{}, none, _, rfl⟩, by decide +kernel, by decide +kernel, by decide +kernel,
    announced_of (by decide +kernel), by decide +kernel, _, packet, rfl, fun applies => ?_⟩
  have applied := applies 0 1 _ rfl List.mem_cons_self
  rw [decided] at applied
  cases applied

/-- The owner was away when the second player joined, and has come back. -/
def returned : System :=
  machine.run (boot {} none)
    (Client.joins 0 (ascii "Beep") ++ [Client.spawns 0 {}, .disconnect 0]
      ++ Client.joins 1 (ascii "Ruka") ++ Client.joins 0 (ascii "Beep"))

def returnedCharacter : ServerEntity := (returned.server.entities.lookup 1).getD {}

/-- Its record is applied by a client that holds it as nobody's. -/
theorem snapshotApplied_returned :
    Announced returned 1 { entityRecord returnedCharacter with ownerId := 0 } ∧ ∃ packet, returned.server.positionPacket 2 = some packet
      ∧ Applies (registryMachine.run {}
          (announcedTo { entityRecord returnedCharacter with ownerId := 0 })) 2 packet
        (positionRecord returnedCharacter) := by
  have packet : returned.server.positionPacket 2 = some ⟨KMP_CHANNEL_UNRELIABLE_SEQ, false,
      .positionUpdate 0 1 [positionRecord returnedCharacter]⟩ := by decide +kernel
  have stored : returned.server.entities.lookup 1 = some returnedCharacter := by decide +kernel
  have held : ((registryMachine.run {}
      (announcedTo { entityRecord returnedCharacter with ownerId := 0 })).getInfo
        returnedCharacter.id).map (fun info => (info.isRemote, info.state, info.ownerPlayerId))
      = some (true, .Spawning, 0) := by decide +kernel
  obtain ⟨info, known, shape⟩ := Option.map_eq_some_iff.mp held
  simp only [Prod.mk.injEq] at shape
  obtain ⟨remote, spawning, unowned⟩ := shape
  exact ⟨announced_of (by decide +kernel), _, packet,
    (snapshotApplied_iff ⟨{}, none, _, rfl⟩ stored packet rfl List.mem_cons_self known remote
      (Or.inl spawning)).mpr ⟨unowned, by decide⟩⟩

end KenshiMP
