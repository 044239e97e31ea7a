/-
**What a knockout report writes, on the server and on the clients.**

The report has the health of the chest and the reason of the knockout. The server writes the health
into the first element of its array, which is the head. The message to the clients has the reason
where other messages have the body part; a client writes the health to the chest, but takes a reason
that is no body part for an invalid packet.
-/

import KenshiMP.Client.Incoming

namespace KenshiMP

open Wire.Codec
open Assoc

/-- Writing a value in one place or in another makes no difference only if both have it already. -/
theorem update_eq_update_iff {ι α : Type} [DecidableEq ι] (values : ι → α) (one two : ι) (value : α) :
    Function.update values one value = Function.update values two value
      ↔ one = two ∨ values one = value ∧ values two = value := by
  constructor
  · intro same
    refine Decidable.or_iff_not_imp_left.mpr fun different => ?_
    have first := congrFun same one
    have second := congrFun same two
    rw [Function.update_self, Function.update_of_ne different] at first
    rw [Function.update_self, Function.update_of_ne (Ne.symm different)] at second
    exact ⟨first.symm, second⟩
  · rintro (rfl | ⟨first, second⟩)
    · rfl
    · rw [Function.update_eq_self_iff.mpr first.symm, Function.update_eq_self_iff.mpr second.symm]

namespace GameServer

variable {server : GameServer} {player : ConnectedPlayer} {reader rest : PacketReader}
variable {victim attacker : EntityID} {reason : UInt8} {chestHealth : F32}

/-- What an accepted report does to the server, and whom it tells. -/
theorem handleCombatKO_eq
    (read : reader.readRaw combatKOReport = some ((victim, attacker, reason, chestHealth), rest))
    (accepted : server.mayReport player victim attacker = true) :
    server.handleCombatKO player reader
      = (server.updateEntity victim fun entity =>
          { entity with health := Function.update entity.health 0 chestHealth },
        broadcast KMP_CHANNEL_RELIABLE_UNORDERED
          (.combatKO ⟨victim, attacker, reason, chestHealth⟩)) := by
  unfold handleCombatKO onMessage
  rw [read]
  simp only
  rw [accepted]
  rfl

/-- The server's array is right only if the head has the reported value already, and so has the
chest. -/
theorem chest_written_iff {entity : ServerEntity} (stored : server.entities.lookup victim = some entity)
    (read : reader.readRaw combatKOReport = some ((victim, attacker, reason, chestHealth), rest))
    (accepted : server.mayReport player victim attacker = true) :
    ((server.handleCombatKO player reader).1.entities.lookup victim).map ServerEntity.health
        = some (Function.update entity.health BodyPart.Chest chestHealth)
      ↔ entity.health BodyPart.Head = chestHealth ∧ entity.health BodyPart.Chest = chestHealth := by
  rw [handleCombatKO_eq read accepted]
  show ((AMap.modify victim _ server.entities).lookup victim).map _ = _ ↔ _
  rw [AMap.lookup_modify_self, stored]
  show some _ = some _ ↔ _
  rw [Option.some_inj]
  exact (update_eq_update_iff entity.health 0 BodyPart.Chest chestHealth).trans
    (or_iff_right (by decide))

end GameServer

namespace GameClient

variable {client : GameClient} {msg : MsgCombatKO} {info : EntityInfo}

/-- The registry's limbs are right unless the reason is no body part. -/
theorem limbs_written_iff (known : client.registry.getInfo msg.entityId = some info) :
    ((client.handleCombatKO msg).registry.getInfo msg.entityId).map EntityInfo.limbs
        = some (Function.update info.limbs BodyPart.Chest msg.resultHealth)
      ↔ msg.bodyPart < BodyPart.Count ∨ info.limbs BodyPart.Chest = msg.resultHealth := by
  unfold handleCombatKO
  split_ifs with invalid
  · rw [known]
    show some info.limbs = some _ ↔ _
    rw [Option.some_inj, eq_comm, Function.update_eq_self_iff, eq_comm]
    exact ⟨.inr, fun either => either.resolve_left (UInt8.not_lt.mpr invalid)⟩
  · refine iff_of_true ?_ (.inl (UInt8.not_le.mp invalid))
    show ((AMap.modify msg.entityId _ client.registry.entities).lookup msg.entityId).map _ = _
    rw [AMap.lookup_modify_self]
    have found : client.registry.entities.lookup msg.entityId = some info := known
    rw [found]
    rfl

/-- A client whose game has loaded handles a knockout. -/
theorem handlePacket_combatKO (pages : CodePages) (loaded : client.gameLoaded = true)
    {arrival : Arrival} (told : arrival.msg = .combatKO msg) :
    client.handlePacket pages arrival = client.handleCombatKO msg := by
  unfold handlePacket
  rw [told]
  simp only
  rw [if_pos loaded]
  unfold handleWorld
  rw [told]

end GameClient

open GameServer GameClient

/-- **Server and client write a knockout to the chest, and to no other part, exactly if the server's
head and chest have the reported value already and the reason is below seven** (or the client's chest
has the value too). -/
theorem knockout_chest_iff (server : GameServer) (player : ConnectedPlayer)
    {reader rest : PacketReader} {victim attacker : EntityID} {reason : UInt8} {chestHealth : F32}
    {entity : ServerEntity} (stored : server.entities.lookup victim = some entity)
    (read : reader.readRaw combatKOReport = some ((victim, attacker, reason, chestHealth), rest))
    (accepted : server.mayReport player victim attacker = true)
    (pages : CodePages) (client : GameClient) (loaded : client.gameLoaded = true)
    {info : EntityInfo} (known : client.registry.getInfo victim = some info)
    (arrival : Arrival)
    (resulting : .broadcast ⟨KMP_CHANNEL_RELIABLE_UNORDERED, true, arrival.msg⟩
      ∈ (server.handleCombatKO player reader).2) :
    (((server.handleCombatKO player reader).1.entities.lookup victim).map ServerEntity.health
          = some (Function.update entity.health BodyPart.Chest chestHealth)
        ∧ ((client.handlePacket pages arrival).registry.getInfo victim).map EntityInfo.limbs
          = some (Function.update info.limbs BodyPart.Chest chestHealth))
      ↔ (entity.health BodyPart.Head = chestHealth ∧ entity.health BodyPart.Chest = chestHealth)
        ∧ (reason < BodyPart.Count ∨ info.limbs BodyPart.Chest = chestHealth) := by
  have told : arrival.msg = .combatKO ⟨victim, attacker, reason, chestHealth⟩ := by
    rw [handleCombatKO_eq read accepted] at resulting
    have same := Call.broadcast.inj (List.mem_singleton.mp resulting)
    exact congrArg Sent.msg same
  rw [handlePacket_combatKO pages loaded told]
  exact and_congr (chest_written_iff stored read accepted) (limbs_written_iff known)

/-! ### A report about a healthy character -/

namespace KnockOut

/-- The victim's owner reports. -/
def reporter : ConnectedPlayer where
  id := 1
  name := Wire.ascii "Beep"
  peer := 0
  ping := 0
  lastUpdate := lit 0 1

def server : GameServer where
  entities := AList.insert 5 { id := 5, owner := 1 } ∅

def report (reason : UInt8) (chestHealth : F32) : PacketReader :=
  .start (combatKOReport.encode (5, 0, reason, chestHealth))

theorem report_read (reason : UInt8) (chestHealth : F32) :
    ∃ rest, (report reason chestHealth).readRaw combatKOReport = some ((5, 0, reason, chestHealth), rest) := by
  obtain ⟨rest, read, -, -⟩ := PacketReader.readRaw_append combatKOReport
    (report reason chestHealth) (5, 0, reason, chestHealth) [] (List.append_nil _).symm
  exact ⟨rest, read⟩

def client : GameClient where
  gameLoaded := true
  registry := ({} : EntityRegistry).registerRemote 5 EntityType.PlayerCharacter 1 {}

def pages : CodePages := ⟨fun _ => [], fun _ => []⟩

def arrival (reason : UInt8) (chestHealth : F32) : Arrival where
  msg := .combatKO ⟨5, 0, reason, chestHealth⟩
  now := lit 0 1
  render := lit 0 1
  clock _ := lit 0 1

end KnockOut

/-- A chest that keeps its health is reported, and nothing changes anywhere. -/
theorem knockout_chest_unhurt :
    ((KnockOut.server.handleCombatKO KnockOut.reporter
          (KnockOut.report 0 (lit 100 1))).1.entities.lookup 5).map ServerEntity.health
        = some (Function.update (fun _ => lit 100 1) BodyPart.Chest (lit 100 1))
      ∧ ((KnockOut.client.handlePacket KnockOut.pages
          (KnockOut.arrival 0 (lit 100 1))).registry.getInfo 5).map EntityInfo.limbs
        = some (Function.update (fun _ => lit 100 1) BodyPart.Chest (lit 100 1)) := by
  obtain ⟨rest, read⟩ := KnockOut.report_read 0 (lit 100 1)
  have accepted : KnockOut.server.mayReport KnockOut.reporter 5 0 = true := by decide +kernel
  have stored : KnockOut.server.entities.lookup 5 = some { id := 5, owner := 1 } := rfl
  refine (knockout_chest_iff KnockOut.server KnockOut.reporter stored read accepted
    KnockOut.pages KnockOut.client rfl rfl (KnockOut.arrival 0 (lit 100 1)) ?_).mpr
    ⟨⟨rfl, rfl⟩, .inl (by decide)⟩
  rw [handleCombatKO_eq read accepted]
  exact List.mem_singleton_self _

/-- A chest at -20 is reported: the server writes the head and leaves the chest, and for a reason
that is no body part the client writes nothing. -/
theorem knockout_chest_fails :
    ((KnockOut.server.handleCombatKO KnockOut.reporter
          (KnockOut.report 0 (lit (-20) 1))).1.entities.lookup 5).map ServerEntity.health
        ≠ some (Function.update (fun _ => lit 100 1) BodyPart.Chest (lit (-20) 1))
      ∧ ((KnockOut.client.handleCombatKO ⟨5, 0, 7, lit (-20) 1⟩).registry.getInfo 5).map EntityInfo.limbs
        ≠ some (Function.update (fun _ => lit 100 1) BodyPart.Chest (lit (-20) 1)) := by
  have healthy : (lit 100 1 : F32) ≠ lit (-20) 1 := by decide +kernel
  constructor
  · obtain ⟨rest, read⟩ := KnockOut.report_read 0 (lit (-20) 1)
    have accepted : KnockOut.server.mayReport KnockOut.reporter 5 0 = true := by decide +kernel
    have stored : KnockOut.server.entities.lookup 5 = some { id := 5, owner := 1 } := rfl
    exact fun same => healthy ((chest_written_iff stored read accepted).mp same).1
  · have known : ∃ info, KnockOut.client.registry.getInfo 5 = some info
        ∧ info.limbs = fun _ => lit 100 1 := ⟨_, rfl, rfl⟩
    obtain ⟨info, known, limbs⟩ := known
    rw [← limbs]
    refine fun same => (limbs_written_iff known).mp same |>.elim (by decide) fun chest => ?_
    rw [limbs] at chest
    exact healthy chest

end KenshiMP
