/-
**What a late joiner is told about the health of an entity.**

The server keeps two arrays of health. An announcement of a stored entity has the first one. Attacks
write it, a knockout report writes its first element, and a report about the limbs writes the other
array. What the clients that were connected have been told (`told`) follows the messages instead.
`lateJoiners_iff` says which packets keep the two the same.

Whether a message about a knockout is about the chest, as the clients take it, or about the part it
names is left open: `about` is either.
-/

import KenshiMP.KnockOuts
import KenshiMP.Server.Effects

namespace KenshiMP

open Assoc
open ServerAuthorityValidator

/-! ### What the clients are told -/

/-- The limb that a message about a knockout is about. -/
abbrev KnockedPart := MsgCombatKO → Fin 7

/-- What a message says about the limbs of an entity, one value for each. -/
def S2C.tellHealth (about : KnockedPart) (id : EntityID) (told : Fin 7 → F32) : S2C → Fin 7 → F32
  | .limbHealth msg => if msg.entityId = id then msg.health else told
  | .combatHit msg =>
    if hit : msg.targetId = id ∧ msg.bodyPart.toNat < 7 then
      Function.update told ⟨msg.bodyPart.toNat, hit.2⟩ msg.resultHealth
    else told
  | .combatKO msg =>
    if msg.entityId = id then Function.update told (about msg) msg.resultHealth else told
  | _ => told

def Call.tellHealth (about : KnockedPart) (id : EntityID) (told : Fin 7 → F32) : Call → Fin 7 → F32
  | .broadcast packet | .send _ packet => packet.msg.tellHealth about id told
  | .disconnect _ | .disconnectLater _ => told

namespace GameServer

variable (server : GameServer)

/-! ### The packets -/

/-- A packet that affects health, from a player. -/
inductive HealthPacket where
  | limbHealth (player : ConnectedPlayer) (reader : PacketReader)
  | combatKO (player : ConnectedPlayer) (reader : PacketReader)
  | attackIntent (player : ConnectedPlayer) (reader : PacketReader) (dice : Dice)

def handleHealth : HealthPacket → Outcome
  | .limbHealth player reader => server.handleLimbHealth player reader
  | .combatKO player reader => server.handleCombatKO player reader
  | .attackIntent player reader dice => server.handleAttackIntent player reader dice

/-- The server, and what the clients that were connected have been told about one entity. -/
structure Ward where
  server : GameServer
  told : Fin 7 → F32

def Ward.step (about : KnockedPart) (id : EntityID) (ward : Ward) (packet : HealthPacket) : Ward where
  server := (ward.server.handleHealth packet).1
  told := (ward.server.handleHealth packet).2.foldl (Call.tellHealth about id) ward.told

def wardMachine (about : KnockedPart) (id : EntityID) : Machine Ward HealthPacket Empty where
  step ward packet := (ward.step about id packet, [])

/-- The clients have been told what the server has at the start. -/
def ward (id : EntityID) : Ward where
  server := server
  told := ((server.entities.lookup id).map ServerEntity.health).getD fun _ => lit 100 1

/-- An announcement of the entity has what the clients have been told. -/
def Ward.UpToDate (id : EntityID) (ward : Ward) : Prop :=
  ∀ entity, ward.server.entities.lookup id = some entity → (entityRecord entity).health = ward.told

/-! ### Which packets are accepted -/

/-- Somebody is told about the limbs: a player other than the reporter. -/
def HasAudience (player : ConnectedPlayer) : Prop :=
  ∃ key other, server.players.lookup key = some other ∧ key ≠ player.id

/-- The attack is allowed, and within reach. -/
def acceptsAttack (player : ConnectedPlayer) (msg : MsgAttackIntent) (target : ServerEntity) : Bool :=
  canClientCommandEntity player.id msg.attackerId server.entities && target.alive
    && match server.entities.lookup msg.attackerId with
      | none => false
      | some attacker =>
        let maxDist := if msg.attackType = 1 then lit 150 1 else lit 15 1
        !(maxDist.mul maxDist).lt (attacker.position.distSq target.position)

/-- The message about a knockout in an attack. -/
def attackKO (msg : MsgAttackIntent) (result : CombatResult) : MsgCombatKO :=
  ⟨msg.targetId, msg.attackerId, UInt8.ofNat result.hitPart.val, result.resultHealth⟩

/-- A packet about another entity, or one that is not accepted, is harmless. So is a report about limbs
with the values that the server has, or without an audience; a knockout report about the part that is
written, or with a value that both parts have already; and an attack, unless it knocks the target out
and says so about a part that has another value. -/
def Harmless (about : KnockedPart) (id : EntityID) (ward : Ward) : HealthPacket → Prop
  | .limbHealth player reader =>
    ∀ msg rest entity, reader.readRaw MsgLimbHealth.codec = some (msg, rest) → msg.entityId = id →
      ward.server.entities.lookup id = some entity → entity.owner = player.id →
      ward.server.HasAudience player → entity.health = msg.health
  | .combatKO player reader =>
    ∀ attacker reason health rest entity,
      reader.readRaw combatKOReport = some ((id, attacker, reason, health), rest) →
      ward.server.entities.lookup id = some entity →
      ward.server.mayReport player id attacker = true →
      about ⟨id, attacker, reason, health⟩ = 0
        ∨ entity.health 0 = health ∧ entity.health (about ⟨id, attacker, reason, health⟩) = health
  | .attackIntent player reader dice =>
    ∀ msg rest target, reader.readRaw MsgAttackIntent.codec = some (msg, rest) → msg.targetId = id →
      ward.server.entities.lookup id = some target →
      ward.server.acceptsAttack player msg target = true →
      (resolveCombat target dice).1.wasDeath = false → (resolveCombat target dice).1.wasKO = true →
      (resolveCombat target dice).2.health (about (attackKO msg (resolveCombat target dice).1))
        = (resolveCombat target dice).1.resultHealth

variable {server} {about : KnockedPart} {id : EntityID} {ward : Ward}

/-! ### What each handler does -/

/-- A report about limbs goes to all players but one. -/
theorem told_broadcastExcept (player : ConnectedPlayer) (channel : Nat) (msg : S2C)
    (told : Fin 7 → F32) (same : ∀ values, msg.tellHealth about id (msg.tellHealth about id values)
      = msg.tellHealth about id values) :
    (server.HasAudience player → (server.broadcastExcept player.id channel msg).foldl
          (Call.tellHealth about id) told = msg.tellHealth about id told)
      ∧ (¬ server.HasAudience player → server.broadcastExcept player.id channel msg = []) := by
  have all : ∀ call ∈ server.broadcastExcept player.id channel msg, ∀ values,
      call.tellHealth about id values = msg.tellHealth about id values := by
    intro call inside values
    obtain ⟨⟨key, other⟩, -, made⟩ := List.mem_filterMap.mp inside
    simp only at made
    split_ifs at made
    cases made
    rfl
  have settled (calls : List Call) (each : ∀ call ∈ calls, ∀ values,
      call.tellHealth about id values = msg.tellHealth about id values) :
      calls.foldl (Call.tellHealth about id) (msg.tellHealth about id told)
        = msg.tellHealth about id told := by
    induction calls with
    | nil => rfl
    | cons call rest ih =>
      rw [List.foldl_cons, each call List.mem_cons_self, same]
      exact ih fun other inside => each other (List.mem_cons_of_mem _ inside)
  constructor
  · rintro ⟨key, other, stored, different⟩
    have member : .send other.peer ⟨channel, true, msg⟩ ∈ server.broadcastExcept player.id channel msg :=
      List.mem_filterMap.mpr ⟨(key, other), AMap.mem_toList.mpr stored, if_neg different⟩
    cases calls : server.broadcastExcept player.id channel msg with
    | nil =>
      rw [calls] at member
      cases member
    | cons call rest =>
      rw [calls] at all
      rw [List.foldl_cons, all call List.mem_cons_self]
      exact settled rest fun other inside => all other (List.mem_cons_of_mem _ inside)
  · intro nobody
    refine List.filterMap_eq_nil_iff.mpr fun ⟨key, other⟩ stored => ?_
    refine if_pos (by_contra fun different => nobody ⟨key, other, AMap.mem_toList.mp stored, different⟩)

/-- A packet that does nothing. -/
theorem step_idle {packet : HealthPacket} (idle : ward.server.handleHealth packet = (ward.server, [])) :
    ward.step about id packet = ward := by
  unfold Ward.step
  rw [idle]
  rfl

/-- Where one entity is written and something is told, what counts is the entity itself. -/
theorem upToDate_written {packet : HealthPacket} {key : EntityID} {f : ServerEntity → ServerEntity}
    {calls : List Call}
    (written : ward.server.handleHealth packet = (ward.server.updateEntity key f, calls)) :
    (ward.step about id packet).UpToDate id
      ↔ ∀ entity, ward.server.entities.lookup id = some entity →
        (if id = key then f entity else entity).health
          = calls.foldl (Call.tellHealth about id) ward.told := by
  unfold Ward.step Ward.UpToDate
  rw [written]
  show (∀ entity, (AMap.modify key f ward.server.entities).lookup id = some entity → _) ↔ _
  rw [AMap.lookup_modify]
  constructor
  · intro fresh entity stored
    exact fresh _ (by rw [stored]; rfl)
  · intro fresh entity stored
    obtain ⟨old, before, rfl⟩ := Option.map_eq_some_iff.mp stored
    exact fresh old before

section Wounds

variable (fresh : ward.UpToDate id) (player : ConnectedPlayer) (reader : PacketReader)

include fresh

/-- A report about limbs. -/
theorem limbHealth_step :
    (ward.step about id (.limbHealth player reader)).UpToDate id
      ↔ Harmless about id ward (.limbHealth player reader) := by
  cases read : reader.readRaw MsgLimbHealth.codec with
  | none =>
    have idle : ward.server.handleHealth (.limbHealth player reader) = (ward.server, []) := by
      show ward.server.handleLimbHealth player reader = _
      unfold handleLimbHealth onMessage
      rw [read]
    rw [step_idle idle]
    refine iff_of_true fresh fun msg rest entity found => ?_
    rw [read] at found
    cases found
  | some found =>
    obtain ⟨msg, rest⟩ := found
    cases mine : ward.server.owns player msg.entityId with
    | false =>
      have idle : ward.server.handleHealth (.limbHealth player reader) = (ward.server, []) := by
        show ward.server.handleLimbHealth player reader = _
        unfold handleLimbHealth onMessage
        rw [read]
        simp only
        rw [mine]
        rfl
      rw [step_idle idle]
      refine iff_of_true fresh fun other rest' entity found here stored owner _ => ?_
      rw [read] at found
      cases found
      unfold owns at mine
      rw [here, stored] at mine
      exact absurd owner (of_decide_eq_false mine)
    | true =>
      have written : ward.server.handleHealth (.limbHealth player reader)
          = (ward.server.updateEntity msg.entityId fun entity =>
              { entity with limbHealth := msg.health },
            ward.server.broadcastExcept player.id KMP_CHANNEL_RELIABLE_UNORDERED
              (.limbHealth msg)) := by
        show ward.server.handleLimbHealth player reader = _
        unfold handleLimbHealth onMessage
        rw [read]
        simp only
        rw [mine]
        rfl
      have repeated (values : Fin 7 → F32) :
          (S2C.limbHealth msg).tellHealth about id ((S2C.limbHealth msg).tellHealth about id values)
            = (S2C.limbHealth msg).tellHealth about id values := by
        show (if msg.entityId = id then msg.health
          else if msg.entityId = id then msg.health else values)
            = if msg.entityId = id then msg.health else values
        split_ifs <;> rfl
      obtain ⟨heard, unheard⟩ := @told_broadcastExcept ward.server about id player
        KMP_CHANNEL_RELIABLE_UNORDERED (.limbHealth msg) ward.told repeated
      have told : (S2C.limbHealth msg).tellHealth about id ward.told
          = if msg.entityId = id then msg.health else ward.told := rfl
      rw [told] at heard
      have untouched (entity : ServerEntity) :
          (if id = msg.entityId then { entity with limbHealth := msg.health } else entity).health
            = entity.health := by
        split_ifs <;> rfl
      rw [upToDate_written written]
      simp only [untouched]
      by_cases audience : ward.server.HasAudience player
      · rw [heard audience]
        by_cases here : msg.entityId = id
        · rw [if_pos here]
          constructor
          · intro same other rest' entity found _ stored _ _
            rw [read] at found
            cases found
            exact same entity stored
          · intro harmless entity stored
            refine harmless msg rest entity read here stored ?_ audience
            unfold owns at mine
            rw [here, stored] at mine
            exact of_decide_eq_true mine
        · rw [if_neg here]
          refine iff_of_true (fun entity stored => fresh entity stored) ?_
          intro other rest' entity found here'
          rw [read] at found
          cases found
          exact absurd here' here
      · rw [unheard audience]
        exact iff_of_true (fun entity stored => fresh entity stored)
          fun _ _ _ _ _ _ _ heard => absurd heard audience

/-- A report about a knockout. -/
theorem combatKO_step :
    (ward.step about id (.combatKO player reader)).UpToDate id
      ↔ Harmless about id ward (.combatKO player reader) := by
  cases read : reader.readRaw combatKOReport with
  | none =>
    have idle : ward.server.handleHealth (.combatKO player reader) = (ward.server, []) := by
      show ward.server.handleCombatKO player reader = _
      unfold handleCombatKO onMessage
      rw [read]
    rw [step_idle idle]
    refine iff_of_true fresh fun attacker reason health rest entity found => ?_
    rw [read] at found
    cases found
  | some found =>
    obtain ⟨⟨victim, attacker, reason, health⟩, rest⟩ := found
    cases may : ward.server.mayReport player victim attacker with
    | false =>
      have idle : ward.server.handleHealth (.combatKO player reader) = (ward.server, []) := by
        show ward.server.handleCombatKO player reader = _
        unfold handleCombatKO onMessage
        rw [read]
        simp only
        rw [may]
        rfl
      rw [step_idle idle]
      refine iff_of_true fresh fun attacker' reason' health' rest' entity found _ accepted => ?_
      rw [read] at found
      cases found
      rw [may] at accepted
      cases accepted
    | true =>
      have written := handleCombatKO_eq read may
      have written : ward.server.handleHealth (.combatKO player reader) = _ := written
      rw [upToDate_written written]
      have told : (broadcast KMP_CHANNEL_RELIABLE_UNORDERED
            (.combatKO ⟨victim, attacker, reason, health⟩)).foldl (Call.tellHealth about id) ward.told
          = if victim = id then
              Function.update ward.told (about ⟨victim, attacker, reason, health⟩) health
            else ward.told := rfl
      rw [told]
      by_cases here : victim = id
      · subst here
        simp only [if_true]
        constructor
        · intro same attacker' reason' health' rest' entity found stored _
          rw [read] at found
          cases found
          have values := same entity stored
          have before : entity.health = ward.told := fresh entity stored
          rw [← before] at values
          exact ((update_eq_update_iff _ _ _ _).mp values).imp Eq.symm fun both => both
        · intro harmless entity stored
          have before : entity.health = ward.told := fresh entity stored
          rw [← before]
          exact (update_eq_update_iff _ _ _ _).mpr
            ((harmless attacker reason health rest entity read stored may).imp Eq.symm fun both => both)
      · rw [if_neg here]
        have elsewhere : ¬ id = victim := fun same => here same.symm
        simp only [if_neg elsewhere]
        refine iff_of_true (fun entity stored => fresh entity stored) ?_
        intro attacker' reason' health' rest' entity found
        rw [read] at found
        cases found
        exact absurd rfl here

end Wounds

/-- An attack that is not accepted does nothing; one that is accepted strikes its target. -/
theorem handleAttackIntent_eq {player : ConnectedPlayer} {reader rest : PacketReader}
    {msg : MsgAttackIntent} (read : reader.readRaw MsgAttackIntent.codec = some (msg, rest))
    (dice : Dice) :
    server.handleAttackIntent player reader dice
      = match server.entities.lookup msg.targetId with
        | none => (server, [])
        | some target =>
          if server.acceptsAttack player msg target then
            (server.updateEntity msg.targetId fun _ => (resolveCombat target dice).2,
              attackMessages msg (resolveCombat target dice).1)
          else (server, []) := by
  unfold handleAttackIntent onMessage acceptsAttack
  rw [read]
  simp only
  cases canClientCommandEntity player.id msg.attackerId server.entities with
  | false => cases server.entities.lookup msg.targetId <;> rfl
  | true =>
    simp only [Bool.not_true, Bool.false_eq_true, if_false, Bool.true_and]
    cases server.entities.lookup msg.attackerId with
    | none =>
      cases server.entities.lookup msg.targetId with
      | none => rfl
      | some target => simp
    | some attacker =>
      cases server.entities.lookup msg.targetId with
      | none => rfl
      | some target =>
        simp only
        cases target.alive with
        | false => rfl
        | true =>
          simp only [Bool.not_true, Bool.false_eq_true, if_false, Bool.true_and]
          split_ifs with far <;> simp_all

/-- What the messages about an attack say: the part that was hit, and for a knockout the part that it
is about. -/
theorem told_attackMessages (msg : MsgAttackIntent) (result : CombatResult) (told : Fin 7 → F32) :
    (attackMessages msg result).foldl (Call.tellHealth about id) told
      = if msg.targetId = id then
          let hit := Function.update told result.hitPart result.resultHealth
          if result.wasDeath = false ∧ result.wasKO = true then
            Function.update hit (about (attackKO msg result)) result.resultHealth
          else hit
        else told := by
  have inside : (UInt8.ofNat result.hitPart.val).toNat = result.hitPart.val := by
    rw [UInt8.toNat_ofNat']
    exact Nat.mod_eq_of_lt (by have := result.hitPart.isLt; omega)
  have hit : (broadcast KMP_CHANNEL_RELIABLE_UNORDERED (.combatHit ⟨msg.attackerId, msg.targetId,
        UInt8.ofNat result.hitPart.val, result.cutDamage, result.bluntDamage, result.pierceDamage,
        result.resultHealth, result.wasBlocked, result.wasKO⟩)).foldl (Call.tellHealth about id) told
      = if msg.targetId = id then Function.update told result.hitPart result.resultHealth
        else told := by
    show (if hit : msg.targetId = id ∧ (UInt8.ofNat result.hitPart.val).toNat < 7 then _ else told) = _
    by_cases here : msg.targetId = id
    · rw [if_pos here, dif_pos ⟨here, by rw [inside]; exact result.hitPart.isLt⟩]
      congr 1
      exact Fin.ext inside
    · rw [if_neg here, dif_neg fun both => here both.1]
  unfold attackMessages
  rw [List.foldl_append, hit]
  cases result.wasDeath with
  | true => simp [broadcast, Call.tellHealth, S2C.tellHealth]
  | false =>
    cases result.wasKO with
    | false => simp
    | true =>
      by_cases here : msg.targetId = id
      · simp [broadcast, Call.tellHealth, S2C.tellHealth, attackKO, here]
      · simp [broadcast, Call.tellHealth, S2C.tellHealth, here]

/-- An attack. -/
theorem attackIntent_step (fresh : ward.UpToDate id) (player : ConnectedPlayer)
    (reader : PacketReader) (dice : Dice) :
    (ward.step about id (.attackIntent player reader dice)).UpToDate id
      ↔ Harmless about id ward (.attackIntent player reader dice) := by
  have idle (idle : ward.server.handleAttackIntent player reader dice = (ward.server, []))
      (vacuous : Harmless about id ward (.attackIntent player reader dice)) :
      (ward.step about id (.attackIntent player reader dice)).UpToDate id
        ↔ Harmless about id ward (.attackIntent player reader dice) := by
    have idle : ward.server.handleHealth (.attackIntent player reader dice) = _ := idle
    rw [step_idle idle]
    exact iff_of_true fresh vacuous
  cases read : reader.readRaw MsgAttackIntent.codec with
  | none =>
    refine idle ?_ fun msg rest target found => ?_
    · unfold handleAttackIntent onMessage
      rw [read]
    · rw [read] at found
      cases found
  | some found =>
    obtain ⟨msg, rest⟩ := found
    have handled := @handleAttackIntent_eq ward.server player reader rest msg read dice
    cases aimed : ward.server.entities.lookup msg.targetId with
    | none =>
      rw [aimed] at handled
      refine idle handled fun other rest' target found here stored => ?_
      rw [read] at found
      cases found
      rw [here, stored] at aimed
      cases aimed
    | some target =>
      rw [aimed] at handled
      simp only at handled
      cases accepted : ward.server.acceptsAttack player msg target with
      | false =>
        rw [accepted] at handled
        refine idle handled fun other rest' entity found here stored accepts => ?_
        rw [read] at found
        cases found
        rw [here, stored] at aimed
        cases aimed
        rw [accepted] at accepts
        cases accepts
      | true =>
        rw [accepted, if_pos rfl] at handled
        have written : ward.server.handleHealth (.attackIntent player reader dice) = _ := handled
        rw [upToDate_written written, told_attackMessages]
        by_cases here : msg.targetId = id
        · subst here
          have before : target.health = ward.told := fresh target aimed
          have hurt : (resolveCombat target dice).2.health = Function.update ward.told
              (resolveCombat target dice).1.hitPart (resolveCombat target dice).1.resultHealth := by
            rw [← before]
            rfl
          simp only [if_true]
          by_cases announced : (resolveCombat target dice).1.wasDeath = false
              ∧ (resolveCombat target dice).1.wasKO = true
          · rw [if_pos announced, ← hurt]
            constructor
            · intro same other rest' entity found _ stored _ _ _
              rw [read] at found
              cases found
              rw [aimed] at stored
              cases stored
              have values := same target aimed
              exact Function.update_eq_self_iff.mp values.symm |>.symm
            · intro harmless entity stored
              have value := harmless msg rest target read rfl aimed accepted announced.1 announced.2
              exact (Function.update_eq_self_iff.mpr value.symm).symm
          · rw [if_neg announced, ← hurt]
            refine iff_of_true (fun _ _ => rfl) fun other rest' entity found _ stored _ alive out => ?_
            rw [read] at found
            cases found
            rw [aimed] at stored
            cases stored
            exact absurd ⟨alive, out⟩ announced
        · have elsewhere : ¬ id = msg.targetId := fun same => here same.symm
          simp only [if_neg here, if_neg elsewhere]
          refine iff_of_true (fun entity stored => fresh entity stored) ?_
          intro other rest' entity found here'
          rw [read] at found
          cases found
          exact absurd here' here

theorem upToDate_step (fresh : ward.UpToDate id) (packet : HealthPacket) :
    (ward.step about id packet).UpToDate id ↔ Harmless about id ward packet := by
  cases packet with
  | limbHealth player reader => exact limbHealth_step fresh player reader
  | combatKO player reader => exact combatKO_step fresh player reader
  | attackIntent player reader dice => exact attackIntent_step fresh player reader dice

/-! ### Every run -/

theorem ward_upToDate (server : GameServer) (id : EntityID) : (server.ward id).UpToDate id := by
  intro entity stored
  unfold GameServer.ward
  have stored : server.entities.lookup id = some entity := stored
  rw [stored]
  rfl

/-- **A late joiner is told what the others have been told, all along a run, exactly if every packet
of the run is harmless.** -/
theorem lateJoiners_iff (about : KnockedPart) (server : GameServer) (id : EntityID)
    (packets : List HealthPacket) :
    (∀ count, ((wardMachine about id).run (server.ward id) (packets.take count)).UpToDate id)
      ↔ (wardMachine about id).Along (Harmless about id) (server.ward id) packets :=
  (@Machine.along_iff _ _ _ (wardMachine about id) (Harmless about id) (Ward.UpToDate id)
    (fun _ packet harmless fresh => (upToDate_step fresh packet).mpr harmless)
    (fun _ packet fresh after => (upToDate_step fresh packet).mp after)
    (server.ward id) (ward_upToDate server id) packets).symm

namespace Ward

/-- The character of the first player is watched by a second one. -/
def watched : GameServer where
  players := AList.insert 2 { KnockOut.reporter with id := 2 } ∅
  entities := AList.insert 5 { id := 5, owner := 1 } ∅

/-- All limbs at 40. -/
def wounds : MsgLimbHealth := ⟨5, fun _ => lit 40 1⟩

end Ward

/-- The first player reports the limbs of a character, or its knockout: the second player is told,
and whoever joins then is not. -/
theorem lateJoiners_fail :
    ¬ ((wardMachine (fun _ => BodyPart.Chest) 5).run (Ward.watched.ward 5)
        [.limbHealth KnockOut.reporter (.start (MsgLimbHealth.codec.encode Ward.wounds))]).UpToDate 5
      ∧ ¬ ((wardMachine (fun _ => BodyPart.Chest) 5).run (Ward.watched.ward 5)
        [.combatKO KnockOut.reporter (KnockOut.report 0 (lit (-20) 1))]).UpToDate 5 := by
  have stored : Ward.watched.entities.lookup 5 = some { id := 5, owner := 1 } := rfl
  constructor
  · intro fresh
    have harmless := (limbHealth_step (ward_upToDate Ward.watched 5) _ _).mp fresh
    obtain ⟨rest, read, -, -⟩ := PacketReader.readRaw_append MsgLimbHealth.codec
      (PacketReader.start (MsgLimbHealth.codec.encode Ward.wounds)) Ward.wounds []
      (List.append_nil _).symm
    have same := harmless Ward.wounds rest _ read rfl stored rfl ⟨2, _, rfl, by decide⟩
    exact absurd (congrFun same 0) (by decide +kernel)
  · intro fresh
    have harmless := (combatKO_step (ward_upToDate Ward.watched 5) _ _).mp fresh
    obtain ⟨rest, read⟩ := KnockOut.report_read 0 (lit (-20) 1)
    rcases harmless 0 0 (lit (-20) 1) rest _ read stored (by decide +kernel) with here | both
    · cases here
    · exact absurd both.1 (by decide +kernel)

end GameServer

end KenshiMP
