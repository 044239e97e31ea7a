/-
**What continues over a whole run.**

* `handedOver`: nobody takes an entity from a player who is there. From one owner to another it goes only when
  the first leaves and the second is then admitted under a name that it is saved for.
* `announcedAlike`: whoever is told of an entity, whenever, is told that it is the same: of this kind, from this
  template, of this faction, with this name. What is announced at a step is stored (`react_describes`), and what
  is stored keeps its nature, under a number that is not handed out again.
-/

import KenshiMP.Answers
import KenshiMP.FreshIds
import KenshiMP.SpawnCodec

namespace KenshiMP

open Wire (Bytes ascii)
open Assoc
open GameServer
open KenshiMP.System

/-! ### Owners -/

/-- Who owns the entity of this identifier, if there is one. -/
def ownerOf (sys : System) (id : EntityID) : Option PlayerID :=
  (sys.server.entities.lookup id).map ServerEntity.owner

/-- This player leaves. -/
def GivesUp (owner : PlayerID) (sys : System) (event : Event) : Prop :=
  ∃ peer player, Leaves sys event peer player ∧ player.id = owner

/-- This player is admitted, under a name that the entity is saved for. -/
def Claims (id : EntityID) (owner : PlayerID) (sys : System) (event : Event) : Prop :=
  ∃ peer name created, HandshakeAdmitted sys event peer name created ∧ id ∈ sys.server.savedIds name
    ∧ sys.server.nextPlayerId = owner

variable {sys : System} {event : Event} {events : List Event} {id : EntityID} {giver taker : PlayerID}

/-- **One step** keeps the owner of an entity, or the owner leaves, or a player claims what nobody owns. -/
theorem ownerOf_next (used : id < sys.server.nextEntityId)
    (owned : ownerOf (machine.next sys event) id = some taker) :
    ownerOf sys id = some taker
      ∨ (∃ owner, ownerOf sys id = some owner ∧ GivesUp owner sys event ∧ taker = 0)
      ∨ ownerOf sys id = some 0 ∧ Claims id taker sys event := by
  obtain ⟨after, found, rfl⟩ := Option.map_eq_some_iff.mp owned
  rcases (sys.next_descends event).origin id after found with ⟨before, stored, change⟩ | ⟨rfl, -⟩
  · have known : ownerOf sys id = some before.owner := congrArg (Option.map ServerEntity.owner) stored
    rw [known]
    cases change with
    | tend tended => exact Or.inl (congrArg some tended.owner.symm)
    | @claim peer name created admitted unowned listed =>
      exact Or.inr (Or.inr ⟨congrArg some unowned, peer, name, created, admitted, listed, rfl⟩)
    | @free peer player leaves own =>
      exact Or.inr (Or.inl ⟨_, rfl, ⟨peer, player, leaves, own.symm⟩, rfl⟩)
    | wound => exact Or.inl rfl
    | strike => exact Or.inl rfl
    | kill => exact Or.inl rfl
  · exact absurd used (UInt32.lt_irrefl _)

section Used

variable (along : machine.Along CounterHolds sys events) (used : id < sys.server.nextEntityId)

include along used

/-- An identifier that is handed out is not handed out again. -/
theorem used_run : id < (machine.run sys events).server.nextEntityId :=
  Machine.run_invariant (motive := fun sys => id < sys.server.nextEntityId)
    (fun _ _ holds below => holds.below below) used along

theorem gone_run (gone : ownerOf sys id = none) : ownerOf (machine.run sys events) id = none := by
  refine (Machine.run_invariant (motive := fun sys => id < sys.server.nextEntityId ∧ ownerOf sys id = none)
    (fun sys event holds now => ⟨holds.below now.1, ?_⟩) ⟨used, gone⟩ along).2
  cases owned : ownerOf (machine.next sys event) id with
  | none => rfl
  | some owner =>
    rcases ownerOf_next now.1 owned with same | ⟨other, known, -⟩ | ⟨known, -⟩
    all_goals
      rw [now.2] at *
      contradiction

end Used

/-- **An entity goes from one player to another** only when the first leaves and the second is admitted later,
under a name that the entity is saved for. -/
theorem handedOver (used : id < sys.server.nextEntityId) (along : machine.Along CounterHolds sys events)
    (before : ownerOf sys id = some giver) (after : ownerOf (machine.run sys events) id = some taker)
    (owned : giver ≠ 0) (given : taker ≠ 0) (other : giver ≠ taker) :
    ∃ first leave middle join last, events = first ++ leave :: (middle ++ join :: last)
      ∧ GivesUp giver (machine.run sys first) leave
      ∧ Claims id taker (machine.run sys (first ++ leave :: middle)) join := by
  obtain ⟨first, leave, rest, rfl, held, lost⟩ :=
    Machine.exists_break (motive := fun sys => ownerOf sys id = some giver) before fun same =>
      other (Option.some.inj (same.symm.trans after))
  obtain ⟨start, here, later⟩ := Machine.along_append.mp along
  have usedHere := used_run start used
  rw [Machine.run_append] at after
  change ownerOf (machine.run (machine.next (machine.run sys first) leave) rest) id = _ at after
  cases next : ownerOf (machine.next (machine.run sys first) leave) id with
  | none =>
    rw [gone_run later (here.below usedHere) next] at after
    cases after
  | some owner =>
    rcases ownerOf_next usedHere next with same | ⟨_, known, leaves, rfl⟩ | ⟨nobody, -⟩
    · exact absurd (next.trans (same.symm.trans held)) lost
    · rw [held] at known
      cases known
      obtain ⟨middle, join, last, rfl, free, claimed⟩ :=
        Machine.exists_break (motive := fun sys => ownerOf sys id ≠ some taker)
          (by rw [next]; exact fun same => given (Option.some.inj same).symm) (not_not.mpr after)
      refine ⟨first, leave, middle, join, last, rfl, leaves, ?_⟩
      rw [Machine.run_append]
      rcases ownerOf_next (used_run (Machine.along_append.mp later).1 (here.below usedHere)) (not_not.mp claimed)
        with same | ⟨_, _, _, zero⟩ | ⟨-, claims⟩
      · exact absurd same free
      · exact absurd zero given
      · exact claims
    · exact absurd (Option.some.inj (held.symm.trans nobody)) owned

/-- Somebody joins and gets a character. -/
def withCharacter : System :=
  machine.run (boot {} none) (Client.joins 0 (ascii "Beep") ++ [Client.spawns 0 {}])

/-- They leave, and the next player of their name gets it. -/
theorem handedOver_namesake : ∃ first leave middle join last,
    .disconnect 0 :: Client.joins 1 (ascii "Beep") = first ++ leave :: (middle ++ join :: last)
      ∧ GivesUp 1 (machine.run withCharacter first) leave
      ∧ Claims 1 2 (machine.run withCharacter (first ++ leave :: middle)) join := by
  refine handedOver (by decide +kernel) ⟨?_, ?_, ?_, trivial⟩ (by decide +kernel) (by decide +kernel) (by decide)
    (by decide) (by decide)
  all_goals
    intro new created
    decide +kernel

/-! ### What an entity is -/

/-- What an announcement says an entity is: its kind, its template, its faction and its name. -/
def SpawnRecord.nature (record : SpawnRecord) : UInt8 × UInt32 × UInt32 × Bytes :=
  (record.type, record.templateId, record.factionId, record.templateName)

/-- An entity of this number is stored, and it is what the announcement says. -/
def Describes (record : SpawnRecord) (server : GameServer) : Prop :=
  ∃ entity, server.entities.lookup record.entityId = some entity ∧ (entityRecord entity).nature = record.nature

open Classical in
/-- The message announces what is not stored. -/
noncomputable def misleads (server : GameServer) : S2C → Bool
  | .entitySpawn record => decide ¬ Describes record server
  | _ => false

variable {server : GameServer} {record : SpawnRecord}

theorem misleads_eq_false : misleads server (.entitySpawn record) = false ↔ Describes record server := by
  unfold misleads
  rw [decide_eq_false_iff_not, not_not]

theorem misleads_other {msg : S2C} (none : msg.introduces = false) : misleads server msg = false := by
  cases msg with
  | entitySpawn record => cases none
  | _ => rfl

theorem describes_stored (fresh : Fresh server) (id : EntityID) (entity : ServerEntity)
    (stored : server.entities.lookup id = some entity) :
    misleads server (.entitySpawn (entityRecord entity)) = false := by
  refine misleads_eq_false.mpr ⟨entity, ?_, rfl⟩
  show server.entities.lookup entity.id = _
  rw [(fresh id entity stored).1, stored]

/-- Whatever is announced at a step is stored after it. -/
theorem react_describes (fresh : Fresh (machine.next sys event).server) :
    Without (misleads (machine.next sys event).server) (machine.emit sys event) := by
  have told {outcome : Links × Outcome} (reaction : Reaction sys event outcome) (fresh : Fresh outcome.2.1) :
      Without (misleads outcome.2.1) outcome.2.2 := by
    cases reaction with
    | tend _ _ _ quiet => exact without_quiet (fun _ _ => misleads_other) quiet
    | cleanUp _ _ _ _ quiet =>
      exact (without_quiet (fun _ _ => misleads_other) quiet).append (without_cleanUp (fun _ _ => misleads_other) _)
    | message _ _ _ effect =>
      refine effect.without (fun _ _ => misleads_other) (describes_stored fresh) fun request read there =>
        misleads_eq_false.mpr ⟨_, there, ?_⟩
      -- The server stores and announces at most 255 bytes of a name, and it has read no more.
      have short : request.templateName.take 255 = request.templateName :=
        List.take_of_length_le (readSpawnRequest_name read)
      unfold SpawnRequest.entity spawnedEntity entityRecord SpawnRecord.nature SpawnRequest.record
      cases request.extended with
      | none => simp only [short]
      | some extended => simp only [short]
    | @seatPlayer peer data channel env reader rest msg received opened read admitted =>
      have same := seatPlayer_spec sys.server peer (sanitizeName msg.playerName.1) env.created
      have joined := hosted_spec sys.server peer (sanitizeName msg.playerName.1)
      exact seatPlayer_without (fun _ _ => misleads_other) _ (without_snapshot _ _ (fun id entity stored =>
        describes_stored fresh id entity ((same.entities id).trans ((joined.entities id).symm.trans stored)))
          fun _ => rfl)
    | connect absent =>
      intro slot packet inside
      rw [(handleConnect_spec _ _).2] at inside
      cases inside
    | leave => exact removePlayer_without (fun _ _ => misleads_other) _
    | depart => exact without_nil
  exact told (sys.react_reaction event) fresh

/-- Somebody is sent the announcement. -/
def ToldOf (calls : List Call) (record : SpawnRecord) : Prop :=
  ∃ peer, ∃ packet ∈ inbox peer calls, packet.msg = .entitySpawn record

theorem told_append {first second : List Call} (told : ToldOf (first ++ second) record) :
    ToldOf first record ∨ ToldOf second record := by
  obtain ⟨peer, packet, inside, same⟩ := told
  rw [inbox_append] at inside
  exact (List.mem_append.mp inside).imp (⟨peer, packet, ·, same⟩) (⟨peer, packet, ·, same⟩)

theorem told_describes (fresh : Fresh (machine.next sys event).server)
    (told : ToldOf (machine.emit sys event) record) :
    Describes record (machine.next sys event).server := by
  obtain ⟨peer, packet, inside, same⟩ := told
  have right := react_describes fresh peer packet inside
  rw [same] at right
  exact misleads_eq_false.mp right

/-- What is so after a step was so before it, of an identifier that had been handed out. -/
theorem Describes.earlier (used : record.entityId < sys.server.nextEntityId)
    (describes : Describes record (machine.next sys event).server) : Describes record sys.server := by
  obtain ⟨entity, stored, same⟩ := describes
  rcases (sys.next_descends event).origin _ entity stored with ⟨before, found, change⟩ | ⟨new, -⟩
  · obtain ⟨-, -, type, -, -, template, faction, name⟩ := change.core
    refine ⟨before, found, ?_⟩
    rw [← same]
    unfold SpawnRecord.nature entityRecord
    rw [type, template, faction, name]
  · exact absurd (new ▸ used) (UInt32.lt_irrefl _)

/-- Whatever is announced later under an identifier that has been handed out is what it is now. -/
theorem told_known (fresh : Fresh sys.server) (positive : sys.server.nextEntityId ≠ 0)
    (along : machine.Along CounterHolds sys events) (told : ToldOf (machine.outputs sys events) record)
    (used : record.entityId < sys.server.nextEntityId) : Describes record sys.server := by
  induction events generalizing sys with
  | nil =>
    obtain ⟨peer, packet, inside, -⟩ := told
    cases inside
  | cons event rest ih =>
    obtain ⟨fresh', positive'⟩ := fresh.next positive along.1
    have next : Describes record (machine.next sys event).server := (told_append told).elim (told_describes fresh')
      fun later => ih fresh' positive' along.2 later (along.1.below used)
    exact next.earlier used

/-- **All announcements of an entity agree**, to whomever and whenever they are sent. -/
theorem announcedAlike (fresh : Fresh sys.server) (positive : sys.server.nextEntityId ≠ 0)
    (along : machine.Along CounterHolds sys events) {one two : SpawnRecord}
    (first : ToldOf (machine.outputs sys events) one) (second : ToldOf (machine.outputs sys events) two)
    (same : one.entityId = two.entityId) : one.nature = two.nature := by
  induction events generalizing sys with
  | nil =>
    obtain ⟨peer, packet, inside, -⟩ := first
    cases inside
  | cons event rest ih =>
    obtain ⟨fresh', positive'⟩ := fresh.next positive along.1
    have agree {one two : SpawnRecord} (now : ToldOf (machine.emit sys event) one)
        (told : ToldOf (machine.outputs sys (event :: rest)) two) (same : one.entityId = two.entityId) :
        one.nature = two.nature := by
      obtain ⟨entity, stored, nature⟩ := told_describes fresh' now
      obtain ⟨again, found, nature'⟩ : Describes two (machine.next sys event).server :=
        (told_append told).elim (told_describes fresh') fun later =>
          told_known fresh' positive' along.2 later (same ▸ (fresh' _ _ stored).2.2)
      rw [← same, stored] at found
      cases found
      exact nature.symm.trans nature'
    rcases told_append first with now | later
    · exact agree now second same
    · rcases told_append second with now | later'
      · exact (agree now first same.symm).symm
      · exact ih fresh' positive' along.2 later later'

/-- A character is announced when it is new, and to a player who comes later. -/
def meeting : List Event := Client.joins 0 (ascii "Beep") ++ [Client.spawns 0 {}] ++ Client.joins 1 (ascii "Ruka")

theorem announcedAlike_meeting : ∃ record, ToldOf (machine.outputs (boot {} none) meeting) record
    ∧ ∀ other, ToldOf (machine.outputs (boot {} none) meeting) other → record.entityId = other.entityId →
      record.nature = other.nature := by
  obtain ⟨fresh, positive⟩ := boot_fresh {} none rfl
  have told : ToldOf (machine.outputs (boot {} none) meeting)
      (entityRecord ((withCharacter.server.entities.lookup 1).getD {})) :=
    ⟨0, ⟨KMP_CHANNEL_RELIABLE_ORDERED, true, _⟩, by decide +kernel, rfl⟩
  have along : machine.Along CounterHolds (boot {} none) meeting := by
    refine ⟨?_, ?_, ?_, ?_, ?_, trivial⟩
    all_goals
      intro new created
      decide +kernel
  exact ⟨_, told, fun other => announcedAlike fresh positive along told⟩

end KenshiMP
