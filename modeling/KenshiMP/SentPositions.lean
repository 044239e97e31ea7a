/-
**Whether what a client has sent is where its characters are.**

The senders compare a character with the last position in the registry, so that must be the last
position handed to the network (`Synced`). Announcements and the poll keep this. The background read
and the teleport to the host write the registry and hand nothing over, and what they write is never
sent (`sentPositions_swallowed`). In a run in which they find nothing to write, the registry stays
what was sent, and after every poll what was sent is where the characters are
(`sentPositions`).
-/

import KenshiMP.Client.RegistryFacts
import KenshiMP.Client.Senders

namespace KenshiMP

open Assoc
open SyncOrchestrator
open EntityRegistry

/-! ### What was handed over -/

/-- The last position handed to the network for an entity. -/
def lastHanded (handed : List (EntityID × Vec3)) (id : EntityID) : Option Vec3 :=
  ((handed.filter fun entry => entry.1 = id).getLast?).map Prod.snd

theorem lastHanded_append (handed : List (EntityID × Vec3)) (netId id : EntityID) (pos : Vec3) :
    lastHanded (handed ++ [(netId, pos)]) id
      = if id = netId then some pos else lastHanded handed id := by
  unfold lastHanded
  rw [List.filter_append, List.filter_cons]
  by_cases same : id = netId
  · rw [if_pos same, if_pos (decide_eq_true same.symm)]
    show ((_ ++ [(netId, pos)]).getLast?).map Prod.snd = some pos
    rw [List.getLast?_concat]
    rfl
  · rw [if_neg same, if_neg (by simpa using Ne.symm same)]
    rw [List.filter_nil, List.append_nil]

namespace Tracker

variable {tracker : Tracker}

/-- An entity of the local player that has a game object. -/
def Local (tracker : Tracker) (id : EntityID) (info : EntityInfo) : Prop :=
  tracker.registry.getInfo id = some info ∧ info.ownerPlayerId = tracker.localPlayerId
    ∧ info.gameObject ≠ 0

/-- The registry has the last position that was handed over. -/
def Synced (tracker : Tracker) : Prop :=
  ∀ id info, tracker.Local id info → lastHanded tracker.handed id = some info.lastPosition

/-- What was handed over is where the character is, up to the threshold. -/
def Near (tracker : Tracker) (id : EntityID) : Prop :=
  ∀ info, tracker.Local id info → ∃ sent, lastHanded tracker.handed id = some sent
    ∧ ((tracker.world info.gameObject).pos = sent
      ∨ ((tracker.world info.gameObject).pos.distanceTo sent).lt KMP_POS_CHANGE_THRESHOLD = true)

/-! ### Reports -/

variable {info : EntityInfo} {netId : EntityID} {after : Tracker}

/-- A report settles the entity it is about, and leaves the others as they were. -/
theorem report_info (netId : EntityID) (rd : BGReadResult) {id : EntityID}
    (stored : (tracker.report netId rd).registry.getInfo id = some info) :
    ∃ old, tracker.registry.getInfo id = some old ∧ info.ownerPlayerId = old.ownerPlayerId
      ∧ info.gameObject = old.gameObject
      ∧ info.lastPosition = if id = netId then rd.pos else old.lastPosition := by
  change (tracker.registry.updateTransform netId rd.pos rd.rot).getInfo id = some info at stored
  rw [getInfo_updateTransform] at stored
  obtain ⟨old, found, rfl⟩ := Option.map_eq_some_iff.mp stored
  refine ⟨old, found, ?_⟩
  split_ifs
  · exact ⟨rfl, rfl, rfl⟩
  · exact ⟨rfl, rfl, rfl⟩

theorem Synced.report {netId : EntityID} (synced : ∀ id info, tracker.Local id info → id ≠ netId →
    lastHanded tracker.handed id = some info.lastPosition) (rd : BGReadResult) :
    Synced (tracker.report netId rd) := by
  rintro id info ⟨stored, own, object⟩
  obtain ⟨old, found, owner, same, pos⟩ := report_info netId rd stored
  show lastHanded (tracker.handed ++ [(netId, rd.pos)]) id = _
  rw [lastHanded_append, pos]
  split_ifs with here
  · rfl
  · exact synced id old ⟨found, owner ▸ own, same ▸ object⟩ here

/-! ### Announcements and the poll -/

theorem Synced.announce (synced : Synced tracker) (gameObject : GameObject) (type : UInt8) :
    Synced (tracker.announce gameObject type) := by
  unfold Tracker.announce
  split_ifs
  · exact synced
  · refine Synced.report (fun id info known other => ?_) _
    obtain ⟨stored, own, object⟩ := known
    refine synced id info ⟨?_, own, object⟩
    rw [← getInfo_register tracker.registry other]
    exact stored

theorem reading_some {reading : EntityReading} (read : tracker.reading netId = some reading) :
    tracker.registry.getInfo netId = some reading.info
      ∧ reading.rd = tracker.world reading.info.gameObject := by
  unfold Tracker.reading at read
  cases known : tracker.registry.getInfo netId with
  | none =>
    rw [known] at read
    cases read
  | some info =>
    rw [known] at read
    simp only at read
    split_ifs at read
    cases read
    exact ⟨rfl, rfl⟩

theorem reading_of_local {id : EntityID} (known : tracker.Local id info) :
    tracker.reading id = some ⟨id, info, tracker.world info.gameObject⟩ := by
  obtain ⟨stored, -, object⟩ := known
  unfold Tracker.reading
  rw [stored]
  exact if_neg object

/-- What the poll of one entity does: it takes a game object away, it reports, or nothing is to do,
because there is no object or the character is near enough. -/
inductive Polled (tracker : Tracker) (netId : EntityID) : Tracker → Prop
  | nothing (read : tracker.reading netId = none) : Polled tracker netId tracker
  | near {reading : EntityReading} (read : tracker.reading netId = some reading)
      (close : (reading.rd.pos.distanceTo reading.info.lastPosition).lt KMP_POS_CHANGE_THRESHOLD
        = true) : Polled tracker netId tracker
  | unlink : Polled tracker netId { tracker with registry := tracker.registry.setGameObject netId 0 }
  | report {reading : EntityReading} (read : tracker.reading netId = some reading) :
      Polled tracker netId (tracker.report netId reading.rd)

theorem pollOne_polled (elapsed : Nat) (tracker : Tracker) (netId : EntityID) :
    Polled tracker netId (pollOne elapsed tracker netId) := by
  unfold pollOne
  cases read : tracker.reading netId with
  | none => exact .nothing read
  | some reading =>
    simp only
    cases valid : reading.rd.valid with
    | false => exact .unlink
    | true =>
      cases sent : polled elapsed reading with
      | some pos => exact .report read
      | none =>
        refine .near read ?_
        unfold polled at sent
        rw [valid] at sent
        by_contra far
        rw [show unmoved reading.info reading.rd = false from Bool.not_eq_true _ |>.mp far] at sent
        cases sent

/-- The entities and their owners stay, and so do the other game objects. -/
theorem Polled.owner (done : Polled tracker netId after) {id : EntityID} (known : after.Local id info) :
    ∃ old, tracker.Local id old ∧ info.gameObject = old.gameObject
      ∧ (id ≠ netId → info.lastPosition = old.lastPosition) := by
  cases done with
  | nothing read => exact ⟨info, known, rfl, fun _ => rfl⟩
  | near read close => exact ⟨info, known, rfl, fun _ => rfl⟩
  | unlink =>
    obtain ⟨stored, own, object⟩ := known
    change (tracker.registry.setGameObject netId 0).getInfo id = some info at stored
    rw [getInfo_setGameObject_zero] at stored
    obtain ⟨old, found, rfl⟩ := Option.map_eq_some_iff.mp stored
    by_cases here : id = netId
    · rw [if_pos here] at object
      exact absurd rfl object
    · rw [if_neg here] at own object ⊢
      exact ⟨old, ⟨found, own, object⟩, rfl, fun _ => rfl⟩
  | report read =>
    obtain ⟨stored, own, object⟩ := known
    obtain ⟨old, found, owner, same, pos⟩ := report_info netId _ stored
    exact ⟨old, ⟨found, owner ▸ own, same ▸ object⟩, same, fun other => by rw [pos, if_neg other]⟩

theorem Polled.frame (done : Polled tracker netId after) :
    after.world = tracker.world ∧ after.localPlayerId = tracker.localPlayerId
      ∧ ∀ id, id ≠ netId → lastHanded after.handed id = lastHanded tracker.handed id := by
  cases done with
  | nothing read => exact ⟨rfl, rfl, fun _ _ => rfl⟩
  | near read close => exact ⟨rfl, rfl, fun _ _ => rfl⟩
  | unlink => exact ⟨rfl, rfl, fun _ _ => rfl⟩
  | report read =>
    refine ⟨rfl, rfl, fun id other => ?_⟩
    show lastHanded (tracker.handed ++ _) id = _
    rw [lastHanded_append, if_neg other]

/-- **The poll of one entity** keeps the registry synced, and settles that entity. -/
theorem Synced.polled (synced : Synced tracker)
    (done : Polled tracker netId after) : Synced after ∧ Near after netId := by
  have owner {id : EntityID} {info : EntityInfo} (known : after.Local id info) := done.owner known
  cases done with
  | nothing read =>
    refine ⟨synced, fun info known => ?_⟩
    rw [reading_of_local known] at read
    cases read
  | near read close =>
    refine ⟨synced, fun info known => ⟨_, synced netId info known, Or.inr ?_⟩⟩
    rw [reading_of_local known] at read
    cases read
    exact close
  | unlink =>
    refine ⟨fun id info known => ?_, fun info known => ?_⟩
    · obtain ⟨old, before, -, pos⟩ := owner known
      have other : id ≠ netId := by
        rintro rfl
        obtain ⟨stored, -, object⟩ := known
        change (tracker.registry.setGameObject id 0).getInfo id = some info at stored
        rw [getInfo_setGameObject_zero] at stored
        obtain ⟨entry, -, rfl⟩ := Option.map_eq_some_iff.mp stored
        rw [if_pos rfl] at object
        exact object rfl
      rw [pos other]
      exact synced id old before
    · obtain ⟨stored, -, object⟩ := known
      change (tracker.registry.setGameObject netId 0).getInfo netId = some info at stored
      rw [getInfo_setGameObject_zero] at stored
      obtain ⟨entry, -, rfl⟩ := Option.map_eq_some_iff.mp stored
      rw [if_pos rfl] at object
      exact absurd rfl object
  | @report reading read =>
    refine ⟨Synced.report (fun id info known _ => synced id info known) _, fun info known => ?_⟩
    obtain ⟨old, before, same, -⟩ := owner known
    obtain ⟨found, character⟩ := reading_some read
    obtain rfl : old = reading.info := Option.some.inj (before.1.symm.trans found)
    refine ⟨reading.rd.pos, ?_, Or.inl ?_⟩
    · show lastHanded (tracker.handed ++ [(netId, reading.rd.pos)]) netId = _
      rw [lastHanded_append, if_pos rfl]
    · show (tracker.world info.gameObject).pos = _
      rw [same, character]

/-- The poll of one entity leaves another one settled. -/
theorem Near.polled {netId id : EntityID} (near : Near tracker id) (other : id ≠ netId)
    (done : Polled tracker netId after) : Near after id := by
  intro info known
  obtain ⟨old, before, same, -⟩ := done.owner known
  obtain ⟨world, -, handed⟩ := done.frame
  rw [world, same, handed id other]
  exact near old before

/-- **A whole poll** settles all the entities it goes through. -/
theorem Synced.pollAll (elapsed : Nat) (synced : Synced tracker) (ids : List EntityID) :
    Synced (ids.foldl (pollOne elapsed) tracker)
      ∧ ∀ id, id ∈ ids ∨ Near tracker id → Near (ids.foldl (pollOne elapsed) tracker) id := by
  induction ids generalizing tracker with
  | nil => exact ⟨synced, fun id settled => settled.resolve_left List.not_mem_nil⟩
  | cons netId rest ih =>
    have done := pollOne_polled elapsed tracker netId
    obtain ⟨still, settled⟩ := synced.polled done
    obtain ⟨all, later⟩ := ih still
    refine ⟨all, fun id before => later id ?_⟩
    by_cases here : id = netId
    · exact Or.inr (here ▸ settled)
    · rcases before with inside | near
      · exact Or.inl ((List.mem_cons.mp inside).resolve_left here)
      · exact Or.inr (near.polled here done)

/-- The entities of the local player were there before a poll. -/
theorem local_of_pollAll (elapsed : Nat) (ids : List EntityID) {id : EntityID}
    (known : (ids.foldl (pollOne elapsed) tracker).Local id info) :
    ∃ old, tracker.Local id old := by
  induction ids generalizing tracker with
  | nil => exact ⟨info, known⟩
  | cons netId rest ih =>
    obtain ⟨old, before⟩ := ih known
    obtain ⟨first, local', -⟩ := (pollOne_polled elapsed tracker netId).owner before
    exact ⟨first, local'⟩

theorem Synced.poll (synced : Synced tracker) (now : Nat) :
    Synced (tracker.stagePollAndSendPositions now)
      ∧ (tracker.polls now = true → ∀ id, Near (tracker.stagePollAndSendPositions now) id) := by
  unfold stagePollAndSendPositions
  cases due : tracker.polls now with
  | false => exact ⟨synced, fun run => nomatch run⟩
  | true =>
    have before : Synced { tracker with lastPollTime := now } := synced
    obtain ⟨all, settled⟩ := before.pollAll (now - tracker.lastPollTime)
      (tracker.registry.getPlayerEntities tracker.localPlayerId)
    refine ⟨all, fun _ id info known => settled id (Or.inl ?_) info known⟩
    obtain ⟨old, stored, own, -⟩ := local_of_pollAll _ _ known
    exact (mem_getPlayerEntities _).mpr ⟨old, stored, own⟩

/-! ### Runs -/

/-- The background read finds nobody to have moved, and the teleport has nobody to move. -/
def NothingSwallowed (tracker : Tracker) (event : Event) : Prop :=
  match event with
  | .backgroundReadOne netId => tracker.foundMoved netId = none
  | .hostTeleport now writable => (tracker.startTimer now).teleportDue now = none
      ∨ ∀ id info, tracker.Local id info → writable info.gameObject = false
  | _ => True

structure Tracked (tracker : Tracker) : Prop where
  synced : Synced tracker
  idle : tracker.pendingPositions = []

/-- The registry, the player and what was handed over are as before. -/
theorem Tracked.same {other : Tracker} (tracked : Tracked tracker)
    (registry : other.registry = tracker.registry)
    (localPlayerId : other.localPlayerId = tracker.localPlayerId)
    (handed : other.handed = tracker.handed)
    (pending : other.pendingPositions = tracker.pendingPositions) : Tracked other := by
  refine ⟨?_, pending.trans tracked.idle⟩
  rintro id info ⟨stored, own, object⟩
  rw [handed]
  exact tracked.synced id info ⟨registry ▸ stored, localPlayerId ▸ own, object⟩

theorem startTimer_same (tracker : Tracker) (now : Nat) :
    (tracker.startTimer now).registry = tracker.registry
      ∧ (tracker.startTimer now).localPlayerId = tracker.localPlayerId
      ∧ (tracker.startTimer now).handed = tracker.handed
      ∧ (tracker.startTimer now).pendingPositions = tracker.pendingPositions := by
  unfold startTimer
  split_ifs
  · exact ⟨rfl, rfl, rfl, rfl⟩
  · exact ⟨rfl, rfl, rfl, rfl⟩

/-- The teleport passes over characters that cannot be written. -/
theorem teleport_nobody (hostPos : Vec3) {writable : GameObject → Bool}
    (fixed : ∀ id info, tracker.Local id info → writable info.gameObject = false)
    {ids : List EntityID} (own : ∀ id ∈ ids, ∃ info, tracker.registry.getInfo id = some info
      ∧ info.ownerPlayerId = tracker.localPlayerId) :
    ids.foldl (teleportOne hostPos writable) (tracker, 0) = (tracker, 0) := by
  induction ids with
  | nil => rfl
  | cons id rest ih =>
    have stays : teleportOne hostPos writable (tracker, 0) id = (tracker, 0) := by
      obtain ⟨info, stored, owner⟩ := own id List.mem_cons_self
      have object : tracker.registry.getGameObject id = info.gameObject := by
        unfold getGameObject
        rw [show tracker.registry.entities.lookup id = some info from stored]
        rfl
      unfold teleportOne
      simp only
      rw [object, if_pos]
      by_cases without : info.gameObject = 0
      · rw [decide_eq_true without, Bool.true_or]
      · rw [fixed id info ⟨stored, owner, without⟩, Bool.not_false, Bool.or_true]
    rw [List.foldl_cons, stays]
    exact ih fun other inside => own other (List.mem_cons_of_mem _ inside)

theorem Tracked.teleport (tracked : Tracked tracker) {now : Nat} {writable : GameObject → Bool}
    (nobody : (tracker.startTimer now).teleportDue now = none
      ∨ ∀ id info, tracker.Local id info → writable info.gameObject = false) :
    Tracked (tracker.handleHostTeleport now writable) := by
  obtain ⟨registry, player, handed, pending⟩ := startTimer_same tracker now
  have started : Tracked (tracker.startTimer now) := tracked.same registry player handed pending
  unfold handleHostTeleport
  cases due : (tracker.startTimer now).teleportDue now with
  | none => exact started
  | some hostPos =>
    have fixed : ∀ id info, (tracker.startTimer now).Local id info → writable info.gameObject = false := by
      rcases nobody with idle | fixed
      · rw [due] at idle
        cases idle
      · rintro id info ⟨stored, own, object⟩
        exact fixed id info ⟨registry ▸ stored, player ▸ own, object⟩
    simp only
    rw [teleport_nobody hostPos fixed fun id inside => ?_]
    · exact started.same rfl rfl rfl rfl
    · rw [registry, player]
      exact (mem_getPlayerEntities _).mp inside

theorem Polled.pending (done : Polled tracker netId after) :
    after.pendingPositions = tracker.pendingPositions := by
  cases done <;> rfl

theorem polled_pending (elapsed : Nat) (ids : List EntityID) :
    (ids.foldl (pollOne elapsed) tracker).pendingPositions = tracker.pendingPositions := by
  induction ids generalizing tracker with
  | nil => rfl
  | cons netId rest ih =>
    rw [List.foldl_cons, ih]
    exact (pollOne_polled elapsed tracker netId).pending

/-- **One step.** -/
theorem Tracked.next (tracked : Tracked tracker) {event : Event}
    (guard : NothingSwallowed tracker event) : Tracked (trackerMachine.next tracker event) := by
  cases event with
  | announce gameObject type =>
    refine ⟨tracked.synced.announce gameObject type, ?_⟩
    show (tracker.announce gameObject type).pendingPositions = []
    unfold Tracker.announce
    split_ifs
    · exact tracked.idle
    · exact tracked.idle
  | move gameObject rd => exact tracked.same rfl rfl rfl rfl
  | poll now =>
    refine ⟨(tracked.synced.poll now).1, ?_⟩
    show (tracker.stagePollAndSendPositions now).pendingPositions = []
    unfold stagePollAndSendPositions
    split_ifs
    · exact tracked.idle
    · rw [polled_pending]
      exact tracked.idle
  | backgroundReadOne netId =>
    show Tracked (tracker.backgroundReadOne netId)
    unfold Tracker.backgroundReadOne
    rw [show tracker.foundMoved netId = none from guard]
    exact tracked
  | backgroundWrite =>
    refine tracked.same ?_ rfl rfl tracked.idle.symm
    show tracker.pendingPositions.foldl _ tracker.registry = _
    rw [tracked.idle]
    rfl
  | hostKnown hostPos isHost => exact tracked.same rfl rfl rfl rfl
  | hostTeleport now writable => exact tracked.teleport guard

end Tracker

open Tracker

/-- **Every local movement is sent**, in every run in which the background read finds nobody to have
moved and the teleport has nobody to move: the registry has the last position that was handed to the
network, and after a poll that was handed over is where the characters are. -/
theorem sentPositions {localPlayerId : PlayerID} {events : List Tracker.Event}
    (along : trackerMachine.Along NothingSwallowed { localPlayerId := localPlayerId } events) :
    Synced (trackerMachine.run { localPlayerId := localPlayerId } events)
      ∧ ∀ now, (trackerMachine.run { localPlayerId := localPlayerId } events).polls now = true →
        ∀ id, Near (trackerMachine.run { localPlayerId := localPlayerId } (events ++ [.poll now])) id := by
  have start : Tracked { localPlayerId := localPlayerId } := by
    refine ⟨?_, rfl⟩
    rintro id info ⟨stored, -, -⟩
    cases stored
  have kept : Tracked (trackerMachine.run { localPlayerId := localPlayerId } events) :=
    Machine.run_invariant (M := trackerMachine) (fun _ _ guard tracked => tracked.next guard) start
      along
  refine ⟨kept.synced, fun now due id => ?_⟩
  rw [Machine.run_append]
  exact (kept.synced.poll now).2 due id

/-! ### A walk -/

def place (x : Int) : BGReadResult := { pos := ⟨lit x 1, lit 0 1, lit 0 1⟩ }

/-- A character is announced at ten, walks to twenty, is found there by the background read, and the
next poll is due. -/
def walkedUnseen : Tracker :=
  trackerMachine.run { localPlayerId := 1 }
    [.move 0x100000 (place 10), .announce 0x100000 1, .move 0x100000 (place 20),
      .backgroundReadOne 0x10000000, .backgroundWrite, .poll 50]

/-- Ten is the last that was handed over, the registry has twenty, and the poll has not sent it. -/
theorem sentPositions_swallowed : ¬ Synced walkedUnseen ∧ ¬ Near walkedUnseen 0x10000000 := by
  have known : (walkedUnseen.registry.getInfo 0x10000000).map (fun info =>
      (info.ownerPlayerId, info.gameObject, info.lastPosition))
      = some (walkedUnseen.localPlayerId, 0x100000, (place 20).pos) := by decide +kernel
  have handed : lastHanded walkedUnseen.handed 0x10000000 = some (place 10).pos := by decide +kernel
  have there : (walkedUnseen.world 0x100000).pos = (place 20).pos := by decide +kernel
  obtain ⟨info, stored, fields⟩ := Option.map_eq_some_iff.mp known
  simp only [Prod.mk.injEq] at fields
  obtain ⟨own, object, pos⟩ := fields
  have here : walkedUnseen.Local 0x10000000 info := ⟨stored, own, by rw [object]; decide⟩
  refine ⟨fun synced => ?_, fun near => ?_⟩
  · have same := synced _ info here
    rw [handed, pos] at same
    exact absurd same (by decide +kernel)
  · obtain ⟨sent, last, close⟩ := near info here
    rw [handed] at last
    cases last
    rw [object, there] at close
    exact absurd close (by decide +kernel)

/-- The background read comes before the character walks on, and the poll sends the walk. -/
def readBefore : List Tracker.Event :=
  [.move 0x100000 (place 10), .announce 0x100000 1, .backgroundReadOne 0x10000000, .backgroundWrite,
    .move 0x100000 (place 20)]

theorem sentPositions_polled :
    Synced (trackerMachine.run { localPlayerId := 1 } readBefore)
      ∧ Near (trackerMachine.run { localPlayerId := 1 } (readBefore ++ [.poll 50])) 0x10000000 := by
  have sent := @sentPositions 1 readBefore
    ⟨trivial, trivial, by unfold NothingSwallowed; decide +kernel, trivial, trivial, trivial⟩
  exact ⟨sent.1, sent.2 50 (by decide +kernel) 0x10000000⟩

end KenshiMP
