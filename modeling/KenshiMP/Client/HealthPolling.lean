/-
**The health that a client reports.**

Damage cannot be hooked, so that the limbs of the characters of a client are looked at every quarter
of a second, and what has changed since it was last sent is sent. A call looks at 64 characters, in
the order of the registry. The values that are compared and kept are read before those that are sent:
`sendLimbHealthUpdate` reads again.

`foldl_visit` says which characters a call reads, and `about_read`, `about_unread` what it
keeps and sends of one of them or of another one.
-/

import KenshiMP.Client.CombatHooks
import KenshiMP.Client.RegistryFacts

namespace KenshiMP

open Assoc
open Wire (Bytes)
open Wire.Codec

namespace CombatHooks

/-! ### The loop -/

abbrev Limbs := Fin 7 → F32

def HEALTH_POLL_INTERVAL_MS : Int := 250

/-- Smaller changes are jitter. -/
def HEALTH_EPSILON : F32 := lit 1 2

def MAX_POLLED_PER_TICK : Nat := 64

/-- What one call finds. The health of a character may change while the call runs, so that there is
one for the moment it is looked at and one for the moment its packet is written. -/
structure Poll where
  isConnected : Bool := true
  /-- milliseconds -/
  now : Int
  localPlayerId : PlayerID
  registry : EntityRegistry
  looked : EntityID → GameObject → Fin 7 → Option F32
  written : EntityID → GameObject → Fin 7 → Option F32

/-- What is kept between the calls. -/
structure Polling where
  lastPollMs : Int := 0
  lastSentHealth : AMap EntityID Limbs := ∅

/-- The loop of a call. -/
structure PollLoop where
  processed : Nat := 0
  lastSentHealth : AMap EntityID Limbs
  sent : List Bytes := []

namespace Poll

variable (poll : Poll)

def core (getHealth : GameObject → Fin 7 → Option F32) : Core :=
  ⟨poll.isConnected, poll.registry, getHealth⟩

/-- The entities of the client, in the order of the registry. -/
def owned : List EntityID := poll.registry.getPlayerEntities poll.localPlayerId

/-- What the loop reads of an entity: nothing without a game object or if a read faults. -/
def read (netId : EntityID) : Option Limbs :=
  if poll.registry.getGameObject netId = 0 then none
  else readAllLimbHealth (poll.core (poll.looked netId)) (poll.registry.getGameObject netId)

/-- What is read again for the packet. -/
def reread (netId : EntityID) : Option Limbs :=
  if poll.registry.getGameObject netId = 0 then none
  else readAllLimbHealth (poll.core (poll.written netId)) (poll.registry.getGameObject netId)

end Poll

/-- Whether an update is due: the first time, and when a limb differs by more than the threshold. -/
def changed (last : Option Limbs) (cur : Limbs) : Bool :=
  match last with
  | none => true
  | some last => (List.finRange 7).any fun i => HEALTH_EPSILON.lt ((cur i).sub (last i)).abs

namespace PollLoop

variable (poll : Poll) (loop : PollLoop)

/-- What happens with the values of an entity. -/
def examine (netId : EntityID) (cur : Limbs) : PollLoop :=
  if changed (loop.lastSentHealth.lookup netId) cur then
    { processed := loop.processed + 1
      lastSentHealth := AList.insert netId cur loop.lastSentHealth
      sent := loop.sent ++ sendLimbHealthUpdate (poll.core (poll.written netId)) netId
        (poll.registry.getGameObject netId) }
  else { loop with processed := loop.processed + 1 }

/-- One round. From the cap on the rounds do nothing, which is what leaving the loop comes to. -/
def visit (netId : EntityID) : PollLoop :=
  if MAX_POLLED_PER_TICK ≤ loop.processed then loop
  else
    match poll.read netId with
    | none => loop
    | some cur => loop.examine poll netId cur

end PollLoop

/-- Forget the entities that are not owned any more, once there are more entries than those. -/
def prune (live : List EntityID) (cache : AMap EntityID Limbs) : AMap EntityID Limbs :=
  if live.length < cache.size then
    AMap.eraseAll ((cache.toList.map Prod.fst).filter fun netId => !live.contains netId) cache
  else cache

def pollOwnedHealth (poll : Poll) (state : Polling) : Polling × List Bytes :=
  if !poll.isConnected then ({ state with lastSentHealth := ∅ }, [])
  else if poll.now - state.lastPollMs < HEALTH_POLL_INTERVAL_MS then (state, [])
  else if poll.localPlayerId = 0 then ({ state with lastPollMs := poll.now }, [])
  else
    let loop := poll.owned.foldl (PollLoop.visit poll) { lastSentHealth := state.lastSentHealth }
    ({ lastPollMs := poll.now, lastSentHealth := prune poll.owned loop.lastSentHealth }, loop.sent)

/-! ### What a call reads -/

/-- The entities that the loop reads, with what it reads: the first ones that can be read. -/
def Poll.reads (poll : Poll) : List (EntityID × Limbs) :=
  (poll.owned.filterMap fun netId => (poll.read netId).map (Prod.mk netId)).take MAX_POLLED_PER_TICK

theorem PollLoop.processed_examine (poll : Poll) (loop : PollLoop) (netId : EntityID) (cur : Limbs) :
    (loop.examine poll netId cur).processed = loop.processed + 1 := by
  unfold examine
  split_ifs <;> rfl

/-- The loop examines what it can read, up to the cap. -/
theorem foldl_visit (poll : Poll) (owned : List EntityID) (loop : PollLoop) :
    owned.foldl (PollLoop.visit poll) loop
      = ((owned.filterMap fun netId => (poll.read netId).map (Prod.mk netId)).take
          (MAX_POLLED_PER_TICK - loop.processed)).foldl
        (fun loop entry => loop.examine poll entry.1 entry.2) loop := by
  induction owned generalizing loop with
  | nil => simp
  | cons netId rest ih =>
    rw [List.foldl_cons, ih]
    unfold PollLoop.visit
    split_ifs with full
    · rw [Nat.sub_eq_zero_of_le full, List.take_zero, List.take_zero]
    · cases value : poll.read netId with
      | none => simp [value]
      | some cur =>
        have left : MAX_POLLED_PER_TICK - loop.processed
            = MAX_POLLED_PER_TICK - (loop.processed + 1) + 1 := by omega
        simp only [List.filterMap_cons, value, Option.map_some]
        rw [left, List.take_succ_cons, List.foldl_cons, PollLoop.processed_examine]

theorem nodup_owned (poll : Poll) : poll.owned.Nodup := by
  unfold Poll.owned EntityRegistry.getPlayerEntities
  exact (List.filter_sublist.map Prod.fst).nodup (AMap.toList_keys_nodup _)

/-- No entity is read twice. -/
theorem nodup_reads (poll : Poll) : (poll.reads.map Prod.fst).Nodup := by
  have keys : (poll.owned.filterMap fun netId => (poll.read netId).map (Prod.mk netId)).map Prod.fst
      = poll.owned.filter fun netId => (poll.read netId).isSome := by
    induction poll.owned with
    | nil => rfl
    | cons netId rest ih =>
      cases value : poll.read netId with
      | none => simp [value, ih]
      | some cur => simp [value, ih]
  unfold Poll.reads
  rw [List.map_take, keys]
  exact ((List.take_sublist _ _).trans List.filter_sublist).nodup (nodup_owned poll)

theorem mem_reads {poll : Poll} {netId : EntityID} {cur : Limbs} (inside : (netId, cur) ∈ poll.reads) :
    netId ∈ poll.owned ∧ poll.read netId = some cur := by
  obtain ⟨other, owned, value⟩ := List.mem_filterMap.mp (List.mem_of_mem_take inside)
  obtain ⟨values, read, same⟩ := Option.map_eq_some_iff.mp value
  cases same
  exact ⟨owned, read⟩

/-- Where all entities can be read, the first ones are. -/
theorem reads_of_readable {poll : Poll} (readable : ∀ netId ∈ poll.owned, (poll.read netId).isSome)
    (netId : EntityID) :
    (∃ cur, (netId, cur) ∈ poll.reads) ↔ netId ∈ poll.owned.take MAX_POLLED_PER_TICK := by
  have values (ids : List EntityID) (readable : ∀ id ∈ ids, (poll.read id).isSome) (count : Nat) :
      (((ids.filterMap fun id => (poll.read id).map (Prod.mk id)).take count).map Prod.fst)
        = ids.take count := by
    induction ids generalizing count with
    | nil => simp
    | cons id rest ih =>
      obtain ⟨cur, value⟩ := Option.isSome_iff_exists.mp (readable id List.mem_cons_self)
      simp only [List.filterMap_cons, value, Option.map_some]
      cases count with
      | zero => rfl
      | succ count =>
        rw [List.take_succ_cons, List.take_succ_cons, List.map_cons,
          ih fun other later => readable other (List.mem_cons_of_mem _ later)]
  rw [← values poll.owned readable]
  unfold Poll.reads
  simp only [List.mem_map, Prod.exists, exists_and_right, exists_eq_right]

/-! ### What was sent last -/

/-- The message of a packet. -/
def reported (packet : Bytes) : MsgLimbHealth :=
  MsgLimbHealth.codec.decode (packet.drop PacketHeader.codec.size)

/-- The values in the last packet about an entity. -/
def lastSent (sent : List Bytes) (netId : EntityID) : Option Limbs :=
  ((sent.map reported).reverse.find? fun msg => msg.entityId = netId).map MsgLimbHealth.health

theorem reported_packet (netId : EntityID) (values : Limbs) :
    reported (writeHeader .C2S_LimbHealth ++ u32.encode netId ++ (f32.array 7).encode values)
      = ⟨netId, values⟩ := by
  have body : u32.encode netId ++ (f32.array 7).encode values
      = MsgLimbHealth.codec.encode ⟨netId, values⟩ := rfl
  unfold reported writeHeader
  rw [List.append_assoc, List.drop_left' (PacketHeader.codec.length_encode _), body,
    MsgLimbHealth.codec.decode_encode]

@[simp] theorem lastSent_nil (netId : EntityID) : lastSent [] netId = none := rfl

theorem lastSent_append (first second : List Bytes) (netId : EntityID) :
    lastSent (first ++ second) netId = (lastSent second netId).or (lastSent first netId) := by
  unfold lastSent
  rw [List.map_append, List.reverse_append, List.find?_append]
  cases (second.map reported).reverse.find? fun msg => msg.entityId = netId <;> rfl

theorem lastSent_eq_none_iff {sent : List Bytes} {netId : EntityID} :
    lastSent sent netId = none ↔ ∀ packet ∈ sent, (reported packet).entityId ≠ netId := by
  unfold lastSent
  rw [Option.map_eq_none_iff, List.find?_eq_none]
  simp only [List.mem_reverse, List.mem_map, decide_eq_true_eq, forall_exists_index, and_imp,
    forall_apply_eq_imp_iff₂]

/-- What an update sends is what was read for it. -/
theorem lastSent_update (poll : Poll) (netId other : EntityID) :
    lastSent (sendLimbHealthUpdate (poll.core (poll.written netId)) netId
        (poll.registry.getGameObject netId)) other
      = if other = netId then poll.reread netId else none := by
  unfold sendLimbHealthUpdate Poll.reread
  split_ifs with none here here
  · rfl
  · rfl
  · cases value : readAllLimbHealth (poll.core (poll.written netId)) (poll.registry.getGameObject netId) with
    | none => rfl
    | some values =>
      unfold lastSent
      simp only [List.map_singleton, List.reverse_singleton, reported_packet, here]
      rw [List.find?_cons_of_pos (by exact decide_eq_true rfl)]
      rfl
  · cases value : readAllLimbHealth (poll.core (poll.written netId)) (poll.registry.getGameObject netId) with
    | none => rfl
    | some values =>
      unfold lastSent
      simp only [List.map_singleton, List.reverse_singleton, reported_packet]
      rw [List.find?_cons_of_neg (by simp [Ne.symm here])]
      rfl

/-! ### What the loop does about one entity -/

section Loop

variable (poll : Poll)

/-- What is kept of an entity and what was sent last about it. -/
def PollLoop.about (loop : PollLoop) (netId : EntityID) : Option Limbs × Option Limbs :=
  (loop.lastSentHealth.lookup netId, lastSent loop.sent netId)

theorem about_examine (loop : PollLoop) (netId : EntityID) (cur : Limbs) :
    (loop.examine poll netId cur).about netId
      = if changed (loop.lastSentHealth.lookup netId) cur then
          (some cur, (poll.reread netId).or (lastSent loop.sent netId))
        else loop.about netId := by
  unfold PollLoop.examine PollLoop.about
  split_ifs with due
  · rw [AMap.lookup_insert_eq, if_pos rfl, lastSent_append, lastSent_update, if_pos rfl]
  · rfl

theorem about_examine_other (loop : PollLoop) {netId other : EntityID} (different : other ≠ netId)
    (cur : Limbs) : (loop.examine poll netId cur).about other = loop.about other := by
  unfold PollLoop.examine PollLoop.about
  split_ifs with due
  · rw [AMap.lookup_insert_eq, if_neg different, lastSent_append, lastSent_update, if_neg different,
      Option.none_or]
  · rfl

/-- What the loop keeps and sends of an entity that it does not read. -/
theorem about_unread {entries : List (EntityID × Limbs)} {netId : EntityID}
    (unread : netId ∉ entries.map Prod.fst) (loop : PollLoop) :
    (entries.foldl (fun loop entry => loop.examine poll entry.1 entry.2) loop).about netId
      = loop.about netId := by
  induction entries generalizing loop with
  | nil => rfl
  | cons entry rest ih =>
    rw [List.map_cons, List.mem_cons, not_or] at unread
    rw [List.foldl_cons, ih unread.2, about_examine_other poll loop unread.1]

/-- What the loop keeps and sends of an entity that it reads. -/
theorem about_read {entries : List (EntityID × Limbs)} (distinct : (entries.map Prod.fst).Nodup)
    {netId : EntityID} {cur : Limbs} (inside : (netId, cur) ∈ entries) (loop : PollLoop) :
    (entries.foldl (fun loop entry => loop.examine poll entry.1 entry.2) loop).about netId
      = (loop.examine poll netId cur).about netId := by
  induction entries generalizing loop with
  | nil => cases inside
  | cons entry rest ih =>
    rw [List.map_cons, List.nodup_cons] at distinct
    rw [List.foldl_cons]
    rcases List.mem_cons.mp inside with rfl | later
    · exact about_unread poll distinct.1 _
    · have different : netId ≠ entry.1 := by
        rintro rfl
        exact distinct.1 (List.mem_map.mpr ⟨_, later, rfl⟩)
      have kept := about_examine_other poll loop different entry.2
      have cached : (loop.examine poll entry.1 entry.2).lastSentHealth.lookup netId
          = loop.lastSentHealth.lookup netId := congrArg Prod.fst kept
      have last : lastSent (loop.examine poll entry.1 entry.2).sent netId
          = lastSent loop.sent netId := congrArg Prod.snd kept
      rw [ih distinct.2 later, about_examine, about_examine, kept, cached, last]

end Loop

/-- Forgetting does not touch the entities that are owned, and adds no entry. -/
theorem lookup_prune (live : List EntityID) (cache : AMap EntityID Limbs) (netId : EntityID) :
    (prune live cache).lookup netId = cache.lookup netId
      ∨ netId ∉ live ∧ (prune live cache).lookup netId = none := by
  unfold prune
  split_ifs
  · rw [AMap.lookup_eraseAll]
    split_ifs with gone
    · refine .inr ⟨fun inside => ?_, rfl⟩
      have absent := (List.mem_filter.mp gone).2
      simp [inside] at absent
    · exact .inl rfl
  · exact .inl rfl

end CombatHooks

end KenshiMP
