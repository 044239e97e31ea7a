/-
**Whether the health of every character is reported.**

A ledger keeps beside the polling every packet that it has sent. `Faithful` is what a call should do:
afterwards every entry of the cache is what was sent last, and whatever was read is near to what was
sent last or is sent. Two things are in the way. The values of a packet are read again, and with them
the cache says something else; and a difference that is not a number is never above the threshold.
`faithful_iff` is exact about both.

The cap takes the first ones of the order of the registry, at every call; `covered_iff` says when they
are all.
-/

import KenshiMP.Client.HealthPolling

namespace KenshiMP

open Assoc
open Wire (Bytes)

namespace CombatHooks

/-! ### The ledger -/

structure HealthLedger where
  state : Polling := {}
  /-- the packets of all calls so far -/
  sent : List Bytes := []

def healthMachine : Machine HealthLedger Poll Bytes where
  step ledger poll :=
    let (state, packets) := pollOwnedHealth poll ledger.state
    ({ state := state, sent := ledger.sent ++ packets }, packets)

namespace HealthLedger

variable {ledger : HealthLedger} {poll : Poll}

/-- What is kept of an entity. -/
def kept (ledger : HealthLedger) (netId : EntityID) : Option Limbs :=
  ledger.state.lastSentHealth.lookup netId

/-- What was sent last about an entity. -/
def last (ledger : HealthLedger) (netId : EntityID) : Option Limbs := lastSent ledger.sent netId

/-- The call comes to its loop: the client is connected and has a number, and a quarter of a second
has passed. -/
def Reached (ledger : HealthLedger) (poll : Poll) : Prop :=
  poll.isConnected = true ∧ HEALTH_POLL_INTERVAL_MS ≤ poll.now - ledger.state.lastPollMs
    ∧ poll.localPlayerId ≠ 0

/-- A call reads these values of an entity. -/
def Reads (ledger : HealthLedger) (poll : Poll) (netId : EntityID) (cur : Limbs) : Prop :=
  ledger.Reached poll ∧ (netId, cur) ∈ poll.reads

/-- The values differ by no more than the threshold. -/
def Near (cur last : Limbs) : Prop :=
  ∀ i, cur i = last i ∨ ((cur i).sub (last i)).abs.le HEALTH_EPSILON = true

/-- Every entry is what was sent last. An entity without one has not been read since it is owned or
since the client is connected. -/
def Recorded (ledger : HealthLedger) : Prop :=
  ∀ netId values, ledger.kept netId = some values → ledger.last netId = some values

/-- **What a call should do.** -/
def Faithful (ledger : HealthLedger) (poll : Poll) : Prop :=
  (healthMachine.next ledger poll).Recorded
    ∧ ∀ netId cur, ledger.Reads poll netId cur →
      ((healthMachine.next ledger poll).kept netId).isSome
        ∧ ((∃ values, ledger.last netId = some values ∧ Near cur values)
          ∨ ∃ packet ∈ healthMachine.emit ledger poll, (reported packet).entityId = netId)

/-- An update that is due is read as before (or is not read any more and was sent last in any case);
where none is due, every limb has its old value or a difference that is a number. -/
def Sound (ledger : HealthLedger) (poll : Poll) : Prop :=
  ∀ netId cur, ledger.Reads poll netId cur →
    if changed (ledger.kept netId) cur then (poll.reread netId).or (ledger.last netId) = some cur
    else ∀ values, ledger.kept netId = some values →
      ∀ i, cur i = values i ∨ ((cur i).sub (values i)).isNaN = false

/-! ### Differences -/

theorem isNaN_abs (x : F32) : x.abs.isNaN = x.isNaN := by
  unfold Binary.Flt.isNaN Binary.Flt.abs
  rw [Binary.Flt.mag_ofParts false (Binary.Flt.mag_lt x)]

/-- What is not above the threshold is below it, or is not a number. -/
theorem le_epsilon_iff {x : F32} (below : HEALTH_EPSILON.lt x.abs = false) :
    x.abs.le HEALTH_EPSILON = true ↔ x.isNaN = false := by
  have threshold : HEALTH_EPSILON.isNaN = false := by decide +kernel
  unfold Binary.Flt.le
  rw [Bool.and_eq_true, Bool.and_eq_true, isNaN_abs, threshold, Bool.not_eq_true', decide_eq_true_eq]
  constructor
  · exact fun all => all.1.1
  · refine fun number => ⟨⟨number, rfl⟩, not_lt.mp fun above => ?_⟩
    have more : HEALTH_EPSILON.lt x.abs = true :=
      Binary.Flt.lt_iff.mpr ⟨threshold, (isNaN_abs x).trans number, above⟩
    rw [below] at more
    cases more

/-- Values for which no update is due are near to the old ones unless a difference is not a number. -/
theorem near_iff {cur values : Limbs} (still : changed (some values) cur = false) :
    Near cur values ↔ ∀ i, cur i = values i ∨ ((cur i).sub (values i)).isNaN = false := by
  refine forall_congr' fun i => or_congr_right (le_epsilon_iff ?_)
  have below := List.any_eq_false.mp still i (List.mem_finRange i)
  exact Bool.eq_false_of_not_eq_true below

/-! ### One call -/

theorem next_of_not_reached (idle : ¬ ledger.Reached poll) (netId : EntityID) :
    ((healthMachine.next ledger poll).kept netId = ledger.kept netId
        ∨ (healthMachine.next ledger poll).kept netId = none)
      ∧ (healthMachine.next ledger poll).last netId = ledger.last netId := by
  unfold Machine.next healthMachine kept last pollOwnedHealth
  simp only
  split_ifs with offline early unnumbered
  · exact ⟨.inr rfl, by rw [List.append_nil]⟩
  · exact ⟨.inl rfl, by rw [List.append_nil]⟩
  · exact ⟨.inl rfl, by rw [List.append_nil]⟩
  · exact absurd ⟨by simpa using offline, not_lt.mp early, unnumbered⟩ idle

/-- The loop of a call that comes to it. -/
def loopOf (ledger : HealthLedger) (poll : Poll) : PollLoop :=
  poll.reads.foldl (fun loop entry => loop.examine poll entry.1 entry.2)
    { lastSentHealth := ledger.state.lastSentHealth }

theorem step_of_reached (reached : ledger.Reached poll) :
    healthMachine.step ledger poll
      = ({ state :=
            { lastPollMs := poll.now
              lastSentHealth := prune poll.owned (ledger.loopOf poll).lastSentHealth }
           sent := ledger.sent ++ (ledger.loopOf poll).sent },
          (ledger.loopOf poll).sent) := by
  obtain ⟨online, due, numbered⟩ := reached
  show (({ state := (pollOwnedHealth poll ledger.state).1
           sent := ledger.sent ++ (pollOwnedHealth poll ledger.state).2 } : HealthLedger),
    (pollOwnedHealth poll ledger.state).2) = _
  have loop := foldl_visit poll poll.owned { lastSentHealth := ledger.state.lastSentHealth }
  unfold pollOwnedHealth
  rw [if_neg (by rw [online]; decide), if_neg (not_lt.mpr due), if_neg numbered]
  simp only
  rw [loop]
  rfl

theorem kept_of_reached (reached : ledger.Reached poll) (netId : EntityID) :
    (healthMachine.next ledger poll).kept netId = (ledger.loopOf poll).lastSentHealth.lookup netId
      ∨ netId ∉ poll.owned ∧ (healthMachine.next ledger poll).kept netId = none := by
  unfold Machine.next kept
  rw [step_of_reached reached]
  exact lookup_prune poll.owned _ netId

theorem last_of_reached (reached : ledger.Reached poll) (netId : EntityID) :
    (healthMachine.next ledger poll).last netId
      = (lastSent (ledger.loopOf poll).sent netId).or (ledger.last netId) := by
  unfold Machine.next last
  rw [step_of_reached reached]
  exact lastSent_append _ _ netId

variable {netId : EntityID}

/-- What a call does about an entity that it reads. -/
theorem loopOf_read (ledger : HealthLedger) {cur : Limbs} (inside : (netId, cur) ∈ poll.reads) :
    (ledger.loopOf poll).about netId
      = if changed (ledger.kept netId) cur then (some cur, poll.reread netId)
        else (ledger.kept netId, none) := by
  unfold loopOf
  rw [about_read poll (nodup_reads poll) inside, about_examine]
  simp only [lastSent_nil, Option.or_none]
  rfl

theorem loopOf_unread (ledger : HealthLedger) (unread : netId ∉ poll.reads.map Prod.fst) :
    (ledger.loopOf poll).about netId = (ledger.kept netId, none) := about_unread poll unread _

section Reads

variable {cur : Limbs} (reads : ledger.Reads poll netId cur)

include reads

/-- After a call the entities that it has read have entries. -/
theorem kept_of_reads :
    (healthMachine.next ledger poll).kept netId
      = if changed (ledger.kept netId) cur then some cur else ledger.kept netId := by
  have owned := (mem_reads reads.2).1
  have here := (kept_of_reached reads.1 netId).resolve_right fun gone => gone.1 owned
  rw [here]
  have loop : (ledger.loopOf poll).lastSentHealth.lookup netId = _ :=
    congrArg Prod.fst (ledger.loopOf_read reads.2)
  rw [loop]
  split_ifs <;> rfl

theorem last_of_reads :
    (healthMachine.next ledger poll).last netId
      = if changed (ledger.kept netId) cur then (poll.reread netId).or (ledger.last netId)
        else ledger.last netId := by
  have loop : lastSent (ledger.loopOf poll).sent netId = _ :=
    congrArg Prod.snd (ledger.loopOf_read reads.2)
  rw [last_of_reached reads.1, loop]
  split_ifs
  · rfl
  · exact Option.none_or

/-- A call sends about an entity exactly if an update is due and can be read. -/
theorem emits_iff :
    (∃ packet ∈ healthMachine.emit ledger poll, (reported packet).entityId = netId)
      ↔ changed (ledger.kept netId) cur = true ∧ (poll.reread netId).isSome := by
  have loop : lastSent (ledger.loopOf poll).sent netId = _ :=
    congrArg Prod.snd (ledger.loopOf_read reads.2)
  have packets : healthMachine.emit ledger poll = (ledger.loopOf poll).sent := by
    unfold Machine.emit
    rw [step_of_reached reads.1]
  have none := not_congr (@lastSent_eq_none_iff (ledger.loopOf poll).sent netId)
  rw [packets]
  push Not at none
  rw [← none, loop]
  split_ifs with due
  · rw [and_iff_right due]
    exact Option.isSome_iff_ne_none.symm
  · exact iff_of_false (fun missing => missing rfl) fun both => due both.1

end Reads

/-- Entities that are not read are left alone. -/
theorem Recorded.of_unread (recorded : ledger.Recorded) {values : Limbs}
    (unread : ∀ cur, ¬ ledger.Reads poll netId cur)
    (entry : (healthMachine.next ledger poll).kept netId = some values) :
    (healthMachine.next ledger poll).last netId = some values := by
  by_cases reached : ledger.Reached poll
  · have absent : netId ∉ poll.reads.map Prod.fst := by
      intro inside
      obtain ⟨⟨other, cur⟩, read, rfl⟩ := List.mem_map.mp inside
      exact unread cur ⟨reached, read⟩
    have loop := ledger.loopOf_unread absent
    have sent : lastSent (ledger.loopOf poll).sent netId = none := congrArg Prod.snd loop
    rw [last_of_reached reached, sent, Option.none_or]
    rcases kept_of_reached reached netId with same | ⟨-, gone⟩
    · have before : (ledger.loopOf poll).lastSentHealth.lookup netId = ledger.kept netId :=
        congrArg Prod.fst loop
      rw [same, before] at entry
      exact recorded netId values entry
    · rw [gone] at entry
      cases entry
  · obtain ⟨cache, sent⟩ := next_of_not_reached reached netId
    rw [sent]
    rcases cache with same | gone
    · rw [same] at entry
      exact recorded netId values entry
    · rw [gone] at entry
      cases entry

/-- **When a call does what it should.** -/
theorem faithful_iff (recorded : ledger.Recorded) : ledger.Faithful poll ↔ ledger.Sound poll := by
  constructor
  · rintro ⟨after, reported⟩ netId cur reads
    have kept := kept_of_reads reads
    have last := last_of_reads reads
    split_ifs at kept last ⊢ with due
    · rw [← last]
      exact after netId cur kept
    · intro values entry
      have still := Bool.eq_false_of_not_eq_true due
      rw [entry] at still
      rcases (reported netId cur reads).2 with ⟨others, sent, near⟩ | sent
      · rw [recorded netId values entry] at sent
        cases sent
        exact (near_iff still).mp near
      · exact absurd ((emits_iff reads).mp sent).1 due
  · intro sound
    refine ⟨fun netId values entry => ?_, fun netId cur reads => ?_⟩
    · by_cases read : ∃ cur, ledger.Reads poll netId cur
      · obtain ⟨cur, reads⟩ := read
        have steady := sound netId cur reads
        have last := last_of_reads reads
        rw [kept_of_reads reads] at entry
        split_ifs at entry last steady with due
        · rw [last, steady]
          exact entry
        · rw [last]
          exact recorded netId values entry
      · exact recorded.of_unread (fun cur reads => read ⟨cur, reads⟩) entry
    · have steady := sound netId cur reads
      rw [kept_of_reads reads]
      split_ifs at steady ⊢ with due
      · refine ⟨rfl, ?_⟩
        cases again : poll.reread netId with
        | some values => exact .inr ((emits_iff reads).mpr ⟨due, by rw [again]; rfl⟩)
        | none =>
          rw [again, Option.none_or] at steady
          exact .inl ⟨cur, steady, fun i => .inl rfl⟩
      · have still := Bool.eq_false_of_not_eq_true due
        cases entry : ledger.kept netId with
        | none =>
          rw [entry] at still
          cases still
        | some values =>
          rw [entry] at still
          exact ⟨rfl, .inl ⟨values, recorded netId values entry,
            (near_iff still).mpr (steady values entry)⟩⟩

/-! ### Many calls -/

theorem along_faithful_iff (polls : List Poll) :
    healthMachine.Along Faithful {} polls ↔ healthMachine.Along Sound {} polls := by
  have start : ({} : HealthLedger).Recorded := fun _ _ entry => by cases entry
  exact @Machine.along_congr _ _ _ healthMachine Faithful Sound Recorded
    (fun _ _ recorded => faithful_iff recorded) (fun _ _ _ call => call.1) {} start polls

/-- A call to its loop, with these entities owned and each of them readable. -/
def Steady (ids : List EntityID) (ledger : HealthLedger) (poll : Poll) : Prop :=
  ledger.Reached poll ∧ poll.owned.Perm ids ∧ ∀ netId ∈ ids, (poll.read netId).isSome

/-- A call of a run that is guarded is guarded somewhere. -/
theorem steady_of_mem {ids : List EntityID} {window : List Poll}
    (steady : healthMachine.Along (Steady ids) ledger window) {poll : Poll} (inside : poll ∈ window) :
    poll.owned.Perm ids ∧ ∀ netId ∈ ids, (poll.read netId).isSome := by
  induction window generalizing ledger with
  | nil => cases inside
  | cons first rest ih =>
    rcases List.mem_cons.mp inside with rfl | later
    · exact steady.1.2
    · exact ih steady.2 later

/-- **Every entity is read and every entry is what was sent exactly if the cap leaves nobody out and
every call is sound.** -/
theorem health_polling_iff {past window : List Poll} {ids : List EntityID}
    (steady : healthMachine.Along (Steady ids) (healthMachine.run {} past) window) :
    (∀ netId ∈ ids, ∃ poll ∈ window, ∃ cur, (netId, cur) ∈ poll.reads)
        ∧ healthMachine.Along Faithful {} (past ++ window)
      ↔ (∀ netId ∈ ids, ∃ poll ∈ window, netId ∈ poll.owned.take MAX_POLLED_PER_TICK)
        ∧ healthMachine.Along Sound {} (past ++ window) := by
  refine and_congr ?_ (along_faithful_iff _)
  refine forall₂_congr fun netId _ => exists_congr fun poll => and_congr_right fun inside => ?_
  obtain ⟨same, readable⟩ := steady_of_mem steady inside
  exact reads_of_readable (fun other owned => readable other (same.mem_iff.mp owned)) netId

/-- As many characters as wanted, all of them those of the player with the number one. -/
def crowd (count : Nat) : EntityRegistry :=
  (List.range count).foldl (fun registry i => registry.register (0x10000 + 4 * UInt64.ofNat i) 0 1) {}

/-- A call that reads the same value everywhere, and another one for the packets. -/
def uniform (now : Int) (count : Nat) (looked written : F32) : Poll where
  now := now
  localPlayerId := 1
  registry := crowd count
  looked _ _ _ := some looked
  written _ _ _ := some written

theorem health_polling_iff_two :
    (∀ netId ∈ (uniform 250 2 (lit 100 1) (lit 100 1)).owned,
        ∃ poll ∈ [uniform 250 2 (lit 100 1) (lit 100 1)], ∃ cur, (netId, cur) ∈ poll.reads)
      ∧ healthMachine.Along Faithful {} [uniform 250 2 (lit 100 1) (lit 100 1)] := by
  have steady : healthMachine.Along (Steady (uniform 250 2 (lit 100 1) (lit 100 1)).owned) {}
      [uniform 250 2 (lit 100 1) (lit 100 1)] :=
    ⟨⟨⟨rfl, by decide, by decide⟩, .refl _, List.all_eq_true.mp (by decide +kernel)⟩, trivial⟩
  refine (@health_polling_iff [] _ _ steady).mpr
    ⟨fun netId owned => ⟨_, .head _, ?_⟩, fun netId cur reads => ?_, trivial⟩
  · rw [List.take_of_length_le (by decide +kernel)]
    exact owned
  have value : (uniform 250 2 (lit 100 1) (lit 100 1)).reread netId = some cur := (mem_reads reads.2).2
  show (Poll.reread _ netId).or none = some cur
  rw [Option.or_none]
  exact value

/-- In an order that stays the same, the cap leaves nobody out exactly if there are at most 64. -/
theorem covered_iff {window : List Poll} {order : List EntityID} (some : window ≠ [])
    (same : ∀ poll ∈ window, poll.owned = order) :
    (∀ netId ∈ order, ∃ poll ∈ window, netId ∈ poll.owned.take MAX_POLLED_PER_TICK)
      ↔ order.length ≤ MAX_POLLED_PER_TICK := by
  obtain ⟨first, inside⟩ := List.exists_mem_of_ne_nil window some
  have distinct : order.Nodup := same first inside ▸ nodup_owned first
  constructor
  · intro covered
    by_contra more
    have reached : MAX_POLLED_PER_TICK < order.length := not_le.mp more
    obtain ⟨poll, there, early⟩ := covered _ (List.getElem_mem reached)
    rw [same poll there] at early
    obtain ⟨index, lower, found⟩ := List.mem_take_iff_getElem.mp early
    have equal := (distinct.getElem_inj_iff).mp found
    omega
  · intro few netId owned
    refine ⟨first, inside, ?_⟩
    rw [same first inside, List.take_of_length_le few]
    exact owned

/-- Of 65 characters one is never read. A character is hit between the two reads of a call: its packet
has other values than its entry. And a health that is not a number is never sent. -/
theorem health_polling_fails :
    (healthMachine.Along (Steady (uniform 250 65 (lit 100 1) (lit 100 1)).owned) {}
          [uniform 250 65 (lit 100 1) (lit 100 1), uniform 500 65 (lit 100 1) (lit 100 1)]
        ∧ ¬ ∀ netId ∈ (uniform 250 65 (lit 100 1) (lit 100 1)).owned,
          ∃ poll ∈ [uniform 250 65 (lit 100 1) (lit 100 1), uniform 500 65 (lit 100 1) (lit 100 1)],
            ∃ cur, (netId, cur) ∈ poll.reads)
      ∧ ¬ healthMachine.Along Faithful {} [uniform 250 1 (lit 100 1) (lit 50 1)]
      ∧ ¬ healthMachine.Along Faithful {}
        [uniform 250 1 (lit 100 1) (lit 100 1), uniform 500 1 Binary.Flt.nan Binary.Flt.nan] := by
  have readable : ∀ netId ∈ (uniform 250 65 (lit 100 1) (lit 100 1)).owned,
      ((uniform 250 65 (lit 100 1) (lit 100 1)).read netId).isSome :=
    List.all_eq_true.mp (by decide +kernel)
  refine ⟨⟨?_, fun all => ?_⟩, fun run => ?_, fun run => ?_⟩
  · exact ⟨⟨⟨rfl, by decide, by decide⟩, .refl _, readable⟩,
      ⟨⟨rfl, by decide +kernel, by decide⟩, .refl _, readable⟩, trivial⟩
  · have same (poll : Poll) (inside : poll ∈ [uniform 250 65 (lit 100 1) (lit 100 1),
        uniform 500 65 (lit 100 1) (lit 100 1)]) :
        poll.owned = (uniform 250 65 (lit 100 1) (lit 100 1)).owned
          ∧ ∀ netId ∈ poll.owned, (poll.read netId).isSome := by
      rcases List.mem_pair.mp inside with rfl | rfl
      · exact ⟨rfl, readable⟩
      · exact ⟨rfl, readable⟩
    have few := (covered_iff (List.cons_ne_nil _ _) fun poll inside => (same poll inside).1).mp
      fun netId owned => by
        obtain ⟨poll, inside, read⟩ := all netId owned
        exact ⟨poll, inside, (reads_of_readable (same poll inside).2 netId).mp read⟩
    exact absurd few (by decide +kernel)
  · have sound := ((along_faithful_iff _).mp run).1
    have once := sound 0x10000000 (fun _ => lit 100 1) ⟨⟨rfl, by decide, by decide⟩, by decide +kernel⟩
    exact absurd once (by decide +kernel)
  · have sound := ((along_faithful_iff _).mp run).2.1
    have twice := sound 0x10000000 (fun _ => Binary.Flt.nan)
      ⟨⟨rfl, by decide +kernel, by decide⟩, by decide +kernel⟩
    rw [if_neg (by decide +kernel)] at twice
    have limb := twice (fun _ => lit 100 1) (by decide +kernel) 0
    exact absurd limb (by decide +kernel)

end HealthLedger

end CombatHooks

end KenshiMP
