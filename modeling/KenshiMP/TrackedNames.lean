/-
**Whether the tracked characters are the ones that are meant.**

The world changes by itself: characters are made, renamed and freed, and their addresses and those of their
animation objects are used again. Beside the tracker we keep what the last tick of each character has said.
The lookups of the sync, which knows two names, are right for every order of the hash table, and what is
written goes to no other character, if and only if every step leaves the entries in accord with the last
ticks (`tracking_follows`).

* `right_iff`: what right lookups say of the entries;
* `lookup_process`: the entries after a round of deferred discovery;
* `update_congr`: the names that the sync looks up;
* `sound_next_iff`: one step.
-/

import KenshiMP.Client.TrackedChars

namespace KenshiMP

open Wire (Bytes ascii)
open Assoc

namespace CharTracker

/-! ### The game and the tracker -/

/-- What the last tick of a character has said, and the number of that tick. -/
structure Sighting where
  animClassPtr : GameObject
  name : Bytes
  number : Nat

structure Tracking where
  world : World
  tracker : Tracker := {}
  sync : SharedSaveSync := {}
  seen : GameObject → Option Sighting := fun _ => none
  ticks : Nat := 0

inductive Event where
  /-- Whatever happens in the game between two calls. -/
  | change (world : World)
  | tick (locked : Bool) (now : UInt64) (animClassHuman : GameObject)
  | process (now : UInt64)
  /-- An update of the sync, which looks up names. -/
  | update (rank : GameObject → Nat) (connected gameLoaded : Bool) (lobby : LobbyManager)
    (readPosition : GameObject → Option Vec3) (now : Nat)
  | reset

namespace Tracking

variable (t : Tracking)

/-- The lookup of the sync. -/
def lookup (rank : GameObject → Nat) (name : Bytes) : Option TrackedChar :=
  (t.tracker.findByName rank name).map Tracked.toTrackedChar

/-- A tick, and what it says of its character. -/
def tick (locked : Bool) (now : UInt64) (animClassHuman : GameObject) : Tracking :=
  let ticked := { t with tracker := t.tracker.onCharUpdate t.world now locked animClassHuman }
  match tickedChar t.world animClassHuman with
  | none => ticked
  | some charPtr =>
    { ticked with
      seen := Function.update t.seen charPtr (some ⟨animClassHuman, t.world.nameAt charPtr, t.ticks⟩)
      ticks := t.ticks + 1 }

def machine : Machine Tracking Event Unit where
  step t event :=
    match event with
    | .change world => ({ t with world := world }, [])
    | .tick locked now animClassHuman => (t.tick locked now animClassHuman, [])
    | .process now =>
      ({ t with tracker := t.tracker.processDeferredDiscovery t.world now }, [])
    | .update rank connected gameLoaded lobby readPosition now =>
      ({ t with
        sync := (t.sync.update (t.lookup rank) connected gameLoaded lobby readPosition now).1 }, [])
    | .reset => ({ t with sync := t.sync.reset }, [])

end Tracking

/-- The names that the sync looks up (`update_congr`). -/
def LookedUp (name : Bytes) : Prop := name = ascii "Player 1" ∨ name = ascii "Player 2"

/-- Nobody but the named one is at an address, or behind an animation object. -/
def World.Only (world : World) (name : Bytes) (animClassPtr charPtr : GameObject) : Prop :=
  ∀ q, q = charPtr ∨ world.charOf animClassPtr = some q → world.nameAt q = [] ∨ world.nameAt q = name

/-- **The entry is the one that is meant**: its character had the name at its last tick, and was seen after
all other tracked ones of that name; the animation object is that of the last tick; and what is written
through the entry reaches nobody else. -/
structure Tracking.Meant (t : Tracking) (name : Bytes) (tc : Tracked) (sighting : Sighting) : Prop where
  seen : t.seen tc.characterPtr = some sighting
  named : sighting.name = name
  latest : ∀ charPtr other sighting', t.tracker.trackedChars.lookup charPtr = some other →
    t.seen charPtr = some sighting' → sighting'.name = name → sighting'.number ≤ sighting.number
  animated : tc.animClassPtr = sighting.animClassPtr
  only : t.world.Only name tc.animClassPtr tc.characterPtr

/-- **Tracking follows the living**: whatever a lookup of the sync finds is meant, and the pointers that the
sync writes positions through reach nobody but the other player's character. -/
structure Tracking.Right (t : Tracking) : Prop where
  found : ∀ rank name tc, LookedUp name → t.tracker.findByName rank name = some tc →
    ∃ sighting, t.Meant name tc sighting
  written : t.sync.otherFound = true →
    t.world.Only t.sync.otherCharName t.sync.otherAnimClass t.sync.otherCharPtr

/-! ### Conditions -/

/-- The animation object that an address comes with last in some updates. -/
def lastAnim (updates : List PendingCharUpdate) (charPtr : GameObject) : Option GameObject :=
  ((updates.filter fun update => update.charPtr = charPtr).getLast?).map PendingCharUpdate.animClassPtr

/-- What a round of deferred discovery takes from the ring. -/
def Tracking.taken (t : Tracking) : List PendingCharUpdate := t.tracker.pendingRing.pending.take 8

/-- The name under which a character is tracked after it, if it is. -/
def Tracking.nameAfter (t : Tracking) (charPtr : GameObject) : Option Bytes :=
  match t.tracker.trackedChars.lookup charPtr with
  | some tc => some tc.name
  | none =>
    if (lastAnim t.taken charPtr).isSome && t.world.nameAt charPtr ≠ [] then
      some (t.world.nameAt charPtr)
    else none

/-- The condition on a step. -/
def Fine (t : Tracking) : Event → Prop
  | .change world =>
    (∀ charPtr tc, t.tracker.trackedChars.lookup charPtr = some tc → LookedUp tc.name →
        world.Only tc.name tc.animClassPtr charPtr)
      ∧ (t.sync.otherFound = true →
        world.Only t.sync.otherCharName t.sync.otherAnimClass t.sync.otherCharPtr)
  | .tick locked _ animClassHuman =>
    ∀ charPtr tc, tickedChar t.world animClassHuman = some charPtr →
      t.tracker.trackedChars.lookup charPtr = some tc →
      (LookedUp tc.name →
          t.world.nameAt charPtr = tc.name ∧ (locked = true ∨ tc.animClassPtr = animClassHuman))
        ∧ ∀ charPtr' tc', t.tracker.trackedChars.lookup charPtr' = some tc' → LookedUp tc'.name →
          t.world.nameAt charPtr = tc'.name → charPtr' = charPtr
  | .process _ =>
    (∀ charPtr animClassPtr name, lastAnim t.taken charPtr = some animClassPtr →
        t.nameAfter charPtr = some name → LookedUp name →
        (∃ sighting, t.seen charPtr = some sighting ∧ sighting.name = name
          ∧ animClassPtr = sighting.animClassPtr) ∧ t.world.Only name animClassPtr charPtr)
      ∧ ∀ charPtr charPtr' name sighting sighting', t.nameAfter charPtr = some name → LookedUp name →
        (t.nameAfter charPtr').isSome → t.seen charPtr = some sighting →
        t.seen charPtr' = some sighting' → sighting'.name = name → sighting'.number ≤ sighting.number
  | .update .. => True
  | .reset => True

/-! ### What right lookups say of the entries -/

/-- What holds of every run. -/
structure Tracking.Kept (t : Tracking) : Prop where
  keyed : ∀ charPtr tc, t.tracker.trackedChars.lookup charPtr = some tc → tc.characterPtr = charPtr
  numbered : ∀ charPtr sighting, t.seen charPtr = some sighting → sighting.number < t.ticks
  idle : t.sync.initialized = false → t.sync.otherFound = false
  names : t.sync.initialized = true → LookedUp t.sync.ownCharName ∧ LookedUp t.sync.otherCharName

/-- The entries under the names that are looked up are in accord with the last ticks, and nobody else that
is tracked has ticked under such a name later. -/
structure Tracking.Sound (t : Tracking) : Prop where
  follows : ∀ charPtr tc, t.tracker.trackedChars.lookup charPtr = some tc → LookedUp tc.name →
    (∃ sighting, t.seen charPtr = some sighting ∧ sighting.name = tc.name
      ∧ tc.animClassPtr = sighting.animClassPtr) ∧ t.world.Only tc.name tc.animClassPtr charPtr
  latest : ∀ charPtr charPtr' tc tc' sighting sighting', t.tracker.trackedChars.lookup charPtr = some tc →
    LookedUp tc.name → t.tracker.trackedChars.lookup charPtr' = some tc' →
    t.seen charPtr = some sighting → t.seen charPtr' = some sighting' → sighting'.name = tc.name →
    sighting'.number ≤ sighting.number
  written : t.sync.otherFound = true →
    t.world.Only t.sync.otherCharName t.sync.otherAnimClass t.sync.otherCharPtr

namespace Tracker

variable {tracker : Tracker} {rank : GameObject → Nat} {name : Bytes} {tc : Tracked}

theorem lookup_of_findByName (found : tracker.findByName rank name = some tc) :
    ∃ charPtr, tracker.trackedChars.lookup charPtr = some tc ∧ tc.name = name := by
  obtain ⟨entry, here, rfl⟩ := Option.map_eq_some_iff.mp found
  have inside := List.mem_of_find?_eq_some here
  have named := List.find?_some here
  refine ⟨entry.1, ?_, of_decide_eq_true named⟩
  rw [← AMap.lookup_reorder rank]
  exact AMap.mem_toList.mp inside

/-- In some order an entry is the one that is found. -/
theorem findByName_first {charPtr : GameObject} (tracked : tracker.trackedChars.lookup charPtr = some tc) :
    tracker.findByName (fun key => if key = charPtr then 0 else 1) tc.name = some tc := by
  rw [findByName, AMap.find?_reorder tracked (by simp), Option.map_some]

end Tracker

variable {t : Tracking}

/-- **Right lookups**, in every order, are a matter of the entries. -/
theorem right_iff (kept : t.Kept) : t.Right ↔ t.Sound := by
  constructor
  · intro right
    have meant : ∀ charPtr tc, t.tracker.trackedChars.lookup charPtr = some tc → LookedUp tc.name →
        ∃ sighting, t.seen charPtr = some sighting ∧ t.Meant tc.name tc sighting := by
      intro charPtr tc tracked looked
      obtain ⟨sighting, meant⟩ := right.found _ _ _ looked (Tracker.findByName_first tracked)
      have seen := meant.seen
      rw [kept.keyed charPtr tc tracked] at seen
      exact ⟨sighting, seen, meant⟩
    refine ⟨fun charPtr tc tracked looked => ?_,
      fun charPtr charPtr' tc tc' sighting sighting' tracked looked tracked' seen seen' named => ?_,
      right.written⟩
    · obtain ⟨sighting, seen, meant⟩ := meant charPtr tc tracked looked
      refine ⟨⟨sighting, seen, meant.named, meant.animated⟩, ?_⟩
      rw [← kept.keyed charPtr tc tracked]
      exact meant.only
    · obtain ⟨known, known_seen, meant⟩ := meant charPtr tc tracked looked
      rw [seen] at known_seen
      cases known_seen
      exact meant.latest charPtr' tc' sighting' tracked' seen' named
  · intro sound
    refine ⟨fun rank name tc looked found => ?_, sound.written⟩
    obtain ⟨charPtr, tracked, rfl⟩ := Tracker.lookup_of_findByName found
    obtain ⟨⟨sighting, seen, named, animated⟩, only⟩ := sound.follows charPtr tc tracked looked
    have keyed := kept.keyed charPtr tc tracked
    refine ⟨sighting, by rw [keyed]; exact seen, named, ?_, animated, by rw [keyed]; exact only⟩
    intro charPtr' other sighting' tracked' seen' named'
    exact sound.latest charPtr charPtr' tc other sighting sighting' tracked looked tracked' seen seen' named'

/-! ### The entries after a round of deferred discovery -/

/-- What becomes of the entry of an address that comes with an animation object. -/
def entryAfter (world : World) (now : UInt64) (charPtr : GameObject) (entry : Option Tracked) :
    Option GameObject → Option Tracked
  | none => entry
  | some animClassPtr =>
    match entry with
    | some tc => some (tc.sighted animClassPtr now)
    | none =>
      if world.nameAt charPtr = [] then none
      else some
        { animClassPtr := animClassPtr
          characterPtr := charPtr
          name := world.nameAt charPtr
          lastSeenTick := now }

theorem lastAnim_append (updates : List PendingCharUpdate) (update : PendingCharUpdate)
    (charPtr : GameObject) :
    lastAnim (updates ++ [update]) charPtr
      = if update.charPtr = charPtr then some update.animClassPtr else lastAnim updates charPtr := by
  unfold lastAnim
  by_cases same : update.charPtr = charPtr <;> simp [List.filter_append, same]

section Pending

variable (world : World) (now : UInt64)

theorem lookup_processPending (trackedChars : AMap GameObject Tracked)
    (pending : PendingCharUpdate) (charPtr : GameObject) :
    (processPending world now trackedChars pending).lookup charPtr
      = if pending.charPtr = charPtr then
          entryAfter world now charPtr (trackedChars.lookup charPtr) (some pending.animClassPtr)
        else trackedChars.lookup charPtr := by
  unfold processPending
  by_cases same : pending.charPtr = charPtr
  · subst same
    rw [if_pos rfl]
    cases entry : trackedChars.lookup pending.charPtr with
    | none =>
      rw [if_neg (by simp), entryAfter]
      split
      · exact entry
      · exact AList.lookup_insert trackedChars
    | some tc =>
      rw [if_pos Option.isSome_some, AMap.lookup_modify_self, entry]
      rfl
  · rw [if_neg same]
    split
    · exact AMap.lookup_modify_ne (Ne.symm same) _ _
    · split
      · rfl
      · exact AList.lookup_insert_ne (Ne.symm same)

/-- **Deferred discovery**: an address goes by the last update that has it. -/
theorem lookup_foldl_processPending (updates : List PendingCharUpdate)
    (trackedChars : AMap GameObject Tracked) (charPtr : GameObject) :
    (updates.foldl (processPending world now) trackedChars).lookup charPtr
      = entryAfter world now charPtr (trackedChars.lookup charPtr) (lastAnim updates charPtr) := by
  induction updates using List.reverseRecOn with
  | nil => rfl
  | append_singleton updates update ih =>
    rw [List.foldl_append, List.foldl_cons, List.foldl_nil, lookup_processPending, ih, lastAnim_append]
    by_cases same : update.charPtr = charPtr
    · rw [if_pos same, if_pos same]
      cases before : lastAnim updates charPtr with
      | none => rfl
      | some animClassPtr =>
        cases trackedChars.lookup charPtr with
        | some tc => rfl
        | none =>
          unfold entryAfter
          by_cases nobody : world.nameAt charPtr = []
          · simp [nobody]
          · simp [nobody, Tracked.sighted]
    · rw [if_neg same, if_neg same]

theorem processUpTo_trackedChars (count : Nat) (tracker : Tracker) :
    (Tracker.processUpTo world now count tracker).trackedChars
      = (tracker.pendingRing.pending.take count).foldl (processPending world now) tracker.trackedChars := by
  induction count generalizing tracker with
  | zero => rfl
  | succ count ih =>
    unfold Tracker.processUpTo
    cases popped : tracker.pendingRing.pop with
    | none => rw [RingBuffer.pop_none_iff.mp popped, List.take_nil, List.foldl_nil]
    | some found =>
      rw [RingBuffer.pop_pending popped, List.take_succ_cons, List.foldl_cons]
      exact ih _

end Pending

theorem lookup_process (t : Tracking) (now : UInt64) (charPtr : GameObject) :
    (t.tracker.processDeferredDiscovery t.world now).trackedChars.lookup charPtr
      = entryAfter t.world now charPtr (t.tracker.trackedChars.lookup charPtr)
          (lastAnim t.taken charPtr) := by
  rw [Tracker.processDeferredDiscovery, processUpTo_trackedChars, lookup_foldl_processPending]
  rfl

/-! ### The pointers that the sync holds -/

section Sync

variable {world : World} {sync : SharedSaveSync} {findByName : Bytes → Option TrackedChar}

/-- What the sync has found is the other player's character. -/
def Held (world : World) (sync : SharedSaveSync) : Prop :=
  sync.otherFound = true → world.Only sync.otherCharName sync.otherAnimClass sync.otherCharPtr

theorem otherFound_init (lobby : LobbyManager) (idle : sync.otherFound = false) :
    (sync.init lobby).otherFound = false := by
  unfold SharedSaveSync.init
  simp only
  split_ifs
  · exact idle
  · exact idle
  · rfl

theorem held_discoverOwn (held : Held world sync) : Held world (sync.discoverOwn findByName) := by
  unfold SharedSaveSync.discoverOwn
  split
  · exact held
  · split <;> exact held

theorem held_discoverOther
    (lookups : ∀ name tc, findByName name = some tc → world.Only name tc.animClassPtr tc.characterPtr)
    (held : Held world sync) : Held world (sync.discoverOther findByName) := by
  unfold SharedSaveSync.discoverOther
  split
  · exact held
  · cases found : SharedSaveSync.seen findByName sync.otherCharName with
    | none => exact held
    | some tc =>
      rw [SharedSaveSync.seen, Option.filter_eq_some_iff] at found
      exact fun _ => lookups _ tc found.1

theorem held_refreshOwn (held : Held world sync) : Held world (sync.refreshOwn findByName) := by
  unfold SharedSaveSync.refreshOwn
  split
  · exact held
  · split <;> exact held

section Held

variable (lookups : ∀ name tc, findByName name = some tc → world.Only name tc.animClassPtr tc.characterPtr)
  (held : Held world sync)

include lookups held

theorem held_refreshOther : Held world (sync.refreshOther findByName) := by
  unfold SharedSaveSync.refreshOther
  cases found : findByName sync.otherCharName with
  | none => exact held
  | some tc =>
    simp only
    split
    · exact fun _ => lookups _ tc found
    · exact held

theorem held_revalidate : Held world (sync.revalidate findByName) := by
  unfold SharedSaveSync.revalidate
  simp only
  split
  · exact held
  · exact held_refreshOther lookups (held_refreshOwn held)

end Held

theorem held_sendOwn {readPosition : GameObject → Option Vec3} {now : Nat} (held : Held world sync) :
    Held world (sync.sendOwn readPosition now).1 := by
  unfold SharedSaveSync.sendOwn
  split <;> exact held

/-- A sync that runs as before, under the same names. -/
structure Stays (sync result : SharedSaveSync) : Prop where
  initialized : result.initialized = sync.initialized
  ownCharName : result.ownCharName = sync.ownCharName
  otherCharName : result.otherCharName = sync.otherCharName

theorem Stays.then {sync between result : SharedSaveSync} (first : Stays sync between)
    (second : Stays between result) : Stays sync result where
  initialized := second.initialized.trans first.initialized
  ownCharName := second.ownCharName.trans first.ownCharName
  otherCharName := second.otherCharName.trans first.otherCharName

theorem stays_sendOwn {readPosition : GameObject → Option Vec3} {now : Nat} :
    Stays sync (sync.sendOwn readPosition now).1 := by
  unfold SharedSaveSync.sendOwn
  split <;> exact ⟨rfl, rfl, rfl⟩

theorem stays_discoverOwn : Stays sync (sync.discoverOwn findByName) := by
  unfold SharedSaveSync.discoverOwn
  split
  · exact ⟨rfl, rfl, rfl⟩
  · split <;> exact ⟨rfl, rfl, rfl⟩

theorem stays_discoverOther : Stays sync (sync.discoverOther findByName) := by
  unfold SharedSaveSync.discoverOther
  split
  · exact ⟨rfl, rfl, rfl⟩
  · split <;> exact ⟨rfl, rfl, rfl⟩

theorem stays_discover : Stays sync (sync.discover findByName) :=
  stays_discoverOwn.then stays_discoverOther

theorem stays_refreshOwn : Stays sync (sync.refreshOwn findByName) := by
  unfold SharedSaveSync.refreshOwn
  split
  · exact ⟨rfl, rfl, rfl⟩
  · split <;> exact ⟨rfl, rfl, rfl⟩

theorem stays_refreshOther : Stays sync (sync.refreshOther findByName) := by
  unfold SharedSaveSync.refreshOther
  split
  · exact ⟨rfl, rfl, rfl⟩
  · split <;> exact ⟨rfl, rfl, rfl⟩

theorem stays_revalidate : Stays sync (sync.revalidate findByName) := by
  have counted : Stays sync { sync with revalidateCounter := sync.revalidateCounter + 1 } :=
    ⟨rfl, rfl, rfl⟩
  unfold SharedSaveSync.revalidate
  simp only
  split
  · exact counted
  · exact counted.then (stays_refreshOwn.then stays_refreshOther)

section Same

variable {other : Bytes → Option TrackedChar} (own : findByName sync.ownCharName = other sync.ownCharName)
  (same : findByName sync.otherCharName = other sync.otherCharName)

include own same

theorem discover_congr : sync.discover findByName = sync.discover other := by
  have first : sync.discoverOwn findByName = sync.discoverOwn other := by
    unfold SharedSaveSync.discoverOwn SharedSaveSync.seen
    rw [own]
  unfold SharedSaveSync.discover
  rw [first]
  unfold SharedSaveSync.discoverOther SharedSaveSync.seen
  rw [stays_discoverOwn.otherCharName, same]

theorem revalidate_congr : sync.revalidate findByName = sync.revalidate other := by
  have first : SharedSaveSync.refreshOwn
        { sync with revalidateCounter := sync.revalidateCounter + 1 } findByName
      = SharedSaveSync.refreshOwn
        { sync with revalidateCounter := sync.revalidateCounter + 1 } other := by
    unfold SharedSaveSync.refreshOwn
    rw [own]
  unfold SharedSaveSync.revalidate
  simp only
  rw [first]
  unfold SharedSaveSync.refreshOther
  rw [stays_refreshOwn.otherCharName, same]

end Same

section Update

variable {connected gameLoaded : Bool} {lobby : LobbyManager} {readPosition : GameObject → Option Vec3}
  {now : Nat}

/-- The sync that an update goes on with. -/
def started (sync : SharedSaveSync) (lobby : LobbyManager) : SharedSaveSync :=
  if sync.initialized then sync else sync.init lobby

/-- What an update can come to. -/
theorem update_cases {P : SharedSaveSync → Prop} (stays : P sync) (starts : P (started sync lobby))
    (finds : (started sync lobby).initialized = true → P ((started sync lobby).discover findByName)
      ∧ P (((started sync lobby).discover findByName).sendOwn readPosition now).1)
    (goes : (started sync lobby).initialized = true →
      P (((started sync lobby).revalidate findByName).sendOwn readPosition now).1) :
    P (sync.update findByName connected gameLoaded lobby readPosition now).1 := by
  unfold SharedSaveSync.update
  split
  · exact stays
  · rw [show (if sync.initialized = true then sync else sync.init lobby) = started sync lobby from rfl]
    simp only
    split
    · exact starts
    · rename_i running
      have runs : (started sync lobby).initialized = true := by simpa using running
      split
      · split
        · exact (finds runs).1
        · exact (finds runs).2
      · exact goes runs

/-- A sync that runs has names that are looked up. -/
def Named (sync : SharedSaveSync) : Prop :=
  sync.initialized = true → LookedUp sync.ownCharName ∧ LookedUp sync.otherCharName

theorem lookedUp_own {faction : Bytes} (known : factionToOwnName faction ≠ []) :
    LookedUp (factionToOwnName faction) := by
  unfold factionToOwnName at known ⊢
  split_ifs with first second
  · exact .inl rfl
  · exact .inr rfl
  · exact absurd (by rw [if_neg first, if_neg second]) known

theorem lookedUp_other {faction : Bytes} (known : factionToOtherName faction ≠ []) :
    LookedUp (factionToOtherName faction) := by
  unfold factionToOtherName at known ⊢
  split_ifs with first second
  · exact .inr rfl
  · exact .inl rfl
  · exact absurd (by rw [if_neg first, if_neg second]) known

theorem named_init (idle : sync.initialized = false) : Named (sync.init lobby) := by
  unfold SharedSaveSync.init
  simp only
  split_ifs with unassigned unknown
  · intro running
    rw [idle] at running
    cases running
  · intro running
    rw [idle] at running
    cases running
  · simp only [Bool.or_eq_true, decide_eq_true_eq, not_or] at unknown
    exact fun _ => ⟨lookedUp_own unknown.1, lookedUp_other unknown.2⟩

theorem named_started (named : Named sync) : Named (started sync lobby) := by
  unfold started
  cases running : sync.initialized with
  | true => exact named
  | false => exact named_init running

theorem Stays.named {sync result : SharedSaveSync} (stays : Stays sync result) (named : Named sync) :
    Named result := by
  intro running
  rw [stays.initialized] at running
  rw [stays.ownCharName, stays.otherCharName]
  exact named running

theorem named_update (named : Named sync) :
    Named (sync.update findByName connected gameLoaded lobby readPosition now).1 := by
  have starts : Named (started sync lobby) := named_started named
  exact update_cases named starts
    (fun _ => ⟨stays_discover.named starts, (stays_discover.then stays_sendOwn).named starts⟩)
    fun _ => (stays_revalidate.then stays_sendOwn).named starts

/-- **The names that are looked up** are all that an update depends on. -/
theorem update_congr (named : Named sync) {other : Bytes → Option TrackedChar}
    (same : ∀ name, LookedUp name → findByName name = other name) :
    sync.update findByName connected gameLoaded lobby readPosition now
      = sync.update other connected gameLoaded lobby readPosition now := by
  unfold SharedSaveSync.update
  split
  · rfl
  · have names : (started sync lobby).initialized = true →
        LookedUp (started sync lobby).ownCharName ∧ LookedUp (started sync lobby).otherCharName :=
      named_started named
    rw [show (if sync.initialized = true then sync else sync.init lobby) = started sync lobby from rfl]
    simp only
    split
    · rfl
    · rename_i running
      obtain ⟨own, others⟩ := names (by simpa using running)
      rw [discover_congr (same _ own) (same _ others), revalidate_congr (same _ own) (same _ others)]

theorem idle_started (idle : sync.initialized = false → sync.otherFound = false) :
    (started sync lobby).initialized = false → (started sync lobby).otherFound = false := by
  unfold started
  cases running : sync.initialized with
  | true => exact fun _ => idle ‹_›
  | false => exact fun _ => otherFound_init lobby (idle running)

/-- A sync that does not run has found nobody. -/
theorem idle_update (idle : sync.initialized = false → sync.otherFound = false) :
    (sync.update findByName connected gameLoaded lobby readPosition now).1.initialized = false →
      (sync.update findByName connected gameLoaded lobby readPosition now).1.otherFound = false := by
  refine update_cases (P := fun result => result.initialized = false → result.otherFound = false) idle
    (idle_started idle) (fun runs => ⟨fun stopped => ?_, fun stopped => ?_⟩) fun runs stopped => ?_
  · rw [stays_discover.initialized, runs] at stopped
    cases stopped
  · rw [(stays_discover.then stays_sendOwn).initialized, runs] at stopped
    cases stopped
  · rw [(stays_revalidate.then stays_sendOwn).initialized, runs] at stopped
    cases stopped

/-- **An update** of the sync holds only pointers that it has looked up. -/
theorem held_update
    (lookups : ∀ name tc, findByName name = some tc → world.Only name tc.animClassPtr tc.characterPtr)
    (idle : sync.initialized = false → sync.otherFound = false) (held : Held world sync) :
    Held world (sync.update findByName connected gameLoaded lobby readPosition now).1 := by
  have starts : Held world (started sync lobby) := by
    unfold started
    cases running : sync.initialized with
    | true => exact held
    | false =>
      intro found
      have none := otherFound_init lobby (idle running)
      have found' : (sync.init lobby).otherFound = true := found
      rw [none] at found'
      cases found'
  have finds := held_discoverOther lookups (@held_discoverOwn _ _ findByName starts)
  exact update_cases held starts (fun _ => ⟨finds, held_sendOwn finds⟩) fun _ =>
    held_sendOwn (held_revalidate lookups starts)

end Update

end Sync

/-! ### A step -/

variable {animClassHuman charPtr : GameObject}

theorem charOf_of_ticked {world : World} (ticked : tickedChar world animClassHuman = some charPtr) :
    world.charOf animClassHuman = some charPtr := by
  unfold tickedChar at ticked
  split at ticked
  · cases ticked
  · split at ticked
    · cases ticked
    · exact (Option.filter_eq_some_iff.mp ticked).1

theorem only_ticked {world : World} {name : Bytes}
    (ticked : tickedChar world animClassHuman = some charPtr) (named : world.nameAt charPtr = name) :
    world.Only name animClassHuman charPtr := by
  rintro q (rfl | behind)
  · exact .inr named
  · rw [charOf_of_ticked ticked] at behind
    cases behind
    exact .inr named

/-- The entries after a tick. -/
theorem lookup_onCharUpdate {world : World}
    (ticked : tickedChar world animClassHuman = some charPtr) (tracker : Tracker) (now : UInt64)
    (locked : Bool) (q : GameObject) :
    (tracker.onCharUpdate world now locked animClassHuman).trackedChars.lookup q
      = (tracker.trackedChars.lookup q).map fun tc =>
        if locked = true ∧ q = charPtr then tc.sighted animClassHuman now else tc := by
  unfold Tracker.onCharUpdate
  rw [ticked]
  simp only
  split
  · rename_i tracked
    rw [AMap.lookup_modify]
    simp only [(Bool.and_eq_true _ _ ▸ tracked).1, true_and]
  · rename_i untracked
    cases entry : tracker.trackedChars.lookup q with
    | none => rfl
    | some tc =>
      rw [Option.map_some, if_neg]
      rintro ⟨rfl, rfl⟩
      exact untracked (by rw [entry]; rfl)

theorem onCharUpdate_unticked {world : World} {animClassHuman : GameObject}
    (unticked : tickedChar world animClassHuman = none) (tracker : Tracker) (now : UInt64) (locked : Bool) :
    tracker.onCharUpdate world now locked animClassHuman = tracker := by
  unfold Tracker.onCharUpdate
  rw [unticked]

/-- A tick of a character. -/
theorem tick_of_ticked
    (ticked : tickedChar t.world animClassHuman = some charPtr) (locked : Bool) (now : UInt64) :
    t.tick locked now animClassHuman
      = { t with
          tracker := t.tracker.onCharUpdate t.world now locked animClassHuman
          seen := Function.update t.seen charPtr (some ⟨animClassHuman, t.world.nameAt charPtr, t.ticks⟩)
          ticks := t.ticks + 1 } := by
  unfold Tracking.tick
  rw [ticked]

theorem tick_of_unticked {animClassHuman : GameObject}
    (unticked : tickedChar t.world animClassHuman = none) (locked : Bool) (now : UInt64) :
    t.tick locked now animClassHuman = t := by
  unfold Tracking.tick
  rw [unticked, onCharUpdate_unticked unticked]

theorem kept_tick (kept : t.Kept) (locked : Bool) (now : UInt64) (animClassHuman : GameObject) :
    (t.tick locked now animClassHuman).Kept := by
  cases ticked : tickedChar t.world animClassHuman with
  | none =>
    rw [tick_of_unticked ticked]
    exact kept
  | some charPtr =>
    rw [tick_of_ticked ticked]
    refine ⟨fun q tc tracked => ?_, fun q sighting seen => ?_, kept.idle, kept.names⟩
    · rw [lookup_onCharUpdate ticked] at tracked
      obtain ⟨tc', tracked', rfl⟩ := Option.map_eq_some_iff.mp tracked
      split
      · exact kept.keyed q tc' tracked'
      · exact kept.keyed q tc' tracked'
    · simp only [Function.update_apply] at seen
      split at seen
      · cases seen
        exact Nat.lt_succ_self _
      · exact Nat.lt_succ_of_lt (kept.numbered q sighting seen)

theorem name_sighted (condition : Prop) [Decidable condition] (tc : Tracked) (animClassPtr : GameObject)
    (now : UInt64) : (if condition then tc.sighted animClassPtr now else tc).name = tc.name := by
  split <;> rfl

section Ticked

variable {locked : Bool} {now : UInt64} (kept : t.Kept) (sound : t.Sound)
  (ticked : tickedChar t.world animClassHuman = some charPtr)

include kept sound ticked

/-- A tick of a character that leaves the entries in accord is fine. -/
theorem fine_of_sound_tick (sound' : Tracking.Sound { t with
      tracker := t.tracker.onCharUpdate t.world now locked animClassHuman
      seen := Function.update t.seen charPtr (some ⟨animClassHuman, t.world.nameAt charPtr, t.ticks⟩)
      ticks := t.ticks + 1 }) : Fine t (.tick locked now animClassHuman) := by
  intro p tc ticked' tracked
  rw [ticked] at ticked'
  cases ticked'
  have after := lookup_onCharUpdate ticked t.tracker now locked charPtr
  rw [tracked, Option.map_some] at after
  refine ⟨fun looked => ?_, fun q tc' tracked' looked same => ?_⟩
  · rw [← name_sighted (locked = true ∧ charPtr = charPtr) tc animClassHuman now] at looked
    obtain ⟨⟨sighting, seen, named, animated⟩, -⟩ := sound'.follows charPtr _ after looked
    dsimp only at seen
    rw [Function.update_self] at seen
    cases seen
    refine ⟨named.trans (name_sighted _ tc animClassHuman now), ?_⟩
    cases locked with
    | true => exact .inl rfl
    | false =>
      rw [if_neg (by simp)] at animated
      exact .inr animated
  · -- An entry elsewhere of that name has been seen before this tick.
    by_contra apart
    obtain ⟨⟨sighting, seen, -⟩, -⟩ := sound.follows q tc' tracked' looked
    have after' := lookup_onCharUpdate ticked t.tracker now locked q
    rw [tracked', Option.map_some, if_neg fun both => apart both.2] at after'
    have later := sound'.latest q charPtr tc' _ sighting _ after' looked after
      ((Function.update_of_ne apart ..).trans seen) (Function.update_self ..) same
    exact absurd (kept.numbered q sighting seen) (Nat.not_lt_of_le later)

/-- A fine tick of a character leaves the entries in accord. -/
theorem sound_tick_of_fine (fine : Fine t (.tick locked now animClassHuman)) :
    Tracking.Sound { t with
      tracker := t.tracker.onCharUpdate t.world now locked animClassHuman
      seen := Function.update t.seen charPtr (some ⟨animClassHuman, t.world.nameAt charPtr, t.ticks⟩)
      ticks := t.ticks + 1 } := by
  refine ⟨fun q tc tracked looked => ?_,
    fun q q' tc tc' sighting sighting' tracked looked tracked' seen seen' same => ?_, sound.written⟩
  · rw [lookup_onCharUpdate ticked] at tracked
    obtain ⟨before, tracked', rfl⟩ := Option.map_eq_some_iff.mp tracked
    rw [name_sighted] at looked
    by_cases here : q = charPtr
    · subst here
      obtain ⟨named, animated⟩ := (fine q before ticked tracked').1 looked
      have anim : (if locked = true ∧ q = q then before.sighted animClassHuman now else before).animClassPtr
          = animClassHuman := by
        rcases animated with rfl | same
        · rw [if_pos ⟨rfl, rfl⟩]
          rfl
        · split
          · rfl
          · exact same
      rw [name_sighted, anim]
      exact ⟨⟨_, Function.update_self .., named, rfl⟩, only_ticked ticked named⟩
    · rw [if_neg fun both => here both.2]
      obtain ⟨⟨sighting, seen, accord⟩, only⟩ := sound.follows q before tracked' looked
      exact ⟨⟨sighting, (Function.update_of_ne here ..).trans seen, accord⟩, only⟩
  · rw [lookup_onCharUpdate ticked] at tracked tracked'
    obtain ⟨first, before, rfl⟩ := Option.map_eq_some_iff.mp tracked
    obtain ⟨second, before', rfl⟩ := Option.map_eq_some_iff.mp tracked'
    rw [name_sighted] at looked same
    simp only [Function.update_apply] at seen seen'
    by_cases here' : q' = charPtr
    · subst here'
      rw [if_pos rfl] at seen'
      cases seen'
      have here := (fine q' second ticked before').2 q first before looked same
      rw [if_pos here] at seen
      cases seen
      exact Nat.le_refl _
    · rw [if_neg here'] at seen'
      by_cases here : q = charPtr
      · rw [if_pos here] at seen
        cases seen
        exact Nat.le_of_lt (kept.numbered q' sighting' seen')
      · rw [if_neg here] at seen
        exact sound.latest q q' first second sighting sighting' before looked before' seen seen' same

end Ticked

theorem sound_tick_iff (kept : t.Kept) (sound : t.Sound) (locked : Bool) (now : UInt64)
    (animClassHuman : GameObject) :
    (t.tick locked now animClassHuman).Sound ↔ Fine t (.tick locked now animClassHuman) := by
  cases ticked : tickedChar t.world animClassHuman with
  | none =>
    rw [tick_of_unticked ticked]
    refine iff_of_true sound fun charPtr tc ticked' => ?_
    rw [ticked] at ticked'
    cases ticked'
  | some charPtr =>
    rw [tick_of_ticked ticked]
    exact ⟨fine_of_sound_tick kept sound ticked, sound_tick_of_fine kept sound ticked⟩

/-! ### Deferred discovery -/

theorem name_entryAfter (t : Tracking) (now : UInt64) (charPtr : GameObject) :
    (entryAfter t.world now charPtr (t.tracker.trackedChars.lookup charPtr)
      (lastAnim t.taken charPtr)).map Tracked.name = t.nameAfter charPtr := by
  unfold Tracking.nameAfter entryAfter
  cases lastAnim t.taken charPtr with
  | none => cases t.tracker.trackedChars.lookup charPtr <;> rfl
  | some animClassPtr =>
    cases t.tracker.trackedChars.lookup charPtr with
    | some tc => rfl
    | none => by_cases nobody : t.world.nameAt charPtr = [] <;> simp [nobody]

/-- An entry that has come from the ring has the animation object from there. -/
theorem anim_entryAfter {world : World} {now : UInt64} {charPtr animClassPtr : GameObject}
    {entry : Option Tracked} {tc : Tracked}
    (after : entryAfter world now charPtr entry (some animClassPtr) = some tc) :
    tc.animClassPtr = animClassPtr := by
  unfold entryAfter at after
  cases entry with
  | some before =>
    cases after
    rfl
  | none =>
    simp only at after
    split at after
    · cases after
    · cases after
      rfl

theorem keyed_entryAfter {world : World} {now : UInt64} {charPtr : GameObject} {entry : Option Tracked}
    {anim : Option GameObject} {tc : Tracked} (keyed : ∀ tc, entry = some tc → tc.characterPtr = charPtr)
    (after : entryAfter world now charPtr entry anim = some tc) : tc.characterPtr = charPtr := by
  unfold entryAfter at after
  cases anim with
  | none => exact keyed tc after
  | some animClassPtr =>
    cases entry with
    | some before =>
      cases after
      exact keyed before rfl
    | none =>
      simp only at after
      split at after
      · cases after
      · cases after
        rfl

theorem sound_process_iff (sound : t.Sound) (now : UInt64) :
    Tracking.Sound { t with
      tracker := t.tracker.processDeferredDiscovery t.world now }
      ↔ Fine t (.process now) := by
  have named : ∀ {charPtr : GameObject} {name : Bytes}, t.nameAfter charPtr = some name →
      ∃ tc, (t.tracker.processDeferredDiscovery t.world now).trackedChars.lookup charPtr = some tc
        ∧ tc.name = name := by
    intro charPtr name after
    rw [← name_entryAfter t now, ← lookup_process] at after
    exact Option.map_eq_some_iff.mp after
  have name : ∀ {charPtr : GameObject} {tc : Tracked},
      (t.tracker.processDeferredDiscovery t.world now).trackedChars.lookup charPtr = some tc →
      t.nameAfter charPtr = some tc.name := by
    intro charPtr tc tracked
    rw [← name_entryAfter t now, ← lookup_process, tracked]
    rfl
  constructor
  · intro sound'
    refine ⟨fun charPtr animClassPtr name last after looked => ?_,
      fun charPtr charPtr' name sighting sighting' after looked after' seen seen' same => ?_⟩
    · obtain ⟨tc, tracked, rfl⟩ := named after
      obtain ⟨⟨sighting, seen, named', animated⟩, only⟩ := sound'.follows charPtr tc tracked looked
      rw [lookup_process, last] at tracked
      rw [anim_entryAfter tracked] at animated only
      exact ⟨⟨sighting, seen, named', animated⟩, only⟩
    · obtain ⟨tc, tracked, rfl⟩ := named after
      obtain ⟨name', after'⟩ := Option.isSome_iff_exists.mp after'
      obtain ⟨tc', tracked', -⟩ := named after'
      exact sound'.latest charPtr charPtr' tc tc' sighting sighting' tracked looked tracked' seen seen' same
  · intro fine
    refine ⟨fun charPtr tc tracked looked => ?_,
      fun charPtr charPtr' tc tc' sighting sighting' tracked looked tracked' seen seen' same => ?_,
      sound.written⟩
    · have after := name tracked
      have tracked' := tracked
      rw [lookup_process] at tracked'
      cases last : lastAnim t.taken charPtr with
      | none =>
        rw [last] at tracked'
        exact sound.follows charPtr tc tracked' looked
      | some animClassPtr =>
        rw [last] at tracked'
        rw [anim_entryAfter tracked']
        exact fine.1 charPtr animClassPtr tc.name last after looked
    · have after' : (t.nameAfter charPtr').isSome := by rw [name tracked']; rfl
      exact fine.2 charPtr charPtr' tc.name sighting sighting' (name tracked) looked after' seen seen' same

/-! ### Runs -/

theorem kept_next (kept : t.Kept) (event : Event) : (Tracking.machine.next t event).Kept := by
  cases event with
  | change world => exact ⟨kept.keyed, kept.numbered, kept.idle, kept.names⟩
  | tick locked now animClassHuman => exact kept_tick kept locked now animClassHuman
  | process now =>
    refine ⟨fun charPtr tc tracked => ?_, kept.numbered, kept.idle, kept.names⟩
    have tracked' := (lookup_process t now charPtr).symm.trans tracked
    exact keyed_entryAfter (kept.keyed charPtr) tracked'
  | update rank connected gameLoaded lobby readPosition now =>
    exact ⟨kept.keyed, kept.numbered, idle_update kept.idle, named_update kept.names⟩
  | reset =>
    refine ⟨kept.keyed, kept.numbered, fun _ => rfl, fun running => ?_⟩
    have stopped : t.sync.reset.initialized = true := running
    cases stopped

/-- The lookups of an update, for the names that it looks up. -/
def lookupOf (t : Tracking) (rank : GameObject → Nat) (name : Bytes) : Option TrackedChar :=
  if name = ascii "Player 1" ∨ name = ascii "Player 2" then t.lookup rank name else none

theorem held_next_update (kept : t.Kept) (sound : t.Sound) {rank : GameObject → Nat}
    {connected gameLoaded : Bool} {lobby : LobbyManager} {readPosition : GameObject → Option Vec3}
    {now : Nat} :
    Held t.world (t.sync.update (t.lookup rank) connected gameLoaded lobby readPosition now).1 := by
  have lookups : ∀ name, LookedUp name → t.lookup rank name = lookupOf t rank name :=
    fun name looked => (if_pos looked).symm
  rw [update_congr kept.names lookups]
  refine held_update (fun name tc found => ?_) kept.idle sound.written
  unfold lookupOf at found
  split at found
  · rename_i looked
    obtain ⟨tc', found', rfl⟩ := Option.map_eq_some_iff.mp found
    obtain ⟨sighting, meant⟩ := ((right_iff kept).mpr sound).found rank name tc' looked found'
    exact meant.only
  · cases found

/-- **A step** leaves the entries in accord exactly if it is fine. -/
theorem sound_next_iff (kept : t.Kept) (sound : t.Sound) (event : Event) :
    (Tracking.machine.next t event).Sound ↔ Fine t event := by
  cases event with
  | change world =>
    constructor
    · exact fun sound' =>
        ⟨fun charPtr tc tracked looked => (sound'.follows charPtr tc tracked looked).2, sound'.written⟩
    · exact fun fine => ⟨fun charPtr tc tracked looked =>
        ⟨(sound.follows charPtr tc tracked looked).1, fine.1 charPtr tc tracked looked⟩, sound.latest,
          fine.2⟩
  | tick locked now animClassHuman => exact sound_tick_iff kept sound locked now animClassHuman
  | process now => exact sound_process_iff sound now
  | update rank connected gameLoaded lobby readPosition now =>
    exact iff_of_true ⟨sound.follows, sound.latest, held_next_update kept sound⟩ trivial
  | reset =>
    refine iff_of_true ⟨sound.follows, sound.latest, fun found => ?_⟩ trivial
    have nothing : t.sync.reset.otherFound = true := found
    cases nothing

/-- Nothing is tracked yet. -/
def Tracking.start (world : World) : Tracking := { world := world }

theorem kept_start (world : World) : (Tracking.start world).Kept where
  keyed charPtr tc tracked := by cases tracked
  numbered charPtr sighting seen := by cases seen
  idle _ := rfl
  names running := by cases running

theorem right_start (world : World) : (Tracking.start world).Right := by
  refine (right_iff (kept_start world)).mpr ⟨fun charPtr tc tracked => ?_,
    fun charPtr charPtr' tc tc' sighting sighting' tracked => ?_, fun found => ?_⟩
  · cases tracked
  · cases tracked
  · cases found

/-- **Tracking follows the living** all along a run if and only if every step is fine. -/
theorem tracking_follows (world : World) (events : List Event) :
    (∀ count, (Tracking.machine.run (Tracking.start world) (events.take count)).Right)
      ↔ Tracking.machine.Along Fine (Tracking.start world) events := by
  have exactly := @Machine.along_iff _ _ _ Tracking.machine Fine (fun t => t.Kept ∧ t.Right)
    (fun t event fine holds => ⟨kept_next holds.1 event, (right_iff (kept_next holds.1 event)).mpr
      ((sound_next_iff holds.1 ((right_iff holds.1).mp holds.2) event).mpr fine)⟩)
    (fun t event holds after => (sound_next_iff holds.1 ((right_iff holds.1).mp holds.2) event).mp
      ((right_iff after.1).mp after.2))
    _ ⟨kept_start world, right_start world⟩ events
  rw [exactly]
  refine forall_congr' fun count => ⟨fun right => ⟨?_, right⟩, And.right⟩
  exact Machine.run_invariant_always (motive := Tracking.Kept) (fun t event kept => kept_next kept event)
    (kept_start world) _

/-- One character, behind one animation object. -/
def inhabited (name : Bytes) : World where
  charOf animClassHuman := if animClassHuman = 0x20000 then some 0x10000 else none
  nameAt charPtr := if charPtr = 0x10000 then name else []

/-- **An address that is used again** keeps the name of the character before: the other player's character
is seen and freed, somebody else is made in its place, and ticks; its entry is found under the old name. -/
theorem tracking_fails : ¬ ∀ (world : World) (events : List Event) (count : ℕ),
    (Tracking.machine.run (Tracking.start world) (events.take count)).Right := by
  intro always
  have right := always (inhabited (ascii "Player 2"))
    [.tick true 0 0x20000, .process 0, .change (inhabited (ascii "Ruka")), .tick true 1 0x20000] 4
  have tracked : (Tracking.machine.run (Tracking.start (inhabited (ascii "Player 2")))
      [.tick true 0 0x20000, .process 0, .change (inhabited (ascii "Ruka")), .tick true 1 0x20000]
      ).tracker.trackedChars.lookup 0x10000 = some ⟨⟨0x20000, 0x10000⟩, ascii "Player 2", 1⟩ := by rfl
  obtain ⟨sighting, meant⟩ := right.found _ _ _ (.inr rfl) (Tracker.findByName_first tracked)
  have seen : some sighting = some ⟨0x20000, ascii "Ruka", 1⟩ := meant.seen.symm.trans (by rfl)
  have named := meant.named
  rw [Option.some.inj seen] at named
  exact absurd named (by decide)

end CharTracker

end KenshiMP
