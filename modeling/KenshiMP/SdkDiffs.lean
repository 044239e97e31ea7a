/-
**How far a consumer of the SDK's differences is from the world.**

A poll is compared with the poll before it, so a character that drifts never differs by enough, however far it
has come since it was last reported.

* `View.lookup_apply`: one update of a consumer;
* `shows_run`: what a consumer has of a character is what it was at its last jump;
* `sdk_diffs`: the consumer has exactly the characters of the world, and it is close to them after every update
  exactly if no character ever drifts away from its last jump.
-/

import KenshiMP.Client.KenshiSdk
import KenshiMP.Lib.Machine

namespace KenshiMP

namespace Sdk

open Assoc

/-! ### Closeness -/

namespace EntitySnapshot

variable (entity prev : EntitySnapshot)

/-- The position is within 0.1 units and every limb within 0.5. -/
structure Near : Prop where
  position : entity.distSq prev ≤ (1 / 10) ^ 2
  limbs : ∀ i, |entity.health i - prev.health i| ≤ 1 / 2

/-- Nothing differs by as much as a difference reports. -/
structure Still : Prop extends entity.Near prev where
  rotation : entity.rotationSq prev ≤ (1 / 100) ^ 2
  animState : entity.animState = prev.animState
  alive : entity.alive = prev.alive

instance decidableNear : Decidable (entity.Near prev) :=
  decidable_of_iff (entity.distSq prev ≤ (1 / 10) ^ 2 ∧ ∀ i, |entity.health i - prev.health i| ≤ 1 / 2)
    ⟨fun both => ⟨both.1, both.2⟩, fun near => ⟨near.1, near.2⟩⟩

instance decidableStill : Decidable (entity.Still prev) :=
  decidable_of_iff (entity.Near prev ∧ entity.rotationSq prev ≤ (1 / 100) ^ 2
      ∧ entity.animState = prev.animState ∧ entity.alive = prev.alive)
    ⟨fun all => ⟨all.1, all.2.1, all.2.2.1, all.2.2.2⟩, fun still => ⟨still.1, still.2, still.3, still.4⟩⟩

end EntitySnapshot

/-- The character with a pointer. -/
def find (ptr : UInt64) (entities : List EntitySnapshot) : Option EntitySnapshot :=
  entities.find? fun entity => entity.gamePtr = ptr

/-- **The last jump of a character** in some polls, the newest first: how it was when it last appeared, or last
differed visibly from the poll before. -/
def lastJump (ptr : UInt64) : List (List EntitySnapshot) → Option EntitySnapshot
  | [] => none
  | now :: earlier => (find ptr now).bind fun entity =>
    match find ptr (earlier.headD []) with
    | none => some entity
    | some prev => if entity.Still prev then lastJump ptr earlier else some entity

/-! ### The consumer -/

/-- What a consumer has. -/
abbrev View := AMap UInt64 EntitySnapshot

def View.put (view : View) (delta : EntityDelta) : View := AList.insert delta.gamePtr delta.snapshot view

/-- The consumer applies the differences of one update. -/
def View.apply (view : View) (diff : WorldDiff) : View :=
  AMap.eraseAll diff.removed (diff.changed.foldl View.put view)

/-- The SDK and a consumer that looks at the differences after each update. -/
def observed : Machine (KenshiSDK × View) GameReading Unit where
  step := fun (sdk, view) reading => ((sdk.update reading, view.apply (sdk.update reading).lastDiff), [])

/-- The SDK has been initialized, and the consumer starts empty. -/
def atStart : KenshiSDK × View := ({ initialized := true }, ∅)

/-- **The consumer follows the world.** -/
structure Follows (view : View) (world : List EntitySnapshot) : Prop where
  pointers : ∀ ptr, (view.lookup ptr).isSome ↔ ptr ∈ pointers world
  close : ∀ entity ∈ world, ∃ shown, view.lookup entity.gamePtr = some shown ∧ entity.Near shown
    ∧ entity.animState = shown.animState ∧ entity.alive = shown.alive

/-! ### Finding characters -/

section Finding

variable {entities : List EntitySnapshot} {ptr : UInt64}

theorem find_eq_some (distinct : (pointers entities).Nodup) {entity : EntitySnapshot} :
    find ptr entities = some entity ↔ entity ∈ entities ∧ entity.gamePtr = ptr := by
  constructor
  · intro found
    exact ⟨List.mem_of_find?_eq_some found, by simpa using List.find?_some found⟩
  · rintro ⟨inside, its⟩
    have some_found : (find ptr entities).isSome := by
      rw [find, List.find?_isSome]
      exact ⟨entity, inside, by simpa using its⟩
    obtain ⟨other, found⟩ := Option.isSome_iff_exists.mp some_found
    have same : other.gamePtr = entity.gamePtr := by
      rw [its]
      simpa using List.find?_some found
    rw [found, List.inj_on_of_nodup_map distinct (List.mem_of_find?_eq_some found) inside same]

theorem find_eq_none : find ptr entities = none ↔ ptr ∉ pointers entities := by
  simp only [find, pointers, List.find?_eq_none, decide_eq_true_eq, List.mem_map, not_exists, not_and]

theorem find_isSome : (find ptr entities).isSome ↔ ptr ∈ pointers entities := by
  rw [Option.isSome_iff_ne_none, Ne, find_eq_none, not_not]

variable (distinct : (pointers entities).Nodup)

include distinct

theorem find_reverse : find ptr entities.reverse = find ptr entities := by
  have distinct' : (pointers entities.reverse).Nodup := by
    rw [pointers, List.map_reverse, List.nodup_reverse]
    exact distinct
  ext entity
  rw [find_eq_some distinct, find_eq_some distinct', List.mem_reverse]

theorem find_filter (p : EntitySnapshot → Bool) :
    find ptr (entities.filter p) = (find ptr entities).filter p := by
  have distinct' : (pointers (entities.filter p)).Nodup := distinct.sublist (List.filter_sublist.map _)
  ext entity
  rw [find_eq_some distinct', Option.filter_eq_some_iff, find_eq_some distinct, List.mem_filter]
  tauto

/-- A map that is filled from some characters finds what they have. -/
theorem lookup_insertAll_entities (map : View) :
    (AMap.insertAll EntitySnapshot.gamePtr entities map).lookup ptr = (find ptr entities).or (map.lookup ptr) := by
  rw [AMap.lookup_insertAll, ← find_reverse distinct]
  rfl

end Finding

/-! ### One update -/

theorem raise_eq_none {flags bit : UInt16} (some_bit : bit ≠ 0) (p : Prop) [Decidable p] :
    (if p then flags ||| bit else flags) = Dirty_None ↔ flags = Dirty_None ∧ ¬ p := by
  by_cases raised : p
  · rw [if_pos raised, Dirty_None, UInt16.or_eq_zero_iff]
    exact ⟨fun both => absurd both.2 some_bit, fun both => absurd raised both.2⟩
  · rw [if_neg raised]
    exact ⟨fun none => ⟨none, raised⟩, And.left⟩

theorem EntitySnapshot.diffAgainst_eq_none (entity prev : EntitySnapshot) :
    entity.diffAgainst prev = Dirty_None ↔ entity.Still prev := by
  have flags : entity.diffAgainst prev = Dirty_None ↔
      ((((Dirty_None = Dirty_None ∧ ¬ 1 / 100 < entity.distSq prev) ∧ ¬ 1 / 10000 < entity.rotationSq prev)
        ∧ ¬ entity.animState ≠ prev.animState) ∧ ¬ ∃ i, 1 / 2 < |entity.health i - prev.health i|)
        ∧ ¬ entity.alive ≠ prev.alive := by
    refine (raise_eq_none (by decide) _).trans (and_congr_left' ?_)
    refine (raise_eq_none (by decide) _).trans (and_congr_left' ?_)
    refine (raise_eq_none (by decide) _).trans (and_congr_left' ?_)
    refine (raise_eq_none (by decide) _).trans (and_congr_left' ?_)
    exact raise_eq_none (by decide) _
  rw [flags]
  simp only [true_and, not_lt, ne_eq, not_not, not_exists]
  constructor
  · rintro ⟨⟨⟨⟨position, rotation⟩, animState⟩, limbs⟩, alive⟩
    exact ⟨⟨by norm_num; exact position, limbs⟩, by norm_num; exact rotation, animState, alive⟩
  · rintro ⟨⟨position, limbs⟩, rotation, animState, alive⟩
    norm_num at position rotation
    exact ⟨⟨⟨⟨by norm_num; exact position, by norm_num; exact rotation⟩, animState⟩, limbs⟩, alive⟩

/-- A character is reported: it is new, or it is not as it was before. -/
def jumps (before : UInt64 → Option EntitySnapshot) (entity : EntitySnapshot) : Bool :=
  (before entity.gamePtr).all fun prev => ¬ entity.Still prev

theorem check_changed (oldMap view : View) (diff : WorldDiff) (e : EntitySnapshot) :
    (diff.check oldMap e).changed.foldl View.put view = if jumps (fun key => oldMap.lookup key) e then
      AList.insert e.gamePtr e (diff.changed.foldl View.put view) else diff.changed.foldl View.put view := by
  have unfolded : jumps (fun key => oldMap.lookup key) e
      = (oldMap.lookup e.gamePtr).all fun prev => ¬ e.Still prev := rfl
  rw [WorldDiff.check, unfolded]
  cases oldMap.lookup e.gamePtr with
  | none => exact List.foldl_concat ..
  | some old =>
    by_cases still : e.Still old
    · simp [(e.diffAgainst_eq_none old).mpr still, still]
    · simp [mt (e.diffAgainst_eq_none old).mp still, still, View.put]

theorem check_removed (oldMap : View) (diff : WorldDiff) (e : EntitySnapshot) :
    (diff.check oldMap e).removed = diff.removed := by
  unfold WorldDiff.check
  cases oldMap.lookup e.gamePtr with
  | none => rfl
  | some old => exact apply_ite WorldDiff.removed _ _ _ |>.trans (ite_self _)

/-- The loop reports the characters that jump, and removes none. -/
theorem checks_eq (oldMap view : View) (entities : List EntitySnapshot) (diff : WorldDiff) :
    (entities.foldl (WorldDiff.check oldMap) diff).changed.foldl View.put view
        = AMap.insertAll EntitySnapshot.gamePtr (entities.filter (jumps fun key => oldMap.lookup key))
          (diff.changed.foldl View.put view)
      ∧ (entities.foldl (WorldDiff.check oldMap) diff).removed = diff.removed := by
  induction entities generalizing diff with
  | nil => exact ⟨rfl, rfl⟩
  | cons e rest ih =>
    obtain ⟨changed, removed⟩ := ih (diff.check oldMap e)
    rw [List.foldl_cons, changed, removed, check_changed, check_removed]
    refine ⟨?_, rfl⟩
    by_cases jump : jumps (fun key => oldMap.lookup key) e = true
    · rw [if_pos jump, List.filter_cons_of_pos jump]
      rfl
    · rw [if_neg jump, List.filter_cons_of_neg jump]

/-- **One update.** A character is gone, it is as in the new snapshot, or it stays as it was reported. -/
theorem View.lookup_apply {oldSnap newSnap : WorldSnapshot} (distinct : (pointers oldSnap.entities).Nodup)
    (distinct' : (pointers newSnap.entities).Nodup) (view : View) (ptr : UInt64) :
    (view.apply (computeDiff oldSnap newSnap)).lookup ptr
      = if ptr ∈ pointers oldSnap.entities ∧ ptr ∉ pointers newSnap.entities then none
        else ((find ptr newSnap.entities).filter (jumps fun key => find key oldSnap.entities)).or
          (view.lookup ptr) := by
  obtain ⟨changed, removed⟩ := checks_eq (AMap.insertAll EntitySnapshot.gamePtr oldSnap.entities ∅) view
    newSnap.entities {}
  have before : (fun key => (AMap.insertAll EntitySnapshot.gamePtr oldSnap.entities ∅).lookup key)
      = fun key => find key oldSnap.entities := by
    funext key
    rw [lookup_insertAll_entities distinct, AList.lookup_empty, Option.or_none]
  have gone : ptr ∈ (computeDiff oldSnap newSnap).removed
      ↔ ptr ∈ pointers oldSnap.entities ∧ ptr ∉ pointers newSnap.entities := by
    unfold computeDiff
    dsimp only
    rw [removed, List.nil_append, pointers, List.mem_map]
    constructor
    · rintro ⟨e, inside, rfl⟩
      rw [List.mem_filter, decide_eq_true_eq] at inside
      exact ⟨List.mem_map_of_mem inside.1, inside.2⟩
    · rintro ⟨was, missing⟩
      obtain ⟨e, inside, rfl⟩ := List.mem_map.mp was
      exact ⟨e, List.mem_filter.mpr ⟨inside, decide_eq_true missing⟩, rfl⟩
  have kept : (computeDiff oldSnap newSnap).changed.foldl View.put view = AMap.insertAll EntitySnapshot.gamePtr
      (newSnap.entities.filter (jumps fun key => find key oldSnap.entities)) view := by
    rw [← before]
    exact changed
  rw [View.apply, AMap.lookup_eraseAll, kept, lookup_insertAll_entities (distinct'.sublist
    (List.filter_sublist.map _)), find_filter distinct']
  exact if_congr gone rfl rfl

/-! ### The last jump -/

section Jumps

variable {now : List EntitySnapshot} {history : List (List EntitySnapshot)} {ptr : UInt64}

theorem lastJump_isSome : (lastJump ptr history).isSome ↔ ptr ∈ pointers (history.headD []) := by
  induction history with
  | nil => simp [lastJump, pointers]
  | cons now earlier ih =>
    rw [List.headD_cons, ← find_isSome, lastJump]
    cases find ptr now with
    | none => exact Iff.rfl
    | some entity =>
      refine iff_of_true ?_ rfl
      rw [← find_isSome] at ih
      rw [Option.bind_some]
      cases was : find ptr (earlier.headD []) with
      | none => rfl
      | some prev =>
        rw [was] at ih
        dsimp only
        split_ifs with still
        · exact ih.mpr rfl
        · rfl

/-- What one more poll does to the last jump. -/
theorem lastJump_cons : lastJump ptr (now :: history)
    = if ptr ∈ pointers (history.headD []) ∧ ptr ∉ pointers now then none
      else ((find ptr now).filter (jumps fun key => find key (history.headD []))).or (lastJump ptr history) := by
  cases found : find ptr now with
  | none =>
    have gone : ptr ∉ pointers now := find_eq_none.mp found
    have left : lastJump ptr (now :: history) = none := by
      rw [lastJump, found]
      rfl
    rw [left]
    split_ifs with was
    · rfl
    · have never : ptr ∉ pointers (history.headD []) := fun inside => was ⟨inside, gone⟩
      rw [← lastJump_isSome, Option.not_isSome_iff_eq_none] at never
      exact never.symm
  | some entity =>
    have its : entity.gamePtr = ptr := by simpa using List.find?_some found
    have here : ptr ∈ pointers now := find_isSome.mp (by rw [found]; rfl)
    have unfolded : jumps (fun key => find key (history.headD [])) entity
        = (find ptr (history.headD [])).all fun prev => ¬ entity.Still prev := by
      rw [← its]
      rfl
    rw [if_neg fun both => both.2 here, lastJump, found, Option.bind_some, Option.filter_some, unfolded]
    cases find ptr (history.headD []) with
    | none => rfl
    | some prev => by_cases still : entity.Still prev <;> simp [still]

/-- A character that has not jumped is in the same state. -/
theorem lastJump_same {entity shown : EntitySnapshot} (found : find ptr (history.headD []) = some entity)
    (jumped : lastJump ptr history = some shown) :
    entity.animState = shown.animState ∧ entity.alive = shown.alive := by
  induction history generalizing entity with
  | nil => cases jumped
  | cons now earlier ih =>
    rw [List.headD_cons] at found
    rw [lastJump, found, Option.bind_some] at jumped
    cases was : find ptr (earlier.headD []) with
    | none =>
      rw [was] at jumped
      cases jumped
      exact ⟨rfl, rfl⟩
    | some prev =>
      rw [was] at jumped
      dsimp only at jumped
      split_ifs at jumped with still
      · obtain ⟨animState, alive⟩ := ih was jumped
        exact ⟨still.animState.trans animState, still.alive.trans alive⟩
      · cases jumped
        exact ⟨rfl, rfl⟩

end Jumps

/-! ### Runs -/

/-- What holds between the updates: the polls so far, the newest first. -/
structure Shows (history : List (List EntitySnapshot)) (state : KenshiSDK × View) : Prop where
  initialized : state.1.initialized = true
  current : state.1.current.entities = history.headD []
  distinct : (pointers (history.headD [])).Nodup
  lookup : ∀ ptr, state.2.lookup ptr = lastJump ptr history

theorem atStart_shows : Shows [] atStart := ⟨rfl, rfl, List.nodup_nil, fun _ => rfl⟩

theorem pollEntities_entities (reading : GameReading) (frameNumber : UInt32) :
    (pollEntities reading { frameNumber := frameNumber }).entities = reading.polled := by
  unfold pollEntities
  cases reading.world <;> rfl

theorem Shows.next {history : List (List EntitySnapshot)} {state : KenshiSDK × View}
    (shows_all : Shows history state) {reading : GameReading} (distinct : (pointers reading.polled).Nodup) :
    Shows (reading.polled :: history) (observed.next state reading) := by
  obtain ⟨sdk, view⟩ := state
  obtain ⟨initialized, current, before, lookup⟩ := shows_all
  have polled := pollEntities_entities reading (sdk.frameNumber + 1)
  have updated : sdk.update reading = _ := if_pos initialized
  have unfolded : observed.next (sdk, view) reading
      = (sdk.update reading, view.apply (sdk.update reading).lastDiff) := rfl
  rw [unfolded, updated]
  refine ⟨initialized, polled, distinct, fun ptr => ?_⟩
  dsimp only at current lookup ⊢
  rw [View.lookup_apply (by rw [current]; exact before) (by rw [polled]; exact distinct), polled, current,
    lastJump_cons, lookup]

/-- The polls of some readings, the newest first. -/
def polls (readings : List GameReading) : List (List EntitySnapshot) :=
  (readings.map GameReading.polled).reverse

theorem shows_run {readings : List GameReading}
    (distinct : ∀ reading ∈ readings, (pointers reading.polled).Nodup) :
    Shows (polls readings) (observed.run atStart readings) := by
  induction readings using List.reverseRecOn with
  | nil => exact atStart_shows
  | append_singleton earlier reading ih =>
    have before := ih fun other inside => distinct other (List.mem_append_left _ inside)
    have unfolded : polls (earlier ++ [reading]) = reading.polled :: polls earlier := by
      rw [polls, List.map_append, List.reverse_append]
      rfl
    rw [unfolded, Machine.run_append]
    exact before.next (distinct reading (List.mem_append_right _ List.mem_cons_self))

/-- **No character has drifted away** from its last jump. -/
def Settled (readings : List GameReading) : Prop :=
  ∀ entity ∈ (polls readings).headD [], ∀ jumped, lastJump entity.gamePtr (polls readings) = some jumped →
    entity.Near jumped

theorem Shows.follows_iff {readings : List GameReading} {state : KenshiSDK × View}
    (shows_all : Shows (polls readings) state) :
    Follows state.2 state.1.current.entities ↔ Settled readings := by
  obtain ⟨-, current, distinct, lookup⟩ := shows_all
  rw [current]
  constructor
  · intro follows entity inside jumped last
    obtain ⟨shown, found, near, -, -⟩ := follows.close entity inside
    rw [lookup, last] at found
    cases found
    exact near
  · intro settled
    refine ⟨fun ptr => by rw [lookup, lastJump_isSome], fun entity inside => ?_⟩
    have here : entity.gamePtr ∈ pointers ((polls readings).headD []) := List.mem_map_of_mem inside
    obtain ⟨jumped, last⟩ := Option.isSome_iff_exists.mp (lastJump_isSome.mpr here)
    have same := lastJump_same ((find_eq_some distinct).mpr ⟨inside, rfl⟩) last
    exact ⟨jumped, (lookup _).trans last, settled entity inside jumped last, same⟩

/-- **The consumer follows the world** after every update exactly if no character drifts away. -/
theorem sdk_diffs (readings : List GameReading)
    (distinct : ∀ reading ∈ readings, (pointers reading.polled).Nodup) :
    (∀ done, done <+: readings →
        Follows (observed.run atStart done).2 (observed.run atStart done).1.current.entities)
      ↔ ∀ done, done <+: readings → Settled done := by
  have along {done : List GameReading} (first : done <+: readings) :=
    (shows_run fun reading inside => distinct reading (first.subset inside)).follows_iff
  exact ⟨fun always done first => (along first).mp (always done first),
    fun always done first => (along first).mpr (always done first)⟩

/-- One character that has come some hundredths of a unit. -/
def walker (hundredths : ℚ) : EntitySnapshot := { gamePtr := 1, position := ⟨hundredths / 100, 0, 0⟩ }

def walk : List GameReading := [⟨[walker 0], none⟩, ⟨[walker 6], none⟩, ⟨[walker 12], none⟩]

/-- A step that is too small to tell, and one that is not. -/
def stroll : List GameReading := [⟨[walker 0], none⟩, ⟨[walker 4], none⟩, ⟨[walker 60], none⟩]

theorem sdk_diffs_stroll :
    Follows (observed.run atStart stroll).2 (observed.run atStart stroll).1.current.entities := by
  refine (sdk_diffs stroll (by decide +kernel)).mpr (fun done first => ?_) stroll List.prefix_rfl
  have settled : ∀ done ∈ stroll.inits, ∀ entity ∈ (polls done).headD [],
      ∀ jumped ∈ lastJump entity.gamePtr (polls done), entity.Near jumped := by decide +kernel
  exact settled done ((List.mem_inits _ _).mpr first)

/-- A character walks slowly, and the consumer still has it where it started. -/
theorem sdk_diffs_fails : ¬ ∀ readings : List GameReading,
    (∀ reading ∈ readings, (pointers reading.polled).Nodup) → ∀ done, done <+: readings →
      Follows (observed.run atStart done).2 (observed.run atStart done).1.current.entities := by
  intro always
  have follows := always walk (by decide +kernel) walk List.prefix_rfl
  have here : walker 12 ∈ (observed.run atStart walk).1.current.entities := by decide +kernel
  obtain ⟨shown, found, near, -, -⟩ := follows.close (walker 12) here
  have start : (observed.run atStart walk).2.lookup (walker 12).gamePtr = some (walker 0) := by decide +kernel
  rw [start] at found
  cases found
  exact absurd near (by decide +kernel)

end Sdk

end KenshiMP
