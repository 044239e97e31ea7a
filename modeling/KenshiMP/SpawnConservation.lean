/-
**The spawn requests: none is lost, and what is cleared does not come back.**

A request leaves its place only for the next one: `account_step` goes through the operations. The exception is
the swap with which the processor puts back all it has taken: what was queued meanwhile is lost with it. And
clearing reaches only the queue: a request with the processor, or with a caller that has popped it, comes
back. `Kept` excludes these cases.
-/

import KenshiMP.Client.SpawnManager

namespace KenshiMP

/-! ### What should be -/

/-- The requests of the processor. -/
def SpawnProcessor.holds : SpawnProcessor → List SpawnEntry
  | .outside => []
  | .swapped toProcess | .returning toProcess => toProcess
  | .working toProcess retryQueue => toProcess ++ retryQueue

namespace SpawnManager

section Claims

variable (manager : SpawnManager)

/-- The requests, place by place. -/
def places : List SpawnEntry :=
  manager.spawnQueue ++ manager.processor.holds ++ manager.popped ++ manager.fates.map Prod.fst

/-- Every request is at exactly one place. -/
def Conserved : Prop := (manager.places.map SpawnEntry.number).Perm (List.range manager.nextNumber)

/-- A request is dropped when it has had all its attempts. -/
def Exhausted : Prop :=
  ∀ entry, (entry, .dropped) ∈ manager.fates → entry.queuedRetries < MAX_SPAWN_RETRIES →
    entry.queuedRetries.toNat + entry.attempts = MAX_SPAWN_RETRIES.toNat

/-- The requests of a player that were queued before are not queued, and are not spawned any more. -/
def ClearedSince (before : SpawnManager) (owner : PlayerID) : Prop :=
  ∀ entry, entry.request.owner = owner → entry.number < before.nextNumber →
    entry ∉ manager.spawnQueue ∧ ∀ character, (entry, .spawned character) ∈ manager.fates →
      (entry, .spawned character) ∈ before.fates

/-- Nothing is queued when the processor swaps back; the processor holds nothing of a player whose requests
are cleared; and no caller puts back a request that was queued before they were cleared. -/
def Kept : Event → Prop
  | .process _ => ∀ toProcess, manager.processor = .returning toProcess → manager.spawnQueue = []
  | .clearSpawnsForOwner owner => ∀ entry ∈ manager.processor.holds, entry.request.owner ≠ owner
  | .requeueSpawn number _ =>
    ∀ entry ∈ manager.popped, entry.number = number →
      manager.clearedBelow entry.request.owner ≤ number
  | _ => True

end Claims

variable {manager : SpawnManager}

/-! ### Places -/

/-- A step that moves requests between places. -/
theorem Conserved.moves {after : SpawnManager} (conserved : manager.Conserved)
    (places : (after.places.map SpawnEntry.number).Perm (manager.places.map SpawnEntry.number))
    (next : after.nextNumber = manager.nextNumber) : after.Conserved := by
  unfold Conserved
  rw [next]
  exact places.trans conserved

theorem conserved_queueSpawn (conserved : manager.Conserved) (request : FactoryRequest) :
    (manager.queueSpawn request).Conserved := by
  unfold Conserved
  have more : ((manager.queueSpawn request).places.map SpawnEntry.number).Perm
      (manager.places.map SpawnEntry.number ++ [manager.nextNumber]) := by
    refine List.perm_iff_count.mpr fun number => ?_
    simp only [places, queueSpawn, List.map_append, List.map_cons, List.map_nil, List.count_append]
    omega
  refine more.trans ?_
  show List.Perm _ (List.range (manager.nextNumber + 1))
  rw [List.range_succ]
  exact conserved.append_right _

theorem conserved_popNextSpawn (conserved : manager.Conserved) : manager.popNextSpawn.Conserved := by
  unfold popNextSpawn
  cases queue : manager.spawnQueue with
  | nil => exact conserved
  | cons entry rest =>
    refine conserved.moves (List.perm_iff_count.mpr fun number => ?_) rfl
    simp only [places, queue, List.map_append, List.map_cons, List.map_nil, List.count_append,
      List.count_cons, List.count_nil]
    omega

variable {entry : SpawnEntry} {event : Event}

/-- The popped request that a caller puts back. -/
theorem popped_parts {number : Nat}
    (found : (manager.popped.find? fun entry => entry.number = number) = some entry) :
    ∃ before after, manager.popped = before ++ entry :: after
      ∧ (manager.popped.eraseP fun entry => entry.number = number) = before ++ after
      ∧ entry.number = number := by
  obtain ⟨same, before, after, parts, none⟩ := List.find?_eq_some_iff_append.mp found
  refine ⟨before, after, parts, ?_, by simpa using same⟩
  have others : ∀ other ∈ before, ¬ (decide (other.number = number)) = true := by
    intro other inside
    simpa using none other inside
  rw [parts, List.eraseP_append_right _ others, List.eraseP_cons, same]
  rfl

theorem conserved_requeueSpawn (conserved : manager.Conserved) (number : Nat) (retryCount : UInt32) :
    (manager.requeueSpawn number retryCount).Conserved := by
  unfold requeueSpawn
  cases found : manager.popped.find? fun entry => entry.number = number with
  | none => exact conserved
  | some entry =>
    obtain ⟨before, after, parts, rest, -⟩ := popped_parts found
    refine conserved.moves (List.perm_iff_count.mpr fun other => ?_) rfl
    rw [rest]
    simp only [places, parts, SpawnEntry.requeued, List.map_append, List.map_cons, List.map_nil,
      List.count_append, List.count_cons, List.count_nil]
    omega

theorem conserved_clear (conserved : manager.Conserved) (removes : SpawnEntry → Bool) :
    (manager.clear removes).Conserved := by
  refine conserved.moves (List.perm_iff_count.mpr fun number => ?_) rfl
  have split := ((List.filter_append_perm removes manager.spawnQueue).map SpawnEntry.number).count_eq number
  have marked : ((manager.spawnQueue.filter removes).map fun entry => (entry, SpawnFate.cleared)).map Prod.fst
      = manager.spawnQueue.filter removes := by
    rw [List.map_map]
    exact List.map_id _
  rw [List.map_append, List.count_append] at split
  simp only [places, clear, List.map_append, marked, List.count_append]
  omega

theorem conserved_process (conserved : manager.Conserved) (found : SpawnFindings)
    (kept : ∀ toProcess, manager.processor = .returning toProcess → manager.spawnQueue = []) :
    (manager.processSpawnQueueFromHook found).Conserved := by
  unfold processSpawnQueueFromHook
  cases processor : manager.processor with
  | outside =>
    simp only
    split_ifs
    · exact conserved
    · refine conserved.moves (List.perm_iff_count.mpr fun number => ?_) rfl
      simp [places, processor, SpawnProcessor.holds]
  | swapped toProcess =>
    refine conserved.moves (List.perm_iff_count.mpr fun number => ?_) rfl
    simp only [places, processor]
    split_ifs <;> simp [SpawnProcessor.holds]
  | returning toProcess =>
    refine conserved.moves (List.perm_iff_count.mpr fun number => ?_) rfl
    simp [places, processor, SpawnProcessor.holds, kept toProcess processor]
  | working toProcess retryQueue =>
    cases toProcess with
    | nil =>
      refine conserved.moves (List.perm_iff_count.mpr fun number => ?_) rfl
      simp [places, processor, SpawnProcessor.holds]
    | cons entry rest =>
      simp only [processOne]
      split_ifs
      all_goals
        refine conserved.moves (List.perm_iff_count.mpr fun number => ?_) rfl
        simp only [places, processor, SpawnProcessor.holds, SpawnEntry.retried, List.map_append, List.map_cons,
          List.map_nil, List.count_append, List.count_cons, List.count_nil]
        omega

/-! ### What a step does -/

/-- The requests that may still be spawned. -/
def alive (manager : SpawnManager) : List SpawnEntry := manager.spawnQueue ++ manager.processor.holds

/-- Such a request was there before, or it is a new one, one that a caller puts back, or one whose attempt
has failed. -/
inductive Comes (manager : SpawnManager) : Event → SpawnEntry → Prop where
  | stays {event : Event} {entry : SpawnEntry} (there : entry ∈ manager.alive) : Comes manager event entry
  | queued (request : FactoryRequest) :
    Comes manager (.queueSpawn request)
      { number := manager.nextNumber, queuedRetries := request.retryCount, request := request }
  | requeued {entry : SpawnEntry} (retryCount : UInt32) (there : entry ∈ manager.popped) :
    Comes manager (.requeueSpawn entry.number retryCount) (entry.requeued retryCount)
  | retried {entry : SpawnEntry} (found : SpawnFindings) (there : entry ∈ manager.processor.holds)
    (again : entry.retried.request.retryCount < MAX_SPAWN_RETRIES) :
    Comes manager (.process found) entry.retried

/-- A fate was there before, or it comes to a request in the queue or of the processor. -/
inductive Fated (manager : SpawnManager) : SpawnEntry × SpawnFate → Prop where
  | stays {entry : SpawnEntry × SpawnFate} (there : entry ∈ manager.fates) : Fated manager entry
  | cleared (entry : SpawnEntry) : Fated manager (entry, .cleared)
  | spawned {entry : SpawnEntry} (there : entry ∈ manager.processor.holds) (character : GameObject) :
    Fated manager (entry, .spawned character)
  | dropped {entry : SpawnEntry} (there : entry ∈ manager.processor.holds)
    (last : ¬ entry.retried.request.retryCount < MAX_SPAWN_RETRIES) : Fated manager (entry.retried, .dropped)

theorem processOne_comes {found : SpawnFindings} {entry other : SpawnEntry} {rest retryQueue : List SpawnEntry}
    (working : manager.processor = .working (entry :: rest) retryQueue)
    (there : other ∈ (manager.processOne found entry rest retryQueue).alive) :
    Comes manager (.process found) other := by
  have held : entry ∈ manager.processor.holds := by simp [working, SpawnProcessor.holds]
  simp only [alive, processOne] at there
  split_ifs at there with spawns again
  · refine .stays ?_
    simp only [alive, working, SpawnProcessor.holds, List.mem_append, List.mem_cons] at there ⊢
    tauto
  · by_cases same : other = entry.retried
    · rw [same]
      exact .retried found held again
    · refine .stays ?_
      simp only [alive, working, SpawnProcessor.holds, List.mem_append, List.mem_cons,
        List.not_mem_nil, same] at there ⊢
      tauto
  · refine .stays ?_
    simp only [alive, working, SpawnProcessor.holds, List.mem_append, List.mem_cons] at there ⊢
    tauto

theorem requeueSpawn_comes {number : Nat} {retryCount : UInt32}
    (there : entry ∈ (manager.requeueSpawn number retryCount).alive) :
    Comes manager (.requeueSpawn number retryCount) entry := by
  unfold requeueSpawn at there
  cases found : manager.popped.find? fun entry => entry.number = number with
  | none =>
    rw [found] at there
    exact .stays there
  | some popped =>
    rw [found] at there
    obtain ⟨before, after, parts, -, rfl⟩ := popped_parts found
    simp only [alive, List.mem_append, List.mem_singleton] at there
    rcases there with (old | rfl) | held
    · exact .stays (List.mem_append_left _ old)
    · exact .requeued retryCount (by simp [parts])
    · exact .stays (List.mem_append_right _ held)

theorem clear_comes {removes : SpawnEntry → Bool}
    (there : entry ∈ (manager.clear removes).alive) : entry ∈ manager.alive := by
  rcases List.mem_append.mp there with queued | held
  · exact List.mem_append_left _ (List.mem_filter.mp queued).1
  · exact List.mem_append_right _ held

theorem process_comes {found : SpawnFindings}
    (there : entry ∈ (manager.processSpawnQueueFromHook found).alive) :
    Comes manager (.process found) entry := by
  unfold processSpawnQueueFromHook at there
  cases processor : manager.processor with
  | outside =>
    rw [processor] at there
    refine .stays ?_
    simp only at there
    split_ifs at there
    · exact there
    · simpa [alive, processor, SpawnProcessor.holds] using there
  | swapped toProcess =>
    rw [processor] at there
    refine .stays ?_
    simp only [alive] at there
    split_ifs at there <;> simpa [alive, processor, SpawnProcessor.holds] using there
  | returning toProcess =>
    rw [processor] at there
    refine .stays ?_
    simp only [alive, SpawnProcessor.holds, List.append_nil] at there
    simp [alive, processor, SpawnProcessor.holds, there]
  | working toProcess retryQueue =>
    rw [processor] at there
    cases toProcess with
    | nil =>
      refine .stays ?_
      simpa [alive, processor, SpawnProcessor.holds] using there
    | cons first rest => exact processOne_comes processor there

theorem step_comes (there : entry ∈ (manager.step event).alive) : Comes manager event entry := by
  cases event with
  | queueSpawn request =>
    simp only [step, queueSpawn, alive, List.mem_append, List.mem_singleton] at there
    rcases there with (old | rfl) | held
    · exact .stays (List.mem_append_left _ old)
    · exact .queued request
    · exact .stays (List.mem_append_right _ held)
  | popNextSpawn =>
    refine .stays ?_
    unfold step popNextSpawn at there
    cases queue : manager.spawnQueue with
    | nil =>
      rw [queue] at there
      exact there
    | cons first rest =>
      rw [queue] at there
      simp only [alive, queue, List.cons_append] at there ⊢
      exact List.mem_cons_of_mem _ there
  | requeueSpawn number retryCount => exact requeueSpawn_comes there
  | clearSpawnsForOwner owner => exact .stays (clear_comes there)
  | clearSpawnQueue => exact .stays (clear_comes there)
  | process found => exact process_comes there

theorem clear_fated {removes : SpawnEntry → Bool} {entry : SpawnEntry × SpawnFate}
    (there : entry ∈ (manager.clear removes).fates) : Fated manager entry := by
  rcases List.mem_append.mp there with old | new
  · exact .stays old
  · obtain ⟨first, -, rfl⟩ := List.mem_map.mp new
    exact .cleared first

theorem process_fated {found : SpawnFindings} {entry : SpawnEntry × SpawnFate}
    (there : entry ∈ (manager.processSpawnQueueFromHook found).fates) : Fated manager entry := by
  unfold processSpawnQueueFromHook at there
  cases processor : manager.processor with
  | outside =>
    rw [processor] at there
    simp only at there
    split_ifs at there <;> exact .stays there
  | swapped toProcess | returning toProcess =>
    rw [processor] at there
    exact .stays there
  | working toProcess retryQueue =>
    rw [processor] at there
    cases toProcess with
    | nil => exact .stays there
    | cons first rest =>
      have held : first ∈ manager.processor.holds := by simp [processor, SpawnProcessor.holds]
      simp only [processOne] at there
      split_ifs at there with spawns again
      · rcases List.mem_append.mp there with old | new
        · exact .stays old
        · rw [List.mem_singleton.mp new]
          exact .spawned held _
      · exact .stays there
      · rcases List.mem_append.mp there with old | new
        · exact .stays old
        · rw [List.mem_singleton.mp new]
          exact .dropped held again

theorem popNextSpawn_keeps : manager.popNextSpawn.fates = manager.fates
    ∧ manager.popNextSpawn.nextNumber = manager.nextNumber
    ∧ manager.popNextSpawn.clearedBelow = manager.clearedBelow := by
  unfold popNextSpawn
  cases manager.spawnQueue <;> exact ⟨rfl, rfl, rfl⟩

theorem requeueSpawn_keeps (number : Nat) (retryCount : UInt32) :
    (manager.requeueSpawn number retryCount).fates = manager.fates
      ∧ (manager.requeueSpawn number retryCount).nextNumber = manager.nextNumber
      ∧ (manager.requeueSpawn number retryCount).clearedBelow = manager.clearedBelow := by
  unfold requeueSpawn
  cases manager.popped.find? fun entry => entry.number = number <;> exact ⟨rfl, rfl, rfl⟩

theorem process_keeps (found : SpawnFindings) :
    (manager.processSpawnQueueFromHook found).nextNumber = manager.nextNumber
      ∧ (manager.processSpawnQueueFromHook found).clearedBelow = manager.clearedBelow := by
  unfold processSpawnQueueFromHook
  cases manager.processor with
  | outside =>
    simp only
    split_ifs <;> exact ⟨rfl, rfl⟩
  | swapped toProcess | returning toProcess => exact ⟨rfl, rfl⟩
  | working toProcess retryQueue =>
    cases toProcess with
    | nil => exact ⟨rfl, rfl⟩
    | cons first rest =>
      simp only [processOne]
      split_ifs <;> exact ⟨rfl, rfl⟩

theorem step_fated {entry : SpawnEntry × SpawnFate}
    (there : entry ∈ (manager.step event).fates) : Fated manager entry := by
  cases event with
  | queueSpawn request => exact .stays there
  | popNextSpawn => exact .stays (popNextSpawn_keeps.1 ▸ there)
  | requeueSpawn number retryCount => exact .stays ((requeueSpawn_keeps number retryCount).1 ▸ there)
  | clearSpawnsForOwner owner => exact clear_fated there
  | clearSpawnQueue => exact clear_fated there
  | process found => exact process_fated there

theorem step_next (event : Event) : manager.nextNumber ≤ (manager.step event).nextNumber := by
  cases event with
  | queueSpawn request => exact Nat.le_succ _
  | popNextSpawn => exact popNextSpawn_keeps.2.1.ge
  | requeueSpawn number retryCount => exact (requeueSpawn_keeps number retryCount).2.1.ge
  | clearSpawnsForOwner owner => exact Nat.le_refl _
  | clearSpawnQueue => exact Nat.le_refl _
  | process found => exact (process_keeps found).1.ge

/-- Clearing the requests of a player sets its bound to the next number; else the bounds stay. -/
theorem step_clearedBelow (event : Event) (owner : PlayerID) :
    (manager.step event).clearedBelow owner = manager.clearedBelow owner
      ∨ (manager.step event).clearedBelow owner = manager.nextNumber := by
  cases event with
  | queueSpawn request => exact .inl rfl
  | popNextSpawn => exact .inl (congrFun popNextSpawn_keeps.2.2 owner)
  | requeueSpawn number retryCount => exact .inl (congrFun (requeueSpawn_keeps number retryCount).2.2 owner)
  | clearSpawnsForOwner other =>
    by_cases same : owner = other
    · rw [same]
      exact .inr (Function.update_self _ _ _)
    · exact .inl (Function.update_of_ne same _ _)
  | clearSpawnQueue => exact .inl rfl
  | process found => exact .inl (congrFun (process_keeps found).2 owner)

/-! ### Attempts -/

/-- The count of a request that may still be spawned is that of its attempts. -/
def Live (entry : SpawnEntry) : Prop :=
  entry.queuedRetries < MAX_SPAWN_RETRIES → entry.request.retryCount < MAX_SPAWN_RETRIES
    ∧ entry.request.retryCount.toNat = entry.queuedRetries.toNat + entry.attempts

theorem live_new (first : entry.queuedRetries = entry.request.retryCount)
    (none : entry.attempts = 0) : Live entry := by
  intro few
  rw [none, ← first]
  exact ⟨few, rfl⟩

/-- A failed attempt counts, and the count does not wrap around. -/
theorem retried_count (live : Live entry) (few : entry.queuedRetries < MAX_SPAWN_RETRIES) :
    entry.retried.request.retryCount.toNat = entry.request.retryCount.toNat + 1
      ∧ entry.request.retryCount.toNat < MAX_SPAWN_RETRIES.toNat
      ∧ entry.retried.request.retryCount.toNat = entry.queuedRetries.toNat + entry.retried.attempts := by
  obtain ⟨below, count⟩ := live few
  have small : entry.request.retryCount.toNat < 200 := below
  have next : entry.retried.request.retryCount.toNat = entry.request.retryCount.toNat + 1 := by
    show (entry.request.retryCount + 1).toNat = _
    rw [UInt32.toNat_add]
    exact Nat.mod_eq_of_lt (by simp; omega)
  refine ⟨next, below, ?_⟩
  rw [next, count]
  rfl

structure Account (manager : SpawnManager) : Prop where
  conserved : manager.Conserved
  live : ∀ entry ∈ manager.alive, Live entry
  exhausted : manager.Exhausted

theorem account_start : Account {} where
  conserved := List.Perm.refl []
  live _ inside := absurd inside List.not_mem_nil
  exhausted _ inside := absurd inside List.not_mem_nil

theorem conserved_step (conserved : manager.Conserved) (kept : manager.Kept event) :
    (manager.step event).Conserved := by
  cases event with
  | queueSpawn request => exact conserved_queueSpawn conserved request
  | popNextSpawn => exact conserved_popNextSpawn conserved
  | requeueSpawn number retryCount => exact conserved_requeueSpawn conserved number retryCount
  | clearSpawnsForOwner owner => exact conserved_clear conserved _
  | clearSpawnQueue => exact conserved_clear conserved _
  | process found => exact conserved_process conserved found kept

theorem account_step (account : Account manager) (kept : manager.Kept event) :
    Account (manager.step event) where
  conserved := conserved_step account.conserved kept
  live entry there := by
    cases step_comes there with
    | stays old => exact account.live entry old
    | queued request => exact live_new rfl rfl
    | requeued retryCount popped => exact live_new rfl rfl
    | retried found held again =>
      intro few
      obtain ⟨-, -, count⟩ := retried_count (account.live _ (List.mem_append_right _ held)) few
      exact ⟨again, count⟩
  exhausted entry there few := by
    cases step_fated there with
    | stays old => exact account.exhausted entry old few
    | dropped held last =>
      obtain ⟨next, below, count⟩ := retried_count (account.live _ (List.mem_append_right _ held)) few
      have most := not_lt.mp fun less => last (UInt32.lt_iff_toNat_lt.mpr less)
      exact count.symm.trans (le_antisymm (next.trans_le below) most)

/-! ### What has been cleared -/

/-- The requests of a player that were queued before some state are out of reach. -/
structure OutOfReach (before : SpawnManager) (owner : PlayerID) (manager : SpawnManager) : Prop where
  later : ∀ entry ∈ manager.alive, entry.request.owner = owner → before.nextNumber ≤ entry.number
  fates : ∀ entry character, entry.request.owner = owner → entry.number < before.nextNumber →
    (entry, .spawned character) ∈ manager.fates → (entry, .spawned character) ∈ before.fates
  next : before.nextNumber ≤ manager.nextNumber
  bound : before.nextNumber ≤ manager.clearedBelow owner

variable {before : SpawnManager} {owner : PlayerID}

theorem outOfReach_clear (kept : before.Kept (.clearSpawnsForOwner owner)) :
    OutOfReach before owner (before.step (.clearSpawnsForOwner owner)) where
  later entry there owned := by
    rcases List.mem_append.mp there with queued | held
    · have other := (List.mem_filter.mp queued).2
      simp [owned] at other
    · exact absurd owned (kept entry held)
  fates entry character owned _ there := by
    rcases List.mem_append.mp there with old | new
    · exact old
    · simp at new
  next := Nat.le_refl _
  bound := (Function.update_self owner before.nextNumber before.clearedBelow).ge

theorem outOfReach_step (out : OutOfReach before owner manager)
    (kept : manager.Kept event) : OutOfReach before owner (manager.step event) where
  later entry there owned := by
    cases step_comes there with
    | stays old => exact out.later entry old owned
    | queued request => exact out.next
    | @requeued popped retryCount inside =>
      have bound := kept popped inside rfl
      rw [show popped.request.owner = owner from owned] at bound
      exact out.bound.trans bound
    | @retried held found inside again => exact out.later held (List.mem_append_right _ inside) owned
  fates entry character owned early there := by
    cases step_fated there with
    | stays old => exact out.fates entry character owned early old
    | spawned held =>
      exact absurd (out.later entry (List.mem_append_right _ held) owned) (not_le.mpr early)
  next := out.next.trans (step_next event)
  bound := by
    rcases @step_clearedBelow manager event owner with same | now
    · rw [same]
      exact out.bound
    · rw [now]
      exact out.next

/-! ### Runs -/

theorem cleared_run {events : List Event} (kept : machine.Along Kept {} events) (first : List Event)
    (owner : PlayerID) (rest : List Event) (parts : events = first ++ .clearSpawnsForOwner owner :: rest) :
    (machine.run {} events).ClearedSince (machine.run {} first) owner := by
  subst parts
  obtain ⟨-, clears, later⟩ := Machine.along_append.mp kept
  rw [Machine.run_append]
  have out := Machine.run_invariant (M := machine) (motive := OutOfReach (machine.run {} first) owner)
    (fun _ _ kept out => outOfReach_step out kept) (outOfReach_clear clears) later
  intro entry owned early
  refine ⟨fun queued => ?_, fun character => out.fates entry character owned early⟩
  exact absurd (out.later entry (List.mem_append_left _ queued) owned) (not_le.mpr early)

/-- In a run in which nothing is queued while the processor swaps back, and in which a player's requests are
cleared when nobody holds one, every request is at one place, it is dropped after its attempts only, and
cleared requests stay away. -/
theorem spawns_conserved (events : List Event) (kept : machine.Along Kept {} events) :
    (machine.run {} events).Conserved ∧ (machine.run {} events).Exhausted
      ∧ ∀ before owner after, events = before ++ .clearSpawnsForOwner owner :: after →
        (machine.run {} events).ClearedSince (machine.run {} before) owner := by
  have account := Machine.run_invariant (M := machine) (motive := Account)
    (fun _ _ kept account => account_step account kept) account_start kept
  exact ⟨account.conserved, account.exhausted, cleared_run kept⟩

/-- A request without a name of a template. -/
def request (owner : PlayerID) : FactoryRequest where
  netId := 7
  owner := owner
  type := 0
  templateName := []
  position := {}
  rotation := {}
  templateId := 0
  factionId := 0

/-- There are no templates of the mod, and the original function makes this of any other. -/
def processes (origProcess processed : GameObject) : SpawnFindings where
  origProcess := origProcess
  factory := 0
  modTemplateCount := 0
  modPlayerTemplates _ := 0
  characterTemplates := ∅
  lastCharacterTemplate := 0x20000
  factoryInputTemplates := ∅
  lastFactoryInput := 0
  created := 0
  processed := processed

/-- The factory fails once, and the second player leaves; then the first request is spawned. -/
def failsOnce : List Event :=
  [.queueSpawn (request 1), .process (processes 0x30000 0), .queueSpawn (request 2),
    .process (processes 0x30000 0), .clearSpawnsForOwner 2, .process (processes 0x30000 0),
    .process (processes 0x30000 0), .process (processes 0x30000 0), .process (processes 0x30000 0),
    .process (processes 0x30000 0x40000)]

theorem spawns_conserved_failsOnce :
    (machine.run {} failsOnce).Conserved ∧ (machine.run {} failsOnce).Exhausted
      ∧ ∀ before owner after, failsOnce = before ++ .clearSpawnsForOwner owner :: after →
        (machine.run {} failsOnce).ClearedSince (machine.run {} before) owner := by
  refine spawns_conserved failsOnce ⟨trivial, ?_, trivial, ?_, ?_, ?_, ?_, ?_, ?_, ?_, trivial⟩
  · exact fun _ now => SpawnProcessor.noConfusion now
  · exact fun _ now => SpawnProcessor.noConfusion now
  · intro entry held
    rw [List.mem_singleton.mp held]
    decide
  · exact fun _ now => SpawnProcessor.noConfusion now
  · exact fun _ now => SpawnProcessor.noConfusion now
  · exact fun _ now => SpawnProcessor.noConfusion now
  · exact fun _ now => SpawnProcessor.noConfusion now
  · exact fun _ now => SpawnProcessor.noConfusion now

/-- What is queued while the processor has the queue and finds no original function is lost. -/
theorem spawns_conserved_fails : ¬ ∀ events : List Event,
    (machine.run {} events).Conserved ∧ (machine.run {} events).Exhausted
      ∧ ∀ before owner after, events = before ++ .clearSpawnsForOwner owner :: after →
        (machine.run {} events).ClearedSince (machine.run {} before) owner := by
  intro holds
  have lost := (holds [.queueSpawn (request 1), .process (processes 0 0), .queueSpawn (request 2),
    .process (processes 0 0), .process (processes 0 0)]).1
  exact absurd lost.length_eq (by decide)

end SpawnManager

end KenshiMP
