/-
**The barrier of the frame: when a wait returns, and whether it can sleep for ever.**

While the orchestrator runs, the count is at least the number of frame tasks that are carried, queued, or
with a worker that has not yet counted down. So a wait that returns has all of them behind it. Whoever sets
the count to zero does so without the mutex that the game thread sleeps under: a notification between its
look at the count and its sleep is lost, and `Stop` does not notify at all. `Orderly` excludes the two, and a
count that wraps around; `Account` is what every orderly step keeps.
-/

import KenshiMP.Client.TaskOrchestrator

namespace KenshiMP

namespace TaskOrchestrator

variable {numWorkers : Nat}

/-! ### What should be -/

section Claims

variable (orch : TaskOrchestrator numWorkers)

/-- When a wait returns and the orchestrator runs, all that has been posted for the frame has ended. -/
def Sound (event : Event numWorkers) : Prop :=
  Output.waitReturned ∈ (machine numWorkers).emit orch event → orch.running = true →
    ∀ task ∈ orch.posted, ∃ outcome, (task, outcome) ∈ orch.ended

/-- The game thread sleeps, there is nothing to wait for, and nobody is about to wake it. -/
def Stranded : Prop :=
  orch.game = .asleep ∧ orch.pendingFrameWork ≤ 0 ∧ ∀ i, orch.workers i ≠ .notifying

/-- No notification and no reset of the count comes where the game thread does not hear it, and the count
does not wrap around. -/
def Orderly : Event numWorkers → Prop
  | .postFrameWork => orch.game = .outside → orch.pendingFrameWork < 2 ^ 31 - 1
  | .worker i _ => orch.workers i = .notifying → orch.game ≠ .tired
  | .stop => orch.stopping = .zeroing → orch.game ≠ .tired ∧ orch.game ≠ .asleep
  | _ => True

instance decidableOrderly : ∀ event, Decidable (orch.Orderly event)
  | .postFrameWork => inferInstanceAs (Decidable (_ → _))
  | .worker _ _ => inferInstanceAs (Decidable (_ → _))
  | .stop => inferInstanceAs (Decidable (_ → _))
  | .post | .waitForFrameWork | .game _ | .gameWakes | .workerWakes _ => inferInstanceAs (Decidable True)

end Claims

/-! ### Where the tasks are -/

def Task.count (task : Task) : Nat := if task.isFrameWork then 1 else 0

/-- The task that is not in the queue yet. -/
def Game.carries : Game → Option Task
  | .entering task | .pushing task => some task
  | _ => none

/-- Has found frame work, and has not woken up since. -/
def Game.waits : Game → Bool
  | .tired | .asleep => true
  | _ => false

/-- What the count has to be down by for this worker. -/
def Worker.held : Worker → Nat
  | .executing task => task.count
  | .subtracting => 1
  | _ => 0

/-- Between two tasks. -/
def Worker.free : Worker → Bool
  | .executing _ | .subtracting | .notifying | .gone => false
  | _ => true

/-- The frame work that is not counted down yet. -/
def outstanding (orch : TaskOrchestrator numWorkers) : Nat :=
  orch.game.carries.elim 0 Task.count + (orch.tasks.map Task.count).sum + ∑ i, (orch.workers i).held

def Placed (orch : TaskOrchestrator numWorkers) (task : Task) : Prop :=
  (∃ outcome, (task, outcome) ∈ orch.ended) ∨ orch.game.carries = some task ∨ task ∈ orch.tasks
    ∨ ∃ i, orch.workers i = .executing task

structure Account (orch : TaskOrchestrator numWorkers) : Prop where
  lower : 0 ≤ orch.pendingFrameWork
  upper : orch.pendingFrameWork < 2 ^ 31
  counted : orch.stopping ≠ .stopped → orch.outstanding ≤ orch.pendingFrameWork
  gone : orch.stopping = .draining ∨ orch.stopping = .zeroing ∨ orch.stopping = .stopped →
    ∀ i, orch.workers i = .gone
  early : orch.running = true → orch.stopping = .outside
  frames : ∀ task ∈ orch.posted, task.isFrameWork = true
  placed : orch.running = true → ∀ task ∈ orch.posted, orch.Placed task
  heard : orch.game.waits = true → 0 < orch.pendingFrameWork ∨ ∃ i, orch.workers i = .notifying

theorem account_started : Account (started numWorkers) where
  lower := le_rfl
  upper := by norm_num [started]
  counted _ := by simp [started, outstanding, Game.carries, Worker.held]
  gone later := by rcases later with now | now | now <;> cases now
  early _ := rfl
  frames _ posted := absurd posted List.not_mem_nil
  placed _ _ posted := absurd posted List.not_mem_nil
  heard waits := by cases waits

theorem held_free {worker : Worker} (free : worker.free = true ∨ worker = .gone) : worker.held = 0 := by
  rcases free with free | rfl
  · cases worker <;> first | rfl | cases free
  · rfl

/-- One worker counts for itself. -/
theorem held_update (workers : Fin numWorkers → Worker) (i : Fin numWorkers) (worker : Worker) :
    ∑ j, (Function.update workers i worker j).held + (workers i).held
      = ∑ j, (workers j).held + worker.held := by
  have updated := Finset.sum_update_of_mem (Finset.mem_univ i) (fun j => (workers j).held) worker.held
  have split := Finset.add_sum_erase Finset.univ (fun j => (workers j).held) (Finset.mem_univ i)
  have apply : ∀ j, (Function.update workers i worker j).held
      = Function.update (fun j => (workers j).held) i worker.held j := by
    intro j
    by_cases same : j = i
    · subst same
      simp
    · simp [same]
  rw [Finset.sum_congr rfl fun j _ => apply j, updated, ← split, Finset.sdiff_singleton_eq_erase]
  ring

variable {orch : TaskOrchestrator numWorkers}

/-! ### Steps that move no task -/

section Moves

variable (account : Account orch)
include account

/-- Threads go on, and leave the tasks, the count, and the notifications as they are. -/
theorem Account.moves {game : Game} {workers : Fin numWorkers → Worker} (locked : Bool)
    (carries : game.carries = orch.game.carries) (waits : game.waits = true → orch.game.waits = true)
    (kept : ∀ i, workers i = orch.workers i
      ∨ ((orch.workers i).free = true ∧ ((workers i).free = true ∨ workers i = .gone))) :
    Account { orch with game := game, workers := workers, locked := locked } where
  lower := account.lower
  upper := account.upper
  counted running := by
    have held : ∀ i, (workers i).held = (orch.workers i).held := by
      intro i
      rcases kept i with same | ⟨was, now⟩
      · rw [same]
      · rw [held_free (.inl was), held_free now]
    have same : outstanding { orch with game := game, workers := workers, locked := locked }
        = orch.outstanding := by
      simp only [outstanding, carries, held]
    rw [same]
    exact account.counted running
  gone stopping i := by
    rcases kept i with same | ⟨was, -⟩
    · exact same.trans (account.gone stopping i)
    · rw [account.gone stopping i] at was
      cases was
  early := account.early
  frames := account.frames
  placed running task posted := by
    rcases account.placed running task posted with ended | carried | queued | ⟨i, executes⟩
    · exact .inl ended
    · exact .inr (.inl (carries.trans carried))
    · exact .inr (.inr (.inl queued))
    · refine .inr (.inr (.inr ⟨i, ?_⟩))
      rcases kept i with same | ⟨was, -⟩
      · exact same.trans executes
      · rw [executes] at was
        cases was
  heard waiting := by
    rcases account.heard (waits waiting) with positive | ⟨i, notifies⟩
    · exact .inl positive
    · refine .inr ⟨i, ?_⟩
      rcases kept i with same | ⟨was, -⟩
      · exact same.trans notifies
      · rw [notifies] at was
        cases was

theorem Account.gameMoves {game : Game} (locked : Bool) (carries : game.carries = orch.game.carries)
    (waits : game.waits = true → orch.game.waits = true) :
    Account { orch with game := game, locked := locked } :=
  account.moves locked carries waits fun _ => .inl rfl

theorem Account.workerMoves {i : Fin numWorkers} {worker : Worker} (locked : Bool)
    (was : (orch.workers i).free = true) (now : worker.free = true ∨ worker = .gone) :
    Account { orch.withWorker i worker with locked := locked } := by
  refine account.moves locked rfl (fun waits => waits) fun j => ?_
  simp only [withWorker]
  by_cases same : j = i
  · subst same
    rw [Function.update_self]
    exact .inr ⟨was, now⟩
  · exact .inl (Function.update_of_ne same _ _)

end Moves

/-! ### Steps of the game thread -/

theorem wrap_eq {count : Int} (lower : 0 ≤ count) (upper : count < 2 ^ 31) : wrap count = count := by
  unfold wrap
  exact Int.bmod_eq_of_le (by omega) (by omega)

section Posts

variable (account : Account orch)
include account

theorem account_postFrameWork (outside : orch.game = .outside)
    (small : orch.pendingFrameWork < 2 ^ 31 - 1) : Account orch.postFrameWork := by
  have lower := account.lower
  have count : wrap (orch.pendingFrameWork + 1) = orch.pendingFrameWork + 1 :=
    wrap_eq (by omega) (by omega)
  have more : orch.postFrameWork.outstanding = orch.outstanding + 1 := by
    simp only [outstanding, postFrameWork, outside, Game.carries, Option.elim, Task.count, if_true]
    omega
  refine ⟨?_, ?_, fun going => ?_, account.gone, account.early, fun task posted => ?_,
    fun running task posted => ?_, fun waits => ?_⟩
  · show 0 ≤ wrap _
    omega
  · show wrap _ < _
    omega
  · rw [more]
    have before := account.counted going
    show ((orch.outstanding + 1 : Nat) : Int) ≤ wrap _
    omega
  · rcases List.mem_append.mp posted with earlier | now
    · exact account.frames task earlier
    · rw [List.mem_singleton.mp now]
  · rcases List.mem_append.mp posted with earlier | now
    · rcases account.placed running task earlier with ended | carried | queued | executed
      · exact .inl ended
      · rw [outside] at carried
        cases carried
      · exact .inr (.inr (.inl queued))
      · exact .inr (.inr (.inr executed))
    · rw [List.mem_singleton.mp now]
      exact .inr (.inl rfl)
  · cases waits

theorem account_post (outside : orch.game = .outside) : Account orch.post := by
  have same : orch.post.outstanding = orch.outstanding := by
    simp [outstanding, post, outside, Game.carries, Task.count]
  refine ⟨account.lower, account.upper, fun going => ?_, account.gone, account.early, account.frames,
    fun running task posted => ?_, fun waits => ?_⟩
  · rw [same]
    exact account.counted going
  · rcases account.placed running task posted with ended | carried | queued | executed
    · exact .inl ended
    · rw [outside] at carried
      cases carried
    · exact .inr (.inr (.inl queued))
    · exact .inr (.inr (.inr executed))
  · cases waits

theorem account_push {task : Task} (pushing : orch.game = .pushing task) :
    Account { orch with game := .notifying, locked := false, tasks := orch.tasks ++ [task] } := by
  have same : outstanding { orch with game := .notifying, locked := false, tasks := orch.tasks ++ [task] }
      = orch.outstanding := by
    simp [outstanding, pushing, Game.carries]
    omega
  refine ⟨account.lower, account.upper, fun going => ?_, account.gone, account.early, account.frames,
    fun running other posted => ?_, fun waits => ?_⟩
  · rw [same]
    exact account.counted going
  · rcases account.placed running other posted with ended | carried | queued | executed
    · exact .inl ended
    · rw [pushing] at carried
      cases carried
      exact .inr (.inr (.inl (List.mem_append_right _ List.mem_cons_self)))
    · exact .inr (.inr (.inl (List.mem_append_left _ queued)))
    · exact .inr (.inr (.inr executed))
  · cases waits

theorem account_notifyOne (notifying : orch.game = .notifying) (woken : Option (Fin numWorkers)) :
    Account (orch.notifyOne woken) := by
  unfold notifyOne
  cases woken with
  | none =>
    simp only
    split_ifs
    · exact account
    · exact account.gameMoves orch.locked (by rw [notifying]; rfl) fun waits => by cases waits
  | some i =>
    simp only
    split_ifs with sleeps
    · refine account.moves orch.locked (by rw [notifying]; rfl) (fun waits => by cases waits) fun j => ?_
      by_cases same : j = i
      · subst same
        rw [Function.update_self, sleeps]
        exact .inr ⟨rfl, .inl rfl⟩
      · exact .inl (Function.update_of_ne same _ _)
    · exact account

/-- The look at the count is what the sleep rests on. -/
theorem account_check (checking : orch.game = .checking) (found : ¬ orch.pendingFrameWork ≤ 0) :
    Account { orch with game := .tired } := by
  have same : outstanding { orch with game := .tired } = orch.outstanding := by
    simp [outstanding, checking, Game.carries]
  refine ⟨account.lower, account.upper, fun going => ?_, account.gone, account.early, account.frames,
    fun running task posted => ?_, fun _ => .inl (not_le.mp found)⟩
  · rw [same]
    exact account.counted going
  · have placed := account.placed running task posted
    unfold Placed at placed ⊢
    rwa [checking] at placed

theorem account_gameStep (woken : Option (Fin numWorkers)) : Account (orch.gameStep woken).1 := by
  unfold gameStep
  cases game : orch.game with
  | outside | asleep => exact account
  | entering task =>
    simp only
    split_ifs
    · exact account
    · exact account.gameMoves true (by rw [game]; rfl) fun waits => by cases waits
  | pushing task => exact account_push account game
  | notifying => exact account_notifyOne account game woken
  | waiting => exact account.gameMoves orch.locked (by rw [game]; rfl) fun waits => by cases waits
  | checking =>
    simp only
    split_ifs with none
    · exact account.gameMoves orch.locked (by rw [game]; rfl) fun waits => by cases waits
    · exact account_check account game none
  | tired => exact account.gameMoves orch.locked (by rw [game]; rfl) fun _ => by rw [game]; rfl

end Posts

/-! ### Steps of a worker -/

section Workers

variable {i : Fin numWorkers}

theorem workers_other {j : Fin numWorkers} {worker other : Worker} (there : orch.workers j = other)
    (here : orch.workers i ≠ other) : (orch.withWorker i worker).workers j = other := by
  have differs : j ≠ i := by
    rintro rfl
    exact here there
  exact (Function.update_of_ne differs _ _).trans there

variable (account : Account orch)
include account

theorem account_take (taking : orch.workers i = .taking) : Account (orch.take i) := by
  have free : (orch.workers i).free = true := by rw [taking]; rfl
  unfold take
  cases tasks : orch.tasks with
  | nil =>
    simp only
    split_ifs
    · exact account
    · exact account.workerMoves false free (.inr rfl)
  | cons task rest =>
    have update := held_update orch.workers i (.executing task)
    have same : outstanding { orch.withWorker i (.executing task) with locked := false, tasks := rest }
        = orch.outstanding := by
      simp only [outstanding, withWorker, tasks, List.map_cons, List.sum_cons]
      rw [taking] at update
      simp only [Worker.held] at update ⊢
      omega
    refine ⟨account.lower, account.upper, fun going => ?_, fun later => ?_, account.early, account.frames,
      fun running other posted => ?_, fun waits => ?_⟩
    · rw [same]
      exact account.counted going
    · have gone := account.gone later i
      rw [taking] at gone
      cases gone
    · rcases account.placed running other posted with ended | carried | queued | ⟨j, executes⟩
      · exact .inl ended
      · exact .inr (.inl carried)
      · rw [tasks] at queued
        rcases List.mem_cons.mp queued with rfl | later
        · exact .inr (.inr (.inr ⟨i, Function.update_self _ _ _⟩))
        · exact .inr (.inr (.inl later))
      · exact .inr (.inr (.inr ⟨j, workers_other executes (by rw [taking]; exact Worker.noConfusion)⟩))
    · rcases account.heard waits with positive | ⟨j, notifies⟩
      · exact .inl positive
      · exact .inr ⟨j, workers_other notifies (by rw [taking]; exact Worker.noConfusion)⟩

theorem account_execute {task : Task} (executing : orch.workers i = .executing task) (outcome : Outcome) :
    Account { orch.withWorker i (if task.isFrameWork then .subtracting else .looping) with
      ended := orch.ended ++ [(task, outcome)] } := by
  have held : (if task.isFrameWork then Worker.subtracting else .looping).held = (orch.workers i).held := by
    rw [executing]
    simp only [Worker.held, Task.count]
    split_ifs <;> rfl
  have update := held_update orch.workers i (if task.isFrameWork then .subtracting else .looping)
  refine ⟨account.lower, account.upper, fun going => ?_, fun later => ?_, account.early, account.frames,
    fun running other posted => ?_, fun waits => ?_⟩
  · have before := account.counted going
    unfold outstanding at before ⊢
    simp only [withWorker]
    rw [held] at update
    rw [Nat.add_right_cancel update]
    exact before
  · have gone := account.gone later i
    rw [executing] at gone
    cases gone
  · rcases account.placed running other posted with ⟨before, ended⟩ | carried | queued | ⟨j, executes⟩
    · exact .inl ⟨before, List.mem_append_left _ ended⟩
    · exact .inr (.inl carried)
    · exact .inr (.inr (.inl queued))
    · by_cases same : other = task
      · rw [same]
        exact .inl ⟨outcome, List.mem_append_right _ List.mem_cons_self⟩
      · refine .inr (.inr (.inr ⟨j, workers_other executes ?_⟩))
        rw [executing]
        exact fun now => same (Worker.executing.inj now).symm
  · rcases account.heard waits with positive | ⟨j, notifies⟩
    · exact .inl positive
    · exact .inr ⟨j, workers_other notifies (by rw [executing]; exact Worker.noConfusion)⟩

/-- Who finds the count at one has a notification to make. -/
theorem account_subtract (subtracting : orch.workers i = .subtracting) :
    Account { orch.withWorker i (if orch.pendingFrameWork ≤ 1 then .notifying else .looping) with
      pendingFrameWork := wrap (orch.pendingFrameWork - 1) } := by
  have still : orch.stopping ≠ .stopped := by
    intro stopped
    have gone := account.gone (.inr (.inr stopped)) i
    rw [subtracting] at gone
    cases gone
  have counted := account.counted still
  have update := held_update orch.workers i (if orch.pendingFrameWork ≤ 1 then .notifying else .looping)
  have none : (if orch.pendingFrameWork ≤ 1 then Worker.notifying else .looping).held = 0 := by
    split_ifs <;> rfl
  have one : (orch.workers i).held = 1 := by rw [subtracting]; rfl
  rw [none, one, add_zero] at update
  have upper := account.upper
  unfold outstanding at counted
  rw [← update] at counted
  have count : wrap (orch.pendingFrameWork - 1) = orch.pendingFrameWork - 1 :=
    wrap_eq (by omega) (by omega)
  refine ⟨?_, ?_, fun _ => ?_, fun later => ?_, account.early, account.frames,
    fun running other posted => ?_, fun waits => ?_⟩
  · show 0 ≤ wrap _
    omega
  · show wrap _ < _
    omega
  · unfold outstanding
    simp only [withWorker]
    rw [count]
    omega
  · have gone := account.gone later i
    rw [subtracting] at gone
    cases gone
  · rcases account.placed running other posted with ended | carried | queued | ⟨j, executes⟩
    · exact .inl ended
    · exact .inr (.inl carried)
    · exact .inr (.inr (.inl queued))
    · exact .inr (.inr (.inr ⟨j, workers_other executes (by rw [subtracting]; exact Worker.noConfusion)⟩))
  · by_cases last : orch.pendingFrameWork ≤ 1
    · refine .inr ⟨i, ?_⟩
      simp only [withWorker, Function.update_self]
      exact if_pos last
    · refine .inl ?_
      show 0 < wrap _
      omega

/-- A notification reaches the game thread if it is not between its look and its sleep. -/
theorem account_notify (notifying : orch.workers i = .notifying) (heard : orch.game ≠ .tired) :
    Account { orch.withWorker i .looping with
      game := if orch.game = .asleep then .waiting else orch.game } := by
  have carries : (if orch.game = .asleep then Game.waiting else orch.game).carries = orch.game.carries := by
    split_ifs with asleep
    · rw [asleep]
      rfl
    · rfl
  have update := held_update orch.workers i .looping
  rw [notifying] at update
  refine ⟨account.lower, account.upper, fun going => ?_, fun later => ?_, account.early, account.frames,
    fun running other posted => ?_, fun waits => ?_⟩
  · have before := account.counted going
    unfold outstanding at before ⊢
    simp only [withWorker, carries]
    rw [Nat.add_right_cancel update]
    exact before
  · have gone := account.gone later i
    rw [notifying] at gone
    cases gone
  · rcases account.placed running other posted with ended | carried | queued | ⟨j, executes⟩
    · exact .inl ended
    · exact .inr (.inl (carries.trans carried))
    · exact .inr (.inr (.inl queued))
    · exact .inr (.inr (.inr ⟨j, workers_other executes (by rw [notifying]; exact Worker.noConfusion)⟩))
  · have awake : (if orch.game = .asleep then Game.waiting else orch.game).waits = false := by
      split_ifs with asleep
      · rfl
      · cases game : orch.game <;> first | rfl | contradiction
    exact absurd waits (by simp [awake])

theorem account_workerStep (outcome : Outcome) (heard : orch.workers i = .notifying → orch.game ≠ .tired) :
    Account (orch.workerStep i outcome) := by
  unfold workerStep
  cases worker : orch.workers i with
  | looping =>
    refine account.workerMoves orch.locked (by rw [worker]; rfl) ?_
    split_ifs
    · exact .inl rfl
    · exact .inr rfl
  | entering =>
    simp only
    split_ifs
    · exact account
    · exact account.workerMoves true (by rw [worker]; rfl) (.inl rfl)
  | checking =>
    refine account.workerMoves orch.locked (by rw [worker]; rfl) (.inl ?_)
    split_ifs <;> rfl
  | tired => exact account.workerMoves false (by rw [worker]; rfl) (.inl rfl)
  | asleep | gone => exact account
  | taking => exact account_take account worker
  | executing task => exact account_execute account worker outcome
  | subtracting => exact account_subtract account worker
  | notifying => exact account_notify account worker (heard worker)

theorem account_workerWakes (sleeps : orch.workers i = .asleep) : Account (orch.withWorker i .entering) :=
  account.workerMoves orch.locked (by rw [sleeps]; rfl) (.inl rfl)

end Workers

/-! ### Steps of Stop -/

section Stops

variable (account : Account orch)
include account

/-- Once `Stop` has begun nothing runs. -/
theorem Account.ended (later : orch.stopping ≠ .outside) {motive : Prop} (running : orch.running = true) :
    motive :=
  absurd (account.early running) later

/-- `Stop` goes on, while the workers do. -/
theorem Account.stopMoves {stopping : Stopping} {running : Bool} (ended : running = false)
    (going : orch.stopping ≠ .stopped)
    (gone : stopping = .draining ∨ stopping = .zeroing ∨ stopping = .stopped →
      ∀ i, orch.workers i = .gone) :
    Account { orch with running := running, stopping := stopping } where
  lower := account.lower
  upper := account.upper
  counted _ := account.counted going
  gone := gone
  early runs := absurd (ended.symm.trans runs) Bool.false_ne_true
  frames := account.frames
  placed runs := absurd (ended.symm.trans runs) Bool.false_ne_true
  heard := account.heard

theorem account_wakeAll :
    Account { orch with workers := fun i => if orch.workers i = .asleep then .entering else orch.workers i } := by
  refine account.moves orch.locked rfl (fun waits => waits) fun i => ?_
  split_ifs with sleeps
  · rw [sleeps]
    exact .inr ⟨rfl, .inl rfl⟩
  · exact .inl rfl

theorem account_drain (draining : orch.stopping = .draining) :
    Account { orch with tasks := [], stopping := .zeroing } where
  lower := account.lower
  upper := account.upper
  counted _ := by
    have before := account.counted (by simp [draining])
    unfold outstanding at before ⊢
    simp only [List.map_nil, List.sum_nil]
    omega
  gone _ := account.gone (.inl draining)
  early := account.ended (by simp [draining])
  frames := account.frames
  placed := account.ended (by simp [draining])
  heard := account.heard

theorem account_reset (zeroing : orch.stopping = .zeroing)
    (heard : orch.game ≠ .tired ∧ orch.game ≠ .asleep) :
    Account { orch with pendingFrameWork := 0, stopping := .stopped } where
  lower := le_rfl
  upper := by norm_num
  counted going := absurd rfl going
  gone _ := account.gone (.inr (.inl zeroing))
  early := account.ended (by simp [zeroing])
  frames := account.frames
  placed := account.ended (by simp [zeroing])
  heard waits := by
    cases game : orch.game with
    | tired => exact absurd game heard.1
    | asleep => exact absurd game heard.2
    | outside | entering | pushing | notifying | waiting | checking =>
      simp [game, Game.waits] at waits

theorem account_stop (heard : orch.stopping = .zeroing → orch.game ≠ .tired ∧ orch.game ≠ .asleep) :
    Account orch.stop := by
  have still (later : orch.stopping ≠ .outside) : orch.running = false := by
    cases runs : orch.running with
    | false => rfl
    | true => exact account.ended later runs
  unfold stop
  cases stopping : orch.stopping with
  | outside =>
    simp only
    split_ifs
    · refine account.stopMoves rfl (by simp [stopping]) fun later => ?_
      rcases later with now | now | now <;> cases now
    · exact account
  | notifying =>
    refine (account_wakeAll account).stopMoves (still (by simp [stopping])) (by simp [stopping])
      fun later => ?_
    rcases later with now | now | now <;> cases now
  | joining =>
    simp only
    split_ifs with all
    · exact account.stopMoves (still (by simp [stopping])) (by simp [stopping]) fun _ => all
    · exact account
  | draining =>
    simp only
    split_ifs
    · exact account
    · exact account_drain account stopping
  | zeroing => exact account_reset account stopping (heard stopping)
  | stopped => exact account

end Stops

/-! ### Runs -/

theorem account_step (account : Account orch) (event : Event numWorkers) (orderly : orch.Orderly event) :
    Account ((machine numWorkers).next orch event) := by
  show Account (step orch event).1
  unfold step
  cases event with
  | postFrameWork =>
    simp only
    split_ifs with outside
    · exact account_postFrameWork account outside (orderly outside)
    · exact account
  | post =>
    simp only
    split_ifs with outside
    · exact account_post account outside
    · exact account
  | waitForFrameWork =>
    simp only
    split_ifs with outside
    · exact account.gameMoves orch.locked (by rw [outside]; rfl) fun waits => by cases waits
    · exact account
  | game woken => exact account_gameStep account woken
  | gameWakes =>
    simp only
    split_ifs with asleep
    · exact account.gameMoves orch.locked (by rw [asleep]; rfl) fun waits => by cases waits
    · exact account
  | worker i outcome => exact account_workerStep account outcome orderly
  | workerWakes i =>
    simp only
    split_ifs with sleeps
    · exact account_workerWakes account sleeps
    · exact account
  | stop => exact account_stop account orderly

theorem account_run {events : List (Event numWorkers)}
    (orderly : (machine numWorkers).Along Orderly (started numWorkers) events) :
    Account ((machine numWorkers).run (started numWorkers) events) :=
  Machine.run_invariant (motive := Account)
    (fun _ event allowed account => account_step account event allowed) account_started orderly

/-! ### What the account gives -/

/-- A wait returns from its look at the count only. -/
theorem checks_of_returns {event : Event numWorkers}
    (returned : Output.waitReturned ∈ (machine numWorkers).emit orch event) :
    orch.game = .checking ∧ orch.pendingFrameWork ≤ 0 := by
  change Output.waitReturned ∈ (step orch event).2 at returned
  cases event with
  | game woken =>
    cases game : orch.game with
    | checking =>
      simp only [step, gameStep, game] at returned
      split_ifs at returned with none
      · exact ⟨rfl, none⟩
      · cases returned
    | outside | entering | pushing | notifying | waiting | tired | asleep =>
      simp [step, gameStep, game] at returned
  | postFrameWork | post | waitForFrameWork | gameWakes | worker | workerWakes | stop =>
    simp [step] at returned

theorem sound_of_account (account : Account orch) (event : Event numWorkers) : orch.Sound event := by
  intro returned running task posted
  obtain ⟨checking, none⟩ := checks_of_returns returned
  have counted := account.counted (by rw [account.early running]; exact Stopping.noConfusion)
  have empty : orch.outstanding = 0 := by omega
  unfold outstanding at empty
  have one : task.count = 1 := if_pos (account.frames task posted)
  rcases account.placed running task posted with ended | carried | queued | ⟨i, executes⟩
  · exact ended
  · rw [checking] at carried
    cases carried
  · have some : task.count ≤ (orch.tasks.map Task.count).sum :=
      List.single_le_sum (fun _ _ => Nat.zero_le _) _ (List.mem_map_of_mem queued)
    omega
  · have some : (orch.workers i).held ≤ ∑ j, (orch.workers j).held :=
      Finset.single_le_sum (f := fun j => (orch.workers j).held) (fun _ _ => Nat.zero_le _)
        (Finset.mem_univ i)
    rw [executes] at some
    change task.count ≤ _ at some
    omega

theorem not_stranded (account : Account orch) : ¬ orch.Stranded := by
  rintro ⟨asleep, none, silent⟩
  rcases account.heard (by rw [asleep]; rfl) with positive | ⟨i, notifies⟩
  · omega
  · exact silent i notifies

/-- In a run whose steps are all orderly a wait that returns has all frame work behind it, and the game
thread does not sleep for ever. -/
theorem frame_barrier (numWorkers : Nat) (events : List (Event numWorkers))
    (orderly : (machine numWorkers).Along Orderly (started numWorkers) events) :
    (∀ event, ((machine numWorkers).run (started numWorkers) events).Sound event)
      ∧ ¬ ((machine numWorkers).run (started numWorkers) events).Stranded :=
  ⟨sound_of_account (account_run orderly), not_stranded (account_run orderly)⟩

/-- A task of the frame is posted, and a worker takes it and ends it. -/
def frameTask : List (Event 1) :=
  [.postFrameWork, .game none, .game none, .game none, .worker 0 .finished, .worker 0 .finished,
    .worker 0 .finished, .worker 0 .finished, .worker 0 .finished]

/-- The game thread sleeps before the worker counts down. -/
theorem frame_barrier_wakes :
    (∀ event, ((machine 1).run (started 1) (frameTask ++ [.waitForFrameWork, .game none, .game none,
        .game none, .worker 0 .finished, .worker 0 .finished, .game none])).Sound event)
      ∧ ¬ ((machine 1).run (started 1) (frameTask ++ [.waitForFrameWork, .game none, .game none,
        .game none, .worker 0 .finished, .worker 0 .finished, .game none])).Stranded :=
  frame_barrier 1 _ (by decide +kernel)

/-- The worker counts down and notifies between the look of the game thread and its sleep. -/
theorem frame_barrier_fails : ¬ ∀ (numWorkers : Nat) (events : List (Event numWorkers)),
    (∀ event, ((machine numWorkers).run (started numWorkers) events).Sound event)
      ∧ ¬ ((machine numWorkers).run (started numWorkers) events).Stranded := by
  intro holds
  refine (holds 1 (frameTask ++ [.waitForFrameWork, .game none, .game none, .worker 0 .finished,
    .worker 0 .finished, .game none])).2 ⟨?_, ?_, ?_⟩
  · decide +kernel
  · decide +kernel
  · decide +kernel

end TaskOrchestrator

end KenshiMP
