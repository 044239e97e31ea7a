/-
**The task orchestrator: workers, a queue of tasks, and the barrier of the frame.**

The game thread posts tasks and waits until those of the frame are done; workers take them from the queue;
`Stop` ends the workers. A step is one operation on a mutex with what is done under it, on an atomic, or on
a condition variable. A thread that sleeps may also wake up for no reason. The count of the frame has 32
bits. The work of a task is its number; whether it faults is an input, and so is the worker that a
notification of one wakes.
-/

import KenshiMP.Lib.Machine

namespace KenshiMP

namespace TaskOrchestrator

structure Task where
  work : Nat
  isFrameWork : Bool
deriving DecidableEq, Repr

inductive Outcome where
  | finished | skipped
deriving DecidableEq, Repr

/-- Where the game thread is. -/
inductive Game where
  | outside
  /-- before the lock of the queue -/
  | entering (task : Task)
  /-- with the lock -/
  | pushing (task : Task)
  | notifying
  /-- before the lock of the frame; nobody else takes it -/
  | waiting
  /-- before the look at the count -/
  | checking
  /-- has found frame work, before the sleep -/
  | tired
  | asleep
deriving DecidableEq, Repr

/-- Where a worker is. -/
inductive Worker where
  /-- before the look at `m_running` -/
  | looping
  /-- before the lock of the queue -/
  | entering
  /-- with the lock, before the condition of the wait -/
  | checking
  /-- with the lock, before the sleep -/
  | tired
  | asleep
  /-- with the lock, behind the wait -/
  | taking
  | executing (task : Task)
  /-- has ended a task of the frame -/
  | subtracting
  /-- has found the count at one or less -/
  | notifying
  | gone
deriving DecidableEq, Repr

/-- How far `Stop` is. -/
inductive Stopping where
  | outside | notifying | joining | draining | zeroing | stopped
deriving DecidableEq, Repr

end TaskOrchestrator

open TaskOrchestrator in
structure TaskOrchestrator (numWorkers : Nat) where
  running : Bool
  tasks : List Task := []
  /-- the mutex of the queue is taken -/
  locked : Bool := false
  pendingFrameWork : Int := 0
  game : Game := .outside
  workers : Fin numWorkers → Worker
  stopping : Stopping := .outside
  nextWork : Nat := 0
  /-- the tasks of the frame that have been posted -/
  posted : List Task := []
  ended : List (Task × Outcome) := []

namespace TaskOrchestrator

variable {numWorkers : Nat}

/-- `Start`. -/
def started (numWorkers : Nat) : TaskOrchestrator numWorkers where
  running := true
  workers := fun _ => .looping

inductive Event (numWorkers : Nat) where
  | postFrameWork
  | post
  | waitForFrameWork
  /-- the next step of the game thread in a call -/
  | game (woken : Option (Fin numWorkers))
  | gameWakes
  /-- the next step of a worker -/
  | worker (i : Fin numWorkers) (outcome : Outcome)
  | workerWakes (i : Fin numWorkers)
  /-- the next step of `Stop` -/
  | stop
deriving DecidableEq

inductive Output where
  | waitReturned
deriving DecidableEq, Repr

/-- The count wraps around. -/
def wrap (count : Int) : Int := count.bmod (2 ^ 32)

variable (orch : TaskOrchestrator numWorkers)

/-! ### The game thread -/

/-- The count goes up before the task is in the queue. -/
def postFrameWork : TaskOrchestrator numWorkers :=
  let task : Task := ⟨orch.nextWork, true⟩
  { orch with
    pendingFrameWork := wrap (orch.pendingFrameWork + 1), game := .entering task,
    nextWork := orch.nextWork + 1, posted := orch.posted ++ [task] }

def post : TaskOrchestrator numWorkers :=
  { orch with game := .entering ⟨orch.nextWork, false⟩, nextWork := orch.nextWork + 1 }

/-- A notification of one wakes a worker, if there is one that sleeps. -/
def notifyOne (woken : Option (Fin numWorkers)) : TaskOrchestrator numWorkers :=
  match woken with
  | none => if ∃ i, orch.workers i = .asleep then orch else { orch with game := .outside }
  | some i =>
    if orch.workers i = .asleep then
      { orch with game := .outside, workers := Function.update orch.workers i .entering }
    else orch

def gameStep (woken : Option (Fin numWorkers)) : TaskOrchestrator numWorkers × List Output :=
  match orch.game with
  | .outside | .asleep => (orch, [])
  | .entering task => (if orch.locked then orch else { orch with game := .pushing task, locked := true }, [])
  | .pushing task =>
    ({ orch with game := .notifying, locked := false, tasks := orch.tasks ++ [task] }, [])
  | .notifying => (orch.notifyOne woken, [])
  | .waiting => ({ orch with game := .checking }, [])
  | .checking =>
    if orch.pendingFrameWork ≤ 0 then ({ orch with game := .outside }, [.waitReturned])
    else ({ orch with game := .tired }, [])
  | .tired => ({ orch with game := .asleep }, [])

/-! ### The workers -/

def withWorker (i : Fin numWorkers) (worker : Worker) : TaskOrchestrator numWorkers :=
  { orch with workers := Function.update orch.workers i worker }

/-- The worker has the lock: it returns when the orchestrator is stopped and has no tasks, and takes the
first task otherwise. The condition of the wait leaves it no empty queue. -/
def take (i : Fin numWorkers) : TaskOrchestrator numWorkers :=
  match orch.tasks with
  | [] => if orch.running then orch else { orch.withWorker i .gone with locked := false }
  | task :: rest => { orch.withWorker i (.executing task) with locked := false, tasks := rest }

def workerStep (i : Fin numWorkers) (outcome : Outcome) : TaskOrchestrator numWorkers :=
  match orch.workers i with
  | .looping => orch.withWorker i (if orch.running then .entering else .gone)
  | .entering => if orch.locked then orch else { orch.withWorker i .checking with locked := true }
  | .checking =>
    orch.withWorker i (if orch.tasks ≠ [] || !orch.running then .taking else .tired)
  | .tired => { orch.withWorker i .asleep with locked := false }
  | .asleep | .gone => orch
  | .taking => orch.take i
  | .executing task =>
    { orch.withWorker i (if task.isFrameWork then .subtracting else .looping) with
      ended := orch.ended ++ [(task, outcome)] }
  | .subtracting =>
    { orch.withWorker i (if orch.pendingFrameWork ≤ 1 then .notifying else .looping) with
      pendingFrameWork := wrap (orch.pendingFrameWork - 1) }
  | .notifying =>
    { orch.withWorker i .looping with game := if orch.game = .asleep then .waiting else orch.game }

/-! ### Stop -/

def stop : TaskOrchestrator numWorkers :=
  match orch.stopping with
  | .outside => if orch.running then { orch with running := false, stopping := .notifying } else orch
  | .notifying =>
    { orch with
      workers := fun i => if orch.workers i = .asleep then .entering else orch.workers i,
      stopping := .joining }
  | .joining => if ∀ i, orch.workers i = .gone then { orch with stopping := .draining } else orch
  | .draining => if orch.locked then orch else { orch with tasks := [], stopping := .zeroing }
  | .zeroing => { orch with pendingFrameWork := 0, stopping := .stopped }
  | .stopped => orch

/-! ### The machine -/

/-- A call is made outside of a call; a step that is not possible changes nothing. -/
def step (orch : TaskOrchestrator numWorkers) : Event numWorkers → TaskOrchestrator numWorkers × List Output
  | .postFrameWork => (if orch.game = .outside then orch.postFrameWork else orch, [])
  | .post => (if orch.game = .outside then orch.post else orch, [])
  | .waitForFrameWork => (if orch.game = .outside then { orch with game := .waiting } else orch, [])
  | .game woken => orch.gameStep woken
  | .gameWakes => (if orch.game = .asleep then { orch with game := .waiting } else orch, [])
  | .worker i outcome => (orch.workerStep i outcome, [])
  | .workerWakes i => (if orch.workers i = .asleep then orch.withWorker i .entering else orch, [])
  | .stop => (orch.stop, [])

def machine (numWorkers : Nat) : Machine (TaskOrchestrator numWorkers) (Event numWorkers) Output where
  step := step

end TaskOrchestrator

end KenshiMP
