/-
**Deaths and knock-outs on two threads.**

The game calls its functions for a death and for a knock-out on its own thread, and the hooks report
them. What the server has sent is applied with the same functions: a death by a command that the game
thread takes from a queue, a knock-out at once by the thread of the network, which handles the
packets. A flag for each kind is to keep the hooks from reporting these again. A call runs the
original first, in which the game may call one of the functions again, and looks at the flag when the
original has returned.

The steps are those that another thread can come between: the start and the end of a call, setting and
resetting a flag, and queueing and taking a command.
-/

import KenshiMP.Client.CombatHooks

namespace KenshiMP

namespace CombatHooks

/-! ### Threads -/

inductive HookThread where
  | game | network
deriving DecidableEq, Repr

/-- A call of one of the two functions. -/
structure HookCall where
  kind : CombatEventType
  character : GameObject
  /-- the killer or the attacker -/
  other : GameObject
  reason : Int32 := 0
deriving DecidableEq

/-- How far the code is that applies what the server has sent: before it sets the flag, before the
call, and before it resets the flag. -/
inductive ApplyPhase where
  | toSet | toCall | toReset
deriving DecidableEq, Repr

/-- A thread: the event of the server that it applies, if it does, and the calls that it is in, the
innermost first. Where an event is applied the calls are inside of it. -/
structure ThreadState where
  applying : Option (HookCall × ApplyPhase) := none
  calls : List HookCall := []

structure Threads where
  hooks : State := {}
  game : ThreadState := {}
  network : ThreadState := {}
  /-- the deaths that the game thread is to apply -/
  commands : List HookCall := []

namespace Threads

variable (threads : Threads)

def of : HookThread → ThreadState
  | .game => threads.game
  | .network => threads.network

def withThread (thread : HookThread) (state : ThreadState) : Threads :=
  match thread with
  | .game => { threads with game := state }
  | .network => { threads with network := state }

end Threads

/-! ### Steps -/

/-- The flag of a kind of event. -/
def State.serverSourced (state : State) : CombatEventType → Bool
  | .Death => state.serverSourcedDeath
  | .KO => state.serverSourcedKO

/-- `SetServerSourcedDeath` and `SetServerSourcedKO`. -/
def State.setServerSourced (state : State) (kind : CombatEventType) (active : Bool) : State :=
  match kind with
  | .Death => { state with serverSourcedDeath := active }
  | .KO => { state with serverSourcedKO := active }

/-- What each thread applies: the commands are deaths, and packets with a death are queued. -/
def HookThread.applies : HookThread → CombatEventType
  | .game => .Death
  | .network => .KO

/-- What the hook of a call does once the original has returned. -/
def HookCall.returned (call : HookCall) (core : Core) (state : State) : State :=
  let event :=
    match call.kind with
    | .Death => hookCharacterDeath core state call.character call.other
    | .KO => hookCharacterKO core state call.character call.other call.reason
  event.elim state fun evt => (pushEvent state evt).1

/-- Whether the game is running on a thread, so that it can call a function: within a call, and on its
own thread also outside of what the server has sent. -/
def ThreadState.Playing (thread : HookThread) (state : ThreadState) : Prop :=
  state.calls ≠ [] ∨ thread = .game ∧ state.applying = none

instance ThreadState.decidablePlaying (thread : HookThread) (state : ThreadState) :
    Decidable (state.Playing thread) := by
  unfold ThreadState.Playing
  infer_instance

/-- A thread that is free for the next command or packet. -/
def ThreadState.Free (state : ThreadState) : Prop := state.calls = [] ∧ state.applying = none

instance ThreadState.decidableFree (state : ThreadState) : Decidable state.Free := by
  unfold ThreadState.Free
  infer_instance

inductive HookStep where
  /-- the game calls a function -/
  | start (thread : HookThread) (call : HookCall)
  /-- the innermost call ends; the rest of the client is as it is then -/
  | finish (thread : HookThread) (core : Core)
  /-- `HandleCombatDeath` -/
  | deathPacket (character killer : GameObject)
  /-- `HandleCombatKO` -/
  | koPacket (character attacker : GameObject) (reason : Int32)
  /-- the game thread takes the next command -/
  | takeCommand
  /-- the next step of applying an event: set the flag, call, or reset the flag -/
  | apply (thread : HookThread)
  /-- the tick of the game -/
  | processDeferredEvents (core : Core)

namespace Threads

variable (threads : Threads)

def startCall (thread : HookThread) (call : HookCall) : Threads :=
  if (threads.of thread).Playing thread then
    threads.withThread thread
      { threads.of thread with calls := call :: (threads.of thread).calls }
  else threads

def finishCall (thread : HookThread) (core : Core) : Threads :=
  match (threads.of thread).calls with
  | [] => threads
  | call :: rest =>
    { threads.withThread thread { threads.of thread with calls := rest } with
      hooks := call.returned core threads.hooks }

def applyNext (thread : HookThread) : Threads :=
  match (threads.of thread).applying with
  | some (call, .toSet) =>
    { threads.withThread thread { threads.of thread with applying := some (call, .toCall) } with
      hooks := threads.hooks.setServerSourced thread.applies true }
  | some (call, .toCall) =>
    threads.withThread thread { applying := some (call, .toReset), calls := [call] }
  | some (_, .toReset) =>
    -- the call has to come back first
    if (threads.of thread).calls = [] then
      { threads.withThread thread {} with
        hooks := threads.hooks.setServerSourced thread.applies false }
    else threads
  | none => threads

def step : HookStep → Threads
  | .start thread call => threads.startCall thread call
  | .finish thread core => threads.finishCall thread core
  | .deathPacket character killer =>
    if threads.network.Free then
      { threads with commands := threads.commands ++ [⟨.Death, character, killer, 0⟩] }
    else threads
  | .koPacket character attacker reason =>
    if threads.network.Free then
      { threads with network := { applying := some (⟨.KO, character, attacker, reason⟩, .toSet) } }
    else threads
  | .takeCommand =>
    match threads.commands with
    | [] => threads
    | call :: rest =>
      if threads.game.Free then
        { threads with commands := rest, game := { applying := some (call, .toSet) } }
      else threads
  | .apply thread => threads.applyNext thread
  | .processDeferredEvents core =>
    if threads.game.Free then
      { threads with hooks := (CombatHooks.processDeferredEvents core threads.hooks).1 }
    else threads

end Threads

def threadMachine : Machine Threads HookStep Empty where
  step threads event := (threads.step event, [])

end CombatHooks

end KenshiMP
