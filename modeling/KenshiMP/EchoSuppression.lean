/-
**What the hooks report of deaths and knock-outs.**

A call that is not inside of what the server has sent should be reported once, and one that is should
not be reported. The flag that a call looks at is set exactly while the thread that applies this kind
is between setting and resetting it (`Flagged`). For a death on the game thread this is the thread of
the call itself; a knock-out on the game thread, though, meets the flag of the other thread, and a call
inside of a server event of the other kind meets the wrong flag.

`echo_suppression_iff` is the exact statement for every interleaving.
-/

import KenshiMP.Client.HookThreads
import KenshiMP.CombatEvents

namespace KenshiMP

namespace CombatHooks

/-! ### What should be reported -/

/-- The event of a call, for the identifier of its character. -/
def HookCall.eventOf (call : HookCall) (core : Core) (entityId : EntityID) : DeferredCombatEvent :=
  match call.kind with
  | .Death => { type := .Death, entityId := entityId, otherId := otherId core call.other }
  | .KO =>
    { type := .KO, entityId := entityId, otherId := otherId core call.other
      reason := call.reason.toUInt32.toUInt8 }

def HookCall.event (call : HookCall) (core : Core) : DeferredCombatEvent :=
  call.eventOf core (core.registry.getNetId call.character)

/-- The client is connected, the character is registered, and the ring has room. -/
def HookCall.Tells (call : HookCall) (core : Core) (state : State) : Prop :=
  core.isConnected = true ∧ core.registry.getNetId call.character ≠ 0
    ∧ state.events.count + 1 < MAX_DEFERRED_EVENTS

/-- **A call inside of a server event is not reported, and another one once.** -/
def Exact (threads : Threads) : HookStep → Prop
  | .finish thread core =>
    ∀ call rest, (threads.of thread).calls = call :: rest →
      if (threads.of thread).applying.isSome then
        (threads.finishCall thread core).hooks.events.pending = threads.hooks.events.pending
      else call.Tells core threads.hooks →
        (threads.finishCall thread core).hooks.events.pending
          = threads.hooks.events.pending ++ [call.event core]
  | _ => True

/-- Between setting and resetting the flag. -/
def ThreadState.flagging (state : ThreadState) : Bool :=
  state.applying.any fun applied => applied.2 ≠ .toSet

/-- What has to be so when a call ends: for a knock-out on the game thread, the network thread is
applying a knock-out only if the call is inside of a death of the server; for a death on the network
thread, which is inside of a knock-out of the server, the game thread is applying a death. -/
def Undisturbed (threads : Threads) : HookStep → Prop
  | .finish thread core =>
    ∀ call rest, (threads.of thread).calls = call :: rest → call.Tells core threads.hooks →
      match thread, call.kind with
      | .game, .KO => threads.network.flagging = threads.game.applying.isSome
      | .network, .Death => threads.game.flagging = true
      | _, _ => True
  | _ => True

/-! ### The flags -/

/-- The calls of a thread are inside of the event that it applies, if there is one, and the network
thread is in none else. -/
structure Nested (threads : Threads) : Prop where
  inside : ∀ thread call phase, (threads.of thread).applying = some (call, phase) →
    (threads.of thread).calls ≠ [] → phase = .toReset
  network : threads.network.calls ≠ [] → threads.network.applying.isSome

/-- **A flag is set exactly while the thread that applies its kind is in between.** -/
structure Flagged (threads : Threads) : Prop where
  nested : Nested threads
  death : threads.hooks.serverSourcedDeath = threads.game.flagging
  ko : threads.hooks.serverSourcedKO = threads.network.flagging

/-- What a call reports leaves the flags. -/
theorem serverSourced_returned (call : HookCall) (core : Core) (state : State) :
    (call.returned core state).serverSourcedDeath = state.serverSourcedDeath
      ∧ (call.returned core state).serverSourcedKO = state.serverSourcedKO := by
  have pushed (event : Option DeferredCombatEvent) :
      (event.elim state fun evt => (pushEvent state evt).1).serverSourcedDeath = state.serverSourcedDeath
        ∧ (event.elim state fun evt => (pushEvent state evt).1).serverSourcedKO
          = state.serverSourcedKO := by
    cases event with
    | none => exact ⟨rfl, rfl⟩
    | some evt =>
      simp only [Option.elim_some]
      unfold pushEvent
      rcases state.events.push evt with ⟨events, taken⟩
      cases taken <;> exact ⟨rfl, rfl⟩
  exact pushed _

theorem serverSourced_processed (core : Core) (state : State) :
    (processDeferredEvents core state).1.serverSourcedDeath = state.serverSourcedDeath
      ∧ (processDeferredEvents core state).1.serverSourcedKO = state.serverSourcedKO := by
  unfold processDeferredEvents
  split_ifs <;> exact ⟨rfl, rfl⟩

@[simp] theorem of_withThread (threads : Threads) (thread other : HookThread) (state : ThreadState) :
    (threads.withThread thread state).of other = if other = thread then state else threads.of other := by
  cases thread <;> cases other <;> rfl

/-- Only the threads and the flags matter. -/
theorem Flagged.of_same {threads after : Threads} (flagged : Flagged threads)
    (game : after.game = threads.game) (network : after.network = threads.network)
    (death : after.hooks.serverSourcedDeath = threads.hooks.serverSourcedDeath)
    (ko : after.hooks.serverSourcedKO = threads.hooks.serverSourcedKO) : Flagged after := by
  have same (thread : HookThread) : after.of thread = threads.of thread := by
    cases thread with
    | game => exact game
    | network => exact network
  refine ⟨⟨fun thread => ?_, ?_⟩, ?_, ?_⟩
  · rw [same thread]
    exact flagged.nested.inside thread
  · rw [network]
    exact flagged.nested.network
  · rw [death, game]
    exact flagged.death
  · rw [ko, network]
    exact flagged.ko

variable {threads : Threads}

section Flagged

variable (flagged : Flagged threads)

include flagged

/-- One thread changes, and with it the flag of what it applies. -/
theorem Flagged.withThread {thread : HookThread} {state : ThreadState} {hooks : State}
    (inside : ∀ call phase, state.applying = some (call, phase) → state.calls ≠ [] → phase = .toReset)
    (network : thread = .network → state.calls ≠ [] → state.applying.isSome)
    (own : hooks.serverSourced thread.applies = state.flagging) (others : ∀ kind, kind ≠ thread.applies →
      hooks.serverSourced kind = threads.hooks.serverSourced kind) :
    Flagged { threads.withThread thread state with hooks := hooks } := by
  have nested : Nested { threads.withThread thread state with hooks := hooks } := by
    constructor
    · intro other call phase
      show ((threads.withThread thread state).of other).applying = _ →
        ((threads.withThread thread state).of other).calls ≠ [] → _
      rw [of_withThread]
      split_ifs
      · exact inside call phase
      · exact flagged.nested.inside other call phase
    · cases thread with
      | game => exact flagged.nested.network
      | network => exact network rfl
  cases thread with
  | game => exact ⟨nested, own, (others .KO (by decide)).trans flagged.ko⟩
  | network => exact ⟨nested, (others .Death (by decide)).trans flagged.death, own⟩

/-- The flag of what a thread applies. -/
theorem Flagged.own (thread : HookThread) :
    threads.hooks.serverSourced thread.applies = (threads.of thread).flagging := by
  cases thread with
  | game => exact flagged.death
  | network => exact flagged.ko

/-- A thread changes, but not whether it is in between. -/
theorem Flagged.withThread_same {thread : HookThread} {state : ThreadState}
    (inside : ∀ call phase, state.applying = some (call, phase) → state.calls ≠ [] → phase = .toReset)
    (network : thread = .network → state.calls ≠ [] → state.applying.isSome)
    (same : (threads.of thread).flagging = state.flagging) :
    Flagged (threads.withThread thread state) := by
  have changed : Flagged { threads.withThread thread state with hooks := threads.hooks } :=
    flagged.withThread inside network ((flagged.own thread).trans same) fun _ _ => rfl
  cases thread with
  | game => exact changed
  | network => exact changed

theorem Flagged.startCall (thread : HookThread)
    (call : HookCall) : Flagged (threads.startCall thread call) := by
  unfold Threads.startCall
  split_ifs with playing
  · refine flagged.withThread_same ?_ ?_ rfl
    · intro applied phase applying _
      rcases playing with within | ⟨-, free⟩
      · exact flagged.nested.inside thread applied phase applying within
      · rw [show (threads.of thread).applying = some (applied, phase) from applying] at free
        cases free
    · rintro rfl -
      rcases playing with within | ⟨game, -⟩
      · exact flagged.nested.network within
      · cases game
  · exact flagged

theorem Flagged.finishCall (thread : HookThread) (core : Core) : Flagged (threads.finishCall thread core) := by
  unfold Threads.finishCall
  cases calls : (threads.of thread).calls with
  | nil => exact flagged
  | cons call rest =>
    obtain ⟨death, ko⟩ := serverSourced_returned call core threads.hooks
    have kept (kind : CombatEventType) : (call.returned core threads.hooks).serverSourced kind
        = threads.hooks.serverSourced kind := by
      cases kind with
      | Death => exact death
      | KO => exact ko
    have some : (threads.of thread).calls ≠ [] := by
      rw [calls]
      exact List.cons_ne_nil _ _
    refine flagged.withThread (fun applied phase applying _ => ?_) ?_
      ((kept _).trans (flagged.own thread)) fun kind _ => kept kind
    · exact flagged.nested.inside thread applied phase applying some
    · rintro rfl -
      exact flagged.nested.network some

end Flagged

/-- A thread that is free begins to apply an event. -/
theorem Flagged.begin {threads : Threads} (flagged : Flagged threads) {thread : HookThread}
    (free : (threads.of thread).Free) (call : HookCall) :
    Flagged (threads.withThread thread { applying := some (call, .toSet) }) := by
  refine flagged.withThread_same (fun _ _ _ none => absurd rfl none) (fun _ none => absurd rfl none) ?_
  unfold ThreadState.flagging
  rw [free.2]
  rfl

theorem serverSourced_set (state : State) (kind other : CombatEventType) (active : Bool) :
    (state.setServerSourced kind active).serverSourced other
      = if other = kind then active else state.serverSourced other := by
  cases kind <;> cases other <;> rfl

theorem Flagged.applyNext (flagged : Flagged threads) (thread : HookThread) :
    Flagged (threads.applyNext thread) := by
  have inside := flagged.nested.inside thread
  unfold Threads.applyNext
  rcases applied : (threads.of thread).applying with _ | ⟨call, _ | _ | _⟩
  · exact flagged
  · -- the flag is set
    refine flagged.withThread (fun other phase _ within => ?_) (fun _ _ => rfl) ?_ fun kind other => ?_
    · cases inside call .toSet applied within
    · rw [serverSourced_set, if_pos rfl]
      rfl
    · rw [serverSourced_set, if_neg other]
  · -- the call
    refine flagged.withThread_same (fun other phase same _ => ?_) (fun _ _ => rfl) ?_
    · cases same
      rfl
    · unfold ThreadState.flagging
      rw [applied]
      rfl
  · -- the flag is reset
    simp only
    split_ifs with back
    · refine flagged.withThread (fun _ _ none => by cases none) (fun _ none => absurd rfl none) ?_
        fun kind other => ?_
      · rw [serverSourced_set, if_pos rfl]
        rfl
      · rw [serverSourced_set, if_neg other]
    · exact flagged

theorem Flagged.step (flagged : Flagged threads) (event : HookStep) : Flagged (threads.step event) := by
  cases event with
  | start thread call => exact flagged.startCall thread call
  | finish thread core => exact flagged.finishCall thread core
  | deathPacket character killer =>
    simp only [Threads.step]
    split_ifs
    · exact flagged.of_same rfl rfl rfl rfl
    · exact flagged
  | koPacket character attacker reason =>
    simp only [Threads.step]
    split_ifs with free
    · exact @Flagged.begin threads flagged .network free _
    · exact flagged
  | takeCommand =>
    simp only [Threads.step]
    cases threads.commands with
    | nil => exact flagged
    | cons call rest =>
      simp only
      split_ifs with free
      · exact (@Flagged.begin threads flagged .game free call).of_same rfl rfl rfl rfl
      · exact flagged
  | apply thread => exact flagged.applyNext thread
  | processDeferredEvents core =>
    obtain ⟨death, ko⟩ := serverSourced_processed core threads.hooks
    simp only [Threads.step]
    split_ifs
    · exact flagged.of_same rfl rfl death ko
    · exact flagged

/-! ### The end of a call -/

/-- A call puts its event into the ring exactly if it tells something and its flag is not set. -/
theorem pending_returned (call : HookCall) (core : Core) (state : State) :
    (call.Tells core state → state.serverSourced call.kind = false →
        (call.returned core state).events.pending = state.events.pending ++ [call.event core])
      ∧ (¬ (call.Tells core state ∧ state.serverSourced call.kind = false) →
        (call.returned core state).events.pending = state.events.pending) := by
  have captures : call.returned core state
      = (captured core (state.serverSourced call.kind) call.character (call.eventOf core)).elim state
          fun evt => (pushEvent state evt).1 := by
    obtain ⟨kind, character, other, reason⟩ := call
    cases kind <;> rfl
  rw [captures]
  unfold captured
  constructor
  · rintro ⟨connected, registered, room⟩ unset
    rw [if_neg (by simp [unset, connected, registered])]
    obtain ⟨events, pushed⟩ := RingBuffer.push_accepted (call.event core) room
    show (pushEvent state (call.event core)).1.events.pending = _
    rw [pushEvent_pending]
    unfold pushEvent
    rw [pushed]
    rfl
  · intro silent
    split_ifs with skipped
    · rfl
    · have full : ¬ state.events.count + 1 < MAX_DEFERRED_EVENTS := by
        intro room
        simp only [Bool.or_eq_true, Bool.not_eq_true', decide_eq_true_eq, not_or] at skipped
        exact silent ⟨⟨by simpa using skipped.1.2, skipped.2, room⟩, by simpa using skipped.1.1⟩
      show (pushEvent state (call.event core)).1.events.pending = _
      rw [pushEvent_pending]
      unfold pushEvent
      rcases pushed : state.events.push (call.event core) with ⟨events, taken⟩
      cases taken with
      | false => exact List.append_nil _
      | true =>
        have refused : (state.events.push (call.event core)).2 = false := by
          unfold RingBuffer.push
          rw [if_pos (state.events.full_iff.mpr (by have := state.events.count_lt; omega))]
        rw [pushed] at refused
        cases refused

/-- A call is reported as it should be exactly if its flag says whether it is inside of a server
event. -/
theorem exact_iff (threads : Threads) (thread : HookThread) (core : Core) :
    Exact threads (.finish thread core)
      ↔ ∀ call rest, (threads.of thread).calls = call :: rest → call.Tells core threads.hooks →
        threads.hooks.serverSourced call.kind = (threads.of thread).applying.isSome := by
  refine forall₂_congr fun call rest => forall_congr' fun calls => ?_
  have after : (threads.finishCall thread core).hooks = call.returned core threads.hooks := by
    unfold Threads.finishCall
    rw [calls]
  obtain ⟨reported, silent⟩ := pending_returned call core threads.hooks
  rw [after]
  cases inside : (threads.of thread).applying.isSome with
  | true =>
    rw [if_pos rfl]
    constructor
    · intro same tells
      by_contra unset
      rw [reported tells (Bool.eq_false_of_not_eq_true unset)] at same
      exact absurd (congrArg List.length same) (by simp)
    · exact fun set => silent fun both => absurd (set both.1) (by simp [both.2])
  | false =>
    rw [if_neg (by decide)]
    refine forall_congr' fun tells => ⟨fun once => ?_, reported tells⟩
    by_contra set
    rw [silent fun both => set both.2] at once
    exact absurd (congrArg List.length once) (by simp)

/-- A thread that is in a call is in between exactly if it applies an event. -/
theorem Nested.flagging (nested : Nested threads) {thread : HookThread}
    (some : (threads.of thread).calls ≠ []) :
    (threads.of thread).flagging = (threads.of thread).applying.isSome := by
  unfold ThreadState.flagging
  cases applied : (threads.of thread).applying with
  | none => rfl
  | some applying =>
    have phase := nested.inside thread applying.1 applying.2 applied some
    simp [phase]

theorem Flagged.exact_iff (flagged : Flagged threads) (event : HookStep) :
    Exact threads event ↔ Undisturbed threads event := by
  cases event with
  | finish thread core =>
    rw [CombatHooks.exact_iff]
    refine forall₂_congr fun call rest => forall_congr' fun calls => forall_congr' fun _ => ?_
    have some : (threads.of thread).calls ≠ [] := by
      rw [calls]
      exact List.cons_ne_nil _ _
    have between := flagged.nested.flagging some
    have own := flagged.own thread
    cases thread with
    | game =>
      cases kind : call.kind with
      | Death => exact iff_of_true (own.trans between) trivial
      | KO =>
        show threads.hooks.serverSourcedKO = _ ↔ _
        rw [flagged.ko]
        exact Iff.rfl
    | network =>
      cases kind : call.kind with
      | KO => exact iff_of_true (own.trans between) trivial
      | Death =>
        show threads.hooks.serverSourcedDeath = threads.network.applying.isSome ↔ _
        rw [flagged.death, flagged.nested.network some]
  | _ => exact Iff.rfl

/-! ### Every interleaving -/

/-- **Every call is reported as it should be exactly if no call of the run is disturbed.** -/
theorem echo_suppression_iff (events : List HookStep) :
    threadMachine.Along Exact {} events ↔ threadMachine.Along Undisturbed {} events := by
  have idle (thread : HookThread) : (({} : Threads).of thread).calls = [] := by cases thread <;> rfl
  have start : Flagged {} :=
    ⟨⟨fun thread _ _ _ within => absurd (idle thread) within, fun within => absurd rfl within⟩, rfl, rfl⟩
  exact Machine.along_congr (fun _ event flagged => flagged.exact_iff event)
    (fun _ event flagged _ => flagged.step event) start events

/-- A knock-out of the game that ends while one of the server is applied is reported to nobody. A
character that is knocked out by its death is reported, although it is the server that has sent the
death. -/
theorem echo_suppression_fails :
    ¬ threadMachine.Along Exact {}
        [.koPacket 0x10000 0 0, .apply .network, .start .game ⟨.KO, 0x10000, 0, 0⟩,
          .finish .game oneCharacter]
      ∧ ¬ threadMachine.Along Exact {}
        [.deathPacket 0x10000 0, .takeCommand, .apply .game, .apply .game,
          .start .game ⟨.KO, 0x10000, 0, 0⟩, .finish .game oneCharacter] := by
  refine ⟨fun run => ?_, fun run => ?_⟩
  · have lost := congrArg List.length (run.2.2.2.1 ⟨.KO, 0x10000, 0, 0⟩ [] rfl
      ⟨rfl, by decide +kernel, by decide +kernel⟩)
    exact absurd lost (by decide +kernel)
  · have echoed := congrArg List.length (run.2.2.2.2.2.1 ⟨.KO, 0x10000, 0, 0⟩ [⟨.Death, 0x10000, 0, 0⟩] rfl)
    exact absurd echoed (by decide +kernel)

end CombatHooks

end KenshiMP
