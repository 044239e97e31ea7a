/-
**Deferred combat events: which ones are lost.**

A ledger keeps beside the hooks every event that the ring has taken and every event that a tick has
handled. Nothing is lost as long as what was taken is what was handled and what is pending, in this
order. `processFrom` breaks this exactly when it finds more events than its cap: the one it takes out
to see that it may not handle it is gone.
-/

import KenshiMP.Client.CombatHooks

namespace KenshiMP

open Wire (Bytes)

namespace CombatHooks

/-! ### The ledger -/

structure Ledger where
  state : State := {}
  /-- the events that `pushEvent` has taken -/
  accepted : List DeferredCombatEvent := []
  /-- the events that a tick has handled -/
  handled : List DeferredCombatEvent := []
  /-- the packets that were sent for them -/
  sent : List Bytes := []

/-- What can happen to the hooks. The rest of the client may have changed in any way in between. -/
inductive Moment where
  | characterDeath (core : Core) (character killer : GameObject)
  | characterKO (core : Core) (character attacker : GameObject) (reason : Int32)
  | setServerSourcedDeath (active : Bool)
  | setServerSourcedKO (active : Bool)
  | processDeferredEvents (core : Core)

namespace Ledger

variable (ledger : Ledger)

/-- What a hook captures goes to the ring. -/
def push : Option DeferredCombatEvent → Ledger
  | none => ledger
  | some evt =>
    { ledger with
      state := (pushEvent ledger.state evt).1
      accepted := ledger.accepted ++ if (pushEvent ledger.state evt).2 then [evt] else [] }

def tick (core : Core) : Ledger :=
  let handled := (processDeferredEvents core ledger.state).2
  { ledger with
    state := (processDeferredEvents core ledger.state).1
    handled := ledger.handled ++ handled
    sent := ledger.sent ++ handled.flatMap (handle core) }

def step : Moment → Ledger
  | .characterDeath core character killer =>
    ledger.push (hookCharacterDeath core ledger.state character killer)
  | .characterKO core character attacker reason =>
    ledger.push (hookCharacterKO core ledger.state character attacker reason)
  | .setServerSourcedDeath active =>
    { ledger with state := { ledger.state with serverSourcedDeath := active } }
  | .setServerSourcedKO active =>
    { ledger with state := { ledger.state with serverSourcedKO := active } }
  | .processDeferredEvents core => ledger.tick core

/-- Every event taken was handled, once and in the order of the pushes, or is still pending. -/
def Kept : Prop := ledger.accepted = ledger.handled ++ ledger.state.events.pending

end Ledger

def ledgerMachine : Machine Ledger Moment Empty where
  step ledger moment := (ledger.step moment, [])

/-- A tick finds no more events than it may handle: 64 while connected, and else none. -/
def FewPending (ledger : Ledger) : Moment → Prop
  | .processDeferredEvents core =>
    ledger.state.events.pending.length ≤ if core.isConnected then MAX_PROCESSED else 0
  | _ => True

/-! ### One step -/

namespace Ledger

variable {ledger : Ledger}

theorem Kept.push (kept : ledger.Kept) (evt : Option DeferredCombatEvent) : (ledger.push evt).Kept := by
  cases evt with
  | none => exact kept
  | some evt =>
    show ledger.accepted ++ _ = ledger.handled ++ (pushEvent ledger.state evt).1.events.pending
    rw [pushEvent_pending, kept, List.append_assoc]

/-- What a tick leaves of the pending events. -/
theorem tick_pending (core : Core) :
    (ledger.tick core).state.events.pending
        = ledger.state.events.pending.drop (if core.isConnected then MAX_PROCESSED + 1
            else MAX_DEFERRED_EVENTS)
      ∧ (ledger.tick core).handled = ledger.handled
          ++ ledger.state.events.pending.take (if core.isConnected then MAX_PROCESSED else 0) := by
  obtain ⟨taken, left⟩ := processFrom_spec MAX_PROCESSED ledger.state.events
  unfold tick processDeferredEvents
  cases connected : core.isConnected with
  | true => exact ⟨left, congrArg (ledger.handled ++ ·) taken⟩
  | false => exact ⟨drain_pending _ _, rfl⟩

/-- After a tick that finds few enough events, everything is handled. -/
theorem tick_handled (kept : ledger.Kept) {core : Core}
    (few : FewPending ledger (.processDeferredEvents core)) :
    (ledger.tick core).handled = (ledger.tick core).accepted
      ∧ (ledger.tick core).state.events.pending = [] := by
  obtain ⟨left, handled⟩ := ledger.tick_pending core
  have few : ledger.state.events.pending.length ≤ if core.isConnected then MAX_PROCESSED else 0 := few
  constructor
  · rw [handled, List.take_of_length_le few]
    exact kept.symm
  · rw [left, List.drop_eq_nil_iff]
    split_ifs at few ⊢ <;> omega

/-- A tick that keeps every event has found few enough. -/
theorem tick_few (kept : ledger.Kept) {core : Core} (after : (ledger.tick core).Kept) :
    FewPending ledger (.processDeferredEvents core) := by
  obtain ⟨left, handled⟩ := ledger.tick_pending core
  have counted := congrArg List.length after
  have before := congrArg List.length kept
  rw [left, handled] at counted
  simp only [List.length_append, List.length_drop, List.length_take] at counted before
  have same : (ledger.tick core).accepted = ledger.accepted := rfl
  have ring := ledger.state.events.count_lt
  rw [← RingBuffer.pending_length] at ring
  rw [same, before] at counted
  show ledger.state.events.pending.length ≤ if core.isConnected then MAX_PROCESSED else 0
  split_ifs at counted ⊢ <;> omega

theorem Kept.step (kept : ledger.Kept) {moment : Moment} (few : FewPending ledger moment) :
    (ledger.step moment).Kept := by
  cases moment with
  | characterDeath core character killer => exact kept.push _
  | characterKO core character attacker reason => exact kept.push _
  | setServerSourcedDeath active => exact kept
  | setServerSourcedKO active => exact kept
  | processDeferredEvents core =>
    obtain ⟨handled, left⟩ := tick_handled kept few
    show (ledger.tick core).accepted = (ledger.tick core).handled ++ _
    rw [handled]
    exact (left ▸ List.append_nil _).symm

theorem Kept.few (kept : ledger.Kept) {moment : Moment} (after : (ledger.step moment).Kept) :
    FewPending ledger moment := by
  cases moment with
  | characterDeath core character killer => trivial
  | characterKO core character attacker reason => trivial
  | setServerSourcedDeath active => trivial
  | setServerSourcedKO active => trivial
  | processDeferredEvents core => exact tick_few kept after

theorem Kept.start : ({} : Ledger).Kept := rfl

end Ledger

/-! ### Every run -/

/-- **Nothing is lost exactly as long as no tick finds more events than its cap.** Then every event
that was taken is handled by the next tick at the latest. -/
theorem deferredEvents_kept (moments : List Moment) (core : Core) :
    ((∀ count, (ledgerMachine.run {} (moments.take count)).Kept) ↔ ledgerMachine.Along FewPending {} moments)
      ∧ (ledgerMachine.Along FewPending {} (moments ++ [.processDeferredEvents core]) →
        (ledgerMachine.run {} (moments ++ [.processDeferredEvents core])).handled
          = (ledgerMachine.run {} moments).accepted) := by
  have preserved (ledger : Ledger) (moment : Moment) (few : FewPending ledger moment)
      (kept : ledger.Kept) : (ledgerMachine.next ledger moment).Kept := kept.step few
  have exactly := @Machine.along_iff _ _ _ ledgerMachine FewPending Ledger.Kept preserved
    (fun _ _ kept after => Ledger.Kept.few kept after) {} .start moments
  refine ⟨exactly.symm, fun along => ?_⟩
  obtain ⟨before, last⟩ := Machine.along_append.mp along
  have kept : (ledgerMachine.run {} moments).Kept :=
    Machine.run_invariant preserved .start before
  rw [Machine.run_append]
  exact (Ledger.tick_handled kept last.1).1

/-- A client that is connected, with one character in its registry. -/
def oneCharacter : Core where
  isConnected := true
  registry := ({} : EntityRegistry).register 0x10000 EntityType.PlayerCharacter 1
  getHealth _ _ := none

/-- Sixty-five deaths and one tick: all are taken, one of them is not handled, and none is left. -/
theorem deferredEvents_lost :
    ¬ (ledgerMachine.run {} (List.replicate 65 (.characterDeath oneCharacter 0x10000 0)
        ++ [.processDeferredEvents oneCharacter])).Kept := by
  have counts : (ledgerMachine.run {} (List.replicate 65 (.characterDeath oneCharacter 0x10000 0)
        ++ [.processDeferredEvents oneCharacter])).accepted.length = 65
      ∧ (ledgerMachine.run {} (List.replicate 65 (.characterDeath oneCharacter 0x10000 0)
        ++ [.processDeferredEvents oneCharacter])).handled.length = 64
      ∧ (ledgerMachine.run {} (List.replicate 65 (.characterDeath oneCharacter 0x10000 0)
        ++ [.processDeferredEvents oneCharacter])).state.events.pending.length = 0 := by
    decide +kernel
  obtain ⟨taken, handled, left⟩ := counts
  intro kept
  unfold Ledger.Kept at kept
  have lengths := congrArg List.length kept
  rw [List.length_append, taken, handled, left] at lengths
  cases lengths

end CombatHooks

end KenshiMP
