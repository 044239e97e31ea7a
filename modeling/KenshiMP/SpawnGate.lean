/-
**The spawn gate: what holds when it is open.**

Three activities share one phase. While a zone loads, the phase says so; but the end of a burst, the time
out of a burst and a tick that finds the end of the zone load before long enough ago set the phase back,
although the zone still loads. `Undisturbed` excludes these three. All else that the gate promises holds in
every run: `Gate` is the account of a history, and `gate_step` keeps it.
-/

import KenshiMP.Client.LoadingOrchestrator
import KenshiMP.Lib.Histories

namespace KenshiMP

open Wire (Bytes)

namespace LoadingOrchestrator

/-! ### What should be -/

namespace Event

/-- A load has been completed. -/
def completes : Event → Bool
  | .resourceLoaded _ _ | .resourceFailed _ _ | .burstEnded _ | .gameLoaded | .zoneLoadEnd => true
  | _ => false

def requests (name : Bytes) : Event → Bool
  | .resourceRequested other _ => name = other
  | _ => false

def resolves (name : Bytes) : Event → Bool
  | .resourceLoaded other _ | .resourceFailed other _ => name = other
  | _ => false

def detectsBurst : Event → Bool
  | .burstDetected _ => true
  | _ => false

def endsBurst : Event → Bool
  | .burstEnded _ => true
  | _ => false

end Event

abbrev Timed := Int × Event

/-- A zone has begun to load in the game, and its load has not ended. -/
def ZoneOpen (history : List Timed) : Prop :=
  History.Open (fun before event => event.2 = .zoneLoadStart ∧ ∃ earlier ∈ before, earlier.2 = .gameLoaded)
    (fun event => event.2 = .zoneLoadEnd) history

/-- A resource has been requested, and has not been loaded or failed since. -/
def ResourceOpen (name : Bytes) (history : List Timed) : Prop :=
  History.Open (fun _ event => event.2.requests name = true) (fun event => event.2.resolves name = true)
    history

/-- A burst has been detected at this time, and no burst has ended since. -/
def BurstOpen (start : Int) (history : List Timed) : Prop :=
  History.Open (fun _ event => event.1 = start ∧ event.2.detectsBurst = true)
    (fun event => event.2.endsBurst = true) history

/-- What an open gate promises. -/
structure SafeAt (history : List Timed) (now : Int) : Prop where
  loaded : ∃ event ∈ history, event.2 = .gameLoaded
  zones : ¬ ZoneOpen history
  settled : ∀ event ∈ history, event.2 = .zoneLoadEnd → ZONE_SETTLE_MS ≤ elapsedMs now event.1
  cooled : ∀ event ∈ history, event.2.completes = true → SPAWN_COOLDOWN_MS ≤ elapsedMs now event.1
  resources : ∀ name, ¬ ResourceOpen name history
  bursts : ∀ start, BurstOpen start history → BURST_TIMEOUT_MS ≤ elapsedMs now start

/-- The event sets the phase back: a burst ends, or a tick comes after the time out of a burst, or outside
a burst after the time in which a zone settles, counted from the last zone load that has ended. -/
def setsBack (orch : LoadingOrchestrator) (event : Timed) : Bool :=
  match event.2 with
  | .burstEnded _ => true
  | .tick =>
    if orch.inBurst then BURST_TIMEOUT_MS ≤ elapsedMs event.1 orch.burstStartTime
    else ZONE_SETTLE_MS ≤ elapsedMs event.1 orch.zoneLoadEndTime
  | _ => false

/-- Nothing sets the phase back while a zone loads. -/
def Undisturbed (events : List Timed) : Prop :=
  ∀ before event after, events = before ++ event :: after → ZoneOpen before →
    (machine.run {} before).setsBack event = false

theorem undisturbed_nil : Undisturbed [] := by
  intro before event after parts
  simp at parts

theorem undisturbed_append {history : List Timed} {last : Timed} : Undisturbed (history ++ [last])
    ↔ Undisturbed history ∧ (ZoneOpen history → (machine.run {} history).setsBack last = false) := by
  constructor
  · refine fun undisturbed => ⟨fun before event after parts opened => ?_, fun opened => ?_⟩
    · exact undisturbed before event (after ++ [last]) (by simp [parts]) opened
    · exact undisturbed history last [] rfl opened
  · rintro ⟨undisturbed, final⟩ before event after parts opened
    rcases History.split_last parts with ⟨-, rfl, rfl⟩ | ⟨rest, -, same⟩
    · exact final opened
    · exact undisturbed before event rest same opened

/-! ### What a step does -/

variable {orch : LoadingOrchestrator} {event : Timed}

theorem elapsedMs_mono {earlier later : Int} (start : Int) (order : earlier ≤ later) :
    elapsedMs earlier start ≤ elapsedMs later start := by
  unfold elapsedMs
  exact Int.tdiv_le_tdiv (by decide) (by omega)

theorem elapsedMs_anti {earlier later : Int} (now : Int) (order : earlier ≤ later) :
    elapsedMs now later ≤ elapsedMs now earlier := by
  unfold elapsedMs
  exact Int.tdiv_le_tdiv (by decide) (by omega)

theorem timeOut_gameLoaded (now : Int) : (orch.timeOut now).gameLoaded = orch.gameLoaded := by
  unfold timeOut transitionTo
  split_ifs <;> rfl

theorem timeOut_pending (now : Int) : (orch.timeOut now).pendingResources = orch.pendingResources := by
  unfold timeOut transitionTo
  split_ifs <;> rfl

theorem timeOut_hooks (now : Int) : (orch.timeOut now).hasResourceHooks = orch.hasResourceHooks := by
  unfold timeOut transitionTo
  split_ifs <;> rfl

/-- A tick changes nothing but the phase after the time out. -/
theorem tick_eq (now : Int) : ∃ phase, orch.tick now = { orch.timeOut now with phase := phase } := by
  simp only [tick, transitionTo]
  split_ifs
  · exact ⟨.Idle, rfl⟩
  · exact ⟨(orch.timeOut now).phase, rfl⟩

theorem step_gameLoaded : (orch.step event).gameLoaded = true
    ↔ orch.gameLoaded = true ∨ event.2 = .gameLoaded := by
  obtain ⟨time, happened⟩ := event
  cases happened with
  | tick =>
    obtain ⟨phase, ticked⟩ := @tick_eq orch time
    simp [step, ticked, timeOut_gameLoaded]
  | gameLoaded =>
    simp only [step, onGameLoaded, transitionTo]
    split_ifs <;> simp
  | burstDetected | burstEnded =>
    simp only [step, onBurstDetected, onBurstEnded, transitionTo]
    split_ifs <;> simp
  | zoneLoadStart =>
    simp only [step, onZoneLoadStart, transitionTo]
    split_ifs <;> simp
  | resourceRequested | resourceLoaded | resourceFailed | zoneLoadEnd =>
    simp [step, onResourceRequested, onResourceLoaded, onResourceFailed, onZoneLoadEnd]

theorem step_pending (name : Bytes) : name ∈ (orch.step event).pendingResources
    ↔ event.2.requests name = true ∨ (name ∈ orch.pendingResources ∧ ¬ event.2.resolves name = true) := by
  obtain ⟨time, happened⟩ := event
  cases happened with
  | tick =>
    obtain ⟨phase, ticked⟩ := @tick_eq orch time
    simp [step, ticked, timeOut_pending, Event.requests, Event.resolves]
  | resourceRequested | resourceLoaded | resourceFailed =>
    simp [step, onResourceRequested, onResourceLoaded, onResourceFailed, Event.requests, Event.resolves,
      and_comm]
  | zoneLoadEnd => simp [step, onZoneLoadEnd, Event.requests, Event.resolves]
  | gameLoaded | burstDetected | burstEnded | zoneLoadStart =>
    simp only [step, onGameLoaded, onBurstDetected, onBurstEnded, onZoneLoadStart, transitionTo]
    split_ifs <;> simp [Event.requests, Event.resolves]

theorem step_hooks (name : Bytes) (hooked : orch.hasResourceHooks = true ∨ event.2.requests name = true) :
    (orch.step event).hasResourceHooks = true := by
  obtain ⟨time, happened⟩ := event
  cases happened with
  | tick =>
    obtain ⟨phase, ticked⟩ := @tick_eq orch time
    simpa [step, ticked, timeOut_hooks, Event.requests] using hooked
  | resourceRequested => rfl
  | resourceLoaded | resourceFailed | zoneLoadEnd =>
    simpa [step, onResourceLoaded, onResourceFailed, onZoneLoadEnd, Event.requests] using hooked
  | gameLoaded | burstDetected | burstEnded | zoneLoadStart =>
    simp only [step, onGameLoaded, onBurstDetected, onBurstEnded, onZoneLoadStart, transitionTo]
    split_ifs <;> simpa [Event.requests] using hooked

/-- The time of the last completed load stays, or it is the time of the event; a load that completes sets
it. -/
theorem step_lastLoad : (orch.step event).lastLoadCompleteTime = event.1
    ∨ ((orch.step event).lastLoadCompleteTime = orch.lastLoadCompleteTime ∧ event.2.completes = false) := by
  obtain ⟨time, happened⟩ := event
  cases happened with
  | tick =>
    obtain ⟨phase, ticked⟩ := @tick_eq orch time
    simp only [step, ticked, timeOut, transitionTo, Event.completes]
    split_ifs <;> simp
  | resourceRequested | resourceLoaded | resourceFailed | zoneLoadEnd =>
    simp [step, onResourceRequested, onResourceLoaded, onResourceFailed, onZoneLoadEnd, Event.completes]
  | gameLoaded | burstDetected | burstEnded | zoneLoadStart =>
    simp only [step, onGameLoaded, onBurstDetected, onBurstEnded, onZoneLoadStart, transitionTo,
      Event.completes]
    split_ifs <;> simp

theorem step_detected (detected : event.2.detectsBurst = true) :
    (orch.step event).inBurst = true ∧ (orch.step event).burstStartTime = event.1 := by
  obtain ⟨time, happened⟩ := event
  cases happened with
  | burstDetected =>
    simp only [step, onBurstDetected, transitionTo]
    split_ifs <;> simp
  | resourceRequested | resourceLoaded | resourceFailed | burstEnded | gameLoaded | zoneLoadStart
    | zoneLoadEnd | tick => simp [Event.detectsBurst] at detected

/-- A burst stays until it ends or times out; one that is detected meanwhile takes its place. -/
theorem step_inBurst (inside : orch.inBurst = true) (unended : ¬ event.2.endsBurst = true) :
    ((orch.step event).inBurst = true
        ∧ ((orch.step event).burstStartTime = orch.burstStartTime
          ∨ (orch.step event).burstStartTime = event.1))
      ∨ BURST_TIMEOUT_MS ≤ elapsedMs event.1 orch.burstStartTime := by
  obtain ⟨time, happened⟩ := event
  cases happened with
  | burstDetected =>
    obtain ⟨detected, start⟩ := @step_detected orch (time, .burstDetected _) rfl
    exact .inl ⟨detected, .inr start⟩
  | burstEnded => exact absurd rfl unended
  | tick =>
    obtain ⟨phase, ticked⟩ := @tick_eq orch time
    simp only [step, ticked, timeOut, transitionTo, inside, Bool.true_and, decide_eq_true_eq]
    split_ifs with late <;> simp_all
  | resourceRequested | resourceLoaded | resourceFailed | zoneLoadEnd =>
    simp [step, onResourceRequested, onResourceLoaded, onResourceFailed, onZoneLoadEnd, inside]
  | gameLoaded | zoneLoadStart =>
    simp only [step, onGameLoaded, onZoneLoadStart, transitionTo]
    split_ifs <;> simp [inside]

/-- While a zone loads, only what sets the phase back changes it. -/
theorem step_zone (zone : orch.phase = .ZoneTransition) (kept : orch.setsBack event = false) :
    (orch.step event).phase = .ZoneTransition := by
  obtain ⟨time, happened⟩ := event
  cases happened with
  | tick =>
    simp only [setsBack] at kept
    split_ifs at kept with inside
    · have early : ¬ BURST_TIMEOUT_MS ≤ elapsedMs time orch.burstStartTime := by simpa using kept
      simp [step, tick, timeOut, inside, early, zone]
    · have early : ¬ ZONE_SETTLE_MS ≤ elapsedMs time orch.zoneLoadEndTime := by simpa using kept
      simp [step, tick, timeOut, inside, early, zone]
  | burstEnded => simp [setsBack] at kept
  | resourceRequested | resourceLoaded | resourceFailed | zoneLoadEnd =>
    simp [step, onResourceRequested, onResourceLoaded, onResourceFailed, onZoneLoadEnd, zone]
  | gameLoaded | burstDetected | zoneLoadStart =>
    simp only [step, onGameLoaded, onBurstDetected, onZoneLoadStart, transitionTo]
    split_ifs <;> simp_all

theorem step_zoneLoadStart (started : event.2 = .zoneLoadStart) (loaded : orch.gameLoaded = true) :
    (orch.step event).phase = .ZoneTransition := by
  simp [step, started, onZoneLoadStart, loaded, transitionTo]

/-! ### The account of a history -/

structure Gate (history : List Timed) (orch : LoadingOrchestrator) : Prop where
  loaded : orch.gameLoaded = true ↔ ∃ event ∈ history, event.2 = .gameLoaded
  completed : ∀ event ∈ history, event.2.completes = true → event.1 ≤ orch.lastLoadCompleteTime
  requested : ∀ name, ResourceOpen name history →
    name ∈ orch.pendingResources ∧ orch.hasResourceHooks = true
  burst : ∀ start, BurstOpen start history → (orch.inBurst = true ∧ start ≤ orch.burstStartTime)
    ∨ ∃ event ∈ history, BURST_TIMEOUT_MS ≤ elapsedMs event.1 start
  zone : ZoneOpen history → orch.phase = .ZoneTransition

theorem gate_nil : Gate [] ({} : LoadingOrchestrator) where
  loaded := by simp
  completed := by simp
  requested name opened := absurd opened History.not_open_nil
  burst start opened := absurd opened History.not_open_nil
  zone opened := absurd opened History.not_open_nil

variable {history : List Timed}

section Latest

variable (gate : Gate history orch) (last : ∀ earlier ∈ history, earlier.1 ≤ event.1)

include gate last

theorem burst_step (start : Int) (opened : BurstOpen start (history ++ [event])) :
    ((orch.step event).inBurst = true ∧ start ≤ (orch.step event).burstStartTime)
      ∨ ∃ other ∈ history ++ [event], BURST_TIMEOUT_MS ≤ elapsedMs other.1 start := by
  rcases History.open_append.mp opened with ⟨time, detected⟩ | ⟨before, unended⟩
  · obtain ⟨inside, started⟩ := @step_detected orch event detected
    exact .inl ⟨inside, by omega⟩
  · rcases gate.burst start before with ⟨inside, order⟩ | ⟨other, member, late⟩
    · rcases step_inBurst inside unended with ⟨still, same | later⟩ | late
      · exact .inl ⟨still, by omega⟩
      · obtain ⟨first, entry, rest, parts, ⟨time, -⟩, -⟩ := before
        have earlier : entry.1 ≤ event.1 := last entry (by simp [parts])
        exact .inl ⟨still, by omega⟩
      · exact .inr ⟨event, by simp, late.trans (elapsedMs_anti _ order)⟩
    · exact .inr ⟨other, List.mem_append_left _ member, late⟩

/-- One event keeps the account, if it sets no phase back while a zone loads. -/
theorem gate_step (kept : ZoneOpen history → orch.setsBack event = false) :
    Gate (history ++ [event]) (orch.step event) where
  loaded := by
    rw [step_gameLoaded, gate.loaded]
    simp [or_and_right, exists_or]
  completed other member completes := by
    rcases List.mem_append.mp member with earlier | now
    · have before := gate.completed other earlier completes
      have order := last other earlier
      rcases @step_lastLoad orch event with time | ⟨time, -⟩ <;> omega
    · rw [List.mem_singleton.mp now] at completes ⊢
      rcases @step_lastLoad orch event with time | ⟨-, incomplete⟩
      · exact time.ge
      · rw [completes] at incomplete
        exact absurd incomplete (by decide)
  requested name opened := by
    rcases History.open_append.mp opened with requests | ⟨before, unresolved⟩
    · exact ⟨(step_pending name).mpr (.inl requests), step_hooks name (.inr requests)⟩
    · obtain ⟨pending, hooked⟩ := gate.requested name before
      exact ⟨(step_pending name).mpr (.inr ⟨pending, unresolved⟩), step_hooks name (.inl hooked)⟩
  burst := burst_step gate last
  zone opened := by
    rcases History.open_append.mp opened with ⟨started, earlier⟩ | ⟨before, -⟩
    · exact step_zoneLoadStart started (gate.loaded.mpr earlier)
    · exact step_zone (gate.zone before) (kept before)

end Latest

theorem gate_run (events : List Timed) (ordered : (events.map Prod.fst).Pairwise (· ≤ ·))
    (undisturbed : Undisturbed events) : Gate events (machine.run {} events) := by
  induction events using List.reverseRecOn with
  | nil => exact gate_nil
  | append_singleton history event ih =>
    rw [List.map_append, List.pairwise_append] at ordered
    obtain ⟨before, -, last⟩ := ordered
    obtain ⟨undisturbed, kept⟩ := undisturbed_append.mp undisturbed
    rw [Machine.run_append]
    refine gate_step (ih before undisturbed) (fun earlier inside => ?_) kept
    exact last _ (List.mem_map_of_mem inside) _ (by simp)

/-! ### The open gate -/

theorem safe_cases {now : Int} (safe : orch.isSafeToSpawn now = true) :
    orch.phase = .Idle ∧ orch.inBurst = false ∧ orch.gameLoaded = true
      ∧ (orch.hasResourceHooks = true → orch.pendingResources = ∅)
      ∧ SPAWN_COOLDOWN_MS ≤ elapsedMs now orch.lastLoadCompleteTime := by
  unfold isSafeToSpawn at safe
  split_ifs at safe with phase inside loaded pending cold
  refine ⟨by simpa using phase, by simpa using inside, by simpa using loaded, fun hooked => ?_, by omega⟩
  simpa [hooked] using pending

/-- In a history in which nothing sets the phase back while a zone loads, an open gate keeps its promise. -/
theorem spawn_gate_safe (events : List Timed) (ordered : (events.map Prod.fst).Pairwise (· ≤ ·))
    (undisturbed : Undisturbed events) (now : Int) (later : ∀ event ∈ events, event.1 ≤ now)
    (safe : (machine.run {} events).isSafeToSpawn now = true) : SafeAt events now := by
  have gate := gate_run events ordered undisturbed
  obtain ⟨idle, unburst, loaded, drained, cooled⟩ := safe_cases safe
  have cool : ∀ event ∈ events, event.2.completes = true → SPAWN_COOLDOWN_MS ≤ elapsedMs now event.1 :=
    fun event inside completes => cooled.trans (elapsedMs_anti _ (gate.completed event inside completes))
  refine ⟨gate.loaded.mp loaded, fun opened => ?_, fun event inside ended => ?_, cool, fun name opened => ?_,
    fun start opened => ?_⟩
  · rw [gate.zone opened] at idle
    exact LoadingPhase.noConfusion idle
  · have completes : event.2.completes = true := by rw [ended]; rfl
    exact le_trans (by decide) (cool event inside completes)
  · obtain ⟨pending, hooked⟩ := gate.requested name opened
    rw [drained hooked] at pending
    exact absurd pending (Finset.notMem_empty name)
  · rcases gate.burst start opened with ⟨inside, -⟩ | ⟨event, inside, late⟩
    · rw [unburst] at inside
      exact absurd inside (by decide)
    · exact late.trans (elapsedMs_mono _ (later event inside))

/-- The game is loaded, and a zone loads and ends inside a burst. -/
def settledZone : List Timed :=
  [(100000000000, .gameLoaded), (103000000000, .zoneLoadStart), (103000000000, .burstDetected 5),
    (104000000000, .zoneLoadEnd), (104000000000, .burstEnded 9)]

theorem spawn_gate_safe_zone : SafeAt settledZone 106000000000 := by
  have undisturbed : Undisturbed settledZone := by
    have steps : settledZone = (((([] ++ [(100000000000, .gameLoaded)]) ++ [(103000000000, .zoneLoadStart)])
      ++ [(103000000000, .burstDetected 5)]) ++ [(104000000000, .zoneLoadEnd)])
      ++ [(104000000000, .burstEnded 9)] := rfl
    rw [steps]
    simp only [undisturbed_append, undisturbed_nil, true_and]
    refine ⟨⟨⟨⟨?_, ?_⟩, ?_⟩, ?_⟩, ?_⟩
    · exact fun _ => rfl
    · exact fun _ => rfl
    · exact fun _ => rfl
    · exact fun _ => rfl
    · intro opened
      rcases History.open_append.mp opened with ⟨started, -⟩ | ⟨-, unended⟩
      · exact absurd started (by decide)
      · exact absurd rfl unended
  exact spawn_gate_safe settledZone (by decide) undisturbed 106000000000 (by decide) (by decide)

/-- A tick in the moment in which a zone begins to load compares with the end of a zone load before it. -/
theorem spawn_gate_fails : ¬ ∀ (events : List Timed), (events.map Prod.fst).Pairwise (· ≤ ·) →
    ∀ now : Int, (∀ event ∈ events, event.1 ≤ now) → (machine.run {} events).isSafeToSpawn now = true →
      SafeAt events now := by
  intro holds
  have safe := holds [(100000000000, .gameLoaded), (103000000000, .zoneLoadStart), (103000000000, .tick)]
    (by decide) 103000000000 (by decide) (by decide)
  refine safe.zones ⟨[(100000000000, .gameLoaded)], (103000000000, .zoneLoadStart),
    [(103000000000, .tick)], rfl, ⟨rfl, ?_⟩, ?_⟩
  · exact ⟨(100000000000, .gameLoaded), by simp, rfl⟩
  · intro later inside
    rw [List.mem_singleton.mp inside]
    exact Event.noConfusion

end LoadingOrchestrator

end KenshiMP
