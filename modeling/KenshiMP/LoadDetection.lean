/-
**When a poll detects that a load is over.**

A poll does nothing in the two phases of a connection, and no other step takes a client out of them
while its game has not loaded, except the tick of a connected client that finds the base of the player
(`Wedged.run`). A client comes into them without a loaded game exactly by an attempt or an acknowledgement
that does not wait for the load.

`load_detection` says which states of a run are detected and which runs have only such states.
-/

import KenshiMP.Client.LoadingFacts

namespace KenshiMP

namespace LoadingClient

variable {core : LoadingClient}

/-- Once characters were created and none for three seconds, the next poll of a game that has not
loaded finds that it has. -/
def Detects (core : LoadingClient) : Prop :=
  ∀ view : PollView, core.client.gameLoaded = false → 0 < core.loadingCreateCount →
    core.quiet view.now = true → (core.pollForGameLoad view).client.gameLoaded = true

/-- The network waits for the load. -/
def Patient (core : LoadingClient) (event : Event) : Prop :=
  core.client.gameLoaded = false → core.networkMoves event = false

/-- A game that has not loaded is in a phase in which it is polled. -/
def Polled (core : LoadingClient) : Prop := core.client.gameLoaded = false → core.closed = false

/-! ### A poll -/

theorem poll_closed (closed : core.closed = true) (view : PollView) :
    (core.pollForGameLoad view).client = core.client := by
  rcases core.poll_cases view with ⟨-, open', -⟩ | same
  · rw [closed] at open'
    cases open'
  · exact same

theorem poll_open (unloaded : core.client.gameLoaded = false) (counted : 0 < core.loadingCreateCount)
    {view : PollView} (quiet : core.quiet view.now = true) (open' : core.closed = false) :
    (core.pollForGameLoad view).client.gameLoaded = true := by
  have burst : (decide (0 < core.loadingCreateCount) && core.quiet view.now) = true := by
    rw [decide_eq_true counted, quiet]
    rfl
  unfold closed at open'
  unfold pollForGameLoad
  simp only
  rw [if_neg (by rw [unloaded]; exact Bool.false_ne_true),
    if_neg (by rw [open']; exact Bool.false_ne_true), if_pos burst]
  refine (onGameLoaded_effect _ view.characters view.starts ?_).2
  exact unloaded

/-- There is always a time at which the last character was created long ago. -/
theorem exists_quiet (core : LoadingClient) : core.quiet (core.lastCreateTimeMs + 3001) = true := by
  unfold quiet
  rw [Bool.or_eq_true]
  exact .inr (decide_eq_true (by omega))

theorem detects_iff : core.Detects
    ↔ (core.client.gameLoaded = false → 0 < core.loadingCreateCount → core.closed = false) := by
  constructor
  · intro detects unloaded counted
    by_contra shut
    let view : PollView := ⟨core.lastCreateTimeMs + 3001, false, false, 0, [], false⟩
    have detected := detects view unloaded counted core.exists_quiet
    rw [poll_closed (Bool.not_eq_false _ |>.mp shut) view, unloaded] at detected
    cases detected
  · exact fun open' view unloaded counted quiet =>
      poll_open unloaded counted quiet (open' unloaded counted)

/-! ### A run -/

theorem Polled.next {pages : CodePages} {event : Event} (polled : core.Polled)
    (patient : core.Patient event) : (core.step pages event).Polled := by
  intro unloaded
  have phase (phase : ClientPhase) (reached : (core.step pages event).client.clientPhase = phase)
      (other : (decide (phase = .Connected) || decide (phase = .Connecting)) = false) :
      (core.step pages event).closed = false := by
    unfold closed
    rw [reached]
    exact other
  cases step_effect pages core event with
  | same same loaded => exact phase _ same (polled (loaded.symm.trans unloaded))
  | menu _ menu => exact phase _ menu rfl
  | gap _ _ _ loading => exact phase _ loading rfl
  | detected _ _ _ loaded => exact absurd (loaded.symm.trans unloaded) (by decide)
  | network moves _ loaded =>
    exact absurd (moves.symm.trans (patient (loaded.symm.trans unloaded))) (by decide)
  | ready _ _ loaded => exact absurd (loaded.symm.trans unloaded) (by decide)

theorem Polled.patient {pages : CodePages} {event : Event} (polled : (core.step pages event).Polled) :
    core.Patient event := by
  intro unloaded
  by_contra moved
  obtain ⟨closed, loaded⟩ : (core.step pages event).closed = true
      ∧ (core.step pages event).client.gameLoaded = core.client.gameLoaded :=
    step_moves (Bool.not_eq_false _ |>.mp moved)
  have open' := polled (loaded.trans unloaded)
  rw [closed] at open'
  cases open'

/-- A game that has not loaded in a closed phase. -/
def Wedged (core : LoadingClient) : Prop :=
  core.client.gameLoaded = false ∧ core.closed = true

/-- The tick of a connected client may still find the base of the player. -/
def ticks : Event → Bool
  | .gameTick view => view.playerBaseValid
  | _ => false

theorem Wedged.next {pages : CodePages} {event : Event} (wedged : core.Wedged)
    (quiet : ticks event = false) : (core.step pages event).Wedged := by
  obtain ⟨unloaded, closed⟩ := wedged
  cases step_effect pages core event with
  | same phase loaded =>
    refine ⟨loaded.trans unloaded, ?_⟩
    unfold LoadingClient.closed
    rw [phase]
    exact closed
  | menu startup =>
    unfold LoadingClient.closed at closed
    rw [startup] at closed
    cases closed
  | gap old _ accepted =>
    unfold acceptsGap at accepted
    unfold LoadingClient.closed at closed
    cases found : core.client.clientPhase with
    | Connected => rw [found] at accepted; cases accepted
    | Connecting => rw [found] at accepted; cases accepted
    | _ => rw [found] at closed; cases closed
  | detected found _ _ loaded =>
    rcases found with ⟨view, -, open'⟩ | ⟨view, rfl⟩
    · exact absurd (closed.symm.trans open') (by decide)
    · have same : core.step pages (.gameTick view) = core := by
        show core.onGameTick view = core
        unfold onGameTick
        rw [show view.playerBaseValid = false from quiet, Bool.and_false]
        rfl
      rw [same, unloaded] at loaded
      cases loaded
  | network _ shut loaded => exact ⟨loaded.trans unloaded, shut⟩
  | ready loaded => exact absurd (loaded.symm.trans unloaded) (by decide)

/-- **No order of attempts, answers, losses, gaps and polls gets a wedged client into its game.** -/
theorem Wedged.run (pages : CodePages) (wedged : core.Wedged) {events : List Event}
    (quiet : ∀ event ∈ events, ticks event = false) : ((machine pages).run core events).Wedged := by
  induction events generalizing core with
  | nil => exact wedged
  | cons event rest ih =>
    exact ih (wedged.next (quiet event List.mem_cons_self))
      fun other inside => quiet other (List.mem_cons_of_mem _ inside)

/-- What can be said of every run. -/
structure Detection (pages : CodePages) (start : LoadingClient) (events : List Event) : Prop where
  /-- a state detects its load exactly if the game has loaded, nothing was counted or its phase is
  none of the two of a connection -/
  state : ((machine pages).run start events).Detects
    ↔ (((machine pages).run start events).client.gameLoaded = false →
        0 < ((machine pages).run start events).loadingCreateCount →
        ((machine pages).run start events).client.clientPhase ≠ .Connected
          ∧ ((machine pages).run start events).client.clientPhase ≠ .Connecting)
  /-- the network waits for each load, and no state has one that cannot be detected -/
  patient : (machine pages).Along Patient start events
    ↔ ∀ count, ((machine pages).run start (events.take count)).Polled
  detects : (machine pages).Along Patient start events → ((machine pages).run start events).Detects
  /-- once there is one, it stays, unless a tick finds the base of the player -/
  stuck : ∀ more, ((machine pages).run start events).Wedged →
    (∀ event ∈ more, ticks event = false) → ((machine pages).run start (events ++ more)).Wedged

/-- **A poll detects the end of a load exactly in the phases that are not those of a connection, and
all loads are detected where the network waits for them.** -/
theorem load_detection (pages : CodePages) (autoConnect : Bool) (events : List Event) :
    Detection pages (boot autoConnect) events := by
  have exact' : (machine pages).Along Patient (boot autoConnect) events
      ↔ ∀ count, Polled ((machine pages).run (boot autoConnect) (events.take count)) :=
    Machine.along_iff (fun core event patient polled => polled.next patient)
      (fun core event _ after => Polled.patient after) (fun _ => rfl)
  refine ⟨?_, exact', fun patient => detects_iff.mpr fun unloaded _ => ?_, fun more wedged quiet => ?_⟩
  · rw [detects_iff]
    refine imp_congr_right fun _ => imp_congr_right fun _ => ?_
    unfold closed
    rw [Bool.or_eq_false_iff, decide_eq_false_iff_not, decide_eq_false_iff_not]
  · have last := exact'.mp patient events.length
    rw [List.take_length] at last
    exact last unloaded
  · rw [Machine.run_append]
    exact wedged.run pages quiet

/-! ### Three clients -/

def loads : List Event := [.loadingGap [], .characterCreate 20000 false]

def acknowledged : Event :=
  .receive ⟨.handshakeAck ⟨1, 0, lit 12 1, 0, 16, 1⟩, lit 1 1, lit 1 1, fun _ => lit 1 1⟩

def rejected : Event :=
  .receive ⟨.handshakeReject 1 [], lit 1 1, lit 1 1, fun _ => lit 1 1⟩

def connectedFromMenu : List Event :=
  [.present, .menuConnect true, .connects, .checkResult false, acknowledged] ++ loads

def turnedAway : List Event :=
  [.present, .menuConnect true, .connects, .checkResult false, rejected, .connectionLost] ++ loads

def unreachable : List Event :=
  [.present, .menuConnect true, .connectionLost, .checkResult true] ++ loads

/-- **Their loads are over, and no poll will tell.** -/
theorem load_detection_fails :
    ¬ ((machine GameClient.plainPages).run (boot false) connectedFromMenu).Detects
      ∧ ¬ ((machine GameClient.plainPages).run (boot false) turnedAway).Detects
      ∧ ¬ ((machine GameClient.plainPages).run (boot false) unreachable).Detects := by
  rw [detects_iff, detects_iff, detects_iff]
  refine ⟨?_, ?_, ?_⟩
  · exact fun open' => (nomatch open' (by decide +kernel) (by decide +kernel))
  · exact fun open' => (nomatch open' (by decide +kernel) (by decide +kernel))
  · exact fun open' => (nomatch open' (by decide +kernel) (by decide +kernel))

end LoadingClient

end KenshiMP
