/-
**When the guard of a load holds until the load is over, and when nothing of the old world is left.**

The flag follows the phase, so it holds for a whole load exactly if the phase stays `Loading`: no
attempt to connect starts and no acknowledgement arrives in between. And a gap clears the registry in
one phase only, when a loaded game has no connection and makes none; in any other phase the objects of
the old world stay in it.

`loading_guard`: along a run the guard holds and the registries are clear exactly if each step is
`Clear`.
-/

import KenshiMP.Client.LoadingFacts

namespace KenshiMP

open Assoc

/-- A registry has the address of a game object, on one side or on the other. -/
def EntityRegistry.Holds (registry : EntityRegistry) (object : GameObject) : Prop :=
  object ≠ 0 ∧ ((∃ id, registry.getGameObject id = object)
    ∨ ∃ id, registry.ptrToId.lookup object = some id)

theorem EntityRegistry.clear_holds (registry : EntityRegistry) (object : GameObject) :
    ¬ registry.clear.Holds object := by
  rintro ⟨nonzero, ⟨id, linked⟩ | ⟨id, linked⟩⟩
  · exact nonzero linked.symm
  · cases linked

namespace LoadingClient

/-! ### A client and its loads -/

/-- A client, with what its past says about the present: whether a load is under way, that is, its gap
was accepted and `onGameLoaded` has not run since, and the objects of the world a gap has just
replaced. -/
structure Watch where
  core : LoadingClient
  pending : Bool := false
  old : List GameObject := []

namespace Watch

variable (watch : Watch)

def next (pages : CodePages) (event : Event) : Watch where
  core := watch.core.step pages event
  pending :=
    match event with
    | .loadingGap _ => watch.pending || watch.core.acceptsGap
    | event => watch.pending && !(watch.core.step pages event).client.gameLoaded
  old :=
    match event with
    | .loadingGap old => old
    | _ => []

/-- The machine of a client and its loads; it has no outputs. -/
def machine (pages : CodePages) : Machine Watch Event Empty where
  step watch event := (watch.next pages event, [])

/-- The flag is up during a load, and the old world is gone after a gap. -/
structure Guarded : Prop where
  flag : watch.pending = true → watch.core.loadingState = true
  cleared : ∀ object ∈ watch.old, ¬ watch.core.client.registry.Holds object

/-- The network leaves a load alone; and a save is loaded over a world in the one phase in which the
gap clears the registry, or with nothing of the world in it. -/
structure Clear (event : Event) : Prop where
  alone : watch.pending = true → watch.core.networkMoves event = false
  replaced : ∀ old, event = .loadingGap old → watch.core.client.clientPhase = .GameReady
    ∨ ∀ object ∈ old, ¬ watch.core.client.registry.Holds object

/-! ### One step -/

/-- What holds of every client. -/
structure Sound : Prop where
  bridged : watch.core.Bridged
  unloaded : watch.pending = true → watch.core.client.gameLoaded = false

variable {watch}

theorem pending_next (pages : CodePages) {event : Event} (other : ∀ old, event ≠ .loadingGap old) :
    (watch.next pages event).pending
      = (watch.pending && !(watch.core.step pages event).client.gameLoaded) := by
  cases event with
  | loadingGap old => exact absurd rfl (other old)
  | _ => rfl

theorem Sound.next (pages : CodePages) (sound : watch.Sound) (event : Event) :
    (watch.next pages event).Sound := by
  refine ⟨sound.bridged.step pages event, fun pending => ?_⟩
  by_cases gap : ∃ old, event = .loadingGap old
  · obtain ⟨old, rfl⟩ := gap
    show watch.core.onLoadingGapDetected.client.gameLoaded = false
    unfold onLoadingGapDetected
    split_ifs with accepted
    · exact (gap_accepted accepted).2
    · have before : (watch.pending || watch.core.acceptsGap) = true := pending
      rw [Bool.not_eq_true _ |>.mp accepted, Bool.or_false] at before
      exact sound.unloaded before
  · rw [pending_next pages fun old same => gap ⟨old, same⟩, Bool.and_eq_true, Bool.not_eq_true'] at pending
    exact pending.2

/-- During a load the flag is up exactly if the phase is that of a load. -/
theorem Sound.flag_iff (sound : watch.Sound) :
    watch.core.loadingState = true ↔ watch.core.client.clientPhase = .Loading := by
  rw [show watch.core.loadingState = _ from sound.bridged, decide_eq_true_iff]

theorem Guarded.next (pages : CodePages) (sound : watch.Sound) (guarded : watch.Guarded)
    {event : Event} (clear : watch.Clear event) : (watch.next pages event).Guarded := by
  have after := sound.next pages event
  by_cases gap : ∃ old, event = .loadingGap old
  · obtain ⟨old, rfl⟩ := gap
    refine ⟨fun pending => ?_, fun object inside => ?_⟩
    · show watch.core.onLoadingGapDetected.loadingState = true
      by_cases accepted : watch.core.acceptsGap = true
      · refine after.flag_iff.mpr ?_
        show watch.core.onLoadingGapDetected.client.clientPhase = .Loading
        unfold onLoadingGapDetected
        rw [if_pos accepted]
        exact (gap_accepted accepted).1
      · have before : (watch.pending || watch.core.acceptsGap) = true := pending
        rw [Bool.not_eq_true _ |>.mp accepted, Bool.or_false] at before
        unfold onLoadingGapDetected
        rw [if_neg accepted]
        exact guarded.flag before
    · show ¬ watch.core.onLoadingGapDetected.client.registry.Holds object
      rw [gap_registry]
      split_ifs with ready
      · exact watch.core.client.registry.clear_holds object
      · exact (clear.replaced old rfl).resolve_left ready object inside
  · have other : ∀ old, event ≠ .loadingGap old := fun old same => gap ⟨old, same⟩
    refine ⟨fun pending => after.flag_iff.mpr ?_, fun object inside => ?_⟩
    · rw [pending_next pages other, Bool.and_eq_true, Bool.not_eq_true'] at pending
      obtain ⟨before, unloaded⟩ := pending
      have loading := sound.flag_iff.mp (guarded.flag before)
      show (watch.core.step pages event).client.clientPhase = .Loading
      -- whatever else happens to the phase needs the network, or a game that has loaded
      cases step_effect pages watch.core event with
      | same phase => exact phase.trans loading
      | menu startup => exact absurd (startup.symm.trans loading) (by decide)
      | gap old event_eq => exact absurd event_eq (other old)
      | detected _ _ _ loaded => exact absurd (loaded.symm.trans unloaded) (by decide)
      | network moves => exact absurd (moves.symm.trans (clear.alone before)) (by decide)
      | ready _ _ loaded => exact absurd (loaded.symm.trans unloaded) (by decide)
    · cases event with
      | loadingGap old => exact absurd rfl (other old)
      | _ => cases inside

/-- Nothing less will do. -/
theorem Guarded.clear {pages : CodePages} (sound : watch.Sound) {event : Event}
    (guarded : (watch.next pages event).Guarded) : watch.Clear event := by
  refine ⟨fun pending => ?_, ?_⟩
  · by_contra moved
    have moves : watch.core.networkMoves event = true := Bool.not_eq_false _ |>.mp moved
    obtain ⟨closed, loaded⟩ : (watch.core.step pages event).closed = true
        ∧ (watch.core.step pages event).client.gameLoaded = watch.core.client.gameLoaded :=
      step_moves moves
    have other : ∀ old, event ≠ .loadingGap old := fun old same => by
      rw [same] at moves
      cases moves
    have still : (watch.next pages event).pending = true := by
      rw [pending_next pages other, pending, loaded, sound.unloaded pending]
      rfl
    have loading := (sound.next pages event).flag_iff.mp (guarded.flag still)
    have phase : (watch.core.step pages event).client.clientPhase = .Loading := loading
    unfold LoadingClient.closed at closed
    rw [phase] at closed
    cases closed
  · rintro old rfl
    by_cases ready : watch.core.client.clientPhase = .GameReady
    · exact .inl ready
    · refine .inr fun object inside => ?_
      have cleared : ¬ watch.core.onLoadingGapDetected.client.registry.Holds object :=
        guarded.cleared object inside
      rwa [gap_registry, if_neg ready] at cleared

/-! ### A run -/

def boot (autoConnect : Bool) : Watch := { core := LoadingClient.boot autoConnect }

theorem boot_sound (autoConnect : Bool) : (boot autoConnect).Sound :=
  ⟨rfl, fun pending => (nomatch pending)⟩

/-- **The guard holds for every load of a run, and no gap leaves anything of the old world, exactly if
the network leaves each load alone and each save is loaded from a ready game.** -/
theorem loading_guard (pages : CodePages) (autoConnect : Bool) (events : List Event) :
    (∀ count, ((machine pages).run (boot autoConnect) (events.take count)).Guarded)
      ↔ (machine pages).Along Clear (boot autoConnect) events := by
  have sound (count : Nat) : ((machine pages).run (boot autoConnect) (events.take count)).Sound :=
    Machine.run_invariant_always (fun watch event sound => sound.next pages event)
      (boot_sound autoConnect) _
  have start : (boot autoConnect).Guarded :=
    ⟨fun pending => (nomatch pending), fun object inside => (nomatch inside)⟩
  refine Iff.trans (forall_congr' fun count => ?_) (Machine.along_iff (M := machine pages)
    (motive := fun watch => watch.Sound ∧ watch.Guarded) ?_ ?_ ?_).symm
  · exact ⟨fun guarded => ⟨sound count, guarded⟩, And.right⟩
  · exact fun watch event clear both =>
      ⟨both.1.next pages event, both.2.next pages both.1 clear⟩
  · exact fun watch event both after => Guarded.clear both.1 after.2
  · exact ⟨boot_sound autoConnect, start⟩

/-! ### The two halves -/

/-- Connecting while a save is loading. -/
def impatient : List Event := [.present, .loadingGap [], .menuConnect true]

def squadLeader : GameObject := 0x20000

def firstLoad : List Event :=
  [.present, .loadingGap [], .characterCreate 1000 false,
    .poll ⟨5000, true, true, 1, [], false⟩, .registry (.register squadLeader EntityType.NPC 0)]

/-- Loading another save while connected. -/
def reloaded : List Event :=
  firstLoad ++ [.menuConnect true, .connects, .checkResult false,
    .receive ⟨.handshakeAck ⟨1, 0, lit 12 1, 0, 16, 1⟩, lit 1 1, lit 1 1, fun _ => lit 1 1⟩,
    .loadingGap [squadLeader]]

/-- **The guard goes down in the middle of a load, and the old world stays in the registry.** -/
theorem loading_guard_fails :
    (∃ events, ((machine GameClient.plainPages).run (boot false) events).pending = true
        ∧ ((machine GameClient.plainPages).run (boot false) events).core.loadingState = false)
      ∧ ∃ events, ∃ object ∈ ((machine GameClient.plainPages).run (boot false) events).old,
        ((machine GameClient.plainPages).run (boot false) events).core.client.registry.Holds object := by
  refine ⟨⟨impatient, by decide +kernel, by decide +kernel⟩, reloaded, squadLeader, ?_, ?_, ?_⟩
  · exact List.mem_singleton_self _
  · decide
  · exact .inl ⟨0x10000000, by decide +kernel⟩

end Watch

end LoadingClient

end KenshiMP
