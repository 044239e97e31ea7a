/-
**What a step of a loading client does to the phase, and to the flag that follows it.**

`step_effect` sorts the steps: the network moves the phase of a client (`networkMoves`), a load starts
or is detected, a loaded game gets ready again, or nothing of the kind happens. The flag says in every
state whether the phase is `Loading` (`Bridged.step`).
-/

import KenshiMP.Client.IncomingFacts
import KenshiMP.Client.Loading

namespace KenshiMP

open Wire (Bytes)

namespace LoadingClient

variable (core : LoadingClient)

/-! ### The flag -/

/-- The flag follows the phase. -/
def Bridged : Prop := core.loadingState = decide (core.client.clientPhase = .Loading)

variable {core}

theorem bridge_eq (old new : ClientPhase) :
    bridge old new (decide (old = .Loading)) = decide (new = .Loading) := by
  unfold bridge
  split_ifs with same loading left
  · rw [same]
  · rw [decide_eq_true loading]
  · rw [decide_eq_false loading]
  · rw [decide_eq_false left, decide_eq_false loading]

theorem Bridged.bridge (bridged : core.Bridged) (phase : ClientPhase) :
    LoadingClient.bridge core.client.clientPhase phase core.loadingState = decide (phase = .Loading) := by
  rw [show core.loadingState = _ from bridged, bridge_eq]

theorem Bridged.transitionTo (bridged : core.Bridged) (phase : ClientPhase) :
    (core.transitionTo phase).Bridged := bridged.bridge phase

/-- Either way the flag follows. -/
theorem Bridged.ite {wanted : Prop} [Decidable wanted] {yes no : LoadingClient} (first : yes.Bridged)
    (second : no.Bridged) : (if wanted then yes else no).Bridged := by
  split_ifs
  · exact first
  · exact second

theorem Bridged.setDisconnected (bridged : core.Bridged) : core.setDisconnected.Bridged := by
  unfold LoadingClient.setDisconnected Bridged
  simp only [GameClient.setDisconnected]
  split_ifs
  · exact bridged.bridge .GameReady
  · exact bridged

theorem Bridged.connectAsync (bridged : core.Bridged) (starts : Bool) :
    (core.connectAsync starts).Bridged := by
  unfold LoadingClient.connectAsync
  split_ifs
  · exact bridged.transitionTo .Connecting
  · exact bridged

theorem foldl_linkLate_sameGame (client : GameClient) (ids : List EntityID) :
    client.SameGame (ids.foldl GameClient.linkLate client) :=
  GameClient.sameGame_foldl (fun client id => client.linkLate_sameGame id) ids

theorem onGameLoaded_phase (client : GameClient) (connected : Bool)
    (characters : List (Bytes × GameObject)) (before : client.gameLoaded = false) :
    (client.onGameLoaded connected characters).clientPhase = .GameReady
      ∧ (client.onGameLoaded connected characters).gameLoaded = true := by
  unfold GameClient.onGameLoaded
  rw [before]
  simp only [Bool.false_eq_true, if_false]
  split_ifs
  · have same := foldl_linkLate_sameGame
      { client.enterGame .GameReady with characters := characters }
      (GameClient.registry
        { client.enterGame .GameReady with characters := characters }).getRemoteEntities
    exact ⟨same.phase, same.loaded⟩
  · exact ⟨rfl, rfl⟩

theorem Bridged.onGameLoaded (bridged : core.Bridged) (characters : List (Bytes × GameObject))
    (starts : Bool) : (core.onGameLoaded characters starts).Bridged := by
  have ready : LoadingClient.bridge core.client.clientPhase .GameReady core.loadingState = false :=
    bridged.bridge .GameReady
  unfold LoadingClient.onGameLoaded
  split_ifs with loaded wanted
  · exact bridged
  · exact ready
  · obtain ⟨phase, -⟩ := onGameLoaded_phase core.client core.connected characters
      (Bool.not_eq_true _ |>.mp loaded)
    show LoadingClient.bridge _ _ _ = decide (GameClient.clientPhase _ = _)
    rw [phase]
    exact ready

/-! ### A gap -/

/-- A gap that counts starts a load. -/
theorem gap_accepted (accepted : core.acceptsGap = true) :
    core.client.onLoadingGapDetected.clientPhase = .Loading
      ∧ core.client.onLoadingGapDetected.gameLoaded = false := by
  unfold acceptsGap at accepted
  unfold GameClient.onLoadingGapDetected
  cases found : core.client.clientPhase with
  | MainMenu => exact ⟨rfl, rfl⟩
  | GameReady => exact ⟨rfl, rfl⟩
  | _ => rw [found] at accepted; cases accepted

/-- It clears the registry of a game that was ready. -/
theorem gap_registry : core.onLoadingGapDetected.client.registry
    = if core.client.clientPhase = .GameReady then core.client.registry.clear
      else core.client.registry := by
  unfold onLoadingGapDetected acceptsGap GameClient.onLoadingGapDetected
  cases core.client.clientPhase <;> rfl

/-! ### The flag after a step -/

theorem Bridged.step (pages : CodePages) (bridged : core.Bridged) (event : Event) :
    (core.step pages event).Bridged := by
  cases event with
  | present => exact .ite (bridged.transitionTo .MainMenu) bridged
  | loadingGap old =>
    show core.onLoadingGapDetected.Bridged
    unfold onLoadingGapDetected
    split_ifs with accepted
    · show LoadingClient.bridge _ _ _ = decide (GameClient.clientPhase _ = _)
      rw [(gap_accepted accepted).1]
      exact bridged.bridge .Loading
    · exact bridged
  | characterCreate now captured => exact .ite bridged bridged
  | poll view =>
    show (core.pollForGameLoad view).Bridged
    unfold pollForGameLoad
    simp only
    split_ifs
    · exact bridged
    · exact bridged
    all_goals first | exact Bridged.onGameLoaded (by exact bridged) _ _ | exact bridged
  | gameTick view => exact .ite (bridged.onGameLoaded view.characters view.starts) bridged
  | autoConnects starts => exact .ite (bridged.connectAsync starts) bridged
  | retryConnect starts => exact .ite (Bridged.connectAsync (by exact bridged) starts) bridged
  | menuConnect starts =>
    exact .ite (bridged.connectAsync starts) (Bridged.connectAsync (by exact bridged.setDisconnected) starts)
  | commandConnect starts =>
    exact .ite (Bridged.connectAsync (by exact bridged.setDisconnected) starts) (bridged.connectAsync starts)
  | connects => exact .ite bridged bridged
  | connectionLost => exact bridged
  | checkResult exhausted =>
    show (core.checkResult exhausted).Bridged
    unfold checkResult
    cases core.network with
    | connected => exact .ite bridged bridged
    | connecting => exact .ite bridged bridged
    | idle => exact .ite (.ite (.ite (bridged.transitionTo .GameReady) bridged) bridged) bridged
  | receive arrival => exact .ite (bridged.bridge _) bridged
  | lossNoticed => exact .ite bridged.setDisconnected bridged
  | disconnect => exact .ite bridged.setDisconnected bridged
  | resumeForNetwork => exact .ite bridged bridged
  | settingsSaved autoConnect => exact bridged
  | registry op => exact bridged

/-! ### What a step does to the phase -/

variable (core)

/-- The network moves the phase: an attempt starts, or an acknowledgement arrives. -/
def networkMoves : Event → Bool
  | .autoConnects starts =>
    core.client.gameLoaded && !core.overlayConnecting && core.network = .idle && starts
  | .retryConnect starts =>
    core.retryPending && !core.overlayConnecting && core.network = .idle && starts
  | .menuConnect starts => starts
  | .commandConnect starts => (core.connected || core.network = .idle) && starts
  | .receive arrival => core.network = .connected && Guest.isAck arrival.msg
  | _ => false

/-- The phases in which a poll does nothing. -/
def closed : Bool :=
  core.client.clientPhase = .Connected || core.client.clientPhase = .Connecting

/-- What became of the phase, and of the flag of the loaded game. -/
inductive Effect (event : Event) (after : LoadingClient) : Prop
  | same (phase : after.client.clientPhase = core.client.clientPhase)
      (loaded : after.client.gameLoaded = core.client.gameLoaded)
      (moves : core.networkMoves event = false)
  | menu (before : core.client.clientPhase = .Startup) (phase : after.client.clientPhase = .MainMenu)
      (loaded : after.client.gameLoaded = core.client.gameLoaded)
      (moves : core.networkMoves event = false)
  | gap (old : List GameObject) (event_eq : event = .loadingGap old)
      (accepted : core.acceptsGap = true) (phase : after.client.clientPhase = .Loading)
      (loaded : after.client.gameLoaded = false)
  | detected (found : (∃ view, event = .poll view ∧ core.closed = false) ∨ ∃ view, event = .gameTick view)
      (before : core.client.gameLoaded = false)
      (phase : after.client.clientPhase = .GameReady ∨ after.client.clientPhase = .Connecting)
      (loaded : after.client.gameLoaded = true)
  | network (moves : core.networkMoves event = true) (closed : after.closed = true)
      (loaded : after.client.gameLoaded = core.client.gameLoaded)
  | ready (before : core.client.gameLoaded = true) (phase : after.client.clientPhase = .GameReady)
      (loaded : after.client.gameLoaded = true) (moves : core.networkMoves event = false)

variable {core}

section Phases

variable (core : LoadingClient)

theorem setDisconnected_phase :
    core.setDisconnected.client.gameLoaded = core.client.gameLoaded
      ∧ core.setDisconnected.client.clientPhase
        = if core.client.gameLoaded then .GameReady else core.client.clientPhase := ⟨rfl, rfl⟩

theorem connectAsync_phase (starts : Bool) :
    (core.connectAsync starts).client.gameLoaded = core.client.gameLoaded
      ∧ (core.connectAsync starts).client.clientPhase
        = if core.network = .idle && starts then .Connecting else core.client.clientPhase := by
  unfold connectAsync
  split_ifs <;> exact ⟨rfl, rfl⟩

theorem onGameLoaded_effect (characters : List (Bytes × GameObject))
    (starts : Bool) (before : core.client.gameLoaded = false) :
    ((core.onGameLoaded characters starts).client.clientPhase = .GameReady
        ∨ (core.onGameLoaded characters starts).client.clientPhase = .Connecting)
      ∧ (core.onGameLoaded characters starts).client.gameLoaded = true := by
  obtain ⟨phase, loaded⟩ := onGameLoaded_phase core.client core.connected characters before
  unfold LoadingClient.onGameLoaded
  rw [if_neg (by rw [before]; exact Bool.false_ne_true)]
  simp only
  split_ifs
  · exact ⟨.inr rfl, loaded⟩
  · exact ⟨.inl phase, loaded⟩

/-- What a poll does to a game that has not loaded: nothing in a closed phase, and in an open one it
detects the load, or it only counts. -/
theorem poll_cases (view : PollView) :
    core.client.gameLoaded = false ∧ core.closed = false
        ∧ (∃ waited : LoadingClient, waited.client = core.client
          ∧ core.pollForGameLoad view = waited.onGameLoaded view.characters view.starts)
      ∨ (core.pollForGameLoad view).client = core.client := by
  unfold pollForGameLoad closed
  simp only
  generalize (if core.needPollReset then 0 else core.noCharCount) = noCharCount
  by_cases loaded : core.client.gameLoaded = true
  · rw [if_pos loaded]
    exact .inr rfl
  · rw [if_neg loaded]
    by_cases shut : (core.client.clientPhase = .Connected || core.client.clientPhase = .Connecting) = true
    · rw [if_pos shut]
      exact .inr rfl
    · rw [if_neg shut]
      have first : core.client.gameLoaded = false := Bool.not_eq_true _ |>.mp loaded
      have second := Bool.not_eq_true _ |>.mp shut
      split_ifs
      · exact .inl ⟨first, second, _, by exact rfl, rfl⟩
      · exact .inr rfl
      · exact .inl ⟨first, second, _, by exact rfl, rfl⟩
      · exact .inr rfl

end Phases

theorem connectAsync_effect {core before : LoadingClient} {event : Event} {starts : Bool}
    (phase : before.client.clientPhase = core.client.clientPhase
      ∨ core.client.gameLoaded = true ∧ before.client.clientPhase = .GameReady)
    (loaded : before.client.gameLoaded = core.client.gameLoaded)
    (moves : core.networkMoves event = (decide (before.network = .idle) && starts)) :
    core.Effect event (before.connectAsync starts) := by
  obtain ⟨loaded', phase'⟩ := before.connectAsync_phase starts
  by_cases dials : (decide (before.network = .idle) && starts) = true
  · rw [if_pos dials] at phase'
    refine .network (moves.trans dials) ?_ (loaded'.trans loaded)
    unfold closed
    rw [phase']
    rfl
  · rw [if_neg dials] at phase'
    have quiet : core.networkMoves event = false := moves.trans (Bool.not_eq_true _ |>.mp dials)
    rcases phase with same | ⟨yes, ready⟩
    · exact .same (phase'.trans same) (loaded'.trans loaded) quiet
    · exact .ready yes (phase'.trans ready) ((loaded'.trans loaded).trans yes) quiet

theorem setDisconnected_effect (core : LoadingClient) :
    core.setDisconnected.client.clientPhase = core.client.clientPhase
      ∨ core.client.gameLoaded = true ∧ core.setDisconnected.client.clientPhase = .GameReady := by
  rw [(core.setDisconnected_phase).2]
  split_ifs with loaded
  · exact .inr ⟨loaded, rfl⟩
  · exact .inl rfl

theorem Effect.disconnected {core after : LoadingClient} {event : Event}
    (client : after.client = core.setDisconnected.client)
    (moves : core.networkMoves event = false) : core.Effect event after := by
  have loaded : after.client.gameLoaded = core.client.gameLoaded := by
    rw [client]
    rfl
  rcases core.setDisconnected_effect with same | ⟨yes, ready⟩
  · exact .same ((congrArg _ client).trans same) loaded moves
  · exact .ready yes ((congrArg _ client).trans ready) (loaded.trans yes) moves

theorem Effect.still {core after : LoadingClient} {event : Event}
    (client : after.client = core.client) (moves : core.networkMoves event = false) :
    core.Effect event after :=
  .same (congrArg _ client) (congrArg _ client) moves

/-! ### Every step -/

section Steps

variable (core : LoadingClient)

theorem autoConnects_effect (starts : Bool) :
    core.Effect (.autoConnects starts) (core.autoConnects starts) := by
  unfold autoConnects
  split_ifs with wanted
  · exact connectAsync_effect (.inl rfl) rfl (by
      show (_ && _ && _) = _
      rw [wanted]
      rfl)
  · exact .still rfl (by
      show (_ && _ && _) = _
      rw [Bool.not_eq_true _ |>.mp wanted]
      rfl)

theorem retryConnect_effect (starts : Bool) :
    core.Effect (.retryConnect starts) (core.retryConnect starts) := by
  unfold retryConnect
  split_ifs with wanted
  · exact connectAsync_effect (.inl rfl) rfl (by
      show (_ && _ && _) = _
      rw [wanted]
      rfl)
  · exact .still rfl (by
      show (_ && _ && _) = _
      rw [Bool.not_eq_true _ |>.mp wanted]
      rfl)

theorem menuConnect_effect (starts : Bool) : core.Effect (.menuConnect starts) (core.menuConnect starts) := by
  unfold menuConnect
  split_ifs with idle
  · exact connectAsync_effect (.inl rfl) rfl (by
      rw [decide_eq_true idle]
      rfl)
  · exact connectAsync_effect (by exact core.setDisconnected_effect) rfl rfl

theorem commandConnect_effect (starts : Bool) :
    core.Effect (.commandConnect starts) (core.commandConnect starts) := by
  unfold commandConnect
  split_ifs with connected
  · exact connectAsync_effect (by exact core.setDisconnected_effect) rfl (by
      show ((_ || _) && _) = _
      rw [connected]
      rfl)
  · exact connectAsync_effect (.inl rfl) rfl (by
      show ((_ || _) && _) = _
      rw [Bool.not_eq_true _ |>.mp connected]
      rfl)

/-- Only the last failure moves the phase, and only of a loaded game. -/
theorem checkResult_effect (exhausted : Bool) :
    core.Effect (.checkResult exhausted) (core.checkResult exhausted) := by
  unfold checkResult
  cases core.network with
  | connected =>
    simp only
    split_ifs <;> exact .still rfl rfl
  | connecting => split_ifs <;> exact .still rfl rfl
  | idle =>
    simp only
    split_ifs with waits given loaded
    · exact .ready loaded rfl loaded rfl
    · exact .still rfl rfl
    · exact .still rfl rfl
    · exact .still rfl rfl

/-- An acknowledgement moves the phase, and a refusal that of a loaded game. -/
theorem receive_effect (pages : CodePages) (arrival : Arrival) :
    core.Effect (.receive arrival) (core.receive pages arrival) := by
  obtain ⟨loaded, phase⟩ := core.client.handlePacket_phase pages arrival
  unfold receive
  split_ifs with connected
  · have moves : core.networkMoves (.receive arrival) = Guest.isAck arrival.msg := by
      show (decide _ && _) = _
      rw [decide_eq_true connected]
      rfl
    cases found : arrival.msg with
    | handshakeAck ack =>
      rw [found] at phase moves
      refine .network moves ?_ loaded
      show (decide (GameClient.clientPhase _ = _) || _) = true
      rw [phase]
      rfl
    | handshakeReject code text =>
      rw [found] at phase moves
      by_cases yes : core.client.gameLoaded = true
      · exact .ready yes (phase.trans (if_pos yes)) (loaded.trans yes) moves
      · exact .same (phase.trans (if_neg yes)) loaded moves
    | _ =>
      rw [found] at phase moves
      exact .same phase loaded moves
  · refine .still rfl ?_
    show (decide _ && _) = _
    rw [decide_eq_false connected]
    rfl

end Steps

/-- **Every step is one of these.** -/
theorem step_effect (pages : CodePages) (core : LoadingClient) (event : Event) :
    core.Effect event (core.step pages event) := by
  cases event with
  | present =>
    show core.Effect _ core.onPresent
    unfold onPresent
    split_ifs with startup
    · exact .menu startup rfl rfl rfl
    · exact .still rfl rfl
  | loadingGap old =>
    show core.Effect _ core.onLoadingGapDetected
    unfold onLoadingGapDetected
    split_ifs with accepted
    · exact .gap old rfl accepted (gap_accepted accepted).1 (gap_accepted accepted).2
    · exact .still rfl rfl
  | characterCreate now captured =>
    refine .still (show (core.onCharacterCreate now captured).client = _ from ?_) rfl
    unfold onCharacterCreate
    split_ifs <;> rfl
  | poll view =>
    rcases core.poll_cases view with ⟨before, open', waited, same, detected⟩ | same
    · obtain ⟨phase, loaded⟩ := waited.onGameLoaded_effect view.characters view.starts
        (by rw [same]; exact before)
      rw [← detected] at phase loaded
      exact .detected (.inl ⟨view, rfl, open'⟩) before phase loaded
    · exact .still same rfl
  | gameTick view =>
    show core.Effect _ (core.onGameTick view)
    unfold onGameTick
    split_ifs with found
    · rw [Bool.and_eq_true, Bool.and_eq_true, Bool.not_eq_true'] at found
      obtain ⟨phase, loaded⟩ := core.onGameLoaded_effect view.characters view.starts found.1.2
      exact .detected (.inr ⟨view, rfl⟩) found.1.2 phase loaded
    · exact .still rfl rfl
  | autoConnects starts => exact core.autoConnects_effect starts
  | retryConnect starts => exact core.retryConnect_effect starts
  | menuConnect starts => exact core.menuConnect_effect starts
  | commandConnect starts => exact core.commandConnect_effect starts
  | connects =>
    refine .still (show (if core.network = .connecting then { core with network := .connected }
      else core : LoadingClient).client = _ from ?_) rfl
    split_ifs <;> rfl
  | connectionLost => exact .still rfl rfl
  | checkResult exhausted => exact core.checkResult_effect exhausted
  | receive arrival => exact core.receive_effect pages arrival
  | lossNoticed =>
    show core.Effect _ core.lossNoticed
    unfold lossNoticed
    split_ifs
    · exact .disconnected rfl rfl
    · exact .still rfl rfl
  | disconnect =>
    show core.Effect _ core.disconnect
    unfold disconnect
    split_ifs
    · exact .disconnected rfl rfl
    · exact .still rfl rfl
  | resumeForNetwork =>
    refine .still (show core.resumeForNetwork.client = _ from ?_) rfl
    unfold resumeForNetwork
    split_ifs <;> rfl
  | settingsSaved autoConnect => exact .still rfl rfl
  | registry op => exact .same rfl rfl rfl

/-- Where the network moves the phase, it moves it into a closed one. -/
theorem step_moves {pages : CodePages} {event : Event} (moves : core.networkMoves event = true) :
    (core.step pages event).closed = true
      ∧ (core.step pages event).client.gameLoaded = core.client.gameLoaded := by
  cases step_effect pages core event with
  | network _ closed loaded => exact ⟨closed, loaded⟩
  | same _ _ still => exact absurd moves (by rw [still]; exact Bool.false_ne_true)
  | menu _ _ _ still => exact absurd moves (by rw [still]; exact Bool.false_ne_true)
  | ready _ _ _ still => exact absurd moves (by rw [still]; exact Bool.false_ne_true)
  | gap old event_eq =>
    rw [event_eq] at moves
    cases moves
  | detected found =>
    rcases found with ⟨view, event_eq, -⟩ | ⟨view, event_eq⟩ <;>
    · rw [event_eq] at moves
      cases moves

end LoadingClient

end KenshiMP
