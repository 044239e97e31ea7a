/-
**Whether the start barriers open.**

Players report themselves ready, for the lobby and for the game, and the server sends a start message
when all have. It looks for that in the handlers of the two reports only: a departure that leaves
ready players behind opens nothing (`barriers_fail`). `barriers_iff` says that no other step can
leave a barrier stuck, whatever the order of joins, departures and reports.
-/

import KenshiMP.Client.Packets
import KenshiMP.PlayerFates

namespace KenshiMP

open Wire (Bytes ascii)
open Assoc
open GameServer
open KenshiMP.System

/-! ### The two barriers -/

inductive Barrier where
  | game | lobby
deriving DecidableEq

namespace Barrier

/-- What a player has to report. -/
def flag : Barrier → ConnectedPlayer → Bool
  | game, player => player.isReady
  | lobby, player => player.lobbyReady

/-- The number of players it takes. -/
def least : Barrier → Nat
  | game => 2
  | lobby => 1

/-- The message that opens the barrier. -/
def starts : Barrier → S2C → Bool
  | game, .allPlayersReady => true
  | lobby, .lobbyStart _ => true
  | _, _ => false

/-- There are enough players, and all of them are ready. -/
def Met (barrier : Barrier) (players : AMap PlayerID ConnectedPlayer) : Prop :=
  barrier.least ≤ players.size
    ∧ ∀ id player, players.lookup id = some player → barrier.flag player = true

/-- The start has been broadcast in a run, when all of these players were connected and ready. -/
def AnnouncedTo (barrier : Barrier) (start : System) (events : List Event)
    (players : AMap PlayerID ConnectedPlayer) : Prop :=
  ∃ before event after, events = before ++ event :: after
    ∧ (∃ packet, Call.broadcast packet ∈ machine.emit (machine.run start before) event
      ∧ barrier.starts packet.msg = true)
    ∧ ∀ id, (players.lookup id).isSome = true → ∃ player,
      (machine.run start (before ++ [event])).server.players.lookup id = some player
        ∧ barrier.flag player = true

/-- The barrier is not stuck at the end of a run. -/
def Opens (barrier : Barrier) (start : System) (events : List Event) : Prop :=
  barrier.Met (machine.run start events).server.players →
    barrier.AnnouncedTo start events (machine.run start events).server.players

end Barrier

/-- The step takes a player out of the table: a departure, or a handshake that fails after all. -/
def Loses (sys : System) (event : Event) (id : PlayerID) : Prop :=
  (∃ peer player, Leaves sys event peer player ∧ player.id = id)
    ∨ ∃ peer name created, HandshakeAdmitted sys event peer name created
      ∧ (created.ack && created.faction) = false ∧ id = sys.server.nextPlayerId

/-- Whoever a step takes out of the table after this run leaves nobody waiting: not all the others
are ready, or they have heard so already. -/
def Barrier.LosesFreely (barrier : Barrier) (start : System) (before : List Event) (event : Event) : Prop :=
  ∀ id, Loses (machine.run start before) event id →
    barrier.Met (AList.erase id (machine.run start before).server.players) →
      barrier.AnnouncedTo start before (AList.erase id (machine.run start before).server.players)

namespace Barrier

variable {barrier : Barrier} {start : System} {events : List Event}

/-! ### Tables with the same players -/

theorem Met.congr {before after : AMap PlayerID ConnectedPlayer}
    (same : ∀ id, (after.lookup id).map barrier.flag = (before.lookup id).map barrier.flag)
    (met : barrier.Met after) : barrier.Met before := by
  have size : after.size = before.size := by
    refine AMap.size_congr fun id => ?_
    have known := congrArg Option.isSome (same id)
    rwa [Option.isSome_map, Option.isSome_map] at known
  refine ⟨size ▸ met.1, fun id player stored => ?_⟩
  have there := same id
  rw [stored] at there
  obtain ⟨other, stored', flag⟩ := Option.map_eq_some_iff.mp there
  rw [← flag]
  exact met.2 id other stored'

/-- What has been announced stays so. -/
theorem AnnouncedTo.later {players remaining : AMap PlayerID ConnectedPlayer}
    (announced : barrier.AnnouncedTo start events players)
    (fewer : ∀ id, (remaining.lookup id).isSome = true → (players.lookup id).isSome = true)
    (more : List Event) : barrier.AnnouncedTo start (events ++ more) remaining := by
  obtain ⟨before, event, after, rfl, broadcast, heard⟩ := announced
  refine ⟨before, event, after ++ more, ?_, broadcast, fun id there => heard id (fewer id there)⟩
  rw [List.append_assoc, List.cons_append]

variable {event : Event} {server : GameServer} {created : PacketCreation}

/-- A step that leaves the table as it was. -/
theorem Opens.same (opens : barrier.Opens start events)
    (same : ∀ id, ((machine.run start (events ++ [event])).server.players.lookup id).map barrier.flag
      = ((machine.run start events).server.players.lookup id).map barrier.flag) :
    barrier.Opens start (events ++ [event]) := by
  intro met
  refine (opens (met.congr same)).later (fun id there => ?_) [event]
  have known := congrArg Option.isSome (same id)
  rw [Option.isSome_map, Option.isSome_map] at known
  rwa [← known]

theorem flag_of_flags {player other : ConnectedPlayer} (same : player.flags = other.flags) :
    barrier.flag player = barrier.flag other := by
  cases barrier with
  | game => exact congrArg Prod.fst same
  | lobby => exact congrArg Prod.snd same

theorem map_flag {before after : Option ConnectedPlayer}
    (same : after.map ConnectedPlayer.flags = before.map ConnectedPlayer.flags) :
    after.map barrier.flag = before.map barrier.flag := by
  cases after with
  | none =>
    cases before with
    | none => rfl
    | some player => cases same
  | some player =>
    cases before with
    | none => cases same
    | some other => exact congrArg some (flag_of_flags (Option.some.inj same))

/-! ### The reports -/

/-- A report keeps the flag that it is not about. -/
theorem flag_updatePlayer (server : GameServer) (key : PlayerID) (f : ConnectedPlayer → ConnectedPlayer)
    (same : ∀ player, barrier.flag (f player) = barrier.flag player) (id : PlayerID) :
    ((server.updatePlayer key f).players.lookup id).map barrier.flag
      = (server.players.lookup id).map barrier.flag := by
  show (AList.lookup id (AMap.modify key f server.players)).map _ = _
  rw [AMap.lookup_modify, Option.map_map]
  congr 1
  funext player
  show barrier.flag (if id = key then f player else player) = barrier.flag player
  split_ifs
  · exact same player
  · rfl

/-- The count of the source is that of the whole table exactly if everybody is ready. -/
theorem getReadyPlayerCount_of_met
    (met : game.Met server.players) : server.getReadyPlayerCount = server.players.size := by
  unfold getReadyPlayerCount
  rw [← AMap.size_toList, List.filter_eq_self.mpr]
  intro entry inside
  exact met.2 entry.1 entry.2 (AMap.mem_toList.mp inside)

/-- A game report that completes the barrier is followed by the start. -/
theorem handlePlayerReady_starts {key : PlayerID} {player : ConnectedPlayer}
    (first : player.isReady = false) (met : game.Met (server.handlePlayerReady key player).1.players) :
    ∃ packet, Call.broadcast packet ∈ (server.handlePlayerReady key player).2
      ∧ game.starts packet.msg = true := by
  unfold handlePlayerReady at met ⊢
  rw [if_neg (by rw [first]; decide)] at met ⊢
  simp only at met ⊢
  have several : 1 < (server.updatePlayer key fun player =>
      { player with isReady := true }).players.size := met.1
  rw [getReadyPlayerCount_of_met met, decide_eq_true several, decide_eq_true rfl,
    Bool.and_self, if_pos rfl]
  exact ⟨_, List.mem_singleton_self _, rfl⟩

/-- So is a lobby report. -/
theorem handleLobbyReady_starts {key : PlayerID} {player : ConnectedPlayer}
    (met : lobby.Met (server.handleLobbyReady key player).1.players) :
    ∃ packet, Call.broadcast packet ∈ (server.handleLobbyReady key player).2
      ∧ lobby.starts packet.msg = true := by
  unfold handleLobbyReady at met ⊢
  simp only at met ⊢
  have all : ((server.updatePlayer key fun player =>
      { player with lobbyReady := true }).players.toList.all fun entry => entry.2.lobbyReady) = true :=
    List.all_eq_true.mpr fun entry inside => met.2 entry.1 entry.2 (AMap.mem_toList.mp inside)
  have some : (server.updatePlayer key fun player =>
      { player with lobbyReady := true }).players.size ≠ 0 := Nat.one_le_iff_ne_zero.mp met.1
  rw [all, decide_eq_true some, Bool.and_self, if_pos rfl]
  exact ⟨_, List.mem_append_right _ (List.mem_append_right _ (List.mem_singleton_self _)), rfl⟩

/-- A start that goes out with the last step. -/
theorem announced_now
    (broadcast : ∃ packet, Call.broadcast packet ∈ machine.emit (machine.run start events) event
      ∧ barrier.starts packet.msg = true)
    (met : barrier.Met (machine.run start (events ++ [event])).server.players) :
    barrier.AnnouncedTo start (events ++ [event]) (machine.run start (events ++ [event])).server.players := by
  refine ⟨events, event, [], rfl, broadcast, fun id there => ?_⟩
  obtain ⟨player, stored⟩ := Option.isSome_iff_exists.mp there
  exact ⟨player, stored, met.2 id player stored⟩

/-! ### One step -/

theorem run_snoc (start : System) (events : List Event) (event : Event) :
    machine.run start (events ++ [event]) = machine.next (machine.run start events) event := by
  rw [Machine.run_append]
  rfl

/-- A step that takes a player out. -/
theorem opens_lost {id : PlayerID} (loses : Loses (machine.run start events) event id)
    (freely : barrier.LosesFreely start events event)
    (left : ∀ other, (machine.run start (events ++ [event])).server.players.lookup other
      = AList.lookup other (AList.erase id (machine.run start events).server.players)) :
    barrier.Opens start (events ++ [event]) := by
  intro met
  have rest : barrier.Met (AList.erase id (machine.run start events).server.players) :=
    met.congr fun other => by rw [left]
  refine (freely id loses rest).later (fun other there => ?_) [event]
  rwa [← left]

/-- What is left of the table when a handshake fails after all. -/
theorem seatPlayer_failed {peer : Peer} {name : Bytes}
    (failed : (created.ack && created.faction) = false) (other : PlayerID) :
    (server.seatPlayer peer name created).1.players.lookup other
      = AList.lookup other (AList.erase server.nextPlayerId server.players) := by
  rw [AMap.lookup_erase_eq]
  split_ifs with same
  · have identity := (seatPlayer_spec server peer name created).players other
    rw [if_pos same, failed] at identity
    exact Option.map_eq_none_iff.mp identity
  · exact (seatPlayer_spec server peer name created).others other same

/-- With an unready newcomer no barrier is met. -/
theorem not_met_of_newcomer {peer : Peer} {name : Bytes}
    (succeeded : (created.ack && created.faction) = true) :
    ¬ barrier.Met (server.seatPlayer peer name created).1.players := by
  intro met
  have identity := (seatPlayer_spec server peer name created).players server.nextPlayerId
  rw [if_pos rfl, succeeded] at identity
  obtain ⟨player, stored, -⟩ := Option.map_eq_some_iff.mp identity
  have flags := (newcomer_standing server stored).2.1
  have ready := met.2 _ player stored
  cases barrier with
  | game => exact absurd ready (by rw [show game.flag player = false from congrArg Prod.fst flags]; decide)
  | lobby =>
    exact absurd ready (by rw [show lobby.flag player = false from congrArg Prod.snd flags]; decide)

/-- **One step.** -/
theorem Opens.next (opens : barrier.Opens start events)
    (freely : barrier.LosesFreely start events event) : barrier.Opens start (events ++ [event]) := by
  have after := run_snoc start events event
  have turn := (machine.run start events).next_turn event
  revert turn
  generalize outcomeEq : ((machine.next (machine.run start events) event).server,
    machine.emit (machine.run start events) event) = outcome
  intro turn
  have players : (machine.run start (events ++ [event])).server.players = outcome.1.players := by
    rw [after, ← outcomeEq]
  have calls : machine.emit (machine.run start events) event = outcome.2 := by rw [← outcomeEq]
  cases turn with
  | tend rolled =>
    refine opens.same fun id => ?_
    rw [players]
    exact map_flag (rolled.flags id)
  | @ready _ _ _ _ key player behind =>
    cases barrier with
    | lobby =>
      refine opens.same fun id => ?_
      rw [players]
      unfold handlePlayerReady
      split_ifs
      · rfl
      · exact flag_updatePlayer _ key (fun player => { player with isReady := true }) (fun _ => rfl) id
    | game =>
      by_cases again : player.isReady = true
      · refine opens.same fun id => ?_
        rw [players]
        unfold handlePlayerReady
        rw [if_pos again]
      · intro met
        refine announced_now ?_ met
        rw [calls]
        rw [players] at met
        exact handlePlayerReady_starts (Bool.not_eq_true _ |>.mp again) met
  | @lobby _ _ _ _ key player behind =>
    cases barrier with
    | game =>
      refine opens.same fun id => ?_
      rw [players]
      exact flag_updatePlayer _ key (fun player => { player with lobbyReady := true }) (fun _ => rfl) id
    | lobby =>
      intro met
      refine announced_now ?_ met
      rw [calls]
      rw [players] at met
      exact handleLobbyReady_starts met
  | @seatPlayer _ peer name created admitted =>
    by_cases succeeded : (created.ack && created.faction) = true
    · intro met
      rw [players] at met
      exact absurd met (not_met_of_newcomer succeeded)
    · rw [Bool.not_eq_true] at succeeded
      refine opens_lost (Or.inr ⟨peer, name, created, admitted, succeeded, rfl⟩) freely fun other => ?_
      rw [players]
      exact seatPlayer_failed succeeded other
  | @leave _ peer player leaves =>
    refine opens_lost (Or.inl ⟨peer, player, leaves, rfl⟩) freely fun other => ?_
    rw [players, AMap.lookup_erase_eq]
    exact (removePlayer_spec _ player).players other

/-! ### Steps that take a player out say nothing about the start -/

/-- No call of the list opens a barrier. -/
def Unstarting (barrier : Barrier) (calls : List Call) : Prop :=
  ∀ packet, Call.broadcast packet ∈ calls → barrier.starts packet.msg = false

theorem Unstarting.append {first second : List Call} (one : Unstarting barrier first)
    (two : Unstarting barrier second) : Unstarting barrier (first ++ second) := by
  intro packet inside
  rcases List.mem_append.mp inside with inside | inside
  · exact one packet inside
  · exact two packet inside

theorem unstarting_broadcast (channel : Nat) {msg : S2C} (other : barrier.starts msg = false) :
    Unstarting barrier (broadcast channel msg) := by
  intro packet inside
  cases List.mem_singleton.mp inside
  exact other

theorem unstarting_systemMessage (text : Bytes) : Unstarting barrier (broadcastSystemMessage text) := by
  cases barrier with
  | game => exact unstarting_broadcast _ rfl
  | lobby => exact unstarting_broadcast _ rfl

theorem unstarting_hostAssignment (id : PlayerID) :
    Unstarting barrier (broadcast KMP_CHANNEL_RELIABLE_ORDERED (.hostAssignment id)) := by
  cases barrier with
  | game => exact unstarting_broadcast _ rfl
  | lobby => exact unstarting_broadcast _ rfl

theorem unstarting_reassignHost (server : GameServer) (leavingId : PlayerID) :
    Unstarting barrier (server.reassignHost leavingId).2 := by
  unfold reassignHost
  split_ifs
  · exact fun packet inside => (nomatch inside)
  · split
    · exact fun packet inside => (nomatch inside)
    · exact (unstarting_systemMessage _).append (unstarting_hostAssignment _)

theorem unstarting_removePlayer (server : GameServer) (player : ConnectedPlayer) :
    Unstarting barrier (server.removePlayer player).2 := by
  refine Unstarting.append (Unstarting.append (fun packet inside => ?_)
    (unstarting_reassignHost _ player.id)) (unstarting_systemMessage _)
  obtain ⟨⟨id, other⟩, -, made⟩ := List.mem_filterMap.mp inside
  simp only at made
  split_ifs at made
  cases made

theorem unstarting_seatPlayer (server : GameServer) (peer : Peer) (name : Bytes)
    (failed : (created.ack && created.faction) = false) :
    Unstarting barrier (server.seatPlayer peer name created).2 := by
  intro packet inside
  unfold seatPlayer at inside
  simp only at inside
  cases ack : created.ack with
  | false =>
    rw [ack] at inside
    cases inside
  | true =>
    have faction : created.faction = false := by rwa [ack, Bool.true_and] at failed
    rw [ack, faction] at inside
    simp only [Bool.not_true, Bool.not_false, Bool.false_eq_true, if_false, if_true] at inside
    rcases List.mem_cons.mp inside with acknowledgement | host
    · cases acknowledgement
    · split_ifs at host
      · exact unstarting_hostAssignment _ packet host
      · cases host

/-- What a step that takes a player out makes of the table, and what it says. -/
theorem loses_spec {sys : System} {event : Event} {id : PlayerID} (loses : Loses sys event id) :
    (∀ other, (machine.next sys event).server.players.lookup other
      = AList.lookup other (AList.erase id sys.server.players))
      ∧ Unstarting barrier (machine.emit sys event) := by
  rcases loses with ⟨peer, player, ⟨rfl, present, key, behind⟩, rfl⟩
    | ⟨peer, name, created, ⟨data, channel, env, reader, rest, msg, rfl, received, opened, read,
        admitted, rfl, rfl⟩, failed, rfl⟩
  · have step : (sys.react (.disconnect peer)).2
        = ((sys.server.removePlayer player).1.setPeerData peer 0, (sys.server.removePlayer player).2) := by
      unfold react
      simp only
      rw [if_pos present]
      unfold handleDisconnect
      rw [behind]
    constructor
    · intro other
      show (sys.react (.disconnect peer)).2.1.players.lookup other = _
      rw [step, AMap.lookup_erase_eq]
      exact (removePlayer_spec sys.server player).players other
    · show Unstarting barrier (sys.react (.disconnect peer)).2.2
      rw [step]
      exact unstarting_removePlayer _ player
  · have step : (sys.react (.packet peer data channel env)).2
        = sys.server.seatPlayer peer (sanitizeName msg.playerName.1) env.created := by
      unfold react handlePacket
      simp only
      rw [if_pos received, opened]
      exact handleHandshake_admitted sys.server read admitted
    constructor
    · intro other
      show (sys.react (.packet peer data channel env)).2.1.players.lookup other = _
      rw [step]
      exact seatPlayer_failed failed other
    · show Unstarting barrier (sys.react (.packet peer data channel env)).2.2
      rw [step]
      exact unstarting_seatPlayer _ _ _ failed

/-- An announcement in a run was made before its last step, if that says nothing. -/
theorem AnnouncedTo.earlier {players remaining : AMap PlayerID ConnectedPlayer}
    (announced : barrier.AnnouncedTo start (events ++ [event]) players)
    (silent : Unstarting barrier (machine.emit (machine.run start events) event))
    (fewer : ∀ id, (remaining.lookup id).isSome = true → (players.lookup id).isSome = true) :
    barrier.AnnouncedTo start events remaining := by
  obtain ⟨before, spoken, after, split, ⟨packet, sent, starts⟩, heard⟩ := announced
  rcases List.eq_nil_or_concat after with rfl | ⟨more, last, rfl⟩
  · obtain ⟨rfl, same⟩ := List.append_inj' split rfl
    cases same
    rw [silent packet sent] at starts
    cases starts
  · rw [List.concat_eq_append, ← List.cons_append, ← List.append_assoc] at split
    obtain ⟨rfl, -⟩ := List.append_inj' split rfl
    exact ⟨before, spoken, more, rfl, ⟨packet, sent, starts⟩, fun id there => heard id (fewer id there)⟩

/-! ### Whole runs -/

/-- Every step of the run that takes a player out leaves nobody waiting. -/
def NobodyStranded (barrier : Barrier) (start : System) (events : List Event) : Prop :=
  ∀ before event after, events = before ++ event :: after → barrier.LosesFreely start before event

theorem opens_boot (config : ServerConfig) (file : Option Json.Value) :
    barrier.Opens (boot config file) [] := by
  intro met
  have nobody : (boot config file).server.players = ∅ := (Persistence.loadWorld_fields _ file).2.2.1
  have some := met.1
  rw [show machine.run (boot config file) [] = boot config file from rfl, nobody] at some
  cases barrier with
  | game => exact absurd some (by decide)
  | lobby => exact absurd some (by decide)

theorem opens_run (config : ServerConfig) (file : Option Json.Value) (events : List Event)
    (free : barrier.NobodyStranded (boot config file) events) :
    barrier.Opens (boot config file) events := by
  induction events using List.reverseRecOn with
  | nil => exact opens_boot config file
  | append_singleton events event ih =>
    refine (ih fun before earlier after split => ?_).next (free events event [] rfl)
    refine free before earlier (after ++ [event]) ?_
    rw [split, List.append_assoc, List.cons_append]

/-- **A barrier is never stuck in a run, exactly if nobody who leaves it strands the others**: when
all who are left are ready, they have been told so at an earlier moment. -/
theorem opens_iff (barrier : Barrier) (config : ServerConfig) (file : Option Json.Value)
    (events : List Event) :
    (∀ count, barrier.Opens (boot config file) (events.take count))
      ↔ barrier.NobodyStranded (boot config file) events := by
  constructor
  · intro opens before event after split id loses met
    have reached : events.take (before.length + 1) = before ++ [event] := by
      rw [split, List.take_append, List.take_of_length_le (Nat.le_succ _), Nat.add_sub_cancel_left]
      rfl
    obtain ⟨left, silent⟩ := @loses_spec barrier _ _ _ loses
    have now := opens (before.length + 1)
    rw [reached] at now
    have same : ∀ other, (machine.run (boot config file) (before ++ [event])).server.players.lookup
        other = AList.lookup other (AList.erase id
          (machine.run (boot config file) before).server.players) := by
      rw [run_snoc]
      exact left
    refine (now (met.congr fun other => by rw [same])).earlier silent fun other there => ?_
    rwa [same]
  · intro free count
    refine opens_run config file _ fun before event after split => ?_
    refine free before event (after ++ events.drop count) ?_
    rw [← List.cons_append, ← List.append_assoc, ← split, List.take_append_drop]

end Barrier

/-! ### The last one to be waited for leaves -/

/-- A client reports that it is ready. -/
def Client.reports (peer : Peer) (type : MessageType) : Event :=
  .packet peer (writeHeader type) KMP_CHANNEL_RELIABLE_ORDERED {}

/-- Three join, two report themselves ready for both, and the third one leaves. -/
def lastOneLeaves : List Event :=
  Client.joins 0 (ascii "Beep") ++ Client.joins 1 (ascii "Izumi") ++ Client.joins 2 (ascii "Ruka")
    ++ [Client.reports 0 .C2S_LobbyReady, Client.reports 1 .C2S_LobbyReady,
      Client.reports 0 .C2S_PlayerReady, Client.reports 1 .C2S_PlayerReady, .disconnect 2]

/-- What has been announced in a run is among its outputs. -/
theorem Barrier.AnnouncedTo.output {barrier : Barrier} {start : System} {events : List Event}
    {players : AMap PlayerID ConnectedPlayer} (announced : barrier.AnnouncedTo start events players) :
    ∃ packet, Call.broadcast packet ∈ machine.outputs start events ∧ barrier.starts packet.msg = true := by
  obtain ⟨before, event, after, rfl, ⟨packet, sent, starts⟩, -⟩ := announced
  refine ⟨packet, ?_, starts⟩
  rw [Machine.outputs_append]
  exact List.mem_append_right _ (List.mem_append_left _ sent)

/-- Everybody is ready, and no start is ever sent. -/
theorem Barrier.stuck (barrier : Barrier) :
    ¬ ∀ config file events, barrier.Opens (boot config file) events := by
  intro opens
  have silent : (machine.outputs (boot {} none) lastOneLeaves).all (fun call =>
      match call with
      | .broadcast packet => !Barrier.game.starts packet.msg && !Barrier.lobby.starts packet.msg
      | _ => true) = true := by decide +kernel
  have all : (machine.run (boot {} none) lastOneLeaves).server.players.toList.all
      (fun entry => entry.2.isReady && entry.2.lobbyReady) = true := by decide +kernel
  have two : (machine.run (boot {} none) lastOneLeaves).server.players.size = 2 := by decide +kernel
  have met : barrier.Met (machine.run (boot {} none) lastOneLeaves).server.players := by
    refine ⟨?_, fun id player stored => ?_⟩
    · rw [two]
      cases barrier <;> decide
    · have ready := List.all_eq_true.mp all (id, player) (AMap.mem_toList.mpr stored)
      rw [Bool.and_eq_true] at ready
      cases barrier with
      | game => exact ready.1
      | lobby => exact ready.2
  obtain ⟨packet, sent, starts⟩ := (opens {} none lastOneLeaves met).output
  have quiet := List.all_eq_true.mp silent _ sent
  simp only [Bool.and_eq_true, Bool.not_eq_true'] at quiet
  cases barrier with
  | game =>
    rw [quiet.1] at starts
    cases starts
  | lobby =>
    rw [quiet.2] at starts
    cases starts

/-- Both barriers are stuck. -/
theorem barriers_fail :
    (¬ ∀ config file events, Barrier.game.Opens (boot config file) events)
      ∧ ¬ ∀ config file events, Barrier.lobby.Opens (boot config file) events :=
  ⟨Barrier.stuck .game, Barrier.stuck .lobby⟩

end KenshiMP
