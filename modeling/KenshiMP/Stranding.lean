/-
**Whether the announcements that came too early are ever taken up.**

A client reports its readiness when its game has loaded and it is connected by then; the server tells
everybody when the last player has reported, and only that message drains the queue of the
announcements that came too early. The two facts can come in the other order, the last player to be
waited for can leave, and the connection can end. In a run without these steps (`spawnsDrained`) a connected
client with its game has reported, the queue is drained with the game loaded only, and nothing waits in it
when nobody is waited for.
-/

import KenshiMP.Answers
import KenshiMP.Barriers
import KenshiMP.Client.Connection
import KenshiMP.Ghosts

namespace KenshiMP

open Wire (Bytes ascii)
open Assoc
open GameServer
open KenshiMP.System

/-! ### Who is ready -/

/-- Every player of the table has reported. -/
def AllReady (players : AMap PlayerID ConnectedPlayer) : Prop :=
  ∀ id player, players.lookup id = some player → player.isReady = true

/-- A player reports, and it is the last one that is waited for. -/
def Completes (sys : System) (event : Event) : Prop :=
  ∃ key player, Handles sys event .C2S_PlayerReady key player ∧ player.isReady = false
    ∧ AllReady (AList.erase key sys.server.players)

theorem AllReady.congr {before after : AMap PlayerID ConnectedPlayer}
    (same : ∀ id, (after.lookup id).map ConnectedPlayer.isReady
      = (before.lookup id).map ConnectedPlayer.isReady) (all : AllReady after) :
    AllReady before := by
  intro id player stored
  have there := same id
  rw [stored] at there
  obtain ⟨other, stored', ready⟩ := Option.map_eq_some_iff.mp there
  rw [← ready]
  exact all id other stored'

theorem allReady_of_toList {players : AMap PlayerID ConnectedPlayer}
    (all : players.toList.all (fun entry => entry.2.isReady) = true) : AllReady players :=
  fun id player stored => List.all_eq_true.mp all (id, player) (AMap.mem_toList.mpr stored)

/-- What a step does to the readiness of the players. -/
inductive Readiness (sys : System) (event : Event) (after : AMap PlayerID ConnectedPlayer) : Prop
  | kept (same : ∀ id, (after.lookup id).map ConnectedPlayer.isReady
      = (sys.server.players.lookup id).map ConnectedPlayer.isReady)
  | report {key : PlayerID} {player : ConnectedPlayer}
      (handles : Handles sys event .C2S_PlayerReady key player)
      (outcome : (sys.react event).2 = sys.server.handlePlayerReady key player)
  | joined (unready : ¬ AllReady after)
  | lost {id : PlayerID} (loses : Loses sys event id)
      (left : ∀ other, after.lookup other = AList.lookup other (AList.erase id sys.server.players))

theorem isReady_of_flags {before after : Option ConnectedPlayer}
    (same : after.map ConnectedPlayer.flags = before.map ConnectedPlayer.flags) :
    after.map ConnectedPlayer.isReady = before.map ConnectedPlayer.isReady := by
  have first := congrArg (Option.map Prod.fst) same
  rwa [Option.map_map, Option.map_map] at first

namespace System

variable (sys : System)

theorem seatPlayer_readiness {event : Event} {peer : Peer} {name : Bytes} {created : PacketCreation}
    (admitted : HandshakeAdmitted sys event peer name created) :
    Readiness sys event (sys.server.seatPlayer peer name created).1.players := by
  by_cases succeeded : (created.ack && created.faction) = true
  · refine .joined fun all => ?_
    have identity := (seatPlayer_spec sys.server peer name created).players sys.server.nextPlayerId
    rw [if_pos rfl, succeeded] at identity
    obtain ⟨player, stored, -⟩ := Option.map_eq_some_iff.mp identity
    have flags := (newcomer_standing sys.server stored).2.1
    have ready := all _ player stored
    rw [show player.isReady = false from congrArg Prod.fst flags] at ready
    cases ready
  · rw [Bool.not_eq_true] at succeeded
    exact .lost (Or.inr ⟨peer, name, created, admitted, succeeded, rfl⟩) fun other =>
      Barrier.seatPlayer_failed succeeded other

theorem packet_readiness {peer : Peer} {data : Bytes} {channel : Nat} {env : PacketEnv}
    {type : MessageType} {reader : PacketReader} (received : sys.receives peer = true)
    (opened : openPacket data channel = some (type, reader)) :
    Readiness sys (.packet peer data channel env) (sys.server.dispatch type peer reader env).1.players := by
  have reacts : (sys.react (.packet peer data channel env)).2 = sys.server.dispatch type peer reader env := by
    unfold react handlePacket
    simp only
    rw [if_pos received, opened]
  refine dispatch_cases sys.server
    (P := fun outcome => (sys.react (.packet peer data channel env)).2 = outcome →
      Readiness sys (.packet peer data channel env) outcome.1.players)
    (fun msg rest handshake read admitted _ => ?_) (fun calls _ _ => .kept fun id => rfl)
    (fun key player behind reacts => ?_) reacts
  · subst handshake
    exact sys.seatPlayer_readiness ⟨data, channel, env, reader, rest, msg, rfl, received, opened, read,
      admitted, rfl, rfl⟩
  · by_cases ready : type = .C2S_PlayerReady
    · subst ready
      exact .report ⟨peer, data, channel, env, reader, rfl, received, opened, behind⟩ reacts
    · by_cases lobby : type = .C2S_LobbyReady
      · subst lobby
        refine .kept fun id => ?_
        exact @Barrier.flag_updatePlayer .game sys.server key
          (fun player => { player with lobbyReady := true }) (fun _ => rfl) id
      · refine .kept fun id => isReady_of_flags ?_
        exact (message_rolled received opened behind ready lobby).flags id

/-- **Every step** keeps the readiness, is a report, or is about a player who comes or goes. -/
theorem next_readiness (event : Event) : Readiness sys event (machine.next sys event).server.players := by
  have turn := sys.react_turn event
  show Readiness sys event (sys.react event).2.1.players
  cases event with
  | packet peer data channel env =>
    unfold react
    simp only
    split_ifs with received
    · unfold handlePacket
      cases opened : openPacket data channel with
      | none => exact .kept fun id => rfl
      | some packet => exact sys.packet_readiness received opened
    · exact .kept fun id => rfl
  | _ =>
    generalize (sys.react _).2 = outcome at turn ⊢
    cases turn with
    | tend rolled => exact .kept fun id => isReady_of_flags (rolled.flags id)
    | seatPlayer admitted => exact sys.seatPlayer_readiness admitted
    | leave leaves =>
      refine .lost (Or.inl ⟨_, _, leaves, rfl⟩) fun other => ?_
      rw [AMap.lookup_erase_eq]
      exact (removePlayer_spec _ _).players other

end System

/-- If everybody is ready after a step, they were before, or the step took away the last one who was
not, or that one has reported. -/
theorem ready_cases {sys : System} {event : Event}
    (all : AllReady (machine.next sys event).server.players) :
    AllReady sys.server.players
      ∨ (∃ id, Loses sys event id ∧ AllReady (AList.erase id sys.server.players))
      ∨ (Completes sys event ∧ machine.emit sys event
          = if 1 < sys.server.players.size then
              broadcast KMP_CHANNEL_RELIABLE_ORDERED .allPlayersReady else []) := by
  cases sys.next_readiness event with
  | kept same => exact Or.inl (all.congr same)
  | joined unready => exact absurd all unready
  | @lost id loses left =>
    refine Or.inr (Or.inl ⟨id, loses, fun other player stored => all other player ?_⟩)
    rw [left]
    exact stored
  | @report key player handles outcome =>
    have players : (machine.next sys event).server.players
        = (sys.server.handlePlayerReady key player).1.players :=
      congrArg (fun outcome => outcome.1.players) outcome
    have calls : machine.emit sys event = (sys.server.handlePlayerReady key player).2 :=
      congrArg Prod.snd outcome
    by_cases again : player.isReady = true
    · refine Or.inl ?_
      rw [players] at all
      unfold handlePlayerReady at all
      rwa [if_pos again] at all
    · rw [Bool.not_eq_true] at again
      have updated : (sys.server.handlePlayerReady key player).1
          = sys.server.updatePlayer key fun player => { player with isReady := true } := by
        unfold handlePlayerReady
        rw [again]
        rfl
      rw [players, updated] at all
      have others : AllReady (AList.erase key sys.server.players) := by
        intro id other stored
        rw [AMap.lookup_erase_eq] at stored
        split_ifs at stored with same
        refine all id other ?_
        show AList.lookup id (AMap.modify key _ sys.server.players) = _
        rw [AMap.lookup_modify_ne same, stored]
      refine Or.inr (Or.inr ⟨⟨key, player, handles, again, others⟩, ?_⟩)
      have size : (sys.server.updatePlayer key fun player =>
          { player with isReady := true }).players.size = sys.server.players.size :=
        AMap.size_modify _ _ _
      have count : (sys.server.updatePlayer key fun player =>
          { player with isReady := true }).getReadyPlayerCount = sys.server.players.size := by
        unfold getReadyPlayerCount
        rw [List.filter_eq_self.mpr fun entry inside =>
          all entry.1 entry.2 (AMap.mem_toList.mp inside), AMap.size_toList, size]
      rw [calls]
      unfold handlePlayerReady
      rw [again]
      simp only [Bool.false_eq_true, if_false]
      rw [size, count, decide_eq_true (rfl : sys.server.players.size = sys.server.players.size),
        Bool.and_true]
      by_cases several : 1 < sys.server.players.size
      · rw [if_pos several, if_pos (decide_eq_true several)]
      · rw [if_neg several, if_neg (by simpa using several)]

/-- The message that drains the queue is sent when the last player has reported, to everybody and
alone. -/
theorem completes_of_inbox {sys : System} {event : Event} {slot : Peer} {packet : Sent}
    (inside : packet ∈ inbox slot (machine.emit sys event)) (starts : packet.msg = .allPlayersReady) :
    Completes sys event ∧ 1 < sys.server.players.size
      ∧ machine.emit sys event = broadcast KMP_CHANNEL_RELIABLE_ORDERED .allPlayersReady := by
  obtain ⟨type, key, player, handles, listed⟩ := answer_of_inbox inside (by rw [starts]; rfl)
  rw [starts] at listed
  obtain rfl : type = .C2S_PlayerReady := by
    cases type <;> first | rfl | cases listed
  have handled := handles
  obtain ⟨peer, data, channel, env, reader, rfl, received, opened, behind⟩ := handled
  have calls : machine.emit sys (.packet peer data channel env)
      = (sys.server.handlePlayerReady key player).2 := by
    show (sys.react _).2.2 = _
    rw [sys.react_packet received opened (fun server => rfl) behind]
    rfl
  rw [calls] at inside ⊢
  unfold handlePlayerReady at inside ⊢
  by_cases again : player.isReady = true
  · rw [if_pos again] at inside
    cases inside
  · rw [if_neg again] at inside ⊢
    simp only at inside ⊢
    split_ifs at inside ⊢ with completed
    · rw [Bool.and_eq_true, decide_eq_true_eq, decide_eq_true_eq] at completed
      obtain ⟨several, counted⟩ := completed
      have size : (sys.server.updatePlayer key fun player =>
          { player with isReady := true }).players.size = sys.server.players.size :=
        AMap.size_modify _ _ _
      rw [size] at several
      refine ⟨⟨key, player, handles, Bool.not_eq_true _ |>.mp again, fun id other stored => ?_⟩,
        several, rfl⟩
      rw [AMap.lookup_erase_eq] at stored
      split_ifs at stored with same
      have kept : (sys.server.updatePlayer key fun player =>
          { player with isReady := true }).players.lookup id = some other := by
        show AList.lookup id (AMap.modify key _ sys.server.players) = _
        rw [AMap.lookup_modify_ne same, stored]
      unfold getReadyPlayerCount at counted
      rw [← AMap.size_toList, List.length_filter_eq_length_iff] at counted
      exact counted (id, other) (AMap.mem_toList.mpr kept)
    · cases inside

/-! ### The packets on the way -/

/-- The message that drains the queue. -/
def S2C.drains : S2C → Bool
  | .allPlayersReady => true
  | _ => false

/-- A message that may go into the queue. -/
def S2C.spawns : S2C → Bool
  | .entitySpawn _ => true
  | _ => false

/-- Nothing is queued when the next drain arrives. -/
def DrainsNothing (queue : List DeferredSpawn) (packets : List Sent) : Prop :=
  ∀ front packet back, packets = front ++ packet :: back → packet.msg.drains = true →
    queue = [] ∧ ∀ other ∈ front, other.msg.spawns = false

theorem DrainsNothing.tail {queue : List DeferredSpawn} {packet : Sent} {rest : List Sent}
    (nothing : DrainsNothing queue (packet :: rest)) {after : List DeferredSpawn}
    (same : packet.msg.spawns = false → queue = [] → after = []) : DrainsNothing after rest := by
  intro front drain back split drains
  obtain ⟨empty, none⟩ := nothing (packet :: front) drain back (by rw [split]; rfl) drains
  exact ⟨same (none packet List.mem_cons_self) empty,
    fun other inside => none other (List.mem_cons_of_mem _ inside)⟩

theorem DrainsNothing.append {queue : List DeferredSpawn} {packets more : List Sent}
    (nothing : DrainsNothing queue packets) (quiet : ∀ packet ∈ more, packet.msg.drains = false) :
    DrainsNothing queue (packets ++ more) := by
  intro front packet back split drains
  rcases List.append_eq_append_iff.mp split with ⟨extra, rfl, rest⟩ | ⟨extra, rfl, rest⟩
  · have late : packet ∈ more := by
      rw [rest]
      exact List.mem_append_right _ List.mem_cons_self
    rw [quiet packet late] at drains
    cases drains
  · cases extra with
    | nil =>
      have late : packet ∈ more := by
        rw [← List.nil_append more, ← rest]
        exact List.mem_cons_self
      rw [quiet packet late] at drains
      cases drains
    | cons first extra =>
      obtain ⟨rfl, -⟩ := List.cons.inj rest
      exact nothing front packet extra rfl drains

theorem DrainsNothing.last {packets : List Sent} {packet : Sent}
    (nothing : DrainsNothing [] packets) (none : ∀ other ∈ packets, other.msg.spawns = false) :
    DrainsNothing [] (packets ++ [packet]) := by
  intro front drain back split drains
  refine ⟨rfl, fun other inside => ?_⟩
  rcases List.append_eq_append_iff.mp split with ⟨extra, rfl, rest⟩ | ⟨extra, rfl, rest⟩
  · cases extra with
    | nil => exact none other (by simpa using inside)
    | cons first extra =>
      obtain ⟨-, rest⟩ := List.cons.inj rest
      exact absurd rest.symm (by simp)
  · exact none other (List.mem_append_left _ inside)

namespace Network

/-- The connection of the session takes packets. -/
def Linked (sys : System) (session : Option Session) : Prop :=
  ∃ peer taken link, session = some (.live peer taken) ∧ sys.links.lookup peer = some link
    ∧ link.state = .connected

/-- What a step of the server puts on the way to a session. -/
theorem pending_next {sys : System} {session : Option Session}
    (within : ∀ peer taken, session = some (.live peer taken) →
      ∃ link, sys.links.lookup peer = some link ∧ taken ≤ link.sent.length) (event : KenshiMP.Event) :
    ∃ more slot rest, pending (machine.next sys event) (afterEvent sys event session)
        = pending sys session ++ more
      ∧ inbox slot (machine.emit sys event) = more ++ rest ∧ (more ≠ [] → Linked sys session) := by
  cases session with
  | none => exact ⟨[], 0, _, rfl, rfl, fun some => absurd rfl some⟩
  | some session =>
    cases session with
    | lost packets => exact ⟨[], 0, _, (List.append_nil _).symm, rfl, fun some => absurd rfl some⟩
    | live peer taken =>
      by_cases cut : event.cuts peer = true
      · refine ⟨[], 0, _, ?_, rfl, fun some => absurd rfl some⟩
        rw [show afterEvent sys event (some (.live peer taken))
          = some (.lost (pending sys (some (.live peer taken)))) from if_pos cut, List.append_nil]
        rfl
      · rw [show afterEvent sys event (some (.live peer taken)) = some (.live peer taken) from if_neg cut]
        obtain ⟨link, stored, short⟩ := within peer taken rfl
        obtain ⟨more, rest, sent, behind, closing⟩ :=
          takeAll_sent peer (machine.emit sys event) link
        refine ⟨more, peer, rest, ?_, behind, fun some =>
          ⟨peer, taken, link, rfl, stored, not_not.mp fun closed => some (closing closed)⟩⟩
        rw [pending_live (lookup_next stored (Bool.not_eq_true _ |>.mp cut)), pending_live stored,
          sent, List.drop_append_of_le_length short]

/-- A broadcast reaches a session that takes packets. -/
theorem pending_broadcast {sys : System} {session : Option Session} (linked : Linked sys session)
    (within : ∀ peer taken, session = some (.live peer taken) →
      ∃ link, sys.links.lookup peer = some link ∧ taken ≤ link.sent.length)
    {event : KenshiMP.Event} {packet : Sent} (broadcast : machine.emit sys event = [.broadcast packet])
    (quiet : ∀ peer, event.cuts peer = false) :
    packet ∈ pending (machine.next sys event) (afterEvent sys event session) := by
  obtain ⟨peer, taken, link, rfl, stored, connected⟩ := linked
  have stays : afterEvent sys event (some (.live peer taken)) = some (.live peer taken) :=
    if_neg (by rw [quiet peer]; decide)
  have pushed : link.takeAll peer (machine.emit sys event) = { link with sent := link.sent ++ [packet] } := by
    rw [broadcast]
    show link.push packet = _
    unfold Link.push
    rw [if_pos connected]
  obtain ⟨found, stored', short⟩ := within peer taken rfl
  obtain rfl := Option.some.inj (stored.symm.trans stored')
  rw [stays, pending_live (lookup_next stored (quiet peer)), pushed,
    List.drop_append_of_le_length short]
  exact List.mem_append_right _ List.mem_cons_self

/-- A new connection, with nothing on the way. -/
theorem pending_connect {sys : System} {peer : Peer} (absent : sys.links.lookup peer = none)
    (host roundTripTime : UInt32) :
    (∃ link, (machine.next sys (.connect peer host roundTripTime)).links.lookup peer = some link)
      ∧ pending (machine.next sys (.connect peer host roundTripTime)) (some (.live peer 0)) = [] := by
  obtain ⟨stored, empty⟩ := link_connect host roundTripTime absent
  exact ⟨⟨_, stored⟩, by rw [pending_live stored, List.drop_zero, empty]⟩

theorem within_next {sys : System} {session : Option Session}
    (within : ∀ peer taken, session = some (.live peer taken) →
      ∃ link, sys.links.lookup peer = some link ∧ taken ≤ link.sent.length)
    (event : KenshiMP.Event) {peer : Peer} {taken : Nat}
    (live : afterEvent sys event session = some (.live peer taken)) :
    ∃ link, (machine.next sys event).links.lookup peer = some link ∧ taken ≤ link.sent.length := by
  have before := live_of_afterEvent live
  obtain ⟨link, stored, short⟩ := within peer taken before
  have kept : event.cuts peer = false := by
    by_contra cut
    rw [Bool.not_eq_false] at cut
    rw [before, show afterEvent sys event (some (.live peer taken))
      = some (.lost (pending sys (some (.live peer taken)))) from if_pos cut] at live
    cases live
  obtain ⟨more, rest, sent, -, -⟩ := takeAll_sent peer (machine.emit sys event) link
  refine ⟨_, lookup_next stored kept, ?_⟩
  rw [sent, List.length_append]
  omega

end Network

/-! ### What a packet does to the queue -/

namespace GameClient

variable (pages : CodePages) (client : GameClient) (arrival : Arrival)

/-- A client in its game stays there, with a queue that does not grow; a drain empties the queue, and
only announcements fill it. -/
theorem handlePacket_queue (inGame : client.gameLoaded = true → client.clientPhase.inGame = true) :
    (client.handlePacket pages arrival).gameLoaded = client.gameLoaded
      ∧ (client.gameLoaded = true → (client.handlePacket pages arrival).clientPhase.inGame = true)
      ∧ (arrival.msg.drains = true → (client.handlePacket pages arrival).deferredSpawns = [])
      ∧ (arrival.msg.drains = false → client.gameLoaded = true ∨ arrival.msg.spawns = false →
        (client.handlePacket pages arrival).deferredSpawns = client.deferredSpawns) := by
  obtain ⟨loads, phases⟩ := client.handlePacket_phase pages arrival
  refine ⟨loads, fun loaded => ?_, ?_⟩
  · rw [phases]
    cases arrival.msg with
    | handshakeAck => rfl
    | handshakeReject =>
      simp only
      rw [if_pos loaded]
      rfl
    | _ => exact inGame loaded
  obtain ⟨msg, now, render, clock⟩ := arrival
  have world : client.SameGame
      (if client.gameLoaded then client.handleWorld ⟨msg, now, render, clock⟩ else client) := by
    split_ifs
    · exact client.handleWorld_sameGame _
    · exact .refl
  cases msg with
  | handshakeAck ack => exact ⟨fun drains => (nomatch drains), fun _ _ => rfl⟩
  | handshakeReject code text =>
    have step : client.handlePacket pages ⟨.handshakeReject code text, now, render, clock⟩
        = client.handleHandshakeReject := rfl
    rw [step]
    unfold handleHandshakeReject
    split_ifs <;> exact ⟨fun drains => (nomatch drains), fun _ _ => rfl⟩
  | playerJoined playerId playerName =>
    obtain ⟨names, joined⟩ := client.handlePlayerJoined_eq playerId playerName
    refine ⟨fun drains => (nomatch drains), fun _ _ => ?_⟩
    show (client.handlePlayerJoined playerId playerName).deferredSpawns = _
    rw [joined]
  | allPlayersReady => exact ⟨fun _ => rfl, fun quiet => (nomatch quiet)⟩
  | entitySpawn record =>
    have step : client.handlePacket pages ⟨.entitySpawn record, now, render, clock⟩
        = client.handleEntitySpawn pages (PacketReader.start record.write) now render := rfl
    rw [step]
    unfold handleEntitySpawn
    obtain ⟨spawn, read, -⟩ := readEntitySpawn_fixed record
    rw [read]
    obtain ⟨-, -, deferred⟩ := client.takeUp_queue pages spawn now render
    refine ⟨fun drains => (nomatch drains), fun _ quiet => ?_⟩
    rcases quiet with yes | quiet
    · exact deferred (by rw [ready, yes, inGame yes]; rfl)
    · cases quiet
  | _ => exact ⟨fun drains => (nomatch drains), fun _ _ => world.deferred⟩

end GameClient

/-! ### The client and its server -/

namespace Guest

variable (guest : Guest)

def Linked : Prop := Network.Linked guest.sys guest.session

/-- The message that drains the queue is on the way. -/
def DrainPending : Prop := ∃ packet ∈ guest.pending, packet.msg.drains = true

/-- Announcements wait in the queue of a client that has its game. -/
def Waiting : Prop := guest.client.deferredSpawns ≠ [] ∧ guest.client.gameLoaded = true

/-- They wait, nobody is waited for, and no drain is on the way. -/
def Stranded : Prop :=
  guest.Waiting ∧ AllReady guest.sys.server.players ∧ ¬ guest.DrainPending

/-- A client that is connected and has its game has reported on this connection. -/
def Reported : Prop :=
  guest.session.isSome = true → guest.connected = true → guest.client.gameLoaded = true →
    guest.readySent = true

/-- The event is a packet that drains a queue with something in it. -/
def Processes (event : Event) : Prop :=
  ∃ now render clock packet rest, event = .receive now render clock
    ∧ guest.pending = packet :: rest ∧ packet.msg.drains = true ∧ guest.client.deferredSpawns ≠ []

/-- The order of events in which nothing is stranded. -/
def Orderly (guest : Guest) (event : Event) : Prop :=
  match event with
  | .server event =>
    -- the last one to be waited for does not leave a client that waits
    (∀ id, Loses guest.sys event id → AllReady (AList.erase id guest.sys.server.players) →
        guest.Waiting → guest.DrainPending)
      -- and when they report, the drain reaches it, and no client without its game that it would drain
      ∧ (Completes guest.sys event →
        (guest.Waiting → guest.DrainPending ∨ 1 < guest.sys.server.players.size ∧ guest.Linked)
          ∧ (guest.client.gameLoaded = false → 1 < guest.sys.server.players.size → guest.Linked →
            guest.client.deferredSpawns = [] ∧ ∀ packet ∈ guest.pending, packet.msg.spawns = false))
  | .receive _ _ _ =>
    ∀ packet rest, guest.pending = packet :: rest → isAck packet.msg = true →
      guest.client.gameLoaded = true → guest.readySent = true
  | .connects _ _ _ => guest.connected = true → guest.client.gameLoaded = false
  | .connectionLost | .disconnect => guest.Waiting → ¬ AllReady guest.sys.server.players
  | .loadingGap => DrainsNothing guest.client.deferredSpawns guest.pending
  | .gameLoaded _ => guest.client.deferredSpawns ≠ [] → ¬ AllReady guest.sys.server.players
  | _ => True

/-- What an orderly run keeps. -/
structure Sound (guest : Guest) : Prop where
  within : ∀ peer taken, guest.session = some (.live peer taken) →
    ∃ link, guest.sys.links.lookup peer = some link ∧ taken ≤ link.sent.length
  inGame : guest.client.gameLoaded = true → guest.client.clientPhase.inGame = true
  reported : guest.Reported
  drains : guest.client.gameLoaded = false →
    DrainsNothing guest.client.deferredSpawns guest.pending
  awaited : guest.Waiting → guest.DrainPending ∨ ¬ AllReady guest.sys.server.players

variable {guest}

theorem drainsNothing_nil (queue : List DeferredSpawn) : DrainsNothing queue [] := by
  intro front packet back split
  exact absurd split (by simp)

/-- The server's step. -/
theorem Sound.server (sound : Sound guest) {event : KenshiMP.Event}
    (orderly : guest.Orderly (.server event)) (pages : CodePages) :
    Sound (guest.step pages (.server event)) := by
  obtain ⟨freely, reaches⟩ := orderly
  obtain ⟨more, slot, rest, way, behind, linked⟩ := Network.pending_next sound.within event
  change (guest.step pages (.server event)).pending = guest.pending ++ more at way
  refine ⟨fun peer taken live => Network.within_next sound.within event live, sound.inGame,
    fun there => sound.reported ?_, fun loading => ?_, fun waiting => ?_⟩
  · change (Network.afterEvent guest.sys event guest.session).isSome = true at there
    cases session : guest.session with
    | none =>
      rw [session] at there
      cases there
    | some found => rfl
  · show DrainsNothing guest.client.deferredSpawns _
    rw [way]
    have before := sound.drains loading
    by_cases quiet : ∀ packet ∈ more, packet.msg.drains = false
    · exact before.append quiet
    · push Not at quiet
      obtain ⟨packet, inside, starts⟩ := quiet
      rw [ne_eq, Bool.not_eq_false] at starts
      have drain : packet.msg = .allPlayersReady := by
        cases msg : packet.msg <;> first | rfl | (rw [msg] at starts; cases starts)
      have sent : packet ∈ inbox slot (System.machine.emit guest.sys event) :=
        behind ▸ List.mem_append_left _ inside
      obtain ⟨completes, several, emitted⟩ := completes_of_inbox sent drain
      obtain ⟨empty, none⟩ := (reaches completes).2 loading several
        (linked (List.ne_nil_of_mem inside))
      rw [emitted] at behind
      have one : more = [packet] := by
        cases more with
        | nil => cases inside
        | cons first others =>
          obtain ⟨rfl, nothing⟩ := List.cons.inj behind
          obtain ⟨rfl, -⟩ := List.append_eq_nil_iff.mp nothing.symm
          rw [List.mem_singleton.mp inside]
      rw [one, empty]
      exact (empty ▸ before).last none
  · have still : guest.Waiting := waiting
    have later (pending : guest.DrainPending) : (guest.step pages (.server event)).DrainPending := by
      obtain ⟨packet, inside, drains⟩ := pending
      refine ⟨packet, ?_, drains⟩
      rw [way]
      exact List.mem_append_left _ inside
    by_cases all : AllReady (System.machine.next guest.sys event).server.players
    · refine Or.inl ?_
      rcases ready_cases all with before | ⟨id, loses, left⟩ | ⟨completes, emitted⟩
      · exact later ((sound.awaited still).resolve_right fun unready => unready before)
      · exact later (freely id loses left still)
      · rcases (reaches completes).1 still with pending | ⟨several, up⟩
        · exact later pending
        · rw [if_pos several] at emitted
          have quiet (peer : Peer) : event.cuts peer = false := by
            obtain ⟨key, player, ⟨other, data, channel, env, reader, rfl, -⟩, -⟩ := completes
            rfl
          exact ⟨_, Network.pending_broadcast up sound.within emitted quiet, rfl⟩
    · exact Or.inr all

/-- A packet. -/
theorem Sound.receive (sound : Sound guest) {now render : F32} {clock : Nat → F32}
    (orderly : guest.Orderly (.receive now render clock)) (pages : CodePages) :
    Sound (guest.step pages (.receive now render clock)) := by
  unfold step
  simp only
  cases front : guest.pending with
  | nil => exact sound
  | cons packet rest =>
    obtain ⟨loaded, inGame, drained, kept⟩ := guest.client.handlePacket_queue pages
      ⟨packet.msg, now, render, clock⟩ sound.inGame
    have advanced : Network.pending guest.sys (Network.advance guest.session) = rest
        ∧ guest.session.isSome = true
        ∧ ∀ peer taken, Network.advance guest.session = some (.live peer taken) →
          ∃ link, guest.sys.links.lookup peer = some link ∧ taken ≤ link.sent.length := by
      cases session : guest.session with
      | none =>
        rw [show guest.pending = [] by unfold Guest.pending; rw [session]; rfl] at front
        cases front
      | some found =>
        cases found with
        | lost packets =>
          have way : packets = packet :: rest := by
            rw [← front]
            unfold Guest.pending
            rw [session]
            rfl
          rw [way]
          exact ⟨rfl, rfl, fun peer taken live => by cases live⟩
        | live peer taken =>
          obtain ⟨link, stored, short⟩ := sound.within peer taken session
          have way : link.sent.drop taken = packet :: rest := by
            rw [← front, ← Network.pending_live stored]
            unfold Guest.pending
            rw [session]
          refine ⟨?_, rfl, fun other count live => ?_⟩
          · show Network.pending guest.sys (some (.live peer (taken + 1))) = rest
            rw [Network.pending_live stored, ← List.drop_drop, way]
            rfl
          · cases live
            refine ⟨link, stored, ?_⟩
            by_contra beyond
            rw [List.drop_eq_nil_of_le (by omega)] at way
            cases way
    obtain ⟨way, there, within⟩ := advanced
    refine ⟨within, fun yes => inGame (loaded.symm.trans yes), fun _ connected yes => ?_,
      fun loading => ?_, fun waiting => ?_⟩
    · have game : guest.client.gameLoaded = true := loaded.symm.trans yes
      rcases Bool.or_eq_true_iff.mp connected with before | ack
      · exact sound.reported there before game
      · exact orderly packet rest front ack game
    · have before := sound.drains (loaded.symm.trans loading)
      show DrainsNothing _ (Network.pending guest.sys (Network.advance guest.session))
      rw [front] at before
      rw [way]
      refine before.tail fun quiet empty => ?_
      cases drains : packet.msg.drains with
      | true => exact drained drains
      | false =>
        show (guest.client.handlePacket pages _).deferredSpawns = []
        rw [kept drains (Or.inr quiet), empty]
    · have game : guest.client.gameLoaded = true := loaded.symm.trans waiting.2
      cases drains : packet.msg.drains with
      | true => exact absurd (drained drains) waiting.1
      | false =>
        have still : guest.Waiting := ⟨fun empty => waiting.1 ((kept drains (Or.inl game)).trans empty),
          game⟩
        refine (sound.awaited still).imp_left fun ⟨other, inside, later⟩ => ⟨other, ?_, later⟩
        show other ∈ Network.pending guest.sys (Network.advance guest.session)
        rw [way]
        rw [front] at inside
        rcases List.mem_cons.mp inside with rfl | inside
        · rw [drains] at later
          cases later
        · exact inside

/-! ### The client's steps -/

/-- A change of the client that touches neither whether it has its game nor its queue. -/
theorem Sound.withClient (sound : Sound guest) (connecting : Bool) {client : GameClient}
    (loaded : client.gameLoaded = guest.client.gameLoaded)
    (deferred : client.deferredSpawns = guest.client.deferredSpawns)
    (inGame : client.gameLoaded = true → client.clientPhase.inGame = true) :
    Sound { guest with connecting := connecting, client := client } := by
  refine ⟨sound.within, inGame, fun there connected yes =>
    sound.reported there connected (loaded.symm.trans yes), fun loading => ?_,
    fun waiting => sound.awaited ⟨fun empty => waiting.1 (deferred.trans empty),
      loaded.symm.trans waiting.2⟩⟩
  have before := sound.drains (loaded.symm.trans loading)
  rw [← deferred] at before
  exact before

theorem Sound.dials (sound : Sound guest) : Sound guest.connectAsync := by
  unfold connectAsync
  split_ifs
  · exact ⟨sound.within, fun _ => rfl, sound.reported, sound.drains, sound.awaited⟩
  · exact sound

/-- Who leaves while nobody is waited for must not wait. -/
theorem Sound.left (calm : guest.Waiting → ¬ AllReady guest.sys.server.players) (connected connecting : Bool)
    (client : GameClient) (inGame : client.gameLoaded = true → client.clientPhase.inGame = true)
    (loaded : client.gameLoaded = guest.client.gameLoaded)
    (deferred : client.deferredSpawns = guest.client.deferredSpawns) :
    Sound { guest with
      connected := connected, connecting := connecting, session := none, client := client } :=
  ⟨fun _ _ live => (nomatch live), inGame, fun there => (nomatch there),
    fun _ => drainsNothing_nil _, fun waiting =>
      Or.inr (calm ⟨fun empty => waiting.1 (deferred.trans empty), loaded.symm.trans waiting.2⟩)⟩

theorem setDisconnected_inGame (loaded : guest.client.setDisconnected.gameLoaded = true) :
    guest.client.setDisconnected.clientPhase.inGame = true := by
  show (if guest.client.gameLoaded = true then ClientPhase.GameReady
    else guest.client.clientPhase).inGame = true
  rw [if_pos (show guest.client.gameLoaded = true from loaded)]
  rfl

/-- A new link has nothing on it, and nobody has become ready by it. -/
theorem Sound.connects (sound : Sound guest) {peer : Peer} {host roundTripTime : UInt32}
    (orderly : guest.Orderly (.connects peer host roundTripTime)) (pages : CodePages) :
    Sound (guest.step pages (.connects peer host roundTripTime)) := by
  show Sound (if _ then _ else guest)
  split_ifs with free
  · simp only [Bool.and_eq_true, Option.isNone_iff_eq_none] at free
    obtain ⟨⟨-, none⟩, absent⟩ := free
    obtain ⟨⟨link, stored⟩, nothing⟩ :=
      Network.pending_connect absent host roundTripTime
    refine ⟨fun other count live => ?_, sound.inGame, fun _ connected loaded => ?_, fun _ => ?_,
      fun waiting => Or.inr fun all => ?_⟩
    · cases live
      exact ⟨link, stored, Nat.zero_le _⟩
    · rw [show guest.client.gameLoaded = false from orderly connected] at loaded
      cases loaded
    · show DrainsNothing _ (Network.pending _ (some (.live peer 0)))
      rw [nothing]
      exact drainsNothing_nil _
    · have idle : ¬ guest.DrainPending := by
        rintro ⟨packet, inside, -⟩
        unfold Guest.pending at inside
        rw [none] at inside
        cases inside
      have before : ¬ AllReady guest.sys.server.players :=
        (sound.awaited waiting).resolve_left idle
      rcases ready_cases all with same | ⟨id, loses, -⟩ | ⟨⟨key, player, handles, -⟩, -⟩
      · exact before same
      · rcases loses with ⟨_, _, leaves, -⟩ | ⟨_, _, _, admitted, -⟩
        · exact absurd leaves.1 (by simp)
        · obtain ⟨_, _, _, _, _, _, packet, -⟩ := admitted
          cases packet
      · obtain ⟨_, _, _, _, _, packet, -⟩ := handles
        cases packet
  · exact sound

/-- Only the last of some attempts changes the client: it is back in its game. -/
theorem Sound.connectFails (sound : Sound guest) (exhausted : Bool) (pages : CodePages) :
    Sound (guest.step pages (.connectFails exhausted)) := by
  show Sound (if _ then _ else guest)
  split_ifs
  · exact sound.withClient false rfl rfl fun _ => rfl
  · exact sound.withClient false rfl rfl sound.inGame
  · exact sound

theorem Sound.present (sound : Sound guest) (pages : CodePages) : Sound (guest.step pages .present) := by
  show Sound { guest with client := guest.client.onPresent }
  unfold GameClient.onPresent
  split_ifs with startup
  · exact sound.withClient guest.connecting rfl rfl fun loaded =>
      absurd (sound.inGame loaded) (by rw [startup]; decide)
  · exact sound

/-- A gap in the menu or in the game means that another game is loaded. -/
theorem Sound.loadingGap (sound : Sound guest) (orderly : guest.Orderly .loadingGap) (pages : CodePages) :
    Sound (guest.step pages .loadingGap) := by
  have gap : guest.client.onLoadingGapDetected = guest.client
      ∨ guest.client.onLoadingGapDetected.gameLoaded = false
        ∧ guest.client.onLoadingGapDetected.deferredSpawns = guest.client.deferredSpawns := by
    unfold GameClient.onLoadingGapDetected
    cases guest.client.clientPhase with
    | MainMenu => exact Or.inr ⟨rfl, rfl⟩
    | GameReady => exact Or.inr ⟨rfl, rfl⟩
    | Startup => exact Or.inl rfl
    | Loading => exact Or.inl rfl
    | Connecting => exact Or.inl rfl
    | Connected => exact Or.inl rfl
  rcases gap with same | ⟨loading, deferred⟩
  · show Sound { guest with client := guest.client.onLoadingGapDetected }
    rw [same]
    exact sound
  · have not {motive : Prop} (loaded : guest.client.onLoadingGapDetected.gameLoaded = true) : motive := by
      rw [loading] at loaded
      cases loaded
    refine ⟨sound.within, not, fun _ _ => not, fun _ => ?_, fun waiting => not waiting.2⟩
    have calm : DrainsNothing guest.client.deferredSpawns guest.pending := orderly
    rw [← deferred] at calm
    exact calm

/-- The game is there, and whoever is connected reports it. -/
theorem Sound.gameLoaded (sound : Sound guest) {characters : List (Bytes × GameObject)}
    (orderly : guest.Orderly (.gameLoaded characters)) (pages : CodePages) :
    Sound (guest.step pages (.gameLoaded characters)) := by
  show Sound (if _ then _ else guest)
  split_ifs with detects
  · have loading : guest.client.gameLoaded = false := by
      unfold detectsLoad at detects
      rw [Bool.and_eq_true, Bool.not_eq_true'] at detects
      exact detects.1
    obtain ⟨-, ready, deferred, -⟩ :=
      guest.client.onGameLoaded_fields loading guest.connected characters
    unfold GameClient.ready at ready
    rw [Bool.and_eq_true] at ready
    have loaded {motive : Prop}
        (no : (guest.client.onGameLoaded guest.connected characters).gameLoaded = false) :
        motive := by
      rw [ready.1] at no
      cases no
    have awaits : (guest.client.onGameLoaded guest.connected characters).deferredSpawns ≠ [] →
        ¬ AllReady guest.sys.server.players := by
      rw [deferred]
      exact orderly
    have offline (away : guest.connected = false) : Sound { guest with
        client := guest.client.onGameLoaded guest.connected characters } :=
      ⟨sound.within, fun _ => ready.2, fun _ connected =>
        absurd (away.symm.trans connected) Bool.false_ne_true, loaded,
        fun waiting => Or.inr (awaits waiting.1)⟩
    unfold Guest.onGameLoaded
    simp only
    by_cases connected : guest.connected = true
    · rw [if_pos connected]
      exact ⟨sound.within, fun _ => ready.2, fun there _ _ =>
        Bool.or_eq_true_iff.mpr (Or.inr there), loaded, fun waiting => Or.inr (awaits waiting.1)⟩
    · rw [if_neg connected]
      rw [Bool.not_eq_true] at connected
      split_ifs
      · exact (offline connected).dials
      · exact offline connected
  · exact sound

/-- **One step.** -/
theorem Sound.next (sound : Sound guest) {event : Event} (orderly : guest.Orderly event)
    (pages : CodePages) : Sound (guest.step pages event) := by
  cases event with
  | server event => exact sound.server orderly pages
  | connectAsync => exact sound.dials
  | connects peer host roundTripTime => exact sound.connects orderly pages
  | connectFails exhausted => exact sound.connectFails exhausted pages
  | receive now render clock => exact sound.receive orderly pages
  | connectionLost => exact Sound.left orderly _ _ _ sound.inGame rfl rfl
  | lossNoticed =>
    show Sound (if _ then _ else guest)
    split_ifs
    · exact ⟨sound.within, setDisconnected_inGame, fun _ connected => (nomatch connected), sound.drains,
        sound.awaited⟩
    · exact sound
  | disconnect => exact Sound.left orderly _ _ _ setDisconnected_inGame rfl rfl
  | settingsSaved autoConnect =>
    exact ⟨sound.within, sound.inGame, sound.reported, sound.drains, sound.awaited⟩
  | present => exact sound.present pages
  | loadingGap => exact sound.loadingGap orderly pages
  | gameLoaded characters => exact sound.gameLoaded orderly pages

theorem boot_sound (config : ServerConfig) (file : Option Json.Value) (autoConnect : Bool) :
    Sound (boot config file autoConnect) :=
  ⟨fun _ _ live => (nomatch live), fun loaded => (nomatch loaded), fun there => (nomatch there),
    fun _ => drainsNothing_nil _, fun waiting => absurd rfl waiting.1⟩

theorem Sound.not_stranded (sound : Sound guest) : ¬ guest.Stranded := by
  rintro ⟨waiting, all, none⟩
  rcases sound.awaited waiting with pending | unready
  · exact none pending
  · exact unready all

/-- A queue that has something in it is drained with the game loaded. -/
theorem Sound.processes (sound : Sound guest) {event : Event} (processes : guest.Processes event) :
    guest.client.gameLoaded = true := by
  obtain ⟨now, render, clock, packet, rest, -, front, drains, some⟩ := processes
  by_contra loading
  exact some (sound.drains (Bool.not_eq_true _ |>.mp loading) [] packet rest front drains).1

/-- What the queue is meant to guarantee, in the state after a run and in its steps. -/
structure NoneStranded (pages : CodePages) (start : Guest) (events : List Event) : Prop where
  reported : ((machine pages).run start events).Reported
  loaded : ∀ before event after, events = before ++ event :: after →
    ((machine pages).run start before).Processes event →
      ((machine pages).run start before).client.gameLoaded = true
  notStranded : ¬ ((machine pages).run start events).Stranded

/-- **In an orderly run no announcement is stranded**, none is taken up without the game, and a client
with both connection and game has reported. -/
theorem spawnsDrained (pages : CodePages) (config : ServerConfig) (file : Option Json.Value)
    (autoConnect : Bool) (events : List Event)
    (orderly : (machine pages).Along Orderly (boot config file autoConnect) events) :
    NoneStranded pages (boot config file autoConnect) events := by
  have sound {events : List Event}
      (orderly : (machine pages).Along Orderly (boot config file autoConnect) events) :
      Sound ((machine pages).run (boot config file autoConnect) events) :=
    Machine.run_invariant (M := machine pages) (motive := Sound) (fun guest event orderly sound =>
      sound.next orderly pages) (boot_sound config file autoConnect) orderly
  refine ⟨(sound orderly).reported, fun before event after split processes => ?_,
    (sound orderly).not_stranded⟩
  rw [split] at orderly
  exact (sound (Machine.along_append.mp orderly).1).processes processes

/-! ### Three runs -/

def receives : Event := .receive (lit 1 1) (lit 1 1) fun _ => lit 1 1

def shakesHands (peer : Peer) (playerName : Bytes) : Event :=
  .server (.packet peer (Client.handshake playerName) KMP_CHANNEL_RELIABLE_ORDERED {})

/-- A client that is connected when its game has loaded. -/
def inOrder : List Event :=
  [.present, .connectAsync, .connects 0 0 0, shakesHands 0 (ascii "Beep"), receives, .gameLoaded []]

theorem spawnsDrained_inOrder : NoneStranded GameClient.plainPages (boot {} none false) inOrder := by
  refine spawnsDrained GameClient.plainPages {} none false inOrder
    ⟨trivial, trivial, fun connected => ?_, ⟨fun id _ _ waiting => absurd rfl waiting.1, fun _ =>
      ⟨fun waiting => absurd rfl waiting.1, fun _ _ _ => ⟨rfl, ?_⟩⟩⟩,
      fun packet rest front ack loaded => ?_, fun some => absurd ?_ some, trivial⟩
  · cases connected
  · decide +kernel
  · exact absurd loaded (by decide +kernel)
  · decide +kernel

/-- The game is loaded before the connection is made. -/
def loadsFirst : List Event :=
  [.present, .loadingGap, .gameLoaded [], .connectAsync, .connects 0 0 0,
    shakesHands 0 (ascii "Beep"), receives]

/-- A place to stand. -/
def camp : Vec3 := ⟨lit 10 1, lit 0 1, lit 10 1⟩

/-- Two others are told to start while the client has a connection only. -/
def startedEarly : List Event :=
  [.present, .connectAsync, .connects 0 0 0]
    ++ (Client.joins 1 (ascii "Izumi") ++ Client.joins 2 (ascii "Ruka")
      ++ [Client.spawns 1 camp, Client.reports 1 .C2S_PlayerReady,
        Client.reports 2 .C2S_PlayerReady]).map Event.server
    ++ List.replicate 4 receives

/-- The world has a character without an owner, and the client is the only player. -/
def alone : List Event :=
  (Client.joins 1 (ascii "Izumi") ++ [Client.spawns 1 camp, .disconnect 1]).map Event.server
    ++ [.present, .connectAsync, .connects 0 0 0, shakesHands 0 (ascii "Beep")]
    ++ List.replicate 5 receives
    ++ [.gameLoaded [], .server (Client.reports 0 .C2S_PlayerReady)]

/-- A client that has loaded its game first never reports; a queue is drained without the game; and
a player who is alone on the server waits for ever. -/
theorem spawnsDrained_fails :
    ¬ ((machine GameClient.plainPages).run (boot {} none false) loadsFirst).Reported
      ∧ (((machine GameClient.plainPages).run (boot {} none false) startedEarly).Processes receives
        ∧ ((machine GameClient.plainPages).run (boot {} none false) startedEarly).client.gameLoaded
          = false)
      ∧ ((machine GameClient.plainPages).run (boot {} none false) alone).Stranded := by
  refine ⟨fun reported => ?_, ⟨⟨lit 1 1, lit 1 1, fun _ => lit 1 1,
    ⟨KMP_CHANNEL_RELIABLE_ORDERED, true, .allPlayersReady⟩, [], rfl, ?_, rfl, ?_⟩, ?_⟩,
    ⟨?_, ?_⟩, allReady_of_toList ?_, ?_⟩
  · exact absurd (reported (by decide +kernel) (by decide +kernel) (by decide +kernel)) (by decide +kernel)
  · decide +kernel
  · rw [ne_eq, ← List.length_eq_zero_iff]
    decide +kernel
  · decide +kernel
  · rw [ne_eq, ← List.length_eq_zero_iff]
    decide +kernel
  · decide +kernel
  · decide +kernel
  · have quiet : ((machine GameClient.plainPages).run (boot {} none false) alone).pending.all
        (fun packet => !packet.msg.drains) = true := by decide +kernel
    rintro ⟨packet, inside, drains⟩
    have silent := List.all_eq_true.mp quiet packet inside
    rw [drains] at silent
    cases silent

end Guest

end KenshiMP
