/-
**Who is on the server, and what the links have been told about it.**

Of the seven reactions only two change the table of players, the counter of its keys and the host:
an admission and a departure (`Attendance`). Only they say who has joined and who is the host.

A call concerns each link by itself (`lookup_performAll`), and what a link holds while it is still
connected is what it held before with the packets of the calls that were for it behind
(`takeAll_connected`).
-/

import KenshiMP.Client.Core
import KenshiMP.Invariants

namespace KenshiMP

open Wire (Bytes)
open Assoc
open GameServer

/-! ### What calls do to one link -/

/-- The packet a call queues for a slot. -/
def Call.packetFor (peer : Peer) : Call → Option Sent
  | .broadcast packet => some packet
  | .send other packet => if other = peer then some packet else none
  | .disconnect _ | .disconnectLater _ => none

/-- The packets of calls for a slot, in order. -/
def inbox (peer : Peer) (calls : List Call) : List Sent := calls.filterMap (Call.packetFor peer)

theorem inbox_append (peer : Peer) (first second : List Call) :
    inbox peer (first ++ second) = inbox peer first ++ inbox peer second := List.filterMap_append

/-- What a call does to the link of a slot. -/
def Link.take (peer : Peer) (call : Call) (link : Link) : Link :=
  match call with
  | .broadcast packet => link.push packet
  | .send other packet => if peer = other then link.push packet else link
  | .disconnect other => if peer = other then link.cut else link
  | .disconnectLater other => if peer = other then link.cutLater else link

def Link.takeAll (peer : Peer) (calls : List Call) (link : Link) : Link :=
  calls.foldl (fun link call => link.take peer call) link

theorem lookup_perform (links : Links) (call : Call) (peer : Peer) :
    (links.perform call).lookup peer = (links.lookup peer).map (Link.take peer call) := by
  cases call with
  | broadcast packet => exact AMap.lookup_mapVals _ _ _
  | send other packet => exact AMap.lookup_modify _ _ _ _
  | disconnect other => exact AMap.lookup_modify _ _ _ _
  | disconnectLater other => exact AMap.lookup_modify _ _ _ _

theorem lookup_performAll (links : Links) (calls : List Call) (peer : Peer) :
    (links.performAll calls).lookup peer = (links.lookup peer).map (Link.takeAll peer calls) := by
  induction calls generalizing links with
  | nil =>
    show links.lookup peer = (links.lookup peer).map (Link.takeAll peer [])
    cases links.lookup peer with
    | none => rfl
    | some link => rfl
  | cons call rest ih =>
    show ((links.perform call).performAll rest).lookup peer = _
    rw [ih, lookup_perform, Option.map_map]
    rfl

/-- A link that is connected after a call has taken its packet. -/
theorem take_connected {peer : Peer} {call : Call} {link : Link}
    (still : (link.take peer call).state = .connected) :
    link.state = .connected ∧ (link.take peer call).sent = link.sent ++ (call.packetFor peer).toList := by
  have pushed {packet : Sent} (still : (link.push packet).state = .connected) :
      link.state = .connected ∧ (link.push packet).sent = link.sent ++ [packet] := by
    unfold Link.push at still ⊢
    split_ifs at still ⊢ with connected
    · exact ⟨connected, rfl⟩
    · exact absurd still connected
  cases call with
  | broadcast packet => exact pushed still
  | send other packet =>
    unfold Link.take Call.packetFor at *
    simp only at still ⊢
    by_cases same : peer = other
    · rw [if_pos same] at still ⊢
      rw [if_pos same.symm]
      exact pushed still
    · rw [if_neg same] at still ⊢
      rw [if_neg (Ne.symm same)]
      exact ⟨still, (List.append_nil _).symm⟩
  | disconnect other =>
    unfold Link.take at *
    simp only at still ⊢
    split_ifs at still ⊢
    · cases still
    · exact ⟨still, (List.append_nil _).symm⟩
  | disconnectLater other =>
    unfold Link.take at *
    simp only at still ⊢
    by_cases here : peer = other
    · rw [if_pos here] at still
      unfold Link.cutLater at still
      split_ifs at still with connected
      exact absurd still connected
    · rw [if_neg here] at still ⊢
      exact ⟨still, (List.append_nil _).symm⟩

/-- A call that leaves a link closed has pushed nothing to it. -/
theorem take_closed {peer : Peer} {call : Call} {link : Link}
    (closed : (link.take peer call).state ≠ .connected) :
    (link.take peer call).sent = link.sent := by
  have pushed {packet : Sent} (closed : (link.push packet).state ≠ .connected) :
      (link.push packet).sent = link.sent := by
    unfold Link.push at closed ⊢
    split_ifs at closed ⊢ with connected
    · exact absurd connected closed
    · rfl
  cases call with
  | broadcast packet => exact pushed closed
  | send other packet =>
    unfold Link.take at *
    simp only at closed ⊢
    split_ifs at closed ⊢
    · exact pushed closed
    · rfl
  | disconnect other =>
    unfold Link.take
    simp only
    split_ifs
    · rfl
    · rfl
  | disconnectLater other =>
    unfold Link.take Link.cutLater
    simp only
    split_ifs
    · rfl
    · rfl
    · rfl

theorem takeAll_connected {peer : Peer} {calls : List Call} {link : Link}
    (still : (link.takeAll peer calls).state = .connected) :
    link.state = .connected ∧ (link.takeAll peer calls).sent = link.sent ++ inbox peer calls := by
  induction calls generalizing link with
  | nil => exact ⟨still, (List.append_nil _).symm⟩
  | cons call rest ih =>
    obtain ⟨connected, sent⟩ := @ih (link.take peer call) still
    obtain ⟨before, taken⟩ := take_connected connected
    refine ⟨before, ?_⟩
    show ((link.take peer call).takeAll peer rest).sent = _
    rw [sent, taken, List.append_assoc]
    congr 1
    unfold inbox
    rw [List.filterMap_cons]
    cases call.packetFor peer with
    | none => rfl
    | some packet => rfl

/-- A link takes at most the packets that are for it, and none once it is closing. -/
theorem takeAll_sent (peer : Peer) (calls : List Call) (link : Link) :
    ∃ more rest, (link.takeAll peer calls).sent = link.sent ++ more
      ∧ inbox peer calls = more ++ rest ∧ (link.state ≠ .connected → more = []) := by
  induction calls generalizing link with
  | nil => exact ⟨[], [], (List.append_nil _).symm, rfl, fun _ => rfl⟩
  | cons call later ih =>
    have one : inbox peer (call :: later) = (call.packetFor peer).toList ++ inbox peer later := by
      unfold inbox
      rw [List.filterMap_cons]
      cases call.packetFor peer with
      | none => rfl
      | some packet => rfl
    obtain ⟨more, rest, sent, behind, closing⟩ := ih (link.take peer call)
    have whole : (link.takeAll peer (call :: later)).sent = (link.take peer call).sent ++ more := sent
    by_cases connected : (link.take peer call).state = .connected
    · obtain ⟨before, taken⟩ := take_connected connected
      refine ⟨(call.packetFor peer).toList ++ more, rest, ?_, ?_, fun cut => absurd before cut⟩
      · rw [whole, taken, List.append_assoc]
      · rw [one, behind, List.append_assoc]
    · rw [closing connected, List.append_nil] at whole
      refine ⟨[], inbox peer (call :: later), ?_, rfl, fun _ => rfl⟩
      rw [whole, List.append_nil]
      exact take_closed connected

/-- Where the packets of a connected link come from. -/
theorem link_performAll {links : Links} {calls : List Call} {peer : Peer} {link : Link}
    (found : (links.performAll calls).lookup peer = some link) (connected : link.state = .connected) :
    ∃ old, links.lookup peer = some old ∧ old.state = .connected
      ∧ link.sent = old.sent ++ inbox peer calls := by
  rw [lookup_performAll] at found
  obtain ⟨old, stored, rfl⟩ := Option.map_eq_some_iff.mp found
  obtain ⟨before, sent⟩ := takeAll_connected connected
  exact ⟨old, stored, before, sent⟩

/-! ### What calls do not say -/

def S2C.introduces : S2C → Bool
  | .entitySpawn _ => true
  | _ => false

/-- None of the packets is of this kind. -/
def Without (kind : S2C → Bool) (calls : List Call) : Prop :=
  ∀ peer, ∀ packet ∈ inbox peer calls, kind packet.msg = false

section Without

variable {kind : S2C → Bool}

theorem without_of_calls {calls : List Call}
    (silent : ∀ call ∈ calls, ∀ peer packet, call.packetFor peer = some packet →
      kind packet.msg = false) : Without kind calls := by
  intro peer packet inside
  obtain ⟨call, member, sent⟩ := List.mem_filterMap.mp inside
  exact silent call member peer packet sent

theorem Without.append {first second : List Call} (one : Without kind first)
    (two : Without kind second) : Without kind (first ++ second) := by
  intro peer packet inside
  rw [inbox_append] at inside
  rcases List.mem_append.mp inside with inside | inside
  · exact one peer packet inside
  · exact two peer packet inside

theorem without_nil : Without kind [] := fun _ _ inside => (nomatch inside)

theorem without_broadcast (channel : Nat) {msg : S2C} (silent : kind msg = false) :
    Without kind (broadcast channel msg) := by
  intro peer packet inside
  rw [List.mem_singleton.mp inside]
  exact silent

theorem without_send {peer : Peer} {packet : Sent} (silent : kind packet.msg = false) :
    ∀ other sent, (Call.send peer packet).packetFor other = some sent → kind sent.msg = false := by
  intro other sent made
  simp only [Call.packetFor] at made
  split_ifs at made
  cases made
  exact silent

theorem without_broadcastExcept (server : GameServer) (exclude : PlayerID) (channel : Nat)
    {msg : S2C} (silent : kind msg = false) :
    Without kind (server.broadcastExcept exclude channel msg) := by
  refine without_of_calls fun call inside => ?_
  obtain ⟨⟨id, other⟩, -, made⟩ := List.mem_filterMap.mp inside
  simp only at made
  split_ifs at made
  cases made
  exact without_send silent

theorem without_snapshot (server : GameServer) (player : ConnectedPlayer)
    (spawn : ∀ id entity, server.entities.lookup id = some entity → kind (.entitySpawn (entityRecord entity)) = false)
    (equipment : ∀ msg, kind (.equipmentUpdate msg) = false) :
    Without kind (server.sendWorldSnapshot player) := by
  refine without_of_calls fun call inside => ?_
  rcases mem_sendWorldSnapshot server player inside with ⟨id, entity, stored, rfl⟩ | ⟨msg, rfl⟩
  · exact without_send (spawn id entity stored)
  · exact without_send (equipment msg)

/-- A newcomer is introduced to the others and they to the newcomer, with a snapshot and a line of text. -/
theorem without_welcome {server : GameServer} {player : ConnectedPlayer}
    (joined : ∀ id name, kind (.playerJoined id name) = false) (line : ∀ text, kind (.systemMessage text) = false)
    (snapshot : Without kind (server.sendWorldSnapshot player)) : Without kind (server.welcome player) := by
  have others : Without kind (server.introduceOthers player.peer player.id) := by
    refine without_of_calls fun call inside => ?_
    obtain ⟨⟨id, existing⟩, -, made⟩ := List.mem_filterMap.mp inside
    simp only at made
    split_ifs at made
    cases made
    exact without_send (joined _ _)
  exact (((without_broadcastExcept _ _ _ (joined _ _)).append others).append snapshot).append
    (without_broadcast _ (line _))

variable (silent : ∀ msg, msg.seats = false → msg.introduces = false → kind msg = false)

include silent

theorem without_quiet {calls : List Call} (quiet : Quiet calls) : Without kind calls := by
  refine without_of_calls fun call inside peer packet sent => ?_
  have noNews := quiet call inside
  have none {msg : S2C} (noNews : msg.isNews = false) : kind msg = false := by
    cases msg with
    | handshakeAck ack => cases noNews
    | hostAssignment id => cases noNews
    | entitySpawn record => cases noNews
    | _ => exact silent _ rfl rfl
  cases call with
  | broadcast other =>
    cases sent
    exact none noNews
  | send other made =>
    simp only [Call.packetFor] at sent
    split_ifs at sent
    cases sent
    exact none noNews
  | disconnect other => cases sent
  | disconnectLater other => cases sent

theorem without_cleanUp (erased : List EntityID) :
    Without kind (erased.flatMap fun eid => broadcast KMP_CHANNEL_RELIABLE_ORDERED (.entityDespawn eid 2)) := by
  refine without_of_calls fun call inside peer packet sent => ?_
  obtain ⟨eid, -, made⟩ := List.mem_flatMap.mp inside
  rw [List.mem_singleton.mp made] at sent
  cases sent
  exact silent _ rfl rfl

/-- A message of a player tells of stored entities and of a new one, if of anything of the kind. -/
theorem Effect.without {server : GameServer} {player : ConnectedPlayer} {type : MessageType}
    {reader : PacketReader} {outcome : Outcome} (effect : Effect server player type reader outcome)
    (stored : ∀ id entity, outcome.1.entities.lookup id = some entity →
      kind (.entitySpawn (entityRecord entity)) = false)
    (created : ∀ request : SpawnRequest, readSpawnRequest reader = some request →
      outcome.1.entities.lookup server.nextEntityId = some (request.entity server.nextEntityId player.id) →
      kind (.entitySpawn (request.record server.nextEntityId player.id)) = false) : Without kind outcome.2 := by
  cases effect with
  | tend keeps entities next quiet => exact without_quiet silent quiet
  | announce there =>
    refine without_of_calls fun call inside => ?_
    obtain ⟨id, entity, found, -, rfl⟩ := there call inside
    exact without_send (stored id entity found)
  | wound read may quiet => exact without_quiet silent quiet
  | strike =>
    refine (without_broadcast _ (silent _ rfl rfl)).append ?_
    split_ifs
    · exact without_broadcast _ (silent _ rfl rfl)
    · exact without_broadcast _ (silent _ rfl rfl)
    · exact without_nil
  | kill => exact without_broadcast _ (silent _ rfl rfl)
  | @spawn reader after request read accepted keeps entities =>
    refine without_broadcast _ (created request read ?_)
    show AList.lookup _ after.entities = _
    rw [entities, AList.lookup_insert]
  | build => exact without_broadcastExcept _ _ _ (silent _ rfl rfl)
  | despawn => exact without_broadcast _ (silent _ rfl rfl)
  | dismantle => exact without_broadcastExcept _ _ _ (silent _ rfl rfl)

end Without

/-! ### Who has joined and who is the host -/

/-- No call tells a client its number or who is the host. -/
def Unseating (calls : List Call) : Prop :=
  ∀ peer, ∀ packet ∈ inbox peer calls, packet.msg.seats = false

theorem unseating_quiet {calls : List Call} (quiet : Quiet calls) : Unseating calls :=
  without_quiet (fun _ none _ => none) quiet

theorem Unseating.seating {calls : List Call} (silent : Unseating calls) (peer : Peer) :
    seating (inbox peer calls) = [] :=
  List.filter_eq_nil_iff.mpr fun packet inside => by
    rw [silent peer packet inside]
    exact Bool.false_ne_true

/-- A broadcast about the host. -/
def hostPacket (id : PlayerID) : Sent := ⟨KMP_CHANNEL_RELIABLE_ORDERED, true, .hostAssignment id⟩

/-- An admission tells the new player their number, and everybody who is the host if that changes. -/
theorem seating_seatPlayer (server : GameServer) (peer other : Peer) (name : Bytes) :
    ∃ ack : MsgHandshakeAck, ack.playerId = server.nextPlayerId
      ∧ seating (inbox other (server.seatPlayer peer name {}).2)
        = (if peer = other then [⟨KMP_CHANNEL_RELIABLE_ORDERED, true, .handshakeAck ack⟩] else [])
          ++ (if server.movesHost peer name then [hostPacket server.nextPlayerId] else []) := by
  obtain ⟨first, last, firstQuiet, lastQuiet, calls⟩ := seatPlayer_calls server peer name {}
  have news : seating (inbox other (server.hostNews peer name))
      = if server.movesHost peer name then [hostPacket server.nextPlayerId] else [] := by
    unfold hostNews
    split_ifs with moves
    · have host : (server.hosted peer name).hostPlayerId = server.nextPlayerId := by
        rw [(hosted_spec server peer name).hostPlayerId, if_pos moves]
      unfold broadcastHostAssignment
      rw [host]
      rfl
    · rfl
  refine ⟨⟨server.nextPlayerId, (server.hosted peer name).serverTick,
    (server.hosted peer name).timeOfDay, (server.hosted peer name).weatherState,
    UInt8.ofNat (server.hosted peer name).config.maxPlayers,
    UInt8.ofNat (server.hosted peer name).players.size⟩, rfl, ?_⟩
  rw [calls, if_pos rfl, if_pos rfl, ← List.singleton_append]
  simp only [inbox_append, seating_append, news, (unseating_quiet firstQuiet).seating,
    (unseating_quiet lastQuiet).seating, Unseating.seating (without_snapshot _ _ (fun _ _ _ => rfl) fun _ => rfl), List.append_nil]
  congr 1
  show seating ([(server.hosted peer name).handshakeAck peer server.nextPlayerId].filterMap
    (Call.packetFor other)) = _
  rw [List.filterMap_cons, List.filterMap_nil]
  by_cases here : peer = other
  · rw [if_pos here, show Call.packetFor other ((server.hosted peer name).handshakeAck peer
      server.nextPlayerId) = some _ from if_pos here]
    rfl
  · rw [if_neg here, show Call.packetFor other ((server.hosted peer name).handshakeAck peer
      server.nextPlayerId) = none from if_neg here]
    rfl

/-- A departure tells everybody who is the host if that changes. -/
theorem seating_remove (server : GameServer) (player : ConnectedPlayer) (peer : Peer) :
    seating (inbox peer (server.removePlayer player).2)
      = seating (inbox peer ((server.struck player).successorNews player.id)) := by
  obtain ⟨first, last, firstQuiet, lastQuiet, calls⟩ := removePlayer_calls server player
  have farewell : Unseating (server.broadcastExcept player.id KMP_CHANNEL_RELIABLE_ORDERED
      (.playerLeft player.id 0)) := without_broadcastExcept _ _ _ rfl
  rw [calls]
  simp only [inbox_append, seating_append, (unseating_quiet firstQuiet).seating,
    (unseating_quiet lastQuiet).seating, farewell.seating, List.append_nil, List.nil_append]

/-! ### Attendance -/

/-- The players, the counter of their keys and the host are as they were. -/
structure SameTable (before after : GameServer) : Prop where
  peers : after.peers = before.peers
  players : ∀ id, (after.players.lookup id).map ConnectedPlayer.identity
    = (before.players.lookup id).map ConnectedPlayer.identity
  loopback : ∀ id, (after.players.lookup id).map ConnectedPlayer.isLoopback
    = (before.players.lookup id).map ConnectedPlayer.isLoopback
  nextPlayerId : after.nextPlayerId = before.nextPlayerId
  hostPlayerId : after.hostPlayerId = before.hostPlayerId

theorem Keeps.sameTable {before after : GameServer} (keeps : Keeps before after) : SameTable before after :=
  ⟨keeps.peers, keeps.players, keeps.loopback, keeps.nextPlayerId, keeps.hostPlayerId⟩

theorem SameTable.isSome {before after : GameServer} (table : SameTable before after)
    (id : PlayerID) : (after.players.lookup id).isSome = (before.players.lookup id).isSome := by
  have same := congrArg Option.isSome (table.players id)
  rwa [Option.isSome_map, Option.isSome_map] at same

/-- A new connection changes at most what its slot holds, and queues nothing. -/
theorem handleConnect_spec (server : GameServer) (peer : Peer) :
    ((server.handleConnect peer = (server, [.disconnect peer]) ∧ server.full = true)
      ∨ (server.handleConnect peer = (server.setPeerData peer 0, []) ∧ server.full = false))
      ∧ ∀ other, inbox other (server.handleConnect peer).2 = [] := by
  unfold handleConnect
  cases server.full with
  | true => exact ⟨Or.inl ⟨rfl, rfl⟩, fun _ => rfl⟩
  | false => exact ⟨Or.inr ⟨rfl, rfl⟩, fun _ => rfl⟩

theorem connect_fields (sys : System) (peer : Peer) (host roundTripTime : UInt32) :
    ((sys.openSlot peer host roundTripTime).handleConnect peer).1.players = sys.server.players
      ∧ ((sys.openSlot peer host roundTripTime).handleConnect peer).1.nextPlayerId
        = sys.server.nextPlayerId
      ∧ ((sys.openSlot peer host roundTripTime).handleConnect peer).1.hostPlayerId
        = sys.server.hostPlayerId := by
  unfold handleConnect
  split_ifs
  · exact ⟨rfl, rfl, rfl⟩
  · exact ⟨rfl, rfl, rfl⟩

/-- What an event does to the attendance. -/
inductive Attendance (sys : System) : Event → Links × Outcome → Prop
  | stay {event : Event} {outcome : Outcome} (table : SameTable sys.server outcome.1)
      (unseating : Unseating outcome.2) : Attendance sys event (sys.links, outcome)
  | seatPlayer {event : Event} {peer : Peer} {name : Bytes} {created : PacketCreation}
      (admitted : HandshakeAdmitted sys event peer name created) :
      Attendance sys event (sys.links, sys.server.seatPlayer peer name created)
  | connect {peer : Peer} {host roundTripTime : UInt32} (absent : sys.links.lookup peer = none) :
      Attendance sys (.connect peer host roundTripTime)
        (AList.insert peer {} sys.links, (sys.openSlot peer host roundTripTime).handleConnect peer)
  | leave {event : Event} {peer : Peer} {player : ConnectedPlayer}
      (leaves : Leaves sys event peer player) :
      Attendance sys event
        (AList.erase peer sys.links,
          ((sys.server.removePlayer player).1.setPeerData peer 0, (sys.server.removePlayer player).2))
  | depart {peer : Peer} (present : (sys.links.lookup peer).isSome = true)
      (nobody : sys.server.getPlayer peer = none) :
      Attendance sys (.disconnect peer)
        (AList.erase peer sys.links, (sys.server.setPeerData peer 0, []))

/-- **The attendance changes by an admission or a departure.** -/
theorem System.react_attendance (sys : System) (event : Event) : Attendance sys event (sys.react event) := by
  have attended {outcome : Links × Outcome} (reaction : Reaction sys event outcome) :
      Attendance sys event outcome := by
    cases reaction with
    | tend keeps entities next quiet => exact .stay keeps.sameTable (unseating_quiet quiet)
    | cleanUp orphans keeps entities next quiet =>
      exact .stay keeps.sameTable (Without.append (unseating_quiet quiet) (without_cleanUp (fun _ none _ => none) _))
    | message received opened behind effect =>
      exact .stay effect.keeps.sameTable
        (effect.without (fun _ none _ => none) (fun _ _ _ => rfl) fun _ _ _ => rfl)
    | seatPlayer received opened read admitted =>
      exact .seatPlayer ⟨_, _, _, _, _, _, rfl, received, opened, read, admitted, rfl, rfl⟩
    | connect absent => exact .connect absent
    | leave present behind => exact .leave ⟨rfl, present, _, behind⟩
    | depart present nobody => exact .depart present nobody
  exact attended (sys.react_reaction event)

end KenshiMP
