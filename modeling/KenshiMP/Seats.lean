/-
**Slots, and what each link is told of a step.**

A slot that holds a number belongs to the player of that number (`Seats`), as long as handshakes
succeed. `Notice` lists what a step can tell one link about numbers and the host: nothing, who is the
host, the number of its own client, or both.
-/

import KenshiMP.Hosts

namespace KenshiMP

open Wire (Bytes)
open Assoc
open GameServer
open Persistence
open KenshiMP.System

/-! ### Slots -/

/-- What a slot holds is the number of a player who came through it. -/
def Seated (server : GameServer) : Prop :=
  ∀ peer, server.peerData peer ≠ 0 → ∃ name,
    (server.players.lookup (server.peerData peer)).map ConnectedPlayer.identity
      = some (server.peerData peer, name, peer)

structure Seats (sys : System) : Prop where
  numbered : Numbered sys.server
  settled : Settled sys.server
  keyed : PlayersKeyed sys.server
  seated : Seated sys.server
  slotted : ∀ peer, (sys.links.lookup peer).isSome = true → (sys.server.peers.lookup peer).isSome = true

variable {server : GameServer} {peer : Peer} {event : Event} {sys : System}
  {outcome : Links × Outcome}

/-- Two slots do not hold one number. -/
theorem Seated.injective (seated : Seated server) {first second : Peer}
    (nonzero : server.peerData first ≠ 0) (same : server.peerData first = server.peerData second) :
    first = second := by
  obtain ⟨name, one⟩ := seated first nonzero
  obtain ⟨other, two⟩ := seated second (same ▸ nonzero)
  rw [same, two] at one
  exact (congrArg (fun found => found.2.2) (Option.some.inj one)).symm

theorem Seated.present (seated : Seated server) (nonzero : server.peerData peer ≠ 0) :
    (server.players.lookup (server.peerData peer)).isSome = true := by
  obtain ⟨name, known⟩ := seated peer nonzero
  rw [← Option.isSome_map (f := ConnectedPlayer.identity), known]
  rfl

theorem peerData_of_peers {before after : GameServer} (peers : after.peers = before.peers)
    (peer : Peer) : after.peerData peer = before.peerData peer := by
  unfold peerData
  rw [peers]

/-- A slot cleared, or a slot of nobody: the others hold what they held. -/
theorem peerData_cleared (server : GameServer) (peer other : Peer) :
    (server.setPeerData peer 0).peerData other
      = if other = peer then 0 else server.peerData other := by
  rw [peerData_setPeerData]
  by_cases same : other = peer
  · subst same
    cases slot : server.peers.lookup other with
    | none =>
      have free : server.peerData other = 0 := by
        unfold peerData
        rw [slot]
        rfl
      simp [free]
    | some found => simp
  · simp [same]

theorem peerData_openSlot (sys : System) (peer other : Peer) (host roundTripTime : UInt32) :
    (sys.openSlot peer host roundTripTime).peerData other = sys.server.peerData other := by
  unfold peerData openSlot
  simp only
  rw [AMap.lookup_insert_eq]
  split_ifs with same
  · rw [same]
    rfl
  · rfl

/-- A new connection clears its slot, or is refused. -/
theorem peerData_connect (sys : System) (peer other : Peer) (host roundTripTime : UInt32) :
    ((sys.openSlot peer host roundTripTime).handleConnect peer).1.peerData other
      = if other = peer ∧ sys.server.full = false then 0 else sys.server.peerData other := by
  have full : (sys.openSlot peer host roundTripTime).full = sys.server.full := rfl
  rcases (handleConnect_spec (sys.openSlot peer host roundTripTime) peer).1 with
    ⟨same, room⟩ | ⟨same, room⟩
  · rw [same, peerData_openSlot, if_neg]
    rintro ⟨-, free⟩
    rw [← full, room] at free
    cases free
  · rw [same, peerData_cleared, peerData_openSlot]
    by_cases here : other = peer
    · rw [if_pos here, if_pos ⟨here, full ▸ room⟩]
    · rw [if_neg here, if_neg fun both => here both.1]

/-- What the slots hold after an admission that succeeds. -/
theorem peerData_seatPlayer
    (slot : (server.peers.lookup peer).isSome = true) (name : Bytes) (other : Peer) :
    (server.seatPlayer peer name {}).1.peerData other
      = if other = peer then server.nextPlayerId else server.peerData other := by
  rw [(seatPlayer_spec server peer name {}).peerData]
  by_cases same : other = peer
  · rw [if_pos ⟨same, slot⟩, if_pos same]
    rfl
  · rw [if_neg fun both => same both.1, if_neg same]

theorem Seated.seatPlayer {server : GameServer} (seated : Seated server) (numbered : Numbered server)
    {peer : Peer} (slot : (server.peers.lookup peer).isSome = true) (name : Bytes) :
    Seated (server.seatPlayer peer name {}).1 := by
  have spec := seatPlayer_spec server peer name {}
  intro other nonzero
  by_cases same : other = peer
  · rw [peerData_seatPlayer slot, if_pos same, spec.players, if_pos rfl, same]
    exact ⟨name, rfl⟩
  · rw [peerData_seatPlayer slot, if_neg same] at nonzero ⊢
    have kept : server.peerData other ≠ server.nextPlayerId := by
      intro fresh
      have there := seated.present nonzero
      rw [fresh, numbered.unused] at there
      cases there
    rw [spec.others _ kept]
    exact seated other nonzero

/-- The players behind the other slots stay when one leaves. -/
theorem Seated.remove (seated : Seated server) (keyed : PlayersKeyed server)
    {key : PlayerID} {player : ConnectedPlayer} (behind : server.getPlayer peer = some (key, player)) :
    Seated ((server.removePlayer player).1.setPeerData peer 0) := by
  have spec := removePlayer_spec server player
  obtain ⟨-, same, slot, -⟩ := lookup_of_getPlayer keyed behind
  intro other nonzero
  rw [peerData_cleared, peerData_of_peers spec.peers] at nonzero ⊢
  by_cases leaving : other = peer
  · rw [if_pos leaving] at nonzero
    exact absurd rfl nonzero
  · rw [if_neg leaving] at nonzero ⊢
    show ∃ name, ((server.removePlayer player).1.players.lookup (server.peerData other)).map _ = _
    have kept : server.peerData other ≠ player.id := fun taken =>
      leaving (seated.injective nonzero (taken.trans (same.trans slot)))
    rw [spec.players, if_neg kept]
    exact seated other nonzero

/-! ### Links over one step -/

/-- The event ends the connection of this slot. -/
def Event.cuts (event : Event) (peer : Peer) : Bool :=
  match event with
  | .disconnect other => other = peer
  | _ => false

/-- A link that is not cut takes the calls of the step. -/
theorem lookup_next {link : Link}
    (stored : sys.links.lookup peer = some link) (kept : event.cuts peer = false) :
    (machine.next sys event).links.lookup peer = some (link.takeAll peer (machine.emit sys event)) := by
  have before : (sys.react event).1.lookup peer = some link := by
    cases event with
    | connect other host roundTripTime =>
      show (if (sys.links.lookup other).isSome = true then (sys.links, (sys.server, []))
        else (AList.insert other {} sys.links, _)).1.lookup peer = some link
      split_ifs with present
      · exact stored
      · show AList.lookup peer (AList.insert other {} sys.links) = some link
        rw [AMap.lookup_insert_eq, if_neg, stored]
        rintro rfl
        rw [stored] at present
        exact present rfl
    | packet other data channel env =>
      show (if sys.receives other = true then (sys.links, _) else (sys.links, _)).1.lookup peer = _
      split_ifs
      · exact stored
      · exact stored
    | disconnect other =>
      show (if (sys.links.lookup other).isSome = true then (AList.erase other sys.links, _)
        else (sys.links, _)).1.lookup peer = some link
      split_ifs
      · show AList.lookup peer (AList.erase other sys.links) = some link
        rw [AMap.lookup_erase_eq, if_neg, stored]
        rintro rfl
        exact absurd kept (by simp [Event.cuts])
      · exact stored
    | updateBegin elapsed => exact stored
    | updateEnd elapsed roundTripTime => exact stored
    | kick id => exact stored
    | say line => exact stored
    | rehash players entities savedPlayers => exact stored
  show ((sys.react event).1.performAll (sys.react event).2.2).lookup peer = _
  rw [lookup_performAll, before]
  rfl

/-- The links after a step were there before it, but for a new connection. -/
theorem isSome_lookup_next (attendance : Attendance sys event outcome)
    (there : ((carryOut outcome.1 outcome.2).links.lookup peer).isSome = true) :
    (sys.links.lookup peer).isSome = true
      ∨ ∃ host roundTripTime, event = .connect peer host roundTripTime ∧ sys.links.lookup peer = none := by
  have performed : (outcome.1.lookup peer).isSome = true := by
    have after : ((outcome.1.performAll outcome.2.2).lookup peer).isSome = true := there
    rwa [lookup_performAll, Option.isSome_map] at after
  cases attendance with
  | stay => exact Or.inl performed
  | seatPlayer => exact Or.inl performed
  | @connect other host roundTripTime absent =>
    by_cases same : peer = other
    · exact Or.inr ⟨host, roundTripTime, by rw [same], by rw [same, absent]⟩
    · refine Or.inl ?_
      have inserted : (AList.lookup peer (AList.insert other {} sys.links)).isSome = true := performed
      rwa [AMap.lookup_insert_eq, if_neg same] at inserted
  | @leave event other player leaves =>
    have erased : (AList.lookup peer (AList.erase other sys.links)).isSome = true := performed
    rw [AMap.lookup_erase_eq] at erased
    split_ifs at erased
    · cases erased
    · exact Or.inl erased
  | @depart other present nobody =>
    have erased : (AList.lookup peer (AList.erase other sys.links)).isSome = true := performed
    rw [AMap.lookup_erase_eq] at erased
    split_ifs at erased
    · cases erased
    · exact Or.inl erased

theorem isSome_openSlot (sys : System) (peer other : Peer) (host roundTripTime : UInt32) :
    (((sys.openSlot peer host roundTripTime).handleConnect peer).1.peers.lookup other).isSome
      = (decide (other = peer) || (sys.server.peers.lookup other).isSome) := by
  have opened : ((sys.openSlot peer host roundTripTime).peers.lookup other).isSome
      = (decide (other = peer) || (sys.server.peers.lookup other).isSome) := by
    show (AList.lookup other (AList.insert peer _ sys.server.peers)).isSome = _
    rw [AMap.lookup_insert_eq]
    split_ifs with same
    · simp [same]
    · simp [same]
  rcases (handleConnect_spec (sys.openSlot peer host roundTripTime) peer).1 with
    ⟨same, -⟩ | ⟨same, -⟩
  · rw [same]
    exact opened
  · rw [same, isSome_setPeerData]
    exact opened

/-- A slot that has been opened stays. -/
theorem slots_grow (attendance : Attendance sys event outcome)
    (there : (sys.server.peers.lookup peer).isSome = true) :
    (outcome.2.1.peers.lookup peer).isSome = true := by
  cases attendance with
  | stay table unseating =>
    rw [table.peers]
    exact there
  | @seatPlayer event slot name created admitted =>
    rw [(seatPlayer_spec sys.server slot name created).slots]
    exact there
  | @connect slot host roundTripTime absent =>
    rw [isSome_openSlot, there, Bool.or_true]
  | @leave event slot player leaves =>
    rw [isSome_setPeerData, (removePlayer_spec sys.server player).peers]
    exact there
  | @depart slot present nobody =>
    rw [isSome_setPeerData]
    exact there

theorem receives_present (received : sys.receives peer = true) : (sys.links.lookup peer).isSome = true := by
  unfold receives at received
  cases found : sys.links.lookup peer with
  | none =>
    rw [found] at received
    cases received
  | some link => rfl

theorem Seats.seated_next (seats : Seats sys) (joins : JoinsWell sys event)
    (attendance : Attendance sys event outcome) : Seated outcome.2.1 := by
  cases attendance with
  | stay table unseating =>
    intro peer nonzero
    rw [peerData_of_peers table.peers] at nonzero ⊢
    rw [table.players]
    exact seats.seated peer nonzero
  | @seatPlayer event slot name created admitted =>
    obtain ⟨ack, faction, -⟩ := joins slot name created admitted
    obtain rfl := created_of_joins ack faction
    obtain ⟨data, channel, env, reader, rest, msg, -, received, -⟩ := admitted
    exact seats.seated.seatPlayer seats.numbered (seats.slotted slot (receives_present received)) name
  | @connect slot host roundTripTime absent =>
    intro peer nonzero
    rw [peerData_connect] at nonzero ⊢
    rw [(connect_fields sys slot host roundTripTime).1]
    by_cases cleared : peer = slot ∧ sys.server.full = false
    · rw [if_pos cleared] at nonzero
      exact absurd rfl nonzero
    · rw [if_neg cleared] at nonzero ⊢
      exact seats.seated peer nonzero
  | @leave event slot player leaves =>
    obtain ⟨-, -, key, behind⟩ := leaves
    exact seats.seated.remove seats.keyed behind
  | @depart slot present nobody =>
    intro peer nonzero
    rw [peerData_cleared] at nonzero ⊢
    by_cases cleared : peer = slot
    · rw [if_pos cleared] at nonzero
      exact absurd rfl nonzero
    · rw [if_neg cleared] at nonzero ⊢
      exact seats.seated peer nonzero

/-- **One step.** -/
theorem Seats.next (seats : Seats sys) (joins : JoinsWell sys event) : Seats (machine.next sys event) := by
  have attendance := sys.react_attendance event
  refine ⟨seats.numbered.next joins, seats.settled.next seats.keyed fun peer name created admitted
    fails => ?_, seats.keyed.next (sys.react_reaction event), seats.seated_next joins attendance,
    fun peer there => ?_⟩
  · obtain ⟨ack, faction, -⟩ := joins peer name created admitted
    rw [ack, faction] at fails
    cases fails
  · show ((sys.react event).2.1.peers.lookup peer).isSome = true
    rcases isSome_lookup_next attendance there with before | ⟨host, roundTripTime, rfl, absent⟩
    · exact slots_grow attendance (seats.slotted peer before)
    · show ((if (sys.links.lookup peer).isSome = true then (sys.links, (sys.server, []))
        else (AList.insert peer {} sys.links,
          (sys.openSlot peer host roundTripTime).handleConnect peer)).2.1.peers.lookup peer).isSome
        = true
      rw [if_neg (by rw [absent]; decide), isSome_openSlot]
      simp

theorem boot_seats (config : ServerConfig) (file : Option Json.Value) : Seats (boot config file) := by
  obtain ⟨-, -, -, peers, -⟩ := loadWorld_fields { config := config } file
  refine ⟨(boot_hosts config file).2.1, boot_settled config file,
    Reachable.playersKeyed ⟨config, file, [], rfl⟩, fun peer nonzero => ?_, fun peer there => ?_⟩
  · have free : (boot config file).server.peerData peer = 0 := by
      rw [peerData_of_peers (show (boot config file).server.peers = ({} : GameServer).peers from peers)]
      rfl
    exact absurd free nonzero
  · cases there

/-! ### Notices -/

/-- What a step tells a link whose connection it leaves alone, with what the slot holds then and who
is the host. -/
inductive Notice (sys : System) (event : Event) (peer : Peer) (after : GameServer) : List Sent → Prop
  | nothing (slot : after.peerData peer = sys.server.peerData peer)
      (host : after.peerData peer ≠ 0 → after.hostPlayerId = sys.server.hostPlayerId) :
      Notice sys event peer after []
  | host (slot : after.peerData peer = sys.server.peerData peer)
      (named : after.hostPlayerId = sys.server.nextPlayerId ∨ ∃ other player rest first,
        Leaves sys event other player ∧ player.id = sys.server.hostPlayerId
          ∧ remaining sys.server player.id = (after.hostPlayerId, first) :: rest) :
      Notice sys event peer after [hostPacket after.hostPlayerId]
  | seat {ack : MsgHandshakeAck} (free : sys.server.peerData peer = 0)
      (given : ack.playerId = sys.server.nextPlayerId)
      (slot : after.peerData peer = sys.server.nextPlayerId)
      (host : after.hostPlayerId ≠ sys.server.nextPlayerId) :
      Notice sys event peer after [⟨KMP_CHANNEL_RELIABLE_ORDERED, true, .handshakeAck ack⟩]
  | both {ack : MsgHandshakeAck} (free : sys.server.peerData peer = 0)
      (given : ack.playerId = sys.server.nextPlayerId)
      (slot : after.peerData peer = sys.server.nextPlayerId)
      (host : after.hostPlayerId = sys.server.nextPlayerId) :
      Notice sys event peer after
        [⟨KMP_CHANNEL_RELIABLE_ORDERED, true, .handshakeAck ack⟩, hostPacket after.hostPlayerId]

variable (seats : Seats sys) (joins : JoinsWell sys event) (present : (sys.links.lookup peer).isSome = true)
  (kept : event.cuts peer = false)

include seats joins present kept

theorem notice_attendance (attendance : Attendance sys event outcome) :
    Notice sys event peer outcome.2.1 (seating (inbox peer outcome.2.2)) := by
  cases attendance with
  | stay table unseating =>
    rw [unseating.seating]
    exact .nothing (peerData_of_peers table.peers peer) fun _ => table.hostPlayerId
  | @seatPlayer event slot name created admitted =>
    obtain ⟨ack, faction, -⟩ := joins slot name created admitted
    obtain rfl := created_of_joins ack faction
    obtain ⟨data, channel, env, reader, rest, msg, -, received, -, -, admits, -⟩ := admitted
    have free : sys.server.peerData slot = 0 := by
      unfold GameServer.admits at admits
      simp only [Bool.and_eq_true, decide_eq_true_eq] at admits
      exact admits.1.1
    have held := peerData_seatPlayer (seats.slotted slot (receives_present received)) name peer
    have host := (seatPlayer_spec sys.server slot name {}).hostPlayerId
    obtain ⟨record, given, seats'⟩ := seating_seatPlayer sys.server slot peer name
    show Notice sys event peer (sys.server.seatPlayer slot name {}).1
      (seating (inbox peer (sys.server.seatPlayer slot name {}).2))
    rw [seats']
    cases moves : sys.server.movesHost slot name with
    | true =>
      rw [moves, if_pos rfl] at host
      rw [if_pos rfl, ← host]
      by_cases here : slot = peer
      · rw [if_pos here.symm] at held
        rw [if_pos here]
        exact .both (here ▸ free) given held host
      · rw [if_neg (Ne.symm here)] at held
        rw [if_neg here]
        exact .host held (Or.inl host)
    | false =>
      rw [moves, if_neg Bool.false_ne_true] at host
      rw [if_neg Bool.false_ne_true, List.append_nil]
      by_cases here : slot = peer
      · rw [if_pos here.symm] at held
        rw [if_pos here]
        refine .seat (here ▸ free) given held ?_
        rw [host]
        intro fresh
        rcases seats.settled.host with nobody | connected
        · exact seats.numbered.positive (fresh.symm.trans nobody)
        · rw [fresh, seats.numbered.unused] at connected
          cases connected
      · rw [if_neg (Ne.symm here)] at held
        rw [if_neg here]
        exact .nothing held fun _ => host
  | @connect slot host roundTripTime absent =>
    have different : peer ≠ slot := by
      rintro rfl
      rw [absent] at present
      cases present
    show Notice sys _ peer _ (seating (inbox peer ((sys.openSlot slot host roundTripTime).handleConnect
      slot).2))
    rw [(handleConnect_spec (sys.openSlot slot host roundTripTime) slot).2]
    refine .nothing ?_ fun _ => (connect_fields sys slot host roundTripTime).2.2
    rw [peerData_connect, if_neg fun both => different both.1]
  | @leave event slot player leaves =>
    have spec := removePlayer_spec sys.server player
    obtain ⟨walked, same⟩ := struck_fields sys.server player
    have different : peer ≠ slot := by
      rintro rfl
      rw [leaves.1] at kept
      simp [Event.cuts] at kept
    have held : ((sys.server.removePlayer player).1.setPeerData slot 0).peerData peer
        = sys.server.peerData peer := by
      rw [peerData_cleared, if_neg different, peerData_of_peers spec.peers]
    have host : ((sys.server.removePlayer player).1.setPeerData slot 0).hostPlayerId
        = (sys.server.struck player).successor player.id := spec.hostPlayerId
    show Notice sys event peer ((sys.server.removePlayer player).1.setPeerData slot 0)
      (seating (inbox peer (sys.server.removePlayer player).2))
    rw [seating_remove]
    rcases (sys.server.struck player).successor_cases player.id with
      ⟨-, stays, silent⟩ | ⟨-, empty, -, silent⟩ | ⟨first, stored, rest, leaver, walk, picked, news⟩
    · rw [silent]
      exact .nothing held fun _ => host.trans (stays.trans same)
    · rw [silent]
      refine .nothing held fun nonzero => ?_
      -- the player of this slot is still there, so the walk is not empty
      rw [held] at nonzero
      obtain ⟨-, -, key, behind⟩ := leaves
      obtain ⟨-, own, slotOf, -⟩ := lookup_of_getPlayer seats.keyed behind
      obtain ⟨other, stored⟩ := Option.isSome_iff_exists.mp (seats.seated.present nonzero)
      have inside : (sys.server.peerData peer, other) ∈ remaining sys.server player.id :=
        mem_remaining.mpr ⟨fun taken => different (seats.seated.injective nonzero
          (taken.trans (own.trans slotOf))), stored⟩
      rw [walked] at empty
      unfold remaining at inside
      rw [empty] at inside
      cases inside
    · rw [picked] at host
      rw [news, ← host]
      rw [walked] at walk
      rw [same] at leaver
      exact .host held (Or.inr ⟨slot, player, rest, stored, leaves, leaver, host ▸ walk⟩)
  | @depart slot nobodyHere nobody =>
    have different : peer ≠ slot := by
      rintro rfl
      simp [Event.cuts] at kept
    refine .nothing ?_ fun _ => rfl
    rw [peerData_cleared, if_neg different]

theorem Seats.notice :
    Notice sys event peer (machine.next sys event).server (seating (inbox peer (machine.emit sys event))) :=
  notice_attendance seats joins present kept (sys.react_attendance event)

end KenshiMP
