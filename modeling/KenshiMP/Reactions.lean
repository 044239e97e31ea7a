/-
**What an event can do to the system.**

`Reaction` is the inversion of the machine's step: a packet of a player has one of the effects of
`Effect`, a handshake may admit a player, a connection may open or end, an update may clean up
orphans, and everything else leaves owners, identities and identifiers alone. `react_reaction` is
the only place where the step function is taken apart; invariants go by cases on `Reaction`.
-/

import KenshiMP.Server.Effects
import KenshiMP.System

namespace KenshiMP

open Wire (Bytes)
open Assoc
open GameServer

/-! ### The update -/

namespace GameServer

variable (server : GameServer)

theorem quiet_broadcastPositions : Quiet server.broadcastPositions := by
  intro call inside
  obtain ⟨⟨id, player⟩, -, made⟩ := List.mem_filterMap.mp inside
  obtain ⟨packet, written, rfl⟩ := Option.map_eq_some_iff.mp made
  unfold positionPacket at written
  simp only at written
  split_ifs at written
  cases written
  rfl

theorem quiet_broadcastEntityHeartbeat : Quiet server.broadcastEntityHeartbeat := by
  intro call inside
  obtain ⟨⟨id, player⟩, -, sent⟩ := List.mem_flatMap.mp inside
  exact quiet_sendTo _ _ rfl call sent

open Binary.Flt (Bounded)

/-- The game speed is at most ten. -/
theorem gameSpeed_bounded (config : ServerConfig) : Bounded config.gameSpeed 153 := by
  have low := key_le_of_le config.gameSpeed_range.1
  have high := key_le_of_le config.gameSpeed_range.2
  have least : (lit 1 10).key = 0x3DCCCCCD := by decide +kernel
  have most : (lit 10 1).key = 0x41200000 := by decide +kernel
  refine ⟨isFinite_of_range low high (by rw [least]; decide) (by rw [most]; decide), ?_⟩
  rw [least] at low
  rw [most] at high
  have small : config.gameSpeed.mag ≤ 0x41200000 := by
    unfold Binary.Flt.key at low high
    split_ifs at low high <;> omega
  exact Binary.binary32.unitsOf_le_pow (k := 130) (Nat.le_trans (Nat.div_le_div_right small) (by decide))
    (by decide)

theorem seconds_bounded (elapsed : UInt64) : Bounded (seconds elapsed) 204 := by
  have whole : Bounded (Binary.Flt.ofInt elapsed.toNat : F32) 213 :=
    Binary.Flt.ofInt_bounded (j := 64) (by have := elapsed.toNat_lt; omega) (by decide)
  exact Binary.Flt.div_bounded (k := 158) whole (by decide +kernel) (by decide +kernel) (by decide)
    (by decide)

/-- Time passes, and the time of day stays finite. -/
theorem advanceTime_isFinite (elapsed : UInt64) (finite : server.timeOfDay.isFinite = true) :
    (server.advanceTime (seconds elapsed)).timeOfDay.isFinite = true := by
  have scaled := Binary.Flt.mul_bounded (i := 208) (seconds_bounded elapsed)
    (gameSpeed_bounded server.config) (by decide) (by decide)
  have step := Binary.Flt.div_bounded (k := 165) (i := 192) (y := lit 86400 1) scaled
    (by decide +kernel) (by decide +kernel) (by decide) (by decide)
  have advanced := Binary.Flt.add_isFinite finite step (by decide)
  unfold advanceTime
  simp only
  split_ifs
  · exact Binary.Flt.add_isFinite advanced (Binary.Flt.negate_bounded one_bounded) (by decide)
  · exact advanced

theorem keeps_advanceTime (elapsed : UInt64) : Keeps server (server.advanceTime (seconds elapsed)) :=
  ⟨rfl, fun _ => rfl, fun _ => rfl, rfl, rfl, fun _ => rfl, advanceTime_isFinite server elapsed⟩

theorem syncTime_spec (deltaTime : F32) :
    Keeps server (server.syncTime deltaTime).1 ∧ Quiet (server.syncTime deltaTime).2
      ∧ (server.syncTime deltaTime).1.entities = server.entities
      ∧ (server.syncTime deltaTime).1.players = server.players
      ∧ (server.syncTime deltaTime).1.nextEntityId = server.nextEntityId := by
  unfold syncTime
  simp only
  split_ifs
  · exact ⟨⟨rfl, fun _ => rfl, fun _ => rfl, rfl, rfl, fun _ => rfl, id⟩, quiet_broadcast _ rfl, rfl, rfl, rfl⟩
  · exact ⟨⟨rfl, fun _ => rfl, fun _ => rfl, rfl, rfl, fun _ => rfl, id⟩, quiet_nil, rfl, rfl, rfl⟩

theorem beatHeart_spec (deltaTime : F32) :
    Keeps server (server.beatHeart deltaTime).1 ∧ Quiet (server.beatHeart deltaTime).2
      ∧ (server.beatHeart deltaTime).1.entities = server.entities
      ∧ (server.beatHeart deltaTime).1.players = server.players
      ∧ (server.beatHeart deltaTime).1.nextEntityId = server.nextEntityId := by
  unfold beatHeart
  simp only
  split_ifs
  · exact ⟨⟨rfl, fun _ => rfl, fun _ => rfl, rfl, rfl, fun _ => rfl, id⟩, quiet_broadcastEntityHeartbeat _, rfl,
      rfl, rfl⟩
  · exact ⟨⟨rfl, fun _ => rfl, fun _ => rfl, rfl, rfl, fun _ => rfl, id⟩, quiet_nil, rfl, rfl, rfl⟩

theorem keeps_updatePings (roundTripTime : Peer → UInt32) :
    Keeps server (server.updatePings roundTripTime) := by
  refine ⟨rfl, fun id => ?_, fun id => ?_, rfl, rfl, fun _ => rfl, fun finite => finite⟩
  · show (AList.lookup id (AMap.mapVals _ server.players)).map _ = _
    rw [AMap.lookup_mapVals, Option.map_map]
    rfl
  · show (AList.lookup id (AMap.mapVals _ server.players)).map _ = _
    rw [AMap.lookup_mapVals, Option.map_map]
    rfl

/-- Who has no connected owner does not depend on what the players are doing. -/
theorem orphans_congr {before after : GameServer} (entities : after.entities = before.entities)
    (players : ∀ id, (after.players.lookup id).isNone = (before.players.lookup id).isNone) :
    after.orphans = before.orphans := by
  unfold orphans isOrphan
  rw [entities]
  simp only [players]

/-- What the end of an update does: it may erase the orphans, and says so. -/
theorem updateEnd_spec (elapsed : UInt64) (roundTripTime : Peer → UInt32) :
    ∃ erased calls, (erased = [] ∨ erased = server.orphans) ∧ Quiet calls
      ∧ (server.updateEnd (seconds elapsed) roundTripTime).2 = calls ++ erased.flatMap (fun eid =>
        broadcast KMP_CHANNEL_RELIABLE_ORDERED (.entityDespawn eid 2))
      ∧ (server.updateEnd (seconds elapsed) roundTripTime).1.entities
        = AMap.eraseAll erased server.entities
      ∧ Keeps server (server.updateEnd (seconds elapsed) roundTripTime).1
      ∧ (server.updateEnd (seconds elapsed) roundTripTime).1.nextEntityId = server.nextEntityId := by
  set advanced := server.advanceTime (seconds elapsed) with advancedEq
  obtain ⟨syncKeeps, syncQuiet, syncEntities, -, syncNext⟩ := advanced.syncTime_spec (seconds elapsed)
  set synced := (advanced.syncTime (seconds elapsed)).1
  obtain ⟨beatKeeps, beatQuiet, beatEntities, -, beatNext⟩ := synced.beatHeart_spec (seconds elapsed)
  set beaten := (synced.beatHeart (seconds elapsed)).1
  set pinged := beaten.updatePings roundTripTime with pingedEq
  have keeps : Keeps server pinged :=
    (((keeps_advanceTime server elapsed).trans syncKeeps).trans beatKeeps).trans
      (keeps_updatePings beaten roundTripTime)
  have entities : pinged.entities = server.entities := beatEntities.trans syncEntities
  have next : pinged.nextEntityId = server.nextEntityId := beatNext.trans syncNext
  have orphans : pinged.orphans = server.orphans := orphans_congr entities keeps.isNone
  have quiet : Quiet (advanced.broadcastPositions ++ (advanced.syncTime (seconds elapsed)).2
      ++ (synced.beatHeart (seconds elapsed)).2) :=
    ((quiet_broadcastPositions advanced).append syncQuiet).append beatQuiet
  have whole : server.updateEnd (seconds elapsed) roundTripTime
      = (((pinged.cleanUpOrphans (seconds elapsed)).1.autoSave (seconds elapsed)),
        advanced.broadcastPositions ++ (advanced.syncTime (seconds elapsed)).2
          ++ (synced.beatHeart (seconds elapsed)).2
          ++ (pinged.cleanUpOrphans (seconds elapsed)).2) := rfl
  rw [whole]
  clear_value pinged
  unfold cleanUpOrphans
  simp only
  split_ifs
  · refine ⟨pinged.orphans, _, Or.inr orphans, quiet, rfl, ?_, ?_, next⟩
    · show AMap.eraseAll pinged.orphans pinged.entities = _
      rw [entities]
    · exact ⟨keeps.peers, keeps.players, keeps.loopback, keeps.nextPlayerId, keeps.hostPlayerId,
        keeps.savedPlayers, keeps.time⟩
  · refine ⟨[], _, Or.inl rfl, quiet, ?_, entities, ?_, next⟩
    · rw [List.flatMap_nil]
    · exact ⟨keeps.peers, keeps.players, keeps.loopback, keeps.nextPlayerId, keeps.hostPlayerId,
        keeps.savedPlayers, keeps.time⟩

/-- An orphan is a stored entity of an owner that is not connected. -/
theorem mem_orphans {id : EntityID} :
    id ∈ server.orphans ↔ ∃ entity, server.entities.lookup id = some entity
      ∧ server.isOrphan entity = true := by
  unfold orphans
  rw [List.mem_filterMap]
  constructor
  · rintro ⟨⟨eid, entity⟩, member, made⟩
    simp only at made
    split_ifs at made with orphan
    cases made
    exact ⟨entity, AMap.mem_toList.mp member, orphan⟩
  · rintro ⟨entity, stored, orphan⟩
    refine ⟨(id, entity), AMap.mem_toList.mpr stored, ?_⟩
    simp only
    rw [if_pos orphan]

/-! ### Refusals -/

theorem quiet_reject (peer : Peer) (reasonCode : UInt8) (text : Bytes) :
    Quiet (reject peer reasonCode text) := quiet_cons rfl (quiet_cons rfl quiet_nil)

/-- A handshake that is not admitted is dropped or refused. -/
theorem handleHandshake_refused {peer : Peer} {reader : PacketReader} {created : PacketCreation}
    (refused : ∀ msg rest, reader.readRaw MsgHandshake.codec = some (msg, rest) →
      server.admits peer msg = false) :
    ∃ calls, Quiet calls ∧ server.handleHandshake peer reader created = (server, calls) := by
  unfold handleHandshake onMessage
  cases read : reader.readRaw MsgHandshake.codec with
  | none => exact ⟨[], quiet_nil, rfl⟩
  | some message =>
    have no := refused message.1 message.2 read
    simp only
    split_ifs with taken full version
    · exact ⟨[], quiet_nil, rfl⟩
    · exact ⟨_, quiet_reject _ _ _, rfl⟩
    · exact ⟨_, quiet_reject _ _ _, rfl⟩
    · rw [not_not] at taken version
      rw [Bool.not_eq_true] at full
      unfold admits at no
      simp [taken, full, version] at no

theorem handleHandshake_admitted {peer : Peer} {reader rest : PacketReader}
    {created : PacketCreation} {msg : MsgHandshake}
    (read : reader.readRaw MsgHandshake.codec = some (msg, rest))
    (admitted : server.admits peer msg = true) :
    server.handleHandshake peer reader created
      = server.seatPlayer peer (sanitizeName msg.playerName.1) created := by
  unfold admits at admitted
  simp only [Bool.and_eq_true, decide_eq_true_eq, Bool.not_eq_true'] at admitted
  obtain ⟨⟨free, room⟩, version⟩ := admitted
  unfold handleHandshake onMessage
  rw [read]
  simp [free, room, version]

theorem handleServerQuery_quiet (peer : Peer) (reader : PacketReader) :
    ∃ calls, Quiet calls ∧ server.handleServerQuery peer reader = (server, calls) := by
  unfold handleServerQuery onMessage
  cases reader.readRaw MsgServerQuery.codec with
  | none => exact ⟨[], quiet_nil, rfl⟩
  | some message => exact ⟨_, quiet_cons rfl (quiet_cons rfl quiet_nil), rfl⟩

/-- Most messages are for the player behind the slot, and are dropped when there is none. -/
theorem dispatch_needsPlayer {type : MessageType} (handshake : type ≠ .C2S_Handshake)
    (query : type ≠ .C2S_ServerQuery) (goodbye : type ≠ .C2S_Disconnect) (peer : Peer)
    (reader : PacketReader) (env : PacketEnv) :
    server.dispatch type peer reader env
      = match server.getPlayer peer with
        | none => (server, [])
        | some (key, player) => server.handlePlayerMessage type peer key player reader env := by
  cases type <;> first | rfl | contradiction

/-- **What is done with a packet**: a handshake that is admitted seats a player, a message of a player goes to
its handler, and anything else changes nothing. -/
theorem dispatch_cases {type : MessageType} {peer : Peer} {reader : PacketReader} {env : PacketEnv}
    {P : Outcome → Prop}
    (seated : ∀ msg rest, type = .C2S_Handshake → reader.readRaw MsgHandshake.codec = some (msg, rest) →
      server.admits peer msg = true →
      P (server.seatPlayer peer (sanitizeName msg.playerName.1) env.created))
    (quiet : ∀ calls, Quiet calls → P (server, calls))
    (message : ∀ key player, server.getPlayer peer = some (key, player) →
      P (server.handlePlayerMessage type peer key player reader env)) :
    P (server.dispatch type peer reader env) := by
  by_cases handshake : type = .C2S_Handshake
  · subst handshake
    show P (server.handleHandshake peer reader env.created)
    by_cases admitted : ∃ msg rest, reader.readRaw MsgHandshake.codec = some (msg, rest)
        ∧ server.admits peer msg = true
    · obtain ⟨msg, rest, read, admitted⟩ := admitted
      rw [handleHandshake_admitted server read admitted]
      exact seated msg rest rfl read admitted
    · obtain ⟨calls, silent, same⟩ := @handleHandshake_refused server peer reader env.created
        fun msg rest read => by
          by_contra yes
          exact admitted ⟨msg, rest, read, Bool.not_eq_false _ |>.mp yes⟩
      rw [same]
      exact quiet calls silent
  · by_cases query : type = .C2S_ServerQuery
    · subst query
      obtain ⟨calls, silent, same⟩ := handleServerQuery_quiet server peer reader
      show P (server.handleServerQuery peer reader)
      rw [same]
      exact quiet calls silent
    · by_cases goodbye : type = .C2S_Disconnect
      · subst goodbye
        exact quiet _ (quiet_cons rfl quiet_nil)
      · rw [dispatch_needsPlayer server handshake query goodbye]
        cases behind : server.getPlayer peer with
        | none => exact quiet [] quiet_nil
        | some found => exact message found.1 found.2 behind

/-- What a packet from the slot of a player does is nothing, or an effect of the player's. -/
theorem handlePacket_effect {peer : Peer} {key : PlayerID} {player : ConnectedPlayer}
    (behind : server.getPlayer peer = some (key, player)) (data : Bytes) (channel : Nat)
    (env : PacketEnv) :
    (server.handlePacket peer data channel env).1 = server
      ∨ ∃ type reader, openPacket data channel = some (type, reader)
        ∧ Effect server player type reader (server.handlePacket peer data channel env) := by
  unfold handlePacket
  cases opened : openPacket data channel with
  | none => exact Or.inl rfl
  | some packet =>
    obtain ⟨type, reader⟩ := packet
    refine dispatch_cases server
      (P := fun outcome => outcome.1 = server ∨ ∃ type' reader', some (type, reader) = some (type', reader')
        ∧ Effect server player type' reader' outcome)
      (fun msg rest _ _ admitted => ?_) (fun calls _ => Or.inl rfl) fun key' player' behind' => ?_
    · -- The slot is taken.
      unfold getPlayer at behind
      unfold admits at admitted
      simp only [Bool.and_eq_true, decide_eq_true_eq] at admitted
      rw [if_pos admitted.1.1] at behind
      cases behind
    · rw [behind] at behind'
      cases behind'
      exact Or.inr ⟨type, reader, rfl, handlePlayerMessage_effect ..⟩

end GameServer

/-! ### The inversion -/

/-- What an event does: the links it works on, the server after it, and the calls made. -/
inductive Reaction (sys : System) : Event → Links × Outcome → Prop
  | tend {event : Event} {after : GameServer} {calls : List Call} (keeps : Keeps sys.server after)
      (entities : Related Tended sys.server.entities after.entities)
      (nextEntityId : after.nextEntityId = sys.server.nextEntityId) (quiet : Quiet calls) :
      Reaction sys event (sys.links, (after, calls))
  | cleanUp {event : Event} {after : GameServer} {erased : List EntityID} {calls : List Call}
      (orphans : ∀ id ∈ erased, ∃ entity, sys.server.entities.lookup id = some entity
        ∧ sys.server.isOrphan entity = true)
      (keeps : Keeps sys.server after)
      (entities : after.entities = AMap.eraseAll erased sys.server.entities)
      (nextEntityId : after.nextEntityId = sys.server.nextEntityId) (quiet : Quiet calls) :
      Reaction sys event (sys.links, (after, calls ++ erased.flatMap fun eid =>
        broadcast KMP_CHANNEL_RELIABLE_ORDERED (.entityDespawn eid 2)))
  | message {peer : Peer} {data : Bytes} {channel : Nat} {env : PacketEnv} {type : MessageType}
      {reader : PacketReader} {key : PlayerID} {player : ConnectedPlayer} {outcome : Outcome}
      (received : sys.receives peer = true) (opened : openPacket data channel = some (type, reader))
      (behind : sys.server.getPlayer peer = some (key, player))
      (effect : Effect sys.server player type reader outcome) :
      Reaction sys (.packet peer data channel env) (sys.links, outcome)
  | seatPlayer {peer : Peer} {data : Bytes} {channel : Nat} {env : PacketEnv}
      {reader rest : PacketReader} {msg : MsgHandshake} (received : sys.receives peer = true)
      (opened : openPacket data channel = some (.C2S_Handshake, reader))
      (read : reader.readRaw MsgHandshake.codec = some (msg, rest))
      (admitted : sys.server.admits peer msg = true) :
      Reaction sys (.packet peer data channel env)
        (sys.links, sys.server.seatPlayer peer (sanitizeName msg.playerName.1) env.created)
  | connect {peer : Peer} {host roundTripTime : UInt32} (absent : sys.links.lookup peer = none) :
      Reaction sys (.connect peer host roundTripTime)
        (AList.insert peer {} sys.links, (sys.openSlot peer host roundTripTime).handleConnect peer)
  | leave {peer : Peer} {key : PlayerID} {player : ConnectedPlayer}
      (present : (sys.links.lookup peer).isSome = true)
      (behind : sys.server.getPlayer peer = some (key, player)) :
      Reaction sys (.disconnect peer)
        (AList.erase peer sys.links,
          ((sys.server.removePlayer player).1.setPeerData peer 0, (sys.server.removePlayer player).2))
  | depart {peer : Peer} (present : (sys.links.lookup peer).isSome = true)
      (nobody : sys.server.getPlayer peer = none) :
      Reaction sys (.disconnect peer)
        (AList.erase peer sys.links, (sys.server.setPeerData peer 0, []))

namespace System

variable (sys : System)

theorem reaction_quiet {event : Event} {calls : List Call} (quiet : Quiet calls) :
    Reaction sys event (sys.links, (sys.server, calls)) :=
  .tend (Keeps.refl _) (Related.refl Tended.refl _) rfl quiet

/-- A packet that is received. -/
theorem dispatch_reaction {peer : Peer} {data : Bytes} {channel : Nat} {env : PacketEnv}
    {type : MessageType} {reader : PacketReader} (received : sys.receives peer = true)
    (opened : openPacket data channel = some (type, reader)) :
    Reaction sys (.packet peer data channel env) (sys.links, sys.server.dispatch type peer reader env) := by
  refine dispatch_cases sys.server (P := fun outcome => Reaction sys _ (sys.links, outcome))
    (fun msg rest handshake read admitted => ?_) (fun calls quiet => sys.reaction_quiet quiet)
    fun key player behind => .message received opened behind (handlePlayerMessage_effect ..)
  subst handshake
  exact .seatPlayer received opened read admitted

/-- A packet of a player goes to the handler of its type. -/
theorem react_packet {data : Bytes} {channel : Nat} {env : PacketEnv} {type : MessageType}
    {reader : PacketReader} {peer : Peer} {key : PlayerID}
    {player : ConnectedPlayer} (received : sys.receives peer = true)
    (opened : openPacket data channel = some (type, reader))
    (handled : ∀ server : GameServer, server.dispatch type peer reader env
      = match server.getPlayer peer with
        | none => (server, [])
        | some (key, player) => server.handlePlayerMessage type peer key player reader env)
    (behind : sys.server.getPlayer peer = some (key, player)) :
    sys.react (.packet peer data channel env)
      = (sys.links, sys.server.handlePlayerMessage type peer key player reader env) := by
  unfold react handlePacket
  simp only
  rw [if_pos received, opened]
  simp only
  rw [handled, behind]

/-- **Every step is one of the seven reactions.** -/
theorem react_reaction (event : Event) : Reaction sys event (sys.react event) := by
  cases event with
  | connect peer host roundTripTime =>
    unfold react
    simp only
    split_ifs with present
    · exact sys.reaction_quiet quiet_nil
    · exact .connect (Option.not_isSome_iff_eq_none.mp present)
  | packet peer data channel env =>
    unfold react
    simp only
    split_ifs with received
    · unfold handlePacket
      cases opened : openPacket data channel with
      | none => exact sys.reaction_quiet quiet_nil
      | some packet => exact sys.dispatch_reaction received opened
    · exact sys.reaction_quiet quiet_nil
  | disconnect peer =>
    unfold react
    simp only
    split_ifs with present
    · unfold handleDisconnect
      cases behind : sys.server.getPlayer peer with
      | none => exact .depart present behind
      | some found => exact .leave present behind
    · exact sys.reaction_quiet quiet_nil
  | updateBegin elapsed =>
    exact .tend ⟨rfl, fun _ => rfl, fun _ => rfl, rfl, rfl, fun _ => rfl, id⟩ (Related.refl Tended.refl _) rfl
      quiet_nil
  | updateEnd elapsed roundTripTime =>
    obtain ⟨erased, calls, which, quiet, made, entities, keeps, next⟩ :=
      updateEnd_spec sys.server elapsed roundTripTime
    have whole : sys.react (.updateEnd elapsed roundTripTime)
        = (sys.links, ((sys.server.updateEnd (seconds elapsed) roundTripTime).1,
          calls ++ erased.flatMap fun eid =>
            broadcast KMP_CHANNEL_RELIABLE_ORDERED (.entityDespawn eid 2))) := by
      rw [← made]
      rfl
    rw [whole]
    refine .cleanUp (fun id inside => ?_) keeps entities next quiet
    rcases which with rfl | rfl
    · cases inside
    · exact (mem_orphans sys.server).mp inside
  | kick id =>
    unfold react kickPlayer
    simp only
    cases sys.server.players.lookup id with
    | none => exact sys.reaction_quiet quiet_nil
    | some player =>
      exact sys.reaction_quiet ((quiet_systemMessage _).append (quiet_cons rfl quiet_nil))
  | say line => exact sys.reaction_quiet (quiet_systemMessage _)
  | rehash players entities savedPlayers =>
    refine .tend ⟨rfl, fun id => ?_, fun id => ?_, rfl, rfl, fun name => ?_, id⟩ ?_ rfl quiet_nil
    · show (AList.lookup id (AMap.reorder players sys.server.players)).map _ = _
      rw [AMap.lookup_reorder]
    · show (AList.lookup id (AMap.reorder players sys.server.players)).map _ = _
      rw [AMap.lookup_reorder]
    · exact AMap.lookup_reorder _ _ _
    · refine ⟨AMap.size_reorder _ _, fun {id new} found => ?_, fun {id old} found => ?_⟩
      · exact ⟨new, by rwa [AMap.lookup_reorder] at found, Tended.refl new⟩
      · exact ⟨old, by rwa [AMap.lookup_reorder], Tended.refl old⟩

end System

end KenshiMP
