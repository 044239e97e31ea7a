/-
**Which faction each player is given.**

A handshake sends the faction of one of two slots, chosen by the parity of the new identifier
(`assigned_text`), and every player has been sent one (`assigned_run`). Identifiers only grow, so two
players who stay while others come and go may have got the same. The names of the server carry an
ending that the client's table lacks: no client finds its characters (`factionsSplit_iff`).
-/

import KenshiMP.Attendance
import KenshiMP.Client.SharedSave

namespace KenshiMP

open Wire (Bytes ascii)
open Assoc
open GameServer
open KenshiMP.System

/-! ### Two players of one save -/

/-- In a run, what the handshake of a player sent about the faction; they have stayed ever since. -/
def Assigned (start : System) (events : List Event) (key : PlayerID) (player : ConnectedPlayer)
    (text : Bytes) (slot : Int32) : Prop :=
  ∃ before event name created after, events = before ++ event :: after
    ∧ HandshakeAdmitted (machine.run start before) event player.peer name created
    ∧ (machine.run start before).server.nextPlayerId = key
    ∧ ⟨KMP_CHANNEL_RELIABLE_ORDERED, true, .factionAssignment text slot⟩
      ∈ inbox player.peer (machine.emit (machine.run start before) event)
    ∧ ∀ count, ((machine.run start (before ++ event :: after.take count)).server.players.lookup
        key).map ConnectedPlayer.identity = some player.identity

/-- The two parts of a client that the faction concerns. -/
structure SaveClient where
  lobby : LobbyManager := {}
  sync : SharedSaveSync := {}

/-- A client receives its faction and takes the names from it. -/
def SaveClient.resolve (client : SaveClient) (text : Bytes) (slot : Int32) : SharedSaveSync :=
  client.sync.init (client.lobby.handleFactionAssignment text slot)

/-- Each of the two has both names, and one's own name is the one that the other looks for. -/
def NamesCross (first second : SharedSaveSync) : Prop :=
  first.ownCharName ≠ [] ∧ first.otherCharName ≠ [] ∧ second.ownCharName ≠ []
    ∧ second.otherCharName ≠ [] ∧ first.ownCharName = second.otherCharName
    ∧ second.ownCharName = first.otherCharName

/-- When two players are connected, they were sent different factions and look for each other. -/
def FactionsSplit (client other : SaveClient) (start : System) (events : List Event) : Prop :=
  (machine.run start events).server.players.size = 2 →
    ∀ key player otherKey otherPlayer,
      (machine.run start events).server.players.lookup key = some player →
      (machine.run start events).server.players.lookup otherKey = some otherPlayer →
      key ≠ otherKey →
      ∃ text slot otherText otherSlot, Assigned start events key player text slot
        ∧ Assigned start events otherKey otherPlayer otherText otherSlot ∧ text ≠ otherText
        ∧ NamesCross (client.resolve text slot) (other.resolve otherText otherSlot)

/-! ### What a handshake says about the faction -/

def S2C.assigns : S2C → Bool
  | .factionAssignment _ _ => true
  | _ => false

/-- Up to the faction an admission says nothing of it. -/
theorem without_assigns_acked (server : GameServer) (peer : Peer) (id : PlayerID) (moves : Bool) :
    Without S2C.assigns (server.handshakeAck peer id ::
      (if moves then server.broadcastHostAssignment else [])) := by
  have ack : Without S2C.assigns [server.handshakeAck peer id] := by
    refine without_of_calls fun call inside => ?_
    rw [List.mem_singleton.mp inside]
    exact without_send rfl
  refine ack.append ?_
  cases moves with
  | false => exact without_nil
  | true => exact without_broadcast _ rfl

/-- An admission tells the new player about the faction of one slot, unless it fails. -/
theorem seatPlayer_assigns (server : GameServer) (peer : Peer) (name : Bytes) (created : PacketCreation) :
    (inbox peer (server.seatPlayer peer name created).2).filter (fun packet => packet.msg.assigns)
      = if created.ack && created.faction then
          [⟨KMP_CHANNEL_RELIABLE_ORDERED, true, .factionAssignment
            (factionStrings ((server.nextPlayerId - 1) % 2))
            ((server.nextPlayerId - 1) % 2).toInt32⟩]
        else [] := by
  have none {calls : List Call} (silent : Without S2C.assigns calls) :
      (inbox peer calls).filter (fun packet => packet.msg.assigns) = [] :=
    List.filter_eq_nil_iff.mpr fun packet inside => by
      rw [silent peer packet inside]
      exact Bool.false_ne_true
  have one : inbox peer [factionAssignment peer server.nextPlayerId]
      = [⟨KMP_CHANNEL_RELIABLE_ORDERED, true, .factionAssignment
          (factionStrings ((server.nextPlayerId - 1) % 2))
          ((server.nextPlayerId - 1) % 2).toInt32⟩] := by
    have own : (factionAssignment peer server.nextPlayerId).packetFor peer = some _ := if_pos rfl
    unfold inbox
    rw [List.filterMap_cons_some own]
    rfl
  unfold seatPlayer
  simp only
  cases ack : created.ack with
  | false => rfl
  | true =>
    cases faction : created.faction with
    | false => exact none (without_assigns_acked _ _ _ _)
    | true =>
      show List.filter _ (inbox peer (_ ++ ([factionAssignment peer _] ++ welcome _ _))) = _
      rw [inbox_append, inbox_append, List.filter_append, List.filter_append,
        none (without_assigns_acked _ _ _ _), none (without_welcome (fun _ _ => rfl) (fun _ => rfl)
          (without_snapshot _ _ (fun _ _ _ => rfl) fun _ => rfl)), List.nil_append,
        List.append_nil]
      show List.filter _ (inbox peer [factionAssignment peer server.nextPlayerId]) = _
      rw [one]
      rfl

section Admitted

variable {sys : System} {event : Event} {peer : Peer} {name : Bytes} {created : PacketCreation}
  (admitted : HandshakeAdmitted sys event peer name created)

include admitted

/-- The step of an admission. -/
theorem react_admitted : sys.react event = (sys.links, sys.server.seatPlayer peer name created) := by
  obtain ⟨data, channel, env, reader, rest, msg, rfl, received, opened, read, admits, rfl, rfl⟩ :=
    admitted
  unfold react handlePacket
  simp only
  rw [if_pos received, opened]
  exact congrArg (Prod.mk sys.links) (handleHandshake_admitted sys.server read admits)

theorem emit_admitted : machine.emit sys event = (sys.server.seatPlayer peer name created).2 := by
  show (sys.react event).2.2 = _
  rw [react_admitted admitted]

end Admitted

variable {events : List Event} {key : PlayerID} {player : ConnectedPlayer} {start : System}

/-- So what a player was assigned follows from the identifier. -/
theorem assigned_text {text : Bytes} {slot : Int32}
    (assigned : Assigned start events key player text slot) :
    text = factionStrings ((key - 1) % 2) := by
  obtain ⟨before, event, name, created, after, -, admitted, fresh, sent, -⟩ := assigned
  rw [emit_admitted admitted] at sent
  have inside : _ ∈ List.filter (fun packet : Sent => packet.msg.assigns) _ :=
    List.mem_filter.mpr ⟨sent, rfl⟩
  rw [seatPlayer_assigns, fresh] at inside
  split_ifs at inside
  · cases List.mem_singleton.mp inside
    rfl
  · cases inside

/-! ### Whole runs -/

/-- A player who stays keeps what they were assigned. -/
theorem Assigned.later {text : Bytes} {slot : Int32} {event : Event}
    (assigned : Assigned start events key player text slot)
    (stays : ((machine.run start (events ++ [event])).server.players.lookup key).map
      ConnectedPlayer.identity = some player.identity) :
    Assigned start (events ++ [event]) key player text slot := by
  obtain ⟨before, spoken, name, created, after, rfl, admitted, fresh, sent, stayed⟩ := assigned
  refine ⟨before, spoken, name, created, after ++ [event], ?_, admitted, fresh, sent, fun count => ?_⟩
  · rw [List.append_assoc, List.cons_append]
  · by_cases inside : count ≤ after.length
    · rw [List.take_append_of_le_length inside]
      exact stayed count
    · rw [List.take_of_length_le (by rw [List.length_append, List.length_singleton]; omega)]
      rwa [List.append_assoc, List.cons_append] at stays

/-- What was assigned concerns the identity of a player only. -/
theorem Assigned.congr {player other : ConnectedPlayer} {text : Bytes} {slot : Int32}
    (assigned : Assigned start events key player text slot)
    (same : player.identity = other.identity) : Assigned start events key other text slot := by
  unfold Assigned at assigned ⊢
  rwa [← same, ← show player.peer = other.peer from congrArg (fun identity => identity.2.2) same]

/-- Who is a player after a step was one before, or has just shaken hands. -/
theorem next_player {sys : System} {event : Event}
    (stored : (machine.next sys event).server.players.lookup key = some player) :
    (sys.server.players.lookup key).map ConnectedPlayer.identity = some player.identity
      ∨ ∃ name created, HandshakeAdmitted sys event player.peer name created
        ∧ sys.server.nextPlayerId = key ∧ (created.ack && created.faction) = true := by
  have identity : ((machine.next sys event).server.players.lookup key).map ConnectedPlayer.identity
      = some player.identity := by rw [stored]; rfl
  have attendance := sys.react_attendance event
  revert identity
  show ((sys.react event).2.1.players.lookup key).map _ = _ → _
  generalize sys.react event = outcome at attendance
  intro identity
  cases attendance with
  | stay table unseating =>
    rw [table.players] at identity
    exact Or.inl identity
  | @seatPlayer _ peer name created admitted =>
    rw [(seatPlayer_spec sys.server peer name created).players] at identity
    split_ifs at identity with same succeeded
    · have slot : peer = player.peer := congrArg (fun id => id.2.2) (Option.some.inj identity)
      exact Or.inr ⟨name, created, slot ▸ admitted, same.symm, succeeded⟩
    · exact Or.inl identity
  | @connect peer host roundTripTime absent =>
    rw [(connect_fields sys peer host roundTripTime).1] at identity
    exact Or.inl identity
  | @leave _ peer gone leaves =>
    have players := (removePlayer_spec sys.server gone).players key
    have left : ((sys.server.removePlayer gone).1.players.lookup key).map ConnectedPlayer.identity
        = some player.identity := identity
    rw [players] at left
    split_ifs at left
    · cases left
    · exact Or.inl left
  | depart present nobody => exact Or.inl identity

/-- **Every player of a run has been sent a faction.** -/
theorem assigned_run (config : ServerConfig) (file : Option Json.Value) (events : List Event)
    (stored : (machine.run (boot config file) events).server.players.lookup key = some player) :
    Assigned (boot config file) events key player (factionStrings ((key - 1) % 2))
      ((key - 1) % 2).toInt32 := by
  induction events using List.reverseRecOn generalizing player with
  | nil =>
    have nobody : (boot config file).server.players = ∅ := (Persistence.loadWorld_fields _ file).2.2.1
    rw [show machine.run (boot config file) [] = boot config file from rfl, nobody] at stored
    cases stored
  | append_singleton events event ih =>
    have after : machine.run (boot config file) (events ++ [event])
        = machine.next (machine.run (boot config file) events) event := by
      rw [Machine.run_append]
      rfl
    have there : ((machine.run (boot config file) (events ++ [event])).server.players.lookup
        key).map ConnectedPlayer.identity = some player.identity := by rw [stored]; rfl
    rw [after] at stored
    rcases next_player stored with before | ⟨name, created, admitted, fresh, succeeded⟩
    · obtain ⟨old, known, same⟩ := Option.map_eq_some_iff.mp before
      exact ((ih known).congr same).later there
    · have sent := seatPlayer_assigns (machine.run (boot config file) events).server player.peer name created
      rw [if_pos succeeded, fresh] at sent
      have inside := List.mem_singleton_self (⟨KMP_CHANNEL_RELIABLE_ORDERED, true,
        .factionAssignment (factionStrings ((key - 1) % 2)) ((key - 1) % 2).toInt32⟩ : Sent)
      rw [← sent] at inside
      refine ⟨events, event, name, created, [], rfl, admitted, fresh, ?_, fun count => ?_⟩
      · rw [emit_admitted admitted]
        exact (List.mem_filter.mp inside).1
      · rw [List.take_nil]
        exact there

/-! ### What clients make of it -/

/-- No client knows a faction under the name that the server sends. -/
theorem resolve_nameless (client : SaveClient) (slot : UInt32) (given : Int32) :
    (client.resolve (factionStrings slot) given).ownCharName = [] := by
  have unknown : factionToOwnName (factionStrings slot) = [] := by
    unfold factionStrings
    split_ifs
    · decide
    · decide
  have received : client.lobby.handleFactionAssignment (factionStrings slot) given
      = ⟨factionStrings slot, given, true⟩ := by
    unfold factionStrings
    split_ifs
    · rfl
    · rfl
  unfold SaveClient.resolve
  rw [received]
  unfold SharedSaveSync.init
  simp only [unknown, Bool.not_true, Bool.false_eq_true, if_false, decide_true, Bool.true_or, if_true]

/-- The two factions differ, and their slots alternate with the identifier. -/
theorem factionStrings_ne (key other : PlayerID) :
    factionStrings ((key - 1) % 2) ≠ factionStrings ((other - 1) % 2) ↔ key % 2 ≠ other % 2 := by
  have slot (key : PlayerID) : (key - 1) % 2 = 0 ↔ key % 2 ≠ 0 := by
    rw [Ne, ← UInt32.toNat_inj, ← UInt32.toNat_inj, UInt32.toNat_mod, UInt32.toNat_mod,
      UInt32.toNat_sub]
    show (2 ^ 32 - 1 + key.toNat) % 2 ^ 32 % 2 = 0 ↔ ¬ key.toNat % 2 = 0
    omega
  have two (key : PlayerID) : key % 2 = 0 ∨ key % 2 = 1 := by
    rw [← UInt32.toNat_inj, ← UInt32.toNat_inj, UInt32.toNat_mod]
    show key.toNat % 2 = 0 ∨ key.toNat % 2 = 1
    omega
  unfold factionStrings
  by_cases first : key % 2 = 0
  · rw [if_neg (by rw [slot]; exact not_not_intro first), first]
    by_cases second : other % 2 = 0
    · rw [if_neg (by rw [slot]; exact not_not_intro second), second]
      simp
    · rw [if_pos ((slot other).mpr second)]
      exact ⟨fun _ => Ne.symm second, fun _ => by decide⟩
  · rw [if_pos ((slot key).mpr first)]
    by_cases second : other % 2 = 0
    · rw [if_neg (by rw [slot]; exact not_not_intro second), second]
      exact ⟨fun _ => first, fun _ => by decide⟩
    · rw [if_pos ((slot other).mpr second), (two key).resolve_left first, (two other).resolve_left second]
      simp

/-- Any two players have been sent factions, and different ones if and only if their identifiers are
of different parity. -/
def SentByParity (start : System) (events : List Event) : Prop :=
  ∀ key player otherKey otherPlayer,
    (machine.run start events).server.players.lookup key = some player →
    (machine.run start events).server.players.lookup otherKey = some otherPlayer →
    (∃ text slot, Assigned start events key player text slot)
      ∧ ∀ text slot otherText otherSlot, Assigned start events key player text slot →
        Assigned start events otherKey otherPlayer otherText otherSlot →
        (text ≠ otherText ↔ key % 2 ≠ otherKey % 2)

theorem sentByParity_run (config : ServerConfig) (file : Option Json.Value) (events : List Event) :
    SentByParity (boot config file) events := by
  intro key player otherKey otherPlayer stored otherStored
  refine ⟨⟨_, _, assigned_run config file events stored⟩, ?_⟩
  intro text slot otherText otherSlot assigned otherAssigned
  rw [assigned_text assigned, assigned_text otherAssigned]
  exact factionStrings_ne key otherKey

/-- A table of two holds two keys. -/
theorem two_keys {players : AMap PlayerID ConnectedPlayer} (two : players.size = 2) :
    ∃ key player otherKey otherPlayer, players.lookup key = some player
      ∧ players.lookup otherKey = some otherPlayer ∧ key ≠ otherKey := by
  rw [← AMap.size_toList] at two
  obtain ⟨⟨key, player⟩, ⟨otherKey, otherPlayer⟩, both⟩ := List.length_eq_two.mp two
  refine ⟨key, player, otherKey, otherPlayer, ?_, ?_, ?_⟩
  · exact AMap.mem_toList.mp (both ▸ List.mem_cons_self)
  · exact AMap.mem_toList.mp (both ▸ List.mem_cons_of_mem _ (List.mem_singleton_self _))
  · have keys := AMap.toList_keys_nodup players
    rw [both] at keys
    exact fun same => (List.nodup_cons.mp keys).1 (same ▸ List.mem_singleton_self _)

/-- With two players connected, neither finds itself in what it was sent. -/
theorem factionsSplit_size {client other : SaveClient}
    (split : FactionsSplit client other start events) :
    (machine.run start events).server.players.size ≠ 2 := by
  intro two
  obtain ⟨key, player, otherKey, otherPlayer, stored, otherStored, different⟩ := two_keys two
  obtain ⟨text, slot, otherText, otherSlot, assigned, -, -, named, -⟩ :=
    split two key player otherKey otherPlayer stored otherStored different
  rw [assigned_text assigned] at named
  exact named (resolve_nameless client _ slot)

/-- **The factions never split two players**: whenever two are connected, their clients find no names
in what they were sent; and what they were sent differs only if one identifier is odd and the other
one even. -/
theorem factionsSplit_iff (client other : SaveClient) (config : ServerConfig)
    (file : Option Json.Value) (events : List Event) :
    (FactionsSplit client other (boot config file) events
        ↔ (machine.run (boot config file) events).server.players.size ≠ 2)
      ∧ SentByParity (boot config file) events :=
  ⟨⟨factionsSplit_size, fun several two => absurd two several⟩,
    sentByParity_run config file events⟩

/-! ### One stays, the other one is replaced -/

/-- Three join, and the second one leaves before the third one comes. -/
def secondReplaced : List Event :=
  Client.joins 0 (ascii "Beep") ++ Client.joins 1 (ascii "Izumi") ++ [.disconnect 1]
    ++ Client.joins 1 (ascii "Ruka")

/-- Two players are connected, with the same faction, and neither client knows it. -/
theorem factions_fail :
    (¬ ∀ config file events, FactionsSplit {} {} (boot config file) events)
      ∧ ∃ text slot player otherPlayer, Assigned (boot {} none) secondReplaced 1 player text slot
        ∧ Assigned (boot {} none) secondReplaced 3 otherPlayer text slot := by
  have two : (machine.run (boot {} none) secondReplaced).server.players.size = 2 := by decide +kernel
  have first : ((machine.run (boot {} none) secondReplaced).server.players.lookup 1).isSome = true := by
    decide +kernel
  have third : ((machine.run (boot {} none) secondReplaced).server.players.lookup 3).isSome = true := by
    decide +kernel
  obtain ⟨player, stored⟩ := Option.isSome_iff_exists.mp first
  obtain ⟨otherPlayer, otherStored⟩ := Option.isSome_iff_exists.mp third
  refine ⟨fun split => factionsSplit_size (split {} none secondReplaced) two, ?_⟩
  exact ⟨_, _, player, otherPlayer, assigned_run {} none secondReplaced stored,
    assigned_run {} none secondReplaced otherStored⟩

end KenshiMP
