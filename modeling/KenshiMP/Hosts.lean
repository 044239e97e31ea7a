/-
**Who is the host.**

The host is nobody exactly when there are no players, otherwise a player, and every link is told who
(`HostValid`, `Told`). An admission keeps this, and it prefers players from the machine the server
runs on. A departure of the host does not: the successor is the first player of a walk over a hash
map, wherever they connect from. In a run in which the first player of the walk is from here when
anybody is, everything holds (`hostValid`).
-/

import KenshiMP.FailedHandshakes

namespace KenshiMP

open Wire (Bytes ascii)
open Assoc
open GameServer
open Persistence
open KenshiMP.System

/-! ### Keys of players -/

/-- The keys of the players are positive and below the counter. -/
structure Numbered (server : GameServer) : Prop where
  positive : server.nextPlayerId ≠ 0
  below : ∀ id, (server.players.lookup id).isSome = true → id ≠ 0 ∧ id < server.nextPlayerId

theorem Numbered.unused {server : GameServer} (numbered : Numbered server) :
    server.players.lookup server.nextPlayerId = none := by
  cases stored : server.players.lookup server.nextPlayerId with
  | none => rfl
  | some player =>
    have there : (server.players.lookup server.nextPlayerId).isSome = true := by rw [stored]; rfl
    exact absurd (numbered.below _ there).2 (UInt32.lt_irrefl _)

theorem Numbered.table {before after : GameServer} (numbered : Numbered before)
    (table : SameTable before after) : Numbered after := by
  refine ⟨table.nextPlayerId ▸ numbered.positive, fun id there => ?_⟩
  rw [table.isSome] at there
  rw [table.nextPlayerId]
  exact numbered.below id there

/-- A handshake that is admitted here succeeds, and the counter of the players does not wrap. -/
def JoinsWell (sys : System) (event : Event) : Prop :=
  ∀ peer name created, HandshakeAdmitted sys event peer name created →
    created.ack = true ∧ created.faction = true ∧ sys.server.nextPlayerId ≠ 0xFFFFFFFF

theorem Numbered.seatPlayer {server : GameServer} (numbered : Numbered server) (peer : Peer) (name : Bytes)
    (created : PacketCreation) (notLast : server.nextPlayerId ≠ 0xFFFFFFFF) :
    Numbered (server.seatPlayer peer name created).1 := by
  have spec := seatPlayer_spec server peer name created
  obtain ⟨more, nonzero⟩ := lt_succ_of_ne notLast
  refine ⟨spec.nextPlayerId ▸ nonzero, fun id there => ?_⟩
  rw [spec.nextPlayerId]
  by_cases same : id = server.nextPlayerId
  · rw [same]
    exact ⟨numbered.positive, more⟩
  · rw [spec.others id same] at there
    exact ⟨(numbered.below id there).1, UInt32.lt_trans (numbered.below id there).2 more⟩

theorem Numbered.remove {server : GameServer} (numbered : Numbered server)
    (player : ConnectedPlayer) : Numbered (server.removePlayer player).1 := by
  have spec := removePlayer_spec server player
  refine ⟨spec.nextPlayerId ▸ numbered.positive, fun id there => ?_⟩
  rw [spec.players] at there
  split_ifs at there
  · cases there
  · rw [spec.nextPlayerId]
    exact numbered.below id there

theorem created_of_joins {created : PacketCreation} (ack : created.ack = true)
    (faction : created.faction = true) : created = {} := by
  cases created
  cases ack
  cases faction
  rfl

theorem Numbered.next {sys : System} (numbered : Numbered sys.server) {event : Event}
    (joins : JoinsWell sys event) : Numbered (machine.next sys event).server := by
  have attended {outcome : Links × Outcome} (attendance : Attendance sys event outcome) :
      Numbered outcome.2.1 := by
    cases attendance with
    | stay table unseating => exact numbered.table table
    | @seatPlayer event peer name created admitted =>
      exact numbered.seatPlayer peer name created (joins peer name created admitted).2.2
    | @connect peer host roundTripTime absent =>
      obtain ⟨players, counter, -⟩ := connect_fields sys peer host roundTripTime
      refine ⟨counter ▸ numbered.positive, ?_⟩
      rw [players, counter]
      exact numbered.below
    | @leave event peer player leaves =>
      exact ⟨(numbered.remove player).positive, (numbered.remove player).below⟩
    | depart present nobody => exact ⟨numbered.positive, numbered.below⟩
  exact attended (sys.react_attendance event)

/-! ### The host -/

/-- The host is nobody exactly when there are no players, otherwise a player, and from here if any
player is. -/
structure HostValid (server : GameServer) : Prop where
  nobody : server.hostPlayerId = 0 ↔ ∀ id, server.players.lookup id = none
  connected : server.hostPlayerId ≠ 0 →
    (server.players.lookup server.hostPlayerId).isSome = true
  loopback : ∀ id player, server.players.lookup id = some player → player.isLoopback = true →
    ∃ host, server.players.lookup server.hostPlayerId = some host ∧ host.isLoopback = true

/-- Some player is from here, by lookups. -/
def FromHere (server : GameServer) (id : PlayerID) : Prop :=
  (server.players.lookup id).map ConnectedPlayer.isLoopback = some true

theorem fromHere_iff {server : GameServer} {id : PlayerID} :
    FromHere server id ↔ ∃ player, server.players.lookup id = some player ∧ player.isLoopback = true := Option.map_eq_some_iff

theorem hostValid_of {server : GameServer}
    (nobody : server.hostPlayerId = 0 → ∀ id, server.players.lookup id = none)
    (connected : server.hostPlayerId ≠ 0 → (server.players.lookup server.hostPlayerId).isSome = true)
    (loopback : ∀ id, FromHere server id → FromHere server server.hostPlayerId) :
    HostValid server := by
  refine ⟨⟨nobody, fun empty => ?_⟩, connected, fun id player stored here => ?_⟩
  · by_contra somebody
    have there := connected somebody
    rw [empty] at there
    cases there
  · exact fromHere_iff.mp (loopback id (fromHere_iff.mpr ⟨player, stored, here⟩))

theorem HostValid.fromHere {server : GameServer} (valid : HostValid server) {id : PlayerID}
    (here : FromHere server id) : FromHere server server.hostPlayerId := by
  obtain ⟨player, stored, loopback⟩ := fromHere_iff.mp here
  exact fromHere_iff.mpr (valid.loopback id player stored loopback)

theorem HostValid.table {before after : GameServer} (valid : HostValid before)
    (table : SameTable before after) : HostValid after := by
  have same (id : PlayerID) : FromHere after id ↔ FromHere before id := by
    unfold FromHere
    rw [table.loopback]
  refine hostValid_of (fun nobody id => ?_) (fun somebody => ?_) fun id here => ?_
  · rw [table.hostPlayerId] at nobody
    have none := valid.nobody.mp nobody id
    rw [← Option.isNone_iff_eq_none, ← Option.not_isSome, table.isSome, none]
    rfl
  · rw [table.hostPlayerId] at somebody ⊢
    rw [table.isSome]
    exact valid.connected somebody
  · rw [table.hostPlayerId, same]
    exact valid.fromHere ((same id).mp here)

/-! ### An admission -/

variable {server : GameServer} {peer : Peer} {name : Bytes}

/-- Who is from here after an admission that succeeds. -/
theorem fromHere_seatPlayer (id : PlayerID) :
    FromHere (server.seatPlayer peer name {}).1 id
      ↔ if id = server.nextPlayerId then isLoopbackPeer server peer = true
        else FromHere server id := by
  unfold FromHere
  rw [(seatPlayer_spec server peer name {}).loopback]
  split_ifs with same made
  · show some (isLoopbackPeer server peer) = some true ↔ _
    rw [Option.some.injEq]
  · exact absurd rfl made
  · rfl

theorem HostValid.seatPlayer (valid : HostValid server) (numbered : Numbered server) :
    HostValid (server.seatPlayer peer name {}).1 := by
  have spec := seatPlayer_spec server peer name {}
  have new : ((server.seatPlayer peer name {}).1.players.lookup server.nextPlayerId).isSome = true := by
    have known := spec.players server.nextPlayerId
    rw [if_pos rfl] at known
    rw [← Option.isSome_map (f := ConnectedPlayer.identity), known]
    rfl
  have moves := @movesHost_iff server peer name numbered.unused
  by_cases moved : server.movesHost peer name = true
  · have host : (server.seatPlayer peer name {}).1.hostPlayerId = server.nextPlayerId := by
      rw [spec.hostPlayerId, if_pos moved]
    refine hostValid_of (fun nobody => ?_) (fun _ => host ▸ new) fun id here => ?_
    · exact absurd (host.symm.trans nobody) numbered.positive
    · -- the new player is from here, or the only one
      rw [host, fromHere_seatPlayer, if_pos rfl]
      rcases moves.mp moved with nobody | ⟨loopback, -⟩
      · rw [fromHere_seatPlayer] at here
        split_ifs at here with same
        · exact here
        · unfold FromHere at here
          rw [valid.nobody.mp nobody] at here
          cases here
      · exact loopback
  · have host : (server.seatPlayer peer name {}).1.hostPlayerId = server.hostPlayerId := by
      rw [spec.hostPlayerId, if_neg moved]
    have somebody : server.hostPlayerId ≠ 0 := fun nobody => moved (moves.mpr (Or.inl nobody))
    have other : server.hostPlayerId ≠ server.nextPlayerId := by
      intro same
      have there := valid.connected somebody
      rw [same, numbered.unused] at there
      cases there
    refine hostValid_of (fun nobody => absurd (host.symm.trans nobody) somebody) (fun _ => ?_)
      fun id here => ?_
    · rw [host, spec.others _ other]
      exact valid.connected somebody
    · rw [host, fromHere_seatPlayer, if_neg other]
      rw [fromHere_seatPlayer] at here
      split_ifs at here with same
      · -- a player from here does not override the host, so the host is from here
        obtain ⟨present, stored⟩ := Option.isSome_iff_exists.mp (valid.connected somebody)
        refine fromHere_iff.mpr ⟨present, stored, ?_⟩
        by_contra elsewhere
        rw [Bool.not_eq_true] at elsewhere
        exact moved (moves.mpr (Or.inr ⟨here, present, stored, elsewhere⟩))
      · exact valid.fromHere here

/-! ### A departure -/

/-- The players without one of them, in the order of the walk. -/
def remaining (server : GameServer) (leavingId : PlayerID) : List (PlayerID × ConnectedPlayer) :=
  AMap.toList (AList.erase leavingId server.players)

theorem mem_remaining {server : GameServer} {leavingId id : PlayerID} {player : ConnectedPlayer} :
    (id, player) ∈ remaining server leavingId ↔ id ≠ leavingId ∧ server.players.lookup id = some player := by
  unfold remaining
  rw [AMap.mem_toList, AMap.lookup_erase_eq]
  split_ifs with same
  · simp [same]
  · simp [same]

/-- If any player who stays is from here, the first one of the walk is. -/
def FirstIsFromHere (server : GameServer) (leavingId : PlayerID) : Prop :=
  (∃ other ∈ remaining server leavingId, other.2.isLoopback = true) →
    ∃ first rest, remaining server leavingId = first :: rest ∧ first.2.isLoopback = true

/-- When the host leaves, the first player of the walk is from here if any player is. -/
def SuccessorFromHere (sys : System) (event : Event) : Prop :=
  ∀ peer player, Leaves sys event peer player → player.id = sys.server.hostPlayerId →
    FirstIsFromHere sys.server player.id

theorem struck_fields (server : GameServer) (player : ConnectedPlayer) :
    (server.struck player).players = AList.erase player.id server.players
      ∧ (server.struck player).hostPlayerId = server.hostPlayerId := by
  unfold GameServer.struck GameServer.vacated saveOwned
  split_ifs
  · exact ⟨rfl, rfl⟩
  · exact ⟨rfl, rfl⟩

theorem fromHere_remove (player : ConnectedPlayer) (id : PlayerID) :
    FromHere (server.removePlayer player).1 id ↔ id ≠ player.id ∧ FromHere server id := by
  unfold FromHere
  rw [(removePlayer_spec server player).players]
  split_ifs with same
  · simp [same]
  · simp [same]

theorem HostValid.remove (valid : HostValid server) (numbered : Numbered server)
    {player : ConnectedPlayer}
    (next : player.id = server.hostPlayerId → FirstIsFromHere server player.id) :
    HostValid (server.removePlayer player).1 := by
  have spec := removePlayer_spec server player
  obtain ⟨walked, same⟩ := struck_fields server player
  have host := spec.hostPlayerId
  have walk : AMap.toList (server.struck player).players = remaining server player.id := by
    rw [walked]
    rfl
  have stays {id : PlayerID} {other : ConnectedPlayer}
      (inside : (id, other) ∈ remaining server player.id) :
      (server.removePlayer player).1.players.lookup id = some other := by
    obtain ⟨different, stored⟩ := mem_remaining.mp inside
    rw [spec.players, if_neg different, stored]
  rcases (server.struck player).successor_cases player.id with
    ⟨other, kept, -⟩ | ⟨leaver, empty, nobody, -⟩ | ⟨first, stored, rest, leaver, front, successor, -⟩
  · -- somebody else leaves
    rw [same] at other kept
    rw [kept] at host
    refine hostValid_of (fun nobody id => ?_) (fun somebody => ?_) fun id here => ?_
    · rw [spec.players, valid.nobody.mp (host.symm.trans nobody), ite_self]
    · rw [host] at somebody ⊢
      rw [spec.players, if_neg (Ne.symm other)]
      exact valid.connected somebody
    · rw [host, fromHere_remove]
      exact ⟨Ne.symm other, valid.fromHere ((fromHere_remove player id).mp here).2⟩
  · -- the host leaves an empty server
    rw [walk] at empty
    rw [nobody] at host
    have none (id : PlayerID) : (server.removePlayer player).1.players.lookup id = none := by
      rw [spec.players]
      split_ifs with leaving
      · rfl
      · by_contra there
        obtain ⟨other, stored⟩ := Option.ne_none_iff_exists'.mp there
        have inside := mem_remaining.mpr ⟨leaving, stored⟩
        rw [empty] at inside
        cases inside
    refine hostValid_of (fun _ => none) (fun somebody => absurd host somebody) fun id here => ?_
    unfold FromHere at here
    rw [none] at here
    cases here
  · -- the host leaves, and somebody succeeds
    rw [walk] at front
    rw [same] at leaver
    rw [successor] at host
    have inside : (first, stored) ∈ remaining server player.id := front ▸ List.mem_cons_self
    have before : (server.players.lookup first).isSome = true := by
      rw [(mem_remaining.mp inside).2]
      rfl
    refine hostValid_of (fun nobody => ?_) (fun _ => ?_) fun id here => ?_
    · exact absurd (host.symm.trans nobody) (numbered.below first before).1
    · rw [host, stays inside]
      rfl
    · obtain ⟨different, there⟩ := (fromHere_remove player id).mp here
      obtain ⟨other, known, loopback⟩ := fromHere_iff.mp there
      obtain ⟨head, tail, front', isLoopback⟩ :=
        next leaver ⟨(id, other), mem_remaining.mpr ⟨different, known⟩, loopback⟩
      rw [front] at front'
      cases front'
      rw [host]
      exact fromHere_iff.mpr ⟨stored, stays inside, isLoopback⟩

/-! ### What the links are told -/

/-- The host a packet names. -/
def Sent.hostNamed (packet : Sent) : Option PlayerID :=
  match packet.msg with
  | .hostAssignment id => some id
  | _ => none

/-- The hosts that packets name, in order. -/
def hostsNamed (packets : List Sent) : List PlayerID := packets.filterMap Sent.hostNamed

theorem hostsNamed_seating (packets : List Sent) : hostsNamed (seating packets) = hostsNamed packets := by
  unfold hostsNamed seating
  rw [List.filterMap_filter]
  refine List.filterMap_congr fun packet _ => ?_
  obtain ⟨channel, reliable, msg⟩ := packet
  cases msg <;> rfl

/-- The host in the last assignment. -/
def lastHost (packets : List Sent) : Option PlayerID := (hostsNamed packets).getLast?

/-- While there is a host, the last assignment that a connected link has got names it. -/
def Told (sys : System) : Prop :=
  sys.server.hostPlayerId ≠ 0 → ∀ peer link, sys.links.lookup peer = some link →
    link.state = .connected → ∀ id, lastHost link.sent = some id → id = sys.server.hostPlayerId

/-- Calls that name no host leave the last one as it was; calls that end in an assignment settle
the question. -/
theorem lastHost_append {first second : List Sent} {id : PlayerID}
    (last : lastHost (first ++ second) = some id) :
    (hostsNamed second = [] ∧ lastHost first = some id) ∨ (hostsNamed second).getLast? = some id := by
  unfold lastHost hostsNamed at last
  rw [List.filterMap_append] at last
  by_cases silent : hostsNamed second = []
  · refine Or.inl ⟨silent, ?_⟩
    rw [show second.filterMap Sent.hostNamed = [] from silent, List.append_nil] at last
    exact last
  · refine Or.inr ?_
    rw [show second.filterMap Sent.hostNamed = hostsNamed second from rfl,
      List.getLast?_append_of_ne_nil _ silent] at last
    exact last

/-- The links were told before this step, and are told of the host whenever it changes. -/
theorem told_of_links {links : Links} (server : GameServer) (outcome : Outcome)
    (told : server.hostPlayerId ≠ 0 → ∀ peer link, links.lookup peer = some link →
      link.state = .connected → ∀ id, lastHost link.sent = some id → id = server.hostPlayerId)
    (news : ∀ peer, (hostsNamed (inbox peer outcome.2) = [] ∧ outcome.1.hostPlayerId = server.hostPlayerId)
      ∨ hostsNamed (inbox peer outcome.2) = [outcome.1.hostPlayerId]
      ∨ outcome.1.hostPlayerId = 0) :
    Told (carryOut links outcome) := by
  intro somebody peer link found connected id last
  obtain ⟨old, stored, before, sent⟩ := link_performAll found connected
  rw [sent] at last
  rcases news peer with ⟨silent, same⟩ | named | nobody
  · rcases lastHost_append last with ⟨-, last⟩ | ends
    · refine (told ?_ peer old stored before id last).trans same.symm
      rw [← same]
      exact somebody
    · rw [silent] at ends
      cases ends
  · rcases lastHost_append last with ⟨silent, -⟩ | ends
    · rw [named] at silent
      cases silent
    · rw [named] at ends
      exact (Option.some.inj ends).symm
  · exact absurd nobody somebody

/-- **One step.** -/
theorem HostValid.next {sys : System} (valid : HostValid sys.server)
    (numbered : Numbered sys.server) (told : Told sys) {event : Event} (joins : JoinsWell sys event)
    (successor : SuccessorFromHere sys event) :
    HostValid (machine.next sys event).server ∧ Told (machine.next sys event) := by
  have attended {outcome : Links × Outcome} (attendance : Attendance sys event outcome) :
      HostValid outcome.2.1 ∧ Told (carryOut outcome.1 outcome.2) := by
    cases attendance with
    | @stay event outcome table unseating =>
      refine ⟨valid.table table, told_of_links sys.server outcome told fun peer =>
        Or.inl ⟨?_, table.hostPlayerId⟩⟩
      rw [← hostsNamed_seating, unseating.seating]
      rfl
    | @seatPlayer event peer name created admitted =>
      obtain ⟨ack, faction, -⟩ := joins peer name created admitted
      obtain rfl := created_of_joins ack faction
      refine ⟨valid.seatPlayer numbered, told_of_links sys.server (sys.server.seatPlayer peer name {}) told
        fun other => ?_⟩
      obtain ⟨record, -, seats⟩ := seating_seatPlayer sys.server peer other name
      have host := (seatPlayer_spec sys.server peer name {}).hostPlayerId
      have named : hostsNamed (inbox other (sys.server.seatPlayer peer name {}).2)
          = if sys.server.movesHost peer name then [sys.server.nextPlayerId] else [] := by
        rw [← hostsNamed_seating, seats]
        split_ifs
        · rfl
        · rfl
        · rfl
        · rfl
      rw [named, host]
      split_ifs
      · exact Or.inr (Or.inl rfl)
      · exact Or.inl ⟨rfl, rfl⟩
    | @connect peer host roundTripTime absent =>
      obtain ⟨-, silent⟩ := handleConnect_spec (sys.openSlot peer host roundTripTime) peer
      obtain ⟨players, -, host'⟩ := connect_fields sys peer host roundTripTime
      refine ⟨⟨?_, ?_, ?_⟩, told_of_links sys.server _ ?_ fun other => Or.inl ⟨?_, host'⟩⟩
      · rw [players, host']
        exact valid.nobody
      · rw [players, host']
        exact valid.connected
      · rw [players, host']
        exact valid.loopback
      · intro somebody other link found connected id last
        rw [AMap.lookup_insert_eq] at found
        split_ifs at found
        · cases found
          cases last
        · exact told somebody other link found connected id last
      · rw [silent]
        rfl
    | @leave event peer player leaves =>
      have kept : HostValid (sys.server.removePlayer player).1 :=
        valid.remove numbered (successor peer player leaves)
      refine ⟨⟨kept.nobody, kept.connected, kept.loopback⟩,
        told_of_links sys.server _ ?_ fun other => ?_⟩
      · intro somebody other link found connected id last
        rw [AMap.lookup_erase_eq] at found
        split_ifs at found
        exact told somebody other link found connected id last
      · have host := (removePlayer_spec sys.server player).hostPlayerId
        have named : hostsNamed (inbox other (sys.server.removePlayer player).2)
            = hostsNamed (inbox other ((sys.server.struck player).successorNews player.id)) := by
          rw [← hostsNamed_seating, seating_remove, hostsNamed_seating]
        show (hostsNamed (inbox other (sys.server.removePlayer player).2) = []
            ∧ (sys.server.removePlayer player).1.hostPlayerId = sys.server.hostPlayerId)
          ∨ hostsNamed (inbox other (sys.server.removePlayer player).2)
            = [(sys.server.removePlayer player).1.hostPlayerId]
          ∨ (sys.server.removePlayer player).1.hostPlayerId = 0
        rw [named, host]
        rcases (sys.server.struck player).successor_cases player.id with
          ⟨-, stays, silent⟩ | ⟨-, -, nobody, -⟩ | ⟨first, stored, rest, -, -, picked, news⟩
        · rw [stays, silent]
          exact Or.inl ⟨rfl, (struck_fields sys.server player).2⟩
        · exact Or.inr (Or.inr nobody)
        · rw [picked, news]
          exact Or.inr (Or.inl rfl)
    | @depart peer present nobody =>
      refine ⟨⟨valid.nobody, valid.connected, valid.loopback⟩,
        told_of_links sys.server _ ?_ fun other => Or.inl ⟨rfl, rfl⟩⟩
      intro somebody other link found connected id last
      rw [AMap.lookup_erase_eq] at found
      split_ifs at found
      exact told somebody other link found connected id last
  exact attended (sys.react_attendance event)

/-- Every handshake that is admitted succeeds, and a successor of the host is from here if anybody
is. -/
def HostsWell (sys : System) (event : Event) : Prop :=
  JoinsWell sys event ∧ SuccessorFromHere sys event

theorem boot_hosts (config : ServerConfig) (file : Option Json.Value) :
    HostValid (boot config file).server ∧ Numbered (boot config file).server ∧ Told (boot config file) := by
  obtain ⟨-, -, players, -, counter, -, -, host⟩ := loadWorld_fields { config := config } file
  have nobody (id : PlayerID) : (boot config file).server.players.lookup id = none := by
    rw [show (boot config file).server.players = ∅ from players]
    rfl
  have first : (boot config file).server.nextPlayerId = 1 := counter
  have empty : (boot config file).server.hostPlayerId = 0 := host
  refine ⟨hostValid_of (fun _ => nobody) (fun somebody => absurd empty somebody) fun id here => ?_,
    ⟨?_, fun id there => ?_⟩, fun somebody => absurd empty somebody⟩
  · unfold FromHere at here
    rw [nobody] at here
    cases here
  · rw [first]
    decide
  · rw [nobody] at there
    cases there

/-- **The host is valid, and every connected link knows it**, in every run whose handshakes succeed
and whose successors are from here whenever a player is. -/
theorem hostValid {config : ServerConfig} {file : Option Json.Value} {events : List Event}
    (along : machine.Along HostsWell (boot config file) events) :
    HostValid (machine.run (boot config file) events).server
      ∧ Told (machine.run (boot config file) events) := by
  have kept := Machine.run_invariant
    (motive := fun sys => HostValid sys.server ∧ Numbered sys.server ∧ Told sys)
    (fun sys event guard both =>
      let next := both.1.next both.2.1 both.2.2 guard.1 guard.2
      ⟨next.1, both.2.1.next guard.1, next.2⟩)
    (boot_hosts config file) along
  exact ⟨kept.1, kept.2.2⟩

/-! ### Two departures -/

theorem joinsWell_packet {sys : System} {peer : Peer} {data : Bytes} {channel : Nat} {env : PacketEnv}
    (made : env.created = {}) (counter : sys.server.nextPlayerId ≠ 0xFFFFFFFF) :
    JoinsWell sys (.packet peer data channel env) := by
  rintro peer name created ⟨_, _, _, -, -, -, same, -, -, -, -, -, rfl⟩
  cases same
  rw [made]
  exact ⟨rfl, rfl, counter⟩

theorem joinsWell_noPacket {sys : System} {event : Event}
    (noPacket : ∀ peer data channel env, event ≠ .packet peer data channel env) :
    JoinsWell sys event :=
  fun _ _ _ admitted => absurd admitted (noHandshake noPacket)

theorem successorFromHere_stays {sys : System} {event : Event}
    (stays : ∀ peer, event ≠ .disconnect peer) : SuccessorFromHere sys event :=
  fun peer _ leaves => absurd leaves.1 (stays peer)

/-- A client on the server's machine connects and shakes hands. -/
def joinsFromHere (peer : Peer) (playerName : Bytes) : List Event :=
  [.connect peer 0x0100007F 0,
    .packet peer (Client.handshake playerName) KMP_CHANNEL_RELIABLE_ORDERED {}]

/-- Two players from here, of whom the first is the host, and one from elsewhere. -/
def mixed : System :=
  machine.run (boot {} none) (joinsFromHere 0 (ascii "Beep") ++ joinsFromHere 1 (ascii "Ruka")
    ++ Client.joins 2 (ascii "Bo"))

/-- The host leaves, and the player from elsewhere becomes the host beside one from here. -/
theorem hostValid_fails :
    Reachable mixed ∧ HostValid mixed.server ∧ JoinsWell mixed (.disconnect 0)
      ∧ (machine.next mixed (.disconnect 0)).server.hostPlayerId = 3
      ∧ ¬ HostValid (machine.next mixed (.disconnect 0)).server := by
  have host : (mixed.server.players.lookup mixed.server.hostPlayerId).map
      ConnectedPlayer.isLoopback = some true := by decide +kernel
  refine ⟨⟨{}, none, _, rfl⟩, hostValid_of (fun nobody => ?_) (fun _ => ?_) fun _ _ => host,
    joinsWell_noPacket (by simp), by decide +kernel, fun valid => ?_⟩
  · exact absurd nobody (by decide +kernel)
  · decide +kernel
  · have here : FromHere (machine.next mixed (.disconnect 0)).server 2 := by
      unfold FromHere
      decide +kernel
    have elsewhere : ((machine.next mixed (.disconnect 0)).server.players.lookup
        (machine.next mixed (.disconnect 0)).server.hostPlayerId).map ConnectedPlayer.isLoopback
        = some false := by decide +kernel
    have fromHere := valid.fromHere here
    unfold FromHere at fromHere
    rw [elsewhere] at fromHere
    cases fromHere

/-- The host leaves to a player from elsewhere, and nobody from here is left. -/
theorem hostValid_handedOver :
    HostValid (machine.run (boot {} none) (joinsFromHere 0 (ascii "Beep")
        ++ Client.joins 1 (ascii "Bo") ++ [.disconnect 0])).server
      ∧ Told (machine.run (boot {} none) (joinsFromHere 0 (ascii "Beep")
        ++ Client.joins 1 (ascii "Bo") ++ [.disconnect 0])) := by
  refine hostValid ⟨⟨joinsWell_noPacket (by simp), successorFromHere_stays (by simp)⟩,
    ⟨joinsWell_packet rfl (by decide +kernel), successorFromHere_stays (by simp)⟩,
    ⟨joinsWell_noPacket (by simp), successorFromHere_stays (by simp)⟩,
    ⟨joinsWell_packet rfl (by decide +kernel), successorFromHere_stays (by simp)⟩,
    ⟨joinsWell_noPacket (by simp), ?_⟩, trivial⟩
  rintro peer player ⟨same, -, key, behind⟩ -
  cases same
  have first : (machine.run (boot {} none) (joinsFromHere 0 (ascii "Beep")
      ++ Client.joins 1 (ascii "Bo"))).server.getPlayer 0 = some (key, player) := behind
  have known : ((machine.run (boot {} none) (joinsFromHere 0 (ascii "Beep")
      ++ Client.joins 1 (ascii "Bo"))).server.getPlayer 0).map (fun found => found.2.id)
      = some 1 := by decide +kernel
  rw [first] at known
  have leaver : player.id = 1 := Option.some.inj known
  have elsewhere : ∀ other ∈ remaining (machine.run (boot {} none) (joinsFromHere 0 (ascii "Beep")
      ++ Client.joins 1 (ascii "Bo"))).server 1, other.2.isLoopback = false := by decide +kernel
  rw [leaver]
  rintro ⟨other, inside, here⟩
  exact absurd ((elsewhere other inside).symm.trans here) Bool.false_ne_true

end KenshiMP
