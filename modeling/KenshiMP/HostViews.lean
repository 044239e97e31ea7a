/-
**What the clients believe about the host.**

The server, any number of clients and the packets between them (`Network`). A client has one core for
all its connections; it processes the packets of a connection in order, and after the server has cut
the connection it still gets what was on the way. A client whose connection is up and has nothing on
the way is up to date.

A number from an earlier connection stays in the core. If that old player is still on the server and
becomes the host between the new connection and its acknowledgement, the client takes the assignment
for its own, and the new number does not correct it (`hostViews_fails`). In a run in which no
successor has the stale number of a client that is waiting for its number, every client that is up to
date knows whether it is the host (`hostViews`).
-/

import KenshiMP.Seats

namespace KenshiMP

open Wire (Bytes ascii)
open Assoc
open GameServer
open KenshiMP.System

/-! ### The network -/

/-- The connection of a client. -/
inductive Session where
  /-- through this slot, with so many packets processed -/
  | live (peer : Peer) (taken : Nat)
  /-- cut by the server, with these packets still on the way -/
  | lost (rest : List Sent)
deriving DecidableEq

structure Network where
  sys : System
  cores : Nat → Core := fun _ => {}
  sessions : Nat → Option Session := fun _ => none

namespace Network

inductive Event where
  /-- the server handles an event -/
  | server (event : KenshiMP.Event)
  /-- a client without a connection gets one, through a slot that is free -/
  | dial (client : Nat) (peer : Peer) (host roundTripTime : UInt32)
  /-- a client processes the next packet of its connection -/
  | deliver (client : Nat)
  /-- a client leaves its connection, or notices that it is gone -/
  | hangUp (client : Nat) (byUser : Bool)

/-- The packets on the way to a session, in order. -/
def pending (sys : System) : Option Session → List Sent
  | some (.live peer taken) =>
    match sys.links.lookup peer with
    | some link => link.sent.drop taken
    | none => []
  | some (.lost rest) => rest
  | none => []

/-- An event may end the connection a session is on. -/
def afterEvent (sys : System) (event : KenshiMP.Event) : Option Session → Option Session
  | some (.live peer taken) =>
    if event.cuts peer then some (.lost (pending sys (some (.live peer taken))))
    else some (.live peer taken)
  | session => session

/-- One more packet is processed. -/
def advance : Option Session → Option Session
  | some (.live peer taken) => some (.live peer (taken + 1))
  | some (.lost rest) => some (.lost rest.tail)
  | none => none

variable (net : Network)

def serve (event : KenshiMP.Event) : Network :=
  { net with
    sys := machine.next net.sys event
    sessions := fun client => afterEvent net.sys event (net.sessions client) }

def setClient (client : Nat) (core : Core) (session : Option Session) : Network :=
  { net with
    cores := Function.update net.cores client core
    sessions := Function.update net.sessions client session }

/-- A client whose connection ends resets its core, if it was connected or the user ends it. -/
def hungUp (core : Core) (byUser : Bool) : Core :=
  if byUser || core.connected then core.setConnected false else core

def step (event : Event) : Network :=
  match event with
  | .server event => net.serve event
  | .dial client peer host roundTripTime =>
    if (net.sessions client).isNone && (net.sys.links.lookup peer).isNone then
      (net.serve (.connect peer host roundTripTime)).setClient client (net.cores client)
        (some (.live peer 0))
    else net
  | .deliver client =>
    match pending net.sys (net.sessions client) with
    | [] => net
    | packet :: _ =>
      net.setClient client ((net.cores client).handlePacket packet.msg)
        (advance (net.sessions client))
  | .hangUp client byUser => net.setClient client (hungUp (net.cores client) byUser) none

end Network

/-- The machine of the network; it has no outputs. -/
def network : Machine Network Network.Event Unit where
  step net event := (net.step event, [])

def Network.boot (config : ServerConfig) (file : Option Json.Value) : Network :=
  ⟨System.boot config file, fun _ => {}, fun _ => none⟩

namespace Network

/-- The connection of a client is up and nothing is on the way to it; or it has none. -/
def UpToDate (net : Network) (client : Nat) : Prop :=
  match net.sessions client with
  | none => True
  | some (.live peer taken) =>
    ∃ link, net.sys.links.lookup peer = some link ∧ link.state = .connected
      ∧ taken = link.sent.length
  | some (.lost _) => False

/-! ### One client -/

/-- What is on the way agrees with the slot: nothing gives a number as long as the slot has none, and
after all of it the core has the number of the slot and knows whether that is the host. -/
structure Agrees (server : GameServer) (peer : Peer) (core : Core) (packets : List Sent) : Prop where
  free : server.peerData peer = 0 → core.connected = false
    ∧ ∀ packet ∈ packets, packet.seatGiven = none
  seated : server.peerData peer ≠ 0 → (core.processAll packets).connected = true
    ∧ (core.processAll packets).localPlayerId = server.peerData peer
    ∧ (core.processAll packets).isHost = decide (server.hostPlayerId = server.peerData peer)

/-- What a core has to be told before it is connected: its number, and nothing about the stale one. -/
structure Waits (server : GameServer) (core : Core) (packets : List Sent) : Prop where
  known : core.localPlayerId < server.nextPlayerId
  given : ∀ packet ∈ packets, ∀ id, packet.seatGiven = some id → id < server.nextPlayerId
  notHost : core.connected = false → core.isHost = false
  unclaimed : core.connected = false → Unclaimed core.localPlayerId packets

/-- The packets of a session through a slot that is connected agree with the slot. -/
def Follows (sys : System) (core : Core) (peer : Peer) (taken : Nat) : Prop :=
  ∃ link, sys.links.lookup peer = some link ∧ taken ≤ link.sent.length
    ∧ (link.state = .connected → Agrees sys.server peer core (link.sent.drop taken))

structure ClientOk (sys : System) (core : Core) (session : Option Session) : Prop where
  waits : Waits sys.server core (pending sys session)
  idle : session = none → core.connected = false
  live : ∀ peer taken, session = some (.live peer taken) → Follows sys core peer taken

theorem pending_live {sys : System} {peer : Peer} {link : Link}
    (stored : sys.links.lookup peer = some link) (taken : Nat) :
    pending sys (some (.live peer taken)) = link.sent.drop taken := by
  show (match sys.links.lookup peer with
    | some link => link.sent.drop taken
    | none => []) = _
  rw [stored]

theorem handlePacket_local (core : Core) (packet : Sent) :
    (core.handlePacket packet.msg).localPlayerId = packet.seatGiven.getD core.localPlayerId := by
  obtain ⟨channel, reliable, msg⟩ := packet
  cases msg <;> rfl

/-- Processing one packet. -/
theorem Waits.deliver {server : GameServer} {core : Core} {packet : Sent} {rest : List Sent}
    (waits : Waits server core (packet :: rest)) :
    Waits server (core.handlePacket packet.msg) rest := by
  have quiet (still : (core.handlePacket packet.msg).connected = false) :=
    Core.handlePacket_waiting waits.notHost waits.unclaimed still
  refine ⟨?_, fun other inside => waits.given other (List.mem_cons_of_mem _ inside),
    fun still => (quiet still).2.1, fun still => ?_⟩
  · rw [handlePacket_local]
    cases given : packet.seatGiven with
    | none => exact waits.known
    | some id => exact waits.given packet List.mem_cons_self id given
  · obtain ⟨-, -, same, later⟩ := quiet still
    rw [same]
    exact later

theorem Agrees.deliver {server : GameServer} {peer : Peer} {core : Core} {packet : Sent}
    {rest : List Sent} (agrees : Agrees server peer core (packet :: rest)) :
    Agrees server peer (core.handlePacket packet.msg) rest := by
  refine ⟨fun free => ?_, agrees.seated⟩
  obtain ⟨idle, none⟩ := agrees.free free
  refine ⟨?_, fun other inside => none other (List.mem_cons_of_mem _ inside)⟩
  have noSeat := none packet List.mem_cons_self
  obtain ⟨channel, reliable, msg⟩ := packet
  cases msg with
  | handshakeAck ack => cases noSeat
  | _ => exact idle

variable {session : Option Session}

theorem ClientOk.deliver {sys : System} {core : Core} {packet : Sent}
    {rest : List Sent} (ok : ClientOk sys core session) (front : pending sys session = packet :: rest) :
    ClientOk sys (core.handlePacket packet.msg) (advance session) := by
  have waits : Waits sys.server (core.handlePacket packet.msg) rest :=
    Waits.deliver (front ▸ ok.waits)
  cases session with
  | none => cases front
  | some session =>
    cases session with
    | lost packets =>
      obtain rfl : packets = packet :: rest := front
      refine ⟨waits, fun none => ?_, fun peer taken same => ?_⟩
      · cases none
      · cases same
    | live peer taken =>
      obtain ⟨link, stored, within, agrees⟩ := ok.live peer taken rfl
      rw [pending_live stored] at front
      have next : link.sent.drop (taken + 1) = rest := by
        rw [← List.drop_drop, front]
        rfl
      have more : taken + 1 ≤ link.sent.length := by
        by_contra beyond
        rw [List.drop_eq_nil_of_le (by omega)] at front
        cases front
      refine ⟨?_, fun none => ?_, fun other count same => ?_⟩
      · show Waits sys.server _ (pending sys (some (.live peer (taken + 1))))
        rw [pending_live stored, next]
        exact waits
      · cases none
      · cases same
        refine ⟨link, stored, more, fun connected => ?_⟩
        rw [next]
        exact Agrees.deliver (front ▸ agrees connected)

theorem ClientOk.hangUp {sys : System} {core : Core}
    (ok : ClientOk sys core session) (byUser : Bool) : ClientOk sys (hungUp core byUser) none := by
  have known : (hungUp core byUser).localPlayerId < sys.server.nextPlayerId := by
    unfold hungUp
    split_ifs
    · exact ok.waits.known
    · exact ok.waits.known
  have reset : (hungUp core byUser).connected = false ∧ (hungUp core byUser).isHost = false := by
    unfold hungUp
    split_ifs with leaves
    · exact ⟨rfl, rfl⟩
    · simp only [Bool.or_eq_true, not_or, Bool.not_eq_true] at leaves
      exact ⟨leaves.2, ok.waits.notHost leaves.2⟩
  refine ⟨⟨known, fun packet inside => ?_, fun _ => reset.2, fun _ => trivial⟩, fun _ => reset.1,
    fun peer taken same => ?_⟩
  · cases inside
  · cases same

/-! ### The server moves -/

/-- A client that is about to get its number does not have the number of a successor from an earlier
connection. -/
def NoStaleSuccessor (net : Network) (event : KenshiMP.Event) : Prop :=
  ∀ slot player first stored rest, Leaves net.sys event slot player →
    player.id = net.sys.server.hostPlayerId →
    remaining net.sys.server player.id = (first, stored) :: rest →
    ∀ client peer taken link, net.sessions client = some (.live peer taken) →
      net.sys.links.lookup peer = some link → link.state = .connected →
      net.sys.server.peerData peer = 0 → (net.cores client).localPlayerId ≠ first

/-- The counter of the players never goes back. -/
theorem counter_grows {sys : System} {event : KenshiMP.Event} (joins : JoinsWell sys event) :
    sys.server.nextPlayerId ≤ (machine.next sys event).server.nextPlayerId := by
  have grows {outcome : Links × Outcome} (attendance : Attendance sys event outcome) :
      sys.server.nextPlayerId ≤ outcome.2.1.nextPlayerId := by
    cases attendance with
    | stay table unseating => exact table.nextPlayerId ▸ UInt32.le_refl _
    | @seatPlayer event slot name created admitted =>
      rw [(seatPlayer_spec sys.server slot name created).nextPlayerId]
      exact UInt32.le_of_lt (lt_succ_of_ne (joins slot name created admitted).2.2).1
    | @connect slot host roundTripTime absent =>
      rw [(connect_fields sys slot host roundTripTime).2.1]
      exact UInt32.le_refl _
    | @leave event slot player leaves =>
      show _ ≤ (sys.server.removePlayer player).1.nextPlayerId
      rw [(removePlayer_spec sys.server player).nextPlayerId]
      exact UInt32.le_refl _
    | depart present nobody => exact UInt32.le_refl _
  exact grows (sys.react_attendance event)

section Serve

variable {sys : System} {event : KenshiMP.Event} {core : Core} {peer : Peer}
  {after : GameServer} {packets more : List Sent}

/-- A number that is given is that of the slot afterwards. -/
theorem seatGiven_of_notice (notice : Notice sys event peer after (seating more)) {packet : Sent}
    (inside : packet ∈ more) {id : PlayerID} (given : packet.seatGiven = some id) :
    sys.server.peerData peer = 0 ∧ after.peerData peer = id ∧ id = sys.server.nextPlayerId := by
  have seats : packet ∈ seating more := by
    refine List.mem_filter.mpr ⟨inside, ?_⟩
    by_contra silent
    rw [seatGiven_of_silent (Bool.not_eq_true _ |>.mp silent)] at given
    cases given
  generalize seating more = told at notice seats
  cases notice with
  | nothing slot host => cases seats
  | host slot named =>
    rw [List.mem_singleton.mp seats] at given
    cases given
  | seat free number slot host =>
    rw [List.mem_singleton.mp seats] at given
    cases given
    exact ⟨free, slot.trans number.symm, number⟩
  | both free number slot host =>
    rcases List.mem_cons.mp seats with rfl | seats
    · cases given
      exact ⟨free, slot.trans number.symm, number⟩
    · rw [List.mem_singleton.mp seats] at given
      cases given

/-- After all the packets of a step, the core knows whether it is the host. -/
theorem Agrees.next (agrees : Agrees sys.server peer core packets)
    (waits : Waits sys.server core packets) (positive : sys.server.nextPlayerId ≠ 0)
    (notice : Notice sys event peer after (seating more)) :
    Agrees after peer core (packets ++ more) := by
  have given := @seatGiven_of_notice _ _ _ _ _ notice
  have processed : core.processAll (packets ++ more)
      = (core.processAll packets).processAll (seating more) := by
    rw [Core.processAll_append, Core.processAll_seating]
  refine ⟨fun free => ?_, fun seated => ?_⟩
  · have before : sys.server.peerData peer = 0 := by
      generalize seating more = told at notice
      cases notice with
      | nothing slot host => exact slot ▸ free
      | host slot named => exact slot ▸ free
      | seat free' number slot host => exact free'
      | both free' number slot host => exact free'
    obtain ⟨idle, none⟩ := agrees.free before
    refine ⟨idle, fun packet inside => ?_⟩
    rcases List.mem_append.mp inside with inside | inside
    · exact none packet inside
    · cases number : packet.seatGiven with
      | none => rfl
      | some id =>
        obtain ⟨-, slot, fresh⟩ := given inside number
        exact absurd (fresh.symm.trans (slot.symm.trans free)) positive
  · rw [processed]
    generalize seating more = told at notice
    cases notice with
    | nothing slot host =>
      rw [slot] at seated ⊢
      rw [host (slot ▸ seated)]
      exact agrees.seated seated
    | host slot named =>
      rw [slot] at seated ⊢
      obtain ⟨connected, number, -⟩ := agrees.seated seated
      refine ⟨connected, number, ?_⟩
      show (decide (after.hostPlayerId ≠ 0)
        && decide (after.hostPlayerId = (core.processAll packets).localPlayerId)) = _
      rw [number]
      by_cases same : after.hostPlayerId = sys.server.peerData peer
      · rw [same, decide_eq_true seated]
        rfl
      · rw [decide_eq_false same, Bool.and_false]
    | @seat ack free number slot host =>
      obtain ⟨idle, none⟩ := agrees.free free
      have notHost := Core.processAll_waiting idle (waits.notHost idle) none (waits.unclaimed idle)
      refine ⟨rfl, number.trans slot.symm, ?_⟩
      rw [slot, decide_eq_false host]
      exact notHost
    | @both ack free number slot host =>
      refine ⟨rfl, number.trans slot.symm, ?_⟩
      show (decide (after.hostPlayerId ≠ 0) && decide (after.hostPlayerId = ack.playerId)) = _
      rw [number, slot, host, decide_eq_true positive]
      rfl

/-- What is connected in the end has been acknowledged. -/
theorem unclaimed_of_connected (idle : core.connected = false)
    (connected : (core.processAll packets).connected = true)
    (unclaimed : Unclaimed core.localPlayerId packets) (more : List Sent) :
    Unclaimed core.localPlayerId (packets ++ more) := by
  induction packets generalizing core with
  | nil =>
    rw [show (core.processAll []).connected = core.connected from rfl, idle] at connected
    cases connected
  | cons packet rest ih =>
    obtain ⟨channel, reliable, msg⟩ := packet
    cases msg with
    | handshakeAck ack => trivial
    | hostAssignment id =>
      exact ⟨unclaimed.1, @ih (core.setLocalHostPlayerId id) idle connected unclaimed.2⟩
    | _ => exact ih idle connected unclaimed

/-- A core that is not connected is told nothing about its stale number. -/
theorem Waits.next (waits : Waits sys.server core packets) (agrees : Agrees sys.server peer core packets)
    (grows : sys.server.nextPlayerId ≤ after.nextPlayerId)
    (seated : ∀ id, after.peerData peer = id → id ≠ 0 → id < after.nextPlayerId)
    (positive : sys.server.nextPlayerId ≠ 0)
    (unmistaken : sys.server.peerData peer = 0 → ∀ slot player first stored rest,
      Leaves sys event slot player → player.id = sys.server.hostPlayerId →
      remaining sys.server player.id = (first, stored) :: rest → core.localPlayerId ≠ first)
    (notice : Notice sys event peer after (seating more)) :
    Waits after core (packets ++ more) := by
  refine ⟨UInt32.lt_of_lt_of_le waits.known grows, fun packet inside id number => ?_, waits.notHost,
    fun idle => ?_⟩
  · rcases List.mem_append.mp inside with inside | inside
    · exact UInt32.lt_of_lt_of_le (waits.given packet inside id number) grows
    · obtain ⟨-, slot, fresh⟩ := seatGiven_of_notice notice inside number
      exact seated id slot (fresh ▸ positive)
  · by_cases free : sys.server.peerData peer = 0
    · refine (waits.unclaimed idle).append ((unclaimed_seating _ _).mp ?_)
      generalize seating more = told at notice
      cases notice with
      | nothing slot host => trivial
      | host slot named =>
        refine ⟨?_, trivial⟩
        rcases named with fresh | ⟨other, player, rest, first, leaves, leaver, walk⟩
        · intro stale
          have known := waits.known
          rw [← stale, fresh] at known
          exact UInt32.lt_irrefl _ known
        · exact (unmistaken free other player _ first rest leaves leaver walk).symm
      | seat free number slot host => trivial
      | both free number slot host => trivial
    · exact unclaimed_of_connected idle (agrees.seated free).1 (waits.unclaimed idle) more

theorem Waits.grow (waits : Waits sys.server core packets)
    (grows : sys.server.nextPlayerId ≤ after.nextPlayerId) : Waits after core packets :=
  ⟨UInt32.lt_of_lt_of_le waits.known grows,
    fun packet inside id number =>
      UInt32.lt_of_lt_of_le (waits.given packet inside id number) grows,
    waits.notHost, waits.unclaimed⟩

theorem Waits.left (waits : Waits after core (packets ++ more)) : Waits after core packets :=
  ⟨waits.known, fun packet inside => waits.given packet (List.mem_append_left _ inside),
    waits.notHost, fun idle => (waits.unclaimed idle).left⟩

end Serve

/-- **The server handles an event**, and the clients see what it sent. -/
theorem ClientOk.next {sys : System} (seats : Seats sys) {event : KenshiMP.Event}
    (joins : JoinsWell sys event) {core : Core} (ok : ClientOk sys core session)
    (unmistaken : ∀ peer taken link, session = some (.live peer taken) →
      sys.links.lookup peer = some link → link.state = .connected → sys.server.peerData peer = 0 →
      ∀ slot player first stored rest, Leaves sys event slot player →
      player.id = sys.server.hostPlayerId →
      remaining sys.server player.id = (first, stored) :: rest → core.localPlayerId ≠ first) :
    ClientOk (machine.next sys event) core (afterEvent sys event session) := by
  have grows := counter_grows joins
  cases session with
  | none => exact ⟨ok.waits.grow grows, ok.idle, fun _ _ same => nomatch same⟩
  | some session =>
    cases session with
    | lost packets => exact ⟨ok.waits.grow grows, ok.idle, fun _ _ same => nomatch same⟩
    | live peer taken =>
      by_cases cut : event.cuts peer = true
      · have lost : afterEvent sys event (some (.live peer taken))
            = some (.lost (pending sys (some (.live peer taken)))) := if_pos cut
        rw [lost]
        exact ⟨ok.waits.grow grows, fun none => (nomatch none), fun _ _ same => nomatch same⟩
      · have stays : afterEvent sys event (some (.live peer taken)) = some (.live peer taken) :=
          if_neg cut
        rw [Bool.not_eq_true] at cut
        obtain ⟨link, stored, within, agrees⟩ := ok.live peer taken rfl
        have stored' := lookup_next stored cut
        obtain ⟨more, rest, sent, behind, closing⟩ := takeAll_sent peer (machine.emit sys event) link
        have present : (sys.links.lookup peer).isSome = true := by rw [stored]; rfl
        have notice := seats.notice joins present cut
        have seats' := seats.next joins
        have seated (id : PlayerID) (slot : (machine.next sys event).server.peerData peer = id)
            (nonzero : id ≠ 0) : id < (machine.next sys event).server.nextPlayerId := by
          rw [← slot] at nonzero ⊢
          exact (seats'.numbered.below _ (seats'.seated.present nonzero)).2
        have way : pending sys (some (.live peer taken)) = link.sent.drop taken :=
          pending_live stored taken
        have way' : (link.takeAll peer (machine.emit sys event)).sent.drop taken
            = link.sent.drop taken ++ more := by
          rw [sent, List.drop_append_of_le_length within]
        have waits : Waits sys.server core (link.sent.drop taken) := way ▸ ok.waits
        rw [stays]
        refine ⟨?_, fun none => (nomatch none), fun other count same => ?_⟩
        · rw [pending_live stored', way']
          by_cases connected : link.state = .connected
          · have whole := waits.next (agrees connected) grows seated seats.numbered.positive
              (unmistaken peer taken link rfl stored connected) notice
            rw [behind, ← List.append_assoc] at whole
            exact whole.left
          · rw [closing connected, List.append_nil]
            exact waits.grow grows
        · cases same
          refine ⟨_, stored', ?_, fun connected => ?_⟩
          · rw [sent, List.length_append]
            omega
          · obtain ⟨before, all⟩ := takeAll_connected connected
            rw [all, List.drop_append_of_le_length within]
            exact (agrees before).next waits seats.numbered.positive notice

/-! ### All clients -/

structure Consistent (net : Network) : Prop where
  seats : Seats net.sys
  client : ∀ client, ClientOk net.sys (net.cores client) (net.sessions client)
  apart : ∀ one two peer first second, net.sessions one = some (.live peer first) →
    net.sessions two = some (.live peer second) → one = two

/-- Handshakes succeed, and no successor has the stale number of a client that waits for its own. -/
def HostsClear (net : Network) (event : Event) : Prop :=
  match event with
  | .server event => JoinsWell net.sys event ∧ NoStaleSuccessor net event
  | _ => True

theorem live_of_afterEvent {sys : System} {event : KenshiMP.Event}
    {peer : Peer} {taken : Nat} (same : afterEvent sys event session = some (.live peer taken)) :
    session = some (.live peer taken) := by
  cases session with
  | none => cases same
  | some session =>
    cases session with
    | lost packets => cases same
    | live other count =>
      unfold afterEvent at same
      simp only at same
      split_ifs at same
      · cases same
      · exact same

theorem Consistent.serve {net : Network} (consistent : Consistent net) {event : KenshiMP.Event}
    (joins : JoinsWell net.sys event) (clear : NoStaleSuccessor net event) :
    Consistent (net.serve event) :=
  ⟨consistent.seats.next joins,
    fun client => (consistent.client client).next consistent.seats joins
      fun peer taken link session stored connected free slot player first old rest leaves leaver
        walk => clear slot player first old rest leaves leaver walk client peer taken link session
          stored connected free,
    fun one two peer first second here there => consistent.apart one two peer first second
      (live_of_afterEvent here) (live_of_afterEvent there)⟩

/-- One client changes its core and its session, and stays away from the slots of the others. -/
theorem Consistent.setClient {net : Network} (consistent : Consistent net) {client : Nat} {core : Core}
    (ok : ClientOk net.sys core session)
    (apart : ∀ other, other ≠ client → ∀ peer first second, session = some (.live peer first) →
      net.sessions other ≠ some (.live peer second)) :
    Consistent (net.setClient client core session) := by
  refine ⟨consistent.seats, fun other => ?_, fun one two peer first second here there => ?_⟩
  · show ClientOk net.sys (Function.update net.cores client core other)
      (Function.update net.sessions client session other)
    by_cases same : other = client
    · rw [same, Function.update_self, Function.update_self]
      exact ok
    · rw [Function.update_of_ne same, Function.update_of_ne same]
      exact consistent.client other
  · change Function.update net.sessions client session one = _ at here
    change Function.update net.sessions client session two = _ at there
    by_cases first' : one = client
    · by_cases second' : two = client
      · exact first'.trans second'.symm
      · rw [first', Function.update_self] at here
        rw [Function.update_of_ne second'] at there
        exact absurd there (apart two second' peer first second here)
    · rw [Function.update_of_ne first'] at here
      by_cases second' : two = client
      · rw [second', Function.update_self] at there
        exact absurd here (apart one first' peer second first there)
      · rw [Function.update_of_ne second'] at there
        exact consistent.apart one two peer first second here there

section Absent

variable {sys : System} {peer : Peer} (host roundTripTime : UInt32) (absent : sys.links.lookup peer = none)

include absent

theorem react_connect :
    sys.react (.connect peer host roundTripTime) = (AList.insert peer {} sys.links,
      (sys.openSlot peer host roundTripTime).handleConnect peer) := by
  show (if (sys.links.lookup peer).isSome = true then _ else _) = _
  rw [absent]
  rfl

/-- The link of a new connection, with nothing on the way. -/
theorem link_connect :
    (machine.next sys (.connect peer host roundTripTime)).links.lookup peer
        = some (({} : Link).takeAll peer ((sys.openSlot peer host roundTripTime).handleConnect peer).2)
      ∧ (({} : Link).takeAll peer
        ((sys.openSlot peer host roundTripTime).handleConnect peer).2).sent = [] := by
  constructor
  · show ((sys.react _).1.performAll (sys.react _).2.2).lookup peer = _
    rw [lookup_performAll, react_connect host roundTripTime absent]
    show (AList.lookup peer (AList.insert peer {} sys.links)).map _ = _
    rw [AMap.lookup_insert_eq, if_pos rfl]
    rfl
  · obtain ⟨-, silent⟩ := handleConnect_spec (sys.openSlot peer host roundTripTime) peer
    obtain ⟨more, rest, sent, behind, -⟩ :=
      takeAll_sent peer ((sys.openSlot peer host roundTripTime).handleConnect peer).2 {}
    rw [silent] at behind
    rw [sent, (List.append_eq_nil_iff.mp behind.symm).1]
    rfl

end Absent

/-- A new connection tells its client nothing, and its slot has no number unless it is cut. -/
theorem ClientOk.dial {sys : System} {core : Core} (ok : ClientOk sys core none) {peer : Peer}
    (host roundTripTime : UInt32) (absent : sys.links.lookup peer = none) :
    ClientOk (machine.next sys (.connect peer host roundTripTime)) core (some (.live peer 0)) := by
  have noPacket : JoinsWell sys (.connect peer host roundTripTime) := joinsWell_noPacket (by simp)
  have idle := ok.idle rfl
  have server : (machine.next sys (.connect peer host roundTripTime)).server
      = ((sys.openSlot peer host roundTripTime).handleConnect peer).1 := by
    show (sys.react _).2.1 = _
    rw [react_connect host roundTripTime absent]
  obtain ⟨cases', -⟩ := handleConnect_spec (sys.openSlot peer host roundTripTime) peer
  obtain ⟨stored, empty⟩ := link_connect host roundTripTime absent
  refine ⟨?_, fun none => (nomatch none), fun other count same => ?_⟩
  · rw [pending_live stored, List.drop_zero, empty]
    exact ok.waits.grow (counter_grows noPacket)
  · cases same
    refine ⟨_, stored, Nat.zero_le _, fun connected => ?_⟩
    rw [List.drop_zero, empty]
    have free : (machine.next sys (.connect peer host roundTripTime)).server.peerData peer = 0 := by
      rw [server, peerData_connect]
      rcases cases' with ⟨full, -⟩ | ⟨-, room⟩
      · rw [full] at connected
        have cut : ({} : Link).takeAll peer [.disconnect peer] = ({} : Link).cut := if_pos rfl
        rw [cut] at connected
        cases connected
      · exact if_pos ⟨rfl, room⟩
    exact ⟨fun _ => ⟨idle, fun _ inside => nomatch inside⟩, fun seated => absurd free seated⟩

/-- **One step.** -/
theorem Consistent.next {net : Network} (consistent : Consistent net) {event : Event}
    (clear : HostsClear net event) : Consistent (network.next net event) := by
  cases event with
  | server event => exact consistent.serve clear.1 clear.2
  | dial client peer host roundTripTime =>
    show Consistent (if _ then _ else net)
    split_ifs with free
    · simp only [Bool.and_eq_true, Option.isNone_iff_eq_none] at free
      obtain ⟨none, absent⟩ := free
      have noPacket : JoinsWell net.sys (.connect peer host roundTripTime) :=
        joinsWell_noPacket (by simp)
      have served := consistent.serve noPacket fun slot player first stored rest leaves =>
        absurd leaves.1 (by simp)
      refine served.setClient ((none ▸ consistent.client client).dial host roundTripTime absent)
        fun other _ slot first second same there => ?_
      cases same
      obtain ⟨link, stored, -, -⟩ := (consistent.client other).live peer second
        (live_of_afterEvent there)
      rw [absent] at stored
      cases stored
    · exact consistent
  | deliver client =>
    show Consistent (match pending net.sys (net.sessions client) with
      | [] => net
      | packet :: _ => net.setClient client ((net.cores client).handlePacket packet.msg)
          (advance (net.sessions client)))
    cases front : pending net.sys (net.sessions client) with
    | nil => exact consistent
    | cons packet rest =>
      refine consistent.setClient ((consistent.client client).deliver front)
        fun other different peer first second same there => different ?_
      cases session : net.sessions client with
      | none =>
        rw [session] at same
        cases same
      | some old =>
        rw [session] at same
        cases old with
        | lost packets => cases same
        | live slot taken =>
          cases same
          exact consistent.apart other client peer second taken there session
  | hangUp client byUser =>
    exact consistent.setClient ((consistent.client client).hangUp byUser)
      fun _ _ _ _ _ same => nomatch same

theorem boot_consistent (config : ServerConfig) (file : Option Json.Value) :
    Consistent (boot config file) := by
  have seats := boot_seats config file
  have first : (System.boot config file).server.nextPlayerId ≠ 0 := seats.numbered.positive
  refine ⟨seats, fun client => ⟨⟨?_, fun packet inside => ?_, fun _ => rfl, fun _ => trivial⟩,
    fun _ => rfl, fun peer taken same => nomatch same⟩, fun one two peer first second same =>
      nomatch same⟩
  · rw [UInt32.lt_iff_toNat_lt]
    have positive : (System.boot config file).server.nextPlayerId.toNat ≠ 0 := fun zero =>
      first (UInt32.toNat_inj.mp zero)
    exact Nat.pos_of_ne_zero positive
  · cases inside

/-- A client that is up to date believes to be the host exactly if its slot has the host's number. -/
theorem Consistent.view {net : Network} (consistent : Consistent net) {client : Nat} {peer : Peer}
    {taken : Nat} (upToDate : net.UpToDate client)
    (session : net.sessions client = some (.live peer taken)) :
    (net.cores client).isHost = true ↔ net.sys.server.peerData peer ≠ 0
      ∧ net.sys.server.hostPlayerId = net.sys.server.peerData peer := by
  unfold UpToDate at upToDate
  rw [session] at upToDate
  obtain ⟨link, stored, connected, all⟩ := upToDate
  obtain ⟨other, stored', -, agrees⟩ := (consistent.client client).live peer taken session
  obtain rfl : other = link := Option.some.inj (stored'.symm.trans stored)
  have agrees := agrees connected
  rw [all, List.drop_length] at agrees
  by_cases free : net.sys.server.peerData peer = 0
  · have notHost := (consistent.client client).waits.notHost (agrees.free free).1
    simp [notHost, free]
  · have same : (net.cores client).isHost = _ := (agrees.seated free).2.2
    rw [same, decide_eq_true_iff]
    simp [free]

/-- Every client with nothing on the way believes to be the host exactly if its player is, and at
most one of them believes it. -/
structure HostKnown (net : Network) : Prop where
  own : ∀ client peer taken key player, net.UpToDate client →
    net.sessions client = some (.live peer taken) →
    net.sys.server.getPlayer peer = some (key, player) →
    ((net.cores client).isHost = true ↔ net.sys.server.hostPlayerId = player.id)
  one : ∀ one two, net.UpToDate one → net.UpToDate two → (net.cores one).isHost = true →
    (net.cores two).isHost = true → one = two

/-- Who believes to be the host has a connection. -/
theorem Consistent.session_of_isHost {net : Network} (consistent : Consistent net) {client : Nat}
    (upToDate : net.UpToDate client) (host : (net.cores client).isHost = true) :
    ∃ peer taken, net.sessions client = some (.live peer taken) := by
  unfold UpToDate at upToDate
  cases session : net.sessions client with
  | none =>
    have ok := consistent.client client
    rw [ok.waits.notHost (ok.idle session)] at host
    cases host
  | some current =>
    rw [session] at upToDate
    cases current with
    | live peer taken => exact ⟨peer, taken, rfl⟩
    | lost rest => exact upToDate.elim

theorem Consistent.hostKnown {net : Network} (consistent : Consistent net) : HostKnown net := by
  refine ⟨fun client peer taken key player upToDate session behind => ?_,
    fun one two here there first second => ?_⟩
  · obtain ⟨-, own, slot, nonzero⟩ := lookup_of_getPlayer consistent.seats.keyed behind
    rw [consistent.view upToDate session, own, slot]
    exact and_iff_right (slot ▸ nonzero)
  · obtain ⟨peer, taken, session⟩ := consistent.session_of_isHost here first
    obtain ⟨other, count, session'⟩ := consistent.session_of_isHost there second
    obtain ⟨nonzero, host⟩ := (consistent.view here session).mp first
    obtain ⟨-, host'⟩ := (consistent.view there session').mp second
    obtain rfl := consistent.seats.seated.injective nonzero (host.symm.trans host')
    exact consistent.apart one two peer taken count session session'

end Network

open Network

/-- **The clients agree on who is the host** after every run in which handshakes succeed and no
successor has the stale number of a client that waits for its own. -/
theorem hostViews {config : ServerConfig} {file : Option Json.Value} {events : List Network.Event}
    (along : network.Along HostsClear (Network.boot config file) events) :
    HostKnown (network.run (Network.boot config file) events) := by
  have kept : Consistent (network.run (Network.boot config file) events) :=
    Machine.run_invariant (M := network) (fun net event guard before => before.next guard)
      (boot_consistent config file) along
  exact kept.hostKnown

/-! ### A reconnection -/

section Joins

variable {net : Network} {event : KenshiMP.Event} (joins : JoinsWell net.sys event)

include joins

theorem hostsClear_stays (stays : ∀ peer, event ≠ .disconnect peer) : HostsClear net (.server event) :=
  ⟨joins, fun _ _ _ _ _ leaves => absurd leaves.1 (stays _)⟩

/-- Where every slot has a number, nobody waits for one. -/
theorem hostsClear_seated (seated : ∀ slot ∈ AMap.toList net.sys.links, net.sys.server.peerData slot.1 ≠ 0) :
    HostsClear net (.server event) :=
  ⟨joins, fun _ _ _ _ _ _ _ _ _ peer _ link _ stored _ free =>
    absurd free (seated (peer, link) (AMap.mem_toList.mpr stored))⟩

end Joins

/-- A client connects, shakes hands and processes all it gets. -/
def joinsThrough (client : Nat) (peer : Peer) (playerName : Bytes) : List Network.Event :=
  [.dial client peer 0 0,
    .server (.packet peer (Client.handshake playerName) KMP_CHANNEL_RELIABLE_ORDERED {})]
    ++ List.replicate 12 (.deliver client)

/-- The second of two players connects again, and the first leaves before it has shaken hands. -/
def reconnected : Network :=
  network.run (Network.boot {} none)
    (joinsThrough 0 0 (ascii "Beep") ++ joinsThrough 1 1 (ascii "Ruka")
      ++ [.hangUp 1 true, .dial 1 2 0 0, .server (.disconnect 0), .deliver 1,
        .server (.packet 2 (Client.handshake (ascii "Ruka")) KMP_CHANNEL_RELIABLE_ORDERED {})]
      ++ List.replicate 12 (.deliver 1))

/-- A client on a connected slot believes to be the host, although its player is not. -/
theorem not_hostKnown {net : Network} {client : Nat} {peer : Peer} {taken : Nat} {host id : PlayerID}
    (session : net.sessions client = some (.live peer taken))
    (link : (net.sys.links.lookup peer).map (fun link => (link.state, link.sent.length))
      = some (.connected, taken))
    (behind : (net.sys.server.getPlayer peer).map (fun found => found.2.id) = some id)
    (believes : (net.cores client).isHost = true) (other : net.sys.server.hostPlayerId = host)
    (different : host ≠ id) : ¬ HostKnown net := by
  intro known
  obtain ⟨up, stored, shape⟩ := Option.map_eq_some_iff.mp link
  obtain ⟨⟨key, player⟩, found, number⟩ := Option.map_eq_some_iff.mp behind
  simp only [Prod.mk.injEq] at shape number
  have upToDate : net.UpToDate client := by
    unfold UpToDate
    rw [session]
    exact ⟨up, stored, shape.1, shape.2.symm⟩
  have mistaken := (known.own client peer taken key player upToDate session found).mp believes
  exact different (other.symm.trans (mistaken.trans number))

/-- It takes the number it had before for its own, and believes to be the host as number 3, while the
host is 2. -/
theorem hostViews_fails : ¬ HostKnown reconnected :=
  @not_hostKnown reconnected 1 2 7 2 3 (by decide +kernel) (by decide +kernel) (by decide +kernel)
    (by decide +kernel) (by decide +kernel) (by decide)

/-- Two players join, and the first leaves. -/
theorem hostViews_successor :
    HostKnown (network.run (Network.boot {} none) (joinsThrough 0 0 (ascii "Beep")
      ++ joinsThrough 1 1 (ascii "Ruka") ++ [.server (.disconnect 0), .deliver 1])) := by
  have quiet (net : Network) (client : Nat) (count : Nat) :
      network.Along HostsClear net (List.replicate count (.deliver client)) :=
    Machine.along_of_forall fun event inside state => by
      rw [List.eq_of_mem_replicate inside]
      trivial
  have joined {net : Network} {client : Nat} {peer : Peer} {name : Bytes}
      (counter : (network.next net (.dial client peer 0 0)).sys.server.nextPlayerId ≠ 0xFFFFFFFF) :
      network.Along HostsClear net (joinsThrough client peer name) :=
    ⟨trivial, hostsClear_stays (joinsWell_packet rfl counter) (by simp), quiet _ client 12⟩
  refine hostViews ?_
  refine Machine.along_append.mpr ⟨Machine.along_append.mpr ⟨joined ?_, joined ?_⟩,
    hostsClear_seated (joinsWell_noPacket (by simp)) ?_, trivial, trivial⟩
  · decide +kernel
  · decide +kernel
  · decide +kernel

end KenshiMP
