/-
**The core of a client, as far as its connection writes it.**

A client's process has one core, and keeps it from one connection to the next. The acknowledgement
of a handshake tells it its number, and an assignment who is the host. Whether the client is the host
is a flag: it is computed when an assignment arrives, from the number the core has then, and not
again when the number changes.

* `processAll_seating`: only those two messages matter;
* `Unclaimed`: no assignment before the acknowledgement names the number the core still has.
-/

import KenshiMP.Protocol

namespace KenshiMP

/-! ### The messages -/

/-- The messages that tell a client its number and who is the host. -/
def S2C.seats : S2C → Bool
  | .handshakeAck _ | .hostAssignment _ => true
  | _ => false

def seating (packets : List Sent) : List Sent := packets.filter fun packet => packet.msg.seats

theorem seating_append (first second : List Sent) :
    seating (first ++ second) = seating first ++ seating second := List.filter_append _ _

/-- The number a packet gives to its receiver. -/
def Sent.seatGiven (packet : Sent) : Option PlayerID :=
  match packet.msg with
  | .handshakeAck ack => some ack.playerId
  | _ => none

theorem seatGiven_of_silent {packet : Sent} (silent : packet.msg.seats = false) :
    packet.seatGiven = none := by
  obtain ⟨channel, reliable, msg⟩ := packet
  cases msg with
  | handshakeAck ack => cases silent
  | _ => rfl

/-! ### The core -/

structure Core where
  localPlayerId : PlayerID := 0
  connected : Bool := false
  isHost : Bool := false
  hostPlayerId : PlayerID := 0
deriving DecidableEq

namespace Core

variable (core : Core)

def setLocalPlayerId (id : PlayerID) : Core := { core with localPlayerId := id }

def setLocalHostPlayerId (id : PlayerID) : Core :=
  { core with hostPlayerId := id, isHost := id ≠ 0 && id = core.localPlayerId }

/-- Losing the connection resets the host, but not the number. -/
def setConnected (connected : Bool) : Core :=
  if connected then { core with connected := true }
  else { core with connected := false, isHost := false, hostPlayerId := 0 }

def handlePacket (msg : S2C) : Core :=
  match msg with
  | .handshakeAck ack => (core.setLocalPlayerId ack.playerId).setConnected true
  | .hostAssignment id => core.setLocalHostPlayerId id
  | _ => core

/-- Process packets in order. -/
def processAll (packets : List Sent) : Core :=
  packets.foldl (fun core packet => core.handlePacket packet.msg) core

theorem handlePacket_silent {msg : S2C} (silent : msg.seats = false) : core.handlePacket msg = core := by
  cases msg with
  | handshakeAck ack => cases silent
  | hostAssignment id => cases silent
  | _ => rfl

theorem processAll_append (first second : List Sent) :
    core.processAll (first ++ second) = (core.processAll first).processAll second :=
  List.foldl_append

theorem processAll_seating (packets : List Sent) :
    core.processAll (seating packets) = core.processAll packets := by
  induction packets generalizing core with
  | nil => rfl
  | cons packet rest ih =>
    show core.processAll ((packet :: rest).filter _) = (core.handlePacket packet.msg).processAll rest
    rw [List.filter_cons]
    split_ifs with seats
    · exact ih _
    · rw [handlePacket_silent core (Bool.not_eq_true _ |>.mp seats)]
      exact ih core

end Core

/-! ### Stale numbers -/

/-- Up to the acknowledgement, no assignment names this number. -/
def Unclaimed (stale : PlayerID) : List Sent → Prop
  | [] => True
  | packet :: rest =>
    match packet.msg with
    | .handshakeAck _ => True
    | .hostAssignment id => id ≠ stale ∧ Unclaimed stale rest
    | _ => Unclaimed stale rest

theorem unclaimed_cons_silent {stale : PlayerID} {packet : Sent} {rest : List Sent}
    (silent : packet.msg.seats = false) :
    Unclaimed stale (packet :: rest) ↔ Unclaimed stale rest := by
  obtain ⟨channel, reliable, msg⟩ := packet
  cases msg with
  | handshakeAck ack => cases silent
  | hostAssignment id => cases silent
  | _ => exact Iff.rfl

theorem unclaimed_seating (stale : PlayerID) (packets : List Sent) :
    Unclaimed stale (seating packets) ↔ Unclaimed stale packets := by
  induction packets with
  | nil => exact Iff.rfl
  | cons packet rest ih =>
    show Unclaimed stale ((packet :: rest).filter _) ↔ _
    rw [List.filter_cons]
    split_ifs with seats
    · obtain ⟨channel, reliable, msg⟩ := packet
      cases msg with
      | handshakeAck ack => exact Iff.rfl
      | hostAssignment id => exact and_congr_right fun _ => ih
      | _ => cases seats
    · rw [unclaimed_cons_silent (Bool.not_eq_true _ |>.mp seats)]
      exact ih

theorem Unclaimed.append {stale : PlayerID} {first second : List Sent} (one : Unclaimed stale first)
    (two : Unclaimed stale second) : Unclaimed stale (first ++ second) := by
  induction first with
  | nil => exact two
  | cons packet rest ih =>
    obtain ⟨channel, reliable, msg⟩ := packet
    cases msg with
    | handshakeAck ack => trivial
    | hostAssignment id => exact ⟨one.1, ih one.2⟩
    | _ => exact ih one

theorem Unclaimed.left {stale : PlayerID} {first second : List Sent}
    (both : Unclaimed stale (first ++ second)) : Unclaimed stale first := by
  induction first with
  | nil => trivial
  | cons packet rest ih =>
    obtain ⟨channel, reliable, msg⟩ := packet
    cases msg with
    | handshakeAck ack => trivial
    | hostAssignment id => exact ⟨both.1, ih both.2⟩
    | _ => exact ih both

namespace Core

variable {core : Core}

/-- One packet of those a waiting client has to process. -/
theorem handlePacket_waiting (waiting : core.connected = false → core.isHost = false)
    {packet : Sent} {rest : List Sent}
    (unclaimed : core.connected = false → Unclaimed core.localPlayerId (packet :: rest))
    (still : (core.handlePacket packet.msg).connected = false) :
    core.connected = false ∧ (core.handlePacket packet.msg).isHost = false
      ∧ (core.handlePacket packet.msg).localPlayerId = core.localPlayerId
      ∧ Unclaimed core.localPlayerId rest := by
  obtain ⟨channel, reliable, msg⟩ := packet
  cases msg with
  | handshakeAck ack => cases still
  | hostAssignment id =>
    have idle : core.connected = false := still
    obtain ⟨other, later⟩ := unclaimed idle
    refine ⟨idle, ?_, rfl, later⟩
    show (decide (id ≠ 0) && decide (id = core.localPlayerId)) = false
    rw [decide_eq_false other, Bool.and_false]
  | _ => exact ⟨still, waiting still, rfl, unclaimed still⟩

/-- A client that waits for its acknowledgement is not the host, whatever it is told. -/
theorem processAll_waiting (idle : core.connected = false) (notHost : core.isHost = false)
    {packets : List Sent} (none : ∀ packet ∈ packets, packet.seatGiven = none)
    (unclaimed : Unclaimed core.localPlayerId packets) :
    (core.processAll packets).isHost = false := by
  induction packets generalizing core with
  | nil => exact notHost
  | cons packet rest ih =>
    have still : (core.handlePacket packet.msg).connected = false := by
      have noSeat := none packet List.mem_cons_self
      obtain ⟨channel, reliable, msg⟩ := packet
      cases msg with
      | handshakeAck ack => cases noSeat
      | _ => exact idle
    obtain ⟨-, notHost', same, later⟩ := handlePacket_waiting (fun _ => notHost)
      (fun _ => unclaimed) still
    show ((core.handlePacket packet.msg).processAll rest).isHost = false
    refine ih still notHost' (fun other inside => none other (List.mem_cons_of_mem _ inside)) ?_
    rw [same]
    exact later

end Core

end KenshiMP
