/-
**Who may touch an entry of the master list.**

An entry belongs to the connection that registered it (`RegisteredServer.peer`). Neither a registration nor
the first lookup of a heartbeat asks for it: a registration replaces whatever is under its key, and its
address is the client's choice; a heartbeat refreshes whatever is under the address it comes from.

* `Untampered`: of a step, that it touches only entries of the connection it is from, or prunes;
* `Refreshes`: of a step, that a heartbeat refreshes the entry of its connection and port, and no other;
* `Considerate`: the condition on a step. `master_list`: along such steps both hold, and an entry whose owner
  keeps sending heartbeats (`KeepsAlive`) stays.
-/

import KenshiMP.Lib.BinaryOrder
import KenshiMP.Server.MasterServer

namespace KenshiMP

open Wire (Bytes ascii)
open Assoc

namespace MasterServer

/-! ### Packets -/

/-- The registration in a packet, if it is one that is accepted. -/
def registers (data : Bytes) : Option MsgMasterRegister :=
  if packetType data = some MS_Register then
    (readMessage MsgMasterRegister.codec data).filter fun msg => msg.protocolVersion = KMP_PROTOCOL_VERSION
  else none

/-- The heartbeat in a packet. -/
def heartbeat (data : Bytes) : Option MsgMasterHeartbeat :=
  if packetType data = some MS_Heartbeat then readMessage MsgMasterHeartbeat.codec data else none

def deregisters (data : Bytes) : Bool := packetType data = some MS_Deregister

/-! ### The claim of a step -/

/-- What is kept, if anything, belongs to the peer. -/
def OwnedBy (peer : Peer) (entry : Option RegisteredServer) : Prop := ∀ srv ∈ entry, srv.peer = peer

/-- A step that changes what is under a key. -/
inductive Touches (key : Bytes) (before after : Option RegisteredServer) : MasterEvent → Prop
  | receive (peer : Peer) (data beyond : Bytes) (first : OwnedBy peer before) (second : OwnedBy peer after) :
    Touches key before after (.receive peer data beyond)
  | disconnect (peer : Peer) (first : OwnedBy peer before) (gone : after = none) :
    Touches key before after (.disconnect peer)
  | prune (gone : after = none) : Touches key before after .prune

variable {key : Bytes} {peer : Peer} {msg : MsgMasterHeartbeat} {srv : RegisteredServer}

theorem Touches.own {before after : Option RegisteredServer} {data beyond : Bytes}
    (touches : Touches key before after (.receive peer data beyond)) : OwnedBy peer before := by
  cases touches with
  | receive _ _ _ first _ => exact first

/-- **What is touched is the connection's own, or pruned.** -/
def Untampered (master : MasterServer) (event : MasterEvent) : Prop :=
  ∀ key, (masterMachine.next master event).servers.lookup key = master.servers.lookup key
    ∨ Touches key (master.servers.lookup key) ((masterMachine.next master event).servers.lookup key) event

/-- **A heartbeat refreshes the entry of its connection and port, and no other.** -/
def Refreshes (master : MasterServer) (event : MasterEvent) : Prop :=
  ∀ peer data beyond msg, event = .receive peer data beyond → (master.peers.lookup peer).isSome →
    heartbeat data = some msg → ∀ key srv, master.servers.lookup key = some srv → srv.peer = peer →
      srv.port = msg.gamePort → ∀ other, (masterMachine.next master event).servers.lookup other
        = if other = key then some (master.refreshed msg srv) else master.servers.lookup other

/-! ### The condition of a step -/

/-- What is under the key of a registration is the connection's own, and so is what is under the key that
a heartbeat tries first; and for the port of a heartbeat the connection has one entry at most. -/
def Considerate (master : MasterServer) : MasterEvent → Prop
  | .receive peer data beyond => (master.peers.lookup peer).isSome →
    (∀ msg ∈ registers data,
      OwnedBy peer (master.servers.lookup (makeKey (master.externalIP peer msg beyond) msg.gamePort)))
    ∧ ∀ msg ∈ heartbeat data,
      OwnedBy peer (master.servers.lookup (makeKey (master.peerAddressString peer) msg.gamePort))
      ∧ ∀ one ∈ master.servers.toList, ∀ two ∈ master.servers.toList,
        one.2.peer = peer → one.2.port = msg.gamePort → two.2.peer = peer → two.2.port = msg.gamePort →
          one.1 = two.1
  | _ => True

/-! ### Walks -/

variable {master : MasterServer}

theorem lookup_removeServers (master : MasterServer) (picked : RegisteredServer → Bool) (key : Bytes) :
    (master.removeServers picked).servers.lookup key
      = (master.servers.lookup key).filter fun srv => !picked srv := by
  unfold removeServers
  rw [AMap.lookup_eraseAll]
  cases stored : master.servers.lookup key with
  | none => simp
  | some srv =>
    have walked : key ∈ (master.servers.toList.filter fun entry => picked entry.2).map Prod.fst
        ↔ picked srv = true := by
      rw [List.mem_map]
      constructor
      · rintro ⟨⟨other, value⟩, inside, rfl⟩
        rw [List.mem_filter, AMap.mem_toList, stored] at inside
        rw [Option.some.inj inside.1]
        exact inside.2
      · intro picks
        exact ⟨(key, srv), List.mem_filter.mpr ⟨AMap.mem_toList.mpr stored, picks⟩, rfl⟩
    simp only [walked, Option.filter_some]
    cases picked srv <;> rfl

/-! ### Keys -/

/-- **A key tells the address and the port.** -/
theorem makeKey_injective {ip ip' : Bytes} {port port' : UInt16} (same : makeKey ip port = makeKey ip' port') :
    ip = ip' ∧ port = port' := by
  obtain ⟨ips, ports⟩ := split_eq 0x3A (decimal_not_mem (by decide)) (decimal_not_mem (by decide)) same
  exact ⟨ips, UInt16.toNat_inj.mp (Int.natCast_inj.mp (decimal_injective ports))⟩

/-- Every entry is under its own key, its connection is there, and its last heartbeat is past. -/
structure Sound (master : MasterServer) : Prop where
  keyed : ∀ key srv, master.servers.lookup key = some srv → key = makeKey srv.address srv.port
  connected : ∀ key srv, master.servers.lookup key = some srv → (master.peers.lookup srv.peer).isSome
  past : ∀ key srv, master.servers.lookup key = some srv → srv.lastHeartbeat ≤ master.clock

/-! ### What a packet does -/

/-- The list with a registration. -/
def register (master : MasterServer) (peer : Peer) (msg : MsgMasterRegister) (beyond : Bytes) : MasterServer :=
  { master with
    servers := AList.insert (makeKey (master.externalIP peer msg beyond) msg.gamePort)
      (master.registration peer msg beyond) master.servers }

/-- The list after a heartbeat. -/
def beat (master : MasterServer) (peer : Peer) (msg : MsgMasterHeartbeat) : MasterServer :=
  match master.heartbeatKey peer msg with
  | none => master
  | some key => { master with servers := AMap.modify key (master.refreshed msg) master.servers }

/-- **A packet** is a registration, a heartbeat, a deregistration, or nothing to the list. -/
theorem handlePacket_cases (master : MasterServer) (peer : Peer) (data beyond : Bytes) :
    (∃ msg, registers data = some msg ∧ heartbeat data = none ∧ deregisters data = false
        ∧ (master.handlePacket peer data beyond).1 = master.register peer msg beyond)
      ∨ (∃ msg, registers data = none ∧ heartbeat data = some msg ∧ deregisters data = false
        ∧ (master.handlePacket peer data beyond).1 = master.beat peer msg)
      ∨ (registers data = none ∧ heartbeat data = none ∧ deregisters data = true
        ∧ (master.handlePacket peer data beyond).1 = master.handleDeregister peer)
      ∨ (registers data = none ∧ heartbeat data = none ∧ deregisters data = false
        ∧ (master.handlePacket peer data beyond).1 = master) := by
  unfold handlePacket registers heartbeat deregisters
  cases typed : packetType data with
  | none => exact .inr (.inr (.inr ⟨rfl, rfl, rfl, rfl⟩))
  | some type =>
    by_cases isRegister : type = MS_Register
    · subst isRegister
      have others : MS_Register ≠ MS_Heartbeat ∧ MS_Register ≠ MS_Deregister := by decide
      simp only [if_true, Option.some.injEq, others.1, others.2, if_false, decide_false]
      unfold handleRegister
      cases readMessage MsgMasterRegister.codec data with
      | none => exact .inr (.inr (.inr ⟨rfl, trivial, trivial, rfl⟩))
      | some msg =>
        by_cases version : msg.protocolVersion = KMP_PROTOCOL_VERSION
        · refine .inl ⟨msg, ?_, trivial, trivial, ?_⟩
          · simp [version]
          · simp only [version, ne_eq, not_true, if_false]
            rfl
        · exact .inr (.inr (.inr ⟨by simp [version], trivial, trivial, by simp [version]⟩))
    · by_cases isHeartbeat : type = MS_Heartbeat
      · subst isHeartbeat
        have others : MS_Heartbeat ≠ MS_Deregister := by decide
        simp only [if_true, Option.some.injEq, isRegister, others, if_false, decide_false]
        unfold handleHeartbeat
        cases readMessage MsgMasterHeartbeat.codec data with
        | none => exact .inr (.inr (.inr ⟨trivial, rfl, trivial, rfl⟩))
        | some msg => exact .inr (.inl ⟨msg, trivial, rfl, trivial, rfl⟩)
      · by_cases isDeregister : type = MS_Deregister
        · subst isDeregister
          simp only [Option.some.injEq, isRegister, isHeartbeat, if_false, if_true, decide_true]
          exact .inr (.inr (.inl ⟨trivial, trivial, trivial, trivial⟩))
        · simp only [Option.some.injEq, isRegister, isHeartbeat, isDeregister, if_false, decide_false]
          refine .inr (.inr (.inr ⟨trivial, trivial, trivial, ?_⟩))
          split_ifs <;> rfl

/-! ### Heartbeats -/

/-- The entry a heartbeat finds is under the address of the connection, or is the connection's. -/
theorem heartbeatKey_spec
    (found : master.heartbeatKey peer msg = some key) : ∃ srv, master.servers.lookup key = some srv
      ∧ (key = makeKey (master.peerAddressString peer) msg.gamePort
        ∨ srv.peer = peer ∧ srv.port = msg.gamePort) := by
  unfold heartbeatKey at found
  simp only at found
  split_ifs at found with known
  · cases found
    obtain ⟨srv, stored⟩ := Option.isSome_iff_exists.mp known
    exact ⟨srv, stored, .inl rfl⟩
  · obtain ⟨⟨other, srv⟩, picked, rfl⟩ := Option.map_eq_some_iff.mp found
    have own := List.find?_some picked
    have stored := AMap.mem_toList.mp (List.mem_of_find?_eq_some picked)
    simp only [Bool.and_eq_true, decide_eq_true_eq] at own
    exact ⟨srv, stored, .inr own⟩

/-- A connection that has an entry for the port finds one. -/
theorem heartbeatKey_isSome
    (stored : master.servers.lookup key = some srv) (own : srv.peer = peer) (port : srv.port = msg.gamePort) :
    ∃ found, master.heartbeatKey peer msg = some found := by
  unfold heartbeatKey
  simp only
  split_ifs with known
  · exact ⟨_, rfl⟩
  · have walked : ((master.servers.toList).find? fun entry =>
        entry.2.peer = peer && entry.2.port = msg.gamePort).isSome := by
      rw [List.find?_isSome]
      exact ⟨(key, srv), AMap.mem_toList.mpr stored, by simp [own, port]⟩
    obtain ⟨entry, picked⟩ := Option.isSome_iff_exists.mp walked
    exact ⟨entry.1, by rw [picked]; rfl⟩

theorem lookup_beat (found : master.heartbeatKey peer msg = some key) (other : Bytes) :
    (master.beat peer msg).servers.lookup other = (master.servers.lookup other).map fun srv =>
      if other = key then master.refreshed msg srv else srv := by
  unfold beat
  rw [found]
  exact AMap.lookup_modify _ _ _ _

theorem lookup_beat_none (missed : master.heartbeatKey peer msg = none) : master.beat peer msg = master := by
  unfold beat
  rw [missed]

theorem lookup_register (master : MasterServer) (peer : Peer) (msg : MsgMasterRegister) (beyond key : Bytes) :
    (master.register peer msg beyond).servers.lookup key
      = if key = makeKey (master.externalIP peer msg beyond) msg.gamePort
        then some (master.registration peer msg beyond) else master.servers.lookup key :=
  AMap.lookup_insert_eq _ _ _ _

/-! ### Entries have their own keys -/

/-- Entries that keep their fields and their connections. -/
theorem Sound.weaken {after : MasterServer} (sound : master.Sound)
    (fields : ∀ key later, after.servers.lookup key = some later → ∃ srv, master.servers.lookup key = some srv
      ∧ later.address = srv.address ∧ later.port = srv.port ∧ later.peer = srv.peer
      ∧ later.lastHeartbeat ≤ max srv.lastHeartbeat after.clock)
    (clocks : master.clock ≤ after.clock)
    (peers : ∀ key later, after.servers.lookup key = some later → (master.peers.lookup later.peer).isSome →
      (after.peers.lookup later.peer).isSome) : after.Sound where
  keyed key later stored := by
    obtain ⟨srv, before, address, port, -, -⟩ := fields key later stored
    rw [address, port]
    exact sound.keyed key srv before
  connected key later stored := by
    obtain ⟨srv, before, -, -, peer, -⟩ := fields key later stored
    refine peers key later stored ?_
    rw [peer]
    exact sound.connected key srv before
  past key later stored := by
    obtain ⟨srv, before, -, -, -, time⟩ := fields key later stored
    exact time.trans (max_le ((sound.past key srv before).trans clocks) le_rfl)

theorem Sound.removeServers (sound : master.Sound) (picked : RegisteredServer → Bool) :
    (master.removeServers picked).Sound := by
  refine sound.weaken (fun key later stored => ?_) le_rfl fun _ _ _ present => present
  rw [lookup_removeServers, Option.filter_eq_some_iff] at stored
  exact ⟨later, stored.1, rfl, rfl, rfl, le_max_left _ _⟩

theorem Sound.register (sound : master.Sound) (present : (master.peers.lookup peer).isSome)
    (msg : MsgMasterRegister) (beyond : Bytes) : (master.register peer msg beyond).Sound where
  keyed key srv stored := by
    rw [lookup_register] at stored
    split_ifs at stored with here
    · rw [here, ← Option.some.inj stored]
      rfl
    · exact sound.keyed key srv stored
  connected key srv stored := by
    rw [lookup_register] at stored
    split_ifs at stored
    · rw [← Option.some.inj stored]
      exact present
    · exact sound.connected key srv stored
  past key srv stored := by
    rw [lookup_register] at stored
    split_ifs at stored
    · rw [← Option.some.inj stored]
      exact le_rfl
    · exact sound.past key srv stored

theorem Sound.beat (sound : master.Sound) (peer : Peer) (msg : MsgMasterHeartbeat) :
    (master.beat peer msg).Sound := by
  cases found : master.heartbeatKey peer msg with
  | none =>
    rw [lookup_beat_none found]
    exact sound
  | some key =>
    have frame : (master.beat peer msg).peers = master.peers ∧ (master.beat peer msg).clock = master.clock := by
      unfold MasterServer.beat
      rw [found]
      exact ⟨rfl, rfl⟩
    refine sound.weaken (fun other later stored => ?_) frame.2.ge fun _ _ _ present => frame.1 ▸ present
    rw [lookup_beat found] at stored
    obtain ⟨srv, before, rfl⟩ := Option.map_eq_some_iff.mp stored
    refine ⟨srv, before, ?_⟩
    rw [frame.2]
    split_ifs
    · exact ⟨rfl, rfl, rfl, le_max_right _ _⟩
    · exact ⟨rfl, rfl, rfl, le_max_left _ _⟩

/-! ### Steps -/

section Peer

variable (master : MasterServer) (peer : Peer)

theorem next_connect (ip : Bytes) :
    masterMachine.next master (.connect peer ip)
      = if (master.peers.lookup peer).isSome then master
        else { master with peers := AList.insert peer ip master.peers } :=
  apply_ite Prod.fst _ _ _

theorem next_receive (data beyond : Bytes) :
    masterMachine.next master (.receive peer data beyond)
      = if (master.peers.lookup peer).isSome then (master.handlePacket peer data beyond).1 else master :=
  apply_ite Prod.fst _ _ _

theorem next_disconnect :
    masterMachine.next master (.disconnect peer)
      = if (master.peers.lookup peer).isSome then master.handleDisconnect peer else master :=
  apply_ite Prod.fst _ _ _

theorem lookup_handleDisconnect (key : Bytes) :
    (master.handleDisconnect peer).servers.lookup key
      = (master.servers.lookup key).filter fun srv => !decide (srv.peer = peer) :=
  lookup_removeServers master (fun srv => srv.peer = peer) key

end Peer

theorem Sound.handleDisconnect (sound : master.Sound) (peer : Peer) : (master.handleDisconnect peer).Sound := by
  refine sound.weaken (fun key later stored => ?_) le_rfl fun key later stored before => ?_
  · rw [lookup_handleDisconnect, Option.filter_eq_some_iff] at stored
    exact ⟨later, stored.1, rfl, rfl, rfl, le_max_left _ _⟩
  · rw [lookup_handleDisconnect, Option.filter_eq_some_iff] at stored
    have other : later.peer ≠ peer := by simpa using stored.2
    show ((AList.erase peer master.peers).lookup later.peer).isSome
    rw [AMap.lookup_erase_eq, if_neg other]
    exact before

theorem Sound.next (sound : master.Sound) (event : MasterEvent) : (masterMachine.next master event).Sound := by
  cases event with
  | connect peer ip =>
    rw [next_connect]
    split_ifs with present
    · exact sound
    · refine sound.weaken (fun _ later stored => ⟨later, stored, rfl, rfl, rfl, le_max_left _ _⟩) le_rfl
        fun _ later _ before => ?_
      show ((AList.insert peer ip master.peers).lookup later.peer).isSome
      rw [AMap.lookup_insert_eq]
      split_ifs
      · rfl
      · exact before
  | receive peer data beyond =>
    rw [next_receive]
    split_ifs with present
    · obtain ⟨msg, -, -, -, same⟩ | ⟨msg, -, -, -, same⟩ | ⟨-, -, -, same⟩ | ⟨-, -, -, same⟩ :=
        handlePacket_cases master peer data beyond
      · rw [same]
        exact sound.register present msg beyond
      · rw [same]
        exact sound.beat peer msg
      · rw [same]
        exact sound.removeServers _
      · rw [same]
        exact sound
    · exact sound
  | disconnect peer =>
    rw [next_disconnect]
    split_ifs
    · exact sound.handleDisconnect peer
    · exact sound
  | prune => exact sound.removeServers _
  | tick nanoseconds =>
    exact sound.weaken (fun _ later stored => ⟨later, stored, rfl, rfl, rfl, le_max_left _ _⟩)
      (Nat.le_add_right _ _) fun _ _ _ present => present
  | rehash rank =>
    refine sound.weaken (fun key later stored => ?_) le_rfl fun _ _ _ present => present
    have before : (AMap.reorder rank master.servers).lookup key = some later := stored
    rw [AMap.lookup_reorder] at before
    exact ⟨later, before, rfl, rfl, rfl, le_max_left _ _⟩

/-! ### One step -/

theorem ownedBy_none (peer : Peer) : OwnedBy peer none := fun _ absent => by cases absent

theorem ownedBy_some (own : srv.peer = peer) : OwnedBy peer (some srv) :=
  fun _ same => Option.some.inj same ▸ own

/-- What is removed from a list is what was picked. -/
theorem removed (picked : RegisteredServer → Bool) (entry : Option RegisteredServer) :
    (entry.filter fun srv => !picked srv) = entry
      ∨ (∃ srv, entry = some srv ∧ picked srv = true) ∧ (entry.filter fun srv => !picked srv) = none := by
  cases entry with
  | none => exact .inl rfl
  | some srv =>
    cases picks : picked srv with
    | false => exact .inl (by simp [picks])
    | true => exact .inr ⟨⟨srv, rfl, picks⟩, by simp [picks]⟩

/-- The entry that a heartbeat refreshes is the connection's. -/
theorem heartbeatKey_own (sound : master.Sound)
    (first : OwnedBy peer (master.servers.lookup (makeKey (master.peerAddressString peer) msg.gamePort)))
    (found : master.heartbeatKey peer msg = some key) :
    ∃ srv, master.servers.lookup key = some srv ∧ srv.peer = peer ∧ srv.port = msg.gamePort := by
  obtain ⟨srv, stored, here | own⟩ := heartbeatKey_spec found
  · rw [← here] at first
    have port := (makeKey_injective (here.symm.trans (sound.keyed key srv stored))).2
    exact ⟨srv, stored, first srv stored, port.symm⟩
  · exact ⟨srv, stored, own⟩

theorem untampered_of_considerate (sound : master.Sound) {event : MasterEvent}
    (considerate : master.Considerate event) : master.Untampered event := by
  intro key
  cases event with
  | connect peer ip =>
    rw [next_connect]
    refine .inl ?_
    split_ifs <;> rfl
  | receive peer data beyond =>
    rw [next_receive]
    split_ifs with present
    · obtain ⟨registering, beating⟩ := considerate present
      obtain ⟨msg, read, -, -, same⟩ | ⟨msg, -, read, -, same⟩ | ⟨-, -, -, same⟩ | ⟨-, -, -, same⟩ :=
        handlePacket_cases master peer data beyond
      · rw [same, lookup_register]
        split_ifs with here
        · rw [here]
          exact .inr (.receive peer data beyond (registering msg read) (ownedBy_some rfl))
        · exact .inl rfl
      · rw [same]
        cases found : master.heartbeatKey peer msg with
        | none => exact .inl (by rw [lookup_beat_none found])
        | some other =>
          rw [lookup_beat found]
          obtain ⟨srv, stored, own, -⟩ := heartbeatKey_own sound (beating msg read).1 found
          by_cases here : key = other
          · subst here
            rw [stored]
            refine .inr (.receive peer data beyond (ownedBy_some own) ?_)
            rw [Option.map_some, if_pos rfl]
            exact ownedBy_some own
          · simp [here]
      · rw [same]
        unfold handleDeregister
        rw [lookup_removeServers]
        rcases removed (fun srv => srv.peer = peer) (master.servers.lookup key)
          with kept | ⟨⟨srv, stored, own⟩, gone⟩
        · exact .inl kept
        · rw [gone, stored]
          exact .inr (.receive peer data beyond (ownedBy_some (of_decide_eq_true own)) (ownedBy_none peer))
      · exact .inl (by rw [same])
    · exact .inl rfl
  | disconnect peer =>
    rw [next_disconnect]
    split_ifs
    · rw [lookup_handleDisconnect]
      rcases removed (fun srv => srv.peer = peer) (master.servers.lookup key)
        with kept | ⟨⟨srv, stored, own⟩, gone⟩
      · exact .inl kept
      · rw [stored]
        rw [stored] at gone
        exact .inr (.disconnect peer (ownedBy_some (of_decide_eq_true own)) gone)
    · exact .inl rfl
  | prune =>
    show (master.removeServers master.stale).servers.lookup key = _
      ∨ Touches key _ ((master.removeServers master.stale).servers.lookup key) _
    rw [lookup_removeServers]
    rcases removed master.stale (master.servers.lookup key) with kept | ⟨-, gone⟩
    · exact .inl kept
    · exact .inr (.prune gone)
  | tick nanoseconds => exact .inl rfl
  | rehash rank => exact .inl (AMap.lookup_reorder _ _ _)

theorem refreshes_of_considerate (sound : master.Sound) {event : MasterEvent}
    (considerate : master.Considerate event) : master.Refreshes event := by
  rintro peer data beyond msg rfl present read key srv stored own port other
  obtain ⟨-, beating⟩ := considerate present
  obtain ⟨first, once⟩ := beating msg read
  obtain ⟨found, finds⟩ := heartbeatKey_isSome stored own port
  obtain ⟨found_srv, found_stored, found_own, found_port⟩ := heartbeatKey_own sound first finds
  have same_key : found = key := once (found, found_srv) (AMap.mem_toList.mpr found_stored) (key, srv)
    (AMap.mem_toList.mpr stored) found_own found_port own port
  subst same_key
  rw [next_receive, if_pos present]
  obtain ⟨-, -, none, -⟩ | ⟨sent, -, read', -, same⟩ | ⟨-, none, -⟩ | ⟨-, none, -⟩ :=
    handlePacket_cases master peer data beyond
  · rw [none] at read
    cases read
  · rw [read] at read'
    cases read'
    rw [same, lookup_beat finds]
    split_ifs with here
    · rw [here, stored]
      rfl
    · exact Option.map_id'
  · rw [none] at read
    cases read
  · rw [none] at read
    cases read

/-! ### Entries that are kept alive -/

/-- The clock, and the time of the last heartbeat of an owner for a port. -/
structure Beat where
  clock : Nat
  last : Nat

def Beat.next (peer : Peer) (port : UInt16) (beat : Beat) : MasterEvent → Beat
  | .tick nanoseconds => ⟨beat.clock + nanoseconds, beat.last⟩
  | .receive sender data _ =>
    if sender = peer ∧ (heartbeat data).map MsgMasterHeartbeat.gamePort = some port then ⟨beat.clock, beat.clock⟩
    else beat
  | _ => beat

/-- The owner neither leaves nor deregisters, and has sent a heartbeat in the 90 seconds before a pruning. -/
def Beat.Due (peer : Peer) (beat : Beat) : MasterEvent → Prop
  | .prune => beat.clock ≤ beat.last + 90 * 10 ^ 9
  | .receive sender data _ => ¬(sender = peer ∧ deregisters data = true)
  | .disconnect other => other ≠ peer
  | _ => True

def beatMachine (peer : Peer) (port : UInt16) : Machine Beat MasterEvent Unit where
  step beat event := (beat.next peer port event, [])

def KeepsAlive (peer : Peer) (port : UInt16) (beat : Beat) (events : List MasterEvent) : Prop :=
  (beatMachine peer port).Along (Beat.Due peer) beat events

/-- The entry is there, and its time is not before the last heartbeat. -/
def Alive (key : Bytes) (peer : Peer) (port : UInt16) (beat : Beat) (master : MasterServer) : Prop :=
  master.clock = beat.clock ∧ beat.last ≤ beat.clock ∧ ∃ srv, master.servers.lookup key = some srv
    ∧ srv.peer = peer ∧ srv.port = port ∧ beat.last ≤ srv.lastHeartbeat

/-- Ninety seconds are not more than ninety seconds when they are floats. -/
theorem elapsed_le {nanoseconds : Nat} (within : nanoseconds ≤ 90 * 10 ^ 9) :
    HEARTBEAT_TIMEOUT_SEC.lt (elapsed nanoseconds) = false := by
  have whole : (lit 1000000000 1).isFinite = true ∧ (lit 1000000000 1).mag ≠ 0 := by decide +kernel
  have most : (Binary.Flt.ofInt (90 * 10 ^ 9 : Nat) : F32).isFinite = true := by decide +kernel
  have ninety : (elapsed (90 * 10 ^ 9)).mag = HEARTBEAT_TIMEOUT_SEC.mag := by decide +kernel
  have shorter : (Binary.Flt.ofInt nanoseconds : F32).mag ≤ (Binary.Flt.ofInt (90 * 10 ^ 9 : Nat) : F32).mag :=
    Binary.Flt.ofInt_mag_mono within
  refine Binary.Flt.lt_eq_false_of_mag_le ?_ ?_ (by decide +kernel)
  · rw [← ninety]
    exact Binary.Flt.div_mag_mono shorter most whole.1 whole.2
  · unfold elapsed
    rw [Binary.Flt.div_neg (Binary.Flt.isFinite_of_mag_le shorter most) whole.1 whole.2, Binary.Flt.ofInt_neg]
    decide +kernel

theorem stale_eq_false (within : master.clock ≤ srv.lastHeartbeat + 90 * 10 ^ 9) : master.stale srv = false :=
  elapsed_le (Nat.sub_le_iff_le_add'.mpr within)

theorem lookup_removeServers_of_not {picked : RegisteredServer → Bool}
    (stored : master.servers.lookup key = some srv) (kept : picked srv = false) :
    (master.removeServers picked).servers.lookup key = some srv := by
  rw [lookup_removeServers, stored, Option.filter_eq_some_iff]
  exact ⟨rfl, by rw [kept]; rfl⟩

theorem beat_receive (peer sender : Peer) (port : UInt16) (beat : Beat) (data beyond : Bytes) :
    beat.next peer port (.receive sender data beyond)
      = if sender = peer ∧ (heartbeat data).map MsgMasterHeartbeat.gamePort = some port
        then ⟨beat.clock, beat.clock⟩ else beat := rfl

theorem heartbeat_next {peer sender : Peer} {port : UInt16} {beat : Beat} {data beyond : Bytes}
    (none : heartbeat data = none) : beat.next peer port (.receive sender data beyond) = beat := by
  rw [beat_receive, none]
  exact if_neg fun both => by cases both.2

/-- **One step** of an entry whose owner keeps it alive. -/
theorem Alive.receive {peer sender : Peer} {port : UInt16} {beat : Beat} {data beyond : Bytes}
    (sound : master.Sound) (considerate : master.Considerate (.receive sender data beyond))
    (alive : Alive key peer port beat master) (due : beat.Due peer (.receive sender data beyond)) :
    Alive key peer port (beat.next peer port (.receive sender data beyond))
      (masterMachine.next master (.receive sender data beyond)) := by
  obtain ⟨clock, order, srv, stored, own, its_port, time⟩ := alive
  have connected := sound.connected key srv stored
  rw [own] at connected
  have refreshes := refreshes_of_considerate sound considerate
  rw [next_receive]
  by_cases present : (master.peers.lookup sender).isSome
  · rw [if_pos present]
    obtain ⟨msg, read, none, -, same⟩ | ⟨msg, -, read, -, same⟩ | ⟨-, none, deregisters, same⟩
        | ⟨-, none, -, same⟩ := handlePacket_cases master sender data beyond
    · rw [heartbeat_next none, same]
      refine ⟨clock, order, ?_⟩
      rw [lookup_register]
      split_ifs with here
      · have owner := (considerate present).1 msg read
        rw [← here, stored] at owner
        have port_kept := (makeKey_injective (here.symm.trans (sound.keyed key srv stored))).2
        exact ⟨_, rfl, (owner srv rfl).symm.trans own, port_kept.trans its_port, order.trans clock.ge⟩
      · exact ⟨srv, stored, own, its_port, time⟩
    · by_cases its : sender = peer ∧ msg.gamePort = port
      · have next : beat.next peer port (.receive sender data beyond) = ⟨beat.clock, beat.clock⟩ := by
          rw [beat_receive, read]
          exact if_pos ⟨its.1, congrArg some its.2⟩
        have fresh := refreshes sender data beyond msg rfl present read key srv stored (own.trans its.1.symm)
          (its_port.trans its.2.symm) key
        rw [next_receive, if_pos present, if_pos rfl] at fresh
        have clock_kept : (master.beat sender msg).clock = master.clock := by
          unfold MasterServer.beat
          split <;> rfl
        rw [next]
        refine ⟨?_, le_rfl, _, fresh, own, its_port, clock.ge⟩
        rw [same, clock_kept, clock]
      · have next : beat.next peer port (.receive sender data beyond) = beat := by
          rw [beat_receive, read]
          exact if_neg fun both => its ⟨both.1, Option.some.inj both.2⟩
        rw [next, same]
        cases found : master.heartbeatKey sender msg with
        | none =>
          rw [lookup_beat_none found]
          exact ⟨clock, order, srv, stored, own, its_port, time⟩
        | some other =>
          refine ⟨?_, order, ?_⟩
          · unfold MasterServer.beat
            rw [found]
            exact clock
          · rw [lookup_beat found, stored]
            refine ⟨_, rfl, ?_⟩
            split_ifs
            · exact ⟨own, its_port, order.trans clock.ge⟩
            · exact ⟨own, its_port, time⟩
    · have other : sender ≠ peer := fun sent => due ⟨sent, deregisters⟩
      rw [heartbeat_next none, same]
      refine ⟨clock, order, srv, lookup_removeServers_of_not stored ?_, own, its_port, time⟩
      exact decide_eq_false (by rw [own]; exact other.symm)
    · rw [heartbeat_next none, same]
      exact ⟨clock, order, srv, stored, own, its_port, time⟩
  · have other : sender ≠ peer := fun sent => present (sent ▸ connected)
    have next : beat.next peer port (.receive sender data beyond) = beat := by
      rw [beat_receive]
      exact if_neg fun both => other both.1
    rw [if_neg present, next]
    exact ⟨clock, order, srv, stored, own, its_port, time⟩

theorem Alive.next {port : UInt16} {beat : Beat} {event : MasterEvent}
    (sound : master.Sound) (considerate : master.Considerate event) (alive : Alive key peer port beat master)
    (due : beat.Due peer event) :
    Alive key peer port ((beatMachine peer port).next beat event) (masterMachine.next master event) := by
  cases event with
  | receive sender data beyond => exact Alive.receive sound considerate alive due
  | connect sender ip =>
    rw [next_connect]
    split_ifs
    · exact alive
    · exact alive
  | disconnect other =>
    rw [next_disconnect]
    split_ifs
    · obtain ⟨clock, order, srv, stored, own, its_port, time⟩ := alive
      have apart : ¬srv.peer = other := fun same => due (same.symm.trans own)
      have kept : (master.removeServers fun srv => srv.peer = other).servers.lookup key = some srv :=
        lookup_removeServers_of_not stored (decide_eq_false apart)
      exact ⟨clock, order, srv, kept, own, its_port, time⟩
    · exact alive
  | prune =>
    obtain ⟨clock, order, srv, stored, own, its_port, time⟩ := alive
    have within : master.clock ≤ srv.lastHeartbeat + 90 * 10 ^ 9 := by
      have recent : beat.clock ≤ beat.last + 90 * 10 ^ 9 := due
      omega
    exact ⟨clock, order, srv, lookup_removeServers_of_not stored (stale_eq_false within), own, its_port, time⟩
  | tick nanoseconds =>
    obtain ⟨clock, order, rest⟩ := alive
    exact ⟨congrArg (· + nanoseconds) clock, order.trans (Nat.le_add_right _ _), rest⟩
  | rehash rank =>
    obtain ⟨clock, order, srv, stored, rest⟩ := alive
    exact ⟨clock, order, srv, (AMap.lookup_reorder _ _ _).trans stored, rest⟩

/-- **A run** of an entry whose owner keeps it alive. -/
theorem Alive.run {port : UInt16} {beat : Beat} {events : List MasterEvent}
    (sound : master.Sound) (considerate : masterMachine.Along Considerate master events)
    (alive : Alive key peer port beat master) (keeps : KeepsAlive peer port beat events) :
    ∃ srv, (masterMachine.run master events).servers.lookup key = some srv ∧ srv.peer = peer
      ∧ srv.port = port := by
  induction events generalizing master beat with
  | nil =>
    obtain ⟨-, -, srv, stored, own, its_port, -⟩ := alive
    exact ⟨srv, stored, own, its_port⟩
  | cons event rest ih =>
    exact ih (sound.next event) considerate.2 (alive.next sound considerate.1 keeps.1) keeps.2

theorem sound_start : ({} : MasterServer).Sound where
  keyed _ _ stored := by cases stored
  connected _ _ stored := by cases stored
  past _ _ stored := by cases stored

theorem sound_run (events : List MasterEvent) : (masterMachine.run {} events).Sound :=
  Machine.run_invariant_always (motive := Sound) (fun _ event sound => Sound.next sound event) sound_start events

end MasterServer

open MasterServer

/-! ### Runs -/

/-- **Along considerate steps** nobody touches the entries of another connection, heartbeats refresh the
entries of their connections, and an entry that is kept alive stays with its owner. -/
theorem master_list {events : List MasterEvent} (considerate : masterMachine.Along Considerate {} events) :
    masterMachine.Along (fun master event => master.Untampered event ∧ master.Refreshes event) {} events
      ∧ ∀ before after, events = before ++ after → ∀ key srv,
        (masterMachine.run {} before).servers.lookup key = some srv →
        KeepsAlive srv.peer srv.port ⟨(masterMachine.run {} before).clock, srv.lastHeartbeat⟩ after →
        ∃ later, (masterMachine.run {} events).servers.lookup key = some later ∧ later.peer = srv.peer
          ∧ later.port = srv.port := by
  constructor
  · have along := considerate.strengthen (motive := MasterServer.Sound)
      (fun _ event _ sound => sound.next event) sound_start
    exact along.mono fun master event both =>
      ⟨untampered_of_considerate both.1 both.2, refreshes_of_considerate both.1 both.2⟩
  · rintro before after rfl key srv stored keeps
    have sound := sound_run before
    rw [Machine.run_append]
    exact Alive.run sound (Machine.along_append.mp considerate).2
      ⟨rfl, sound.past key srv stored, srv, stored, rfl, rfl, le_rfl⟩ keeps

/-! ### A shared address -/

namespace MasterServer

instance decidableOwnedBy (peer : Peer) (entry : Option RegisteredServer) : Decidable (OwnedBy peer entry) :=
  inferInstanceAs (Decidable (∀ srv ∈ entry, srv.peer = peer))

instance decidableConsiderate (master : MasterServer) : ∀ event, Decidable (master.Considerate event)
  | .receive peer data beyond => inferInstanceAs (Decidable ((master.peers.lookup peer).isSome →
    (∀ msg ∈ registers data,
      OwnedBy peer (master.servers.lookup (makeKey (master.externalIP peer msg beyond) msg.gamePort)))
    ∧ ∀ msg ∈ heartbeat data,
      OwnedBy peer (master.servers.lookup (makeKey (master.peerAddressString peer) msg.gamePort))
      ∧ ∀ one ∈ master.servers.toList, ∀ two ∈ master.servers.toList,
        one.2.peer = peer → one.2.port = msg.gamePort → two.2.peer = peer → two.2.port = msg.gamePort →
          one.1 = two.1))
  | .connect _ _ | .disconnect _ | .prune | .tick _ | .rehash _ => .isTrue trivial

instance decidableDue (peer : Peer) (beat : Beat) : ∀ event, Decidable (beat.Due peer event)
  | .prune => inferInstanceAs (Decidable (beat.clock ≤ beat.last + 90 * 10 ^ 9))
  | .receive sender data _ => inferInstanceAs (Decidable ¬(sender = peer ∧ deregisters data = true))
  | .disconnect other => inferInstanceAs (Decidable (other ≠ peer))
  | .connect _ _ | .tick _ | .rehash _ => .isTrue trivial

/-- A registration as a game server sends it. -/
def registerPacket (port : UInt16) (serverName externalIP : Bytes) : Bytes :=
  PacketHeader.codec.encode ⟨MS_Register, 0, 0, 0⟩ ++ MsgMasterRegister.codec.encode
    ⟨KMP_PROTOCOL_VERSION, port, 0, 16, lit 1 2, 1, ⟨[0, 0, 0], rfl⟩, Client.charArray 64 serverName,
      Client.charArray 46 externalIP⟩

def heartbeatPacket (port : UInt16) : Bytes :=
  PacketHeader.codec.encode ⟨MS_Heartbeat, 0, 0, 0⟩
    ++ MsgMasterHeartbeat.codec.encode ⟨port, 1, 16, lit 1 2⟩

/-- Two game servers behind one address. -/
def opening : List MasterEvent :=
  [.connect 1 (ascii "10.0.0.1"), .connect 2 (ascii "10.0.0.1"),
    .receive 1 (registerPacket 27800 (ascii "Hub") []) [], .receive 2 (registerPacket 27801 (ascii "Squin") []) []]

/-- The first one sends heartbeats, the second one falls silent. -/
def keeping : List MasterEvent :=
  [.tick (60 * 10 ^ 9), .receive 1 (heartbeatPacket 27800) [], .prune, .tick (60 * 10 ^ 9), .prune]

def hub : RegisteredServer where
  serverName := ascii "Hub"
  address := ascii "10.0.0.1"
  port := 27800
  currentPlayers := 0
  maxPlayers := 16
  timeOfDay := lit 1 2
  pvpEnabled := 1
  lastHeartbeat := 0
  peer := 1

end MasterServer

theorem master_list_shared : ∃ later, (masterMachine.run {} (opening ++ keeping)).servers.lookup
    (ascii "10.0.0.1:27800") = some later ∧ later.peer = 1 ∧ later.port = 27800 :=
  (@master_list (opening ++ keeping) (by decide +kernel)).2 opening keeping rfl
    (ascii "10.0.0.1:27800") hub (by decide +kernel) (by unfold KeepsAlive; decide +kernel)

/-- **Another's address**: a registration may name it, and takes the entry over. -/
theorem master_list_fails : ¬∀ events,
    masterMachine.Along (fun master event => master.Untampered event ∧ master.Refreshes event) {} events := by
  intro always
  let before : List MasterEvent := [.connect 1 (ascii "10.0.0.1"), .connect 2 (ascii "10.0.0.2"),
    .receive 1 (registerPacket 27800 (ascii "Hub") []) []]
  let takeover : MasterEvent := .receive 2 (registerPacket 27800 (ascii "Fake") (ascii "10.0.0.1")) []
  have held : (masterMachine.run {} before).servers.lookup (ascii "10.0.0.1:27800") = some hub := by decide +kernel
  have taken : (masterMachine.next (masterMachine.run {} before) takeover).servers.lookup
      (ascii "10.0.0.1:27800") ≠ some hub := by decide +kernel
  have last := (Machine.along_append.mp (always (before ++ [takeover]))).2.1.1 (ascii "10.0.0.1:27800")
  rw [held] at last
  rcases last with kept | touched
  · exact taken kept
  · exact absurd (touched.own hub rfl) (by decide)

end KenshiMP
