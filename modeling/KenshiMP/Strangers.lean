/-
**Whether strangers can be noticed.**

A slot without a player behind it can still send packets: garbage, queries, handshakes that are refused,
messages that only players may send, a goodbye. None of them changes the server, and what is answered
goes to the slot itself (`handlePacket_stranger`). So all of them may be left out of a run: the server
ends in the same state, and every other link is in the same state and has been told the same, in the same
order (`strangers_unnoticed`).
-/

import KenshiMP.Attendance
import KenshiMP.Client.Packets

namespace KenshiMP

open Wire (Bytes ascii)
open Assoc
open GameServer
open KenshiMP.System

/-! ### What a stranger is answered -/

/-- The call concerns the link of this slot alone. -/
def Call.Only (peer : Peer) : Call → Prop
  | .broadcast _ => False
  | .send other _ | .disconnect other | .disconnectLater other => other = peer

theorem takeAll_of_only {peer other : Peer} {calls : List Call} (only : ∀ call ∈ calls, call.Only peer)
    (apart : other ≠ peer) (link : Link) : link.takeAll other calls = link := by
  induction calls with
  | nil => rfl
  | cons call rest ih =>
    have one : link.take other call = link := by
      have here := only call List.mem_cons_self
      cases call with
      | broadcast packet => exact absurd here id
      | send target packet => exact if_neg (here ▸ apart)
      | disconnect target => exact if_neg (here ▸ apart)
      | disconnectLater target => exact if_neg (here ▸ apart)
    show (link.take other call).takeAll other rest = link
    rw [one]
    exact ih fun later inside => only later (List.mem_cons_of_mem _ inside)

/-- The packet is not a handshake that is admitted. -/
def Unadmitted (server : GameServer) (peer : Peer) (data : Bytes) (channel : Nat) : Prop :=
  ∀ reader rest msg, openPacket data channel = some (.C2S_Handshake, reader) →
    reader.readRaw MsgHandshake.codec = some (msg, rest) → server.admits peer msg = false

theorem only_nil (peer : Peer) : ∀ call ∈ ([] : List Call), call.Only peer :=
  fun _ inside => absurd inside List.not_mem_nil

/-- An answer after which the slot is closed. -/
theorem only_closing (peer : Peer) (packet : Sent) :
    ∀ call ∈ [Call.send peer packet, .disconnectLater peer], call.Only peer := by
  intro call inside
  rcases List.mem_pair.mp inside with rfl | rfl
  · rfl
  · rfl

/-- **A packet of a stranger** changes nothing, and what is answered is for the stranger. -/
theorem handlePacket_stranger {server : GameServer} {peer : Peer} {data : Bytes} {channel : Nat}
    (nobody : server.getPlayer peer = none) (refused : Unadmitted server peer data channel) (env : PacketEnv) :
    ∃ calls, server.handlePacket peer data channel env = (server, calls) ∧ ∀ call ∈ calls, call.Only peer := by
  unfold handlePacket
  cases opened : openPacket data channel with
  | none => exact ⟨_, rfl, only_nil peer⟩
  | some packet =>
    obtain ⟨type, reader⟩ := packet
    simp only
    by_cases handshake : type = .C2S_Handshake
    · subst handshake
      show ∃ calls, server.handleHandshake peer reader env.created = (server, calls) ∧ _
      unfold handleHandshake onMessage
      cases read : reader.readRaw MsgHandshake.codec with
      | none => exact ⟨_, rfl, only_nil peer⟩
      | some message =>
        have no := refused reader message.2 message.1 opened read
        simp only
        split_ifs with taken full version
        · exact ⟨_, rfl, only_nil peer⟩
        · exact ⟨_, rfl, only_closing peer _⟩
        · exact ⟨_, rfl, only_closing peer _⟩
        · rw [not_not] at taken version
          simp [admits, taken, full, version] at no
    · by_cases query : type = .C2S_ServerQuery
      · subst query
        show ∃ calls, server.handleServerQuery peer reader = (server, calls) ∧ _
        unfold handleServerQuery onMessage
        cases reader.readRaw MsgServerQuery.codec with
        | none => exact ⟨_, rfl, only_nil peer⟩
        | some message => exact ⟨_, rfl, only_closing peer _⟩
      · by_cases goodbye : type = .C2S_Disconnect
        · subst goodbye
          refine ⟨[.disconnect peer], rfl, fun call inside => ?_⟩
          rw [List.mem_singleton.mp inside]
          rfl
        · rw [dispatch_needsPlayer server handshake query goodbye, nobody]
          exact ⟨_, rfl, only_nil peer⟩

/-! ### Runs with and without strangers -/

section Runs

variable (strangers : Peer → Bool)

/-- A packet of a stranger. -/
def shown : Event → Bool
  | .packet peer _ _ _ => !strangers peer
  | _ => true

/-- What strangers send arrives while nobody is behind the slot, and does not get them in. -/
def Unseated (sys : System) : Event → Prop
  | .packet peer data channel _ => strangers peer = true →
    sys.server.getPlayer peer = none ∧ Unadmitted sys.server peer data channel
  | _ => True

/-- The same connections, and the same links but for those of strangers. -/
def Beside (one two : Links) : Prop :=
  ∀ peer, (one.lookup peer).isSome = (two.lookup peer).isSome
    ∧ (strangers peer = false → one.lookup peer = two.lookup peer)

/-- The same server, beside which strangers cannot be told. -/
structure Alike (one two : System) : Prop where
  server : one.server = two.server
  links : Beside strangers one.links two.links

variable {strangers}

section Beside

variable {one two : Links} (beside : Beside strangers one two)

include beside

theorem Beside.performAll (calls : List Call) :
    Beside strangers (one.performAll calls) (two.performAll calls) := by
  intro peer
  obtain ⟨present, same⟩ := beside peer
  rw [lookup_performAll, lookup_performAll, Option.isSome_map, Option.isSome_map]
  refine ⟨present, fun known => ?_⟩
  rw [same known]

theorem Beside.insert (peer : Peer) (link : Link) :
    Beside strangers (AList.insert peer link one) (AList.insert peer link two) := by
  intro other
  obtain ⟨present, same⟩ := beside other
  rw [AMap.lookup_insert_eq, AMap.lookup_insert_eq]
  split_ifs
  · exact ⟨rfl, fun _ => rfl⟩
  · exact ⟨present, same⟩

theorem Beside.erase (peer : Peer) : Beside strangers (AList.erase peer one) (AList.erase peer two) := by
  intro other
  obtain ⟨present, same⟩ := beside other
  rw [AMap.lookup_erase_eq, AMap.lookup_erase_eq]
  split_ifs
  · exact ⟨rfl, fun _ => rfl⟩
  · exact ⟨present, same⟩

end Beside

section Event

variable {one two : System} (alike : Alike strangers one two) {event : Event}

include alike

/-- Both servers do the same at an event that is no packet of a stranger. -/
theorem react_alike (visible : shown strangers event = true) :
    (one.react event).2 = (two.react event).2 ∧ Beside strangers (one.react event).1 (two.react event).1 := by
  obtain ⟨server, links⟩ := one
  obtain ⟨server', links'⟩ := two
  obtain ⟨same, beside⟩ := alike
  simp only at same beside
  subst same
  cases event with
  | connect peer host roundTripTime =>
    unfold react
    simp only
    rw [(beside peer).1]
    split_ifs
    · exact ⟨rfl, beside⟩
    · exact ⟨rfl, beside.insert _ _⟩
  | packet peer data channel env =>
    have known : strangers peer = false := (Bool.not_eq_true' _).mp visible
    unfold react receives
    simp only
    rw [(beside peer).2 known]
    split_ifs
    · exact ⟨rfl, beside⟩
    · exact ⟨rfl, beside⟩
  | disconnect peer =>
    unfold react
    simp only
    rw [(beside peer).1]
    split_ifs
    · exact ⟨rfl, beside.erase _⟩
    · exact ⟨rfl, beside⟩
  | updateBegin elapsed => exact ⟨rfl, beside⟩
  | updateEnd elapsed roundTripTime => exact ⟨rfl, beside⟩
  | kick id => exact ⟨rfl, beside⟩
  | say line => exact ⟨rfl, beside⟩
  | rehash players entities savedPlayers => exact ⟨rfl, beside⟩

theorem next_alike (visible : shown strangers event = true) :
    Alike strangers (machine.next one event) (machine.next two event) := by
  obtain ⟨outcome, links⟩ := react_alike alike visible
  refine ⟨congrArg Prod.fst outcome, ?_⟩
  show Beside strangers ((one.react event).1.performAll (one.react event).2.2)
    ((two.react event).1.performAll (two.react event).2.2)
  rw [outcome]
  exact links.performAll _

/-- A packet of a stranger leaves everything else alone. -/
theorem next_hidden (hidden : shown strangers event = false) (unseated : Unseated strangers one event) :
    Alike strangers (machine.next one event) two := by
  cases event with
  | packet peer data channel env =>
    have stranger : strangers peer = true := by simpa [shown] using hidden
    obtain ⟨nobody, refused⟩ := unseated stranger
    obtain ⟨calls, answer, only⟩ := handlePacket_stranger nobody refused env
    by_cases received : one.receives peer = true
    · have step : one.react (.packet peer data channel env) = (one.links, (one.server, calls)) := by
        unfold react
        simp only
        rw [if_pos received, answer]
      refine ⟨?_, fun other => ?_⟩
      · show (one.react (.packet peer data channel env)).2.1 = two.server
        rw [step, alike.server]
      · have links : (machine.next one (.packet peer data channel env)).links.lookup other
            = (one.links.lookup other).map (Link.takeAll other calls) := by
          rw [← lookup_performAll]
          show ((one.react _).1.performAll (one.react _).2.2).lookup other = _
          rw [step]
        rw [links, Option.isSome_map]
        obtain ⟨present, same⟩ := alike.links other
        refine ⟨present, fun known => ?_⟩
        have apart : other ≠ peer := by
          rintro rfl
          rw [stranger] at known
          cases known
        rw [← same known, funext (takeAll_of_only only apart), Option.map_id']
    · have step : one.react (.packet peer data channel env) = (one.links, (one.server, [])) := by
        unfold react
        simp only
        rw [if_neg received]
      have still : machine.next one (.packet peer data channel env) = one := by
        show carryOut _ _ = one
        rw [step]
        rfl
      rw [still]
      exact alike
  | connect => cases hidden
  | disconnect => cases hidden
  | updateBegin => cases hidden
  | updateEnd => cases hidden
  | kick => cases hidden
  | say => cases hidden
  | rehash => cases hidden

end Event

/-- **Strangers cannot be noticed**: a run and the same run without any packet of theirs end in the same
server, and every link that is not a stranger's is in the same state and has been told the same. -/
theorem strangers_unnoticed {sys : System} {events : List Event}
    (unseated : machine.Along (Unseated strangers) sys events) :
    (machine.run sys events).server = (machine.run sys (events.filter (shown strangers))).server
      ∧ ∀ peer, strangers peer = false → (machine.run sys events).links.lookup peer
        = (machine.run sys (events.filter (shown strangers))).links.lookup peer := by
  have alike := Machine.run_filter (Alike strangers) (shown strangers)
    (fun one two event hidden unseated alike => next_hidden alike hidden unseated)
    (fun one two event visible alike => next_alike alike visible)
    (⟨rfl, fun peer => ⟨rfl, fun _ => rfl⟩⟩ : Alike strangers sys sys) unseated
  exact ⟨alike.server, fun peer known => (alike.links peer).2 known⟩

end Runs

/-- Somebody who has not shaken hands asks for a character. -/
def lurks : List Event :=
  Client.joins 0 (ascii "Beep") ++ [.connect 5 0 0, Client.spawns 5 {}, Client.spawns 0 {}]

theorem strangers_unnoticed_lurks :
    (machine.run (boot {} none) lurks).server
        = (machine.run (boot {} none) (lurks.filter (shown fun peer => peer = 5))).server
      ∧ ∀ peer, decide (peer = 5) = false → (machine.run (boot {} none) lurks).links.lookup peer
        = (machine.run (boot {} none) (lurks.filter (shown fun peer => peer = 5))).links.lookup peer := by
  have known {P : Prop} : decide ((0 : Peer) = 5) = true → P := fun no => nomatch no
  refine strangers_unnoticed ⟨trivial, known, trivial, fun _ => ⟨by decide +kernel, ?_⟩, known, trivial⟩
  intro reader rest msg opened
  have type := congrArg (Option.map Prod.fst) opened
  rw [show Option.map Prod.fst (openPacket _ _) = some .C2S_EntitySpawnReq from by decide +kernel] at type
  cases type

end KenshiMP
