/-
**The deferred combat events of a client.**

The game calls a hook when a character dies or is knocked out. The hook runs on a stack it must not
use much of, so it only puts an event into a ring; the tick of the game takes the events out and
sends them. `processFrom` is the loop of the tick: it takes an event out first and then looks whether
it may still handle one.
-/

import KenshiMP.Client.Packets
import KenshiMP.Client.Registry
import KenshiMP.Lib.RingBuffer

namespace KenshiMP

open Wire (Bytes)
open Wire.Codec

namespace CombatHooks

/-! ### Events -/

inductive CombatEventType where
  | Death | KO
deriving DecidableEq, Repr

structure DeferredCombatEvent where
  type : CombatEventType := .Death
  entityId : EntityID := 0
  /-- the killer or the attacker -/
  otherId : EntityID := 0
  reason : UInt8 := 0
deriving DecidableEq

def MAX_DEFERRED_EVENTS : Nat := 256

/-- The cap of one tick. -/
def MAX_PROCESSED : Nat := 64

abbrev EventRing := RingBuffer DeferredCombatEvent MAX_DEFERRED_EVENTS

/-- What the hooks keep between calls. -/
structure State where
  events : EventRing := ⟨fun _ => {}, ⟨0, by decide⟩, ⟨0, by decide⟩⟩
  dropCount : Nat := 0
  serverSourcedDeath : Bool := false
  serverSourcedKO : Bool := false

/-- What the hooks see of the client: whether it is connected, its registry, and what reading the
health of a character gives; a read may fault. -/
structure Core where
  isConnected : Bool
  registry : EntityRegistry
  getHealth : GameObject → Fin 7 → Option F32

def pushEvent (state : State) (evt : DeferredCombatEvent) : State × Bool :=
  match state.events.push evt with
  | (events, true) => ({ state with events := events }, true)
  | (_, false) => ({ state with dropCount := state.dropCount + 1 }, false)

/-! ### The hooks -/

/-- The identifier of the other character of an event, if there is one. -/
def otherId (core : Core) (other : GameObject) : EntityID :=
  if other = 0 then 0 else core.registry.getNetId other

/-- The event a hook puts into the ring: none for what the server has sent, and none for a character
that is not registered. -/
def captured (core : Core) (serverSourced : Bool) (character : GameObject)
    (event : EntityID → DeferredCombatEvent) : Option DeferredCombatEvent :=
  if serverSourced || !core.isConnected || core.registry.getNetId character = 0 then none
  else some (event (core.registry.getNetId character))

def hookCharacterDeath (core : Core) (state : State) (character killer : GameObject) :
    Option DeferredCombatEvent :=
  captured core state.serverSourcedDeath character fun entityId =>
    { type := .Death, entityId := entityId, otherId := otherId core killer }

def hookCharacterKO (core : Core) (state : State) (character attacker : GameObject)
    (reason : Int32) : Option DeferredCombatEvent :=
  captured core state.serverSourcedKO character fun entityId =>
    { type := .KO, entityId := entityId, otherId := otherId core attacker,
      reason := reason.toUInt32.toUInt8 }

/-! ### Handling an event -/

def readChestHealth (core : Core) (gameObj : GameObject) : F32 :=
  (core.getHealth gameObj 1).getD (lit (-100) 1)

/-- The seven values, unless one of the reads faults. -/
def readAllLimbHealth (core : Core) (gameObj : GameObject) : Option (Fin 7 → F32) :=
  if ∀ part, (core.getHealth gameObj part).isSome then
    some fun part => (core.getHealth gameObj part).getD (lit (-100) 1)
  else none

def sendLimbHealthUpdate (core : Core) (entityId : EntityID) (gameObj : GameObject) : List Bytes :=
  if gameObj = 0 then []
  else
    match readAllLimbHealth core gameObj with
    | none => []
    | some limbHealth =>
      [writeHeader .C2S_LimbHealth ++ u32.encode entityId ++ (f32.array 7).encode limbHealth]

/-- The packets that an event gives rise to; none when the entity is not registered any more. -/
def handle (core : Core) (evt : DeferredCombatEvent) : List Bytes :=
  match core.registry.getInfo evt.entityId with
  | none => []
  | some _ =>
    let gameObj := core.registry.getGameObject evt.entityId
    match evt.type with
    | .Death =>
      (writeHeader .C2S_CombatDeath ++ u32.encode evt.entityId ++ u32.encode evt.otherId)
        :: sendLimbHealthUpdate core evt.entityId gameObj
    | .KO =>
      (writeHeader .C2S_CombatKO ++ u32.encode evt.entityId ++ u32.encode evt.otherId
          ++ u8.encode evt.reason
          ++ f32.encode (if gameObj = 0 then lit (-100) 1 else readChestHealth core gameObj))
        :: sendLimbHealthUpdate core evt.entityId gameObj

/-! ### The tick -/

/-- Take everything out. -/
def drain : Nat → EventRing → EventRing
  | 0, events => events
  | fuel + 1, events =>
    match events.pop with
    | none => events
    | some (_, rest) => drain fuel rest

/-- The loop, with what is left of the cap: the events that are handled, and the ring behind them.
The event that is taken out when the cap is reached is not among them. -/
def processFrom : Nat → EventRing → List DeferredCombatEvent × EventRing
  | 0, events =>
    match events.pop with
    | none => ([], events)
    | some (_, rest) => ([], rest)
  | budget + 1, events =>
    match events.pop with
    | none => ([], events)
    | some (evt, rest) => (evt :: (processFrom budget rest).1, (processFrom budget rest).2)

/-- The state after a tick, and the events that it has handled. -/
def processDeferredEvents (core : Core) (state : State) : State × List DeferredCombatEvent :=
  if core.isConnected then
    let (handled, events) := processFrom MAX_PROCESSED state.events
    ({ state with events := events, dropCount := 0 }, handled)
  else ({ state with events := drain MAX_DEFERRED_EVENTS state.events }, [])

/-! ### What the loops do to what is pending -/

theorem pushEvent_pending (state : State) (evt : DeferredCombatEvent) :
    (pushEvent state evt).1.events.pending
      = state.events.pending ++ (if (pushEvent state evt).2 then [evt] else []) := by
  unfold pushEvent
  rcases pushed : state.events.push evt with ⟨events, taken⟩
  cases taken with
  | true => exact RingBuffer.push_pending pushed
  | false => exact (List.append_nil _).symm

theorem drain_pending (fuel : Nat) (events : EventRing) :
    (drain fuel events).pending = events.pending.drop fuel := by
  induction fuel generalizing events with
  | zero => rfl
  | succ fuel ih =>
    unfold drain
    cases popped : events.pop with
    | none =>
      rw [RingBuffer.pop_none_iff.mp popped]
      rfl
    | some found =>
      rw [RingBuffer.pop_pending popped, List.drop_succ_cons]
      exact ih found.2

/-- A tick handles the oldest events up to the cap, and takes out one more than it handles. -/
theorem processFrom_spec (budget : Nat) (events : EventRing) :
    (processFrom budget events).1 = events.pending.take budget
      ∧ (processFrom budget events).2.pending = events.pending.drop (budget + 1) := by
  induction budget generalizing events with
  | zero =>
    unfold processFrom
    cases popped : events.pop with
    | none =>
      rw [RingBuffer.pop_none_iff.mp popped]
      exact ⟨rfl, rfl⟩
    | some found =>
      rw [RingBuffer.pop_pending popped]
      exact ⟨rfl, rfl⟩
  | succ budget ih =>
    unfold processFrom
    cases popped : events.pop with
    | none =>
      rw [RingBuffer.pop_none_iff.mp popped]
      exact ⟨rfl, rfl⟩
    | some found =>
      obtain ⟨handled, left⟩ := ih found.2
      rw [RingBuffer.pop_pending popped, List.take_succ_cons, List.drop_succ_cons, ← handled, ← left]
      exact ⟨rfl, rfl⟩

end CombatHooks

end KenshiMP
