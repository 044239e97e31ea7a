/-
**The senders of positions of a client.**

What reading a character gives (`BGReadResult`) becomes a record once it is far enough from the last
position the registry has. Two senders do so. The poll of the main thread writes one packet a
character, field by field; the background read writes one packet for all of them, a count and the
records as they lie in memory. `positionRead` is what both of them measure.

`Tracker` is the part of a client that they share with the announcements and the teleport to the
host: the registry, the characters of the game, and what was handed to the network.
-/

import KenshiMP.Client.Packets
import KenshiMP.Client.Registry

namespace KenshiMP

open Wire (Bytes Codec)
open Wire.Codec
open Assoc

/-! ### Measuring -/

/-- What reading a character gives; nothing is valid when the read faults. -/
structure BGReadResult where
  pos : Vec3 := {}
  rot : Quat := {}
  speed : F32 := lit 0 1
  animState : UInt8 := 0
  valid : Bool := true

/-- A float cast to a byte. -/
def toUInt8 (x : F32) : UInt8 := (toInt32 x).toUInt32.toUInt8

/-- The speed the game has, or else the computed one. -/
def chosenSpeed (speed computedSpeed : F32) : F32 :=
  if speed.le (lit 0 1) && (lit 0 1).lt computedSpeed then computedSpeed else speed

/-- The animation the game has, or else one that fits the speed. -/
def chosenAnimState (animState : UInt8) (speed : F32) : UInt8 :=
  if animState = 0 && (lit 1 2).lt speed then (if (lit 5 1).lt speed then 2 else 1) else animState

/-- A speed up to 15 on eight bits. -/
def speedByte (speed : F32) : UInt8 :=
  let scaled := (speed.div (lit 15 1)).mul (lit 255 1)
  toUInt8 (if scaled.lt (lit 255 1) then scaled else lit 255 1)

def speedFlags (speed : F32) : UInt16 := if (lit 3 1).lt speed then 1 else 0

/-- The record about a character, with the speed computed from the distance. -/
def positionRead (netId : EntityID) (generation : UInt32) (rd : BGReadResult) (computedSpeed : F32) :
    CharacterPosition where
  entityId := netId
  generation := generation
  posX := rd.pos.x
  posY := rd.pos.y
  posZ := rd.pos.z
  compressedQuat := rd.rot.compress
  animStateId := chosenAnimState rd.animState (chosenSpeed rd.speed computedSpeed)
  moveSpeed := speedByte (chosenSpeed rd.speed computedSpeed)
  flags := speedFlags (chosenSpeed rd.speed computedSpeed)

/-- Closer than the threshold to the last known position. -/
def unmoved (info : EntityInfo) (rd : BGReadResult) : Bool :=
  (rd.pos.distanceTo info.lastPosition).lt KMP_POS_CHANGE_THRESHOLD

/-- One local character: its identifier, what the registry has, what reading it gives. -/
structure EntityReading where
  netId : EntityID
  info : EntityInfo
  rd : BGReadResult

namespace SyncOrchestrator

/-! ### The poll of the main thread -/

/-- The speed over the time since the last poll, in milliseconds. -/
def polledSpeed (elapsed : Nat) (info : EntityInfo) (rd : BGReadResult) : F32 :=
  let elapsedSec : F32 := (Binary.Flt.ofInt elapsed).div (lit 1000 1)
  if (lit 1 1000).lt elapsedSec then (rd.pos.distanceTo info.lastPosition).div elapsedSec else lit 0 1

/-- The record that the poll means to send, if the character has moved. -/
def polled (elapsed : Nat) (reading : EntityReading) : Option CharacterPosition :=
  if !reading.rd.valid || unmoved reading.info reading.rd then none
  else some (positionRead reading.netId reading.info.generation reading.rd
    (polledSpeed elapsed reading.info reading.rd))

/-- The fields the poll writes, behind a count of one. -/
def pollFields : Codec (UInt8 × UInt32 × F32 × F32 × F32 × UInt32 × UInt8 × UInt8 × UInt16) :=
  u8.prod (u32.prod (f32.prod (f32.prod (f32.prod (u32.prod (u8.prod (u8.prod u16)))))))

def pollPacket (pos : CharacterPosition) : Bytes :=
  writeHeader .C2S_PositionUpdate ++ pollFields.encode (1, pos.entityId, pos.posX, pos.posY, pos.posZ,
    pos.compressedQuat, pos.animStateId, pos.moveSpeed, pos.flags)

/-- The packets of a poll, with the record each one is meant to carry. -/
def pollPackets (elapsed : Nat) (readings : List EntityReading) : List (CharacterPosition × Bytes) :=
  (readings.filterMap (polled elapsed)).map fun pos => (pos, pollPacket pos)

/-! ### The background read -/

/-- Either zero. -/
def isZero (x : F32) : Bool := x.le (lit 0 1) && (lit 0 1).le x

/-- At the origin, where no character is. -/
def atOrigin (rd : BGReadResult) : Bool := isZero rd.pos.x && isZero rd.pos.y && isZero rd.pos.z

/-- The background read takes the character. -/
def taken (reading : EntityReading) : Bool :=
  !reading.info.isRemote && reading.rd.valid && !atOrigin reading.rd
    && !unmoved reading.info reading.rd

/-- The speed over one frame. -/
def frameSpeed (info : EntityInfo) (rd : BGReadResult) : F32 :=
  (rd.pos.distanceTo info.lastPosition).div (lit 16 1000)

/-- The records that the background read means to send. -/
def backgroundMeant (readings : List EntityReading) : List CharacterPosition :=
  (readings.filter taken).map fun reading =>
    positionRead reading.netId reading.info.generation reading.rd (frameSpeed reading.info reading.rd)

/-- The records it writes: it leaves their generation as it lies on the stack. -/
def backgroundRecords (stack : EntityID → UInt32) (readings : List EntityReading) : List CharacterPosition :=
  (readings.filter taken).map fun reading =>
    positionRead reading.netId (stack reading.netId) reading.rd
      (frameSpeed reading.info reading.rd)

/-- The packet of a background read. -/
def backgroundPacket (stack : EntityID → UInt32) (readings : List EntityReading) : Option Bytes :=
  let records := backgroundRecords stack readings
  if records = [] then none
  else some (writeHeader .C2S_PositionUpdate ++ positionBody records)

end SyncOrchestrator

/-! ### Tracking -/

/-- What the writers of `lastPosition` share. -/
structure Tracker where
  registry : EntityRegistry := {}
  localPlayerId : PlayerID := 0
  /-- what reading a character gives now -/
  world : GameObject → BGReadResult := fun _ => {}
  lastPollTime : Nat := 0
  /-- what the background read has taken and not yet written -/
  pendingPositions : List (EntityID × Vec3 × Quat) := []
  hostSpawnPoint : Option Vec3 := none
  spawnTeleportDone : Bool := false
  isHost : Bool := false
  hostTpTimer : Option Nat := none
  /-- the positions handed to the network, in order -/
  handed : List (EntityID × Vec3) := []

def KMP_TICK_INTERVAL_MS : Nat := 50

namespace Tracker

open SyncOrchestrator

variable (tracker : Tracker)

/-- What the senders know of an entity of the local player that has a game object. -/
def reading (netId : EntityID) : Option EntityReading :=
  match tracker.registry.getInfo netId with
  | none => none
  | some info =>
    if info.gameObject = 0 then none else some ⟨netId, info, tracker.world info.gameObject⟩

/-- Hand a position to the network and write it into the registry. -/
def report (netId : EntityID) (rd : BGReadResult) : Tracker :=
  { tracker with
    registry := tracker.registry.updateTransform netId rd.pos rd.rot
    handed := tracker.handed ++ [(netId, rd.pos)] }

/-- The scan announces a character of the local player that is not registered. -/
def announce (gameObject : GameObject) (type : UInt8) : Tracker :=
  if atOrigin (tracker.world gameObject) || tracker.registry.getNetId gameObject ≠ 0 then tracker
  else
    { tracker with registry := tracker.registry.register gameObject type tracker.localPlayerId }.report
      (tracker.registry.registerId gameObject) (tracker.world gameObject)

/-- The poll of one entity; a character that cannot be read loses its game object. -/
def pollOne (elapsed : Nat) (tracker : Tracker) (netId : EntityID) : Tracker :=
  match tracker.reading netId with
  | none => tracker
  | some reading =>
    if !reading.rd.valid then { tracker with registry := tracker.registry.setGameObject netId 0 }
    else
      match polled elapsed reading with
      | none => tracker
      | some _ => tracker.report netId reading.rd

/-- The poll runs: there is a player, and the last one is long enough ago. -/
def polls (now : Nat) : Bool :=
  tracker.localPlayerId ≠ 0 && KMP_TICK_INTERVAL_MS ≤ now - tracker.lastPollTime

def stagePollAndSendPositions (now : Nat) : Tracker :=
  if !tracker.polls now then tracker
  else (tracker.registry.getPlayerEntities tracker.localPlayerId).foldl
    (pollOne (now - tracker.lastPollTime)) { tracker with lastPollTime := now }

/-- The background read finds that an entity of the local player has moved. -/
def foundMoved (netId : EntityID) : Option EntityReading :=
  match tracker.reading netId with
  | none => none
  | some reading =>
    if reading.info.ownerPlayerId = tracker.localPlayerId && taken reading then some reading else none

def backgroundReadOne (netId : EntityID) : Tracker :=
  match tracker.foundMoved netId with
  | none => tracker
  | some reading =>
    { tracker with pendingPositions :=
        tracker.pendingPositions ++ [(netId, reading.rd.pos, reading.rd.rot)] }

/-- The background read writes what it has taken. The packet it builds stays in the frame. -/
def backgroundWrite : Tracker :=
  { tracker with
    registry := tracker.pendingPositions.foldl
      (fun registry (netId, pos, rot) => registry.updateTransform netId pos rot) tracker.registry
    pendingPositions := [] }

/-- The place of a teleported character: rows of four, three units apart. -/
def teleportPlace (hostPos : Vec3) (teleported : Nat) : Vec3 :=
  { hostPos with
    x := hostPos.x.add ((Binary.Flt.ofInt (teleported % 4 : Nat)).mul (lit 3 1))
    z := hostPos.z.add ((Binary.Flt.ofInt (teleported / 4 : Nat)).mul (lit 3 1)) }

/-- A character whose position can be written is put beside the host. -/
def teleportOne (hostPos : Vec3) (writable : GameObject → Bool) (progress : Tracker × Nat)
    (netId : EntityID) : Tracker × Nat :=
  let (tracker, teleported) := progress
  let gameObj := tracker.registry.getGameObject netId
  if gameObj = 0 || !writable gameObj then (tracker, teleported)
  else
    let spawnPos := teleportPlace hostPos teleported
    ({ tracker with
        world := Function.update tracker.world gameObj
          { tracker.world gameObj with pos := spawnPos }
        registry := tracker.registry.updatePosition netId spawnPos }, teleported + 1)

/-- Where the teleport goes, once there is a place, it has waited two seconds, and it is still to be
done by a client that is not the host. -/
def teleportDue (now : Nat) : Option Vec3 :=
  if tracker.spawnTeleportDone || tracker.isHost then none
  else
    match tracker.hostTpTimer with
    | none => none
    | some since => if (now - since) / 1000 < 2 then none else tracker.hostSpawnPoint

/-- The first call with a place starts the timer. -/
def startTimer (now : Nat) : Tracker :=
  if tracker.hostSpawnPoint.isNone || tracker.spawnTeleportDone || tracker.isHost
    || tracker.hostTpTimer.isSome then tracker
  else { tracker with hostTpTimer := some now }

def handleHostTeleport (now : Nat) (writable : GameObject → Bool) : Tracker :=
  match (tracker.startTimer now).teleportDue now with
  | none => tracker.startTimer now
  | some hostPos =>
    let (moved, teleported) :=
      (tracker.registry.getPlayerEntities tracker.localPlayerId).foldl
        (teleportOne hostPos writable) (tracker.startTimer now, 0)
    { moved with spawnTeleportDone := moved.spawnTeleportDone || 0 < teleported }

/-- What happens to the positions of a client. -/
inductive Event where
  | announce (gameObject : GameObject) (type : UInt8)
  /-- the game moves a character, or loses it -/
  | move (gameObject : GameObject) (rd : BGReadResult)
  | poll (now : Nat)
  | backgroundReadOne (netId : EntityID)
  | backgroundWrite
  /-- the host's place is known, and whether that is here -/
  | hostKnown (hostPos : Vec3) (isHost : Bool)
  | hostTeleport (now : Nat) (writable : GameObject → Bool)

def step (event : Event) : Tracker :=
  match event with
  | .announce gameObject type => tracker.announce gameObject type
  | .move gameObject rd => { tracker with world := Function.update tracker.world gameObject rd }
  | .poll now => tracker.stagePollAndSendPositions now
  | .backgroundReadOne netId => tracker.backgroundReadOne netId
  | .backgroundWrite => tracker.backgroundWrite
  | .hostKnown hostPos isHost => { tracker with hostSpawnPoint := some hostPos, isHost := isHost }
  | .hostTeleport now writable => tracker.handleHostTeleport now writable

end Tracker

/-- The machine of the writers of positions; what it hands to the network is in its state. -/
def trackerMachine : Machine Tracker Tracker.Event Empty where
  step tracker event := (tracker.step event, [])

end KenshiMP
