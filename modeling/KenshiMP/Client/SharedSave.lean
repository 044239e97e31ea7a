/-
**Two players of one save, on the client.**

The lobby manager keeps the faction a server has assigned; the sync takes from it the name of the own
character and that of the other one, finds both among the tracked characters, sends the own position
and keeps the last position of the other player. Addresses are as in the registry, zero for none; what
reads the game's memory is an argument. Left out is what writes to it, the log and the game's speed.
-/

import KenshiMP.Client.Replication
import KenshiMP.Client.Senders

namespace KenshiMP

open Wire (Bytes ascii)

/-! ### The lobby -/

structure LobbyManager where
  factionString : Bytes := []
  playerSlot : Int32 := -1
  hasAssignment : Bool := false
deriving DecidableEq

namespace LobbyManager

def onFactionAssigned (_lobby : LobbyManager) (factionString : Bytes) (playerSlot : Int32) :
    LobbyManager := ⟨factionString, playerSlot, true⟩

/-- A string of no bytes, or of more than 32, is dropped. -/
def handleFactionAssignment (lobby : LobbyManager) (factionStr : Bytes) (slot : Int32) : LobbyManager :=
  if factionStr.length = 0 || 32 < factionStr.length then lobby
  else lobby.onFactionAssigned factionStr slot

end LobbyManager

/-! ### Names -/

def factionToOwnName (faction : Bytes) : Bytes :=
  if faction = ascii "10-kenshi-online" then ascii "Player 1"
  else if faction = ascii "12-kenshi-online" then ascii "Player 2"
  else []

def factionToOtherName (faction : Bytes) : Bytes :=
  if faction = ascii "10-kenshi-online" then ascii "Player 2"
  else if faction = ascii "12-kenshi-online" then ascii "Player 1"
  else []

/-! ### The sync -/

/-- A character that the animation hook has seen. -/
structure TrackedChar where
  animClassPtr : GameObject
  characterPtr : GameObject

structure SharedSaveSync where
  ownCharName : Bytes := []
  otherCharName : Bytes := []
  ownAnimClass : GameObject := 0
  otherAnimClass : GameObject := 0
  ownCharPtr : GameObject := 0
  otherCharPtr : GameObject := 0
  initialized : Bool := false
  ownFound : Bool := false
  otherFound : Bool := false
  lastPosSend : Nat := 0
  revalidateCounter : Nat := 0
  remotePosition : Vec3 := {}
  hasRemotePosition : Bool := false
deriving DecidableEq

def POS_SEND_INTERVAL_MS : Nat := 50

namespace SharedSaveSync

variable (sync : SharedSaveSync)

/-- Take the names from the faction; an unknown one leaves the sync uninitialised. -/
def init (lobby : LobbyManager) : SharedSaveSync :=
  if !lobby.hasAssignment then sync
  else
    let named := { sync with
      ownCharName := factionToOwnName lobby.factionString
      otherCharName := factionToOtherName lobby.factionString }
    if named.ownCharName = [] || named.otherCharName = [] then named
    else
      { named with
        initialized := true
        ownFound := false
        otherFound := false
        ownAnimClass := 0
        otherAnimClass := 0
        ownCharPtr := 0
        otherCharPtr := 0
        hasRemotePosition := false
        remotePosition := {} }

/-- When the connection ends. -/
def reset : SharedSaveSync :=
  { sync with
    initialized := false
    ownFound := false
    otherFound := false
    ownAnimClass := 0
    otherAnimClass := 0
    ownCharPtr := 0
    otherCharPtr := 0
    ownCharName := []
    otherCharName := []
    hasRemotePosition := false }

def onRemotePositionReceived (pos : Vec3) : SharedSaveSync :=
  { sync with remotePosition := pos, hasRemotePosition := true }

variable (findByName : Bytes → Option TrackedChar)

/-- The tracked character of a name, if its address is known. -/
def seen (name : Bytes) : Option TrackedChar :=
  (findByName name).filter fun tc => tc.animClassPtr ≠ 0

def discoverOwn : SharedSaveSync :=
  if sync.ownFound then sync
  else
    match seen findByName sync.ownCharName with
    | none => sync
    | some tc =>
      { sync with
        ownAnimClass := tc.animClassPtr, ownCharPtr := tc.characterPtr, ownFound := true }

def discoverOther : SharedSaveSync :=
  if sync.otherFound then sync
  else
    match seen findByName sync.otherCharName with
    | none => sync
    | some tc =>
      { sync with
        otherAnimClass := tc.animClassPtr, otherCharPtr := tc.characterPtr, otherFound := true }

/-- Look for the characters that are not found yet. -/
def discover : SharedSaveSync := (sync.discoverOwn findByName).discoverOther findByName

def refreshOwn : SharedSaveSync :=
  match findByName sync.ownCharName with
  | none => sync
  | some tc =>
    if tc.animClassPtr ≠ sync.ownAnimClass then
      { sync with ownAnimClass := tc.animClassPtr, ownCharPtr := tc.characterPtr }
    else sync

def refreshOther : SharedSaveSync :=
  match findByName sync.otherCharName with
  | none => sync
  | some tc =>
    if tc.animClassPtr ≠ sync.otherAnimClass then
      { sync with otherAnimClass := tc.animClassPtr, otherCharPtr := tc.characterPtr }
    else sync

/-- Every 300 updates the addresses are looked up again; a character that keeps its animation object keeps
the address that is known. -/
def revalidate : SharedSaveSync :=
  let counted := { sync with revalidateCounter := sync.revalidateCounter + 1 }
  if counted.revalidateCounter % 300 ≠ 0 then counted
  else (counted.refreshOwn findByName).refreshOther findByName

/-- The record of the own character: it goes under identifier zero. -/
def avatarRecord (myPos : Vec3) : CharacterPosition where
  entityId := 0
  generation := 0
  posX := myPos.x
  posY := myPos.y
  posZ := myPos.z
  compressedQuat := 0
  animStateId := 0
  moveSpeed := 0
  flags := 0

/-- A position packet with that one record. -/
def avatarPacket (myPos : Vec3) : Bytes :=
  writeHeader .C2S_PositionUpdate ++ positionBody [avatarRecord myPos]

/-- A position that is read, and is not the origin. -/
def readOwn (readPosition : GameObject → Option Vec3) : Option Vec3 :=
  (readPosition sync.ownAnimClass).filter fun pos =>
    !SyncOrchestrator.isZero pos.x || !SyncOrchestrator.isZero pos.y
      || !SyncOrchestrator.isZero pos.z

/-- Send the own position, at most every 50 milliseconds. -/
def sendOwn (readPosition : GameObject → Option Vec3) (now : Nat) : SharedSaveSync × Option Bytes :=
  if POS_SEND_INTERVAL_MS ≤ now - sync.lastPosSend && sync.ownAnimClass ≠ 0 then
    ({ sync with lastPosSend := now }, (sync.readOwn readPosition).map avatarPacket)
  else (sync, none)

/-- One update: the state after it and the packet that is sent, if any. -/
def update (connected gameLoaded : Bool) (lobby : LobbyManager)
    (readPosition : GameObject → Option Vec3) (now : Nat) : SharedSaveSync × Option Bytes :=
  if !connected || !gameLoaded then (sync, none)
  else
    let started := if sync.initialized then sync else sync.init lobby
    if !started.initialized then (started, none)
    else if !started.ownFound || !started.otherFound then
      let found := started.discover findByName
      if !found.ownFound || !found.otherFound then (found, none)
      else found.sendOwn readPosition now
    else (started.revalidate findByName).sendOwn readPosition now

/-! ### Positions from the server -/

/-- One record of a position packet; the flag says that a position has been taken already. -/
def feedOne (registry : EntityRegistry) (sourcePlayer myPlayerId : PlayerID)
    (progress : SharedSaveSync × Bool) (pos : CharacterPosition) : SharedSaveSync × Bool :=
  let position : Vec3 := ⟨pos.posX, pos.posY, pos.posZ⟩
  if !position.isFinite then progress
  else if validateInboundSnapshot pos sourcePlayer myPlayerId registry ≠ .ApplyRemote then progress
  else if !progress.2 && sourcePlayer ≠ 0 && sourcePlayer ≠ myPlayerId
      && (!SyncOrchestrator.isZero position.x || !SyncOrchestrator.isZero position.y
        || !SyncOrchestrator.isZero position.z) then
    (progress.1.onRemotePositionReceived position, true)
  else progress

/-- What a position packet does to the sync. -/
def handlePositionUpdate (registry : EntityRegistry) (sourcePlayer myPlayerId : PlayerID)
    (count : UInt8) (records : List CharacterPosition) : SharedSaveSync :=
  ((records.take count.toNat).foldl (feedOne registry sourcePlayer myPlayerId) (sync, false)).1

end SharedSaveSync

end KenshiMP
