/-
**The characters that the animation hook has seen.**

A tick names an animation object, and the character is what the object points to. The entry of a tracked
character is updated on the spot if the lock can be had; otherwise, and for a character that is not tracked,
the two pointers go into a ring, from which `processDeferredDiscovery` takes up to eight a time. An entry is
made with the name that the character has then, and stays. A lookup takes the first entry of a name in the
order of a hash table, which is any order (`rank`).

Left out are the hook itself, the position that an entry is made with, which nothing reads but the log, and
the callback for new characters.
-/

import KenshiMP.Client.SharedSave
import KenshiMP.Lib.RingBuffer

namespace KenshiMP

open Wire (Bytes)
open Assoc

namespace CharTracker

/-- What can be read of the game: the character behind an animation object (at 0x2D8), and the name of
the character at an address, which is empty if there is none. -/
structure World where
  charOf : GameObject → Option GameObject
  nameAt : GameObject → Bytes

structure Tracked extends TrackedChar where
  name : Bytes
  lastSeenTick : UInt64

structure PendingCharUpdate where
  animClassPtr : GameObject
  charPtr : GameObject
deriving DecidableEq

def PENDING_RING_SIZE : Nat := 128

theorem ring_size_pos : 0 < PENDING_RING_SIZE := by decide

structure Tracker where
  trackedChars : AMap GameObject Tracked := ∅
  pendingRing : RingBuffer PendingCharUpdate PENDING_RING_SIZE :=
    ⟨fun _ => ⟨0, 0⟩, ⟨0, ring_size_pos⟩, ⟨0, ring_size_pos⟩⟩

/-- A pointer of the game. -/
def validPtr (ptr : GameObject) : Bool := !(ptr < 0x10000 || 0x00007FFFFFFFFFFF < ptr)

/-- The character of a tick. -/
def tickedChar (world : World) (animClassHuman : GameObject) : Option GameObject :=
  if animClassHuman = 0 then none
  else if !validPtr animClassHuman then none
  else (world.charOf animClassHuman).filter fun charPtr => charPtr ≠ 0 && validPtr charPtr

/-- An entry that is seen with an animation object. -/
def Tracked.sighted (animClassPtr : GameObject) (now : UInt64) (tc : Tracked) : Tracked :=
  { tc with animClassPtr := animClassPtr, lastSeenTick := now }

namespace Tracker

variable (tracker : Tracker) (world : World) (now : UInt64)

/-- The lock is free or not. -/
def onCharUpdate (locked : Bool) (animClassHuman : GameObject) : Tracker :=
  match tickedChar world animClassHuman with
  | none => tracker
  | some charPtr =>
    if locked && (tracker.trackedChars.lookup charPtr).isSome then
      { tracker with
        trackedChars := AMap.modify charPtr (Tracked.sighted animClassHuman now) tracker.trackedChars }
    else { tracker with pendingRing := (tracker.pendingRing.push ⟨animClassHuman, charPtr⟩).1 }

end Tracker

/-- What is made of one update from the ring. -/
def processPending (world : World) (now : UInt64) (trackedChars : AMap GameObject Tracked)
    (pending : PendingCharUpdate) : AMap GameObject Tracked :=
  if (trackedChars.lookup pending.charPtr).isSome then
    AMap.modify pending.charPtr (Tracked.sighted pending.animClassPtr now) trackedChars
  else if world.nameAt pending.charPtr = [] then trackedChars
  else
    trackedChars.insert pending.charPtr
      { animClassPtr := pending.animClassPtr
        characterPtr := pending.charPtr
        name := world.nameAt pending.charPtr
        lastSeenTick := now }

namespace Tracker

variable (tracker : Tracker) (world : World) (now : UInt64)

/-- The loop, for a number of updates. -/
def processUpTo : Nat → Tracker → Tracker
  | 0, tracker => tracker
  | left + 1, tracker =>
    match tracker.pendingRing.pop with
    | none => tracker
    | some (pending, ring) =>
      processUpTo left ⟨processPending world now tracker.trackedChars pending, ring⟩

def processDeferredDiscovery : Tracker := processUpTo world now 8 tracker

def findByName (rank : GameObject → Nat) (name : Bytes) : Option Tracked :=
  ((AMap.reorder rank tracker.trackedChars).toList.find? fun entry => entry.2.name = name).map Prod.snd

end Tracker

end CharTracker

end KenshiMP
