/-
**The faction string in the memory of the game, and the patch of it.**

The string is the text that lies at one of two known offsets and has a dash and a dot; failing that, the
first place in `.rdata` that has the default text, for which the section is searched without its last place.
The patch writes at most 24 bytes of the assigned string, and a zero. It is made when an assignment comes in
the main menu or in the game, and before a save is loaded there.

The headers of the module are taken as they are when it is loaded; no write reaches them. A read of an address
that is not mapped faults, which the guarded reads notice. `VirtualProtect` is the system's, and makes what it
is granted for writable. Left out are the log, the messages on the screen and what else a loading gap resets.
-/

import KenshiMP.Client.SharedSave
import KenshiMP.Client.Spawns
import KenshiMP.Lib.Occurrences

namespace KenshiMP

open Wire (Bytes ascii)

namespace FactionPatch

/-! ### The game -/

abbrev Address := BitVec 64

structure SectionHeader where
  name : Bytes
  virtualSize : UInt32
  virtualAddress : UInt32

structure GameModule where
  moduleBase : Address
  e_magic : UInt16
  signature : UInt32
  sections : List SectionHeader
  mapped : Address → Bool
  /-- Whether a number of bytes can be made writable. -/
  virtualProtect : Address → ℕ → Bool

def IMAGE_DOS_SIGNATURE : UInt16 := 0x5A4D
def IMAGE_NT_SIGNATURE : UInt32 := 0x00004550

/-! ### Finding the string -/

section Find

variable (game : GameModule) (memory : ByteMemory.Memory 64)

/-- Some bytes, unless the read faults. -/
def readText (count : ℕ) (addr : Address) : Option Bytes :=
  if (List.range count).all fun i => game.mapped (addr + BitVec.ofNat 64 i) then
    some ((List.range count).map fun i => memory (addr + BitVec.ofNat 64 i))
  else none

def sehCheckFactionCandidate (addr : Address) : Option Bytes := readText game memory 17 addr

def sehMemcmpAt (searchStr : Bytes) (addr : Address) : Bool :=
  readText game memory searchStr.length addr = some searchStr

/-- Steam and GOG. -/
def candidates : List Address := [game.moduleBase + 0x16C4258, game.moduleBase + 0x16C2F68]

/-- What lies at a known offset has a dash and a dot. -/
def hasDashAndDot (addr : Address) : Bool :=
  (sehCheckFactionCandidate game memory addr).any fun buf => buf.contains 0x2D && buf.contains 0x2E

def searchStr : Bytes := ascii "204-gamedata.base"

def searchSection (header : SectionHeader) : Option Address :=
  if header.name.take 6 = ascii ".rdata" then
    let start := game.moduleBase + BitVec.ofNat 64 header.virtualAddress.toNat
    let stop := start + BitVec.ofNat 64 header.virtualSize.toNat
    -- every address below `end - searchLen`
    ByteMemory.scan (sehMemcmpAt game memory searchStr)
      ((stop - BitVec.ofNat 64 searchStr.length).toNat - start.toNat) start
  else none

/-- Zero if there is none. -/
def findFactionStringAddress : Address :=
  match (candidates game).find? (hasDashAndDot game memory) with
  | some addr => addr
  | none =>
    if game.e_magic ≠ IMAGE_DOS_SIGNATURE then 0
    else if game.signature ≠ IMAGE_NT_SIGNATURE then 0
    else (game.sections.findSome? (searchSection game memory)).getD 0

/-! ### The patch -/

def MAX_FACTION_WRITE : ℕ := 24

/-- Whether the string is patched, and the memory then. -/
def applyFactionPatch (lobby : LobbyManager) : Bool × ByteMemory.Memory 64 :=
  if !lobby.hasAssignment || lobby.factionString = [] then (false, memory)
  else if findFactionStringAddress game memory = 0 then (false, memory)
  else if !game.virtualProtect (findFactionStringAddress game memory)
      (min lobby.factionString.length MAX_FACTION_WRITE + 1) then (false, memory)
  else
    (true, ByteMemory.overwrite memory (findFactionStringAddress game memory)
      (lobby.factionString.take MAX_FACTION_WRITE ++ [0]))

end Find

/-! ### The calls of the client -/

/-- A call of `applyFactionPatch`: the assigned string, the memory before, and the result. -/
structure Call where
  factionString : Bytes
  before : ByteMemory.Memory 64
  result : Bool × ByteMemory.Memory 64

structure State where
  lobby : LobbyManager := {}
  memory : ByteMemory.Memory 64

inductive Event where
  /-- The body of a faction assignment comes in. -/
  | factionAssignment (phase : ClientPhase) (packet : Bytes)
  | loadingGap (phase : ClientPhase)

/-- The string and the slot; a slot that is missing is zero. -/
def readFactionAssignment (packet : Bytes) : Option (Bytes × Int32) :=
  match (PacketReader.start packet).readU16 with
  | none => none
  | some (strLen, rest) =>
    if strLen = 0 || 32 < strLen then none
    else
      match rest.readBytes strLen.toNat with
      | none => none
      | some (factionStr, rest) => some (factionStr, (rest.readI32.map Prod.fst).getD 0)

def atMenu (phase : ClientPhase) : Bool := phase = .MainMenu || phase = .GameReady

section Calls

variable (game : GameModule)

def patch (state : State) : State × List Call :=
  let result := applyFactionPatch game state.memory state.lobby
  ({ state with memory := result.2 }, [⟨state.lobby.factionString, state.memory, result⟩])

def handleFactionAssignment (phase : ClientPhase) (packet : Bytes) (state : State) : State × List Call :=
  match readFactionAssignment packet with
  | none => (state, [])
  | some (factionStr, slot) =>
    let assigned := { state with lobby := state.lobby.onFactionAssigned factionStr slot }
    if atMenu phase then patch game assigned else (assigned, [])

def onLoadingGapDetected (phase : ClientPhase) (state : State) : State × List Call :=
  if atMenu phase && state.lobby.hasAssignment then patch game state else (state, [])

def machine : Machine State Event Call where
  step state event :=
    match event with
    | .factionAssignment phase packet => handleFactionAssignment game phase packet state
    | .loadingGap phase => onLoadingGapDetected game phase state

end Calls

end FactionPatch

end KenshiMP
