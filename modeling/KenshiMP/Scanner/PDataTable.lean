/-
**Filling the function table from `.pdata`.**

`enumerate` finds the exception directory in the headers of the module and walks its `RUNTIME_FUNCTION`
entries with `sehEnumeratePData`, which an entry that cannot be read ends. What was read until then is the
table; only a walk that comes to the end is followed by the sort. The lookups are binary searches whichever
way the table was left.

An address that cannot be read has no byte. The headers are read outside of the guarded block, so that a fault
there ends the process, and `enumerate` has no result. Left out are the log with its statistics, the label
fields that nothing here writes, and a failure of `reserve`; the sort is stable here, which no table with
distinct starts can tell.
-/

import KenshiMP.Lib.BinarySearch
import KenshiMP.Lib.Machine
import KenshiMP.Scanner.CallGraph

namespace KenshiMP

namespace PData

/-! ### Memory with holes -/

abbrev MappedBytes := Uintptr → Option UInt8

variable (bytes : MappedBytes)

/-- Some bytes as a number, the lowest first. -/
def readLE (count : Nat) (address : Uintptr) : Option Nat :=
  ((List.range count).mapM fun k => bytes (address + UInt64.ofNat k)).map Wire.leValue

def readU16 (address : Uintptr) : Option UInt16 := (readLE bytes 2 address).map UInt16.ofNat
def readU32 (address : Uintptr) : Option UInt32 := (readLE bytes 4 address).map UInt32.ofNat

/-! ### The entries -/

structure RuntimeFunction where
  beginAddress : UInt32
  endAddress : UInt32
  unwindInfoAddress : UInt32
deriving DecidableEq, Repr

/-- An entry of the table, with what `.pdata` and the unwind data say of the function. -/
structure FunctionRecord extends FunctionEntry where
  startRVA : Uintptr
  endRVA : Uintptr
  unwindRVA : UInt32
  prologueSize : UInt8 := 0
  unwindCodeCount : UInt16 := 0
  frameRegister : UInt8 := 0
  frameOffset : UInt8 := 0
deriving DecidableEq

/-- The entry at an address; there is none where `BeginAddress` is zero, or where it cannot be read. -/
def runtimeFunction (address : Uintptr) : Option RuntimeFunction := do
  let beginAddress ← readU32 bytes address
  if beginAddress = 0 then none
  else do
    let endAddress ← readU32 bytes (address + 4)
    let unwindInfoAddress ← readU32 bytes (address + 8)
    some ⟨beginAddress, endAddress, unwindInfoAddress⟩

section Module

variable (moduleBase : Uintptr) (moduleSize : UInt64)

/-- The record of an entry, before its unwind data is looked at. -/
def record (rf : RuntimeFunction) : FunctionRecord where
  startVA := moduleBase + rf.beginAddress.toUInt64
  endVA := moduleBase + rf.endAddress.toUInt64
  size := (rf.endAddress - rf.beginAddress).toUInt64
  startRVA := rf.beginAddress.toUInt64
  endRVA := rf.endAddress.toUInt64
  unwindRVA := rf.unwindInfoAddress

def unwindPtr (rf : RuntimeFunction) : Uintptr :=
  moduleBase + (rf.unwindInfoAddress &&& ~~~1).toUInt64

/-- The unwind data is looked at if it lies below the end of the module. -/
def withUnwind (rf : RuntimeFunction) : Option FunctionRecord :=
  if unwindPtr moduleBase rf ≠ 0 && unwindPtr moduleBase rf < moduleBase + moduleSize then do
    let prologueSize ← bytes (unwindPtr moduleBase rf + 1)
    let codeCount ← bytes (unwindPtr moduleBase rf + 2)
    let frame ← bytes (unwindPtr moduleBase rf + 3)
    some { record moduleBase rf with
      prologueSize := prologueSize
      unwindCodeCount := codeCount.toUInt16
      frameRegister := frame &&& 0x0F
      frameOffset := frame >>> 4 &&& 0x0F }
  else some (record moduleBase rf)

/-- A round of the loop: nothing if it faults, and otherwise a record unless the entry is skipped. -/
def readEntry (address : Uintptr) : Option (Option FunctionRecord) := do
  let beginAddress ← readU32 bytes address
  if beginAddress = 0 then some none
  else do
    let rf ← runtimeFunction bytes address
    (withUnwind bytes moduleBase moduleSize rf).map some

/-- The loop from an entry on: the records until a fault, and whether it came to the end. -/
def sehEnumeratePData (address : Uintptr) : (numEntries : Nat) → List FunctionRecord × Bool
  | 0 => ([], true)
  | rest + 1 =>
    match readEntry bytes moduleBase moduleSize address with
    | none => ([], false)
    | some none => sehEnumeratePData (address + 12) rest
    | some (some entry) =>
      (entry :: (sehEnumeratePData (address + 12) rest).1, (sehEnumeratePData (address + 12) rest).2)

def IMAGE_DOS_SIGNATURE : UInt16 := 0x5A4D
def IMAGE_NT_SIGNATURE : UInt32 := 0x00004550

/-- `e_lfanew` is a `LONG`. -/
def ntHeaders (e_lfanew : UInt32) : Uintptr := moduleBase + e_lfanew.toInt32.toInt64.toUInt64

/-- The address of the entries and their number, if the headers are in order. -/
def exceptionDirectory : Option (Option (Uintptr × Nat)) := do
  let e_magic ← readU16 bytes moduleBase
  if e_magic ≠ IMAGE_DOS_SIGNATURE then some none
  else do
    let nt ← (readU32 bytes (moduleBase + 0x3C)).map (ntHeaders moduleBase)
    let signature ← readU32 bytes nt
    if signature ≠ IMAGE_NT_SIGNATURE then some none
    else do
      let virtualAddress ← readU32 bytes (nt + 160)
      let size ← readU32 bytes (nt + 164)
      if virtualAddress = 0 || size = 0 then some none
      else some (some (moduleBase + virtualAddress.toUInt64, size.toNat / 12))

end Module

/-! ### The enumerator -/

end PData

structure PData where
  moduleBase : Uintptr := 0
  moduleSize : UInt64 := 0
  functions : List PData.FunctionRecord := []

namespace PData

variable (pdata : PData)

def init (moduleBase : Uintptr) (moduleSize : UInt64) : PData × Bool :=
  ({ pdata with moduleBase := moduleBase, moduleSize := moduleSize }, moduleBase ≠ 0 && 0 < moduleSize)

def buildIndex : PData :=
  { pdata with
    functions := pdata.functions.mergeSort fun first second => first.startVA ≤ second.startVA }

/-- What a call of `Enumerate` finds: the memory, and whether the buffer can be had. -/
structure Call where
  bytes : MappedBytes
  allocates : Bool := true

/-- The walk and what follows it. -/
def fill (call : Call) (runtimeFuncs : Uintptr) (numEntries : Nat) : PData × Bool :=
  let walk := sehEnumeratePData call.bytes pdata.moduleBase pdata.moduleSize runtimeFuncs numEntries
  let filled := { pdata with functions := walk.1 }
  if !walk.2 then (filled, false) else (filled.buildIndex, true)

def enumerate (call : Call) : Option (PData × Bool) :=
  if pdata.moduleBase = 0 then some (pdata, false)
  else
    match exceptionDirectory call.bytes pdata.moduleBase with
    | none => none
    | some none => some (pdata, false)
    | some (some (runtimeFuncs, numEntries)) =>
      if !call.allocates then some (pdata, false) else some (pdata.fill call runtimeFuncs numEntries)

/-- `std::lower_bound` over the start addresses. -/
def lowerBound (address : Uintptr) : Nat :=
  BinarySearch.partitionPoint (fun i => (pdata.functions[i]?).any fun f => f.startVA < address) 0
    pdata.functions.length

/-- `std::upper_bound` over the start addresses. -/
def upperBound (address : Uintptr) : Nat :=
  BinarySearch.partitionPoint (fun i => (pdata.functions[i]?).any fun f => !(address < f.startVA)) 0
    pdata.functions.length

def findFunction (address : Uintptr) : Option FunctionRecord :=
  (pdata.functions[pdata.lowerBound address]?).filter fun f => f.startVA = address

def findContaining (address : Uintptr) : Option FunctionRecord :=
  if pdata.functions.isEmpty then none
  else if pdata.upperBound address = 0 then none
  else (pdata.functions[pdata.upperBound address - 1]?).filter fun f =>
    f.startVA ≤ address && address < f.endVA

/-- The process runs as long as no call faults in the headers. -/
def machine : Machine PData Call Bool where
  step pdata call :=
    (((pdata.enumerate call).map Prod.fst).getD pdata, ((pdata.enumerate call).map Prod.snd).toList)

end PData

end KenshiMP
