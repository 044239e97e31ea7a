/-
**How the addresses of the game's functions are found.**

An entry of the orchestrator is resolved by the first method that finds an address for it: the pattern
of the entry, a string that the function refers to, a slot of a class's table, a fixed offset, a pattern
of patterns, a labelled function. `run` goes through these in phases and counts what each has resolved;
`retryFailed` tries all of them again for the entries that are left. An address that cannot be the start
of a function is rejected where an entry is about to be resolved (`resolveEntry`).

What the first three phases have gathered (the functions of the module, its strings with what refers to
them, its tables) is in `Content`; the call graph itself resolves nothing. A search of the scanner does
not change what another one returns (`findAt_findAt`), so that its cache is left as it is. The calls of
the methods are listed beside what they do, so that one can speak of what they have returned.
-/

import KenshiMP.Scanner.CallGraph
import KenshiMP.Scanner.SectionScans

namespace KenshiMP

open Wire (Bytes ascii)
open Assoc

/-! ### Memory that may fault -/

namespace Readable

variable (space : Readable)

/-- `Memory::Read` of some bytes, the lowest first. -/
def read : (count : Nat) → Uintptr → Option Nat
  | 0, _ => some 0
  | count + 1, address => do
    let low ← space.byte address
    let high ← read count (address + 1)
    some (low.toNat + 256 * high)

def readUintptr (address : Uintptr) : Option Uintptr := (space.read 8 address).map UInt64.ofNat

def readInt32 (address : Uintptr) : Option Int32 := (space.read 4 address).map Int32.ofNat

/-- The first three bytes of a `uint32_t`. -/
def readPrologue (address : Uintptr) : Option (UInt8 × UInt8 × UInt8) :=
  (space.read 4 address).map fun dword =>
    (UInt8.ofNat dword, UInt8.ofNat (dword / 2 ^ 8), UInt8.ofNat (dword / 2 ^ 16))

end Readable

/-! ### Strings -/

/-- `value.find(needle) != npos`. -/
def occursIn (needle value : Bytes) : Bool := decide (needle <:+: value)

structure XRef where
  codeAddress : Uintptr
  funcAddress : Uintptr

structure GameString where
  value : Bytes
  xrefs : List XRef

structure LabeledFunction where
  address : Uintptr
  label : Bytes
  className : Bytes := []
  methodName : Bytes := []

structure StringAnalyzer where
  strings : List GameString := []
  labeledFunctions : List LabeledFunction := []

namespace StringAnalyzer

variable (analyzer : StringAnalyzer)

def findStrings (substring : Bytes) : List GameString :=
  analyzer.strings.filter fun gs => occursIn substring gs.value

/-- The functions, in the order of a hash table. -/
def findFunctionsReferencingString (rank : Uintptr → Nat) (str : Bytes) : List Uintptr :=
  let funcs := (analyzer.findStrings str).flatMap fun gs =>
    (gs.xrefs.map XRef.funcAddress).filter fun address => address ≠ 0
  funcs.dedup.mergeSort fun a b => rank a ≤ rank b

/-- The name itself, or as a part of the label, or as a part of the class or the method. -/
def findLabeledFunction (name : Bytes) : Option LabeledFunction :=
  (analyzer.labeledFunctions.find? fun lf => lf.label = name)
    <|> (analyzer.labeledFunctions.find? fun lf => occursIn name lf.label)
    <|> analyzer.labeledFunctions.find? fun lf =>
      (lf.className ≠ [] && occursIn name lf.className)
        || (lf.methodName ≠ [] && occursIn name lf.methodName)

end StringAnalyzer

/-! ### Tables of classes -/

structure VTableInfo where
  className : Bytes
  slotCount : Nat
  slots : List Uintptr

structure VTableScanner where
  vtables : List VTableInfo := []
  classNameIndex : AMap Bytes Nat := ∅

namespace VTableScanner

variable (scanner : VTableScanner)

def findByClassName (name : Bytes) : Option VTableInfo :=
  match scanner.classNameIndex.lookup name with
  | some i => scanner.vtables[i]?
  | none => scanner.vtables.find? fun vt => occursIn name vt.className

/-- The function in a slot, or zero. -/
def getVirtualFunction (className : Bytes) (slotIndex : Int32) : Uintptr :=
  match scanner.findByClassName className with
  | none => 0
  | some vt =>
    if slotIndex < 0 ∨ Int32.ofNat vt.slotCount ≤ slotIndex then 0
    else vt.slots.getD slotIndex.toNatClampNeg 0

end VTableScanner

/-! ### Entries -/

inductive ResolutionMethod
  | None | PatternScan | StringXref | VTableSlot | CallGraphTrace | HardcodedOffset | PDataLookup
  | ComplexPattern | Manual
deriving DecidableEq

/-- A function or a pointer to find; the string is `stringAnchorLen` bytes of the anchor. -/
structure PatternEntry where
  id : Bytes
  pattern : Option CString := .none
  stringAnchor : Option Bytes := .none
  stringAnchorLen : Int32 := 0
  hardcodedRVA : UInt32 := 0
  vtableClass : Bytes := []
  vtableSlot : Int32 := -1
  complexPattern : ComplexPattern := { components := [] }
  resolvedAddress : Uintptr := 0
  resolvedMethod : ResolutionMethod := .None
  confidence : F32 := lit 0 1
  isResolved : Bool := false
  isGlobalPointer : Bool := false
  critical : Bool := false
  retryCount : Int32 := 0

structure OrchestratorConfig where
  enableCallGraph : Bool := true
  enableBatchScan : Bool := true
  maxRetries : Int32 := 3

structure Content where
  space : Readable
  scanner : ScannerEngine
  pdata : PDataEnumerator
  strings : StringAnalyzer
  vtables : VTableScanner
  rank : Bytes → Uintptr → Nat

/-- Functions start at multiples of sixteen; some methods find addresses that do not. -/
def PatternEntry.rejects (entry : PatternEntry) (address : Uintptr) (method : ResolutionMethod) : Bool :=
  !entry.isGlobalPointer && address &&& 0xF ≠ 0
    && (method = .PatternScan || method = .StringXref || method = .HardcodedOffset)

def PatternEntry.resolveEntry (entry : PatternEntry) (address : Uintptr) (method : ResolutionMethod)
    (confidence : F32) : PatternEntry :=
  if entry.rejects address method then entry
  else
    { entry with
      resolvedAddress := address
      resolvedMethod := method
      confidence := confidence
      isResolved := true }

namespace Content

variable (content : Content)

def base : Uintptr := UInt64.ofNat content.scanner.image.start
def size : UInt64 := UInt64.ofNat content.scanner.image.size

/-- An address and how sure it is, if a method finds one. -/
abbrev Found := Option (Uintptr × F32)

/-! ### Back to where a function starts -/

/-- The prologues that end the walk at a breakpoint. -/
def commonPrologue (p0 p1 p2 : UInt8) : Bool :=
  (p0 = 0x48 && p1 = 0x8B && p2 = 0xC4)
    || (p0 = 0x48 && p1 = 0x89 && p2 = 0x5C)
    || (p0 = 0x48 && p1 = 0x83 && p2 = 0xEC)
    || (p0 = 0x40 && (0x53 ≤ p1 && p1 ≤ 0x57))
    || (p0 = 0x55 || p0 = 0x53)
    || (p0 = 0x41 && (0x54 ≤ p1 && p1 ≤ 0x57))
    || (p0 = 0x48 && p1 = 0x81 && p2 = 0xEC)

/-- Behind a breakpoint, byte by byte. -/
def behindBreakpoint (searchStart : Uintptr) : (fuel : Nat) → Uintptr → Option Uintptr
  | 0, _ => none
  | fuel + 1, addr =>
    if searchStart ≤ addr then
      match content.space.byte addr with
      | none => none
      | some byte =>
        match if byte = 0xCC then content.space.readPrologue (addr + 1) else none with
        | some (p0, p1, p2) =>
          if commonPrologue p0 p1 p2 then some (addr + 1) else behindBreakpoint searchStart fuel (addr - 1)
        | none => behindBreakpoint searchStart fuel (addr - 1)
    else none

/-- At multiples of sixteen. -/
def alignedPrologue (searchStart : Uintptr) : (fuel : Nat) → Uintptr → Option Uintptr
  | 0, _ => none
  | fuel + 1, addr =>
    if searchStart ≤ addr then
      match content.space.readPrologue addr with
      | none => none
      | some (p0, p1, p2) =>
        if (p0 = 0x48 && p1 = 0x8B && p2 = 0xC4) || (p0 = 0x40 && (0x53 ≤ p1 && p1 ≤ 0x57)) then some addr
        else alignedPrologue searchStart fuel (addr - 16)
    else none

/-- Both ways, over 4096 bytes at most. -/
def walkBackToPrologue (codeAddr : Uintptr) : Option Uintptr :=
  let searchStart := if codeAddr - 4096 < content.base then content.base else codeAddr - 4096
  content.behindBreakpoint searchStart 4097 (codeAddr - 1)
    <|> content.alignedPrologue searchStart 258 (codeAddr &&& ~~~0xF)

/-! ### What the methods find -/

variable (entry : PatternEntry)

/-- The string of an entry, if it has one. -/
def searchStr : Option Bytes :=
  match entry.stringAnchor with
  | none => none
  | some anchor =>
    if entry.stringAnchorLen ≤ 0 then none else some (anchor.take entry.stringAnchorLen.toNatClampNeg)

def patternAddress : Found :=
  match entry.pattern with
  | none => none
  | some pattern =>
    let result := (content.scanner.findText content.space.memory pattern).1
    if result.valid then some (result.address, lit 1 1) else none

def stringAddress : Found :=
  match searchStr entry with
  | none => none
  | some str =>
    match content.strings.findFunctionsReferencingString (content.rank str) str with
    | func :: _ => some (func, lit 85 100)
    | [] =>
      match (content.strings.findStrings str).head?.bind fun gs => gs.xrefs.head? with
      | none => none
      | some xref =>
        if xref.funcAddress ≠ 0 then some (xref.funcAddress, lit 8 10)
        else if xref.codeAddress ≠ 0 then
          (content.walkBackToPrologue xref.codeAddress).map fun funcStart => (funcStart, lit 7 10)
        else none

/-- The candidates for a class, between the bars. -/
def candidates (vtableClass : Bytes) : List Bytes :=
  (vtableClass.splitOn 0x7C).filter fun name => name ≠ []

def vtableAddress : Found :=
  if entry.vtableClass = [] ∨ entry.vtableSlot < 0 then none
  else
    (candidates entry.vtableClass).findSome? fun name =>
      let func := content.vtables.getVirtualFunction name entry.vtableSlot
      if func ≠ 0 then some (func, lit 9 10) else none

/-- A pointer to an object, as far as one can see. -/
def objectPointer (val : Uintptr) : Bool :=
  0x10000 < val && val < 0x00007FFFFFFFFFFF && val ≠ 0xFFFFFFFFFFFFFFFF && val ≠ 0xCCCCCCCCCCCCCCCC
    && val ≠ 0xCDCDCDCDCDCDCDCD

def hardcodedAddress : Found :=
  if entry.hardcodedRVA = 0 then none
  else
    let addr := content.base + entry.hardcodedRVA.toUInt64
    if entry.isGlobalPointer then
      match content.space.readUintptr addr with
      | none => none
      | some val =>
        if val = 0 then some (addr, lit 5 10)
        else if objectPointer val then
          match content.space.readUintptr val with
          | none => none
          | some vtable =>
            if 0x10000 < vtable ∧ vtable < 0x00007FFFFFFFFFFF then some (addr, lit 95 100) else none
        else none
    else if entry.pattern.isSome then none
    else (content.pdata.findFunction addr).map fun _ => (addr, lit 6 10)

def complexAddress : Found :=
  let result := ScannerEngine.findComplex content.space content.scanner entry.complexPattern
  if entry.complexPattern.components ≠ [] ∧ result.valid then some (result.address, result.confidence)
  else none

def callGraphAddress : Found :=
  if entry.stringAnchor.isNone then none
  else (content.strings.findLabeledFunction entry.id).map fun labeled => (labeled.address, lit 6 10)

/-! ### Pointers that code refers to -/

/-- The start and the size of a section, zero if there is none. -/
def sectionRange (name : Bytes) : Uintptr × UInt64 :=
  match content.scanner.findSection name with
  | none => (0, 0)
  | some sec => (UInt64.ofNat sec.start, UInt64.ofNat sec.size)

def inSection (range : Uintptr × UInt64) (target : Uintptr) : Bool :=
  range.1 ≠ 0 && range.1 ≤ target && target < range.1 + range.2

def inModule (address : Uintptr) : Bool :=
  content.base ≤ address && address < content.base + content.size

/-- In the data section, or in the module but neither in its code nor in its constants. -/
def writable (target : Uintptr) : Bool :=
  inSection (content.sectionRange (ascii ".data")) target
    || (content.inModule target && !inSection (content.sectionRange (ascii ".text")) target
      && !inSection (content.sectionRange (ascii ".rdata")) target)

/-- It holds nothing yet, or an object of a class of the module. -/
def holdsObject (target : Uintptr) : Bool :=
  match content.space.readUintptr target with
  | none => false
  | some val =>
    if val = 0 then true
    else if val < 0x10000 ∨ 0x00007FFFFFFFFFFF ≤ val ∨ content.inModule val then false
    else
      match content.space.readUintptr val with
      | none => false
      | some vtable => content.inModule vtable

/-- `SEH_ScanCodeForGlobalPtr` from an index on. -/
def scanCodeForGlobalPtr (funcAddr : Uintptr) : (left i : Nat) → Option Uintptr
  | 0, _ => none
  | left + 1, i => do
    let instrAddr := funcAddr + UInt64.ofNat i
    let b0 ← content.space.byte instrAddr
    let b1 ← content.space.byte (instrAddr + 1)
    if (b0 = 0x48 || b0 = 0x4C) && (b1 = 0x8B || b1 = 0x8D) then
      let modrm ← content.space.byte (instrAddr + 2)
      if modrm &&& 0xC7 = 0x05 then
        let disp ← content.space.readInt32 (instrAddr + 3)
        let target := instrAddr + 7 + extended disp
        if content.writable target && content.holdsObject target then some target
        else scanCodeForGlobalPtr funcAddr left (i + 1)
      else scanCodeForGlobalPtr funcAddr left (i + 1)
    else scanCodeForGlobalPtr funcAddr left (i + 1)

/-- The code of a function, as far as it is looked at. -/
def codeLen (funcAddr : Uintptr) : UInt64 :=
  match content.pdata.findFunction funcAddr with
  | none => 4096
  | some func => if 16384 < func.endVA - funcAddr then 16384 else func.endVA - funcAddr

def globalAddress : Found :=
  if ¬ entry.isGlobalPointer then none
  else
    match searchStr entry with
    | none => none
    | some str =>
      (content.strings.findFunctionsReferencingString (content.rank str) str).findSome? fun funcAddr =>
        (content.scanCodeForGlobalPtr funcAddr ((content.codeLen funcAddr).toNat - 7) 0).map
          fun target =>
            (target, if (content.space.readUintptr target).getD 0 = 0 then lit 6 10 else lit 9 10)

/-! ### Emergencies -/

/-- Whether some bytes stand at an address. -/
def bytesAt (needle : Bytes) (addr : Uintptr) : Bool :=
  needle.zipIdx.all fun (b, i) => content.space.byte (addr + UInt64.ofNat i) = some b

def findBytes (needle : Bytes) (limit : Uintptr) : (fuel : Nat) → Uintptr → Option Uintptr
  | 0, _ => none
  | fuel + 1, addr =>
    if addr < limit then
      if content.bytesAt needle addr then some addr else findBytes needle limit fuel (addr + 1)
    else none

/-- A function whose code loads an address relative to where it is. -/
def findLea (stringAddr limit : Uintptr) : (fuel : Nat) → Uintptr → Found
  | 0, _ => none
  | fuel + 1, addr =>
    if addr < limit then
      let b0 := (content.space.byte addr).getD 0
      let b1 := (content.space.byte (addr + 1)).getD 0
      let b2 := (content.space.byte (addr + 2)).getD 0
      let loads := (b0 = 0x48 || b0 = 0x4C) && b1 = 0x8D && b2 &&& 0xC7 = 0x05
        && (content.space.readInt32 (addr + 3)).map (fun disp => addr + 7 + extended disp)
          = some stringAddr
      let found : Found :=
        if loads then
          ((content.walkBackToPrologue addr).map fun funcStart => (funcStart, lit 75 100))
            <|> (content.pdata.findFunction addr).map fun func => (func.startVA, lit 8 10)
        else none
      found <|> findLea stringAddr limit fuel (addr + 1)
    else none

/-- The string itself, and then what loads its address. -/
def directAddress : Found := do
  let needle ← searchStr entry
  let rdata ← content.scanner.findSection (ascii ".rdata")
  let rdataBase := UInt64.ofNat rdata.start
  let limit := rdataBase + UInt64.ofNat rdata.size - UInt64.ofNat needle.length
  let stringAddr ← content.findBytes needle limit (2 ^ 64) rdataBase
  let text ← content.scanner.findSection (ascii ".text")
  let textBase := UInt64.ofNat text.start
  content.findLea stringAddr (textBase + UInt64.ofNat text.size - 7) (2 ^ 64) textBase

def validPrologue (p0 p1 p2 : UInt8) : Bool :=
  (p0 = 0x48 && p1 = 0x8B && p2 = 0xC4)
    || (p0 = 0x48 && p1 = 0x89 && p2 = 0x5C)
    || (p0 = 0x48 && p1 = 0x83 && p2 = 0xEC)
    || (p0 = 0x48 && p1 = 0x81 && p2 = 0xEC)
    || (p0 = 0x40 && 0x53 ≤ p1 && p1 ≤ 0x57)
    || (p0 = 0x41 && 0x54 ≤ p1 && p1 ≤ 0x57)
    || p0 = 0x55 || p0 = 0x53 || p0 = 0x56 || p0 = 0x57

def prologueAddress : Found :=
  if entry.hardcodedRVA = 0 then none
  else
    let addr := content.base + entry.hardcodedRVA.toUInt64
    match content.space.readPrologue addr with
    | none => none
    | some (p0, p1, p2) => if validPrologue p0 p1 p2 then some (addr, lit 55 100) else none

end Content

/-! ### Trying a method -/

/-- What a call of a method returns, and the entry as it leaves it. -/
structure Attempt where
  returned : Bool
  entry : PatternEntry

/-- A method: it returns whether it has found an address, and hands that to `resolveEntry`. -/
def attempt (method : ResolutionMethod) (find : PatternEntry → Content.Found) (entry : PatternEntry) :
    Attempt :=
  match find entry with
  | none => ⟨false, entry⟩
  | some (address, confidence) => ⟨true, entry.resolveEntry address method confidence⟩

namespace Content

variable (content : Content)

def tryPatternScan : PatternEntry → Attempt := attempt .PatternScan content.patternAddress
def tryStringXref : PatternEntry → Attempt := attempt .StringXref content.stringAddress
def tryVTableSlot : PatternEntry → Attempt := attempt .VTableSlot content.vtableAddress
def tryHardcodedOffset : PatternEntry → Attempt := attempt .HardcodedOffset content.hardcodedAddress
def tryComplexPattern : PatternEntry → Attempt := attempt .ComplexPattern content.complexAddress
def tryCallGraphTrace : PatternEntry → Attempt := attempt .CallGraphTrace content.callGraphAddress
def tryDirectStringSearch : PatternEntry → Attempt := attempt .StringXref content.directAddress
def tryPrologueValidatedRVA : PatternEntry → Attempt := attempt .HardcodedOffset content.prologueAddress

end Content

/-- What a phase does to an entry: the method that it has counted, and the calls. -/
structure Handling where
  entry : PatternEntry
  counted : Option ResolutionMethod := none
  attempts : List Attempt := []

/-- One method after the other, until one returns true; that one is counted. -/
def tryInOrder : List (ResolutionMethod × (PatternEntry → Attempt)) → PatternEntry → Handling
  | [], entry => ⟨entry, none, []⟩
  | (method, tried) :: others, entry =>
    let attempt := tried entry
    if attempt.returned then ⟨attempt.entry, some method, [attempt]⟩
    else
      let rest := tryInOrder others attempt.entry
      ⟨rest.entry, rest.counted, attempt :: rest.attempts⟩

/-! ### Phases -/

/-- `resolvedBy` are the counters, one for each method that has one. -/
structure OrchestratorReport where
  totalEntries : Nat := 0
  resolvedBy : ResolutionMethod → Nat := fun _ => 0
  totalResolved : Nat := 0
  totalFailed : Nat := 0
  failedEntries : List Bytes := []

structure PatternOrchestrator where
  config : OrchestratorConfig := {}
  entries : List PatternEntry
  lastReport : OrchestratorReport := {}
  attempts : List Attempt := []

namespace PatternOrchestrator

variable (content : Content) (orchestrator : PatternOrchestrator)

/-- What a loop over the entries does. -/
def collect (handled : List Handling) : PatternOrchestrator :=
  { orchestrator with
    entries := handled.map Handling.entry
    lastReport :=
      { orchestrator.lastReport with
        resolvedBy := fun method => orchestrator.lastReport.resolvedBy method
          + handled.countP fun handling => handling.counted = some method }
    attempts := orchestrator.attempts ++ handled.flatMap Handling.attempts }

/-- What is scanned for an entry: the pattern of one that is not resolved, if its text is one. -/
def batchEntry (entry : PatternEntry) : Option BatchEntry :=
  if entry.isResolved then none
  else
    match entry.pattern.bind ScannerEngine.parse with
    | none => none
    | some parsed =>
      if held : parsed.bytes.length < 2 ^ 63 then some { pattern := { parsed with }, held } else none

/-- The results of the scan, each for the entry it was scanned for. -/
def applyResults : List PatternEntry → List BatchEntry → List Handling
  | [], _ => []
  | entry :: others, results =>
    match batchEntry entry, results with
    | some _, scanned :: rest =>
      (if scanned.result.valid then
          ⟨entry.resolveEntry scanned.result.address .PatternScan (lit 1 1), some .PatternScan, []⟩
        else ⟨entry, none, []⟩) :: applyResults others rest
    | _, results => ⟨entry, none, []⟩ :: applyResults others results

def runPhase4 : PatternOrchestrator :=
  if orchestrator.config.enableBatchScan then
    let batchEntries := orchestrator.entries.filterMap batchEntry
    orchestrator.collect
      (applyResults orchestrator.entries
        (content.scanner.batchScan content.space.memory batchEntries).value)
  else orchestrator

def runPhase5 : PatternOrchestrator :=
  orchestrator.collect (orchestrator.entries.map fun entry =>
    if entry.isResolved then ⟨entry, none, []⟩
    else
      tryInOrder
        [(.StringXref, content.tryStringXref), (.VTableSlot, content.tryVTableSlot),
          (.HardcodedOffset, content.tryHardcodedOffset), (.ComplexPattern, content.tryComplexPattern)]
        entry)

def runPhase6 : PatternOrchestrator :=
  if orchestrator.config.enableCallGraph then
    orchestrator.collect (orchestrator.entries.map fun entry =>
      if entry.isResolved then ⟨entry, none, []⟩
      else tryInOrder [(.CallGraphTrace, content.tryCallGraphTrace)] entry)
  else orchestrator

/-- How sure a pointer is that has been found. -/
def validateGlobal (entry : PatternEntry) : PatternEntry :=
  if entry.isGlobalPointer && entry.isResolved then
    match content.space.readUintptr entry.resolvedAddress with
    | none => entry
    | some val =>
      if 0x10000 < val ∧ val < 0x00007FFFFFFFFFFF ∧ ¬ content.inModule val then
        match content.space.readUintptr val with
        | none => { entry with confidence := lit 7 10 }
        | some vtable =>
          { entry with confidence := if content.inModule vtable then lit 1 1 else lit 7 10 }
      else { entry with confidence := if val = 0 then lit 5 10 else lit 2 10 }
  else entry

/-- Pointers that are resolved here are not counted. -/
def runPhase7 : PatternOrchestrator :=
  orchestrator.collect (orchestrator.entries.map fun entry =>
    let discovered :=
      if entry.isResolved then entry else (attempt .StringXref content.globalAddress entry).entry
    ⟨validateGlobal content discovered, none, []⟩)

/-- Nor is what is resolved here. -/
def runPhase8 : PatternOrchestrator :=
  if orchestrator.entries.countP (fun entry => !entry.isResolved && entry.critical) = 0 then orchestrator
  else
    orchestrator.collect (orchestrator.entries.map fun entry =>
      if entry.isResolved || !entry.critical then ⟨entry, none, []⟩
      else
        { tryInOrder
            [(.StringXref, content.tryDirectStringSearch),
              (.HardcodedOffset, content.tryPrologueValidatedRVA)] entry with
          counted := none })

def countResolved : Nat := orchestrator.entries.countP fun entry => entry.isResolved

/-- The totals of a report. -/
def finish : PatternOrchestrator :=
  { orchestrator with
    lastReport :=
      { orchestrator.lastReport with
        totalResolved := orchestrator.countResolved
        totalFailed := orchestrator.lastReport.totalEntries - orchestrator.countResolved
        failedEntries := (orchestrator.entries.filter fun entry => !entry.isResolved).map
          PatternEntry.id } }

/-- The phases from the fourth on. -/
def run : PatternOrchestrator :=
  let started : PatternOrchestrator :=
    { orchestrator with lastReport := { totalEntries := orchestrator.entries.length }, attempts := [] }
  let scanned := started.runPhase4 content
  let named := scanned.runPhase5 content
  let traced := named.runPhase6 content
  let pointed := traced.runPhase7 content
  (pointed.runPhase8 content).finish

/-- An entry that is tried again. -/
def retry (entry : PatternEntry) : Handling :=
  if entry.isResolved then ⟨entry, none, []⟩
  else if orchestrator.config.maxRetries ≤ entry.retryCount then ⟨entry, none, []⟩
  else
    { tryInOrder
        [(.PatternScan, content.tryPatternScan), (.StringXref, content.tryStringXref),
          (.VTableSlot, content.tryVTableSlot), (.HardcodedOffset, content.tryHardcodedOffset),
          (.ComplexPattern, content.tryComplexPattern), (.CallGraphTrace, content.tryCallGraphTrace)]
        { entry with retryCount := entry.retryCount + 1 } with
      counted := none }

/-- How many tries have returned true, and what they leave. -/
def retryFailed : Nat × PatternOrchestrator :=
  let handled := orchestrator.entries.map (orchestrator.retry content)
  (handled.countP fun handling => handling.attempts.any Attempt.returned,
    { orchestrator with attempts := [] }.collect handled)

end PatternOrchestrator

end KenshiMP
