/-
**Searching the sections of a module.**

`find` runs the fast scan over one region after the other, `batchScan` goes over the bytes of each
region once for a whole list of patterns, and `findComplex` looks for a first pattern and then for
others around it. The results of `findAt` are kept under the text of the pattern and its offset.

Addresses and sizes are 64 bits wide and wrap around. A region is no larger than a `DWORD` can say,
which is what the headers of a module hold, and a pattern no longer than a vector can be. `section` is
`sectionName` here.
-/

import KenshiMP.Server.Session
import KenshiMP.Scanner.PatternText

namespace KenshiMP

open Wire (Bytes ascii)
open Assoc

/-! ### Sections and regions -/

/-- What the loader has mapped. -/
structure Mapped where
  start : Nat
  size : Nat
  mapped : 0 < start
  small : size < 2 ^ 32
  fits : start + size ≤ 2 ^ 64

/-- A section; its `base` is where it starts. -/
structure PESection extends Mapped where
  name : Bytes

structure ScanRegion extends Mapped where
  sectionName : Bytes

structure ScanResult where
  address : UInt64 := 0
  valid : Bool := false
  sectionName : Bytes := []
  confidence : F32 := lit 0 1
deriving DecidableEq

/-- A pattern with an offset from where it matches. -/
structure OffsetPattern extends ParsedPattern where
  offset : Int32 := 0

/-- An `int` that is added to an address. -/
def extended (offset : Int32) : UInt64 := offset.toInt64.toUInt64

/-- One that is not negative stays what it is. -/
theorem extended_of_nonneg {n : Int32} (looks : ¬ n < 0) :
    (extended n).toNat = n.toNatClampNeg ∧ n.toNatClampNeg < 2 ^ 31 := by
  have nonneg : 0 ≤ n.toInt := by
    rw [Int32.lt_iff_toInt_lt] at looks
    exact Int.not_lt.mp looks
  have bound := n.toInt_lt
  have clamp : (n.toNatClampNeg : Int) = n.toInt := Int.toNat_of_nonneg nonneg
  have wide : n.toInt64.toInt = n.toInt := Int32.toInt_toInt64 n
  have positive : 0 ≤ n.toInt64 := by
    rw [Int64.le_iff_toInt_le, wide]
    exact nonneg
  refine ⟨?_, by omega⟩
  unfold extended
  rw [Int64.toNat_toUInt64_of_le positive]
  unfold Int64.toNatClampNeg Int32.toNatClampNeg
  rw [wide]

/-- An engine has a module with its sections. The names it is restricted to are texts up to their
first zero, which is as far as they are compared. -/
structure ScannerEngine where
  image : Mapped
  sections : List PESection
  restrictSections : List Bytes := []
  cache : AMap Bytes ScanResult := ∅

namespace ScannerEngine

variable (memory : Memory) (engine : ScannerEngine)

def findSection (name : Bytes) : Option PESection := engine.sections.find? fun sec => sec.name = name

def getScanRegions : List ScanRegion :=
  if engine.restrictSections ≠ [] then
    engine.restrictSections.filterMap fun name =>
      (engine.findSection name).map fun sec => ⟨sec.toMapped, sec.name⟩
  else
    match engine.findSection (ascii ".text") with
    | some text => [⟨text.toMapped, ascii ".text"⟩]
    | none => [⟨engine.image, ascii "module"⟩]

def setScanSections (sectionNames : List Bytes) : ScannerEngine :=
  { engine with restrictSections := sectionNames }

def setScanAll : ScannerEngine := { engine with restrictSections := [] }

def clearCache : ScannerEngine := { engine with cache := ∅ }

/-! ### One pattern -/

def findFrom (pattern : OffsetPattern) : List ScanRegion → Scan ScanResult
  | [] => pure {}
  | region :: others => do
    let addr ← scanRegionSSE2 memory region.start region.size pattern.toParsedPattern
    if addr ≠ 0 then
      pure
        { address := UInt64.ofNat addr + extended pattern.offset
          valid := true
          sectionName := region.sectionName
          confidence := lit 1 1 }
    else findFrom pattern others

def find (pattern : OffsetPattern) : Scan ScanResult := findFrom memory pattern engine.getScanRegions

def cacheKey (pattern : CString) (offset : Int32) : Bytes :=
  pattern.text ++ ascii "@" ++ decimal offset.toInt

/-- `Find` with a text: the result, and the engine with it in its cache. -/
def findAt (pattern : CString) (offset : Int32) : ScanResult × ScannerEngine :=
  match engine.cache.lookup (cacheKey pattern offset) with
  | some result => (result, engine)
  | none =>
    match parse pattern with
    | none => ({}, engine)
    | some parsed =>
      let result := (find memory engine { parsed with offset }).value
      (result, { engine with cache := engine.cache.insert (cacheKey pattern offset) result })

def findText (pattern : CString) : ScanResult × ScannerEngine := engine.findAt memory pattern 0

end ScannerEngine

/-! ### A pattern of patterns -/

structure PatternComponent where
  pattern : OffsetPattern
  relativeOffset : Int32 := 0
  required : Bool := true

inductive PostProcess
  | None | FollowCall | FollowJmp | ResolveRIP | FindPrologue
deriving DecidableEq

structure ComplexPattern where
  components : List PatternComponent
  resultOffset : Int32 := 0
  postProcess : PostProcess := .None
  ripOperandOffset : Int32 := 0
  ripInstructionLen : Int32 := 0

/-- The address space with the pages that can be read. -/
structure Readable where
  memory : Memory
  readable : UInt64 → Bool

namespace Readable

variable (space : Readable)

/-- A byte, or a fault. -/
def byte (address : UInt64) : Option UInt8 :=
  if space.readable address then some (space.memory address.toNat) else none

/-- Whether the pattern stands at the address; a fault means that it does not. -/
def matchesFrom (pattern : ParsedPattern) (data : UInt64) : (left j : Nat) → Bool
  | 0, _ => true
  | left + 1, j =>
    if pattern.fixed j then
      match space.byte (data + UInt64.ofNat j) with
      | none => false
      | some byte => if byte ≠ pattern.byteAt j then false else matchesFrom pattern data left (j + 1)
    else matchesFrom pattern data left (j + 1)

/-- `memcpy` of an `int32_t`. -/
def int32At (address : UInt64) : Int32 :=
  let byte (i : UInt64) : UInt32 := (space.memory (address + i).toNat).toUInt32
  (byte 0 ||| byte 1 <<< 8 ||| byte 2 <<< 16 ||| byte 3 <<< 24).toInt32

def resolveRIP (instrAddr : UInt64) (operandOffset instrLen : Int32) : UInt64 :=
  instrAddr + extended instrLen + extended (space.int32At (instrAddr + extended operandOffset))

def followCall (callAddr : UInt64) : UInt64 :=
  if space.memory callAddr.toNat ≠ 0xE8 then 0 else space.resolveRIP callAddr 1 5

def followJmp (jmpAddr : UInt64) : UInt64 :=
  if space.memory jmpAddr.toNat ≠ 0xE9 then 0 else space.resolveRIP jmpAddr 1 5

/-- Behind the breakpoints; none is a fault. -/
def skipBreakpoints : (fuel : Nat) → UInt64 → Option UInt64
  | 0, _ => none
  | fuel + 1, candidate =>
    match space.byte candidate with
    | none => none
    | some byte => if byte = 0xCC then skipBreakpoints fuel (candidate + 1) else some candidate

/-- Back to where a function starts, if that can be seen on the last 4095 bytes. -/
def prologueFrom (resultAddr : UInt64) : (fuel : Nat) → UInt64 → Option UInt64
  | 0, _ => some resultAddr
  | fuel + 1, addr =>
    if resultAddr - 4096 < addr then
      match space.byte addr with
      | none => none
      | some b =>
        if b = 0xCC ∨ b = 0xC3 then space.skipBreakpoints (2 ^ 64) (addr + 1)
        else prologueFrom resultAddr fuel (addr - 1)
    else some resultAddr

/-- The end of `FindComplex`: none where it gives up. -/
def postProcessed (pattern : ComplexPattern) (resultAddr : UInt64) : Option UInt64 :=
  match pattern.postProcess with
  | .None => some resultAddr
  | .FollowCall =>
    let target := space.followCall resultAddr
    if target = 0 then none else some target
  | .FollowJmp =>
    let target := space.followJmp resultAddr
    if target = 0 then none else some target
  | .ResolveRIP =>
    some (space.resolveRIP resultAddr pattern.ripOperandOffset pattern.ripInstructionLen)
  | .FindPrologue => space.prologueFrom resultAddr 4096 (resultAddr - 1)

/-- Whether a component stands where it should. -/
def componentMatches (anchorAddr : UInt64) (comp : PatternComponent) : Bool :=
  space.matchesFrom comp.pattern.toParsedPattern (anchorAddr + extended comp.relativeOffset)
    comp.pattern.bytes.length 0

/-- The components behind the first; the first required one that is not there ends the search. -/
def validate (anchorAddr : UInt64) : List PatternComponent → Bool
  | [] => true
  | comp :: others =>
    if ¬ space.componentMatches anchorAddr comp ∧ comp.required then false
    else validate anchorAddr others

end Readable

namespace ScannerEngine

def findComplex (space : Readable) (engine : ScannerEngine) (pattern : ComplexPattern) : ScanResult :=
  match pattern.components with
  | [] => {}
  | anchor :: others =>
    let anchorResult := (engine.find space.memory anchor.pattern).value
    if ¬ anchorResult.valid then {}
    else
      let anchorAddr := anchorResult.address
      if ¬ space.validate anchorAddr others then {}
      else
        match space.postProcessed pattern (anchorAddr + extended pattern.resultOffset) with
        | none => {}
        | some resultAddr =>
          { address := resultAddr
            valid := true
            sectionName := anchorResult.sectionName
            confidence := lit 9 10 }

end ScannerEngine

/-! ### Many patterns at once -/

/-- A pattern, which a vector can hold, and its result. -/
structure BatchEntry where
  pattern : OffsetPattern
  held : pattern.bytes.length < 2 ^ 63
  result : ScanResult := {}

/-- A match of an entry, as it is kept. -/
def BatchEntry.resolve (entry : BatchEntry) (region : ScanRegion) (patStart : UInt64) : BatchEntry :=
  { entry with
    result :=
      { address := UInt64.ofNat region.start + patStart + extended entry.pattern.offset
        valid := true
        sectionName := region.sectionName
        confidence := lit 1 1 } }

structure FirstByteEntry where
  entryIdx : Nat
  fixedByteOffset : Int32

namespace ScannerEngine

variable (memory : Memory) (engine : ScannerEngine)

/-- What is kept of an entry under a byte: nothing unless it is the first fixed one of an unresolved
entry. -/
def firstByteEntry (b : UInt8) (i : Nat) (entry : BatchEntry) : Option FirstByteEntry :=
  let firstFixed := entry.pattern.firstFixed
  if entry.result.valid then none
  else if ¬ firstFixed < 0 ∧ entry.pattern.byteAt firstFixed.toNatClampNeg = b then
    some ⟨i, firstFixed⟩
  else none

/-- What is kept under a byte, with the entries counted from some number on. -/
def byteIndexFrom (n : Nat) (entries : List BatchEntry) (b : UInt8) : List FirstByteEntry :=
  (entries.zipIdx n).filterMap fun (entry, i) => firstByteEntry b i entry

def byteIndex (entries : List BatchEntry) (b : UInt8) : List FirstByteEntry :=
  byteIndexFrom 0 entries b

/-- The bytes `j` to the last of a pattern against those from an index of the region on. -/
def matchFrom (region : ScanRegion) (pattern : ParsedPattern) (patStart : UInt64) : (left j : Nat) → Scan Bool
  | 0, _ => pure true
  | left + 1, j =>
    if pattern.fixed j then do
      let byte ← memory.load (region.start + (patStart + UInt64.ofNat j).toNat)
      if byte ≠ pattern.byteAt j then pure false
      else matchFrom region pattern patStart left (j + 1)
    else matchFrom region pattern patStart left (j + 1)

/-- An entry whose first fixed byte stands at the position. -/
def checkEntry (region : ScanRegion) (pos : Nat) (fixedByteOffset : Int32) (entry : BatchEntry) :
    Scan BatchEntry :=
  if entry.result.valid then pure entry
  else
    let length := entry.pattern.bytes.length
    let patStart := UInt64.ofNat pos - extended fixedByteOffset
    if UInt64.ofNat region.size < patStart + UInt64.ofNat length then pure entry
    else do
      let found ← matchFrom memory region entry.pattern.toParsedPattern patStart length 0
      pure (if found then entry.resolve region patStart else entry)

def checkCandidates (region : ScanRegion) (pos : Nat) :
    List FirstByteEntry → List BatchEntry → Scan (List BatchEntry)
  | [], entries => pure entries
  | cand :: others, entries =>
    match entries[cand.entryIdx]? with
    | none => checkCandidates region pos others entries
    | some entry => do
      let checked ← checkEntry memory region pos cand.fixedByteOffset entry
      checkCandidates region pos others (entries.set cand.entryIdx checked)

def scanPositions (index : UInt8 → List FirstByteEntry) (region : ScanRegion) :
    (left pos : Nat) → List BatchEntry → Scan (List BatchEntry)
  | 0, _, entries => pure entries
  | left + 1, pos, entries => do
    let b ← memory.load (region.start + pos)
    let checked ← checkCandidates memory region pos (index b) entries
    scanPositions index region left (pos + 1) checked

def unresolvedCount (entries : List BatchEntry) : Nat :=
  entries.countP fun entry => ¬ entry.result.valid

def scanRegions (index : UInt8 → List FirstByteEntry) :
    List ScanRegion → List BatchEntry → Scan (List BatchEntry)
  | [], entries => pure entries
  | region :: others, entries =>
    if unresolvedCount entries = 0 then pure entries
    else do
      let scanned ← scanPositions memory index region region.size 0 entries
      scanRegions index others scanned

def batchScan (entries : List BatchEntry) : Scan (List BatchEntry) :=
  if entries = [] then pure []
  else scanRegions memory (byteIndex entries) engine.getScanRegions entries

end ScannerEngine

end KenshiMP
