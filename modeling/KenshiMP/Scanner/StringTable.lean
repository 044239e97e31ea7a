/-
**The table of strings and the references to them.**

`StringAnalyzer` looks for strings in `.rdata` and for instructions in `.text` that load the address of
one: `48` or `4C`, `8D`, a byte that says that the address is relative to the next instruction, and
four bytes of displacement. The hits of a scan go into a buffer of a fixed size before they become
entries. The scans of bytes and of 16-bit units are the same loop. The sections are readable here; the
labels of functions and the index from functions to strings are left out, as nothing here reads them.
-/

import KenshiMP.Lib.Machine
import KenshiMP.Lib.Runs
import KenshiMP.Scanner.Orchestrator
import KenshiMP.Scanner.UnwindInfo

namespace KenshiMP

open Assoc

namespace StringTable

/-! ### The module -/

/-- A section that `FindSections` has found, or an empty one at zero. -/
structure ImageSection where
  base : Uintptr
  size : Nat
  placed : base = 0 → size = 0
  inside : base.toNat + size ≤ 2 ^ 64

structure Image where
  memory : Memory
  text : ImageSection
  rdata : ImageSection
  pdata : Option PDataEnumerator := none

/-! ### Looking for strings -/

structure RawStringHit where
  offsetInSection : Nat
  length : Nat
deriving DecidableEq

/-- `0x20 ≤ data[i] && data[i] ≤ 0x7E` -/
abbrev Printable (data : Nat → Nat) (i : Nat) : Prop := 0x20 ≤ data i ∧ data i ≤ 0x7E

section Scan

variable (data : Nat → Nat) (size minLength : Nat)

/-- The hits from a position on. The inner loop measures a run; behind it, one unit is skipped. -/
def scanUnits (i : Nat) : List RawStringHit :=
  if i < size then
    if ¬ Printable data i then scanUnits (i + 1)
    else
      let stop := Runs.runEnd (Printable data) (size - i) i
      let len := stop - i
      if minLength ≤ len ∧ stop < size ∧ data stop = 0 then ⟨i, len⟩ :: scanUnits (stop + 1)
      else scanUnits (stop + 1)
  else []
termination_by size - i
decreasing_by
  · omega
  · have behind := Runs.le_runEnd (Printable data) (size - i) i
    omega
  · have behind := Runs.le_runEnd (Printable data) (size - i) i
    omega

end Scan

/-- An entry of the table. -/
structure TableString extends GameString where
  address : Uintptr
  length : Nat
  isWide : Bool

structure State where
  strings : List TableString := []
  totalXrefs : Nat := 0

/-- `static_cast<size_t>(minLength)` -/
def sizeT (n : Int32) : Nat := (extended n).toNat

/-- 1M strings at most. -/
def kMaxHits : Nat := 1024 * 1024

/-- Room for the hits of `size` units. -/
def hitRoom (size : Nat) (minLength : Int32) : Nat :=
  min (size / ((sizeT minLength + 1) % 2 ^ 64) + 1) kMaxHits

namespace Image

variable (image : Image)

/-- The bytes of `.rdata`, and its 16-bit units. -/
def rdataByte (i : Nat) : Nat := (image.memory (image.rdata.base.toNat + i)).toNat
def rdataUnit (i : Nat) : Nat := image.memory.readLE 2 (image.rdata.base.toNat + 2 * i)

def scanStrings_SEH (minLength : Int32) : List RawStringHit :=
  scanUnits image.rdataByte image.rdata.size (sizeT minLength) 0

def scanWideStrings_SEH (minLength : Int32) : List RawStringHit :=
  scanUnits image.rdataUnit (image.rdata.size / 2) (sizeT minLength) 0

def narrowString (hit : RawStringHit) : TableString where
  address := image.rdata.base + UInt64.ofNat hit.offsetInSection
  value := (List.range hit.length).map fun k => UInt8.ofNat (image.rdataByte (hit.offsetInSection + k))
  length := hit.length
  isWide := false
  xrefs := []

/-- The low byte of each unit is kept. -/
def wideString (hit : RawStringHit) : TableString where
  address := image.rdata.base + UInt64.ofNat (hit.offsetInSection * 2)
  value := (List.range hit.length).map fun k =>
    UInt8.ofNat (image.rdataUnit (hit.offsetInSection + k) &&& 0xFF)
  length := hit.length
  isWide := true
  xrefs := []

/-- The table, and what is returned. -/
def scanStrings (minLength : Int32) (state : State) : State × Nat :=
  if image.rdata.base = 0 ∨ image.rdata.size = 0 then (state, 0)
  else
    let hits := (image.scanStrings_SEH minLength).take (hitRoom image.rdata.size minLength)
    ({ state with strings := hits.map image.narrowString }, hits.length)

def scanWideStrings (minLength : Int32) (state : State) : State × Nat :=
  if image.rdata.base = 0 ∨ image.rdata.size = 0 then (state, 0)
  else
    let hits := (image.scanWideStrings_SEH minLength).take (hitRoom (image.rdata.size / 2) minLength)
    ({ state with strings := state.strings ++ hits.map image.wideString }, hits.length)

/-! ### Looking for references -/

def textByte (i : Nat) : UInt8 := image.memory (image.text.base.toNat + i)

/-- `LEA reg, [RIP + disp32]` with a prefix for 64 bits. -/
def isLEA (i : Nat) : Bool :=
  (image.textByte i == 0x48 || image.textByte i == 0x4C) && image.textByte (i + 1) == 0x8D
    && image.textByte (i + 2) &&& 0xC7 == 0x05

def instrAddr (i : Nat) : Uintptr := image.text.base + UInt64.ofNat i

/-- The address that the instruction at a position loads. -/
def leaTarget (i : Nat) : Uintptr :=
  let disp := int32 (image.textByte (i + 3)) (image.textByte (i + 4)) (image.textByte (i + 5))
    (image.textByte (i + 6))
  image.instrAddr i + 7 + extended disp

/-- `for (i = 0; i + 7 < textSize; i++)` -/
def resolveXrefs_SEH : List Nat := (List.range (image.text.size - 7)).filter image.isLEA

def findXrefs_SEH (stringAddr : Uintptr) : List Nat :=
  (List.range (image.text.size - 7)).filter fun i => image.isLEA i && image.leaTarget i == stringAddr

/-- 4M instructions at most. -/
def kMaxLeaHits : Nat := 4 * 1024 * 1024

def leaRoom : Nat := min (image.text.size / 7 + 1) kMaxLeaHits

def xrefAt (codeAddress : Uintptr) : XRef where
  codeAddress := codeAddress
  funcAddress := ((image.pdata.bind fun pdata => pdata.findContaining codeAddress).map
    FunctionEntry.startVA).getD 0

/-- Of two entries at one address, the second one stays in the index. -/
def stringAddrIndex (strings : List TableString) : AMap Uintptr Nat :=
  strings.zipIdx.foldl (fun index entry => AList.insert entry.1.address entry.2 index) ∅

/-- One hit: the entry at its target gets a reference. -/
def recordHit (index : AMap Uintptr Nat) (state : State) (i : Nat) : State :=
  match index.lookup (image.leaTarget i) with
  | none => state
  | some strIdx =>
    { strings := state.strings.modify strIdx fun gs =>
        { gs with xrefs := gs.xrefs ++ [image.xrefAt (image.instrAddr i)] }
      totalXrefs := state.totalXrefs + 1 }

def resolveXrefs (state : State) : State × Nat :=
  if state.strings = [] ∨ image.text.base = 0 ∨ image.text.size = 0 then (state, 0)
  else
    let hits := image.resolveXrefs_SEH.take image.leaRoom
    let resolved := hits.foldl (image.recordHit (stringAddrIndex state.strings)) { state with totalXrefs := 0 }
    (resolved, resolved.totalXrefs)

/-- 4096 references at most. -/
def kMaxXrefs : Nat := 4096

def findXrefs (stringAddr : Uintptr) : List XRef :=
  if image.text.base = 0 ∨ image.text.size = 0 then []
  else ((image.findXrefs_SEH stringAddr).take kMaxXrefs).map fun i => image.xrefAt (image.instrAddr i)

/-! ### Calls -/

inductive Call
  | scanStrings (minLength : Int32)
  | scanWideStrings (minLength : Int32)
  | resolveXrefs

/-- A call, and what it returns. -/
def machine : Machine State Call Nat where
  step state
    | .scanStrings minLength =>
      let (after, returned) := image.scanStrings minLength state
      (after, [returned])
    | .scanWideStrings minLength =>
      let (after, returned) := image.scanWideStrings minLength state
      (after, [returned])
    | .resolveXrefs =>
      let (after, returned) := image.resolveXrefs state
      (after, [returned])

end Image

end StringTable

end KenshiMP
