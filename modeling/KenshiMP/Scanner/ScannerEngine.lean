/-
**Searching a region of memory for a byte pattern.**

`scanRegionLinear` tries one position after the other. `scanRegionSSE2` looks for the first fixed byte
of the pattern in blocks of sixteen bytes and verifies the whole pattern where it finds one; the
positions behind the last whole block it tries one by one. `scanRegionAll` calls it again behind each
position it has found. A `Scan` lists what it loads beside its value, so that a load outside the
region can be spoken of.
-/

import KenshiMP.Lib.BitScan

namespace KenshiMP

/-! ### Loads -/

/-- The contents of the address space. -/
abbrev Memory := Nat → UInt8

/-- A load of some bytes. -/
structure Load where
  address : Nat
  width : Nat
deriving DecidableEq

/-- Its bytes lie between two addresses. -/
def Load.Within (low high : Nat) (load : Load) : Prop :=
  low ≤ load.address ∧ load.address + load.width ≤ high

instance (low high : Nat) (load : Load) : Decidable (load.Within low high) := instDecidableAnd

/-- What a computation returns, and what it has loaded until then. -/
structure Scan (α : Type) where
  value : α
  loads : List Load

namespace Scan

variable {α β : Type}

instance : Monad Scan where
  pure value := ⟨value, []⟩
  bind first next := ⟨(next first.value).value, first.loads ++ (next first.value).loads⟩

@[simp] theorem value_pure (value : α) : (pure value : Scan α).value = value := rfl
@[simp] theorem loads_pure (value : α) : (pure value : Scan α).loads = [] := rfl
@[simp] theorem value_bind (first : Scan α) (next : α → Scan β) :
    (first >>= next).value = (next first.value).value := rfl
@[simp] theorem loads_bind (first : Scan α) (next : α → Scan β) :
    (first >>= next).loads = first.loads ++ (next first.value).loads := rfl

end Scan

namespace Memory

variable (memory : Memory)

/-- One byte. -/
def load (address : Nat) : Scan UInt8 := ⟨memory address, [⟨address, 1⟩]⟩

/-- `_mm_loadu_si128`: sixteen bytes, one a lane. -/
def loadu (address : Nat) : Scan (Fin 16 → UInt8) :=
  ⟨fun lane => memory (address + lane), [⟨address, 16⟩]⟩

end Memory

/-! ### Patterns -/

/-- The bytes of a pattern; the mask is false where any byte will do. -/
structure ParsedPattern where
  bytes : List UInt8
  mask : List Bool
  sameLength : mask.length = bytes.length

namespace ParsedPattern

variable (pattern : ParsedPattern)

def byteAt (j : Nat) : UInt8 := pattern.bytes.getD j 0
def fixed (j : Nat) : Bool := pattern.mask.getD j false

/-- The index of the first byte that is not a wildcard. -/
def firstFixedIndex : Option Nat := pattern.mask.findIdx? id

/-- That index as the scan keeps it, in an `int`: minus one if there is none. -/
def firstFixed : Int32 :=
  match pattern.firstFixedIndex with
  | none => -1
  | some i => Int32.ofNat i

end ParsedPattern

namespace ScannerEngine

variable (memory : Memory)

/-! ### Verification -/

/-- The bytes `j` to the last of a pattern against those at a position; the rest is not looked at
behind the first that differs. -/
def compare (pattern : ParsedPattern) (position : Nat) : (left j : Nat) → Scan Bool
  | 0, _ => pure true
  | left + 1, j =>
    if pattern.fixed j then do
      let byte ← memory.load (position + j)
      if byte ≠ pattern.byteAt j then pure false else compare pattern position left (j + 1)
    else compare pattern position left (j + 1)

/-! ### One position after the other -/

/-- The first byte is looked at before the others. -/
def firstDiffers (pattern : ParsedPattern) (position : Nat) : Scan Bool :=
  if pattern.fixed 0 then do
    let byte ← memory.load position
    pure (decide (byte ≠ pattern.byteAt 0))
  else pure false

def linearFrom (start : Nat) (pattern : ParsedPattern) : (left i : Nat) → Scan Nat
  | 0, _ => pure 0
  | left + 1, i => do
    let skipped ← firstDiffers memory pattern (start + i)
    if skipped then linearFrom start pattern left (i + 1)
    else
      let found ← compare memory pattern (start + i) (pattern.bytes.length - 1) 1
      if found then pure (start + i) else linearFrom start pattern left (i + 1)

/-- The address of the first match, or zero. -/
def scanRegionLinear (start size : Nat) (pattern : ParsedPattern) : Scan Nat :=
  if pattern.bytes = [] ∨ size < pattern.bytes.length then pure 0
  else
    let scanEnd := size - pattern.bytes.length
    linearFrom memory start pattern (scanEnd + 1) 0

/-! ### Sixteen positions at a time -/

/-- `_mm_cmpeq_epi8` and `_mm_movemask_epi8`: the lanes that hold the byte. -/
def movemask (chunk : Fin 16 → UInt8) (needle : UInt8) : Nat :=
  Nat.ofBits fun lane => decide (chunk lane = needle)

/-- The lanes of a block from its mask, the lowest set bit first; a value is what the scan returns. -/
def laneLoop (start scanEnd i : Nat) (pattern : ParsedPattern) : (fuel mask : Nat) → Scan (Option Nat)
  | 0, _ => pure none
  | fuel + 1, mask =>
    if mask = 0 then pure none
    else
      let bitIdx := Mask.lowest 16 mask
      let candidate := i + bitIdx
      if scanEnd < candidate then pure (some 0)
      else do
        let found ← compare memory pattern (start + candidate) pattern.bytes.length 0
        if found then pure (some (start + candidate))
        else laneLoop start scanEnd i pattern fuel (Mask.clearLowest mask)

/-- Where the last block may start. -/
def simdEnd (scanEnd : Nat) : Nat := if 16 < scanEnd then scanEnd - 16 else 0

/-- The blocks while they start no later than `simdEnd`: what is returned, or where the loop ends. -/
def blockLoop (start scanEnd offset : Nat) (pattern : ParsedPattern) : (fuel i : Nat) → Scan (Nat ⊕ Nat)
  | 0, i => pure (.inr i)
  | fuel + 1, i =>
    if i ≤ simdEnd scanEnd then do
      let chunk ← memory.loadu (start + i + offset)
      match ← laneLoop memory start scanEnd i pattern 16 (movemask chunk (pattern.byteAt offset)) with
      | some result => pure (.inl result)
      | none => blockLoop start scanEnd offset pattern fuel (i + 16)
    else pure (.inr i)

/-- The remaining positions, one by one. -/
def tailFrom (start offset : Nat) (pattern : ParsedPattern) : (left i : Nat) → Scan Nat
  | 0, _ => pure 0
  | left + 1, i => do
    let byte ← memory.load (start + i + offset)
    if byte ≠ pattern.byteAt offset then tailFrom start offset pattern left (i + 1)
    else
      let found ← compare memory pattern (start + i) pattern.bytes.length 0
      if found then pure (start + i) else tailFrom start offset pattern left (i + 1)

def scanRegionSSE2 (start size : Nat) (pattern : ParsedPattern) : Scan Nat :=
  if pattern.bytes = [] ∨ size < pattern.bytes.length then pure 0
  else
    let scanEnd := size - pattern.bytes.length
    if pattern.firstFixed < 0 then pure start
    else
      let offset := pattern.firstFixed.toNatClampNeg
      do
        match ← blockLoop memory start scanEnd offset pattern (simdEnd scanEnd + 1) 0 with
        | .inl result => pure result
        | .inr i => tailFrom memory start offset pattern (scanEnd + 1 - i) i

/-! ### All matches -/

def scanAllFrom (pattern : ParsedPattern) : (fuel current remaining : Nat) → Scan (List Nat)
  | 0, _, _ => pure []
  | fuel + 1, current, remaining =>
    if pattern.bytes.length < remaining then do
      let addr ← scanRegionSSE2 memory current remaining pattern
      if addr = 0 then pure []
      else
        let advance := addr - current + 1
        let others ← scanAllFrom pattern fuel (current + advance) (remaining - advance)
        pure (addr :: others)
    else pure []

def scanRegionAll (start size : Nat) (pattern : ParsedPattern) : Scan (List Nat) :=
  if pattern.bytes = [] ∨ size < pattern.bytes.length then pure []
  else scanAllFrom memory pattern size start size

end ScannerEngine

end KenshiMP
