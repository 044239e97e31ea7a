/-
**The unwind data of a function.**

An `UNWIND_INFO` is four bytes, an array of 16-bit slots and, behind the array and its padding, the
address of a handler or of the data that this one continues. A code takes one slot, or two or three if
it has an operand. `sehParseUnwindInfo` walks the array with an index of eight bits. The walk takes fuel
for its iterations; the slots that an iteration reads are listed beside the code it yields, so that one
can speak of them. The module is readable here: a fault would end the walk and leave nothing.
-/

import KenshiMP.Scanner.CallGraph
import KenshiMP.Scanner.ScannerEngine

namespace KenshiMP

/-! ### Unwind codes -/

namespace UnwindOpCode

def PUSH_NONVOL : UInt8 := 0
def ALLOC_LARGE : UInt8 := 1
def ALLOC_SMALL : UInt8 := 2
def SET_FPREG : UInt8 := 3
def SAVE_NONVOL : UInt8 := 4
def SAVE_NONVOL_FAR : UInt8 := 5
def SAVE_XMM128 : UInt8 := 8
def SAVE_XMM128_FAR : UInt8 := 9
def PUSH_MACHFRAME : UInt8 := 10

end UnwindOpCode

structure UnwindCode where
  codeOffset : UInt8
  opCode : UInt8
  opInfo : UInt8
  extraData : UInt16 := 0
deriving DecidableEq

/-- `UNWIND_INFO`, as far as it is kept. -/
structure UnwindInfo where
  version : UInt8 := 0
  flags : UInt8 := 0
  prologueSize : UInt8 := 0
  frameRegister : UInt8 := 0
  frameOffset : UInt8 := 0
  codes : List UnwindCode := []
  handlerRVA : Uintptr := 0
  chainedRVA : Uintptr := 0
deriving DecidableEq

/-! ### The array of slots -/

/-- A number of some bytes, the lowest first. -/
def Memory.readLE (memory : Memory) (count address : Nat) : Nat :=
  Wire.leValue ((List.range count).map fun k => memory (address + k))

/-- What an iteration yields: a code, the slots that were read, and the next index. -/
structure UnwindStep where
  code : UnwindCode
  reads : List Nat
  next : UInt8
deriving DecidableEq

namespace PDataEnumerator

section Walk

variable (codes : Nat → UInt16)

/-- The three parts of a code word. -/
def splitWord (codeWord : UInt16) : UnwindCode where
  codeOffset := (codeWord &&& 0xFF).toUInt8
  opCode := (codeWord >>> 8 &&& 0x0F).toUInt8
  opInfo := (codeWord >>> 12 &&& 0x0F).toUInt8

/-- `static_cast<uint16_t>(codes[i + 1] | (codes[i + 2] << 16))` -/
def joined (low high : UInt16) : UInt16 := (low.toUInt32 ||| high.toUInt32 <<< 16).toUInt16

/-- One iteration. -/
def unwindStep (i : UInt8) : UnwindStep :=
  let code := splitWord (codes i.toNat)
  let two : UnwindStep :=
    ⟨{ code with extraData := codes (i.toNat + 1) }, [i.toNat, i.toNat + 1], i + 2⟩
  let three : UnwindStep :=
    ⟨{ code with extraData := joined (codes (i.toNat + 1)) (codes (i.toNat + 2)) },
      [i.toNat, i.toNat + 1, i.toNat + 2], i + 3⟩
  if code.opCode = UnwindOpCode.ALLOC_LARGE then if code.opInfo = 0 then two else three
  else if code.opCode = UnwindOpCode.SAVE_NONVOL_FAR ∨ code.opCode = UnwindOpCode.SAVE_XMM128_FAR then
    three
  else if code.opCode = UnwindOpCode.SAVE_NONVOL ∨ code.opCode = UnwindOpCode.SAVE_XMM128 then two
  else ⟨code, [i.toNat], i + 1⟩

/-- The loop from an index on; nothing if the fuel does not do. -/
def parseCodes (codeCount : UInt8) : (fuel : Nat) → UInt8 → Option (List UnwindStep)
  | 0, i => if i < codeCount then none else some []
  | fuel + 1, i =>
    if i < codeCount then
      (parseCodes codeCount fuel (unwindStep codes i).next).map fun rest => unwindStep codes i :: rest
    else some []

end Walk

/-! ### The whole structure -/

section Parse

variable (memory : Memory)

/-- The slots of the structure at an address. -/
def slotsAt (data : Nat) (i : Nat) : UInt16 := UInt16.ofNat (memory.readLE 2 (data + 4 + 2 * i))

/-- Where the array and its padding end. -/
def codeBytes (codeCount : UInt8) : Nat :=
  4 + codeCount.toNat * 2 + if codeCount &&& 1 ≠ 0 then 2 else 0

/-- `SehParseUnwindInfo`; the buffer has room for 256 codes. -/
def sehParseUnwindInfo (fuel : Nat) (data : Nat) : Option UnwindInfo :=
  let flags := memory data >>> 3 &&& 0x1F
  let codeCount := memory (data + 2)
  let trailer := UInt64.ofNat (memory.readLE 4 (data + codeBytes codeCount))
  (parseCodes (slotsAt memory data) codeCount fuel 0).map fun steps =>
    { version := memory data &&& 0x07
      flags := flags
      prologueSize := memory (data + 1)
      frameRegister := memory (data + 3) &&& 0x0F
      frameOffset := memory (data + 3) >>> 4 &&& 0x0F
      codes := (steps.map UnwindStep.code).take 256
      handlerRVA := if flags &&& 0x01 ≠ 0 then trailer else 0
      chainedRVA := if flags &&& 0x04 ≠ 0 then trailer else 0 }

/-- Where the unwind data of a function is, without the bit that marks a chain. -/
def unwindData (moduleBase : Uintptr) (unwindRVA : UInt32) : Nat :=
  (moduleBase + (unwindRVA &&& ~~~1).toUInt64).toNat

def parseUnwindInfo (fuel : Nat) (moduleBase : Uintptr) (unwindRVA : UInt32) : Option UnwindInfo :=
  if unwindRVA = 0 then some {} else sehParseUnwindInfo memory fuel (unwindData moduleBase unwindRVA)

end Parse

end PDataEnumerator

end KenshiMP
