/-
**The inline hook at the animation update.**

The first 14 bytes of the function are copied into a trampoline and replaced by a jump to it. The trampoline
saves the general registers, calls the tracker with the animation object, takes the registers back, and goes on
with the copied bytes.

The memory that the trampoline is put into is fresh: it neither contains the hooked bytes nor the tracker.
-/

import KenshiMP.Lib.X64

namespace KenshiMP

namespace CharTracker

open ByteMemory Wire X64

/-- What the calls of the system give, and where `SEH_OnCharUpdate` is. -/
structure HookEnv where
  /-- The original bytes can be read. -/
  readable : Bool := true
  /-- `VirtualAlloc` -/
  alloc : Option Word
  /-- `VirtualProtect` -/
  protects : Bool := true
  onCharUpdate : Word

structure HookState where
  code : ByteMemory.Memory 64
  originalBytes : List UInt8 := List.replicate 14 0
  trampolineAlloc : Option Word := none

def trampolineSize : ℕ := 256

/-- Some bytes of the code. -/
def readBytes (code : ByteMemory.Memory 64) (address : Word) (count : ℕ) : List UInt8 :=
  (List.range count).map fun i => code (address + BitVec.ofNat 64 i)

def writeBytes (code : ByteMemory.Memory 64) (address : Word) (bytes : List UInt8) : ByteMemory.Memory 64 :=
  fun place => bytes.getD (place - address).toNat (code place)

/-! ### The trampoline -/

def saveRegs : List UInt8 :=
  [0x50, 0x51, 0x52, 0x53, 0x55, 0x56, 0x57,
    0x41, 0x50, 0x41, 0x51, 0x41, 0x52, 0x41, 0x53,
    0x41, 0x54, 0x41, 0x55, 0x41, 0x56, 0x41, 0x57]

/-- The shadow space. -/
def subRsp : List UInt8 := [0x48, 0x83, 0xEC, 0x28]

/-- `AnimationClassHuman*` is in `rbx`. -/
def movRcxRbx : List UInt8 := [0x48, 0x89, 0xD9]

/-- `call [rip+2]`, through the pointer behind the jump. -/
def callPtr : List UInt8 := [0xFF, 0x15, 0x02, 0x00, 0x00, 0x00]

def jmpOverPtr : List UInt8 := [0xEB, 0x08]

def addRsp : List UInt8 := [0x48, 0x83, 0xC4, 0x28]

def restoreRegs : List UInt8 :=
  [0x41, 0x5F, 0x41, 0x5E, 0x41, 0x5D, 0x41, 0x5C,
    0x41, 0x5B, 0x41, 0x5A, 0x41, 0x59, 0x41, 0x58,
    0x5F, 0x5E, 0x5D, 0x5B, 0x5A, 0x59, 0x58]

/-- `jmp [rip+0]` -/
def jmpPtr : List UInt8 := [0xFF, 0x25, 0x00, 0x00, 0x00, 0x00]

def pointer (address : Word) : List UInt8 := leBytes 8 address.toNat

/-- What is emitted, in order. -/
def trampoline (onCharUpdate hookAddr : Word) (originalBytes : List UInt8) : List UInt8 :=
  saveRegs ++ (subRsp ++ (movRcxRbx ++ (callPtr ++ (jmpOverPtr ++ (pointer onCharUpdate ++ (addRsp
    ++ (restoreRegs ++ (originalBytes ++ (jmpPtr ++ pointer (hookAddr + 14))))))))))

/-- Where the copied bytes are in the trampoline. -/
def copyOffset : ℕ := 73

def buildInlineHook (env : HookEnv) (hookAddr : Word) (state : HookState) : HookState × Bool :=
  if env.readable then
    let originalBytes := readBytes state.code hookAddr 14
    let state := { state with originalBytes := originalBytes }
    match env.alloc with
    | none => ({ state with trampolineAlloc := none }, false)
    | some base =>
      let emitted := writeBytes state.code base (trampoline env.onCharUpdate hookAddr originalBytes)
      -- the trampoline is given back where the hook cannot be set
      if env.protects then
        ({ state with
          code := writeBytes emitted hookAddr (jmpPtr ++ pointer base)
          trampolineAlloc := some base }, true)
      else ({ state with trampolineAlloc := none }, false)
  else (state, false)

end CharTracker

end KenshiMP
