/-
**The two stubs for a function that starts with `mov rax, rsp`.**

The naked detour stands where MinHook makes the function jump to. It keeps the stack pointer and the
return address of the caller in the data slots of its page, leaves a gap on the stack, and calls the
C++ hook. What the hook calls as the original is the trampoline wrapper: it goes back to the stack
pointer of the caller, has the function return to a place of its own, and enters the function behind
its first instruction. A depth counter sends nested calls of the function straight to the raw
trampoline, and so does the bypass flag.

The stubs are instructions here, at the offsets where they are emitted. An operand in the page is
given by its offset: the displacement that is emitted is relative to the end of the instruction, which
is where the processor counts from.

The code of the game and the hook are not here. One call of the function is a `Body`: whatever it does
on the way, it stores bytes, calls the function again, and returns. A `HookBody` may also call the
wrapper. Memory below the stack pointer is addressed from there.
-/

import KenshiMP.Lib.ByteMemory

namespace KenshiMP

namespace MovRaxRspFix

open ByteMemory

abbrev Word := BitVec 64

/-! ### The processor -/

/-- The registers that the stubs use, the zero flag, and the memory. -/
structure Cpu where
  rax : Word
  r11 : Word
  rsp : Word
  rip : Word
  zero : Bool
  memory : ByteMemory.Memory 64

/-- What the emit helpers emit. -/
inductive Instr where
  | movMemRsp (place : Nat)
  | movRspMem (place : Nat)
  | movR11Mem (place : Nat)
  | movMemR11 (place : Nat)
  | movR11FromStack
  | movStackFromR11
  | subRspImm32 (imm : BitVec 32)
  | addRspImm32 (imm : BitVec 32)
  | movR11Imm64 (imm : Word)
  | callR11
  | movRaxRsp
  | leaR11Rip (offset : Nat)
  | jmpAbs (target : Word)
  | ret
  | incMemDword (place : Nat)
  | decMemDword (place : Nat)
  | cmpMemDwordImm8 (place : Nat) (imm : BitVec 8)
  | jneShort (rel8 : BitVec 8)
  | jmpMemAbs (place : Nat)
deriving DecidableEq

/-- In bytes. -/
def Instr.size : Instr → Nat
  | movMemRsp _ | movRspMem _ | movR11Mem _ | movMemR11 _ => 7
  | movR11FromStack | movStackFromR11 => 4
  | subRspImm32 _ | addRspImm32 _ => 7
  | movR11Imm64 _ => 10
  | callR11 => 3
  | movRaxRsp => 3
  | leaR11Rip _ => 7
  | jmpAbs _ => 14
  | ret => 1
  | incMemDword _ | decMemDword _ => 6
  | cmpMemDwordImm8 .. => 7
  | jneShort _ => 2
  | jmpMemAbs _ => 6

def codeSize (code : List Instr) : Nat := (code.map Instr.size).sum

/-- The place at an offset of the page. -/
def slot (base : Word) (offset : Nat) : Word := base + BitVec.ofNat 64 offset

namespace Cpu

variable (cpu : Cpu)

@[simps] def setRax (value : Word) : Cpu := { cpu with rax := value }

@[simps] def setR11 (value : Word) : Cpu := { cpu with r11 := value }

@[simps] def setRsp (value : Word) : Cpu := { cpu with rsp := value }

@[simps] def setRip (value : Word) : Cpu := { cpu with rip := value }

@[simps] def setZero (flag : Bool) : Cpu := { cpu with zero := flag }

@[simps] def setMemory (memory : ByteMemory.Memory 64) : Cpu := { cpu with memory := memory }

def qword (address : Word) : Word := BitVec.ofNat 64 (read 8 cpu.memory address)

def setQword (address value : Word) : Cpu :=
  cpu.setMemory (write 8 cpu.memory address value.toNat)

def dword (address : Word) : BitVec 32 := BitVec.ofNat 32 (read 4 cpu.memory address)

/-- `inc` and `dec` tell whether the result is zero. -/
def setDword (address : Word) (value : BitVec 32) : Cpu :=
  (cpu.setMemory (write 4 cpu.memory address value.toNat)).setZero (value = 0)

/-- A call that returns to the given place. -/
def call (target site : Word) : Cpu :=
  ((cpu.setRsp (cpu.rsp - 8)).setQword (cpu.rsp - 8) site).setRip target

def ret : Cpu := (cpu.setRsp (cpu.rsp + 8)).setRip (cpu.qword cpu.rsp)

/-- One instruction of the page at the base. -/
def exec (base : Word) (instr : Instr) : Cpu :=
  let next := cpu.rip + BitVec.ofNat 64 instr.size
  match instr with
  | .movMemRsp place => (cpu.setQword (slot base place) cpu.rsp).setRip next
  | .movRspMem place => (cpu.setRsp (cpu.qword (slot base place))).setRip next
  | .movR11Mem place => (cpu.setR11 (cpu.qword (slot base place))).setRip next
  | .movMemR11 place => (cpu.setQword (slot base place) cpu.r11).setRip next
  | .movR11FromStack => (cpu.setR11 (cpu.qword cpu.rsp)).setRip next
  | .movStackFromR11 => (cpu.setQword cpu.rsp cpu.r11).setRip next
  | .subRspImm32 imm => (cpu.setRsp (cpu.rsp - imm.signExtend 64)).setRip next
  | .addRspImm32 imm => (cpu.setRsp (cpu.rsp + imm.signExtend 64)).setRip next
  | .movR11Imm64 imm => (cpu.setR11 imm).setRip next
  | .callR11 => cpu.call cpu.r11 next
  | .movRaxRsp => (cpu.setRax cpu.rsp).setRip next
  | .leaR11Rip offset => (cpu.setR11 (slot base offset)).setRip next
  | .jmpAbs target => cpu.setRip target
  | .ret => cpu.ret
  | .incMemDword place =>
    (cpu.setDword (slot base place) (cpu.dword (slot base place) + 1)).setRip next
  | .decMemDword place =>
    (cpu.setDword (slot base place) (cpu.dword (slot base place) - 1)).setRip next
  | .cmpMemDwordImm8 place imm =>
    (cpu.setZero (cpu.dword (slot base place) = imm.signExtend 32)).setRip next
  | .jneShort rel8 => cpu.setRip (if cpu.zero then next else next + rel8.signExtend 64)
  | .jmpMemAbs place => cpu.setRip (cpu.qword (slot base place))

end Cpu

/-! ### The stubs -/

def OFF_CAPTURED_RSP : Nat := 0x00
def OFF_STUB_RSP : Nat := 0x08
def OFF_SAVED_GAME_RET : Nat := 0x10
def OFF_DEPTH : Nat := 0x18
def OFF_RAW_TRAMP : Nat := 0x20
def OFF_BYPASS : Nat := 0x28
def OFF_NAKED_STUB : Nat := 0x40
def OFF_TRAMP_WRAP : Nat := 0xC0
def ALLOC_SIZE : Nat := 0x200
def STACK_GAP : BitVec 32 := 0x1008

/-- The page, what it calls, and the trampoline that MinHook has made. -/
structure Page where
  base : Word
  cppDetour : Word
  trampoline : Word

namespace Page

variable (page : Page)

/-- The first call of the function. -/
def normalPath : List Instr :=
  [.movMemRsp OFF_CAPTURED_RSP, .movR11FromStack, .movMemR11 OFF_SAVED_GAME_RET,
    .subRspImm32 STACK_GAP, .movR11Imm64 page.cppDetour, .callR11,
    .addRspImm32 STACK_GAP, .movR11Mem OFF_SAVED_GAME_RET, .movStackFromR11,
    .decMemDword OFF_DEPTH, .ret]

def reentrantPath : List Instr := [.decMemDword OFF_DEPTH, .jmpMemAbs OFF_RAW_TRAMP]

def bypassPath : List Instr := [.jmpMemAbs OFF_RAW_TRAMP]

/-- The bypass flag is off: `jne` goes over the normal path. -/
def countedPath : List Instr :=
  [.incMemDword OFF_DEPTH, .cmpMemDwordImm8 OFF_DEPTH 1,
    .jneShort (BitVec.ofNat 8 (codeSize page.normalPath))]
    ++ page.normalPath ++ reentrantPath

def nakedDetour : List Instr :=
  [.cmpMemDwordImm8 OFF_BYPASS 0, .jneShort (BitVec.ofNat 8 (codeSize page.countedPath))]
    ++ page.countedPath ++ bypassPath

/-- Where the wrapper is returned to, behind six instructions. -/
def returnPointOff : Nat := OFF_TRAMP_WRAP + 7 + 7 + 7 + 4 + 3 + 14

def trampolineWrapper : List Instr :=
  [.movMemRsp OFF_STUB_RSP, .movRspMem OFF_CAPTURED_RSP, .leaR11Rip returnPointOff,
    .movStackFromR11, .movRaxRsp, .jmpAbs (page.trampoline + 3),
    .movRspMem OFF_STUB_RSP, .ret]

/-- Each instruction with its offset. -/
def emit : Nat → List Instr → List (Nat × Instr)
  | _, [] => []
  | offset, instr :: rest => (offset, instr) :: emit (offset + instr.size) rest

def code : List (Nat × Instr) :=
  emit OFF_NAKED_STUB page.nakedDetour ++ emit OFF_TRAMP_WRAP page.trampolineWrapper

/-- The data slots of a page that is built. -/
def emitSlots (memory : ByteMemory.Memory 64) : ByteMemory.Memory 64 :=
  write 8 (write OFF_NAKED_STUB memory page.base 0) (slot page.base OFF_RAW_TRAMP)
    page.trampoline.toNat

def Contains (address : Word) : Prop := Covers page.base ALLOC_SIZE address

instance (address : Word) : Decidable (page.Contains address) :=
  inferInstanceAs (Decidable (Covers ..))

/-- Run the page until control leaves it. -/
def run : Nat → Cpu → Option Cpu
  | 0, _ => none
  | fuel + 1, cpu =>
    if page.Contains cpu.rip then
      match page.code.lookup (cpu.rip - page.base).toNat with
      | some instr => run fuel (cpu.exec page.base instr)
      | none => none
    else some cpu

/-- No way through the page is longer. -/
def fuel : Nat := 16

end Page

/-! ### The function and the hook -/

/-- Where a byte is stored: below the stack pointer, in the space of 32 bytes that a caller leaves
above the return address, or off the stack. -/
inductive Place where
  | below (bytes : Nat)
  | home (byte : Nat)
  | far (address : Word)

def Place.address (rsp : Word) : Place → Word
  | below bytes => rsp - BitVec.ofNat 64 bytes
  | home byte => rsp + 8 + BitVec.ofNat 64 byte
  | far address => address

/-- One call of the function, from behind `mov rax, rsp` to its return. What it does may depend on
all that it sees. A call of the function itself is made some bytes below the stack pointer that it
was entered with, returns to `site`, and is a `Body` of its own. -/
inductive Body where
  | ret (rax r11 : Word)
  | look (choose : Cpu → Body)
  | store (place : Place) (value : UInt8) (next : Body)
  | call (below : Nat) (site : Word) (callee next : Body)

/-- One call of the hook: it calls the wrapper, or the function itself. -/
inductive HookBody where
  | ret (rax r11 : Word)
  | look (choose : Cpu → HookBody)
  | store (place : Place) (value : UInt8) (next : HookBody)
  | callWrapper (below : Nat) (site : Word) (callee : Body) (next : HookBody)
  | call (below : Nat) (site : Word) (callee : Body) (next : HookBody)

/-- What the hook has called as the original: the stack pointer it called with, and the processor when
the function is entered and when it has returned. -/
structure Visit where
  rsp : Word
  entered : Cpu
  left : Cpu

namespace Page

variable (page : Page)

def storeByte (cpu : Cpu) (place : Place) (value : UInt8) : Cpu :=
  cpu.setMemory (Function.update cpu.memory (place.address cpu.rsp) value)

/-- Some bytes below the stack pointer something is called, and they are given back afterwards. -/
def callBelow (cpu : Cpu) (below : Nat) (target site : Word) : Cpu :=
  (cpu.setRsp (cpu.rsp - BitVec.ofNat 64 below)).call target site

def giveBack (cpu : Cpu) (below : Nat) : Cpu := cpu.setRsp (cpu.rsp + BitVec.ofNat 64 below)

/-- `mov rax, rsp`, at the start of the raw trampoline. -/
def enterRaw (cpu : Cpu) : Cpu := (cpu.setRax cpu.rsp).setRip (page.trampoline + 3)

/-- The call of a hooked function comes to the naked detour. Control has to be where it is expected,
or the result is `none`. -/
def runBody : Body → Cpu → Option Cpu
  | .ret rax r11, cpu => some ((cpu.ret.setRax rax).setR11 r11)
  | .look choose, cpu => runBody (choose cpu) cpu
  | .store place value next, cpu => runBody next (storeByte cpu place value)
  | .call below site callee next, cpu =>
    match page.run fuel (callBelow cpu below (slot page.base OFF_NAKED_STUB) site) with
    | some inside =>
      if inside.rip = page.trampoline then
        match runBody callee (page.enterRaw inside) with
        | some back => if back.rip = site then runBody next (giveBack back below) else none
        | none => none
      else none
    | none => none

def runHook : HookBody → Cpu → Option (Cpu × List Visit)
  | .ret rax r11, cpu => some ((cpu.ret.setRax rax).setR11 r11, [])
  | .look choose, cpu => runHook (choose cpu) cpu
  | .store place value next, cpu => runHook next (storeByte cpu place value)
  | .callWrapper below site callee next, cpu =>
    let called := callBelow cpu below (slot page.base OFF_TRAMP_WRAP) site
    match page.run fuel called with
    | some entered =>
      if entered.rip = page.trampoline + 3 then
        match page.runBody callee entered with
        | some left =>
          match page.run fuel left with
          | some back =>
            if back.rip = site then
              (runHook next (giveBack back below)).map fun result =>
                (result.1, ⟨called.rsp, entered, left⟩ :: result.2)
            else none
          | none => none
        | none => none
      else none
    | none => none
  | .call below site callee next, cpu =>
    match page.run fuel (callBelow cpu below (slot page.base OFF_NAKED_STUB) site) with
    | some inside =>
      if inside.rip = page.trampoline then
        match page.runBody callee (page.enterRaw inside) with
        | some back => if back.rip = site then runHook next (giveBack back below) else none
        | none => none
      else none
    | none => none

/-- A call of the hooked function by the game. -/
structure Passage where
  /-- the hook is entered, and has returned -/
  hooked : Cpu
  unhooked : Cpu
  visits : List Visit
  /-- control has left the page for good -/
  out : Cpu

def runFunction (hook : HookBody) (cpu : Cpu) : Option Passage :=
  match page.run fuel cpu with
  | some hooked =>
    if hooked.rip = page.cppDetour then
      match page.runHook hook hooked with
      | some (unhooked, visits) =>
        (page.run fuel unhooked).map fun out => ⟨hooked, unhooked, visits, out⟩
      | none => none
    else none
  | none => none

end Page

end MovRaxRspFix

end KenshiMP
