/-
**A small x86-64 processor.**

General and xmm registers, the status flags with the direction flag, and a memory that is addressed by bytes.
Instructions are decoded from the bytes at the instruction pointer; what is decoded are pushes and pops, moves
between the first eight registers, sums with the stack pointer, and calls and jumps through a pointer in the
code. The code is apart from the memory that is stored to.

A call leaves the code for a routine, which is given by where it starts and what it does: `Effect` is all that a
routine may do that follows the Win64 calling convention.
-/

import KenshiMP.Lib.ByteMemory

namespace X64

open ByteMemory Wire

abbrev Word := BitVec 64

/-! ### The processor -/

/-- In the order of their numbers. -/
inductive Reg where
  | rax | rcx | rdx | rbx | rsp | rbp | rsi | rdi
  | r8 | r9 | r10 | r11 | r12 | r13 | r14 | r15
deriving DecidableEq

structure Flags where
  carry : Bool := false
  parity : Bool := false
  adjust : Bool := false
  zero : Bool := false
  sign : Bool := false
  overflow : Bool := false
  direction : Bool := false
deriving DecidableEq

structure Cpu where
  rip : Word
  regs : Reg → Word
  xmm : Fin 16 → BitVec 128
  flags : Flags
  memory : Memory 64

/-- The eight bytes at an address. -/
def qword (memory : Memory 64) (address : Word) : Word := BitVec.ofNat 64 (read 8 memory address)

def setQword (memory : Memory 64) (address value : Word) : Memory 64 := write 8 memory address value.toNat

/-- An even number of ones in the low byte. -/
def evenParity (result : Word) : Bool := ((List.range 8).filter result.getLsbD).length % 2 = 0

/-- The flags of `left + right`. -/
def addFlags (left right : Word) (flags : Flags) : Flags where
  carry := 2 ^ 64 ≤ left.toNat + right.toNat
  parity := evenParity (left + right)
  adjust := 16 ≤ left.toNat % 16 + right.toNat % 16
  zero := left + right = 0
  sign := (left + right).msb
  overflow := left.msb = right.msb && (left + right).msb != left.msb
  direction := flags.direction

/-- The flags of `left - right`. -/
def subFlags (left right : Word) (flags : Flags) : Flags where
  carry := left.toNat < right.toNat
  parity := evenParity (left - right)
  adjust := left.toNat % 16 < right.toNat % 16
  zero := left - right = 0
  sign := (left - right).msb
  overflow := left.msb != right.msb && (left - right).msb != left.msb
  direction := flags.direction

namespace Cpu

variable (cpu : Cpu)

def rsp : Word := cpu.regs .rsp

def goto (rip : Word) : Cpu := { cpu with rip := rip }

def setReg (reg : Reg) (value : Word) : Cpu := { cpu with regs := Function.update cpu.regs reg value }

def push (value : Word) : Cpu :=
  { cpu.setReg .rsp (cpu.rsp - 8) with memory := setQword cpu.memory (cpu.rsp - 8) value }

end Cpu

/-! ### Instructions -/

/-- The operations that go on to the next instruction. -/
inductive Op where
  | push (reg : Reg)
  | pop (reg : Reg)
  | subRsp (imm : BitVec 8)
  | addRsp (imm : BitVec 8)
  | mov (dst src : Reg)
deriving DecidableEq

def Op.exec (cpu : Cpu) : Op → Cpu
  | push reg => cpu.push (cpu.regs reg)
  | pop reg => (cpu.setReg .rsp (cpu.rsp + 8)).setReg reg (qword cpu.memory cpu.rsp)
  | subRsp imm =>
    { cpu.setReg .rsp (cpu.rsp - imm.signExtend 64) with
      flags := subFlags cpu.rsp (imm.signExtend 64) cpu.flags }
  | addRsp imm =>
    { cpu.setReg .rsp (cpu.rsp + imm.signExtend 64) with
      flags := addFlags cpu.rsp (imm.signExtend 64) cpu.flags }
  | mov dst src => cpu.setReg dst (cpu.regs src)

inductive Instr where
  | plain (op : Op)
  /-- Through the pointer at a distance from the next instruction. -/
  | callMem (disp : BitVec 32)
  | jmpMem (disp : BitVec 32)
  | jmpShort (disp : BitVec 8)
deriving DecidableEq

/-- An instruction with the address of the next one. -/
def Instr.exec (code : Memory 64) (next : Word) (cpu : Cpu) : Instr → Cpu
  | plain op => (op.exec cpu).goto next
  | callMem disp => (cpu.push next).goto (qword code (next + disp.signExtend 64))
  | jmpMem disp => cpu.goto (qword code (next + disp.signExtend 64))
  | jmpShort disp => cpu.goto (next + disp.signExtend 64)

/-- The first eight registers, by their numbers. -/
def lowReg (number : UInt8) : Reg :=
  if number = 0 then .rax else if number = 1 then .rcx else if number = 2 then .rdx else if number = 3 then .rbx
  else if number = 4 then .rsp else if number = 5 then .rbp else if number = 6 then .rsi else .rdi

/-- The other registers, by their numbers less eight. -/
def highReg (number : UInt8) : Reg :=
  if number = 0 then .r8 else if number = 1 then .r9 else if number = 2 then .r10 else if number = 3 then .r11
  else if number = 4 then .r12 else if number = 5 then .r13 else if number = 6 then .r14 else .r15

/-- A push or a pop of a register. -/
def decodeStack (reg : UInt8 → Reg) (byte : UInt8) : Option Op :=
  if byte &&& 0xF8 = 0x50 then some (.push (reg (byte &&& 7)))
  else if byte &&& 0xF8 = 0x58 then some (.pop (reg (byte &&& 7)))
  else none

def imm8 (byte : UInt8) : BitVec 8 := byte.toBitVec

def imm32 (bytes : List UInt8) : BitVec 32 := BitVec.ofNat 32 (leValue bytes)

/-- What starts with a prefix for 64 bits. -/
def decodeWide : List UInt8 → Option (Instr × Nat)
  | second :: third :: rest =>
    if second = 0x89 then
      if third &&& 0xC0 = 0xC0 then some (.plain (.mov (lowReg (third &&& 7)) (lowReg (third >>> 3 &&& 7))), 3)
      else none
    else if second = 0x83 then
      rest.head?.bind fun imm =>
        if third = 0xEC then some (.plain (.subRsp (imm8 imm)), 4)
        else if third = 0xC4 then some (.plain (.addRsp (imm8 imm)), 4)
        else none
    else none
  | _ => none

/-- An instruction at the front of some bytes, with its length. -/
def decode : List UInt8 → Option (Instr × Nat)
  | [] => none
  | first :: rest =>
    if first = 0x41 then rest.head?.bind fun byte => (decodeStack highReg byte).map fun op => (.plain op, 2)
    else if first = 0x48 then decodeWide rest
    else if first = 0xEB then rest.head?.map fun disp => (.jmpShort (imm8 disp), 2)
    else if first = 0xFF then
      rest.head?.bind fun modrm =>
        if modrm = 0x15 then some (.callMem (imm32 ((rest.drop 1).take 4)), 6)
        else if modrm = 0x25 then some (.jmpMem (imm32 ((rest.drop 1).take 4)), 6)
        else none
    else (decodeStack lowReg first).map fun op => (.plain op, 1)

/-! ### Routines -/

/-- The registers that a routine may change. -/
def Reg.volatile (reg : Reg) : Bool := reg ∈ [rax, rcx, rdx, r8, r9, r10, r11]

/-- **What a routine may do** that follows the Win64 calling convention: to the volatile registers, to the first
six xmm registers, to the flags, and to the memory below the end of its home space. -/
structure Effect where
  regs : Reg → Word
  xmm : Fin 16 → BitVec 128
  flags : Flags
  memory : Memory 64

/-- The state behind the return of the routine. -/
def Effect.apply (effect : Effect) (cpu : Cpu) : Cpu where
  rip := qword cpu.memory cpu.rsp
  regs := fun reg =>
    if reg = .rsp then cpu.rsp + 8 else if reg.volatile then effect.regs reg else cpu.regs reg
  xmm := fun i => if i.val < 6 then effect.xmm i else cpu.xmm i
  flags := effect.flags
  memory := fun place =>
    if cpu.rsp.toNat + 0x28 ≤ place.toNat then cpu.memory place else effect.memory place

/-! ### Runs -/

/-- A routine, by where it starts and what it does. -/
structure Routine where
  entry : Word
  effect : Effect

def fetch (code : Memory 64) (rip : Word) : List UInt8 :=
  (List.range 15).map fun i => code (rip + BitVec.ofNat 64 i)

def step (code : Memory 64) (routine : Routine) (cpu : Cpu) : Option Cpu :=
  if cpu.rip = routine.entry then some (routine.effect.apply cpu)
  else (decode (fetch code cpu.rip)).map fun (instr, size) =>
    instr.exec code (cpu.rip + BitVec.ofNat 64 size) cpu

/-- The state at the first time that control is at `stop`. -/
def runTo (code : Memory 64) (routine : Routine) (stop : Word) : Nat → Cpu → Option Cpu
  | 0, cpu => if cpu.rip = stop then some cpu else none
  | fuel + 1, cpu =>
    if cpu.rip = stop then some cpu else (step code routine cpu).bind (runTo code routine stop fuel)

end X64
