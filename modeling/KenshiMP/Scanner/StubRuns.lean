/-
**What a run through the page of a hook does.**

One lemma for each instruction, from an offset to the offset behind it; from them the ways through the
naked detour and the wrapper, and what they leave of the data slots.
-/

import KenshiMP.Scanner.MovRaxRspFix

namespace KenshiMP

namespace MovRaxRspFix

open ByteMemory

namespace Page

variable {page : Page} {cpu : Cpu}

/-! ### Instructions -/

/-- Control is at an offset of the page. -/
def goto (page : Page) (cpu : Cpu) (offset : Nat) : Cpu := cpu.setRip (slot page.base offset)

theorem slot_add (a b : Nat) : slot page.base a + BitVec.ofNat 64 b = slot page.base (a + b) := by
  unfold slot
  rw [BitVec.add_assoc, ← BitVec.ofNat_add]

/-- A short jump ahead. -/
theorem slot_jump (offset : Nat) {distance : Nat} (short : distance < 128) :
    slot page.base offset + (BitVec.ofNat 8 distance).signExtend 64 = slot page.base (offset + distance) := by
  have positive : (BitVec.ofNat 8 distance).msb = false := by
    rw [BitVec.msb_eq_decide, BitVec.toNat_ofNat]
    exact decide_eq_false (by omega)
  have ahead : (BitVec.ofNat 8 distance).signExtend 64 = BitVec.ofNat 64 distance := by
    rw [BitVec.signExtend_eq_setWidth_of_msb_false positive]
    refine BitVec.eq_of_toNat_eq ?_
    rw [BitVec.toNat_setWidth, BitVec.toNat_ofNat, BitVec.toNat_ofNat]
    omega
  rw [ahead, slot_add]

theorem run_goto {fuel : Nat} {offset : Nat} {instr : Instr}
    (found : page.code.lookup offset = some instr) (small : offset < ALLOC_SIZE) :
    page.run (fuel + 1) (page.goto cpu offset)
      = page.run fuel ((page.goto cpu offset).exec page.base instr) := by
  have behind : ((page.goto cpu offset).rip - page.base).toNat = offset :=
    sub_toNat (lt_trans small (by decide)) _
  have inside : page.Contains (page.goto cpu offset).rip := by
    show (_ - page.base).toNat < _
    rw [behind]
    exact small
  rw [run, if_pos inside, behind, found]

theorem run_outside {fuel : Nat} (outside : ¬ page.Contains cpu.rip) :
    page.run (fuel + 1) cpu = some cpu := by
  rw [run, if_neg outside]

section Instructions

variable (cpu) (offset place : Nat)

theorem exec_movMemRsp : (page.goto cpu offset).exec page.base (.movMemRsp place)
    = page.goto (cpu.setQword (slot page.base place) cpu.rsp) (offset + 7) := by
  unfold goto
  rw [← slot_add]
  rfl

theorem exec_movRspMem : (page.goto cpu offset).exec page.base (.movRspMem place)
    = page.goto (cpu.setRsp (cpu.qword (slot page.base place))) (offset + 7) := by
  unfold goto
  rw [← slot_add]
  rfl

theorem exec_movR11Mem : (page.goto cpu offset).exec page.base (.movR11Mem place)
    = page.goto (cpu.setR11 (cpu.qword (slot page.base place))) (offset + 7) := by
  unfold goto
  rw [← slot_add]
  rfl

theorem exec_movMemR11 : (page.goto cpu offset).exec page.base (.movMemR11 place)
    = page.goto (cpu.setQword (slot page.base place) cpu.r11) (offset + 7) := by
  unfold goto
  rw [← slot_add]
  rfl

theorem exec_movR11FromStack : (page.goto cpu offset).exec page.base .movR11FromStack
    = page.goto (cpu.setR11 (cpu.qword cpu.rsp)) (offset + 4) := by
  unfold goto
  rw [← slot_add]
  rfl

theorem exec_movStackFromR11 : (page.goto cpu offset).exec page.base .movStackFromR11
    = page.goto (cpu.setQword cpu.rsp cpu.r11) (offset + 4) := by
  unfold goto
  rw [← slot_add]
  rfl

theorem exec_subRspImm32 (imm : BitVec 32) :
    (page.goto cpu offset).exec page.base (.subRspImm32 imm)
      = page.goto (cpu.setRsp (cpu.rsp - imm.signExtend 64)) (offset + 7) := by
  unfold goto
  rw [← slot_add]
  rfl

theorem exec_addRspImm32 (imm : BitVec 32) :
    (page.goto cpu offset).exec page.base (.addRspImm32 imm)
      = page.goto (cpu.setRsp (cpu.rsp + imm.signExtend 64)) (offset + 7) := by
  unfold goto
  rw [← slot_add]
  rfl

theorem exec_movR11Imm64 (imm : Word) : (page.goto cpu offset).exec page.base (.movR11Imm64 imm)
    = page.goto (cpu.setR11 imm) (offset + 10) := by
  unfold goto
  rw [← slot_add]
  rfl

theorem exec_callR11 : (page.goto cpu offset).exec page.base .callR11
    = cpu.call cpu.r11 (slot page.base (offset + 3)) := by
  rw [← slot_add]
  rfl

theorem exec_movRaxRsp : (page.goto cpu offset).exec page.base .movRaxRsp
    = page.goto (cpu.setRax cpu.rsp) (offset + 3) := by
  unfold goto
  rw [← slot_add]
  rfl

theorem exec_leaR11Rip : (page.goto cpu offset).exec page.base (.leaR11Rip place)
    = page.goto (cpu.setR11 (slot page.base place)) (offset + 7) := by
  unfold goto
  rw [← slot_add]
  rfl

theorem exec_incMemDword : (page.goto cpu offset).exec page.base (.incMemDword place)
    = page.goto (cpu.setDword (slot page.base place) (cpu.dword (slot page.base place) + 1))
      (offset + 6) := by
  unfold goto
  rw [← slot_add]
  rfl

theorem exec_decMemDword : (page.goto cpu offset).exec page.base (.decMemDword place)
    = page.goto (cpu.setDword (slot page.base place) (cpu.dword (slot page.base place) - 1))
      (offset + 6) := by
  unfold goto
  rw [← slot_add]
  rfl

theorem exec_cmpMemDwordImm8 (imm : BitVec 8) :
    (page.goto cpu offset).exec page.base (.cmpMemDwordImm8 place imm)
      = page.goto (cpu.setZero (cpu.dword (slot page.base place) = imm.signExtend 32))
        (offset + 7) := by
  unfold goto
  rw [← slot_add]
  rfl

theorem exec_jneShort {distance : Nat} (short : distance < 128) :
    (page.goto cpu offset).exec page.base (.jneShort (BitVec.ofNat 8 distance))
      = page.goto cpu (if cpu.zero then offset + 2 else offset + 2 + distance) := by
  unfold goto
  cases taken : cpu.zero with
  | true =>
    rw [if_pos rfl, ← slot_add]
    show cpu.setRip (if cpu.zero then _ else _) = _
    rw [taken]
    rfl
  | false =>
    rw [if_neg Bool.false_ne_true, ← slot_jump _ short, ← slot_add]
    show cpu.setRip (if cpu.zero then _ else _) = _
    rw [taken]
    rfl

theorem exec_jmpMemAbs : (page.goto cpu offset).exec page.base (.jmpMemAbs place)
    = cpu.setRip (cpu.qword (slot page.base place)) := rfl

theorem exec_jmpAbs (target : Word) : (page.goto cpu offset).exec page.base (.jmpAbs target)
    = cpu.setRip target := rfl

theorem exec_ret : (page.goto cpu offset).exec page.base .ret = cpu.ret := rfl

end Instructions

/-! ### The ways through the stubs -/

theorem countedPath_size : codeSize page.countedPath = 90 := rfl

theorem normalPath_size : codeSize page.normalPath = 63 := rfl

theorem gap_signExtend : STACK_GAP.signExtend 64 = 0x1008 := by decide

theorem zero_signExtend : (0 : BitVec 8).signExtend 32 = 0 := by decide

theorem one_signExtend : (1 : BitVec 8).signExtend 32 = 1 := by decide

/-- The bypass flag decides first. -/
theorem run_guard {fuel : Nat} :
    let bypass := cpu.dword (slot page.base OFF_BYPASS)
    page.run (fuel + 2) (page.goto cpu OFF_NAKED_STUB) = page.run fuel
      (page.goto (cpu.setZero (bypass = 0)) (if bypass = 0 then 0x49 else 0xA3)) := by
  intro bypass
  have short : codeSize page.countedPath < 128 := by
    rw [countedPath_size]
    decide
  rw [run_goto rfl (by decide), exec_cmpMemDwordImm8, run_goto rfl (by decide),
    exec_jneShort _ _ short, zero_signExtend, countedPath_size]
  simp only [bypass, Cpu.setZero_zero, decide_eq_true_eq, OFF_NAKED_STUB, Nat.reduceAdd]

/-- Then the depth, counted up. -/
theorem run_count {fuel : Nat} :
    let counted := cpu.setDword (slot page.base OFF_DEPTH) (cpu.dword (slot page.base OFF_DEPTH) + 1)
    let depth := counted.dword (slot page.base OFF_DEPTH)
    page.run (fuel + 3) (page.goto cpu 0x49) = page.run fuel
      (page.goto (counted.setZero (depth = 1)) (if depth = 1 then 0x58 else 0x97)) := by
  intro counted depth
  have short : codeSize page.normalPath < 128 := by
    rw [normalPath_size]
    decide
  rw [run_goto rfl (by decide), exec_incMemDword, run_goto rfl (by decide), exec_cmpMemDwordImm8,
    run_goto rfl (by decide), exec_jneShort _ _ short, one_signExtend, normalPath_size]
  simp only [depth, counted, Cpu.setZero_zero, decide_eq_true_eq, Nat.reduceAdd]

/-- A nested call. -/
theorem run_reentrant {fuel : Nat} :
    let uncounted := cpu.setDword (slot page.base OFF_DEPTH)
      (cpu.dword (slot page.base OFF_DEPTH) - 1)
    page.run (fuel + 2) (page.goto cpu 0x97)
      = page.run fuel (uncounted.setRip (uncounted.qword (slot page.base OFF_RAW_TRAMP))) := by
  intro uncounted
  rw [run_goto rfl (by decide), exec_decMemDword, run_goto rfl (by decide), exec_jmpMemAbs]

theorem run_bypass {fuel : Nat} : page.run (fuel + 1) (page.goto cpu 0xA3)
    = page.run fuel (cpu.setRip (cpu.qword (slot page.base OFF_RAW_TRAMP))) := by
  rw [run_goto rfl (by decide), exec_jmpMemAbs]

/-- The processor when the normal path has called the hook. -/
def hookCall (page : Page) (cpu : Cpu) : Cpu :=
  let captured := cpu.setQword (slot page.base OFF_CAPTURED_RSP) cpu.rsp
  let returns := captured.qword cpu.rsp
  let saved := (captured.setR11 returns).setQword (slot page.base OFF_SAVED_GAME_RET) returns
  ((saved.setRsp (cpu.rsp - 0x1008)).setR11 page.cppDetour).call page.cppDetour
    (slot page.base 0x7E)

theorem run_normal {fuel : Nat} :
    page.run (fuel + 6) (page.goto cpu 0x58) = page.run fuel (page.hookCall cpu) := by
  rw [run_goto rfl (by decide), exec_movMemRsp, run_goto rfl (by decide), exec_movR11FromStack,
    run_goto rfl (by decide), exec_movMemR11, run_goto rfl (by decide), exec_subRspImm32,
    run_goto rfl (by decide), exec_movR11Imm64, run_goto rfl (by decide), exec_callR11, gap_signExtend]
  simp only [hookCall, Cpu.setQword, Cpu.setMemory_rsp, Cpu.setR11_rsp, Cpu.setR11_r11,
    Nat.reduceAdd]

theorem qword_setRsp (value address : Word) : (cpu.setRsp value).qword address = cpu.qword address :=
  rfl

/-- The processor when the return address of the game is back on its stack. -/
def restored (page : Page) (cpu : Cpu) : Cpu :=
  let returns := cpu.qword (slot page.base OFF_SAVED_GAME_RET)
  ((cpu.setRsp (cpu.rsp + 0x1008)).setR11 returns).setQword (cpu.rsp + 0x1008) returns

/-- The hook has returned. -/
theorem run_unhooked {fuel : Nat} :
    page.run (fuel + 5) (page.goto cpu 0x7E) = page.run fuel
      ((page.restored cpu).setDword (slot page.base OFF_DEPTH)
        ((page.restored cpu).dword (slot page.base OFF_DEPTH) - 1)).ret := by
  rw [run_goto rfl (by decide), exec_addRspImm32, run_goto rfl (by decide), exec_movR11Mem,
    run_goto rfl (by decide), exec_movStackFromR11, run_goto rfl (by decide), exec_decMemDword,
    run_goto rfl (by decide), exec_ret, gap_signExtend]
  simp only [restored, Cpu.setR11_rsp, Cpu.setR11_r11, Cpu.setRsp_rsp, qword_setRsp]

/-- The wrapper, up to the function behind its first instruction. -/
theorem run_wrapper {fuel : Nat} :
    let kept := cpu.setQword (slot page.base OFF_STUB_RSP) cpu.rsp
    let swapped := (kept.setRsp (kept.qword (slot page.base OFF_CAPTURED_RSP))).setR11
      (slot page.base returnPointOff)
    let patched := swapped.setQword swapped.rsp swapped.r11
    page.run (fuel + 6) (page.goto cpu OFF_TRAMP_WRAP)
      = page.run fuel ((patched.setRax patched.rsp).setRip (page.trampoline + 3)) := by
  intro kept swapped patched
  rw [run_goto rfl (by decide), exec_movMemRsp, run_goto rfl (by decide), exec_movRspMem,
    run_goto rfl (by decide), exec_leaR11Rip, run_goto rfl (by decide), exec_movStackFromR11,
    run_goto rfl (by decide), exec_movRaxRsp, run_goto rfl (by decide), exec_jmpAbs]

/-- The function has returned to the wrapper. -/
theorem run_returnPoint {fuel : Nat} : page.run (fuel + 2) (page.goto cpu returnPointOff)
    = page.run fuel (cpu.setRsp (cpu.qword (slot page.base OFF_STUB_RSP))).ret := by
  rw [run_goto rfl (by decide), exec_movRspMem, run_goto rfl (by decide), exec_ret]

end Page

end MovRaxRspFix

end KenshiMP
