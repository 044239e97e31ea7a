/-
**Runs of x86-64 code.**

* `runTo_block`: a straight piece of code does what its operations do one after the other;
* `Saved`: how registers that have been pushed lie on the stack;
* `pushes`, `pops`: pops in the reverse order find what the pushes have left there.
-/

import KenshiMP.Lib.X64

namespace X64

open ByteMemory Wire

/-! ### Bytes of the code -/

/-- Some bytes lie in the code from an address on. -/
def Holds (code : Memory 64) (address : Word) (bytes : List UInt8) : Prop :=
  ∀ i, ∀ inside : i < bytes.length, code (address + BitVec.ofNat 64 i) = bytes[i]

/-- Some bytes are an instruction, whatever follows them. -/
structure Encodes (instr : Instr) (bytes : List UInt8) : Prop where
  some : bytes ≠ []
  short : bytes.length ≤ 15
  decode : ∀ rest, decode (bytes ++ rest) = Option.some (instr, bytes.length)

section Bytes

variable {code : Memory 64} {address : Word} {first second : List UInt8}

theorem add_ofNat (a b : ℕ) :
    address + BitVec.ofNat 64 a + BitVec.ofNat 64 b = address + BitVec.ofNat 64 (a + b) := by
  rw [BitVec.add_assoc, ← BitVec.ofNat_add]

theorem holds_append : Holds code address (first ++ second)
    ↔ Holds code address first ∧ Holds code (address + BitVec.ofNat 64 first.length) second := by
  constructor
  · intro both
    refine ⟨fun i inside => ?_, fun i inside => ?_⟩
    · rw [both i (by rw [List.length_append]; omega), List.getElem_append_left inside]
    · rw [add_ofNat, both _ (by rw [List.length_append]; omega), List.getElem_append_right (by omega)]
      congr 1
      omega
  · rintro ⟨front, back⟩ i inside
    by_cases early : i < first.length
    · rw [front i early, List.getElem_append_left early]
    · rw [List.length_append] at inside
      have later := back (i - first.length) (by omega)
      rw [add_ofNat, Nat.add_sub_cancel' (not_lt.mp early)] at later
      rw [later, List.getElem_append_right (not_lt.mp early)]

theorem fetch_of_holds (held : Holds code address first) (short : first.length ≤ 15) :
    ∃ rest, fetch code address = first ++ rest := by
  refine ⟨(fetch code address).drop first.length, ?_⟩
  have front : (fetch code address).take first.length = first := by
    refine List.ext_getElem (by simp [fetch]; omega) fun i small inside => ?_
    rw [List.getElem_take, ← held i inside]
    simp [fetch]
  calc fetch code address = (fetch code address).take first.length ++ (fetch code address).drop first.length :=
        (List.take_append_drop _ _).symm
    _ = first ++ (fetch code address).drop first.length := by rw [front]

/-- A pointer in the code. -/
theorem qword_of_holds {value : Word} (held : Holds code address (leBytes 8 value.toNat)) :
    qword code address = value := by
  have bytes : (List.range 8).map (fun i => code (address + BitVec.ofNat 64 i)) = leBytes 8 value.toNat := by
    refine List.ext_getElem (by simp [leBytes_length]) fun i small inside => ?_
    rw [List.getElem_map, List.getElem_range, held i inside]
  have small := value.isLt
  rw [qword, ByteMemory.read, bytes, leValue_leBytes, Nat.mod_eq_of_lt (lt_of_lt_of_eq small (by norm_num)),
    BitVec.ofNat_toNat, BitVec.setWidth_eq]

end Bytes

/-! ### Runs -/

section Runs

variable {code : Memory 64} {routine : Routine} {stop : Word} {cpu : Cpu}

theorem runTo_stop (fuel : ℕ) (here : cpu.rip = stop) : runTo code routine stop fuel cpu = some cpu := by
  cases fuel <;> exact if_pos here

/-- More fuel does not change the result. -/
theorem runTo_mono {fuel more : ℕ} {after : Cpu} (ran : runTo code routine stop fuel cpu = some after)
    (enough : fuel ≤ more) : runTo code routine stop more cpu = some after := by
  induction fuel generalizing cpu more with
  | zero =>
    rw [runTo] at ran
    split_ifs at ran with here
    cases ran
    exact runTo_stop more here
  | succ fuel ih =>
    obtain ⟨more, rfl⟩ : ∃ less, more = less + 1 := ⟨more - 1, by omega⟩
    rw [runTo] at ran ⊢
    split_ifs at ran ⊢ with here
    · exact ran
    · obtain ⟨next, stepped, later⟩ := Option.bind_eq_some_iff.mp ran
      rw [stepped]
      exact ih later (Nat.le_of_succ_le_succ enough)

theorem runTo_unique {fuel fuel' : ℕ} {after after' : Cpu} (ran : runTo code routine stop fuel cpu = some after)
    (ran' : runTo code routine stop fuel' cpu = some after') : after = after' := by
  have longer := runTo_mono ran (Nat.le_max_left fuel fuel')
  rw [runTo_mono ran' (Nat.le_max_right fuel fuel')] at longer
  exact (Option.some.inj longer).symm

/-- One instruction. -/
theorem runTo_instr {instr : Instr} {bytes : List UInt8} (encoded : Encodes instr bytes)
    (held : Holds code cpu.rip bytes) (going : cpu.rip ≠ stop) (inside : cpu.rip ≠ routine.entry) (fuel : ℕ) :
    runTo code routine stop (fuel + 1) cpu
      = runTo code routine stop fuel (instr.exec code (cpu.rip + BitVec.ofNat 64 bytes.length) cpu) := by
  obtain ⟨rest, fetched⟩ := fetch_of_holds held encoded.short
  rw [runTo, if_neg going, step, if_neg inside, fetched, encoded.decode]
  rfl

/-- A routine. -/
theorem runTo_routine (going : cpu.rip ≠ stop) (entered : cpu.rip = routine.entry) (fuel : ℕ) :
    runTo code routine stop (fuel + 1) cpu = runTo code routine stop fuel (routine.effect.apply cpu) := by
  rw [runTo, if_neg going, step, if_pos entered]
  rfl

section Exec

variable (code : Memory 64) (next : Word) (cpu : Cpu)

theorem exec_callMem (disp : BitVec 32) :
    Instr.exec code next cpu (.callMem disp) = (cpu.push next).goto (qword code (next + disp.signExtend 64)) := rfl

theorem exec_jmpMem (disp : BitVec 32) :
    Instr.exec code next cpu (.jmpMem disp) = cpu.goto (qword code (next + disp.signExtend 64)) := rfl

theorem exec_jmpShort (disp : BitVec 8) :
    Instr.exec code next cpu (.jmpShort disp) = cpu.goto (next + disp.signExtend 64) := rfl

@[simp] theorem goto_goto (rip other : Word) : (cpu.goto rip).goto other = cpu.goto other := rfl

@[simp] theorem goto_regs (rip : Word) : (cpu.goto rip).regs = cpu.regs := rfl

@[simp] theorem goto_xmm (rip : Word) : (cpu.goto rip).xmm = cpu.xmm := rfl

@[simp] theorem goto_flags (rip : Word) : (cpu.goto rip).flags = cpu.flags := rfl

@[simp] theorem goto_memory (rip : Word) : (cpu.goto rip).memory = cpu.memory := rfl

@[simp] theorem push_goto (rip value : Word) : (cpu.goto rip).push value = (cpu.push value).goto rip := rfl

end Exec

/-- Some operations, one after the other. -/
def execAll (ops : List Op) (cpu : Cpu) : Cpu := ops.foldl Op.exec cpu

theorem exec_goto (op : Op) (cpu : Cpu) (rip : Word) : op.exec (cpu.goto rip) = (op.exec cpu).goto rip := by
  cases op <;> rfl

theorem execAll_goto (ops : List Op) (cpu : Cpu) (rip : Word) :
    execAll ops (cpu.goto rip) = (execAll ops cpu).goto rip := by
  induction ops generalizing cpu with
  | nil => rfl
  | cons op rest ih =>
    show execAll rest (op.exec (cpu.goto rip)) = _
    rw [exec_goto]
    exact ih (op.exec cpu)

/-- The bytes of a straight piece of code. -/
def bytesOf (block : List (Op × List UInt8)) : List UInt8 := block.flatMap Prod.snd

/-- **A straight piece of code.** -/
theorem runTo_block {block : List (Op × List UInt8)} (encoded : ∀ piece ∈ block, Encodes (.plain piece.1) piece.2)
    (held : Holds code cpu.rip (bytesOf block)) (apart : ∀ i < (bytesOf block).length,
      cpu.rip + BitVec.ofNat 64 i ≠ stop ∧ cpu.rip + BitVec.ofNat 64 i ≠ routine.entry) (fuel : ℕ) :
    runTo code routine stop (block.length + fuel) cpu = runTo code routine stop fuel
      ((execAll (block.map Prod.fst) cpu).goto (cpu.rip + BitVec.ofNat 64 (bytesOf block).length)) := by
  induction block generalizing cpu with
  | nil =>
    have same : cpu.rip + BitVec.ofNat 64 0 = cpu.rip := BitVec.add_zero _
    rw [List.length_nil, Nat.zero_add, bytesOf, List.flatMap_nil, List.length_nil, same]
    rfl
  | cons piece rest ih =>
    obtain ⟨op, bytes⟩ := piece
    have this : Encodes (.plain op) bytes := encoded _ List.mem_cons_self
    have unfolded : bytesOf ((op, bytes) :: rest) = bytes ++ bytesOf rest := List.flatMap_cons
    rw [unfolded] at held apart ⊢
    obtain ⟨front, back⟩ := holds_append.mp held
    have positive : 0 < bytes.length := List.length_pos_iff.mpr this.some
    have zero : cpu.rip + BitVec.ofNat 64 0 = cpu.rip := BitVec.add_zero _
    obtain ⟨going, inside⟩ := apart 0 (by rw [List.length_append]; omega)
    rw [zero] at going inside
    have fuels : ((op, bytes) :: rest).length + fuel = (rest.length + fuel) + 1 := by
      rw [List.length_cons]
      omega
    rw [fuels, runTo_instr this front going inside]
    refine (ih (fun other member => encoded other (List.mem_cons_of_mem _ member)) back fun i small => ?_).trans ?_
    · show cpu.rip + BitVec.ofNat 64 bytes.length + BitVec.ofNat 64 i ≠ stop
        ∧ cpu.rip + BitVec.ofNat 64 bytes.length + BitVec.ofNat 64 i ≠ routine.entry
      rw [add_ofNat]
      exact apart _ (by rw [List.length_append]; omega)
    · have there : (Instr.exec code (cpu.rip + BitVec.ofNat 64 bytes.length) cpu (.plain op))
          = (op.exec cpu).goto (cpu.rip + BitVec.ofNat 64 bytes.length) := rfl
      have behind (other : Cpu) (rip : Word) : (other.goto rip).rip = rip := rfl
      rw [there, behind, execAll_goto, add_ofNat, List.length_append]
      rfl

end Runs

/-! ### Registers on the stack -/

section Stack

variable {memory other : Memory 64} {values : Reg → Word} {top : Word} {cpu : Cpu}

theorem qword_setQword (address value : Word) : qword (setQword memory address value) address = value := by
  have small := value.isLt
  rw [qword, setQword, read_write (by norm_num), Nat.mod_eq_of_lt (lt_of_lt_of_eq small (by norm_num)),
    BitVec.ofNat_toNat, BitVec.setWidth_eq]

/-- The registers lie below the top, the first one highest. -/
def Saved (memory : Memory 64) (values : Reg → Word) : Word → List Reg → Prop
  | _, [] => True
  | top, reg :: rest => qword memory (top - 8) = values reg ∧ Saved memory values (top - 8) rest

theorem sub_eight (room : 8 ≤ top.toNat) : (top - 8).toNat = top.toNat - 8 := by
  rw [BitVec.toNat_sub_of_le (by rw [BitVec.le_def]; exact room)]
  rfl

theorem covers_below (room : 8 ≤ top.toNat) (place : Word) :
    Covers (top - 8) 8 place ↔ top.toNat ≤ place.toNat + 8 ∧ place.toNat < top.toNat := by
  have bound := top.isLt
  rw [covers_iff (by rw [sub_eight room]; omega), sub_eight room]
  omega

theorem sub_eights (top : Word) (count : ℕ) :
    top - 8 - BitVec.ofNat 64 (8 * count) = top - BitVec.ofNat 64 (8 * (count + 1)) := by
  rw [BitVec.sub_sub, Nat.mul_succ, Nat.add_comm, BitVec.ofNat_add]
  rfl

/-- What the memory holds below the top decides. -/
theorem Saved.congr {regs : List Reg} (room : 8 * regs.length ≤ top.toNat)
    (same : ∀ place : Word, top.toNat ≤ place.toNat + 8 * regs.length → place.toNat < top.toNat →
      other place = memory place) (saved : Saved memory values top regs) : Saved other values top regs := by
  induction regs generalizing top with
  | nil => trivial
  | cons reg rest ih =>
    rw [List.length_cons] at room same
    have eight : 8 ≤ top.toNat := by omega
    refine ⟨?_, ih (by rw [sub_eight eight]; omega) (fun place low high => ?_) saved.2⟩
    · rw [← saved.1]
      refine congrArg (BitVec.ofNat 64) (read_congr_covers (by norm_num) fun place covered => ?_)
      rw [covers_below eight] at covered
      exact same place (by omega) covered.2
    · rw [sub_eight eight] at low high
      exact same place (by omega) (by omega)

/-- Only the values of the saved registers matter. -/
theorem Saved.values_congr {values' : Reg → Word} {regs : List Reg} (same : ∀ reg ∈ regs, values' reg = values reg)
    (saved : Saved memory values top regs) : Saved memory values' top regs := by
  induction regs generalizing top with
  | nil => trivial
  | cons reg rest ih =>
    refine ⟨?_, ih (fun other inside => same other (List.mem_cons_of_mem _ inside)) saved.2⟩
    rw [same reg List.mem_cons_self]
    exact saved.1

/-- The state behind some pushes. -/
structure Pushed (list : List Reg) (cpu after : Cpu) : Prop where
  regs : after.regs = Function.update cpu.regs .rsp (cpu.rsp - BitVec.ofNat 64 (8 * list.length))
  xmm : after.xmm = cpu.xmm
  above : ∀ place : Word, cpu.rsp.toNat ≤ place.toNat → after.memory place = cpu.memory place
  saved : Saved after.memory cpu.regs cpu.rsp list

variable {regs : List Reg} (free : Reg.rsp ∉ regs)

include free

/-- **Pushes** put the registers below the top and leave what is above. -/
theorem pushes (room : 8 * regs.length ≤ cpu.rsp.toNat) : Pushed regs cpu (execAll (regs.map .push) cpu) := by
  induction regs generalizing cpu with
  | nil =>
    have same : cpu.rsp - BitVec.ofNat 64 (8 * ([] : List Reg).length) = cpu.regs .rsp := BitVec.sub_zero _
    exact ⟨by rw [same, Function.update_eq_self]; rfl, rfl, fun _ _ => rfl, trivial⟩
  | cons reg rest ih =>
    rw [List.length_cons] at room
    have eight : 8 ≤ cpu.rsp.toNat := by omega
    have lower : (cpu.push (cpu.regs reg)).rsp = cpu.rsp - 8 := by
      show Function.update cpu.regs .rsp (cpu.rsp - 8) .rsp = _
      exact Function.update_self _ _ _
    obtain ⟨regs_eq, xmm, above, saved⟩ := @ih (cpu.push (cpu.regs reg))
      (fun inside => free (List.mem_cons_of_mem _ inside)) (by rw [lower, sub_eight eight]; omega)
    rw [lower] at regs_eq above saved
    have unfolded : execAll ((reg :: rest).map .push) cpu
        = execAll (rest.map .push) (cpu.push (cpu.regs reg)) := rfl
    have stack : (cpu.push (cpu.regs reg)).memory = setQword cpu.memory (cpu.rsp - 8) (cpu.regs reg) := rfl
    rw [unfolded]
    refine ⟨?_, xmm, fun place high => ?_, ?_, saved.values_congr fun other inside => ?_⟩
    · rw [regs_eq, sub_eights]
      exact Function.update_idem _ _ _
    · rw [above place (by rw [sub_eight eight]; omega), stack]
      refine write_outside ?_ _
      rw [covers_below eight]
      omega
    · have kept : qword (execAll (rest.map .push) (cpu.push (cpu.regs reg))).memory (cpu.rsp - 8)
          = qword (setQword cpu.memory (cpu.rsp - 8) (cpu.regs reg)) (cpu.rsp - 8) := by
        refine congrArg (BitVec.ofNat 64) (read_congr_covers (by norm_num) fun place covered => ?_)
        rw [covers_below eight] at covered
        rw [above place (by rw [sub_eight eight]; omega), stack]
      rw [kept, qword_setQword]
    · have not_stack : other ≠ .rsp := fun same => free (same ▸ List.mem_cons_of_mem _ inside)
      exact (Function.update_of_ne not_stack _ _).symm

/-- **Pops** in the reverse order take the registers back. -/
theorem pops (saved : Saved cpu.memory values top regs)
    (here : cpu.rsp = top - BitVec.ofNat 64 (8 * regs.length)) :
    execAll (regs.reverse.map .pop) cpu = { cpu with
      regs := fun reg => if reg = .rsp then top else if reg ∈ regs then values reg else cpu.regs reg } := by
  induction regs generalizing top with
  | nil =>
    have same : top = cpu.regs .rsp := by
      rw [← show cpu.rsp = cpu.regs .rsp from rfl, here]
      exact (BitVec.sub_zero _).symm
    have unchanged : (fun reg => if reg = .rsp then top
        else if reg ∈ ([] : List Reg) then values reg else cpu.regs reg) = cpu.regs := by
      funext reg
      by_cases stack : reg = .rsp <;> simp [stack, same]
    rw [unchanged]
    rfl
  | cons reg rest ih =>
    have down : cpu.rsp = top - 8 - BitVec.ofNat 64 (8 * rest.length) := by
      rw [here, sub_eights]
      rfl
    have first := ih (fun inside => free (List.mem_cons_of_mem _ inside)) saved.2 down
    have unfolded : execAll ((reg :: rest).reverse.map .pop) cpu
        = (Op.pop reg).exec (execAll (rest.reverse.map .pop) cpu) := by
      rw [List.reverse_cons, List.map_append, execAll, List.foldl_append]
      rfl
    have not_stack : reg ≠ .rsp := fun same => free (same ▸ List.mem_cons_self)
    have back : top - 8 + 8 = top := BitVec.sub_add_cancel _ _
    rw [unfolded, first]
    refine congrArg (fun regs => ({ cpu with regs := regs } : Cpu)) (funext fun other => ?_)
    show Function.update (Function.update (_ : Reg → Word) .rsp (top - 8 + 8)) reg
      (qword cpu.memory (top - 8)) other = _
    rw [back, saved.1]
    by_cases same : other = reg
    · rw [same, Function.update_self, if_neg not_stack, if_pos List.mem_cons_self]
    · rw [Function.update_of_ne same]
      by_cases stack : other = .rsp
      · rw [stack, Function.update_self, if_pos rfl]
      · rw [Function.update_of_ne stack, if_neg stack]
        exact (if_neg stack).trans (if_congr (by simp [same]) rfl rfl)

/-- Where all registers but the stack pointer are on the stack, all are as they were. -/
theorem pops_all (all : ∀ reg, reg ≠ .rsp → reg ∈ regs) (saved : Saved cpu.memory values (values .rsp) regs)
    (here : cpu.rsp = values .rsp - BitVec.ofNat 64 (8 * regs.length)) :
    execAll (regs.reverse.map .pop) cpu = { cpu with regs := values } := by
  rw [pops free saved here]
  refine congrArg (fun regs => ({ cpu with regs := regs } : Cpu)) (funext fun reg => ?_)
  by_cases stack : reg = .rsp
  · rw [if_pos stack, stack]
  · rw [if_neg stack, if_pos (all reg stack)]

end Stack

end X64
