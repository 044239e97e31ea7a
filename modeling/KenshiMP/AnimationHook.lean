/-
**Whether the game notices the animation hook.**

The trampoline takes back what it has pushed, which are the general registers. The flags are those of its last
sum with the stack pointer, and the xmm registers that a routine may change are what the tracker leaves in them.

* `enters`: the run up to the tracker, with the registers on the stack;
* `returns`: the run from there to the copied bytes;
* `animation_hook`: the game notices nothing exactly if its flags are those of that sum and the tracker has put
  the six xmm registers back.
-/

import KenshiMP.Client.InlineHook
import KenshiMP.Lib.Occurrences
import KenshiMP.Lib.X64Runs

namespace KenshiMP

namespace CharTracker

open ByteMemory Wire X64

/-! ### The statement -/

/-- What `VirtualAlloc` gives is apart from the hooked bytes and from the tracker, which is not the hooked
function. -/
structure Fresh (base hookAddr onCharUpdate : Word) : Prop where
  hook : ∀ i : Fin 14, ¬ Covers base trampolineSize (hookAddr + BitVec.ofNat 64 i)
  tracker : ¬ Covers base trampolineSize onCharUpdate
  other : onCharUpdate ≠ hookAddr

/-- **The game notices nothing.** The tracker is called with an aligned stack, and the copied bytes are reached
with everything as it was at the hook. -/
structure Invisible (code : ByteMemory.Memory 64) (tracker : Routine) (copied : Word) (originalBytes : List UInt8)
    (cpu : Cpu) : Prop where
  aligned : ∃ fuel entered, runTo code tracker tracker.entry fuel cpu = some entered
    ∧ (entered.rsp + 8).toNat % 16 = 0
  originals : Holds code copied originalBytes
  reached : ∃ fuel after, runTo code tracker copied fuel cpu = some after ∧ after.flags = cpu.flags
    ∧ after.regs = cpu.regs ∧ after.xmm = cpu.xmm
    ∧ ∀ place : Word, cpu.rsp.toNat ≤ place.toNat → after.memory place = cpu.memory place

/-- The flags of the game are those that the trampoline leaves, and the tracker has put the six registers back. -/
def Unnoticed (effect : X64.Effect) (cpu : Cpu) : Prop :=
  cpu.flags = addFlags (cpu.rsp - 0xA0) 0x28 effect.flags ∧ ∀ i : Fin 16, i.val < 6 → effect.xmm i = cpu.xmm i

/-! ### The emitted code -/

def savedRegs : List Reg :=
  [.rax, .rcx, .rdx, .rbx, .rbp, .rsi, .rdi, .r8, .r9, .r10, .r11, .r12, .r13, .r14, .r15]

/-- The bytes of a push or a pop. -/
def stackBytes (opcode : UInt8) : Reg → List UInt8
  | .rax => [opcode] | .rcx => [opcode + 1] | .rdx => [opcode + 2] | .rbx => [opcode + 3]
  | .rsp => [opcode + 4] | .rbp => [opcode + 5] | .rsi => [opcode + 6] | .rdi => [opcode + 7]
  | .r8 => [0x41, opcode] | .r9 => [0x41, opcode + 1] | .r10 => [0x41, opcode + 2] | .r11 => [0x41, opcode + 3]
  | .r12 => [0x41, opcode + 4] | .r13 => [0x41, opcode + 5] | .r14 => [0x41, opcode + 6]
  | .r15 => [0x41, opcode + 7]

/-- What is before the call. -/
def saving : List (Op × List UInt8) :=
  savedRegs.map (fun reg => (.push reg, stackBytes 0x50 reg))
    ++ [(.subRsp 0x28, subRsp), (.mov .rcx .rbx, movRcxRbx)]

/-- What is behind it. -/
def restoring : List (Op × List UInt8) :=
  (.addRsp 0x28, addRsp) :: savedRegs.reverse.map fun reg => (.pop reg, stackBytes 0x58 reg)

theorem saving_bytes : bytesOf saving = saveRegs ++ (subRsp ++ movRcxRbx) := by decide

theorem restoring_bytes : bytesOf restoring = addRsp ++ restoreRegs := by decide

theorem encodes_push (reg : Reg) : Encodes (.plain (.push reg)) (stackBytes 0x50 reg) := by
  cases reg <;> exact ⟨List.cons_ne_nil _ _, by decide, fun _ => rfl⟩

theorem encodes_pop (reg : Reg) : Encodes (.plain (.pop reg)) (stackBytes 0x58 reg) := by
  cases reg <;> exact ⟨List.cons_ne_nil _ _, by decide, fun _ => rfl⟩

theorem encodes_saving : ∀ piece ∈ saving, Encodes (.plain piece.1) piece.2 := by
  intro piece inside
  rcases List.mem_append.mp inside with pushed | last
  · obtain ⟨reg, -, rfl⟩ := List.mem_map.mp pushed
    exact encodes_push reg
  · rcases List.mem_pair.mp last with rfl | rfl
    · exact ⟨List.cons_ne_nil _ _, by decide, fun _ => rfl⟩
    · exact ⟨List.cons_ne_nil _ _, by decide, fun _ => rfl⟩

theorem encodes_restoring : ∀ piece ∈ restoring, Encodes (.plain piece.1) piece.2 := by
  intro piece inside
  rcases List.mem_cons.mp inside with rfl | popped
  · exact ⟨List.cons_ne_nil _ _, by decide, fun _ => rfl⟩
  · obtain ⟨reg, -, rfl⟩ := List.mem_map.mp popped
    exact encodes_pop reg

theorem encodes_call : Encodes (.callMem 2) callPtr := ⟨List.cons_ne_nil _ _, by decide, fun _ => rfl⟩

theorem encodes_past : Encodes (.jmpShort 8) jmpOverPtr := ⟨List.cons_ne_nil _ _, by decide, fun _ => rfl⟩

theorem encodes_jump : Encodes (.jmpMem 0) jmpPtr := ⟨List.cons_ne_nil _ _, by decide, fun _ => rfl⟩

/-! ### The installed code -/

section Code

variable {code : ByteMemory.Memory 64} {address other : Word} {bytes : List UInt8}

theorem holds_writeBytes (fits : bytes.length ≤ 2 ^ 64) : Holds (writeBytes code address bytes) address bytes :=
  occursAt_overwrite fits

theorem holds_writeBytes_apart {written : List UInt8} (held : Holds code address bytes)
    (apart : ∀ i < bytes.length, ¬ Covers other written.length (address + BitVec.ofNat 64 i)) :
    Holds (writeBytes code other written) address bytes :=
  occursAt_overwrite_apart held apart

end Code

/-- The jump and the trampoline are in place. -/
structure Installed (code : ByteMemory.Memory 64) (base hookAddr onCharUpdate : Word)
    (originalBytes : List UInt8) : Prop where
  hook : Holds code hookAddr (jmpPtr ++ pointer base)
  trampoline : Holds code base (trampoline onCharUpdate hookAddr originalBytes)

theorem pointer_length (address : Word) : (pointer address).length = 8 := leBytes_length _ _

theorem readBytes_length (code : ByteMemory.Memory 64) (address : Word) (count : ℕ) :
    (readBytes code address count).length = count := by
  rw [readBytes, List.length_map, List.length_range]

theorem trampoline_length {onCharUpdate hookAddr : Word} {originalBytes : List UInt8}
    (fourteen : originalBytes.length = 14) : (trampoline onCharUpdate hookAddr originalBytes).length = 101 := by
  simp only [trampoline, List.length_append, pointer_length, fourteen]
  rfl

theorem built_installed {env : HookEnv} {hookAddr base : Word} {state : HookState}
    (built : (buildInlineHook env hookAddr state).2 = true) (allocated : env.alloc = some base)
    (fresh : Fresh base hookAddr env.onCharUpdate) :
    Installed (buildInlineHook env hookAddr state).1.code base hookAddr env.onCharUpdate
      (readBytes state.code hookAddr 14) := by
  unfold buildInlineHook at built ⊢
  rw [allocated] at built ⊢
  dsimp only at built ⊢
  split_ifs at built ⊢ with readable protects
  have fourteen : (readBytes state.code hookAddr 14).length = 14 := readBytes_length _ _ _
  have jump : (jmpPtr ++ pointer base).length = 14 := by
    rw [List.length_append, pointer_length]
    rfl
  refine ⟨holds_writeBytes (by rw [jump]; norm_num), ?_⟩
  refine holds_writeBytes_apart (holds_writeBytes (by rw [trampoline_length fourteen]; norm_num)) fun i inside => ?_
  rw [trampoline_length fourteen] at inside
  rw [jump]
  -- a hooked byte in the trampoline
  intro covered
  refine fresh.hook ⟨_, covered⟩ ?_
  rw [add_sub_ofNat]
  exact covers_add (lt_trans inside (by decide)) (by decide) base

/-- The pieces of the trampoline. -/
structure Pieces (code : ByteMemory.Memory 64) (base hookAddr onCharUpdate : Word)
    (originalBytes : List UInt8) : Prop where
  saving : Holds code base (bytesOf saving)
  call : Holds code (base + BitVec.ofNat 64 30) callPtr
  past : Holds code (base + BitVec.ofNat 64 36) jmpOverPtr
  pointer : Holds code (base + BitVec.ofNat 64 38) (pointer onCharUpdate)
  restoring : Holds code (base + BitVec.ofNat 64 46) (bytesOf restoring)
  originals : Holds code (base + BitVec.ofNat 64 copyOffset) originalBytes
  back : Holds code (base + BitVec.ofNat 64 (copyOffset + originalBytes.length))
    (jmpPtr ++ CharTracker.pointer (hookAddr + 14))

theorem Installed.pieces {code : ByteMemory.Memory 64} {base hookAddr onCharUpdate : Word}
    {originalBytes : List UInt8} (installed : Installed code base hookAddr onCharUpdate originalBytes) :
    Pieces code base hookAddr onCharUpdate originalBytes := by
  have grouped : CharTracker.trampoline onCharUpdate hookAddr originalBytes = bytesOf saving ++ (callPtr
      ++ (jmpOverPtr ++ (pointer onCharUpdate ++ (bytesOf restoring ++ (originalBytes
        ++ (jmpPtr ++ pointer (hookAddr + 14))))))) := by
    simp only [saving_bytes, restoring_bytes, CharTracker.trampoline, List.append_assoc]
  have held := installed.trampoline
  have sizes : (bytesOf saving).length = 30 ∧ callPtr.length = 6 ∧ jmpOverPtr.length = 2
      ∧ (bytesOf restoring).length = 27 := by decide
  rw [grouped] at held
  simp only [holds_append, add_ofNat, sizes, pointer_length] at held
  obtain ⟨saves, call, past, ptr, restores, originals, jump, target⟩ := held
  exact ⟨saves, call, past, ptr, restores, originals, holds_append.mpr ⟨jump, by rw [add_ofNat]; exact target⟩⟩

/-! ### Up to the tracker -/

section Enter

variable {cpu : Cpu} {base : Word}

/-- The state behind the pushes. -/
def pushed (cpu : Cpu) : Cpu := execAll (savedRegs.map .push) cpu

/-- The state at the start of the tracker. -/
def entered (base onCharUpdate : Word) (cpu : Cpu) : Cpu :=
  ((execAll (saving.map Prod.fst) cpu).push (base + BitVec.ofNat 64 36)).goto onCharUpdate

theorem down_toNat {room : ℕ} (small : room < 2 ^ 64) (enough : room ≤ cpu.rsp.toNat) :
    (cpu.rsp - BitVec.ofNat 64 room).toNat = cpu.rsp.toNat - room := by
  have same : (BitVec.ofNat 64 room).toNat = room := by rw [BitVec.toNat_ofNat, Nat.mod_eq_of_lt small]
  rw [BitVec.toNat_sub_of_le (by rw [BitVec.le_def, same]; exact enough), same]

section Room

variable (onCharUpdate : Word) (room : 0xA8 ≤ cpu.rsp.toNat)

include room

theorem pushed_spec : Pushed savedRegs cpu (pushed cpu) :=
  pushes (by decide) (le_trans (by decide) room)

theorem pushed_rsp : (pushed cpu).rsp = cpu.rsp - 0x78 := by
  rw [Cpu.rsp, (pushed_spec room).regs, Function.update_self]
  rfl

/-- The stack pointer before the call. -/
theorem called_rsp : (execAll (saving.map Prod.fst) cpu).rsp = cpu.rsp - 0xA0 := by
  have lower : (execAll (saving.map Prod.fst) cpu).rsp = (pushed cpu).rsp - 0x28 := rfl
  rw [lower, pushed_rsp room, BitVec.sub_sub]
  rfl

theorem entered_rsp : (entered base onCharUpdate cpu).rsp = cpu.rsp - 0xA8 := by
  have lower : (entered base onCharUpdate cpu).rsp = (execAll (saving.map Prod.fst) cpu).rsp - 8 := rfl
  rw [lower, called_rsp room, BitVec.sub_sub]
  rfl

theorem entered_memory :
    (entered base onCharUpdate cpu).memory
      = setQword (pushed cpu).memory (cpu.rsp - 0xA8) (base + BitVec.ofNat 64 36) := by
  rw [← @entered_rsp cpu base onCharUpdate room]
  rfl

/-- The return address is below the registers. -/
theorem entered_outside {place : Word}
    (above : cpu.rsp.toNat ≤ place.toNat + 0xA0) :
    (entered base onCharUpdate cpu).memory place = (pushed cpu).memory place := by
  have bound := cpu.rsp.isLt
  have lower : (cpu.rsp - 0xA8).toNat = cpu.rsp.toNat - 0xA8 := down_toNat (by norm_num) room
  rw [entered_memory onCharUpdate room]
  refine write_outside ?_ _
  rw [covers_iff (by rw [lower]; omega), lower]
  omega

theorem entered_above {place : Word}
    (above : cpu.rsp.toNat ≤ place.toNat) : (entered base onCharUpdate cpu).memory place = cpu.memory place := by
  rw [entered_outside onCharUpdate room (by omega)]
  exact (pushed_spec room).above place above

theorem entered_saved : Saved (entered base onCharUpdate cpu).memory cpu.regs cpu.rsp savedRegs := by
  have count : 8 * savedRegs.length = 0x78 := by decide
  refine (pushed_spec room).saved.congr (by rw [count]; omega) fun place low _ => ?_
  rw [count] at low
  exact entered_outside onCharUpdate room (by omega)

theorem entered_returns :
    qword (entered base onCharUpdate cpu).memory (entered base onCharUpdate cpu).rsp
      = base + BitVec.ofNat 64 36 := by
  rw [entered_memory onCharUpdate room, entered_rsp onCharUpdate room, qword_setQword]

end Room

/-- **The way to the tracker.** -/
theorem enters {code : ByteMemory.Memory 64} {hookAddr stop : Word} {originalBytes : List UInt8}
    {tracker : Routine} (installed : Installed code base hookAddr tracker.entry originalBytes)
    (fresh : Fresh base hookAddr tracker.entry) (here : cpu.rip = hookAddr) (away : hookAddr ≠ stop)
    (later : ∀ i < 36, base + BitVec.ofNat 64 i ≠ stop) (fuel : ℕ) :
    runTo code tracker stop (19 + fuel) cpu = runTo code tracker stop fuel (entered base tracker.entry cpu) := by
  have pieces := installed.pieces
  have apart {i : ℕ} (small : i < trampolineSize) : base + BitVec.ofNat 64 i ≠ tracker.entry := fun same =>
    fresh.tracker (same ▸ covers_add small (by decide) base)
  obtain ⟨jump, target⟩ := holds_append.mp installed.hook
  have first : Instr.exec code (hookAddr + BitVec.ofNat 64 jmpPtr.length) cpu (.jmpMem 0) = cpu.goto base := by
    have zero : hookAddr + BitVec.ofNat 64 jmpPtr.length + (0 : BitVec 32).signExtend 64
        = hookAddr + BitVec.ofNat 64 jmpPtr.length := BitVec.add_zero _
    rw [exec_jmpMem, zero, qword_of_holds target]
  have size : (bytesOf saving).length = 30 := by decide
  have count : saving.length = 17 := by decide
  have saves := @runTo_block code tracker stop (cpu.goto base) saving encodes_saving pieces.saving
    (fun i small => by
      rw [size] at small
      exact ⟨later i (by omega), apart (lt_trans small (by decide))⟩) (fuel + 1)
  rw [execAll_goto, size, count] at saves
  -- the call goes through the pointer behind the jump
  have calls : Instr.exec code (base + BitVec.ofNat 64 30 + BitVec.ofNat 64 callPtr.length)
      (((execAll (saving.map Prod.fst) cpu).goto base).goto (base + BitVec.ofNat 64 30)) (.callMem 2)
        = entered base tracker.entry cpu := by
    have next : base + BitVec.ofNat 64 30 + BitVec.ofNat 64 callPtr.length = base + BitVec.ofNat 64 36 :=
      add_ofNat 30 6
    have behind : base + BitVec.ofNat 64 36 + (2 : BitVec 32).signExtend 64 = base + BitVec.ofNat 64 38 :=
      add_ofNat 36 2
    rw [exec_callMem, next, behind, qword_of_holds pieces.pointer, push_goto, push_goto, goto_goto, goto_goto,
      entered]
  calc runTo code tracker stop (19 + fuel) cpu = runTo code tracker stop (18 + fuel + 1) cpu := by
        rw [Nat.add_right_comm]
    _ = runTo code tracker stop (18 + fuel) (cpu.goto base) := by
        rw [runTo_instr encodes_jump (here ▸ jump) (here ▸ away) (here ▸ fresh.other.symm), here, first]
    _ = runTo code tracker stop (17 + (fuel + 1)) (cpu.goto base) := by
        congr 1
        omega
    _ = runTo code tracker stop (fuel + 1)
          (((execAll (saving.map Prod.fst) cpu).goto base).goto (base + BitVec.ofNat 64 30)) := saves
    _ = runTo code tracker stop fuel (entered base tracker.entry cpu) := by
        rw [← calls]
        exact @runTo_instr code tracker stop (((execAll (saving.map Prod.fst) cpu).goto base).goto
          (base + BitVec.ofNat 64 30)) _ _ encodes_call pieces.call (later 30 (by norm_num))
          (apart (by decide)) fuel

end Enter

/-! ### Back from the tracker -/

section Return

variable {cpu : Cpu} {base : Word}

/-- The state behind the tracker. -/
def left (base : Word) (tracker : Routine) (cpu : Cpu) : Cpu :=
  tracker.effect.apply (entered base tracker.entry cpu)

/-- The state at the copied bytes. -/
def restored (base : Word) (tracker : Routine) (cpu : Cpu) : Cpu :=
  execAll (restoring.map Prod.fst) (left base tracker cpu)

variable {tracker : Routine}

section Room

variable (room : 0xA8 ≤ cpu.rsp.toNat)

include room

theorem left_rsp : (left base tracker cpu).rsp = cpu.rsp - 0xA0 := by
  have raised : (left base tracker cpu).rsp = (entered base tracker.entry cpu).rsp + 8 := rfl
  have back : cpu.rsp - 0xA8 = cpu.rsp - 0xA0 - 8 := by
    rw [BitVec.sub_sub]
    rfl
  rw [raised, entered_rsp _ room, back, BitVec.sub_add_cancel]

/-- What is above the home space of the tracker. -/
theorem left_memory {place : Word} (above : cpu.rsp.toNat ≤ place.toNat + 0x80) :
    (left base tracker cpu).memory place = (entered base tracker.entry cpu).memory place := by
  have lower : (cpu.rsp - 0xA8).toNat = cpu.rsp.toNat - 0xA8 := down_toNat (by norm_num) room
  refine if_pos ?_
  rw [entered_rsp _ room, lower]
  omega

/-- The pops find the registers of the game. -/
theorem restored_eq : restored base tracker cpu
    = { (Op.addRsp 0x28).exec (left base tracker cpu) with regs := cpu.regs } := by
  have count : 8 * savedRegs.length = 0x78 := by decide
  have saved : Saved (left base tracker cpu).memory cpu.regs cpu.rsp savedRegs := by
    have before : Saved (entered base tracker.entry cpu).memory cpu.regs cpu.rsp savedRegs :=
      entered_saved tracker.entry room
    refine before.congr (by rw [count]; omega) fun place low _ => ?_
    rw [count] at low
    exact left_memory room (by omega)
  have raised : ((Op.addRsp 0x28).exec (left base tracker cpu)).rsp = (left base tracker cpu).rsp + 0x28 := rfl
  have back : cpu.rsp - 0xA0 = cpu.rsp - 0x78 - 0x28 := by
    rw [BitVec.sub_sub]
    rfl
  rw [left_rsp room, back, BitVec.sub_add_cancel] at raised
  have all : ∀ reg, reg ≠ .rsp → reg ∈ savedRegs := by
    intro reg
    cases reg <;> decide
  have list : restoring.map Prod.fst = .addRsp 0x28 :: savedRegs.reverse.map .pop := by decide
  have here : cpu.rsp - 0x78 = cpu.regs .rsp - BitVec.ofNat 64 (8 * savedRegs.length) := rfl
  rw [restored, list, execAll, List.foldl_cons]
  exact pops_all (by decide) all saved (raised.trans here)

theorem restored_flags :
    (restored base tracker cpu).flags = addFlags (cpu.rsp - 0xA0) 0x28 tracker.effect.flags := by
  rw [restored_eq room, ← @left_rsp cpu base tracker room]
  rfl

theorem restored_xmm (i : Fin 16) :
    (restored base tracker cpu).xmm i = if i.val < 6 then tracker.effect.xmm i else cpu.xmm i := by
  rw [restored_eq room]
  have kept : (entered base tracker.entry cpu).xmm i = cpu.xmm i := congrFun (pushed_spec room).xmm i
  show (if i.val < 6 then tracker.effect.xmm i else (entered base tracker.entry cpu).xmm i) = _
  rw [kept]

theorem restored_above {place : Word} (above : cpu.rsp.toNat ≤ place.toNat) :
    (restored base tracker cpu).memory place = cpu.memory place := by
  rw [restored_eq room, ← entered_above tracker.entry room above]
  exact left_memory room (by omega)

end Room

/-- **The way back.** -/
theorem returns {code : ByteMemory.Memory 64} {hookAddr stop : Word} {originalBytes : List UInt8}
    (installed : Installed code base hookAddr tracker.entry originalBytes)
    (fresh : Fresh base hookAddr tracker.entry) (away : tracker.entry ≠ stop) (room : 0xA8 ≤ cpu.rsp.toNat)
    (later : ∀ i < copyOffset, base + BitVec.ofNat 64 i ≠ stop) (fuel : ℕ) :
    runTo code tracker stop (18 + fuel) (entered base tracker.entry cpu)
      = runTo code tracker stop fuel ((restored base tracker cpu).goto (base + BitVec.ofNat 64 copyOffset)) := by
  have pieces := installed.pieces
  have apart {i : ℕ} (small : i < trampolineSize) : base + BitVec.ofNat 64 i ≠ tracker.entry := fun same =>
    fresh.tracker (same ▸ covers_add small (by decide) base)
  have rip : (left base tracker cpu).rip = base + BitVec.ofNat 64 36 := entered_returns tracker.entry room
  have past : Instr.exec code ((left base tracker cpu).rip + BitVec.ofNat 64 jmpOverPtr.length)
      (left base tracker cpu) (.jmpShort 8) = (left base tracker cpu).goto (base + BitVec.ofNat 64 46) := by
    have behind : base + BitVec.ofNat 64 36 + BitVec.ofNat 64 jmpOverPtr.length + (8 : BitVec 8).signExtend 64
        = base + BitVec.ofNat 64 46 := by
      rw [add_ofNat]
      exact add_ofNat 38 8
    rw [exec_jmpShort, rip, behind]
  have size : (bytesOf restoring).length = 27 := by decide
  have count : restoring.length = 16 := by decide
  have restores := @runTo_block code tracker stop ((left base tracker cpu).goto (base + BitVec.ofNat 64 46))
    restoring encodes_restoring pieces.restoring (fun i small => by
      rw [size] at small
      have there : ((left base tracker cpu).goto (base + BitVec.ofNat 64 46)).rip + BitVec.ofNat 64 i
          = base + BitVec.ofNat 64 (46 + i) := add_ofNat 46 i
      rw [there]
      exact ⟨later _ (by unfold copyOffset; omega), apart (by unfold trampolineSize; omega)⟩) fuel
  rw [execAll_goto, goto_goto, size, count] at restores
  calc runTo code tracker stop (18 + fuel) (entered base tracker.entry cpu)
      = runTo code tracker stop (17 + fuel + 1) (entered base tracker.entry cpu) := by rw [Nat.add_right_comm]
    _ = runTo code tracker stop (17 + fuel) (left base tracker cpu) := runTo_routine away rfl _
    _ = runTo code tracker stop (16 + fuel + 1) (left base tracker cpu) := by rw [Nat.add_right_comm]
    _ = runTo code tracker stop (16 + fuel) ((left base tracker cpu).goto (base + BitVec.ofNat 64 46)) := by
        rw [← past]
        exact runTo_instr encodes_past (rip ▸ pieces.past) (rip ▸ later 36 (by decide)) (rip ▸ apart (by decide)) _
    _ = runTo code tracker stop fuel ((restored base tracker cpu).goto (base + BitVec.ofNat 64 copyOffset)) := by
        refine restores.trans ?_
        have end_place : ((left base tracker cpu).goto (base + BitVec.ofNat 64 46)).rip + BitVec.ofNat 64 27
            = base + BitVec.ofNat 64 copyOffset := add_ofNat 46 27
        rw [end_place, restored]

end Return

/-! ### The whole way -/

section Whole

variable {code : ByteMemory.Memory 64} {base hookAddr : Word} {originalBytes : List UInt8} {tracker : Routine}
  {cpu : Cpu} (installed : Installed code base hookAddr tracker.entry originalBytes)
  (fresh : Fresh base hookAddr tracker.entry)
  (here : cpu.rip = hookAddr) (room : 0xA8 ≤ cpu.rsp.toNat)

include installed fresh here

/-- The tracker is reached. -/
theorem run_entered : runTo code tracker tracker.entry (19 + 0) cpu = some (entered base tracker.entry cpu) := by
  have apart : ∀ i < 36, base + BitVec.ofNat 64 i ≠ tracker.entry := fun i small same =>
    fresh.tracker (same ▸ covers_add (lt_trans small (by decide)) (by decide) base)
  rw [enters installed fresh here fresh.other.symm apart]
  exact runTo_stop 0 rfl

include room

/-- The copied bytes are reached. -/
theorem run_restored : runTo code tracker (base + BitVec.ofNat 64 copyOffset) (19 + (18 + 0)) cpu
    = some ((restored base tracker cpu).goto (base + BitVec.ofNat 64 copyOffset)) := by
  have inside : Covers base trampolineSize (base + BitVec.ofNat 64 copyOffset) :=
    covers_add (by decide) (by decide) base
  have hooked : hookAddr ≠ base + BitVec.ofNat 64 copyOffset := by
    intro same
    refine fresh.hook ⟨0, by decide⟩ ?_
    have zero : hookAddr + BitVec.ofNat 64 0 = hookAddr := BitVec.add_zero _
    rw [zero, same]
    exact inside
  have tracked : tracker.entry ≠ base + BitVec.ofNat 64 copyOffset := fun same => fresh.tracker (same ▸ inside)
  have later {i : ℕ} (small : i < copyOffset) : base + BitVec.ofNat 64 i ≠ base + BitVec.ofNat 64 copyOffset := by
    intro same
    have offsets : (base + BitVec.ofNat 64 i - base).toNat = (base + BitVec.ofNat 64 copyOffset - base).toNat := by
      rw [same]
    rw [sub_toNat (lt_trans small (by decide)), sub_toNat (by decide)] at offsets
    omega
  rw [enters installed fresh here hooked fun i small => later (lt_trans small (by decide)),
    returns installed fresh tracked room fun i small => later small]
  exact runTo_stop 0 rfl

theorem run_reached {fuel : ℕ} {after : Cpu}
    (ran : runTo code tracker (base + BitVec.ofNat 64 copyOffset) fuel cpu = some after) :
    after = (restored base tracker cpu).goto (base + BitVec.ofNat 64 copyOffset) :=
  runTo_unique ran (run_restored installed fresh here room)

/-- The flags and the six registers decide. -/
theorem invisible_iff (aligned : cpu.rsp.toNat % 16 = 0) :
    Invisible code tracker (base + BitVec.ofNat 64 copyOffset) originalBytes cpu
      ↔ Unnoticed tracker.effect cpu := by
  constructor
  · rintro ⟨-, -, fuel, after, ran, flags, -, xmm, -⟩
    rw [run_reached installed fresh here room ran] at flags xmm
    rw [goto_flags, restored_flags room] at flags
    rw [goto_xmm] at xmm
    refine ⟨flags.symm, fun i first => ?_⟩
    rw [← congrFun xmm i, restored_xmm room, if_pos first]
  · rintro ⟨flags, xmm⟩
    refine ⟨⟨_, _, run_entered installed fresh here, ?_⟩, installed.pieces.originals, _, _,
      run_restored installed fresh here room, ?_⟩
    · have lower : (cpu.rsp - 0xA0).toNat = cpu.rsp.toNat - 0xA0 :=
        down_toNat (by norm_num) (le_trans (by decide) room)
      have back : cpu.rsp - 0xA8 = cpu.rsp - 0xA0 - 8 := by
        rw [BitVec.sub_sub]
        rfl
      rw [entered_rsp _ room, back, BitVec.sub_add_cancel, lower]
      omega
    · rw [goto_flags, goto_regs, goto_xmm, goto_memory, restored_flags room]
      refine ⟨flags.symm, by rw [restored_eq room], funext fun i => ?_,
        fun place above => restored_above room above⟩
      rw [restored_xmm room]
      split_ifs with first
      · exact xmm i first
      · rfl

end Whole

/-- **The game notices nothing** exactly if its flags are those of the last sum of the trampoline and the
tracker has put the six registers back. -/
theorem animation_hook {env : HookEnv} {hookAddr base : Word} {state : HookState}
    (built : (buildInlineHook env hookAddr state).2 = true) (allocated : env.alloc = some base)
    (fresh : Fresh base hookAddr env.onCharUpdate) (effect : X64.Effect) {cpu : Cpu} (here : cpu.rip = hookAddr)
    (aligned : cpu.rsp.toNat % 16 = 0) (room : 0xA8 ≤ cpu.rsp.toNat) :
    Invisible (buildInlineHook env hookAddr state).1.code ⟨env.onCharUpdate, effect⟩
        (base + BitVec.ofNat 64 copyOffset) (readBytes state.code hookAddr 14) cpu
      ↔ Unnoticed effect cpu :=
  @invisible_iff _ base hookAddr _ ⟨env.onCharUpdate, effect⟩ cpu (built_installed built allocated fresh) fresh here
    room aligned

/-! ### A flag that is lost -/

/-- Everything is granted. -/
def granted : HookEnv where
  alloc := some 0x20000000000
  onCharUpdate := 0x7FF000010000

def unpatched : HookState where
  code _ := 0x90

/-- A tracker that leaves the xmm registers alone. -/
def quiet : X64.Effect where
  regs _ := 0
  xmm _ := 0
  flags := {}
  memory _ := 0

/-- The game is at the hook with a carry. -/
def carrying (carry : Bool) : Cpu where
  rip := 0x140650000
  regs _ := 0x10000
  xmm _ := 0
  flags := { carry := carry, parity := true }
  memory _ := 0

theorem granted_fresh : Fresh 0x20000000000 0x140650000 granted.onCharUpdate := by
  refine ⟨?_, ?_, ?_⟩ <;> decide

theorem animation_hook_carrying :
    Invisible (buildInlineHook granted 0x140650000 unpatched).1.code ⟨granted.onCharUpdate, quiet⟩
        (0x20000000000 + BitVec.ofNat 64 copyOffset) (readBytes unpatched.code 0x140650000 14) (carrying false) :=
  (animation_hook rfl rfl granted_fresh quiet rfl (by decide) (by decide)).mpr (by unfold Unnoticed; decide)

/-- A carry that the game has computed is gone behind the hook. -/
theorem animation_hook_fails : ¬ ∀ (env : HookEnv) (hookAddr base : Word) (state : HookState),
    (buildInlineHook env hookAddr state).2 = true → env.alloc = some base →
      Fresh base hookAddr env.onCharUpdate → ∀ (effect : X64.Effect) (cpu : Cpu), cpu.rip = hookAddr →
        cpu.rsp.toNat % 16 = 0 → 0xA8 ≤ cpu.rsp.toNat →
        Invisible (buildInlineHook env hookAddr state).1.code ⟨env.onCharUpdate, effect⟩
          (base + BitVec.ofNat 64 copyOffset) (readBytes state.code hookAddr 14) cpu := by
  intro always
  have installed := @built_installed granted 0x140650000 0x20000000000 unpatched rfl rfl granted_fresh
  have unnoticed := (@invisible_iff _ _ _ _ ⟨granted.onCharUpdate, quiet⟩ (carrying true) installed granted_fresh
    rfl (by decide) (by decide)).mp
    (always granted 0x140650000 0x20000000000 unpatched rfl rfl granted_fresh quiet (carrying true) rfl (by decide)
      (by decide))
  exact absurd unnoticed.1 (by decide)

end CharTracker

end KenshiMP
