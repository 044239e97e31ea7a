/-
**How much stack a hooked function may use before the hook notices.**

The hook runs below the gap that the naked detour leaves, the function that it calls through the wrapper
runs in the gap, on the stack of the game. `Keeps` is how far down a call stores anything; everything
but the stack and the slots of the page is its own business. `Transparent` is what a caller and a hook
may expect of one call of the function, however often the hook calls the wrapper and however the
function calls itself. `transparent_iff`: that is so exactly if no function uses more of the stack than
the gap has, less the space of 32 bytes above the return address of the hook, which is the hook's.
-/

import KenshiMP.Scanner.StubRuns

namespace KenshiMP

namespace MovRaxRspFix

open ByteMemory Wire

/-! ### What a call keeps to -/

/-- Stores go to some bytes below the stack pointer, to the home space, or to the given places. -/
def Place.Keeps (apart : Word → Prop) (room : Nat) : Place → Prop
  | below bytes => 0 < bytes ∧ bytes ≤ room
  | home byte => byte < 0x20
  | far address => apart address

/-- A caller leaves the home space, and puts the return address below it. -/
def Body.Keeps (apart : Word → Prop) : Nat → Body → Prop
  | _, ret .. => True
  | room, look choose => ∀ cpu, (choose cpu).Keeps apart room
  | room, store place _ next => place.Keeps apart room ∧ next.Keeps apart room
  | room, call below _ callee next => 0x20 ≤ below ∧ below + 8 ≤ room
    ∧ callee.Keeps apart (room - (below + 8)) ∧ next.Keeps apart room

/-- `limit` is for the functions that are called through the wrapper. -/
def HookBody.Keeps (page : Page) (apart : Word → Prop) (limit room : Nat) : HookBody → Prop
  | ret .. => True
  | look choose => ∀ cpu, (choose cpu).Keeps page apart limit room
  | store place _ next => place.Keeps apart room ∧ next.Keeps page apart limit room
  | callWrapper below site callee next => 0x20 ≤ below ∧ below + 8 ≤ room ∧ ¬ page.Contains site
    ∧ callee.Keeps apart limit ∧ next.Keeps page apart limit room
  | call below _ callee next => 0x20 ≤ below ∧ below + 8 ≤ room
    ∧ callee.Keeps apart (room - (below + 8)) ∧ next.Keeps page apart limit room

/-- The function has been entered as by its caller, and the frames of the hook, from where it has called
the wrapper up to its home space, are as they were. -/
structure Visit.Undisturbed (caller hooked : Word) (visit : Visit) : Prop where
  rsp : visit.entered.rsp = caller
  rax : visit.entered.rax = caller
  frames : ∀ place, visit.rsp.toNat ≤ place.toNat → place.toNat < hooked.toNat + 0x28 →
    visit.left.memory place = visit.entered.memory place

namespace Page

variable (page : Page)

/-- Off the stack of the call, which goes from the return address of the game down to the end of what
the hook uses, and not in the page, unless it is the bypass flag. -/
def Far (rsp : Word) (room : Nat) (place : Word) : Prop :=
  (page.Contains place → Covers (slot page.base OFF_BYPASS) 4 place)
    ∧ (place.toNat + (0x1010 + room) < rsp.toNat ∨ rsp.toNat + 8 ≤ place.toNat)

/-- The game calls the function, no call of it is under way, the hook is on, and there is enough stack
for the hook. -/
structure Called (room : Nat) (cpu : Cpu) : Prop where
  here : cpu.rip = slot page.base OFF_NAKED_STUB
  depth : cpu.dword (slot page.base OFF_DEPTH) = 0
  bypass : cpu.dword (slot page.base OFF_BYPASS) = 0
  raw : cpu.qword (slot page.base OFF_RAW_TRAMP) = page.trampoline
  detour : ¬ page.Contains page.cppDetour
  trampoline : ¬ page.Contains page.trampoline
  body : ¬ page.Contains (page.trampoline + 3)
  returns : ¬ page.Contains (cpu.qword cpu.rsp)
  low : 0x1010 + room ≤ cpu.rsp.toNat
  high : cpu.rsp.toNat + 0x28 ≤ 2 ^ 64
  aside : ∀ place, page.Contains place →
    place.toNat + (0x1010 + room) < cpu.rsp.toNat ∨ cpu.rsp.toNat + 0x28 ≤ place.toNat

/-- Control is back at the caller as after a plain return, with the result of the hook. -/
structure Transparent (hook : HookBody) (cpu : Cpu) (passage : Passage) : Prop where
  ran : page.runFunction hook cpu = some passage
  rip : passage.out.rip = cpu.qword cpu.rsp
  rsp : passage.out.rsp = cpu.rsp + 8
  rax : passage.out.rax = passage.unhooked.rax
  depth : passage.out.dword (slot page.base OFF_DEPTH) = cpu.dword (slot page.base OFF_DEPTH)
  visits : ∀ visit ∈ passage.visits, Visit.Undisturbed cpu.rsp passage.hooked.rsp visit

end Page

/-! ### Places -/

section Places

variable {page : Page} {rsp place : Word}

theorem below_toNat {bytes : Nat} (room : bytes ≤ rsp.toNat) :
    (rsp - BitVec.ofNat 64 bytes).toNat = rsp.toNat - bytes := by
  have bound := rsp.isLt
  have same : (BitVec.ofNat 64 bytes).toNat = bytes := by
    rw [BitVec.toNat_ofNat, Nat.mod_eq_of_lt (by omega)]
  rw [BitVec.toNat_sub_of_le (by rw [BitVec.le_def, same]; exact room), same]

theorem above_toNat {bytes : Nat} (room : rsp.toNat + bytes < 2 ^ 64) :
    (rsp + BitVec.ofNat 64 bytes).toNat = rsp.toNat + bytes := by
  rw [BitVec.toNat_add, BitVec.toNat_ofNat, Nat.mod_eq_of_lt (by omega : bytes < 2 ^ 64),
    Nat.mod_eq_of_lt room]

/-- The bytes at an offset of the page. -/
theorem covers_slot {offset count : Nat} (fits : offset + count ≤ 2 ^ 64) (some : 0 < count) :
    Covers (slot page.base offset) count place
      ↔ offset ≤ (place - page.base).toNat ∧ (place - page.base).toNat < offset + count := by
  have same : (BitVec.ofNat 64 offset).toNat = offset := by
    rw [BitVec.toNat_ofNat, Nat.mod_eq_of_lt (by omega)]
  have shifted : Covers (slot page.base offset) count place
      ↔ Covers (BitVec.ofNat 64 offset) count (place - page.base) := by
    unfold Covers slot
    rw [BitVec.sub_sub]
  rw [shifted, covers_iff (by rw [same]; exact fits), same]

/-- The slots of the page, as offsets. -/
theorem contains_iff : page.Contains place ↔ (place - page.base).toNat < ALLOC_SIZE := Iff.rfl

theorem slots_apart {one two count count' : Nat} (fits : one + count ≤ ALLOC_SIZE)
    (fits' : two + count' ≤ ALLOC_SIZE) (some : 0 < count) (some' : 0 < count')
    (apart : one + count ≤ two ∨ two + count' ≤ one) (place : Word)
    (inside : Covers (slot page.base one) count place) :
    ¬ Covers (slot page.base two) count' place := by
  have small : ALLOC_SIZE ≤ 2 ^ 64 := by decide
  rw [covers_slot (by omega) some] at inside
  rw [covers_slot (by omega) some']
  omega

end Places

/-! ### The data slots and the stack -/

section Slots

variable {page : Page} {cpu : Cpu}

theorem dword_setDword (address : Word) (value : BitVec 32) :
    (cpu.setDword address value).dword address = value := by
  have bound : value.toNat < 256 ^ 4 := lt_of_lt_of_eq value.isLt (by decide)
  show BitVec.ofNat 32 (read 4 (write 4 cpu.memory address value.toNat) address) = value
  rw [read_write (by decide), Nat.mod_eq_of_lt bound, BitVec.ofNat_toNat, BitVec.setWidth_eq]

theorem qword_setQword (address value : Word) : (cpu.setQword address value).qword address = value := by
  have bound : value.toNat < 256 ^ 8 := lt_of_lt_of_eq value.isLt (by decide)
  show BitVec.ofNat 64 (read 8 (write 8 cpu.memory address value.toNat) address) = value
  rw [read_write (by decide), Nat.mod_eq_of_lt bound, BitVec.ofNat_toNat, BitVec.setWidth_eq]

/-- Some bytes that a store does not reach. -/
theorem qword_setQword_apart {address other : Word} (value : Word)
    (apart : ∀ place, Covers address 8 place → ¬ Covers other 8 place) :
    (cpu.setQword other value).qword address = cpu.qword address := by
  show BitVec.ofNat 64 (read 8 (write 8 cpu.memory other value.toNat) address) = _
  rw [read_write_apart (by decide) apart]
  rfl

theorem dword_setR11 (value address : Word) : (cpu.setR11 value).dword address = cpu.dword address :=
  rfl

theorem dword_setRsp (value address : Word) : (cpu.setRsp value).dword address = cpu.dword address :=
  rfl

theorem dword_setQword_apart {address other : Word} (value : Word)
    (apart : ∀ place, Covers address 4 place → ¬ Covers other 8 place) :
    (cpu.setQword other value).dword address = cpu.dword address := by
  show BitVec.ofNat 32 (read 4 (write 8 cpu.memory other value.toNat) address) = _
  rw [read_write_apart (by decide) apart]
  rfl

theorem qword_setDword_apart {address other : Word} (value : BitVec 32)
    (apart : ∀ place, Covers address 8 place → ¬ Covers other 4 place) :
    (cpu.setDword other value).qword address = cpu.qword address := by
  show BitVec.ofNat 64 (read 8 (write 4 cpu.memory other value.toNat) address) = _
  rw [read_write_apart (by decide) apart]
  rfl

theorem qword_congr {other : Cpu} {address : Word}
    (same : ∀ place, Covers address 8 place → cpu.memory place = other.memory place) :
    cpu.qword address = other.qword address := by
  unfold Cpu.qword
  rw [read_congr_covers (by decide) same]

theorem dword_congr {other : Cpu} {address : Word}
    (same : ∀ place, Covers address 4 place → cpu.memory place = other.memory place) :
    cpu.dword address = other.dword address := by
  unfold Cpu.dword
  rw [read_congr_covers (by decide) same]

end Slots

/-! ### A call of the function -/

/-- What a call may change. -/
def Touches (apart : Word → Prop) (rsp : Word) (room : Nat) (place : Word) : Prop :=
  (rsp.toNat ≤ place.toNat + room ∧ place.toNat < rsp.toNat)
    ∨ (rsp.toNat + 8 ≤ place.toNat ∧ place.toNat < rsp.toNat + 0x28) ∨ apart place

/-- The stack of a call is there, the page is not on it, and neither are the places apart. -/
structure Settled (page : Page) (apart : Word → Prop) (rsp : Word) (room : Nat) : Prop where
  low : room ≤ rsp.toNat
  high : rsp.toNat + 0x28 ≤ 2 ^ 64
  aside : ∀ place, page.Contains place →
    place.toNat + room < rsp.toNat ∨ rsp.toNat + 0x28 ≤ place.toNat
  slots : ∀ place, apart place → page.Contains place → Covers (slot page.base OFF_BYPASS) 4 place
  far : ∀ place, apart place → place.toNat + room < rsp.toNat ∨ rsp.toNat + 8 ≤ place.toNat

/-- A call of the function is under way. -/
structure Nested (page : Page) (cpu : Cpu) : Prop where
  depth : cpu.dword (slot page.base OFF_DEPTH) = 1
  raw : cpu.qword (slot page.base OFF_RAW_TRAMP) = page.trampoline

section Calls

variable {page : Page} {apart : Word → Prop} {rsp : Word} {room : Nat} {cpu after : Cpu}

/-- The call has changed nothing else. -/
def Within (apart : Word → Prop) (rsp : Word) (room : Nat) (cpu after : Cpu) : Prop :=
  ∀ place, ¬ Touches apart rsp room place → after.memory place = cpu.memory place

theorem Within.trans {last : Cpu} (first : Within apart rsp room cpu after)
    (second : Within apart rsp room after last) : Within apart rsp room cpu last :=
  fun place outside => (second place outside).trans (first place outside)

section Settling

variable (settled : Settled page apart rsp room)

include settled

/-- The slots up to the bypass flag are not touched. -/
theorem Settled.untouched {place : Word}
    (early : (place - page.base).toNat < OFF_BYPASS) : ¬ Touches apart rsp room place := by
  have inside : page.Contains place := contains_iff.mpr (lt_trans early (by decide))
  rintro (⟨above, below⟩ | ⟨above, below⟩ | off)
  · rcases settled.aside place inside with low | high <;> omega
  · rcases settled.aside place inside with low | high <;> omega
  · have flag := settled.slots place off inside
    rw [covers_slot (by decide) (by decide)] at flag
    omega

/-- The return address is not touched. -/
theorem Settled.return_untouched {place : Word}
    (inside : Covers rsp 8 place) : ¬ Touches apart rsp room place := by
  have high := settled.high
  rw [covers_iff (by omega)] at inside
  rintro (⟨above, below⟩ | ⟨above, below⟩ | off)
  · omega
  · omega
  · rcases settled.far place off with low | high <;> omega

/-- The return address does not lie in the page. -/
theorem Settled.page_off_return {place : Word} (inside : page.Contains place) : ¬ Covers rsp 8 place := by
  have high := settled.high
  rw [covers_iff (by omega)]
  rcases settled.aside place inside with before | behind <;> omega

variable (within : Within apart rsp room cpu after)

include within

theorem Settled.qword {offset : Nat} (early : offset + 8 ≤ OFF_BYPASS) :
    after.qword (slot page.base offset) = cpu.qword (slot page.base offset) := by
  refine qword_congr fun place inside => within place (settled.untouched ?_)
  rw [covers_slot (le_trans early (by decide)) (by decide)] at inside
  omega

theorem Settled.dword {offset : Nat} (early : offset + 4 ≤ OFF_BYPASS) :
    after.dword (slot page.base offset) = cpu.dword (slot page.base offset) := by
  refine dword_congr fun place inside => within place (settled.untouched ?_)
  rw [covers_slot (le_trans early (by decide)) (by decide)] at inside
  omega

theorem Settled.returns : after.qword rsp = cpu.qword rsp :=
  qword_congr fun place inside => within place (settled.return_untouched inside)

theorem Settled.nested (nested : Nested page cpu) : Nested page after :=
  ⟨(settled.dword within (by decide)).trans nested.depth,
    (settled.qword within (by decide)).trans nested.raw⟩

end Settling

theorem setDword_back {address : Word} {value : BitVec 32} (was : cpu.dword address = value)
    (other : BitVec 32) :
    ((cpu.setDword address other).setDword address value).memory = cpu.memory := by
  show write 4 (write 4 cpu.memory address other.toNat) address value.toNat = cpu.memory
  have stored : value.toNat = read 4 cpu.memory address := by
    have bound := leValue_lt ((List.range 4).map fun i => cpu.memory (address + BitVec.ofNat 64 i))
    rw [List.length_map, List.length_range] at bound
    rw [← was]
    show (BitVec.ofNat 32 _).toNat = _
    rw [BitVec.toNat_ofNat]
    exact Nat.mod_eq_of_lt (lt_of_lt_of_eq bound (by decide))
  rw [write_write, stored, write_read]

/-- Only the instruction pointer and the flag are not compared. -/
theorem setRip_congr {one other : Cpu} (rax : one.rax = other.rax) (r11 : one.r11 = other.r11)
    (rsp : one.rsp = other.rsp) (memory : one.memory = other.memory) {target : Word} :
    one.setRip target = (other.setZero one.zero).setRip target := by
  unfold Cpu.setRip Cpu.setZero
  rw [rax, r11, rsp, memory]

/-- The depth is counted up and down again. -/
theorem run_deeper {fuel : Nat} (nested : Nested page cpu) :
    ∃ zero, page.run (fuel + 5) (page.goto cpu 0x49)
      = page.run fuel ((cpu.setZero zero).setRip page.trampoline) := by
  set counted := cpu.setDword (slot page.base OFF_DEPTH) 2 with definition
  have deeper : cpu.dword (slot page.base OFF_DEPTH) + 1 = 2 := by
    rw [nested.depth]
    rfl
  have two : counted.dword (slot page.base OFF_DEPTH) = 2 := dword_setDword _ _
  set back := (counted.setZero false).setDword (slot page.base OFF_DEPTH) 1
  have memory : back.memory = cpu.memory := setDword_back nested.depth 2
  have raw : back.qword (slot page.base OFF_RAW_TRAMP) = page.trampoline := by
    rw [← nested.raw]
    exact qword_congr fun place _ => congrFun memory place
  refine ⟨back.zero, ?_⟩
  have count := @Page.run_count page cpu (fuel + 2)
  simp only [deeper, ← definition, two] at count
  rw [count, if_neg (by decide), Page.run_reentrant]
  have less : (counted.setZero (decide ((2 : BitVec 32) = 1))).dword (slot page.base OFF_DEPTH) - 1 = 1 := by
    show counted.dword _ - 1 = 1
    rw [two]
    rfl
  rw [less]
  have once : decide ((2 : BitVec 32) = 1) = false := rfl
  have jump : (counted.setZero false).setDword (slot page.base OFF_DEPTH) 1 = back := rfl
  have rax : back.rax = cpu.rax := by simp [back, counted, Cpu.setDword]
  have r11 : back.r11 = cpu.r11 := by simp [back, counted, Cpu.setDword]
  have rsp : back.rsp = cpu.rsp := by simp [back, counted, Cpu.setDword]
  rw [once, jump, raw]
  clear_value back
  rw [setRip_congr rax r11 rsp memory]

/-- **A nested call goes straight to the raw trampoline**, and so does a call with the bypass flag. -/
theorem run_nested (nested : Nested page cpu) (outside : ¬ page.Contains page.trampoline) :
    ∃ zero, page.run Page.fuel (page.goto cpu OFF_NAKED_STUB)
      = some ((cpu.setZero zero).setRip page.trampoline) := by
  have guard := @Page.run_guard page cpu 14
  by_cases off : cpu.dword (slot page.base OFF_BYPASS) = 0
  · simp only [off, if_true] at guard
    obtain ⟨zero, deeper⟩ := @run_deeper page (cpu.setZero (decide ((0 : BitVec 32) = 0))) 9
      ⟨nested.depth, nested.raw⟩
    exact ⟨zero, guard.trans (deeper.trans (Page.run_outside outside))⟩
  · simp only [if_neg off] at guard
    refine ⟨decide (cpu.dword (slot page.base OFF_BYPASS) = 0), ?_⟩
    have bypassed :=
      @Page.run_bypass page (cpu.setZero (decide (cpu.dword (slot page.base OFF_BYPASS) = 0))) 13
    have raw (zero : Bool) :
        (cpu.setZero zero).qword (slot page.base OFF_RAW_TRAMP) = page.trampoline := nested.raw
    rw [raw] at bypassed
    exact guard.trans (bypassed.trans (Page.run_outside outside))

section Inner

variable (settled : Settled page apart rsp room)

include settled

/-- The stack pointer of a call that is made some bytes below. -/
theorem Settled.inner_toNat {below : Nat} (fits : below + 8 ≤ room) :
    (rsp - BitVec.ofNat 64 below - 8).toNat = rsp.toNat - (below + 8) := by
  have low := settled.low
  have first : (rsp - BitVec.ofNat 64 below).toNat = rsp.toNat - below := below_toNat (by omega)
  have second := @below_toNat (rsp - BitVec.ofNat 64 below) 8 (by omega)
  rw [first] at second
  exact second.trans (by omega)

/-- The call has the rest of the stack, and leaves the home space and the return address. -/
theorem Settled.inner {below : Nat} (home : 0x20 ≤ below) (fits : below + 8 ≤ room) :
    Settled page apart (rsp - BitVec.ofNat 64 below - 8) (room - (below + 8)) := by
  obtain ⟨low, high, aside, slots, far⟩ := settled
  have here := Settled.inner_toNat ⟨low, high, aside, slots, far⟩ fits
  refine ⟨by omega, by omega, fun place inside => ?_, slots, fun place off => ?_⟩
  · rcases aside place inside with before | behind <;> omega
  · rcases far place off with before | behind <;> omega

/-- What a call below touches, its caller may touch. -/
theorem Settled.inner_within {below : Nat} (home : 0x20 ≤ below) (fits : below + 8 ≤ room)
    (within : Within apart (rsp - BitVec.ofNat 64 below - 8) (room - (below + 8)) cpu after) :
    Within apart rsp room cpu after := by
  have here := settled.inner_toNat fits
  have low := settled.low
  refine fun place outside => within place fun touched => outside ?_
  rcases touched with ⟨above, under⟩ | ⟨above, under⟩ | off
  · exact Or.inl (by omega)
  · exact Or.inl (by omega)
  · exact Or.inr (Or.inr off)

/-- The return address of a call below is on the stack of its caller. -/
theorem Settled.called_within {below : Nat} (fits : below + 8 ≤ room) (site : Word) :
    Within apart rsp room cpu (cpu.setQword (rsp - BitVec.ofNat 64 below - 8) site) := by
  have here := settled.inner_toNat fits
  have low := settled.low
  have bound := rsp.isLt
  refine fun place outside => write_outside (fun inside => outside ?_) _
  rw [covers_iff (by omega)] at inside
  exact Or.inl (by omega)

end Inner

theorem Settled.stored_within (settled : Settled page apart cpu.rsp room) {place : Place}
    (keeps : place.Keeps apart room) (value : UInt8) :
    Within apart cpu.rsp room cpu (Page.storeByte cpu place value) := by
  have low := settled.low
  have high := settled.high
  refine fun other outside => Function.update_of_ne (fun same => outside ?_) _ _
  subst same
  cases place with
  | below bytes =>
    obtain ⟨some, fits⟩ := keeps
    have here : (Place.address cpu.rsp (.below bytes)).toNat = cpu.rsp.toNat - bytes :=
      below_toNat (by omega)
    exact Or.inl (by omega)
  | home byte =>
    have small : byte < 0x20 := keeps
    have eight : (cpu.rsp + 8).toNat = cpu.rsp.toNat + 8 := @above_toNat cpu.rsp 8 (by omega)
    have here : (Place.address cpu.rsp (.home byte)).toNat = cpu.rsp.toNat + 8 + byte := by
      rw [← eight]
      exact above_toNat (by omega)
    exact Or.inr (Or.inl (by omega))
  | far address => exact Or.inr (Or.inr keeps)

/-- Some bytes are given back after a call. -/
theorem giveBack_rsp {below : Nat} (back : after.rsp = rsp - BitVec.ofNat 64 below - 8 + 8) :
    (Page.giveBack after below).rsp = rsp := by
  show after.rsp + BitVec.ofNat 64 below = rsp
  rw [back, BitVec.sub_add_cancel, BitVec.sub_add_cancel]

/-- What a call does: it returns, with the stack pointer above the return address, and touches nothing
that it should not. -/
def Returns (page : Page) (apart : Word → Prop) (room : Nat) (body : Body) (cpu : Cpu) : Prop :=
  ∃ out, page.runBody body cpu = some out ∧ out.rip = cpu.qword cpu.rsp ∧ out.rsp = cpu.rsp + 8
    ∧ Within apart cpu.rsp room cpu out

/-- A nested call, by the function or by the hook. -/
theorem call_returns (outside : ¬ page.Contains page.trampoline)
    (settled : Settled page apart cpu.rsp room) (nested : Nested page cpu) {below : Nat}
    (home : 0x20 ≤ below) (fits : below + 8 ≤ room) (site : Word) {callee : Body}
    (returns : ∀ entered : Cpu, Settled page apart entered.rsp (room - (below + 8)) →
      Nested page entered → Returns page apart (room - (below + 8)) callee entered) :
    ∃ inside back,
      page.run Page.fuel (Page.callBelow cpu below (slot page.base OFF_NAKED_STUB) site) = some inside
        ∧ inside.rip = page.trampoline ∧ page.runBody callee (page.enterRaw inside) = some back
        ∧ back.rip = site ∧ (Page.giveBack back below).rsp = cpu.rsp
        ∧ Within apart cpu.rsp room cpu (Page.giveBack back below) := by
  set inner := cpu.rsp - BitVec.ofNat 64 below - 8 with definition
  have called : Within apart cpu.rsp room cpu (cpu.setQword inner site) :=
    settled.called_within fits site
  have nested' := settled.nested called nested
  -- the call comes to the naked detour, which passes it on
  obtain ⟨zero, passed⟩ := @run_nested page ((cpu.setQword inner site).setRsp inner)
    ⟨nested'.depth, nested'.raw⟩ outside
  set inside := (((cpu.setQword inner site).setRsp inner).setZero zero).setRip page.trampoline
  obtain ⟨back, ran, rip, rsp, within⟩ :=
    returns (page.enterRaw inside) (settled.inner home fits) ⟨nested'.depth, nested'.raw⟩
  have site' : (page.enterRaw inside).qword (page.enterRaw inside).rsp = site :=
    qword_setQword inner site
  exact ⟨inside, back, passed, rfl, ran, rip.trans site', giveBack_rsp rsp,
    called.trans (settled.inner_within home fits within)⟩

/-- **A call of the function returns to its caller**, however it calls itself, and touches nothing but
its stack, its home space and what is apart. -/
theorem runBody_returns (outside : ¬ page.Contains page.trampoline) (body : Body) {cpu : Cpu}
    {room : Nat} (keeps : body.Keeps apart room) (settled : Settled page apart cpu.rsp room)
    (nested : Nested page cpu) : Returns page apart room body cpu := by
  induction body generalizing cpu room with
  | ret rax r11 => exact ⟨_, rfl, rfl, rfl, fun _ _ => rfl⟩
  | look choose ih => exact ih cpu (keeps cpu) settled nested
  | store place value next ih =>
    have stored := settled.stored_within keeps.1 value
    obtain ⟨out, ran, rip, rsp, within⟩ := @ih (Page.storeByte cpu place value) room
      keeps.2 settled (settled.nested stored nested)
    exact ⟨out, ran, rip.trans (settled.returns stored), rsp, stored.trans within⟩
  | call below site callee next ihCallee ihNext =>
    obtain ⟨home, fits, keepsCallee, keepsNext⟩ := keeps
    obtain ⟨inside, back, passed, at', ran, rip, rsp, within⟩ := call_returns outside settled nested
      home fits site fun entered => ihCallee keepsCallee
    obtain ⟨out, ran', rip', rsp', within'⟩ := @ihNext (Page.giveBack back below) room
      keepsNext (by rw [rsp]; exact settled) (settled.nested within nested)
    rw [rsp] at rip' rsp' within'
    refine ⟨out, ?_, rip'.trans (settled.returns within), rsp', within.trans within'⟩
    rw [Page.runBody]
    simp only [passed, at', ran, rip, if_true, ran']

end Calls

/-! ### A call of the hook -/

/-- The stack of the function, and under the gap that of the hook. -/
structure Grounds (page : Page) (apart : Word → Prop) (caller hooked : Word) (limit room : Nat) : Prop where
  function : Settled page apart caller limit
  hook : Settled page apart hooked room
  gap : hooked.toNat + 0x1010 = caller.toNat
  limit : limit ≤ 0xFE8
  far : ∀ place, apart place →
    place.toNat + room < hooked.toNat ∨ caller.toNat + 8 ≤ place.toNat

/-- The slots while the hook runs. -/
structure Hooked (page : Page) (caller gameRet : Word) (cpu : Cpu) : Prop where
  captured : cpu.qword (slot page.base OFF_CAPTURED_RSP) = caller
  saved : cpu.qword (slot page.base OFF_SAVED_GAME_RET) = gameRet
  nested : Nested page cpu

/-- What neither the hook nor the wrapper changes: the slots but one, and the return address of the
hook. -/
def Sheltered (page : Page) (hooked place : Word) : Prop :=
  ((place - page.base).toNat < OFF_BYPASS ∧ ¬ Covers (slot page.base OFF_STUB_RSP) 8 place)
    ∨ Covers hooked 8 place

section Hooks

variable {page : Page} {apart : Word → Prop} {caller hooked gameRet : Word} {limit room : Nat}
  {cpu after : Cpu}

def Shelters (page : Page) (hooked : Word) (cpu after : Cpu) : Prop :=
  ∀ place, Sheltered page hooked place → after.memory place = cpu.memory place

theorem Shelters.trans {last : Cpu} (first : Shelters page hooked cpu after)
    (second : Shelters page hooked after last) : Shelters page hooked cpu last :=
  fun place inside => (second place inside).trans (first place inside)

theorem Shelters.returns (shelters : Shelters page hooked cpu after) :
    after.qword hooked = cpu.qword hooked :=
  qword_congr fun place inside => shelters place (Or.inr inside)

theorem Shelters.slots (shelters : Shelters page hooked cpu after)
    (state : Hooked page caller gameRet cpu) : Hooked page caller gameRet after := by
  have kept {offset count : Nat} (some : 0 < count) (early : offset + count ≤ OFF_BYPASS)
      (other : offset + count ≤ OFF_STUB_RSP ∨ OFF_STUB_RSP + 8 ≤ offset) (place : Word)
      (inside : Covers (slot page.base offset) count place) :
      after.memory place = cpu.memory place := by
    refine shelters place (Or.inl ⟨?_, ?_⟩)
    · rw [covers_slot (le_trans early (by decide)) some] at inside
      omega
    · exact slots_apart (le_trans early (by decide)) (by decide) some (by decide)
        (other.imp_right id) place inside
  refine ⟨?_, ?_, ?_, ?_⟩
  · exact (qword_congr (kept (by decide) (by decide) (by decide))).trans state.captured
  · exact (qword_congr (kept (by decide) (by decide) (by decide))).trans state.saved
  · exact (dword_congr (kept (by decide) (by decide) (by decide))).trans state.nested.depth
  · exact (qword_congr (kept (by decide) (by decide) (by decide))).trans state.nested.raw

variable (grounds : Grounds page apart caller hooked limit room)

include grounds

theorem Grounds.shelters_hook
    (within : Within apart hooked room cpu after) : Shelters page hooked cpu after := by
  rintro place (⟨early, -⟩ | inside)
  · exact within place (grounds.hook.untouched early)
  · exact within place (grounds.hook.return_untouched inside)

/-- The frames of the hook, with its home space, lie under what the function touches. -/
theorem Grounds.frames_untouched {place : Word}
    (above : hooked.toNat ≤ place.toNat + room) (below : place.toNat < hooked.toNat + 0x28) :
    ¬ Touches apart caller limit place := by
  have gap := grounds.gap
  have small := grounds.limit
  rintro (⟨low, high⟩ | ⟨low, high⟩ | off)
  · omega
  · omega
  · rcases grounds.far place off with before | behind <;> omega

theorem Grounds.shelters_function
    (within : Within apart caller limit cpu after) : Shelters page hooked cpu after := by
  have high := grounds.hook.high
  rintro place (⟨early, -⟩ | inside)
  · exact within place (grounds.function.untouched early)
  · rw [covers_iff (by omega)] at inside
    exact within place (grounds.frames_untouched (by omega) (by omega))

theorem Grounds.shelters_stub (value : Word) :
    Shelters page hooked cpu (cpu.setQword (slot page.base OFF_STUB_RSP) value) := by
  have high := grounds.hook.high
  rintro place (⟨-, outside⟩ | inside)
  · exact write_outside outside _
  · refine write_outside (fun stub => ?_) _
    rw [covers_slot (by decide) (by decide)] at stub
    rw [covers_iff (by omega)] at inside
    have page' : page.Contains place := contains_iff.mpr (lt_trans stub.2 (by decide))
    rcases grounds.hook.aside place page' with before | behind <;> omega

/-- The return address that the wrapper puts on the stack of the game. -/
theorem Grounds.shelters_patch (value : Word) : Shelters page hooked cpu (cpu.setQword caller value) := by
  have high := grounds.function.high
  have gap := grounds.gap
  rintro place (⟨early, -⟩ | inside) <;> refine write_outside (fun patched => ?_) _ <;>
    rw [covers_iff (by omega)] at patched
  · have page' : page.Contains place := contains_iff.mpr (lt_trans early (by decide))
    rcases grounds.function.aside place page' with before | behind <;> omega
  · rw [covers_iff (by omega)] at inside
    omega

/-- The bytes of a word on the stack of the hook. -/
theorem Grounds.covers_inner {below : Nat} (fits : below + 8 ≤ room) {place : Word}
    (inside : Covers (hooked - BitVec.ofNat 64 below - 8) 8 place) :
    hooked.toNat ≤ place.toNat + room ∧ place.toNat < hooked.toNat := by
  have here := grounds.hook.inner_toNat fits
  have low := grounds.hook.low
  have bound := hooked.isLt
  rw [covers_iff (by omega)] at inside
  omega

variable (outside : ¬ page.Contains page.trampoline) (outside' : ¬ page.Contains (page.trampoline + 3))

include outside outside'

/-- **A call of the wrapper**: the function is entered as by the game, returns to the wrapper, and the
hook goes on where it was. -/
theorem callWrapper_returns (same : cpu.rsp = hooked) (state : Hooked page caller gameRet cpu) {below : Nat}
    (fits : below + 8 ≤ room) {site : Word} (elsewhere : ¬ page.Contains site)
    {callee : Body} (keeps : callee.Keeps apart limit) :
    ∃ entered left back,
      page.run Page.fuel (Page.callBelow cpu below (slot page.base OFF_TRAMP_WRAP) site) = some entered
        ∧ entered.rip = page.trampoline + 3 ∧ page.runBody callee entered = some left
        ∧ page.run Page.fuel left = some back ∧ back.rip = site
        ∧ (Page.giveBack back below).rsp = hooked ∧ Shelters page hooked cpu (Page.giveBack back below)
        ∧ Visit.Undisturbed caller hooked
          ⟨(Page.callBelow cpu below (slot page.base OFF_TRAMP_WRAP) site).rsp, entered, left⟩ := by
  have gap := grounds.gap
  have low := grounds.hook.low
  set inner := hooked - BitVec.ofNat 64 below - 8 with definition
  have inner' : inner.toNat = hooked.toNat - (below + 8) := grounds.hook.inner_toNat fits
  set called := (cpu.setQword inner site).setRsp inner with call
  have start : Page.callBelow cpu below (slot page.base OFF_TRAMP_WRAP) site
      = page.goto called OFF_TRAMP_WRAP := by
    rw [call, definition, ← same]
    rfl
  have onCalled : Shelters page hooked cpu called :=
    grounds.shelters_hook (grounds.hook.called_within fits site)
  -- the wrapper goes over to the stack of the game
  set kept := called.setQword (slot page.base OFF_STUB_RSP) inner
  have onKept : Shelters page hooked cpu kept := onCalled.trans (grounds.shelters_stub inner)
  have captured : kept.qword (slot page.base OFF_CAPTURED_RSP) = caller :=
    (onKept.slots state).captured
  set patched := ((kept.setRsp caller).setR11 (slot page.base Page.returnPointOff)).setQword caller
    (slot page.base Page.returnPointOff)
  have onPatched : Shelters page hooked cpu patched :=
    onKept.trans (grounds.shelters_patch (slot page.base Page.returnPointOff))
  set entered := (patched.setRax caller).setRip (page.trampoline + 3)
  have wrapped : page.run Page.fuel (page.goto called OFF_TRAMP_WRAP) = some entered := by
    have steps := @Page.run_wrapper page called 10
    rw [show called.setQword (slot page.base OFF_STUB_RSP) called.rsp = kept from rfl] at steps
    simp only [captured] at steps
    exact steps.trans (Page.run_outside outside')
  -- the function
  have nested : Nested page entered :=
    ⟨(onPatched.slots state).nested.depth, (onPatched.slots state).nested.raw⟩
  obtain ⟨left, ran, rip, rsp, within⟩ :=
    @runBody_returns page apart outside callee entered limit keeps grounds.function nested
  have returnPoint : entered.qword entered.rsp = slot page.base Page.returnPointOff :=
    qword_setQword caller _
  have onLeft : Shelters page hooked cpu left :=
    onPatched.trans (grounds.shelters_function within)
  -- what the wrapper has kept lies where the function does not come
  have stub : left.qword (slot page.base OFF_STUB_RSP) = inner := by
    rw [grounds.function.qword within (by decide)]
    refine (qword_setQword_apart _ fun place inside => grounds.function.page_off_return ?_).trans
      (qword_setQword _ inner)
    rw [covers_slot (by decide) (by decide)] at inside
    exact contains_iff.mpr (lt_trans inside.2 (by decide))
  have site' : left.qword inner = site := by
    have onStack {place : Word} (inside : Covers inner 8 place) := grounds.covers_inner fits inside
    have unpatched : patched.qword inner = kept.qword inner := by
      refine qword_setQword_apart _ fun place inside patched' => ?_
      have high := grounds.function.high
      rw [covers_iff (by omega)] at patched'
      have below' := (onStack inside).2
      omega
    have unkept : kept.qword inner = called.qword inner := by
      refine qword_setQword_apart _ fun place inside stub' => ?_
      obtain ⟨above, below'⟩ := onStack inside
      rw [covers_slot (by decide) (by decide)] at stub'
      rcases grounds.hook.aside place (contains_iff.mpr (lt_trans stub'.2 (by decide)))
        with before | behind <;> omega
    calc left.qword inner
      _ = entered.qword inner := by
        refine qword_congr fun place inside => within place ?_
        obtain ⟨above, below'⟩ := onStack inside
        exact grounds.frames_untouched above (by omega)
      _ = kept.qword inner := unpatched
      _ = called.qword inner := unkept
      _ = site := qword_setQword inner site
  set back := (left.setRsp inner).ret
  have unwrapped : page.run Page.fuel left = some back := by
    have here : left = page.goto left Page.returnPointOff := by
      rw [Page.goto, ← returnPoint, ← rip]
      rfl
    rw [here]
    have steps := @Page.run_returnPoint page left 14
    rw [stub] at steps
    refine steps.trans (Page.run_outside ?_)
    show ¬ page.Contains (left.qword inner)
    rw [site']
    exact elsewhere
  refine ⟨entered, left, back, by rw [start, wrapped], rfl, ran, unwrapped, site', giveBack_rsp rfl,
    onLeft, rfl, rfl, fun place above under => within place ?_⟩
  refine grounds.frames_untouched ?_ under
  rw [start] at above
  have from' : inner.toNat ≤ place.toNat := above
  omega

/-- **A call of the hook returns to the naked detour**, and none of its frames has been changed by the
function, as often as it calls the wrapper. -/
theorem runHook_returns
    (hook : HookBody) {cpu : Cpu} (keeps : hook.Keeps page apart limit room) (same : cpu.rsp = hooked)
    (state : Hooked page caller gameRet cpu) :
    ∃ out visits, page.runHook hook cpu = some (out, visits) ∧ out.rip = cpu.qword hooked
      ∧ out.rsp = hooked + 8 ∧ Hooked page caller gameRet out
      ∧ ∀ visit ∈ visits, Visit.Undisturbed caller hooked visit := by
  induction hook generalizing cpu with
  | ret rax r11 =>
    refine ⟨_, [], rfl, ?_, ?_, ⟨state.captured, state.saved, state.nested.depth, state.nested.raw⟩,
      fun _ member => nomatch member⟩
    · rw [← same]
      rfl
    · rw [← same]
      rfl
  | look choose ih => exact ih cpu (keeps cpu) same state
  | store place value next ih =>
    have within : Within apart hooked room cpu (Page.storeByte cpu place value) := by
      subst same
      exact grounds.hook.stored_within keeps.1 value
    have shelters := grounds.shelters_hook within
    obtain ⟨out, visits, ran, rip, rest⟩ := @ih (Page.storeByte cpu place value) keeps.2 same
      (shelters.slots state)
    exact ⟨out, visits, ran, rip.trans shelters.returns, rest⟩
  | callWrapper below site callee next ih =>
    obtain ⟨-, fits, elsewhere, keepsCallee, keepsNext⟩ := keeps
    obtain ⟨entered, left, back, wrapped, rip, ran, unwrapped, rip', rsp, shelters, undisturbed⟩ :=
      callWrapper_returns grounds outside outside' same state fits elsewhere keepsCallee
    obtain ⟨out, visits, ran', rip'', rsp', slots, others⟩ :=
      @ih (Page.giveBack back below) keepsNext rsp (shelters.slots state)
    refine ⟨out, _ :: visits, ?_, rip''.trans shelters.returns, rsp', slots,
      List.forall_mem_cons.mpr ⟨undisturbed, others⟩⟩
    rw [Page.runHook]
    simp only [wrapped, rip, ran, unwrapped, rip', if_true, ran', Option.map_some]
  | call below site callee next ih =>
    obtain ⟨home, fits, keepsCallee, keepsNext⟩ := keeps
    subst same
    obtain ⟨inside, back, passed, at', ran, rip, rsp, within⟩ := call_returns outside grounds.hook
      state.nested home fits site fun entered => runBody_returns outside callee keepsCallee
    have shelters := grounds.shelters_hook within
    obtain ⟨out, visits, ran', rip', rest⟩ :=
      @ih (Page.giveBack back below) keepsNext rsp (shelters.slots state)
    refine ⟨out, visits, ?_, rip'.trans shelters.returns, rest⟩
    rw [Page.runHook]
    simp only [passed, at', ran, rip, if_true, ran']

end Hooks

/-! ### A call by the game -/

section Game

variable {page : Page} {limit room : Nat} {cpu : Cpu}

/-- Where the hook is called. -/
def hookRsp (caller : Word) : Word := caller - 0x1008 - 8

theorem Page.Called.hookRsp_toNat (called : page.Called room cpu) :
    (hookRsp cpu.rsp).toNat + 0x1010 = cpu.rsp.toNat := by
  have low := called.low
  have first : (cpu.rsp - 0x1008).toNat = cpu.rsp.toNat - 0x1008 :=
    @below_toNat cpu.rsp 0x1008 (by omega)
  have second : (hookRsp cpu.rsp).toNat = (cpu.rsp - 0x1008).toNat - 8 :=
    @below_toNat (cpu.rsp - 0x1008) 8 (by omega)
  omega

theorem Page.Called.grounds (called : page.Called room cpu) (small : limit ≤ 0xFE8) :
    Grounds page (page.Far cpu.rsp room) cpu.rsp (hookRsp cpu.rsp) limit room := by
  have gap := called.hookRsp_toNat
  have low := called.low
  have high := called.high
  refine ⟨⟨by omega, high, fun place inside => ?_, fun place far => far.1, fun place far => ?_⟩,
    ⟨by omega, by omega, fun place inside => ?_, fun place far => far.1, fun place far => ?_⟩,
    gap, small, fun place far => ?_⟩
  · rcases called.aside place inside with before | behind <;> omega
  · rcases far.2 with before | behind <;> omega
  · rcases called.aside place inside with before | behind <;> omega
  · rcases far.2 with before | behind <;> omega
  · rcases far.2 with before | behind <;> omega

/-- The depth is one. -/
def counted (page : Page) (cpu : Cpu) : Cpu :=
  ((cpu.setZero true).setDword (slot page.base OFF_DEPTH) 1).setZero true

theorem Page.Called.runs (called : page.Called room cpu) :
    page.run Page.fuel cpu = some (page.hookCall (counted page cpu)) := by
  have here : cpu = page.goto cpu OFF_NAKED_STUB := by
    rw [Page.goto, ← called.here]
    rfl
  have guard := @Page.run_guard page cpu 14
  simp only [called.bypass, if_true, decide_true] at guard
  have steps := @Page.run_count page (cpu.setZero true) 11
  have first : (cpu.setZero true).dword (slot page.base OFF_DEPTH) + 1 = 1 := by
    show cpu.dword _ + 1 = 1
    rw [called.depth]
    rfl
  simp only [first, dword_setDword, if_true, decide_true] at steps
  have call := @Page.run_normal page (counted page cpu) 5
  have out : page.run 5 (page.hookCall (counted page cpu)) = some _ := Page.run_outside called.detour
  exact (congrArg (page.run Page.fuel) here).trans (guard.trans (steps.trans (call.trans out)))

/-- What is stored until the hook is called. -/
theorem hookCall_memory : (page.hookCall cpu).memory
    = (((cpu.setQword (slot page.base OFF_CAPTURED_RSP) cpu.rsp).setQword
        (slot page.base OFF_SAVED_GAME_RET)
        ((cpu.setQword (slot page.base OFF_CAPTURED_RSP) cpu.rsp).qword cpu.rsp)).setQword
      (hookRsp cpu.rsp) (slot page.base 0x7E)).memory := rfl

/-- **The naked detour calls the hook** with the slots filled and a return address in the page. -/
theorem Page.Called.enters (called : page.Called room cpu) :
    let entered := page.hookCall (counted page cpu)
    entered.qword (hookRsp cpu.rsp) = slot page.base 0x7E
      ∧ Hooked page cpu.rsp (cpu.qword cpu.rsp) entered := by
  intro entered
  have grounds := called.grounds (Nat.zero_le 0xFE8)
  have inPage {offset count : Nat} (fits : offset + count ≤ ALLOC_SIZE) (some : 0 < count)
      {place : Word} (inside : Covers (slot page.base offset) count place) : page.Contains place := by
    rw [covers_slot (le_trans fits (by decide)) some] at inside
    exact contains_iff.mpr (by omega)
  set start := counted page cpu
  set captured := start.setQword (slot page.base OFF_CAPTURED_RSP) cpu.rsp
  have gameRet : captured.qword cpu.rsp = cpu.qword cpu.rsp := by
    calc captured.qword cpu.rsp
      _ = start.qword cpu.rsp := qword_setQword_apart _ fun place onStack inside =>
        grounds.function.page_off_return (inPage (by decide) (by decide) inside) onStack
      _ = cpu.qword cpu.rsp := qword_setDword_apart _ fun place onStack inside =>
        grounds.function.page_off_return (inPage (by decide) (by decide) inside) onStack
  set saved := captured.setQword (slot page.base OFF_SAVED_GAME_RET) (cpu.qword cpu.rsp) with save
  have memory : entered.memory = (saved.setQword (hookRsp cpu.rsp) (slot page.base 0x7E)).memory := by
    rw [save, ← gameRet]
    exact hookCall_memory
  have slots {offset : Nat} (fits : offset + 8 ≤ ALLOC_SIZE) :
      entered.qword (slot page.base offset) = saved.qword (slot page.base offset) := by
    refine (qword_congr fun place _ => congrFun memory place).trans (qword_setQword_apart _ ?_)
    exact fun place inside => grounds.hook.page_off_return (inPage fits (by decide) inside)
  refine ⟨?_, ⟨?_, ?_, ?_, ?_⟩⟩
  · exact (qword_congr fun place _ => congrFun memory place).trans (qword_setQword _ _)
  · refine (slots (by decide)).trans ((qword_setQword_apart _ ?_).trans (qword_setQword _ _))
    exact slots_apart (by decide) (by decide) (by decide) (by decide) (by decide)
  · exact (slots (by decide)).trans (qword_setQword _ _)
  · calc entered.dword (slot page.base OFF_DEPTH)
      _ = saved.dword (slot page.base OFF_DEPTH) := by
        refine (dword_congr fun place _ => congrFun memory place).trans (dword_setQword_apart _ ?_)
        exact fun place inside => grounds.hook.page_off_return (inPage (by decide) (by decide) inside)
      _ = captured.dword (slot page.base OFF_DEPTH) := dword_setQword_apart _
        (slots_apart (by decide) (by decide) (by decide) (by decide) (by decide))
      _ = start.dword (slot page.base OFF_DEPTH) := dword_setQword_apart _
        (slots_apart (by decide) (by decide) (by decide) (by decide) (by decide))
      _ = 1 := dword_setDword _ _
  · calc entered.qword (slot page.base OFF_RAW_TRAMP)
      _ = saved.qword (slot page.base OFF_RAW_TRAMP) := slots (by decide)
      _ = captured.qword (slot page.base OFF_RAW_TRAMP) := qword_setQword_apart _
        (slots_apart (by decide) (by decide) (by decide) (by decide) (by decide))
      _ = start.qword (slot page.base OFF_RAW_TRAMP) := qword_setQword_apart _
        (slots_apart (by decide) (by decide) (by decide) (by decide) (by decide))
      _ = cpu.qword (slot page.base OFF_RAW_TRAMP) := qword_setDword_apart _
        (slots_apart (by decide) (by decide) (by decide) (by decide) (by decide))
      _ = page.trampoline := called.raw

/-- The depth is counted down on the way out. -/
theorem countedDown {address other : Word} (apart : ∀ place, Covers address 8 place →
      ¬ Covers other 4 place) (rsp : cpu.rsp = address) :
    let out := (cpu.setDword other 0).ret
    out.rip = cpu.qword address ∧ out.rsp = address + 8 ∧ out.rax = cpu.rax ∧ out.dword other = 0 := by
  subst rsp
  exact ⟨qword_setDword_apart _ apart, rfl, rfl, dword_setDword _ _⟩

/-- **The hook has returned**: the naked detour puts the return address of the game back, counts the
depth down, and returns. -/
theorem Page.Called.leaves (called : page.Called room cpu) {unhooked : Cpu}
    (rip : unhooked.rip = slot page.base 0x7E) (rsp : unhooked.rsp = hookRsp cpu.rsp + 8)
    (state : Hooked page cpu.rsp (cpu.qword cpu.rsp) unhooked) :
    ∃ out, page.run Page.fuel unhooked = some out ∧ out.rip = cpu.qword cpu.rsp
      ∧ out.rsp = cpu.rsp + 8 ∧ out.rax = unhooked.rax
      ∧ out.dword (slot page.base OFF_DEPTH) = 0 := by
  have grounds := called.grounds (Nat.zero_le 0xFE8)
  have back : unhooked.rsp + 0x1008 = cpu.rsp := by
    rw [rsp, hookRsp, BitVec.sub_add_cancel, BitVec.sub_add_cancel]
  have here : unhooked = page.goto unhooked 0x7E := by
    rw [Page.goto, ← rip]
    rfl
  have offReturn (place : Word) (onStack : Covers cpu.rsp 8 place) :
      ¬ Covers (slot page.base OFF_DEPTH) 4 place := by
    intro inside
    rw [covers_slot (by decide) (by decide)] at inside
    exact grounds.function.page_off_return
      (contains_iff.mpr (lt_trans inside.2 (by decide))) onStack
  have memory : page.restored unhooked
      = ((unhooked.setRsp cpu.rsp).setR11 (cpu.qword cpu.rsp)).setQword cpu.rsp
        (cpu.qword cpu.rsp) := by
    unfold Page.restored
    rw [back, state.saved]
  have site : (page.restored unhooked).qword cpu.rsp = cpu.qword cpu.rsp := by
    rw [memory]
    exact qword_setQword _ _
  have one : (page.restored unhooked).dword (slot page.base OFF_DEPTH) - 1 = 0 := by
    rw [memory, dword_setQword_apart _ fun place inside onStack => offReturn place onStack inside,
      dword_setR11, dword_setRsp, state.nested.depth]
    rfl
  have top : (page.restored unhooked).rsp = cpu.rsp := by
    simp only [memory, Cpu.setQword, Cpu.setMemory_rsp, Cpu.setR11_rsp, Cpu.setRsp_rsp]
  have rax : (page.restored unhooked).rax = unhooked.rax := by
    simp only [memory, Cpu.setQword, Cpu.setMemory_rax, Cpu.setR11_rax, Cpu.setRsp_rax]
  obtain ⟨rip', rsp', rax', depth⟩ := countedDown offReturn top
  have steps := @Page.run_unhooked page unhooked 11
  rw [one] at steps
  refine ⟨_, (congrArg (page.run Page.fuel) here).trans (steps.trans (Page.run_outside ?_)),
    rip'.trans site, rsp', rax'.trans rax, depth⟩
  rw [rip', site]
  exact called.returns

/-- **With no more than the gap the stubs are transparent.** -/
theorem Page.Called.transparent (called : page.Called room cpu) (small : limit ≤ 0xFE8)
    {hook : HookBody} (keeps : hook.Keeps page (page.Far cpu.rsp room) limit room) :
    ∃ passage, page.Transparent hook cpu passage := by
  obtain ⟨site, state⟩ := called.enters
  obtain ⟨unhooked, visits, ran, rip, rsp, state', undisturbed⟩ :=
    runHook_returns (called.grounds small) called.trampoline called.body hook keeps rfl state
  obtain ⟨out, ran', rip', rsp', rax, depth⟩ := called.leaves (rip.trans site) rsp state'
  refine ⟨⟨page.hookCall (counted page cpu), unhooked, visits, out⟩, ?_, rip', rsp', rax,
    depth.trans called.depth.symm, undisturbed⟩
  unfold Page.runFunction
  rw [called.runs]
  show (if page.cppDetour = page.cppDetour then _ else _) = _
  rw [if_pos rfl, ran]
  show (page.run Page.fuel unhooked).map _ = _
  rw [ran']
  rfl

end Game

/-! ### A function that uses one byte more -/

section Overrun

def samplePage : Page := ⟨0x10000, 0x400000, 0x500000⟩

/-- The page is built, and the game is about to return to `0x600000`. -/
def sampleCpu : Cpu where
  rax := 0
  r11 := 0
  rsp := 0x900000
  rip := 0x10040
  zero := false
  memory := samplePage.emitSlots (write 8 (fun _ => 0) 0x900000 0x600000)

/-- The hook calls the original once, and that stores a byte. -/
def sampleHook : HookBody :=
  .callWrapper 0x28 0x400100 (.store (.below 0xFE9) 0xFF (.ret 0 0)) (.ret 7 0)

theorem sample_called : samplePage.Called 0x100 sampleCpu where
  here := by decide
  depth := by decide +kernel
  bypass := by decide +kernel
  raw := by decide +kernel
  detour := by decide
  trampoline := by decide
  body := by decide
  returns := by decide +kernel
  low := by decide
  high := by decide
  aside place inside := by
    have near := (covers_iff (by decide : samplePage.base.toNat + ALLOC_SIZE ≤ 2 ^ 64) place).mp inside
    have base : samplePage.base.toNat = 0x10000 := by decide
    have size : ALLOC_SIZE = 0x200 := rfl
    have top : sampleCpu.rsp.toNat = 0x900000 := by decide
    omega

theorem sample_keeps {apart : Word → Prop} {limit : Nat} (enough : 0xFE9 ≤ limit) :
    sampleHook.Keeps samplePage apart limit 0x100 :=
  ⟨by decide, by decide, by decide, ⟨⟨by decide, enough⟩, trivial⟩, trivial⟩

/-- The byte is the last one of the home space of the hook. -/
theorem sample_overrun :
    (samplePage.runFunction sampleHook sampleCpu).map (fun passage =>
      passage.visits.map fun visit => (visit.left.memory 0x8FF017, visit.entered.memory 0x8FF017,
        decide (visit.rsp.toNat ≤ 0x8FF017), decide (0x8FF017 < passage.hooked.rsp.toNat + 0x28)))
      = some [(0xFF, 0, true, true)] := by
  decide +kernel

theorem sample_opaque : ¬ ∃ passage, samplePage.Transparent sampleHook sampleCpu passage := by
  rintro ⟨passage, transparent⟩
  have overrun := sample_overrun
  rw [transparent.ran, Option.map_some, Option.some.injEq] at overrun
  obtain ⟨visit, rest, visits, found, -⟩ := List.map_eq_cons_iff.mp overrun
  simp only [Prod.mk.injEq, decide_eq_true_eq] at found
  obtain ⟨changed, before, above, below⟩ := found
  have same := (transparent.visits visit (visits ▸ List.mem_cons_self)).frames 0x8FF017 above below
  rw [changed, before] at same
  cases same

/-- **The stubs are not transparent for every function**: one that uses one byte more than the gap has
changes the home space of the hook. -/
theorem gap_overrun :
    samplePage.Called 0x100 sampleCpu
      ∧ sampleHook.Keeps samplePage (samplePage.Far sampleCpu.rsp 0x100) 0xFE9 0x100
      ∧ ¬ ∃ passage, samplePage.Transparent sampleHook sampleCpu passage :=
  ⟨sample_called, sample_keeps le_rfl, sample_opaque⟩

end Overrun

/-- **The stubs are transparent exactly for functions that keep to the gap**: whatever the stack pointer
is, whatever the hook does and however the function calls itself. -/
theorem transparent_iff (limit : Nat) :
    (∀ (page : Page) (cpu : Cpu) (room : Nat) (hook : HookBody), page.Called room cpu →
        hook.Keeps page (page.Far cpu.rsp room) limit room →
          ∃ passage, page.Transparent hook cpu passage)
      ↔ limit ≤ 0xFE8 := by
  constructor
  · intro always
    by_contra more
    exact sample_opaque
      (always samplePage sampleCpu 0x100 sampleHook sample_called (sample_keeps (by omega)))
  · intro small page cpu room hook called keeps
    exact called.transparent small keeps

end MovRaxRspFix

end KenshiMP
