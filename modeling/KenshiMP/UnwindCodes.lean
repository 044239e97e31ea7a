/-
**Unwind codes: when the walk over them ends, and what it makes of them.**

The index of the walk has eight bits and is compared with the number of slots. As long as every code
ends inside the array, the index never wraps around; a code that overruns the array is read beyond it,
and the index may then start again.

* `unwindStep_spec`: a code takes the slots from its index on, as many as its word tells;
* `parse_ends_iff`: the walk ends in time and stays inside exactly if the codes tile the array.
  `parse_loops`: an array whose last slot is the word of a code with a 32-bit operand;
* `parse_faithful_iff`: a structure is read as it was written exactly if its operands fit in 16 bits,
  and a handler for unwinding is one for exceptions, too. `parse_truncates`: a frame of 64 KB.
-/

import KenshiMP.Scanner.UnwindInfo

namespace KenshiMP

open Wire (Bytes)

namespace PDataEnumerator

/-! ### One code -/

/-- The slots that a code takes, by its word. -/
def slotCount (codeWord : UInt16) : Nat :=
  let code := splitWord codeWord
  if code.opCode = UnwindOpCode.ALLOC_LARGE then if code.opInfo = 0 then 2 else 3
  else if code.opCode = UnwindOpCode.SAVE_NONVOL_FAR ∨ code.opCode = UnwindOpCode.SAVE_XMM128_FAR then 3
  else if code.opCode = UnwindOpCode.SAVE_NONVOL ∨ code.opCode = UnwindOpCode.SAVE_XMM128 then 2
  else 1

theorem slotCount_bounds (codeWord : UInt16) : 1 ≤ slotCount codeWord ∧ slotCount codeWord ≤ 3 := by
  unfold slotCount
  dsimp only
  split_ifs
  all_goals omega

/-- **An iteration** reads the slots of one code, and goes on behind them. -/
theorem unwindStep_spec (codes : Nat → UInt16) (i : UInt8) :
    (unwindStep codes i).reads = (List.range (slotCount (codes i.toNat))).map (i.toNat + ·)
      ∧ (unwindStep codes i).next = i + UInt8.ofNat (slotCount (codes i.toNat)) := by
  unfold unwindStep slotCount
  dsimp only
  split_ifs
  all_goals exact ⟨rfl, rfl⟩

variable {codes : Nat → UInt16} {i : UInt8} {memory : Memory}

/-- Behind a code that ends inside the array, the index has not wrapped around. -/
theorem next_toNat {count : Nat} (small : count < 256)
    (inside : i.toNat + slotCount (codes i.toNat) ≤ count) :
    (unwindStep codes i).next.toNat = i.toNat + slotCount (codes i.toNat) := by
  have few := slotCount_bounds (codes i.toNat)
  have three : slotCount (codes i.toNat) < UInt8.size := by
    show _ < 256
    omega
  rw [(unwindStep_spec codes i).2, UInt8.toNat_add, UInt8.toNat_ofNat_of_lt' three,
    Nat.mod_eq_of_lt (by omega)]

/-! ### The walk -/

/-- From a slot on, the codes end where the array ends. -/
inductive Tiles (codes : Nat → UInt16) (count : Nat) : Nat → Prop
  | done : Tiles codes count count
  | code {i : Nat} (inside : i < count) (rest : Tiles codes count (i + slotCount (codes i))) :
    Tiles codes count i

theorem Tiles.le {count i : Nat} (tiles : Tiles codes count i) : i ≤ count := by
  cases tiles with
  | done => exact le_rfl
  | code inside rest => exact le_of_lt inside

theorem Tiles.rest {count i : Nat} (tiles : Tiles codes count i)
    (inside : i < count) : Tiles codes count (i + slotCount (codes i)) := by
  cases tiles with
  | done => exact absurd inside (lt_irrefl _)
  | code _ rest => exact rest

theorem parseCodes_succ (codes : Nat → UInt16) {codeCount i : UInt8} (inside : i < codeCount)
    (fuel : Nat) : parseCodes codes codeCount (fuel + 1) i
      = (parseCodes codes codeCount fuel (unwindStep codes i).next).map
          fun rest => unwindStep codes i :: rest := if_pos inside

/-- The loop ends, and reads no slot behind the array. -/
def Ends (codes : Nat → UInt16) (codeCount : UInt8) (fuel : Nat) (i : UInt8) : Prop :=
  ∃ steps, parseCodes codes codeCount fuel i = some steps
    ∧ ∀ step ∈ steps, ∀ k ∈ step.reads, k < codeCount.toNat

theorem ends_zero {codeCount i : UInt8} (behind : ¬ i < codeCount) (fuel : Nat) :
    Ends codes codeCount fuel i := by
  refine ⟨[], ?_, fun step member => absurd member List.not_mem_nil⟩
  cases fuel with
  | zero => exact if_neg behind
  | succ fuel => exact if_neg behind

theorem ends_succ {codeCount i : UInt8} (inside : i < codeCount) (fuel : Nat) :
    Ends codes codeCount (fuel + 1) i ↔ i.toNat + slotCount (codes i.toNat) ≤ codeCount.toNat
        ∧ Ends codes codeCount fuel (unwindStep codes i).next := by
  have few := slotCount_bounds (codes i.toNat)
  have reads := (unwindStep_spec codes i).1
  have stays : (∀ k ∈ (unwindStep codes i).reads, k < codeCount.toNat)
      ↔ i.toNat + slotCount (codes i.toNat) ≤ codeCount.toNat := by
    rw [reads]
    simp only [List.mem_map, List.mem_range, forall_exists_index, and_imp, forall_apply_eq_imp_iff₂]
    constructor
    · intro all
      have last := all (slotCount (codes i.toNat) - 1) (by omega)
      omega
    · intro whole k small
      omega
  unfold Ends
  rw [parseCodes_succ codes inside]
  constructor
  · rintro ⟨steps, ran, all⟩
    obtain ⟨rest, later, rfl⟩ := Option.map_eq_some_iff.mp ran
    obtain ⟨here, there⟩ := List.forall_mem_cons.mp all
    exact ⟨stays.mp here, rest, later, there⟩
  · rintro ⟨whole, rest, later, there⟩
    refine ⟨unwindStep codes i :: rest, ?_, List.forall_mem_cons.mpr ⟨stays.mpr whole, there⟩⟩
    rw [later, Option.map_some]

/-- With an iteration for each slot that is left, the walk ends inside exactly if the codes tile. -/
theorem ends_iff_tiles (codes : Nat → UInt16) (codeCount : UInt8) {fuel : Nat}
    (start : i.toNat ≤ codeCount.toNat) (enough : codeCount.toNat ≤ i.toNat + fuel) :
    Ends codes codeCount fuel i ↔ Tiles codes codeCount.toNat i.toNat := by
  have small := codeCount.toNat_lt
  have behind (i : UInt8) (last : i.toNat = codeCount.toNat) (fuel : Nat) :
      Ends codes codeCount fuel i ↔ Tiles codes codeCount.toNat i.toNat := by
    refine iff_of_true (ends_zero (fun before => ?_) fuel) (last ▸ .done)
    exact absurd (UInt8.lt_iff_toNat_lt.mp before) (by omega)
  induction fuel generalizing i with
  | zero => exact behind i (by omega) 0
  | succ fuel ih =>
    by_cases last : i.toNat = codeCount.toNat
    · exact behind i last (fuel + 1)
    · have inside : i < codeCount := UInt8.lt_iff_toNat_lt.mpr (by omega)
      have few := slotCount_bounds (codes i.toNat)
      rw [ends_succ inside]
      constructor
      · rintro ⟨whole, rest⟩
        have next := next_toNat small whole
        refine .code (by omega) ?_
        rw [← next]
        exact (ih (by omega) (by omega)).mp rest
      · intro tiles
        have rest := tiles.rest (by omega)
        have whole := rest.le
        have next := next_toNat small whole
        refine ⟨whole, (ih (by omega) (by omega)).mpr ?_⟩
        rw [next]
        exact rest

/-- **The walk over the codes of a structure** ends after 255 iterations at most and stays inside the
array exactly if the codes tile it. -/
theorem parse_ends_iff (memory : Memory) (data : Nat) :
    Ends (slotsAt memory data) (memory (data + 2)) 255 0
      ↔ Tiles (slotsAt memory data) (memory (data + 2)).toNat 0 := by
  have small := (memory (data + 2)).toNat_lt
  exact ends_iff_tiles _ _ (Nat.zero_le _) (by simp; omega)

/-! ### A walk without an end -/

/-- 254 slots of zeros, but for the last one: a word of an allocation with a 32-bit size. -/
def looping : Memory := fun address => if address = 2 then 254 else if address = 511 then 0x11 else 0

theorem slotsAt_looping {i : Nat} (inside : i ≤ 253) :
    slotsAt looping 0 i = if i = 253 then 0x1100 else 0 := by
  have low : looping (0 + 4 + 2 * i + 0) = 0 := by
    unfold looping
    rw [if_neg (by omega), if_neg (by omega)]
  have high : looping (0 + 4 + 2 * i + 1) = if i = 253 then 0x11 else 0 := by
    unfold looping
    rw [if_neg (by omega)]
    exact if_congr (by omega) rfl rfl
  unfold slotsAt Memory.readLE
  show UInt16.ofNat (Wire.leValue [looping (0 + 4 + 2 * i + 0), looping (0 + 4 + 2 * i + 1)]) = _
  rw [low, high]
  split_ifs
  · rfl
  · rfl

/-- From every index inside, the index stays inside. -/
theorem unwindStep_looping (inside : i.toNat ≤ 253) :
    (unwindStep (slotsAt looping 0) i).next.toNat ≤ 253 := by
  have word := slotsAt_looping inside
  rw [(unwindStep_spec _ i).2, word]
  split_ifs with last
  · have here : i = 253 := UInt8.toNat_inj.mp last
    subst here
    decide
  · have one : slotCount 0 = 1 := by decide
    rw [one, UInt8.toNat_add]
    have bound : (UInt8.ofNat 1).toNat = 1 := rfl
    omega

theorem parse_loops_from (fuel : Nat) (inside : i.toNat ≤ 253) :
    parseCodes (slotsAt looping 0) 254 fuel i = none := by
  have before : i < 254 := UInt8.lt_iff_toNat_lt.mpr (Nat.lt_succ_of_le inside)
  induction fuel generalizing i with
  | zero => exact if_pos before
  | succ fuel ih =>
    have stays := unwindStep_looping inside
    rw [parseCodes_succ _ before, ih stays (UInt8.lt_iff_toNat_lt.mpr (Nat.lt_succ_of_le stays)), Option.map_none]

/-- However often it runs, the loop has not ended. -/
theorem parse_loops : (∀ fuel, sehParseUnwindInfo looping fuel 0 = none)
    ∧ ¬ Ends (slotsAt looping 0) (looping (0 + 2)) 255 0 := by
  have stuck (fuel : Nat) : parseCodes (slotsAt looping 0) (looping (0 + 2)) fuel 0 = none :=
    parse_loops_from fuel (Nat.zero_le _)
  refine ⟨fun fuel => ?_, ?_⟩
  · unfold sehParseUnwindInfo
    dsimp only
    rw [stuck, Option.map_none]
  · rintro ⟨steps, ran, -⟩
    rw [stuck] at ran
    exact absurd ran.symm (Option.some_ne_none steps)

/-! ### Bytes in memory -/

/-- Some bytes stand at an address. -/
def Holds (memory : Memory) : (address : Nat) → Bytes → Prop
  | _, [] => True
  | address, byte :: rest => memory address = byte ∧ Holds memory (address + 1) rest

theorem holds_append {address : Nat} {one two : Bytes} :
    Holds memory address (one ++ two)
      ↔ Holds memory address one ∧ Holds memory (address + one.length) two := by
  induction one generalizing address with
  | nil => exact (true_and _).symm ▸ Iff.rfl
  | cons byte rest ih =>
    have next : address + (byte :: rest).length = address + 1 + rest.length := by
      rw [List.length_cons]
      omega
    rw [List.cons_append, Holds, Holds, ih, next, and_assoc]

theorem readLE_holds {address : Nat} {bytes : Bytes} (stand : Holds memory address bytes) :
    memory.readLE bytes.length address = Wire.leValue bytes := by
  have same : (List.range bytes.length).map (fun k => memory (address + k)) = bytes := by
    induction bytes generalizing address with
    | nil => rfl
    | cons byte rest ih =>
      rw [List.length_cons, List.range_succ_eq_map, List.map_cons, List.map_map, Nat.add_zero, stand.1]
      refine congrArg _ (Eq.trans (List.map_congr_left fun k _ => ?_) (ih stand.2))
      show memory (address + (k + 1)) = _
      rw [Nat.add_right_comm, Nat.add_assoc]
  unfold Memory.readLE
  rw [same]

theorem readLE_leBytes {address count value : Nat} (small : value < 256 ^ count)
    (stand : Holds memory address (Wire.leBytes count value)) : memory.readLE count address = value := by
  have read := readLE_holds stand
  rwa [Wire.leBytes_length, Wire.leValue_leBytes, Nat.mod_eq_of_lt small] at read

/-! ### Codes of the format -/

inductive Operand where
  | nothing
  | word (value : UInt16)
  | dword (value : UInt32)

namespace Operand

def value : Operand → Nat
  | nothing => 0
  | word value => value.toNat
  | dword value => value.toNat

/-- The low half of a double word comes first. -/
def slots : Operand → List UInt16
  | nothing => []
  | word value => [value]
  | dword value => [value.toUInt16, (value >>> 16).toUInt16]

/-- What is kept of it. -/
def kept : Operand → UInt16
  | nothing => 0
  | word value => value
  | dword value => value.toUInt16

theorem kept_iff (operand : Operand) : operand.kept.toNat = operand.value ↔ operand.value < 2 ^ 16 := by
  cases operand with
  | nothing => simp [kept, value]
  | word value => exact iff_of_true rfl value.toNat_lt
  | dword value =>
    show value.toUInt16.toNat = value.toNat ↔ value.toNat < 2 ^ 16
    rw [UInt32.toNat_toUInt16]
    omega

end Operand

/-- The operand that the format gives to a code. -/
inductive Takes : (opCode opInfo : UInt8) → Operand → Prop
  | pushNonvol (opInfo : UInt8) : Takes UnwindOpCode.PUSH_NONVOL opInfo .nothing
  | allocLarge (size : UInt16) : Takes UnwindOpCode.ALLOC_LARGE 0 (.word size)
  | allocHuge (size : UInt32) : Takes UnwindOpCode.ALLOC_LARGE 1 (.dword size)
  | allocSmall (opInfo : UInt8) : Takes UnwindOpCode.ALLOC_SMALL opInfo .nothing
  | setFpreg (opInfo : UInt8) : Takes UnwindOpCode.SET_FPREG opInfo .nothing
  | saveNonvol (opInfo : UInt8) (offset : UInt16) : Takes UnwindOpCode.SAVE_NONVOL opInfo (.word offset)
  | saveNonvolFar (opInfo : UInt8) (offset : UInt32) :
    Takes UnwindOpCode.SAVE_NONVOL_FAR opInfo (.dword offset)
  | saveXmm128 (opInfo : UInt8) (offset : UInt16) : Takes UnwindOpCode.SAVE_XMM128 opInfo (.word offset)
  | saveXmm128Far (opInfo : UInt8) (offset : UInt32) :
    Takes UnwindOpCode.SAVE_XMM128_FAR opInfo (.dword offset)
  | pushMachframe (opInfo : UInt8) : Takes UnwindOpCode.PUSH_MACHFRAME opInfo .nothing

theorem Takes.small {opCode opInfo : UInt8} {operand : Operand} (takes : Takes opCode opInfo operand) :
    opCode.toNat < 16 := by
  cases takes
  all_goals decide

structure FormatCode where
  codeOffset : UInt8
  opCode : UInt8
  opInfo : UInt8
  operand : Operand
  takes : Takes opCode opInfo operand
  infoFits : opInfo.toNat < 16

namespace FormatCode

variable (code : FormatCode)

def word : UInt16 :=
  UInt16.ofNat (code.codeOffset.toNat + 256 * code.opCode.toNat + 4096 * code.opInfo.toNat)

def slots : List UInt16 := code.word :: code.operand.slots

/-- What is read of it. -/
def read : UnwindCode := ⟨code.codeOffset, code.opCode, code.opInfo, code.operand.kept⟩

/-- **A word falls into the parts it was made of.** -/
theorem splitWord_word : splitWord code.word = ⟨code.codeOffset, code.opCode, code.opInfo, 0⟩ := by
  have offset := code.codeOffset.toNat_lt
  have op := code.takes.small
  have info := code.infoFits
  have whole : code.word.toNat = code.codeOffset.toNat + 256 * code.opCode.toNat + 4096 * code.opInfo.toNat :=
    UInt16.toNat_ofNat_of_lt' (show _ < 65536 by omega)
  have low : (code.word &&& 0xFF).toUInt8 = code.codeOffset := by
    refine UInt8.toNat_inj.mp ?_
    rw [UInt16.toNat_toUInt8, UInt16.toNat_and, whole]
    show ((_ &&& (2 ^ 8 - 1)) % 2 ^ 8 : Nat) = _
    rw [Nat.and_two_pow_sub_one_eq_mod]
    omega
  have middle : (code.word >>> 8 &&& 0x0F).toUInt8 = code.opCode := by
    refine UInt8.toNat_inj.mp ?_
    rw [UInt16.toNat_toUInt8, UInt16.toNat_and, UInt16.toNat_shiftRight, whole]
    show ((_ >>> 8 &&& (2 ^ 4 - 1)) % 2 ^ 8 : Nat) = _
    rw [Nat.and_two_pow_sub_one_eq_mod, Nat.shiftRight_eq_div_pow]
    omega
  have high : (code.word >>> 12 &&& 0x0F).toUInt8 = code.opInfo := by
    refine UInt8.toNat_inj.mp ?_
    rw [UInt16.toNat_toUInt8, UInt16.toNat_and, UInt16.toNat_shiftRight, whole]
    show ((_ >>> 12 &&& (2 ^ 4 - 1)) % 2 ^ 8 : Nat) = _
    rw [Nat.and_two_pow_sub_one_eq_mod, Nat.shiftRight_eq_div_pow]
    omega
  unfold splitWord
  rw [low, middle, high]

end FormatCode

/-- Of two slots, the second one is lost. -/
theorem joined_eq (low high : UInt16) : joined low high = low := by
  refine UInt16.toNat_inj.mp ?_
  unfold joined
  rw [UInt32.toNat_toUInt16, UInt32.toNat_or, UInt32.toNat_shiftLeft, UInt16.toNat_toUInt32,
    UInt16.toNat_toUInt32, Nat.or_mod_two_pow]
  have shifted : (high.toNat <<< (UInt32.toNat 16 % 32)) % 2 ^ 32 % 2 ^ 16 = 0 := by
    rw [Nat.shiftLeft_eq, Nat.mod_mod_of_dvd _ (by norm_num)]
    exact Nat.mul_mod_left _ _
  rw [shifted, Nat.or_zero]
  exact Nat.mod_eq_of_lt low.toNat_lt

/-- **An iteration over a code of the format** takes its slots and reads what is kept of it. -/
theorem unwindStep_format (code : FormatCode)
    (stand : ∀ k (inside : k < code.slots.length), codes (i.toNat + k) = code.slots[k]) :
    (unwindStep codes i).code = code.read ∧ slotCount (codes i.toNat) = code.slots.length := by
  have word : codes i.toNat = code.word := stand 0 (Nat.succ_pos _)
  have split := code.splitWord_word
  unfold unwindStep slotCount
  rw [word, split]
  obtain ⟨codeOffset, opCode, opInfo, operand, takes, infoFits⟩ := code
  have one (value : UInt16) (same : operand = .word value) : codes (i.toNat + 1) = value := by
    subst same
    exact stand 1 (Nat.lt_succ_self _)
  have two (value : UInt32) (same : operand = .dword value) : codes (i.toNat + 1) = value.toUInt16 := by
    subst same
    exact stand 1 (Nat.succ_lt_succ (Nat.succ_pos _))
  cases takes with
  | allocLarge size =>
    rw [one size rfl]
    exact ⟨rfl, rfl⟩
  | allocHuge size =>
    rw [two size rfl, joined_eq]
    exact ⟨rfl, rfl⟩
  | saveNonvol opInfo offset =>
    rw [one offset rfl]
    exact ⟨rfl, rfl⟩
  | saveNonvolFar opInfo offset =>
    rw [two offset rfl, joined_eq]
    exact ⟨rfl, rfl⟩
  | saveXmm128 opInfo offset =>
    rw [one offset rfl]
    exact ⟨rfl, rfl⟩
  | saveXmm128Far opInfo offset =>
    rw [two offset rfl, joined_eq]
    exact ⟨rfl, rfl⟩
  | pushNonvol opInfo => exact ⟨rfl, rfl⟩
  | allocSmall opInfo => exact ⟨rfl, rfl⟩
  | setFpreg opInfo => exact ⟨rfl, rfl⟩
  | pushMachframe opInfo => exact ⟨rfl, rfl⟩

/-! ### Structures of the format -/

/-- The bytes of some slots. -/
def slotBytes (slots : List UInt16) : Bytes := slots.flatMap fun slot => Wire.leBytes 2 slot.toNat

/-- The slots stand where the array is. -/
theorem slotsAt_holds {data i : Nat} {slots : List UInt16}
    (stand : Holds memory (data + 4 + 2 * i) (slotBytes slots)) {k : Nat} (inside : k < slots.length) :
    slotsAt memory data (i + k) = slots[k] := by
  induction slots generalizing i k with
  | nil => exact absurd inside (Nat.not_lt_zero k)
  | cons slot rest ih =>
    obtain ⟨here, there⟩ := holds_append.mp (stand : Holds memory _ (Wire.leBytes 2 slot.toNat ++ slotBytes rest))
    cases k with
    | zero =>
      have read : memory.readLE 2 (data + 4 + 2 * i) = slot.toNat :=
        readLE_leBytes slot.toNat_lt here
      show UInt16.ofNat (memory.readLE 2 (data + 4 + 2 * i)) = slot
      rw [read, UInt16.ofNat_toNat]
    | succ k =>
      rw [Wire.leBytes_length] at there
      have next : i + (k + 1) = i + 1 + k := by omega
      have behind : data + 4 + 2 * i + 2 = data + 4 + 2 * (i + 1) := by omega
      rw [next]
      rw [behind] at there
      exact ih there (Nat.lt_of_succ_lt_succ inside)

/-- **The walk over codes of the format** reads each of them. -/
theorem parseCodes_format {data : Nat} {count : UInt8} (codes : List FormatCode)
    (whole : i.toNat + (codes.flatMap FormatCode.slots).length = count.toNat)
    (stand : Holds memory (data + 4 + 2 * i.toNat) (slotBytes (codes.flatMap FormatCode.slots)))
    {fuel : Nat} (enough : codes.length ≤ fuel) :
    ∃ steps, parseCodes (slotsAt memory data) count fuel i = some steps
      ∧ steps.map UnwindStep.code = codes.map FormatCode.read := by
  induction codes generalizing i fuel with
  | nil =>
    have last : ¬ i < count := fun before => by
      have less := UInt8.lt_iff_toNat_lt.mp before
      rw [List.flatMap_nil, List.length_nil] at whole
      omega
    refine ⟨[], ?_, rfl⟩
    cases fuel with
    | zero => exact if_neg last
    | succ fuel => exact if_neg last
  | cons code rest ih =>
    obtain ⟨fuel, rfl⟩ : ∃ left, fuel = left + 1 := ⟨fuel - 1, by simp at enough; omega⟩
    have bytes : slotBytes ((code :: rest).flatMap FormatCode.slots)
        = slotBytes code.slots ++ slotBytes (rest.flatMap FormatCode.slots) := by
      rw [List.flatMap_cons]
      exact List.flatMap_append
    have length : (slotBytes code.slots).length = 2 * code.slots.length := by
      unfold slotBytes
      rw [List.length_flatMap]
      simp [Wire.leBytes_length, Nat.mul_comm]
    rw [List.flatMap_cons, List.length_append] at whole
    rw [bytes] at stand
    obtain ⟨here, there⟩ := holds_append.mp stand
    obtain ⟨read, taken⟩ := unwindStep_format code fun k inside => slotsAt_holds here inside
    have small := count.toNat_lt
    have some : 0 < code.slots.length := Nat.succ_pos _
    have next : (unwindStep (slotsAt memory data) i).next.toNat = i.toNat + code.slots.length := by
      rw [next_toNat small (by omega), taken]
    have behind : data + 4 + 2 * i.toNat + 2 * code.slots.length
        = data + 4 + 2 * (i.toNat + code.slots.length) := by omega
    rw [length, behind, ← next] at there
    obtain ⟨steps, ran, same⟩ := ih (by omega) there (Nat.le_of_succ_le_succ enough)
    refine ⟨unwindStep (slotsAt memory data) i :: steps, ?_, ?_⟩
    · rw [parseCodes_succ _ (UInt8.lt_iff_toNat_lt.mpr (by omega)), ran, Option.map_some]
    · rw [List.map_cons, List.map_cons, read, same]

def UNW_FLAG_EHANDLER : Nat := 0
def UNW_FLAG_UHANDLER : Nat := 1
def UNW_FLAG_CHAININFO : Nat := 2

/-- An `UNWIND_INFO` of the format; the flags are bits, and behind the array is a handler or the
structure that this one continues. -/
structure FormatInfo where
  version : Fin 8
  flags : Fin 32
  prologueSize : UInt8
  frameRegister : Fin 16
  frameOffset : Fin 16
  codes : List FormatCode
  trailer : UInt32
  few : (codes.flatMap FormatCode.slots).length ≤ 254

namespace FormatInfo

variable (unwind : FormatInfo)

def slots : List UInt16 := unwind.codes.flatMap FormatCode.slots

def flag (bit : Nat) : Bool := unwind.flags.val.testBit bit

/-- The first byte and the fourth one. -/
def headByte : UInt8 := UInt8.ofNat (unwind.version + 8 * unwind.flags)
def frameByte : UInt8 := UInt8.ofNat (unwind.frameRegister + 16 * unwind.frameOffset)

/-- The array is padded to an even number of slots. -/
def padding : Bytes := if unwind.slots.length % 2 = 1 then [0, 0] else []

def encode : Bytes :=
  [unwind.headByte, unwind.prologueSize, UInt8.ofNat unwind.slots.length, unwind.frameByte]
    ++ (slotBytes unwind.slots ++ (unwind.padding ++ Wire.leBytes 4 unwind.trailer.toNat))

theorem headByte_parts : unwind.headByte &&& 0x07 = UInt8.ofNat unwind.version
    ∧ unwind.headByte >>> 3 &&& 0x1F = UInt8.ofNat unwind.flags := by
  have all : ∀ (version : Fin 8) (flags : Fin 32),
      (UInt8.ofNat (version + 8 * flags) &&& 0x07 == UInt8.ofNat version
        && UInt8.ofNat (version + 8 * flags) >>> 3 &&& 0x1F == UInt8.ofNat flags) = true := by
    decide +kernel
  have here := all unwind.version unwind.flags
  simp only [Bool.and_eq_true, beq_iff_eq] at here
  exact here

theorem frameByte_parts : (unwind.frameByte &&& 0x0F).toNat = unwind.frameRegister
    ∧ (unwind.frameByte >>> 4 &&& 0x0F).toNat = unwind.frameOffset := by
  have all : ∀ register offset : Fin 16,
      ((UInt8.ofNat (register + 16 * offset) &&& 0x0F).toNat == register.val
        && (UInt8.ofNat (register + 16 * offset) >>> 4 &&& 0x0F).toNat == offset.val) = true := by
    decide +kernel
  have here := all unwind.frameRegister unwind.frameOffset
  simp only [Bool.and_eq_true, beq_iff_eq] at here
  exact here

theorem flag_iff (bit : Fin 3) :
    UInt8.ofNat unwind.flags &&& UInt8.ofNat (2 ^ bit.val) ≠ 0 ↔ unwind.flag bit = true := by
  have all : ∀ (flags : Fin 32) (bit : Fin 3),
      ((UInt8.ofNat flags &&& UInt8.ofNat (2 ^ bit.val) != 0) == flags.val.testBit bit) = true := by
    decide +kernel
  have here := all unwind.flags bit
  rw [beq_iff_eq] at here
  unfold flag
  rw [← here, bne_iff_ne]

/-- Where the array and its padding end. -/
theorem codeBytes_eq : codeBytes (UInt8.ofNat unwind.slots.length)
    = 4 + (slotBytes unwind.slots).length + unwind.padding.length := by
  have few : unwind.slots.length ≤ 254 := unwind.few
  have count : (UInt8.ofNat unwind.slots.length).toNat = unwind.slots.length :=
    UInt8.toNat_ofNat_of_lt' (show _ < 256 by omega)
  have length : (slotBytes unwind.slots).length = unwind.slots.length * 2 := by
    unfold slotBytes
    rw [List.length_flatMap]
    simp [Wire.leBytes_length]
  have odd : UInt8.ofNat unwind.slots.length &&& 1 ≠ 0 ↔ unwind.slots.length % 2 = 1 := by
    have low : (UInt8.ofNat unwind.slots.length &&& 1).toNat = unwind.slots.length % 2 := by
      rw [UInt8.toNat_and, count]
      exact Nat.and_one_is_mod _
    rw [← low]
    constructor
    · intro differs
      have one := Nat.mod_two_eq_zero_or_one unwind.slots.length
      rw [← low] at one
      exact one.resolve_left fun zero => differs (UInt8.toNat_inj.mp zero)
    · intro one zero
      rw [zero] at one
      exact absurd one (by decide)
  unfold codeBytes padding
  rw [count, length]
  by_cases even : unwind.slots.length % 2 = 1
  · rw [if_pos (odd.mpr even), if_pos even]
    rfl
  · rw [if_neg (mt odd.mp even), if_neg even]
    rfl

end FormatInfo

/-! ### Reading what was written -/

/-- The structure is given back, with its operands, and with what follows the array. -/
structure Faithful (info : UnwindInfo) (unwind : FormatInfo) : Prop where
  version : info.version.toNat = unwind.version
  flags : info.flags.toNat = unwind.flags
  prologueSize : info.prologueSize = unwind.prologueSize
  frameRegister : info.frameRegister.toNat = unwind.frameRegister
  frameOffset : info.frameOffset.toNat = unwind.frameOffset
  codes : List.Forall₂ (fun read written => read.codeOffset = written.codeOffset
    ∧ read.opCode = written.opCode ∧ read.opInfo = written.opInfo
    ∧ read.extraData.toNat = written.operand.value) info.codes unwind.codes
  handlerRVA : info.handlerRVA.toNat
    = if unwind.flag UNW_FLAG_EHANDLER || unwind.flag UNW_FLAG_UHANDLER then unwind.trailer.toNat else 0
  chainedRVA : info.chainedRVA.toNat
    = if unwind.flag UNW_FLAG_CHAININFO then unwind.trailer.toNat else 0

/-- The operands fit in 16 bits, and a handler for unwinding alone is none. -/
def Keeps (unwind : FormatInfo) : Prop :=
  (∀ code ∈ unwind.codes, code.operand.value < 2 ^ 16)
    ∧ (unwind.flag UNW_FLAG_UHANDLER = true → unwind.flag UNW_FLAG_EHANDLER = false →
      unwind.trailer = 0)

/-- What is read of a structure of the format. -/
def readInfo (unwind : FormatInfo) : UnwindInfo where
  version := UInt8.ofNat unwind.version
  flags := UInt8.ofNat unwind.flags
  prologueSize := unwind.prologueSize
  frameRegister := unwind.frameByte &&& 0x0F
  frameOffset := unwind.frameByte >>> 4 &&& 0x0F
  codes := unwind.codes.map FormatCode.read
  handlerRVA := if unwind.flag UNW_FLAG_EHANDLER then unwind.trailer.toUInt64 else 0
  chainedRVA := if unwind.flag UNW_FLAG_CHAININFO then unwind.trailer.toUInt64 else 0

theorem length_le_slots (codes : List FormatCode) : codes.length ≤ (codes.flatMap FormatCode.slots).length := by
  induction codes with
  | nil => exact le_rfl
  | cons code rest ih =>
    rw [List.flatMap_cons, List.length_append, List.length_cons, Nat.add_comm]
    exact Nat.add_le_add (Nat.succ_pos _) ih

/-- **What stands in memory is read.** -/
theorem sehParseUnwindInfo_format {data : Nat} {unwind : FormatInfo}
    (stands : Holds memory data unwind.encode) :
    sehParseUnwindInfo memory 255 data = some (readInfo unwind) := by
  have few : unwind.slots.length ≤ 254 := unwind.few
  have codesFew := length_le_slots unwind.codes
  obtain ⟨⟨head, prologue, counted, frame, -⟩, array⟩ := holds_append.mp stands
  obtain ⟨slots, behind⟩ := holds_append.mp array
  obtain ⟨-, last⟩ := holds_append.mp behind
  have count : (UInt8.ofNat unwind.slots.length).toNat = unwind.slots.length :=
    UInt8.toNat_ofNat_of_lt' (show _ < 256 by omega)
  have start : (0 : UInt8).toNat + (unwind.codes.flatMap FormatCode.slots).length
      = (UInt8.ofNat unwind.slots.length).toNat := (Nat.zero_add _).trans count.symm
  have enough : unwind.codes.length ≤ 255 := Nat.le_trans codesFew (Nat.le_succ_of_le unwind.few)
  obtain ⟨steps, walked, same⟩ := parseCodes_format unwind.codes start slots enough
  have trailer : memory.readLE 4 (data + codeBytes (UInt8.ofNat unwind.slots.length))
      = unwind.trailer.toNat := by
    rw [unwind.codeBytes_eq, ← Nat.add_assoc, ← Nat.add_assoc]
    exact readLE_leBytes unwind.trailer.toNat_lt last
  have whole : (unwind.codes.map FormatCode.read).take 256 = unwind.codes.map FormatCode.read := by
    refine List.take_of_length_le ?_
    rw [List.length_map]
    exact Nat.le_trans codesFew (Nat.le_trans unwind.few (by decide))
  have wide : UInt64.ofNat unwind.trailer.toNat = unwind.trailer.toUInt64 := by
    refine UInt64.toNat_inj.mp ?_
    rw [UInt32.toNat_toUInt64]
    exact UInt64.toNat_ofNat_of_lt' (Nat.lt_trans unwind.trailer.toNat_lt (by decide))
  have handled := unwind.flag_iff 0
  have chained := unwind.flag_iff 2
  obtain ⟨version, flags⟩ := unwind.headByte_parts
  unfold sehParseUnwindInfo readInfo
  dsimp only
  rw [head, prologue, counted, frame, version, flags, walked, Option.map_some, same, whole, trailer]
  congr 2
  · exact if_congr handled wide rfl
  · exact if_congr chained wide rfl

/-- **What is kept** of a structure is the whole of it exactly if its operands and its handler are. -/
theorem readInfo_faithful_iff (unwind : FormatInfo) : Faithful (readInfo unwind) unwind ↔ Keeps unwind := by
  have codes : List.Forall₂ (fun read written => read.codeOffset = written.codeOffset
      ∧ read.opCode = written.opCode ∧ read.opInfo = written.opInfo
      ∧ read.extraData.toNat = written.operand.value) (readInfo unwind).codes unwind.codes
      ↔ ∀ code ∈ unwind.codes, code.operand.value < 2 ^ 16 := by
    show List.Forall₂ _ (unwind.codes.map FormatCode.read) unwind.codes ↔ _
    rw [List.forall₂_map_left_iff, List.forall₂_same]
    refine forall₂_congr fun code _ => ?_
    rw [← code.operand.kept_iff]
    exact ⟨fun same => same.2.2.2, fun same => ⟨rfl, rfl, rfl, same⟩⟩
  have handler : (readInfo unwind).handlerRVA.toNat
        = (if unwind.flag UNW_FLAG_EHANDLER || unwind.flag UNW_FLAG_UHANDLER then unwind.trailer.toNat
            else 0)
      ↔ (unwind.flag UNW_FLAG_UHANDLER = true → unwind.flag UNW_FLAG_EHANDLER = false →
        unwind.trailer = 0) := by
    unfold readInfo
    dsimp only
    cases unwind.flag UNW_FLAG_EHANDLER with
    | true => exact iff_of_true (UInt32.toNat_toUInt64 _) fun _ no => absurd no.symm Bool.false_ne_true
    | false =>
      cases unwind.flag UNW_FLAG_UHANDLER with
      | false => exact iff_of_true rfl fun no => absurd no Bool.false_ne_true
      | true =>
        show 0 = unwind.trailer.toNat ↔ _
        rw [eq_comm, ← UInt32.toNat_inj]
        exact ⟨fun zero _ _ => zero, fun zero => zero rfl rfl⟩
  constructor
  · intro faithful
    exact ⟨codes.mp faithful.codes, handler.mp faithful.handlerRVA⟩
  · rintro ⟨operands, handled⟩
    refine ⟨?_, ?_, rfl, ?_, ?_, codes.mpr operands, handler.mpr handled, ?_⟩
    · exact UInt8.toNat_ofNat_of_lt' (Nat.lt_trans unwind.version.isLt (by decide))
    · exact UInt8.toNat_ofNat_of_lt' (Nat.lt_trans unwind.flags.isLt (by decide))
    · exact unwind.frameByte_parts.1
    · exact unwind.frameByte_parts.2
    · show (if unwind.flag UNW_FLAG_CHAININFO then unwind.trailer.toUInt64 else 0).toNat = _
      split_ifs
      · exact UInt32.toNat_toUInt64 _
      · rfl

/-- **A structure in memory** is given back exactly if its operands fit in 16 bits, and a handler for
unwinding alone is none. -/
theorem parse_faithful_iff (memory : Memory) (moduleBase : Uintptr) (unwindRVA : UInt32)
    (unwind : FormatInfo) (present : unwindRVA ≠ 0)
    (stands : Holds memory (unwindData moduleBase unwindRVA) unwind.encode) :
    (∃ info, parseUnwindInfo memory 255 moduleBase unwindRVA = some info ∧ Faithful info unwind)
      ↔ Keeps unwind := by
  have read : parseUnwindInfo memory 255 moduleBase unwindRVA = some (readInfo unwind) := by
    unfold parseUnwindInfo
    rw [if_neg present]
    exact sehParseUnwindInfo_format stands
  rw [read, ← readInfo_faithful_iff]
  constructor
  · rintro ⟨info, same, faithful⟩
    rwa [Option.some.inj same]
  · intro faithful
    exact ⟨_, rfl, faithful⟩

/-! ### A frame of 64 KB -/

/-- A memory with some bytes at an address. -/
def placed (start : Nat) (bytes : Bytes) : Memory := fun address => bytes.getD (address - start) 0

theorem placed_holds (start : Nat) (bytes : Bytes) : Holds (placed start bytes) start bytes := by
  have behind (first : Bytes) (rest : Bytes) (whole : bytes = first ++ rest) :
      Holds (placed start bytes) (start + first.length) rest := by
    induction rest generalizing first with
    | nil => trivial
    | cons byte rest ih =>
      have shifted := ih (first ++ [byte]) (by rw [whole, List.append_assoc, List.singleton_append])
      rw [List.length_append] at shifted
      refine ⟨?_, shifted⟩
      unfold placed
      rw [Nat.add_sub_cancel_left, whole]
      simp
  exact behind [] bytes rfl

/-- One allocation in the prologue, and no handler. -/
def allocating (size : UInt32) : FormatInfo where
  version := 1
  flags := 0
  prologueSize := 7
  frameRegister := 0
  frameOffset := 0
  codes := [⟨7, UnwindOpCode.ALLOC_LARGE, 1, .dword size, .allocHuge size, by decide⟩]
  trailer := 0
  few := Nat.le_of_ble_eq_true rfl

theorem parse_allocating : (16 : UInt32) ≠ 0
    ∧ Holds (placed (unwindData 0x1000 16) (allocating 256).encode) (unwindData 0x1000 16)
        (allocating 256).encode
    ∧ ((∃ info, parseUnwindInfo (placed (unwindData 0x1000 16) (allocating 256).encode) 255 0x1000 16
          = some info ∧ Faithful info (allocating 256)) ↔ Keeps (allocating 256)) := by
  have present : (16 : UInt32) ≠ 0 := by decide
  have stands := placed_holds (unwindData 0x1000 16) (allocating 256).encode
  exact ⟨present, stands, parse_faithful_iff _ 0x1000 16 (allocating 256) present stands⟩

/-- The size is read as zero. -/
theorem parse_truncates :
    Holds (placed (unwindData 0x1000 16) (allocating 0x10000).encode) (unwindData 0x1000 16)
        (allocating 0x10000).encode
      ∧ (parseUnwindInfo (placed (unwindData 0x1000 16) (allocating 0x10000).encode) 255 0x1000 16).map
          (fun info => info.codes.map UnwindCode.extraData) = some [0]
      ∧ ¬ ∃ info, parseUnwindInfo (placed (unwindData 0x1000 16) (allocating 0x10000).encode) 255 0x1000 16
          = some info ∧ Faithful info (allocating 0x10000) := by
  have stands := placed_holds (unwindData 0x1000 16) (allocating 0x10000).encode
  have read : parseUnwindInfo (placed (unwindData 0x1000 16) (allocating 0x10000).encode) 255 0x1000 16
      = some (readInfo (allocating 0x10000)) := sehParseUnwindInfo_format stands
  refine ⟨stands, ?_, ?_⟩
  · rw [read]
    rfl
  · rintro ⟨info, same, faithful⟩
    rw [read] at same
    rw [← Option.some.inj same] at faithful
    have operands := ((readInfo_faithful_iff _).mp faithful).1
    exact absurd (operands _ List.mem_cons_self) (by decide)

end PDataEnumerator

end KenshiMP
