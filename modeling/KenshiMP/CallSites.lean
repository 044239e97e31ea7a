/-
**Which calls of a function the sweep finds.**

The sweep of a function knows no instructions. Wherever it meets a byte that is the opcode of a direct
call or jump it leaves out the next four bytes, also where the byte belongs to an operand; and it has
room for so many edges.

* `opened`: the offsets that the sweep looks at, of a function with these bytes;
* `analyzeFunction_eq`: what is reported are the edges at these offsets, as long as there is room;
* `reports_iff`: every call into the code section is reported exactly if the sweep looks at each of
  them, with room for it. `reports_hidden`: an operand that ends in an opcode hides the call behind it.
-/

import KenshiMP.Scanner.CallGraph

namespace KenshiMP

open Wire (Bytes)

/-! ### The calls of a body -/

/-- A direct call or jump: where it stands, its opcode and its operand. -/
structure Branch where
  offset : Nat
  opcode : UInt8
  rel : Int32

/-- `CALL rel32` or `JMP rel32`. -/
def isBranch (opcode : UInt8) : Bool := opcode = 0xE8 || opcode = 0xE9

/-- The direct calls and jumps among some instructions, the first of which is at an offset. -/
def branchesFrom : Nat → List Bytes → List Branch
  | _, [] => []
  | offset, [opcode, b0, b1, b2, b3] :: rest =>
    if isBranch opcode then ⟨offset, opcode, int32 b0 b1 b2 b3⟩ :: branchesFrom (offset + 5) rest
    else branchesFrom (offset + 5) rest
  | offset, instruction :: rest => branchesFrom (offset + instruction.length) rest

/-- The bytes of the body are in memory at an address. -/
structure Loaded (image : Module) (funcAddr : Uintptr) (bytes : Bytes) : Prop where
  fits : bytes.length < 2 ^ 64
  byte : ∀ i b, bytes[i]? = some b → image.byte (funcAddr + UInt64.ofNat i) = some b

namespace Branch

variable (image : Module) (funcAddr : Uintptr) (branch : Branch)

def site : Uintptr := funcAddr + UInt64.ofNat branch.offset
def callee : Uintptr := Module.target (branch.site funcAddr) branch.rel

/-- It goes to the code section, and is no jump to the function itself. -/
def Counts : Prop :=
  image.isInText (branch.callee funcAddr) = true
    ∧ (branch.opcode = 0xE8 ∨ branch.callee funcAddr ≠ funcAddr)

/-- The edge with its site and its target. -/
def edge : CallEdge :=
  ⟨funcAddr, branch.callee funcAddr, branch.site funcAddr, true, branch.opcode = 0xE9⟩

end Branch

/-- Every call of the body is reported. -/
def Reports (image : Module) (funcAddr : Uintptr) (instructions : List Bytes) : Prop :=
  ∀ branch ∈ branchesFrom 0 instructions, branch.Counts image funcAddr →
    branch.edge funcAddr
      ∈ image.analyzeFunction funcAddr (UInt64.ofNat instructions.flatten.length)

/-! ### The offsets that the sweep looks at -/

/-- From an offset on: behind a byte that is an opcode, the next four are left out. -/
def openedFrom (bytes : Bytes) : (fuel i : Nat) → List Nat
  | 0, _ => []
  | fuel + 1, i =>
    if i + 5 ≤ bytes.length then
      i :: openedFrom bytes fuel (if (bytes[i]?).any isBranch then i + 5 else i + 1)
    else []

def opened (bytes : Bytes) : List Nat := openedFrom bytes bytes.length 0

/-- The edge at an offset, if there is one. -/
def edgeAt (image : Module) (funcAddr : Uintptr) (bytes : Bytes) (i : Nat) : Option CallEdge :=
  match bytes.drop i with
  | opcode :: b0 :: b1 :: b2 :: b3 :: _ =>
    if isBranch opcode then
      image.branch funcAddr (funcAddr + UInt64.ofNat i) opcode (int32 b0 b1 b2 b3)
    else none
  | _ => none

/-- The sweep looks at the call, and has room for it. -/
structure Seen (image : Module) (funcAddr : Uintptr) (bytes : Bytes) (branch : Branch) : Prop where
  placed : funcAddr ≠ 0
  opens : branch.offset ∈ opened bytes
  room : ((opened bytes).takeWhile (· < branch.offset)).countP
    (fun i => (edgeAt image funcAddr bytes i).isSome) < MAX_EDGES_PER_FUNC

variable {image : Module} {funcAddr : Uintptr} {bytes : Bytes}

theorem openedFrom_increasing (fuel i : ℕ) :
    (openedFrom bytes fuel i).Pairwise (· < ·) ∧ ∀ j ∈ openedFrom bytes fuel i, i ≤ j := by
  induction fuel generalizing i with
  | zero => exact ⟨.nil, fun j inside => absurd inside List.not_mem_nil⟩
  | succ fuel ih =>
    unfold openedFrom
    by_cases inside : i + 5 ≤ bytes.length
    · rw [if_pos inside]
      obtain ⟨increasing, above⟩ := ih (if (bytes[i]?).any isBranch then i + 5 else i + 1)
      have later (j : ℕ)
          (member : j ∈ openedFrom bytes fuel (if (bytes[i]?).any isBranch then i + 5 else i + 1)) :
          i < j := by
        have least := above j member
        split_ifs at least <;> omega
      refine ⟨List.pairwise_cons.mpr ⟨later, increasing⟩, fun j member => ?_⟩
      rcases List.mem_cons.mp member with rfl | member
      · exact Nat.le_refl j
      · exact (later j member).le
    · rw [if_neg inside]
      exact ⟨.nil, fun j inside => absurd inside List.not_mem_nil⟩

theorem openedFrom_fits {fuel i j : ℕ} (inside : j ∈ openedFrom bytes fuel i) : j + 5 ≤ bytes.length := by
  induction fuel generalizing i with
  | zero => exact absurd inside List.not_mem_nil
  | succ fuel ih =>
    unfold openedFrom at inside
    split_ifs at inside with fits
    · rcases List.mem_cons.mp inside with rfl | later
      · exact fits
      · exact ih later
    · rcases List.mem_cons.mp inside with rfl | later
      · exact fits
      · exact ih later
    · exact absurd inside List.not_mem_nil

/-- Five bytes that are there. -/
theorem drop_five {i : ℕ} (fits : i + 5 ≤ bytes.length) :
    ∃ opcode b0 b1 b2 b3 rest, bytes.drop i = opcode :: b0 :: b1 :: b2 :: b3 :: rest := by
  have length : 5 ≤ (bytes.drop i).length := by
    rw [List.length_drop]
    omega
  match bytes.drop i, length with
  | opcode :: b0 :: b1 :: b2 :: b3 :: rest, _ => exact ⟨opcode, b0, b1, b2, b3, rest, rfl⟩

theorem getElem?_of_drop {i : ℕ} {list rest : Bytes} (dropped : bytes.drop i = list ++ rest) {j : ℕ}
    (inside : j < list.length) : bytes[i + j]? = list[j]? := by
  rw [← List.getElem?_drop, dropped, List.getElem?_append_left inside]

section Loaded

variable (loaded : Loaded image funcAddr bytes)

include loaded

/-- The bytes of a loaded body, from an offset on. -/
theorem Loaded.byte_drop {i : ℕ} {list rest : Bytes}
    (dropped : bytes.drop i = list ++ rest) {j : ℕ} {b : UInt8} (here : list[j]? = some b) :
    image.byte (funcAddr + UInt64.ofNat (i + j)) = some b := by
  refine loaded.byte (i + j) b ?_
  obtain ⟨inside, -⟩ := List.getElem?_eq_some_iff.mp here
  rw [getElem?_of_drop dropped inside, here]

theorem Loaded.readInt32 {i : ℕ} {opcode b0 b1 b2 b3 : UInt8} {rest : Bytes}
    (dropped : bytes.drop i = [opcode, b0, b1, b2, b3] ++ rest) :
    image.readInt32 (funcAddr + UInt64.ofNat i + 1) = some (int32 b0 b1 b2 b3) := by
  have behind (j : ℕ) : funcAddr + UInt64.ofNat (i + j) = funcAddr + UInt64.ofNat i + UInt64.ofNat j := by
    rw [UInt64.ofNat_add, UInt64.add_assoc]
  have first := loaded.byte_drop dropped (j := 1) rfl
  have second := loaded.byte_drop dropped (j := 2) rfl
  have third := loaded.byte_drop dropped (j := 3) rfl
  have fourth := loaded.byte_drop dropped (j := 4) rfl
  rw [behind] at first second third fourth
  unfold Module.readInt32
  simp only [UInt64.add_assoc] at first second third fourth ⊢
  rw [show (1 : UInt64) = UInt64.ofNat 1 from rfl, first,
    show UInt64.ofNat 1 + UInt64.ofNat 1 = UInt64.ofNat 2 from rfl, second,
    show UInt64.ofNat 1 + 2 = UInt64.ofNat 3 from rfl, third,
    show UInt64.ofNat 1 + 3 = UInt64.ofNat 4 from rfl, fourth]
  rfl

/-- **The sweep reports the edges at the offsets it looks at.** -/
theorem sweep_eq (fuel i room : ℕ) :
    image.sweep funcAddr bytes.length fuel i room
      = ((openedFrom bytes fuel i).filterMap (edgeAt image funcAddr bytes)).take room := by
  induction fuel generalizing i room with
  | zero => simp [Module.sweep, openedFrom]
  | succ fuel ih =>
    unfold Module.sweep openedFrom
    by_cases fits : i + 5 ≤ bytes.length
    · cases room with
      | zero => simp
      | succ room =>
        obtain ⟨opcode, b0, b1, b2, b3, rest, dropped⟩ := drop_five fits
        have five : bytes.drop i = [opcode, b0, b1, b2, b3] ++ rest := dropped
        have first : image.byte (funcAddr + UInt64.ofNat i) = some opcode :=
          loaded.byte_drop five (j := 0) rfl
        have here : bytes[i]? = some opcode := getElem?_of_drop five (j := 0) (by simp)
        have operand : image.readInt32 (funcAddr + UInt64.ofNat i + 1) = some (int32 b0 b1 b2 b3) :=
          loaded.readInt32 dropped
        have edge : edgeAt image funcAddr bytes i = if isBranch opcode then
            image.branch funcAddr (funcAddr + UInt64.ofNat i) opcode (int32 b0 b1 b2 b3) else none := by
          unfold edgeAt
          rw [dropped]
        simp only [fits, decide_true, Bool.true_and, Nat.zero_lt_succ, if_true, first, here,
          Option.any_some, List.filterMap_cons, edge, operand]
        by_cases opens : isBranch opcode = true
        · have spelled : (decide (opcode = 0xE8) || decide (opcode = 0xE9)) = true := opens
          simp only [spelled, opens, if_true]
          cases image.branch funcAddr (funcAddr + UInt64.ofNat i) opcode (int32 b0 b1 b2 b3) with
          | none => exact ih _ _
          | some edge => simp [ih]
        · have spelled : ¬ (decide (opcode = 0xE8) || decide (opcode = 0xE9)) = true := opens
          simp only [spelled, opens]
          exact ih _ _
    · rw [if_neg (by simp [fits]), if_neg fits, List.filterMap_nil, List.take_nil]

end Loaded

/-! ### What is reported -/

/-- What is in the beginning of a filtered list of increasing numbers. -/
theorem mem_take_filterMap {β : Type} {f : ℕ → Option β} {list : List ℕ} {o : ℕ} {e : β}
    (increasing : list.Pairwise (· < ·)) (here : f o = some e)
    (only : ∀ j ∈ list, f j = some e → j = o) (room : ℕ) :
    e ∈ (list.filterMap f).take room
      ↔ o ∈ list ∧ (list.takeWhile (· < o)).countP (fun i => (f i).isSome) < room := by
  induction list generalizing room with
  | nil => simp
  | cons j rest ih =>
    obtain ⟨later, increasing⟩ := List.pairwise_cons.mp increasing
    have ih := ih increasing fun i inside => only i (List.mem_cons_of_mem j inside)
    rcases Nat.lt_trichotomy j o with before | rfl | behind
    · have other : o ≠ j := Nat.ne_of_gt before
      rw [List.takeWhile_cons_of_pos (by simpa using before), List.countP_cons, List.mem_cons,
        or_iff_right other]
      cases found : f j with
      | none => simpa [found] using ih room
      | some e' =>
        have apart : e ≠ e' := fun same =>
          other (only j List.mem_cons_self (same ▸ found)).symm
        cases room with
        | zero => simp
        | succ room => simpa [found, apart] using ih room
    · rw [List.takeWhile_cons_of_neg (by simp), List.filterMap_cons_some here]
      cases room with
      | zero => simp
      | succ room => simp
    · have absent : o ∉ j :: rest := by
        intro inside
        rcases List.mem_cons.mp inside with rfl | inside
        · exact Nat.lt_irrefl o behind
        · exact Nat.lt_asymm behind (later o inside)
      refine iff_of_false (fun inside => ?_) fun both => absent both.1
      obtain ⟨i, member, found⟩ := List.mem_filterMap.mp (List.mem_of_mem_take inside)
      exact absent (only i member found ▸ member)

theorem edgeAt_site {i : ℕ} {edge : CallEdge} (found : edgeAt image funcAddr bytes i = some edge) :
    edge.callSite = funcAddr + UInt64.ofNat i := by
  unfold edgeAt Module.branch at found
  split at found
  · simp only at found
    split_ifs at found
    cases found
    rfl
  · cases found

/-- Different offsets of a body are different addresses. -/
theorem offset_injective (funcAddr : Uintptr) {i j : ℕ} (first : i < 2 ^ 64) (second : j < 2 ^ 64)
    (same : funcAddr + UInt64.ofNat i = funcAddr + UInt64.ofNat j) : i = j := by
  have offsets := congrArg UInt64.toNat ((UInt64.add_right_inj funcAddr).mp same)
  rwa [UInt64.toNat_ofNat_of_lt' first, UInt64.toNat_ofNat_of_lt' second] at offsets

/-- The bytes of a call of a body. -/
theorem branchesFrom_bytes {instructions : List Bytes} {offset : ℕ}
    (here : bytes.drop offset = instructions.flatten) {branch : Branch}
    (inside : branch ∈ branchesFrom offset instructions) :
    ∃ b0 b1 b2 b3 rest, bytes.drop branch.offset = [branch.opcode, b0, b1, b2, b3] ++ rest
      ∧ isBranch branch.opcode = true ∧ branch.rel = int32 b0 b1 b2 b3 := by
  induction instructions generalizing offset with
  | nil => exact absurd inside List.not_mem_nil
  | cons instruction rest ih =>
    have next : bytes.drop (offset + instruction.length) = rest.flatten := by
      rw [← List.drop_drop, here, List.flatten_cons, List.drop_left]
    unfold branchesFrom at inside
    split at inside
    · cases inside
    · rename_i opcode b0 b1 b2 b3 rest' same
      cases same
      split_ifs at inside with opens
      · rcases List.mem_cons.mp inside with rfl | later
        · exact ⟨b0, b1, b2, b3, rest.flatten, here, opens, rfl⟩
        · exact ih next later
      · exact ih next inside
    · rename_i same
      cases same
      exact ih next inside

/-- The edge of a call that counts. -/
theorem edgeAt_branch {instructions : List Bytes} {branch : Branch}
    (inside : branch ∈ branchesFrom 0 instructions) (counts : branch.Counts image funcAddr) :
    edgeAt image funcAddr instructions.flatten branch.offset = some (branch.edge funcAddr) := by
  obtain ⟨b0, b1, b2, b3, rest, dropped, opens, rel⟩ := branchesFrom_bytes List.drop_zero inside
  obtain ⟨inText, goes⟩ := counts
  unfold edgeAt
  rw [dropped]
  simp only [List.cons_append, List.nil_append]
  rw [if_pos opens, ← rel]
  unfold Module.branch
  have both : (image.isInText (branch.callee funcAddr)
      && (decide (branch.opcode = 0xE8) || decide (branch.callee funcAddr ≠ funcAddr))) = true := by
    rw [inText, Bool.true_and, Bool.or_eq_true, decide_eq_true_eq, decide_eq_true_eq]
    exact goes
  exact if_pos both

/-- **A call is reported exactly if the sweep looks at it and has room.** -/
theorem reported_iff {instructions : List Bytes} {branch : Branch}
    (loaded : Loaded image funcAddr instructions.flatten)
    (inside : branch ∈ branchesFrom 0 instructions) (counts : branch.Counts image funcAddr) :
    branch.edge funcAddr ∈ image.analyzeFunction funcAddr (UInt64.ofNat instructions.flatten.length)
      ↔ Seen image funcAddr instructions.flatten branch := by
  have here := edgeAt_branch inside counts
  have size : (UInt64.ofNat instructions.flatten.length).toNat = instructions.flatten.length :=
    UInt64.toNat_ofNat_of_lt' loaded.fits
  have some : UInt64.ofNat instructions.flatten.length ≠ 0 := by
    obtain ⟨b0, b1, b2, b3, rest, dropped, -⟩ := branchesFrom_bytes List.drop_zero inside
    intro none
    have empty : instructions.flatten = [] := by
      refine List.length_eq_zero_iff.mp ?_
      rw [← size, none]
      rfl
    rw [empty, List.drop_nil] at dropped
    cases dropped
  unfold Module.analyzeFunction
  by_cases placed : funcAddr = 0
  · rw [if_pos (by simp [placed])]
    exact iff_of_false List.not_mem_nil fun seen => seen.placed placed
  · have goes : ¬ (decide (funcAddr = 0)
        || decide (UInt64.ofNat instructions.flatten.length = 0)) = true := by
      rw [Bool.or_eq_true, decide_eq_true_eq, decide_eq_true_eq]
      exact not_or.mpr ⟨placed, some⟩
    rw [if_neg goes, size, sweep_eq loaded, mem_take_filterMap (openedFrom_increasing _ _).1 here]
    · exact ⟨fun both => ⟨placed, both.1, both.2⟩, fun seen => ⟨seen.opens, seen.room⟩⟩
    · intro j member found
      have fits := openedFrom_fits member
      have bound := loaded.fits
      have offset : branch.offset + 5 ≤ instructions.flatten.length := by
        obtain ⟨b0, b1, b2, b3, rest, dropped, -⟩ := branchesFrom_bytes List.drop_zero inside
        have length := congrArg List.length dropped
        simp only [List.length_drop, List.length_append, List.length_cons, List.length_nil] at length
        omega
      refine offset_injective funcAddr (by omega) (by omega) ?_
      rw [← edgeAt_site found, ← edgeAt_site here]

/-- **Every call of a body is reported exactly if the sweep looks at each of them, with room.** -/
theorem reports_iff (image : Module) (funcAddr : Uintptr) (instructions : List Bytes)
    (loaded : Loaded image funcAddr instructions.flatten) :
    Reports image funcAddr instructions
      ↔ ∀ branch ∈ branchesFrom 0 instructions, branch.Counts image funcAddr →
        Seen image funcAddr instructions.flatten branch := by
  refine forall_congr' fun branch => ?_
  refine forall_congr' fun inside => ?_
  exact forall_congr' fun counts => reported_iff loaded inside counts

/-- A module with nothing but these bytes. -/
def Module.holding (base : Uintptr) (bytes : Bytes) : Module where
  byte addr := bytes[(addr - base).toNat]?
  textBase := base
  textSize := 0x100

theorem loaded_holding {base : Uintptr} (fits : bytes.length < 2 ^ 64) :
    Loaded (.holding base bytes) base bytes := by
  refine ⟨fits, fun i b here => ?_⟩
  obtain ⟨inside, -⟩ := List.getElem?_eq_some_iff.mp here
  have offset : (base + UInt64.ofNat i - base).toNat = i := by
    rw [UInt64.add_comm, UInt64.add_sub_cancel, UInt64.toNat_ofNat_of_lt' (inside.trans fits)]
  show bytes[(base + UInt64.ofNat i - base).toNat]? = some b
  rw [offset, here]

/-- `push rbp`, a call and `ret`. -/
def plainBody : List Bytes := [[0x55], [0xE8, 0x10, 0, 0, 0], [0xC3]]

/-- `add al, 0E8h`, a call and `ret`. -/
def hidingBody : List Bytes := [[0x04, 0xE8], [0xE8, 0x10, 0, 0, 0], [0xC3]]

/-- The call behind `push rbp` is reported. -/
theorem reports_plain : Reports (.holding 0x1000 plainBody.flatten) 0x1000 plainBody := by
  refine (reports_iff _ 0x1000 plainBody (loaded_holding (by decide))).mpr fun branch inside _ => ?_
  have only : branchesFrom 0 plainBody = [⟨1, 0xE8, int32 0x10 0 0 0⟩] := rfl
  rw [only] at inside
  obtain rfl := List.mem_singleton.mp inside
  exact ⟨by decide, by decide, by decide⟩

/-- The call behind the operand `0E8h` is not. -/
theorem reports_hidden :
    Module.analyzeFunction (.holding 0x1000 hidingBody.flatten) 0x1000 8 = []
      ∧ ¬ Reports (.holding 0x1000 hidingBody.flatten) 0x1000 hidingBody := by
  have nothing : Module.analyzeFunction (.holding 0x1000 hidingBody.flatten) 0x1000 8 = [] := by decide
  refine ⟨nothing, fun reports => ?_⟩
  have only : branchesFrom 0 hidingBody = [⟨2, 0xE8, int32 0x10 0 0 0⟩] := rfl
  have reported := reports ⟨2, 0xE8, int32 0x10 0 0 0⟩ (by rw [only]; exact List.mem_singleton.mpr rfl)
    ⟨by decide, by decide⟩
  rw [show UInt64.ofNat hidingBody.flatten.length = 8 from rfl, nothing] at reported
  exact List.not_mem_nil reported

end KenshiMP
