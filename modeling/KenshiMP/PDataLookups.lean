/-
**When the lookups of the function table are right.**

The lookups are binary searches, and a table is filled and sorted in separate steps, with an exit between
them when an entry cannot be read. On a table of disjoint ranges the lookups are right exactly if it is
sorted (`right_iff`), so that a walk that ends early leaves a table on which they are right only if the
entries it has read were in order. Among ranges that are apart, sorted (`Sorted`) is ascending (`Ascending`).

* `walk_spec`: what the loop has read, and where it has ended;
* `next_right_iff`: the lookups after a call;
* `findContaining_eq`: on a sorted table, also with equal starts, the search is that of the plain table;
* `pdata_lookup`: over every sequence of calls.
-/

import KenshiMP.Scanner.PDataTable
import Mathlib.Data.List.Perm.Basic
import Mathlib.Tactic

namespace KenshiMP

namespace PData

/-! ### Right lookups -/

/-- **The lookups are right**: they find the entry whose range has the address, and the one that starts
there. -/
structure Right (pdata : PData) : Prop where
  containing : ∀ address entry, pdata.findContaining address = some entry
    ↔ entry ∈ pdata.functions ∧ entry.startVA ≤ address ∧ address < entry.endVA
  function : ∀ address entry, pdata.findFunction address = some entry
    ↔ entry ∈ pdata.functions ∧ entry.startVA = address

/-- Two entries do not start at one place, and neither starts inside the other. -/
def Apart (first second : FunctionRecord) : Prop :=
  first.startVA ≠ second.startVA
    ∧ ¬ (first.startVA ≤ second.startVA ∧ second.startVA < first.endVA)
    ∧ ¬ (second.startVA ≤ first.startVA ∧ first.startVA < second.endVA)

theorem Apart.symm {first second : FunctionRecord} (apart : Apart first second) : Apart second first :=
  ⟨apart.1.symm, apart.2.2, apart.2.1⟩

/-- In the order of the starts, as `std::sort` leaves the table: two entries may start at one place. -/
def Sorted (table : List FunctionRecord) : Prop :=
  table.Pairwise fun first second => first.startVA ≤ second.startVA

/-- Each entry starts behind the one before it. -/
def Ascending (table : List FunctionRecord) : Prop :=
  table.Pairwise fun first second => first.startVA < second.startVA

variable {table : List FunctionRecord} {pdata : PData} {address : Uintptr} {entry : FunctionRecord}

theorem Ascending.sorted (ascending : Ascending table) : Sorted table :=
  List.Pairwise.imp (fun less => UInt64.le_of_lt less) ascending

/-- Entries that are apart do not start at one place. -/
theorem Sorted.ascending (sorted : Sorted table) (apart : table.Pairwise Apart) : Ascending table :=
  (List.Pairwise.and sorted apart).imp fun both => UInt64.lt_of_le_of_ne both.1 both.2.1

theorem upperBound_le (pdata : PData) (address : Uintptr) :
    pdata.upperBound address ≤ pdata.functions.length := by
  have inside := (BinarySearch.partitionPoint_bounds
    (fun i => (pdata.functions[i]?).any fun f => !(address < f.startVA)) 0 pdata.functions.length).2
  rw [Nat.zero_add] at inside
  exact inside

theorem plain_sorted (sorted : Sorted pdata.functions) :
    (pdata.functions.map FunctionRecord.toFunctionEntry).Pairwise
      fun first second => first.startVA ≤ second.startVA :=
  List.pairwise_map.mpr sorted

section Searches

variable (sorted : Sorted pdata.functions)

include sorted

theorem start_le {i j : ℕ} (le : i ≤ j) (inside : j < pdata.functions.length) :
    pdata.functions[i].startVA ≤ pdata.functions[j].startVA := by
  rcases Nat.lt_or_eq_of_le le with less | same
  · exact List.pairwise_iff_getElem.mp sorted i j (by omega) inside less
  · subst same
    exact UInt64.le_refl _

theorem lt_lowerBound_iff {i : ℕ} (inside : i < pdata.functions.length) :
    i < pdata.lowerBound address ↔ pdata.functions[i].startVA < address := by
  have border := @BinarySearch.lt_partitionPoint_iff
    (fun i => (pdata.functions[i]?).any fun f => f.startVA < address) 0 pdata.functions.length ?_ i
    (Nat.zero_le _) (by omega)
  · simpa [inside, lowerBound] using border
  · intro i j _ le high below
    have high' : j < pdata.functions.length := by omega
    simp only [List.getElem?_eq_getElem high', List.getElem?_eq_getElem (le.trans_lt high'),
      Option.any_some, decide_eq_true_eq] at below ⊢
    exact UInt64.lt_of_le_of_lt (start_le sorted le high') below

theorem lt_upperBound_iff {i : ℕ} (inside : i < pdata.functions.length) :
    i < pdata.upperBound address ↔ pdata.functions[i].startVA ≤ address := by
  have border := @BinarySearch.lt_partitionPoint_iff
    (fun i => (pdata.functions[i]?).any fun f => !(address < f.startVA)) 0 pdata.functions.length ?_ i
    (Nat.zero_le _) (by omega)
  · simpa [inside, upperBound, UInt64.not_lt] using border
  · intro i j _ le high below
    have high' : j < pdata.functions.length := by omega
    simp only [List.getElem?_eq_getElem high', List.getElem?_eq_getElem (le.trans_lt high'),
      Option.any_some, Bool.not_eq_true', decide_eq_false_iff_not, UInt64.not_lt] at below ⊢
    exact UInt64.le_trans (start_le sorted le high') below

/-- **On a sorted table of disjoint ranges** `findContaining` finds the entry whose range has the
address. -/
theorem findContaining_iff (apart : pdata.functions.Pairwise Apart) :
    pdata.findContaining address = some entry
      ↔ entry ∈ pdata.functions ∧ entry.startVA ≤ address ∧ address < entry.endVA := by
  have last : ∀ i, (bound : i < pdata.functions.length) → pdata.functions[i].startVA ≤ address →
      address < pdata.functions[i].endVA → pdata.upperBound address = i + 1 := by
    intro i bound low high
    refine Nat.le_antisymm ?_ ((lt_upperBound_iff sorted bound).mpr low)
    by_contra behind
    have bound' : i + 1 < pdata.functions.length :=
      (Nat.not_le.mp behind).trans_le (upperBound_le pdata address)
    have next := (lt_upperBound_iff sorted bound').mp (Nat.not_le.mp behind)
    have disjoint := List.pairwise_iff_getElem.mp apart i (i + 1) bound bound' (Nat.lt_succ_self i)
    exact disjoint.2.1 ⟨start_le sorted (Nat.le_succ i) bound',
      UInt64.lt_of_le_of_lt next high⟩
  unfold findContaining
  constructor
  · intro found
    split at found
    · cases found
    · split at found
      · cases found
      · simp only [Option.filter_eq_some_iff, Bool.and_eq_true, decide_eq_true_eq] at found
        exact ⟨List.mem_of_getElem? found.1, found.2⟩
  · rintro ⟨inside, low, high⟩
    obtain ⟨i, bound, rfl⟩ := List.getElem_of_mem inside
    have some' : pdata.functions.isEmpty = false :=
      List.isEmpty_eq_false_iff.mpr (List.ne_nil_of_mem inside)
    rw [some', last i bound low high, if_neg (by simp), if_neg (Nat.succ_ne_zero i), Nat.add_sub_cancel,
      List.getElem?_eq_getElem bound]
    simp [low, high]

end Searches

/-- **On an ascending table** `findFunction` finds the entry that starts at the address. -/
theorem findFunction_iff (ascending : Ascending pdata.functions) :
    pdata.findFunction address = some entry ↔ entry ∈ pdata.functions ∧ entry.startVA = address := by
  simp only [findFunction, Option.filter_eq_some_iff, decide_eq_true_eq]
  refine ⟨fun found => ⟨List.mem_of_getElem? found.1, found.2⟩, ?_⟩
  rintro ⟨inside, rfl⟩
  obtain ⟨i, bound, rfl⟩ := List.getElem_of_mem inside
  have place : pdata.lowerBound pdata.functions[i].startVA = i := by
    refine Nat.le_antisymm ?_ ?_
    · by_contra behind
      exact UInt64.lt_irrefl _ ((lt_lowerBound_iff ascending.sorted bound).mp (Nat.not_le.mp behind))
    · by_contra before
      have less := Nat.not_le.mp before
      have still := List.pairwise_iff_getElem.mp ascending _ i (less.trans bound) bound less
      exact absurd ((lt_lowerBound_iff ascending.sorted (less.trans bound)).mpr still) (Nat.lt_irrefl _)
  rw [place]
  exact ⟨List.getElem?_eq_getElem bound, rfl⟩

/-- The table as the other parts of the scanner see it. -/
def plain (pdata : PData) (sorted : Sorted pdata.functions) : PDataEnumerator :=
  ⟨pdata.functions.map FunctionRecord.toFunctionEntry, plain_sorted sorted⟩

/-- **On a sorted table** the search is the walk through the plain table. -/
theorem findContaining_eq (sorted : Sorted pdata.functions) (address : Uintptr) :
    (pdata.findContaining address).map FunctionRecord.toFunctionEntry
      = (pdata.plain sorted).findContaining address := by
  have before : ∀ i, (inside : i < pdata.functions.length) → (i < pdata.upperBound address
      ↔ decide (¬ address < pdata.functions[i].startVA) = true) := by
    intro i inside
    rw [lt_upperBound_iff sorted inside, decide_eq_true_eq, UInt64.not_lt]
  have front := @BinarySearch.takeWhile_eq_take _ pdata.functions
    (fun f => decide (¬ address < f.startVA)) _ before
  have last : (pdata.functions.take (pdata.upperBound address)).getLast?
      = if pdata.upperBound address = 0 then none else pdata.functions[pdata.upperBound address - 1]? := by
    rw [List.getLast?_take]
    split
    · rfl
    · have inside : pdata.upperBound address - 1 < pdata.functions.length := by
        have bound := upperBound_le pdata address
        omega
      rw [List.getElem?_eq_getElem inside, Option.some_or]
  rw [PDataEnumerator.findContaining, plain, List.takeWhile_map]
  simp only [Function.comp_def, front]
  rw [List.getLast?_map, last, findContaining]
  split
  · rename_i empty
    rw [List.isEmpty_iff.mp empty]
    split <;> rfl
  · split
    · rfl
    · simp only [Option.filter_map, Function.comp_def]

/-- Two entries with one start: the second has the address, and the search goes by the second. -/
theorem findContaining_eq_twins :
    (({ functions := [⟨⟨0x1000, 0x1010, 0x10, []⟩, 0, 0x10, 0, 0, 0, 0, 0⟩,
        ⟨⟨0x1000, 0x2010, 0x1010, []⟩, 0, 0x1010, 0, 0, 0, 0, 0⟩] } : PData).findContaining 0x1800).map
        FunctionRecord.toFunctionEntry
      = PDataEnumerator.findContaining ⟨[⟨0x1000, 0x1010, 0x10, []⟩, ⟨0x1000, 0x2010, 0x1010, []⟩], by decide⟩
        0x1800 :=
  findContaining_eq (by unfold Sorted; decide) 0x1800

/-- **Only on a sorted table** are the lookups right. -/
theorem right_iff (apart : pdata.functions.Pairwise Apart) : pdata.Right ↔ Ascending pdata.functions := by
  refine ⟨fun right => ?_, fun ascending => ⟨fun _ _ => findContaining_iff ascending.sorted apart,
    fun _ _ => findFunction_iff ascending⟩⟩
  have start : ∀ i, (bound : i < pdata.functions.length) →
      ((pdata.functions[i]?).map fun f => f.startVA.toNat).getD 0 = pdata.functions[i].startVA.toNat := by
    intro i bound
    rw [List.getElem?_eq_getElem bound]
    rfl
  have found : ∀ i, 0 ≤ i → i < 0 + pdata.functions.length →
      BinarySearch.partitionPoint (fun m =>
        decide (((pdata.functions[m]?).map fun f => f.startVA.toNat).getD 0
          < ((pdata.functions[i]?).map fun f => f.startVA.toNat).getD 0)) 0 pdata.functions.length = i := by
    intro i _ bound
    rw [Nat.zero_add] at bound
    have here := (right.function pdata.functions[i].startVA pdata.functions[i]).mpr
      ⟨List.getElem_mem bound, rfl⟩
    simp only [findFunction, Option.filter_eq_some_iff] at here
    obtain ⟨bound', same⟩ := List.getElem?_eq_some_iff.mp here.1
    have place : pdata.lowerBound pdata.functions[i].startVA = i := by
      rcases Nat.lt_trichotomy (pdata.lowerBound pdata.functions[i].startVA) i with less | equal | more
      · exact absurd (congrArg (fun f => f.startVA) same)
          (List.pairwise_iff_getElem.mp apart _ _ bound' bound less).1
      · exact equal
      · exact absurd (congrArg (fun f => f.startVA) same).symm
          (List.pairwise_iff_getElem.mp apart _ _ bound bound' more).1
    refine Eq.trans (BinarySearch.partitionPoint_congr fun m _ inside => ?_) place
    rw [Nat.zero_add] at inside
    rw [start m inside, start i bound, List.getElem?_eq_getElem inside, Option.any_some]
    exact decide_eq_decide.mpr UInt64.lt_iff_toNat_lt.symm
  have mono := BinarySearch.strictMono_of_found found
  refine List.pairwise_iff_getElem.mpr fun i j bound bound' less => ?_
  have less' := mono i j (Nat.zero_le i) less (by omega)
  rw [start i bound, start j bound'] at less'
  exact UInt64.lt_iff_toNat_lt.mpr less'

/-! ### What a walk reads -/

section Walk

variable (bytes : MappedBytes) (moduleBase : Uintptr) (moduleSize : UInt64)

/-- Where an entry lies. -/
def place (runtimeFuncs : Uintptr) (i : ℕ) : Uintptr := runtimeFuncs + 12 * UInt64.ofNat i

/-- The valid ones of the first entries, in the order in which they lie there. -/
def validEntries (runtimeFuncs : Uintptr) (n : ℕ) : List RuntimeFunction :=
  (List.range n).filterMap fun i => runtimeFunction bytes (place runtimeFuncs i)

/-- Reading an entry faults, or reading its unwind data. -/
def Faults (runtimeFuncs : Uintptr) (i : ℕ) : Prop :=
  readEntry bytes moduleBase moduleSize (place runtimeFuncs i) = none

instance decidableFaults (runtimeFuncs : Uintptr) (i : ℕ) :
    Decidable (Faults bytes moduleBase moduleSize runtimeFuncs i) :=
  inferInstanceAs (Decidable (_ = _))

variable {bytes moduleBase moduleSize}

theorem place_zero (runtimeFuncs : Uintptr) : place runtimeFuncs 0 = runtimeFuncs := by
  simp [place]

theorem place_succ (runtimeFuncs : Uintptr) (i : ℕ) :
    place runtimeFuncs (i + 1) = place (runtimeFuncs + 12) i := by
  rw [place, place, UInt64.ofNat_add, UInt64.mul_add, UInt64.add_comm (12 * UInt64.ofNat i),
    ← UInt64.add_assoc]
  rfl

theorem validEntries_succ (runtimeFuncs : Uintptr) (n : ℕ) :
    validEntries bytes runtimeFuncs (n + 1)
      = (runtimeFunction bytes runtimeFuncs).toList ++ validEntries bytes (runtimeFuncs + 12) n := by
  simp only [validEntries, List.range_succ_eq_map, List.filterMap_cons, List.filterMap_map,
    Function.comp_def, Nat.succ_eq_add_one, place_zero, place_succ]
  cases runtimeFunction bytes runtimeFuncs <;> rfl

/-- The range of an entry. -/
def range (entry : FunctionRecord) : Uintptr × Uintptr := (entry.startVA, entry.endVA)

theorem range_withUnwind {rf : RuntimeFunction}
    (read : withUnwind bytes moduleBase moduleSize rf = some entry) :
    range entry = range (record moduleBase rf) := by
  unfold withUnwind at read
  split at read
  · obtain ⟨a, -, read⟩ := Option.bind_eq_some_iff.mp read
    obtain ⟨b, -, read⟩ := Option.bind_eq_some_iff.mp read
    obtain ⟨c, -, read⟩ := Option.bind_eq_some_iff.mp read
    cases read
    rfl
  · cases read
    rfl

/-- What a round that does not fault has read. -/
theorem readEntry_some {runtimeFuncs : Uintptr} {read : Option FunctionRecord}
    (round : readEntry bytes moduleBase moduleSize runtimeFuncs = some read) :
    read.map range = (runtimeFunction bytes runtimeFuncs).map fun rf => range (record moduleBase rf) := by
  obtain ⟨beginAddress, first, round⟩ := Option.bind_eq_some_iff.mp round
  split at round
  · rename_i zero
    cases round
    have skipped : runtimeFunction bytes runtimeFuncs = none := by
      unfold runtimeFunction
      rw [first]
      exact if_pos zero
    rw [skipped]
    rfl
  · obtain ⟨rf, valid, round⟩ := Option.bind_eq_some_iff.mp round
    obtain ⟨entry, unwound, rfl⟩ := Option.map_eq_some_iff.mp round
    rw [valid, Option.map_some, Option.map_some, range_withUnwind unwound]

/-- **A walk** reads the valid entries up to the first fault. -/
theorem walk_spec (runtimeFuncs : Uintptr) (n : ℕ) :
    ∃ m ≤ n, (∀ i < m, ¬ Faults bytes moduleBase moduleSize runtimeFuncs i)
      ∧ (sehEnumeratePData bytes moduleBase moduleSize runtimeFuncs n).1.map range
        = (validEntries bytes runtimeFuncs m).map (fun rf => range (record moduleBase rf))
      ∧ ((sehEnumeratePData bytes moduleBase moduleSize runtimeFuncs n).2 = true ∧ m = n
        ∨ (sehEnumeratePData bytes moduleBase moduleSize runtimeFuncs n).2 = false ∧ m < n
          ∧ Faults bytes moduleBase moduleSize runtimeFuncs m) := by
  induction n generalizing runtimeFuncs with
  | zero => exact ⟨0, le_rfl, fun i less => absurd less (Nat.not_lt_zero i), rfl, .inl ⟨rfl, rfl⟩⟩
  | succ n ih =>
    unfold sehEnumeratePData
    cases round : readEntry bytes moduleBase moduleSize runtimeFuncs with
    | none =>
      refine ⟨0, Nat.zero_le _, fun i less => absurd less (Nat.not_lt_zero i), rfl,
        .inr ⟨rfl, Nat.succ_pos n, ?_⟩⟩
      rw [Faults, place_zero]
      exact round
    | some read =>
      obtain ⟨m, le, fine, shape, ended⟩ := ih (runtimeFuncs + 12)
      have here := readEntry_some round
      have clean : ∀ i < m + 1, ¬ Faults bytes moduleBase moduleSize runtimeFuncs i := by
        intro i less
        cases i with
        | zero =>
          rw [Faults, place_zero, round]
          exact Option.some_ne_none read
        | succ i =>
          rw [Faults, place_succ]
          exact fine i (Nat.lt_of_succ_lt_succ less)
      have ended' : (sehEnumeratePData bytes moduleBase moduleSize (runtimeFuncs + 12) n).2 = true
            ∧ m + 1 = n + 1
          ∨ (sehEnumeratePData bytes moduleBase moduleSize (runtimeFuncs + 12) n).2 = false
            ∧ m + 1 < n + 1 ∧ Faults bytes moduleBase moduleSize runtimeFuncs (m + 1) := by
        rcases ended with ⟨complete, same⟩ | ⟨stopped, less, fault⟩
        · exact .inl ⟨complete, congrArg Nat.succ same⟩
        · refine .inr ⟨stopped, Nat.succ_lt_succ less, ?_⟩
          rw [Faults, place_succ]
          exact fault
      refine ⟨m + 1, Nat.succ_le_succ le, clean, ?_, ?_⟩
      · rw [validEntries_succ, List.map_append, ← shape]
        cases read with
        | none =>
          rw [Option.map_none] at here
          rw [Option.map_eq_none_iff.mp here.symm]
          rfl
        | some entry =>
          obtain ⟨rf, valid, same⟩ := Option.map_eq_some_iff.mp here.symm
          rw [valid]
          simp only [Option.toList_some, List.map_cons, List.map_nil, List.singleton_append, same]
      · cases read <;> exact ended'

end Walk

/-! ### The content of `.pdata` -/

/-- Neither function has a byte of the other. -/
def RuntimeFunction.Disjoint (first second : RuntimeFunction) : Prop :=
  first.endAddress ≤ second.beginAddress ∨ second.endAddress ≤ first.beginAddress

namespace Call

variable (call : Call) (moduleBase : Uintptr) (moduleSize : UInt64)

/-- The entries that the call walks over, if it comes so far. -/
def walked : Option (Uintptr × ℕ) :=
  if moduleBase = 0 || !call.allocates then none else (exceptionDirectory call.bytes moduleBase).join

/-- The valid entries are ranges, and pairwise disjoint. -/
def DisjointRanges : Prop :=
  ∀ runtimeFuncs n, call.walked moduleBase = some (runtimeFuncs, n) →
    (∀ rf ∈ validEntries call.bytes runtimeFuncs n, rf.beginAddress < rf.endAddress)
      ∧ (validEntries call.bytes runtimeFuncs n).Pairwise RuntimeFunction.Disjoint

/-- Where an entry faults, the valid ones before the first such entry are in the order of their addresses. -/
def InOrder : Prop :=
  ∀ runtimeFuncs n, call.walked moduleBase = some (runtimeFuncs, n) → ∀ k < n,
    Faults call.bytes moduleBase moduleSize runtimeFuncs k →
    (∀ i < k, ¬ Faults call.bytes moduleBase moduleSize runtimeFuncs i) →
    (validEntries call.bytes runtimeFuncs k).Pairwise fun first second =>
      (record moduleBase first).startVA < (record moduleBase second).startVA

end Call

variable {call : Call} {bytes : MappedBytes} {moduleBase : Uintptr} {moduleSize : UInt64}

theorem apart_record {first second : RuntimeFunction} (proper : first.beginAddress < first.endAddress)
    (proper' : second.beginAddress < second.endAddress) (disjoint : first.Disjoint second) :
    Apart (record moduleBase first) (record moduleBase second) := by
  have b := first.beginAddress.toNat_lt
  have e := first.endAddress.toNat_lt
  have b' := second.beginAddress.toNat_lt
  have e' := second.endAddress.toNat_lt
  have low := moduleBase.toNat_lt
  unfold RuntimeFunction.Disjoint at disjoint
  rw [UInt32.lt_iff_toNat_lt] at proper proper'
  rw [UInt32.le_iff_toNat_le, UInt32.le_iff_toNat_le] at disjoint
  simp only [Apart, record, ne_eq, ← UInt64.toNat_inj, UInt64.le_iff_toNat_le, UInt64.lt_iff_toNat_lt,
    UInt64.toNat_add, UInt32.toNat_toUInt64]
  omega

theorem validEntries_sublist {runtimeFuncs : Uintptr} {m n : ℕ} (le : m ≤ n) :
    (validEntries bytes runtimeFuncs m).Sublist (validEntries bytes runtimeFuncs n) :=
  (List.range_sublist.mpr le).filterMap _

section Same

variable {table : List FunctionRecord} {entries : List RuntimeFunction}
  (same : table.map range = entries.map fun rf => range (record moduleBase rf))

include same

/-- The table of some entries, without what the unwind data says. -/
theorem pairwise_ranges {R : Uintptr × Uintptr → Uintptr × Uintptr → Prop} :
    (table.Pairwise fun first second => R (range first) (range second))
      ↔ entries.Pairwise fun first second =>
        R (range (record moduleBase first)) (range (record moduleBase second)) := by
  rw [← List.pairwise_map, same, List.pairwise_map]

theorem apart_walked (proper : ∀ rf ∈ entries, rf.beginAddress < rf.endAddress)
    (disjoint : entries.Pairwise RuntimeFunction.Disjoint) : table.Pairwise Apart := by
  have ranges := pairwise_ranges same (R := fun first second => first.1 ≠ second.1
    ∧ ¬ (first.1 ≤ second.1 ∧ second.1 < first.2) ∧ ¬ (second.1 ≤ first.1 ∧ first.1 < second.2))
  refine ranges.mpr ?_
  exact disjoint.imp_of_mem fun inside inside' apart =>
    apart_record (proper _ inside) (proper _ inside') apart

end Same

/-! ### A call -/

theorem sorted_buildIndex (apart : pdata.functions.Pairwise Apart) :
    pdata.buildIndex.functions.Pairwise Apart ∧ Ascending pdata.buildIndex.functions := by
  have permuted : pdata.buildIndex.functions.Perm pdata.functions := List.mergeSort_perm _ _
  have apart' : pdata.buildIndex.functions.Pairwise Apart :=
    (permuted.pairwise_iff Apart.symm).mpr apart
  refine ⟨apart', ?_⟩
  have transitive : ∀ a b c : FunctionRecord, decide (a.startVA ≤ b.startVA) = true →
      decide (b.startVA ≤ c.startVA) = true → decide (a.startVA ≤ c.startVA) = true := by
    intro a b c first second
    exact decide_eq_true (UInt64.le_trans (of_decide_eq_true first) (of_decide_eq_true second))
  have total : ∀ a b : FunctionRecord,
      (decide (a.startVA ≤ b.startVA) || decide (b.startVA ≤ a.startVA)) = true := by
    intro a b
    rcases UInt64.le_total a.startVA b.startVA with le | le <;> simp [le]
  have ordered := List.pairwise_mergeSort transitive total pdata.functions
  have sorted : Sorted pdata.buildIndex.functions := ordered.imp fun le => of_decide_eq_true le
  exact sorted.ascending apart'

/-- A call that does not come to the entries leaves the table as it was. -/
theorem next_of_none (none' : call.walked pdata.moduleBase = none) : machine.next pdata call = pdata := by
  have same : ((pdata.enumerate call).map Prod.fst).getD pdata = pdata := by
    unfold enumerate
    split
    · rfl
    · rename_i based
      cases directory : exceptionDirectory call.bytes pdata.moduleBase with
      | none => rfl
      | some found =>
        cases found with
        | none => rfl
        | some walk =>
          have full : call.allocates = false := by
            by_contra buffer
            rw [Call.walked, directory, if_neg (by simpa [based] using buffer)] at none'
            cases none'
          simp only [full]
          rfl
  exact same

/-- A call that does fills the table and, unless an entry has faulted, sorts it. -/
theorem next_of_some {runtimeFuncs : Uintptr} {n : ℕ}
    (walked : call.walked pdata.moduleBase = some (runtimeFuncs, n)) :
    machine.next pdata call = (pdata.fill call runtimeFuncs n).1 := by
  unfold Call.walked at walked
  split at walked
  · cases walked
  · rename_i late
    rw [Bool.or_eq_true, decide_eq_true_eq, Bool.not_eq_true', not_or, Bool.not_eq_false] at late
    have called : pdata.enumerate call = some (pdata.fill call runtimeFuncs n) := by
      rw [enumerate, if_neg late.1, Option.join_eq_some_iff.mp walked]
      simp only [late.2]
      rfl
    have next : machine.next pdata call = ((pdata.enumerate call).map Prod.fst).getD pdata := rfl
    rw [next, called]
    rfl

theorem fill_of_complete {runtimeFuncs : Uintptr} {n : ℕ}
    (complete : (sehEnumeratePData call.bytes pdata.moduleBase pdata.moduleSize runtimeFuncs n).2 = true) :
    (pdata.fill call runtimeFuncs n).1 = buildIndex { pdata with
      functions := (sehEnumeratePData call.bytes pdata.moduleBase pdata.moduleSize runtimeFuncs n).1 } := by
  simp [fill, complete]

theorem fill_of_stopped {runtimeFuncs : Uintptr} {n : ℕ}
    (stopped : (sehEnumeratePData call.bytes pdata.moduleBase pdata.moduleSize runtimeFuncs n).2 = false) :
    (pdata.fill call runtimeFuncs n).1 = { pdata with
      functions := (sehEnumeratePData call.bytes pdata.moduleBase pdata.moduleSize runtimeFuncs n).1 } := by
  simp [fill, stopped]

theorem next_module (pdata : PData) (call : Call) :
    (machine.next pdata call).moduleBase = pdata.moduleBase
      ∧ (machine.next pdata call).moduleSize = pdata.moduleSize := by
  cases walked : call.walked pdata.moduleBase with
  | none =>
    rw [next_of_none walked]
    exact ⟨rfl, rfl⟩
  | some found =>
    rw [next_of_some walked, fill]
    split <;> exact ⟨rfl, rfl⟩

/-- **A call** keeps the ranges apart, and leaves right lookups behind exactly if it was in order. -/
theorem next_right_iff (disjoint : call.DisjointRanges pdata.moduleBase)
    (apart : pdata.functions.Pairwise Apart) (right : pdata.Right) :
    (machine.next pdata call).functions.Pairwise Apart
      ∧ ((machine.next pdata call).Right ↔ call.InOrder pdata.moduleBase pdata.moduleSize) := by
  cases walked : call.walked pdata.moduleBase with
  | none =>
    rw [next_of_none walked]
    refine ⟨apart, iff_of_true right fun runtimeFuncs n walked' => ?_⟩
    rw [walked] at walked'
    cases walked'
  | some found =>
    obtain ⟨runtimeFuncs, n⟩ := found
    obtain ⟨proper, pairwise⟩ := disjoint runtimeFuncs n walked
    obtain ⟨m, le, fine, shape, ended⟩ :=
      @walk_spec call.bytes pdata.moduleBase pdata.moduleSize runtimeFuncs n
    have inside := @validEntries_sublist call.bytes runtimeFuncs _ _ le
    have filled :=
      apart_walked shape (fun rf here => proper rf (inside.subset here)) (pairwise.sublist inside)
    rw [next_of_some walked]
    rcases ended with ⟨complete, rfl⟩ | ⟨stopped, less, fault⟩
    · rw [fill_of_complete complete]
      have built := @sorted_buildIndex { pdata with
        functions := (sehEnumeratePData call.bytes pdata.moduleBase pdata.moduleSize runtimeFuncs m).1 } filled
      refine ⟨built.1, iff_of_true ((right_iff built.1).mpr built.2) fun _ _ walked' k less' fault' => ?_⟩
      rw [walked] at walked'
      cases walked'
      exact absurd fault' (fine k less')
    · rw [fill_of_stopped stopped]
      have order := pairwise_ranges shape (R := fun first second => first.1 < second.1)
      refine ⟨filled, (right_iff filled).trans (order.trans ⟨fun sorted => ?_, fun inOrder => ?_⟩)⟩
      · intro _ _ walked' k less' fault' fine'
        rw [walked] at walked'
        cases walked'
        rcases Nat.lt_trichotomy k m with before | same | behind
        · exact absurd fault' (fine k before)
        · rw [same]
          exact sorted
        · exact absurd fault (fine' m behind)
      · exact inOrder runtimeFuncs n walked m less fault fine

/-! ### Runs -/

/-- An enumerator after `Init`. -/
def start (moduleBase : Uintptr) (moduleSize : UInt64) : PData := (init {} moduleBase moduleSize).1

theorem right_start (moduleBase : Uintptr) (moduleSize : UInt64) : (start moduleBase moduleSize).Right :=
  (right_iff List.Pairwise.nil).mpr List.Pairwise.nil

theorem run_right_iff {calls : List Call}
    (disjoint : ∀ call ∈ calls, call.DisjointRanges pdata.moduleBase)
    (apart : pdata.functions.Pairwise Apart) (right : pdata.Right) :
    (∀ count, (machine.run pdata (calls.take count)).Right)
      ↔ ∀ call ∈ calls, call.InOrder pdata.moduleBase pdata.moduleSize := by
  induction calls generalizing pdata with
  | nil => simp [Machine.run, right]
  | cons call rest ih =>
    rw [List.forall_mem_cons] at disjoint ⊢
    obtain ⟨apart', next⟩ := next_right_iff disjoint.1 apart right
    obtain ⟨base, size⟩ := next_module pdata call
    rw [← next]
    constructor
    · intro always
      have first : (machine.next pdata call).Right := always 1
      refine ⟨first, ?_⟩
      rw [← base] at disjoint ⊢
      rw [← size]
      exact (ih disjoint.2 apart' first).mp fun count => always (count + 1)
    · rintro ⟨first, later⟩ count
      rw [← base] at disjoint later
      rw [← size] at later
      cases count with
      | zero => exact right
      | succ count => exact (ih disjoint.2 apart' first).mpr later count

/-- **Function lookup**: all along a sequence of calls the lookups are right if and only if the valid
entries before each first fault are in the order of their addresses. -/
theorem pdata_lookup (moduleBase : Uintptr) (moduleSize : UInt64) (calls : List Call)
    (disjoint : ∀ call ∈ calls, call.DisjointRanges moduleBase) :
    (∀ count, (machine.run (start moduleBase moduleSize) (calls.take count)).Right)
      ↔ ∀ call ∈ calls, call.InOrder moduleBase moduleSize :=
  run_right_iff disjoint List.Pairwise.nil (right_start moduleBase moduleSize)

/-! ### A module whose last entry cannot be read -/

/-- Headers at 0x1000 with three entries of `.pdata` behind them, as far as they can be read. -/
def image (entries : List UInt8) : MappedBytes := fun address =>
  let offset := (address - 0x1000).toNat
  if offset < 0x100 then
    some (if offset = 0 then 0x4D else if offset = 1 then 0x5A else if offset = 0x3C then 0x40
      else if offset = 0x40 then 0x50 else if offset = 0x41 then 0x45 else if offset = 0xE1 then 0x01
      else if offset = 0xE4 then 36 else 0)
  else entries[offset - 0x100]?

/-- The functions at 0x1000 and at 0x2000 of the module. -/
def lowEntry : List UInt8 := [0, 0x10, 0, 0, 0x10, 0x10, 0, 0, 0, 0, 0, 0]
def highEntry : List UInt8 := [0, 0x20, 0, 0, 0x10, 0x20, 0, 0, 0, 0, 0, 0]

def low : RuntimeFunction := ⟨0x1000, 0x1010, 0⟩
def high : RuntimeFunction := ⟨0x2000, 0x2010, 0⟩

theorem disjoint_low_high : low.Disjoint high := by
  unfold RuntimeFunction.Disjoint
  decide

theorem disjoint_image {bytes : MappedBytes} {first second : RuntimeFunction}
    (walked : Call.walked ⟨bytes, true⟩ 0x1000 = some (0x1100, 3))
    (valid : validEntries bytes 0x1100 3 = [first, second])
    (proper : first.beginAddress < first.endAddress ∧ second.beginAddress < second.endAddress)
    (disjoint : first.Disjoint second) : Call.DisjointRanges ⟨bytes, true⟩ 0x1000 := by
  intro runtimeFuncs n walked'
  rw [walked] at walked'
  cases walked'
  rw [valid]
  exact ⟨by simpa using proper, by simpa using disjoint⟩

theorem pdata_lookup_ascending :
    (machine.run (start 0x1000 0x3000) [⟨image (lowEntry ++ highEntry), true⟩]).Right := by
  have walked : Call.walked ⟨image (lowEntry ++ highEntry), true⟩ 0x1000 = some (0x1100, 3) := by
    decide +kernel
  refine (pdata_lookup 0x1000 0x3000 [⟨image (lowEntry ++ highEntry), true⟩] ?_).mpr ?_ 1
  · rw [List.forall_mem_singleton]
    exact @disjoint_image _ low high walked (by decide +kernel) (by decide)
      disjoint_low_high
  · rw [List.forall_mem_singleton]
    intro runtimeFuncs n walked'
    rw [walked] at walked'
    cases walked'
    decide +kernel

/-- With the entries the other way round the function at 0x3000 is not found. -/
theorem pdata_lookup_fails :
    ¬ ∀ (moduleBase : Uintptr) (moduleSize : UInt64) (calls : List Call),
      (∀ call ∈ calls, call.DisjointRanges moduleBase) →
      ∀ count, (machine.run (start moduleBase moduleSize) (calls.take count)).Right := by
  intro claim
  have walked : Call.walked ⟨image (highEntry ++ lowEntry), true⟩ 0x1000 = some (0x1100, 3) := by
    decide +kernel
  have disjoint : Call.DisjointRanges ⟨image (highEntry ++ lowEntry), true⟩ 0x1000 :=
    @disjoint_image _ high low walked (by decide +kernel) (by decide)
      (Or.symm disjoint_low_high)
  have disjoint' : ∀ call ∈ [(⟨image (highEntry ++ lowEntry), true⟩ : Call)],
      call.DisjointRanges (start 0x1000 0x3000).moduleBase := List.forall_mem_singleton.mpr disjoint
  have inOrder := (run_right_iff disjoint' List.Pairwise.nil (right_start 0x1000 0x3000)).mp
    (claim 0x1000 0x3000 _ disjoint') _ (List.mem_singleton_self _) 0x1100 3 walked 2 (by decide)
    (by decide +kernel) (by decide +kernel)
  have reversed : validEntries (image (highEntry ++ lowEntry)) 0x1100 2 = [high, low] := by decide +kernel
  have less := List.rel_of_pairwise_cons (reversed ▸ inOrder) (List.mem_singleton_self _)
  exact absurd less (by decide)

end PData

end KenshiMP
