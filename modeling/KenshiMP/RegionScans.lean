/-
**Whether the fast scan is the plain one, and whether it stays inside its region.**

Both scans return the first position at which something is found. For the plain one that is a match of
the pattern (`linear_isFirst`); for the fast one it is a match at which the byte under the index of
the first fixed byte is right as well (`sse2_isFirst`), which is the same as long as that index
survives its way through an `int` (`scans_agree`). What the fast scan loads lies inside the region
except for its first block, which is loaded however short the region is (`scan_within_iff`).
-/

import KenshiMP.Scanner.ScannerEngine

namespace KenshiMP

namespace ScannerEngine

/-! ### The first of some positions -/

/-- The value is the first of `count` addresses that is hit, or zero if none is. -/
def IsFirst (hit : Nat → Prop) (count start value : Nat) : Prop :=
  (∃ p < count, hit (start + p) ∧ (∀ q < p, ¬ hit (start + q)) ∧ value = start + p)
    ∨ ((∀ p < count, ¬ hit (start + p)) ∧ value = 0)

section First

variable {hit other : Nat → Prop} {count start value value' : Nat}

theorem IsFirst.here (inside : 0 < count) (found : hit start) : IsFirst hit count start start :=
  .inl ⟨0, inside, found, fun q before => absurd before (Nat.not_lt_zero q), rfl⟩

theorem IsFirst.none (none : ∀ p < count, ¬ hit (start + p)) : IsFirst hit count start 0 :=
  .inr ⟨none, rfl⟩

/-- Addresses that are not hit can be put in front. -/
theorem IsFirst.skip {skipped : Nat} (first : IsFirst hit (count - skipped) (start + skipped) value)
    (none : ∀ p < skipped, ¬ hit (start + p)) : IsFirst hit count start value := by
  rcases first with ⟨p, inside, found, before, rfl⟩ | ⟨others, rfl⟩
  · refine .inl ⟨skipped + p, by omega, ?_, fun q earlier => ?_, Nat.add_assoc _ _ _⟩
    · rw [← Nat.add_assoc]
      exact found
    · rcases Nat.lt_or_ge q skipped with low | high
      · exact none q low
      · obtain ⟨offset, rfl⟩ := Nat.exists_eq_add_of_le high
        rw [← Nat.add_assoc]
        exact before offset (by omega)
  · refine .none fun p inside => ?_
    rcases Nat.lt_or_ge p skipped with low | high
    · exact none p low
    · obtain ⟨offset, rfl⟩ := Nat.exists_eq_add_of_le high
      rw [← Nat.add_assoc]
      exact others offset (by omega)

theorem IsFirst.step (first : IsFirst hit count (start + 1) value) (misses : ¬ hit start) :
    IsFirst hit (count + 1) start value := by
  have later : IsFirst hit (count + 1 - 1) (start + 1) value := first
  refine later.skip fun p inside => ?_
  rw [Nat.lt_one_iff.mp inside]
  exact misses

theorem IsFirst.unique (first : IsFirst hit count start value)
    (second : IsFirst hit count start value') : value = value' := by
  rcases first with ⟨p, inside, found, before, rfl⟩ | ⟨none, rfl⟩
  · rcases second with ⟨p', inside', found', before', rfl⟩ | ⟨none, rfl⟩
    · rcases Nat.lt_trichotomy p p' with less | rfl | more
      · exact absurd found (before' p less)
      · rfl
      · exact absurd found' (before p' more)
    · exact absurd found (none p inside)
  · rcases second with ⟨p', inside', found', before', rfl⟩ | ⟨none', rfl⟩
    · exact absurd found' (none p' inside')
    · rfl

theorem IsFirst.congr (first : IsFirst hit count start value)
    (same : ∀ p < count, hit (start + p) ↔ other (start + p)) : IsFirst other count start value := by
  rcases first with ⟨p, inside, found, before, rfl⟩ | ⟨none, rfl⟩
  · exact .inl ⟨p, inside, (same p inside).mp found,
      fun q earlier hits => before q earlier ((same q (by omega)).mpr hits), rfl⟩
  · exact .none fun p inside hits => none p inside ((same p inside).mpr hits)

end First

/-! ### Matches -/

/-- What stands at the address has the fixed bytes of the pattern. -/
def Matches (memory : Memory) (pattern : ParsedPattern) (address : Nat) : Prop :=
  ∀ j < pattern.bytes.length, pattern.fixed j = true → memory (address + j) = pattern.byteAt j

/-- It matches, and has the byte the pattern keeps under an index, fixed or not. -/
def Hit (memory : Memory) (pattern : ParsedPattern) (offset address : Nat) : Prop :=
  memory (address + offset) = pattern.byteAt offset ∧ Matches memory pattern address

/-- The number of positions of a region at which a pattern fits in. -/
def positions (size : Nat) (pattern : ParsedPattern) : Nat :=
  if pattern.bytes = [] then 0 else size + 1 - pattern.bytes.length

variable {memory : Memory} {pattern : ParsedPattern} {start size : Nat}

theorem compare_value (position : Nat) (left j : Nat) :
    (compare memory pattern position left j).value = true
      ↔ ∀ k < left, pattern.fixed (j + k) = true → memory (position + (j + k)) = pattern.byteAt (j + k) := by
  induction left generalizing j with
  | zero => exact iff_of_true rfl fun k inside => absurd inside (Nat.not_lt_zero k)
  | succ left ih =>
    have split (rest : ∀ k < left, pattern.fixed (j + 1 + k) = true →
        memory (position + (j + 1 + k)) = pattern.byteAt (j + 1 + k))
        (here : pattern.fixed j = true → memory (position + j) = pattern.byteAt j) :
        ∀ k < left + 1, pattern.fixed (j + k) = true →
          memory (position + (j + k)) = pattern.byteAt (j + k) := by
      intro k inside
      cases k with
      | zero => exact here
      | succ k =>
        have later := rest k (by omega)
        rwa [Nat.add_assoc, Nat.add_comm 1] at later
    have tail (all : ∀ k < left + 1, pattern.fixed (j + k) = true →
        memory (position + (j + k)) = pattern.byteAt (j + k)) :
        ∀ k < left, pattern.fixed (j + 1 + k) = true →
          memory (position + (j + 1 + k)) = pattern.byteAt (j + 1 + k) := by
      intro k inside
      have later := all (k + 1) (by omega)
      rwa [← Nat.add_assoc, Nat.add_right_comm] at later
    unfold compare
    split_ifs with fixed
    · rw [Scan.value_bind]
      split_ifs with differs
      · refine iff_of_false (fun found => (nomatch found)) fun all => ?_
        exact differs (all 0 (Nat.zero_lt_succ _) fixed)
      · rw [ih]
        exact ⟨fun rest => split rest fun _ => not_not.mp differs, tail⟩
    · rw [ih]
      exact ⟨fun rest => split rest fun is => absurd is fixed, tail⟩

theorem compare_matches (address : Nat) :
    (compare memory pattern address pattern.bytes.length 0).value = true
      ↔ Matches memory pattern address := by
  rw [compare_value]
  unfold Matches
  simp only [Nat.zero_add]

/-! ### The plain scan -/

theorem firstDiffers_value (position : Nat) :
    (firstDiffers memory pattern position).value = false
      ↔ (pattern.fixed 0 = true → memory position = pattern.byteAt 0) := by
  unfold firstDiffers
  split_ifs with fixed
  · show decide (memory position ≠ pattern.byteAt 0) = false ↔ _
    rw [decide_eq_false_iff_not, not_not]
    exact ⟨fun same _ => same, fun same => same fixed⟩
  · exact iff_of_true rfl fun is => absurd is fixed

theorem linearFrom_isFirst (some : pattern.bytes ≠ []) (left i : Nat) :
    IsFirst (Matches memory pattern) left (start + i) (linearFrom memory start pattern left i).value := by
  have length : 0 < pattern.bytes.length := List.length_pos_iff.mpr some
  induction left generalizing i with
  | zero => exact .none fun p inside => absurd inside (Nat.not_lt_zero p)
  | succ left ih =>
    have next (misses : ¬ Matches memory pattern (start + i)) :
        IsFirst (Matches memory pattern) (left + 1) (start + i)
          (linearFrom memory start pattern left (i + 1)).value := by
      refine IsFirst.step (ih (i + 1)) misses
    have whole : Matches memory pattern (start + i)
        ↔ (firstDiffers memory pattern (start + i)).value = false
          ∧ (compare memory pattern (start + i) (pattern.bytes.length - 1) 1).value = true := by
      rw [firstDiffers_value, compare_value]
      constructor
      · intro all
        refine ⟨fun fixed => all 0 length fixed, fun k inside fixed => all _ (by omega) fixed⟩
      · rintro ⟨head, tail⟩ j inside fixed
        cases j with
        | zero => exact head fixed
        | succ j =>
          rw [Nat.add_comm j] at fixed ⊢
          exact tail j (by omega) fixed
    unfold linearFrom
    rw [Scan.value_bind]
    split_ifs with skipped
    · refine next fun all => ?_
      rw [(whole.mp all).1] at skipped
      cases skipped
    · rw [Scan.value_bind]
      split_ifs with found
      · exact .here (Nat.zero_lt_succ left) (whole.mpr ⟨Bool.not_eq_true _ |>.mp skipped, found⟩)
      · exact next fun all => found (whole.mp all).2

theorem linear_isFirst (memory : Memory) (start size : Nat) (pattern : ParsedPattern) :
    IsFirst (Matches memory pattern) (positions size pattern) start
      (scanRegionLinear memory start size pattern).value := by
  unfold scanRegionLinear positions
  by_cases empty : pattern.bytes = []
  · rw [if_pos empty, if_pos (Or.inl empty)]
    exact .none fun p inside => absurd inside (Nat.not_lt_zero p)
  · rw [if_neg empty]
    split_ifs with short
    · have long := short.resolve_left empty
      exact .none fun p inside => absurd inside (by omega)
    · have fits := Nat.not_lt.mp (not_or.mp short).2
      have count : size - pattern.bytes.length + 1 = size + 1 - pattern.bytes.length := by omega
      rw [← count]
      exact linearFrom_isFirst empty _ 0

/-! ### The fast scan -/

variable {scanEnd offset : Nat}

/-- A block returns the first hit behind it, or zero if there can be no more, or has no hit. -/
theorem laneLoop_isFirst {i : Nat} (fuel mask : Nat) (small : mask < 2 ^ 16)
    (enough : (Mask.setBits 16 mask).length ≤ fuel)
    (needle : ∀ lane ∈ Mask.setBits 16 mask,
      memory (start + (i + lane) + offset) = pattern.byteAt offset)
    (complete : ∀ lane < 16, Hit memory pattern offset (start + (i + lane)) →
      lane ∈ Mask.setBits 16 mask) :
    match (laneLoop memory start scanEnd i pattern fuel mask).value with
    | some result => IsFirst (Hit memory pattern offset) (scanEnd + 1 - i) (start + i) result
    | none => ∀ lane < 16, ¬ Hit memory pattern offset (start + (i + lane)) := by
  induction fuel generalizing mask with
  | zero =>
    intro lane inside hits
    have member := complete lane inside hits
    rw [List.length_eq_zero_iff.mp (Nat.le_zero.mp enough)] at member
    cases member
  | succ fuel ih =>
    unfold laneLoop
    dsimp only
    split_ifs with none beyond
    · intro lane inside hits
      have member := complete lane inside hits
      rw [none, Mask.setBits_zero] at member
      cases member
    · -- every hit is at the lowest lane or behind it, and that one is out of reach
      have bound := Mask.lt_of_mem (Mask.lowest_mem small none)
      refine .none fun p inside hits => ?_
      have behind := Mask.lowest_le (complete p (by omega) (Nat.add_assoc start i p ▸ hits))
      omega
    · have lowest := Mask.lowest_mem small none
      have bound := Mask.lt_of_mem lowest
      rw [Scan.value_bind]
      split_ifs with found
      · have here : Hit memory pattern offset (start + (i + Mask.lowest 16 mask)) :=
          ⟨needle _ lowest, (compare_matches _).mp found⟩
        refine .inl ⟨Mask.lowest 16 mask, by omega, ?_, fun q before hits => ?_, ?_⟩
        · rw [Nat.add_assoc]
          exact here
        · have behind := Mask.lowest_le (complete q (by omega) (Nat.add_assoc start i q ▸ hits))
          omega
        · exact (Nat.add_assoc _ _ _).symm
      · have fewer := Mask.setBits_cons small none
        refine ih _ (lt_of_le_of_lt Nat.and_le_left small) ?_ (fun lane member => ?_)
          fun lane inside hits => ?_
        · rw [fewer, List.length_cons] at enough
          omega
        · exact needle lane (fewer ▸ List.mem_cons_of_mem _ member)
        · have member := complete lane inside hits
          rw [fewer] at member
          rcases List.mem_cons.mp member with rfl | member
          · exact absurd ((compare_matches _).mpr hits.2) found
          · exact member

theorem mem_movemask {chunk : Fin 16 → UInt8} {needle : UInt8} {lane : Nat} :
    lane ∈ Mask.setBits 16 (movemask chunk needle) ↔ ∃ inside : lane < 16, chunk ⟨lane, inside⟩ = needle := by
  rw [Mask.mem_setBits]
  constructor
  · rintro ⟨inside, set⟩
    unfold movemask at set
    rw [Nat.testBit_ofBits_lt _ _ inside] at set
    exact ⟨inside, of_decide_eq_true set⟩
  · rintro ⟨inside, same⟩
    refine ⟨inside, ?_⟩
    unfold movemask
    rw [Nat.testBit_ofBits_lt _ _ inside]
    exact decide_eq_true same

/-- The blocks return the first hit, or have none up to where they end. -/
theorem blockLoop_isFirst (fuel i : Nat) (enough : simdEnd scanEnd < i + 16 * fuel) :
    match (blockLoop memory start scanEnd offset pattern fuel i).value with
    | .inl result => IsFirst (Hit memory pattern offset) (scanEnd + 1 - i) (start + i) result
    | .inr last => i ≤ last ∧ ∀ p < last - i, ¬ Hit memory pattern offset (start + i + p) := by
  induction fuel generalizing i with
  | zero => exact ⟨Nat.le_refl i, fun p inside => absurd inside (by omega)⟩
  | succ fuel ih =>
    unfold blockLoop
    split_ifs with more
    · have lanes : match (laneLoop memory start scanEnd i pattern 16
          (movemask (memory.loadu (start + i + offset)).value (pattern.byteAt offset))).value with
          | some result => IsFirst (Hit memory pattern offset) (scanEnd + 1 - i) (start + i) result
          | none => ∀ lane < 16, ¬ Hit memory pattern offset (start + (i + lane)) := by
        refine laneLoop_isFirst 16 _ (Nat.ofBits_lt_two_pow _) Mask.length_setBits_le
          (fun lane member => ?_) fun lane inside hits => mem_movemask.mpr ⟨inside, ?_⟩
        · obtain ⟨inside, same⟩ := mem_movemask.mp member
          have address : start + (i + lane) + offset = start + i + offset + lane := by omega
          rw [address]
          exact same
        · have address : start + i + offset + lane = start + (i + lane) + offset := by omega
          show memory (start + i + offset + lane) = _
          rw [address]
          exact hits.1
      rw [Scan.value_bind, Scan.value_bind]
      cases result : (laneLoop memory start scanEnd i pattern 16
          (movemask (memory.loadu (start + i + offset)).value (pattern.byteAt offset))).value with
      | some found =>
        rw [result] at lanes
        exact lanes
      | none =>
        rw [result] at lanes
        have misses : ∀ p < 16, ¬ Hit memory pattern offset (start + i + p) :=
          fun p inside hits => lanes p inside (Nat.add_assoc start i p ▸ hits)
        have later := ih (i + 16) (by omega)
        show match (blockLoop memory start scanEnd offset pattern fuel (i + 16)).value with
          | .inl result => IsFirst (Hit memory pattern offset) (scanEnd + 1 - i) (start + i) result
          | .inr last => i ≤ last ∧ ∀ p < last - i, ¬ Hit memory pattern offset (start + i + p)
        cases rest : (blockLoop memory start scanEnd offset pattern fuel (i + 16)).value with
        | inl found =>
          rw [rest] at later
          refine IsFirst.skip ?_ misses
          rw [Nat.sub_sub, Nat.add_assoc]
          exact later
        | inr last =>
          rw [rest] at later
          obtain ⟨ahead, none⟩ := later
          refine ⟨by omega, fun p inside hits => ?_⟩
          rcases Nat.lt_or_ge p 16 with low | high
          · exact misses p low hits
          · obtain ⟨behind, rfl⟩ := Nat.exists_eq_add_of_le high
            refine none behind (by omega) ?_
            rw [← Nat.add_assoc, Nat.add_assoc start]
            exact (Nat.add_assoc (start + i) 16 behind) ▸ hits
    · exact ⟨Nat.le_refl i, fun p inside => absurd inside (by omega)⟩

theorem tailFrom_isFirst (left i : Nat) :
    IsFirst (Hit memory pattern offset) left (start + i)
      (tailFrom memory start offset pattern left i).value := by
  induction left generalizing i with
  | zero => exact .none fun p inside => absurd inside (Nat.not_lt_zero p)
  | succ left ih =>
    have next (misses : ¬ Hit memory pattern offset (start + i)) :
        IsFirst (Hit memory pattern offset) (left + 1) (start + i)
          (tailFrom memory start offset pattern left (i + 1)).value := by
      refine IsFirst.step (ih (i + 1)) misses
    unfold tailFrom
    rw [Scan.value_bind]
    split_ifs with differs
    · exact next fun hits => differs hits.1
    · rw [Scan.value_bind]
      split_ifs with found
      · exact .here (Nat.zero_lt_succ left) ⟨not_not.mp differs, (compare_matches _).mp found⟩
      · exact next fun hits => found ((compare_matches _).mpr hits.2)

/-- Nowhere to look. -/
theorem sse2_nowhere (nowhere : positions size pattern = 0) :
    scanRegionSSE2 memory start size pattern = pure 0 := by
  unfold positions at nowhere
  unfold scanRegionSSE2
  rw [if_pos]
  split_ifs at nowhere with empty
  · exact .inl empty
  · exact .inr (by omega)

theorem somewhere_iff : 0 < positions size pattern ↔ pattern.bytes ≠ [] ∧ pattern.bytes.length ≤ size := by
  unfold positions
  split_ifs with empty
  · exact iff_of_false (Nat.lt_irrefl 0) fun both => both.1 empty
  · exact ⟨fun some => ⟨empty, by omega⟩, fun both => by omega⟩

/-- Nothing to look for. -/
theorem sse2_negative (negative : pattern.firstFixed < 0) (somewhere : 0 < positions size pattern) :
    scanRegionSSE2 memory start size pattern = pure start := by
  obtain ⟨some, fits⟩ := somewhere_iff.mp somewhere
  unfold scanRegionSSE2
  rw [if_neg (not_or.mpr ⟨some, Nat.not_lt.mpr fits⟩)]
  exact if_pos negative

/-- The blocks, and then the tail. -/
theorem sse2_looking (looks : ¬ pattern.firstFixed < 0) (somewhere : 0 < positions size pattern) :
    scanRegionSSE2 memory start size pattern = (do
      match ← blockLoop memory start (size - pattern.bytes.length)
          pattern.firstFixed.toNatClampNeg pattern (simdEnd (size - pattern.bytes.length) + 1) 0 with
      | .inl result => pure result
      | .inr i =>
        tailFrom memory start pattern.firstFixed.toNatClampNeg pattern
          (size - pattern.bytes.length + 1 - i) i) := by
  obtain ⟨some, fits⟩ := somewhere_iff.mp somewhere
  unfold scanRegionSSE2
  rw [if_neg (not_or.mpr ⟨some, Nat.not_lt.mpr fits⟩)]
  exact if_neg looks

/-- The fast scan returns the first hit at the index it looks for. -/
theorem sse2_isFirst (memory : Memory) (start size : Nat) (pattern : ParsedPattern)
    (looks : ¬ pattern.firstFixed < 0) :
    IsFirst (Hit memory pattern pattern.firstFixed.toNatClampNeg) (positions size pattern) start
      (scanRegionSSE2 memory start size pattern).value := by
  rcases Nat.eq_zero_or_pos (positions size pattern) with nowhere | somewhere
  · rw [sse2_nowhere nowhere, nowhere]
    exact .none fun p inside => absurd inside (Nat.not_lt_zero p)
  · obtain ⟨some, fits⟩ := somewhere_iff.mp somewhere
    have count : positions size pattern = size - pattern.bytes.length + 1 := by
      unfold positions
      rw [if_neg some]
      omega
    rw [count, sse2_looking looks somewhere, Scan.value_bind]
    have blocks := @blockLoop_isFirst memory pattern start (size - pattern.bytes.length)
      pattern.firstFixed.toNatClampNeg (simdEnd (size - pattern.bytes.length) + 1) 0 (by omega)
    cases result : (blockLoop memory start (size - pattern.bytes.length)
        pattern.firstFixed.toNatClampNeg pattern
        (simdEnd (size - pattern.bytes.length) + 1) 0).value with
    | inl found =>
      rw [result] at blocks
      exact blocks
    | inr last =>
      rw [result] at blocks
      exact IsFirst.skip (tailFrom_isFirst _ last) blocks.2

/-! ### The index of the first fixed byte -/

theorem firstFixedIndex_some {i : Nat} (found : pattern.firstFixedIndex = some i) :
    i < pattern.bytes.length ∧ pattern.fixed i = true := by
  obtain ⟨inside, fixed, -⟩ := List.findIdx?_eq_some_iff_getElem.mp found
  refine ⟨pattern.sameLength ▸ inside, ?_⟩
  unfold ParsedPattern.fixed
  rw [List.getD_eq_getElem?_getD, List.getElem?_eq_getElem inside, Option.getD_some]
  exact fixed

theorem firstFixedIndex_none (none : pattern.firstFixedIndex = none) (j : Nat) : pattern.fixed j = false := by
  unfold ParsedPattern.fixed
  rcases Nat.lt_or_ge j pattern.mask.length with inside | outside
  · rw [List.getD_eq_getElem?_getD, List.getElem?_eq_getElem inside, Option.getD_some]
    have wild := List.findIdx?_eq_none_iff.mp none _ (List.getElem_mem inside)
    exact wild
  · rw [List.getD_eq_getElem?_getD, List.getElem?_eq_none outside, Option.getD_none]

theorem firstFixed_small {i : Nat} (found : pattern.firstFixedIndex = some i) (small : i < 2 ^ 31) :
    ¬ pattern.firstFixed < 0 ∧ pattern.firstFixed.toNatClampNeg = i := by
  unfold ParsedPattern.firstFixed
  rw [found]
  refine ⟨?_, Int32.toNatClampNeg_ofNat_of_lt small⟩
  rw [Int32.lt_iff_toInt_lt, Int32.toInt_ofNat_of_lt small]
  exact Int.not_lt.mpr (Int.natCast_nonneg i)

/-- What is left of an index is no larger than the index. -/
theorem firstFixed_le {i : Nat} (found : pattern.firstFixedIndex = some i) :
    pattern.firstFixed.toNatClampNeg ≤ i := by
  unfold ParsedPattern.firstFixed
  rw [found]
  show (Int32.ofNat i).toInt.toNat ≤ i
  rw [Int32.toInt_ofNat', Int.bmod_def]
  have size : Int32.size = 4294967296 := rfl
  rw [size]
  split_ifs <;> omega

/-- The scan looks inside the pattern. -/
theorem firstFixed_lt (some : pattern.bytes ≠ []) :
    pattern.firstFixed.toNatClampNeg < pattern.bytes.length := by
  cases found : pattern.firstFixedIndex with
  | none =>
    unfold ParsedPattern.firstFixed
    rw [found]
    exact List.length_pos_iff.mpr some
  | some i => exact lt_of_le_of_lt (firstFixed_le found) (firstFixedIndex_some found).1

theorem matches_of_wild (none : pattern.firstFixedIndex = none) (address : Nat) :
    Matches memory pattern address := by
  intro j inside fixed
  rw [firstFixedIndex_none none] at fixed
  cases fixed

/-- A first fixed byte that is found where it is makes every match a hit. -/
theorem hit_iff_matches {i : Nat} (found : pattern.firstFixedIndex = some i) (small : i < 2 ^ 31)
    (address : Nat) :
    Hit memory pattern pattern.firstFixed.toNatClampNeg address ↔ Matches memory pattern address := by
  rw [(firstFixed_small found small).2]
  obtain ⟨inside, fixed⟩ := firstFixedIndex_some found
  exact ⟨And.right, fun all => ⟨all i inside fixed, all⟩⟩

/-! ### The two scans -/

/-- A region of mapped memory. Nothing is mapped at zero, which stands for nothing found. -/
structure Region where
  start : Nat
  size : Nat
  mapped : 0 < start

/-- The index of the first fixed byte fits into an `int`, or it makes no difference that it does not:
it has become negative, and the pattern matches at the start, or it has become another index, and at
the first match the byte there is right too. -/
def Reliable (memory : Memory) (region : Region) (pattern : ParsedPattern) : Prop :=
  ∀ i, pattern.firstFixedIndex = some i → 2 ^ 31 ≤ i → 0 < positions region.size pattern →
    if pattern.firstFixed < 0 then Matches memory pattern region.start
    else ∀ p < positions region.size pattern, Matches memory pattern (region.start + p) →
      (∀ q < p, ¬ Matches memory pattern (region.start + q)) →
        Hit memory pattern pattern.firstFixed.toNatClampNeg (region.start + p)

/-- **The fast scan returns what the plain one returns, exactly in the reliable cases.** -/
theorem sse2_eq_linear_iff (memory : Memory) (region : Region) (pattern : ParsedPattern) :
    (scanRegionSSE2 memory region.start region.size pattern).value
        = (scanRegionLinear memory region.start region.size pattern).value
      ↔ Reliable memory region pattern := by
  have plain := linear_isFirst memory region.start region.size pattern
  have mapped := region.mapped
  rcases Nat.eq_zero_or_pos (positions region.size pattern) with nowhere | somewhere
  · refine iff_of_true ?_ fun i _ _ somewhere => absurd somewhere (by omega)
    rw [nowhere] at plain
    rw [sse2_nowhere nowhere]
    exact IsFirst.unique (.none fun p inside => absurd inside (Nat.not_lt_zero p)) plain
  · cases found : pattern.firstFixedIndex with
    | none =>
      refine iff_of_true ?_ fun i there => (nomatch found.symm.trans there)
      have negative : pattern.firstFixed < 0 := by
        unfold ParsedPattern.firstFixed
        rw [found]
        decide
      rw [sse2_negative negative somewhere]
      exact IsFirst.unique (.here somewhere (matches_of_wild found _)) plain
    | some i =>
      by_cases small : i < 2 ^ 31
      · refine iff_of_true ?_ fun other there large => ?_
        · have fast := sse2_isFirst memory region.start region.size pattern (firstFixed_small found small).1
          exact (fast.congr fun p _ => hit_iff_matches found small _).unique plain
        · obtain rfl := Option.some.inj (found.symm.trans there)
          omega
      · have exact' : Reliable memory region pattern
            ↔ if pattern.firstFixed < 0 then Matches memory pattern region.start
              else ∀ p < positions region.size pattern, Matches memory pattern (region.start + p) →
                (∀ q < p, ¬ Matches memory pattern (region.start + q)) →
                  Hit memory pattern pattern.firstFixed.toNatClampNeg (region.start + p) := by
          refine ⟨fun reliable => reliable i found (Nat.not_lt.mp small) somewhere,
            fun holds other _ _ _ => holds⟩
        rw [exact']
        split_ifs with negative
        · rw [sse2_negative negative somewhere]
          refine ⟨fun same => ?_, fun here => (IsFirst.here somewhere here).unique plain⟩
          rcases plain with ⟨p, inside, match', before, value⟩ | ⟨none, value⟩
          · have zero : p = 0 := by
              have address : region.start = region.start + p := same.trans value
              omega
            rw [zero] at match'
            exact match'
          · have address : region.start = 0 := same.trans value
            omega
        · have fast := sse2_isFirst memory region.start region.size pattern negative
          constructor
          · intro same p inside here before
            have value := (IsFirst.unique (.inl ⟨p, inside, here, before, rfl⟩) plain)
            rw [← same] at value
            rcases fast with ⟨q, inside', hits, before', value'⟩ | ⟨none, value'⟩
            · obtain rfl : p = q := by
                have address := value.trans value'
                omega
              exact hits
            · have address := value.trans value'
              omega
          · intro hits
            refine IsFirst.unique fast ?_
            rcases plain with ⟨p, inside, match', before, value⟩ | ⟨none, value⟩
            · exact .inl ⟨p, inside, hits p inside match' before,
                fun q earlier hit => before q earlier hit.2, value⟩
            · exact .inr ⟨fun p inside hit => none p inside hit.2, value⟩

section Same

variable {other : Memory}
  (same : ∀ address, start ≤ address → address < start + size → other address = memory address)

include same

/-- Nothing outside the region decides where a scan finds something. -/
theorem hit_congr (p : Nat) (inside : p < positions size pattern) :
    Hit other pattern pattern.firstFixed.toNatClampNeg (start + p)
      ↔ Hit memory pattern pattern.firstFixed.toNatClampNeg (start + p) := by
  unfold positions at inside
  split_ifs at inside with empty
  · exact absurd inside (Nat.not_lt_zero p)
  · have offset := firstFixed_lt empty
    unfold Hit Matches
    rw [same _ (by omega) (by omega)]
    refine and_congr_right fun _ => forall_congr' fun j => ?_
    refine imp_congr_right fun below => ?_
    rw [same _ (by omega) (by omega)]

theorem sse2_congr :
    (scanRegionSSE2 other start size pattern).value = (scanRegionSSE2 memory start size pattern).value := by
  rcases Nat.eq_zero_or_pos (positions size pattern) with nowhere | somewhere
  · rw [sse2_nowhere nowhere, sse2_nowhere nowhere]
  · by_cases negative : pattern.firstFixed < 0
    · rw [sse2_negative negative somewhere, sse2_negative negative somewhere]
    · have first := sse2_isFirst other start size pattern negative
      exact (first.congr (hit_congr same)).unique (sse2_isFirst memory start size pattern negative)

end Same

/-- **The fast scan returns what the plain scan returns, which is the first match, and nothing outside
the region has a say in it**: exactly in the reliable cases. -/
theorem scans_agree (memory : Memory) (region : Region) (pattern : ParsedPattern) :
    ((scanRegionSSE2 memory region.start region.size pattern).value
          = (scanRegionLinear memory region.start region.size pattern).value
        ∧ IsFirst (Matches memory pattern) (positions region.size pattern) region.start
          (scanRegionSSE2 memory region.start region.size pattern).value
        ∧ ∀ other : Memory, (∀ address, region.start ≤ address →
            address < region.start + region.size → other address = memory address) →
          (scanRegionSSE2 other region.start region.size pattern).value
            = (scanRegionSSE2 memory region.start region.size pattern).value)
      ↔ Reliable memory region pattern := by
  rw [← sse2_eq_linear_iff]
  refine ⟨And.left, fun same => ⟨same, ?_, fun other agree => sse2_congr agree⟩⟩
  rw [same]
  exact linear_isFirst memory region.start region.size pattern

/-! ### A pattern with a long prefix of wildcards -/

/-- Some wildcards and then one fixed byte. -/
def padded (wildcards : Nat) : ParsedPattern where
  bytes := List.replicate wildcards 0 ++ [7]
  mask := List.replicate wildcards false ++ [true]
  sameLength := by
    rw [List.length_append, List.length_append, List.length_replicate, List.length_replicate]
    rfl

theorem padded_length (wildcards : Nat) : (padded wildcards).bytes.length = wildcards + 1 := by
  unfold padded
  rw [List.length_append, List.length_replicate, List.length_singleton]

theorem padded_index (wildcards : Nat) : (padded wildcards).firstFixedIndex = some wildcards := by
  show (List.replicate wildcards false ++ [true]).findIdx? id = some wildcards
  induction wildcards with
  | zero => rfl
  | succ count ih =>
    rw [List.replicate_succ, List.cons_append, List.findIdx?_cons, if_neg (by decide), ih]
    rfl

theorem padded_byte (wildcards : Nat) : (padded wildcards).byteAt wildcards = 7 := by
  show (List.replicate wildcards (0 : UInt8) ++ [7]).getD wildcards 0 = 7
  rw [List.getD_eq_getElem?_getD, List.getElem?_append_right (by rw [List.length_replicate]),
    List.length_replicate, Nat.sub_self]
  rfl

/-- From 2147483648 wildcards on, the index becomes negative. -/
theorem padded_negative {wildcards : Nat} (large : 2 ^ 31 ≤ wildcards) (small : wildcards < 2 ^ 32) :
    (padded wildcards).firstFixed < 0 := by
  unfold ParsedPattern.firstFixed
  rw [padded_index, Int32.lt_iff_toInt_lt]
  show (Int32.ofNat wildcards).toInt < 0
  have size : Int32.size = 4294967296 := rfl
  rw [Int32.toInt_ofNat', Int.bmod_def, size]
  split_ifs <;> omega

theorem padded_differs {wildcards : Nat} (large : 2 ^ 31 ≤ wildcards) (small : wildcards < 2 ^ 32) :
    (scanRegionSSE2 (fun _ => 0) 0x1000 (wildcards + 1) (padded wildcards)).value
      ≠ (scanRegionLinear (fun _ => 0) 0x1000 (wildcards + 1) (padded wildcards)).value := by
  intro same
  have reliable := (sse2_eq_linear_iff (fun _ => 0) ⟨0x1000, wildcards + 1, by decide⟩
    (padded wildcards)).mp same
  have length := padded_length wildcards
  have somewhere : 0 < positions (wildcards + 1) (padded wildcards) := by
    unfold positions
    rw [if_neg (List.ne_nil_of_length_pos (by omega)), length]
    omega
  have here := reliable _ (padded_index _) large somewhere
  rw [if_pos (padded_negative large small)] at here
  obtain ⟨inside, fixed⟩ := firstFixedIndex_some (padded_index wildcards)
  have zero : (0 : UInt8) = (padded wildcards).byteAt wildcards := here wildcards inside fixed
  rw [padded_byte] at zero
  cases zero

/-- A region of zeros, and a byte of seven behind two to the power of 31 wildcards: the fast scan
reports a match at the start, the plain one none. -/
theorem scans_differ :
    (scanRegionSSE2 (fun _ => 0) 0x1000 (2 ^ 31 + 1) (padded (2 ^ 31))).value
      ≠ (scanRegionLinear (fun _ => 0) 0x1000 (2 ^ 31 + 1) (padded (2 ^ 31))).value :=
  padded_differs (Nat.le_refl _) (by omega)

/-! ### What is loaded -/

theorem compare_within (position left j : Nat) :
    ∀ load ∈ (compare memory pattern position left j).loads,
      load.Within (position + j) (position + (j + left)) := by
  induction left generalizing j with
  | zero =>
    intro load inside
    cases inside
  | succ left ih =>
    have later : ∀ load ∈ (compare memory pattern position left (j + 1)).loads,
        load.Within (position + j) (position + (j + (left + 1))) := by
      intro load inside
      obtain ⟨low, high⟩ := ih (j + 1) load inside
      exact ⟨by omega, by omega⟩
    unfold compare
    split_ifs with fixed
    · rw [Scan.loads_bind]
      intro load inside
      rcases List.mem_append.mp inside with first | inside
      · rw [List.mem_singleton.mp first]
        exact ⟨Nat.le_refl _, by show position + j + 1 ≤ _; omega⟩
      · split_ifs at inside with differs
        · cases inside
        · exact later load inside
    · exact later

theorem laneLoop_within {i : Nat} (fuel mask : Nat) :
    ∀ load ∈ (laneLoop memory start scanEnd i pattern fuel mask).loads,
      load.Within start (start + scanEnd + pattern.bytes.length) := by
  induction fuel generalizing mask with
  | zero =>
    intro load inside
    cases inside
  | succ fuel ih =>
    unfold laneLoop
    dsimp only
    split_ifs with none beyond
    · intro load inside
      cases inside
    · intro load inside
      cases inside
    · rw [Scan.loads_bind]
      intro load inside
      rcases List.mem_append.mp inside with compared | inside
      · obtain ⟨low, high⟩ := compare_within _ _ _ load compared
        exact ⟨by omega, by omega⟩
      · split_ifs at inside with found
        · cases inside
        · exact ih _ load inside

/-- A block that is not the first one ends before the last position. -/
theorem blockLoop_within (fuel i : Nat) (behind : offset < pattern.bytes.length) :
    ∀ load ∈ (blockLoop memory start scanEnd offset pattern fuel i).loads,
      load.Within start (start + max (scanEnd + pattern.bytes.length) (offset + 16)) := by
  induction fuel generalizing i with
  | zero =>
    intro load inside
    cases inside
  | succ fuel ih =>
    unfold blockLoop
    split_ifs with more
    · rw [Scan.loads_bind, Scan.loads_bind]
      intro load inside
      rcases List.mem_append.mp inside with block | inside
      · rw [List.mem_singleton.mp block]
        refine ⟨by show start ≤ start + i + offset; omega, ?_⟩
        show start + i + offset + 16 ≤ _
        unfold simdEnd at more
        split_ifs at more with long <;> omega
      · rcases List.mem_append.mp inside with lanes | inside
        · obtain ⟨low, high⟩ := laneLoop_within _ _ load lanes
          exact ⟨low, by omega⟩
        · split at inside
          · cases inside
          · exact ih _ load inside
    · intro load inside
      cases inside

theorem tailFrom_within (left i : Nat) (behind : offset < pattern.bytes.length)
    (fits : i + left ≤ scanEnd + 1 ∨ left = 0) :
    ∀ load ∈ (tailFrom memory start offset pattern left i).loads,
      load.Within start (start + scanEnd + pattern.bytes.length) := by
  induction left generalizing i with
  | zero =>
    intro load inside
    cases inside
  | succ left ih =>
    have later := ih (i + 1) (by omega)
    unfold tailFrom
    rw [Scan.loads_bind]
    intro load inside
    rcases List.mem_append.mp inside with first | inside
    · rw [List.mem_singleton.mp first]
      refine ⟨by show start ≤ start + i + offset; omega, ?_⟩
      show start + i + offset + 1 ≤ _
      omega
    · split_ifs at inside with differs
      · exact later load inside
      · rw [Scan.loads_bind] at inside
        rcases List.mem_append.mp inside with compared | inside
        · obtain ⟨low, high⟩ := compare_within _ _ _ load compared
          exact ⟨by omega, by omega⟩
        · split_ifs at inside with found
          · cases inside
          · exact later load inside

/-- Sixteen bytes behind the index that is looked for are in the region, or none is looked for. -/
def BlockFits (pattern : ParsedPattern) (size : Nat) : Prop :=
  pattern.firstFixed < 0 ∨ pattern.firstFixed.toNatClampNeg + 16 ≤ size

/-- Only the first block can leave the region, and only at its end. -/
theorem sse2_within (memory : Memory) (start size : Nat) (pattern : ParsedPattern) :
    ∀ load ∈ (scanRegionSSE2 memory start size pattern).loads,
      load.Within start (start + max size (pattern.firstFixed.toNatClampNeg + 16)) := by
  rcases Nat.eq_zero_or_pos (positions size pattern) with nowhere | somewhere
  · rw [sse2_nowhere nowhere]
    intro load inside
    cases inside
  · obtain ⟨some, fits⟩ := somewhere_iff.mp somewhere
    by_cases negative : pattern.firstFixed < 0
    · rw [sse2_negative negative somewhere]
      intro load inside
      cases inside
    · have behind := firstFixed_lt some
      rw [sse2_looking negative somewhere, Scan.loads_bind]
      intro load inside
      rcases List.mem_append.mp inside with inside | inside
      · obtain ⟨low, high⟩ := blockLoop_within _ 0 behind load inside
        exact ⟨low, by omega⟩
      · split at inside
        · cases inside
        · obtain ⟨low, high⟩ : load.Within start
              (start + (size - pattern.bytes.length) + pattern.bytes.length) :=
            tailFrom_within _ _ behind (by omega) load inside
          exact ⟨low, by omega⟩

/-- One scan loads only bytes of its region, exactly if it loads none or its first block fits. -/
theorem sse2_within_iff (memory : Memory) (start size : Nat) (pattern : ParsedPattern) :
    (∀ load ∈ (scanRegionSSE2 memory start size pattern).loads, load.Within start (start + size))
      ↔ (0 < positions size pattern → BlockFits pattern size) := by
  rcases Nat.eq_zero_or_pos (positions size pattern) with nowhere | somewhere
  · rw [sse2_nowhere nowhere]
    exact iff_of_true (fun load inside => (nomatch inside)) fun some => absurd some (by omega)
  · by_cases negative : pattern.firstFixed < 0
    · rw [sse2_negative negative somewhere]
      exact iff_of_true (fun load inside => (nomatch inside)) fun _ => .inl negative
    · constructor
      · intro within _
        have first : (⟨start + 0 + pattern.firstFixed.toNatClampNeg, 16⟩ : Load)
            ∈ (scanRegionSSE2 memory start size pattern).loads := by
          rw [sse2_looking negative somewhere, Scan.loads_bind]
          refine List.mem_append_left _ ?_
          unfold blockLoop
          rw [if_pos (Nat.zero_le _), Scan.loads_bind]
          exact List.mem_cons_self
        have high : start + 0 + pattern.firstFixed.toNatClampNeg + 16 ≤ start + size :=
          (within _ first).2
        exact .inr (by omega)
      · intro block load inside
        have short := (block somewhere).resolve_left negative
        obtain ⟨low, high⟩ := sse2_within memory start size pattern load inside
        exact ⟨low, by omega⟩

/-! ### The scan for all matches -/

/-- The first block fits into what is scanned, and into what is scanned again behind every hit. -/
def BlocksFit (found : Nat → Prop) (pattern : ParsedPattern) (start size : Nat) : Prop :=
  pattern.bytes.length < size → BlockFits pattern size
    ∧ ∀ p < positions size pattern, found (start + p) → pattern.bytes.length < size - (p + 1) →
      BlockFits pattern (size - (p + 1))

theorem scanAllFrom_above (fuel current remaining : Nat) :
    ∀ load ∈ (scanAllFrom memory pattern fuel current remaining).loads, current ≤ load.address := by
  induction fuel generalizing current remaining with
  | zero =>
    intro load inside
    cases inside
  | succ fuel ih =>
    unfold scanAllFrom
    split_ifs with more
    · rw [Scan.loads_bind]
      intro load inside
      rcases List.mem_append.mp inside with inside | inside
      · exact (sse2_within memory current remaining pattern load inside).1
      · split_ifs at inside with none
        · cases inside
        · dsimp only at inside
          rw [Scan.loads_bind] at inside
          rcases List.mem_append.mp inside with inside | inside
          · exact le_trans (Nat.le_add_right _ _) (ih _ _ load inside)
          · cases inside
    · intro load inside
      cases inside

theorem sse2_silent (negative : pattern.firstFixed < 0) :
    (scanRegionSSE2 memory start size pattern).loads = [] := by
  rcases Nat.eq_zero_or_pos (positions size pattern) with nowhere | somewhere
  · rw [sse2_nowhere nowhere]
    rfl
  · rw [sse2_negative negative somewhere]
    rfl

/-- A pattern without anything to look for loads nothing. -/
theorem scanAllFrom_silent (negative : pattern.firstFixed < 0) (fuel current remaining : Nat) :
    (scanAllFrom memory pattern fuel current remaining).loads = [] := by
  induction fuel generalizing current remaining with
  | zero => rfl
  | succ fuel ih =>
    unfold scanAllFrom
    split_ifs with more
    · rw [Scan.loads_bind, sse2_silent negative, List.nil_append]
      split_ifs with none
      · rfl
      · dsimp only
        rw [Scan.loads_bind, ih]
        rfl
    · rfl

/-- Behind the first hit, what has to fit is what had to fit before, but for the whole. -/
theorem blocksFit_behind {found : Nat → Prop} {p : Nat} (some : pattern.bytes ≠ [])
    (inside : p < positions size pattern) (hits : found (start + p))
    (before : ∀ q < p, ¬ found (start + q)) (more : pattern.bytes.length < size) :
    BlocksFit found pattern start size
      ↔ BlockFits pattern size ∧ BlocksFit found pattern (start + (p + 1)) (size - (p + 1)) := by
  have count (size : Nat) : positions size pattern = size + 1 - pattern.bytes.length := if_neg some
  have length : 0 < pattern.bytes.length := List.length_pos_iff.mpr some
  rw [count] at inside
  constructor
  · intro fit
    obtain ⟨whole, behind⟩ := fit more
    refine ⟨whole, fun longer => ⟨behind p (by rw [count]; omega) hits longer, ?_⟩⟩
    intro q inside' hits' longer'
    have address : start + (p + 1) + q = start + (p + 1 + q) := Nat.add_assoc _ _ _
    have rest : size - (p + 1) - (q + 1) = size - (p + 1 + q + 1) := by omega
    rw [count] at inside'
    rw [address] at hits'
    rw [rest] at longer' ⊢
    exact behind _ (by rw [count]; omega) hits' longer'
  · rintro ⟨whole, behind⟩ -
    refine ⟨whole, fun q inside' hits' longer => ?_⟩
    rw [count] at inside'
    rcases Nat.lt_trichotomy q p with less | rfl | greater
    · exact absurd hits' (before q less)
    · exact (behind longer).1
    · obtain ⟨offset, rfl⟩ := Nat.exists_eq_add_of_lt greater
      have address : start + (p + offset + 1) = start + (p + 1) + offset := by omega
      have rest : size - (p + offset + 1 + 1) = size - (p + 1) - (offset + 1) := by omega
      rw [address] at hits'
      rw [rest] at longer ⊢
      exact (behind (by omega)).2 offset (by rw [count]; omega) hits' longer

theorem scanAllFrom_within_iff (some : pattern.bytes ≠ []) (looks : ¬ pattern.firstFixed < 0)
    (fuel current remaining : Nat) (enough : remaining ≤ fuel) (mapped : 0 < current) :
    (∀ load ∈ (scanAllFrom memory pattern fuel current remaining).loads,
        load.Within current (current + remaining))
      ↔ BlocksFit (Hit memory pattern pattern.firstFixed.toNatClampNeg) pattern current remaining := by
  induction fuel generalizing current remaining with
  | zero => exact iff_of_true (fun load inside => (nomatch inside)) fun more => absurd more (by omega)
  | succ fuel ih =>
    unfold scanAllFrom
    split_ifs with more
    · have somewhere : 0 < positions remaining pattern := somewhere_iff.mpr ⟨some, Nat.le_of_lt more⟩
      have first := sse2_isFirst memory current remaining pattern looks
      have one := sse2_within_iff memory current remaining pattern
      have fits := imp_iff_right (b := BlockFits pattern remaining) somewhere
      rw [Scan.loads_bind]
      rcases first with ⟨p, inside, hits, before, value⟩ | ⟨none, value⟩
      · have count : positions remaining pattern = remaining + 1 - pattern.bytes.length := if_neg some
        have length : 0 < pattern.bytes.length := List.length_pos_iff.mpr some
        have advance : current + p - current + 1 = p + 1 := by omega
        rw [value, if_neg (by omega)]
        dsimp only
        rw [Scan.loads_bind, advance, blocksFit_behind some inside hits before more,
          ← ih (current + (p + 1)) (remaining - (p + 1)) (by omega) (by omega)]
        have last : current + (p + 1) + (remaining - (p + 1)) = current + remaining := by omega
        rw [last]
        constructor
        · intro within
          refine ⟨fits.mp (one.mp fun load member => within load (List.mem_append_left _ member)), ?_⟩
          intro load member
          refine ⟨scanAllFrom_above _ _ _ load member, ?_⟩
          exact (within load (List.mem_append_right _ (List.mem_append_left _ member))).2
        · rintro ⟨block, later⟩ load member
          rcases List.mem_append.mp member with here | there
          · exact one.mpr (fun _ => block) load here
          · rcases List.mem_append.mp there with there | there
            · obtain ⟨low, high⟩ := later load there
              exact ⟨by omega, high⟩
            · cases there
      · rw [value, if_pos rfl, Scan.loads_pure, List.append_nil, one, fits]
        refine ⟨fun block _ => ⟨block, fun p inside hits => absurd hits (none p inside)⟩,
          fun fit => (fit more).1⟩
    · exact iff_of_true (fun load inside => (nomatch inside)) fun longer => absurd longer more

/-- An index that has wrapped around is far below the end of its pattern. -/
theorem firstFixed_wrapped {i : Nat} (found : pattern.firstFixedIndex = some i)
    (large : 2 ^ 31 ≤ i) (looks : ¬ pattern.firstFixed < 0) : 2 ^ 32 ≤ i := by
  by_contra small
  refine looks ?_
  unfold ParsedPattern.firstFixed
  rw [found, Int32.lt_iff_toInt_lt]
  show (Int32.ofNat i).toInt < 0
  have size : Int32.size = 4294967296 := rfl
  rw [Int32.toInt_ofNat', Int.bmod_def, size]
  split_ifs <;> omega

/-- It makes no difference here whether hits or matches are counted. -/
theorem blocksFit_iff (memory : Memory) (start size : Nat) (pattern : ParsedPattern) :
    BlocksFit (Hit memory pattern pattern.firstFixed.toNatClampNeg) pattern start size
      ↔ BlocksFit (Matches memory pattern) pattern start size := by
  have always (fit : ∀ size, pattern.bytes.length < size → BlockFits pattern size)
      (found : Nat → Prop) : BlocksFit found pattern start size :=
    fun more => ⟨fit size more, fun p _ _ longer => fit _ longer⟩
  by_cases negative : pattern.firstFixed < 0
  · exact iff_of_true (always (fun _ _ => .inl negative) _) (always (fun _ _ => .inl negative) _)
  · cases found : pattern.firstFixedIndex with
    | none =>
      refine absurd ?_ negative
      unfold ParsedPattern.firstFixed
      rw [found]
      decide
    | some i =>
      by_cases small : i < 2 ^ 31
      · have same (address : Nat) := @hit_iff_matches memory pattern i found small address
        unfold BlocksFit
        simp only [same]
      · have wrapped := firstFixed_wrapped found (Nat.not_lt.mp small) negative
        have inside := (firstFixedIndex_some found).1
        have bound := Int32.toNatClampNeg_lt pattern.firstFixed
        have fit (size : Nat) (longer : pattern.bytes.length < size) : BlockFits pattern size :=
          .inr (by omega)
        exact iff_of_true (always fit _) (always fit _)

/-- **What the fast scan loads lies in its region exactly if its first block does**, and what the scan
for all matches loads exactly if the first block of every scan does that it makes. -/
theorem scans_within_iff (memory : Memory) (region : Region) (pattern : ParsedPattern) :
    ((∀ load ∈ (scanRegionSSE2 memory region.start region.size pattern).loads,
          load.Within region.start (region.start + region.size))
        ↔ (0 < positions region.size pattern → BlockFits pattern region.size))
      ∧ ((∀ load ∈ (scanRegionAll memory region.start region.size pattern).loads,
            load.Within region.start (region.start + region.size))
          ↔ (0 < positions region.size pattern →
            BlocksFit (Matches memory pattern) pattern region.start region.size)) := by
  refine ⟨sse2_within_iff memory region.start region.size pattern, ?_⟩
  rcases Nat.eq_zero_or_pos (positions region.size pattern) with nowhere | somewhere
  · refine iff_of_true ?_ fun some => absurd some (by omega)
    have short := mt somewhere_iff.mpr (Nat.not_lt.mpr (Nat.le_of_eq nowhere))
    unfold scanRegionAll
    rw [if_pos (by rw [not_and_or, not_not, Nat.not_le] at short; exact short)]
    exact fun load inside => (nomatch inside)
  · obtain ⟨some, fits⟩ := somewhere_iff.mp somewhere
    unfold scanRegionAll
    rw [if_neg (not_or.mpr ⟨some, Nat.not_lt.mpr fits⟩), imp_iff_right somewhere, ← blocksFit_iff]
    by_cases negative : pattern.firstFixed < 0
    · rw [scanAllFrom_silent negative]
      refine iff_of_true (fun load inside => (nomatch inside)) fun _ => ?_
      exact ⟨.inl negative, fun p _ _ _ => .inl negative⟩
    · exact scanAllFrom_within_iff some negative _ _ _ (Nat.le_refl _) region.mapped

/-- A region of one byte, of which the fast scan loads sixteen; and a region of seventeen with a match
at the fourth, behind which there are thirteen left. -/
theorem scans_overrun :
    (¬ ∀ load ∈ (scanRegionSSE2 (fun _ => 0) 0x1000 1 (padded 0)).loads, load.Within 0x1000 (0x1000 + 1))
      ∧ (∀ load ∈ (scanRegionSSE2 (fun address => if address = 0x1003 then 7 else 0) 0x1000 17
          (padded 0)).loads, load.Within 0x1000 (0x1000 + 17))
      ∧ ¬ ∀ load ∈ (scanRegionAll (fun address => if address = 0x1003 then 7 else 0) 0x1000 17
          (padded 0)).loads, load.Within 0x1000 (0x1000 + 17) := by
  refine ⟨?_, ?_, ?_⟩
  · decide +kernel
  · decide +kernel
  · decide +kernel

end ScannerEngine

end KenshiMP
