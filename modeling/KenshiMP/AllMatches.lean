/-
**Whether the scans for all matches find them all.**

Two copies of a loop call a scan again behind each position that it has found, as long as what remains
is larger than the pattern. The last position of a region is where the pattern is as large as what
remains.

* `loop_eq`: what such a loop returns, for any scan that returns the first position it finds;
* `all_matches_iff`: both scans return all matches, in order, exactly if the last position matches
  only behind one that does not, and the fast scan keeps the index of the first fixed byte.
-/

import KenshiMP.RegionScans
import KenshiMP.Scanner.PatternScanner

namespace KenshiMP

namespace ScannerEngine

/-! ### The loop -/

section Loop

variable {found : ℕ → Prop} [DecidablePred found]

/-- What the loop reports between a first position and the last one: the last one only if the loop
comes to an earlier one before, and goes on behind a position that is not found. -/
def Reported (found : ℕ → Prop) (first last a : ℕ) : Prop :=
  found a ∧ (a = last → first < last ∧ ¬ found (last - 1))

instance reported_decidable (first last : ℕ) : DecidablePred (Reported found first last) :=
  fun _ => inferInstanceAs (Decidable (_ ∧ (_ → _)))

/-- **What a loop returns** that calls a scan again behind each position that it has found. -/
theorem loop_eq {length : ℕ} (some : 0 < length) (scan : ℕ → ℕ → ℕ) (loop : ℕ → ℕ → ℕ → List ℕ)
    (zero : ∀ current remaining, loop 0 current remaining = [])
    (succ : ∀ fuel current remaining, loop (fuel + 1) current remaining
      = if length < remaining then
          if scan current remaining = 0 then []
          else scan current remaining
            :: loop fuel (current + (scan current remaining - current + 1))
              (remaining - (scan current remaining - current + 1))
        else [])
    (first : ∀ current remaining, length ≤ remaining →
      IsFirst found (remaining + 1 - length) current (scan current remaining))
    (fuel current remaining : ℕ) (placed : 0 < current) (enough : remaining ≤ fuel + length) :
    loop fuel current remaining
      = (List.range' current (remaining + 1 - length)).filter
          (Reported found current (current + (remaining - length))) := by
  -- where the loop stops, the last position is the first one
  have stops {current remaining : ℕ} (least : remaining ≤ length) :
      (List.range' current (remaining + 1 - length)).filter
        (Reported found current (current + (remaining - length))) = [] := by
    refine List.filter_eq_nil_iff.mpr fun a inside reported => ?_
    obtain ⟨i, less, rfl⟩ := List.mem_range'.mp inside
    have last : i = 0 ∧ remaining - length = 0 := by omega
    obtain ⟨-, only⟩ := of_decide_eq_true reported
    rw [last.1, last.2] at only
    exact Nat.lt_irrefl _ (only (by omega)).1
  induction fuel generalizing current remaining with
  | zero =>
    rw [zero, stops (by omega)]
  | succ fuel ih =>
    rw [succ]
    by_cases more : length < remaining
    · rw [if_pos more]
      rcases first current remaining more.le with ⟨p, inside, hit, before, value⟩ | ⟨none, value⟩
      · have hits : scan current remaining ≠ 0 := by omega
        have advance : scan current remaining - current + 1 = p + 1 := by omega
        rw [if_neg hits, advance, value, ih _ _ (by omega) (by omega)]
        have whole : remaining + 1 - length = p + (1 + (remaining - (p + 1) + 1 - length)) := by omega
        have missed : (List.range' current p).filter
            (Reported found current (current + (remaining - length))) = [] := by
          refine List.filter_eq_nil_iff.mpr fun a member reported => ?_
          obtain ⟨i, less, rfl⟩ := List.mem_range'.mp member
          rw [Nat.one_mul] at reported
          exact before i less (of_decide_eq_true reported).1
        have here : Reported found current (current + (remaining - length)) (current + p) := by
          refine ⟨hit, fun last => ⟨by omega, ?_⟩⟩
          have previous : current + (remaining - length) - 1 = current + (p - 1) := by omega
          rw [previous]
          exact before (p - 1) (by omega)
        rw [whole, ← List.range'_append_1, List.filter_append, missed, List.nil_append, Nat.add_comm 1,
          List.range'_succ, List.filter_cons, if_pos (decide_eq_true here)]
        congr 1
        refine List.filter_congr fun a member => decide_eq_decide.mpr ?_
        obtain ⟨i, less, rfl⟩ := List.mem_range'.mp member
        have last : current + (p + 1) + (remaining - (p + 1) - length)
            = current + (remaining - length) := by omega
        unfold Reported
        rw [last]
        refine and_congr_right fun _ => imp_congr_right fun atLast => ?_
        constructor
        · exact fun both => ⟨by omega, both.2⟩
        · rintro ⟨-, apart⟩
          refine ⟨?_, apart⟩
          by_contra none
          have previous : current + (remaining - length) - 1 = current + p := by omega
          rw [previous] at apart
          exact apart hit
      · rw [if_pos value]
        refine (List.filter_eq_nil_iff.mpr fun a member reported => ?_).symm
        obtain ⟨i, less, rfl⟩ := List.mem_range'.mp member
        rw [Nat.one_mul] at reported
        exact none i less (of_decide_eq_true reported).1
    · rw [if_neg more, stops (by omega)]

end Loop

/-! ### All matches -/

variable {pattern : ParsedPattern}

instance matches_decidable (memory : Memory) (pattern : ParsedPattern) :
    DecidablePred (Matches memory pattern) := fun address =>
  inferInstanceAs (Decidable (∀ j < pattern.bytes.length, pattern.fixed j = true →
    memory (address + j) = pattern.byteAt j))

instance hit_decidable (memory : Memory) (pattern : ParsedPattern) (offset : ℕ) :
    DecidablePred (Hit memory pattern offset) := fun _ => inferInstanceAs (Decidable (_ ∧ _))

/-- What the fast scan takes for a match: everything if it has no index to look for, and otherwise a
match that has the byte under the index. -/
def Taken (memory : Memory) (pattern : ParsedPattern) (address : ℕ) : Prop :=
  pattern.firstFixed < 0 ∨ Hit memory pattern pattern.firstFixed.toNatClampNeg address

instance taken_decidable (memory : Memory) (pattern : ParsedPattern) :
    DecidablePred (Taken memory pattern) := fun _ => inferInstanceAs (Decidable (_ ∨ _))

/-- The fast scan returns the first position that it takes for a match. -/
theorem sse2_taken (memory : Memory) (start size : ℕ) (pattern : ParsedPattern) :
    IsFirst (Taken memory pattern) (positions size pattern) start
      (scanRegionSSE2 memory start size pattern).value := by
  by_cases negative : pattern.firstFixed < 0
  · rcases Nat.eq_zero_or_pos (positions size pattern) with nowhere | somewhere
    · rw [sse2_nowhere nowhere, nowhere]
      exact .none fun p inside => absurd inside (Nat.not_lt_zero p)
    · rw [sse2_negative negative somewhere]
      exact .here somewhere (.inl negative)
  · refine (sse2_isFirst memory start size pattern negative).congr fun p _ => ?_
    exact (or_iff_right negative).symm

/-- All matches in a region, in order. -/
def allMatches (memory : Memory) (start size : ℕ) (pattern : ParsedPattern) : List ℕ :=
  (List.range' start (positions size pattern)).filter (Matches memory pattern)

/-- What the loop over the fast scan returns. -/
theorem scanRegionAll_value (memory : Memory) (region : Region) (pattern : ParsedPattern) :
    (scanRegionAll memory region.start region.size pattern).value
      = (List.range' region.start (positions region.size pattern)).filter
          (Reported (Taken memory pattern) region.start
            (region.start + (region.size - pattern.bytes.length))) := by
  unfold scanRegionAll
  rcases Nat.eq_zero_or_pos (positions region.size pattern) with nowhere | somewhere
  · have short : pattern.bytes = [] ∨ region.size < pattern.bytes.length := by
      by_contra fits
      obtain ⟨some, long⟩ := not_or.mp fits
      exact nowhere.not_gt (somewhere_iff.mpr ⟨some, Nat.not_lt.mp long⟩)
    rw [if_pos short, nowhere]
    rfl
  · obtain ⟨some, fits⟩ := somewhere_iff.mp somewhere
    have count : positions region.size pattern = region.size + 1 - pattern.bytes.length := if_neg some
    rw [if_neg (not_or.mpr ⟨some, Nat.not_lt.mpr fits⟩), count]
    refine loop_eq (List.length_pos_iff.mpr some)
      (fun current remaining => (scanRegionSSE2 memory current remaining pattern).value)
      (fun fuel current remaining => (scanAllFrom memory pattern fuel current remaining).value)
      (fun _ _ => rfl) (fun fuel current remaining => ?_) (fun current remaining _ => ?_)
      region.size region.start region.size region.mapped (Nat.le_add_right _ _)
    · rw [scanAllFrom]
      split_ifs with more none
      · rw [Scan.value_bind, if_pos none]
        rfl
      · rw [Scan.value_bind, if_neg none]
        rfl
      · rfl
    · have taken := sse2_taken memory current remaining pattern
      rwa [show positions remaining pattern = remaining + 1 - pattern.bytes.length from if_neg some]
        at taken

/-- What the loop over the plain scan returns. -/
theorem findAllIn_value (memory : Memory) (region : Region) (pattern : ParsedPattern) :
    (PatternScanner.findAllIn memory region.start region.size pattern).value
      = (List.range' region.start (positions region.size pattern)).filter
          (Reported (Matches memory pattern) region.start
            (region.start + (region.size - pattern.bytes.length))) := by
  have step (fuel current remaining : ℕ) :
      (PatternScanner.findAllFrom memory pattern (fuel + 1) current remaining).value
        = if pattern.bytes.length < remaining then
            if (scanRegionLinear memory current remaining pattern).value = 0 then []
            else (scanRegionLinear memory current remaining pattern).value
              :: (PatternScanner.findAllFrom memory pattern fuel
                (current + ((scanRegionLinear memory current remaining pattern).value - current + 1))
                (remaining
                  - ((scanRegionLinear memory current remaining pattern).value - current + 1))).value
          else [] := by
    rw [PatternScanner.findAllFrom]
    unfold PatternScanner.scanRegion
    split_ifs with more none
    · rw [Scan.value_bind, if_pos none]
      rfl
    · rw [Scan.value_bind, if_neg none]
      rfl
    · rfl
  unfold PatternScanner.findAllIn
  by_cases empty : pattern.bytes = []
  · rw [show positions region.size pattern = 0 from if_pos empty]
    cases region.size with
    | zero => rfl
    | succ fuel =>
      have none (current remaining : ℕ) : (scanRegionLinear memory current remaining pattern).value = 0 := by
        unfold scanRegionLinear
        rw [if_pos (Or.inl empty)]
        rfl
      rw [step, if_pos (none _ _), ite_self]
      rfl
  · rw [show positions region.size pattern = region.size + 1 - pattern.bytes.length from if_neg empty]
    refine loop_eq (List.length_pos_iff.mpr empty)
      (fun current remaining => (scanRegionLinear memory current remaining pattern).value)
      (fun fuel current remaining =>
        (PatternScanner.findAllFrom memory pattern fuel current remaining).value)
      (fun _ _ => rfl) step (fun current remaining _ => ?_) region.size region.start region.size
      region.mapped (Nat.le_add_right _ _)
    have first := linear_isFirst memory current remaining pattern
    rwa [show positions remaining pattern = remaining + 1 - pattern.bytes.length from if_neg empty]
      at first

/-! ### When all are found -/

/-- Before the last position the fast scan takes the matches for matches, and the last one is a match
exactly if it takes it for one behind a position that does not match. -/
def AllKept (memory : Memory) (region : Region) (pattern : ParsedPattern) : Prop :=
  (∀ p < region.size - pattern.bytes.length,
      Taken memory pattern (region.start + p) ↔ Matches memory pattern (region.start + p))
    ∧ (Matches memory pattern (region.start + (region.size - pattern.bytes.length))
      ↔ Taken memory pattern (region.start + (region.size - pattern.bytes.length))
        ∧ 0 < region.size - pattern.bytes.length
        ∧ ¬ Matches memory pattern (region.start + (region.size - pattern.bytes.length) - 1))

/-- Lists that keep the same entries. -/
theorem filter_eq_iff {list : List ℕ} {one two : ℕ → Prop} [DecidablePred one] [DecidablePred two] :
    list.filter one = list.filter two ↔ ∀ a ∈ list, one a ↔ two a := by
  constructor
  · intro same a inside
    have member : a ∈ list.filter one ↔ a ∈ list.filter two := by rw [same]
    simpa [inside] using member
  · exact fun same => List.filter_congr fun a inside => decide_eq_decide.mpr (same a inside)

/-- The positions of a region are those before the last one, and the last one. -/
theorem forall_positions (region : Region) (somewhere : 0 < positions region.size pattern)
    {P : ℕ → Prop} :
    (∀ a ∈ List.range' region.start (positions region.size pattern), P a)
      ↔ (∀ p < region.size - pattern.bytes.length, P (region.start + p))
        ∧ P (region.start + (region.size - pattern.bytes.length)) := by
  obtain ⟨some, fits⟩ := somewhere_iff.mp somewhere
  have count : positions region.size pattern = region.size + 1 - pattern.bytes.length := if_neg some
  constructor
  · intro all
    have each (p : ℕ) (inside : p < positions region.size pattern) : P (region.start + p) :=
      all _ (List.mem_range'.mpr ⟨p, inside, by rw [Nat.one_mul]⟩)
    exact ⟨fun p before => each p (by omega), each _ (by omega)⟩
  · rintro ⟨before, last⟩ a inside
    obtain ⟨p, less, rfl⟩ := List.mem_range'.mp inside
    rw [Nat.one_mul]
    rcases Nat.lt_or_ge p (region.size - pattern.bytes.length) with earlier | rest
    · exact before p earlier
    · rw [show p = region.size - pattern.bytes.length by omega]
      exact last

/-- **When the loop over a scan returns all matches.** -/
theorem reported_iff_matches {taken matches' : ℕ → Prop} {first n : ℕ} :
    ((∀ p < n, Reported taken first (first + n) (first + p) ↔ matches' (first + p))
        ∧ (Reported taken first (first + n) (first + n) ↔ matches' (first + n)))
      ↔ (∀ p < n, taken (first + p) ↔ matches' (first + p))
        ∧ (matches' (first + n) ↔ taken (first + n) ∧ 0 < n ∧ ¬ matches' (first + n - 1)) := by
  have early {p : ℕ} (before : p < n) : Reported taken first (first + n) (first + p) ↔ taken (first + p) :=
    and_iff_left fun last => absurd last (by omega)
  have earlier : (∀ p < n, Reported taken first (first + n) (first + p) ↔ matches' (first + p))
      ↔ ∀ p < n, taken (first + p) ↔ matches' (first + p) :=
    forall_congr' fun p => forall_congr' fun before => by rw [early before]
  rw [earlier]
  refine and_congr_right fun same => ?_
  have last : Reported taken first (first + n) (first + n)
      ↔ taken (first + n) ∧ 0 < n ∧ ¬ matches' (first + n - 1) := by
    refine and_congr_right fun _ => ?_
    rw [imp_iff_right rfl, Nat.lt_add_right_iff_pos]
    refine and_congr_right fun some => not_congr ?_
    rw [show first + n - 1 = first + (n - 1) by omega]
    exact same (n - 1) (by omega)
  rw [last]
  exact iff_comm

section Somewhere

variable (memory : Memory) (region : Region) (pattern : ParsedPattern)
  (somewhere : 0 < positions region.size pattern)

include somewhere

theorem scanRegionAll_all_iff :
    (scanRegionAll memory region.start region.size pattern).value
        = allMatches memory region.start region.size pattern
      ↔ AllKept memory region pattern := by
  rw [scanRegionAll_value]
  unfold allMatches AllKept
  rw [filter_eq_iff, forall_positions region somewhere]
  exact reported_iff_matches

/-- The plain scan takes nothing but matches. -/
theorem findAllIn_all_iff :
    (PatternScanner.findAllIn memory region.start region.size pattern).value
        = allMatches memory region.start region.size pattern
      ↔ (Matches memory pattern (region.start + (region.size - pattern.bytes.length)) →
          0 < region.size - pattern.bytes.length
            ∧ ¬ Matches memory pattern (region.start + (region.size - pattern.bytes.length) - 1)) := by
  rw [findAllIn_value]
  unfold allMatches
  rw [filter_eq_iff, forall_positions region somewhere, reported_iff_matches]
  rw [and_iff_right fun p _ => Iff.rfl]
  exact ⟨fun both here => (both.mp here).2, fun behind =>
    ⟨fun here => ⟨here, behind here⟩, fun both => both.1⟩⟩

/-- The plain scan of a scanner, of its code section or of the whole module. -/
theorem findAll_all_iff (scanner : PatternScanner) {text : CString}
    (parsed : PatternScanner.parse text = some pattern)
    (scanned : (region.start, region.size) = if scanner.textOnly then (scanner.textBase, scanner.textSize)
      else (scanner.moduleBase, scanner.moduleSize)) :
    (PatternScanner.findAll memory scanner text).value = allMatches memory region.start region.size pattern
      ↔ (Matches memory pattern (region.start + (region.size - pattern.bytes.length)) →
          0 < region.size - pattern.bytes.length
            ∧ ¬ Matches memory pattern (region.start + (region.size - pattern.bytes.length) - 1)) := by
  have here : PatternScanner.findAll memory scanner text
      = PatternScanner.findAllIn memory region.start region.size pattern := by
    unfold PatternScanner.findAll
    rw [parsed]
    simp only
    split_ifs at scanned ⊢
    · rw [← (Prod.mk.inj scanned).1, ← (Prod.mk.inj scanned).2]
    · rw [← (Prod.mk.inj scanned).1, ← (Prod.mk.inj scanned).2]
  rw [here]
  exact findAllIn_all_iff memory region pattern somewhere

end Somewhere

/-- **Both scans return all matches exactly if all are kept.** -/
theorem all_matches_iff (memory : Memory) (region : Region) (pattern : ParsedPattern) :
    ((scanRegionAll memory region.start region.size pattern).value
          = allMatches memory region.start region.size pattern
        ∧ (PatternScanner.findAllIn memory region.start region.size pattern).value
          = allMatches memory region.start region.size pattern)
      ↔ (0 < positions region.size pattern → AllKept memory region pattern) := by
  rcases Nat.eq_zero_or_pos (positions region.size pattern) with nowhere | somewhere
  · refine iff_of_true ⟨?_, ?_⟩ fun somewhere => absurd somewhere (by omega)
    · rw [scanRegionAll_value]
      unfold allMatches
      rw [nowhere]
      rfl
    · rw [findAllIn_value]
      unfold allMatches
      rw [nowhere]
      rfl
  · rw [imp_iff_right somewhere, scanRegionAll_all_iff memory region pattern somewhere,
      findAllIn_all_iff memory region pattern somewhere, and_iff_left_of_imp]
    exact fun kept here => (kept.2.mp here).2

/-- A memory of one byte, and a pattern of it. -/
def constant : Memory := fun _ => 0x90
def single : ParsedPattern := ⟨[0x90], [true], rfl⟩

/-- The only position of a region is missed, and the last of two as well. -/
theorem all_matches_fail :
    ((scanRegionAll constant 0x1000 1 single).value = []
        ∧ (scanRegionAll constant 0x1000 2 single).value = [0x1000]
        ∧ (PatternScanner.findAllIn constant 0x1000 2 single).value = [0x1000])
      ∧ (scanRegionAll constant 0x1000 1 single).value ≠ allMatches constant 0x1000 1 single
      ∧ (scanRegionAll constant 0x1000 2 single).value ≠ allMatches constant 0x1000 2 single
      ∧ (PatternScanner.findAllIn constant 0x1000 2 single).value
        ≠ allMatches constant 0x1000 2 single := by
  decide +kernel

end ScannerEngine

end KenshiMP
