/-
**Whether a batch finds what single searches find.**

A batch goes over the bytes of a region and takes each for the first fixed byte of the patterns that
have it. Near the start of the region such a pattern would start before it, and the difference wraps
around, so that the check of the bounds accepts it; what is read then lies inside the region all the
same, since nothing in front of the first fixed byte is read.

* `batchScan_value`: an entry gets what it would get alone;
* `settle_clear`, `settle_overhung`: it is the first place that a single search takes, unless it starts
  before a region;
* `batch_agrees_iff`: a batch agrees with the single searches exactly if no entry starts before a region
  that the search comes to, those without a fixed byte fit nowhere, and those that are not found were
  blank.
-/

import KenshiMP.Scanner.SectionFacts

namespace KenshiMP

open Wire (Bytes)

namespace ScannerEngine

variable {memory : Memory} {region : ScanRegion}

/-! ### The index of the first fixed byte -/

variable {pattern : ParsedPattern} {entry : BatchEntry} {entries current : List BatchEntry}

/-- No fixed byte comes before the one under the index that is kept. -/
theorem firstFixed_le_fixed {j : Nat} (fixed : pattern.fixed j = true) :
    pattern.firstFixed.toNatClampNeg ≤ j := by
  cases found : pattern.firstFixedIndex with
  | none =>
    rw [firstFixedIndex_none found] at fixed
    cases fixed
  | some i =>
    refine le_trans (firstFixed_le found) ?_
    obtain ⟨inside, -, before⟩ := List.findIdx?_eq_some_iff_getElem.mp found
    by_contra less
    have wild := before j (Nat.not_le.mp less)
    unfold ParsedPattern.fixed at fixed
    rw [List.getD_eq_getElem?_getD, List.getElem?_eq_getElem (by omega), Option.getD_some] at fixed
    exact wild fixed

/-! ### One entry at one position -/

/-- The pattern stands where its first fixed byte is at the position; in front of that byte it may
stick out of the region. -/
def Accepts (memory : Memory) (region : ScanRegion) (pattern : ParsedPattern) (pos : Nat) : Prop :=
  let offset := pattern.firstFixed.toNatClampNeg
  pos + pattern.bytes.length ≤ region.size + offset
    ∧ memory (region.start + pos) = pattern.byteAt offset
    ∧ ∀ j < pattern.bytes.length, pattern.fixed j = true →
      memory (region.start + (j + pos - offset)) = pattern.byteAt j

instance accepts_decidable (memory : Memory) (region : ScanRegion) (pattern : ParsedPattern) :
    DecidablePred (Accepts memory region pattern) :=
  fun _ => inferInstanceAs (Decidable (_ ∧ _ ∧ _))

/-- Where the pattern starts, in 64 bits. -/
def patternStart (pattern : ParsedPattern) (pos : Nat) : UInt64 :=
  UInt64.ofNat pos - extended pattern.firstFixed

/-- What a position does to an entry. -/
def tryAt (memory : Memory) (region : ScanRegion) (entry : BatchEntry) (pos : Nat) : BatchEntry :=
  if entry.result.valid then entry
  else if ¬ entry.pattern.firstFixed < 0 ∧ Accepts memory region entry.pattern.toParsedPattern pos then
    entry.resolve region (patternStart entry.pattern.toParsedPattern pos)
  else entry

/-- From the first fixed byte on, the indices do not wrap around. -/
theorem patternStart_add {n : Nat} (pos : Nat) (looks : ¬ pattern.firstFixed < 0)
    (behind : pattern.firstFixed.toNatClampNeg ≤ n) (small : n < 2 ^ 63) (inside : pos < 2 ^ 32) :
    (patternStart pattern pos + UInt64.ofNat n).toNat = n + pos - pattern.firstFixed.toNatClampNeg := by
  obtain ⟨same, bound⟩ := extended_of_nonneg looks
  unfold patternStart
  have here : (UInt64.ofNat pos).toNat = pos := UInt64.toNat_ofNat_of_lt' (show pos < 2 ^ 64 by omega)
  have index : (UInt64.ofNat n).toNat = n := UInt64.toNat_ofNat_of_lt' (show n < 2 ^ 64 by omega)
  rw [UInt64.toNat_add, UInt64.toNat_sub, same, here, index]
  omega

section Matching

variable (pattern : ParsedPattern) (patStart : UInt64) (left j : Nat)

theorem matchFrom_value :
    (matchFrom memory region pattern patStart left j).value = true
      ↔ ∀ k < j + left, j ≤ k → pattern.fixed k = true →
        memory (region.start + (patStart + UInt64.ofNat k).toNat) = pattern.byteAt k := by
  induction left generalizing j with
  | zero => exact iff_of_true rfl fun k less low => absurd less (by omega)
  | succ left ih =>
    have split : (∀ k < j + (left + 1), j ≤ k → pattern.fixed k = true →
          memory (region.start + (patStart + UInt64.ofNat k).toNat) = pattern.byteAt k)
        ↔ (pattern.fixed j = true →
            memory (region.start + (patStart + UInt64.ofNat j).toNat) = pattern.byteAt j)
          ∧ ∀ k < j + 1 + left, j + 1 ≤ k → pattern.fixed k = true →
            memory (region.start + (patStart + UInt64.ofNat k).toNat) = pattern.byteAt k := by
      constructor
      · exact fun all => ⟨all j (by omega) le_rfl, fun k less low => all k (by omega) (by omega)⟩
      · rintro ⟨here, later⟩ k less low
        rcases Nat.eq_or_lt_of_le low with rfl | above
        · exact here
        · exact later k (by omega) above
    rw [split, ← ih, matchFrom]
    by_cases fixed : pattern.fixed j = true
    · rw [if_pos fixed, Scan.value_bind]
      show (if memory (region.start + (patStart + UInt64.ofNat j).toNat) ≠ pattern.byteAt j
        then (pure false : Scan Bool)
        else matchFrom memory region pattern patStart left (j + 1)).value = true ↔ _
      by_cases same : memory (region.start + (patStart + UInt64.ofNat j).toNat) = pattern.byteAt j
      · rw [if_neg (not_not.mpr same), and_iff_right fun _ => same]
      · rw [if_pos same]
        exact iff_of_false Bool.false_ne_true fun both => same (both.1 fixed)
    · rw [if_neg fixed, and_iff_right fun is => absurd is fixed]

theorem matchFrom_loads :
    ∀ load ∈ (matchFrom memory region pattern patStart left j).loads,
      ∃ k < j + left, pattern.fixed k = true
        ∧ load = ⟨region.start + (patStart + UInt64.ofNat k).toNat, 1⟩ := by
  induction left generalizing j with
  | zero => exact fun load member => absurd member List.not_mem_nil
  | succ left ih =>
    intro load member
    have later (inside : load ∈ (matchFrom memory region pattern patStart left (j + 1)).loads) :
        ∃ k < j + (left + 1), pattern.fixed k = true
          ∧ load = ⟨region.start + (patStart + UInt64.ofNat k).toNat, 1⟩ := by
      obtain ⟨k, less, rest⟩ := ih (j + 1) load inside
      exact ⟨k, by omega, rest⟩
    unfold matchFrom at member
    by_cases fixed : pattern.fixed j = true
    · rw [if_pos fixed, Scan.loads_bind] at member
      rcases List.mem_append.mp member with here | rest
      · exact ⟨j, by omega, fixed, List.mem_singleton.mp here⟩
      · split_ifs at rest with differs
        · exact absurd rest List.not_mem_nil
        · exact later rest
    · rw [if_neg fixed] at member
      exact later member

end Matching

/-- The check of the bounds, without wrapping. -/
theorem bounds_iff {pos : Nat} (looks : ¬ entry.pattern.firstFixed < 0)
    (some : entry.pattern.bytes ≠ []) (inside : pos < region.size) :
    ¬ UInt64.ofNat region.size
        < patternStart entry.pattern.toParsedPattern pos + UInt64.ofNat entry.pattern.bytes.length
      ↔ pos + entry.pattern.bytes.length ≤ region.size + entry.pattern.firstFixed.toNatClampNeg := by
  have small := region.small
  have behind := firstFixed_lt some
  have size : (UInt64.ofNat region.size).toNat = region.size :=
    UInt64.toNat_ofNat_of_lt' (show region.size < 2 ^ 64 by omega)
  rw [UInt64.lt_iff_toNat_lt, patternStart_add pos looks behind.le entry.held (by omega), size]
  omega

/-- A pattern with an index to look for has bytes. -/
theorem bytes_of_looks (looks : ¬ pattern.firstFixed < 0) : pattern.bytes ≠ [] := by
  intro empty
  have wild : pattern.firstFixedIndex = none := by
    cases found : pattern.firstFixedIndex with
    | none => rfl
    | some i =>
      have inside := (firstFixedIndex_some found).1
      rw [empty] at inside
      exact absurd inside (Nat.not_lt_zero i)
  unfold ParsedPattern.firstFixed at looks
  rw [wild] at looks
  exact looks (by decide)

/-- **What the check of an entry does**, where its first fixed byte stands at the position. -/
theorem checkEntry_value {pos : Nat} (looks : ¬ entry.pattern.firstFixed < 0)
    (inside : pos < region.size) (needle : memory (region.start + pos)
      = entry.pattern.byteAt entry.pattern.firstFixed.toNatClampNeg) :
    (checkEntry memory region pos entry.pattern.firstFixed entry).value = tryAt memory region entry pos := by
  have small := region.small
  have some := bytes_of_looks looks
  have index {k : Nat} (less : k < entry.pattern.bytes.length) (fixed : entry.pattern.fixed k = true) :
      (patternStart entry.pattern.toParsedPattern pos + UInt64.ofNat k).toNat
        = k + pos - entry.pattern.firstFixed.toNatClampNeg :=
    patternStart_add pos looks (firstFixed_le_fixed fixed) (by have := entry.held; omega) (by omega)
  have found : (matchFrom memory region entry.pattern.toParsedPattern
        (patternStart entry.pattern.toParsedPattern pos) entry.pattern.bytes.length 0).value = true
      ↔ ∀ j < entry.pattern.bytes.length, entry.pattern.fixed j = true →
        memory (region.start + (j + pos - entry.pattern.firstFixed.toNatClampNeg))
          = entry.pattern.byteAt j := by
    rw [matchFrom_value, Nat.zero_add]
    refine forall_congr' fun k => forall_congr' fun less => ?_
    rw [imp_iff_right (Nat.zero_le k)]
    refine forall_congr' fun fixed => ?_
    rw [index less fixed]
  have bounds := bounds_iff looks some inside
  unfold checkEntry tryAt
  by_cases valid : entry.result.valid = true
  · rw [if_pos valid, if_pos valid]
    rfl
  · rw [if_neg valid, if_neg valid]
    show (if UInt64.ofNat region.size
          < patternStart entry.pattern.toParsedPattern pos + UInt64.ofNat entry.pattern.bytes.length
        then (pure entry : Scan BatchEntry)
        else do
          let found ← matchFrom memory region entry.pattern.toParsedPattern
            (patternStart entry.pattern.toParsedPattern pos) entry.pattern.bytes.length 0
          pure (if found then entry.resolve region (patternStart entry.pattern.toParsedPattern pos)
            else entry)).value = _
    by_cases fits : pos + entry.pattern.bytes.length ≤ region.size + entry.pattern.firstFixed.toNatClampNeg
    · rw [if_neg (bounds.mpr fits), Scan.value_bind, Scan.value_pure]
      refine if_congr (found.trans ⟨fun all => ⟨looks, fits, needle, all⟩, fun all => all.2.2.2⟩) rfl rfl
    · rw [if_pos (not_not.mp (mt bounds.mp fits)), if_neg fun all => fits all.2.1]
      rfl

/-- It reads nothing outside the region. -/
theorem checkEntry_loads {pos : Nat} (looks : ¬ entry.pattern.firstFixed < 0)
    (inside : pos < region.size) :
    ∀ load ∈ (checkEntry memory region pos entry.pattern.firstFixed entry).loads,
      load.Within region.start (region.start + region.size) := by
  intro load member
  have small := region.small
  have held := entry.held
  have bounds := bounds_iff looks (bytes_of_looks looks) inside
  unfold checkEntry at member
  dsimp only at member
  split_ifs at member with valid beyond
  · exact absurd member List.not_mem_nil
  · exact absurd member List.not_mem_nil
  · have fits := bounds.mp beyond
    rw [Scan.loads_bind] at member
    rcases List.mem_append.mp member with read | none
    · obtain ⟨k, less, fixed, rfl⟩ := matchFrom_loads _ _ _ _ load read
      have behind := firstFixed_le_fixed fixed
      have index := patternStart_add pos looks behind (by omega) (by omega)
      unfold patternStart at index
      rw [index]
      refine ⟨Nat.le_add_right _ _, ?_⟩
      show region.start + (k + pos - entry.pattern.firstFixed.toNatClampNeg) + 1
        ≤ region.start + region.size
      omega
    · exact absurd none List.not_mem_nil

/-! ### All entries at one position -/

/-- The entries of a batch on the way: the patterns are the same, and what was resolved stays so. -/
def Follows (entries current : List BatchEntry) : Prop :=
  List.Forall₂ (fun before after => after.pattern = before.pattern
    ∧ (before.result.valid = true → after.result.valid = true)) entries current

theorem follows_refl (entries : List BatchEntry) : Follows entries entries :=
  List.forall₂_same.mpr fun _ _ => ⟨rfl, id⟩

theorem tryAt_pattern (entry : BatchEntry) (pos : Nat) :
    (tryAt memory region entry pos).pattern = entry.pattern := by
  unfold tryAt
  split_ifs
  · rfl
  · rfl
  · rfl

theorem tryAt_valid (valid : entry.result.valid = true) (pos : Nat) :
    tryAt memory region entry pos = entry := if_pos valid

theorem Follows.map (follows : Follows entries current)
    (step : BatchEntry → BatchEntry) (pattern : ∀ entry, (step entry).pattern = entry.pattern)
    (keeps : ∀ entry, entry.result.valid = true → step entry = entry) :
    Follows entries (current.map step) := by
  refine List.forall₂_map_right_iff.mpr (follows.imp fun before after both => ⟨?_, fun valid => ?_⟩)
  · rw [pattern, both.1]
  · rw [keeps after (both.2 valid)]
    exact both.2 valid

/-- An entry is kept under the byte, or that byte does nothing to it. -/
theorem firstByteEntry_cases (memory : Memory) (region : ScanRegion) {before after : BatchEntry}
    (n pos : Nat) (same : after.pattern = before.pattern)
    (keeps : before.result.valid = true → after.result.valid = true) :
    (¬ after.pattern.firstFixed < 0
        ∧ memory (region.start + pos) = after.pattern.byteAt after.pattern.firstFixed.toNatClampNeg
        ∧ firstByteEntry (memory (region.start + pos)) n before = some ⟨n, after.pattern.firstFixed⟩)
      ∨ (tryAt memory region after pos = after
        ∧ firstByteEntry (memory (region.start + pos)) n before = none) := by
  unfold firstByteEntry
  dsimp only
  rw [same]
  split_ifs with valid kept
  · exact .inr ⟨tryAt_valid (keeps valid) pos, rfl⟩
  · exact .inl ⟨kept.1, kept.2.symm, rfl⟩
  · refine .inr ⟨?_, rfl⟩
    unfold tryAt
    rw [same]
    split_ifs with resolved accepted
    · rfl
    · exact (kept ⟨accepted.1, accepted.2.2.1.symm⟩).elim
    · rfl

theorem byteIndexFrom_some {before : BatchEntry} {entries : List BatchEntry} {n : Nat} {b : UInt8}
    {cand : FirstByteEntry} (kept : firstByteEntry b n before = some cand) :
    byteIndexFrom n (before :: entries) b = cand :: byteIndexFrom (n + 1) entries b := by
  unfold byteIndexFrom
  rw [List.zipIdx_cons]
  exact List.filterMap_cons_some kept

theorem byteIndexFrom_none {before : BatchEntry} {entries : List BatchEntry} {n : Nat} {b : UInt8}
    (skipped : firstByteEntry b n before = none) :
    byteIndexFrom n (before :: entries) b = byteIndexFrom (n + 1) entries b := by
  unfold byteIndexFrom
  rw [List.zipIdx_cons]
  exact List.filterMap_cons_none skipped

/-- **The check of the candidates** does to every entry what the position does to it, within the region. -/
theorem checkCandidates_spec (memory : Memory)
    (follows : Follows entries current) {pos : Nat} (inside : pos < region.size) (done : List BatchEntry) :
    (checkCandidates memory region pos
        (byteIndexFrom done.length entries (memory (region.start + pos))) (done ++ current)).value
      = (done ++ current.map fun entry => tryAt memory region entry pos)
    ∧ ∀ load ∈ (checkCandidates memory region pos
        (byteIndexFrom done.length entries (memory (region.start + pos))) (done ++ current)).loads,
      load.Within region.start (region.start + region.size) := by
  induction follows generalizing done with
  | nil => exact ⟨rfl, fun load member => absurd member List.not_mem_nil⟩
  | @cons before after entries current both rest ih =>
    have next := ih (done ++ [tryAt memory region after pos])
    simp only [List.length_append, List.append_assoc] at next
    have there : (done ++ after :: current)[done.length]? = some after := by
      rw [List.getElem?_append_right le_rfl, Nat.sub_self, List.getElem?_cons_zero]
    rcases firstByteEntry_cases memory region done.length pos both.1 both.2 with
      ⟨looks, needle, kept⟩ | ⟨same, skipped⟩
    · rw [byteIndexFrom_some kept, checkCandidates, there, Scan.value_bind, Scan.loads_bind,
        checkEntry_value looks inside needle, List.set_append_right _ _ le_rfl, Nat.sub_self,
        List.set_cons_zero]
      refine ⟨next.1, fun load member => ?_⟩
      rcases List.mem_append.mp member with here | later
      · exact checkEntry_loads looks inside load here
      · exact next.2 load later
    · rw [byteIndexFrom_none skipped, List.map_cons, same]
      rw [same] at next
      exact next

/-! ### All positions of all regions -/

/-- What a region does to an entry. -/
def settleIn (memory : Memory) (entry : BatchEntry) (region : ScanRegion) : BatchEntry :=
  (List.range' 0 region.size).foldl (tryAt memory region) entry

/-- What some regions do to it. -/
def settle (memory : Memory) (regions : List ScanRegion) (entry : BatchEntry) : BatchEntry :=
  regions.foldl (settleIn memory) entry

theorem foldl_pattern (list : List Nat) (entry : BatchEntry) :
    (list.foldl (tryAt memory region) entry).pattern = entry.pattern := by
  induction list generalizing entry with
  | nil => rfl
  | cons pos rest ih => rw [List.foldl_cons, ih, tryAt_pattern]

theorem foldl_valid (list : List Nat) (valid : entry.result.valid = true) :
    list.foldl (tryAt memory region) entry = entry := by
  induction list with
  | nil => rfl
  | cons pos rest ih => rw [List.foldl_cons, tryAt_valid valid, ih]

theorem settle_valid (regions : List ScanRegion)
    (valid : entry.result.valid = true) : settle memory regions entry = entry := by
  induction regions with
  | nil => rfl
  | cons region others ih =>
    unfold settle at ih ⊢
    rw [List.foldl_cons, show settleIn memory entry region = entry from foldl_valid _ valid, ih]

theorem scanPositions_spec (memory : Memory)
    (follows : Follows entries current) (left pos : Nat) (inside : pos + left ≤ region.size) :
    (scanPositions memory (byteIndex entries) region left pos current).value
      = current.map ((List.range' pos left).foldl (tryAt memory region))
    ∧ ∀ load ∈ (scanPositions memory (byteIndex entries) region left pos current).loads,
      load.Within region.start (region.start + region.size) := by
  induction left generalizing pos current with
  | zero => exact ⟨(List.map_id current).symm, fun load member => absurd member List.not_mem_nil⟩
  | succ left ih =>
    have here : pos < region.size := by omega
    obtain ⟨checked, reads⟩ := checkCandidates_spec memory follows here []
    have later := follows.map (fun entry => tryAt memory region entry pos)
      (fun entry => tryAt_pattern entry pos) fun entry valid => tryAt_valid valid pos
    obtain ⟨value, loads⟩ := ih later (pos + 1) (by omega)
    rw [List.nil_append] at checked reads
    rw [List.nil_append] at checked
    have candidates : (checkCandidates memory region pos
        (byteIndex entries (memory.load (region.start + pos)).value) current).value = _ := checked
    rw [scanPositions, Scan.value_bind, Scan.value_bind, Scan.loads_bind, Scan.loads_bind, candidates]
    refine ⟨?_, fun load member => ?_⟩
    · rw [value, List.map_map]
      rfl
    · rcases List.mem_append.mp member with first | rest
      · rw [List.mem_singleton.mp first]
        refine ⟨Nat.le_add_right _ _, ?_⟩
        show region.start + pos + 1 ≤ region.start + region.size
        omega
      · rcases List.mem_append.mp rest with read | after
        · exact reads load read
        · exact loads load after

theorem scanRegions_spec (follows : Follows entries current) (regions : List ScanRegion) :
    (scanRegions memory (byteIndex entries) regions current).value = current.map (settle memory regions)
      ∧ ∀ load ∈ (scanRegions memory (byteIndex entries) regions current).loads,
        ∃ region ∈ regions, load.Within region.start (region.start + region.size) := by
  induction regions generalizing current with
  | nil =>
    exact ⟨(List.map_id current).symm, fun load member => absurd member List.not_mem_nil⟩
  | cons region others ih =>
    obtain ⟨scanned, reads⟩ := scanPositions_spec memory follows region.size 0
      (Nat.zero_add region.size).le
    have later := follows.map (fun entry => settleIn memory entry region)
      (fun entry => foldl_pattern _ entry) fun entry valid => foldl_valid _ valid
    obtain ⟨value, loads⟩ := ih later
    unfold scanRegions
    split_ifs with resolved
    · -- all are resolved, and no region does anything to them
      refine ⟨?_, fun load member => absurd member List.not_mem_nil⟩
      have all : ∀ entry ∈ current, settle memory (region :: others) entry = entry := by
        intro entry member
        refine settle_valid _ ?_
        have none := List.countP_eq_zero.mp resolved entry member
        rwa [decide_eq_true_eq, not_not] at none
      exact (List.map_congr_left all).trans (List.map_id current) |>.symm
    · rw [Scan.value_bind, Scan.loads_bind]
      rw [show (scanPositions memory (byteIndex entries) region region.size 0 current).value
        = current.map fun entry => settleIn memory entry region from scanned]
      refine ⟨?_, fun load member => ?_⟩
      · rw [value, List.map_map]
        rfl
      · rcases List.mem_append.mp member with here | rest
        · exact ⟨region, List.mem_cons_self, reads load here⟩
        · obtain ⟨other, inside, within⟩ := loads load rest
          exact ⟨other, List.mem_cons_of_mem _ inside, within⟩

/-- **An entry of a batch gets what it would get alone**, and nothing outside the regions is read. -/
theorem batchScan_spec (memory : Memory) (engine : ScannerEngine) (entries : List BatchEntry) :
    (engine.batchScan memory entries).value = entries.map (settle memory engine.getScanRegions)
      ∧ ∀ load ∈ (engine.batchScan memory entries).loads,
        ∃ region ∈ engine.getScanRegions, load.Within region.start (region.start + region.size) := by
  unfold batchScan
  split_ifs with none
  · rw [none]
    exact ⟨rfl, fun load member => absurd member List.not_mem_nil⟩
  · exact scanRegions_spec (follows_refl entries) engine.getScanRegions

/-! ### Patterns that start before a region -/

/-- The pattern is accepted where it starts before the region. -/
def Overhung (memory : Memory) (region : ScanRegion) (pattern : ParsedPattern) : Prop :=
  ∃ pos < pattern.firstFixed.toNatClampNeg, pos < region.size ∧ Accepts memory region pattern pos

/-- It is in none of the regions that a search comes to. -/
def Clear (memory : Memory) (pattern : ParsedPattern) : List ScanRegion → Prop
  | [] => True
  | region :: others =>
    ¬ Overhung memory region pattern
      ∧ ((∀ place ∈ placesIn pattern region, ¬ Taken memory pattern place.2) →
        Clear memory pattern others)

/-- Behind the index of the first fixed byte, what is accepted is what a single search is looking for. -/
theorem accepts_iff (some : pattern.bytes ≠ []) (p : Nat) :
    Accepts memory region pattern (p + pattern.firstFixed.toNatClampNeg)
      ↔ p < positions region.size pattern
        ∧ Hit memory pattern pattern.firstFixed.toNatClampNeg (region.start + p) := by
  have count : positions region.size pattern = region.size + 1 - pattern.bytes.length := if_neg some
  have index (j : Nat) : region.start
      + (j + (p + pattern.firstFixed.toNatClampNeg) - pattern.firstFixed.toNatClampNeg)
        = region.start + p + j := by omega
  have needle : region.start + (p + pattern.firstFixed.toNatClampNeg)
      = region.start + p + pattern.firstFixed.toNatClampNeg := (Nat.add_assoc _ _ _).symm
  have length := List.length_pos_iff.mpr some
  unfold Accepts Hit Matches
  dsimp only
  rw [count, needle]
  simp only [index]
  refine and_congr_left fun _ => ?_
  omega

theorem foldl_find? (list : List Nat) (unresolved : entry.result.valid = false) :
    list.foldl (tryAt memory region) entry = (list.find? fun pos => ¬ entry.pattern.firstFixed < 0
          ∧ Accepts memory region entry.pattern.toParsedPattern pos).elim entry
            fun pos => entry.resolve region (patternStart entry.pattern.toParsedPattern pos) := by
  induction list with
  | nil => rfl
  | cons pos rest ih =>
    have step : tryAt memory region entry pos
        = if ¬ entry.pattern.firstFixed < 0 ∧ Accepts memory region entry.pattern.toParsedPattern pos then
          entry.resolve region (patternStart entry.pattern.toParsedPattern pos) else entry :=
      if_neg (by rw [unresolved]; exact Bool.false_ne_true)
    rw [List.foldl_cons, step, List.find?_cons]
    by_cases accepted : ¬ entry.pattern.firstFixed < 0
        ∧ Accepts memory region entry.pattern.toParsedPattern pos
    · rw [if_pos accepted, decide_eq_true accepted]
      exact foldl_valid rest rfl
    · rw [if_neg accepted, decide_eq_false accepted]
      exact ih

/-- Nothing to look for, nothing found. -/
theorem settle_negative (regions : List ScanRegion)
    (unresolved : entry.result.valid = false) (negative : entry.pattern.firstFixed < 0) :
    settle memory regions entry = entry := by
  induction regions with
  | nil => rfl
  | cons region others ih =>
    have here : settleIn memory entry region = entry := by
      unfold settleIn
      rw [foldl_find? _ unresolved, List.find?_eq_none.mpr]
      · rfl
      · intro pos _ accepted
        exact (of_decide_eq_true accepted).1 negative
    unfold settle at ih ⊢
    rw [List.foldl_cons, here, ih]

theorem patternStart_eq (looks : ¬ pattern.firstFixed < 0) (pos : Nat) :
    patternStart pattern pos = UInt64.ofNat pos - UInt64.ofNat pattern.firstFixed.toNatClampNeg := by
  obtain ⟨same, bound⟩ := extended_of_nonneg looks
  have index : extended pattern.firstFixed = UInt64.ofNat pattern.firstFixed.toNatClampNeg := by
    refine UInt64.toNat_inj.mp ?_
    rw [same, UInt64.toNat_ofNat_of_lt' (show _ < 2 ^ 64 by omega)]
  unfold patternStart
  rw [index]

/-- A match that starts inside the region. -/
theorem resolve_result (entry : BatchEntry) (region : ScanRegion)
    (looks : ¬ entry.pattern.firstFixed < 0) (p : Nat) :
    (entry.resolve region (patternStart entry.pattern.toParsedPattern
        (p + entry.pattern.firstFixed.toNatClampNeg))).result
      = placeResult entry.pattern.offset (region.sectionName, region.start + p) := by
  unfold BatchEntry.resolve placeResult
  rw [patternStart_eq looks, UInt64.ofNat_add p, UInt64.add_sub_cancel, UInt64.ofNat_add]

/-- **What a region does to an unresolved entry**: it starts before the region, or it is found where a
single search finds it, or neither. -/
theorem settleIn_cases (memory : Memory) (region : ScanRegion)
    (unresolved : entry.result.valid = false) (looks : ¬ entry.pattern.firstFixed < 0) :
    (Overhung memory region entry.pattern.toParsedPattern
        ∧ ∃ pos < entry.pattern.firstFixed.toNatClampNeg, settleIn memory entry region
            = entry.resolve region (patternStart entry.pattern.toParsedPattern pos))
      ∨ ¬ Overhung memory region entry.pattern.toParsedPattern
        ∧ ((∃ place, (placesIn entry.pattern.toParsedPattern region).find?
                (fun place => Taken memory entry.pattern.toParsedPattern place.2) = some place
              ∧ (settleIn memory entry region).result = placeResult entry.pattern.offset place)
          ∨ ((placesIn entry.pattern.toParsedPattern region).find?
                (fun place => Taken memory entry.pattern.toParsedPattern place.2) = none
              ∧ settleIn memory entry region = entry)) := by
  have some := bytes_of_looks looks
  have whole : settleIn memory entry region = _ :=
    foldl_find? (List.range' 0 region.size) unresolved
  by_cases overhung : Overhung memory region entry.pattern.toParsedPattern
  · refine .inl ⟨overhung, ?_⟩
    obtain ⟨pos, before, inside, accepted⟩ := overhung
    cases found : (List.range' 0 region.size).find? fun pos => ¬ entry.pattern.firstFixed < 0
        ∧ Accepts memory region entry.pattern.toParsedPattern pos with
    | none =>
      have skipped := List.find?_range'_eq_none.mp found pos (Nat.zero_le pos) (by omega)
      rw [Bool.not_eq_true'] at skipped
      exact absurd ⟨looks, accepted⟩ (of_decide_eq_false skipped)
    | some first =>
      rw [found] at whole
      refine ⟨first, ?_, whole⟩
      obtain ⟨-, -, least⟩ := List.find?_range'_eq_some.mp found
      by_contra behind
      have skipped := least pos (Nat.zero_le pos) (by omega)
      rw [Bool.not_eq_true'] at skipped
      exact absurd ⟨looks, accepted⟩ (of_decide_eq_false skipped)
  · refine .inr ⟨overhung, ?_⟩
    -- what is accepted stands at a place
    have place {pos : Nat} (inside : pos < region.size)
        (accepted : Accepts memory region entry.pattern.toParsedPattern pos) :
        ∃ p, pos = p + entry.pattern.firstFixed.toNatClampNeg
          ∧ p < positions region.size entry.pattern.toParsedPattern
          ∧ Hit memory entry.pattern.toParsedPattern entry.pattern.firstFixed.toNatClampNeg
            (region.start + p) := by
      have behind : entry.pattern.firstFixed.toNatClampNeg ≤ pos := by
        by_contra before
        exact overhung ⟨pos, Nat.not_le.mp before, inside, accepted⟩
      obtain ⟨p, rfl⟩ := Nat.exists_eq_add_of_le' behind
      exact ⟨p, rfl, (accepts_iff some p).mp accepted⟩
    rw [find?_placesIn]
    rcases sse2_isFirst memory region.start region.size entry.pattern.toParsedPattern looks with
      ⟨p, inside, hit, before, value⟩ | ⟨none, value⟩
    · have mapped := region.mapped
      have found : (List.range' 0 region.size).find? (fun pos => ¬ entry.pattern.firstFixed < 0
          ∧ Accepts memory region entry.pattern.toParsedPattern pos)
            = .some (p + entry.pattern.firstFixed.toNatClampNeg) := by
        have behind := firstFixed_lt some
        have count : positions region.size entry.pattern.toParsedPattern
            = region.size + 1 - entry.pattern.bytes.length := if_neg some
        refine List.find?_range'_eq_some.mpr ⟨?_, ?_, fun pos _ earlier => ?_⟩
        · exact decide_eq_true ⟨looks, (accepts_iff some p).mpr ⟨inside, hit⟩⟩
        · exact List.mem_range'.mpr ⟨p + entry.pattern.firstFixed.toNatClampNeg, by omega, by omega⟩
        · rw [Bool.not_eq_true']
          refine decide_eq_false fun both => ?_
          obtain ⟨q, rfl, _, hits⟩ := place (by omega) both.2
          exact before q (by omega) hits
      rw [found] at whole
      refine .inl ⟨_, if_neg (by omega), ?_⟩
      rw [whole, value]
      exact resolve_result entry region looks p
    · have found : (List.range' 0 region.size).find? (fun pos => ¬ entry.pattern.firstFixed < 0
          ∧ Accepts memory region entry.pattern.toParsedPattern pos) = .none := by
        refine List.find?_range'_eq_none.mpr fun pos _ inside => ?_
        rw [Bool.not_eq_true']
        refine decide_eq_false fun both => ?_
        obtain ⟨q, rfl, less, hits⟩ := place (by omega) both.2
        exact none q less hits
      rw [found] at whole
      exact .inr ⟨if_pos value, whole⟩

theorem none_taken {list : List (Bytes × Nat)} :
    list.find? (fun place => Taken memory pattern place.2) = none
      ↔ ∀ place ∈ list, ¬ Taken memory pattern place.2 := by
  rw [List.find?_eq_none]
  simp only [decide_eq_true_eq]

section Looks

variable (regions : List ScanRegion) (unresolved : entry.result.valid = false)
  (looks : ¬ entry.pattern.firstFixed < 0)

include unresolved looks

/-- **Where it starts before no region, an entry gets what a single search finds.** -/
theorem settle_clear (clear : Clear memory entry.pattern.toParsedPattern regions) :
    (settle memory regions entry).result = ((places regions entry.pattern.toParsedPattern).find?
          fun place => Taken memory entry.pattern.toParsedPattern place.2).elim entry.result
            (placeResult entry.pattern.offset) := by
  induction regions with
  | nil => rfl
  | cons region others ih =>
    unfold settle places at ih ⊢
    rw [List.foldl_cons, List.flatMap_cons, List.find?_append]
    rcases settleIn_cases memory region unresolved looks with
      ⟨overhung, -⟩ | ⟨-, ⟨place, found, result⟩ | ⟨none, same⟩⟩
    · exact absurd overhung clear.1
    · rw [found, Option.some_or, Option.elim_some, ← result]
      refine congrArg BatchEntry.result (settle_valid others ?_)
      rw [result]
      rfl
    · rw [none, Option.none_or, same]
      exact ih (clear.2 (none_taken.mp none))

/-- **Where it starts before one, it is found there.** -/
theorem settle_overhung (overhung : ¬ Clear memory entry.pattern.toParsedPattern regions) :
    ∃ region ∈ regions, ∃ pos < entry.pattern.firstFixed.toNatClampNeg, settle memory regions entry
        = entry.resolve region (patternStart entry.pattern.toParsedPattern pos) := by
  induction regions with
  | nil => exact absurd trivial overhung
  | cons region others ih =>
    unfold settle at ih ⊢
    rw [List.foldl_cons]
    rcases settleIn_cases memory region unresolved looks with
      ⟨-, pos, before, result⟩ | ⟨clear, ⟨place, found, -⟩ | ⟨none, same⟩⟩
    · refine ⟨region, List.mem_cons_self, pos, before, ?_⟩
      rw [result]
      exact settle_valid others rfl
    · refine absurd ⟨clear, fun none => ?_⟩ overhung
      exact absurd (first_taken found).2 (none place (first_taken found).1)
    · rw [same]
      obtain ⟨other, inside, rest⟩ := ih fun clear' => overhung ⟨clear, fun _ => clear'⟩
      exact ⟨other, List.mem_cons_of_mem _ inside, rest⟩

end Looks

/-! ### A batch and single searches -/

/-- Two results say the same: the flag, the address and the section. -/
def Agrees (result other : ScanResult) : Prop :=
  result.valid = other.valid ∧ result.address = other.address ∧ result.sectionName = other.sectionName

/-- Nothing has been written into a result. -/
def Blank (result : ScanResult) : Prop := result.address = 0 ∧ result.sectionName = []

/-- An entry without a fixed byte fits nowhere, one with a fixed byte starts before no region that the
search comes to, and one that is not found is blank. -/
def Kept (memory : Memory) (regions : List ScanRegion) (entry : BatchEntry) : Prop :=
  (entry.pattern.firstFixed < 0 → places regions entry.pattern.toParsedPattern = [])
    ∧ (¬ entry.pattern.firstFixed < 0 → Clear memory entry.pattern.toParsedPattern regions)
    ∧ ((∀ place ∈ places regions entry.pattern.toParsedPattern,
        ¬ Taken memory entry.pattern.toParsedPattern place.2) → Blank entry.result)

/-- What starts before a region is at no place of it. -/
theorem overhang_ne {engine : ScannerEngine} {region : ScanRegion}
    (inside : region ∈ engine.getScanRegions)
    (looks : ¬ pattern.firstFixed < 0) {pos : Nat} (before : pos < pattern.firstFixed.toNatClampNeg)
    (shift : UInt64) {place : Bytes × Nat} (member : place ∈ places engine.getScanRegions pattern)
    (named : region.sectionName = place.1) :
    UInt64.ofNat region.start + patternStart pattern pos + shift ≠ UInt64.ofNat place.2 + shift := by
  intro same
  obtain ⟨other, inside', here⟩ := List.mem_flatMap.mp member
  obtain ⟨p, less, rfl⟩ := mem_placesIn.mp here
  obtain rfl := region_unique inside inside' named
  obtain ⟨-, bound⟩ := extended_of_nonneg looks
  have size := region.small
  have small : p < region.size := lt_of_lt_of_le less positions_le
  rw [patternStart_eq looks, UInt64.ofNat_add, UInt64.add_left_inj, UInt64.add_right_inj,
    UInt64.sub_eq_iff_eq_add, ← UInt64.ofNat_add] at same
  have numbers := congrArg UInt64.toNat same
  rw [UInt64.toNat_ofNat_of_lt' (show pos < 2 ^ 64 by omega),
    UInt64.toNat_ofNat_of_lt' (show p + _ < 2 ^ 64 by omega)] at numbers
  omega

/-- **An unresolved entry agrees with the single search exactly if it is kept.** -/
theorem settle_agrees_iff (memory : Memory) (engine : ScannerEngine)
    (unresolved : entry.result.valid = false) :
    Agrees (settle memory engine.getScanRegions entry).result (engine.find memory entry.pattern).value
      ↔ Kept memory engine.getScanRegions entry := by
  have blank : Agrees entry.result {} ↔ Blank entry.result :=
    and_iff_right unresolved
  rw [find_value]
  unfold Kept
  by_cases negative : entry.pattern.firstFixed < 0
  · rw [settle_negative _ unresolved negative, imp_iff_right negative,
      and_iff_right fun looks => absurd negative looks]
    cases fits : places engine.getScanRegions entry.pattern.toParsedPattern with
    | nil =>
      rw [and_iff_right rfl, imp_iff_right fun place member => absurd member List.not_mem_nil]
      exact blank
    | cons place rest =>
      have taken : Taken memory entry.pattern.toParsedPattern place.2 := .inl negative
      rw [List.find?_cons, decide_eq_true taken]
      refine iff_of_false (fun agrees => ?_) fun kept => List.cons_ne_nil _ _ kept.1
      have valid := agrees.1
      rw [unresolved] at valid
      exact absurd valid Bool.false_ne_true
  · rw [and_iff_right fun is => absurd is negative, imp_iff_right negative]
    by_cases clear : Clear memory entry.pattern.toParsedPattern engine.getScanRegions
    · rw [settle_clear _ unresolved negative clear, and_iff_right clear]
      cases found : (places engine.getScanRegions entry.pattern.toParsedPattern).find?
          fun place => Taken memory entry.pattern.toParsedPattern place.2 with
      | none =>
        rw [imp_iff_right (none_taken.mp found)]
        exact blank
      | some place =>
        obtain ⟨member, taken⟩ := first_taken found
        exact iff_of_true ⟨rfl, rfl, rfl⟩ fun none => absurd taken (none place member)
    · refine iff_of_false (fun agrees => ?_) fun kept => clear kept.1
      obtain ⟨region, inside, pos, before, settled⟩ := settle_overhung _ unresolved negative clear
      rw [settled] at agrees
      cases found : (places engine.getScanRegions entry.pattern.toParsedPattern).find?
          fun place => Taken memory entry.pattern.toParsedPattern place.2 with
      | none =>
        rw [found] at agrees
        exact absurd agrees.1.symm Bool.false_ne_true
      | some place =>
        rw [found] at agrees
        exact overhang_ne inside negative before _ (first_taken found).1 agrees.2.2 agrees.2.1

/-- **A batch agrees with the single searches exactly if every unresolved entry is kept**; what was
resolved is left alone, and nothing outside the regions is read, in any case. -/
theorem batch_agrees_iff (memory : Memory) (engine : ScannerEngine) (entries : List BatchEntry) :
    (List.Forall₂ (fun entry after => if entry.result.valid then after = entry
          else Agrees after.result (engine.find memory entry.pattern).value)
        entries (engine.batchScan memory entries).value
      ∧ ∀ load ∈ (engine.batchScan memory entries).loads,
        ∃ region ∈ engine.getScanRegions, load.Within region.start (region.start + region.size))
      ↔ ∀ entry ∈ entries, entry.result.valid = false → Kept memory engine.getScanRegions entry := by
  obtain ⟨value, loads⟩ := batchScan_spec memory engine entries
  rw [and_iff_left loads, value, List.forall₂_map_right_iff, List.forall₂_same]
  refine forall_congr' fun entry => forall_congr' fun _ => ?_
  cases valid : entry.result.valid with
  | true => exact iff_of_true (settle_valid _ valid) fun unresolved => absurd unresolved.symm Bool.false_ne_true
  | false =>
    rw [imp_iff_right rfl]
    exact settle_agrees_iff memory engine valid

/-! ### Two entries that differ -/

/-- Sixteen bytes from an address on: a one, and zeros. -/
def oneByte : Memory := fun address => if address = 0x1000 then 1 else 0

/-- Any byte and then a one; and any byte. -/
def shifted : BatchEntry := ⟨⟨⟨[0, 1], [false, true], rfl⟩, 0⟩, by decide, {}⟩
def wild : BatchEntry := ⟨⟨⟨[0], [false], rfl⟩, 0⟩, by decide, {}⟩

/-- The first is found one byte before the module, the second not at all. -/
theorem batch_differs :
    (smallEngine.batchScan oneByte [shifted, wild]).value.map (fun entry => entry.result.valid)
        = [true, false]
      ∧ (smallEngine.batchScan oneByte [shifted, wild]).value.map (fun entry => entry.result.address)
        = [0xFFF, 0]
      ∧ (smallEngine.find oneByte shifted.pattern).value.valid = false
      ∧ (smallEngine.find oneByte wild.pattern).value.address = 0x1000
      ∧ ¬ List.Forall₂ (fun entry after => if entry.result.valid then after = entry
          else Agrees after.result (smallEngine.find oneByte entry.pattern).value)
        [shifted, wild] (smallEngine.batchScan oneByte [shifted, wild]).value := by
  have valid : (smallEngine.batchScan oneByte [shifted, wild]).value.map
      (fun entry => entry.result.valid) = [true, false] := by decide +kernel
  have missed : (smallEngine.find oneByte shifted.pattern).value.valid = false := by decide +kernel
  refine ⟨valid, by decide +kernel, missed, by decide +kernel, fun both => ?_⟩
  obtain ⟨after, rest, agrees, -, same⟩ := List.forall₂_cons_left_iff.mp both
  rw [same, List.map_cons] at valid
  have found : after.result.valid = true := (List.cons.inj valid).1
  rw [if_neg (by decide)] at agrees
  rw [agrees.1, missed] at found
  exact Bool.false_ne_true found

end ScannerEngine

end KenshiMP
