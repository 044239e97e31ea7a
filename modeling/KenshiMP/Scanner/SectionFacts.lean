/-
**What a search over sections returns.**

The places of a pattern are the addresses at which it fits into a region, with the name of the region,
in the order in which a search comes to them. `find_value`: a search returns the first place that it
takes for a match.
-/

import KenshiMP.AllMatches
import KenshiMP.Scanner.SectionScans

namespace KenshiMP

open Wire (Bytes ascii)

namespace ScannerEngine

/-! ### Regions -/

theorem findSection_name {engine : ScannerEngine} {name : Bytes} {sec : PESection}
    (found : engine.findSection name = some sec) : sec.name = name := by
  have named := List.find?_some found
  exact of_decide_eq_true named

/-- Two regions of one name are the same. -/
theorem region_unique {engine : ScannerEngine} {region other : ScanRegion}
    (inside : region ∈ engine.getScanRegions) (inside' : other ∈ engine.getScanRegions)
    (same : region.sectionName = other.sectionName) : region = other := by
  unfold getScanRegions at inside inside'
  split_ifs at inside inside' with restricted
  · obtain ⟨name, -, found⟩ := List.mem_filterMap.mp inside
    obtain ⟨name', -, found'⟩ := List.mem_filterMap.mp inside'
    obtain ⟨sec, at1, rfl⟩ := Option.map_eq_some_iff.mp found
    obtain ⟨sec', at2, rfl⟩ := Option.map_eq_some_iff.mp found'
    have named := findSection_name at1
    have named' := findSection_name at2
    have names : sec.name = sec'.name := same
    have found : some sec = some sec' := by
      rw [← at1, ← at2, ← named, ← named', names]
    rw [Option.some.inj found]
  · cases text : engine.findSection (ascii ".text") with
    | none =>
      rw [text] at inside inside'
      rw [List.mem_singleton.mp inside, List.mem_singleton.mp inside']
    | some sec =>
      rw [text] at inside inside'
      rw [List.mem_singleton.mp inside, List.mem_singleton.mp inside']

/-! ### Places -/

/-- Where a pattern fits into a region. -/
def placesIn (pattern : ParsedPattern) (region : ScanRegion) : List (Bytes × Nat) :=
  (List.range' region.start (positions region.size pattern)).map fun address =>
    (region.sectionName, address)

/-- Where it fits into some regions. -/
def places (regions : List ScanRegion) (pattern : ParsedPattern) : List (Bytes × Nat) :=
  regions.flatMap (placesIn pattern)

theorem mem_placesIn {pattern : ParsedPattern} {region : ScanRegion} {place : Bytes × Nat} :
    place ∈ placesIn pattern region
      ↔ ∃ p < positions region.size pattern, place = (region.sectionName, region.start + p) := by
  unfold placesIn
  rw [List.mem_map]
  constructor
  · rintro ⟨address, inside, rfl⟩
    obtain ⟨p, less, rfl⟩ := List.mem_range'.mp inside
    exact ⟨p, less, by rw [Nat.one_mul]⟩
  · rintro ⟨p, less, rfl⟩
    exact ⟨_, List.mem_range'.mpr ⟨p, less, rfl⟩, by rw [Nat.one_mul]⟩

theorem positions_le {size : Nat} {pattern : ParsedPattern} : positions size pattern ≤ size := by
  unfold positions
  split_ifs with empty
  · exact Nat.zero_le size
  · have some := List.length_pos_iff.mpr empty
    omega

/-- No place is beyond the last address. -/
theorem place_lt {regions : List ScanRegion} {pattern : ParsedPattern} {place : Bytes × Nat}
    (inside : place ∈ places regions pattern) : place.2 < 2 ^ 64 := by
  obtain ⟨region, -, here⟩ := List.mem_flatMap.mp inside
  obtain ⟨p, less, rfl⟩ := mem_placesIn.mp here
  have bound : p < region.size := lt_of_lt_of_le less positions_le
  have fits := region.fits
  show region.start + p < 2 ^ 64
  omega

/-! ### Results -/

/-- The result at a place. -/
def placeResult (offset : Int32) (place : Bytes × Nat) : ScanResult where
  address := UInt64.ofNat place.2 + extended offset
  valid := true
  sectionName := place.1
  confidence := lit 1 1

/-- The place can be told from the address and the section of a result. -/
theorem place_eq {place other : Bytes × Nat} (bound : place.2 < 2 ^ 64) (bound' : other.2 < 2 ^ 64)
    {shift : UInt64} (addresses : UInt64.ofNat place.2 + shift = UInt64.ofNat other.2 + shift)
    (sections : place.1 = other.1) : place = other := by
  have same : UInt64.ofNat place.2 = UInt64.ofNat other.2 := (UInt64.add_left_inj shift).mp addresses
  have numbers : place.2 = other.2 := by
    have := congrArg UInt64.toNat same
    rwa [UInt64.toNat_ofNat_of_lt' bound, UInt64.toNat_ofNat_of_lt' bound'] at this
  exact Prod.ext sections numbers

/-- So it can with searches that may find nothing. -/
theorem elim_placeResult_inj {offset : Int32} {one two : Option (Bytes × Nat)}
    (bound : ∀ place, one = some place → place.2 < 2 ^ 64)
    (bound' : ∀ place, two = some place → place.2 < 2 ^ 64) :
    one.elim {} (placeResult offset) = two.elim {} (placeResult offset) ↔ one = two := by
  refine ⟨fun same => ?_, fun same => by rw [same]⟩
  cases one with
  | none =>
    cases two with
    | none => rfl
    | some place => exact absurd (congrArg ScanResult.valid same) Bool.false_ne_true
  | some place =>
    cases two with
    | none => exact absurd (congrArg ScanResult.valid same).symm Bool.false_ne_true
    | some other =>
      rw [place_eq (bound place rfl) (bound' other rfl) (congrArg ScanResult.address same)
        (congrArg ScanResult.sectionName same)]

/-- What a search takes is a place of it. -/
theorem first_taken {memory : Memory} {pattern : ParsedPattern} {list : List (Bytes × Nat)} {place : Bytes × Nat}
    (found : list.find? (fun place => Taken memory pattern place.2) = some place) :
    place ∈ list ∧ Taken memory pattern place.2 := by
  have taken := List.find?_some found
  exact ⟨List.mem_of_find?_eq_some found, of_decide_eq_true taken⟩

/-- The first position of a region, if any. -/
theorem find?_of_isFirst {hit : Nat → Prop} [DecidablePred hit] {count start value : Nat}
    (mapped : 0 < start) (first : IsFirst hit count start value) :
    (List.range' start count).find? hit = if value = 0 then none else some value := by
  rcases first with ⟨p, inside, found, before, rfl⟩ | ⟨none, rfl⟩
  · rw [if_neg (by omega), List.find?_range'_eq_some]
    refine ⟨decide_eq_true found, List.mem_range'.mpr ⟨p, inside, by omega⟩, fun j low high => ?_⟩
    obtain ⟨q, rfl⟩ := Nat.exists_eq_add_of_le low
    rw [Bool.not_eq_true']
    exact decide_eq_false (before q (by omega))
  · rw [if_pos rfl, List.find?_eq_none]
    intro address inside found
    obtain ⟨p, less, rfl⟩ := List.mem_range'.mp inside
    rw [Nat.one_mul] at found
    exact none p less (of_decide_eq_true found)

/-- What one region gives. -/
theorem find?_placesIn (memory : Memory) (pattern : ParsedPattern) (region : ScanRegion) :
    (placesIn pattern region).find? (fun place => Taken memory pattern place.2)
      = if (scanRegionSSE2 memory region.start region.size pattern).value = 0 then none
        else some (region.sectionName, (scanRegionSSE2 memory region.start region.size pattern).value) := by
  unfold placesIn
  rw [List.find?_map]
  have first := find?_of_isFirst region.mapped (sse2_taken memory region.start region.size pattern)
  have whole : ((fun place : Bytes × Nat => decide (Taken memory pattern place.2))
      ∘ fun address => (region.sectionName, address)) = fun address => decide (Taken memory pattern address) :=
    rfl
  rw [whole, first]
  split_ifs with none
  · rfl
  · rfl

/-- **A search returns the first place that it takes for a match.** -/
theorem findFrom_value (memory : Memory) (pattern : OffsetPattern) (regions : List ScanRegion) :
    (findFrom memory pattern regions).value
      = ((places regions pattern.toParsedPattern).find?
          fun place => Taken memory pattern.toParsedPattern place.2).elim {}
            (placeResult pattern.offset) := by
  induction regions with
  | nil => rfl
  | cons region others ih =>
    unfold findFrom places
    rw [List.flatMap_cons, List.find?_append, find?_placesIn, Scan.value_bind]
    by_cases none : (scanRegionSSE2 memory region.start region.size pattern.toParsedPattern).value = 0
    · rw [if_pos none, if_neg (not_not.mpr none), Option.none_or]
      exact ih
    · rw [if_neg none, if_pos none, Option.some_or]
      rfl

theorem find_value (memory : Memory) (engine : ScannerEngine) (pattern : OffsetPattern) :
    (engine.find memory pattern).value
      = ((places engine.getScanRegions pattern.toParsedPattern).find?
          fun place => Taken memory pattern.toParsedPattern place.2).elim {}
            (placeResult pattern.offset) :=
  findFrom_value memory pattern engine.getScanRegions

/-- A module without sections. -/
def smallEngine : ScannerEngine where
  image := ⟨0x1000, 16, by decide, by decide, by decide⟩
  sections := []

end ScannerEngine

end KenshiMP
