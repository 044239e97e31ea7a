/-
**Whether the cache of the searches can be seen.**

A result is kept under the text of the pattern and the offset. The text ends where the last `@` stands,
so that no two searches have one key (`cacheKey_injective`), but the key does not hold the sections that
the search was restricted to, and a change of these leaves the cache as it is.

* `Stamps`: which searches have been kept since the cache was last cleared, and under which restriction;
* `findAt_findAt`: without such a change, a search does not change what another one returns;
* `findAt_value`: a search returns what it returned under the restriction it was kept under;
* `cache_transparent_iff`: in a run each search returns what it would with an empty cache exactly if the
  first place of every pattern that was kept is where it was.
-/

import KenshiMP.Lib.Machine
import KenshiMP.Scanner.SectionFacts
import KenshiMP.Server.Decimals

namespace KenshiMP

open Wire (Bytes ascii)
open Assoc

/-! ### Keys -/

theorem CString.eq_of_text {pattern other : CString} (same : other.text = pattern.text) :
    other = pattern := by
  cases other
  cases pattern
  cases same
  rfl

namespace ScannerEngine

/-- **A key tells the text and the offset.** -/
theorem cacheKey_injective {pattern other : CString} {offset offset' : Int32}
    (same : cacheKey pattern offset = cacheKey other offset') : pattern = other ∧ offset = offset' := by
  unfold cacheKey at same
  rw [List.append_assoc, List.append_assoc] at same
  obtain ⟨texts, numbers⟩ := split_eq 0x40 (decimal_not_mem (by decide)) (decimal_not_mem (by decide)) same
  exact ⟨CString.eq_of_text texts, Int32.toInt_inj.mp (decimal_injective numbers)⟩

/-- **A search does not change what another one returns.** -/
theorem findAt_findAt (memory : Memory) (engine : ScannerEngine) (pattern other : CString)
    (offset offset' : Int32) :
    ((engine.findAt memory pattern offset).2.findAt memory other offset').1
      = (engine.findAt memory other offset').1 := by
  cases cached : engine.cache.lookup (cacheKey pattern offset) with
  | some result =>
    have same : (engine.findAt memory pattern offset).2 = engine := by
      unfold findAt
      rw [cached]
    rw [same]
  | none =>
    cases parses : parse pattern with
    | none =>
      have same : (engine.findAt memory pattern offset).2 = engine := by
        unfold findAt
        rw [cached, parses]
      rw [same]
    | some parsed =>
      have kept : (engine.findAt memory pattern offset).2
          = { engine with
              cache := engine.cache.insert (cacheKey pattern offset)
                (find memory engine { parsed with offset }).value } := by
        unfold findAt
        rw [cached, parses]
      rw [kept]
      unfold findAt
      dsimp only
      rw [AMap.lookup_insert_eq]
      by_cases same : cacheKey other offset' = cacheKey pattern offset
      · obtain ⟨rfl, rfl⟩ := cacheKey_injective same
        rw [if_pos rfl, cached, parses]
      · rw [if_neg same]
        cases engine.cache.lookup (cacheKey other offset') with
        | some result => rfl
        | none =>
          cases parse other with
          | none => rfl
          | some parsed' => rfl

/-! ### Calls -/

inductive Call
  | find (pattern : CString)
  | findOffset (pattern : CString) (offset : Int32)
  | setScanSections (sectionNames : List Bytes)
  | setScanAll
  | clearCache

/-- The calls, over memory that does not change; a search puts out its result. -/
def calls (memory : Memory) : Machine ScannerEngine Call ScanResult where
  step engine
    | .find pattern => ((engine.findText memory pattern).2, [(engine.findText memory pattern).1])
    | .findOffset pattern offset =>
      ((engine.findAt memory pattern offset).2, [(engine.findAt memory pattern offset).1])
    | .setScanSections sectionNames => (engine.setScanSections sectionNames, [])
    | .setScanAll => (engine.setScanAll, [])
    | .clearCache => (engine.clearCache, [])

/-- The result is the one with an empty cache. -/
def Transparent (memory : Memory) (engine : ScannerEngine) (call : Call) : Prop :=
  (calls memory).emit engine call = (calls memory).emit engine.clearCache call

/-! ### What is kept -/

/-- The restriction, and the one under which a search has been kept, if it has been. -/
structure Stamps where
  restrictSections : List Bytes
  kept : CString → Int32 → Option (List Bytes)

namespace Stamps

/-- A search is kept if its text is a pattern, and if it has not been kept before. -/
def keep (stamps : Stamps) (pattern : CString) (offset : Int32) : Stamps :=
  { stamps with
    kept := fun other offset' =>
      if other.text = pattern.text ∧ offset' = offset ∧ (parse pattern).isSome then
        some ((stamps.kept pattern offset).getD stamps.restrictSections)
      else stamps.kept other offset' }

/-- The stamps of a run, which do not depend on memory. -/
def machine : Machine Stamps Call Empty where
  step stamps
    | .find pattern => (stamps.keep pattern 0, [])
    | .findOffset pattern offset => (stamps.keep pattern offset, [])
    | .setScanSections sectionNames => ({ stamps with restrictSections := sectionNames }, [])
    | .setScanAll => ({ stamps with restrictSections := [] }, [])
    | .clearCache => ({ stamps with kept := fun _ _ => none }, [])

end Stamps

/-- The first place of a pattern under a restriction. -/
def firstPlace (memory : Memory) (engine : ScannerEngine) (restriction : List Bytes)
    (pattern : ParsedPattern) : Option (Bytes × Nat) :=
  (places (engine.setScanSections restriction).getScanRegions pattern).find? fun place =>
    Taken memory pattern place.2

/-- If the search has been kept, then the first place of the pattern is still where it was. -/
def StillThere (memory : Memory) (engine : ScannerEngine) (stamps : Stamps) (pattern : CString)
    (offset : Int32) : Prop :=
  ∀ restriction, stamps.kept pattern offset = some restriction → ∀ parsed, parse pattern = some parsed →
    firstPlace memory engine restriction parsed
      = firstPlace memory engine stamps.restrictSections parsed

/-- So it is for the search of a call. -/
def Unmoved (memory : Memory) (engine : ScannerEngine) (stamps : Stamps) : Call → Prop
  | .find pattern => StillThere memory engine stamps pattern 0
  | .findOffset pattern offset => StillThere memory engine stamps pattern offset
  | .setScanSections _ => True
  | .setScanAll => True
  | .clearCache => True

/-! ### One search -/

/-- What a search returns under a restriction without a cache. -/
def searched (memory : Memory) (engine : ScannerEngine) (restriction : List Bytes) (pattern : CString)
    (offset : Int32) : ScanResult :=
  match parse pattern with
  | none => {}
  | some parsed => ((engine.setScanSections restriction).find memory { parsed with offset }).value

/-- The cache holds what the searches have returned under the restrictions they were kept under. -/
structure Keeps (memory : Memory) (fresh engine : ScannerEngine) (stamps : Stamps) : Prop where
  same : engine = { fresh with restrictSections := stamps.restrictSections, cache := engine.cache }
  parses : ∀ pattern offset, (stamps.kept pattern offset).isSome → (parse pattern).isSome
  cached : ∀ pattern offset, engine.cache.lookup (cacheKey pattern offset)
    = (stamps.kept pattern offset).map fun restriction => searched memory fresh restriction pattern offset

section Kept

variable {memory : Memory} {fresh engine : ScannerEngine} {stamps : Stamps}

theorem keeps_initial (memory : Memory) (engine : ScannerEngine) :
    Keeps memory engine engine.clearCache ⟨engine.restrictSections, fun _ _ => none⟩ where
  same := rfl
  parses _ _ kept := absurd kept Bool.false_ne_true
  cached _ _ := rfl

/-- A search without the cache. -/
theorem find_eq_searched (keeps : Keeps memory fresh engine stamps) {pattern : CString}
    {parsed : ParsedPattern} (parses : parse pattern = some parsed) (offset : Int32) :
    (engine.find memory { parsed with offset }).value
      = searched memory fresh stamps.restrictSections pattern offset := by
  unfold searched
  rw [parses, keeps.same]
  rfl

theorem searched_none {pattern : CString} (parses : parse pattern = none) (restriction : List Bytes)
    (offset : Int32) : searched memory fresh restriction pattern offset = {} := by
  unfold searched
  rw [parses]

/-- **What a search returns**: what it returned when it was kept, or what it finds. -/
theorem findAt_value (keeps : Keeps memory fresh engine stamps) (pattern : CString) (offset : Int32) :
    (engine.findAt memory pattern offset).1
      = searched memory fresh ((stamps.kept pattern offset).getD stamps.restrictSections) pattern offset := by
  unfold findAt
  rw [keeps.cached]
  cases kept : stamps.kept pattern offset with
  | some restriction => rfl
  | none =>
    cases parses : parse pattern with
    | none => exact (searched_none parses _ offset).symm
    | some parsed => exact find_eq_searched keeps parses offset

/-- What has been kept stays as it is, and what is no pattern is not kept. -/
theorem keep_eq {pattern : CString} {offset : Int32}
    (known : (stamps.kept pattern offset).isSome ∨ parse pattern = none) :
    stamps.keep pattern offset = stamps := by
  have same : (stamps.keep pattern offset).kept = stamps.kept := by
    funext other offset'
    unfold Stamps.keep
    dsimp only
    split_ifs with here
    · obtain ⟨text, rfl, parses⟩ := here
      obtain rfl := CString.eq_of_text text
      rcases known with kept | none
      · obtain ⟨restriction, found⟩ := Option.isSome_iff_exists.mp kept
        rw [found, Option.getD_some]
      · rw [none] at parses
        exact absurd parses Bool.false_ne_true
    · rfl
  cases stamps
  exact congrArg _ same

/-- What it keeps. -/
theorem findAt_keeps (keeps : Keeps memory fresh engine stamps) (pattern : CString) (offset : Int32) :
    Keeps memory fresh (engine.findAt memory pattern offset).2 (stamps.keep pattern offset) := by
  unfold findAt
  rw [keeps.cached]
  cases kept : stamps.kept pattern offset with
  | some restriction =>
    rw [keep_eq (.inl (kept ▸ rfl))]
    exact keeps
  | none =>
    cases parses : parse pattern with
    | none =>
      rw [keep_eq (.inr parses)]
      exact keeps
    | some parsed =>
      have here (other : CString) (offset' : Int32) :
          other.text = pattern.text ∧ offset' = offset ∧ (parse pattern).isSome
            ↔ cacheKey other offset' = cacheKey pattern offset := by
        rw [parses]
        constructor
        · rintro ⟨text, rfl, -⟩
          rw [CString.eq_of_text text]
        · intro keys
          obtain ⟨rfl, rfl⟩ := cacheKey_injective keys
          exact ⟨rfl, rfl, rfl⟩
      refine ⟨?_, fun other offset' found => ?_, fun other offset' => ?_⟩
      · rw [keeps.same]
        rfl
      · unfold Stamps.keep at found
        dsimp only at found
        split_ifs at found with same
        · rw [CString.eq_of_text same.1]
          exact same.2.2
        · exact keeps.parses other offset' found
      · show (engine.cache.insert (cacheKey pattern offset) _).lookup (cacheKey other offset') = _
        rw [AMap.lookup_insert_eq, keeps.cached]
        unfold Stamps.keep
        dsimp only
        by_cases same : cacheKey other offset' = cacheKey pattern offset
        · rw [if_pos same, if_pos ((here other offset').mpr same), kept]
          obtain ⟨rfl, rfl⟩ := cacheKey_injective same
          exact congrArg some (find_eq_searched keeps parses offset')
        · rw [if_neg same, if_neg (mt (here other offset').mp same)]

theorem keeps_next (keeps : Keeps memory fresh engine stamps) (call : Call) :
    Keeps memory fresh ((calls memory).next engine call) (Stamps.machine.next stamps call) := by
  cases call with
  | find pattern => exact findAt_keeps keeps pattern 0
  | findOffset pattern offset => exact findAt_keeps keeps pattern offset
  | setScanSections sectionNames =>
    refine ⟨?_, keeps.parses, keeps.cached⟩
    show engine.setScanSections sectionNames = _
    rw [keeps.same]
    rfl
  | setScanAll =>
    refine ⟨?_, keeps.parses, keeps.cached⟩
    show engine.setScanAll = _
    rw [keeps.same]
    rfl
  | clearCache =>
    refine ⟨?_, fun _ _ kept => absurd kept Bool.false_ne_true, fun _ _ => rfl⟩
    show engine.clearCache = _
    rw [keeps.same]
    rfl

/-! ### When the cache cannot be seen -/

theorem searched_eq_iff {pattern : CString} {offset : Int32} {one two : List Bytes} :
    searched memory fresh one pattern offset = searched memory fresh two pattern offset
      ↔ ∀ parsed, parse pattern = some parsed →
        firstPlace memory fresh one parsed = firstPlace memory fresh two parsed := by
  unfold searched
  cases parse pattern with
  | none => exact iff_of_true rfl fun parsed there => absurd there.symm (Option.some_ne_none parsed)
  | some parsed =>
    have each : (∀ other, some parsed = some other →
          firstPlace memory fresh one other = firstPlace memory fresh two other)
        ↔ firstPlace memory fresh one parsed = firstPlace memory fresh two parsed :=
      ⟨fun all => all parsed rfl, fun same other is => Option.some.inj is ▸ same⟩
    rw [each]
    dsimp only
    rw [find_value, find_value]
    exact elim_placeResult_inj (fun place found => place_lt (first_taken found).1)
      fun place found => place_lt (first_taken found).1

/-- **A search returns what it would with an empty cache** exactly if it is still there. -/
theorem findAt_transparent_iff (keeps : Keeps memory fresh engine stamps) (pattern : CString)
    (offset : Int32) :
    (engine.findAt memory pattern offset).1 = (engine.clearCache.findAt memory pattern offset).1
      ↔ StillThere memory fresh stamps pattern offset := by
  have cleared : Keeps memory fresh engine.clearCache { stamps with kept := fun _ _ => none } :=
    keeps_next keeps .clearCache
  rw [findAt_value keeps, findAt_value cleared]
  unfold StillThere
  cases kept : stamps.kept pattern offset with
  | none => exact iff_of_true rfl fun restriction there => absurd there.symm (Option.some_ne_none _)
  | some restriction =>
    rw [Option.getD_some, Option.getD_none, searched_eq_iff]
    exact ⟨fun all other is => Option.some.inj is ▸ all, fun all => all restriction rfl⟩

theorem transparent_call_iff (keeps : Keeps memory fresh engine stamps) (call : Call) :
    Transparent memory engine call ↔ Unmoved memory fresh stamps call := by
  cases call with
  | find pattern =>
    exact List.singleton_inj.trans (findAt_transparent_iff keeps pattern 0)
  | findOffset pattern offset =>
    exact List.singleton_inj.trans (findAt_transparent_iff keeps pattern offset)
  | setScanSections sectionNames => exact iff_of_true rfl trivial
  | setScanAll => exact iff_of_true rfl trivial
  | clearCache => exact iff_of_true rfl trivial

end Kept

/-- **The cache cannot be seen in a run** exactly if no search that is kept has moved. -/
theorem cache_transparent_iff (memory : Memory) (engine : ScannerEngine) (run : List Call) :
    (calls memory).Along (Transparent memory) engine.clearCache run
      ↔ Stamps.machine.Along (Unmoved memory engine) ⟨engine.restrictSections, fun _ _ => none⟩ run :=
  Machine.along_iff_along (Keeps memory engine) (fun _ _ call keeps => keeps_next keeps call)
    (fun _ _ call keeps => transparent_call_iff keeps call) (keeps_initial memory engine) run

/-! ### A restriction between two searches -/

/-- A memory of one byte all over. -/
def ones : Memory := fun _ => 1

/-- The text of a pattern of that byte. -/
def oneText : CString := ⟨[0x30, 0x31], by decide⟩

/-- It is searched in the whole module, and then in a section that there is not. -/
def restrictedRun : List Call := [.find oneText, .setScanSections [ascii ".data"], .find oneText]

/-- The second search returns the result of the first. -/
theorem cache_transparent_fails :
    (((calls ones).run smallEngine.clearCache (restrictedRun.take 2)).findText ones oneText).1.valid = true
      ∧ (((calls ones).run smallEngine.clearCache (restrictedRun.take 2)).clearCache.findText ones
          oneText).1.valid = false
      ∧ ¬ (calls ones).Along (Transparent ones) smallEngine.clearCache restrictedRun := by
  have cached : (((calls ones).run smallEngine.clearCache (restrictedRun.take 2)).findText ones
      oneText).1.valid = true := by decide +kernel
  have empty : (((calls ones).run smallEngine.clearCache (restrictedRun.take 2)).clearCache.findText
      ones oneText).1.valid = false := by decide +kernel
  refine ⟨cached, empty, fun along => ?_⟩
  have last : Transparent ones ((calls ones).run smallEngine.clearCache (restrictedRun.take 2))
    (.find oneText) := along.2.2.1
  have same := congrArg ScanResult.valid (List.singleton_inj.mp last)
  rw [cached, empty] at same
  exact Bool.false_ne_true same.symm

end ScannerEngine

end KenshiMP
