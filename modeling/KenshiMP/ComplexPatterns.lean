/-
**Whether a pattern of patterns is found where it stands.**

The search takes the first place of its anchor and looks for the other components around that one. If a
required one is missing there it gives up, and does not look for another place of the anchor.

* `findComplex_value`: what the search returns;
* `findComplex_iff`: it returns the first place where everything required stands exactly if the first
  place of the anchor is such a place, or there is none.
-/

import KenshiMP.Scanner.SectionFacts

namespace KenshiMP

open Wire (Bytes ascii)

/-! ### Components -/

/-- The required components stand where they should, in memory that can be read. -/
def Readable.Satisfied (space : Readable) (comps : List PatternComponent) (anchorAddr : UInt64) : Prop :=
  ∀ comp ∈ comps, comp.required = true →
    ∀ j < comp.pattern.bytes.length, comp.pattern.fixed j = true →
      space.byte (anchorAddr + extended comp.relativeOffset + UInt64.ofNat j)
        = some (comp.pattern.byteAt j)

instance satisfied_decidable (space : Readable) (comps : List PatternComponent) :
    DecidablePred (space.Satisfied comps) := fun anchorAddr =>
  inferInstanceAs (Decidable (∀ comp ∈ comps, comp.required = true →
    ∀ j < comp.pattern.bytes.length, comp.pattern.fixed j = true →
      space.byte (anchorAddr + extended comp.relativeOffset + UInt64.ofNat j)
        = some (comp.pattern.byteAt j)))

namespace ScannerEngine

variable {space : Readable}

theorem matchesFrom_iff (pattern : ParsedPattern) (data : UInt64) (left j : Nat) :
    space.matchesFrom pattern data left j = true
      ↔ ∀ k < left, pattern.fixed (j + k) = true →
        space.byte (data + UInt64.ofNat (j + k)) = some (pattern.byteAt (j + k)) := by
  induction left generalizing j with
  | zero => exact iff_of_true rfl fun k less => absurd less (Nat.not_lt_zero k)
  | succ left ih =>
    have split : (∀ k < left + 1, pattern.fixed (j + k) = true →
          space.byte (data + UInt64.ofNat (j + k)) = some (pattern.byteAt (j + k)))
        ↔ (pattern.fixed j = true → space.byte (data + UInt64.ofNat j) = some (pattern.byteAt j))
          ∧ ∀ k < left, pattern.fixed (j + 1 + k) = true →
            space.byte (data + UInt64.ofNat (j + 1 + k)) = some (pattern.byteAt (j + 1 + k)) := by
      rw [Nat.forall_lt_succ_left]
      simp only [Nat.add_zero, Nat.add_assoc, Nat.add_comm 1]
    rw [split, ← ih, Readable.matchesFrom]
    by_cases fixed : pattern.fixed j = true
    · rw [if_pos fixed, imp_iff_right fixed]
      cases read : space.byte (data + UInt64.ofNat j) with
      | none => exact iff_of_false Bool.false_ne_true fun both => absurd both.1.symm (Option.some_ne_none _)
      | some byte =>
        rw [Option.some_inj]
        show (if byte ≠ pattern.byteAt j then false
          else space.matchesFrom pattern data left (j + 1)) = true ↔ _
        by_cases same : byte = pattern.byteAt j
        · rw [if_neg (not_not.mpr same), and_iff_right same]
        · rw [if_pos same]
          exact iff_of_false Bool.false_ne_true fun both => same both.1
    · rw [if_neg fixed, and_iff_right fun is => absurd is fixed]

theorem validate_iff (anchorAddr : UInt64) (comps : List PatternComponent) :
    space.validate anchorAddr comps = true ↔ space.Satisfied comps anchorAddr := by
  induction comps with
  | nil => exact iff_of_true rfl fun comp member => absurd member List.not_mem_nil
  | cons comp others ih =>
    have here : space.componentMatches anchorAddr comp = true
        ↔ ∀ j < comp.pattern.bytes.length, comp.pattern.fixed j = true →
          space.byte (anchorAddr + extended comp.relativeOffset + UInt64.ofNat j)
            = some (comp.pattern.byteAt j) := by
      unfold Readable.componentMatches
      rw [matchesFrom_iff]
      simp only [Nat.zero_add]
    unfold Readable.validate Readable.Satisfied
    rw [List.forall_mem_cons, ← here]
    by_cases missing : ¬ space.componentMatches anchorAddr comp = true ∧ comp.required = true
    · rw [if_pos missing]
      exact iff_of_false Bool.false_ne_true fun both => missing.1 (both.1 missing.2)
    · rw [if_neg missing, ih]
      refine (and_iff_right fun required => ?_).symm
      by_contra differs
      exact missing ⟨differs, required⟩

/-! ### What the search returns -/

/-- The result at a place of the anchor. -/
def complexResult (pattern : ComplexPattern) (anchor : PatternComponent) (place : Bytes × Nat) :
    ScanResult where
  address := UInt64.ofNat place.2 + extended anchor.pattern.offset + extended pattern.resultOffset
  valid := true
  sectionName := place.1
  confidence := lit 9 10

/-- The first place that is taken for the anchor. -/
def firstAnchor (space : Readable) (engine : ScannerEngine) (anchor : PatternComponent) :
    Option (Bytes × Nat) :=
  (places engine.getScanRegions anchor.pattern.toParsedPattern).find? fun place =>
    Taken space.memory anchor.pattern.toParsedPattern place.2

/-- The required components stand around a place of the anchor. -/
def Around (space : Readable) (anchor : PatternComponent) (others : List PatternComponent)
    (place : Bytes × Nat) : Prop :=
  space.Satisfied others (UInt64.ofNat place.2 + extended anchor.pattern.offset)

instance around_decidable (space : Readable) (anchor : PatternComponent)
    (others : List PatternComponent) : DecidablePred (Around space anchor others) := fun _ =>
  satisfied_decidable space others _

/-- **What the search returns**: the result at the first place of the anchor, if all is there. -/
theorem findComplex_value (space : Readable) (engine : ScannerEngine) (pattern : ComplexPattern)
    (plain : pattern.postProcess = .None) {anchor : PatternComponent} {others : List PatternComponent}
    (components : pattern.components = anchor :: others) :
    findComplex space engine pattern
      = ((firstAnchor space engine anchor).filter fun place => Around space anchor others place).elim
          {} (complexResult pattern anchor) := by
  unfold findComplex firstAnchor
  rw [components]
  dsimp only
  rw [find_value]
  cases found : (places engine.getScanRegions anchor.pattern.toParsedPattern).find? fun place =>
      Taken space.memory anchor.pattern.toParsedPattern place.2 with
  | none => rfl
  | some place =>
    have around : space.validate (placeResult anchor.pattern.offset place).address others = true
        ↔ Around space anchor others place := validate_iff _ others
    have valid : (placeResult anchor.pattern.offset place).valid = true := rfl
    rw [Option.elim_some, if_neg (not_not.mpr valid), Option.filter_some]
    by_cases all : Around space anchor others place
    · rw [if_neg (not_not.mpr (around.mpr all)), if_pos (decide_eq_true all), Option.elim_some]
      unfold Readable.postProcessed
      rw [plain]
      rfl
    · rw [if_pos (mt around.mp all), decide_eq_false all]
      rfl

/-! ### What it should return -/

/-- Everything that is required stands at the place and around it. -/
def Occurs (space : Readable) (anchor : PatternComponent) (others : List PatternComponent)
    (place : Bytes × Nat) : Prop :=
  Matches space.memory anchor.pattern.toParsedPattern place.2 ∧ Around space anchor others place

instance occurs_decidable (space : Readable) (anchor : PatternComponent)
    (others : List PatternComponent) : DecidablePred (Occurs space anchor others) := fun _ =>
  inferInstanceAs (Decidable (_ ∧ _))

/-- The places where the whole pattern occurs, in order. -/
def occurrences (space : Readable) (engine : ScannerEngine) (anchor : PatternComponent)
    (others : List PatternComponent) : List (Bytes × Nat) :=
  (places engine.getScanRegions anchor.pattern.toParsedPattern).filter (Occurs space anchor others)

/-- A valid result exactly if the pattern occurs, and then from where it occurs first. -/
def Complete (space : Readable) (engine : ScannerEngine) (pattern : ComplexPattern) : Prop :=
  match pattern.components with
  | [] => (findComplex space engine pattern).valid = false
  | anchor :: others =>
    ((findComplex space engine pattern).valid = true
        ↔ ∃ place ∈ places engine.getScanRegions anchor.pattern.toParsedPattern,
          Occurs space anchor others place)
      ∧ ∀ place, (occurrences space engine anchor others).head? = some place →
        findComplex space engine pattern = complexResult pattern anchor place

/-- The first occurrence is at the first place that is taken for the anchor, and if everything stands
around that place, then it is a place of the anchor. -/
def Foremost (space : Readable) (engine : ScannerEngine) (pattern : ComplexPattern) : Prop :=
  match pattern.components with
  | [] => True
  | anchor :: others =>
    (∀ place, (occurrences space engine anchor others).head? = some place →
        firstAnchor space engine anchor = some place)
      ∧ ∀ place, firstAnchor space engine anchor = some place → Around space anchor others place →
        Matches space.memory anchor.pattern.toParsedPattern place.2

/-- The place can be told from the result. -/
theorem complexResult_injective {engine : ScannerEngine} {pattern : ComplexPattern}
    {anchor : PatternComponent} {place other : Bytes × Nat}
    (inside : place ∈ places engine.getScanRegions anchor.pattern.toParsedPattern)
    (inside' : other ∈ places engine.getScanRegions anchor.pattern.toParsedPattern)
    (same : complexResult pattern anchor place = complexResult pattern anchor other) :
    place = other := by
  have addresses := congrArg ScanResult.address same
  have sections := congrArg ScanResult.sectionName same
  unfold complexResult at addresses
  rw [UInt64.add_assoc, UInt64.add_assoc] at addresses
  exact place_eq (place_lt inside) (place_lt inside') addresses sections

section Anchors

variable {space : Readable} {engine : ScannerEngine} {anchor : PatternComponent}
  {others : List PatternComponent} {place : Bytes × Nat}

theorem occurs_of_head (first : (occurrences space engine anchor others).head? = some place) :
    place ∈ places engine.getScanRegions anchor.pattern.toParsedPattern
      ∧ Occurs space anchor others place := by
  obtain ⟨inside, occurs⟩ := List.mem_filter.mp (List.mem_of_head? first)
  exact ⟨inside, of_decide_eq_true occurs⟩

theorem exists_occurs_iff :
    (∃ place ∈ places engine.getScanRegions anchor.pattern.toParsedPattern, Occurs space anchor others place)
      ↔ ∃ place, (occurrences space engine anchor others).head? = some place := by
  constructor
  · rintro ⟨place, inside, occurs⟩
    have member : place ∈ occurrences space engine anchor others :=
      List.mem_filter.mpr ⟨inside, decide_eq_true occurs⟩
    exact ⟨_, List.head?_eq_some_head (List.ne_nil_of_mem member)⟩
  · rintro ⟨place, first⟩
    exact ⟨place, occurs_of_head first⟩

theorem firstAnchor_mem (found : firstAnchor space engine anchor = some place) :
    place ∈ places engine.getScanRegions anchor.pattern.toParsedPattern :=
  List.mem_of_find?_eq_some found

/-- The first place of the anchor, if everything stands around it. -/
theorem filter_eq_some_iff :
    ((firstAnchor space engine anchor).filter fun place => Around space anchor others place) = some place
      ↔ firstAnchor space engine anchor = some place ∧ Around space anchor others place := by
  rw [Option.filter_eq_some_iff, decide_eq_true_iff]

/-- The two conditions say that this is the first occurrence. -/
theorem head_eq_iff :
    (occurrences space engine anchor others).head?
        = ((firstAnchor space engine anchor).filter fun place => Around space anchor others place)
      ↔ (∀ place, (occurrences space engine anchor others).head? = some place →
            firstAnchor space engine anchor = some place)
          ∧ ∀ place, firstAnchor space engine anchor = some place → Around space anchor others place →
            Matches space.memory anchor.pattern.toParsedPattern place.2 := by
  constructor
  · refine fun same => ⟨fun place head => ?_, fun place found around => ?_⟩
    · rw [same] at head
      exact (filter_eq_some_iff.mp head).1
    · have head := filter_eq_some_iff.mpr ⟨found, around⟩
      rw [← same] at head
      exact (occurs_of_head head).2.1
  · rintro ⟨foremost, right⟩
    refine Option.ext fun place => ?_
    rw [filter_eq_some_iff]
    constructor
    · exact fun head => ⟨foremost place head, (occurs_of_head head).2.2⟩
    · rintro ⟨found, around⟩
      obtain ⟨first, head⟩ := exists_occurs_iff.mp
        ⟨place, firstAnchor_mem found, right place found around, around⟩
      rw [head, ← foremost first head, found]

end Anchors

/-- **The search finds the first occurrence exactly if the first place of the anchor tells all.** -/
theorem findComplex_iff (space : Readable) (engine : ScannerEngine) (pattern : ComplexPattern)
    (plain : pattern.postProcess = .None) :
    Complete space engine pattern ↔ Foremost space engine pattern := by
  unfold Complete Foremost
  cases components : pattern.components with
  | nil =>
    refine iff_of_true ?_ trivial
    unfold findComplex
    rw [components]
  | cons anchor others =>
    dsimp only
    rw [exists_occurs_iff, findComplex_value space engine pattern plain components, ← head_eq_iff]
    cases found : (firstAnchor space engine anchor).filter fun place => Around space anchor others place with
    | none =>
      rw [Option.elim_none]
      constructor
      · rintro ⟨valid, -⟩
        by_contra some
        obtain ⟨place, first⟩ := Option.ne_none_iff_exists'.mp some
        exact Bool.false_ne_true (valid.mpr ⟨place, first⟩)
      · intro none
        rw [none]
        exact ⟨iff_of_false Bool.false_ne_true fun ⟨_, there⟩ => absurd there.symm (Option.some_ne_none _),
          fun _ there => absurd there.symm (Option.some_ne_none _)⟩
    | some place =>
      have inside := firstAnchor_mem (filter_eq_some_iff.mp found).1
      rw [Option.elim_some]
      constructor
      · rintro ⟨valid, result⟩
        obtain ⟨first, head⟩ := valid.mp rfl
        rw [head, complexResult_injective inside (occurs_of_head head).1 (result first head)]
      · intro head
        rw [head]
        exact ⟨iff_of_true rfl ⟨place, rfl⟩, fun other same => by rw [Option.some.inj same]⟩

/-! ### An anchor that occurs twice -/

/-- A one at two places, and a two behind the second. -/
def twoAnchors : Readable where
  memory := fun address =>
    if address = 0x1000 ∨ address = 0x1004 then 1 else if address = 0x1005 then 2 else 0
  readable := fun address => 0x1000 ≤ address ∧ address < 0x1010

theorem one_of_each (byte : UInt8) : [byte].length = [true].length := rfl

/-- A byte, and another one some bytes behind it. -/
def pairOf (first second : UInt8) (behind : Int32) : ComplexPattern where
  components :=
    [{ pattern := ⟨⟨[first], [true], one_of_each first⟩, 0⟩ },
      { pattern := ⟨⟨[second], [true], one_of_each second⟩, 0⟩, relativeOffset := behind }]

/-- A two five bytes behind a one is found where that is, which is the first place of a one. -/
theorem findComplex_there :
    Complete twoAnchors smallEngine (pairOf 1 2 5)
      ∧ (findComplex twoAnchors smallEngine (pairOf 1 2 5)).address = 0x1000 := by
  refine ⟨(findComplex_iff twoAnchors smallEngine (pairOf 1 2 5) rfl).mpr ⟨?_, ?_⟩, by decide +kernel⟩
  · intro place first
    exact (by decide +kernel : _ = some (ascii "module", 0x1000)).trans (first.symm.trans (by decide +kernel)).symm
  · intro place first _
    cases first.symm.trans (by decide +kernel : _ = some (ascii "module", 0x1000))
    decide +kernel

/-- Directly behind it, it is not found. -/
theorem findComplex_fails :
    (findComplex twoAnchors smallEngine (pairOf 1 2 1)).valid = false
      ∧ (places smallEngine.getScanRegions ⟨[1], [true], rfl⟩).any (fun place =>
        place = (ascii "module", 0x1004)
          ∧ Occurs twoAnchors { pattern := ⟨⟨[1], [true], rfl⟩, 0⟩ }
            [{ pattern := ⟨⟨[2], [true], rfl⟩, 0⟩, relativeOffset := 1 }] place) = true
      ∧ ¬ Complete twoAnchors smallEngine (pairOf 1 2 1) := by
  have missed : (findComplex twoAnchors smallEngine (pairOf 1 2 1)).valid = false := by decide +kernel
  have there : (places smallEngine.getScanRegions ⟨[1], [true], rfl⟩).any (fun place =>
      place = (ascii "module", 0x1004)
        ∧ Occurs twoAnchors { pattern := ⟨⟨[1], [true], rfl⟩, 0⟩ }
          [{ pattern := ⟨⟨[2], [true], rfl⟩, 0⟩, relativeOffset := 1 }] place) = true := by
    decide +kernel
  refine ⟨missed, there, fun complete => ?_⟩
  obtain ⟨place, inside, both⟩ := List.any_eq_true.mp there
  have valid := complete.1.mpr ⟨place, inside, (of_decide_eq_true both).2⟩
  rw [missed] at valid
  exact Bool.false_ne_true valid

end ScannerEngine

end KenshiMP
