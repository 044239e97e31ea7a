/-
**Whether an address that is rejected leaves the entry to the next method.**

A method returns true as soon as it has found an address. Whether the address is accepted is decided
where the entry is resolved, and nobody asks. So an address that is rejected ends a phase for its entry,
is counted, and hides what the methods behind it would find; and what the last two phases resolve is
counted nowhere.

* `tryInOrder_eq`: the methods of a phase resolve an entry with the first address that one of them
  finds;
* `through_spec`: a run of phases is a cascade of stages for each entry;
* `resolutions_iff`: a run and a retry do what they should exactly if no address is rejected where it is
  the first one, and the phases that do not count find none.
-/

import KenshiMP.Lib.Cascade
import KenshiMP.Scanner.Orchestrator
import KenshiMP.BatchScans

namespace KenshiMP

open Wire (ascii)
open Cascade (Stage taken counts Honest Clean)

/-! ### An address for an entry -/

/-- What a method finds, with its name. -/
abbrev Finding := ResolutionMethod × Uintptr × F32

namespace PatternEntry

variable {entry : PatternEntry} {finding : Finding}

def accepts (entry : PatternEntry) (finding : Finding) : Bool := !entry.rejects finding.2.1 finding.1

def resolveWith (entry : PatternEntry) (finding : Finding) : PatternEntry :=
  entry.resolveEntry finding.2.1 finding.1 finding.2.2

theorem resolveWith_rejected (bad : entry.accepts finding = false) : entry.resolveWith finding = entry := by
  unfold accepts at bad
  rw [Bool.not_eq_false'] at bad
  exact if_pos bad

theorem resolveWith_accepted (good : entry.accepts finding = true) :
    (entry.resolveWith finding).isResolved = true
      ∧ (entry.resolveWith finding).resolvedMethod = finding.1 := by
  unfold accepts at good
  rw [Bool.not_eq_true'] at good
  have resolved : entry.resolveWith finding = _ := if_neg (Bool.eq_false_iff.mp good)
  rw [resolved]
  exact ⟨rfl, rfl⟩

/-- A pointer is never rejected. -/
theorem accepts_global (pointer : entry.isGlobalPointer = true) : entry.accepts finding = true := by
  unfold accepts rejects
  rw [pointer]
  rfl

end PatternEntry

/-! ### The methods of a phase -/

/-- The first address, with the method that finds it. -/
def firstFound (methods : List (ResolutionMethod × Content.Found)) : Option Finding :=
  methods.findSome? fun method => method.2.map fun found => (method.1, found.1, found.2)

theorem firstFound_mem {methods : List (ResolutionMethod × Content.Found)} {finding : Finding}
    (found : firstFound methods = some finding) :
    (finding.1, some (finding.2.1, finding.2.2)) ∈ methods := by
  obtain ⟨method, inside, here⟩ := List.exists_of_findSome?_eq_some found
  obtain ⟨pair, there, rfl⟩ := Option.map_eq_some_iff.mp here
  obtain ⟨name, what⟩ := method
  cases there
  exact inside

theorem firstFound_none {methods : List (ResolutionMethod × Content.Found)}
    (nothing : firstFound methods = none) : ∀ method ∈ methods, method.2 = none := by
  intro method inside
  exact Option.map_eq_none_iff.mp (List.findSome?_eq_none_iff.mp nothing method inside)

/-- Every call that has returned true has resolved the entry. -/
def Truthful (attempts : List Attempt) : Prop :=
  ∀ attempt ∈ attempts, attempt.returned = true → attempt.entry.isResolved = true

theorem truthful_append {one two : List Attempt} : Truthful (one ++ two) ↔ Truthful one ∧ Truthful two :=
  List.forall_mem_append

/-- Some calls in vain, and then one that has found something, if any has. -/
def handled (entry : PatternEntry) (misses : List Attempt) : Option Finding → Handling
  | none => ⟨entry, none, misses⟩
  | some finding =>
    ⟨entry.resolveWith finding, some finding.1, misses ++ [⟨true, entry.resolveWith finding⟩]⟩

/-- **The methods of a phase**: those that find nothing return false and leave the entry, and the first
one that finds something returns true, whatever becomes of it. -/
theorem tryInOrder_eq (finds : List (ResolutionMethod × (PatternEntry → Content.Found)))
    (entry : PatternEntry) :
    ∃ misses : List Attempt, (∀ attempt ∈ misses, attempt.returned = false) ∧
      tryInOrder (finds.map fun find => (find.1, attempt find.1 find.2)) entry
        = handled entry misses (firstFound (finds.map fun find => (find.1, find.2 entry))) := by
  induction finds with
  | nil => exact ⟨[], fun attempt member => absurd member List.not_mem_nil, rfl⟩
  | cons find others ih =>
    unfold firstFound
    rw [List.map_cons, List.map_cons, List.findSome?_cons]
    cases found : find.2 entry with
    | none =>
      obtain ⟨misses, silent, rest⟩ := ih
      have here : attempt find.1 find.2 entry = ⟨false, entry⟩ := by
        unfold attempt
        rw [found]
      refine ⟨⟨false, entry⟩ :: misses, List.forall_mem_cons.mpr ⟨rfl, silent⟩, ?_⟩
      rw [tryInOrder, here, if_neg Bool.false_ne_true, rest]
      show _ = handled entry _ (firstFound (others.map fun find => (find.1, find.2 entry)))
      cases firstFound (others.map fun find => (find.1, find.2 entry)) with
      | none => rfl
      | some finding => rfl
    | some pair =>
      have here : attempt find.1 find.2 entry = ⟨true, entry.resolveWith (find.1, pair.1, pair.2)⟩ := by
        unfold attempt
        rw [found]
        rfl
      refine ⟨[], fun attempt member => absurd member List.not_mem_nil, ?_⟩
      rw [tryInOrder, here, if_pos rfl]
      rfl

variable {find : PatternEntry → Content.Found} {method : ResolutionMethod}

/-- One method that finds nothing. -/
theorem tryInOrder_missed {entry : PatternEntry} (nothing : find entry = none) :
    tryInOrder [(method, attempt method find)] entry = ⟨entry, none, [⟨false, entry⟩]⟩ := by
  have here : attempt method find entry = ⟨false, entry⟩ := by
    unfold attempt
    rw [nothing]
  rw [tryInOrder, here]
  rfl

/-- One method that finds something. -/
theorem tryInOrder_found {entry : PatternEntry} {address : Uintptr} {confidence : F32}
    (found : find entry = some (address, confidence)) :
    tryInOrder [(method, attempt method find)] entry
      = ⟨entry.resolveEntry address method confidence, some method,
          [⟨true, entry.resolveEntry address method confidence⟩]⟩ := by
  have here : attempt method find entry = ⟨true, entry.resolveEntry address method confidence⟩ := by
    unfold attempt
    rw [found]
  rw [tryInOrder, here]
  rfl

theorem tryInOrder_entry (entry : PatternEntry) :
    (tryInOrder [(method, attempt method find)] entry).entry = (attempt method find entry).entry := by
  cases found : find entry with
  | none =>
    rw [tryInOrder_missed found]
    unfold attempt
    rw [found]
  | some pair =>
    rw [tryInOrder_found found]
    unfold attempt
    rw [found]

/-! ### Phases as stages -/

/-- A phase does for an entry what a stage does. -/
structure Does (phase : PatternEntry → Handling) (stage : PatternEntry → Stage Finding) : Prop where
  resolved : ∀ entry, entry.isResolved = true →
    (phase entry).entry.isResolved = true
      ∧ (phase entry).entry.resolvedMethod = entry.resolvedMethod
      ∧ (phase entry).counted = none ∧ (phase entry).attempts = []
  missed : ∀ entry, entry.isResolved = false → (stage entry).found = none →
    (phase entry).entry = entry ∧ (phase entry).counted = none ∧ Truthful (phase entry).attempts
  rejected : ∀ entry, entry.isResolved = false → ∀ finding, (stage entry).found = some finding →
    entry.accepts finding = false →
    (phase entry).entry = entry
      ∧ (phase entry).counted = (if (stage entry).counted then some finding.1 else none)
      ∧ (Truthful (phase entry).attempts ↔ (stage entry).reported = false)
  accepted : ∀ entry, entry.isResolved = false → ∀ finding, (stage entry).found = some finding →
    entry.accepts finding = true →
    ((phase entry).entry.isResolved = true ∧ (phase entry).entry.resolvedMethod = finding.1)
      ∧ (phase entry).counted = (if (stage entry).counted then some finding.1 else none)
      ∧ Truthful (phase entry).attempts

/-- An entry on its way through some phases: what becomes of it, what is counted, and the calls. -/
def through : List (PatternEntry → Handling) → PatternEntry →
    PatternEntry × List ResolutionMethod × List Attempt
  | [], entry => (entry, [], [])
  | phase :: others, entry =>
    let handling := phase entry
    let rest := through others handling.entry
    (rest.1, handling.counted.toList ++ rest.2.1, handling.attempts ++ rest.2.2)

section Through

variable {phases : List (PatternEntry → Handling)} {stages : List (PatternEntry → Stage Finding)}

variable (does : List.Forall₂ Does phases stages) {entry : PatternEntry}

include does

/-- An entry that is resolved stays as it is, as far as that goes. -/
theorem through_resolved (resolved : entry.isResolved = true) :
    (through phases entry).1.isResolved = true
      ∧ (through phases entry).1.resolvedMethod = entry.resolvedMethod
      ∧ (through phases entry).2.1 = [] ∧ (through phases entry).2.2 = [] := by
  induction does generalizing entry with
  | nil => exact ⟨resolved, rfl, rfl, rfl⟩
  | cons here _ ih =>
    obtain ⟨stays, method, counted, calls⟩ := here.resolved entry resolved
    obtain ⟨stays', method', counted', calls'⟩ := ih stays
    unfold through
    dsimp only
    rw [counted, counted', calls, calls']
    exact ⟨stays', method'.trans method, rfl, rfl⟩

/-- **An entry on its way through some phases** is resolved by what the stages take, counted where they
count, and no call has returned true in vain if the stages are honest. -/
theorem through_spec (unresolved : entry.isResolved = false) :
    (taken entry.accepts (stages.map fun stage => stage entry) = none → (through phases entry).1 = entry)
      ∧ (∀ finding, taken entry.accepts (stages.map fun stage => stage entry) = some finding →
        (through phases entry).1.isResolved = true
          ∧ (through phases entry).1.resolvedMethod = finding.1)
      ∧ (through phases entry).2.1
        = (counts entry.accepts (stages.map fun stage => stage entry)).map Prod.fst
      ∧ (Truthful (through phases entry).2.2
        ↔ Honest entry.accepts (stages.map fun stage => stage entry)) := by
  induction does with
  | nil =>
    refine ⟨fun _ => rfl, fun finding none => absurd none.symm (Option.some_ne_none finding), rfl, ?_⟩
    exact iff_of_true (fun attempt member => absurd member List.not_mem_nil) trivial
  | @cons phase stage phases stages here others ih =>
    rw [List.map_cons]
    unfold through
    dsimp only
    cases found : (stage entry).found with
    | none =>
      obtain ⟨same, counted, truthful⟩ := here.missed entry unresolved found
      rw [same, counted, Cascade.taken_none found, Cascade.counts_none found, Cascade.honest_none found,
        truthful_append, and_iff_right truthful]
      exact ih
    | some finding =>
      cases judged : entry.accepts finding with
      | false =>
        obtain ⟨same, counted, truthful⟩ := here.rejected entry unresolved finding found judged
        obtain ⟨nothing, something, counted', honest⟩ := ih
        rw [same, counted, Cascade.taken_rejected found judged, Cascade.counts_rejected found judged,
          Cascade.honest_rejected found judged, truthful_append, truthful, honest, counted',
          List.map_append]
        refine ⟨nothing, something, ?_, Iff.rfl⟩
        split_ifs
        · rfl
        · rfl
      | true =>
        obtain ⟨resolved, counted, truthful⟩ := here.accepted entry unresolved finding found judged
        obtain ⟨stays, method, counted', calls⟩ := through_resolved others resolved.1
        rw [counted, counted', calls, Cascade.taken_accepted found judged,
          Cascade.counts_accepted found judged, List.append_nil, List.append_nil]
        refine ⟨fun none => absurd none (Option.some_ne_none finding), fun other same => ?_, ?_, ?_⟩
        · rw [← Option.some.inj same]
          exact ⟨stays, method.trans resolved.2⟩
        · split_ifs
          · rfl
          · rfl
        · exact iff_of_true truthful (Cascade.honest_accepted found judged)

end Through

/-! ### The phases of a run -/

/-- A phase that counts what it does, or not. -/
def Handling.counting (handling : Handling) (counted : Bool) : Handling :=
  ⟨handling.entry, if counted then handling.counted else none, handling.attempts⟩

/-- A phase that tries some methods for the entries it does not skip. -/
def phaseOf (finds : List (ResolutionMethod × (PatternEntry → Content.Found))) (counted : Bool)
    (skipped : PatternEntry → Bool) (entry : PatternEntry) : Handling :=
  if entry.isResolved || skipped entry then ⟨entry, none, []⟩
  else (tryInOrder (finds.map fun find => (find.1, attempt find.1 find.2)) entry).counting counted

def stageOf (finds : List (ResolutionMethod × (PatternEntry → Content.Found))) (counted : Bool)
    (skipped : PatternEntry → Bool) (entry : PatternEntry) : Stage Finding where
  found := if skipped entry then none else firstFound (finds.map fun find => (find.1, find.2 entry))
  counted := counted
  reported := true

theorem truthful_misses {misses : List Attempt} (silent : ∀ attempt ∈ misses, attempt.returned = false) :
    Truthful misses := by
  intro attempt member returned
  rw [silent attempt member] at returned
  exact absurd returned Bool.false_ne_true

theorem phaseOf_does (finds : List (ResolutionMethod × (PatternEntry → Content.Found)))
    (counted : Bool) (skipped : PatternEntry → Bool) :
    Does (phaseOf finds counted skipped) (stageOf finds counted skipped) := by
  have tried {entry : PatternEntry} (unresolved : entry.isResolved = false)
      (turn : skipped entry = false) : ∃ misses : List Attempt,
        (∀ attempt ∈ misses, attempt.returned = false) ∧
        phaseOf finds counted skipped entry
          = (handled entry misses
              (firstFound (finds.map fun find => (find.1, find.2 entry)))).counting counted := by
    obtain ⟨misses, silent, whole⟩ := tryInOrder_eq finds entry
    refine ⟨misses, silent, ?_⟩
    unfold phaseOf
    rw [unresolved, turn, Bool.or_false, if_neg Bool.false_ne_true, whole]
  have turn {entry : PatternEntry} {finding : Finding}
      (found : (stageOf finds counted skipped entry).found = some finding) :
      skipped entry = false ∧ firstFound (finds.map fun find => (find.1, find.2 entry)) = some finding := by
    unfold stageOf at found
    dsimp only at found
    split_ifs at found with skip
    exact ⟨Bool.eq_false_iff.mpr skip, found⟩
  refine ⟨fun entry resolved => ?_, fun entry unresolved nothing => ?_,
    fun entry unresolved finding found bad => ?_, fun entry unresolved finding found good => ?_⟩
  · have same : phaseOf finds counted skipped entry = ⟨entry, none, []⟩ := by
      unfold phaseOf
      rw [resolved, Bool.true_or, if_pos rfl]
    rw [same]
    exact ⟨resolved, rfl, rfl, rfl⟩
  · cases skip : skipped entry with
    | true =>
      have same : phaseOf finds counted skipped entry = ⟨entry, none, []⟩ := by
        unfold phaseOf
        rw [skip, Bool.or_true, if_pos rfl]
      rw [same]
      exact ⟨rfl, rfl, fun attempt member => absurd member List.not_mem_nil⟩
    | false =>
      obtain ⟨misses, silent, whole⟩ := tried unresolved skip
      have none : firstFound (finds.map fun find => (find.1, find.2 entry)) = .none := by
        unfold stageOf at nothing
        dsimp only at nothing
        rwa [skip, if_neg Bool.false_ne_true] at nothing
      rw [whole, none]
      refine ⟨rfl, ?_, truthful_misses silent⟩
      cases counted with
      | true => rfl
      | false => rfl
  · obtain ⟨skip, first⟩ := turn found
    obtain ⟨misses, silent, whole⟩ := tried unresolved skip
    rw [whole, first]
    refine ⟨PatternEntry.resolveWith_rejected bad, rfl, ?_⟩
    refine iff_of_false (fun truthful => ?_) fun unreported => Bool.false_ne_true unreported.symm
    have last := truthful _ (List.mem_append_right misses (List.mem_singleton.mpr rfl)) rfl
    rw [PatternEntry.resolveWith_rejected bad, unresolved] at last
    exact Bool.false_ne_true last
  · obtain ⟨skip, first⟩ := turn found
    obtain ⟨misses, silent, whole⟩ := tried unresolved skip
    rw [whole, first]
    refine ⟨PatternEntry.resolveWith_accepted good, rfl, ?_⟩
    refine truthful_append.mpr ⟨truthful_misses silent, fun attempt member _ => ?_⟩
    rw [List.mem_singleton.mp member]
    exact (PatternEntry.resolveWith_accepted good).1

namespace Content

variable (content : Content) (config : OrchestratorConfig)

/-- What a batch finds for an entry: what it finds for the entry alone. -/
def batchAddress (entry : PatternEntry) : Found :=
  (PatternOrchestrator.batchEntry entry).bind fun alone =>
    (content.scanner.batchScan content.space.memory [alone]).value.head?.bind fun scanned =>
      if scanned.result.valid then some (scanned.result.address, lit 1 1) else none

/-- The methods of the five phases. -/
def finds4 : List (ResolutionMethod × (PatternEntry → Found)) := [(.PatternScan, content.batchAddress)]

def finds5 : List (ResolutionMethod × (PatternEntry → Found)) :=
  [(.StringXref, content.stringAddress), (.VTableSlot, content.vtableAddress),
    (.HardcodedOffset, content.hardcodedAddress), (.ComplexPattern, content.complexAddress)]

def finds6 : List (ResolutionMethod × (PatternEntry → Found)) := [(.CallGraphTrace, content.callGraphAddress)]

def finds7 : List (ResolutionMethod × (PatternEntry → Found)) := [(.StringXref, content.globalAddress)]

def finds8 : List (ResolutionMethod × (PatternEntry → Found)) :=
  [(.StringXref, content.directAddress), (.HardcodedOffset, content.prologueAddress)]

/-- The scan of the batch, for one entry; it is no call of a method. -/
def phase4 (entry : PatternEntry) : Handling :=
  { phaseOf content.finds4 true (fun _ => !config.enableBatchScan) entry with attempts := [] }

def stage4 (entry : PatternEntry) : Stage Finding :=
  { stageOf content.finds4 true (fun _ => !config.enableBatchScan) entry with reported := false }

def phase7 (entry : PatternEntry) : Handling :=
  let handling := phaseOf content.finds7 false (fun _ => false) entry
  ⟨PatternOrchestrator.validateGlobal content handling.entry, none, []⟩

def stage7 (entry : PatternEntry) : Stage Finding :=
  { stageOf content.finds7 false (fun _ => false) entry with reported := false }

def phases : List (PatternEntry → Handling) :=
  [content.phase4 config, phaseOf content.finds5 true fun _ => false,
    phaseOf content.finds6 true fun _ => !config.enableCallGraph, content.phase7,
    phaseOf content.finds8 false fun entry => !entry.critical]

/-- What a run does for an entry, stage by stage: the batch and the phases five and six are counted,
and the phases five, six and eight call methods. -/
def laterStages : List (PatternEntry → Stage Finding) :=
  [stageOf content.finds5 true fun _ => false,
    stageOf content.finds6 true fun _ => !config.enableCallGraph, content.stage7,
    stageOf content.finds8 false fun entry => !entry.critical]

def stages : List (PatternEntry → Stage Finding) := content.stage4 config :: content.laterStages config

/-- Only how sure a pointer is can change when it is validated. -/
theorem validateGlobal_eq (entry : PatternEntry) :
    ∃ confidence, PatternOrchestrator.validateGlobal content entry = { entry with confidence } := by
  unfold PatternOrchestrator.validateGlobal
  by_cases pointer : (entry.isGlobalPointer && entry.isResolved) = true
  · rw [if_pos pointer]
    cases content.space.readUintptr entry.resolvedAddress with
    | none => exact ⟨entry.confidence, rfl⟩
    | some val =>
      dsimp only
      split_ifs
      · cases content.space.readUintptr val with
        | none => exact ⟨_, rfl⟩
        | some vtable => exact ⟨_, rfl⟩
      · exact ⟨_, rfl⟩
      · exact ⟨_, rfl⟩
  · rw [if_neg pointer]
    exact ⟨entry.confidence, rfl⟩

theorem validateGlobal_unresolved {entry : PatternEntry} (unresolved : entry.isResolved = false) :
    PatternOrchestrator.validateGlobal content entry = entry := by
  unfold PatternOrchestrator.validateGlobal
  rw [unresolved, Bool.and_false]
  exact if_neg Bool.false_ne_true

/-- **Each phase does what its stage does.** -/
theorem phase4_does : Does (content.phase4 config) (content.stage4 config) := by
  have does := phaseOf_does content.finds4 true fun _ => !config.enableBatchScan
  have silent : Truthful [] := fun attempt member => absurd member List.not_mem_nil
  refine ⟨fun entry resolved => ?_, fun entry unresolved nothing => ?_,
    fun entry unresolved finding found bad => ?_, fun entry unresolved finding found good => ?_⟩
  · obtain ⟨stays, method, counted, -⟩ := does.resolved entry resolved
    exact ⟨stays, method, counted, rfl⟩
  · obtain ⟨same, counted, -⟩ := does.missed entry unresolved nothing
    exact ⟨same, counted, silent⟩
  · obtain ⟨same, counted, -⟩ := does.rejected entry unresolved finding found bad
    exact ⟨same, counted, iff_of_true silent rfl⟩
  · obtain ⟨resolved, counted, -⟩ := does.accepted entry unresolved finding found good
    exact ⟨resolved, counted, silent⟩

theorem phase7_does : Does content.phase7 content.stage7 := by
  have does := phaseOf_does content.finds7 false fun _ => false
  have silent : Truthful [] := fun attempt member => absurd member List.not_mem_nil
  refine ⟨fun entry resolved => ?_, fun entry unresolved nothing => ?_,
    fun entry unresolved finding found bad => ?_, fun entry unresolved finding found good => ?_⟩
  · obtain ⟨stays, method, -, -⟩ := does.resolved entry resolved
    obtain ⟨confidence, same⟩ :=
      content.validateGlobal_eq (phaseOf content.finds7 false (fun _ => false) entry).entry
    unfold phase7
    dsimp only
    rw [same]
    exact ⟨stays, method, rfl, rfl⟩
  · obtain ⟨same, -, -⟩ := does.missed entry unresolved nothing
    unfold phase7
    dsimp only
    rw [same, content.validateGlobal_unresolved unresolved]
    exact ⟨rfl, rfl, silent⟩
  · obtain ⟨same, -, -⟩ := does.rejected entry unresolved finding found bad
    unfold phase7
    dsimp only
    rw [same, content.validateGlobal_unresolved unresolved]
    exact ⟨rfl, rfl, iff_of_true silent rfl⟩
  · obtain ⟨⟨stays, method⟩, -, -⟩ := does.accepted entry unresolved finding found good
    obtain ⟨confidence, same⟩ :=
      content.validateGlobal_eq (phaseOf content.finds7 false (fun _ => false) entry).entry
    unfold phase7
    dsimp only
    rw [same]
    exact ⟨⟨stays, method⟩, rfl, silent⟩

theorem phases_do : List.Forall₂ Does (content.phases config) (content.stages config) :=
  .cons (content.phase4_does config) <| .cons (phaseOf_does _ _ _) <| .cons (phaseOf_does _ _ _) <|
    .cons content.phase7_does <| .cons (phaseOf_does _ _ _) .nil

/-! ### A run as a run of phases -/

/-- The scan of the batch, entry by entry. -/
theorem phase4_eq (enabled : config.enableBatchScan = true) (entry : PatternEntry) :
    content.phase4 config entry
      = match PatternOrchestrator.batchEntry entry with
        | none => ⟨entry, none, []⟩
        | some alone =>
          let scanned := ScannerEngine.settle content.space.memory content.scanner.getScanRegions alone
          if scanned.result.valid then
            ⟨entry.resolveEntry scanned.result.address .PatternScan (lit 1 1), some .PatternScan, []⟩
          else ⟨entry, none, []⟩ := by
  have alone (batch : BatchEntry) : (content.scanner.batchScan content.space.memory [batch]).value.head?
      = some (ScannerEngine.settle content.space.memory content.scanner.getScanRegions batch) := by
    rw [(ScannerEngine.batchScan_spec content.space.memory content.scanner [batch]).1]
    rfl
  unfold phase4 phaseOf
  rw [enabled, Bool.not_true, Bool.or_false]
  by_cases resolved : entry.isResolved = true
  · have none : PatternOrchestrator.batchEntry entry = none := if_pos resolved
    rw [if_pos resolved, none]
  · rw [if_neg resolved]
    have one : content.finds4.map (fun find => (find.1, attempt find.1 find.2))
        = [(.PatternScan, attempt .PatternScan content.batchAddress)] := rfl
    rw [one]
    cases batch : PatternOrchestrator.batchEntry entry with
    | none =>
      have nothing : content.batchAddress entry = none := by
        unfold batchAddress
        rw [batch]
        rfl
      rw [tryInOrder_missed nothing]
      rfl
    | some batch' =>
      have address : content.batchAddress entry
          = if (ScannerEngine.settle content.space.memory content.scanner.getScanRegions
              batch').result.valid then
            some ((ScannerEngine.settle content.space.memory content.scanner.getScanRegions
              batch').result.address, lit 1 1) else none := by
        unfold batchAddress
        rw [batch, Option.bind_some, alone, Option.bind_some]
      dsimp only
      split_ifs with valid
      · rw [if_pos valid] at address
        rw [tryInOrder_found address]
        rfl
      · rw [if_neg valid] at address
        rw [tryInOrder_missed address]
        rfl

theorem applyResults_eq (enabled : config.enableBatchScan = true) (entries : List PatternEntry) :
    PatternOrchestrator.applyResults entries
        ((entries.filterMap PatternOrchestrator.batchEntry).map
          (ScannerEngine.settle content.space.memory content.scanner.getScanRegions))
      = entries.map (content.phase4 config) := by
  induction entries with
  | nil => rfl
  | cons entry others ih =>
    rw [List.map_cons, content.phase4_eq config enabled entry]
    cases batch : PatternOrchestrator.batchEntry entry with
    | none =>
      rw [List.filterMap_cons_none batch]
      unfold PatternOrchestrator.applyResults
      rw [batch, ← ih]
    | some alone =>
      rw [List.filterMap_cons_some batch, List.map_cons]
      unfold PatternOrchestrator.applyResults
      rw [batch, ← ih]

end Content

namespace PatternOrchestrator

variable (content : Content) (orchestrator : PatternOrchestrator)

/-- A loop that leaves every entry alone. -/
theorem collect_idle {phase : PatternEntry → Handling}
    (idle : ∀ entry ∈ orchestrator.entries, phase entry = ⟨entry, none, []⟩) :
    orchestrator.collect (orchestrator.entries.map phase) = orchestrator := by
  have same : orchestrator.entries.map phase
      = orchestrator.entries.map fun entry => ⟨entry, none, []⟩ := List.map_congr_left idle
  unfold collect
  rw [same]
  have entries : (orchestrator.entries.map fun entry => (⟨entry, none, []⟩ : Handling)).map Handling.entry
      = orchestrator.entries := by
    rw [List.map_map]
    exact List.map_id _
  have attempts : (orchestrator.entries.map fun entry => (⟨entry, none, []⟩ : Handling)).flatMap
      Handling.attempts = [] := by
    rw [List.flatMap_map]
    exact List.flatMap_eq_nil_iff.mpr fun _ _ => rfl
  have counted (method : ResolutionMethod) :
      (orchestrator.entries.map fun entry => (⟨entry, none, []⟩ : Handling)).countP
        (fun handling => handling.counted = some method) = 0 := by
    refine List.countP_eq_zero.mpr fun handling member => ?_
    obtain ⟨entry, -, rfl⟩ := List.mem_map.mp member
    exact of_decide_eq_false rfl |> fun differs is => differs (of_decide_eq_true is)
  simp only [entries, attempts, counted, List.append_nil, Nat.add_zero]

theorem runPhase4_eq : orchestrator.runPhase4 content
    = orchestrator.collect (orchestrator.entries.map (content.phase4 orchestrator.config)) := by
  unfold runPhase4
  split_ifs with enabled
  · dsimp only
    rw [← content.applyResults_eq orchestrator.config enabled,
      (ScannerEngine.batchScan_spec content.space.memory content.scanner _).1]
  · refine (orchestrator.collect_idle fun entry _ => ?_).symm
    unfold Content.phase4 phaseOf
    rw [Bool.eq_false_iff.mpr enabled, Bool.not_false, Bool.or_true, if_pos rfl]

theorem runPhase5_eq : orchestrator.runPhase5 content
    = orchestrator.collect (orchestrator.entries.map (phaseOf content.finds5 true fun _ => false)) := by
  unfold runPhase5
  congr 2
  funext entry
  unfold phaseOf
  rw [Bool.or_false]
  rfl

theorem runPhase6_eq : orchestrator.runPhase6 content
    = orchestrator.collect (orchestrator.entries.map
        (phaseOf content.finds6 true fun _ => !orchestrator.config.enableCallGraph)) := by
  unfold runPhase6
  split_ifs with enabled
  · congr 2
    funext entry
    unfold phaseOf
    rw [enabled, Bool.not_true, Bool.or_false]
    rfl
  · refine (orchestrator.collect_idle fun entry _ => ?_).symm
    unfold phaseOf
    rw [Bool.eq_false_iff.mpr enabled, Bool.not_false, Bool.or_true, if_pos rfl]

theorem runPhase7_eq : orchestrator.runPhase7 content
    = orchestrator.collect (orchestrator.entries.map content.phase7) := by
  unfold runPhase7
  congr 2
  funext entry
  unfold Content.phase7 phaseOf
  rw [Bool.or_false]
  cases resolved : entry.isResolved with
  | true => rfl
  | false =>
    have one : content.finds7.map (fun find => (find.1, attempt find.1 find.2))
        = [(.StringXref, attempt .StringXref content.globalAddress)] := rfl
    rw [if_neg Bool.false_ne_true, if_neg Bool.false_ne_true, one]
    show _ = (⟨validateGlobal content (tryInOrder [(.StringXref, attempt .StringXref
      content.globalAddress)] entry).entry, none, []⟩ : Handling)
    rw [tryInOrder_entry]

theorem runPhase8_eq : orchestrator.runPhase8 content
    = orchestrator.collect (orchestrator.entries.map
        (phaseOf content.finds8 false fun entry => !entry.critical)) := by
  unfold runPhase8
  split_ifs with none
  · refine (orchestrator.collect_idle fun entry inside => ?_).symm
    have settled := List.countP_eq_zero.mp none entry inside
    unfold phaseOf
    refine if_pos ?_
    cases resolved : entry.isResolved with
    | true => rfl
    | false =>
      rw [resolved, Bool.not_false, Bool.true_and] at settled
      show (!entry.critical) = true
      rw [Bool.eq_false_iff.mpr settled]
      rfl
  · rfl

/-- Some phases, one after the other. -/
def runPhases (orchestrator : PatternOrchestrator) (phases : List (PatternEntry → Handling)) :
    PatternOrchestrator :=
  phases.foldl (fun before phase => before.collect (before.entries.map phase)) orchestrator

theorem countP_counted (phase : PatternEntry → Handling) (method : ResolutionMethod)
    (entries : List PatternEntry) :
    (entries.map phase).countP (fun handling => handling.counted = some method)
      = (entries.map fun entry => (phase entry).counted.toList.count method).sum := by
  induction entries with
  | nil => rfl
  | cons entry others ih =>
    rw [List.map_cons, List.map_cons, List.countP_cons, List.sum_cons, ih, Nat.add_comm]
    congr 1
    cases (phase entry).counted with
    | none => rfl
    | some other =>
      rw [Option.toList_some, List.count_singleton]
      simp only [Option.some.injEq, decide_eq_true_eq, beq_iff_eq]

/-- **A run of phases** does with each entry what the phases do with it alone. -/
theorem runPhases_spec (orchestrator : PatternOrchestrator) (phases : List (PatternEntry → Handling)) :
    (orchestrator.runPhases phases).entries = orchestrator.entries.map (fun entry => (through phases entry).1)
      ∧ (∀ method, (orchestrator.runPhases phases).lastReport.resolvedBy method
        = orchestrator.lastReport.resolvedBy method
          + (orchestrator.entries.map fun entry => (through phases entry).2.1.count method).sum)
      ∧ (Truthful (orchestrator.runPhases phases).attempts
        ↔ Truthful orchestrator.attempts
          ∧ ∀ entry ∈ orchestrator.entries, Truthful (through phases entry).2.2) := by
  induction phases generalizing orchestrator with
  | nil =>
    refine ⟨(List.map_id _).symm, fun method => ?_, ?_⟩
    · have none : orchestrator.entries.map (fun entry => (through [] entry).2.1.count method)
          = orchestrator.entries.map fun _ => 0 := rfl
      rw [none, List.map_const', List.sum_replicate, smul_zero]
      rfl
    · exact (and_iff_left fun entry _ attempt member => absurd member List.not_mem_nil).symm
  | cons phase others ih =>
    obtain ⟨entries, resolvedBy, truthful⟩ :=
      ih (orchestrator.collect (orchestrator.entries.map phase))
    have step : (orchestrator.collect (orchestrator.entries.map phase)).entries
        = orchestrator.entries.map fun entry => (phase entry).entry := List.map_map
    refine ⟨?_, fun method => ?_, ?_⟩
    · refine entries.trans ?_
      rw [step, List.map_map]
      rfl
    · have counted : (orchestrator.collect (orchestrator.entries.map phase)).lastReport.resolvedBy method
          = orchestrator.lastReport.resolvedBy method
            + (orchestrator.entries.map fun entry => (phase entry).counted.toList.count method).sum := by
        rw [← countP_counted]
        rfl
      refine (resolvedBy method).trans ?_
      rw [step, List.map_map, counted, Nat.add_assoc, ← List.sum_map_add]
      congr 3
      funext entry
      exact List.count_append.symm
    · refine truthful.trans ?_
      rw [step, List.forall_mem_map]
      show Truthful (orchestrator.attempts ++ (orchestrator.entries.map phase).flatMap Handling.attempts)
        ∧ _ ↔ _
      rw [truthful_append, and_assoc]
      refine and_congr_right fun _ => ?_
      rw [List.flatMap_map]
      constructor
      · rintro ⟨here, later⟩ entry inside
        exact truthful_append.mpr ⟨fun attempt member =>
          here attempt (List.mem_flatMap.mpr ⟨entry, inside, member⟩), later entry inside⟩
      · intro all
        refine ⟨fun attempt member => ?_, fun entry inside => (truthful_append.mp (all entry inside)).2⟩
        obtain ⟨entry, inside, there⟩ := List.mem_flatMap.mp member
        exact (truthful_append.mp (all entry inside)).1 attempt there

/-- What a run starts from. -/
def started : PatternOrchestrator :=
  { orchestrator with lastReport := { totalEntries := orchestrator.entries.length }, attempts := [] }

theorem run_eq : orchestrator.run content
    = (orchestrator.started.runPhases (content.phases orchestrator.config)).finish := by
  unfold run
  dsimp only
  rw [runPhase8_eq, runPhase7_eq, runPhase6_eq, runPhase5_eq, runPhase4_eq]
  rfl

end PatternOrchestrator

/-! ### What a run and a retry should do -/

namespace Content

variable (content : Content) (config : OrchestratorConfig) (entry : PatternEntry)

/-- What the methods of a run find for an entry that stays unresolved, as far as they are applied. -/
def applicable : List (ResolutionMethod × Found) :=
  (if config.enableBatchScan then content.finds4.map fun find => (find.1, find.2 entry) else [])
    ++ (content.finds5.map fun find => (find.1, find.2 entry))
    ++ (if config.enableCallGraph then content.finds6.map fun find => (find.1, find.2 entry) else [])
    ++ (content.finds7.map fun find => (find.1, find.2 entry))
    ++ if entry.critical then content.finds8.map fun find => (find.1, find.2 entry) else []

/-- The methods of a retry. -/
def findsAgain : List (ResolutionMethod × (PatternEntry → Found)) :=
  (.PatternScan, content.patternAddress) :: content.finds5 ++ content.finds6

def applicableAgain : List (ResolutionMethod × Found) :=
  content.findsAgain.map fun find => (find.1, find.2 entry)

end Content

/-- Every method finds no address, or one that is rejected. -/
def Exhausted (entry : PatternEntry) (methods : List (ResolutionMethod × Content.Found)) : Prop :=
  ∀ method ∈ methods, ∀ found, method.2 = some found → entry.rejects found.1 method.1 = true

/-- The methods that have a counter. -/
def countedMethods : List ResolutionMethod :=
  [.PatternScan, .StringXref, .VTableSlot, .CallGraphTrace, .HardcodedOffset, .ComplexPattern]

/-- What a run should do: an entry stays unresolved only where all methods fail, a call that returns
true has resolved its entry, and the counters count what each method has resolved. -/
structure RunSound (content : Content) (orchestrator : PatternOrchestrator) : Prop where
  exhausted : ∀ entry ∈ (orchestrator.run content).entries, entry.isResolved = false →
    Exhausted entry (content.applicable orchestrator.config entry)
  truthful : Truthful (orchestrator.run content).attempts
  counted : ∀ method ∈ countedMethods, (orchestrator.run content).lastReport.resolvedBy method
    = (orchestrator.entries.zip (orchestrator.run content).entries).countP fun both =>
        !both.1.isResolved && (both.2.isResolved && both.2.resolvedMethod = method)
  total : (countedMethods.map (orchestrator.run content).lastReport.resolvedBy).sum
    = (orchestrator.run content).lastReport.totalResolved

/-- What a retry should do, as long as retries remain. -/
structure RetrySound (content : Content) (orchestrator : PatternOrchestrator) : Prop where
  exhausted : ∀ both ∈ orchestrator.entries.zip (orchestrator.retryFailed content).2.entries,
    both.1.isResolved = false → ¬ orchestrator.config.maxRetries ≤ both.1.retryCount →
    both.2.isResolved = false → Exhausted both.2 (content.applicableAgain both.2)
  truthful : Truthful (orchestrator.retryFailed content).2.attempts

/-- No entry is resolved before the run, and for each entry the first address that is found is one that
is counted, and is not rejected. -/
def RunFits (content : Content) (orchestrator : PatternOrchestrator) : Prop :=
  ∀ entry ∈ orchestrator.entries, entry.isResolved = false
    ∧ Clean entry.accepts ((content.stages orchestrator.config).map fun stage => stage entry)

/-- The first address that is found again for an entry is not rejected. -/
def RetryFits (content : Content) (orchestrator : PatternOrchestrator) : Prop :=
  ∀ entry ∈ orchestrator.entries, entry.isResolved = false →
    ¬ orchestrator.config.maxRetries ≤ entry.retryCount →
    ∀ finding, firstFound (content.applicableAgain entry) = some finding → entry.accepts finding = true

/-! ### One entry in a run -/

section Entry

variable {content : Content} {config : OrchestratorConfig} {entry : PatternEntry}

/-- The stages of an entry behind the batch. -/
def later (content : Content) (config : OrchestratorConfig) (entry : PatternEntry) : List (Stage Finding) :=
  (content.laterStages config).map fun stage => stage entry

/-- An entry is newly resolved by a method in a run. -/
def newly (content : Content) (config : OrchestratorConfig) (method : ResolutionMethod)
    (entry : PatternEntry) : ℕ :=
  if !entry.isResolved && ((through (content.phases config) entry).1.isResolved
    && (through (content.phases config) entry).1.resolvedMethod = method) then 1 else 0

/-- How often a method is counted for it. -/
def counting (content : Content) (config : OrchestratorConfig) (method : ResolutionMethod)
    (entry : PatternEntry) : ℕ :=
  (through (content.phases config) entry).2.1.count method

theorem found_stageOf {finds : List (ResolutionMethod × (PatternEntry → Content.Found))}
    {counted : Bool} {skipped : PatternEntry → Bool} {finding : Finding}
    (found : (stageOf finds counted skipped entry).found = some finding) :
    ∃ find ∈ finds, find.1 = finding.1 ∧ find.2 entry = some (finding.2.1, finding.2.2) := by
  unfold stageOf at found
  dsimp only at found
  split_ifs at found
  obtain ⟨find, inside, same⟩ := List.mem_map.mp (firstFound_mem found)
  obtain ⟨name, what⟩ := Prod.mk.inj same
  exact ⟨find, inside, name, what⟩

theorem later_counted : ∀ stage ∈ later content config entry, stage.counted = true →
    stage.reported = true := by
  intro stage inside
  unfold later Content.laterStages at inside
  simp only [List.map_cons, List.map_nil, List.mem_cons, List.not_mem_nil, or_false] at inside
  rcases inside with rfl | rfl | rfl | rfl
  · exact fun _ => rfl
  · exact fun _ => rfl
  · exact fun counted => absurd counted Bool.false_ne_true
  · exact fun _ => rfl

/-- A pointer that is discovered is for an entry of a pointer. -/
theorem later_silent : ∀ stage ∈ later content config entry, stage.reported = false →
    ∀ finding, stage.found = some finding → entry.accepts finding = true := by
  intro stage inside
  unfold later Content.laterStages at inside
  simp only [List.map_cons, List.map_nil, List.mem_cons, List.not_mem_nil, or_false] at inside
  rcases inside with rfl | rfl | rfl | rfl
  · exact fun silent => absurd silent.symm Bool.false_ne_true
  · exact fun silent => absurd silent.symm Bool.false_ne_true
  · intro _ finding found
    have found' : (stageOf content.finds7 false (fun _ => false) entry).found = some finding := found
    obtain ⟨find, member, -, there⟩ := found_stageOf found'
    rw [List.mem_singleton.mp member] at there
    refine PatternEntry.accepts_global ?_
    by_contra plain
    have nothing : content.globalAddress entry = none := if_pos plain
    exact absurd (nothing.symm.trans there).symm (Option.some_ne_none _)
  · exact fun silent => absurd silent.symm Bool.false_ne_true

/-- Behind the batch, nothing is found by the scan of patterns. -/
theorem later_methods : ∀ stage ∈ later content config entry, ∀ finding, stage.found = some finding →
    finding.1 ≠ .PatternScan ∧ finding.1 ∈ countedMethods := by
  intro stage inside finding found
  have named {finds : List (ResolutionMethod × (PatternEntry → Content.Found))} {counted : Bool}
      {skipped : PatternEntry → Bool}
      (all : ∀ find ∈ finds, find.1 ≠ .PatternScan ∧ find.1 ∈ countedMethods)
      (found : (stageOf finds counted skipped entry).found = some finding) :
      finding.1 ≠ .PatternScan ∧ finding.1 ∈ countedMethods := by
    obtain ⟨find, member, name, -⟩ := found_stageOf found
    rw [← name]
    exact all find member
  unfold later Content.laterStages at inside
  simp only [List.map_cons, List.map_nil, List.mem_cons, List.not_mem_nil, or_false] at inside
  rcases inside with rfl | rfl | rfl | rfl
  · exact named (by simp [Content.finds5, countedMethods]) found
  · exact named (by simp [Content.finds6, countedMethods]) found
  · have found' : (stageOf content.finds7 false (fun _ => false) entry).found = some finding := found
    exact named (by simp [Content.finds7, countedMethods]) found'
  · exact named (by simp [Content.finds8, countedMethods]) found

theorem stage4_method {finding : Finding} (found : (content.stage4 config entry).found = some finding) :
    finding.1 = .PatternScan := by
  have found' : (stageOf content.finds4 true (fun _ => !config.enableBatchScan) entry).found
      = some finding := found
  obtain ⟨find, member, name, -⟩ := found_stageOf found'
  rw [← name, List.mem_singleton.mp member]

/-- What is newly resolved is what the stages take. -/
theorem newly_eq (unresolved : entry.isResolved = false) (method : ResolutionMethod) :
    newly content config method entry
      = ((taken entry.accepts ((content.stages config).map fun stage => stage entry)).toList.map
          Prod.fst).count method := by
  obtain ⟨nothing, something, -, -⟩ := through_spec (content.phases_do config) unresolved
  unfold newly
  rw [unresolved, Bool.not_false, Bool.true_and]
  cases found : taken entry.accepts ((content.stages config).map fun stage => stage entry) with
  | none =>
    rw [nothing found, unresolved]
    rfl
  | some finding =>
    obtain ⟨resolved, named⟩ := something finding found
    rw [resolved, named, Bool.true_and, Option.toList_some, List.map_singleton, List.count_singleton]
    simp only [decide_eq_true_eq, beq_iff_eq]

theorem counting_eq (unresolved : entry.isResolved = false) (method : ResolutionMethod) :
    counting content config method entry
      = ((counts entry.accepts ((content.stages config).map fun stage => stage entry)).map
          Prod.fst).count method := by
  unfold counting
  rw [(through_spec (content.phases_do config) unresolved).2.2.1]

/-- An entry that was resolved before counts for nothing. -/
theorem counting_resolved (resolved : entry.isResolved = true) (method : ResolutionMethod) :
    counting content config method entry = 0 ∧ newly content config method entry = 0 := by
  obtain ⟨-, -, counted, -⟩ := through_resolved (content.phases_do config) resolved
  unfold counting newly
  rw [counted, resolved]
  exact ⟨rfl, rfl⟩

/-- What the batch finds decides which stages matter. -/
theorem stages_cases :
    (content.stages config).map (fun stage => stage entry)
      = content.stage4 config entry :: later content config entry := rfl

/-- No stage behind the batch takes anything for the scan. -/
theorem later_taken {finding : Finding} (found : taken entry.accepts (later content config entry) = some finding) :
    finding.1 ≠ .PatternScan ∧ finding.1 ∈ countedMethods := by
  obtain ⟨stage, inside, here⟩ := Cascade.mem_of_taken found
  exact later_methods stage inside finding here

theorem later_zero : ((taken entry.accepts (later content config entry)).toList.map Prod.fst).count
    .PatternScan = 0 := by
  cases found : taken entry.accepts (later content config entry) with
  | none => rfl
  | some finding =>
    rw [Option.toList_some, List.map_singleton, List.count_singleton]
    exact if_neg fun same => (later_taken found).1 (eq_of_beq same)

/-- The scan is counted at least as often as it resolves. -/
theorem newly_le_counting (unresolved : entry.isResolved = false) :
    newly content config .PatternScan entry ≤ counting content config .PatternScan entry := by
  rw [newly_eq unresolved, counting_eq unresolved, stages_cases]
  cases found : (content.stage4 config entry).found with
  | none =>
    rw [Cascade.taken_none found, later_zero]
    exact Nat.zero_le _
  | some finding =>
    cases judged : entry.accepts finding with
    | false =>
      rw [Cascade.taken_rejected found judged, later_zero]
      exact Nat.zero_le _
    | true =>
      rw [Cascade.taken_accepted found judged, Cascade.counts_accepted found judged]
      exact le_rfl

variable (unresolved : entry.isResolved = false)
  (honest : Honest entry.accepts ((content.stages config).map fun stage => stage entry))

include unresolved honest

/-- **If no call lies, the other methods resolve at least as often as they are counted.** -/
theorem counting_le_newly {method : ResolutionMethod} (other : method ≠ .PatternScan) :
    counting content config method entry ≤ newly content config method entry := by
  have behind (rest : Honest entry.accepts (later content config entry)) :
      ((counts entry.accepts (later content config entry)).map Prod.fst).count method
        ≤ ((taken entry.accepts (later content config entry)).toList.map Prod.fst).count method := by
    rcases Cascade.counts_of_honest later_counted rest with none | all
    · rw [none]
      exact Nat.zero_le _
    · rw [all]
  rw [newly_eq unresolved, counting_eq unresolved, stages_cases]
  rw [stages_cases] at honest
  cases found : (content.stage4 config entry).found with
  | none =>
    rw [Cascade.taken_none found, Cascade.counts_none found]
    exact behind ((Cascade.honest_none found).mp honest)
  | some finding =>
    cases judged : entry.accepts finding with
    | false =>
      have counted : (content.stage4 config entry).counted = true := rfl
      rw [Cascade.taken_rejected found judged, Cascade.counts_rejected found judged, if_pos counted,
        List.map_append, List.count_append, List.map_singleton, List.count_singleton,
        stage4_method found, if_neg fun same => other (eq_of_beq same).symm, Nat.zero_add]
      exact behind ((Cascade.honest_rejected found judged).mp honest).2
    | true =>
      rw [Cascade.taken_accepted found judged, Cascade.counts_accepted found judged]
      exact le_rfl

/-- **Exact counters are those of the clean cases.** -/
theorem clean_of_counting (exact : ∀ method ∈ countedMethods,
      counting content config method entry = newly content config method entry) :
    Clean entry.accepts ((content.stages config).map fun stage => stage entry) := by
  simp only [newly_eq unresolved, counting_eq unresolved, stages_cases] at exact
  rw [stages_cases] at honest ⊢
  cases found : (content.stage4 config entry).found with
  | none =>
    simp only [Cascade.taken_none found, Cascade.counts_none found] at exact
    have rest := (Cascade.honest_none found).mp honest
    refine (Cascade.clean_none found).mpr (Cascade.clean_of_counts later_silent rest ?_)
    rcases Cascade.counts_of_honest later_counted rest with none | all
    · rw [none]
      cases first : taken entry.accepts (later content config entry) with
      | none => rfl
      | some finding =>
        have counted := exact finding.1 (later_taken first).2
        rw [none, first, Option.toList_some, List.map_singleton, List.count_singleton_self] at counted
        exact absurd counted.symm Nat.one_ne_zero
    · exact all
  | some finding =>
    cases judged : entry.accepts finding with
    | true => exact (Cascade.clean_some found).mpr ⟨judged, rfl⟩
    | false =>
      have scanned := exact .PatternScan List.mem_cons_self
      have counted : (content.stage4 config entry).counted = true := rfl
      rw [Cascade.taken_rejected found judged, Cascade.counts_rejected found judged, if_pos counted,
        List.map_append, List.count_append, List.map_singleton, stage4_method found,
        List.count_singleton_self, later_zero] at scanned
      omega

end Entry

/-! ### All entries of a run -/

theorem countP_eq_sum {α : Type*} (p : α → Bool) (list : List α) :
    list.countP p = (list.map fun x => if p x then 1 else 0).sum := by
  induction list with
  | nil => rfl
  | cons x rest ih => rw [List.countP_cons, List.map_cons, List.sum_cons, ih, Nat.add_comm]

/-- Where one sum is no larger term by term, they are equal only term by term. -/
theorem eq_of_sum_eq {α : Type*} {f g : α → ℕ} {list : List α} (less : ∀ x ∈ list, f x ≤ g x)
    (same : (list.map f).sum = (list.map g).sum) : ∀ x ∈ list, f x = g x := by
  induction list with
  | nil => exact fun x member => absurd member List.not_mem_nil
  | cons x rest ih =>
    obtain ⟨here, there⟩ := List.forall_mem_cons.mp less
    have tail : (rest.map f).sum ≤ (rest.map g).sum := List.sum_le_sum there
    rw [List.map_cons, List.map_cons, List.sum_cons, List.sum_cons] at same
    exact List.forall_mem_cons.mpr ⟨by omega, ih there (by omega)⟩

theorem sum_sum_comm {α β : Type*} (g : α → β → ℕ) (rows : List α) (columns : List β) :
    (rows.map fun row => (columns.map (g row)).sum).sum
      = (columns.map fun column => (rows.map fun row => g row column).sum).sum := by
  induction columns with
  | nil =>
    rw [List.map_nil, List.sum_nil]
    simp
  | cons column rest ih =>
    simp only [List.map_cons, List.sum_cons]
    rw [List.sum_map_add, ih]

section Run

variable (content : Content) (orchestrator : PatternOrchestrator)

theorem run_entries : (orchestrator.run content).entries
    = orchestrator.entries.map fun entry => (through (content.phases orchestrator.config) entry).1 := by
  rw [orchestrator.run_eq content]
  exact (orchestrator.started.runPhases_spec _).1

theorem run_resolvedBy (method : ResolutionMethod) :
    (orchestrator.run content).lastReport.resolvedBy method
      = (orchestrator.entries.map (counting content orchestrator.config method)).sum := by
  have spec := (orchestrator.started.runPhases_spec (content.phases orchestrator.config)).2.1 method
  rw [orchestrator.run_eq content]
  exact spec.trans (Nat.zero_add _)

theorem run_truthful : Truthful (orchestrator.run content).attempts
    ↔ ∀ entry ∈ orchestrator.entries,
      Truthful (through (content.phases orchestrator.config) entry).2.2 := by
  rw [orchestrator.run_eq content]
  refine (orchestrator.started.runPhases_spec _).2.2.trans (and_iff_right ?_)
  exact fun attempt member => absurd member List.not_mem_nil

theorem run_totalResolved : (orchestrator.run content).lastReport.totalResolved
    = (orchestrator.entries.map fun entry =>
        if (through (content.phases orchestrator.config) entry).1.isResolved then 1 else 0).sum := by
  have total : (orchestrator.run content).lastReport.totalResolved
      = (orchestrator.run content).entries.countP fun entry => entry.isResolved := by
    rw [orchestrator.run_eq content]
    rfl
  rw [total, run_entries, countP_eq_sum, List.map_map]
  rfl

/-- What each method has newly resolved. -/
theorem run_newly (method : ResolutionMethod) :
    (orchestrator.entries.zip (orchestrator.run content).entries).countP (fun both =>
        !both.1.isResolved && (both.2.isResolved && both.2.resolvedMethod = method))
      = (orchestrator.entries.map (newly content orchestrator.config method)).sum := by
  have zipped : orchestrator.entries.zip (orchestrator.run content).entries
      = orchestrator.entries.map
          fun entry => (entry, (through (content.phases orchestrator.config) entry).1) := by
    rw [run_entries, List.map_prod_left_eq_zip]
  rw [zipped, countP_eq_sum, List.map_map]
  rfl

/-- The methods with a counter are all by which a run resolves anything. -/
theorem sum_newly (config : OrchestratorConfig) (entry : PatternEntry) :
    (countedMethods.map fun method => newly content config method entry).sum
      = if !entry.isResolved && (through (content.phases config) entry).1.isResolved then 1 else 0 := by
  cases resolved : entry.isResolved with
  | true =>
    have none : (fun method => newly content config method entry) = fun _ => 0 := by
      funext method
      exact (counting_resolved resolved method).2
    rw [none]
    rfl
  | false =>
    have all : (fun method => newly content config method entry) = _ :=
      funext fun method => newly_eq resolved method
    obtain ⟨nothing, something, -, -⟩ := through_spec (content.phases_do config) resolved
    rw [all]
    cases found : taken entry.accepts ((content.stages config).map fun stage => stage entry) with
    | none =>
      rw [nothing found, resolved]
      rfl
    | some finding =>
      obtain ⟨done, -⟩ := something finding found
      have named : finding.1 ∈ countedMethods := by
        obtain ⟨stage, inside, here⟩ := Cascade.mem_of_taken found
        rw [stages_cases] at inside
        rcases List.mem_cons.mp inside with rfl | inside
        · rw [stage4_method here]
          exact List.mem_cons_self
        · exact (later_methods stage inside finding here).2
      rw [done, Bool.not_false, Bool.true_and, if_pos rfl]
      simp only [Option.toList_some, List.map_singleton, List.count_singleton]
      generalize finding.1 = method at named
      revert method
      decide

/-- Nothing has been found by any method for an entry whose stages have found nothing. -/
theorem exhausted_of_none {config : OrchestratorConfig} {entry : PatternEntry}
    (nothing : ∀ stage ∈ (content.stages config).map (fun stage => stage entry), stage.found = none) :
    Exhausted entry (content.applicable config entry) := by
  have tried {finds : List (ResolutionMethod × (PatternEntry → Content.Found))} {counted : Bool}
      {skipped : PatternEntry → Bool} (none : (stageOf finds counted skipped entry).found = none)
      (turn : skipped entry = false) :
      Exhausted entry (finds.map fun find => (find.1, find.2 entry)) := by
    intro method inside found there
    unfold stageOf at none
    dsimp only at none
    rw [turn, if_neg Bool.false_ne_true] at none
    rw [firstFound_none none method inside] at there
    exact absurd there.symm (Option.some_ne_none found)
  have skipped {methods : List (ResolutionMethod × Content.Found)} {turn : Bool}
      (tried : turn = true → Exhausted entry methods) :
      Exhausted entry (if turn then methods else []) := by
    cases turn with
    | true => exact tried rfl
    | false => exact fun method inside => absurd inside List.not_mem_nil
  unfold Content.stages Content.laterStages at nothing
  simp only [List.map_cons, List.map_nil, List.forall_mem_cons] at nothing
  obtain ⟨four, five, six, seven, eight, -⟩ := nothing
  unfold Content.applicable
  have both {one two : List (ResolutionMethod × Content.Found)} (first : Exhausted entry one)
      (second : Exhausted entry two) : Exhausted entry (one ++ two) :=
    List.forall_mem_append.mpr ⟨first, second⟩
  have four' : (stageOf content.finds4 true (fun _ => !config.enableBatchScan) entry).found = none := four
  have seven' : (stageOf content.finds7 false (fun _ => false) entry).found = none := seven
  refine both (both (both (both (skipped fun turn => tried four' ?_) (tried five rfl))
    (skipped fun turn => tried six ?_)) (tried seven' rfl)) (skipped fun turn => tried eight ?_)
  · rw [turn, Bool.not_true]
  · rw [turn, Bool.not_true]
  · rw [turn, Bool.not_true]

/-- **A run is sound exactly if it fits.** -/
theorem run_sound_iff : RunSound content orchestrator ↔ RunFits content orchestrator := by
  have sums := sum_sum_comm (fun method entry => newly content orchestrator.config method entry)
    countedMethods orchestrator.entries
  simp only [sum_newly] at sums
  constructor
  · rintro ⟨-, truthful, counted, total⟩
    have exact : ∀ method ∈ countedMethods,
        (orchestrator.entries.map (counting content orchestrator.config method)).sum
          = (orchestrator.entries.map (newly content orchestrator.config method)).sum := by
      intro method inside
      rw [← run_resolvedBy, counted method inside, run_newly]
    have honest : ∀ entry ∈ orchestrator.entries, entry.isResolved = false →
        Honest entry.accepts ((content.stages orchestrator.config).map fun stage => stage entry) :=
      fun entry inside unresolved =>
        (through_spec (content.phases_do orchestrator.config) unresolved).2.2.2.mp
          ((run_truthful content orchestrator).mp truthful entry inside)
    -- the totals leave no room for entries that were resolved before
    have fresh : ∀ entry ∈ orchestrator.entries, entry.isResolved = false := by
      have whole : (orchestrator.entries.map fun entry =>
            if !entry.isResolved && (through (content.phases orchestrator.config) entry).1.isResolved
            then 1 else 0).sum
          = (orchestrator.entries.map fun entry =>
            if (through (content.phases orchestrator.config) entry).1.isResolved then 1 else 0).sum := by
        rw [← run_totalResolved, ← total, ← sums]
        refine congrArg List.sum (List.map_congr_left fun method inside => ?_)
        rw [run_resolvedBy, exact method inside]
      have each := eq_of_sum_eq (fun entry _ => ?_) whole
      · intro entry inside
        have here := each entry inside
        cases resolved : entry.isResolved with
        | false => rfl
        | true =>
          have stays := (through_resolved (content.phases_do orchestrator.config) resolved).1
          rw [resolved, stays] at here
          exact absurd here Nat.zero_ne_one
      · cases entry.isResolved with
        | false => exact le_rfl
        | true => exact Nat.zero_le _
    intro entry inside
    refine ⟨fresh entry inside, ?_⟩
    refine clean_of_counting (fresh entry inside) (honest entry inside (fresh entry inside)) ?_
    intro method named
    by_cases scan : method = .PatternScan
    · subst scan
      exact (eq_of_sum_eq (fun other member => newly_le_counting (fresh other member))
        (exact .PatternScan named).symm entry inside).symm
    · exact eq_of_sum_eq (fun other member => counting_le_newly (fresh other member)
        (honest other member (fresh other member)) scan) (exact method named) entry inside
  · intro fits
    have spec (entry : PatternEntry) (inside : entry ∈ orchestrator.entries) :=
      through_spec (content.phases_do orchestrator.config) (fits entry inside).1
    have exact : ∀ method, (orchestrator.run content).lastReport.resolvedBy method
        = (orchestrator.entries.map (newly content orchestrator.config method)).sum := by
      intro method
      rw [run_resolvedBy]
      refine congrArg List.sum (List.map_congr_left fun entry inside => ?_)
      rw [counting_eq (fits entry inside).1, newly_eq (fits entry inside).1,
        (Cascade.counts_of_clean (fits entry inside).2).1]
    refine ⟨fun final inside unresolved => ?_, ?_, fun method _ => ?_, ?_⟩
    · rw [run_entries] at inside
      obtain ⟨entry, member, rfl⟩ := List.mem_map.mp inside
      obtain ⟨nothing, something, -, -⟩ := spec entry member
      cases found : taken entry.accepts
          ((content.stages orchestrator.config).map fun stage => stage entry) with
      | none =>
        rw [nothing found]
        exact exhausted_of_none content (Cascade.none_of_clean (fits entry member).2 found)
      | some finding =>
        rw [(something finding found).1] at unresolved
        exact absurd unresolved.symm Bool.false_ne_true
    · refine (run_truthful content orchestrator).mpr fun entry inside => ?_
      exact (spec entry inside).2.2.2.mpr (Cascade.counts_of_clean (fits entry inside).2).2
    · rw [exact, run_newly]
    · have all : (orchestrator.run content).lastReport.resolvedBy = _ := funext exact
      rw [all, sums, run_totalResolved]
      refine congrArg List.sum (List.map_congr_left fun entry inside => ?_)
      rw [(fits entry inside).1]
      rfl

end Run

/-! ### A retry -/

section Retry

variable (content : Content) (before : PatternOrchestrator)

/-- A try costs a retry, and finds what would be found without. -/
theorem retry_eq {entry : PatternEntry} (unresolved : entry.isResolved = false)
    (remain : ¬ before.config.maxRetries ≤ entry.retryCount) :
    ∃ misses : List Attempt, (∀ attempt ∈ misses, attempt.returned = false) ∧
      before.retry content entry
        = (handled { entry with retryCount := entry.retryCount + 1 } misses
            (firstFound (content.applicableAgain entry))).counting false := by
  obtain ⟨misses, silent, whole⟩ :=
    tryInOrder_eq content.findsAgain { entry with retryCount := entry.retryCount + 1 }
  refine ⟨misses, silent, ?_⟩
  unfold PatternOrchestrator.retry
  rw [if_neg (Bool.eq_false_iff.mp unresolved), if_neg remain]
  exact congrArg (fun handling : Handling => handling.counting false) whole

/-- An entry that is not tried again is left as it is. -/
theorem retry_idle {entry : PatternEntry}
    (idle : entry.isResolved = true ∨ before.config.maxRetries ≤ entry.retryCount) :
    before.retry content entry = ⟨entry, none, []⟩ := by
  unfold PatternOrchestrator.retry
  rcases idle with resolved | spent
  · exact if_pos resolved
  · rw [if_pos spent]
    exact ite_self _

theorem retryFailed_attempts : Truthful (before.retryFailed content).2.attempts
    ↔ ∀ entry ∈ before.entries, Truthful (before.retry content entry).attempts := by
  show Truthful ([] ++ (before.entries.map (before.retry content)).flatMap Handling.attempts) ↔ _
  rw [List.nil_append, List.flatMap_map]
  constructor
  · intro all entry inside attempt member
    exact all attempt (List.mem_flatMap.mpr ⟨entry, inside, member⟩)
  · intro all attempt member
    obtain ⟨entry, inside, there⟩ := List.mem_flatMap.mp member
    exact all entry inside attempt there

theorem retryFailed_zip : before.entries.zip (before.retryFailed content).2.entries
    = before.entries.map fun entry => (entry, (before.retry content entry).entry) := by
  show before.entries.zip ((before.entries.map (before.retry content)).map Handling.entry) = _
  rw [List.map_map, List.map_prod_left_eq_zip]
  rfl

section Remain

variable {entry : PatternEntry} (unresolved : entry.isResolved = false)
  (remain : ¬ before.config.maxRetries ≤ entry.retryCount)

include unresolved remain

/-- One entry: its calls have told the truth exactly if the first address is not rejected. -/
theorem retry_truthful :
    Truthful (before.retry content entry).attempts
      ↔ ∀ finding, firstFound (content.applicableAgain entry) = some finding →
          entry.accepts finding = true := by
  obtain ⟨misses, silent, whole⟩ := retry_eq content before unresolved remain
  rw [whole]
  cases firstFound (content.applicableAgain entry) with
  | none =>
    exact iff_of_true (truthful_misses silent) fun finding none => absurd none.symm (Option.some_ne_none _)
  | some finding =>
    -- `accepts` does not look at how often an entry has been tried
    have same : ({ entry with retryCount := entry.retryCount + 1 } : PatternEntry).accepts finding
        = entry.accepts finding := rfl
    have calls : Truthful (((handled { entry with retryCount := entry.retryCount + 1 } misses
          (some finding)).counting false).attempts)
        ↔ (({ entry with retryCount := entry.retryCount + 1 } : PatternEntry).resolveWith
            finding).isResolved = true := by
      refine truthful_append.trans ((and_iff_right (truthful_misses silent)).trans ?_)
      exact List.forall_mem_singleton.trans ⟨fun last => last rfl, fun resolved _ => resolved⟩
    rw [calls]
    cases judged : entry.accepts finding with
    | true =>
      refine iff_of_true (PatternEntry.resolveWith_accepted (same.trans judged)).1 fun other found => ?_
      rw [← Option.some.inj found]
      exact judged
    | false =>
      rw [PatternEntry.resolveWith_rejected (same.trans judged)]
      refine iff_of_false (fun resolved => ?_) fun all => ?_
      · exact Bool.false_ne_true (unresolved.symm.trans resolved)
      · exact Bool.false_ne_true (judged.symm.trans (all finding rfl))

/-- Where no address is rejected, what stays unresolved has been tried in vain. -/
theorem retry_exhausted (fits : ∀ finding, firstFound (content.applicableAgain entry) = some finding →
      entry.accepts finding = true) (stays : (before.retry content entry).entry.isResolved = false) :
    Exhausted (before.retry content entry).entry
      (content.applicableAgain (before.retry content entry).entry) := by
  obtain ⟨misses, -, whole⟩ := retry_eq content before unresolved remain
  rw [whole] at stays ⊢
  cases first : firstFound (content.applicableAgain entry) with
  | none =>
    intro method inside found there
    -- no method looks at how often an entry has been tried
    have inside' : method ∈ content.applicableAgain entry := inside
    rw [firstFound_none first method inside'] at there
    exact absurd there.symm (Option.some_ne_none found)
  | some finding =>
    rw [first] at stays
    have good : ({ entry with retryCount := entry.retryCount + 1 } : PatternEntry).accepts finding
        = true := fits finding first
    exact absurd ((PatternEntry.resolveWith_accepted good).1.symm.trans stays).symm Bool.false_ne_true

end Remain

/-- **A retry is sound exactly if it fits.** -/
theorem retry_sound_iff : RetrySound content before ↔ RetryFits content before := by
  constructor
  · intro sound entry inside unresolved remain
    exact (retry_truthful content before unresolved remain).mp
      ((retryFailed_attempts content before).mp sound.truthful entry inside)
  · intro fits
    refine ⟨fun both inside unresolved remain stays => ?_, ?_⟩
    · rw [retryFailed_zip] at inside
      obtain ⟨entry, member, rfl⟩ := List.mem_map.mp inside
      exact retry_exhausted content before unresolved remain (fits entry member unresolved remain) stays
    · refine (retryFailed_attempts content before).mpr fun entry inside => ?_
      by_cases idle : entry.isResolved = true ∨ before.config.maxRetries ≤ entry.retryCount
      · rw [retry_idle content before idle]
        exact fun attempt member => absurd member List.not_mem_nil
      · obtain ⟨unresolved, remain⟩ := not_or.mp idle
        exact (retry_truthful content before (Bool.eq_false_iff.mpr unresolved) remain).mpr
          (fits entry inside (Bool.eq_false_iff.mpr unresolved) remain)

end Retry

/-! ### Both together -/

/-- **Addresses leave the entry to the next method** in a run and in a retry exactly if none is rejected
where it is the first one, and the run counts all that it resolves. -/
theorem resolutions_iff (content : Content) (orchestrator before : PatternOrchestrator) :
    (RunSound content orchestrator ∧ RetrySound content before)
      ↔ RunFits content orchestrator ∧ RetryFits content before :=
  and_congr (run_sound_iff content orchestrator) (retry_sound_iff content before)

/-! ### A function at an odd address -/

/-- A function that is named by a string, and by a slot of a table. -/
def namedTwice : PatternEntry where
  id := ascii "named"
  stringAnchor := some (ascii "x")
  stringAnchorLen := 1
  vtableClass := ascii "C"
  vtableSlot := 0

/-- The string is referred to in a function at `0x1008`, the slot holds `0x1010`. -/
def oddContent : Content where
  space := ⟨fun _ => 0, fun _ => false⟩
  scanner := ScannerEngine.smallEngine
  pdata := ⟨[], .nil⟩
  strings := { strings := [⟨ascii "x", [⟨0x1009, 0x1008⟩]⟩] }
  vtables := { vtables := [⟨ascii "C", 1, [0x1010]⟩] }
  rank := fun _ => UInt64.toNat

def oneNamed : PatternOrchestrator := { entries := [namedTwice] }

theorem stringAddress_named : oddContent.stringAddress namedTwice = some (0x1008, lit 85 100) := by
  have functions : oddContent.strings.findFunctionsReferencingString (oddContent.rank (ascii "x")) (ascii "x")
      = [0x1008] := List.mergeSort_singleton _
  have text : Content.searchStr namedTwice = some (ascii "x") := rfl
  unfold Content.stringAddress
  simp only [text, functions]

theorem tryStringXref_named : oddContent.tryStringXref namedTwice = ⟨true, namedTwice⟩ := by
  unfold Content.tryStringXref attempt
  rw [stringAddress_named]
  rfl

/-- The function is rejected, and that ends the phase. -/
theorem tryInOrder_named (others : List (ResolutionMethod × (PatternEntry → Attempt))) :
    tryInOrder ((.StringXref, oddContent.tryStringXref) :: others) namedTwice
      = ⟨namedTwice, some .StringXref, [⟨true, namedTwice⟩]⟩ := by
  rw [tryInOrder, tryStringXref_named]
  rfl

theorem through_named : through (oddContent.phases oneNamed.config) namedTwice
    = (namedTwice, [.StringXref], [⟨true, namedTwice⟩, ⟨false, namedTwice⟩]) := by
  have named : phaseOf oddContent.finds5 true (fun _ => false) namedTwice
      = ⟨namedTwice, some .StringXref, [⟨true, namedTwice⟩]⟩ :=
    congrArg (fun handling : Handling => handling.counting true) (tryInOrder_named _)
  unfold Content.phases through
  show through _ namedTwice = _
  unfold through
  rw [named]
  rfl

/-- The search of the string returns true, and is counted; the slot is not looked at. -/
theorem resolutions_fail :
    oddContent.vtableAddress namedTwice = some (0x1010, lit 9 10)
      ∧ oddContent.tryStringXref namedTwice = ⟨true, namedTwice⟩
      ∧ (oneNamed.run oddContent).entries = [namedTwice]
      ∧ (oneNamed.run oddContent).lastReport.resolvedBy .StringXref = 1
      ∧ (oneNamed.run oddContent).lastReport.totalResolved = 0
      ∧ ¬ (RunSound oddContent oneNamed ∧ RetrySound oddContent oneNamed) := by
  refine ⟨rfl, tryStringXref_named, ?_, ?_, ?_, fun sound => ?_⟩
  · rw [run_entries]
    exact congrArg (fun after => [after.1]) through_named
  · rw [run_resolvedBy]
    exact congrArg (fun after => [after.2.1.count ResolutionMethod.StringXref].sum) through_named
  · rw [run_totalResolved]
    exact congrArg (fun after => [if after.1.isResolved then 1 else 0].sum) through_named
  · have truthful := (run_truthful oddContent oneNamed).mp sound.1.truthful namedTwice List.mem_cons_self
    rw [through_named] at truthful
    exact Bool.false_ne_true (truthful ⟨true, namedTwice⟩ List.mem_cons_self rfl)

end KenshiMP
