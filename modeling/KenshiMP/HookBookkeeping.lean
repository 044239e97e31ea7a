/-
**What the table of the hooks tells against what a call of a hooked function does.**

The table is behind a mutex, so within an operation another thread knows it as it was before or as
it is afterwards; `Throughout` compares every state of the operation with these two. `truthful` is
for the runs without the four operations that break one or the other, `truthful_fails` has a run for
each of these.
-/

import KenshiMP.Scanner.HookCalls

namespace KenshiMP

open Assoc

namespace HookManager

variable {Patches : Type} {MH : MinHook Patches} {slots : Addr → Addr}
  {manager after : HookManager Patches} {site : Site} {page : Option Addr}

/-! ### Runs -/

/-- One call, from a state in which the table and the mechanisms belong together. -/
theorem call_passes (lawful : MH.Lawful) (sound : Sound MH slots manager) {call : Call}
    (orderly : Orderly MH manager call) :
    Sound MH slots ((machine MH).next manager call)
      ∧ (¬ PatchesStub MH manager call → Passes MH slots manager (manager.visits MH call)) := by
  have both {visited : List (HookManager Patches)} {window : Prop}
      (passes : Passes MH slots manager visited) :
      Sound MH slots (visited.getLastD manager) ∧ (window → Passes MH slots manager visited) :=
    ⟨passes.sound, fun _ => passes⟩
  cases call with
  | initializes =>
    refine both ?_
    show Passes MH slots manager (manager.initializeManager MH).2
    unfold initializeManager
    by_cases up : manager.initialized = true
    · rw [if_pos up]
      exact .nothing sound
    · rw [if_neg up]
      have same := lawful.mhInitialize manager.patches
      rcases answer : MH.mhInitialize manager.patches with ⟨_ | _, patches⟩
      · rw [answer] at same
        exact .unchanged sound same manager.initialized
      · rw [answer] at same
        exact .unchanged sound same true
  | installRaw env name target detour original =>
    show Sound MH slots ((manager.installRaw MH env name target detour original).2.getLastD manager)
      ∧ (_ → Passes MH slots manager (manager.installRaw MH env name target detour original).2)
    unfold installRaw
    by_cases accepted : manager.accepts env name target = true
    · rw [if_pos accepted]
      have unused : manager.hooks.lookup name = none := by
        simp only [accepts, Bool.and_eq_true, Option.isNone_iff_eq_none] at accepted
        exact accepted.1.2
      by_cases special : startsMovRaxRsp (env.prologue target) = true
      · rw [if_pos special]
        obtain ⟨kept, passes⟩ := @installMovRaxRsp_passes _ _ _ _ target lawful sound env name unused
          detour original
        exact ⟨kept, fun outside => passes fun window => outside ⟨accepted, special, window⟩⟩
      · rw [if_neg special]
        exact both (installStandard_passes lawful sound unused)
    · rw [if_neg accepted]
      exact both (.nothing sound)
  | installVTableHook canProtect name slot detour => exact both (installVTableHook_passes sound orderly)
  | enable name => exact both (enable_passes lawful sound name)
  | disable name => exact both (disable_passes lawful sound orderly)
  | remove name => exact both (remove_fades lawful sound orderly).passes
  | removeAll => exact both (removeNames_fades lawful _ sound orderly).passes
  | shutdown => exact both (shutdown_fades sound orderly).passes

/-- **A call of a hooked function gets to its detour exactly if the table says so**: after every run of
calls that are in order, and on the way through any further one, unless it patches a stub in. -/
theorem truthful (lawful : MH.Lawful) {patches : Patches}
    (clean : ∀ target, MH.enabled patches target = false) (slots : Addr → Addr) (calls : List Call)
    (orderly : (machine MH).Along (Orderly MH) (boot patches slots) calls) :
    ((machine MH).run (boot patches slots) calls).Truthful MH slots
      ∧ ∀ call, Orderly MH ((machine MH).run (boot patches slots) calls) call →
        ¬ PatchesStub MH ((machine MH).run (boot patches slots) calls) call →
          ((machine MH).run (boot patches slots) calls).Throughout MH slots call := by
  have sound : Sound MH slots ((machine MH).run (boot patches slots) calls) :=
    Machine.run_invariant (motive := Sound MH slots)
      (fun _ _ next before => (call_passes lawful before next).1) (boot_sound clean) orderly
  refine ⟨sound.tells, fun call next outside state visited site detour foreign => ?_⟩
  obtain ⟨sound', passes⟩ := call_passes lawful sound next
  rw [← sound.tells site detour foreign, ← sound'.tells site detour foreign]
  exact (passes outside).between state visited site detour foreign

/-! ### A library for runs on given inputs -/

/-- A library that fails only where it must, or that never lets go of a patch. -/
def tableMinHook (stuck : Bool) : MinHook (Addr → Option (Landing × Bool)) where
  mhInitialize patches := (true, patches)
  createHook patches target landing :=
    match patches target with
    | some _ => (none, patches)
    | none => (some (target + 0x10000), Function.update patches target (some (landing, false)))
  enableHook patches target :=
    match patches target with
    | some (landing, false) => (true, Function.update patches target (some (landing, true)))
    | _ => (false, patches)
  disableHook patches target :=
    match patches target, stuck with
    | some (landing, true), false => (true, Function.update patches target (some (landing, false)))
    | _, _ => (false, patches)
  disableAllHooks patches :=
    if stuck then (false, patches)
    else (true, fun target => (patches target).map fun hook => (hook.1, false))
  removeHook patches target :=
    match patches target, stuck with
    | some _, false => (true, Function.update patches target none)
    | _, _ => (false, patches)
  created patches target := (patches target).map Prod.fst
  enabled patches target := (patches target).any Prod.snd

theorem tableMinHook_lawful (stuck : Bool) : (tableMinHook stuck).Lawful where
  mhInitialize _ _ := ⟨rfl, rfl⟩
  create := by
    intro patches target landing trampoline after result
    simp only [tableMinHook] at result ⊢
    cases found : patches target with
    | some hook => rw [found] at result; cases result
    | none =>
      rw [found] at result
      obtain ⟨-, rfl⟩ := Prod.mk.inj result
      exact ⟨rfl, by simp, by simp, fun other different => by simp [different]⟩
  create_fails := by
    intro patches target landing after result
    simp only [tableMinHook] at result
    cases found : patches target with
    | some hook => rw [found] at result; cases result; exact fun _ => ⟨rfl, rfl⟩
    | none => rw [found] at result; cases result
  enable := by
    intro patches target after result
    simp only [tableMinHook] at result ⊢
    rcases found : patches target with _ | ⟨landing, _ | _⟩ <;> rw [found] at result <;> cases result
    exact ⟨by simp, by simp, fun other different => by simp [different]⟩
  enable_fails := by
    intro patches target after result
    simp only [tableMinHook] at result
    rcases found : patches target with _ | ⟨landing, _ | _⟩ <;> rw [found] at result <;> cases result
    · exact fun _ => ⟨rfl, rfl⟩
    · exact fun _ => ⟨rfl, rfl⟩
  disable := by
    intro patches target after result
    simp only [tableMinHook] at result ⊢
    rcases found : patches target with _ | ⟨landing, _ | _⟩ <;> rw [found] at result <;>
      cases stuck <;> cases result
    exact ⟨by simp, by simp, fun other different => by simp [different]⟩
  disable_fails := by
    intro patches target after result
    simp only [tableMinHook] at result
    rcases found : patches target with _ | ⟨landing, _ | _⟩ <;> rw [found] at result <;>
      cases stuck <;> cases result <;> exact fun _ => ⟨rfl, rfl⟩
  disableAll := by
    intro patches after result target
    simp only [tableMinHook] at result ⊢
    cases stuck <;> cases result
    cases found : patches target <;> simp [found]
  disableAll_fails := by
    intro patches after result
    simp only [tableMinHook] at result
    cases stuck <;> cases result
    exact fun _ => ⟨rfl, rfl⟩
  remove := by
    intro patches target after result
    simp only [tableMinHook] at result ⊢
    rcases found : patches target with _ | hook <;> rw [found] at result <;>
      cases stuck <;> cases result
    exact ⟨by simp, by simp, fun other different => by simp [different]⟩
  remove_fails := by
    intro patches target after result
    simp only [tableMinHook] at result
    rcases found : patches target with _ | hook <;> rw [found] at result <;>
      cases stuck <;> cases result <;> exact fun _ => ⟨rfl, rfl⟩

/-- Every address is the start of a function with the given first bytes. -/
def sampleEnv (bytes : List UInt8) : InstallEnv where
  functionStart := none
  prologue _ := bytes
  page := some 0x9000

theorem recorded_iff {detour : Addr} :
    manager.Recorded site detour ↔ ∃ entry ∈ manager.hooks.toList,
      entry.2.site = site ∧ entry.2.detour = detour ∧ entry.2.enabled = true := by
  constructor
  · rintro ⟨name, entry, stored, found⟩
    exact ⟨(name, entry), AMap.mem_toList.mpr stored, found⟩
  · rintro ⟨⟨name, entry⟩, member, found⟩
    exact ⟨name, entry, AMap.mem_toList.mp member, found⟩

instance (manager : HookManager Patches) (site : Site) (detour : Addr) :
    Decidable (manager.Recorded site detour) := decidable_of_iff _ recorded_iff.symm

instance (manager : HookManager Patches) (detour : Addr) : ∀ site, Decidable (manager.Reaches MH site detour)
  | .slot location => inferInstanceAs (Decidable (manager.slots location = detour))
  | .code target =>
    have landing : Decidable (∃ page,
        MH.created manager.patches target = some (.nakedDetour page)
          ∧ manager.pages page = some ⟨some detour, false⟩) :=
      match found : MH.created manager.patches target with
      | none => .isFalse nofun
      | some (.function _) => .isFalse fun ⟨_, same, _⟩ => by cases same
      | some (.nakedDetour page) =>
        decidable_of_iff (manager.pages page = some ⟨some detour, false⟩)
          ⟨fun held => ⟨page, rfl, held⟩, fun ⟨_, same, held⟩ => by cases same; exact held⟩
    inferInstanceAs (Decidable (_ ∧ (_ ∨ _)))

instance (manager : HookManager Patches) (entry : HookEntry) :
    Decidable (manager.Releases MH entry) := inferInstanceAs (Decidable (_ → _))

/-- What holds of all entries, by a walk. -/
theorem forall_stored {motive : HookEntry → Prop}
    (all : ∀ entry ∈ manager.hooks.toList, motive entry.2) (name : String) (entry : HookEntry)
    (stored : manager.hooks.lookup name = some entry) : motive entry :=
  all (name, entry) (AMap.mem_toList.mpr stored)

theorem forall_found {name : String} {motive : HookEntry → Prop}
    (all : ∀ entry ∈ manager.hooks.lookup name, motive entry) :
    ∀ entry, manager.hooks.lookup name = some entry → motive entry := all

/-- **A run in which every kind of hook comes and goes.** -/
theorem truthful_sample :
    let calls : List Call := [.initializes,
      .installRaw (sampleEnv [0x40]) "Present" 0x1000 0x7000 true,
      .installRaw (sampleEnv [0x48, 0x8B, 0xC4]) "CharacterCreate" 0x2000 0x7100 true,
      .installVTableHook true "Tick" ⟨0x3000, 2⟩ 0x7200, .enable "CharacterCreate",
      .disable "Present", .remove "Tick"]
    let manager := (machine (tableMinHook false)).run (boot (fun _ => none) fun _ => 0) calls
    manager.Truthful (tableMinHook false) (fun _ => 0)
      ∧ manager.Throughout (tableMinHook false) (fun _ => 0) (.remove "CharacterCreate")
      ∧ manager.Recorded (.code 0x2000) 0x7100 := by
  intro calls manager
  have result := @truthful _ _ (tableMinHook_lawful false) (fun _ => none) (fun _ => rfl) (fun _ => 0)
    calls ?_
  · exact ⟨result.1, result.2 (.remove "CharacterCreate") (forall_found (by decide +kernel)) nofun,
      by decide +kernel⟩
  · exact ⟨trivial, trivial, trivial, fun _ _ => forall_stored (by decide +kernel), trivial,
      forall_found (by decide +kernel), forall_found (by decide +kernel), trivial⟩

/-- **The table does not always tell the truth.** A virtual function that is switched off is diverted
all the same; of two hooks on one slot the first is not reached although it is enabled; a hook is given
up although MinHook keeps its patch; and while a stub is installed its detour is reached with no entry
at all. -/
theorem truthful_fails :
    ¬ ((machine (tableMinHook false)).run (boot (fun _ => none) fun _ => 0)
        [.installVTableHook true "Tick" ⟨0x3000, 2⟩ 0x7200, .disable "Tick"]).Truthful
          (tableMinHook false) (fun _ => 0)
      ∧ ¬ ((machine (tableMinHook false)).run (boot (fun _ => none) fun _ => 0)
        [.installVTableHook true "Tick" ⟨0x3000, 2⟩ 0x7200,
          .installVTableHook true "Update" ⟨0x3000, 2⟩ 0x7300]).Truthful
          (tableMinHook false) (fun _ => 0)
      ∧ ¬ ((machine (tableMinHook true)).run (boot (fun _ => none) fun _ => 0)
        [.initializes, .installRaw (sampleEnv [0x40]) "Present" 0x1000 0x7000 true,
          .remove "Present"]).Truthful (tableMinHook true) (fun _ => 0)
      ∧ ¬ ((machine (tableMinHook false)).run (boot (fun _ => none) fun _ => 0)
        [.initializes]).Throughout (tableMinHook false) (fun _ => 0)
          (.installRaw (sampleEnv [0x48, 0x8B, 0xC4]) "CharacterCreate" 0x2000 0x7100 true) := by
  have foreign : ∀ location detour, detour ≠ 0 →
      (Site.slot location).Foreign (fun _ => 0) detour := fun _ _ => Ne.symm
  refine ⟨fun tells => ?_, fun tells => ?_, fun tells => ?_, fun tells => ?_⟩
  · have recorded := (tells (.slot 0x3010) 0x7200 (foreign _ _ (by decide))).mp (by decide +kernel)
    revert recorded
    decide +kernel
  · have reached := (tells (.slot 0x3010) 0x7200 (foreign _ _ (by decide))).mpr (by decide +kernel)
    revert reached
    decide +kernel
  · have recorded := (tells (.code 0x1000) 0x7000 trivial).mp (by decide +kernel)
    revert recorded
    decide +kernel
  · have always := fun visited member => tells visited member (.code 0x2000) 0x7100 trivial
    revert always
    decide +kernel

end HookManager

end KenshiMP
