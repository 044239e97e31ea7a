/-
**Failed installations: what they leave behind.**

A call that installs a hook is given a cell for the original function, and writes it before the last
step that can fail: the address of a stub in a page, a trampoline, or the content of a slot. Each
failure undoes what it has done to the library, the pages and the table, but none gives the cell its
content back.

* `installRaw_failed`: after a failure, the library, the pages, the table and the slots are as before,
  given that MinHook can remove what it has created;
* `failed_install_iff`: so is the cell exactly if nothing was written to it, or what it held.
-/

import KenshiMP.HookBookkeeping

namespace KenshiMP

open Assoc

variable {Patches : Type}

namespace MinHook

/-- What was created can be removed, and a function without a hook is as it was compiled. -/
structure Undoes (MH : MinHook Patches) : Prop where
  removes : ∀ {patches target landing}, MH.created patches target = some landing →
    (MH.removeHook patches target).1 = true
  plain : ∀ {patches target}, MH.created patches target = none → MH.enabled patches target = false

theorem Unchanged.refl (MH : MinHook Patches) (patches : Patches) : MH.Unchanged patches patches :=
  fun _ => ⟨rfl, rfl⟩

/-- **Removing a hook undoes its creation**, with a failure to switch it on between the two. -/
theorem Undoes.undone {MH : MinHook Patches} (lawful : MH.Lawful) (undoes : MH.Undoes)
    {patches created failed : Patches} {target trampoline : Addr} {landing : Landing}
    (creates : MH.createHook patches target landing = (some trampoline, created))
    (same : MH.Unchanged created failed) : MH.Unchanged patches (MH.removeHook failed target).2 := by
  obtain ⟨free, here, -, others⟩ := lawful.create creates
  have stands : MH.created failed target = some landing := (same target).1.trans here
  have removed : MH.removeHook failed target = (true, (MH.removeHook failed target).2) :=
    Prod.ext (undoes.removes stands) rfl
  obtain ⟨gone, off, rest⟩ := lawful.remove removed
  intro other
  by_cases this : other = target
  · subst this
    exact ⟨gone.trans free.symm, off.trans (undoes.plain free).symm⟩
  · obtain ⟨created', enabled'⟩ := rest other this
    obtain ⟨created'', enabled''⟩ := others other this
    exact ⟨created'.trans ((same other).1.trans created''),
      enabled'.trans ((same other).2.trans enabled'')⟩

end MinHook

namespace HookManager

variable (MH : MinHook Patches) (manager : HookManager Patches)

/-! ### The cell -/

/-- What the cell of the caller holds after `InstallRaw` of a function that starts with
`mov rax, rsp`: phase 4 writes the wrapper, phase 5 may fail. -/
def installMovRaxRspCell (env : InstallEnv) (target : Addr) (original : Option Addr) : Option Addr :=
  match manager.allocMovRaxRspPage env with
  | none => original
  | some page =>
    match (MH.createHook manager.patches target (.nakedDetour page)).1 with
    | none => original
    | some rawTrampoline =>
      if startsMovRaxRsp (env.prologue rawTrampoline) then
        original.map fun _ => (MovRaxRspHook.mk page rawTrampoline).trampolineWrapper
      else original

/-- MinHook writes the trampoline when it creates the hook. -/
def installStandardCell (target detour : Addr) (original : Option Addr) : Option Addr :=
  match (MH.createHook manager.patches target (.function detour)).1 with
  | none => original
  | some trampoline => original.map fun _ => trampoline

def installRawCell (env : InstallEnv) (name : String) (target detour : Addr)
    (original : Option Addr) : Option Addr :=
  if manager.accepts env name target then
    if startsMovRaxRsp (env.prologue target) then manager.installMovRaxRspCell MH env target original
    else manager.installStandardCell MH target detour original
  else original

/-- The slot is saved before it is known whether one may write to it. -/
def installVTableHookCell (name : String) (slot : VTableSlot) (original : Addr) : Addr :=
  if (manager.hooks.lookup name).isSome then original else manager.slots slot.location

/-- A call with what its cell holds; `InstallRaw` may have none. -/
inductive Install where
  | raw (env : InstallEnv) (name : String) (target detour : Addr) (original : Option Addr)
  | virtual (canProtect : Bool) (name : String) (slot : VTableSlot) (detour original : Addr)

def Install.cell : Install → Option Addr
  | .raw _ _ _ _ original => original
  | .virtual _ _ _ _ original => some original

structure Outcome (Patches : Type) where
  ok : Bool
  manager : HookManager Patches
  cell : Option Addr

def attempt : Install → Outcome Patches
  | .raw env name target detour original =>
    let (ok, visited) := manager.installRaw MH env name target detour original.isSome
    ⟨ok, visited.getLastD manager, manager.installRawCell MH env name target detour original⟩
  | .virtual canProtect name slot detour original =>
    let (ok, visited) := manager.installVTableHook canProtect name slot detour
    ⟨ok, visited.getLastD manager, some (manager.installVTableHookCell name slot original)⟩

/-- The table, the code, the slots and the pages are as before. -/
structure Undone (before after : HookManager Patches) : Prop where
  hooks : after.hooks = before.hooks
  patches : MH.Unchanged before.patches after.patches
  slots : after.slots = before.slots
  pages : after.pages = before.pages

theorem Undone.refl : Undone MH manager manager := ⟨rfl, .refl MH _, rfl, rfl⟩

/-- The address that is written to the cell before the last step that may fail. -/
inductive Publishes : Install → Addr → Prop
  | wrapper {env : InstallEnv} {name : String} {target detour page rawTrampoline : Addr}
      {original : Option Addr} (accepted : manager.accepts env name target = true)
      (starts : startsMovRaxRsp (env.prologue target) = true)
      (allocated : manager.allocMovRaxRspPage env = some page)
      (created : (MH.createHook manager.patches target (.nakedDetour page)).1 = some rawTrampoline)
      (intact : startsMovRaxRsp (env.prologue rawTrampoline) = true) :
      Publishes (.raw env name target detour original) (page + 0xC0)
  | trampoline {env : InstallEnv} {name : String} {target detour trampoline : Addr}
      {original : Option Addr} (accepted : manager.accepts env name target = true)
      (starts : startsMovRaxRsp (env.prologue target) = false)
      (created : (MH.createHook manager.patches target (.function detour)).1 = some trampoline) :
      Publishes (.raw env name target detour original) trampoline
  | virtual {canProtect : Bool} {name : String} {slot : VTableSlot} {detour original : Addr}
      (free : manager.hooks.lookup name = none) :
      Publishes (.virtual canProtect name slot detour original) (manager.slots slot.location)

/-! ### What is undone -/

variable {MH manager}

/-- A page that was allocated and freed again. -/
theorem pages_freed {page : Addr} (free : manager.pages page = none) :
    Function.update (Function.update manager.pages page (some {})) page none = manager.pages := by
  rw [Function.update_idem, ← free, Function.update_eq_self]

theorem pages_freed_built {page : Addr} (free : manager.pages page = none) (content : FixPage) :
    Function.update (Function.update (Function.update manager.pages page (some {})) page (some content))
      page none = manager.pages := by
  rw [Function.update_idem, Function.update_idem, ← free, Function.update_eq_self]

theorem allocated_free {env : InstallEnv} {page : Addr}
    (allocated : manager.allocMovRaxRspPage env = some page) : manager.pages page = none :=
  Option.isNone_iff_eq_none.mp (Option.filter_eq_some_iff.mp allocated).2

section Original

variable (lawful : MH.Lawful) (undoes : MH.Undoes) {env : InstallEnv} {name : String} {target detour : Addr}
  {original : Bool}

include lawful undoes

theorem installMovRaxRsp_failed
    (fails : (manager.installMovRaxRsp MH env name target detour original).1 = false) :
    Undone MH manager ((manager.installMovRaxRsp MH env name target detour original).2.getLastD manager) := by
  unfold installMovRaxRsp at fails ⊢
  cases allocated : manager.allocMovRaxRspPage env with
  | none => exact .refl MH manager
  | some page =>
    have free := allocated_free allocated
    rw [allocated] at fails
    dsimp only at fails ⊢
    rcases creates : MH.createHook (manager.setPage page (some {})).patches target
        (.nakedDetour page) with ⟨_ | rawTrampoline, created⟩
    · exact ⟨rfl, lawful.create_fails creates, rfl, pages_freed free⟩
    · rw [creates] at fails
      dsimp only at fails ⊢
      by_cases intact : startsMovRaxRsp (env.prologue rawTrampoline) = true
      · rw [if_pos intact] at fails ⊢
        rcases enables : MH.enableHook created target with ⟨_ | _, enabled⟩
        · have same := lawful.enable_fails enables
          simp only [setPage, enables]
          exact ⟨rfl, undoes.undone lawful creates same, rfl, pages_freed_built free _⟩
        · simp only [setPage, enables] at fails
          exact absurd fails.symm Bool.false_ne_true
      · rw [if_neg intact]
        exact ⟨rfl, undoes.undone lawful creates (.refl MH created), rfl, pages_freed free⟩

theorem installStandard_failed
    (fails : (manager.installStandard MH env name target detour original).1 = false) :
    Undone MH manager ((manager.installStandard MH env name target detour original).2.getLastD manager) := by
  unfold installStandard at fails ⊢
  rcases creates : MH.createHook manager.patches target (.function detour) with ⟨_ | trampoline, created⟩
  · exact ⟨rfl, lawful.create_fails creates, rfl, rfl⟩
  · rw [creates] at fails
    dsimp only at fails ⊢
    rcases enables : MH.enableHook created target with ⟨_ | _, enabled⟩
    · exact ⟨rfl, undoes.undone lawful creates (lawful.enable_fails enables), rfl, rfl⟩
    · rw [enables] at fails
      exact absurd fails.symm Bool.false_ne_true

/-- **A failure is undone**, as far as the manager is concerned. -/
theorem installRaw_failed (fails : (manager.installRaw MH env name target detour original).1 = false) :
    Undone MH manager ((manager.installRaw MH env name target detour original).2.getLastD manager) := by
  unfold installRaw at fails ⊢
  split_ifs at fails ⊢
  · exact installMovRaxRsp_failed lawful undoes fails
  · exact installStandard_failed lawful undoes fails
  · exact .refl MH manager

end Original

theorem attempt_failed (lawful : MH.Lawful) (undoes : MH.Undoes) {install : Install}
    (fails : (manager.attempt MH install).ok = false) :
    Undone MH manager (manager.attempt MH install).manager := by
  cases install with
  | raw env name target detour original => exact installRaw_failed lawful undoes fails
  | virtual canProtect name slot detour original =>
    show Undone MH manager ((manager.installVTableHook canProtect name slot detour).2.getLastD manager)
    have refused : (manager.installVTableHook canProtect name slot detour).1 = false := fails
    unfold installVTableHook at refused ⊢
    split_ifs at refused ⊢
    exact .refl MH manager

/-! ### What the cell holds -/

theorem cell_of_publishes {install : Install} {value : Addr}
    (publishes : Publishes MH manager install value) :
    (manager.attempt MH install).cell = install.cell.map fun _ => value := by
  cases publishes with
  | @wrapper env name target detour page rawTrampoline original accepted starts allocated created intact =>
    show manager.installRawCell MH env name target detour original = original.map fun _ => page + 0xC0
    unfold installRawCell installMovRaxRspCell
    rw [if_pos accepted, if_pos starts, allocated]
    dsimp only
    rw [created]
    exact if_pos intact
  | @trampoline env name target detour value original accepted starts created =>
    show manager.installRawCell MH env name target detour original = original.map fun _ => value
    unfold installRawCell installStandardCell
    rw [if_pos accepted, starts, if_neg Bool.false_ne_true, created]
  | @virtual canProtect name slot detour original free =>
    show some (manager.installVTableHookCell name slot original) = some (manager.slots slot.location)
    unfold installVTableHookCell
    rw [free]
    rfl

theorem cell_of_silent {install : Install} (silent : ∀ value, ¬ Publishes MH manager install value) :
    (manager.attempt MH install).cell = install.cell := by
  cases install with
  | raw env name target detour original =>
    show manager.installRawCell MH env name target detour original = original
    unfold installRawCell installMovRaxRspCell installStandardCell
    split_ifs with accepted starts
    · cases allocated : manager.allocMovRaxRspPage env with
      | none => rfl
      | some page =>
        dsimp only
        cases created : (MH.createHook manager.patches target (.nakedDetour page)).1 with
        | none => rfl
        | some rawTrampoline =>
          refine if_neg fun intact => ?_
          exact silent _ (.wrapper accepted starts allocated created intact)
    · cases created : (MH.createHook manager.patches target (.function detour)).1 with
      | none => rfl
      | some trampoline =>
        exact absurd (.trampoline accepted (Bool.eq_false_iff.mpr starts) created) (silent trampoline)
    · rfl
  | virtual canProtect name slot detour original =>
    show some (manager.installVTableHookCell name slot original) = some original
    unfold installVTableHookCell
    cases taken : manager.hooks.lookup name with
    | none => exact absurd (.virtual taken) (silent _)
    | some entry => rfl

/-- **The cell is as before** exactly if nothing is written to it, or what it holds. -/
theorem cell_iff (install : Install) :
    (manager.attempt MH install).cell = install.cell
      ↔ ∀ value, Publishes MH manager install value →
        ∀ content, install.cell = some content → content = value := by
  constructor
  · intro same value publishes content held
    rw [cell_of_publishes publishes, held] at same
    exact (Option.some.inj same).symm
  · intro equal
    by_cases published : ∃ value, Publishes MH manager install value
    · obtain ⟨value, publishes⟩ := published
      rw [cell_of_publishes publishes]
      cases held : install.cell with
      | none => rfl
      | some content => exact congrArg some (equal value publishes content held).symm
    · exact cell_of_silent (not_exists.mp published)

/-- **A failed installation** leaves all as it was exactly if nothing is written to the cell before the
failure, or what it holds. -/
theorem failed_install_iff (lawful : MH.Lawful) (undoes : MH.Undoes) (manager : HookManager Patches)
    (install : Install) (fails : (manager.attempt MH install).ok = false) :
    Undone MH manager (manager.attempt MH install).manager ∧ (manager.attempt MH install).cell = install.cell
      ↔ ∀ value, Publishes MH manager install value →
        ∀ content, install.cell = some content → content = value := by
  rw [and_iff_right (attempt_failed lawful undoes fails)]
  exact cell_iff install

/-! ### A hook that cannot be switched on -/

/-- MinHook, in a process that does not let it write to code. -/
def deniedMinHook : MinHook (Addr → Option (Landing × Bool)) :=
  { tableMinHook false with enableHook := fun patches _ => (false, patches) }

theorem deniedMinHook_lawful : deniedMinHook.Lawful :=
  { tableMinHook_lawful false with
    enable := fun result => by cases result
    enable_fails := fun result => by cases result; exact fun _ => ⟨rfl, rfl⟩ }

theorem deniedMinHook_undoes : deniedMinHook.Undoes where
  removes := by
    intro patches target landing created
    obtain ⟨hook, found, -⟩ := Option.map_eq_some_iff.mp created
    show ((tableMinHook false).removeHook patches target).1 = true
    simp only [tableMinHook, found]
  plain := by
    intro patches target created
    have none : patches target = none := Option.map_eq_none_iff.mp created
    show (patches target).any Prod.snd = false
    rw [none]
    rfl

/-- A manager that has just started. -/
def started : HookManager (Addr → Option (Landing × Bool)) :=
  { boot (fun _ => none) fun _ => 0 with initialized := true }

/-- A call for a function that starts with `mov rax, rsp`. -/
def stubInstall (original : Option Addr) : Install :=
  .raw (sampleEnv [0x48, 0x8B, 0xC4]) "CharacterCreate" 0x2000 0x7100 original

/-- A manager in a process in which somebody else has hooked that function. -/
def overtaken : HookManager (Addr → Option (Landing × Bool)) :=
  { started with patches := Function.update started.patches 0x2000 (some (.function 0x8000, true)) }

/-- There is a cell to fill and a page to give back: MinHook refuses the hook before anything is written. -/
theorem failed_install_denied :
    (overtaken.attempt deniedMinHook (stubInstall (some 5))).ok = false
      ∧ (Undone deniedMinHook overtaken (overtaken.attempt deniedMinHook (stubInstall (some 5))).manager
          ∧ (overtaken.attempt deniedMinHook (stubInstall (some 5))).cell = some 5) := by
  have fails : (overtaken.attempt deniedMinHook (stubInstall (some 5))).ok = false := by decide +kernel
  refine ⟨fails, (failed_install_iff deniedMinHook_lawful deniedMinHook_undoes overtaken (stubInstall (some 5))
    fails).mpr fun value published => ?_⟩
  cases published with
  | wrapper accepted starts allocated created => cases created
  | trampoline accepted starts => exact absurd starts (by decide)

/-- The call fails, its page is freed, and the cell points into it. -/
theorem failed_install_dangles :
    (started.attempt deniedMinHook (stubInstall (some 0))).ok = false
      ∧ (started.attempt deniedMinHook (stubInstall (some 0))).manager.pages 0x9000 = none
      ∧ (started.attempt deniedMinHook (stubInstall (some 0))).cell = some 0x90C0
      ∧ ¬ (Undone deniedMinHook started (started.attempt deniedMinHook (stubInstall (some 0))).manager
        ∧ (started.attempt deniedMinHook (stubInstall (some 0))).cell = (stubInstall (some 0)).cell) := by
  have cell : (started.attempt deniedMinHook (stubInstall (some 0))).cell = some 0x90C0 := by
    decide +kernel
  refine ⟨by decide +kernel, by decide +kernel, cell, fun both => ?_⟩
  rw [cell] at both
  exact absurd both.2 (by decide)

end HookManager

end KenshiMP
