/-
**The hook manager: three ways to divert a call, and one table that tells which are on.**

Inline hooks are made by MinHook, a library whose sources are not here: `MinHook` is what the manager
calls of it, and `MinHook.Lawful` what its documentation says about that. A function that starts with
`mov rax, rsp` gets a stub in a page of its own, and the stub has a flag of its own by which it passes
the call on. A virtual function is diverted by writing to the slot of its table.

Every operation yields the states that it passes through: other threads call the hooked functions all
the time, with no regard to the mutex of the manager.
-/

import KenshiMP.Lib.Assoc
import KenshiMP.Lib.Machine

namespace KenshiMP

open Assoc

abbrev Addr := UInt64

/-! ### The library that patches functions -/

/-- Where a patched function jumps to: a function, or the stub in a page of the manager. -/
inductive Landing where
  | function (address : Addr)
  | nakedDetour (page : Addr)
deriving DecidableEq

/-- MinHook, on a state of its own. A result of `false` or `none` is a status other than `MH_OK`. -/
structure MinHook (Patches : Type) where
  mhInitialize : Patches → Bool × Patches
  /-- the trampoline -/
  createHook : Patches → Addr → Landing → Option Addr × Patches
  enableHook : Patches → Addr → Bool × Patches
  disableHook : Patches → Addr → Bool × Patches
  disableAllHooks : Patches → Bool × Patches
  removeHook : Patches → Addr → Bool × Patches
  /-- the hook of a target -/
  created : Patches → Addr → Option Landing
  /-- its first bytes are the jump -/
  enabled : Patches → Addr → Bool

namespace MinHook

variable {Patches : Type} (MH : MinHook Patches)

def Unchanged (before after : Patches) : Prop :=
  ∀ target, MH.created after target = MH.created before target
    ∧ MH.enabled after target = MH.enabled before target

/-- Nothing but one target is touched. -/
def UnchangedBut (target : Addr) (before after : Patches) : Prop :=
  ∀ other, other ≠ target → MH.created after other = MH.created before other
    ∧ MH.enabled after other = MH.enabled before other

/-- A hook is created switched off, and once for a target; every function does what it is asked to
for exactly its target, or fails and leaves all as it was. -/
structure Lawful : Prop where
  mhInitialize : ∀ patches, MH.Unchanged patches (MH.mhInitialize patches).2
  create : ∀ {patches target landing trampoline after},
    MH.createHook patches target landing = (some trampoline, after) →
      MH.created patches target = none ∧ MH.created after target = some landing
        ∧ MH.enabled after target = false ∧ MH.UnchangedBut target patches after
  create_fails : ∀ {patches target landing after},
    MH.createHook patches target landing = (none, after) → MH.Unchanged patches after
  enable : ∀ {patches target after}, MH.enableHook patches target = (true, after) →
    MH.created after target = MH.created patches target ∧ MH.enabled after target = true
      ∧ MH.UnchangedBut target patches after
  enable_fails : ∀ {patches target after}, MH.enableHook patches target = (false, after) →
    MH.Unchanged patches after
  disable : ∀ {patches target after}, MH.disableHook patches target = (true, after) →
    MH.created after target = MH.created patches target ∧ MH.enabled after target = false
      ∧ MH.UnchangedBut target patches after
  disable_fails : ∀ {patches target after}, MH.disableHook patches target = (false, after) →
    MH.Unchanged patches after
  disableAll : ∀ {patches after}, MH.disableAllHooks patches = (true, after) →
    ∀ target, MH.created after target = MH.created patches target
      ∧ MH.enabled after target = false
  disableAll_fails : ∀ {patches after}, MH.disableAllHooks patches = (false, after) →
    MH.Unchanged patches after
  remove : ∀ {patches target after}, MH.removeHook patches target = (true, after) →
    MH.created after target = none ∧ MH.enabled after target = false
      ∧ MH.UnchangedBut target patches after
  remove_fails : ∀ {patches target after}, MH.removeHook patches target = (false, after) →
    MH.Unchanged patches after

end MinHook

/-! ### The table and what it manages -/

/-- A page of stubs: what its naked detour calls, once it is built, and the bypass flag. -/
structure FixPage where
  cppDetour : Option Addr := none
  bypassFlag : Bool := false
deriving DecidableEq

structure MovRaxRspHook where
  allocBase : Addr
  rawTrampoline : Addr
deriving DecidableEq

/-- `OFF_TRAMP_WRAP` -/
def MovRaxRspHook.trampolineWrapper (hook : MovRaxRspHook) : Addr := hook.allocBase + 0xC0

structure VTableSlot where
  vtableAddr : Addr
  vtableIndex : Int
deriving DecidableEq

/-- `vtableAddr + vtableIndex`, in pointers -/
def VTableSlot.location (slot : VTableSlot) : Addr :=
  slot.vtableAddr + 8 * UInt64.ofInt slot.vtableIndex

structure HookEntry where
  target : Addr
  detour : Addr
  original : Addr
  enabled : Bool
  /-- `isVtable`, with the slot -/
  vtable : Option VTableSlot := none
  movRaxRspHook : Option MovRaxRspHook := none
  prologueBytes : List UInt8 := []
  hasMovRaxRsp : Bool := false
deriving DecidableEq

structure HookManager (Patches : Type) where
  hooks : AMap String HookEntry := ∅
  initialized : Bool := false
  patches : Patches
  /-- the pages of stubs that are allocated -/
  pages : Addr → Option FixPage := fun _ => none
  /-- the memory of the virtual tables -/
  slots : Addr → Addr

/-- What the operating system and the image of the game answer to an installation. -/
structure InstallEnv where
  /-- the start of the function that contains the target, by its unwind data -/
  functionStart : Option Addr
  /-- the first eight bytes at an address -/
  prologue : Addr → List UInt8
  /-- the page that `VirtualAlloc` finds -/
  page : Option Addr

/-- `mov rax, rsp` -/
def startsMovRaxRsp (bytes : List UInt8) : Bool := bytes.take 3 = [0x48, 0x8B, 0xC4]

namespace HookManager

variable {Patches : Type} (MH : MinHook Patches) (manager : HookManager Patches)

def setPage (page : Addr) (content : Option FixPage) : HookManager Patches :=
  { manager with pages := Function.update manager.pages page content }

def setSlot (location content : Addr) : HookManager Patches :=
  { manager with slots := Function.update manager.slots location content }

def setEntry (name : String) (entry : HookEntry) : HookManager Patches :=
  { manager with hooks := AList.insert name entry manager.hooks }

/-- The bypass flag of a page of stubs. -/
def setBypass (page : Addr) (flag : Bool) : HookManager Patches :=
  { manager with
    pages := Function.update manager.pages page
      ((manager.pages page).map fun fix => { fix with bypassFlag := flag }) }

/-- The system hands out no page that is in use. -/
def allocMovRaxRspPage (env : InstallEnv) : Option Addr :=
  env.page.filter fun page => (manager.pages page).isNone

/-- The manager is up, the name is not taken, and the target is not the middle of a function. -/
def accepts (env : InstallEnv) (name : String) (target : Addr) : Bool :=
  manager.initialized && (manager.hooks.lookup name).isNone
    && env.functionStart.all (fun start => start == target)

/-- Seven phases; the page starts with a bypass flag of zero. -/
def installMovRaxRsp (env : InstallEnv) (name : String) (target detour : Addr) (original : Bool) :
    Bool × List (HookManager Patches) :=
  match manager.allocMovRaxRspPage env with
  | none => (false, [])
  | some page =>
    let allocated := manager.setPage page (some {})
    match MH.createHook allocated.patches target (.nakedDetour page) with
    | (none, patches) =>
      let refused := { allocated with patches := patches }
      (false, [allocated, refused, refused.setPage page none])
    | (some rawTrampoline, patches) =>
      let created := { allocated with patches := patches }
      if startsMovRaxRsp (env.prologue rawTrampoline) then
        let built := created.setPage page (some { cppDetour := some detour })
        let fix : MovRaxRspHook := ⟨page, rawTrampoline⟩
        match MH.enableHook built.patches target with
        | (false, patches) =>
          let failed := { built with patches := patches }
          let removed := { failed with patches := (MH.removeHook failed.patches target).2 }
          (false, [allocated, created, built, failed, removed, removed.setPage page none])
        | (true, patches) =>
          let enabled := { built with patches := patches }
          let bypassed := enabled.setBypass page true
          (true, [allocated, created, built, enabled, bypassed, bypassed.setEntry name
            { target := target
              detour := detour
              original := if original then fix.trampolineWrapper else rawTrampoline
              enabled := false
              movRaxRspHook := some fix
              prologueBytes := env.prologue target
              hasMovRaxRsp := true }])
      else
        let removed := { created with patches := (MH.removeHook created.patches target).2 }
        (false, [allocated, created, removed, removed.setPage page none])

def installStandard (env : InstallEnv) (name : String) (target detour : Addr) (original : Bool) :
    Bool × List (HookManager Patches) :=
  match MH.createHook manager.patches target (.function detour) with
  | (none, patches) => (false, [{ manager with patches := patches }])
  | (some trampoline, patches) =>
    let created := { manager with patches := patches }
    match MH.enableHook created.patches target with
    | (false, patches) =>
      let failed := { created with patches := patches }
      (false, [created, failed, { failed with patches := (MH.removeHook failed.patches target).2 }])
    | (true, patches) =>
      let enabled := { created with patches := patches }
      (true, [created, enabled, enabled.setEntry name
        { target := target
          detour := detour
          original := if original then trampoline else 0
          enabled := true
          prologueBytes := env.prologue target }])

def installRaw (env : InstallEnv) (name : String) (target detour : Addr) (original : Bool) :
    Bool × List (HookManager Patches) :=
  if manager.accepts env name target then
    if startsMovRaxRsp (env.prologue target) then
      manager.installMovRaxRsp MH env name target detour original
    else manager.installStandard MH env name target detour original
  else (false, [])

/-- The name is checked, not whether the slot has a hook already. -/
def installVTableHook (canProtect : Bool) (name : String) (slot : VTableSlot) (detour : Addr) :
    Bool × List (HookManager Patches) :=
  if (manager.hooks.lookup name).isSome || !canProtect then (false, [])
  else
    let written := manager.setSlot slot.location detour
    (true, [written, written.setEntry name
      { target := detour
        detour := detour
        original := manager.slots slot.location
        enabled := true
        vtable := some slot }])

/-- What takes a hook off, and frees its page. -/
def release (entry : HookEntry) : List (HookManager Patches) :=
  let off :=
    match entry.vtable with
    | some slot => [manager.setSlot slot.location entry.original]
    | none =>
      let disabled := { manager with patches := (MH.disableHook manager.patches entry.target).2 }
      [disabled, { disabled with patches := (MH.removeHook disabled.patches entry.target).2 }]
  match entry.movRaxRspHook with
  | some fix => off ++ [(off.getLastD manager).setPage fix.allocBase none]
  | none => off

def remove (name : String) : Bool × List (HookManager Patches) :=
  match manager.hooks.lookup name with
  | none => (false, [])
  | some entry =>
    let released := manager.release MH entry
    let last := released.getLastD manager
    (true, released ++ [{ last with hooks := AList.erase name last.hooks }])

/-- Remove some hooks, one after the other. -/
def removeNames : List String → HookManager Patches → List (HookManager Patches)
  | [], _ => []
  | name :: rest, manager =>
    let visited := (manager.remove MH name).2
    visited ++ removeNames rest (visited.getLastD manager)

def removeAll : List (HookManager Patches) :=
  removeNames MH (manager.hooks.toList.map Prod.fst) manager

/-- A stub has its own flag, a slot has none, everything else goes to MinHook. -/
def enable (name : String) : Bool × List (HookManager Patches) :=
  match manager.hooks.lookup name with
  | none => (false, [])
  | some entry =>
    match entry.hasMovRaxRsp, entry.movRaxRspHook, entry.vtable with
    | true, some fix, _ =>
      let cleared := manager.setBypass fix.allocBase false
      (true, [cleared, cleared.setEntry name { entry with enabled := true }])
    | _, _, none =>
      match MH.enableHook manager.patches entry.target with
      | (false, patches) => (false, [{ manager with patches := patches }])
      | (true, patches) =>
        let patched := { manager with patches := patches }
        (true, [patched, patched.setEntry name { entry with enabled := true }])
    | _, _, some _ => (true, [manager.setEntry name { entry with enabled := true }])

def disable (name : String) : Bool × List (HookManager Patches) :=
  match manager.hooks.lookup name with
  | none => (false, [])
  | some entry =>
    match entry.hasMovRaxRsp, entry.movRaxRspHook, entry.vtable with
    | true, some fix, _ =>
      let set := manager.setBypass fix.allocBase true
      (true, [set, set.setEntry name { entry with enabled := false }])
    | _, _, none =>
      match MH.disableHook manager.patches entry.target with
      | (false, patches) => (false, [{ manager with patches := patches }])
      | (true, patches) =>
        let restored := { manager with patches := patches }
        (true, [restored, restored.setEntry name { entry with enabled := false }])
    | _, _, some _ => (true, [manager.setEntry name { entry with enabled := false }])

/-- Slots are restored and pages freed, one entry after the other. -/
def restoreEntries : List (String × HookEntry) → HookManager Patches → List (HookManager Patches)
  | [], _ => []
  | (_, entry) :: rest, manager =>
    let restored :=
      match entry.vtable with
      | some slot => manager.setSlot slot.location entry.original
      | none => manager
    let freed :=
      match entry.movRaxRspHook with
      | some fix => restored.setPage fix.allocBase none
      | none => restored
    restored :: freed :: restoreEntries rest freed

/-- MinHook is asked to disable its hooks, not to remove them: their trampolines stay. -/
def shutdown : List (HookManager Patches) :=
  if manager.initialized then
    let disabled := { manager with patches := (MH.disableAllHooks manager.patches).2 }
    let restored := disabled :: restoreEntries manager.hooks.toList disabled
    restored ++ [{ restored.getLastD manager with hooks := ∅, initialized := false }]
  else []

def initializeManager : Bool × List (HookManager Patches) :=
  if manager.initialized then (true, [])
  else
    match MH.mhInitialize manager.patches with
    | (false, patches) => (false, [{ manager with patches := patches }])
    | (true, patches) => (true, [{ manager with patches := patches, initialized := true }])

/-! ### Runs -/

inductive Call where
  | initializes
  | installRaw (env : InstallEnv) (name : String) (target detour : Addr) (original : Bool)
  | installVTableHook (canProtect : Bool) (name : String) (slot : VTableSlot) (detour : Addr)
  | enable (name : String)
  | disable (name : String)
  | remove (name : String)
  | removeAll
  | shutdown

/-- The states that a call passes through, the last one included. -/
def visits : Call → List (HookManager Patches)
  | .initializes => (manager.initializeManager MH).2
  | .installRaw env name target detour original =>
    (manager.installRaw MH env name target detour original).2
  | .installVTableHook canProtect name slot detour =>
    (manager.installVTableHook canProtect name slot detour).2
  | .enable name => (manager.enable MH name).2
  | .disable name => (manager.disable MH name).2
  | .remove name => (manager.remove MH name).2
  | .removeAll => manager.removeAll MH
  | .shutdown => manager.shutdown MH

/-- The machine of the manager; its outputs are the states that it passes through. -/
def machine : Machine (HookManager Patches) Call (HookManager Patches) where
  step manager call :=
    let visited := manager.visits MH call
    (visited.getLastD manager, visited)

/-- Before the first call: no hooks, and the tables of the game as they are. -/
def boot (patches : Patches) (slots : Addr → Addr) : HookManager Patches :=
  { patches := patches, slots := slots }

end HookManager

end KenshiMP
