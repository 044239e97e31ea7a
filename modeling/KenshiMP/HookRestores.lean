/-
**Whether taking the hooks off leaves the program as it was.**

MinHook has one hook for a function, and what it puts back are the bytes of the function. A slot of a
virtual table may be hooked any number of times, under different names: each entry keeps what it found
there, which is the detour of the one before. `overwritesAt` are these entries, the most recent first.
Taking one off is in order only at the top (`Topmost`), and `Shutdown`, which goes through the table in
the order of a hash map, has to come to the oldest of each slot last. `restored_along` is for the runs
that keep to that; `restored_unordered` has runs that do not.

`RemoveAll` is as good as removals one after the other.
-/

import KenshiMP.HookBookkeeping
import KenshiMP.Lib.UndoStack

namespace KenshiMP

open Assoc UndoStack

/-- What an entry keeps of the slot that it has overwritten. -/
structure Overwrite where
  name : String
  detour : Addr
  original : Addr
deriving DecidableEq

/-- What the entry has overwritten at the location, if it sits there. -/
def HookEntry.overwrite (location : Addr) (name : String) (entry : HookEntry) : Option Overwrite :=
  if entry.site = .slot location then some ⟨name, entry.detour, entry.original⟩ else none

namespace HookManager

/-! ### Runs, and when they are in order -/

/-- The manager, and the names of its installations, the most recent one first. -/
structure Chronicle (Patches : Type) where
  manager : HookManager Patches
  order : List String := []

inductive Moment where
  | call (call : Call)
  /-- The hash map may have any order. -/
  | rehash (rank : String → Nat)

variable {Patches : Type} (MH : MinHook Patches)

/-- The name under which a call puts a hook into the table. -/
def recordsName (manager : HookManager Patches) : Call → Option String
  | .installRaw env name target detour original =>
    if (manager.installRaw MH env name target detour original).1 then some name else none
  | .installVTableHook canProtect name slot detour =>
    if (manager.installVTableHook canProtect name slot detour).1 then some name else none
  | _ => none

def chronicle : Machine (Chronicle Patches) Moment Empty where
  step state
    | .call call =>
      (⟨(machine MH).next state.manager call,
        match state.manager.recordsName MH call with
        | some name => name :: state.order.erase name
        | none => state.order⟩, [])
    | .rehash rank =>
      ({ state with manager :=
          { state.manager with hooks := AMap.reorder rank state.manager.hooks } }, [])

section Order

variable (order : List String) (manager : HookManager Patches)

/-- What the hook under a name has overwritten at a location. -/
def overwriteOf (location : Addr) (name : String) : Option Overwrite :=
  (manager.hooks.lookup name).bind (HookEntry.overwrite location name)

/-- The hooks of a slot, the most recent one first. -/
def overwritesAt (location : Addr) : List Overwrite := order.filterMap (manager.overwriteOf location)

/-- The hooks of a slot, as a walk over the table comes to them. -/
def walkAt (location : Addr) : List Overwrite :=
  manager.hooks.toList.filterMap fun entry => entry.2.overwrite location entry.1

/-- MinHook lets go of the hook, or it is the most recent one of its slot. -/
def Topmost (name : String) : Prop :=
  ∀ entry ∈ manager.hooks.lookup name, manager.Releases MH entry
    ∧ ∀ slot ∈ entry.vtable,
      (overwritesAt order manager slot.location).head?.map Overwrite.name = some name

def TopmostAll : List String → HookManager Patches → Prop
  | [], _ => True
  | name :: rest, manager =>
    manager.Topmost MH order name ∧ TopmostAll rest ((manager.remove MH name).2.getLastD manager)

/-- Hooks of one slot are taken off in the reverse order of their installation, MinHook lets go of what
it is to let go of, and the manager is not shut down unless it is up. -/
def Tidy (state : Chronicle Patches) : Moment → Prop
  | .call (.remove name) => state.manager.Topmost MH state.order name
  | .call .removeAll =>
    TopmostAll MH state.order (state.manager.hooks.toList.map Prod.fst) state.manager
  | .call .shutdown =>
    if state.manager.initialized then
      (∀ target, MH.enabled (MH.disableAllHooks state.manager.patches).2 target = false)
        ∧ ∀ entry ∈ state.manager.hooks.toList, ∀ slot ∈ entry.2.vtable,
          (state.manager.walkAt slot.location).getLast?
            = (overwritesAt state.order state.manager slot.location).getLast?
    else state.manager.hooks.toList = []
  | _ => True

/-- Every slot holds what it held at first, and no function is patched. -/
def Restored (slots : Addr → Addr) : Prop :=
  (∀ location, manager.slots location = slots location)
    ∧ ∀ target, MH.enabled manager.patches target = false

end Order

/-! ### What is overwritten -/

variable {MH} {slots : Addr → Addr} {order : List String} {manager after : HookManager Patches}

variable {location : Addr} {name : String} {entry : HookEntry}

theorem overwriteOf_name {overwrite : Overwrite}
    (found : manager.overwriteOf location name = some overwrite) : overwrite.name = name := by
  obtain ⟨entry, stored, sits⟩ := Option.bind_eq_some_iff.mp found
  unfold HookEntry.overwrite at sits
  split at sits
  · obtain rfl := Option.some.inj sits
    rfl
  · cases sits

theorem overwrite_some {slot : VTableSlot} (virtual : entry.vtable = some slot) (name : String) :
    entry.overwrite slot.location name = some ⟨name, entry.detour, entry.original⟩ :=
  if_pos (HookEntry.site_slot virtual)

theorem overwrite_none (away : entry.site ≠ .slot location)
    (name : String) : entry.overwrite location name = none := if_neg away

/-- Lookups decide. -/
theorem overwritesAt_congr
    (same : ∀ name ∈ order, after.overwriteOf location name = manager.overwriteOf location name) :
    overwritesAt order after location = overwritesAt order manager location := by
  unfold overwritesAt
  exact List.filterMap_congr same

theorem overwritesAt_names : ((overwritesAt order manager location).map Overwrite.name).Sublist order := by
  unfold overwritesAt
  induction order with
  | nil => exact List.Sublist.refl _
  | cons name rest ih =>
    rw [List.filterMap_cons]
    cases found : manager.overwriteOf location name with
    | none => exact ih.cons name
    | some overwrite =>
      rw [List.map_cons, overwriteOf_name found]
      exact ih.cons_cons name

theorem mem_overwritesAt {overwrite : Overwrite} :
    overwrite ∈ overwritesAt order manager location
      ↔ ∃ name ∈ order, manager.overwriteOf location name = some overwrite := List.mem_filterMap

/-- A name that the table does not have overwrites nothing. -/
theorem overwriteOf_unused (unused : manager.hooks.lookup name = none)
    (location : Addr) : manager.overwriteOf location name = none := by
  unfold overwriteOf
  rw [unused]
  rfl

theorem overwritesAt_erase_unused (unused : manager.hooks.lookup name = none) (location : Addr) :
    overwritesAt (order.erase name) manager location = overwritesAt order manager location := by
  unfold overwritesAt
  induction order with
  | nil => rfl
  | cons first rest ih =>
    by_cases same : first = name
    · subst same
      rw [List.erase_cons_head, List.filterMap_cons_none (overwriteOf_unused unused location)]
    · rw [List.erase_cons_tail (by simpa using same), List.filterMap_cons, List.filterMap_cons, ih]

/-- After a name has left the table. -/
theorem overwritesAt_erased (table : after.hooks = AList.erase name manager.hooks) (location : Addr) :
    overwritesAt order after location
      = (overwritesAt order manager location).filter fun overwrite => overwrite.name ≠ name := by
  have lookup (other : String) : after.overwriteOf location other
      = if other = name then none else manager.overwriteOf location other := by
    unfold overwriteOf
    rw [table, AMap.lookup_erase_eq]
    split <;> rfl
  unfold overwritesAt
  induction order with
  | nil => rfl
  | cons first rest ih =>
    rw [List.filterMap_cons, List.filterMap_cons, lookup]
    by_cases same : first = name
    · rw [if_pos same]
      cases found : manager.overwriteOf location first with
      | none => exact ih
      | some overwrite =>
        rw [List.filter_cons_of_neg (by simp [overwriteOf_name found, same])]
        exact ih
    · rw [if_neg same]
      cases found : manager.overwriteOf location first with
      | none => exact ih
      | some overwrite =>
        rw [List.filter_cons_of_pos (by simp [overwriteOf_name found, same])]
        exact congrArg _ ih

/-- A hook of another site leaves the hooks of a slot as they are. -/
theorem overwritesAt_elsewhere
    (stored : manager.hooks.lookup name = some entry) (away : entry.site ≠ .slot location)
    (table : after.hooks = AList.erase name manager.hooks) :
    overwritesAt order after location = overwritesAt order manager location := by
  rw [overwritesAt_erased table]
  refine List.filter_eq_self.mpr fun overwrite member => decide_eq_true fun same => ?_
  obtain ⟨other, -, found⟩ := mem_overwritesAt.mp member
  obtain rfl : other = name := (overwriteOf_name found).symm.trans same
  unfold overwriteOf at found
  rw [stored, Option.bind_some, overwrite_none away] at found
  cases found

/-- The most recent hook of a slot goes. -/
theorem overwritesAt_topmost (nodup : order.Nodup)
    (top : (overwritesAt order manager location).head?.map Overwrite.name = some name)
    (table : after.hooks = AList.erase name manager.hooks) :
    ∃ overwrite, overwrite.name = name
      ∧ overwritesAt order manager location = overwrite :: overwritesAt order after location := by
  obtain ⟨overwrite, first, named⟩ := Option.map_eq_some_iff.mp top
  obtain ⟨older, split⟩ := List.head?_eq_some_iff.mp first
  refine ⟨overwrite, named, ?_⟩
  rw [overwritesAt_erased table, split]
  have distinct : ((overwritesAt order manager location).map Overwrite.name).Nodup :=
    overwritesAt_names.nodup nodup
  rw [split, List.map_cons, List.nodup_cons] at distinct
  have others : ∀ other ∈ older, other.name ≠ name := by
    intro other member same
    refine distinct.1 ?_
    rw [named, ← same]
    exact List.mem_map_of_mem member
  rw [List.filter_cons_of_neg (by simp [named]), List.filter_eq_self.mpr (by simpa using others)]

/-! ### What a call leaves of the slots and the patches -/

/-- Slots and table are as before, and of the functions only the given ones have been patched. -/
structure Within (MH : MinHook Patches) (lit : Addr → Prop) (manager after : HookManager Patches) : Prop where
  slots : after.slots = manager.slots
  hooks : after.hooks = manager.hooks
  patched : ∀ target, MH.enabled after.patches target = true →
    lit target ∨ MH.enabled manager.patches target = true

section Patching

variable {lit : Addr → Prop} {patches : Patches} {target : Addr}

theorem Within.refl : Within MH lit manager manager := ⟨rfl, rfl, fun _ on => Or.inr on⟩

variable (lawful : MH.Lawful) (within : Within MH lit manager after)

include within

theorem Within.patch (only : ∀ target, MH.enabled patches target = true →
      lit target ∨ MH.enabled after.patches target = true) :
    Within MH lit manager { after with patches := patches } := by
  refine ⟨within.slots, within.hooks, fun target on => ?_⟩
  rcases only target on with here | before
  · exact Or.inl here
  · exact within.patched target before

theorem Within.unchanged (same : MH.Unchanged after.patches patches) :
    Within MH lit manager { after with patches := patches } :=
  within.patch fun target on => Or.inr ((same target).2.symm.trans on)

/-- The target is not patched afterwards, and no other function is another. -/
theorem Within.darkened (off : MH.enabled patches target = false)
    (same : MH.UnchangedBut target after.patches patches) :
    Within MH lit manager { after with patches := patches } := by
  refine within.patch fun other on => ?_
  by_cases here : other = target
  · rw [here, off] at on
    cases on
  · exact Or.inr ((same other here).2.symm.trans on)

theorem Within.setPage (page : Addr) (content : Option FixPage) :
    Within MH lit manager (after.setPage page content) :=
  ⟨within.slots, within.hooks, within.patched⟩

theorem Within.setBypass (page : Addr) (flag : Bool) : Within MH lit manager (after.setBypass page flag) :=
  ⟨within.slots, within.hooks, within.patched⟩

include lawful

theorem Within.enabled (here : lit target)
    (result : MH.enableHook after.patches target = (true, patches)) :
    Within MH lit manager { after with patches := patches } := by
  obtain ⟨-, -, same⟩ := lawful.enable result
  refine within.patch fun other on => ?_
  by_cases same' : other = target
  · exact Or.inl (same' ▸ here)
  · exact Or.inr ((same other same').2.symm.trans on)

theorem Within.created {landing : Landing} {trampoline : Addr}
    (result : MH.createHook after.patches target landing = (some trampoline, patches)) :
    Within MH lit manager { after with patches := patches } := by
  obtain ⟨-, -, off, same⟩ := lawful.create result
  exact within.darkened off same

/-- Whether MinHook removes it or not. -/
theorem Within.removed (target : Addr) :
    Within MH lit manager { after with patches := (MH.removeHook after.patches target).2 } := by
  rcases result : MH.removeHook after.patches target with ⟨_ | _, patches⟩
  · exact within.unchanged (lawful.remove_fails result)
  · obtain ⟨-, off, same⟩ := lawful.remove result
    exact within.darkened off same

theorem Within.disabled (target : Addr) :
    Within MH lit manager { after with patches := (MH.disableHook after.patches target).2 } := by
  rcases result : MH.disableHook after.patches target with ⟨_ | _, patches⟩
  · exact within.unchanged (lawful.disable_fails result)
  · obtain ⟨-, off, same⟩ := lawful.disable result
    exact within.darkened off same

end Patching

/-- An inline hook is put into the table with its target patched, or nothing is done. -/
inductive Installed (MH : MinHook Patches) (manager : HookManager Patches) (name : String) :
    Bool × List (HookManager Patches) → Prop
  | refused {visited : List (HookManager Patches)}
      (within : Within MH (fun _ => False) manager (visited.getLastD manager)) :
      Installed MH manager name (false, visited)
  | recorded {visited : List (HookManager Patches)} {patched : HookManager Patches}
      {entry : HookEntry} (last : visited.getLastD manager = patched.setEntry name entry)
      (inline : entry.vtable = none) (within : Within MH (· = entry.target) manager patched) :
      Installed MH manager name (true, visited)

section Original

variable (lawful : MH.Lawful) (env : InstallEnv) (name : String) (target detour : Addr) (original : Bool)

include lawful

theorem installStandard_installed :
    Installed MH manager name (manager.installStandard MH env name target detour original) := by
  unfold installStandard
  rcases result : MH.createHook manager.patches target (.function detour) with ⟨_ | trampoline, patches⟩
  · exact .refused (Within.refl.unchanged (lawful.create_fails result))
  · have created {lit : Addr → Prop} :
        Within MH lit manager { manager with patches := patches } := Within.refl.created lawful result
    simp only
    rcases result' : MH.enableHook patches target with ⟨_ | _, patches'⟩
    · exact .refused ((created.unchanged (lawful.enable_fails result')).removed lawful target)
    · have patched := (@created (· = target)).enabled lawful rfl result'
      exact .recorded rfl rfl patched

theorem installMovRaxRsp_installed :
    Installed MH manager name (manager.installMovRaxRsp MH env name target detour original) := by
  unfold installMovRaxRsp
  rcases manager.allocMovRaxRspPage env with _ | page
  · exact .refused .refl
  simp only
  have allocated {lit : Addr → Prop} : Within MH lit manager (manager.setPage page (some {})) :=
    Within.refl.setPage page _
  rcases result : MH.createHook (manager.setPage page (some {})).patches target (.nakedDetour page)
    with ⟨_ | trampoline, patches⟩
  · exact .refused ((allocated.unchanged (lawful.create_fails result)).setPage page none)
  · have created {lit : Addr → Prop} :
        Within MH lit manager { manager.setPage page (some {}) with patches := patches } :=
      allocated.created lawful result
    simp only
    by_cases special : startsMovRaxRsp (env.prologue trampoline) = true
    · rw [if_pos special]
      have built {lit : Addr → Prop} := (@created lit).setPage page (some { cppDetour := some detour })
      rcases result' : MH.enableHook patches target with ⟨_ | _, patches'⟩
      · simp only [result', HookManager.setPage]
        exact .refused (((built.unchanged (lawful.enable_fails result')).removed lawful target).setPage
          page none)
      · simp only [result', HookManager.setPage]
        have patched := (@built (· = target)).enabled lawful rfl result'
        exact .recorded rfl rfl (patched.setBypass page true)
    · rw [if_neg special]
      exact .refused ((created.removed lawful target).setPage page none)

theorem installRaw_installed :
    Installed MH manager name (manager.installRaw MH env name target detour original) := by
  unfold installRaw
  split_ifs
  · exact installMovRaxRsp_installed lawful env name target detour original
  · exact installStandard_installed lawful env name target detour original
  · exact .refused .refl

end Original

/-- The functions that an entry patches. -/
def Switched (MH : MinHook Patches) (manager : HookManager Patches) (name : String)
    (entry : HookEntry) (last : HookManager Patches) : Prop :=
  ∃ patched, Within MH (fun target => entry.site = .code target) manager patched
    ∧ (last = patched ∨ ∃ flag, last = patched.setEntry name { entry with enabled := flag })

theorem enable_switched (lawful : MH.Lawful) (stored : manager.hooks.lookup name = some entry) :
    Switched MH manager name entry ((manager.enable MH name).2.getLastD manager) := by
  unfold enable
  rw [stored]
  simp only
  split
  · exact ⟨_, Within.refl.setBypass _ false, Or.inr ⟨true, rfl⟩⟩
  · rename_i inline _
    split
    · rename_i result
      exact ⟨_, Within.refl.unchanged (lawful.enable_fails result), Or.inl rfl⟩
    · rename_i result
      exact ⟨_, Within.refl.enabled lawful (HookEntry.site_code inline) result,
        Or.inr ⟨true, rfl⟩⟩
  · exact ⟨_, .refl, Or.inr ⟨true, rfl⟩⟩

theorem disable_switched (lawful : MH.Lawful) (stored : manager.hooks.lookup name = some entry) :
    Switched MH manager name entry ((manager.disable MH name).2.getLastD manager) := by
  unfold disable
  rw [stored]
  simp only
  split
  · exact ⟨_, Within.refl.setBypass _ true, Or.inr ⟨false, rfl⟩⟩
  · split
    · rename_i result
      exact ⟨_, Within.refl.unchanged (lawful.disable_fails result), Or.inl rfl⟩
    · rename_i result
      obtain ⟨-, off, same⟩ := lawful.disable result
      exact ⟨_, Within.refl.darkened off same, Or.inr ⟨false, rfl⟩⟩
  · exact ⟨_, .refl, Or.inr ⟨false, rfl⟩⟩

theorem remove_virtual {name : String} {entry : HookEntry} {slot : VTableSlot}
    (stored : manager.hooks.lookup name = some entry) (virtual : entry.vtable = some slot) :
    let after := (manager.remove MH name).2.getLastD manager
    after.hooks = AList.erase name manager.hooks ∧ after.patches = manager.patches
      ∧ after.slots = Function.update manager.slots slot.location entry.original := by
  unfold remove
  rw [stored]
  simp only [release, virtual, List.getLastD_concat]
  cases entry.movRaxRspHook <;> exact ⟨rfl, rfl, rfl⟩

theorem remove_inline {name : String} {entry : HookEntry}
    (stored : manager.hooks.lookup name = some entry) (inline : entry.vtable = none) :
    let after := (manager.remove MH name).2.getLastD manager
    after.hooks = AList.erase name manager.hooks ∧ after.slots = manager.slots
      ∧ after.patches = (MH.removeHook (MH.disableHook manager.patches entry.target).2
        entry.target).2 := by
  unfold remove
  rw [stored]
  simp only [release, inline, List.getLastD_concat]
  cases entry.movRaxRspHook <;> exact ⟨rfl, rfl, rfl⟩

theorem remove_unused (unused : manager.hooks.lookup name = none) :
    (manager.remove MH name).2.getLastD manager = manager := by
  unfold remove
  rw [unused]
  rfl

/-- The walk of `Shutdown` takes back, at every location, what sits there. -/
theorem restoreEntries_takesBack (manager : HookManager Patches) (entries : List (String × HookEntry)) :
    ((restoreEntries entries manager).getLastD manager).patches = manager.patches
      ∧ ∀ location, ((restoreEntries entries manager).getLastD manager).slots location
        = takeBack Overwrite.original (manager.slots location)
          (entries.filterMap fun entry => entry.2.overwrite location entry.1) := by
  induction entries generalizing manager with
  | nil => exact ⟨rfl, fun _ => rfl⟩
  | cons first rest ih =>
    obtain ⟨name, entry⟩ := first
    obtain ⟨restored, freed, unfolded, patches, slots⟩ :
        ∃ restored freed, restoreEntries ((name, entry) :: rest) manager
            = restored :: freed :: restoreEntries rest freed
          ∧ freed.patches = manager.patches ∧ ∀ location, freed.slots location
            = takeBack Overwrite.original (manager.slots location)
              (entry.overwrite location name).toList := by
      refine ⟨_, _, rfl, ?_, fun location => ?_⟩
      · cases entry.movRaxRspHook <;> cases entry.vtable <;> rfl
      · cases virtual : entry.vtable with
        | none =>
          have away : entry.site ≠ .slot location := by
            rw [HookEntry.site_code virtual]
            exact nofun
          rw [overwrite_none away]
          cases entry.movRaxRspHook <;> rfl
        | some slot =>
          by_cases here : location = slot.location
          · rw [here, overwrite_some virtual]
            cases entry.movRaxRspHook <;> exact Function.update_self ..
          · have away : entry.site ≠ .slot location := by
              rw [HookEntry.site_slot virtual]
              exact fun same => here (Site.slot.inj same).symm
            rw [overwrite_none away]
            cases entry.movRaxRspHook <;> exact Function.update_of_ne here ..
    obtain ⟨patches', slots'⟩ := ih freed
    rw [unfolded, List.getLastD_cons, List.getLastD_cons]
    refine ⟨patches'.trans patches, fun location => ?_⟩
    rw [slots' location, slots location, List.filterMap_cons]
    cases entry.overwrite location name <;> rfl

/-! ### The invariant -/

/-- What lies in a slot is the detour of its most recent hook, under it what that one found, and so on
down to what the slot held at first; and every patched function has an entry. -/
structure Layered (MH : MinHook Patches) (slots : Addr → Addr) (order : List String)
    (manager : HookManager Patches) : Prop where
  nodup : order.Nodup
  stacked : ∀ location, Stacked Overwrite.detour Overwrite.original (slots location)
    (manager.slots location) (overwritesAt order manager location)
  covered : ∀ target, MH.enabled manager.patches target = true →
    ∃ name entry, manager.hooks.lookup name = some entry ∧ entry.site = .code target

theorem boot_layered {patches : Patches} (clean : ∀ target, MH.enabled patches target = false) :
    Layered MH slots [] (boot patches slots) := by
  refine ⟨List.nodup_nil, fun _ => rfl, fun target on => ?_⟩
  rw [show MH.enabled (boot patches slots).patches target = false from clean target] at on
  cases on

theorem Layered.overwritesAt_nil (empty : ∀ name, manager.hooks.lookup name = none)
    (location : Addr) : overwritesAt order manager location = [] := by
  refine List.filterMap_eq_nil_iff.mpr fun name _ => overwriteOf_unused (empty name) location

/-- **With nothing left in the table everything is as it was at first.** -/
theorem Layered.restored (layered : Layered MH slots order manager)
    (empty : ∀ name, manager.hooks.lookup name = none) : manager.Restored MH slots := by
  refine ⟨fun location => ?_, fun target => ?_⟩
  · have stacked := layered.stacked location
    rw [Layered.overwritesAt_nil empty] at stacked
    exact stacked.bare
  · by_contra on
    obtain ⟨name, entry, stored, -⟩ := layered.covered target (Bool.not_eq_false _ |>.mp on)
    rw [empty name] at stored
    cases stored

theorem Restored.layered (nodup : order.Nodup) (restored : after.Restored MH slots)
    (empty : ∀ name, after.hooks.lookup name = none) : Layered MH slots order after := by
  refine ⟨nodup, fun location => ?_, fun target on => ?_⟩
  · rw [Layered.overwritesAt_nil empty]
    exact restored.1 location
  · rw [restored.2 target] at on
    cases on

section Layering

variable (layered : Layered MH slots order manager)

include layered

/-- The patches may be others, as long as what is patched has an entry. -/
theorem Layered.within {lit : Addr → Prop}
    (within : Within MH lit manager after) (entries : ∀ target, lit target →
      ∃ name entry, manager.hooks.lookup name = some entry ∧ entry.site = .code target) :
    Layered MH slots order after := by
  refine ⟨layered.nodup, fun location => ?_, fun target on => ?_⟩
  · rw [within.slots, overwritesAt_congr fun name _ => ?_]
    · exact layered.stacked location
    · unfold overwriteOf
      rw [within.hooks]
  · rw [within.hooks]
    rcases within.patched target on with here | before
    · exact entries target here
    · exact layered.covered target before

/-- No function has been patched. -/
theorem Layered.calm (within : Within MH (fun _ => False) manager after) : Layered MH slots order after :=
  layered.within within fun _ impossible => impossible.elim

/-- Lookups in another order. -/
theorem Layered.rehash (rank : String → Nat) :
    Layered MH slots order { manager with hooks := AMap.reorder rank manager.hooks } := by
  refine ⟨layered.nodup, fun location => ?_, fun target on => ?_⟩
  · rw [overwritesAt_congr fun name _ => ?_]
    · exact layered.stacked location
    · unfold overwriteOf
      rw [show AList.lookup name (AMap.reorder rank manager.hooks) = manager.hooks.lookup name from
        AMap.lookup_reorder rank manager.hooks name]
  · obtain ⟨name, entry, stored, sits⟩ := layered.covered target on
    exact ⟨name, entry, (AMap.lookup_reorder rank manager.hooks name).trans stored, sits⟩

/-- An entry is switched on or off in the table. -/
theorem Layered.setFlag (stored : manager.hooks.lookup name = some entry) (flag : Bool) :
    Layered MH slots order (manager.setEntry name { entry with enabled := flag }) := by
  have lookup (other : String) :
      (manager.setEntry name { entry with enabled := flag }).hooks.lookup other
        = if other = name then some { entry with enabled := flag } else manager.hooks.lookup other :=
    AMap.lookup_insert_eq ..
  refine ⟨layered.nodup, fun location => ?_, fun target on => ?_⟩
  · rw [overwritesAt_congr fun other _ => ?_]
    · exact layered.stacked location
    · unfold overwriteOf
      rw [lookup]
      by_cases same : other = name
      · rw [if_pos same, same, stored]
        rfl
      · rw [if_neg same]
  · obtain ⟨other, found, stored', sits⟩ := layered.covered target on
    by_cases same : other = name
    · obtain rfl : entry = found := Option.some.inj ((same ▸ stored).symm.trans stored')
      exact ⟨name, { entry with enabled := flag }, by rw [lookup, if_pos rfl], sits⟩
    · exact ⟨other, found, by rw [lookup, if_neg same, stored'], sits⟩

theorem Layered.switched (stored : manager.hooks.lookup name = some entry)
    (switched : Switched MH manager name entry after) : Layered MH slots order after := by
  obtain ⟨patched, within, last⟩ := switched
  have layered' : Layered MH slots order patched :=
    layered.within within fun target sits => ⟨name, entry, stored, sits⟩
  rcases last with rfl | ⟨flag, rfl⟩
  · exact layered'
  · exact layered'.setFlag (by rw [within.hooks, stored]) flag

/-- An entry comes to the table, on top of those that sit where it sits. -/
theorem Layered.insert (unused : manager.hooks.lookup name = none)
    (table : after.hooks = AList.insert name entry manager.hooks)
    (here : ∀ location, entry.site = .slot location →
      after.slots location = entry.detour ∧ entry.original = manager.slots location)
    (elsewhere : ∀ location, entry.site ≠ .slot location →
      after.slots location = manager.slots location)
    (patched : ∀ target, MH.enabled after.patches target = true →
      entry.site = .code target ∨ MH.enabled manager.patches target = true) :
    Layered MH slots (name :: order.erase name) after := by
  have lookup (other : String) : after.hooks.lookup other
      = if other = name then some entry else manager.hooks.lookup other := by
    rw [table]
    exact AMap.lookup_insert_eq ..
  have absent : name ∉ order.erase name := layered.nodup.not_mem_erase
  have others (location : Addr) : overwritesAt (order.erase name) after location
      = overwritesAt order manager location := by
    rw [← overwritesAt_erase_unused unused]
    refine overwritesAt_congr fun other member => ?_
    have different : other ≠ name := fun same => absent (same ▸ member)
    unfold overwriteOf
    rw [lookup, if_neg different]
  have own (location : Addr) : after.overwriteOf location name = entry.overwrite location name := by
    unfold overwriteOf
    rw [lookup, if_pos rfl]
    rfl
  refine ⟨List.nodup_cons.mpr ⟨absent, layered.nodup.erase name⟩, fun location => ?_,
    fun target on => ?_⟩
  · by_cases sits : entry.site = .slot location
    · obtain ⟨content, found⟩ := here location sits
      have top : entry.overwrite location name = some ⟨name, entry.detour, entry.original⟩ :=
        if_pos sits
      rw [overwritesAt, List.filterMap_cons_some ((own location).trans top), content]
      refine @Stacked.push Overwrite _ _ _ _ _ ⟨name, entry.detour, entry.original⟩ _ ?_ found
      show Stacked _ _ _ _ (overwritesAt (order.erase name) after location)
      rw [others]
      exact layered.stacked location
    · rw [overwritesAt,
        List.filterMap_cons_none ((own location).trans (overwrite_none sits name)),
        elsewhere location sits]
      show Stacked _ _ _ _ (overwritesAt (order.erase name) after location)
      rw [others]
      exact layered.stacked location
  · rcases patched target on with sits | before
    · exact ⟨name, entry, by rw [lookup, if_pos rfl], sits⟩
    · obtain ⟨other, found, stored, sits⟩ := layered.covered target before
      refine ⟨other, found, ?_, sits⟩
      rw [lookup, if_neg fun same => ?_]
      · exact stored
      · rw [same, unused] at stored
        cases stored

end Layering

/-- An entry leaves the table: the topmost one of its slot, or one of a function that is not patched
any more. -/
theorem Layered.remove (lawful : MH.Lawful) (layered : Layered MH slots order manager)
    (topmost : manager.Topmost MH order name) :
    Layered MH slots order ((manager.remove MH name).2.getLastD manager) := by
  cases stored : manager.hooks.lookup name with
  | none =>
    rw [remove_unused stored]
    exact layered
  | some entry =>
    obtain ⟨releases, top⟩ := topmost entry stored
    have lookup {after : HookManager Patches} (table : after.hooks = AList.erase name manager.hooks)
        {other : String} {found : HookEntry} (stored' : manager.hooks.lookup other = some found)
        (different : other ≠ name) : after.hooks.lookup other = some found := by
      rw [table, AMap.lookup_erase_eq, if_neg different]
      exact stored'
    cases virtual : entry.vtable with
    | some slot =>
      obtain ⟨table, patches, contents⟩ := @remove_virtual _ MH _ _ _ _ stored virtual
      generalize (manager.remove MH name).2.getLastD manager = after at table patches contents ⊢
      have sits := HookEntry.site_slot virtual
      refine ⟨layered.nodup, fun location => ?_, fun target on => ?_⟩
      · rw [contents]
        by_cases here : location = slot.location
        · subst here
          have stacked := layered.stacked slot.location
          obtain ⟨overwrite, named, split⟩ :=
            overwritesAt_topmost layered.nodup (top slot virtual) table
          have mine : overwrite = ⟨name, entry.detour, entry.original⟩ := by
            have member : overwrite ∈ overwritesAt order manager slot.location :=
              split ▸ List.mem_cons_self
            obtain ⟨other, -, found⟩ := mem_overwritesAt.mp member
            obtain rfl : other = name := (overwriteOf_name found).symm.trans named
            unfold overwriteOf at found
            rw [stored, Option.bind_some, overwrite_some virtual] at found
            exact (Option.some.inj found).symm
          rw [split, mine] at stacked
          rw [Function.update_self]
          exact stacked.pop
        · rw [Function.update_of_ne here, overwritesAt_elsewhere stored ?_ table]
          · exact layered.stacked location
          · rw [sits]
            exact fun same => here (Site.slot.inj same).symm
      · rw [patches] at on
        obtain ⟨other, found, stored', sits'⟩ := layered.covered target on
        refine ⟨other, found, lookup table stored' fun same => ?_, sits'⟩
        rw [same, stored] at stored'
        obtain rfl := Option.some.inj stored'
        rw [sits] at sits'
        cases sits'
    | none =>
      obtain ⟨table, contents, patches⟩ := @remove_inline _ MH _ _ _ stored virtual
      generalize (manager.remove MH name).2.getLastD manager = after at table patches contents ⊢
      have sits := HookEntry.site_code virtual
      have off := releases virtual
      have within : Within MH (fun _ => False) manager { manager with patches := after.patches } := by
        rw [patches]
        exact (Within.refl.disabled lawful entry.target).removed lawful entry.target
      refine ⟨layered.nodup, fun location => ?_, fun target on => ?_⟩
      · rw [contents, overwritesAt_elsewhere stored ?_ table]
        · exact layered.stacked location
        · rw [sits]
          exact nofun
      · obtain ⟨other, found, stored', sits'⟩ :=
          layered.covered target ((within.patched target on).resolve_left id)
        refine ⟨other, found, lookup table stored' fun same => ?_, sits'⟩
        rw [same, stored] at stored'
        obtain rfl := Option.some.inj stored'
        rw [sits] at sits'
        cases sits'
        rw [patches, off] at on
        cases on

theorem Layered.removeNames (lawful : MH.Lawful) (names : List String)
    (layered : Layered MH slots order manager) (topmost : TopmostAll MH order names manager) :
    Layered MH slots order ((removeNames MH names manager).getLastD manager) := by
  induction names generalizing manager with
  | nil => exact layered
  | cons name rest ih =>
    have first := layered.remove lawful topmost.1
    show Layered MH slots order (((manager.remove MH name).2 ++ _).getLastD manager)
    rw [getLastD_append]
    exact ih first topmost.2

/-- The table of a state in which a walk meets nothing. -/
theorem lookup_of_toList_nil (empty : manager.hooks.toList = []) (name : String) :
    manager.hooks.lookup name = none := by
  refine Option.eq_none_iff_forall_ne_some.mpr fun entry stored => ?_
  have member := AMap.mem_toList.mpr stored
  rw [empty] at member
  cases member

/-- Where a walk comes to no hook, there is none. -/
theorem overwritesAt_of_walkAt_nil (none : manager.walkAt location = []) :
    overwritesAt order manager location = [] := by
  refine List.filterMap_eq_nil_iff.mpr fun name _ => ?_
  unfold overwriteOf
  cases stored : manager.hooks.lookup name with
  | none => rfl
  | some entry =>
    exact List.filterMap_eq_nil_iff.mp none (name, entry) (AMap.mem_toList.mpr stored)

/-- **`Shutdown` leaves everything as it was at first**, if its walk comes to the oldest hook of each
slot last. -/
theorem Layered.shutdown (layered : Layered MH slots order manager)
    (tidy : Tidy MH ⟨manager, order⟩ (.call .shutdown)) :
    ((manager.shutdown MH).getLastD manager).Restored MH slots
      ∧ ∀ name, ((manager.shutdown MH).getLastD manager).hooks.lookup name = none := by
  unfold Tidy at tidy
  unfold HookManager.shutdown
  by_cases up : manager.initialized = true
  · rw [if_pos up] at tidy ⊢
    obtain ⟨dark, oldest⟩ := tidy
    set disabled : HookManager Patches :=
      { manager with patches := (MH.disableAllHooks manager.patches).2 }
    obtain ⟨patches, contents⟩ := restoreEntries_takesBack disabled manager.hooks.toList
    rw [List.getLastD_concat, List.getLastD_cons]
    refine ⟨⟨fun location => ?_, fun target => ?_⟩, fun name => rfl⟩
    · refine (contents location).trans ((layered.stacked location).takeBack ?_)
      show (manager.walkAt location).getLast? = _
      by_cases walked : manager.walkAt location = []
      · rw [walked, overwritesAt_of_walkAt_nil walked]
      · obtain ⟨overwrite, member⟩ := List.exists_mem_of_ne_nil _ walked
        obtain ⟨⟨name, entry⟩, inside, found⟩ := List.mem_filterMap.mp member
        unfold HookEntry.overwrite at found
        split at found
        · rename_i sits
          cases virtual : entry.vtable with
          | none =>
            rw [HookEntry.site_code virtual] at sits
            cases sits
          | some slot =>
            rw [HookEntry.site_slot virtual] at sits
            obtain rfl := Site.slot.inj sits
            exact oldest (name, entry) inside slot virtual
        · cases found
    · show MH.enabled ((restoreEntries manager.hooks.toList disabled).getLastD disabled).patches _ = _
      rw [patches]
      exact dark target
  · rw [if_neg up] at tidy ⊢
    exact ⟨layered.restored (lookup_of_toList_nil tidy), lookup_of_toList_nil tidy⟩

/-! ### Runs -/

theorem chronicle_layered (lawful : MH.Lawful) (state : Chronicle Patches) (moment : Moment)
    (tidy : Tidy MH state moment) (layered : Layered MH slots state.order state.manager) :
    Layered MH slots ((chronicle MH).next state moment).order ((chronicle MH).next state moment).manager := by
  obtain ⟨manager, order⟩ := state
  cases moment with
  | rehash rank => exact layered.rehash rank
  | call call =>
    cases call with
    | initializes =>
      show Layered MH slots order ((manager.initializeManager MH).2.getLastD manager)
      unfold initializeManager
      have same := lawful.mhInitialize manager.patches
      split_ifs
      · exact layered
      · rcases answer : MH.mhInitialize manager.patches with ⟨_ | _, patches⟩ <;> rw [answer] at same
        · exact layered.calm (Within.refl.unchanged same)
        · have layered' := layered.calm (Within.refl.unchanged same)
          exact ⟨layered'.nodup, layered'.stacked, layered'.covered⟩
    | installRaw env name target detour original =>
      have installed := @installRaw_installed _ _ manager lawful env name target detour original
      have unused : (manager.installRaw MH env name target detour original).1 = true →
          manager.hooks.lookup name = none := by
        unfold installRaw
        intro done
        by_cases accepted : manager.accepts env name target = true
        · simp only [accepts, Bool.and_eq_true, Option.isNone_iff_eq_none] at accepted
          exact accepted.1.2
        · rw [if_neg accepted] at done
          cases done
      simp only [chronicle, Machine.next, machine, recordsName, visits]
      generalize manager.installRaw MH env name target detour original = result at installed unused ⊢
      cases installed with
      | refused within => exact layered.calm within
      | @recorded _ patched entry last inline within =>
        rw [last]
        have sits := HookEntry.site_code inline
        have table : (patched.setEntry name entry).hooks = AList.insert name entry manager.hooks := by
          rw [← within.hooks]
          rfl
        refine layered.insert (unused rfl) table (fun location here => ?_)
          (fun location _ => congrFun within.slots location) fun target on => ?_
        · rw [sits] at here
          cases here
        · rcases within.patched target on with rfl | before
          · exact Or.inl sits
          · exact Or.inr before
    | installVTableHook canProtect name slot detour =>
      simp only [chronicle, Machine.next, machine, recordsName, visits]
      unfold installVTableHook
      by_cases refused : ((manager.hooks.lookup name).isSome || !canProtect) = true
      · rw [if_pos refused]
        exact layered
      · rw [if_neg refused]
        simp only [Bool.or_eq_true, not_or, Option.not_isSome_iff_eq_none] at refused
        have sits {entry : HookEntry} (virtual : entry.vtable = some slot) {location : Addr}
            (here : entry.site = .slot location) : location = slot.location := by
          rw [HookEntry.site_slot virtual] at here
          exact (Site.slot.inj here).symm
        refine layered.insert refused.1 rfl (fun location here => ?_) (fun location away => ?_)
          fun target on => Or.inr on
        · rw [sits rfl here]
          exact ⟨Function.update_self .., rfl⟩
        · refine Function.update_of_ne (fun same => away ?_) ..
          rw [same]
          rfl
    | enable name =>
      show Layered MH slots order ((manager.enable MH name).2.getLastD manager)
      cases stored : manager.hooks.lookup name with
      | none =>
        unfold enable
        rw [stored]
        exact layered
      | some entry => exact layered.switched stored (enable_switched lawful stored)
    | disable name =>
      show Layered MH slots order ((manager.disable MH name).2.getLastD manager)
      cases stored : manager.hooks.lookup name with
      | none =>
        unfold disable
        rw [stored]
        exact layered
      | some entry => exact layered.switched stored (disable_switched lawful stored)
    | remove name => exact layered.remove lawful tidy
    | removeAll => exact layered.removeNames lawful _ tidy
    | shutdown =>
      obtain ⟨restored, empty⟩ := layered.shutdown tidy
      exact restored.layered layered.nodup empty

/-- A name that has been removed has no entry, and none comes to the table. -/
theorem removals_lookup (names : List String) (state : Chronicle Patches) (name : String)
    (gone : name ∈ names ∨ state.manager.hooks.lookup name = none) :
    ((chronicle MH).run state (names.map fun name => .call (.remove name))).manager.hooks.lookup name
      = none := by
  induction names generalizing state with
  | nil => exact gone.resolve_left List.not_mem_nil
  | cons first rest ih =>
    refine ih ((chronicle MH).next state (.call (.remove first))) ?_
    have lookup : ((chronicle MH).next state (.call (.remove first))).manager.hooks.lookup name
        = if name = first then none else state.manager.hooks.lookup name := by
      show ((state.manager.remove MH first).2.getLastD state.manager).hooks.lookup name = _
      cases stored : state.manager.hooks.lookup first with
      | none =>
        rw [remove_unused stored]
        by_cases same : name = first
        · rw [if_pos same, same, stored]
        · rw [if_neg same]
      | some entry =>
        rw [← AMap.lookup_erase_eq]
        cases virtual : entry.vtable with
        | none => rw [(@remove_inline _ MH _ _ _ stored virtual).1]
        | some slot => rw [(@remove_virtual _ MH _ _ _ _ stored virtual).1]
    by_cases same : name = first
    · exact Or.inr (lookup.trans (if_pos same))
    · rcases gone with member | none
      · exact Or.inl ((List.mem_cons.mp member).resolve_left same)
      · exact Or.inr (lookup.trans ((if_neg same).trans none))

/-- **Taking all hooks off leaves the program as it was**, in runs that are in order: by `Shutdown`, or
by removing every hook that is in the table. -/
theorem restored_along (lawful : MH.Lawful) {patches : Patches}
    (clean : ∀ target, MH.enabled patches target = false) (slots : Addr → Addr)
    (moments : List Moment)
    (tidy : (chronicle MH).Along (Tidy MH) ⟨boot patches slots, []⟩ moments) :
    let final := (chronicle MH).run ⟨boot patches slots, []⟩ moments
    (Tidy MH final (.call .shutdown) →
        ((chronicle MH).next final (.call .shutdown)).manager.Restored MH slots)
      ∧ ∀ names : List String, (∀ name ∈ final.manager.hooks, name ∈ names) →
        (chronicle MH).Along (Tidy MH) final (names.map fun name => .call (.remove name)) →
          ((chronicle MH).run final (names.map fun name => .call (.remove name))).manager.Restored
            MH slots := by
  intro final
  have along {start : Chronicle Patches} {events : List Moment}
      (layered : Layered MH slots start.order start.manager)
      (tidy : (chronicle MH).Along (Tidy MH) start events) :
      Layered MH slots ((chronicle MH).run start events).order
        ((chronicle MH).run start events).manager :=
    Machine.run_invariant (motive := fun state => Layered MH slots state.order state.manager)
      (fun state moment => chronicle_layered lawful state moment) layered tidy
  have layered : Layered MH slots final.order final.manager := along (boot_layered clean) tidy
  refine ⟨fun last => (layered.shutdown last).1, fun names all removals => ?_⟩
  refine (along layered removals).restored fun name => removals_lookup names final name ?_
  by_cases inside : name ∈ final.manager.hooks
  · exact Or.inl (all name inside)
  · exact Or.inr (AList.lookup_eq_none.mpr inside)

theorem tableMinHook_disableAll (patches : Addr → Option (Landing × Bool)) (target : Addr) :
    (tableMinHook false).enabled ((tableMinHook false).disableAllHooks patches).2 target = false := by
  show ((patches target).map fun hook => (hook.1, false)).any Prod.snd = false
  cases patches target <;> rfl

/-- Two hooks on one slot, and one of a function. -/
def nestedHooks : List Moment :=
  [.call .initializes, .call (.installVTableHook true "Tick" ⟨0x3000, 2⟩ 0x7200),
    .call (.installRaw (sampleEnv [0x40]) "Present" 0x1000 0x7000 true),
    .call (.installVTableHook true "Update" ⟨0x3000, 2⟩ 0x7300)]

/-- Both ways to take them off, in order. -/
theorem restored_nested :
    let start : Chronicle (Addr → Option (Landing × Bool)) := ⟨boot (fun _ => none) fun _ => 0, []⟩
    let final := (chronicle (tableMinHook false)).run start nestedHooks
    final.manager.slots 0x3010 = 0x7300
      ∧ ((chronicle (tableMinHook false)).next final (.call .shutdown)).manager.Restored
        (tableMinHook false) (fun _ => 0)
      ∧ ((chronicle (tableMinHook false)).run final
          (["Update", "Present", "Tick"].map fun name => .call (.remove name))).manager.Restored
        (tableMinHook false) (fun _ => 0) := by
  intro start final
  have result := @restored_along _ _ (tableMinHook_lawful false) (fun _ => none)
    (fun _ => rfl) (fun _ => 0) nestedHooks ⟨trivial, trivial, trivial, trivial, trivial⟩
  refine ⟨by decide +kernel, result.1 ?_, result.2 ["Update", "Present", "Tick"] ?_ ?_⟩
  · exact ⟨tableMinHook_disableAll _, by decide +kernel⟩
  · decide +kernel
  · exact ⟨forall_found (by decide +kernel), forall_found (by decide +kernel),
      forall_found (by decide +kernel), trivial⟩

/-- **Taking all hooks off does not always leave the program as it was**: when two hooks of one slot are
taken off in the order in which they came, one by one or by `Shutdown`; and `Shutdown` does nothing if
the manager is not up, although a slot may be hooked all the same. -/
theorem restored_unordered :
    let start : Chronicle (Addr → Option (Landing × Bool)) := ⟨boot (fun _ => none) fun _ => 0, []⟩
    ¬ ((chronicle (tableMinHook false)).run start
        (nestedHooks ++ ["Tick", "Present", "Update"].map fun name => .call (.remove name))).manager.Restored
          (tableMinHook false) (fun _ => 0)
      ∧ ¬ ((chronicle (tableMinHook false)).run start
        (nestedHooks ++ [.rehash String.length, .call .shutdown])).manager.Restored
          (tableMinHook false) (fun _ => 0)
      ∧ ¬ ((chronicle (tableMinHook false)).run start
        [.call (.installVTableHook true "Tick" ⟨0x3000, 2⟩ 0x7200), .call .shutdown]).manager.Restored
          (tableMinHook false) (fun _ => 0) := by
  intro start
  refine ⟨fun restored => ?_, fun restored => ?_, fun restored => ?_⟩
  all_goals
    have same := restored.1 0x3010
    revert same
    decide +kernel

end HookManager

end KenshiMP
