/-
**Hooks and the sites where they sit.**

A hook sits at a *site*: the code of a function, or a slot of a virtual table. A call at the site
reaches a detour if the code is patched to jump to it (through the stub of a page, if its bypass
flag is off) or if the slot holds it. `Truthful` is what the table should tell: a detour is reached
exactly if an entry for the site and the detour is enabled. `Sound` is the invariant behind it: the
table and the mechanisms belong together, entry by entry, and nothing else has been touched. What
changes at one site leaves the others alone (`Elsewhere`), and `Sound.insert` and `Sound.vacate` are
what may happen to the table meanwhile.
-/

import KenshiMP.Scanner.HookManager

namespace KenshiMP

open Assoc

/-- Where a hook sits. -/
inductive Site where
  | code (target : Addr)
  | slot (location : Addr)
deriving DecidableEq

/-- A slot that holds the detour from the start on is not hooked by it. -/
def Site.Foreign (slots : Addr → Addr) : Site → Addr → Prop
  | .code _, _ => True
  | .slot location, detour => slots location ≠ detour

def HookEntry.site (entry : HookEntry) : Site :=
  match entry.vtable with
  | some slot => .slot slot.location
  | none => .code entry.target

theorem HookEntry.site_code {entry : HookEntry} (inline : entry.vtable = none) :
    entry.site = .code entry.target := by
  unfold site
  rw [inline]

theorem HookEntry.site_slot {entry : HookEntry} {slot : VTableSlot} (virtual : entry.vtable = some slot) :
    entry.site = .slot slot.location := by
  unfold site
  rw [virtual]

namespace HookManager

variable {Patches : Type} (MH : MinHook Patches)

section Properties

variable (manager : HookManager Patches)

/-- A call at the site gets to the detour. -/
def Reaches (manager : HookManager Patches) : Site → Addr → Prop
  | .code target, detour =>
    MH.enabled manager.patches target = true
      ∧ (MH.created manager.patches target = some (.function detour)
        ∨ ∃ page, MH.created manager.patches target = some (.nakedDetour page)
          ∧ manager.pages page = some ⟨some detour, false⟩)
  | .slot location, detour => manager.slots location = detour

/-- An entry for the site and the detour is enabled. -/
def Recorded (site : Site) (detour : Addr) : Prop :=
  ∃ name entry, manager.hooks.lookup name = some entry ∧ entry.site = site ∧ entry.detour = detour
    ∧ entry.enabled = true

def Truthful (slots : Addr → Addr) : Prop :=
  ∀ site detour, site.Foreign slots detour →
    (manager.Reaches MH site detour ↔ manager.Recorded site detour)

/-- In every state that a call passes through, the detours that are reached are those of the table as
it was or as it will be. -/
def Throughout (slots : Addr → Addr) (call : Call) : Prop :=
  ∀ visited ∈ (machine MH).emit manager call, ∀ site detour, site.Foreign slots detour →
    (visited.Reaches MH site detour ↔ manager.Recorded site detour)
      ∨ (visited.Reaches MH site detour ↔ ((machine MH).next manager call).Recorded site detour)

/-- MinHook does not keep the patch of an entry that is removed. -/
def Releases (entry : HookEntry) : Prop :=
  entry.vtable = none →
    MH.enabled (MH.removeHook (MH.disableHook manager.patches entry.target).2 entry.target).2
      entry.target = false

def ReleasesAll : List String → HookManager Patches → Prop
  | [], _ => True
  | name :: rest, manager =>
    (∀ entry, manager.hooks.lookup name = some entry → manager.Releases MH entry)
      ∧ ReleasesAll rest ((manager.remove MH name).2.getLastD manager)

/-- No virtual function is switched off, no slot is hooked twice, and MinHook keeps no patch of a hook
that is given up. -/
def Orderly (manager : HookManager Patches) : Call → Prop
  | .installVTableHook canProtect name slot _ =>
    canProtect = true → manager.hooks.lookup name = none →
      ∀ other entry, manager.hooks.lookup other = some entry → entry.site ≠ .slot slot.location
  | .disable name => ∀ entry, manager.hooks.lookup name = some entry → entry.vtable = none
  | .remove name =>
    ∀ entry, manager.hooks.lookup name = some entry → manager.Releases MH entry
  | .removeAll => ReleasesAll MH (manager.hooks.toList.map Prod.fst) manager
  | .shutdown => manager.initialized = true →
    ∀ target, MH.enabled (MH.disableAllHooks manager.patches).2 target = false
  | _ => True

/-- The call installs a stub: its bypass flag is zero while the code is patched already. -/
def PatchesStub (manager : HookManager Patches) : Call → Prop
  | .installRaw env name target _ _ =>
    manager.accepts env name target = true ∧ startsMovRaxRsp (env.prologue target) = true
      ∧ ∃ page trampoline patches, manager.allocMovRaxRspPage env = some page
        ∧ MH.createHook manager.patches target (.nakedDetour page) = (some trampoline, patches)
        ∧ startsMovRaxRsp (env.prologue trampoline) = true
        ∧ (MH.enableHook patches target).1 = true
  | _ => False

end Properties

/-! ### The invariant between the operations -/

variable {MH} {slots : Addr → Addr} {manager after : HookManager Patches}

/-- An entry and its mechanism. -/
inductive Attached (MH : MinHook Patches) (slots : Addr → Addr) (manager : HookManager Patches)
    (entry : HookEntry) : Prop
  | slot {slot : VTableSlot} (virtual : entry.vtable = some slot) (plain : entry.movRaxRspHook = none)
      (enabled : entry.enabled = true) (held : manager.slots slot.location = entry.detour)
      (original : entry.original = slots slot.location)
  | patch (inline : entry.vtable = none) (plain : entry.movRaxRspHook = none)
      (created : MH.created manager.patches entry.target = some (.function entry.detour))
      (enabled : MH.enabled manager.patches entry.target = entry.enabled)
  | stub {fix : MovRaxRspHook} (inline : entry.vtable = none)
      (stubbed : entry.movRaxRspHook = some fix) (special : entry.hasMovRaxRsp = true)
      (created : MH.created manager.patches entry.target = some (.nakedDetour fix.allocBase))
      (enabled : MH.enabled manager.patches entry.target = true)
      (page : manager.pages fix.allocBase = some ⟨some entry.detour, !entry.enabled⟩)

/-- The game's own state of a site has been changed. -/
def Touched (MH : MinHook Patches) (slots : Addr → Addr) (manager : HookManager Patches) : Site → Prop
  | .code target => MH.enabled manager.patches target = true
  | .slot location => manager.slots location ≠ slots location

/-- The table and the mechanisms belong together. -/
structure Sound (MH : MinHook Patches) (slots : Addr → Addr) (manager : HookManager Patches) : Prop where
  attached : ∀ {name entry}, manager.hooks.lookup name = some entry → Attached MH slots manager entry
  single : ∀ {one two first second}, manager.hooks.lookup one = some first →
    manager.hooks.lookup two = some second → first.site = second.site → one = two
  page : ∀ {one two first second fix fix'}, manager.hooks.lookup one = some first →
    manager.hooks.lookup two = some second → first.movRaxRspHook = some fix →
    second.movRaxRspHook = some fix' → fix.allocBase = fix'.allocBase → one = two
  covered : ∀ {site}, Touched MH slots manager site →
    ∃ name entry, manager.hooks.lookup name = some entry ∧ entry.site = site

theorem Reaches.touched {site : Site} {detour : Addr} (foreign : site.Foreign slots detour)
    (reaches : manager.Reaches MH site detour) : Touched MH slots manager site := by
  cases site with
  | code target => exact reaches.1
  | slot location => exact fun same => foreign (same ▸ reaches)

/-- What is attached is reached exactly if it is enabled. -/
theorem Attached.reaches_iff {entry : HookEntry} (attached : Attached MH slots manager entry)
    (detour : Addr) :
    manager.Reaches MH entry.site detour ↔ entry.detour = detour ∧ entry.enabled = true := by
  cases attached with
  | slot virtual plain enabled held original =>
    rw [HookEntry.site_slot virtual]
    show manager.slots _ = detour ↔ _
    rw [held]
    exact ⟨fun same => ⟨same, enabled⟩, And.left⟩
  | patch inline plain created enabled =>
    rw [HookEntry.site_code inline]
    simp only [Reaches, created, enabled, Option.some.injEq, Landing.function.injEq, reduceCtorEq,
      false_and, exists_false, or_false]
    exact and_comm
  | stub inline stubbed special created enabled page =>
    rw [HookEntry.site_code inline]
    simp only [Reaches, created, enabled, Option.some.injEq, reduceCtorEq, false_or, true_and,
      Landing.nakedDetour.injEq, exists_eq_left', page, FixPage.mk.injEq, Bool.not_eq_false']

/-- **Between two operations the table tells the truth.** -/
theorem Sound.tells (sound : Sound MH slots manager) : manager.Truthful MH slots := by
  intro site detour foreign
  constructor
  · intro reaches
    obtain ⟨name, entry, stored, rfl⟩ := sound.covered (reaches.touched foreign)
    obtain ⟨same, enabled⟩ := ((sound.attached stored).reaches_iff detour).mp reaches
    exact ⟨name, entry, stored, rfl, same, enabled⟩
  · rintro ⟨name, entry, stored, rfl, same, enabled⟩
    exact ((sound.attached stored).reaches_iff detour).mpr ⟨same, enabled⟩

theorem boot_sound {patches : Patches} (clean : ∀ target, MH.enabled patches target = false) :
    Sound MH slots (boot patches slots) where
  attached stored := nomatch stored
  single stored := nomatch stored
  page stored := nomatch stored
  covered := by
    intro site touched
    cases site with
    | code target =>
      rw [show Touched MH slots (boot patches slots) (.code target)
        = (MH.enabled patches target = true) from rfl, clean target] at touched
      cases touched
    | slot location => exact absurd rfl touched

/-! ### Changes at one site -/

/-- All other sites, and all other pages, are as they were. -/
structure Elsewhere (MH : MinHook Patches) (site : Site) (page : Option Addr)
    (manager after : HookManager Patches) : Prop where
  code : ∀ target, site ≠ .code target →
    MH.created after.patches target = MH.created manager.patches target
      ∧ MH.enabled after.patches target = MH.enabled manager.patches target
  slot : ∀ location, site ≠ .slot location → after.slots location = manager.slots location
  pages : ∀ other, page ≠ some other → after.pages other = manager.pages other

/-- The page belongs to no hook of another site. -/
def Own (manager : HookManager Patches) (site : Site) (page : Option Addr) : Prop :=
  ∀ name entry fix, manager.hooks.lookup name = some entry → entry.movRaxRspHook = some fix →
    page = some fix.allocBase → entry.site = site

variable {site : Site} {page : Option Addr}

theorem Elsewhere.refl : Elsewhere MH site page manager manager :=
  ⟨fun _ _ => ⟨rfl, rfl⟩, fun _ _ => rfl, fun _ _ => rfl⟩

theorem Elsewhere.trans {last : HookManager Patches} (first : Elsewhere MH site page manager after)
    (second : Elsewhere MH site page after last) : Elsewhere MH site page manager last where
  code target other :=
    ⟨((second.code target other).1).trans (first.code target other).1,
      ((second.code target other).2).trans (first.code target other).2⟩
  slot location other := (second.slot location other).trans (first.slot location other)
  pages other different := (second.pages other different).trans (first.pages other different)

theorem Elsewhere.patches {target : Addr} {patches : Patches}
    (same : MH.UnchangedBut target manager.patches patches) :
    Elsewhere MH (.code target) page manager { manager with patches := patches } where
  code other different := same other fun equal => different (congrArg Site.code equal.symm)
  slot _ _ := rfl
  pages _ _ := rfl

theorem Elsewhere.setPage {own : Addr} {content : Option FixPage} :
    Elsewhere MH site (some own) manager (manager.setPage own content) where
  code _ _ := ⟨rfl, rfl⟩
  slot _ _ := rfl
  pages _ different :=
    Function.update_of_ne (fun equal => different (congrArg some equal.symm)) _ _

theorem Elsewhere.setSlot {location content : Addr} :
    Elsewhere MH (.slot location) page manager (manager.setSlot location content) where
  code _ _ := ⟨rfl, rfl⟩
  slot _ different :=
    Function.update_of_ne (fun equal => different (congrArg Site.slot equal.symm)) _ _
  pages _ _ := rfl

theorem Elsewhere.andPatches {target : Addr} {patches : Patches}
    (elsewhere : Elsewhere MH (.code target) page manager after)
    (same : MH.UnchangedBut target after.patches patches) :
    Elsewhere MH (.code target) page manager { after with patches := patches } :=
  elsewhere.trans (.patches same)

theorem Elsewhere.unchanged {patches : Patches} (elsewhere : Elsewhere MH site page manager after)
    (same : MH.Unchanged after.patches patches) :
    Elsewhere MH site page manager { after with patches := patches } :=
  elsewhere.trans ⟨fun target _ => same target, fun _ _ => rfl, fun _ _ => rfl⟩

/-- The table does not matter. -/
theorem Elsewhere.setEntry {name : String} {entry : HookEntry}
    (elsewhere : Elsewhere MH site page manager after) :
    Elsewhere MH site page manager (after.setEntry name entry) :=
  ⟨elsewhere.code, elsewhere.slot, elsewhere.pages⟩

theorem unchangedBut_of_unchanged {before patches : Patches}
    (same : MH.Unchanged before patches) (target : Addr) : MH.UnchangedBut target before patches :=
  fun other _ => same other

/-- An entry of another site stays attached. -/
theorem Elsewhere.attached (elsewhere : Elsewhere MH site page manager after) {entry : HookEntry}
    (other : entry.site ≠ site)
    (away : ∀ fix, entry.movRaxRspHook = some fix → page ≠ some fix.allocBase)
    (attached : Attached MH slots manager entry) : Attached MH slots after entry := by
  cases attached with
  | slot virtual plain enabled held original =>
    rw [HookEntry.site_slot virtual] at other
    exact .slot virtual plain enabled ((elsewhere.slot _ other.symm).trans held) original
  | patch inline plain created enabled =>
    rw [HookEntry.site_code inline] at other
    obtain ⟨created', enabled'⟩ := elsewhere.code _ other.symm
    exact .patch inline plain (created'.trans created) (enabled'.trans enabled)
  | stub inline stubbed special created enabled held =>
    rw [HookEntry.site_code inline] at other
    obtain ⟨created', enabled'⟩ := elsewhere.code _ other.symm
    exact .stub inline stubbed special (created'.trans created) (enabled'.trans enabled)
      ((elsewhere.pages _ (away _ stubbed)).trans held)

/-- At another site the same is reached. -/
theorem Elsewhere.reaches (elsewhere : Elsewhere MH site page manager after)
    (sound : Sound MH slots manager) (own : Own manager site page) {other : Site}
    (different : other ≠ site) (detour : Addr) :
    after.Reaches MH other detour ↔ manager.Reaches MH other detour := by
  cases other with
  | slot location =>
    show after.slots location = detour ↔ manager.slots location = detour
    rw [elsewhere.slot location different.symm]
  | code target =>
    by_cases touched : MH.enabled manager.patches target = true
    · obtain ⟨name, entry, stored, sits⟩ :=
        sound.covered (show Touched MH slots manager (.code target) from touched)
      have attached := sound.attached stored
      have attached' : Attached MH slots after entry :=
        elsewhere.attached (sits ▸ different)
          (fun fix stubbed same => different (sits ▸ own name entry fix stored stubbed same)) attached
      rw [← sits]
      exact (attached'.reaches_iff detour).trans (attached.reaches_iff detour).symm
    · refine ⟨fun reached => absurd ?_ touched, fun reached => absurd reached.1 touched⟩
      rw [← (elsewhere.code target different.symm).2]
      exact reached.1

variable (sound : Sound MH slots manager) (elsewhere : Elsewhere MH site page manager after)
  (own : Own manager site page)

include sound elsewhere own

/-- What may happen to the table when one site changes. -/
theorem Sound.update (others : ∀ name entry, entry.site ≠ site →
      (after.hooks.lookup name = some entry ↔ manager.hooks.lookup name = some entry))
    (here : ∀ name entry, after.hooks.lookup name = some entry → entry.site = site →
      Attached MH slots after entry ∧ ∀ fix, entry.movRaxRspHook = some fix → page = some fix.allocBase)
    (single : ∀ one two first second, after.hooks.lookup one = some first →
      after.hooks.lookup two = some second → first.site = site → second.site = site → one = two)
    (covered : Touched MH slots after site →
      ∃ name entry, after.hooks.lookup name = some entry ∧ entry.site = site) :
    Sound MH slots after where
  attached := by
    intro name entry stored
    by_cases sits : entry.site = site
    · exact (here name entry stored sits).1
    · have stored' := (others name entry sits).mp stored
      exact elsewhere.attached sits
        (fun fix stubbed same => sits (own name entry fix stored' stubbed same))
        (sound.attached stored')
  single := by
    intro one two first second stored stored' same
    by_cases sits : first.site = site
    · exact single one two first second stored stored' sits (same ▸ sits)
    · exact sound.single ((others one first sits).mp stored)
        ((others two second (same ▸ sits)).mp stored') same
  page := by
    intro one two first second fix fix' stored stored' stubbed stubbed' same
    by_cases sits : first.site = site <;> by_cases sits' : second.site = site
    · exact single one two first second stored stored' sits sits'
    · have base := (here one first stored sits).2 fix stubbed
      exact absurd (own two second fix' ((others two second sits').mp stored') stubbed'
        (base.trans (congrArg some same))) sits'
    · have base := (here two second stored' sits').2 fix' stubbed'
      exact absurd (own one first fix ((others one first sits).mp stored) stubbed
        (base.trans (congrArg some same.symm))) sits
    · exact sound.page ((others one first sits).mp stored) ((others two second sits').mp stored')
        stubbed stubbed' same
  covered := by
    intro other touched
    by_cases same : other = site
    · subst same
      exact covered touched
    · have touched' : Touched MH slots manager other := by
        cases other with
        | code target =>
          show MH.enabled manager.patches target = true
          rw [← (elsewhere.code target (Ne.symm same)).2]
          exact touched
        | slot location =>
          show manager.slots location ≠ slots location
          rw [← elsewhere.slot location (Ne.symm same)]
          exact touched
      obtain ⟨name, entry, stored, sits⟩ := sound.covered touched'
      exact ⟨name, entry, (others name entry (sits ▸ same)).mpr stored, sits⟩

/-- An entry is recorded, or replaced, for the site. -/
theorem Sound.insert (table : after.hooks = manager.hooks) {name : String}
    {entry : HookEntry} (sits : entry.site = site)
    (only : ∀ other old, manager.hooks.lookup other = some old → (old.site = site ↔ other = name))
    (attached : Attached MH slots after entry)
    (base : ∀ fix, entry.movRaxRspHook = some fix → page = some fix.allocBase) :
    Sound MH slots (after.setEntry name entry) := by
  have lookup : ∀ other, (after.setEntry name entry).hooks.lookup other
      = if other = name then some entry else manager.hooks.lookup other := by
    intro other
    show AList.lookup other (AList.insert name entry after.hooks) = _
    rw [AMap.lookup_insert_eq, table]
  refine sound.update elsewhere.setEntry own (fun other old elsewhere' => ?_)
    (fun other found stored here => ?_) (fun one two first second stored stored' at1 at2 => ?_)
    fun _ => ⟨name, entry, by rw [lookup, if_pos rfl], sits⟩
  · rw [lookup]
    by_cases same : other = name
    · rw [if_pos same]
      refine ⟨fun equal => ?_, fun stored => absurd ((only other old stored).mpr same) elsewhere'⟩
      cases equal
      exact absurd sits elsewhere'
    · rw [if_neg same]
  · rw [lookup] at stored
    by_cases same : other = name
    · rw [if_pos same] at stored
      cases stored
      refine ⟨?_, base⟩
      cases attached with
      | slot virtual plain enabled held original => exact .slot virtual plain enabled held original
      | patch inline plain created enabled => exact .patch inline plain created enabled
      | stub inline stubbed special created enabled held =>
        exact .stub inline stubbed special created enabled held
    · rw [if_neg same] at stored
      exact absurd ((only other found stored).mp here) same
  · have named : ∀ other found, (after.setEntry name entry).hooks.lookup other = some found →
        found.site = site → other = name := by
      intro other found stored here
      rw [lookup] at stored
      by_cases same : other = name
      · exact same
      · rw [if_neg same] at stored
        exact (only other found stored).mp here
    exact (named one first stored at1).trans (named two second stored' at2).symm

/-- The entry of the site, if there is one, is taken out, and the site is as the game made it. -/
theorem Sound.vacate (untouched : ¬ Touched MH slots after site)
    (others : ∀ name entry, after.hooks.lookup name = some entry
      ↔ manager.hooks.lookup name = some entry ∧ entry.site ≠ site) : Sound MH slots after := by
  refine sound.update elsewhere own (fun name entry away => ?_) (fun name entry stored here => ?_)
    (fun one two first second stored _ here _ => ?_) fun touched => absurd touched untouched
  · rw [others name entry]
    exact and_iff_left away
  · exact absurd here ((others name entry).mp stored).2
  · exact absurd here ((others one first).mp stored).2

end HookManager

end KenshiMP
