/-
**What each call of the hook manager goes through.**

`Passes`: the invariant holds at the end, and in every state on the way each detour is reached as it
was before the call or as it is after it. `Fades`: moreover detours are only switched off on the way,
so that several removals can follow one another.
-/

import KenshiMP.Scanner.HookSites

namespace KenshiMP

open Assoc

namespace HookManager

variable {Patches : Type} {MH : MinHook Patches} {slots : Addr → Addr}
  {manager after : HookManager Patches} {site : Site} {page : Option Addr}

/-! ### What a call goes through -/

/-- Every detour is reached as before the call or as after it. -/
def Between (MH : MinHook Patches) (slots : Addr → Addr)
    (manager after visited : HookManager Patches) : Prop :=
  ∀ site detour, site.Foreign slots detour →
    (visited.Reaches MH site detour ↔ manager.Reaches MH site detour)
      ∨ (visited.Reaches MH site detour ↔ after.Reaches MH site detour)

/-- Detours are only switched off on the way. -/
def Fading (MH : MinHook Patches) (slots : Addr → Addr)
    (manager after visited : HookManager Patches) : Prop :=
  ∀ site detour, site.Foreign slots detour →
    (after.Reaches MH site detour → visited.Reaches MH site detour)
      ∧ (visited.Reaches MH site detour → manager.Reaches MH site detour)

theorem Fading.between {visited : HookManager Patches} (fading : Fading MH slots manager after visited) :
    Between MH slots manager after visited := by
  intro site detour foreign
  obtain ⟨late, early⟩ := fading site detour foreign
  by_cases reached : visited.Reaches MH site detour
  · exact Or.inl ⟨early, fun _ => reached⟩
  · exact Or.inr ⟨fun yes => absurd yes reached, late⟩

/-- What an operation does: the invariant is kept, and on the way it is as before or as after. -/
structure Passes (MH : MinHook Patches) (slots : Addr → Addr) (manager : HookManager Patches)
    (visited : List (HookManager Patches)) : Prop where
  sound : Sound MH slots (visited.getLastD manager)
  between : ∀ state ∈ visited, Between MH slots manager (visited.getLastD manager) state

theorem Passes.nothing (sound : Sound MH slots manager) : Passes MH slots manager [] :=
  ⟨sound, fun _ member => nomatch member⟩

/-- Nothing but the state of MinHook is another, and that tells the same. -/
theorem Passes.unchanged (sound : Sound MH slots manager) {patches : Patches}
    (same : MH.Unchanged manager.patches patches) (up : Bool) :
    Passes MH slots manager [{ manager with patches := patches, initialized := up }] := by
  have reaches : ∀ site detour,
      Reaches MH { manager with patches := patches, initialized := up } site detour
        ↔ manager.Reaches MH site detour := by
    intro site detour
    cases site with
    | code target => simp only [Reaches, (same target).1, (same target).2]
    | slot location => exact Iff.rfl
  refine ⟨⟨fun {name entry} stored => ?_, sound.single, sound.page, fun {site} touched => ?_⟩, ?_⟩
  · cases sound.attached stored with
    | slot virtual plain enabled held original => exact .slot virtual plain enabled held original
    | patch inline plain created enabled =>
      exact .patch inline plain ((same _).1.trans created) ((same _).2.trans enabled)
    | stub inline stubbed special created enabled held =>
      exact .stub inline stubbed special ((same _).1.trans created) ((same _).2.trans enabled) held
  · suffices touched' : Touched MH slots manager site from sound.covered touched'
    cases site with
    | code target => exact (same target).2.symm.trans touched
    | slot location => exact touched
  · intro state member site detour _
    rw [List.mem_singleton.mp member]
    exact Or.inl (reaches site detour)

/-- The site that changes decides. -/
theorem between_of_site (sound : Sound MH slots manager) (own : Own manager site page)
    {visited : HookManager Patches} (elsewhere : Elsewhere MH site page manager visited)
    (here : ∀ detour, site.Foreign slots detour →
      (visited.Reaches MH site detour ↔ manager.Reaches MH site detour)
        ∨ (visited.Reaches MH site detour ↔ after.Reaches MH site detour)) :
    Between MH slots manager after visited := by
  intro other detour foreign
  by_cases same : other = site
  · subst same
    exact here detour foreign
  · exact Or.inl (elsewhere.reaches sound own same detour)

theorem not_reaches_of_dark {target detour : Addr} (dark : MH.enabled manager.patches target = false) :
    ¬ manager.Reaches MH (.code target) detour := by
  intro reached
  rw [reached.1] at dark
  cases dark

theorem own_none : Own manager site none := fun _ _ _ _ _ equal => nomatch equal

/-- A page that the system hands out belongs to no hook. -/
theorem own_fresh (sound : Sound MH slots manager) {env : InstallEnv} {fresh : Addr}
    (allocated : manager.allocMovRaxRspPage env = some fresh) : Own manager site (some fresh) := by
  intro name entry fix stored stubbed equal
  obtain ⟨-, free⟩ := Option.filter_eq_some_iff.mp allocated
  have none : manager.pages fresh = none := Option.isNone_iff_eq_none.mp free
  cases sound.attached stored with
  | slot virtual plain => rw [plain] at stubbed; cases stubbed
  | patch inline plain => rw [plain] at stubbed; cases stubbed
  | stub inline stubbed' special created enabled held =>
    rw [stubbed'] at stubbed
    cases stubbed
    cases equal
    rw [none] at held
    cases held

section Installation

variable {target : Addr}

/-- A target without a hook of MinHook has no entry. -/
theorem Sound.vacant (sound : Sound MH slots manager)
    (absent : MH.created manager.patches target = none) {name : String} {entry : HookEntry}
    (stored : manager.hooks.lookup name = some entry) : entry.site ≠ .code target := by
  intro sits
  cases sound.attached stored with
  | slot virtual => rw [HookEntry.site_slot virtual] at sits; cases sits
  | patch inline plain created =>
    rw [HookEntry.site_code inline] at sits
    cases sits
    rw [created] at absent
    cases absent
  | stub inline stubbed special created =>
    rw [HookEntry.site_code inline] at sits
    cases sits
    rw [created] at absent
    cases absent

theorem Sound.dark (sound : Sound MH slots manager) (absent : MH.created manager.patches target = none) :
    MH.enabled manager.patches target = false := by
  by_contra lit
  obtain ⟨name, entry, stored, sits⟩ :=
    sound.covered (show Touched MH slots manager (.code target) from Bool.not_eq_false _ |>.mp lit)
  exact sound.vacant absent stored sits

/-- An installation up to a point where the target is not patched. -/
def Dark (MH : MinHook Patches) (target : Addr) (page : Option Addr)
    (manager visited : HookManager Patches) : Prop :=
  Elsewhere MH (.code target) page manager visited ∧ MH.enabled visited.patches target = false
    ∧ visited.hooks = manager.hooks

section Absent

variable (sound : Sound MH slots manager) (own : Own manager (.code target) page)
  (absent : MH.created manager.patches target = none)

include sound own absent

theorem Dark.between {visited : HookManager Patches}
    (dark : Dark MH target page manager visited) : Between MH slots manager after visited :=
  between_of_site sound own dark.1 fun _ _ =>
    Or.inl (iff_of_false (not_reaches_of_dark dark.2.1) (not_reaches_of_dark (sound.dark absent)))

/-- An installation that fails, after some steps none of which patches the target. -/
theorem Passes.dark {visited : List (HookManager Patches)}
    (dark : ∀ state ∈ visited, Dark MH target page manager state) :
    Passes MH slots manager visited := by
  have last : visited.getLastD manager = manager
      ∨ Dark MH target page manager (visited.getLastD manager) := by
    cases found : visited.getLast? with
    | none =>
      rw [List.getLast?_eq_none_iff.mp found]
      exact Or.inl rfl
    | some state =>
      rw [List.getLastD_eq_getLast?, found]
      exact Or.inr (dark state (List.mem_of_getLast? found))
  refine ⟨?_, fun state member => (dark state member).between sound own absent⟩
  rcases last with same | ⟨elsewhere, off, table⟩
  · rw [same]
    exact sound
  · refine sound.vacate elsewhere own (fun touched => ?_) fun name entry => ?_
    · have lit : MH.enabled _ target = true := touched
      rw [off] at lit
      cases lit
    · rw [table]
      exact ⟨fun stored => ⟨stored, sound.vacant absent stored⟩, And.left⟩

end Absent

/-- MinHook has created the hook: the target is not patched yet. -/
theorem Dark.created (lawful : MH.Lawful) {landing : Landing} {trampoline : Addr} {patches : Patches}
    (dark : Dark MH target page manager after)
    (result : MH.createHook after.patches target landing = (some trampoline, patches)) :
    Dark MH target page manager { after with patches := patches } := by
  obtain ⟨-, -, off, same⟩ := lawful.create result
  exact ⟨dark.1.trans (.patches same), off, dark.2.2⟩

theorem Dark.unchanged {patches : Patches} (dark : Dark MH target page manager after)
    (same : MH.Unchanged after.patches patches) :
    Dark MH target page manager { after with patches := patches } :=
  ⟨dark.1.trans (.patches (unchangedBut_of_unchanged same target)), (same target).2.trans dark.2.1,
    dark.2.2⟩

/-- Whether MinHook removes it or not. -/
theorem Dark.removed (lawful : MH.Lawful) (dark : Dark MH target page manager after) :
    Dark MH target page manager { after with patches := (MH.removeHook after.patches target).2 } := by
  rcases result : MH.removeHook after.patches target with ⟨_ | _, patches⟩
  · exact dark.unchanged (lawful.remove_fails result)
  · obtain ⟨-, off, same⟩ := lawful.remove result
    exact ⟨dark.1.trans (.patches same), off, dark.2.2⟩

theorem Dark.setPage {own : Addr} (dark : Dark MH target (some own) manager after)
    (content : Option FixPage) :
    Dark MH target (some own) manager (after.setPage own content) :=
  ⟨dark.1.trans .setPage, dark.2.1, dark.2.2⟩

variable (lawful : MH.Lawful) (sound : Sound MH slots manager) {env : InstallEnv} {name : String}
  (unused : manager.hooks.lookup name = none) {detour : Addr} {original : Bool}

include lawful sound unused

theorem installStandard_passes :
    Passes MH slots manager (manager.installStandard MH env name target detour original).2 := by
  unfold installStandard
  rcases result : MH.createHook manager.patches target (.function detour) with ⟨_ | trampoline, patches⟩
  · exact .unchanged sound (lawful.create_fails result) manager.initialized
  · obtain ⟨absent, made, off, same⟩ := lawful.create result
    have created : Dark MH target none manager { manager with patches := patches } :=
      ⟨.patches same, off, rfl⟩
    simp only
    rcases result' : MH.enableHook patches target with ⟨_ | _, patches'⟩
    · have failed := created.unchanged (lawful.enable_fails result')
      refine .dark sound own_none absent fun state member => ?_
      simp only [List.mem_cons, List.not_mem_nil, or_false] at member
      rcases member with rfl | rfl | rfl
      · exact created
      · exact failed
      · exact failed.removed lawful
    · obtain ⟨made', lit, same'⟩ := lawful.enable result'
      have elsewhere : Elsewhere MH (.code target) none manager { manager with patches := patches' } :=
        created.1.andPatches same'
      refine ⟨sound.insert elsewhere own_none rfl rfl (fun other old stored => ?_)
        (.patch rfl rfl (made'.trans made) lit) (fun fix stubbed => nomatch stubbed),
        fun state member => ?_⟩
      · exact iff_of_false (sound.vacant absent stored) fun equal => by
          rw [equal, unused] at stored
          cases stored
      · simp only [List.mem_cons, List.not_mem_nil, or_false] at member
        rcases member with rfl | rfl | rfl
        · exact created.between sound own_none absent
        · exact between_of_site sound own_none elsewhere fun _ _ => Or.inr Iff.rfl
        · exact between_of_site sound own_none elsewhere.setEntry fun _ _ => Or.inr Iff.rfl

/-- The last state of an installation with a stub is sound, and the states before it are harmless
unless the code is patched with the flag at zero. -/
theorem installMovRaxRsp_passes :
    Sound MH slots ((manager.installMovRaxRsp MH env name target detour original).2.getLastD manager)
      ∧ ((¬ ∃ fresh trampoline patches, manager.allocMovRaxRspPage env = some fresh
          ∧ MH.createHook manager.patches target (.nakedDetour fresh) = (some trampoline, patches)
          ∧ startsMovRaxRsp (env.prologue trampoline) = true
          ∧ (MH.enableHook patches target).1 = true) →
        Passes MH slots manager
          (manager.installMovRaxRsp MH env name target detour original).2) := by
  have passes {visited : List (HookManager Patches)} {window : Prop}
      (both : Passes MH slots manager visited) :
      Sound MH slots (visited.getLastD manager) ∧ (window → Passes MH slots manager visited) :=
    ⟨both.sound, fun _ => both⟩
  unfold installMovRaxRsp
  rcases allocation : manager.allocMovRaxRspPage env with _ | fresh
  · exact passes (.nothing sound)
  have own : Own manager (.code target) (some fresh) := own_fresh sound allocation
  simp only
  rcases result : MH.createHook (manager.setPage fresh (some {})).patches target (.nakedDetour fresh)
    with ⟨_ | trampoline, patches⟩
  · -- MinHook refuses: nothing but the page is another, and that is freed
    have same : MH.Unchanged manager.patches patches := lawful.create_fails result
    have back : ({ manager.setPage fresh (some {}) with patches := patches } :
        HookManager Patches).setPage fresh none = { manager with patches := patches } := by
      obtain ⟨-, free⟩ := Option.filter_eq_some_iff.mp allocation
      simp only [setPage, Function.update_idem]
      rw [← Option.isNone_iff_eq_none.mp free, Function.update_eq_self]
    obtain ⟨kept, -⟩ := Passes.unchanged sound same manager.initialized
    -- the page is no other hook's either, so that no site at all is touched
    have page (site : Site) : Elsewhere MH site (some fresh) manager (manager.setPage fresh (some {})) :=
      .setPage
    have other (site : Site) : ∃ another : Site, site ≠ another := by
      cases site with
      | code target => exact ⟨.slot 0, nofun⟩
      | slot location => exact ⟨.code 0, nofun⟩
    refine passes ⟨?_, fun state member => ?_⟩
    · show Sound MH slots (({ manager.setPage fresh (some {}) with patches := patches } :
        HookManager Patches).setPage fresh none)
      rw [back]
      exact kept
    · simp only [List.mem_cons, List.not_mem_nil, or_false] at member
      intro site detour' _
      obtain ⟨another, different⟩ := other site
      rcases member with rfl | rfl | rfl
      · exact Or.inl ((page another).reaches sound (own_fresh sound allocation) different detour')
      · exact Or.inl (((page another).unchanged same).reaches sound (own_fresh sound allocation)
          different detour')
      · exact Or.inr Iff.rfl
  · obtain ⟨absent, made, -, -⟩ := lawful.create result
    have allocated : Dark MH target (some fresh) manager (manager.setPage fresh (some {})) :=
      ⟨.setPage, sound.dark absent, rfl⟩
    have created := allocated.created lawful result
    simp only
    by_cases special : startsMovRaxRsp (env.prologue trampoline) = true
    · rw [if_pos special]
      have built := created.setPage (some { cppDetour := some detour })
      rcases result' : MH.enableHook patches target with ⟨_ | _, patches'⟩
      · have failed := built.unchanged (lawful.enable_fails result')
        have removed := failed.removed lawful
        simp only [result', setPage]
        refine passes (.dark sound own absent fun state member => ?_)
        simp only [List.mem_cons, List.not_mem_nil, or_false] at member
        rcases member with rfl | rfl | rfl | rfl | rfl | rfl
        · exact allocated
        · exact created
        · exact built
        · exact failed
        · exact removed
        · exact removed.setPage none
      · obtain ⟨made', lit, same'⟩ := lawful.enable result'
        simp only [result', setPage]
        refine ⟨?_, fun window => absurd ⟨fresh, trampoline, patches, rfl, result, special, ?_⟩ window⟩
        · refine sound.insert ((built.1.andPatches same').trans .setPage) own rfl rfl
            (fun other old stored => ?_) (.stub rfl rfl rfl (made'.trans made) lit ?_)
            (fun fix stubbed => by cases stubbed; rfl)
          · exact iff_of_false (sound.vacant absent stored) fun equal => by
              rw [equal, unused] at stored
              cases stored
          · show Function.update _ fresh _ fresh = _
            rw [Function.update_self]
            simp only [Function.update_self, Option.map_some, Bool.not_false]
        · rw [result']
    · rw [if_neg special]
      have removed := created.removed lawful
      refine passes (.dark sound own absent fun state member => ?_)
      simp only [List.mem_cons, List.not_mem_nil, or_false] at member
      rcases member with rfl | rfl | rfl | rfl
      · exact allocated
      · exact created
      · exact removed
      · exact removed.setPage none

end Installation

/-! ### The other operations -/

variable {name : String} {entry : HookEntry} {fix : MovRaxRspHook}
  {visited : List (HookManager Patches)}

theorem installVTableHook_passes (sound : Sound MH slots manager) {canProtect : Bool}
    {slot : VTableSlot} {detour : Addr} (free : canProtect = true → manager.hooks.lookup name = none →
      ∀ other entry, manager.hooks.lookup other = some entry → entry.site ≠ .slot slot.location) :
    Passes MH slots manager (manager.installVTableHook canProtect name slot detour).2 := by
  unfold installVTableHook
  by_cases refused : ((manager.hooks.lookup name).isSome || !canProtect) = true
  · rw [if_pos refused]
    exact .nothing sound
  · rw [if_neg refused]
    have unused : manager.hooks.lookup name = none := by
      cases found : manager.hooks.lookup name with
      | none => rfl
      | some entry => simp [found] at refused
    have protects : canProtect = true := by
      cases canProtect with
      | true => rfl
      | false => simp at refused
    have vacant := free protects unused
    have natural : manager.slots slot.location = slots slot.location := by
      by_contra written
      obtain ⟨other, entry, stored, sits⟩ :=
        sound.covered (show Touched MH slots manager (.slot slot.location) from written)
      exact vacant other entry stored sits
    have elsewhere : Elsewhere MH (.slot slot.location) none manager
        (manager.setSlot slot.location detour) := .setSlot
    refine ⟨sound.insert elsewhere own_none rfl rfl (fun other old stored => ?_)
      (.slot rfl rfl rfl (Function.update_self ..) natural) (fun fix stubbed => nomatch stubbed),
      fun state member => ?_⟩
    · exact iff_of_false (vacant other old stored) fun equal => by
        rw [equal, unused] at stored
        cases stored
    · simp only [List.mem_cons, List.not_mem_nil, or_false] at member
      rcases member with rfl | rfl
      · exact between_of_site sound own_none elsewhere fun _ _ => Or.inr Iff.rfl
      · exact between_of_site sound own_none elsewhere.setEntry fun _ _ => Or.inr Iff.rfl

section Stored

variable (sound : Sound MH slots manager) (stored : manager.hooks.lookup name = some entry)

include stored

theorem enable_virtual {slot : VTableSlot} (virtual : entry.vtable = some slot)
    (plain : entry.movRaxRspHook = none) :
    manager.enable MH name = (true, [manager.setEntry name { entry with enabled := true }]) := by
  obtain ⟨target, detour, original, enabled, vtable, hook, bytes, special⟩ := entry
  cases virtual
  cases plain
  unfold enable
  rw [stored]
  cases special <;> rfl

theorem enable_inline (inline : entry.vtable = none) (plain : entry.movRaxRspHook = none) :
    manager.enable MH name = match MH.enableHook manager.patches entry.target with
        | (false, patches) => (false, [{ manager with patches := patches }])
        | (true, patches) =>
          (true, [{ manager with patches := patches },
            ({ manager with patches := patches } : HookManager Patches).setEntry name
              { entry with enabled := true }]) := by
  obtain ⟨target, detour, original, enabled, vtable, hook, bytes, special⟩ := entry
  cases inline
  cases plain
  unfold enable
  rw [stored]
  cases special <;> rfl

theorem disable_inline (inline : entry.vtable = none) (plain : entry.movRaxRspHook = none) :
    manager.disable MH name = match MH.disableHook manager.patches entry.target with
        | (false, patches) => (false, [{ manager with patches := patches }])
        | (true, patches) =>
          (true, [{ manager with patches := patches },
            ({ manager with patches := patches } : HookManager Patches).setEntry name
              { entry with enabled := false }]) := by
  obtain ⟨target, detour, original, enabled, vtable, hook, bytes, special⟩ := entry
  cases inline
  cases plain
  unfold disable
  rw [stored]
  cases special <;> rfl

theorem enable_stub (stubbed : entry.movRaxRspHook = some fix)
    (special : entry.hasMovRaxRsp = true) :
    manager.enable MH name = (true, [manager.setBypass fix.allocBase false,
      (manager.setBypass fix.allocBase false).setEntry name { entry with enabled := true }]) := by
  obtain ⟨target, detour, original, enabled, vtable, hook, bytes, movRaxRsp⟩ := entry
  cases stubbed
  cases special
  unfold enable
  rw [stored]

theorem disable_stub (stubbed : entry.movRaxRspHook = some fix)
    (special : entry.hasMovRaxRsp = true) :
    manager.disable MH name = (true, [manager.setBypass fix.allocBase true,
      (manager.setBypass fix.allocBase true).setEntry name { entry with enabled := false }]) := by
  obtain ⟨target, detour, original, enabled, vtable, hook, bytes, movRaxRsp⟩ := entry
  cases stubbed
  cases special
  unfold disable
  rw [stored]

include sound

/-- The entry of a site is the only one there. -/
theorem Sound.only (other : String) (old : HookEntry)
    (stored' : manager.hooks.lookup other = some old) : old.site = entry.site ↔ other = name := by
  constructor
  · exact fun same => sound.single stored' stored same
  · intro equal
    subst equal
    rw [stored] at stored'
    cases stored'
    rfl

/-- The page of a stub belongs to no other site. -/
theorem Sound.own (stubbed : entry.movRaxRspHook = some fix) : Own manager entry.site (some fix.allocBase) := by
  intro other old fix' stored' stubbed' equal
  have named := sound.page stored stored' stubbed stubbed' (Option.some.inj equal)
  subst named
  rw [stored] at stored'
  cases stored'
  rfl

/-- Switching a hook on or off, when the mechanism and the flag of the entry follow each other. -/
theorem Passes.switch {flag : Bool} {page : Option Addr}
    (own : Own manager entry.site page) (base : ∀ fix, entry.movRaxRspHook = some fix →
      page = some fix.allocBase)
    (elsewhere : Elsewhere MH entry.site page manager after) (table : after.hooks = manager.hooks)
    (attached : Attached MH slots after { entry with enabled := flag }) :
    Passes MH slots manager [after, after.setEntry name { entry with enabled := flag }] := by
  have sits : HookEntry.site { entry with enabled := flag } = entry.site := rfl
  refine ⟨sound.insert elsewhere own table sits (sound.only stored) attached base,
    fun state member => ?_⟩
  simp only [List.mem_cons, List.not_mem_nil, or_false] at member
  rcases member with rfl | rfl
  · exact between_of_site sound own elsewhere fun _ _ => Or.inr Iff.rfl
  · exact between_of_site sound own elsewhere.setEntry fun _ _ => Or.inr Iff.rfl

theorem setBypass_passes (inline : entry.vtable = none) (stubbed : entry.movRaxRspHook = some fix)
    (special : entry.hasMovRaxRsp = true)
    (created : MH.created manager.patches entry.target = some (.nakedDetour fix.allocBase))
    (enabled : MH.enabled manager.patches entry.target = true)
    (held : manager.pages fix.allocBase = some ⟨some entry.detour, !entry.enabled⟩) (flag : Bool) :
    Passes MH slots manager [manager.setBypass fix.allocBase (!flag),
      (manager.setBypass fix.allocBase (!flag)).setEntry name { entry with enabled := flag }] := by
  refine .switch sound stored (sound.own stored stubbed) (fun fix' stubbed' => ?_) .setPage rfl
    (.stub inline stubbed special created enabled ?_)
  · rw [stubbed] at stubbed'
    cases stubbed'
    rfl
  · show Function.update _ fix.allocBase _ fix.allocBase = _
    rw [Function.update_self, held]
    rfl

/-- A hook of MinHook, switched by MinHook. -/
theorem patch_passes (inline : entry.vtable = none)
    (plain : entry.movRaxRspHook = none) {patches : Patches} {flag : Bool}
    (created : MH.created patches entry.target = some (.function entry.detour))
    (switched : MH.enabled patches entry.target = flag)
    (same : MH.UnchangedBut entry.target manager.patches patches) :
    Passes MH slots manager [{ manager with patches := patches },
      ({ manager with patches := patches } : HookManager Patches).setEntry name
        { entry with enabled := flag }] := by
  refine .switch sound stored own_none (fun fix stubbed => ?_) ?_ rfl
    (.patch inline plain created switched)
  · rw [stubbed] at plain
    cases plain
  · rw [HookEntry.site_code inline]
    exact .patches same

end Stored

theorem enable_passes (lawful : MH.Lawful) (sound : Sound MH slots manager) (name : String) :
    Passes MH slots manager (manager.enable MH name).2 := by
  cases stored : manager.hooks.lookup name with
  | none =>
    unfold enable
    rw [stored]
    exact .nothing sound
  | some entry =>
    cases sound.attached stored with
    | slot virtual plain enabled held original =>
      rw [enable_virtual stored virtual plain]
      have sits : HookEntry.site { entry with enabled := true } = entry.site := rfl
      refine ⟨sound.insert .refl own_none rfl sits (sound.only stored)
        (.slot virtual plain rfl held original) (fun fix stubbed => ?_), fun state member => ?_⟩
      · rw [show entry.movRaxRspHook = some fix from stubbed] at plain
        cases plain
      · rw [List.mem_singleton.mp member]
        exact fun _ _ _ => Or.inr Iff.rfl
    | patch inline plain created enabled =>
      rw [enable_inline stored inline plain]
      rcases answer : MH.enableHook manager.patches entry.target with ⟨_ | _, patches⟩
      · exact .unchanged sound (lawful.enable_fails answer) manager.initialized
      · obtain ⟨made, lit, same⟩ := lawful.enable answer
        exact patch_passes sound stored inline plain (made.trans created) lit same
    | stub inline stubbed special created enabled held =>
      rw [enable_stub stored stubbed special]
      exact setBypass_passes sound stored inline stubbed special created enabled held true

theorem disable_passes (lawful : MH.Lawful) (sound : Sound MH slots manager)
    (inline : ∀ entry, manager.hooks.lookup name = some entry → entry.vtable = none) :
    Passes MH slots manager (manager.disable MH name).2 := by
  cases stored : manager.hooks.lookup name with
  | none =>
    unfold disable
    rw [stored]
    exact .nothing sound
  | some entry =>
    have inline := inline entry stored
    cases sound.attached stored with
    | slot virtual => rw [virtual] at inline; cases inline
    | patch _ plain created enabled =>
      rw [disable_inline stored inline plain]
      rcases answer : MH.disableHook manager.patches entry.target with ⟨_ | _, patches⟩
      · exact .unchanged sound (lawful.disable_fails answer) manager.initialized
      · obtain ⟨made, off, same⟩ := lawful.disable answer
        exact patch_passes sound stored inline plain (made.trans created) off same
    | stub _ stubbed special created enabled held =>
      rw [disable_stub stored stubbed special]
      exact setBypass_passes sound stored inline stubbed special created enabled held false

/-! ### Giving hooks up -/

/-- The invariant is kept, and detours are only switched off. -/
structure Fades (MH : MinHook Patches) (slots : Addr → Addr) (manager : HookManager Patches)
    (visited : List (HookManager Patches)) : Prop where
  sound : Sound MH slots (visited.getLastD manager)
  fading : ∀ state ∈ visited, Fading MH slots manager (visited.getLastD manager) state

theorem Fades.passes (fades : Fades MH slots manager visited) : Passes MH slots manager visited :=
  ⟨fades.sound, fun state member => (fades.fading state member).between⟩

theorem getLastD_mem {α : Type} {default : α} {values : List α} (nonempty : values ≠ []) :
    values.getLastD default ∈ values := by
  cases values with
  | nil => exact absurd rfl nonempty
  | cons first rest => exact (List.getLastD_cons (l := rest)).symm ▸ List.getLastD_mem_cons

theorem getLastD_append {α : Type} (first second : List α) (default : α) :
    (first ++ second).getLastD default = second.getLastD (first.getLastD default) := by
  simp only [List.getLastD_eq_getLast?, List.getLast?_append]
  cases second.getLast? <;> rfl

/-- What the last state reaches was reached at the start. -/
theorem Fades.overall (fades : Fades MH slots manager visited)
    {site : Site} {detour : Addr} (foreign : site.Foreign slots detour)
    (reached : (visited.getLastD manager).Reaches MH site detour) :
    manager.Reaches MH site detour := by
  by_cases empty : visited = []
  · subst empty
    exact reached
  · exact (fades.fading _ (getLastD_mem empty) site detour foreign).2 reached

theorem Fades.append {first second : List (HookManager Patches)} (fades : Fades MH slots manager first)
    (fades' : Fades MH slots (first.getLastD manager) second) :
    Fades MH slots manager (first ++ second) := by
  have last := getLastD_append first second manager
  refine ⟨last ▸ fades'.sound, fun state member site detour foreign => ?_⟩
  rw [last]
  rcases List.mem_append.mp member with inside | inside
  · obtain ⟨late, early⟩ := fades.fading state inside site detour foreign
    exact ⟨fun reached => late (fades'.overall foreign reached), early⟩
  · obtain ⟨late, early⟩ := fades'.fading state inside site detour foreign
    exact ⟨late, fun reached => fades.overall foreign (early reached)⟩

/-- Taking an entry off its site, and then out of the table. -/
theorem Fades.erase (sound : Sound MH slots manager)
    (stored : manager.hooks.lookup name = some entry) (own : Own manager entry.site page)
    (nonempty : visited ≠ []) (steps : ∀ state ∈ visited, Elsewhere MH entry.site page manager state
      ∧ state.hooks = manager.hooks ∧ ∀ detour, entry.site.Foreign slots detour →
        state.Reaches MH entry.site detour → manager.Reaches MH entry.site detour)
    (untouched : ¬ Touched MH slots (visited.getLastD manager) entry.site) :
    Fades MH slots manager (visited ++ [{ visited.getLastD manager with hooks := AList.erase name (visited.getLastD manager).hooks }]) := by
  obtain ⟨elsewhere, table, -⟩ := steps _ (getLastD_mem nonempty)
  generalize visited.getLastD manager = last at *
  have erased : ∀ site detour, Reaches MH { last with hooks := AList.erase name last.hooks } site detour
      ↔ last.Reaches MH site detour := by
    intro site detour
    cases site <;> exact Iff.rfl
  have dark : ∀ detour, entry.site.Foreign slots detour → ¬ last.Reaches MH entry.site detour :=
    fun detour foreign reached => untouched (reached.touched foreign)
  have elsewhere' : Elsewhere MH entry.site page manager { last with hooks := AList.erase name last.hooks } :=
    ⟨elsewhere.code, elsewhere.slot, elsewhere.pages⟩
  have final : (visited ++ [{ last with hooks := AList.erase name last.hooks }]).getLastD manager
      = { last with hooks := AList.erase name last.hooks } := List.getLastD_concat
  refine ⟨?_, fun state member site detour foreign => ?_⟩
  · rw [final]
    refine sound.vacate elsewhere' own (fun touched => untouched ?_) fun other old => ?_
    · cases sits : entry.site with
      | code target => rw [sits] at touched; exact touched
      | slot location => rw [sits] at touched; exact touched
    · show AList.lookup other (AList.erase name last.hooks) = some old ↔ _
      rw [AMap.lookup_erase_eq, table]
      by_cases same : other = name
      · rw [if_pos same]
        exact ⟨nofun, fun ⟨stored', away⟩ => absurd ((sound.only stored other old stored').mpr same) away⟩
      · rw [if_neg same]
        exact ⟨fun stored' => ⟨stored', fun sits =>
          same ((sound.only stored other old stored').mp sits)⟩, And.left⟩
  · rw [final]
    by_cases here : site = entry.site
    · subst here
      refine ⟨fun reached => absurd ((erased _ _).mp reached) (dark detour foreign), ?_⟩
      rcases List.mem_append.mp member with inside | last'
      · exact (steps state inside).2.2 detour foreign
      · rw [List.mem_singleton.mp last']
        exact fun reached => absurd ((erased _ _).mp reached) (dark detour foreign)
    · have same : state.Reaches MH site detour ↔ manager.Reaches MH site detour := by
        rcases List.mem_append.mp member with inside | last'
        · exact (steps state inside).1.reaches sound own here detour
        · rw [List.mem_singleton.mp last']
          exact elsewhere'.reaches sound own here detour
      exact ⟨fun reached => same.mpr ((elsewhere'.reaches sound own here detour).mp reached), same.mp⟩

/-- MinHook is asked to disable a hook and to remove it. -/
theorem disable_remove (lawful : MH.Lawful) (manager : HookManager Patches) (page : Option Addr)
    {target : Addr} :
    let disabled : HookManager Patches :=
      { manager with patches := (MH.disableHook manager.patches target).2 }
    let removed : HookManager Patches :=
      { disabled with patches := (MH.removeHook disabled.patches target).2 }
    Elsewhere MH (.code target) page manager disabled
      ∧ Elsewhere MH (.code target) page manager removed
      ∧ ∀ detour, disabled.Reaches MH (.code target) detour
        → manager.Reaches MH (.code target) detour := by
  intro disabled removed
  have step : Elsewhere MH (.code target) page manager disabled
      ∧ ∀ detour, disabled.Reaches MH (.code target) detour
        → manager.Reaches MH (.code target) detour := by
    rcases answer : MH.disableHook manager.patches target with ⟨_ | _, patches⟩
    · have same := lawful.disable_fails answer
      simp only [disabled, answer]
      refine ⟨Elsewhere.refl.unchanged same, fun detour reached => ?_⟩
      simpa only [Reaches, (same target).1, (same target).2] using reached
    · obtain ⟨-, off, same⟩ := lawful.disable answer
      simp only [disabled, answer]
      exact ⟨.patches same, fun detour reached => absurd reached (not_reaches_of_dark off)⟩
  refine ⟨step.1, ?_, step.2⟩
  rcases answer : MH.removeHook disabled.patches target with ⟨_ | _, patches⟩
  · simp only [removed, answer]
    exact step.1.unchanged (lawful.remove_fails answer)
  · obtain ⟨-, -, same⟩ := lawful.remove answer
    simp only [removed, answer]
    exact step.1.andPatches same

theorem remove_fades (lawful : MH.Lawful) (sound : Sound MH slots manager)
    (releases : ∀ entry, manager.hooks.lookup name = some entry → manager.Releases MH entry) :
    Fades MH slots manager (manager.remove MH name).2 := by
  cases stored : manager.hooks.lookup name with
  | none =>
    unfold remove
    rw [stored]
    exact ⟨sound, fun _ member => nomatch member⟩
  | some entry =>
    cases sound.attached stored with
    | slot virtual plain enabled held original =>
      simp only [remove, stored, release, virtual, plain]
      have sits := HookEntry.site_slot virtual
      refine .erase sound stored own_none (List.cons_ne_nil _ _)
        (fun state member => ?_) ?_
      · rw [List.mem_singleton.mp member, sits]
        refine ⟨.setSlot, rfl, fun detour foreign reached => absurd ?_ foreign⟩
        exact original.symm.trans ((Function.update_self ..).symm.trans reached)
      · rw [sits]
        exact fun touched => touched ((Function.update_self ..).trans original)
    | patch inline plain created enabled =>
      have sits := HookEntry.site_code inline
      obtain ⟨disabled, removed, early⟩ := disable_remove lawful manager none
      have off := releases entry stored inline
      simp only [remove, stored, release, inline, plain]
      refine .erase sound stored own_none (List.cons_ne_nil _ _)
        (fun state member => ?_) ?_
      · rw [sits]
        simp only [List.mem_cons, List.not_mem_nil, or_false] at member
        rcases member with rfl | rfl
        · exact ⟨disabled, rfl, fun detour _ => early detour⟩
        · exact ⟨removed, rfl, fun detour _ reached => absurd reached (not_reaches_of_dark off)⟩
      · rw [sits]
        exact fun touched => absurd (off.symm.trans touched) nofun
    | stub inline stubbed special created enabled held =>
      have sits := HookEntry.site_code inline
      obtain ⟨disabled, removed, early⟩ := disable_remove lawful manager (some _)
      have off := releases entry stored inline
      simp only [remove, stored, release, inline, stubbed]
      refine .erase sound stored (sound.own stored stubbed) (List.cons_ne_nil _ _)
        (fun state member => ?_) ?_
      · rw [sits]
        simp only [List.cons_append, List.nil_append, List.mem_cons, List.not_mem_nil, or_false]
          at member
        rcases member with rfl | rfl | rfl
        · exact ⟨disabled, rfl, fun detour _ => early detour⟩
        · exact ⟨removed, rfl, fun detour _ reached => absurd reached (not_reaches_of_dark off)⟩
        · exact ⟨removed.trans .setPage, rfl,
            fun detour _ reached => absurd reached (not_reaches_of_dark off)⟩
      · rw [sits]
        exact fun touched => absurd (off.symm.trans touched) nofun

theorem removeNames_fades (lawful : MH.Lawful) (names : List String) (sound : Sound MH slots manager)
    (releases : ReleasesAll MH names manager) : Fades MH slots manager (removeNames MH names manager) := by
  induction names generalizing manager with
  | nil => exact ⟨sound, fun _ member => nomatch member⟩
  | cons name rest ih =>
    have first := remove_fades lawful sound releases.1
    exact first.append (ih first.sound releases.2)

/-- What the loop over the entries does, when every slot gets back what it had. -/
theorem restoreEntries_spec (manager : HookManager Patches) (entries : List (String × HookEntry))
    (original : ∀ name entry, (name, entry) ∈ entries → ∀ slot, entry.vtable = some slot →
      entry.original = slots slot.location) :
    (∀ state ∈ restoreEntries entries manager, state.patches = manager.patches
        ∧ ∀ location, state.slots location = manager.slots location
          ∨ state.slots location = slots location)
      ∧ ∀ location, ((restoreEntries entries manager).getLastD manager).slots location
        = slots location ∨ ((restoreEntries entries manager).getLastD manager).slots location
            = manager.slots location ∧ ∀ name entry, (name, entry) ∈ entries → ∀ slot,
              entry.vtable = some slot → slot.location ≠ location := by
  induction entries generalizing manager with
  | nil =>
    refine ⟨fun _ member => ?_, fun location => Or.inr ⟨rfl, fun _ _ member => ?_⟩⟩ <;> cases member
  | cons first rest ih =>
    obtain ⟨name, entry⟩ := first
    obtain ⟨restored, freed, unfolded, patches, patches', kept, kept', given⟩ :
        ∃ restored freed, restoreEntries ((name, entry) :: rest) manager
            = restored :: freed :: restoreEntries rest freed
          ∧ restored.patches = manager.patches ∧ freed.patches = manager.patches
          ∧ (∀ location, restored.slots location = manager.slots location
            ∨ restored.slots location = slots location)
          ∧ (∀ location, freed.slots location = restored.slots location)
          ∧ ∀ slot, entry.vtable = some slot →
            restored.slots slot.location = slots slot.location := by
      refine ⟨_, _, rfl, ?_, ?_, fun location => ?_, fun location => ?_, fun slot virtual => ?_⟩
      · cases entry.vtable <;> rfl
      · cases entry.movRaxRspHook <;> cases entry.vtable <;> rfl
      · cases virtual : entry.vtable with
        | none => exact Or.inl rfl
        | some slot =>
          by_cases here : location = slot.location
          · subst here
            exact Or.inr ((Function.update_self ..).trans
              (original name entry List.mem_cons_self slot virtual))
          · exact Or.inl (Function.update_of_ne here ..)
      · cases entry.movRaxRspHook <;> rfl
      · rw [virtual]
        exact (Function.update_self ..).trans (original name entry List.mem_cons_self slot virtual)
    obtain ⟨states, last⟩ := ih freed fun other entry' member =>
      original other entry' (List.mem_cons_of_mem _ member)
    have back : ∀ location, freed.slots location = manager.slots location
        ∨ freed.slots location = slots location := fun location => kept' location ▸ kept location
    rw [unfolded, List.getLastD_cons, List.getLastD_cons]
    refine ⟨fun state member => ?_, fun location => ?_⟩
    · rcases List.mem_cons.mp member with rfl | member
      · exact ⟨patches, kept⟩
      rcases List.mem_cons.mp member with rfl | member
      · exact ⟨patches', back⟩
      obtain ⟨same, either⟩ := states state member
      refine ⟨same.trans patches', fun location => ?_⟩
      rcases either location with equal | equal
      · exact equal ▸ back location
      · exact Or.inr equal
    · rcases last location with done | ⟨same, others⟩
      · exact Or.inl done
      · by_cases here : ∃ slot, entry.vtable = some slot ∧ slot.location = location
        · obtain ⟨slot, virtual, rfl⟩ := here
          exact Or.inl (same.trans ((kept' _).trans (given slot virtual)))
        · rcases back location with equal | equal
          · refine Or.inr ⟨same.trans equal, fun other entry' member slot virtual at' => ?_⟩
            rcases List.mem_cons.mp member with first | member
            · cases first
              exact here ⟨slot, virtual, at'⟩
            · exact others other entry' member slot virtual at'
          · exact Or.inl (same.trans equal)

theorem shutdown_fades (sound : Sound MH slots manager) (silent : manager.initialized = true →
      ∀ target, MH.enabled (MH.disableAllHooks manager.patches).2 target = false) :
    Fades MH slots manager (manager.shutdown MH) := by
  unfold shutdown
  by_cases up : manager.initialized = true
  · rw [if_pos up]
    have silent := silent up
    set disabled : HookManager Patches :=
      { manager with patches := (MH.disableAllHooks manager.patches).2 } with definition
    have natural : ∀ name entry, (name, entry) ∈ manager.hooks.toList → ∀ slot,
        entry.vtable = some slot → entry.original = slots slot.location := by
      intro name entry member slot virtual
      cases sound.attached (AMap.mem_toList.mp member) with
      | slot virtual' plain enabled held original =>
        rw [virtual] at virtual'
        cases virtual'
        exact original
      | patch inline => rw [virtual] at inline; cases inline
      | stub inline => rw [virtual] at inline; cases inline
    obtain ⟨states, last⟩ := restoreEntries_spec disabled _ natural
    set restored := disabled :: restoreEntries manager.hooks.toList disabled with definition'
    have final : restored.getLastD manager
        = (restoreEntries manager.hooks.toList disabled).getLastD disabled := List.getLastD_cons
    have visited : ∀ state ∈ restored, state.patches = disabled.patches
        ∧ ∀ location, state.slots location = manager.slots location
          ∨ state.slots location = slots location := by
      intro state member
      rcases List.mem_cons.mp member with rfl | member
      · exact ⟨rfl, fun _ => Or.inl rfl⟩
      · exact states state member
    have dark : ∀ state ∈ restored, ∀ target, MH.enabled state.patches target = false :=
      fun state member target => (visited state member).1 ▸ silent target
    have inside : restored.getLastD manager ∈ restored := getLastD_mem (List.cons_ne_nil _ _)
    have restoredAll : ∀ location, (restored.getLastD manager).slots location = slots location := by
      intro location
      rw [final]
      rcases last location with done | ⟨same, none⟩
      · exact done
      · by_contra written
        obtain ⟨name, entry, stored, sits⟩ :=
          sound.covered (show Touched MH slots manager (.slot location) from
            fun natural => written (same.trans natural))
        cases virtual : entry.vtable with
        | none =>
          rw [HookEntry.site_code virtual] at sits
          cases sits
        | some slot =>
          rw [HookEntry.site_slot virtual] at sits
          exact none name entry (AMap.mem_toList.mpr stored) slot virtual (Site.slot.inj sits)
    refine ⟨?_, fun state member site detour foreign => ?_⟩ <;> rw [List.getLastD_concat]
    · refine ⟨(nomatch ·), (nomatch ·), (nomatch ·), fun {site} touched => ?_⟩
      cases site with
      | code target => exact absurd ((dark _ inside target).symm.trans touched) nofun
      | slot location => exact absurd (restoredAll location) touched
    · cases site with
      | code target =>
        refine ⟨fun reached => absurd reached (not_reaches_of_dark (dark _ inside target)),
          fun reached => ?_⟩
        refine absurd reached (not_reaches_of_dark ?_)
        rcases List.mem_append.mp member with before | here
        · exact dark state before target
        · rw [List.mem_singleton.mp here]
          exact dark _ inside target
      | slot location =>
        refine ⟨fun reached => absurd ((restoredAll location).symm.trans reached) foreign,
          fun reached => ?_⟩
        rcases List.mem_append.mp member with before | here
        · rcases (visited state before).2 location with same | same
          · exact same.symm.trans reached
          · exact absurd (same.symm.trans reached) foreign
        · rw [List.mem_singleton.mp here] at reached
          exact absurd ((restoredAll location).symm.trans reached) foreign
  · rw [if_neg up]
    exact ⟨sound, fun _ member => nomatch member⟩

end HookManager

end KenshiMP
