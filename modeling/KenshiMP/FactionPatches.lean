/-
**Whether the faction patch hits its string.**

The default text lies somewhere in `.rdata`, once, and the client assigns factions and patches, again and
again. A call hits if the whole string with its zero lies at that place afterwards and nothing else has
changed. Every call does, in a run whose calls are fine (`patch_hits`): the string has at most 24 bytes,
its bytes are mapped, and the place can still be told, by the dash and the dot at a known offset, or by the
default text, which a patch overwrites, before the last place of the section.

* `find_eq`: the place is found if it can be told;
* `kept_patch`: what is elsewhere stays as it was.
-/

import KenshiMP.Client.FactionPatch

set_option linter.unusedSectionVars false

namespace KenshiMP

open Wire (Bytes ascii)
open ByteMemory

namespace FactionPatch

/-! ### The image and the calls -/

/-- The default text has room at an address in the section. -/
def Fits (game : GameModule) (header : SectionHeader) (addr : Address) : Prop :=
  game.moduleBase.toNat + header.virtualAddress.toNat ≤ addr.toNat
    ∧ addr.toNat + searchStr.length
      ≤ game.moduleBase.toNat + header.virtualAddress.toNat + header.virtualSize.toNat

/-- And it is not the last address where it has. -/
def Before (game : GameModule) (header : SectionHeader) (addr : Address) : Prop :=
  game.moduleBase.toNat + header.virtualAddress.toNat ≤ addr.toNat
    ∧ addr.toNat + searchStr.length
      < game.moduleBase.toNat + header.virtualAddress.toNat + header.virtualSize.toNat

def SectionHeader.IsRdata (header : SectionHeader) : Prop := header.name.take 6 = ascii ".rdata"

/-- A module of the game as it is loaded, with the default text at one place of `.rdata`. -/
structure Image (game : GameModule) (memory : ByteMemory.Memory 64) (place : Address) : Prop where
  magic : game.e_magic = IMAGE_DOS_SIGNATURE
  signature : game.signature = IMAGE_NT_SIGNATURE
  above : 0x10000 ≤ game.moduleBase.toNat
  below : ∀ header ∈ game.sections,
    game.moduleBase.toNat + header.virtualAddress.toNat + header.virtualSize.toNat < 2 ^ 64
  inside : ∃ header ∈ game.sections, header.IsRdata ∧ Fits game header place
  text : sehMemcmpAt game memory searchStr place = true
  once : ∀ header ∈ game.sections, header.IsRdata → ∀ addr, Fits game header addr →
    OccursAt memory addr searchStr → addr = place
  others : ∀ addr ∈ candidates game, addr ≠ place → hasDashAndDot game memory addr = false

/-- The system makes mapped bytes writable. -/
def Grants (game : GameModule) : Prop :=
  ∀ addr count, (∀ i < count, game.mapped (addr + BitVec.ofNat 64 i) = true) →
    game.virtualProtect addr count = true

/-- **The call hits**: it returns true, the whole string and its zero are at the place, and the bytes outside
are as they were. -/
structure Call.Hits (place : Address) (call : Call) : Prop where
  returned : call.result.1 = true
  complete : OccursAt call.result.2 place (call.factionString ++ [0])
  outside : ∀ addr, ¬ Covers place (call.factionString ++ [0]).length addr →
    call.result.2 addr = call.before addr

/-- The place can be told from the rest of the memory. -/
def Told (game : GameModule) (memory : ByteMemory.Memory 64) (place : Address) : Prop :=
  (place ∈ candidates game ∧ hasDashAndDot game memory place = true)
    ∨ (∀ addr ∈ candidates game, hasDashAndDot game memory addr = false)
      ∧ sehMemcmpAt game memory searchStr place = true
      ∧ ∃ header ∈ game.sections, header.IsRdata ∧ Before game header place

/-- The string that a step patches in, if it does. -/
def called (state : State) : Event → Option Bytes
  | .factionAssignment phase packet =>
    if atMenu phase then (readFactionAssignment packet).map Prod.fst else none
  | .loadingGap phase =>
    if atMenu phase && state.lobby.hasAssignment then some state.lobby.factionString else none

/-- The condition on a step. -/
def Fine (game : GameModule) (place : Address) (state : State) (event : Event) : Prop :=
  ∀ factionString, called state event = some factionString →
    factionString.length ≤ MAX_FACTION_WRITE
      ∧ (∀ i < factionString.length + 1, game.mapped (place + BitVec.ofNat 64 i) = true)
      ∧ Told game state.memory place

/-! ### Reading -/

section Reading

variable {game : GameModule} {memory other : ByteMemory.Memory 64} {addr place : Address} {text : Bytes}

theorem readText_eq_some {count : ℕ} : readText game memory count addr = some text
    ↔ (∀ i < count, game.mapped (addr + BitVec.ofNat 64 i) = true)
      ∧ (List.range count).map (fun i => memory (addr + BitVec.ofNat 64 i)) = text := by
  unfold readText
  have all : ((List.range count).all fun i => game.mapped (addr + BitVec.ofNat 64 i)) = true
      ↔ ∀ i < count, game.mapped (addr + BitVec.ofNat 64 i) = true := by
    simp only [List.all_eq_true, List.mem_range]
  split
  · rename_i here
    rw [Option.some.injEq, ← all, and_iff_right here]
  · rename_i fails
    refine iff_of_false (fun found => ?_) fun both => fails (all.mpr both.1)
    cases found

theorem map_range_eq_iff : (List.range text.length).map (fun i => memory (addr + BitVec.ofNat 64 i)) = text
    ↔ OccursAt memory addr text := by
  constructor
  · intro same i inside
    conv_rhs => rw [← List.getElem_of_eq same (by simpa using inside)]
    rw [List.getElem_map, List.getElem_range]
  · intro here
    refine List.ext_getElem (by simp) fun i inside inside' => ?_
    rw [List.getElem_map, List.getElem_range]
    exact here i inside'

theorem sehMemcmpAt_iff : sehMemcmpAt game memory text addr = true
    ↔ (∀ i < text.length, game.mapped (addr + BitVec.ofNat 64 i) = true)
      ∧ OccursAt memory addr text := by
  unfold sehMemcmpAt
  rw [decide_eq_true_iff, readText_eq_some, map_range_eq_iff]

/-- What a known offset has is a matter of its seventeen bytes. -/
theorem hasDashAndDot_congr
    (same : ∀ i < 17, memory (addr + BitVec.ofNat 64 i) = other (addr + BitVec.ofNat 64 i)) :
    hasDashAndDot game memory addr = hasDashAndDot game other addr := by
  have texts : (List.range 17).map (fun i => memory (addr + BitVec.ofNat 64 i))
      = (List.range 17).map fun i => other (addr + BitVec.ofNat 64 i) :=
    List.map_congr_left fun i member => same i (List.mem_range.mp member)
  unfold hasDashAndDot sehCheckFactionCandidate readText
  rw [texts]

/-- A read from an address that is not mapped faults. -/
theorem hasDashAndDot_unmapped (unmapped : game.mapped addr = false) :
    hasDashAndDot game memory addr = false := by
  have faults : readText game memory 17 addr = none := by
    cases read : readText game memory 17 addr with
    | none => rfl
    | some buf =>
      have first := (readText_eq_some.mp read).1 0 (by decide)
      rw [BitVec.add_zero, unmapped] at first
      cases first
  unfold hasDashAndDot sehCheckFactionCandidate
  rw [faults]
  rfl

end Reading

/-! ### Finding the place -/

section Finding

variable {game : GameModule} {memory : ByteMemory.Memory 64} {place : Address}

theorem candidates_apart (base : Address) : base + 0x16C4258 ≠ base + 0x16C2F68 := by
  bv_omega

variable {header : SectionHeader}

/-- An address of a section as a number. -/
theorem toNat_start
    (below : game.moduleBase.toNat + header.virtualAddress.toNat + header.virtualSize.toNat < 2 ^ 64) :
    (game.moduleBase + BitVec.ofNat 64 header.virtualAddress.toNat).toNat
      = game.moduleBase.toNat + header.virtualAddress.toNat := by
  rw [BitVec.toNat_add, BitVec.toNat_ofNat, Nat.mod_eq_of_lt (by omega), Nat.mod_eq_of_lt (by omega)]

/-- The number of addresses that are looked at in a section. -/
theorem searched_count (above : 0x10000 ≤ game.moduleBase.toNat)
    (below : game.moduleBase.toNat + header.virtualAddress.toNat + header.virtualSize.toNat < 2 ^ 64) :
    (game.moduleBase + BitVec.ofNat 64 header.virtualAddress.toNat
          + BitVec.ofNat 64 header.virtualSize.toNat - BitVec.ofNat 64 searchStr.length).toNat
        - (game.moduleBase + BitVec.ofNat 64 header.virtualAddress.toNat).toNat
      = header.virtualSize.toNat - searchStr.length := by
  have length : searchStr.length = 17 := by decide
  rw [length, BitVec.toNat_sub, BitVec.toNat_add _ (BitVec.ofNat 64 header.virtualSize.toNat),
    toNat_start below, BitVec.toNat_ofNat, BitVec.toNat_ofNat,
    Nat.mod_eq_of_lt (by omega : header.virtualSize.toNat < 2 ^ 64), Nat.mod_eq_of_lt below]
  omega

theorem toNat_searched {i : ℕ}
    (below : game.moduleBase.toNat + header.virtualAddress.toNat + header.virtualSize.toNat < 2 ^ 64)
    (inside : i < header.virtualSize.toNat - searchStr.length) :
    (game.moduleBase + BitVec.ofNat 64 header.virtualAddress.toNat + BitVec.ofNat 64 i).toNat
      = game.moduleBase.toNat + header.virtualAddress.toNat + i := by
  rw [BitVec.toNat_add, toNat_start below, BitVec.toNat_ofNat, Nat.mod_eq_of_lt (by omega),
    Nat.mod_eq_of_lt (by omega)]

variable (above : 0x10000 ≤ game.moduleBase.toNat)
  (below : ∀ header ∈ game.sections,
    game.moduleBase.toNat + header.virtualAddress.toNat + header.virtualSize.toNat < 2 ^ 64)
  (once : ∀ header ∈ game.sections, header.IsRdata → ∀ addr, Fits game header addr →
    OccursAt memory addr searchStr → addr = place)

include above below once

/-- A section has no other place. -/
theorem searchSection_none_or (listed : header ∈ game.sections) :
    searchSection game memory header = none ∨ searchSection game memory header = some place := by
  unfold searchSection
  split
  · rename_i rdata
    simp only
    rw [searched_count above (below header listed)]
    refine scan_unique fun i inside passed => once header listed rdata _ ?_ (sehMemcmpAt_iff.mp passed).2
    unfold Fits
    rw [toNat_searched (below header listed) inside]
    omega
  · exact .inl rfl

variable (listed : header ∈ game.sections) (rdata : header.IsRdata) (inside : Before game header place)
  (text : sehMemcmpAt game memory searchStr place = true)

include listed rdata inside text

/-- The section that the place is in has it, unless it is the last one there. -/
theorem searchSection_isSome : (searchSection game memory header).isSome := by
  have named : header.name.take 6 = ascii ".rdata" := rdata
  unfold searchSection
  rw [if_pos named]
  simp only
  rw [searched_count above (below header listed)]
  unfold Before at inside
  have room := below header listed
  refine scan_isSome
    (i := place.toNat - (game.moduleBase.toNat + header.virtualAddress.toNat)) (by omega) ?_
  have there : game.moduleBase + BitVec.ofNat 64 header.virtualAddress.toNat
      + BitVec.ofNat 64 (place.toNat - (game.moduleBase.toNat + header.virtualAddress.toNat)) = place := by
    refine BitVec.eq_of_toNat_eq ?_
    rw [toNat_searched room (by omega)]
    omega
  rw [there]
  exact text

/-- The sections together. -/
theorem findSome_searchSection : game.sections.findSome? (searchSection game memory) = some place := by
  cases found : game.sections.findSome? (searchSection game memory) with
  | none =>
    have nothing := List.findSome?_eq_none_iff.mp found header listed
    have something := searchSection_isSome above below once listed rdata inside text
    rw [nothing] at something
    cases something
  | some addr =>
    obtain ⟨header', listed', here⟩ := List.exists_of_findSome?_eq_some found
    rcases searchSection_none_or above below once listed' with nothing | place_found
    · rw [nothing] at here
      cases here
    · exact here.symm.trans place_found

end Finding

variable {game : GameModule} {memory : ByteMemory.Memory 64} {place : Address}

/-- What stays of an image when texts are written at the place. -/
structure Kept (game : GameModule) (place : Address) (memory : ByteMemory.Memory 64) : Prop where
  others : place ∈ candidates game → ∀ addr ∈ candidates game, addr ≠ place →
    hasDashAndDot game memory addr = false
  once : place ∉ candidates game → OccursAt memory place searchStr →
    ∀ header ∈ game.sections, header.IsRdata → ∀ addr, Fits game header addr →
      OccursAt memory addr searchStr → addr = place

theorem kept_image (image : Image game memory place) : Kept game place memory where
  others _ := image.others
  once _ _ := image.once

/-- The default text has a dash and a dot. -/
theorem hasDashAndDot_of_searchStr (text : sehMemcmpAt game memory searchStr place = true) :
    hasDashAndDot game memory place = true := by
  have here : readText game memory 17 place = some searchStr := of_decide_eq_true text
  unfold hasDashAndDot sehCheckFactionCandidate
  rw [here]
  decide

/-- **The place is found** if it can be told. -/
theorem find_eq (image : Image game memory place) {later : ByteMemory.Memory 64} (kept : Kept game place later)
    (told : Told game later place) : findFactionStringAddress game later = place := by
  unfold findFactionStringAddress
  rcases told with ⟨known, shaped⟩ | ⟨unshaped, text, header, listed, rdata, inside⟩
  · have found : (candidates game).find? (hasDashAndDot game later) = some place := by
      have apart := candidates_apart game.moduleBase
      have others := kept.others known
      unfold candidates at known others ⊢
      rcases List.mem_pair.mp known with rfl | rfl
      · rw [List.find?_cons_of_pos shaped]
      · have first := others _ List.mem_cons_self apart
        rw [List.find?_cons_of_neg (by rw [first]; exact Bool.false_ne_true), List.find?_cons_of_pos shaped]
    rw [found]
  · have nowhere : (candidates game).find? (hasDashAndDot game later) = none :=
      List.find?_eq_none.mpr fun addr listed => by rw [unshaped addr listed]; exact Bool.false_ne_true
    have unknown : place ∉ candidates game := fun known => by
      have shaped := hasDashAndDot_of_searchStr text
      rw [unshaped place known] at shaped
      cases shaped
    have once := kept.once unknown (sehMemcmpAt_iff.mp text).2
    rw [nowhere]
    simp only
    rw [if_neg (not_not.mpr image.magic), if_neg (not_not.mpr image.signature),
      findSome_searchSection image.above image.below once listed rdata inside text, Option.getD_some]

theorem place_ne_zero (image : Image game memory place) : place ≠ 0 := by
  rintro rfl
  obtain ⟨header, -, -, fits, -⟩ := image.inside
  have above := image.above
  have zero : (0 : Address).toNat = 0 := rfl
  omega

/-! ### What is elsewhere -/

/-- The two known offsets are further apart than a patch is long. -/
theorem candidate_outside {addr : Address} {count i : ℕ} (known : place ∈ candidates game)
    (other : addr ∈ candidates game) (apart : addr ≠ place) (inside : i < 17) (short : count ≤ 25) :
    ¬ Covers place count (addr + BitVec.ofNat 64 i) := by
  unfold candidates at known other
  unfold Covers
  have small : (BitVec.ofNat 64 i).toNat = i := by
    rw [BitVec.toNat_ofNat, Nat.mod_eq_of_lt (by omega)]
  rcases List.mem_pair.mp known with rfl | rfl <;> rcases List.mem_pair.mp other with rfl | rfl
  · exact absurd rfl apart
  · bv_omega
  · bv_omega
  · exact absurd rfl apart

variable {factionString : Bytes}

/-- **A patch** keeps what is elsewhere. -/
theorem kept_patch (kept : Kept game place memory) (told : Told game memory place)
    (short : factionString.length ≤ MAX_FACTION_WRITE) :
    Kept game place (overwrite memory place (factionString ++ [0])) := by
  have length : (factionString ++ [0]).length ≤ 25 := by
    rw [List.length_append, List.length_singleton]
    exact Nat.succ_le_succ short
  refine ⟨fun known addr other apart => ?_, fun unknown text header listed rdata addr fits here => ?_⟩
  · rw [← kept.others known addr other apart]
    exact hasDashAndDot_congr fun i inside =>
      overwrite_outside (candidate_outside known other apart inside length)
  · obtain ⟨-, before, -⟩ := told.resolve_left fun both => unknown both.1
    have once := kept.once unknown (sehMemcmpAt_iff.mp before).2 header listed rdata addr fits
    have headed : searchStr = 0x32 :: searchStr.tail := by decide
    have single : (0x32 : UInt8) ∉ searchStr.tail := by decide
    rcases occursAt_of_overwrite here with behind | ahead | earlier
    · by_cases near : Covers place searchStr.length addr
      · rw [headed] at text here near
        exact eq_of_covers single text here near
      · -- Behind the text, but not behind the zero.
        have written := @occursAt_overwrite 64 memory place (factionString ++ [0]) (by omega)
        have far := not_reaching (by decide) written here behind
        have size : searchStr.length = 17 := by decide
        unfold Covers at near
        rw [List.length_append, List.length_singleton] at length
        omega
    · rw [headed] at text here ahead
      exact (eq_of_covers single here text ahead).symm
    · exact once earlier

/-! ### A step -/

variable {state : State}

/-- What is known of an assigned string. -/
def Assigned (accepted : Bytes → Prop) (lobby : LobbyManager) : Prop :=
  lobby.hasAssignment = true → accepted lobby.factionString

/-- What is known of the strings that come in. -/
def Event.Brings (event : Event) (accepted : Bytes → Prop) : Prop :=
  ∀ phase packet factionStr slot, event = .factionAssignment phase packet →
    readFactionAssignment packet = some (factionStr, slot) → accepted factionStr

/-- Bytes that are read are as many as are asked for. -/
theorem length_readBytes {count : ℕ} {reader rest : PacketReader} {text : Bytes}
    (took : reader.readBytes count = some (text, rest)) : text.length = count := by
  unfold PacketReader.readBytes at took
  obtain ⟨⟨bytes, left⟩, -, same⟩ := Option.map_eq_some_iff.mp took
  cases same
  exact bytes.2

theorem readFactionAssignment_ne_nil {packet factionStr : Bytes} {slot : Int32}
    (read : readFactionAssignment packet = some (factionStr, slot)) : factionStr ≠ [] := by
  unfold readFactionAssignment at read
  split at read
  · cases read
  · rename_i strLen rest _
    split at read
    · cases read
    · rename_i accepted
      split at read
      · cases read
      · rename_i text left took
        cases read
        have length := length_readBytes took
        rintro rfl
        simp only [Bool.or_eq_true, decide_eq_true_eq, not_or] at accepted
        exact accepted.1 (UInt16.toNat_inj.mp length.symm)

/-- A string that comes in is never empty. -/
theorem brings_ne_nil (event : Event) : event.Brings (· ≠ []) :=
  fun _ _ _ _ _ read => readFactionAssignment_ne_nil read

/-- **What a step does**: it calls nothing, and the memory stays, or patches the string of the lobby. -/
theorem step_cases {accepted : Bytes → Prop} (assigned : Assigned accepted state.lobby) (event : Event)
    (brings : event.Brings accepted) :
    ∃ lobby, Assigned accepted lobby
      ∧ (called state event = none ∧ (machine game).step state event = ({ state with lobby := lobby }, [])
        ∨ called state event = some lobby.factionString ∧ lobby.hasAssignment = true
          ∧ (machine game).step state event = patch game { state with lobby := lobby }) := by
  cases event with
  | factionAssignment phase packet =>
    show ∃ lobby, Assigned accepted lobby ∧ (called state (.factionAssignment phase packet) = none
      ∧ handleFactionAssignment game phase packet state = _ ∨ _ ∧ _
        ∧ handleFactionAssignment game phase packet state = _)
    unfold handleFactionAssignment called
    cases read : readFactionAssignment packet with
    | none => exact ⟨state.lobby, assigned, .inl ⟨by simp [read], rfl⟩⟩
    | some found =>
      obtain ⟨factionStr, slot⟩ := found
      refine ⟨state.lobby.onFactionAssigned factionStr slot,
        fun _ => brings phase packet factionStr slot rfl read, ?_⟩
      cases menu : atMenu phase with
      | false => exact .inl ⟨by simp [menu], if_neg Bool.false_ne_true⟩
      | true => exact .inr ⟨by simp [menu, read, LobbyManager.onFactionAssigned], rfl, if_pos rfl⟩
  | loadingGap phase =>
    refine ⟨state.lobby, assigned, ?_⟩
    show called state (.loadingGap phase) = none ∧ onLoadingGapDetected game phase state = _
      ∨ _ ∧ _ ∧ onLoadingGapDetected game phase state = _
    unfold onLoadingGapDetected called
    by_cases calls : (atMenu phase && state.lobby.hasAssignment) = true
    · refine .inr ⟨if_pos calls, ?_, if_pos calls⟩
      rw [Bool.and_eq_true] at calls
      exact calls.2
    · exact .inl ⟨if_neg calls, if_neg calls⟩

/-- **A patch of a string** that fits, at a place that can be told. -/
theorem applyFactionPatch_eq (image : Image game memory place) (granted : Grants game) {later : ByteMemory.Memory 64}
    (kept : Kept game place later) (told : Told game later place) {lobby : LobbyManager}
    (given : Assigned (· ≠ []) lobby) (has : lobby.hasAssignment = true)
    (short : lobby.factionString.length ≤ MAX_FACTION_WRITE)
    (mapped : ∀ i < lobby.factionString.length + 1, game.mapped (place + BitVec.ofNat 64 i) = true) :
    applyFactionPatch game later lobby = (true, overwrite later place (lobby.factionString ++ [0])) := by
  have found := find_eq image kept told
  have grants : game.virtualProtect place (lobby.factionString.length + 1) = true := granted _ _ mapped
  have assigned : ¬ (!lobby.hasAssignment || lobby.factionString = []) = true := by
    simp [has, given has]
  unfold applyFactionPatch
  rw [if_neg assigned, found, if_neg (place_ne_zero image), Nat.min_eq_left short, grants,
    List.take_of_length_le short]
  rfl

theorem hits_overwrite (short : factionString.length ≤ MAX_FACTION_WRITE) :
    Call.Hits place ⟨factionString, memory, true, overwrite memory place (factionString ++ [0])⟩ where
  returned := rfl
  complete := occursAt_overwrite (by
    have limit : MAX_FACTION_WRITE = 24 := rfl
    rw [List.length_append, List.length_singleton]
    omega)
  outside _ apart := overwrite_outside apart

/-- What holds along a run. -/
structure Going (game : GameModule) (place : Address) (state : State) : Prop where
  assigned : Assigned (· ≠ []) state.lobby
  kept : Kept game place state.memory

/-- **A step** that is fine keeps what holds, and its call hits. -/
theorem step_hits (image : Image game memory place) (granted : Grants game) (going : Going game place state)
    {event : Event} (fine : Fine game place state event) :
    Going game place ((machine game).next state event)
      ∧ ∀ call ∈ (machine game).emit state event, call.Hits place := by
  obtain ⟨lobby, assigned, ⟨-, same⟩ | ⟨calls, has, same⟩⟩ :=
    @step_cases game state _ going.assigned event (brings_ne_nil event)
  · unfold Machine.next Machine.emit
    rw [same]
    exact ⟨⟨assigned, going.kept⟩, fun call member => by cases member⟩
  · obtain ⟨short, mapped, told⟩ := fine _ calls
    have patched := applyFactionPatch_eq image granted going.kept told assigned has short mapped
    unfold Machine.next Machine.emit
    rw [same]
    unfold patch
    simp only
    rw [patched]
    refine ⟨⟨assigned, kept_patch going.kept told short⟩, fun call member => ?_⟩
    rw [List.mem_singleton.mp member]
    exact hits_overwrite short

/-- All calls of a fine run hit. -/
theorem outputs_hit (image : Image game memory place) (granted : Grants game) {events : List Event}
    (going : Going game place state) (along : (machine game).Along (Fine game place) state events) :
    ∀ call ∈ (machine game).outputs state events, call.Hits place := by
  induction events generalizing state with
  | nil => exact fun call member => by cases member
  | cons event rest ih =>
    obtain ⟨after, hits⟩ := step_hits image granted going along.1
    intro call member
    rcases List.mem_append.mp member with here | later
    · exact hits call here
    · exact ih after along.2 call later

/-! ### A known offset -/

/-! ### Runs -/

/-- **The faction patch hits** in every run whose steps are fine. -/
theorem patch_hits (game : GameModule) (memory : ByteMemory.Memory 64) (place : Address)
    (image : Image game memory place) (granted : Grants game) (events : List Event)
    (along : (machine game).Along (Fine game place) { memory := memory } events) :
    ∀ call ∈ (machine game).outputs { memory := memory } events, call.Hits place :=
  outputs_hit image granted ⟨fun has => Bool.noConfusion has, kept_image image⟩ along

/-- A module with `.rdata` and the default text at some offset, with no more than some room for it. -/
def loadedModule (offset size : UInt32) : GameModule :=
  let mapped (addr : Address) : Bool := (addr - (0x140000000 + BitVec.ofNat 64 offset.toNat)).toNat < 64
  { moduleBase := 0x140000000
    e_magic := IMAGE_DOS_SIGNATURE
    signature := IMAGE_NT_SIGNATURE
    sections := [⟨ascii ".rdata" ++ [0, 0], size, offset⟩]
    mapped := mapped
    virtualProtect := fun addr count => (List.range count).all fun i => mapped (addr + BitVec.ofNat 64 i) }

theorem grants_loadedModule (offset size : UInt32) : Grants (loadedModule offset size) := by
  intro addr count mapped
  refine List.all_eq_true.mpr fun i member => ?_
  exact mapped i (List.mem_range.mp member)

/-- Its memory, with the text there. -/
def loadedMemory (offset : UInt32) : ByteMemory.Memory 64 :=
  overwrite (fun _ => 0) (0x140000000 + BitVec.ofNat 64 offset.toNat) searchStr

/-- The first player's faction comes in the main menu, and a save is loaded. -/
def firstPlayer : List Event :=
  [.factionAssignment .MainMenu ([20, 0] ++ ascii "10-kenshi-online.mod" ++ [1, 0, 0, 0]),
    .loadingGap .MainMenu]

theorem image_steam : Image (loadedModule 0x16C4258 17) (loadedMemory 0x16C4258) 0x1416C4258 where
  magic := rfl
  signature := rfl
  above := by decide
  below header listed := by
    rw [List.mem_singleton.mp listed]
    decide
  inside := ⟨_, List.mem_singleton_self _, rfl, by decide, by decide⟩
  text := by decide
  once header listed _ addr fits _ := by
    rw [List.mem_singleton.mp listed] at fits
    have low : 0x1416C4258 ≤ addr.toNat := fits.1
    have high : addr.toNat + 17 ≤ 0x1416C4258 + 17 := fits.2
    exact BitVec.eq_of_toNat_eq (show addr.toNat = 0x1416C4258 by omega)
  others addr listed apart := by
    rcases List.mem_pair.mp listed with rfl | rfl
    · exact absurd rfl apart
    · exact hasDashAndDot_unmapped (by decide)

/-- At a known offset, also as the last text of the section. -/
theorem patch_hits_steam : ((machine (loadedModule 0x16C4258 17)).outputs
    { memory := loadedMemory 0x16C4258 } firstPlayer).Forall (Call.Hits 0x1416C4258) := by
  refine List.forall_iff_forall_mem.mpr
    (patch_hits _ _ _ image_steam (grants_loadedModule _ _) _ ⟨?_, ?_, trivial⟩)
  · intro factionString calls
    have same : factionString = ascii "10-kenshi-online.mod" := Option.some.inj (calls.symm.trans (by decide))
    subst same
    exact ⟨by decide, by decide, .inl ⟨by decide, by decide⟩⟩
  · intro factionString calls
    have same : factionString = ascii "10-kenshi-online.mod" := Option.some.inj (calls.symm.trans (by decide))
    subst same
    exact ⟨by decide, by decide, .inl ⟨by decide, by decide⟩⟩

theorem image_elsewhere : Image (loadedModule 0x1000 18) (loadedMemory 0x1000) 0x140001000 where
  magic := rfl
  signature := rfl
  above := by decide
  below header listed := by
    rw [List.mem_singleton.mp listed]
    decide
  inside := ⟨_, List.mem_singleton_self _, rfl, by decide, by decide⟩
  text := by decide
  once header listed _ addr fits here := by
    rw [List.mem_singleton.mp listed] at fits
    have low : 0x140001000 ≤ addr.toNat := fits.1
    have high : addr.toNat + 17 ≤ 0x140001000 + 18 := fits.2
    by_contra apart
    have next : addr = 0x140001001 := by
      refine BitVec.eq_of_toNat_eq (show addr.toNat = 0x140001001 from ?_)
      have other : addr.toNat ≠ 0x140001000 := fun same => apart (BitVec.eq_of_toNat_eq same)
      omega
    subst next
    exact absurd (here 0 (by decide)) (by decide)
  others addr listed apart := by
    rcases List.mem_pair.mp listed with rfl | rfl
    · exact hasDashAndDot_unmapped (by decide)
    · exact hasDashAndDot_unmapped (by decide)

/-- **The second patch** of a text elsewhere fails: the first one has overwritten what is looked for. -/
theorem patch_hits_fails : ¬ ∀ (game : GameModule) (memory : ByteMemory.Memory 64) (place : Address),
    Image game memory place → Grants game → ∀ events : List Event,
      ∀ call ∈ (machine game).outputs { memory := memory } events, call.Hits place := by
  intro always
  have hits := always _ _ _ image_elsewhere (grants_loadedModule _ _) firstPlayer
  have fails : ∃ call ∈ (machine (loadedModule 0x1000 18)).outputs
      { memory := loadedMemory 0x1000 } firstPlayer, call.result.1 = false := by
    refine ⟨_, List.mem_cons_of_mem _ List.mem_cons_self, ?_⟩
    decide
  obtain ⟨call, member, failed⟩ := fails
  rw [(hits call member).returned] at failed
  cases failed

end FactionPatch

end KenshiMP
