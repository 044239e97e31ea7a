/-
**References to strings: when the table has all of them.**

The references to an address are the instructions of the section that load it, from the lowest to the
highest. `ResolveXrefs` appends those that it finds to the entries; the index has one entry for an
address, and the buffer has room for one hit in seven bytes.

* `foldl_recordHit`: the entry in the index at a target gets the hits there, and no other one does;
* `resolve_exact_iff`: after the call, every entry has exactly its references, `FindXrefs` finds them,
  and they are counted, exactly if the table and the section are as `Fits` says;
* `resolves_exact_iff`: so it is for each call in a run. `resolve_misses`: an instruction at the very
  end of the section.
-/

import KenshiMP.StringScans

namespace KenshiMP

open Assoc

namespace StringTable

/-! ### The index -/

/-- The entry at an address is the last one there. -/
theorem lookup_stringAddrIndex (strings : List TableString) (address : Uintptr) (j : Nat) :
    (Image.stringAddrIndex strings).lookup address = some j
      ↔ (∃ gs, strings[j]? = some gs ∧ gs.address = address)
        ∧ ∀ k gs, j < k → strings[k]? = some gs → gs.address ≠ address := by
  unfold Image.stringAddrIndex
  induction strings using List.reverseRecOn with
  | nil =>
    refine iff_of_false (fun found => Option.some_ne_none j found.symm) fun both => ?_
    obtain ⟨gs, found, -⟩ := both.1
    exact Option.some_ne_none gs found.symm
  | append_singleton strings last ih =>
    have short (k : Nat) : k < strings.length → (strings ++ [last])[k]? = strings[k]? :=
      List.getElem?_append_left
    rw [List.zipIdx_append, List.foldl_append, List.zipIdx_singleton, List.foldl_cons, List.foldl_nil,
      AMap.lookup_insert_eq, Nat.zero_add]
    by_cases same : address = last.address
    · rw [if_pos same]
      constructor
      · rintro ⟨rfl⟩
        refine ⟨⟨last, List.getElem?_concat_length, same.symm⟩, fun k gs behind found => ?_⟩
        have inside := (List.getElem?_eq_some_iff.mp found).1
        rw [List.length_append, List.length_singleton] at inside
        omega
      · rintro ⟨⟨gs, found, -⟩, none⟩
        have inside := (List.getElem?_eq_some_iff.mp found).1
        rw [List.length_append, List.length_singleton] at inside
        rcases Nat.eq_or_lt_of_le (Nat.le_of_lt_succ inside) with here | before
        · rw [here]
        · exact absurd same.symm (none _ last before List.getElem?_concat_length)
    · rw [if_neg same, ih]
      constructor
      · rintro ⟨⟨gs, found, here⟩, none⟩
        have inside := (List.getElem?_eq_some_iff.mp found).1
        refine ⟨⟨gs, (short j inside).trans found, here⟩, fun k other behind there => ?_⟩
        rcases Nat.lt_or_ge k strings.length with before | at_
        · exact none k other behind ((short k before).symm.trans there)
        · rw [List.getElem?_append_right at_, List.getElem?_singleton] at there
          split_ifs at there
          exact Option.some.inj there ▸ Ne.symm same
      · rintro ⟨⟨gs, found, here⟩, none⟩
        have inside : j < strings.length := by
          by_contra at_
          rw [List.getElem?_append_right (Nat.not_lt.mp at_), List.getElem?_singleton] at found
          split_ifs at found
          exact same (here.symm.trans (congrArg _ (Option.some.inj found).symm))
        refine ⟨⟨gs, (short j inside).symm.trans found, here⟩, fun k other behind there => ?_⟩
        have before := (List.getElem?_eq_some_iff.mp there).1
        exact none k other behind ((short k before).trans there)

/-- The references in a table. -/
def xrefCount (strings : List TableString) : Nat := (strings.map fun gs => gs.xrefs.length).sum

theorem xrefCount_eq_zero {strings : List TableString} :
    xrefCount strings = 0 ↔ ∀ gs ∈ strings, gs.xrefs = [] := by
  unfold xrefCount
  rw [List.sum_eq_zero_iff, List.forall_mem_map]
  simp only [List.length_eq_zero_iff]

theorem xrefCount_modify {strings : List TableString} {j : Nat} (inside : j < strings.length)
    (xref : XRef) :
    xrefCount (strings.modify j fun gs => { gs with xrefs := gs.xrefs ++ [xref] })
      = xrefCount strings + 1 := by
  unfold xrefCount
  induction strings generalizing j with
  | nil => exact absurd inside (Nat.not_lt_zero j)
  | cons gs rest ih =>
    cases j with
    | zero => simp; omega
    | succ j =>
      rw [List.modify_succ_cons, List.map_cons, List.sum_cons, ih (Nat.lt_of_succ_lt_succ inside),
        List.map_cons, List.sum_cons, Nat.add_assoc]

namespace Image

variable (image : Image)

/-! ### One call -/

/-- An entry, with some hits more. -/
def referredBy (gs : TableString) (hits : List Nat) : TableString :=
  { gs with xrefs := gs.xrefs ++ hits.map fun i => image.xrefAt (image.instrAddr i) }

variable {index : AMap Uintptr Nat}

theorem recordHit_none {i : Nat} (none : index.lookup (image.leaTarget i) = none) (state : State) :
    image.recordHit index state i = state := by
  unfold recordHit
  rw [none]

theorem recordHit_some {i k : Nat} (found : index.lookup (image.leaTarget i) = some k) (state : State) :
    image.recordHit index state i = ⟨state.strings.modify k fun gs => { gs with xrefs := gs.xrefs ++ [image.xrefAt (image.instrAddr i)] }, state.totalXrefs + 1⟩ := by
  unfold recordHit
  rw [found]

/-- The hit belongs to an entry. -/
def goesTo (index : AMap Uintptr Nat) (j i : Nat) : Bool :=
  decide (index.lookup (image.leaTarget i) = some j)

theorem goesTo_of_some {i k : Nat} (found : index.lookup (image.leaTarget i) = some k) (j : Nat) :
    image.goesTo index j i = decide (k = j) := by
  unfold goesTo
  rw [found]
  exact decide_eq_decide.mpr Option.some_inj

/-- **The loop over the hits** gives each entry those at whose target it stands in the index. -/
theorem foldl_recordHit (index : AMap Uintptr Nat) (hits : List Nat) (state : State) (j : Nat) :
    (hits.foldl (image.recordHit index) state).strings[j]?
      = state.strings[j]?.map fun gs => image.referredBy gs (hits.filter (image.goesTo index j)) := by
  induction hits generalizing state with
  | nil =>
    have same (gs : TableString) : image.referredBy gs [] = gs := by
      unfold referredBy
      rw [List.map_nil, List.append_nil]
    show _ = state.strings[j]?.map fun gs => image.referredBy gs []
    simp only [same, Option.map_id']
    rfl
  | cons i rest ih =>
    rw [List.foldl_cons, ih, List.filter_cons]
    cases found : index.lookup (image.leaTarget i) with
    | none =>
      have out : image.goesTo index j i = false := by
        unfold goesTo
        rw [found]
        rfl
      rw [out, image.recordHit_none found]
      rfl
    | some k =>
      have recorded : (image.recordHit index state i).strings[j]?
          = state.strings[j]?.map fun gs => if k = j then image.referredBy gs [i] else gs := by
        rw [image.recordHit_some found]
        exact List.getElem?_modify _ k state.strings j
      rw [recorded, Option.map_map, image.goesTo_of_some found]
      refine congrArg (fun f => Option.map f state.strings[j]?) (funext fun gs => ?_)
      show image.referredBy (if k = j then image.referredBy gs [i] else gs) _ = _
      by_cases here : k = j
      · rw [if_pos here, if_pos (decide_eq_true here)]
        unfold referredBy
        rw [List.append_assoc, List.map_cons, List.map_cons, List.map_nil, List.singleton_append]
      · rw [if_neg here, decide_eq_false here]
        rfl

/-- **The loop counts** what it gives. -/
theorem foldl_recordHit_count {index : AMap Uintptr Nat} (hits : List Nat) {state : State}
    (inside : ∀ address j, index.lookup address = some j → j < state.strings.length) :
    xrefCount (hits.foldl (image.recordHit index) state).strings + state.totalXrefs
      = xrefCount state.strings + (hits.foldl (image.recordHit index) state).totalXrefs := by
  induction hits generalizing state with
  | nil => rfl
  | cons i rest ih =>
    rw [List.foldl_cons]
    cases found : index.lookup (image.leaTarget i) with
    | none =>
      rw [image.recordHit_none found]
      exact ih inside
    | some k =>
      have counted := xrefCount_modify (inside _ k found) (image.xrefAt (image.instrAddr i))
      rw [image.recordHit_some found]
      have within : ∀ address j, index.lookup address = some j →
          j < (state.strings.modify k fun gs =>
            { gs with xrefs := gs.xrefs ++ [image.xrefAt (image.instrAddr i)] }).length :=
        fun address j there => by
          rw [List.length_modify]
          exact inside address j there
      generalize (state.strings.modify k fun gs =>
        { gs with xrefs := gs.xrefs ++ [image.xrefAt (image.instrAddr i)] }) = next at counted within ⊢
      have later : xrefCount (rest.foldl (image.recordHit index) ⟨next, state.totalXrefs + 1⟩).strings
            + (state.totalXrefs + 1)
          = xrefCount next + (rest.foldl (image.recordHit index) ⟨next, state.totalXrefs + 1⟩).totalXrefs :=
        ih within
      omega

/-! ### The references of a section -/

/-- The instructions that lie in the section. -/
def leas : List Nat :=
  (List.range image.text.size).filter fun i => decide (i + 7 ≤ image.text.size) && image.isLEA i

def loads (address : Uintptr) (i : Nat) : Bool := image.leaTarget i == address

/-- The references to an address, in order. -/
def references (address : Uintptr) : List Uintptr :=
  (image.leas.filter (image.loads address)).map image.instrAddr

/-- The scan stops one instruction early. -/
theorem leas_eq : ∃ last, image.leas = image.resolveXrefs_SEH ++ last
    ∧ (∀ i ∈ image.resolveXrefs_SEH, i + 7 < image.text.size)
    ∧ ∀ i ∈ last, i + 7 = image.text.size := by
  have whole : image.text.size = image.text.size - 7 + (image.text.size - (image.text.size - 7)) := by
    omega
  have below (i : Nat) (inside : i ∈ List.range (image.text.size - 7)) : i + 7 < image.text.size := by
    have less := List.mem_range.mp inside
    omega
  unfold leas
  rw [whole, List.range_add, ← whole, List.filter_append]
  refine ⟨_, congrArg (· ++ _) (List.filter_congr fun i inside => ?_),
    fun i member => below i (List.mem_of_mem_filter member), fun i member => ?_⟩
  · rw [decide_eq_true (le_of_lt (below i inside)), Bool.true_and]
  · obtain ⟨behind, fits⟩ := List.mem_filter.mp member
    obtain ⟨k, -, rfl⟩ := List.mem_map.mp behind
    have ends := of_decide_eq_true (Bool.and_eq_true_iff.mp fits).1
    omega

theorem findXrefs_SEH_eq (address : Uintptr) :
    image.findXrefs_SEH address = image.resolveXrefs_SEH.filter (image.loads address) := by
  unfold findXrefs_SEH resolveXrefs_SEH loads
  rw [List.filter_filter]
  exact List.filter_congr fun i _ => Bool.and_comm _ _

/-- Each instruction that loads the address has its place in the buffer, and a byte behind it. -/
def Recorded (address : Uintptr) : Prop :=
  ∀ k i, image.leas[k]? = some i → image.leaTarget i = address →
    k < image.leaRoom ∧ i + 7 < image.text.size

/-- The hits in the buffer. -/
def recorded : List Nat := image.resolveXrefs_SEH.take image.leaRoom

theorem recorded_sublist : image.recorded.Sublist image.leas := by
  obtain ⟨last, whole, -⟩ := image.leas_eq
  rw [whole]
  exact (List.take_sublist _ _).trans (List.sublist_append_left _ _)

/-- **The buffer has the references to an address** exactly if they are recorded. -/
theorem recorded_iff (address : Uintptr) :
    image.Recorded address
      ↔ image.recorded.filter (image.loads address) = image.leas.filter (image.loads address) := by
  obtain ⟨last, whole, early, late⟩ := image.leas_eq
  have split : image.leas = image.recorded ++ (image.resolveXrefs_SEH.drop image.leaRoom ++ last) := by
    unfold recorded
    rw [← List.append_assoc, List.take_append_drop, whole]
  have missed (i : Nat) : i ∈ image.resolveXrefs_SEH.drop image.leaRoom ++ last
      ↔ ∃ k, image.leas[k]? = some i ∧ ¬ (k < image.leaRoom ∧ i + 7 < image.text.size) := by
    rw [List.mem_append]
    constructor
    · rintro (behind | at_)
      · obtain ⟨k, found⟩ := List.mem_iff_getElem?.mp behind
        rw [List.getElem?_drop] at found
        have inside := (List.getElem?_eq_some_iff.mp found).1
        refine ⟨image.leaRoom + k, ?_, fun both => by omega⟩
        rw [whole, List.getElem?_append_left inside, found]
      · obtain ⟨k, found⟩ := List.mem_iff_getElem?.mp at_
        refine ⟨image.resolveXrefs_SEH.length + k, ?_, fun both => ?_⟩
        · rw [whole, List.getElem?_append_right (Nat.le_add_right _ _), Nat.add_sub_cancel_left, found]
        · have ends := late i at_
          omega
    · rintro ⟨k, found, out⟩
      rw [whole] at found
      rcases Nat.lt_or_ge k image.resolveXrefs_SEH.length with inside | behind
      · rw [List.getElem?_append_left inside] at found
        have before := early i (List.mem_of_getElem? found)
        refine .inl (List.mem_iff_getElem?.mpr ⟨k - image.leaRoom, ?_⟩)
        have room : image.leaRoom ≤ k := by
          by_contra less
          exact out ⟨by omega, before⟩
        rw [List.getElem?_drop, Nat.add_sub_cancel' room, found]
      · rw [List.getElem?_append_right behind] at found
        exact .inr (List.mem_of_getElem? found)
  rw [split, List.filter_append, List.self_eq_append_right, List.filter_eq_nil_iff]
  constructor
  · intro all i member loaded
    obtain ⟨k, found, out⟩ := (missed i).mp member
    exact out (all k i found (eq_of_beq loaded))
  · intro none k i found same
    by_contra out
    exact none i ((missed i).mpr ⟨k, found, out⟩) (beq_iff_eq.mpr same)

/-- Then the scan has them, too. -/
theorem scanned_of_recorded {address : Uintptr} (all : image.Recorded address) :
    image.resolveXrefs_SEH.filter (image.loads address) = image.leas.filter (image.loads address) := by
  obtain ⟨last, whole, -, late⟩ := image.leas_eq
  rw [whole, List.filter_append, List.self_eq_append_right, List.filter_eq_nil_iff]
  intro i member loaded
  obtain ⟨k, found⟩ := List.mem_iff_getElem?.mp (show i ∈ image.leas from whole ▸ List.mem_append_right _ member)
  have inside := (all k i found (eq_of_beq loaded)).2
  have ends := late i member
  omega

/-! ### Exact tables -/

/-- Every entry has exactly its references, in order, and they are found and counted. -/
structure Exact (state : State) : Prop where
  referred : ∀ gs ∈ state.strings, gs.xrefs.map XRef.codeAddress = image.references gs.address
  found : ∀ gs ∈ state.strings, image.findXrefs gs.address = gs.xrefs
  counted : state.totalXrefs = xrefCount state.strings

/-- The table has no references yet, none is made to an address that two entries have, and all of them
are recorded and few. -/
structure Fits (state : State) : Prop where
  unresolved : ∀ gs ∈ state.strings, gs.xrefs = []
  reset : state.strings = [] ∨ image.text.size = 0 → state.totalXrefs = 0
  once : state.strings.Pairwise fun one two =>
    one.address = two.address → image.references one.address = []
  recorded : ∀ gs ∈ state.strings, image.Recorded gs.address
  few : ∀ gs ∈ state.strings, (image.references gs.address).length ≤ kMaxXrefs

theorem findXrefs_eq (address : Uintptr) :
    image.findXrefs address
      = ((image.resolveXrefs_SEH.filter (image.loads address)).take kMaxXrefs).map
          fun i => image.xrefAt (image.instrAddr i) := by
  unfold findXrefs
  rw [image.findXrefs_SEH_eq]
  split_ifs with none
  · have empty : image.resolveXrefs_SEH = [] := by
      unfold resolveXrefs_SEH
      rw [no_section none]
      rfl
    rw [empty]
    rfl
  · rfl

theorem references_none (none : image.text.size = 0) (address : Uintptr) : image.references address = [] := by
  unfold references leas
  rw [none]
  rfl

/-- Where the call returns at once. -/
theorem exact_iff_of_early {state : State} (early : state.strings = [] ∨ image.text.size = 0) :
    image.Exact state ↔ image.Fits state := by
  rcases early with none | none
  · have vacuous {P : TableString → Prop} : ∀ gs ∈ state.strings, P gs := fun gs member => by
      rw [none] at member
      exact absurd member List.not_mem_nil
    have zero : xrefCount state.strings = 0 := xrefCount_eq_zero.mpr vacuous
    constructor
    · intro exact
      refine ⟨vacuous, fun _ => exact.counted.trans zero, ?_, vacuous, vacuous⟩
      rw [none]
      exact .nil
    · exact fun fits => ⟨vacuous, vacuous, (fits.reset (.inl none)).trans zero.symm⟩
  · have nothing := image.references_none none
    have nowhere : image.leas = [] := by
      unfold leas
      rw [none]
      rfl
    constructor
    · intro exact
      have unresolved : ∀ gs ∈ state.strings, gs.xrefs = [] := fun gs member =>
        List.map_eq_nil_iff.mp ((exact.referred gs member).trans (nothing _))
      refine ⟨unresolved, fun _ => exact.counted.trans (xrefCount_eq_zero.mpr unresolved), ?_, ?_, ?_⟩
      · exact List.pairwise_of_forall fun _ _ _ => nothing _
      · intro gs _ k i found
        rw [nowhere] at found
        exact absurd found.symm (Option.some_ne_none i)
      · intro gs _
        rw [nothing]
        exact Nat.zero_le _
    · intro fits
      refine ⟨fun gs member => ?_, fun gs member => ?_, ?_⟩
      · rw [fits.unresolved gs member, nothing]
        rfl
      · rw [fits.unresolved gs member]
        exact if_pos (.inr none)
      · exact (fits.reset (.inr none)).trans (xrefCount_eq_zero.mpr fits.unresolved).symm

/-! ### A whole call -/

section Resolve

variable {image} {state : State}

/-- What an entry gets. -/
def hitsOf (image : Image) (state : State) (j : Nat) : List Nat :=
  image.recorded.filter (image.goesTo (stringAddrIndex state.strings) j)

variable {gs : TableString}

/-- The entry in the index gets the hits that load its address. -/
theorem hitsOf_last {j : Nat} (last : (stringAddrIndex state.strings).lookup gs.address = some j)
    (here : state.strings[j]? = some gs) :
    image.hitsOf state j = image.recorded.filter (image.loads gs.address) := by
  refine List.filter_congr fun i _ => ?_
  unfold goesTo loads
  rw [Bool.eq_iff_iff, decide_eq_true_iff, beq_iff_eq]
  constructor
  · intro found
    obtain ⟨⟨other, there, same⟩, -⟩ := (lookup_stringAddrIndex _ _ _).mp found
    have equal : gs = other := Option.some.inj (here.symm.trans there)
    rw [equal, same]
  · intro same
    rw [same, last]

/-- An entry in front of another one at its address gets none. -/
theorem hitsOf_shadowed {j : Nat} (shadowed : (stringAddrIndex state.strings).lookup gs.address ≠ some j)
    (here : state.strings[j]? = some gs) : image.hitsOf state j = [] := by
  refine List.filter_eq_nil_iff.mpr fun i _ goes => shadowed ?_
  have found := of_decide_eq_true goes
  obtain ⟨⟨other, there, same⟩, -⟩ := (lookup_stringAddrIndex _ _ _).mp found
  have equal : gs = other := Option.some.inj (here.symm.trans there)
  rw [equal, same, found]

theorem shadowed_iff {j : Nat} (here : state.strings[j]? = some gs) :
    (stringAddrIndex state.strings).lookup gs.address ≠ some j
      ↔ ∃ k other, j < k ∧ state.strings[k]? = some other ∧ other.address = gs.address := by
  rw [Ne, lookup_stringAddrIndex, and_iff_right ⟨gs, here, rfl⟩]
  push Not
  rfl

/-- No references are made to an address that two entries have. -/
theorem once_iff :
    (state.strings.Pairwise fun one two =>
        one.address = two.address → image.references one.address = [])
      ↔ ∀ j gs, state.strings[j]? = some gs →
        (stringAddrIndex state.strings).lookup gs.address ≠ some j →
        image.references gs.address = [] := by
  rw [List.pairwise_iff_getElem]
  constructor
  · intro once j gs here shadowed
    obtain ⟨k, other, behind, there, same⟩ := (shadowed_iff here).mp shadowed
    obtain ⟨inside, rfl⟩ := List.getElem?_eq_some_iff.mp here
    obtain ⟨within, rfl⟩ := List.getElem?_eq_some_iff.mp there
    exact once j k inside within behind same.symm
  · intro none j k inside within behind same
    refine none j _ (List.getElem?_eq_getElem inside) ?_
    exact (shadowed_iff (List.getElem?_eq_getElem inside)).mpr
      ⟨k, _, behind, List.getElem?_eq_getElem within, same.symm⟩

/-- One entry, which had no references, is exact. -/
theorem entry_exact_iff {j : Nat} (here : state.strings[j]? = some gs) (unresolved : gs.xrefs = []) :
    ((image.referredBy gs (image.hitsOf state j)).xrefs.map XRef.codeAddress = image.references gs.address
        ∧ image.findXrefs gs.address = (image.referredBy gs (image.hitsOf state j)).xrefs)
      ↔ ((stringAddrIndex state.strings).lookup gs.address ≠ some j → image.references gs.address = [])
        ∧ image.Recorded gs.address ∧ (image.references gs.address).length ≤ kMaxXrefs := by
  have xrefs : (image.referredBy gs (image.hitsOf state j)).xrefs
      = (image.hitsOf state j).map fun i => image.xrefAt (image.instrAddr i) := by
    show gs.xrefs ++ _ = _
    rw [unresolved, List.nil_append]
  have codes : ((image.hitsOf state j).map fun i => image.xrefAt (image.instrAddr i)).map
      XRef.codeAddress = (image.hitsOf state j).map image.instrAddr := by
    rw [List.map_map]
    rfl
  rw [xrefs, codes, image.findXrefs_eq]
  have empty : image.references gs.address = []
      ↔ image.leas.filter (image.loads gs.address) = [] := List.map_eq_nil_iff
  by_cases last : (stringAddrIndex state.strings).lookup gs.address = some j
  · rw [hitsOf_last last here]
    constructor
    · rintro ⟨referred, found⟩
      have lengths := congrArg List.length referred
      have kept := congrArg List.length found
      unfold references at lengths ⊢
      rw [List.length_map, List.length_map] at lengths
      rw [List.length_map, List.length_map, List.length_take] at kept
      refine ⟨fun shadowed => absurd last shadowed, (image.recorded_iff _).mpr ?_, ?_⟩
      · exact (image.recorded_sublist.filter _).eq_of_length lengths
      · rw [List.length_map, ← lengths, ← kept]
        exact min_le_left _ _
    · rintro ⟨-, all, few⟩
      rw [scanned_of_recorded image all, (image.recorded_iff _).mp all]
      refine ⟨rfl, ?_⟩
      unfold references at few
      rw [List.length_map] at few
      rw [List.take_of_length_le few]
  · rw [hitsOf_shadowed last here]
    constructor
    · rintro ⟨referred, found⟩
      have none : image.references gs.address = [] := referred.symm
      refine ⟨fun _ => none, fun k i at_ same => ?_, ?_⟩
      · have member : i ∈ image.leas.filter (image.loads gs.address) :=
          List.mem_filter.mpr ⟨List.mem_of_getElem? at_, beq_iff_eq.mpr same⟩
        rw [empty.mp none] at member
        exact absurd member List.not_mem_nil
      · rw [none]
        exact Nat.zero_le _
    · rintro ⟨none, all, -⟩
      refine ⟨(none last).symm, ?_⟩
      rw [scanned_of_recorded image all, empty.mp (none last)]
      rfl

variable (runs : ¬ (state.strings = [] ∨ image.text.base = 0 ∨ image.text.size = 0))

include runs

theorem resolve_getElem? (j : Nat) : (image.resolveXrefs state).1.strings[j]?
      = state.strings[j]?.map fun gs => image.referredBy gs (image.hitsOf state j) := by
  unfold resolveXrefs
  rw [if_neg runs]
  exact image.foldl_recordHit _ _ _ j

theorem resolve_count :
    xrefCount (image.resolveXrefs state).1.strings
      = xrefCount state.strings + (image.resolveXrefs state).1.totalXrefs := by
  unfold resolveXrefs
  rw [if_neg runs]
  have inside : ∀ address j, (stringAddrIndex state.strings).lookup address = some j →
      j < state.strings.length := fun address j found => by
    obtain ⟨⟨gs, here, -⟩, -⟩ := (lookup_stringAddrIndex _ _ _).mp found
    exact (List.getElem?_eq_some_iff.mp here).1
  exact @foldl_recordHit_count image _ _ ⟨state.strings, 0⟩ inside

end Resolve

/-- **After a call** the table is exact exactly if it was fit for it. -/
theorem resolve_exact_iff (state : State) : image.Exact (image.resolveXrefs state).1 ↔ image.Fits state := by
  by_cases runs : state.strings = [] ∨ image.text.base = 0 ∨ image.text.size = 0
  · have same : (image.resolveXrefs state).1 = state := congrArg Prod.fst (if_pos runs)
    rw [same]
    exact image.exact_iff_of_early (runs.imp_right no_section)
  have counted : (image.resolveXrefs state).1.totalXrefs = xrefCount (image.resolveXrefs state).1.strings
      ↔ ∀ gs ∈ state.strings, gs.xrefs = [] := by
    rw [resolve_count runs, ← xrefCount_eq_zero]
    omega
  have entries (P : TableString → Prop) : (∀ gs ∈ (image.resolveXrefs state).1.strings, P gs)
      ↔ ∀ j gs, state.strings[j]? = some gs → P (image.referredBy gs (image.hitsOf state j)) := by
    constructor
    · intro all j gs here
      refine all _ (List.mem_of_getElem? (i := j) ?_)
      rw [resolve_getElem? runs, here, Option.map_some]
    · intro all other member
      obtain ⟨j, found⟩ := List.mem_iff_getElem?.mp member
      rw [resolve_getElem? runs] at found
      obtain ⟨gs, here, rfl⟩ := Option.map_eq_some_iff.mp found
      exact all j gs here
  constructor
  · intro exact
    have unresolved := counted.mp exact.counted
    have each (j : Nat) (gs : TableString) (here : state.strings[j]? = some gs) :=
      (entry_exact_iff here (unresolved gs (List.mem_of_getElem? here))).mp
        ⟨(entries _).mp exact.referred j gs here, (entries _).mp exact.found j gs here⟩
    refine ⟨unresolved, fun early => ?_, once_iff.mpr fun j gs here => (each j gs here).1, ?_, ?_⟩
    · exact absurd (early.imp_right .inr) runs
    · intro gs member
      obtain ⟨j, here⟩ := List.mem_iff_getElem?.mp member
      exact (each j gs here).2.1
    · intro gs member
      obtain ⟨j, here⟩ := List.mem_iff_getElem?.mp member
      exact (each j gs here).2.2
  · intro fits
    have each (j : Nat) (gs : TableString) (here : state.strings[j]? = some gs) :=
      (entry_exact_iff here (fits.unresolved gs (List.mem_of_getElem? here))).mpr
        ⟨once_iff.mp fits.once j gs here, fits.recorded gs (List.mem_of_getElem? here),
          fits.few gs (List.mem_of_getElem? here)⟩
    exact ⟨(entries _).mpr fun j gs here => (each j gs here).1,
      (entries _).mpr fun j gs here => (each j gs here).2, counted.mpr fits.unresolved⟩

/-- **In a run**, every call leaves an exact table exactly if each one meets a table that is fit for it. -/
theorem resolves_exact_iff (calls : List Call) :
    image.machine.Along (fun state call => call = .resolveXrefs → image.Exact (image.machine.next state call))
        {} calls
      ↔ image.machine.Along (fun state call => call = .resolveXrefs → image.Fits state) {} calls := by
  have same (state : State) (call : Call) :
      (call = .resolveXrefs → image.Exact (image.machine.next state call))
        ↔ (call = .resolveXrefs → image.Fits state) := by
    refine imp_congr_right fun resolves => ?_
    subst resolves
    exact image.resolve_exact_iff state
  exact ⟨Machine.Along.mono fun state call => (same state call).mp,
    Machine.Along.mono fun state call => (same state call).mpr⟩

/-! ### An instruction at the end of the section -/

/-- One instruction, which loads the address behind it, and a letter there. -/
def lastLoad : Image where
  memory := fun address => [0x48, 0x8D, 0x05, 0, 0, 0, 0, 0x41].getD (address - 0x1000) 0
  text := ⟨0x1000, 7, fun zero => absurd zero (by decide), by decide⟩
  rdata := ⟨0x1007, 2, fun zero => absurd zero (by decide), by decide⟩

/-- The letter is found, but not the reference to it. -/
theorem resolve_misses :
    lastLoad.references 0x1007 = [0x1000]
      ∧ ((lastLoad.machine.run {} [.scanStrings 1, .resolveXrefs]).strings.map fun gs =>
          (gs.address, gs.xrefs.map XRef.codeAddress)) = [(0x1007, [])]
      ∧ (lastLoad.findXrefs 0x1007).map XRef.codeAddress = []
      ∧ ¬ lastLoad.Exact (lastLoad.machine.run {} [.scanStrings 1, .resolveXrefs]) := by
  have referred : lastLoad.references 0x1007 = [0x1000] := by decide +kernel
  have table : ((lastLoad.machine.run {} [.scanStrings 1, .resolveXrefs]).strings.map fun gs =>
      (gs.address, gs.xrefs.map XRef.codeAddress)) = [(0x1007, [])] := by decide +kernel
  refine ⟨referred, table, by decide +kernel, fun exact => ?_⟩
  have member : ((0x1007 : Uintptr), ([] : List Uintptr)) ∈ (lastLoad.machine.run {}
      [.scanStrings 1, .resolveXrefs]).strings.map fun gs => (gs.address, gs.xrefs.map XRef.codeAddress) := by
    rw [table]
    exact List.mem_singleton_self _
  obtain ⟨gs, inside, same⟩ := List.mem_map.mp member
  obtain ⟨address, xrefs⟩ := Prod.mk.inj same
  have all := exact.referred gs inside
  rw [address, xrefs, referred] at all
  exact absurd all (List.cons_ne_nil _ _).symm

end Image

end StringTable

end KenshiMP
