/-
**Strings: the hits of a scan are the strings of the section.**

A string of a section is a maximal run of printable units that is long enough, with a zero behind it
that lies in the section.

* `scanUnits_mem`, `scanUnits_sorted`: the loop yields the strings, from the lowest to the highest;
* `scanUnits_length`: each hit takes the units of the string and the zero, so that the buffer has room
  for all of them;
* `scans_exact`: after any calls, a scan for strings makes them the table, and a scan for wide strings
  appends them to it, with an entry for each that says where it is and what its units are.
-/

import KenshiMP.Scanner.StringTable

namespace KenshiMP

namespace StringTable

/-! ### Strings of a section -/

section Units

variable {data : Nat → Nat} {size minLength : Nat}

structure IsString (data : Nat → Nat) (size minLength : Nat) (hit : RawStringHit) : Prop where
  run : Runs.Maximal (Printable data) hit.offsetInSection hit.length
  long : max 1 minLength ≤ hit.length
  inside : hit.offsetInSection + hit.length < size
  zero : data (hit.offsetInSection + hit.length) = 0

/-- The strings of a section, in order. -/
structure Finds (data : Nat → Nat) (size minLength : Nat) (hits : List RawStringHit) : Prop where
  ascending : hits.Pairwise fun one two => one.offsetInSection < two.offsetInSection
  exact : ∀ hit, hit ∈ hits ↔ IsString data size minLength hit

/-- What the inner loop has measured. -/
structure Measured (data : Nat → Nat) (size i stop : Nat) : Prop where
  after : i < stop
  below : stop ≤ size
  holds : ∀ k, i ≤ k → k < stop → Printable data k
  fails : stop < size → ¬ Printable data stop

theorem measured {i : Nat} (inside : i < size) (printable : Printable data i) :
    Measured data size i (Runs.runEnd (Printable data) (size - i) i) := by
  have above := Runs.le_runEnd (Printable data) (size - i) i
  have below := Runs.runEnd_le (Printable data) (size - i) i
  have bound : i + (size - i) = size := by omega
  have fails (before : Runs.runEnd (Printable data) (size - i) i < size) :
      ¬ Printable data (Runs.runEnd (Printable data) (size - i) i) :=
    Runs.runEnd_fails _ (bound.symm ▸ before)
  refine ⟨?_, le_of_le_of_eq below bound, Runs.runEnd_holds _ _ _, fails⟩
  rcases Nat.eq_or_lt_of_le above with same | after
  · rw [← same] at fails
    exact absurd printable (fails inside)
  · exact after

section First

variable {i stop : Nat} (run : Measured data size i stop) (first : i = 0 ∨ ¬ Printable data (i - 1))

include run first

/-- The run that has been measured is a maximal one, if it ends in the section. -/
theorem Measured.maximal (ends : stop < size) : Runs.Maximal (Printable data) i (stop - i) := by
  have after := run.after
  refine ⟨by omega, fun k small => run.holds _ (Nat.le_add_right i k) (by omega), first, ?_⟩
  rw [Nat.add_sub_cancel' (le_of_lt after)]
  exact run.fails ends

/-- From the start of a run on, the strings are the run itself and those behind it. -/
theorem Measured.isString_iff (hit : RawStringHit) :
    i ≤ hit.offsetInSection ∧ IsString data size minLength hit
      ↔ (hit = ⟨i, stop - i⟩ ∧ minLength ≤ stop - i ∧ stop < size ∧ data stop = 0)
        ∨ stop + 1 ≤ hit.offsetInSection ∧ IsString data size minLength hit := by
  have after := run.after
  have ends : i + (stop - i) = stop := Nat.add_sub_cancel' (le_of_lt after)
  constructor
  · rintro ⟨above, string⟩
    have inside := string.inside
    rcases string.run.behind run.holds above with same | behind
    · have stops : stop < size := by
        by_contra reaches
        have below := run.below
        exact string.run.last (run.holds _ (by omega) (by omega))
      have whole := (run.maximal first stops).length_eq (same ▸ string.run)
      obtain ⟨offset, length⟩ := hit
      have here : offset = i := same
      subst here
      have long : stop - offset = length := whole
      subst long
      have zero := string.zero
      rw [ends] at zero
      exact .inl ⟨rfl, le_trans (le_max_right 1 _) string.long, stops, zero⟩
    · refine .inr ⟨?_, string⟩
      rcases Nat.eq_or_lt_of_le behind with at_ | later
      · have some := string.run.some
        have printable := string.run.holds 0 some
        rw [Nat.add_zero, ← at_] at printable
        exact absurd printable (run.fails (by omega))
      · exact later
  · rintro (⟨rfl, long, stops, zero⟩ | ⟨behind, string⟩)
    · refine ⟨le_rfl, run.maximal first stops, max_le (by show 1 ≤ stop - i; omega) long, ?_, ?_⟩
      · show i + (stop - i) < size
        rwa [ends]
      · show data (i + (stop - i)) = 0
        rwa [ends]
    · exact ⟨by omega, string⟩

end First

/-- **The rule of the scan**, by the branches of an iteration. -/
theorem scan_rule {motive : Nat → List RawStringHit → Prop} (done : ∀ i, ¬ i < size → motive i [])
    (skip : ∀ i hits, i < size → ¬ Printable data i → motive (i + 1) hits → motive i hits)
    (found : ∀ i stop hits, Measured data size i stop →
      minLength ≤ stop - i ∧ stop < size ∧ data stop = 0 →
      motive (stop + 1) hits → motive i (⟨i, stop - i⟩ :: hits))
    (missed : ∀ i stop hits, Measured data size i stop →
      ¬ (minLength ≤ stop - i ∧ stop < size ∧ data stop = 0) → motive (stop + 1) hits → motive i hits)
    (i : Nat) : motive i (scanUnits data size minLength i) := by
  fun_induction scanUnits data size minLength i with
  | case1 i inside skipped ih => exact skip i _ inside skipped ih
  | case2 i inside printable stop len hit ih =>
    exact found i stop _ (measured inside (not_not.mp printable)) hit ih
  | case3 i inside printable stop len none ih =>
    exact missed i stop _ (measured inside (not_not.mp printable)) none ih
  | case4 i behind => exact done i behind

/-- **The hits from a position on** are the strings that start there or behind it. -/
theorem scanUnits_mem (i : Nat) (first : i < size → i = 0 ∨ ¬ Printable data (i - 1))
    (hit : RawStringHit) :
    hit ∈ scanUnits data size minLength i ↔ i ≤ hit.offsetInSection ∧ IsString data size minLength hit := by
  refine scan_rule (motive := fun i hits => (i < size → i = 0 ∨ ¬ Printable data (i - 1)) →
    (hit ∈ hits ↔ i ≤ hit.offsetInSection ∧ IsString data size minLength hit)) ?done ?skip ?found
    ?missed i first
  case done =>
    intro i behind _
    refine iff_of_false List.not_mem_nil fun both => behind ?_
    have within := both.2.inside
    omega
  case skip =>
    intro i hits inside skipped ih _
    rw [ih fun _ => .inr skipped]
    refine and_congr_left fun string => ⟨Nat.le_of_succ_le, fun above => ?_⟩
    rcases Nat.eq_or_lt_of_le above with same | later
    · have here := string.run.holds 0 string.run.some
      rw [Nat.add_zero, ← same] at here
      exact absurd here skipped
    · exact later
  case found =>
    intro i stop hits run recorded ih first
    have after := run.after
    have below := run.below
    rw [List.mem_cons, ih fun within => .inr (run.fails (Nat.lt_of_succ_lt within)),
      run.isString_iff (first (by omega)), and_iff_left recorded]
  case missed =>
    intro i stop hits run none ih first
    have after := run.after
    have below := run.below
    rw [ih fun within => .inr (run.fails (Nat.lt_of_succ_lt within)),
      run.isString_iff (first (by omega)), or_iff_right fun here => none here.2]

/-- **The hits ascend.** -/
theorem scanUnits_sorted (i : Nat) :
    (∀ hit ∈ scanUnits data size minLength i, i ≤ hit.offsetInSection)
      ∧ (scanUnits data size minLength i).Pairwise fun one two =>
        one.offsetInSection < two.offsetInSection := by
  refine scan_rule (motive := fun i hits => (∀ hit ∈ hits, i ≤ hit.offsetInSection)
    ∧ hits.Pairwise fun one two => one.offsetInSection < two.offsetInSection) ?done ?skip ?found
    ?missed i
  case done => exact fun i _ => ⟨fun hit member => absurd member List.not_mem_nil, .nil⟩
  case skip => exact fun i hits _ _ ih => ⟨fun hit member => Nat.le_of_succ_le (ih.1 hit member), ih.2⟩
  case found =>
    intro i stop hits run _ ih
    have after := run.after
    have behind (hit : RawStringHit) (member : hit ∈ hits) : i < hit.offsetInSection :=
      lt_of_lt_of_le after (Nat.le_of_succ_le (ih.1 hit member))
    refine ⟨List.forall_mem_cons.mpr ⟨le_rfl, fun hit member => le_of_lt (behind hit member)⟩, ?_⟩
    exact List.pairwise_cons.mpr ⟨behind, ih.2⟩
  case missed =>
    intro i stop hits run _ ih
    exact ⟨fun hit member => le_trans (le_of_lt run.after) (Nat.le_of_succ_le (ih.1 hit member)), ih.2⟩

/-- **The hits take their units and a zero each.** -/
theorem scanUnits_length (i : Nat) :
    (scanUnits data size minLength i).length * (minLength + 1) ≤ size - i := by
  refine scan_rule (motive := fun i hits => hits.length * (minLength + 1) ≤ size - i) ?done ?skip
    ?found ?missed i
  case done => exact fun i _ => (Nat.zero_mul _).symm ▸ Nat.zero_le _
  case skip => exact fun i hits _ _ ih => le_trans ih (Nat.sub_le_sub_left (Nat.le_succ i) size)
  case found =>
    rintro i stop hits run ⟨long, stops, -⟩ ih
    have after := run.after
    rw [List.length_cons, Nat.succ_mul]
    omega
  case missed =>
    intro i stop hits run _ ih
    have after := run.after
    omega

theorem scanUnits_finds : Finds data size minLength (scanUnits data size minLength 0) where
  ascending := (scanUnits_sorted 0).2
  exact hit := by
    rw [scanUnits_mem 0 (fun _ => .inl rfl), and_iff_right (Nat.zero_le _)]

end Units

/-! ### The buffer -/

theorem sizeT_toNat {minLength : Int32} (natural : 0 ≤ minLength) :
    sizeT minLength = minLength.toNatClampNeg ∧ minLength.toNatClampNeg < 2 ^ 31 :=
  extended_of_nonneg fun negative => absurd natural (Int32.not_le.mpr negative)

/-- **The buffer has room** for the hits of a scan. -/
theorem take_hitRoom {data : Nat → Nat} {size : Nat} {minLength : Int32} (natural : 0 ≤ minLength)
    (few : size / (minLength.toNatClampNeg + 1) < 2 ^ 20) :
    (scanUnits data size (sizeT minLength) 0).take (hitRoom size minLength)
      = scanUnits data size minLength.toNatClampNeg 0 := by
  obtain ⟨same, small⟩ := sizeT_toNat natural
  have taken : (scanUnits data size minLength.toNatClampNeg 0).length * (minLength.toNatClampNeg + 1)
      ≤ size - 0 := scanUnits_length 0
  have room : hitRoom size minLength = size / (minLength.toNatClampNeg + 1) + 1 := by
    have wrap : (minLength.toNatClampNeg + 1) % 2 ^ 64 = minLength.toNatClampNeg + 1 :=
      Nat.mod_eq_of_lt (by omega)
    unfold hitRoom kMaxHits
    rw [same, wrap]
    exact min_eq_left (Nat.succ_le_of_lt few)
  rw [room, same]
  refine List.take_of_length_le (Nat.le_succ_of_le ?_)
  exact (Nat.le_div_iff_mul_le (Nat.succ_pos _)).mpr taken

/-! ### Entries -/

/-- A place in a section has the address of the section and the distance to it. -/
theorem ImageSection.toNat_address (area : ImageSection) {k : Nat} (below : k < area.size) :
    (area.base + UInt64.ofNat k).toNat = area.base.toNat + k := by
  have whole := area.inside
  have small : k < 2 ^ 64 := by omega
  rw [UInt64.toNat_add, UInt64.toNat_ofNat_of_lt' small]
  exact Nat.mod_eq_of_lt (by omega)

namespace Image

variable (image : Image)

/-- An entry says what stands in the section: where the string is, how long it is, its units one by one,
and of which kind they are. -/
structure Shows (data : Nat → Nat) (width : Nat) (isWide : Bool) (hit : RawStringHit)
    (entry : TableString) : Prop where
  address : entry.address.toNat = image.rdata.base.toNat + width * hit.offsetInSection
  length : entry.length = hit.length
  value : entry.value.map UInt8.toNat
    = (List.range hit.length).map fun k => data (hit.offsetInSection + k)
  isWide : entry.isWide = isWide
  xrefs : entry.xrefs = []

theorem narrowString_shows {minLength : Nat} {hit : RawStringHit}
    (string : IsString image.rdataByte image.rdata.size minLength hit) :
    image.Shows image.rdataByte 1 false hit (image.narrowString hit) where
  address := by
    have inside := string.inside
    rw [Nat.one_mul]
    exact image.rdata.toNat_address (by omega)
  length := rfl
  value := by
    unfold narrowString
    rw [List.map_map]
    exact List.map_congr_left fun k _ => UInt8.toNat_ofNat_of_lt' (UInt8.toNat_lt _)
  isWide := rfl
  xrefs := rfl

/-- The low byte of a printable unit is the unit. -/
theorem wideString_shows {minLength : Nat} {hit : RawStringHit}
    (string : IsString image.rdataUnit (image.rdata.size / 2) minLength hit) :
    image.Shows image.rdataUnit 2 true hit (image.wideString hit) where
  address := by
    have inside := string.inside
    rw [Nat.mul_comm]
    exact image.rdata.toNat_address (by omega)
  length := rfl
  value := by
    unfold wideString
    rw [List.map_map]
    refine List.map_congr_left fun k inside => ?_
    have printable := (string.run.holds k (List.mem_range.mp inside)).2
    have low : image.rdataUnit (hit.offsetInSection + k) &&& 0xFF
        = image.rdataUnit (hit.offsetInSection + k) := by
      rw [Nat.and_two_pow_sub_one_eq_mod _ 8, Nat.mod_eq_of_lt (by omega)]
    show (UInt8.ofNat (_ &&& 0xFF)).toNat = _
    rw [low, UInt8.toNat_ofNat_of_lt' (by change _ < 256; omega)]
  isWide := rfl
  xrefs := rfl

section Entries

variable {data : Nat → Nat} {size minLength width : Nat} {isWide : Bool} {entry : RawStringHit → TableString}
  {hits : List RawStringHit} (finds : Finds data size minLength hits)
  (shows : ∀ hit, IsString data size minLength hit → image.Shows data width isWide hit (entry hit))

include finds shows

theorem forall₂_shows : List.Forall₂ (image.Shows data width isWide) hits (hits.map entry) :=
  List.forall₂_map_right_iff.mpr (List.forall₂_same.mpr fun hit member => shows hit ((finds.exact hit).mp member))

theorem entries_ascending (wide : 0 < width) :
    (hits.map entry).Pairwise fun one two => one.address < two.address := by
  refine List.pairwise_map.mpr (finds.ascending.imp_of_mem fun one two less => ?_)
  rw [UInt64.lt_iff_toNat_lt, (shows _ ((finds.exact _).mp one)).address,
    (shows _ ((finds.exact _).mp two)).address]
  exact Nat.add_lt_add_left (Nat.mul_lt_mul_of_pos_left less wide) _

end Entries

/-! ### The table -/

/-- Without a section, there are no strings. -/
theorem finds_empty {data : Nat → Nat} {size minLength : Nat} (none : size = 0) :
    Finds data size minLength [] := by
  refine ⟨.nil, fun hit => iff_of_false List.not_mem_nil fun string => ?_⟩
  have inside := string.inside
  omega

theorem no_section {area : ImageSection} (none : area.base = 0 ∨ area.size = 0) : area.size = 0 :=
  none.elim area.placed id

/-- Without a section, the table stays empty. -/
theorem table_empty (none : image.rdata.size = 0) (calls : List Call) :
    (image.machine.run {} calls).strings = [] := by
  refine Machine.run_invariant_always (motive := fun state : State => state.strings = [])
    (fun state call empty => ?_) rfl calls
  cases call with
  | scanStrings minLength =>
    show (image.scanStrings minLength state).1.strings = []
    unfold scanStrings
    rw [if_pos (.inr none)]
    exact empty
  | scanWideStrings minLength =>
    show (image.scanWideStrings minLength state).1.strings = []
    unfold scanWideStrings
    rw [if_pos (.inr none)]
    exact empty
  | resolveXrefs =>
    show (image.resolveXrefs state).1.strings = []
    unfold resolveXrefs
    rw [if_pos (.inl empty)]
    exact empty

section Few

variable {minLength : Int32} (natural : 0 ≤ minLength)
  (few : image.rdata.size / (minLength.toNatClampNeg + 1) < 2 ^ 20)

include natural few

/-- **A scan for strings** makes the strings of the section the table. -/
theorem scanStrings_finds {state : State} (fresh : image.rdata.size = 0 → state.strings = []) :
    ∃ hits, Finds image.rdataByte image.rdata.size minLength.toNatClampNeg hits
      ∧ (image.scanStrings minLength state).1.strings = hits.map image.narrowString
      ∧ (image.scanStrings minLength state).2 = hits.length := by
  unfold scanStrings
  split_ifs with none
  · have empty := no_section none
    exact ⟨[], finds_empty empty, fresh empty, rfl⟩
  · refine ⟨_, scanUnits_finds, ?_, ?_⟩
    · exact congrArg _ (take_hitRoom natural few)
    · exact congrArg _ (take_hitRoom natural few)

/-- **A scan for wide strings** appends those of the section. -/
theorem scanWideStrings_finds (state : State) :
    ∃ hits, Finds image.rdataUnit (image.rdata.size / 2) minLength.toNatClampNeg hits
      ∧ (image.scanWideStrings minLength state).1.strings = state.strings ++ hits.map image.wideString
      ∧ (image.scanWideStrings minLength state).2 = hits.length := by
  have fewer : image.rdata.size / 2 / (minLength.toNatClampNeg + 1) < 2 ^ 20 :=
    lt_of_le_of_lt (Nat.div_le_div_right (Nat.div_le_self _ 2)) few
  unfold scanWideStrings
  split_ifs with none
  · have empty : image.rdata.size / 2 = 0 := by rw [no_section none]
    exact ⟨[], finds_empty empty, (List.append_nil _).symm, rfl⟩
  · refine ⟨_, scanUnits_finds, ?_, ?_⟩
    · exact congrArg (fun hits => state.strings ++ hits.map image.wideString) (take_hitRoom natural fewer)
    · exact congrArg _ (take_hitRoom natural fewer)

end Few

/-- **After any calls**, the scans find exactly the strings of the section, in the order of their
addresses, and report how many there are. The first one leaves an entry for each of them, and the other one
appends an entry for each wide one. -/
theorem scans_exact (calls : List Call) (minLength : Int32) (natural : 0 ≤ minLength)
    (few : image.rdata.size / (minLength.toNatClampNeg + 1) < 2 ^ 20) :
    (∃ hits, Finds image.rdataByte image.rdata.size minLength.toNatClampNeg hits
      ∧ List.Forall₂ (image.Shows image.rdataByte 1 false) hits
        (image.scanStrings minLength (image.machine.run {} calls)).1.strings
      ∧ (image.scanStrings minLength (image.machine.run {} calls)).1.strings.Pairwise
        (fun one two => one.address < two.address)
      ∧ (image.scanStrings minLength (image.machine.run {} calls)).2 = hits.length)
    ∧ ∃ hits entries, Finds image.rdataUnit (image.rdata.size / 2) minLength.toNatClampNeg hits
      ∧ List.Forall₂ (image.Shows image.rdataUnit 2 true) hits entries
      ∧ (image.scanWideStrings minLength (image.machine.run {} calls)).1.strings
        = (image.machine.run {} calls).strings ++ entries
      ∧ entries.Pairwise (fun one two => one.address < two.address)
      ∧ (image.scanWideStrings minLength (image.machine.run {} calls)).2 = hits.length := by
  obtain ⟨hits, finds, table, count⟩ :=
    image.scanStrings_finds natural few fun none => image.table_empty none calls
  obtain ⟨wide, findsWide, tableWide, countWide⟩ :=
    image.scanWideStrings_finds natural few (image.machine.run {} calls)
  refine ⟨⟨hits, finds, ?_, ?_, count⟩, wide, wide.map image.wideString, findsWide,
    image.forall₂_shows findsWide fun _ => image.wideString_shows, tableWide,
    image.entries_ascending findsWide (fun _ => image.wideString_shows) (by decide), countWide⟩
  · rw [table]
    exact image.forall₂_shows finds fun _ => image.narrowString_shows
  · rw [table]
    exact image.entries_ascending finds (fun _ => image.narrowString_shows) (by decide)

/-- No code, and a section with two letters and two zeros. -/
def greeting : Image where
  memory := fun address => if address = 0x1000 then 0x48 else if address = 0x1001 then 0x69 else 0
  text := ⟨0, 0, fun _ => rfl, Nat.zero_le _⟩
  rdata := ⟨0x1000, 4, fun zero => absurd zero (by decide), by decide⟩

theorem scans_greeting : ∃ hits, Finds greeting.rdataByte 4 2 hits
    ∧ List.Forall₂ (greeting.Shows greeting.rdataByte 1 false) hits
      (greeting.scanStrings 2 (greeting.machine.run {} [])).1.strings
    ∧ (greeting.scanStrings 2 (greeting.machine.run {} [])).2 = hits.length := by
  obtain ⟨⟨hits, finds, shown, -, count⟩, -⟩ := scans_exact greeting [] 2 (by decide) (by decide)
  exact ⟨hits, finds, shown, count⟩

end Image

end StringTable

end KenshiMP
