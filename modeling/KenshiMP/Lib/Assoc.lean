/-
**Finite maps whose iteration order is not specified.**

`AMap K V` is Mathlib's association list with one value type: a list of entries without duplicate
keys, the invariant carried by the structure. Lookups never depend on the order of the entries
(`lookup_reorder`), iteration does, and `reorder` puts the entries into any order one likes, so a
program that walks such a map can be run under every order of the walk.

* `mapVals`, `modify`: in-place updates of the values, with their lookups;
* `eraseAll`: erasing a list of keys;
* `mem_toList`: what a walk over the map sees is exactly what lookups see;
* `find?_reorder`: in some order an entry comes first.
-/

import Mathlib.Data.List.AList
import Mathlib.Data.List.Sort
import Mathlib.Tactic

set_option linter.unusedSectionVars false

namespace Assoc

universe u v

/-- A finite map: entries without duplicate keys, in some order. -/
abbrev AMap (K : Type u) (V : Type v) := AList fun _ : K => V

namespace AMap

variable {K : Type u} {V : Type v}

/-- The entries in iteration order. -/
def toList (map : AMap K V) : List (K × V) :=
  map.entries.map fun entry => (entry.1, entry.2)

/-- The number of entries. -/
def size (map : AMap K V) : Nat := map.entries.length

/-- Update every value by a function of its key and itself. -/
def mapVals (f : K → V → V) (map : AMap K V) : AMap K V :=
  ⟨map.entries.map fun entry => ⟨entry.1, f entry.1 entry.2⟩,
    List.NodupKeys.map₂ f map.entries map.nodupKeys⟩

/-- The entries, sorted by a rank of the key: with an injective rank this is any order. -/
def reorder (rank : K → Nat) (map : AMap K V) : AMap K V :=
  ⟨map.entries.insertionSort fun first second => rank first.1 ≤ rank second.1,
    (List.perm_nodupKeys (List.perm_insertionSort _ _)).mpr map.nodupKeys⟩

variable [DecidableEq K]

/-- Update the value at one key, in place. -/
def modify (key : K) (f : V → V) (map : AMap K V) : AMap K V :=
  mapVals (fun other value => if other = key then f value else value) map

/-- Erase some keys, one after the other. -/
def eraseAll (keys : List K) (map : AMap K V) : AMap K V :=
  keys.foldl (fun rest key => rest.erase key) map

/-- What a walk over the map sees is what lookups see. -/
theorem mem_toList {map : AMap K V} {key : K} {value : V} :
    (key, value) ∈ map.toList ↔ map.lookup key = some value := by
  constructor
  · intro member
    obtain ⟨⟨key', value'⟩, inside, same⟩ := List.mem_map.mp member
    cases same
    exact AList.mem_lookup_iff.mpr inside
  · intro found
    exact List.mem_map.mpr ⟨⟨key, value⟩, AList.mem_lookup_iff.mp found, rfl⟩

/-- The keys of a walk have no duplicates. -/
theorem toList_keys_nodup (map : AMap K V) : (map.toList.map Prod.fst).Nodup := by
  have keys : map.toList.map Prod.fst = map.keys := by
    simp only [toList, List.map_map, AList.keys, List.keys]
    rfl
  rw [keys]
  exact map.keys_nodup

theorem size_toList (map : AMap K V) : map.toList.length = map.size := by
  simp [toList, size]

@[simp] theorem lookup_mapVals (f : K → V → V) (map : AMap K V) (key : K) :
    (mapVals f map).lookup key = (map.lookup key).map (f key) :=
  List.dlookup_map₂ key

@[simp] theorem lookup_modify (key other : K) (f : V → V) (map : AMap K V) :
    (modify key f map).lookup other
      = (map.lookup other).map fun value => if other = key then f value else value :=
  lookup_mapVals _ _ _

theorem lookup_modify_self (key : K) (f : V → V) (map : AMap K V) :
    (modify key f map).lookup key = (map.lookup key).map f := by
  simp

theorem lookup_modify_ne {key other : K} (different : other ≠ key) (f : V → V) (map : AMap K V) :
    (modify key f map).lookup other = map.lookup other := by
  simp [different]

@[simp] theorem lookup_reorder (rank : K → Nat) (map : AMap K V) (key : K) :
    (reorder rank map).lookup key = map.lookup key :=
  AList.perm_lookup (List.perm_insertionSort _ _)

@[simp] theorem size_mapVals (f : K → V → V) (map : AMap K V) : (mapVals f map).size = map.size := by
  simp [size, mapVals]

@[simp] theorem size_modify (key : K) (f : V → V) (map : AMap K V) : (modify key f map).size = map.size :=
  size_mapVals _ _

@[simp] theorem size_reorder (rank : K → Nat) (map : AMap K V) : (reorder rank map).size = map.size := by
  simp [size, reorder]

theorem lookup_eraseAll (keys : List K) (map : AMap K V) (key : K) :
    (eraseAll keys map).lookup key = if key ∈ keys then none else map.lookup key := by
  induction keys generalizing map with
  | nil => simp [eraseAll]
  | cons first rest ih =>
    have unfolded : eraseAll (first :: rest) map = eraseAll rest (map.erase first) := rfl
    rw [unfolded, ih]
    by_cases inRest : key ∈ rest
    · simp [inRest]
    · by_cases same : key = first
      · subst same
        simp [inRest, AList.lookup_erase]
      · simp [inRest, same, AList.lookup_erase_ne same]

/-- A lookup after an insertion, in one equation. -/
theorem lookup_insert_eq (key other : K) (value : V) (map : AMap K V) :
    AList.lookup other (AList.insert key value map)
      = if other = key then some value else AList.lookup other map := by
  by_cases same : other = key
  · subst same
    rw [if_pos rfl]
    exact AList.lookup_insert map
  · rw [if_neg same]
    exact AList.lookup_insert_ne same

/-- A lookup after an erasure, in one equation. -/
theorem lookup_erase_eq (key other : K) (map : AMap K V) :
    AList.lookup other (AList.erase key map)
      = if other = key then none else AList.lookup other map := by
  by_cases same : other = key
  · subst same
    rw [if_pos rfl]
    exact AList.lookup_erase other map
  · rw [if_neg same]
    exact AList.lookup_erase_ne same

/-- A walk after an erasure passes over the key. -/
theorem toList_erase (key : K) (map : AMap K V) :
    toList (AList.erase key map) = map.toList.filter fun entry => entry.1 ≠ key := by
  obtain ⟨entries, nodup⟩ := map
  show (List.kerase key entries).map _ = (entries.map _).filter _
  induction entries with
  | nil => rfl
  | cons entry rest ih =>
    obtain ⟨absent, nodup'⟩ := List.nodupKeys_cons.mp nodup
    by_cases here : key = entry.1
    · rw [List.kerase_cons_eq here, List.map_cons, List.filter_cons_of_neg (by simp [here])]
      refine (List.filter_eq_self.mpr fun other inside => ?_).symm
      obtain ⟨found, member, rfl⟩ := List.mem_map.mp inside
      refine decide_eq_true fun same => absent ?_
      rw [← here, ← same]
      exact List.mem_keys_of_mem member
    · rw [List.kerase_cons_ne here, List.map_cons, List.map_cons,
        List.filter_cons_of_pos (by simp [Ne.symm here]), ih nodup']

theorem size_erase_le (key : K) (map : AMap K V) : size (AList.erase key map) ≤ size map :=
  (List.kerase_sublist key map.entries).length_le

theorem size_insert_le (key : K) (value : V) (map : AMap K V) :
    size (AList.insert key value map) ≤ size map + 1 := by
  show (List.kinsert key value map.entries).length ≤ _
  rw [List.kinsert_def, List.length_cons]
  exact Nat.add_le_add_right (size_erase_le key map) 1

theorem size_insert_of_absent {key : K} {map : AMap K V} (absent : map.lookup key = none) (value : V) :
    size (AList.insert key value map) = size map + 1 := by
  have outside : key ∉ map := AList.lookup_eq_none.mp absent
  show (AList.insert key value map).entries.length = _
  rw [AList.entries_insert_of_notMem outside]
  rfl

/-- Maps with the same keys have the same size. -/
theorem size_congr {W : Type v} {one : AMap K V} {two : AMap K W}
    (same : ∀ key, (one.lookup key).isSome = (two.lookup key).isSome) : one.size = two.size := by
  have keys : one.keys.Perm two.keys := by
    refine (List.perm_ext_iff_of_nodup one.keys_nodup two.keys_nodup).mpr fun key => ?_
    rw [← AList.mem_keys, ← AList.mem_keys, ← AList.lookup_isSome, ← AList.lookup_isSome, same]
  have length := keys.length_eq
  unfold AList.keys List.keys at length
  rwa [List.length_map, List.length_map] at length

theorem size_eraseAll_le (keys : List K) (map : AMap K V) : size (eraseAll keys map) ≤ size map := by
  induction keys generalizing map with
  | nil => exact Nat.le_refl _
  | cons first rest ih => exact (ih (map.erase first)).trans (size_erase_le first map)

/-- Insert some values, each under its own key, one after the other. -/
def insertAll (keyOf : V → K) (values : List V) (map : AMap K V) : AMap K V :=
  values.foldl (fun stored value => AList.insert (keyOf value) value stored) map

/-- The last value with a key is the one that is found. -/
theorem lookup_insertAll (keyOf : V → K) (values : List V) (map : AMap K V) (key : K) :
    (insertAll keyOf values map).lookup key
      = (values.reverse.find? fun value => keyOf value = key).or (map.lookup key) := by
  induction values generalizing map with
  | nil => rfl
  | cons value rest ih =>
    have unfolded : insertAll keyOf (value :: rest) map
        = insertAll keyOf rest (AList.insert (keyOf value) value map) := rfl
    rw [unfolded, ih, lookup_insert_eq, List.reverse_cons, List.find?_append, Option.or_assoc]
    congr 1
    by_cases same : key = keyOf value
    · rw [if_pos same, List.find?_singleton, if_pos (by simpa using same.symm)]
      rfl
    · rw [if_neg same, List.find?_singleton, if_neg (by simpa using Ne.symm same)]
      rfl

/-- A walk over a reordered map goes by rank. -/
theorem toList_reorder_pairwise (rank : K → Nat) (map : AMap K V) :
    (reorder rank map).toList.Pairwise fun first second => rank first.1 ≤ rank second.1 := by
  rw [toList, List.pairwise_map]
  have total : Std.Total fun first second : Sigma fun _ : K => V => rank first.1 ≤ rank second.1 :=
    ⟨fun first second => Nat.le_total (rank first.1) (rank second.1)⟩
  have trans : IsTrans (Sigma fun _ : K => V) fun first second => rank first.1 ≤ rank second.1 :=
    ⟨fun _ _ _ => Nat.le_trans⟩
  exact List.pairwise_insertionSort (fun first second => rank first.1 ≤ rank second.1) map.entries

/-- In some order an entry is the first one that a search can take. -/
theorem find?_reorder {map : AMap K V} {key : K} {value : V} (inside : map.lookup key = some value)
    {p : K × V → Bool} (takes : p (key, value) = true) :
    (reorder (fun other => if other = key then 0 else 1) map).toList.find? p = some (key, value) := by
  have member : (key, value) ∈ (reorder (fun other => if other = key then 0 else 1) map).toList := by
    rw [mem_toList, lookup_reorder]
    exact inside
  obtain ⟨entry, found⟩ := Option.isSome_iff_exists.mp (List.find?_isSome.mpr ⟨_, member, takes⟩)
  obtain ⟨-, before, behind, split, passed⟩ := List.find?_eq_some_iff_append.mp found
  rw [found]
  have ordered := toList_reorder_pairwise (fun other => if other = key then 0 else 1) map
  have here : entry ∈ (reorder (fun other => if other = key then 0 else 1) map).toList := by
    rw [split]
    exact List.mem_append_right _ List.mem_cons_self
  rw [split] at ordered member
  rcases List.mem_append.mp member with early | late
  · have refused := passed _ early
    rw [takes] at refused
    cases refused
  · rcases List.mem_cons.mp late with same | later
    · rw [same]
    · have rank := (List.pairwise_cons.mp (List.pairwise_append.mp ordered).2.1).1 _ later
      have same : entry.1 = key := by
        by_contra different
        simp [different] at rank
      have value' := mem_toList.mp here
      rw [lookup_reorder, same, inside] at value'
      exact congrArg some (Prod.ext same (Option.some.inj value').symm)

end AMap

end Assoc
