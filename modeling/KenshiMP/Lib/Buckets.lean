/-
**An index of places: for every place the list of those that are there.**

Everyone is in one place at most; the index has a list for every place where somebody is, in the order of
arrival. `Indexes` says that the lists are right: `put` and `take` keep it, for somebody who is nowhere and
for somebody who leaves. `Indexes.count_all`: over all lists, everyone who is somewhere occurs once.
-/

import KenshiMP.Lib.Assoc

set_option linter.unusedSectionVars false

universe u v

namespace Buckets

open Assoc

variable {K : Type u} {P : Type v} [DecidableEq K] [DecidableEq P]

/-- Those at a place. -/
def members (buckets : AMap K (List P)) (key : K) : List P := (buckets.lookup key).getD []

/-- Somebody arrives. -/
def put (buckets : AMap K (List P)) (key : K) (p : P) : AMap K (List P) :=
  AList.insert key (members buckets key ++ [p]) buckets

/-- Somebody leaves; an empty list goes. -/
def take (buckets : AMap K (List P)) (key : K) (p : P) : AMap K (List P) :=
  let rest := (members buckets key).filter (· ≠ p)
  if rest.isEmpty then AList.erase key buckets else AList.insert key rest buckets

def all (buckets : AMap K (List P)) : List P := buckets.toList.flatMap Prod.snd

/-- The lists are those of the places. -/
structure Indexes (place : P → Option K) (buckets : AMap K (List P)) : Prop where
  inverse : ∀ key p, p ∈ members buckets key ↔ place p = some key
  nodup : ∀ key, (members buckets key).Nodup
  inhabited : ∀ key list, buckets.lookup key = some list → list ≠ []

variable {place : P → Option K} {buckets : AMap K (List P)}

theorem members_put (key other : K) (p : P) : members (put buckets key p) other
    = if other = key then members buckets key ++ [p] else members buckets other := by
  unfold members put
  rw [AMap.lookup_insert_eq]
  split_ifs <;> rfl

theorem members_take (key other : K) (p : P) : members (take buckets key p) other
    = if other = key then (members buckets key).filter (· ≠ p) else members buckets other := by
  unfold take
  simp only
  split_ifs with empty same same
  · unfold members at empty ⊢
    rw [AMap.lookup_erase_eq, if_pos same]
    exact (List.isEmpty_iff.mp empty).symm
  · unfold members
    rw [AMap.lookup_erase_eq, if_neg same]
  · unfold members
    rw [AMap.lookup_insert_eq, if_pos same]
    rfl
  · unfold members
    rw [AMap.lookup_insert_eq, if_neg same]

namespace Indexes

theorem start : Indexes (fun _ : P => (none : Option K)) ∅ where
  inverse _ _ := iff_of_false List.not_mem_nil (Option.some_ne_none _).symm
  nodup _ := List.nodup_nil
  inhabited _ _ absent := by cases absent

variable (indexes : Indexes place buckets)

include indexes

/-- **Somebody who is nowhere** arrives. -/
theorem put {p : P} (nowhere : place p = none) (key : K) :
    Indexes (Function.update place p (some key)) (Buckets.put buckets key p) where
  inverse other q := by
    have before := indexes.inverse other q
    rw [members_put, Function.update_apply]
    by_cases here : other = key
    · subst here
      rw [if_pos rfl, List.mem_append, List.mem_singleton, before]
      split_ifs with same
      · simp [same]
      · simp [same]
    · rw [if_neg here, before]
      split_ifs with same
      · rw [same, nowhere]
        simp [Ne.symm here]
      · rfl
  nodup other := by
    rw [members_put]
    split_ifs with here
    · refine (indexes.nodup key).append (List.nodup_singleton p) fun q inside last => ?_
      rw [List.mem_singleton.mp last, indexes.inverse, nowhere] at inside
      cases inside
    · exact indexes.nodup other
  inhabited other list stored := by
    unfold Buckets.put at stored
    rw [AMap.lookup_insert_eq] at stored
    split_ifs at stored
    · rw [← Option.some.inj stored]
      exact List.append_ne_nil_of_right_ne_nil _ (List.cons_ne_nil _ _)
    · exact indexes.inhabited other list stored

/-- **Somebody leaves** the place where they are. -/
theorem take {p : P} {key : K} (here : place p = some key) :
    Indexes (Function.update place p none) (Buckets.take buckets key p) where
  inverse other q := by
    have before := indexes.inverse other q
    rw [members_take, Function.update_apply]
    split_ifs with at_key same same
    · subst at_key
      simp [same]
    · subst at_key
      rw [List.mem_filter, before]
      simp [same]
    · rw [before, same, here]
      simp [Ne.symm at_key]
    · exact before
  nodup other := by
    rw [members_take]
    split_ifs
    · exact (indexes.nodup key).filter _
    · exact indexes.nodup other
  inhabited other list stored := by
    unfold Buckets.take at stored
    simp only at stored
    split_ifs at stored with empty
    · rw [AMap.lookup_erase_eq] at stored
      split_ifs at stored
      exact indexes.inhabited other list stored
    · rw [AMap.lookup_insert_eq] at stored
      split_ifs at stored
      · rw [← Option.some.inj stored]
        exact fun none => empty (List.isEmpty_iff.mpr none)
      · exact indexes.inhabited other list stored

theorem mem_all {p : P} : p ∈ all buckets ↔ (place p).isSome := by
  unfold all
  rw [List.mem_flatMap, Option.isSome_iff_exists]
  constructor
  · rintro ⟨⟨key, list⟩, entry, inside⟩
    refine ⟨key, (indexes.inverse key p).mp ?_⟩
    unfold members
    rw [AMap.mem_toList.mp entry]
    exact inside
  · rintro ⟨key, here⟩
    have inside := (indexes.inverse key p).mpr here
    cases stored : buckets.lookup key with
    | none =>
      unfold members at inside
      rw [stored] at inside
      exact absurd inside List.not_mem_nil
    | some list =>
      unfold members at inside
      rw [stored] at inside
      exact ⟨(key, list), AMap.mem_toList.mpr stored, inside⟩

theorem nodup_all : (all buckets).Nodup := by
  unfold all
  have stored {key : K} {list : List P} (entry : (key, list) ∈ buckets.toList) :
      members buckets key = list := by
    unfold members
    rw [AMap.mem_toList.mp entry]
    rfl
  rw [List.nodup_flatMap]
  constructor
  · rintro ⟨key, list⟩ entry
    exact stored entry ▸ indexes.nodup key
  · have keys : buckets.toList.Pairwise fun one two => one.1 ≠ two.1 :=
      List.pairwise_map.mp (AMap.toList_keys_nodup buckets)
    refine keys.imp_of_mem fun {one two} first second differ => ?_
    intro p inside inside'
    have here := (indexes.inverse one.1 p).mp (stored first ▸ inside)
    have there := (indexes.inverse two.1 p).mp (stored second ▸ inside')
    exact differ (Option.some.inj (here.symm.trans there))

/-- **Once over all lists.** -/
theorem count_all (p : P) : (all buckets).count p = if (place p).isSome then 1 else 0 := by
  split_ifs with somewhere
  · exact List.count_eq_one_of_mem indexes.nodup_all (indexes.mem_all.mpr somewhere)
  · exact List.count_eq_zero_of_not_mem (mt indexes.mem_all.mp somewhere)

end Indexes

end Buckets
