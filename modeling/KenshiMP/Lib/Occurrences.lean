/-
**Texts in a byte-addressed memory: writing them, where they occur, and looking for them.**

A text *occurs* at an address if its bytes lie there, one after the other; the address space is circular.
What is written occurs (`occursAt_overwrite`), and a text that occurs after the writing has occurred before,
or overlaps what was written (`occursAt_of_overwrite`). Two occurrences of a text whose first byte comes only
once do not overlap (`eq_of_covers`), and none reaches over a byte that the text does not have
(`not_reaching`).

* `scan`: the first of some addresses that pass a test;
* `scan_unique`: where only one can pass.
-/

import KenshiMP.Lib.ByteMemory

namespace ByteMemory

variable {width : Nat}

/-! ### Occurrences -/

/-- The text lies at the address. -/
def OccursAt (memory : Memory width) (address : BitVec width) (text : List UInt8) : Prop :=
  ∀ i (inside : i < text.length), memory (address + BitVec.ofNat width i) = text[i]

/-- The memory after a text is copied to an address. -/
def overwrite (memory : Memory width) (address : BitVec width) (text : List UInt8) : Memory width :=
  fun place => text.getD (place - address).toNat (memory place)

variable {memory : Memory width} {address other place : BitVec width} {text pattern : List UInt8}

/-- The way from one address to another. -/
theorem add_sub_ofNat (address place : BitVec width) :
    address + BitVec.ofNat width (place - address).toNat = place := by
  rw [BitVec.ofNat_toNat, BitVec.setWidth_eq, BitVec.add_comm, BitVec.sub_add_cancel]

theorem add_ofNat_add (address : BitVec width) (i j : ℕ) :
    address + BitVec.ofNat width i + BitVec.ofNat width j = address + BitVec.ofNat width (i + j) := by
  rw [BitVec.add_assoc, BitVec.ofNat_add]

theorem overwrite_outside (outside : ¬ Covers address text.length place) :
    overwrite memory address text place = memory place := by
  rw [overwrite, List.getD_eq_getElem?_getD, List.getElem?_eq_none (not_lt.mp outside), Option.getD_none]

/-- **What is written occurs.** -/
theorem occursAt_overwrite (fits : text.length ≤ 2 ^ width) :
    OccursAt (overwrite memory address text) address text := by
  intro i inside
  rw [overwrite, sub_toNat (lt_of_lt_of_le inside fits), List.getD_eq_getElem?_getD,
    List.getElem?_eq_getElem inside, Option.getD_some]

theorem occursAt_overwrite_apart (here : OccursAt memory other pattern)
    (apart : ∀ i < pattern.length, ¬ Covers address text.length (other + BitVec.ofNat width i)) :
    OccursAt (overwrite memory address text) other pattern := by
  intro i inside
  rw [overwrite_outside (apart i inside)]
  exact here i inside

/-- Two stretches that meet: one begins within the other. -/
theorem covers_of_meet {count count' i : ℕ} (inside : i < count')
    (meet : Covers address count (other + BitVec.ofNat width i)) :
    Covers address count other ∨ Covers other count' address := by
  have bound := (other - address).isLt
  have bound' := (address - other).isLt
  have way : other + BitVec.ofNat width i - address = (other - address) + BitVec.ofNat width i := by
    rw [BitVec.sub_eq_add_neg, BitVec.sub_eq_add_neg, BitVec.add_assoc, BitVec.add_comm (BitVec.ofNat _ _),
      BitVec.add_assoc]
  have back : address - other = -(other - address) := by
    rw [BitVec.neg_sub, BitVec.sub_eq_add_neg, BitVec.add_comm]
  unfold Covers at meet ⊢
  rw [way, BitVec.toNat_add, BitVec.toNat_ofNat] at meet
  rw [back, BitVec.toNat_neg]
  by_cases near : (other - address).toNat < count
  · exact .inl near
  · right
    have rest : i % 2 ^ width ≤ i := Nat.mod_le _ _
    by_cases wraps : (other - address).toNat + i % 2 ^ width < 2 ^ width
    · rw [Nat.mod_eq_of_lt wraps] at meet
      omega
    · have small : 2 ^ width - (other - address).toNat < 2 ^ width ∨ (other - address).toNat = 0 := by
        omega
      rcases small with small | zero
      · rw [Nat.mod_eq_of_lt small]
        omega
      · have positive : i % 2 ^ width < 2 ^ width := Nat.mod_lt _ (Nat.two_pow_pos width)
        omega

/-- **What occurs after a text is written** has occurred before, or overlaps the text. -/
theorem occursAt_of_overwrite (here : OccursAt (overwrite memory address text) other pattern) :
    Covers address text.length other ∨ Covers other pattern.length address
      ∨ OccursAt memory other pattern := by
  by_cases meet : ∃ i < pattern.length, Covers address text.length (other + BitVec.ofNat width i)
  · obtain ⟨i, inside, covered⟩ := meet
    exact (covers_of_meet inside covered).imp_right .inl
  · refine .inr (.inr fun i inside => ?_)
    rw [← here i inside, overwrite_outside fun covered => meet ⟨i, inside, covered⟩]

/-- **Occurrences do not overlap** if the first byte of the text comes only once. -/
theorem eq_of_covers {first : UInt8} {rest : List UInt8} (once : first ∉ rest)
    (here : OccursAt memory address (first :: rest)) (there : OccursAt memory other (first :: rest))
    (near : Covers address (first :: rest).length other) : other = address := by
  have byte := here _ near
  rw [add_sub_ofNat] at byte
  have byte' := there 0 (Nat.succ_pos _)
  rw [BitVec.add_zero] at byte'
  rw [byte'] at byte
  cases distance : (other - address).toNat with
  | zero =>
    rw [← add_sub_ofNat address other, distance]
    exact BitVec.add_zero address
  | succ i =>
    simp only [distance, List.getElem_cons_zero, List.getElem_cons_succ] at byte
    exact absurd (byte ▸ List.getElem_mem _) once

/-- **No occurrence reaches over a byte** that the text does not have. -/
theorem not_reaching {last : UInt8} (absent : last ∉ pattern)
    (ends : OccursAt memory address (text ++ [last])) (here : OccursAt memory other pattern)
    (near : Covers address (text ++ [last]).length other) :
    (other - address).toNat + pattern.length ≤ text.length := by
  by_contra reaches
  unfold Covers at near
  rw [List.length_append, List.length_singleton] at near
  have inside : text.length - (other - address).toNat < pattern.length := by omega
  have byte := here _ inside
  have place : other + BitVec.ofNat width (text.length - (other - address).toNat)
      = address + BitVec.ofNat width text.length := by
    rw [← add_sub_ofNat address other, add_ofNat_add, add_sub_ofNat]
    congr 2
    omega
  have byte' := ends text.length (by simp)
  rw [List.getElem_concat_length rfl] at byte'
  rw [place, byte'] at byte
  exact absurd (byte ▸ List.getElem_mem inside) absent

/-! ### Looking for an address -/

/-- The first of some addresses that passes. -/
def scan (passes : BitVec width → Bool) : ℕ → BitVec width → Option (BitVec width)
  | 0, _ => none
  | left + 1, address => if passes address then some address else scan passes left (address + 1)

variable {passes : BitVec width → Bool} {count : ℕ}

theorem scan_passes (found : scan passes count address = some place) :
    ∃ i < count, place = address + BitVec.ofNat width i ∧ passes place = true := by
  induction count generalizing address with
  | zero => cases found
  | succ left ih =>
    unfold scan at found
    split at found
    · rename_i here
      cases found
      exact ⟨0, Nat.succ_pos _, (BitVec.add_zero _).symm, here⟩
    · obtain ⟨i, inside, there, passed⟩ := ih found
      refine ⟨1 + i, by omega, ?_, passed⟩
      rw [there]
      exact add_ofNat_add address 1 i

theorem scan_isSome {i : ℕ} (inside : i < count) (here : passes (address + BitVec.ofNat width i) = true) :
    (scan passes count address).isSome := by
  induction count generalizing address i with
  | zero => cases inside
  | succ left ih =>
    unfold scan
    split
    · rfl
    · rename_i fails
      cases i with
      | zero =>
        rw [BitVec.add_zero] at here
        exact absurd here fails
      | succ i =>
        rw [Nat.add_comm i 1, ← add_ofNat_add] at here
        exact ih (Nat.lt_of_succ_lt_succ inside) here

/-- **Where only one address can pass**, it is found if it does and is among them. -/
theorem scan_unique (only : ∀ i < count, passes (address + BitVec.ofNat width i) = true →
      address + BitVec.ofNat width i = place) :
    scan passes count address = none ∨ scan passes count address = some place := by
  cases found : scan passes count address with
  | none => exact .inl rfl
  | some other =>
    obtain ⟨i, inside, rfl, passed⟩ := scan_passes found
    rw [only i inside passed]
    exact .inr rfl

end ByteMemory
