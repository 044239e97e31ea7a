/-
**Decimal numbers as text.**

A number can be read back (`decimal_injective`), and no byte behind the digits is in it, so that a text, a
separator and a number can be taken apart again (`split_eq`).
-/

import KenshiMP.Server.Session

namespace KenshiMP

open Wire (Bytes)

/-- The digits of a number. -/
def digitBytes (n : Nat) : Bytes := (Nat.toDigits 10 n).map fun c => UInt8.ofNat c.toNat

theorem digit_bounds {c : Char} {n : Nat} (inside : c ∈ Nat.toDigits 10 n) :
    0x30 ≤ c.toNat ∧ c.toNat ≤ 0x39 := by
  have digit := Nat.isDigit_of_mem_toDigits (by decide) le_rfl inside
  rw [Char.isDigit_iff_toNat] at digit
  exact digit

theorem digitBytes_bounds {b : UInt8} {n : Nat} (inside : b ∈ digitBytes n) :
    0x30 ≤ b.toNat ∧ b.toNat ≤ 0x39 := by
  obtain ⟨c, member, rfl⟩ := List.mem_map.mp inside
  have bounds := digit_bounds member
  rw [UInt8.toNat_ofNat_of_lt' (show c.toNat < 2 ^ 8 by omega)]
  exact bounds

theorem digitBytes_injective {m n : Nat} (same : digitBytes m = digitBytes n) : m = n := by
  have back (k : Nat) : (digitBytes k).map (fun b => Char.ofNat b.toNat) = Nat.toDigits 10 k := by
    unfold digitBytes
    rw [List.map_map]
    refine (List.map_congr_left fun c member => ?_).trans (List.map_id _)
    have bounds := digit_bounds member
    show Char.ofNat (UInt8.ofNat c.toNat).toNat = c
    rw [UInt8.toNat_ofNat_of_lt' (show c.toNat < 2 ^ 8 by omega), Char.ofNat_toNat]
  have digits : Nat.toDigits 10 m = Nat.toDigits 10 n := by
    rw [← back m, ← back n, same]
  rw [← Nat.ofDigitChars_ten_toDigits (n := m), digits, Nat.ofDigitChars_ten_toDigits]

theorem decimal_ofNat (n : Nat) : decimal (Int.ofNat n) = digitBytes n := by
  show (Nat.repr n).toList.map _ = _
  rw [Nat.toList_repr]
  rfl

theorem decimal_negSucc (n : Nat) : decimal (Int.negSucc n) = 0x2D :: digitBytes (n + 1) := by
  show ("-" ++ Nat.repr (n + 1)).toList.map _ = _
  rw [String.toList_append, Nat.toList_repr, List.map_append]
  rfl

theorem decimal_le {b : UInt8} {n : Int} (inside : b ∈ decimal n) : b.toNat ≤ 0x39 := by
  cases n with
  | ofNat n =>
    rw [decimal_ofNat] at inside
    exact (digitBytes_bounds inside).2
  | negSucc n =>
    rw [decimal_negSucc] at inside
    rcases List.mem_cons.mp inside with minus | inside
    · rw [minus]
      decide
    · exact (digitBytes_bounds inside).2

/-- No separator behind the digits is in a number. -/
theorem decimal_not_mem {separator : UInt8} {n : Int} (above : 0x39 < separator.toNat) :
    separator ∉ decimal n := fun inside => absurd (decimal_le inside) (Nat.not_le.mpr above)

/-- A number can be read back. -/
theorem decimal_injective {m n : Int} (same : decimal m = decimal n) : m = n := by
  have apart (m n : Nat) : digitBytes m ≠ 0x2D :: digitBytes n := by
    intro same
    have member : (0x2D : UInt8) ∈ digitBytes m := same ▸ List.mem_cons_self
    exact absurd (digitBytes_bounds member).1 (by decide)
  cases m with
  | ofNat m =>
    cases n with
    | ofNat n =>
      rw [decimal_ofNat, decimal_ofNat] at same
      rw [digitBytes_injective same]
    | negSucc n =>
      rw [decimal_ofNat, decimal_negSucc] at same
      exact absurd same (apart m (n + 1))
  | negSucc m =>
    cases n with
    | ofNat n =>
      rw [decimal_ofNat, decimal_negSucc] at same
      exact absurd same.symm (apart n (m + 1))
    | negSucc n =>
      rw [decimal_negSucc, decimal_negSucc] at same
      have numbers := digitBytes_injective (List.cons.inj same).2
      rw [Nat.succ.inj numbers]

/-- What stands behind the last separator, and what stands before it. -/
theorem split_eq (separator : UInt8) {one two back back' : Bytes} (none : separator ∉ back)
    (none' : separator ∉ back') (same : one ++ separator :: back = two ++ separator :: back') :
    one = two ∧ back = back' := by
  have ends {front rest tail : Bytes} (none : separator ∉ rest)
      (same : separator :: rest = front ++ separator :: tail) : front = [] ∧ rest = tail := by
    cases front with
    | nil => exact ⟨rfl, (List.cons.inj same).2⟩
    | cons head front =>
      have inside : separator ∈ rest := by
        rw [(List.cons.inj same).2]
        exact List.mem_append_right front List.mem_cons_self
      exact absurd inside none
  rcases List.append_eq_append_iff.mp same with ⟨middle, rfl, tail⟩ | ⟨middle, rfl, tail⟩
  · obtain ⟨rfl, rfl⟩ := ends none tail
    exact ⟨(List.append_nil one).symm, rfl⟩
  · obtain ⟨rfl, rfl⟩ := ends none' tail
    exact ⟨List.append_nil two, rfl⟩

end KenshiMP
