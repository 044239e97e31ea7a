/-
**A ring that keeps the last values.**

An array of cells, the one that is written next, and how many are in use. When all are, the oldest value
is written over. A value is read by its age.

* `get_push_zero`, `get_push_succ`: the value that was pushed last has age zero, and the others are older
  by one;
* `get_pushAll`: the ages are the places in the reversed list of all values that were pushed.
-/

import Mathlib.Tactic

universe u

structure RecentRing (α : Type u) (capacity : Nat) where
  cells : Fin capacity → α
  head : Fin capacity
  count : Nat
  few : count ≤ capacity

namespace RecentRing

variable {α : Type u} {capacity : Nat}

/-- The cell whose number is this one, around the ring. -/
def around (ring : RecentRing α capacity) (number : Nat) : Fin capacity :=
  ⟨number % capacity, Nat.mod_lt _ (Nat.zero_lt_of_lt ring.head.isLt)⟩

def push (ring : RecentRing α capacity) (value : α) : RecentRing α capacity where
  cells := Function.update ring.cells ring.head value
  head := ring.around (ring.head + 1)
  count := if ring.count < capacity then ring.count + 1 else ring.count
  few := by
    have bound := ring.few
    split_ifs
    · omega
    · exact bound

/-- The value of an age, the newest being zero. -/
def get (ring : RecentRing α capacity) (age : Nat) : Option α :=
  if age < ring.count then some (ring.cells (ring.around (ring.head + capacity * 2 - 1 - age))) else none

def pushAll (ring : RecentRing α capacity) (values : List α) : RecentRing α capacity :=
  values.foldl push ring

/-! ### Ages -/

variable {ring : RecentRing α capacity} {age : Nat}

section Ring

variable (ring : RecentRing α capacity)

/-- The cells of the ages in use are behind the head. -/
theorem around_push (value : α) (recent : age < capacity) :
    (ring.push value).around ((ring.push value).head + capacity * 2 - 1 - age)
      = ring.around (ring.head + capacity * 2 - age) := by
  have bound := ring.head.isLt
  refine Fin.ext ?_
  show ((ring.head.val + 1) % capacity + capacity * 2 - 1 - age) % capacity
    = (ring.head.val + capacity * 2 - age) % capacity
  have left : (ring.head.val + 1) % capacity + capacity * 2 - 1 - age
      = (ring.head.val + 1) % capacity + (capacity * 2 - 1 - age) := by omega
  have right : ring.head.val + capacity * 2 - age = ring.head.val + 1 + (capacity * 2 - 1 - age) := by omega
  rw [left, right, Nat.mod_add_mod]

/-- The cell that is written is none of those of the other ages. -/
theorem around_ne_head (older : age + 1 < capacity) :
    ring.around (ring.head + capacity * 2 - 1 - age) ≠ ring.head := by
  have bound := ring.head.isLt
  intro same
  have value : (ring.head.val + capacity * 2 - 1 - age) % capacity = ring.head.val :=
    congrArg Fin.val same
  have split : ring.head.val + capacity * 2 - 1 - age
      = ring.head.val + (capacity - 1 - age) + capacity := by omega
  rw [split, Nat.add_mod_right] at value
  rcases Nat.lt_or_ge (ring.head.val + (capacity - 1 - age)) capacity with small | large
  · rw [Nat.mod_eq_of_lt small] at value
    omega
  · have whole : ring.head.val + (capacity - 1 - age)
        = ring.head.val + (capacity - 1 - age) - capacity + capacity := by omega
    rw [whole, Nat.add_mod_right, Nat.mod_eq_of_lt (by omega)] at value
    omega

theorem get_push_zero (value : α) : (ring.push value).get 0 = some value := by
  have bound := ring.head.isLt
  have used : 0 < (ring.push value).count := by
    show 0 < if ring.count < capacity then ring.count + 1 else ring.count
    split_ifs
    · exact Nat.succ_pos _
    · omega
  have here : ring.around (ring.head + capacity * 2 - 0) = ring.head := by
    refine Fin.ext ?_
    show (ring.head.val + capacity * 2) % capacity = ring.head.val
    rw [Nat.add_mul_mod_self_left, Nat.mod_eq_of_lt bound]
  unfold get
  rw [if_pos used, ring.around_push value (Nat.zero_lt_of_lt bound), here]
  exact congrArg some (Function.update_self _ _ _)

/-- **The others are older by one.** -/
theorem get_push_succ (value : α) (older : age + 1 < capacity) :
    (ring.push value).get (age + 1) = ring.get age := by
  have few := ring.few
  have count : age + 1 < (ring.push value).count ↔ age < ring.count := by
    show age + 1 < (if ring.count < capacity then ring.count + 1 else ring.count) ↔ _
    split_ifs
    · omega
    · omega
  have previous : ring.head + capacity * 2 - (age + 1) = ring.head + capacity * 2 - 1 - age := by omega
  unfold get
  refine if_congr count ?_ rfl
  rw [ring.around_push value older, previous]
  exact congrArg some (Function.update_of_ne (ring.around_ne_head older) _ _)

theorem count_push (value : α) : (ring.push value).count = min (ring.count + 1) capacity := by
  have few := ring.few
  show (if ring.count < capacity then ring.count + 1 else ring.count) = _
  split_ifs
  · omega
  · omega

end Ring

/-- Nothing is as old as the capacity. -/
theorem get_none (old : capacity ≤ age) : ring.get age = none :=
  if_neg (Nat.not_lt.mpr (Nat.le_trans ring.few old))

/-- **What the ring keeps** of the values that were pushed, from the empty ring on. -/
theorem get_pushAll (empty : ring.count = 0) (values : List α) (age : Nat) :
    (ring.pushAll values).get age = (values.reverse.take capacity)[age]? := by
  induction values using List.reverseRecOn generalizing age with
  | nil =>
    show ring.get age = ([].take capacity)[age]?
    rw [List.take_nil, List.getElem?_nil]
    exact if_neg (by rw [empty]; exact Nat.not_lt_zero age)
  | append_singleton values last ih =>
    unfold pushAll at ih ⊢
    rw [List.foldl_append, List.foldl_cons, List.foldl_nil, List.reverse_append, List.reverse_singleton,
      List.singleton_append]
    rcases Nat.lt_or_ge age capacity with recent | old
    · rw [List.getElem?_take_of_lt recent]
      cases age with
      | zero =>
        rw [get_push_zero]
        rfl
      | succ age =>
        rw [get_push_succ _ _ recent, ih, List.getElem?_take_of_lt (Nat.lt_of_succ_lt recent)]
        rfl
    · rw [get_none old, List.getElem?_eq_none]
      exact Nat.le_trans (List.length_take_le _ _) old

end RecentRing
