/-
**A ring of cells between a writer and a reader.**

`capacity` cells, an index that is written next and one that is read next, both wrapping around. The
ring is empty when they are equal, so one cell is always left free and a ring that would become full
refuses. `pending` is what the ring stands for: the values written and not yet read, oldest first.
-/

import Mathlib.Tactic

universe u

/-- The cells, where the next value is written and where the next one is read. -/
structure RingBuffer (α : Type u) (capacity : Nat) where
  cells : Fin capacity → α
  write : Fin capacity
  read : Fin capacity

namespace RingBuffer

variable {α : Type u} {capacity : Nat}

/-- The cell after a cell. -/
def after (i : Fin capacity) : Fin capacity :=
  ⟨(i.val + 1) % capacity, Nat.mod_lt _ (Nat.zero_lt_of_lt i.isLt)⟩

def wrote (ring : RingBuffer α capacity) (value : α) : RingBuffer α capacity :=
  ⟨Function.update ring.cells ring.write value, after ring.write, ring.read⟩

/-- Write a value, unless that would make the ring look empty. -/
def push (ring : RingBuffer α capacity) (value : α) : RingBuffer α capacity × Bool :=
  if after ring.write = ring.read then (ring, false) else (ring.wrote value, true)

def advanced (ring : RingBuffer α capacity) : RingBuffer α capacity :=
  ⟨ring.cells, ring.write, after ring.read⟩

/-- Read the oldest value. -/
def pop (ring : RingBuffer α capacity) : Option (α × RingBuffer α capacity) :=
  if ring.read = ring.write then none else some (ring.cells ring.read, ring.advanced)

/-! ### What the ring stands for -/

/-- How many values are written and not read. -/
def count (ring : RingBuffer α capacity) : Nat := (ring.write.val + (capacity - ring.read.val)) % capacity

/-- The cell that is `offset` cells behind the next one to be read. -/
def cell (ring : RingBuffer α capacity) (offset : Nat) : Fin capacity :=
  ⟨(ring.read.val + offset) % capacity, Nat.mod_lt _ (Nat.zero_lt_of_lt ring.read.isLt)⟩

/-- The values written and not read, oldest first. -/
def pending (ring : RingBuffer α capacity) : List α :=
  (List.range ring.count).map fun offset => ring.cells (ring.cell offset)

variable (ring : RingBuffer α capacity)

theorem pending_length : ring.pending.length = ring.count := by
  rw [pending, List.length_map, List.length_range]

/-- The count in cases: the writer is ahead of the reader, or has wrapped around. -/
theorem count_eq :
    ring.count = if ring.read.val ≤ ring.write.val then ring.write.val - ring.read.val
      else ring.write.val + capacity - ring.read.val := by
  have reads := ring.read.isLt
  have writes := ring.write.isLt
  unfold count
  split_ifs with ahead
  · have whole : ring.write.val + (capacity - ring.read.val)
        = ring.write.val - ring.read.val + capacity := by omega
    rw [whole, Nat.add_mod_right, Nat.mod_eq_of_lt (by omega)]
  · rw [Nat.mod_eq_of_lt (by omega)]
    omega

theorem after_val (i : Fin capacity) : (after i).val = if i.val + 1 < capacity then i.val + 1 else 0 := by
  have bound := i.isLt
  unfold after
  split_ifs with inside
  · exact Nat.mod_eq_of_lt inside
  · have last : i.val + 1 = capacity := by omega
    show (i.val + 1) % capacity = 0
    rw [last, Nat.mod_self]

/-- One cell is always free. -/
theorem count_lt : ring.count < capacity :=
  Nat.mod_lt _ (Nat.zero_lt_of_lt ring.read.isLt)

/-- The ring refuses when only one cell is free. -/
theorem full_iff : after ring.write = ring.read ↔ ring.count + 1 = capacity := by
  have reads := ring.read.isLt
  have writes := ring.write.isLt
  rw [Fin.ext_iff, after_val, count_eq]
  split_ifs <;> omega

theorem empty_iff : ring.read = ring.write ↔ ring.count = 0 := by
  have reads := ring.read.isLt
  have writes := ring.write.isLt
  rw [Fin.ext_iff, count_eq]
  split_ifs <;> omega

theorem cell_zero : ring.cell 0 = ring.read := by
  apply Fin.ext
  exact Nat.mod_eq_of_lt ring.read.isLt

/-- The next cell to be written is the one behind the last value. -/
theorem cell_count : ring.cell ring.count = ring.write := by
  have reads := ring.read.isLt
  have writes := ring.write.isLt
  apply Fin.ext
  show (ring.read.val + ring.count) % capacity = ring.write.val
  rw [count_eq]
  split_ifs with ahead
  · rw [Nat.mod_eq_of_lt (by omega)]
    omega
  · have whole : ring.read.val + (ring.write.val + capacity - ring.read.val)
        = ring.write.val + capacity := by omega
    rw [whole, Nat.add_mod_right, Nat.mod_eq_of_lt writes]

/-- Different offsets are different cells. -/
theorem cell_injective {first second : Nat} (one : first < capacity)
    (two : second < capacity) (same : ring.cell first = ring.cell second) : first = second := by
  have reads := ring.read.isLt
  have equal : (ring.read.val + first) % capacity = (ring.read.val + second) % capacity :=
    congrArg Fin.val same
  exact Nat.ModEq.eq_of_lt_of_lt (Nat.ModEq.add_left_cancel' ring.read.val equal) one two

/-! ### The operations on it -/

theorem count_wrote (value : α) (room : ring.count + 1 ≠ capacity) :
    (ring.wrote value).count = ring.count + 1 := by
  have reads := ring.read.isLt
  have writes := ring.write.isLt
  have counted : (ring.wrote value).count
      = if ring.read.val ≤ (after ring.write).val then (after ring.write).val - ring.read.val
        else (after ring.write).val + capacity - ring.read.val := count_eq _
  rw [counted, after_val]
  rw [count_eq] at room ⊢
  split_ifs at room ⊢ <;> omega

theorem count_advanced (some : ring.count ≠ 0) : ring.count = ring.advanced.count + 1 := by
  have reads := ring.read.isLt
  have writes := ring.write.isLt
  have counted : ring.advanced.count
      = if (after ring.read).val ≤ ring.write.val then ring.write.val - (after ring.read).val
        else ring.write.val + capacity - (after ring.read).val := count_eq _
  rw [counted, after_val]
  rw [count_eq] at some ⊢
  split_ifs at some ⊢ <;> omega

/-- A value that is taken goes behind the others. -/
theorem push_pending {ring ring' : RingBuffer α capacity} {value : α}
    (pushed : ring.push value = (ring', true)) : ring'.pending = ring.pending ++ [value] := by
  unfold push at pushed
  split_ifs at pushed with full
  · cases pushed
  · obtain rfl := (Prod.mk.inj pushed).1
    rw [full_iff] at full
    have room := ring.count_lt
    unfold pending
    rw [count_wrote ring value full, List.range_succ, List.map_append, List.map_singleton]
    congr 1
    · refine List.map_congr_left fun offset inside => ?_
      have before := List.mem_range.mp inside
      refine Function.update_of_ne (fun same => ?_) _ _
      have last : ring.cell offset = ring.cell ring.count := same.trans ring.cell_count.symm
      have := ring.cell_injective (by omega) room last
      omega
    · show [Function.update ring.cells ring.write value (ring.cell ring.count)] = [value]
      rw [cell_count, Function.update_self]

/-- With room for one more, a value is taken. -/
theorem push_accepted {ring : RingBuffer α capacity} (value : α) (room : ring.count + 1 < capacity) :
    ∃ ring', ring.push value = (ring', true) := by
  unfold push
  rw [if_neg (by rw [full_iff]; omega)]
  exact ⟨_, rfl⟩

theorem pop_none_iff {ring : RingBuffer α capacity} : ring.pop = none ↔ ring.pending = [] := by
  have empty := ring.empty_iff
  rw [← List.length_eq_zero_iff, pending_length, ← empty]
  unfold pop
  split_ifs with same
  · exact iff_of_true rfl same
  · exact iff_of_false (fun none => (nomatch none)) same

/-- The value that is read is the oldest one. -/
theorem pop_pending {ring ring' : RingBuffer α capacity} {value : α}
    (popped : ring.pop = some (value, ring')) : ring.pending = value :: ring'.pending := by
  unfold pop at popped
  split_ifs at popped with empty
  obtain ⟨rfl, rfl⟩ := Prod.mk.inj (Option.some.inj popped)
  rw [empty_iff] at empty
  unfold pending
  rw [ring.count_advanced empty, List.range_succ_eq_map, List.map_cons, List.map_map, cell_zero]
  congr 1
  refine List.map_congr_left fun offset inside => ?_
  have same : ring.cell (offset + 1) = ring.advanced.cell offset := by
    apply Fin.ext
    show (ring.read.val + (offset + 1)) % capacity = ((after ring.read).val + offset) % capacity
    unfold after
    rw [Nat.mod_add_mod, Nat.add_assoc, Nat.add_comm 1]
  show ring.cells (ring.cell (offset + 1)) = ring.cells (ring.advanced.cell offset)
  rw [same]

end RingBuffer
