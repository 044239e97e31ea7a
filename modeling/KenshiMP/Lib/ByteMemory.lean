/-
**A byte-addressed memory that wraps around, and what is read back from it.**

Numbers are stored little-endian in some bytes from an address on. `Covers address count` are these
bytes; the address space is circular, so it is asked how far a place is *behind* the address. What is
stored is read back (`read_write`), unless it is too large, and everything else is left
(`read_write_apart`, `write_outside`).
-/

import KenshiMP.Lib.Wire

namespace ByteMemory

open Wire

/-- A byte for every address. -/
abbrev Memory (width : Nat) := BitVec width → UInt8

variable {width : Nat}

/-- The place is one of the bytes from the address on. -/
def Covers (address : BitVec width) (count : Nat) (place : BitVec width) : Prop :=
  (place - address).toNat < count

instance (address : BitVec width) (count : Nat) (place : BitVec width) :
    Decidable (Covers address count place) := inferInstanceAs (Decidable (_ < _))

/-- The number in some bytes. -/
def read (count : Nat) (memory : Memory width) (address : BitVec width) : Nat :=
  leValue ((List.range count).map fun i => memory (address + BitVec.ofNat width i))

def write (count : Nat) (memory : Memory width) (address : BitVec width) (value : Nat) : Memory width :=
  fun place => if Covers address count place
    then (leBytes count value).getD (place - address).toNat 0 else memory place

variable {memory other : Memory width} {address : BitVec width} {count : Nat}

/-- How far a byte is behind the address. -/
theorem sub_toNat {i : Nat} (small : i < 2 ^ width) (address : BitVec width) :
    (address + BitVec.ofNat width i - address).toNat = i := by
  rw [BitVec.add_comm, BitVec.add_sub_cancel, BitVec.toNat_ofNat, Nat.mod_eq_of_lt small]

theorem covers_add {i : Nat} (small : i < count) (fits : count ≤ 2 ^ width) (address : BitVec width) :
    Covers address count (address + BitVec.ofNat width i) := by
  unfold Covers
  rw [sub_toNat (lt_of_lt_of_le small fits)]
  exact small

/-- Without wrapping around. -/
theorem covers_iff (fits : address.toNat + count ≤ 2 ^ width) (place : BitVec width) :
    Covers address count place ↔ address.toNat ≤ place.toNat ∧ place.toNat < address.toNat + count := by
  have bound := place.isLt
  have bound' := address.isLt
  unfold Covers
  rw [BitVec.toNat_sub]
  by_cases behind : address.toNat ≤ place.toNat
  · rw [show 2 ^ width - address.toNat + place.toNat = place.toNat - address.toNat + 2 ^ width by omega,
      Nat.add_mod_right, Nat.mod_eq_of_lt (by omega)]
    omega
  · rw [Nat.mod_eq_of_lt (by omega)]
    omega

theorem read_congr (same : ∀ i < count, memory (address + BitVec.ofNat width i)
      = other (address + BitVec.ofNat width i)) :
    read count memory address = read count other address := by
  unfold read
  exact congrArg leValue (List.map_congr_left fun i member => same i (List.mem_range.mp member))

/-- What lies in the covered bytes decides. -/
theorem read_congr_covers (fits : count ≤ 2 ^ width)
    (same : ∀ place, Covers address count place → memory place = other place) :
    read count memory address = read count other address :=
  read_congr fun _ small => same _ (covers_add small fits address)

theorem write_outside {place : BitVec width} (outside : ¬ Covers address count place) (value : Nat) :
    write count memory address value place = memory place := if_neg outside

theorem write_inside {i : Nat} (small : i < count) (fits : count ≤ 2 ^ width) (value : Nat) :
    write count memory address value (address + BitVec.ofNat width i) = (leBytes count value).getD i 0 := by
  unfold write
  rw [if_pos (covers_add small fits address), sub_toNat (lt_of_lt_of_le small fits)]

/-- **What is stored is read back.** -/
theorem read_write (fits : count ≤ 2 ^ width) (value : Nat) :
    read count (write count memory address value) address = value % 256 ^ count := by
  have bytes : (List.range count).map (fun i =>
      write count memory address value (address + BitVec.ofNat width i)) = leBytes count value := by
    refine List.ext_getElem (by simp [leBytes_length]) fun i small small' => ?_
    rw [List.length_map, List.length_range] at small
    rw [List.getElem_map, List.getElem_range, write_inside small fits,
      List.getD_eq_getElem?_getD, List.getElem?_eq_getElem small', Option.getD_some]
  unfold read
  rw [bytes, leValue_leBytes]

theorem read_write_apart {count' : Nat} {address' : BitVec width} (fits : count ≤ 2 ^ width)
    (apart : ∀ place, Covers address count place → ¬ Covers address' count' place) (value : Nat) :
    read count (write count' memory address' value) address = read count memory address :=
  read_congr_covers fits fun place inside => write_outside (apart place inside) value

/-- The last of two values stays. -/
theorem write_write (first second : Nat) :
    write count (write count memory address first) address second = write count memory address second := by
  funext place
  unfold write
  by_cases inside : Covers address count place
  · rw [if_pos inside, if_pos inside]
  · rw [if_neg inside, if_neg inside, if_neg inside]

/-- Storing what is there changes nothing. -/
theorem write_read : write count memory address (read count memory address) = memory := by
  funext place
  unfold write read
  by_cases inside : Covers address count place
  · have length : ((List.range count).map fun i =>
        memory (address + BitVec.ofNat width i)).length = count := by
      rw [List.length_map, List.length_range]
    have bytes := leBytes_leValue ((List.range count).map fun i =>
      memory (address + BitVec.ofNat width i))
    rw [length] at bytes
    rw [if_pos inside, bytes, List.getD_eq_getElem?_getD,
      List.getElem?_eq_getElem (by rw [length]; exact inside), Option.getD_some, List.getElem_map, List.getElem_range, BitVec.ofNat_toNat, BitVec.setWidth_eq,
      BitVec.add_comm, BitVec.sub_add_cancel]
  · rw [if_neg inside]

end ByteMemory
