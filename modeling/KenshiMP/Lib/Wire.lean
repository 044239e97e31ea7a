/-
**Fixed-size byte layouts.**

A `Codec` is a bijection between a type and the byte strings of one length, the laws carried as
fields, so that a layout composed from codecs needs no proof of its own: little-endian integers,
pairs, arrays, raw byte arrays and records over them (`Codec.iso`). This is the memory image of a
packed record: no padding, fields one after the other.
-/

import Mathlib.Tactic

universe u v

namespace Wire

/-- A byte string. -/
abbrev Bytes := List UInt8

/-- The bytes of an ASCII text. -/
def ascii (text : String) : Bytes := text.toList.map fun c => UInt8.ofNat c.toNat

/-! ### Little-endian numbers -/

/-- The low `count` base-256 digits, least significant first. -/
def leBytes : Nat → Nat → Bytes
  | 0, _ => []
  | count + 1, value => UInt8.ofNat (value % 256) :: leBytes count (value / 256)

/-- The number a little-endian byte string denotes. -/
def leValue : Bytes → Nat
  | [] => 0
  | byte :: rest => byte.toNat + 256 * leValue rest

theorem leBytes_length (count value : Nat) : (leBytes count value).length = count := by
  induction count generalizing value with
  | zero => rfl
  | succ count ih => simp [leBytes, ih]

theorem leValue_leBytes (count value : Nat) : leValue (leBytes count value) = value % 256 ^ count := by
  induction count generalizing value with
  | zero => simp [leBytes, leValue, Nat.mod_one]
  | succ count ih =>
    have digit : (UInt8.ofNat (value % 256)).toNat = value % 256 := by
      rw [UInt8.toNat_ofNat']
      omega
    rw [leBytes, leValue, ih, digit, pow_succ', Nat.mod_mul]

theorem leBytes_leValue (bytes : Bytes) : leBytes bytes.length (leValue bytes) = bytes := by
  induction bytes with
  | nil => rfl
  | cons byte rest ih =>
    have small : byte.toNat < 256 := byte.toNat_lt
    have low : (byte.toNat + 256 * leValue rest) % 256 = byte.toNat := by omega
    have high : (byte.toNat + 256 * leValue rest) / 256 = leValue rest := by omega
    rw [List.length_cons, leBytes, leValue, low, high, ih, UInt8.ofNat_toNat]

theorem leValue_lt (bytes : Bytes) : leValue bytes < 256 ^ bytes.length := by
  induction bytes with
  | nil => simp [leValue]
  | cons byte rest ih =>
    have small : byte.toNat < 256 := byte.toNat_lt
    rw [leValue, List.length_cons, pow_succ]
    omega

/-! ### Codecs -/

/-- A bijection between a type and the byte strings of one length. -/
structure Codec (α : Type u) where
  size : Nat
  encode : α → Bytes
  decode : Bytes → α
  length_encode : ∀ value, (encode value).length = size
  decode_encode : ∀ value, decode (encode value) = value
  encode_decode : ∀ bytes, bytes.length = size → encode (decode bytes) = bytes

namespace Codec

variable {α : Type u} {β : Type v}

/-- The same bytes, read as another type. -/
def iso (codec : Codec α) (read : α → β) (write : β → α)
    (read_write : ∀ b, read (write b) = b) (write_read : ∀ a, write (read a) = a) : Codec β where
  size := codec.size
  encode value := codec.encode (write value)
  decode bytes := read (codec.decode bytes)
  length_encode value := codec.length_encode _
  decode_encode value := by rw [codec.decode_encode, read_write]
  encode_decode bytes length := by rw [write_read, codec.encode_decode bytes length]

/-- The empty layout. -/
def unit : Codec Unit where
  size := 0
  encode _ := []
  decode _ := ()
  length_encode _ := rfl
  decode_encode _ := rfl
  encode_decode _ length := (List.length_eq_zero_iff.mp length).symm

/-- One layout after another. -/
def prod (first : Codec α) (second : Codec β) : Codec (α × β) where
  size := first.size + second.size
  encode value := first.encode value.1 ++ second.encode value.2
  decode bytes := (first.decode (bytes.take first.size), second.decode (bytes.drop first.size))
  length_encode value := by
    rw [List.length_append, first.length_encode, second.length_encode]
  decode_encode value := by
    have cut := first.length_encode value.1
    rw [List.take_left' cut, List.drop_left' cut, first.decode_encode, second.decode_encode]
  encode_decode bytes length := by
    rw [first.encode_decode _ (by rw [List.length_take]; omega),
      second.encode_decode _ (by rw [List.length_drop]; omega), List.take_append_drop]

/-- An array: the elements one after the other. -/
def array (codec : Codec α) : (count : Nat) → Codec (Fin count → α)
  | 0 => unit.iso (fun _ => Fin.elim0) (fun _ => ()) (fun _ => funext fun i => i.elim0) (fun _ => rfl)
  | count + 1 => (codec.prod (codec.array count)).iso
      (fun pair => Fin.cons pair.1 pair.2) (fun f => (f 0, Fin.tail f))
      (fun f => Fin.cons_self_tail f) (fun _ => rfl)

/-- A raw byte array of fixed length. -/
def raw (count : Nat) : Codec {bytes : Bytes // bytes.length = count} where
  size := count
  encode value := value.1
  decode bytes := ⟨bytes.takeD count 0, List.takeD_length count bytes 0⟩
  length_encode value := value.2
  decode_encode value := by
    apply Subtype.ext
    show List.takeD count value.1 0 = value.1
    rw [List.takeD_eq_take _ (le_of_eq value.2.symm)]
    exact List.take_of_length_le (le_of_eq value.2)
  encode_decode bytes length := by
    show List.takeD count bytes 0 = bytes
    rw [List.takeD_eq_take _ (le_of_eq length.symm)]
    exact List.take_of_length_le (le_of_eq length)

/-- A little-endian number below `256 ^ count`. -/
def le (count : Nat) : Codec (Fin (256 ^ count)) where
  size := count
  encode value := leBytes count value.val
  decode bytes := ⟨leValue bytes % 256 ^ count, Nat.mod_lt _ (by positivity)⟩
  length_encode value := leBytes_length count value.val
  decode_encode value := by
    apply Fin.ext
    show leValue (leBytes count value.val) % 256 ^ count = value.val
    rw [leValue_leBytes, Nat.mod_mod, Nat.mod_eq_of_lt value.isLt]
  encode_decode bytes length := by
    subst length
    show leBytes bytes.length (leValue bytes % 256 ^ bytes.length) = bytes
    rw [Nat.mod_eq_of_lt (leValue_lt bytes), leBytes_leValue]

/-- One byte. -/
def u8 : Codec UInt8 :=
  (le 1).iso (fun n => UInt8.ofNat n.val) (fun v => ⟨v.toNat, v.toNat_lt⟩)
    (fun _ => UInt8.ofNat_toNat) (fun n => Fin.ext (UInt8.toNat_ofNat_of_lt' n.isLt))

/-- A 16-bit number. -/
def u16 : Codec UInt16 :=
  (le 2).iso (fun n => UInt16.ofNat n.val) (fun v => ⟨v.toNat, v.toNat_lt⟩)
    (fun _ => UInt16.ofNat_toNat) (fun n => Fin.ext (UInt16.toNat_ofNat_of_lt' n.isLt))

/-- A 32-bit number. -/
def u32 : Codec UInt32 :=
  (le 4).iso (fun n => UInt32.ofNat n.val) (fun v => ⟨v.toNat, v.toNat_lt⟩)
    (fun _ => UInt32.ofNat_toNat) (fun n => Fin.ext (UInt32.toNat_ofNat_of_lt' n.isLt))

/-- A signed 32-bit number. -/
def i32 : Codec Int32 :=
  u32.iso UInt32.toInt32 Int32.toUInt32 (fun _ => rfl) (fun _ => rfl)

/-- The first `size` bytes of a longer string decode to what they encode. -/
theorem decode_take (codec : Codec α) (value : α) (rest : Bytes) :
    codec.decode ((codec.encode value ++ rest).take codec.size) = value := by
  rw [List.take_left' (codec.length_encode value), codec.decode_encode]

end Codec

end Wire
