/-
**Reads that fail half-way.**

The handlers stop at the first read that fails, and for them `PacketReader` need not say where such a
read leaves the cursor. Here it is kept: a read returns whether it succeeded, the cursor, and what the
variables of the caller hold. A vector is read number by number, a string has its length read first.

* `readRaw_within`, `readRaw_failed`: a read of one value stays inside, and fails without a trace;
* `failed_read_iff`: after any reads, a read that fails leaves all as it was exactly if it fails at its
  first part. `failed_read_moves`: a vector of which one number is there.
-/

import KenshiMP.Protocol

namespace KenshiMP

open Wire (Bytes Codec)
open Wire.Codec

/-- A packet in memory, and a position. -/
structure Cursor where
  data : Bytes
  pos : Nat := 0
  addressable : data.length < 2 ^ 63

namespace Cursor

/-- Whether a read succeeded, where it ended, and what its variables hold. -/
structure Result (α : Type) where
  ok : Bool
  cursor : Cursor
  out : α

def Result.map {α β : Type} (f : α → β) (result : Result α) : Result β :=
  ⟨result.ok, result.cursor, f result.out⟩

section Reads

variable (cursor : Cursor)

/-- `m_pos + len`, as a `size_t`. -/
def plus (len : Nat) : Nat := (cursor.pos + len) % 2 ^ 64

def remaining : Nat := cursor.data.length - cursor.pos

def ahead (len : Nat) : Bytes := (cursor.data.drop cursor.pos).take len

def advance (len : Nat) : Cursor := { cursor with pos := cursor.plus len }

/-- `ReadRaw` of a value. -/
def readRaw {α : Type} (codec : Codec α) (v : α) : Result α :=
  if cursor.data.length < cursor.plus codec.size then ⟨false, cursor, v⟩
  else ⟨true, cursor.advance codec.size, codec.decode (cursor.ahead codec.size)⟩

/-- `ReadRaw` of some bytes. A length for which the sum wraps around passes the check; what is copied
then is out of bounds, and not described here. -/
def readBlock (len : UInt64) (out : Bytes) : Result Bytes :=
  if cursor.data.length < cursor.plus len.toNat then ⟨false, cursor, out⟩
  else ⟨true, cursor.advance len.toNat, cursor.ahead len.toNat ++ out.drop len.toNat⟩

def readHeader (h : PacketHeader) : Result PacketHeader := cursor.readRaw PacketHeader.codec h
def readU8 (v : UInt8) : Result UInt8 := cursor.readRaw u8 v
def readU16 (v : UInt16) : Result UInt16 := cursor.readRaw u16 v
def readU32 (v : UInt32) : Result UInt32 := cursor.readRaw u32 v
def readI32 (v : Int32) : Result Int32 := cursor.readRaw i32 v
def readF32 (v : F32) : Result F32 := cursor.readRaw f32 v

/-- `ReadF32(x) && ReadF32(y) && ReadF32(z)` -/
def readVec3 (x y z : F32) : Result (F32 × F32 × F32) :=
  let first := cursor.readF32 x
  if first.ok then
    let second := first.cursor.readF32 y
    if second.ok then (second.cursor.readF32 z).map fun z => (first.out, second.out, z)
    else ⟨false, second.cursor, first.out, second.out, z⟩
  else ⟨false, first.cursor, first.out, y, z⟩

/-- The length first; a text that is too long or not there leaves the position behind the length. -/
def readString (s : Bytes) (maxLen : UInt16) : Result Bytes :=
  let len := cursor.readU16 0
  if len.ok then
    if maxLen < len.out then ⟨false, len.cursor, s⟩
    else if len.cursor.data.length < len.cursor.plus len.out.toNat then ⟨false, len.cursor, s⟩
    else ⟨true, len.cursor.advance len.out.toNat, len.cursor.ahead len.out.toNat⟩
  else ⟨false, len.cursor, s⟩

end Reads

/-! ### Any read -/

/-- A read, with what its variables hold. -/
inductive Read where
  | header (h : PacketHeader)
  | u8 (v : UInt8)
  | u16 (v : UInt16)
  | u32 (v : UInt32)
  | i32 (v : Int32)
  | f32 (v : F32)
  | vec3 (x y z : F32)
  | string (s : Bytes) (maxLen : UInt16)
  | raw (out : Bytes) (len : UInt64)

def run (cursor : Cursor) : Read → Result Read
  | .header h => (cursor.readHeader h).map .header
  | .u8 v => (cursor.readU8 v).map .u8
  | .u16 v => (cursor.readU16 v).map .u16
  | .u32 v => (cursor.readU32 v).map .u32
  | .i32 v => (cursor.readI32 v).map .i32
  | .f32 v => (cursor.readF32 v).map .f32
  | .vec3 x y z => (cursor.readVec3 x y z).map fun (x, y, z) => .vec3 x y z
  | .string s maxLen => (cursor.readString s maxLen).map fun s => .string s maxLen
  | .raw out len => (cursor.readBlock len out).map fun out => .raw out len

/-- Where some reads end, whether they succeed or not. -/
def after (cursor : Cursor) (reads : List Read) : Cursor :=
  reads.foldl (fun cursor read => (cursor.run read).cursor) cursor

/-! ### One value -/

/-- The position is inside the packet or at its end. -/
def Within (cursor : Cursor) : Prop := cursor.pos ≤ cursor.data.length

section Value

variable {cursor : Cursor} {α : Type} {codec : Codec α}

/-- **A read of one value fails without a trace.** -/
theorem readRaw_failed {v : α} (fails : (cursor.readRaw codec v).ok = false) :
    cursor.readRaw codec v = ⟨false, cursor, v⟩ := by
  unfold readRaw at fails ⊢
  split_ifs at fails ⊢
  rfl

theorem readRaw_data (v : α) : (cursor.readRaw codec v).cursor.data = cursor.data := by
  unfold readRaw
  split_ifs
  · rfl
  · rfl

/-- **It stays inside.** -/
theorem readRaw_within (within : cursor.Within) (v : α) : (cursor.readRaw codec v).cursor.Within := by
  unfold readRaw
  split_ifs with fits
  · exact within
  · exact not_lt.mp fits

theorem plus_of_within (within : cursor.Within) {len : Nat} (small : len < 2 ^ 63) :
    cursor.plus len = cursor.pos + len := by
  have bound := cursor.addressable
  unfold Within at within
  exact Nat.mod_eq_of_lt (by omega)

section Small

variable (within : cursor.Within) (small : codec.size < 2 ^ 63)

include within small

theorem readRaw_ok_iff (v : α) : (cursor.readRaw codec v).ok = true ↔ codec.size ≤ cursor.remaining := by
  have sum := plus_of_within within small
  unfold Within at within
  unfold readRaw remaining
  rw [sum]
  split_ifs with short
  · exact iff_of_false id (by omega)
  · exact iff_of_true rfl (by omega)

theorem readRaw_pos {v : α} (ok : (cursor.readRaw codec v).ok = true) :
    (cursor.readRaw codec v).cursor.pos = cursor.pos + codec.size := by
  have sum := plus_of_within within small
  unfold readRaw at ok ⊢
  split_ifs at ok ⊢
  exact sum

theorem readRaw_pos_le (v : α) : cursor.pos ≤ (cursor.readRaw codec v).cursor.pos := by
  cases ok : (cursor.readRaw codec v).ok with
  | false => rw [readRaw_failed ok]
  | true =>
    rw [readRaw_pos within small ok]
    exact Nat.le_add_right _ _

end Small

end Value

/-! ### Reads of several parts -/

section Parts

variable {cursor : Cursor}

theorem map_cursor {α β : Type} (f : α → β) (result : Result α) : (result.map f).cursor = result.cursor := rfl

theorem readF32_data (cursor : Cursor) (v : F32) : (cursor.readF32 v).cursor.data = cursor.data :=
  readRaw_data v

theorem readF32_within (within : cursor.Within) (v : F32) : (cursor.readF32 v).cursor.Within :=
  readRaw_within within v

theorem readF32_pos_le (within : cursor.Within) (v : F32) :
    cursor.pos ≤ (cursor.readF32 v).cursor.pos := readRaw_pos_le within (by decide) v

theorem readVec3_data (x y z : F32) : (cursor.readVec3 x y z).cursor.data = cursor.data := by
  unfold readVec3
  dsimp only
  split_ifs
  · rw [map_cursor, readF32_data, readF32_data, readF32_data]
  · rw [readF32_data, readF32_data]
  · rw [readF32_data]

theorem readVec3_within (within : cursor.Within) (x y z : F32) : (cursor.readVec3 x y z).cursor.Within := by
  have first := readF32_within within x
  have second := readF32_within first y
  unfold readVec3
  dsimp only
  split_ifs
  · rw [map_cursor]
    exact readF32_within second z
  · exact second
  · exact first

/-- **A vector** of which a number is there moves the cursor, whether it fails or not. -/
theorem readVec3_still_iff (within : cursor.Within) {x y z : F32} :
    (cursor.readVec3 x y z).cursor = cursor ∧ (cursor.readVec3 x y z).out = (x, y, z)
      ↔ cursor.remaining < 4 := by
  have small : f32.size < 2 ^ 63 := by decide
  have fits : (cursor.readF32 x).ok = true ↔ 4 ≤ cursor.remaining := readRaw_ok_iff within small x
  have inside := readF32_within within x
  by_cases ok : (cursor.readF32 x).ok = true
  · have enough : 4 ≤ cursor.remaining := fits.mp ok
    refine iff_of_false (fun same => ?_) (not_lt.mpr enough)
    have moved : (cursor.readF32 x).cursor.pos = cursor.pos + 4 := readRaw_pos within small ok
    have on := readF32_pos_le inside y
    have further := readF32_pos_le (readF32_within inside y) z
    have stays := congrArg Cursor.pos same.1
    unfold readVec3 at stays
    dsimp only at stays
    rw [if_pos ok] at stays
    split_ifs at stays
    · rw [map_cursor] at stays
      omega
    · dsimp only at stays
      omega
  · have none : cursor.readRaw f32 x = ⟨false, cursor, x⟩ := readRaw_failed (Bool.eq_false_iff.mpr ok)
    refine iff_of_true ?_ (not_le.mp (mt fits.mpr ok))
    unfold readVec3 readF32
    rw [none]
    exact ⟨rfl, rfl⟩

theorem readString_data (s : Bytes) (maxLen : UInt16) :
    (cursor.readString s maxLen).cursor.data = cursor.data := by
  unfold readString
  dsimp only
  split_ifs
  all_goals exact readRaw_data 0

theorem readString_within (within : cursor.Within) (s : Bytes) (maxLen : UInt16) :
    (cursor.readString s maxLen).cursor.Within := by
  have head : (cursor.readU16 0).cursor.Within := readRaw_within within 0
  unfold readString
  dsimp only
  split_ifs with _ _ fits
  · exact head
  · exact head
  · exact not_lt.mp fits
  · exact head

/-- **A string** whose length is there moves the cursor, even if it fails. -/
theorem readString_failed_iff (within : cursor.Within) {s : Bytes} {maxLen : UInt16}
    (fails : (cursor.readString s maxLen).ok = false) :
    (cursor.readString s maxLen).cursor = cursor ∧ (cursor.readString s maxLen).out = s
      ↔ cursor.remaining < 2 := by
  have small : u16.size < 2 ^ 63 := by decide
  have fits := readRaw_ok_iff within small 0
  by_cases ok : (cursor.readU16 0).ok = true
  · have enough : 2 ≤ cursor.remaining := fits.mp ok
    refine iff_of_false (fun same => ?_) (not_lt.mpr enough)
    have moved : (cursor.readU16 0).cursor.pos = cursor.pos + 2 := readRaw_pos within small ok
    have stays := congrArg Cursor.pos same.1
    unfold readString at stays fails
    dsimp only at stays fails
    rw [if_pos ok] at stays fails
    split_ifs at stays fails
    · have ends : (cursor.readU16 0).cursor.pos = cursor.pos := stays
      omega
    · have ends : (cursor.readU16 0).cursor.pos = cursor.pos := stays
      omega
  · have none : cursor.readRaw u16 0 = ⟨false, cursor, 0⟩ := readRaw_failed (Bool.eq_false_iff.mpr ok)
    refine iff_of_true ?_ (not_le.mp (mt fits.mpr ok))
    unfold readString readU16
    rw [none]
    exact ⟨rfl, rfl⟩

theorem readBlock_data (len : UInt64) (out : Bytes) :
    (cursor.readBlock len out).cursor.data = cursor.data := by
  unfold readBlock
  split_ifs
  · rfl
  · rfl

theorem readBlock_within (within : cursor.Within) (len : UInt64) (out : Bytes) :
    (cursor.readBlock len out).cursor.Within := by
  unfold readBlock
  split_ifs with fits
  · exact within
  · exact not_lt.mp fits

theorem readBlock_failed {len : UInt64} {out : Bytes} (fails : (cursor.readBlock len out).ok = false) :
    cursor.readBlock len out = ⟨false, cursor, out⟩ := by
  unfold readBlock at fails ⊢
  split_ifs at fails ⊢
  rfl

end Parts

/-! ### Any read, after any reads -/

section Runs

variable {cursor : Cursor}

theorem run_data (read : Read) : (cursor.run read).cursor.data = cursor.data := by
  cases read with
  | vec3 x y z => exact readVec3_data x y z
  | string s maxLen => exact readString_data s maxLen
  | raw out len => exact readBlock_data len out
  | header h => exact readRaw_data h
  | u8 v => exact readRaw_data v
  | u16 v => exact readRaw_data v
  | u32 v => exact readRaw_data v
  | i32 v => exact readRaw_data v
  | f32 v => exact readRaw_data v

theorem run_within (within : cursor.Within) (read : Read) : (cursor.run read).cursor.Within := by
  cases read with
  | vec3 x y z => exact readVec3_within within x y z
  | string s maxLen => exact readString_within within s maxLen
  | raw out len => exact readBlock_within within len out
  | header h => exact readRaw_within within h
  | u8 v => exact readRaw_within within v
  | u16 v => exact readRaw_within within v
  | u32 v => exact readRaw_within within v
  | i32 v => exact readRaw_within within v
  | f32 v => exact readRaw_within within v

/-- Whatever is read, the position stays inside. -/
theorem after_within (within : cursor.Within) (reads : List Read) :
    (cursor.after reads).Within ∧ (cursor.after reads).data = cursor.data := by
  induction reads generalizing cursor with
  | nil => exact ⟨within, rfl⟩
  | cons read rest ih =>
    obtain ⟨stays, same⟩ := ih (run_within within read)
    exact ⟨stays, same.trans (run_data read)⟩

/-- The first part of the read is there, and there are more. -/
def Halfway (cursor : Cursor) : Read → Prop
  | .vec3 _ _ _ => 4 ≤ cursor.remaining
  | .string _ _ => 2 ≤ cursor.remaining
  | _ => False

/-- **A read that fails has changed nothing**, unless it has come halfway. -/
theorem run_failed_iff (within : cursor.Within) {read : Read} (fails : (cursor.run read).ok = false) :
    (cursor.run read).cursor = cursor ∧ (cursor.run read).out = read ↔ ¬ cursor.Halfway read := by
  have one {α : Type} {codec : Codec α} {v : α} {f : α → Read}
      (failed : (cursor.readRaw codec v).ok = false) :
      ((cursor.readRaw codec v).map f).cursor = cursor ∧ ((cursor.readRaw codec v).map f).out = f v
        ↔ ¬ False := by
    rw [readRaw_failed failed]
    exact iff_of_true ⟨rfl, rfl⟩ id
  cases read with
  | vec3 x y z =>
    refine Iff.trans (and_congr_right fun _ => ?_) ((readVec3_still_iff within).trans not_le.symm)
    show Read.vec3 _ _ _ = _ ↔ _
    rw [Read.vec3.injEq, Prod.ext_iff, Prod.ext_iff]
  | string s maxLen =>
    refine Iff.trans (and_congr_right fun _ => ?_) ((readString_failed_iff within fails).trans not_le.symm)
    show Read.string _ _ = _ ↔ _
    rw [Read.string.injEq, and_iff_left rfl]
  | raw out len =>
    have none : cursor.readBlock len out = ⟨false, cursor, out⟩ := readBlock_failed fails
    show ((cursor.readBlock len out).map _).cursor = cursor ∧ ((cursor.readBlock len out).map _).out = _ ↔ _
    rw [none]
    exact iff_of_true ⟨rfl, rfl⟩ id
  | header h => exact one fails
  | u8 v => exact one fails
  | u16 v => exact one fails
  | u32 v => exact one fails
  | i32 v => exact one fails
  | f32 v => exact one fails

end Runs

/-- **After any reads** the cursor is inside, and a read that fails leaves it and the variables as they
were exactly if it does not fail half-way. -/
theorem failed_read_iff (data : Bytes) (addressable : data.length < 2 ^ 63) (reads : List Read)
    (read : Read) :
    let cursor := (Cursor.mk data 0 addressable).after reads
    cursor.pos ≤ data.length
      ∧ ((cursor.run read).ok = false →
        ((cursor.run read).cursor = cursor ∧ (cursor.run read).out = read ↔ ¬ cursor.Halfway read)) := by
  intro cursor
  have starts : (Cursor.mk data 0 addressable).Within := Nat.zero_le _
  obtain ⟨within, same⟩ := after_within starts reads
  refine ⟨?_, run_failed_iff within⟩
  have inside : cursor.pos ≤ cursor.data.length := within
  rwa [same] at inside

/-! ### One number of a vector -/

/-- Four bytes. -/
def oneNumber : Cursor := ⟨[0, 0, 0x80, 0x3F], 0, by decide⟩

theorem failed_read_word :
    [(0 : UInt8), 0, 0x80, 0x3F].length < 2 ^ 63
      ∧ (oneNumber.after []).pos ≤ 4
      ∧ ((oneNumber.after []).run (.raw [] 5)).cursor = oneNumber.after [] := by
  have addressable : [(0 : UInt8), 0, 0x80, 0x3F].length < 2 ^ 63 := by decide
  obtain ⟨inside, unchanged⟩ := failed_read_iff [0, 0, 0x80, 0x3F] addressable [] (.raw [] 5)
  have fails : (oneNumber.run (.raw [] 5)).ok = false := by decide +kernel
  exact ⟨addressable, inside, ((unchanged fails).mpr id).1⟩

/-- The first coordinate is read, and the cursor is behind it. -/
theorem failed_read_moves :
    (oneNumber.run (.vec3 (lit 0 1) (lit 0 1) (lit 0 1))).ok = false
      ∧ (oneNumber.run (.vec3 (lit 0 1) (lit 0 1) (lit 0 1))).cursor.pos = 4
      ∧ ((oneNumber.run (.vec3 (lit 0 1) (lit 0 1) (lit 0 1))).out
        = .vec3 (lit 1 1) (lit 0 1) (lit 0 1))
      ∧ ¬ ((oneNumber.run (.vec3 (lit 0 1) (lit 0 1) (lit 0 1))).cursor = oneNumber
        ∧ (oneNumber.run (.vec3 (lit 0 1) (lit 0 1) (lit 0 1))).out
          = .vec3 (lit 0 1) (lit 0 1) (lit 0 1)) := by
  have moved : (oneNumber.run (.vec3 (lit 0 1) (lit 0 1) (lit 0 1))).cursor.pos = 4 := by decide +kernel
  have first : (oneNumber.run (.vec3 (lit 0 1) (lit 0 1) (lit 0 1))).out
      = .vec3 (lit 1 1) (lit 0 1) (lit 0 1) := by
    have number : (oneNumber.readF32 (lit 0 1)).out = lit 1 1 := by decide +kernel
    exact congrArg (fun x => Read.vec3 x (lit 0 1) (lit 0 1)) number
  refine ⟨by decide +kernel, moved, first, fun both => ?_⟩
  have stays := congrArg Cursor.pos both.1
  rw [moved] at stays
  exact absurd stays (by decide)

end Cursor

end KenshiMP
