/-
**What is written into a packet is read from it, and what is cut off is noticed.**

A packet is a program of typed writes. Reading by the same program gives the written values back and
ends at the last byte. Of a packet that has lost its end, everything before the cut is still read as
it was written, and the first read that runs into the cut fails.
-/

import KenshiMP.SpawnCodec

namespace KenshiMP

open Wire (Bytes Codec)
open Wire.Codec

/-! ### Writing -/

/-- The bytes written so far. -/
structure PacketWriter where
  data : Bytes := []

namespace PacketWriter

variable (writer : PacketWriter)

def writeBytes (bytes : Bytes) : PacketWriter := ⟨writer.data ++ bytes⟩

/-- The memory image of a value. -/
def writeRaw {α : Type} (codec : Codec α) (value : α) : PacketWriter :=
  writer.writeBytes (codec.encode value)

def writeHeader (type : UInt8) (seq : UInt16) (tick : UInt32) : PacketWriter :=
  writer.writeRaw PacketHeader.codec ⟨type, 0, seq, tick⟩

def writeU8 (v : UInt8) : PacketWriter := writer.writeRaw u8 v
def writeU16 (v : UInt16) : PacketWriter := writer.writeRaw u16 v
def writeU32 (v : UInt32) : PacketWriter := writer.writeRaw u32 v
def writeI32 (v : Int32) : PacketWriter := writer.writeRaw i32 v
def writeF32 (v : F32) : PacketWriter := writer.writeRaw f32 v

def writeVec3 (x y z : F32) : PacketWriter := ((writer.writeF32 x).writeF32 y).writeF32 z

/-- The length is cut to sixteen bits, and so is what is written behind it. -/
def writeString (s : Bytes) : PacketWriter :=
  let len := UInt16.ofNat s.length
  let headed := writer.writeU16 len
  if 0 < len then headed.writeBytes (s.take len.toNat) else headed

theorem writeString_data (s : Bytes) :
    (writer.writeString s).data = writer.data ++ u16.encode (UInt16.ofNat s.length)
      ++ s.take (UInt16.ofNat s.length).toNat := by
  show (if 0 < UInt16.ofNat s.length then _ else _ : PacketWriter).data = _
  split_ifs with some
  · rfl
  · have zero : (UInt16.ofNat s.length).toNat = 0 := by
      rw [UInt16.lt_iff_toNat_lt] at some
      exact Nat.eq_zero_of_not_pos some
    rw [zero, List.take_zero, List.append_nil]
    rfl

end PacketWriter

/-! ### Typed reads and writes -/

/-- A typed read. A raw block is read by its length, a string carries its own. -/
inductive Read where
  | header | u8 | u16 | u32 | i32 | f32 | vec3
  | raw (len : Nat)
  | string

namespace Read

/-- What a read returns. -/
def Value : Read → Type
  | header => PacketHeader
  | u8 => UInt8
  | u16 => UInt16
  | u32 => UInt32
  | i32 => Int32
  | f32 => F32
  | vec3 => F32 × F32 × F32
  | raw _ => Bytes
  | string => Bytes

def run : (read : Read) → PacketReader → Option (read.Value × PacketReader)
  | header, reader => reader.readRaw PacketHeader.codec
  | u8, reader => reader.readU8
  | u16, reader => reader.readU16
  | u32, reader => reader.readU32
  | i32, reader => reader.readI32
  | f32, reader => reader.readF32
  | vec3, reader => reader.readVec3
  | raw len, reader => reader.readBytes len
  | string, reader => reader.readString

/-- One read after the other; the first that fails ends it. -/
def runAll : List Read → PacketReader → Option (List (Sigma Value) × PacketReader)
  | [], reader => some ([], reader)
  | read :: rest, reader =>
    match read.run reader with
    | none => none
    | some (value, next) => (runAll rest next).map fun (values, last) => (⟨read, value⟩ :: values, last)

end Read

/-- A typed write. A string has at most 1024 bytes. -/
inductive Write where
  | header (type : UInt8) (seq : UInt16) (tick : UInt32)
  | u8 (v : UInt8)
  | u16 (v : UInt16)
  | u32 (v : UInt32)
  | i32 (v : Int32)
  | f32 (v : F32)
  | vec3 (x y z : F32)
  | raw (data : Bytes)
  | string (s : Bytes) (short : s.length ≤ 1024)

namespace Write

def run : Write → PacketWriter → PacketWriter
  | header type seq tick, writer => writer.writeHeader type seq tick
  | u8 v, writer => writer.writeU8 v
  | u16 v, writer => writer.writeU16 v
  | u32 v, writer => writer.writeU32 v
  | i32 v, writer => writer.writeI32 v
  | f32 v, writer => writer.writeF32 v
  | vec3 x y z, writer => writer.writeVec3 x y z
  | raw data, writer => writer.writeBytes data
  | string s _, writer => writer.writeString s

/-- The bytes of a packet. -/
def packet (writes : List Write) : Bytes :=
  (writes.foldl (fun writer (write : Write) => write.run writer) {}).data

/-- The read of the same type, with what it should return. -/
def item : Write → Sigma Read.Value
  | header type seq tick => ⟨.header, (⟨type, 0, seq, tick⟩ : PacketHeader)⟩
  | u8 v => ⟨.u8, v⟩
  | u16 v => ⟨.u16, v⟩
  | u32 v => ⟨.u32, v⟩
  | i32 v => ⟨.i32, v⟩
  | f32 v => ⟨.f32, v⟩
  | vec3 x y z => ⟨.vec3, (x, y, z)⟩
  | raw data => ⟨.raw data.length, data⟩
  | string s _ => ⟨.string, s⟩

/-! ### One write -/

/-- What a write appends. -/
def bytes (write : Write) : Bytes := (write.run {}).data

theorem run_data (write : Write) (writer : PacketWriter) :
    (write.run writer).data = writer.data ++ write.bytes := by
  cases write with
  | vec3 x y z =>
    show ((writer.data ++ _) ++ _) ++ _ = writer.data ++ ((([] ++ _) ++ _) ++ _)
    rw [List.nil_append, List.append_assoc, List.append_assoc, List.append_assoc]
  | string s short =>
    show (writer.writeString s).data = writer.data ++ (({} : PacketWriter).writeString s).data
    rw [PacketWriter.writeString_data, PacketWriter.writeString_data, List.nil_append,
      List.append_assoc]
  | _ => rfl

theorem length_toNat {s : Bytes} (short : s.length ≤ 1024) : (UInt16.ofNat s.length).toNat = s.length := by
  rw [UInt16.toNat_ofNat']
  omega

/-- A string is its length and its bytes. -/
theorem bytes_string {s : Bytes} (short : s.length ≤ 1024) :
    (string s short).bytes = Wire.Codec.u16.encode (UInt16.ofNat s.length) ++ s := by
  show (({} : PacketWriter).writeString s).data = _
  rw [PacketWriter.writeString_data, length_toNat short, List.take_length, List.nil_append]

/-- The bytes of a write ahead are read as its value. -/
theorem read_ahead (write : Write) (reader : PacketReader) (rest : Bytes)
    (ahead : reader.current = write.bytes ++ rest) :
    ∃ next, write.item.1.run reader = some (write.item.2, next) ∧ next.current = rest := by
  have fixed {α : Type} (codec : Codec α) (value : α)
      (ahead : reader.current = codec.encode value ++ rest) :
      ∃ next, reader.readRaw codec = some (value, next) ∧ next.current = rest := by
    obtain ⟨next, read, behind, -⟩ := PacketReader.readRaw_append codec reader value rest ahead
    exact ⟨next, read, behind⟩
  cases write with
  | header type seq tick => exact fixed PacketHeader.codec ⟨type, 0, seq, tick⟩ ahead
  | u8 v => exact fixed Wire.Codec.u8 v ahead
  | u16 v => exact fixed Wire.Codec.u16 v ahead
  | u32 v => exact fixed Wire.Codec.u32 v ahead
  | i32 v => exact fixed Wire.Codec.i32 v ahead
  | f32 v => exact fixed KenshiMP.f32 v ahead
  | vec3 x y z =>
    refine fixed (KenshiMP.f32.prod (KenshiMP.f32.prod KenshiMP.f32)) (x, y, z) ?_
    rw [ahead]
    show ((([] ++ KenshiMP.f32.encode x) ++ KenshiMP.f32.encode y) ++ KenshiMP.f32.encode z) ++ rest
      = (KenshiMP.f32.encode x ++ (KenshiMP.f32.encode y ++ KenshiMP.f32.encode z)) ++ rest
    rw [List.nil_append, List.append_assoc (KenshiMP.f32.encode x)]
  | raw data => exact PacketReader.readBytes_append reader data rest ahead
  | string s short =>
    rw [bytes_string, List.append_assoc] at ahead
    obtain ⟨next, read, behind, -⟩ := PacketReader.readRaw_append Wire.Codec.u16 reader
      (UInt16.ofNat s.length) (s ++ rest) ahead
    obtain ⟨last, text, end'⟩ := PacketReader.readBytes_append next s rest behind
    have len := length_toNat short
    refine ⟨last, ?_, end'⟩
    show reader.readString = some (s, last)
    unfold PacketReader.readString PacketReader.readU16
    rw [read]
    show (if 1024 < UInt16.ofNat s.length then none else next.readBytes _) = _
    rw [if_neg, len, text]
    rw [UInt16.lt_iff_toNat_lt, len]
    exact Nat.not_lt.mpr short

/-- The bytes of a write, cut short, are not read. -/
theorem read_cut (write : Write) (reader : PacketReader) {kept : Nat}
    (ahead : reader.current = write.bytes.take kept) (cut : kept < write.bytes.length) :
    write.item.1.run reader = none := by
  have short : reader.current.length < write.bytes.length := by
    rw [ahead, List.length_take]
    omega
  have fixed {α : Type} (codec : Codec α) (size : write.bytes.length = codec.size) :
      reader.readRaw codec = none := PacketReader.readRaw_short codec reader (size ▸ short)
  cases write with
  | header type seq tick =>
    exact fixed PacketHeader.codec (PacketHeader.codec.length_encode ⟨type, 0, seq, tick⟩)
  | u8 v => exact fixed Wire.Codec.u8 (Wire.Codec.u8.length_encode v)
  | u16 v => exact fixed Wire.Codec.u16 (Wire.Codec.u16.length_encode v)
  | u32 v => exact fixed Wire.Codec.u32 (Wire.Codec.u32.length_encode v)
  | i32 v => exact fixed Wire.Codec.i32 (Wire.Codec.i32.length_encode v)
  | f32 v => exact fixed KenshiMP.f32 (KenshiMP.f32.length_encode v)
  | vec3 x y z =>
    refine fixed (KenshiMP.f32.prod (KenshiMP.f32.prod KenshiMP.f32)) ?_
    show ((([] ++ _) ++ _) ++ _ : Bytes).length = _
    rw [List.length_append, List.length_append, List.nil_append, Codec.length_encode,
      Codec.length_encode, Codec.length_encode]
    rfl
  | raw data => exact PacketReader.readBytes_short reader short
  | string s short' =>
    rw [bytes_string] at ahead short cut
    have head := Codec.length_encode Wire.Codec.u16 (UInt16.ofNat s.length)
    have two : Wire.Codec.u16.size = 2 := rfl
    show reader.readString = none
    unfold PacketReader.readString PacketReader.readU16
    rcases Nat.lt_or_ge kept Wire.Codec.u16.size with early | late
    · rw [PacketReader.readRaw_short Wire.Codec.u16 reader]
      rw [ahead, List.length_take]
      omega
    · rw [List.take_append, List.take_of_length_le (by omega)] at ahead
      obtain ⟨next, read, behind, -⟩ := PacketReader.readRaw_append Wire.Codec.u16 reader
        (UInt16.ofNat s.length) _ ahead
      rw [read]
      have len := length_toNat short'
      show (if 1024 < UInt16.ofNat s.length then none else next.readBytes _) = none
      split_ifs
      · rfl
      · refine PacketReader.readBytes_short next ?_
        rw [behind, len, List.length_take]
        rw [List.length_append] at cut
        omega

/-! ### A packet -/

variable (writes : List Write)

theorem foldl_data (writer : PacketWriter) :
    (writes.foldl (fun writer (write : Write) => write.run writer) writer).data
      = writer.data ++ writes.flatMap bytes := by
  induction writes generalizing writer with
  | nil => exact (List.append_nil _).symm
  | cons write rest ih => rw [List.foldl_cons, ih, run_data, List.flatMap_cons, List.append_assoc]

/-- A packet is the bytes of its writes, one after the other. -/
theorem packet_eq : packet writes = writes.flatMap bytes :=
  (foldl_data writes {}).trans (List.nil_append _)

/-- What is ahead of a reader is read by the program it was written by. -/
theorem runAll_ahead (reader : PacketReader) (rest : Bytes)
    (ahead : reader.current = writes.flatMap bytes ++ rest) :
    ∃ last, Read.runAll (writes.map fun write : Write => write.item.1) reader
        = some (writes.map item, last) ∧ last.current = rest := by
  induction writes generalizing reader with
  | nil => exact ⟨reader, rfl, ahead⟩
  | cons write others ih =>
    rw [List.flatMap_cons, List.append_assoc] at ahead
    obtain ⟨next, read, behind⟩ := read_ahead write reader _ ahead
    obtain ⟨last, reads, end'⟩ := ih next behind
    refine ⟨last, ?_, end'⟩
    rw [List.map_cons, Read.runAll, read]
    show Option.map _ (Read.runAll (others.map fun write : Write => write.item.1) next) = _
    rw [reads]
    rfl

/-- A place in a packet is inside one of its writes. -/
theorem exists_cut {kept : Nat} (cut : kept < (writes.flatMap bytes).length) :
    ∃ before write after, writes = before ++ write :: after
      ∧ (before.flatMap bytes).length ≤ kept
      ∧ kept < (before.flatMap bytes).length + write.bytes.length := by
  induction writes generalizing kept with
  | nil => exact absurd cut (Nat.not_lt_zero kept)
  | cons first rest ih =>
    rcases Nat.lt_or_ge kept first.bytes.length with here | later
    · exact ⟨[], first, rest, rfl, Nat.zero_le kept, by rw [List.flatMap_nil, List.length_nil]; omega⟩
    · rw [List.flatMap_cons, List.length_append] at cut
      obtain ⟨before, write, after, rfl, reached, inside⟩ :=
        ih (show kept - first.bytes.length < _ by omega)
      refine ⟨first :: before, write, after, rfl, ?_, ?_⟩ <;>
        rw [List.flatMap_cons, List.length_append] <;> omega

end Write

/-- **The round trip.** A packet is read by the program it was written by, to the last byte; cut off
anywhere, it is read as it was written up to the write in which the cut is, and that read fails. -/
theorem packet_roundTrip (writes : List Write) :
    (∃ last, Read.runAll (writes.map fun write : Write => write.item.1)
        (.start (Write.packet writes)) = some (writes.map Write.item, last) ∧ last.remaining = 0)
      ∧ ∀ kept < (Write.packet writes).length, ∃ before write after,
        writes = before ++ write :: after
          ∧ (Write.packet before).length ≤ kept ∧ kept < (Write.packet (before ++ [write])).length
          ∧ ∃ reader, Read.runAll (before.map fun write : Write => write.item.1)
              (.start ((Write.packet writes).take kept)) = some (before.map Write.item, reader)
            ∧ write.item.1.run reader = none := by
  constructor
  · obtain ⟨last, reads, behind⟩ := Write.runAll_ahead writes (.start (Write.packet writes)) []
      (by rw [List.append_nil, ← Write.packet_eq]; rfl)
    refine ⟨last, reads, ?_⟩
    have length := congrArg List.length behind
    unfold PacketReader.current at length
    rw [List.length_drop] at length
    exact length
  · intro kept cut
    rw [Write.packet_eq] at cut
    obtain ⟨before, write, after, rfl, reached, inside⟩ := Write.exists_cut writes cut
    have start : (PacketReader.start ((Write.packet (before ++ write :: after)).take kept)).current
        = before.flatMap Write.bytes
          ++ write.bytes.take (kept - (before.flatMap Write.bytes).length) := by
      show ((Write.packet (before ++ write :: after)).take kept).drop 0 = _
      rw [List.drop_zero, Write.packet_eq, List.flatMap_append, List.flatMap_cons, List.take_append,
        List.take_of_length_le reached, List.take_append_of_le_length (by omega)]
    obtain ⟨reader, reads, behind⟩ := Write.runAll_ahead before _ _ start
    refine ⟨before, write, after, rfl, ?_, ?_, reader, reads, ?_⟩
    · rw [Write.packet_eq]
      exact reached
    · rw [Write.packet_eq, List.flatMap_append, List.length_append, List.flatMap_singleton]
      exact inside
    · exact Write.read_cut write reader behind (by omega)

end KenshiMP
