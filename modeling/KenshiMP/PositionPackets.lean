/-
**Whether the server reads from a position packet what the client has put into it.**

A record has 28 bytes on the server. The poll writes 24 of them, without the generation, so the
server finds no record in its packets (`pollPacket_unreadable`). The background read writes whole
records behind a count of eight bits, and leaves their generation unset, so its packet is read as it
was meant exactly if there are at most 255 records and the stack holds the generations
(`positionPackets_iff`).
-/

import KenshiMP.Client.Senders

namespace KenshiMP

open Wire (Bytes)
open Wire.Codec
open GameServer
open SyncOrchestrator

/-! ### What the server reads -/

/-- The server reads exactly these records from a position packet, and nothing is left over. -/
def ReadAsMeant (data : Bytes) (records : List CharacterPosition) : Prop :=
  ∃ reader count rest last, openPacket data KMP_CHANNEL_UNRELIABLE_SEQ = some (.C2S_PositionUpdate, reader)
    ∧ reader.readU8 = some (count, rest) ∧ readPositions count.toNat rest = (records, last)
    ∧ last.current = []

/-- Behind the count, the records are read from the body. -/
theorem readAsMeant_iff (count : UInt8) (body : Bytes) :
    ∃ rest : PacketReader, rest.current = body ∧ ∀ records,
      ReadAsMeant (writeHeader .C2S_PositionUpdate ++ (u8.encode count ++ body)) records
        ↔ ∃ last, readPositions count.toNat rest = (records, last) ∧ last.current = [] := by
  obtain ⟨reader, opened, ahead⟩ := @openPacket_packet
    ⟨MessageType.code .C2S_PositionUpdate, 0, 0, 0⟩ .C2S_PositionUpdate rfl
    KMP_CHANNEL_UNRELIABLE_SEQ rfl (u8.encode count ++ body)
  obtain ⟨rest, read, behind, -⟩ := PacketReader.readRaw_append u8 reader count body ahead
  refine ⟨rest, behind, fun records => ⟨?_, ?_⟩⟩
  · rintro ⟨reader', count', rest', last, opened', read', found, empty⟩
    obtain ⟨-, rfl⟩ := Prod.mk.inj (Option.some.inj (opened.symm.trans opened'))
    obtain ⟨rfl, rfl⟩ := Prod.mk.inj (Option.some.inj (read.symm.trans read'))
    exact ⟨last, found, empty⟩
  · rintro ⟨last, found, empty⟩
    exact ⟨reader, count, rest, last, opened, read, found, empty⟩

/-! ### The poll -/

/-- The server finds no record in a packet of the poll. -/
theorem pollPacket_unreadable (pos : CharacterPosition) (records : List CharacterPosition) :
    ¬ ReadAsMeant (pollPacket pos) records := by
  let fields := (u32.prod (f32.prod (f32.prod (f32.prod (u32.prod (u8.prod (u8.prod u16)))))))
  let body := fields.encode (pos.entityId, pos.posX, pos.posY, pos.posZ, pos.compressedQuat,
    pos.animStateId, pos.moveSpeed, pos.flags)
  have split : pollPacket pos = writeHeader .C2S_PositionUpdate ++ (u8.encode 1 ++ body) := rfl
  have length : body.length = 24 := fields.length_encode _
  obtain ⟨rest, behind, read⟩ := readAsMeant_iff 1 body
  rw [split, read]
  rintro ⟨last, found, empty⟩
  have short : rest.readRaw CharacterPosition.codec = none := by
    refine PacketReader.readRaw_short _ _ ?_
    rw [behind, length]
    decide
  have none : readPositions 1 rest = ([], rest) := by
    rw [readPositions, short]
  rw [show (1 : UInt8).toNat = 1 from rfl, none] at found
  cases found
  rw [behind] at empty
  rw [empty] at length
  cases length

/-! ### The background read -/

/-- A list of records behind its count is read whole exactly if the count does not wrap. -/
theorem positionBody_read (written records : List CharacterPosition) :
    ReadAsMeant (writeHeader .C2S_PositionUpdate ++ positionBody written) records
      ↔ written.length < 256 ∧ records = written := by
  obtain ⟨rest, behind, read⟩ := readAsMeant_iff (UInt8.ofNat written.length)
    (written.flatMap CharacterPosition.codec.encode)
  unfold positionBody
  rw [read]
  by_cases few : written.length < 256
  · obtain ⟨last, whole, empty⟩ := readPositions_append written rest [] (by rw [behind, List.append_nil])
    rw [toNat_ofNat_length few, whole]
    constructor
    · rintro ⟨other, same, -⟩
      exact ⟨few, (Prod.mk.inj same).1.symm⟩
    · rintro ⟨-, rfl⟩
      exact ⟨last, rfl, empty⟩
  · -- the count has wrapped, and something is left over
    have wrapped : (UInt8.ofNat written.length).toNat < written.length := by
      rw [UInt8.toNat_ofNat']
      have bound : written.length % 2 ^ 8 < 2 ^ 8 := Nat.mod_lt _ (by decide)
      omega
    have front : (written.take (UInt8.ofNat written.length).toNat).length
        = (UInt8.ofNat written.length).toNat := by
      rw [List.length_take]
      omega
    have parts : rest.current
        = (written.take (UInt8.ofNat written.length).toNat).flatMap CharacterPosition.codec.encode
          ++ (written.drop (UInt8.ofNat written.length).toNat).flatMap
            CharacterPosition.codec.encode := by
      rw [behind, ← List.flatMap_append, List.take_append_drop]
    obtain ⟨last, some, left⟩ := readPositions_append _ rest _ parts
    rw [front] at some
    constructor
    · rintro ⟨other, same, empty⟩
      rw [some] at same
      obtain ⟨-, rfl⟩ := Prod.mk.inj same
      rw [left] at empty
      have more : (written.drop (UInt8.ofNat written.length).toNat).length ≠ 0 := by
        rw [List.length_drop]
        omega
      cases dropped : written.drop (UInt8.ofNat written.length).toNat with
      | nil =>
        rw [dropped] at more
        exact absurd rfl more
      | cons record others =>
        rw [dropped, List.flatMap_cons] at empty
        have length := CharacterPosition.codec.length_encode record
        rw [(List.append_eq_nil_iff.mp empty).1] at length
        cases length
    · exact fun both => absurd both.1 few

/-- The records that are written are those that are meant exactly if the stack holds the
generations. -/
theorem backgroundRecords_eq (stack : EntityID → UInt32) (readings : List EntityReading) :
    backgroundMeant readings = backgroundRecords stack readings
      ↔ ∀ reading ∈ readings, taken reading = true →
        stack reading.netId = reading.info.generation := by
  unfold backgroundMeant backgroundRecords
  rw [List.map_inj_left]
  constructor
  · intro same reading inside takes
    have equal := same reading (List.mem_filter.mpr ⟨inside, takes⟩)
    exact (congrArg CharacterPosition.generation equal).symm
  · intro generations reading inside
    obtain ⟨inside, takes⟩ := List.mem_filter.mp inside
    rw [generations reading inside takes]

theorem backgroundPacket_some {stack : EntityID → UInt32} {readings : List EntityReading}
    (records : backgroundRecords stack readings ≠ []) :
    backgroundPacket stack readings = some (writeHeader .C2S_PositionUpdate
      ++ positionBody (backgroundRecords stack readings)) := if_neg records

/-- **The packets of the senders are read as they were meant exactly if the poll sends none, and the
background read sends at most 255 records of which the stack holds the generations.** -/
theorem positionPackets_iff (elapsed : Nat) (stack : EntityID → UInt32)
    (readings : List EntityReading) :
    ((∀ packet ∈ pollPackets elapsed readings, ReadAsMeant packet.2 [packet.1])
        ↔ ∀ reading ∈ readings, polled elapsed reading = none)
      ∧ ((∀ data, backgroundPacket stack readings = some data → ReadAsMeant data (backgroundMeant readings))
        ↔ (readings.filter taken).length ≤ 255 ∧ ∀ reading ∈ readings, taken reading = true →
          stack reading.netId = reading.info.generation) := by
  constructor
  · constructor
    · intro meant reading inside
      cases sent : polled elapsed reading with
      | none => rfl
      | some pos =>
        have packet : (pos, pollPacket pos) ∈ pollPackets elapsed readings :=
          List.mem_map_of_mem (List.mem_filterMap.mpr ⟨reading, inside, sent⟩)
        exact absurd (meant _ packet) (pollPacket_unreadable pos [pos])
    · intro silent packet inside
      obtain ⟨pos, found, -⟩ := List.mem_map.mp inside
      obtain ⟨reading, member, sent⟩ := List.mem_filterMap.mp found
      rw [silent reading member] at sent
      cases sent
  · have length : (backgroundRecords stack readings).length = (readings.filter taken).length :=
      List.length_map _
    rw [← backgroundRecords_eq, ← length]
    by_cases quiet : backgroundRecords stack readings = []
    · have nothing : readings.filter taken = [] := List.map_eq_nil_iff.mp quiet
      have none : backgroundPacket stack readings = none := if_pos quiet
      refine ⟨fun _ => ⟨by rw [quiet]; exact Nat.zero_le _, ?_⟩, fun _ data sent => ?_⟩
      · unfold backgroundMeant backgroundRecords
        rw [nothing]
        rfl
      · rw [none] at sent
        cases sent
    · have read := positionBody_read (backgroundRecords stack readings) (backgroundMeant readings)
      rw [Nat.lt_succ_iff] at read
      rw [← read, backgroundPacket_some quiet]
      exact ⟨fun meant => meant _ rfl, fun meant data same => Option.some.inj same ▸ meant⟩

/-- A character that has tenAway ten units. -/
def tenAway : EntityReading := ⟨1, {}, { pos := ⟨lit 10 1, lit 0 1, lit 0 1⟩ }⟩

/-- The server does not read what either sender means about it. -/
theorem positionPackets_fail :
    (∃ packet ∈ pollPackets 50 [tenAway], ¬ ReadAsMeant packet.2 [packet.1])
      ∧ ∃ data, backgroundPacket (fun _ => 0xCDCDCDCD) [tenAway] = some data
        ∧ ¬ ReadAsMeant data (backgroundMeant [tenAway]) := by
  have moved : (polled 50 tenAway).isSome = true := by decide +kernel
  obtain ⟨pos, sent⟩ := Option.isSome_iff_exists.mp moved
  have takes : taken tenAway = true := by decide +kernel
  refine ⟨⟨(pos, pollPacket pos), ?_, pollPacket_unreadable pos [pos]⟩, ?_⟩
  · show _ ∈ (([tenAway].filterMap (polled 50)).map fun pos => (pos, pollPacket pos))
    rw [List.filterMap_cons, sent]
    exact List.mem_cons_self
  · have records : backgroundRecords (fun _ => 0xCDCDCDCD) [tenAway] ≠ [] := by
      intro none
      have nothing := List.filter_eq_nil_iff.mp (List.map_eq_nil_iff.mp none)
      exact nothing tenAway List.mem_cons_self takes
    refine ⟨_, backgroundPacket_some records, fun meant => ?_⟩
    have same := ((positionBody_read _ _).mp meant).2
    have equal := (backgroundRecords_eq _ _).mp same tenAway List.mem_cons_self takes
    exact absurd equal (by decide)

end KenshiMP
