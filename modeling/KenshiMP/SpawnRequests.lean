/-
**Which spawn requests are read as they were written.**

A request is the fixed fields, a name with its length, and a state behind a flag (`SpawnForm`). The
parser always reads a length where two bytes are left, and if that is out of range it passes over the
length but not over the name: what it takes for the state are bytes of the name then. So a request is
stored as it was written exactly if its name is short and nothing else is missing or left over
(`parsedExactly_iff`). What the three senders of a client write is read as it is meant.
-/

import KenshiMP.SpawnCodec

namespace KenshiMP

open Wire (Bytes ascii)
open Wire.Codec
open Assoc
open GameServer

/-! ### The form of a request -/

/-- What may follow the name. -/
inductive Extension where
  | absent
  | flag (byte : UInt8)
  | full (health : Fin 7 → F32) (alive : UInt8)

namespace Extension

def bytes : Extension → Bytes
  | absent => []
  | flag byte => u8.encode byte
  | full health alive => writeExtended health alive

/-- A flag of one announces the state. -/
def Valid : Extension → Prop
  | flag byte => byte ≠ 1
  | _ => True

def state : Extension → Option ((Fin 7 → F32) × Bool)
  | full health alive => some (health, decide (alive ≠ 0))
  | _ => none

end Extension

/-- Fixed fields, an optional name, an optional extension. -/
structure SpawnForm where
  fixed : UInt32 × UInt8 × UInt32 × UInt32 × (F32 × F32 × F32) × UInt32 × UInt32
  name : Option Bytes
  extension : Extension

namespace SpawnForm

variable (form : SpawnForm)

def nameBytes : Bytes :=
  match form.name with
  | none => []
  | some name => u16.encode (UInt16.ofNat name.length) ++ name

def bytes : Bytes := spawnRequest.encode form.fixed ++ (form.nameBytes ++ form.extension.bytes)

/-- The length of the name fits its field, and the flag says what follows. -/
def Valid : Prop := (∀ name, form.name = some name → name.length < 65536) ∧ form.extension.Valid

/-- The name has at most 255 bytes; without a name there is no state. -/
def Readable : Prop :=
  match form.name with
  | none => form.extension.state = none
  | some name => name.length ≤ 255

/-- The entity has the name and the state of the form, or the defaults. -/
def Meant (entity : ServerEntity) : Prop :=
  entity.templateName = form.name.getD []
    ∧ entity.health = (form.extension.state.map Prod.fst).getD (fun _ => lit 100 1)
    ∧ entity.alive = (form.extension.state.map Prod.snd).getD true

end SpawnForm

/-! ### What the handler does -/

section Handler

variable (server : GameServer) (player : ConnectedPlayer) (key : PlayerID) (reader : PacketReader)

/-- The request makes an entity, under the next identifier. -/
def Creates (entity : ServerEntity) : Prop :=
  (server.handleEntitySpawnReq player reader key).1.nextEntityId = server.nextEntityId + 1
    ∧ (server.handleEntitySpawnReq player reader key).1.entities.lookup server.nextEntityId
      = some entity

/-- An entity is made of a request of the right form only, and as that says. -/
def ParsedExactly : Prop :=
  ∀ entity, Creates server player key reader entity →
    ∃ form : SpawnForm, form.Valid ∧ reader.current = form.bytes ∧ form.Meant entity

/-- The fixed fields are not complete, the type is not known, or the table is full. -/
def Refused : Prop :=
  reader.current.length < spawnRequest.size
    ∨ EntityType.Turret < (spawnRequest.decode (reader.current.take spawnRequest.size)).2.1
    ∨ KMP_MAX_SYNC_ENTITIES ≤ server.entities.size

end Handler

/-! ### The parser on bytes -/

/-- How the parser splits what follows the fixed fields: the name it takes, and the rest. -/
def splitName (rest : Bytes) : Bytes × Bytes :=
  if rest.length < 2 then ([], rest)
  else
    let nameLen := u16.decode (rest.take 2)
    if 0 < nameLen && nameLen ≤ 255 && nameLen.toNat ≤ (rest.drop 2).length then
      ((rest.drop 2).take nameLen.toNat, (rest.drop 2).drop nameLen.toNat)
    else ([], rest.drop 2)

/-- What it takes for the state. -/
def splitExtended (rest : Bytes) : Option ((Fin 7 → F32) × Bool) :=
  match rest with
  | [] => none
  | flag :: tail =>
    if flag = 1 ∧ 29 ≤ tail.length then
      some ((((f32.array 7).prod u8).decode (tail.take 29)).1,
        decide ((((f32.array 7).prod u8).decode (tail.take 29)).2 ≠ 0))
    else none

theorem u8_encode (byte : UInt8) : u8.encode byte = [byte] := by
  show [UInt8.ofNat (byte.toNat % 256)] = [byte]
  rw [Nat.mod_eq_of_lt byte.toNat_lt, UInt8.ofNat_toNat]

theorem readTemplateName_split (reader : PacketReader) :
    ∃ next, readTemplateName reader = ((splitName reader.current).1, next)
      ∧ next.current = (splitName reader.current).2 := by
  unfold readTemplateName PacketReader.readU16 splitName
  by_cases short : reader.current.length < 2
  · rw [PacketReader.readRaw_short u16 reader short, if_pos short]
    exact ⟨reader, rfl, rfl⟩
  · obtain ⟨counted, read, current⟩ := PacketReader.readRaw_take u16 reader (Nat.le_of_not_lt short)
    have behind : counted.current = reader.current.drop 2 := current
    have length : reader.readRaw u16 = some (u16.decode (reader.current.take 2), counted) := read
    rw [length, if_neg short]
    simp only
    generalize u16.decode (reader.current.take 2) = nameLen
    by_cases range : (0 < nameLen && nameLen ≤ 255) = true
    · rw [if_pos range, range, Bool.true_and]
      by_cases enough : nameLen.toNat ≤ (reader.current.drop 2).length
      · rw [decide_eq_true enough, if_pos rfl]
        obtain ⟨next, bytes, after⟩ := counted.readBytes_append
          ((reader.current.drop 2).take nameLen.toNat) ((reader.current.drop 2).drop nameLen.toNat)
          (by rw [behind, List.take_append_drop])
        rw [List.length_take, Nat.min_eq_left enough] at bytes
        rw [bytes]
        exact ⟨next, rfl, after⟩
      · rw [decide_eq_false enough, if_neg Bool.false_ne_true,
          counted.readBytes_short (by rw [behind]; omega)]
        exact ⟨counted, rfl, behind⟩
    · rw [if_neg range, if_neg (by rw [Bool.and_eq_true]; exact fun both => range both.1)]
      exact ⟨counted, rfl, behind⟩

theorem readExtended_split (reader : PacketReader) : readExtended reader = splitExtended reader.current := by
  unfold readExtended PacketReader.readU8
  cases ahead : reader.current with
  | nil =>
    rw [PacketReader.readRaw_short u8 reader (by rw [ahead]; exact Nat.one_pos)]
    rfl
  | cons flag tail =>
    obtain ⟨flagged, read, current, -⟩ := PacketReader.readRaw_append u8 reader flag tail
      (by rw [ahead, u8_encode]; rfl)
    rw [read]
    unfold splitExtended
    simp only
    by_cases set : flag = 1
    · rw [if_pos set]
      by_cases enough : 29 ≤ tail.length
      · obtain ⟨next, state, -⟩ := PacketReader.readRaw_take ((f32.array 7).prod u8) flagged
          (by rw [current]; exact enough)
        rw [state, if_pos ⟨set, enough⟩, current]
        rfl
      · rw [if_neg (fun both => enough both.2), PacketReader.readRaw_short ((f32.array 7).prod u8)
          flagged (by rw [current]; exact Nat.lt_of_not_le enough)]
        rfl
    · rw [if_neg set, if_neg (fun both => set both.1)]

/-! ### What is stored -/

/-- The request that the parser makes of the fixed fields and what follows them. -/
def parsedRequest (fixed : UInt32 × UInt8 × UInt32 × UInt32 × (F32 × F32 × F32) × UInt32 × UInt32)
    (rest : Bytes) : SpawnRequest where
  type := fixed.2.1
  templateId := fixed.2.2.2.1
  position := ⟨fixed.2.2.2.2.1.1, fixed.2.2.2.2.1.2.1, fixed.2.2.2.2.1.2.2⟩
  compQuat := fixed.2.2.2.2.2.1
  factionId := fixed.2.2.2.2.2.2
  templateName := (splitName rest).1
  extended := splitExtended (splitName rest).2

theorem readSpawnRequest_fixed {reader : PacketReader}
    {fixed : UInt32 × UInt8 × UInt32 × UInt32 × (F32 × F32 × F32) × UInt32 × UInt32} {rest : Bytes}
    (ahead : reader.current = spawnRequest.encode fixed ++ rest) :
    readSpawnRequest reader = some (parsedRequest fixed rest) := by
  obtain ⟨next, read, current, -⟩ := PacketReader.readRaw_append spawnRequest reader fixed rest ahead
  obtain ⟨named, name, behind⟩ := readTemplateName_split next
  have extended := readExtended_split named
  rw [behind, current] at extended
  rw [current] at name
  obtain ⟨clientEntityId, type, ownerId, templateId, ⟨px, py, pz⟩, compQuat, factionId⟩ := fixed
  unfold readSpawnRequest
  rw [read]
  simp only [name, extended]
  rfl

section Handler

variable {server : GameServer} {player : ConnectedPlayer} {key : PlayerID} {reader : PacketReader}

theorem state_entity (request : SpawnRequest) (serverId : EntityID) (owner : PlayerID) :
    (request.entity serverId owner).templateName = request.templateName
      ∧ (request.entity serverId owner).health
        = (request.extended.map Prod.fst).getD (fun _ => lit 100 1)
      ∧ (request.entity serverId owner).alive = (request.extended.map Prod.snd).getD true := by
  unfold SpawnRequest.entity spawnedEntity
  cases request.extended with
  | none => exact ⟨rfl, rfl, rfl⟩
  | some extended => exact ⟨rfl, rfl, rfl⟩

/-- What an entity is made of. -/
theorem Creates.request {entity : ServerEntity} (creates : Creates server player key reader entity) :
    ∃ request, readSpawnRequest reader = some request ∧ server.acceptsSpawn request = true
      ∧ entity = request.entity server.nextEntityId player.id := by
  have other : server.nextEntityId + 1 ≠ server.nextEntityId := by
    intro same
    have moved := congrArg UInt32.toNat same
    have small := server.nextEntityId.toNat_lt
    rw [UInt32.toNat_add] at moved
    change (server.nextEntityId.toNat + 1) % 2 ^ 32 = server.nextEntityId.toNat at moved
    omega
  obtain ⟨counter, stored⟩ := creates
  unfold handleEntitySpawnReq at counter stored
  cases read : readSpawnRequest reader with
  | none =>
    rw [read] at counter
    exact absurd counter.symm other
  | some request =>
    rw [read] at counter stored
    simp only at counter stored
    by_cases accepted : server.acceptsSpawn request = true
    · refine ⟨request, rfl, accepted, ?_⟩
      rw [if_neg (by rw [accepted]; decide)] at stored
      have inserted : AList.lookup server.nextEntityId (AList.insert server.nextEntityId
          (request.entity server.nextEntityId player.id) server.entities) = some entity := stored
      rw [AMap.lookup_insert_eq, if_pos rfl] at inserted
      exact (Option.some.inj inserted).symm
    · rw [Bool.not_eq_true] at accepted
      rw [if_pos (by rw [accepted]; rfl)] at counter
      exact absurd counter.symm other

/-- An accepted request makes an entity. -/
theorem creates_accepted {request : SpawnRequest} (read : readSpawnRequest reader = some request)
    (accepted : server.acceptsSpawn request = true) :
    Creates server player key reader (request.entity server.nextEntityId player.id) := by
  unfold Creates handleEntitySpawnReq
  rw [read]
  simp only
  rw [if_neg (by rw [accepted]; decide)]
  refine ⟨rfl, ?_⟩
  show AList.lookup server.nextEntityId (AList.insert server.nextEntityId
    (request.entity server.nextEntityId player.id) server.entities) = _
  rw [AMap.lookup_insert_eq, if_pos rfl]

/-- The fixed fields are there, or the request is refused. -/
theorem fixed_of_long (long : spawnRequest.size ≤ reader.current.length) :
    ∃ fixed rest, reader.current = spawnRequest.encode fixed ++ rest
      ∧ fixed = spawnRequest.decode (reader.current.take spawnRequest.size) := by
  refine ⟨_, reader.current.drop spawnRequest.size, ?_, rfl⟩
  rw [spawnRequest.encode_decode _ (by rw [List.length_take, Nat.min_eq_left long]),
    List.take_append_drop]

/-- Whether a request is accepted does not depend on what follows the fixed fields. -/
theorem acceptsSpawn_parsed
    (fixed : UInt32 × UInt8 × UInt32 × UInt32 × (F32 × F32 × F32) × UInt32 × UInt32) (rest : Bytes) :
    server.acceptsSpawn (parsedRequest fixed rest) = true
      ↔ ¬ EntityType.Turret < fixed.2.1 ∧ ¬ KMP_MAX_SYNC_ENTITIES ≤ server.entities.size := by
  unfold acceptsSpawn
  rw [Bool.and_eq_true, decide_eq_true_eq, decide_eq_true_eq, Nat.not_le, UInt8.not_lt]
  rfl

end Handler

/-! ### How the parser splits a form -/

theorem toNat_length {name : Bytes} (fits : name.length < 65536) :
    (UInt16.ofNat name.length).toNat = name.length := by
  rw [UInt16.toNat_ofNat']
  exact Nat.mod_eq_of_lt fits

/-- A name with its length in front: it is taken if it is short, and left where it is if not. -/
theorem splitName_name {name tail : Bytes} (fits : name.length < 65536) :
    splitName (u16.encode (UInt16.ofNat name.length) ++ (name ++ tail))
      = if name.length ≤ 255 then (name, tail) else ([], name ++ tail) := by
  have two : (u16.encode (UInt16.ofNat name.length)).length = 2 := u16.length_encode _
  have ahead : (u16.encode (UInt16.ofNat name.length) ++ (name ++ tail)).drop 2 = name ++ tail :=
    List.drop_left' two
  have number : u16.decode ((u16.encode (UInt16.ofNat name.length) ++ (name ++ tail)).take 2)
      = UInt16.ofNat name.length := u16.decode_take _ _
  have long : ¬ (u16.encode (UInt16.ofNat name.length) ++ (name ++ tail)).length < 2 := by
    rw [List.length_append, two]
    omega
  unfold splitName
  rw [if_neg long]
  simp only
  rw [number, ahead, toNat_length fits]
  have inside : name.length ≤ (name ++ tail).length := by
    rw [List.length_append]
    omega
  rw [decide_eq_true inside, Bool.and_true]
  by_cases short : name.length ≤ 255
  · rw [if_pos short]
    by_cases empty : name = []
    · subst empty
      rfl
    · have range : (0 < UInt16.ofNat name.length && UInt16.ofNat name.length ≤ 255) = true := by
        rw [Bool.and_eq_true, decide_eq_true_eq, decide_eq_true_eq, UInt16.lt_iff_toNat_lt,
          UInt16.le_iff_toNat_le, toNat_length fits]
        exact ⟨List.length_pos_of_ne_nil empty, short⟩
      rw [if_pos range, List.take_left' rfl, List.drop_left' rfl]
  · have range : (0 < UInt16.ofNat name.length && UInt16.ofNat name.length ≤ 255) ≠ true := by
      rw [Ne, Bool.and_eq_true, decide_eq_true_eq, decide_eq_true_eq, UInt16.le_iff_toNat_le,
        toNat_length fits]
      exact fun both => short both.2
    rw [if_neg range, if_neg short]

/-- An extension is read as what it is. -/
theorem splitExtended_bytes {extension : Extension} (valid : extension.Valid) :
    splitExtended extension.bytes = extension.state := by
  cases extension with
  | absent => rfl
  | flag byte =>
    show splitExtended (u8.encode byte) = none
    rw [u8_encode]
    exact if_neg fun both => valid both.1
  | full health alive =>
    have length : (((f32.array 7).prod u8).encode (health, alive)).length = 29 :=
      ((f32.array 7).prod u8).length_encode _
    show splitExtended (u8.encode 1 ++ _) = some (health, decide (alive ≠ 0))
    rw [u8_encode]
    unfold splitExtended
    simp only [List.singleton_append]
    rw [if_pos ⟨trivial, le_of_eq length.symm⟩, List.take_of_length_le (le_of_eq length),
      ((f32.array 7).prod u8).decode_encode]

/-- A state without a name: its flag and its first byte are taken for a length. If no name is taken,
no state is either, and the first byte is not zero. -/
theorem splitName_state {health : Fin 7 → F32} {alive : UInt8}
    (unnamed : (splitName (writeExtended health alive)).1 = []) :
    splitExtended (splitName (writeExtended health alive)).2 = none
      ∧ (((f32.array 7).prod u8).encode (health, alive)).head? ≠ some 0 := by
  have length : (((f32.array 7).prod u8).encode (health, alive)).length = 29 :=
    ((f32.array 7).prod u8).length_encode _
  unfold writeExtended at unnamed ⊢
  rw [u8_encode] at unnamed ⊢
  generalize ((f32.array 7).prod u8).encode (health, alive) = state at length unnamed ⊢
  obtain ⟨first, tail, rfl⟩ : ∃ first tail, state = first :: tail := by
    cases state with
    | nil => cases length
    | cons first tail => exact ⟨first, tail, rfl⟩
  have left : tail.length = 28 := Nat.succ.inj length
  have number : (u16.decode [1, first]).toNat = 1 + 256 * first.toNat := by
    show (UInt16.ofNat ((1 + 256 * (first.toNat + 256 * 0)) % 65536)).toNat = _
    have small := first.toNat_lt
    rw [UInt16.toNat_ofNat']
    omega
  have split : splitName ([1] ++ first :: tail)
      = if 0 < u16.decode [1, first] && u16.decode [1, first] ≤ 255
          && (u16.decode [1, first]).toNat ≤ tail.length then
          (tail.take (u16.decode [1, first]).toNat, tail.drop (u16.decode [1, first]).toNat)
        else ([], tail) := by
    unfold splitName
    rw [if_neg (by rw [List.length_append, length]; decide)]
    rfl
  rw [split] at unnamed ⊢
  by_cases zero : first = 0
  · subst zero
    have one : u16.decode [1, 0] = 1 := by decide
    rw [one, left] at unnamed
    have taken : tail.take 1 = [] := unnamed
    have some := congrArg List.length taken
    rw [List.length_take, left] at some
    cases some
  · have large : ¬ (u16.decode [1, first] ≤ 255) := by
      have positive : first.toNat ≠ 0 := fun none => zero (UInt8.toNat_inj.mp none)
      rw [UInt16.le_iff_toNat_le, number]
      show ¬ 1 + 256 * first.toNat ≤ 255
      omega
    rw [decide_eq_false large, Bool.and_false, Bool.false_and, if_neg Bool.false_ne_true]
    constructor
    · show splitExtended tail = none
      cases tail with
      | nil => rfl
      | cons flag more =>
        have short : ¬ 29 ≤ more.length := by
          rw [List.length_cons] at left
          omega
        exact if_neg fun both => short both.2
    · exact fun same => zero (Option.some.inj same)

/-! ### Exactly parsed -/

/-- What the parser makes of a readable form is what the form says. -/
theorem parsed_readable {form : SpawnForm} (valid : form.Valid) (readable : form.Readable) :
    (parsedRequest form.fixed (form.nameBytes ++ form.extension.bytes)).templateName = form.name.getD []
      ∧ (parsedRequest form.fixed (form.nameBytes ++ form.extension.bytes)).extended
        = form.extension.state := by
  obtain ⟨fixed, name, extension⟩ := form
  have state := splitExtended_bytes valid.2
  cases name with
  | none =>
    have nothing : splitName ([] ++ extension.bytes) = ([], extension.bytes) := by
      cases extension with
      | absent => rfl
      | flag byte =>
        show splitName (u8.encode byte) = ([], u8.encode byte)
        rw [u8_encode]
        rfl
      | full health alive => cases readable
    show (splitName ([] ++ extension.bytes)).1 = _
      ∧ splitExtended (splitName ([] ++ extension.bytes)).2 = _
    rw [nothing]
    exact ⟨rfl, state⟩
  | some name =>
    have short : name.length ≤ 255 := readable
    have split := @splitName_name name extension.bytes (valid.1 name rfl)
    rw [if_pos short] at split
    show (splitName ((_ ++ name) ++ extension.bytes)).1 = _
      ∧ splitExtended (splitName ((_ ++ name) ++ extension.bytes)).2 = _
    rw [List.append_assoc, split]
    exact ⟨rfl, state⟩

/-- Seven healths of a hundred begin with a zero byte. -/
theorem head_hundred (alive : UInt8) :
    (((f32.array 7).prod u8).encode ((fun _ => lit 100 1), alive)).head? = some 0 := by
  have hundred : f32.encode (lit 100 1) = [0, 0, 200, 66] := by decide +kernel
  show ((f32.encode (lit 100 1) ++ _) ++ u8.encode alive).head? = some 0
  rw [hundred]
  rfl

/-- A form that is not readable is not stored as it says. -/
theorem parsed_unreadable {form : SpawnForm} (valid : form.Valid)
    (name : (parsedRequest form.fixed (form.nameBytes ++ form.extension.bytes)).templateName
      = form.name.getD [])
    (health : ((parsedRequest form.fixed (form.nameBytes ++ form.extension.bytes)).extended.map
        Prod.fst).getD (fun _ => lit 100 1)
      = (form.extension.state.map Prod.fst).getD (fun _ => lit 100 1)) : form.Readable := by
  obtain ⟨fixed, given, extension⟩ := form
  cases given with
  | none =>
    cases extension with
    | absent => rfl
    | flag byte => rfl
    | full limbs alive =>
      obtain ⟨nothing, first⟩ := @splitName_state limbs alive name
      have untouched : (fun _ => lit 100 1) = limbs := by
        have defaults : ((splitExtended (splitName (writeExtended limbs alive)).2).map
          Prod.fst).getD (fun _ => lit 100 1) = limbs := health
        rwa [nothing] at defaults
      rw [← untouched] at first
      exact absurd (head_hundred alive) first
  | some given =>
    show given.length ≤ 255
    by_contra long
    have split := @splitName_name given extension.bytes (valid.1 given rfl)
    rw [if_neg long] at split
    have taken : (splitName ((_ ++ given) ++ extension.bytes)).1 = given := name
    rw [List.append_assoc, split] at taken
    rw [← taken] at long
    exact long (Nat.zero_le _)

section Handler

variable {server : GameServer} {player : ConnectedPlayer} {key : PlayerID} {reader : PacketReader}

section Creates

variable {entity : ServerEntity} (creates : Creates server player key reader entity)

include creates

/-- An entity of a request in some form has the fixed fields of that form. -/
theorem Creates.parsed
    {fixed : UInt32 × UInt8 × UInt32 × UInt32 × (F32 × F32 × F32) × UInt32 × UInt32} {rest : Bytes}
    (ahead : reader.current = spawnRequest.encode fixed ++ rest) :
    server.acceptsSpawn (parsedRequest fixed rest) = true
      ∧ entity = (parsedRequest fixed rest).entity server.nextEntityId player.id := by
  obtain ⟨request, read, accepted, made⟩ := creates.request
  rw [readSpawnRequest_fixed ahead] at read
  cases read
  exact ⟨accepted, made⟩

/-- A readable request is stored as it says. -/
theorem Creates.meant {form : SpawnForm} (valid : form.Valid) (readable : form.Readable)
    (ahead : reader.current = form.bytes) : form.Meant entity := by
  obtain ⟨-, made⟩ := creates.parsed ahead
  obtain ⟨name, health, alive⟩ := state_entity
    (parsedRequest form.fixed (form.nameBytes ++ form.extension.bytes)) server.nextEntityId player.id
  obtain ⟨named, extended⟩ := parsed_readable valid readable
  rw [made]
  refine ⟨name.trans named, ?_, ?_⟩
  · rw [health, extended]
  · rw [alive, extended]

/-- A request that is refused makes no entity. -/
theorem Creates.not_refused : ¬ Refused server reader := by
  intro refused
  by_cases long : spawnRequest.size ≤ reader.current.length
  · obtain ⟨fixed, rest, ahead, decoded⟩ := fixed_of_long long
    obtain ⟨known, room⟩ := (acceptsSpawn_parsed fixed rest).mp (creates.parsed ahead).1
    rw [decoded] at known
    rcases refused with short | unknown | full
    · exact absurd short (Nat.not_lt.mpr long)
    · exact known unknown
    · exact room full
  · obtain ⟨request, read, -⟩ := creates.request
    unfold readSpawnRequest at read
    rw [PacketReader.readRaw_short spawnRequest reader (Nat.lt_of_not_le long)] at read
    cases read

end Creates

/-- The form of a request has its fixed fields in front. -/
theorem fixed_of_form {form : SpawnForm}
    {fixed : UInt32 × UInt8 × UInt32 × UInt32 × (F32 × F32 × F32) × UInt32 × UInt32} {rest : Bytes}
    (same : spawnRequest.encode fixed ++ rest = form.bytes) :
    form.fixed = fixed ∧ form.nameBytes ++ form.extension.bytes = rest := by
  have lengths : (spawnRequest.encode fixed).length = (spawnRequest.encode form.fixed).length := by
    rw [spawnRequest.length_encode, spawnRequest.length_encode]
  obtain ⟨front, behind⟩ := List.append_inj same lengths
  refine ⟨?_, behind.symm⟩
  rw [← spawnRequest.decode_encode form.fixed, ← front, spawnRequest.decode_encode]

/-- **A request is parsed exactly if it is refused or has the form that the parser assumes**: a name
of at most 255 bytes, or none and no state, and nothing missing or left over. -/
theorem parsedExactly_iff_form (server : GameServer) (player : ConnectedPlayer) (key : PlayerID)
    (reader : PacketReader) :
    ParsedExactly server player key reader ↔ Refused server reader
      ∨ ∃ form : SpawnForm, form.Valid ∧ form.Readable ∧ reader.current = form.bytes := by
  constructor
  · intro exactly
    by_cases long : spawnRequest.size ≤ reader.current.length
    · obtain ⟨fixed, rest, ahead, decoded⟩ := fixed_of_long long
      by_cases accepted : server.acceptsSpawn (parsedRequest fixed rest) = true
      · obtain ⟨form, valid, whole, name, health, -⟩ := exactly _
          (@creates_accepted server player key reader _ (readSpawnRequest_fixed ahead) accepted)
        obtain ⟨rfl, rfl⟩ := fixed_of_form (ahead.symm.trans whole)
        obtain ⟨named, limbs, -⟩ := state_entity
          (parsedRequest form.fixed (form.nameBytes ++ form.extension.bytes)) server.nextEntityId
          player.id
        exact Or.inr ⟨form, valid, parsed_unreadable valid (named.symm.trans name)
          (limbs.symm.trans health), whole⟩
      · rw [acceptsSpawn_parsed] at accepted
        refine Or.inl (Or.inr ?_)
        rw [← decoded]
        by_contra neither
        exact accepted (not_or.mp neither)
    · exact Or.inl (Or.inl (Nat.lt_of_not_le long))
  · rintro (refused | ⟨form, valid, readable, ahead⟩) entity creates
    · exact absurd refused creates.not_refused
    · exact ⟨form, valid, ahead, creates.meant valid readable ahead⟩

end Handler

/-! ### The senders of a client -/

/-- What the senders read of a character. -/
structure CharacterReading where
  netId : EntityID
  owner : PlayerID
  position : Vec3
  rotation : Quat
  factionId : UInt32
  health : Fin 7 → F32
  alive : Bool

namespace CharacterReading

variable (reading : CharacterReading)

def fixed (type : UInt8) (templateId : UInt32) :
    UInt32 × UInt8 × UInt32 × UInt32 × (F32 × F32 × F32) × UInt32 × UInt32 :=
  (reading.netId, type, reading.owner, templateId,
    (reading.position.x, reading.position.y, reading.position.z), reading.rotation.compress,
    reading.factionId)

/-- `GetName`: nothing if the string cannot be read. -/
def getName (text : Option Bytes) : Bytes :=
  match text with
  | none => ascii "Unknown"
  | some name => if name = [] || 256 < name.length then ascii "Unknown" else name

/-- `SendExistingEntitiesToServer`, for one character; the name is cut at 255 bytes. -/
def sendExistingEntities (text : Option Bytes) : Bytes :=
  spawnRequest.encode (reading.fixed EntityType.NPC 0)
    ++ writeTemplateName ((getName text).take 255)
    ++ writeExtended reading.health (if reading.alive then 1 else 0)

/-- `ReadCharNameSafe`: at most 63 bytes, up to the first null. -/
def readCharNameSafe (text : Option Bytes) : Bytes :=
  match text with
  | none => []
  | some name =>
    if 4096 < name.length then [] else ((name.take 255).take 63).takeWhile (· ≠ 0)

/-- `FindAndClaimModCharacters`, for the own character. -/
def findAndClaimModCharacters (text : Option Bytes) : Bytes :=
  spawnRequest.encode (reading.fixed EntityType.PlayerCharacter 0)
    ++ writeTemplateName (readCharNameSafe text)
    ++ writeExtended reading.health (if reading.alive then 1 else 0)

/-- `AnsiToUtf8InPlace` in a buffer of 256 bytes: the text stays if it is ASCII, or if its conversion
fails or does not fit. -/
def ansiToUtf8InPlace (pages : CodePages) (text : Bytes) : Bytes :=
  if text = [] || 255 ≤ text.length || text.all (· ≤ 127) then text
  else
    let wide := pages.multiByteToWideChar text
    let utf8 := pages.wideCharToMultiByte wide
    if wide = [] || 256 < wide.length || utf8 = [] || 256 ≤ utf8.length then text else utf8

/-- The name of a template as the hook reads it. -/
def templateNameBuf (pages : CodePages) (text : Option Bytes) : Bytes :=
  match text with
  | none => []
  | some name => if 0 < name.length && name.length < 255 then ansiToUtf8InPlace pages name else []

/-- `SEH_ConnectedPostProcess`: no state follows the name. -/
def connectedPostProcess (pages : CodePages) (templateId : UInt32) (text : Option Bytes) : Bytes :=
  spawnRequest.encode (reading.fixed EntityType.NPC templateId)
    ++ writeTemplateName (templateNameBuf pages text)

end CharacterReading

/-- The body is a request in form, and an entity that is made of it has this name and state. -/
def RequestAsMeant (body name : Bytes) (health : Fin 7 → F32) (alive : Bool) : Prop :=
  (∃ form : SpawnForm, form.Valid ∧ body = form.bytes)
    ∧ ∀ server player key reader, reader.current = body → ∀ entity,
      Creates server player key reader entity →
        entity.templateName = name ∧ entity.health = health ∧ entity.alive = alive

theorem requestAsMeant_of {body name : Bytes} {extension : Extension}
    {fixed : UInt32 × UInt8 × UInt32 × UInt32 × (F32 × F32 × F32) × UInt32 × UInt32}
    (written : body = spawnRequest.encode fixed ++ writeTemplateName name ++ extension.bytes)
    (short : name.length ≤ 255) (valid : extension.Valid) :
    RequestAsMeant body name ((extension.state.map Prod.fst).getD fun _ => lit 100 1)
      ((extension.state.map Prod.snd).getD true) := by
  have whole : body = SpawnForm.bytes ⟨fixed, some name, extension⟩ := by
    have all : name.take (name.length % 65536) = name := by
      rw [Nat.mod_eq_of_lt (by omega), List.take_length]
    rw [written]
    unfold writeTemplateName
    rw [all, List.append_assoc]
    rfl
  have fits : SpawnForm.Valid ⟨fixed, some name, extension⟩ := by
    refine ⟨fun given same => ?_, valid⟩
    cases same
    exact Nat.lt_of_le_of_lt short (by decide)
  exact ⟨⟨_, fits, whole⟩, fun server player key reader ahead entity creates =>
    creates.meant fits short (ahead.trans whole)⟩

theorem state_full (health : Fin 7 → F32) (alive : Bool) :
    Extension.state (.full health (if alive then 1 else 0)) = some (health, alive) := by
  cases alive with
  | false => rfl
  | true => rfl

namespace CharacterReading

variable (reading : CharacterReading)

theorem sendExistingEntities_meant (text : Option Bytes) :
    RequestAsMeant (reading.sendExistingEntities text) ((getName text).take 255) reading.health
      reading.alive := by
  have meant := @requestAsMeant_of (reading.sendExistingEntities text) ((getName text).take 255)
    (.full reading.health (if reading.alive then 1 else 0)) (reading.fixed EntityType.NPC 0) rfl
    (List.length_take_le 255 (getName text)) trivial
  rw [state_full] at meant
  exact meant

theorem findAndClaimModCharacters_meant (text : Option Bytes) :
    RequestAsMeant (reading.findAndClaimModCharacters text) (readCharNameSafe text) reading.health
      reading.alive := by
  have short : (readCharNameSafe text).length ≤ 255 := by
    cases text with
    | none => exact Nat.zero_le _
    | some name =>
      unfold readCharNameSafe
      simp only
      split_ifs
      · exact Nat.zero_le _
      · calc (((name.take 255).take 63).takeWhile (· ≠ 0)).length
            ≤ ((name.take 255).take 63).length := (List.takeWhile_sublist _).length_le
          _ ≤ 63 := List.length_take_le 63 _
          _ ≤ 255 := by decide
  have meant := @requestAsMeant_of (reading.findAndClaimModCharacters text) (readCharNameSafe text)
    (.full reading.health (if reading.alive then 1 else 0))
    (reading.fixed EntityType.PlayerCharacter 0) rfl short trivial
  rw [state_full] at meant
  exact meant

theorem length_templateNameBuf (pages : CodePages) (text : Option Bytes) :
    (templateNameBuf pages text).length ≤ 255 := by
  cases text with
  | none => exact Nat.zero_le _
  | some name =>
    unfold templateNameBuf
    simp only
    split_ifs with range
    · rw [Bool.and_eq_true, decide_eq_true_eq, decide_eq_true_eq] at range
      have small : name.length ≤ 255 := Nat.le_of_lt range.2
      unfold ansiToUtf8InPlace
      simp only
      split_ifs with ascii fails
      · exact small
      · exact small
      · simp only [Bool.or_eq_true, decide_eq_true_eq, not_or, Nat.not_le] at fails
        exact Nat.le_of_lt_succ fails.2
    · exact Nat.zero_le _

theorem connectedPostProcess_meant (pages : CodePages) (templateId : UInt32) (text : Option Bytes) :
    RequestAsMeant (reading.connectedPostProcess pages templateId text) (templateNameBuf pages text)
      (fun _ => lit 100 1) true :=
  @requestAsMeant_of _ _ .absent _ (List.append_nil _).symm (length_templateNameBuf pages text) trivial

end CharacterReading

/-- **What of a request is parsed exactly, and what clients send**: exactly the requests that are
refused or in the form that the parser assumes; and whatever the game gives for the names, the three
senders of a client write requests in form that are stored as they are meant. -/
theorem spawnRequests_parsed (server : GameServer) (player : ConnectedPlayer) (key : PlayerID)
    (reader : PacketReader) :
    (ParsedExactly server player key reader ↔ Refused server reader
        ∨ ∃ form : SpawnForm, form.Valid ∧ form.Readable ∧ reader.current = form.bytes)
      ∧ ∀ (reading : CharacterReading) (text : Option Bytes),
        RequestAsMeant (reading.sendExistingEntities text) ((CharacterReading.getName text).take 255)
            reading.health reading.alive
          ∧ RequestAsMeant (reading.findAndClaimModCharacters text)
            (CharacterReading.readCharNameSafe text) reading.health reading.alive
          ∧ ∀ pages templateId, RequestAsMeant (reading.connectedPostProcess pages templateId text)
            (CharacterReading.templateNameBuf pages text) (fun _ => lit 100 1) true :=
  ⟨parsedExactly_iff_form server player key reader, fun reading text => ⟨reading.sendExistingEntities_meant text,
    reading.findAndClaimModCharacters_meant text,
    fun pages templateId => reading.connectedPostProcess_meant pages templateId text⟩⟩

/-! ### A name of three hundred bytes -/

/-- A name that begins like the state of a dead character. -/
def deadlyName : Bytes := writeExtended (fun _ => lit 0 1) 0 ++ List.replicate 270 65

/-- A request for a character of that name. -/
def deadlyRequest : Bytes :=
  spawnRequest.encode (1, EntityType.NPC, 1, 0, (lit 0 1, lit 0 1, lit 0 1), 0, 0)
    ++ (u16.encode 300 ++ deadlyName)

def anyPlayer : ConnectedPlayer := ({} : GameServer).newPlayer 0 (ascii "Beep")

/-- The character is stored without a name, and dead. -/
theorem deadlyRequest_stored :
    ∃ entity, Creates {} anyPlayer 1 (PacketReader.start deadlyRequest) entity
      ∧ entity.templateName = [] ∧ entity.alive = false := by
  have ahead : (PacketReader.start deadlyRequest).current = spawnRequest.encode _ ++ _ := rfl
  have accepted : ({} : GameServer).acceptsSpawn (parsedRequest
      (1, EntityType.NPC, 1, 0, (lit 0 1, lit 0 1, lit 0 1), 0, 0) (u16.encode 300 ++ deadlyName))
      = true := (acceptsSpawn_parsed _ _).mpr ⟨by decide, by decide⟩
  refine ⟨_, creates_accepted (readSpawnRequest_fixed ahead) accepted, ?_, ?_⟩
  · rw [(state_entity _ _ _).1]
    decide +kernel
  · rw [(state_entity _ _ _).2.2]
    decide +kernel

/-- The server accepts it, and it is in no form that is stored so. -/
theorem spawnRequests_fail : ¬ ∀ server player key reader, ParsedExactly server player key reader := by
  intro exactly
  have ahead : (PacketReader.start deadlyRequest).current
      = spawnRequest.encode (1, EntityType.NPC, 1, 0, (lit 0 1, lit 0 1, lit 0 1), 0, 0)
        ++ (u16.encode 300 ++ deadlyName) := rfl
  rcases (parsedExactly_iff_form {} anyPlayer 1 _).mp (exactly {} anyPlayer 1
    (PacketReader.start deadlyRequest)) with refused | ⟨form, valid, readable, whole⟩
  · obtain ⟨entity, creates, -⟩ := deadlyRequest_stored
    exact creates.not_refused refused
  · obtain ⟨-, behind⟩ := fixed_of_form (ahead.symm.trans whole)
    have length := congrArg List.length behind
    have long : (u16.encode 300 ++ deadlyName).length = 302 := by decide +kernel
    rw [long] at length
    obtain ⟨fixed, given, extension⟩ := form
    cases given with
    | none =>
      cases extension with
      | absent => cases length
      | flag byte => cases length
      | full health alive => cases readable
    | some name =>
      have split : u16.encode (UInt16.ofNat name.length) ++ (name ++ extension.bytes)
          = u16.encode 300 ++ deadlyName := by
        rw [← List.append_assoc]
        exact behind
      have number := (List.append_inj split
        (by rw [u16.length_encode, u16.length_encode])).1
      have same : UInt16.ofNat name.length = 300 := by
        rw [← u16.decode_encode (UInt16.ofNat name.length), number, u16.decode_encode]
      have count := toNat_length (valid.1 name rfl)
      rw [same] at count
      have short : name.length ≤ 255 := readable
      rw [← count] at short
      exact absurd short (by decide)

end KenshiMP
