/-
**Reading back what was written.**

`reloaded` is what an entity becomes over a save and a load: without owner, limb health, status
effects, build progress and movement. The document of a world whose floats are finite is not
changed by the writer (`nullNonFinite_worldJson`), its texts decide whether it can be written
(`validUtf8_worldJson`), and its entity loop stores every entity at a usable place
(`loadEntities_written`).
-/

import KenshiMP.Server.LoaderFacts

namespace KenshiMP

open Wire (Bytes ascii)
open Assoc
open Json (Value)

namespace Persistence

/-! ### Numbers -/

theorem nullNonFinite_number {x : F32} (finite : x.isFinite = true) :
    (number x).nullNonFinite = number x := by
  unfold number Value.nullNonFinite
  rw [if_pos (Binary.Flt.double_isFinite finite)]

theorem getFloat_number {x : F32} (finite : x.isFinite = true) : (number x).getFloat = some x :=
  congrArg some (Binary.Flt.single_double_single finite)

/-- A natural number is cast to its low 32 bits. -/
theorem ofInt_natCast (n : Nat) : UInt32.ofInt n = UInt32.ofNat n := by
  have cast : ((n : Int) % 2 ^ 32).toNat = n % 2 ^ 32 := by omega
  unfold UInt32.ofInt
  rw [cast]
  exact UInt32.toNat_inj.mp (by simp)

theorem getUInt32_unsigned (n : UInt32) : (unsigned n).getUInt32 = some n := by
  show some (UInt32.ofInt n.toNat) = _
  rw [ofInt_natCast, UInt32.ofNat_toNat]

theorem getInt32_int (n : Int32) : (Value.int n.toInt).getInt32 = some n := by
  have bits : UInt32.ofInt n.toInt = n.toUInt32 := by
    apply UInt32.toNat_inj.mp
    unfold UInt32.ofInt
    have low : (n.toInt % 2 ^ 32).toNat = n.toUInt32.toNat := by
      have whole : (BitVec.ofInt 32 n.toBitVec.toInt).toNat = n.toBitVec.toNat := by
        rw [BitVec.ofInt_toInt]
      rw [BitVec.toNat_ofInt] at whole
      exact_mod_cast whole
    rw [low, UInt32.ofNat_toNat]
  show some (UInt32.ofInt n.toInt).toInt32 = _
  rw [bits, Int32.toInt32_toUInt32]

theorem getInt32_entityType (n : UInt8) :
    ∃ wide, (Value.int n.toNat).getInt32 = some wide ∧ toEntityType wide = n := by
  refine ⟨(UInt32.ofNat n.toNat).toInt32, ?_, ?_⟩
  · show some (UInt32.ofInt n.toNat).toInt32 = _
    rw [ofInt_natCast]
  · unfold toEntityType
    rw [UInt32.toUInt32_toInt32]
    exact UInt8.toNat_inj.mp (by simp)

/-! ### Arrays -/

variable {count : Nat} {entity : ServerEntity}

/-- Reading into an array replaces its elements one by one. -/
theorem foldlM_store {α : Type} (get : Value → Option α) (source : Value)
    (new : Fin count → α) (elements : ∀ i : Fin count, (source.atIndex i).bind get = some (new i))
    (old : Fin count → α) (upTo : Nat) (inside : upTo ≤ count) :
    (List.range upTo).foldlM
      (fun values i => do
        let value ← get (← source.atIndex i)
        pure (GameServer.store values i value)) old
      = some fun i => if i.val < upTo then new i else old i := by
  induction upTo with
  | zero => rfl
  | succ k ih =>
    have here := elements ⟨k, inside⟩
    obtain ⟨element, found, read⟩ := Option.bind_eq_some_iff.mp here
    have element : source.atIndex k = some element := found
    rw [List.range_succ, List.foldlM_append, ih (Nat.le_of_succ_le inside)]
    simp only [List.foldlM_cons, List.foldlM_nil, Option.bind_eq_bind, Option.bind_some, element,
      read, Option.pure_def, Option.some.injEq]
    funext i
    unfold GameServer.store
    by_cases same : i.val = k
    · have last : i = ⟨k, inside⟩ := Fin.ext same
      rw [if_pos same, if_pos (by omega), last]
    · rw [if_neg same]
      simp only
      by_cases below : i.val < k
      · rw [if_pos below, if_pos (by omega)]
      · rw [if_neg below, if_neg (by omega)]

/-- An array is read back whole. -/
theorem readElements_ofFn {α : Type} {get : Value → Option α} {write : α → Value}
    {values : Fin count → α} (back : ∀ i, get (write (values i)) = some (values i))
    (old : Fin count → α) :
    readElements get (.arr (List.ofFn fun i => write (values i))) old = some values := by
  have size : min count (Value.size (.arr (List.ofFn fun i => write (values i)))) = count := by
    show min count (List.ofFn _).length = count
    rw [List.length_ofFn, Nat.min_self]
  unfold readElements
  rw [size, foldlM_store get _ values (fun i => ?_) old count (Nat.le_refl count)]
  · congr 1
    funext i
    rw [if_pos i.isLt]
  · show (some ((List.ofFn fun i => write (values i)).getD i .null)).bind get = _
    have element : (List.ofFn fun i => write (values i)).getD i .null = write (values i) := by
      rw [List.getD_eq_getElem?_getD, List.getElem?_ofFn, dif_pos i.isLt]
      rfl
    rw [element]
    exact back i

/-! ### One entity -/

/-- What the file has no finite number for. -/
structure FiniteEntity (entity : ServerEntity) : Prop where
  position : entity.position.isFinite = true
  rotation : entity.rotation.isFinite = true
  health : ∀ part, (entity.health part).isFinite = true

/-- What an entity becomes over a save and a load. -/
def reloaded (entity : ServerEntity) : ServerEntity :=
  { id := entity.id, type := entity.type, position := entity.position, rotation := entity.rotation,
    zone := ZoneCoord.fromWorldPos entity.position, templateId := entity.templateId,
    factionId := entity.factionId, templateName := entity.templateName, health := entity.health,
    alive := entity.alive, equipment := entity.equipment }

/-- What the head of an element becomes. -/
def reloadedHead (entity : ServerEntity) : ServerEntity :=
  { id := entity.id, type := entity.type, owner := 0, templateId := entity.templateId,
    factionId := entity.factionId, position := entity.position }

/-- The head of a document with these members. -/
theorem readHead_of_members {e : Value} (position : entity.position.isFinite = true)
    (idMember : e.atKey (ascii "id") = some (unsigned entity.id))
    (typeMember : e.atKey (ascii "type") = some (.int entity.type.toNat))
    (templateMember : e.atKey (ascii "templateId") = some (unsigned entity.templateId))
    (factionMember : e.atKey (ascii "factionId") = some (unsigned entity.factionId))
    (positionMember : e.atKey (ascii "position")
      = some (.arr [number entity.position.x, number entity.position.y, number entity.position.z])) :
    readHead e = some (reloadedHead entity) := by
  unfold Vec3.isFinite at position
  simp only [Bool.and_eq_true] at position
  obtain ⟨⟨x, y⟩, z⟩ := position
  obtain ⟨wide, read, narrow⟩ := getInt32_entityType entity.type
  unfold readHead
  simp only [idMember, typeMember, templateMember, factionMember, positionMember,
    Option.bind_eq_bind, Option.bind_some, getUInt32_unsigned, read, narrow, Value.atIndex,
    List.getD_cons_zero, List.getD_cons_succ, getFloat_number x, getFloat_number y, getFloat_number z]
  rfl

theorem contains_equipment (entity : ServerEntity) :
    (entityJson entity).contains (ascii "equipment") = true := rfl

theorem atKey_equipment (entity : ServerEntity) : (entityJson entity).atKey (ascii "equipment")
    = some (.arr (List.ofFn fun i => unsigned (entity.equipment i))) := rfl

/-- The equipment of a document that has it. -/
theorem readEquipment_of_contains {e : Value} (contains : e.contains (ascii "equipment") = true)
    {source : Value} (member : e.atKey (ascii "equipment") = some source) (old : Fin 14 → UInt32) :
    readEquipment e old = readElements Value.getUInt32 source old := by
  unfold readEquipment
  rw [if_pos contains, member]
  rfl

theorem readEquipment_entityJson (entity : ServerEntity) (old : Fin 14 → UInt32) :
    readEquipment (entityJson entity) old = some entity.equipment := by
  rw [readEquipment_of_contains (contains_equipment entity) (atKey_equipment entity)]
  exact readElements_ofFn (fun i => getUInt32_unsigned (entity.equipment i)) old

theorem readRest_entityJson (finite : FiniteEntity entity) :
    readRest (entityJson entity) (reloadedHead entity) = some (reloaded entity) := by
  have rotation := finite.rotation
  unfold Quat.isFinite at rotation
  simp only [Bool.and_eq_true] at rotation
  obtain ⟨⟨⟨w, x⟩, y⟩, z⟩ := rotation
  have rotationMember : (entityJson entity).atKey (ascii "rotation")
    = some (.arr [number entity.rotation.w, number entity.rotation.x, number entity.rotation.y,
      number entity.rotation.z]) := rfl
  have aliveMember : (entityJson entity).valueOr Value.getBool (ascii "alive") true
    = some entity.alive := rfl
  have healthMember : (entityJson entity).atKey (ascii "health")
    = some (.arr (List.ofFn fun i => number (entity.health i))) := rfl
  have nameMember : (entityJson entity).valueOr Value.getString (ascii "templateName") []
    = some entity.templateName := rfl
  have equipmentRead : readEquipment (entityJson entity) (reloadedHead entity).equipment
      = some entity.equipment := readEquipment_entityJson entity _
  have healthRead : readElements Value.getFloat (.arr (List.ofFn fun i => number (entity.health i)))
      (reloadedHead entity).health = some entity.health :=
    readElements_ofFn (fun i => getFloat_number (finite.health i)) _
  unfold readRest
  simp only [rotationMember, aliveMember, healthMember, nameMember, equipmentRead, healthRead,
    Option.bind_eq_bind, Option.bind_some, Value.atIndex, List.getD_cons_zero, List.getD_cons_succ,
    getFloat_number w, getFloat_number x, getFloat_number y, getFloat_number z]
  rfl

/-- A member of a written entity. -/
theorem atKey_written {key : Bytes} {value : Value}
    (member : (entityJson entity).atKey key = some value) :
    (entityJson entity).nullNonFinite.atKey key = some value.nullNonFinite := by
  unfold entityJson at member ⊢
  rw [Value.atKey_nullNonFinite, member, Option.map_some]

theorem nullNonFinite_unsigned (n : UInt32) : (unsigned n).nullNonFinite = unsigned n := by
  unfold unsigned
  simp only [Value.nullNonFinite]

/-- The head of a written entity is read back whatever its other numbers are. -/
theorem readHead_written (position : entity.position.isFinite = true) :
    readHead (entityJson entity).nullNonFinite = some (reloadedHead entity) := by
  have finite := position
  unfold Vec3.isFinite at finite
  simp only [Bool.and_eq_true] at finite
  obtain ⟨⟨x, y⟩, z⟩ := finite
  have id := atKey_written (show (entityJson entity).atKey (ascii "id") = some (unsigned entity.id)
    from rfl)
  have type := atKey_written (show (entityJson entity).atKey (ascii "type")
    = some (.int entity.type.toNat) from rfl)
  have template := atKey_written (show (entityJson entity).atKey (ascii "templateId")
    = some (unsigned entity.templateId) from rfl)
  have faction := atKey_written (show (entityJson entity).atKey (ascii "factionId")
    = some (unsigned entity.factionId) from rfl)
  have place := atKey_written (show (entityJson entity).atKey (ascii "position")
    = some (.arr [number entity.position.x, number entity.position.y, number entity.position.z])
    from rfl)
  rw [nullNonFinite_unsigned] at id template faction
  simp only [Value.nullNonFinite] at type
  simp only [Value.nullNonFinite, Value.nullNonFiniteAll, nullNonFinite_number x,
    nullNonFinite_number y, nullNonFinite_number z] at place
  exact readHead_of_members position id type template faction place

theorem unsigned_array (values : Fin count → UInt32) :
    (List.ofFn fun i => unsigned (values i)).map Value.nullNonFinite
      = List.ofFn fun i => unsigned (values i) := by
  rw [List.map_ofFn]
  exact congrArg List.ofFn (funext fun i => nullNonFinite_unsigned (values i))

theorem number_array {values : Fin count → F32} (finite : ∀ i, (values i).isFinite = true) :
    (List.ofFn fun i => number (values i)).map Value.nullNonFinite
      = List.ofFn fun i => number (values i) := by
  rw [List.map_ofFn]
  exact congrArg List.ofFn (funext fun i => nullNonFinite_number (finite i))

/-- An entity without a non-finite number is written as it is. -/
theorem nullNonFinite_entityJson (finite : FiniteEntity entity) :
    (entityJson entity).nullNonFinite = entityJson entity := by
  have position := finite.position
  unfold Vec3.isFinite at position
  have rotation := finite.rotation
  unfold Quat.isFinite at rotation
  simp only [Bool.and_eq_true] at position rotation
  obtain ⟨⟨x, y⟩, z⟩ := position
  obtain ⟨⟨⟨w, i⟩, j⟩, k⟩ := rotation
  have health := number_array finite.health
  have equipment := unsigned_array entity.equipment
  unfold entityJson
  simp only [Value.nullNonFinite, Value.nullNonFiniteMembers, Value.nullNonFiniteAll,
    Value.nullNonFiniteAll_eq_map, nullNonFinite_unsigned, nullNonFinite_number x, nullNonFinite_number y,
    nullNonFinite_number z, nullNonFinite_number w, nullNonFinite_number i, nullNonFinite_number j,
    nullNonFinite_number k, health, equipment]

theorem validUtf8_number (x : F32) : (number x).validUtf8 = true := by
  unfold number
  simp only [Value.validUtf8]

theorem validUtf8_unsigned (n : UInt32) : (unsigned n).validUtf8 = true := by
  unfold unsigned
  simp only [Value.validUtf8]

theorem validUtf8_array {α : Type} {write : α → Value}
    (plain : ∀ value, (write value).validUtf8 = true) (values : Fin count → α) :
    Value.validUtf8All (List.ofFn fun i => write (values i)) = true := by
  refine Value.validUtf8All_eq_true.mpr fun value inside => ?_
  obtain ⟨i, rfl⟩ := List.mem_ofFn.mp inside
  exact plain (values i)

/-- The names the file uses are plain. -/
theorem utf8_keys : ∀ name ∈ ["id", "type", "owner", "templateId", "factionId", "position",
    "rotation", "alive", "health", "templateName", "equipment", "version", "timeOfDay", "weather",
    "entities", "players"], Json.utf8 (ascii name) = true := by
  intro name inside
  fin_cases inside <;> decide +kernel

/-- The name is the only text of an entity. -/
theorem validUtf8_entityJson (entity : ServerEntity) :
    (entityJson entity).validUtf8 = Json.utf8 entity.templateName := by
  have keys := utf8_keys
  simp only [List.forall_mem_cons] at keys
  obtain ⟨id, type, owner, templateId, factionId, position, rotation, alive, health, name, equipment,
    -⟩ := keys
  unfold entityJson
  simp only [Value.validUtf8, Value.validUtf8Members, Value.validUtf8All, id, type, owner,
    templateId, factionId, position, rotation, alive, health, name, equipment,
    validUtf8_array validUtf8_number, validUtf8_array validUtf8_unsigned, validUtf8_number,
    validUtf8_unsigned, Bool.and_true, Bool.true_and]

/-! ### The document -/

/-- The texts of a world: the names of entities and of saved players. -/
structure PlainTexts (entities : AMap EntityID ServerEntity) (savedPlayers : AMap Bytes SavedPlayer) :
    Prop where
  entities : ∀ id entity, entities.lookup id = some entity → Json.utf8 entity.templateName = true
  savedPlayers : ∀ name saved, savedPlayers.lookup name = some saved → Json.utf8 name = true

variable {entities : AMap EntityID ServerEntity} {savedPlayers : AMap Bytes SavedPlayer}
  {timeOfDay : F32} {weatherState : Int32}

/-- **A world can be written** when its texts are UTF-8, and then only. -/
theorem validUtf8_worldJson :
    (worldJson entities savedPlayers timeOfDay weatherState).validUtf8 = true
      ↔ PlainTexts entities savedPlayers := by
  have keys := utf8_keys
  simp only [List.forall_mem_cons] at keys
  obtain ⟨-, -, -, -, -, -, -, -, -, -, -, version, time, weather, table, players, -⟩ := keys
  have ids (saved : SavedPlayer) : Value.validUtf8All (saved.entityIds.map unsigned) = true := by
    refine Value.validUtf8All_eq_true.mpr fun value inside => ?_
    obtain ⟨id, -, rfl⟩ := List.mem_map.mp inside
    exact validUtf8_unsigned id
  unfold worldJson
  simp only [Value.validUtf8, Value.validUtf8Members, version, time, weather, table, players,
    validUtf8_number, Bool.and_true, Bool.true_and, Bool.and_eq_true, Value.validUtf8All_eq_true,
    Value.validUtf8Members_eq_true]
  constructor
  · rintro ⟨names, owners⟩
    refine ⟨fun id entity stored => ?_, fun name saved stored => ?_⟩
    · rw [← validUtf8_entityJson]
      exact names _ (List.mem_map.mpr ⟨(id, entity), AMap.mem_toList.mpr stored, rfl⟩)
    · exact (owners _ (List.mem_map.mpr ⟨(name, saved), AMap.mem_toList.mpr stored, rfl⟩)).1
  · rintro ⟨names, owners⟩
    refine ⟨fun value inside => ?_, fun entry inside => ?_⟩
    · obtain ⟨⟨id, entity⟩, member, rfl⟩ := List.mem_map.mp inside
      rw [validUtf8_entityJson]
      exact names id entity (AMap.mem_toList.mp member)
    · obtain ⟨⟨name, saved⟩, member, rfl⟩ := List.mem_map.mp inside
      refine ⟨owners name saved (AMap.mem_toList.mp member), ?_⟩
      simp only [Value.validUtf8, ids]

/-- What was written, as the reader gets it. -/
def readBack (entities : AMap EntityID ServerEntity) (savedPlayers : AMap Bytes SavedPlayer)
    (timeOfDay : F32) (weatherState : Int32) : Value :=
  (worldJson entities savedPlayers timeOfDay weatherState).nullNonFinite

theorem atKey_readBack {key : Bytes} {value : Value}
    (member : (worldJson entities savedPlayers timeOfDay weatherState).atKey key = some value) :
    (readBack entities savedPlayers timeOfDay weatherState).atKey key = some value.nullNonFinite := by
  unfold readBack
  unfold worldJson at member ⊢
  rw [Value.atKey_nullNonFinite, member, Option.map_some]

/-- The reader visits the entities in the order they were written. -/
theorem elements_readBack :
    elements (readBack entities savedPlayers timeOfDay weatherState)
      = entities.toList.map fun entry => (entityJson entry.2).nullNonFinite := by
  unfold elements
  rw [atKey_readBack (show (worldJson entities savedPlayers timeOfDay weatherState).atKey
    (ascii "entities") = some (.arr (entities.toList.map fun entry => entityJson entry.2)) from rfl)]
  simp only [Value.nullNonFinite, Value.nullNonFiniteAll_eq_map, Option.getD_some, Value.items,
    List.map_map]
  rfl

theorem valueOr_nullNonFinite {α : Type} (get : Value → Option α) (members : List (Bytes × Value))
    {key : Bytes} {default : α} (value : Value) (member : Value.find key members = some value) :
    (Value.nullNonFinite (.obj members)).valueOr get key default = get value.nullNonFinite := by
  simp only [Value.nullNonFinite, Value.valueOr, Value.find_nullNonFinite, member, Option.map_some]

theorem time_readBack (finite : timeOfDay.isFinite = true) :
    (readBack entities savedPlayers timeOfDay weatherState).valueOr Value.getFloat
      (ascii "timeOfDay") (lit 1 2) = some timeOfDay := by
  unfold readBack worldJson
  rw [valueOr_nullNonFinite _ _ (number timeOfDay) rfl, nullNonFinite_number finite,
    getFloat_number finite]

theorem weather_readBack :
    (readBack entities savedPlayers timeOfDay weatherState).valueOr Value.getInt32
      (ascii "weather") 0 = some weatherState := by
  unfold readBack worldJson
  rw [valueOr_nullNonFinite _ _ (.int weatherState.toInt) rfl]
  simp only [Value.nullNonFinite]
  exact getInt32_int weatherState

theorem playerMembers_readBack :
    playerMembers (readBack entities savedPlayers timeOfDay weatherState)
      = savedPlayers.toList.map fun entry => (entry.1, .arr (entry.2.entityIds.map unsigned)) := by
  have member := atKey_readBack (show (worldJson entities savedPlayers timeOfDay weatherState).atKey
    (ascii "players") = some (.obj (savedPlayers.toList.map fun entry =>
      (entry.1, .arr (entry.2.entityIds.map unsigned)))) from rfl)
  have contains : (readBack entities savedPlayers timeOfDay weatherState).contains (ascii "players")
      = true := by
    unfold readBack worldJson
    simp only [Value.nullNonFinite, Value.contains, Value.find_nullNonFinite, Option.isSome_map]
    rfl
  unfold playerMembers
  rw [if_pos contains, member]
  have ids : Value.nullNonFinite ∘ unsigned = unsigned := funext nullNonFinite_unsigned
  simp only [Value.nullNonFinite, Value.nullNonFiniteMembers_eq_map, List.map_map]
  refine List.map_congr_left fun entry _ => ?_
  simp only [Function.comp_apply, Value.nullNonFinite, Value.nullNonFiniteAll_eq_map, List.map_map,
    ids]

/-! ### The loops over what was written -/

theorem skipped_written (position : entity.position.isFinite = true)
    (bad : badCoords entity.position.x entity.position.y entity.position.z = true) :
    Skipped (entityJson entity).nullNonFinite (reloadedHead entity) :=
  ⟨readHead_written position, bad⟩

theorem readAs_written (finite : FiniteEntity entity)
    (placed : badCoords entity.position.x entity.position.y entity.position.z = false) :
    ReadAs (entityJson entity).nullNonFinite (reloaded entity) := by
  refine ⟨reloadedHead entity, readHead_written finite.position, placed, ?_⟩
  rw [nullNonFinite_entityJson finite]
  exact readRest_entityJson finite

/-- A position that passes the check is finite. -/
theorem isFinite_of_placed {position : Vec3}
    (placed : badCoords position.x position.y position.z = false) : position.isFinite = true := by
  unfold badCoords at placed
  simp only [Bool.or_eq_false_iff] at placed
  obtain ⟨⟨⟨⟨⟨⟨⟨⟨nanX, nanY⟩, nanZ⟩, infX⟩, infY⟩, infZ⟩, -⟩, -⟩, -⟩ := placed
  unfold Vec3.isFinite
  rw [Binary.Flt.isFinite_of_not nanX infX, Binary.Flt.isFinite_of_not nanY infY,
    Binary.Flt.isFinite_of_not nanZ infZ]
  rfl

theorem mem_elements_readBack {element : Value} :
    element ∈ elements (readBack entities savedPlayers timeOfDay weatherState)
      ↔ ∃ id entity, entities.lookup id = some entity
        ∧ element = (entityJson entity).nullNonFinite := by
  rw [elements_readBack, List.mem_map]
  constructor
  · rintro ⟨⟨id, entity⟩, member, rfl⟩
    exact ⟨id, entity, AMap.mem_toList.mp member, rfl⟩
  · rintro ⟨id, entity, stored, rfl⟩
    exact ⟨(id, entity), AMap.mem_toList.mpr stored, rfl⟩

theorem short_readBack (few : entities.size ≤ KMP_MAX_SYNC_ENTITIES) :
    0 + (elements (readBack entities savedPlayers timeOfDay weatherState)).length ≤ KMP_MAX_SYNC_ENTITIES := by
  rw [elements_readBack, List.length_map, AMap.size_toList, Nat.zero_add]
  exact few

/-- The entity loop over a finite world raises no exception. -/
theorem loop_readBack_complete
    (finite : ∀ id entity, entities.lookup id = some entity → FiniteEntity entity) :
    (loop (readBack entities savedPlayers timeOfDay weatherState)).1 = true := by
  refine loadEntities_complete _ _ fun element inside => ?_
  obtain ⟨id, entity, stored, rfl⟩ := mem_elements_readBack.mp inside
  by_cases bad : badCoords entity.position.x entity.position.y entity.position.z = true
  · exact Or.inl ⟨_, skipped_written (finite id entity stored).position bad⟩
  · exact Or.inr ⟨_, readAs_written (finite id entity stored) (Bool.not_eq_true _ |>.mp bad)⟩

/-- Within the cap and without an exception, every entity at a usable place is loaded. -/
theorem loop_readBack_present (few : entities.size ≤ KMP_MAX_SYNC_ENTITIES)
    (complete : (loop (readBack entities savedPlayers timeOfDay weatherState)).1 = true)
    {id : EntityID} (stored : entities.lookup id = some entity)
    (placed : badCoords entity.position.x entity.position.y entity.position.z = false) :
    ((loop (readBack entities savedPlayers timeOfDay weatherState)).2.entities.lookup
      entity.id).isSome = true := by
  have inside : (entityJson entity).nullNonFinite
      ∈ elements (readBack entities savedPlayers timeOfDay weatherState) :=
    mem_elements_readBack.mpr ⟨id, entity, stored, rfl⟩
  have head := readHead_written (isFinite_of_placed placed)
  have read : ∃ other, ReadAs (entityJson entity).nullNonFinite other ∧ other.id = entity.id := by
    rcases loadEntities_reads _ _ (short_readBack few) complete _ inside with ⟨head', read, bad⟩ | ⟨other, read⟩
    · rw [head] at read
      cases read
      rw [show (reloadedHead entity).position = entity.position from rfl, placed] at bad
      cases bad
    · refine ⟨other, read, ?_⟩
      obtain ⟨head', read', -, body⟩ := read
      rw [head] at read'
      cases read'
      exact (readRest_fields body).1
  obtain ⟨other, read, same⟩ := read
  obtain ⟨found, loaded, -⟩ := loadEntities_stores (motive := fun _ => True) _ _ (short_readBack few) complete
    (fun _ _ _ _ _ => trivial) (Or.inr ⟨_, inside, other, read, same⟩)
  exact Option.isSome_iff_exists.mpr ⟨found, loaded⟩

/-- Every entity is stored under its own identifier. -/
def SelfKeyed (entities : AMap EntityID ServerEntity) : Prop :=
  ∀ id entity, entities.lookup id = some entity → entity.id = id

/-- The table that is loaded from a finite world within the cap. -/
theorem loop_readBack_lookup (few : entities.size ≤ KMP_MAX_SYNC_ENTITIES) (keyed : SelfKeyed entities)
    (finite : ∀ id entity, entities.lookup id = some entity → FiniteEntity entity)
    {id : EntityID} (stored : entities.lookup id = some entity)
    (placed : badCoords entity.position.x entity.position.y entity.position.z = false) :
    (loop (readBack entities savedPlayers timeOfDay weatherState)).2.entities.lookup id
      = some (reloaded entity) := by
  have inside : (entityJson entity).nullNonFinite
      ∈ elements (readBack entities savedPlayers timeOfDay weatherState) :=
    mem_elements_readBack.mpr ⟨id, entity, stored, rfl⟩
  -- two written entities with one identifier are one entity
  have agree : ∀ e ∈ elements (readBack entities savedPlayers timeOfDay weatherState), ∀ other,
      ReadAs e other → other.id = id → other = reloaded entity := by
    intro e member other read same
    obtain ⟨id', entity', stored', rfl⟩ := mem_elements_readBack.mp member
    have placed' : badCoords entity'.position.x entity'.position.y entity'.position.z = false := by
      obtain ⟨head, headRead, place, -⟩ := read
      rw [readHead_written (finite id' entity' stored').position] at headRead
      cases headRead
      exact place
    have whole := read.unique (readAs_written (finite id' entity' stored') placed')
    have ids : id' = id := by
      rw [whole] at same
      exact (keyed id' entity' stored').symm.trans same
    rw [ids, stored] at stored'
    cases stored'
    exact whole
  obtain ⟨found, loaded, same⟩ := loadEntities_stores (motive := fun other => other = reloaded entity)
    _ _ (short_readBack few) (loop_readBack_complete finite) agree (Or.inr ⟨_, inside, reloaded entity,
      readAs_written (finite id entity stored) placed, keyed id entity stored⟩)
  rw [← same]
  exact loaded

/-! ### Saved players -/

theorem mapM_unsigned (ids : List EntityID) : (ids.map unsigned).mapM Value.getUInt32 = some ids := by
  induction ids with
  | nil => rfl
  | cons id rest ih =>
    rw [List.map_cons, List.mapM_cons, ih, getUInt32_unsigned]
    rfl

/-- The identifiers of a record that are in a table. -/
def kept (table : AMap EntityID ServerEntity) (saved : SavedPlayer) : List EntityID :=
  saved.entityIds.filter fun id => (table.lookup id).isSome

/-- A saved player as the document has it. -/
def playerMember (entry : Bytes × SavedPlayer) : Bytes × Value :=
  (entry.1, .arr (entry.2.entityIds.map unsigned))

/-- One written record is read without an exception. -/
theorem loadPlayers_cons (table : AMap EntityID ServerEntity) (loaded : AMap Bytes SavedPlayer)
    (entry : Bytes × SavedPlayer) (rest : List (Bytes × Value)) :
    loadPlayers table loaded (playerMember entry :: rest)
      = loadPlayers table
          (if kept table entry.2 = [] then loaded
            else AList.insert entry.1 ⟨entry.1, kept table entry.2⟩ loaded) rest := by
  have read : (Value.arr (entry.2.entityIds.map unsigned)).items.mapM Value.getUInt32
      = some entry.2.entityIds := mapM_unsigned _
  unfold playerMember
  rw [loadPlayers, read]
  rfl

/-- **Saved players are read back**: each record with the identifiers that are in the table, and no
empty record. -/
theorem loadPlayers_written (table : AMap EntityID ServerEntity)
    (entries : List (Bytes × SavedPlayer)) (names : (entries.map Prod.fst).Nodup)
    (loaded : AMap Bytes SavedPlayer) :
    (loadPlayers table loaded (entries.map playerMember)).1 = true
      ∧ (∀ name saved, (name, saved) ∈ entries →
        (loadPlayers table loaded (entries.map playerMember)).2.lookup name
          = if kept table saved = [] then loaded.lookup name else some ⟨name, kept table saved⟩)
      ∧ ∀ name, name ∉ entries.map Prod.fst →
        (loadPlayers table loaded (entries.map playerMember)).2.lookup name = loaded.lookup name := by
  induction entries generalizing loaded with
  | nil => exact ⟨rfl, fun name saved inside => (by cases inside), fun _ _ => rfl⟩
  | cons entry rest ih =>
    rw [List.map_cons, List.nodup_cons] at names
    rw [List.map_cons, loadPlayers_cons]
    set next := if kept table entry.2 = [] then loaded
      else AList.insert entry.1 ⟨entry.1, kept table entry.2⟩ loaded with nextEq
    have after : ∀ name, next.lookup name
        = if name = entry.1 ∧ kept table entry.2 ≠ [] then some ⟨entry.1, kept table entry.2⟩
          else loaded.lookup name := by
      intro name
      rw [nextEq]
      split_ifs with none both both
      · exact absurd none both.2
      · rfl
      · rw [both.1]
        exact AList.lookup_insert loaded
      · refine AList.lookup_insert_ne fun same => both ⟨same, none⟩
    obtain ⟨complete, present, absent⟩ := ih names.2 next
    refine ⟨complete, fun name saved inside => ?_, fun name missing => ?_⟩
    · rcases List.mem_cons.mp inside with rfl | inside
      · rw [absent name names.1, after]
        by_cases none : kept table saved = []
        · rw [if_pos none, if_neg fun both => both.2 none]
        · rw [if_neg none, if_pos ⟨rfl, none⟩]
      · have other : name ≠ entry.1 := by
          rintro rfl
          exact names.1 (List.mem_map.mpr ⟨_, inside, rfl⟩)
        have unchanged : next.lookup name = loaded.lookup name := by
          rw [after, if_neg fun both => other both.1]
        rw [present name saved inside, unchanged]
    · rw [List.map_cons, List.mem_cons, not_or] at missing
      rw [absent name missing.2, after, if_neg fun both => missing.1 both.1]

theorem playerLoop_readBack :
    (playerLoop (readBack entities savedPlayers timeOfDay weatherState)).1 = true
      ∧ ∀ name, (playerLoop (readBack entities savedPlayers timeOfDay weatherState)).2.lookup name
        = (savedPlayers.lookup name).bind fun saved =>
            if kept (loop (readBack entities savedPlayers timeOfDay weatherState)).2.entities saved = []
              then none
              else some ⟨name,
                kept (loop (readBack entities savedPlayers timeOfDay weatherState)).2.entities saved⟩ := by
  obtain ⟨complete, present, absent⟩ := loadPlayers_written
    (loop (readBack entities savedPlayers timeOfDay weatherState)).2.entities savedPlayers.toList
    savedPlayers.toList_keys_nodup ∅
  unfold playerLoop
  rw [playerMembers_readBack]
  refine ⟨complete, fun name => ?_⟩
  cases stored : savedPlayers.lookup name with
  | none =>
    refine absent name fun inside => ?_
    obtain ⟨⟨key, saved⟩, member, rfl⟩ := List.mem_map.mp inside
    rw [AMap.mem_toList.mp member] at stored
    cases stored
  | some saved => exact present name saved (AMap.mem_toList.mpr stored)

/-- **A finite world is loaded**: what the reader writes for the document of a save. -/
theorem loadDocument_readBack (time : timeOfDay.isFinite = true)
    (finite : ∀ id entity, entities.lookup id = some entity → FiniteEntity entity) (world : World) :
    loadDocument (readBack entities savedPlayers timeOfDay weatherState) world
      = (true, ⟨(loop (readBack entities savedPlayers timeOfDay weatherState)).2.entities,
          (playerLoop (readBack entities savedPlayers timeOfDay weatherState)).2, timeOfDay,
          weatherState, (loop (readBack entities savedPlayers timeOfDay weatherState)).2.maxId + 1⟩) := by
  rw [loadDocument_loops (time_readBack time) weather_readBack, if_pos (loop_readBack_complete finite),
    if_pos playerLoop_readBack.1]

end Persistence

end KenshiMP
