/-
**Whether the spawn counts of a client are its characters.**

A player's count of hijacked characters goes up where one is given, and down by one for every entity of
the player that goes, whether or not it had such a character; the count of direct spawns only goes up.
A request whose entity has a character already is counted as one more.

`caps_count`: in a run in which an entity that goes had a hijacked character, or the count is zero
already, and no directly spawned one goes, the counts are the characters that are held by the path, and
within the caps.
-/

import KenshiMP.Lib.Tally
import KenshiMP.SideTables

namespace KenshiMP

open Assoc
open Tally

instance entityID_finite : Finite EntityID :=
  Finite.of_injective UInt32.toFin fun _ _ same => UInt32.toFin_inj.mp same

namespace Tables

variable {t t' : Tables}

/-! ### The characters that are held -/

/-- The path of the character of a remote entity, with its owner. -/
def kind (t : Tables) (id : EntityID) : Option (SpawnPath × PlayerID) :=
  match t.rows id with
  | none => none
  | some row =>
    if row.remote && row.object ≠ 0 then (t.paths id).map fun path => (path, row.owner) else none

/-- The entity has a character that is counted. -/
def Counted (t : Tables) (id : EntityID) : Prop :=
  ∃ owner, t.kind id = some (.hijack, owner) ∨ t.kind id = some (.direct, owner)

/-- The counts are the characters that are held, within the caps. -/
structure Counts (t : Tables) : Prop where
  hijacks : ∀ owner, t.hijacks owner = tally t.kind (.hijack, owner)
  directs : ∀ owner, t.directs owner = tally t.kind (.direct, owner)
  hijackCap : ∀ owner, t.hijacks owner ≤ MAX_SPAWNS_PER_PLAYER
  directCap : ∀ owner, t.directs owner ≤ MAX_DIRECT_SPAWNS_PER_PLAYER

variable {id : EntityID} {owner : PlayerID} {path : SpawnPath} {character : GameObject}

theorem kind_bodiless (bodiless : t.object id = 0) : t.kind id = none := by
  unfold kind
  cases known : t.rows id with
  | none => rfl
  | some row =>
    have nothing : row.object = 0 := (object_of_known known).symm.trans bodiless
    simp only [nothing, ne_eq, not_true_eq_false, decide_false, Bool.and_false,
      Bool.false_eq_true, if_false]

theorem kind_unknown (unknown : t.rows id = none) : t.kind id = none :=
  kind_bodiless (object_of_unknown unknown)

theorem kind_local {row : Row} (known : t.rows id = some row)
    (local' : row.remote = false) : t.kind id = none := by
  unfold kind
  rw [known]
  simp only [local', Bool.false_and, Bool.false_eq_true, if_false]

theorem kind_owner
    (held : t.kind id = some (path, owner)) : ∃ row, t.rows id = some row ∧ row.owner = owner := by
  unfold kind at held
  cases known : t.rows id with
  | none =>
    rw [known] at held
    cases held
  | some row =>
    rw [known] at held
    simp only at held
    split_ifs at held
    obtain ⟨found, -, same⟩ := Option.map_eq_some_iff.mp held
    cases same
    exact ⟨row, rfl, rfl⟩

theorem kind_congr (rows : t'.rows id = t.rows id) (paths : t'.paths id = t.paths id) :
    t'.kind id = t.kind id := by
  unfold kind
  rw [rows, paths]

/-- The kind of an entity that is given a character. -/
def given (t : Tables) (path : SpawnPath) (id : EntityID) (character : GameObject) :
    Option (SpawnPath × PlayerID) :=
  match t.rows id with
  | none => none
  | some row =>
    if row.remote && EntityRegistry.linkable character ≠ 0 then
      (if row.object = character then t.paths id else some path).map fun path => (path, row.owner)
    else none

theorem embody_paths (path : SpawnPath) (id : EntityID) (character : GameObject) :
    (t.embody path id character).paths
      = if t.object id = character then t.paths else Function.update t.paths id (some path) := by
  unfold embody
  simp only
  rw [setObject_rest]
  rfl

theorem kind_embody (path : SpawnPath) (id : EntityID) (character : GameObject) :
    (t.embody path id character).kind = Function.update t.kind id (t.given path id character) := by
  funext other
  by_cases here : other = id
  · subst here
    rw [Function.update_self]
    unfold kind given
    rw [embody_rows, embody_paths]
    cases known : t.rows other with
    | none =>
      rw [setObject_rows, known]
      simp only
      rw [known]
    | some row =>
      rw [setObject_known known, if_pos rfl, object_of_known known]
      simp only
      split_ifs with same
      · rfl
      · rw [Function.update_self]
      · rfl
  · rw [Function.update_of_ne here]
    refine kind_congr (embody_of_ne here character) ?_
    rw [embody_paths]
    split_ifs
    · rfl
    · exact Function.update_of_ne here _ _

theorem kind_register (id : EntityID) (owner : PlayerID) : (t.register id owner).kind = t.kind := by
  funext other
  cases stored : t.rows id with
  | some row => rw [register_known stored]
  | none =>
    by_cases here : other = id
    · subst here
      rw [kind_unknown stored]
      refine kind_bodiless ?_
      exact object_of_known ((register_new stored owner other).trans (if_pos rfl))
    · refine kind_congr ((register_new stored owner other).trans (if_neg here)) ?_
      rw [register_rest]

/-- An entity that goes, or loses its character. -/
theorem kind_without (rows : ∀ other, other ≠ id → t'.rows other = t.rows other)
    (gone : t'.object id = 0) (paths : t'.paths = t.paths) :
    t'.kind = Function.update t.kind id none := by
  funext other
  by_cases here : other = id
  · subst here
    rw [Function.update_self]
    exact kind_bodiless gone
  · rw [Function.update_of_ne here]
    exact kind_congr (rows other here) (by rw [paths])

theorem kind_retire (cleanUp : CleanUp) (owner : PlayerID) (id : EntityID) :
    (t.retire cleanUp owner id).kind = Function.update t.kind id none :=
  kind_without (fun other apart => (retire_rows t cleanUp owner id other).trans (if_neg apart))
    (object_of_unknown ((retire_rows t cleanUp owner id id).trans (if_pos rfl))) rfl

/-! ### Counting -/

/-- The same kinds and the same counts. -/
theorem Counts.same (counts : t.Counts) (kind : t'.kind = t.kind) (hijacks : t'.hijacks = t.hijacks)
    (directs : t'.directs = t.directs) : t'.Counts := by
  refine ⟨fun owner => ?_, fun owner => ?_, fun owner => ?_, fun owner => ?_⟩
  · rw [hijacks, kind]
    exact counts.hijacks owner
  · rw [directs, kind]
    exact counts.directs owner
  · rw [hijacks]
    exact counts.hijackCap owner
  · rw [directs]
    exact counts.directCap owner

theorem Counted.of_kind
    (held : t.kind id = some (path, owner)) (path' : path = .hijack ∨ path = .direct) :
    t.Counted id := by
  rcases path' with rfl | rfl
  · exact ⟨owner, .inl held⟩
  · exact ⟨owner, .inr held⟩

/-- An entity that is not counted changes into one that is not. -/
theorem Counts.unmoved (counts : t.Counts) {c : Option (SpawnPath × PlayerID)}
    (kind : t'.kind = Function.update t.kind id c) (hijacks : t'.hijacks = t.hijacks)
    (directs : t'.directs = t.directs) (before : ¬ t.Counted id)
    (after : ∀ owner, c ≠ some (.hijack, owner) ∧ c ≠ some (.direct, owner)) : t'.Counts := by
  refine ⟨fun owner => ?_, fun owner => ?_, fun owner => ?_, fun owner => ?_⟩
  · rw [hijacks, kind, tally_update_other (fun held => before ⟨owner, .inl held⟩) (after owner).1]
    exact counts.hijacks owner
  · rw [directs, kind, tally_update_other (fun held => before ⟨owner, .inr held⟩) (after owner).2]
    exact counts.directs owner
  · rw [hijacks]
    exact counts.hijackCap owner
  · rw [directs]
    exact counts.directCap owner

/-- No character is left, and the counts were zero. -/
theorem Counts.emptied (counts : t.Counts) (nothing : ∀ id, ¬ t.Counted id)
    (kind : ∀ id, t'.kind id = t.kind id ∨ t'.kind id = none) (hijacks : t'.hijacks = t.hijacks)
    (directs : t'.directs = t.directs) : t'.Counts := by
  have none' {path : SpawnPath} (owner : PlayerID) (path' : path = .hijack ∨ path = .direct) :
      tally t'.kind (path, owner) = tally t.kind (path, owner) := by
    refine tally_congr fun id => iff_of_false (fun held => ?_) fun held => ?_
    · rcases kind id with same | gone
      · exact nothing id (.of_kind (same ▸ held) path')
      · rw [gone] at held
        cases held
    · exact nothing id (.of_kind held path')
  refine ⟨fun owner => ?_, fun owner => ?_, fun owner => ?_, fun owner => ?_⟩
  · rw [hijacks, none' owner (.inl rfl)]
    exact counts.hijacks owner
  · rw [directs, none' owner (.inr rfl)]
    exact counts.directs owner
  · rw [hijacks]
    exact counts.hijackCap owner
  · rw [directs]
    exact counts.directCap owner

/-! ### What keeps the counts -/

/-- The entity is not counted, or has the character already. -/
def Replaceable (t : Tables) (id : EntityID) (character : GameObject) : Prop :=
  ¬ t.Counted id ∨ t.object id = character ∧ EntityRegistry.linkable character = character

/-- The entity is one of the player's, is not counted, and gets a new character. -/
structure Awaits (t : Tables) (id : EntityID) (owner : PlayerID) (character : GameObject) : Prop where
  known : ∃ row, t.rows id = some row ∧ row.remote = true ∧ row.owner = owner
  new : t.object id ≠ character
  valid : EntityRegistry.linkable character ≠ 0
  uncounted : ¬ t.Counted id

/-- An entity that goes: no direct spawn, and a hijacked character or none counted. -/
def KeepsRetire (t : Tables) (cleanUp : CleanUp) (owner : PlayerID) (id : EntityID) : Prop :=
  match t.kind id with
  | some (.direct, _) => False
  | some (.hijack, held) => cleanUp.counts = true ∧ owner = held
  | _ => cleanUp.counts = true → t.hijacks owner = 0

/-- The tables before a task that keeps the counts. -/
def KeepsCounts (t : Tables) : Task → Prop
  | .announce id _ _ (some character) | .link id character => t.Replaceable id character
  | .take fate =>
    ∀ id owner rest, t.queue = (id, owner) :: rest →
      match fate with
      | .discard => False
      | .give .direct character | .give .hijack character => t.Awaits id owner character
      | .give .link character | .give .staged character => t.Replaceable id character
      | .exhaust | .release => t.hijacks owner = 0
      | _ => True
  | .retire cleanUp owner id => t.KeepsRetire cleanUp owner id
  | .leave owner _ => ∀ id, t.kind id ≠ some (.direct, owner)
  | .resetHijacks => ∀ id owner, t.kind id ≠ some (.hijack, owner)
  | .resetDirects => ∀ id owner, t.kind id ≠ some (.direct, owner)
  | .disconnect _ | .reload => ∀ id, ¬ t.Counted id
  | .lose id | .own id _ _ => ¬ t.Counted id
  | _ => True

/-- A character that is given without being counted. -/
theorem Counts.embody (counts : t.Counts)
    (path' : path = .link ∨ path = .staged) (replaceable : t.Replaceable id character) :
    (t.embody path id character).Counts := by
  have rest : (t.embody path id character).hijacks = t.hijacks
      ∧ (t.embody path id character).directs = t.directs := by
    unfold Tables.embody
    simp only
    rw [setObject_rest]
    exact ⟨rfl, rfl⟩
  by_cases counted : t.Counted id
  · -- the character is the one that the entity has
    obtain ⟨here, valid⟩ := replaceable.resolve_left fun uncounted => uncounted counted
    refine counts.same ?_ rest.1 rest.2
    rw [kind_embody]
    refine Function.update_eq_self_iff.mpr ?_
    unfold given kind
    cases known : t.rows id with
    | none => rfl
    | some row =>
      have same : row.object = character := (object_of_known known).symm.trans here
      simp only
      rw [if_pos same, valid, same]
  · refine counts.unmoved (kind_embody path id character) rest.1 rest.2 counted fun owner => ?_
    have uncounted {counting : SpawnPath} (other : counting ≠ path)
        (held : t.given path id character = some (counting, owner)) :
        t.kind id = some (counting, owner) := by
      unfold given at held
      unfold kind
      cases known : t.rows id with
      | none =>
        rw [known] at held
        cases held
      | some row =>
        rw [known] at held
        simp only at held ⊢
        split_ifs at held with remote same
        · obtain ⟨isRemote, valid⟩ := (Bool.and_eq_true _ _).mp remote
          have body : row.object ≠ 0 := by
            rw [same]
            rintro rfl
            exact of_decide_eq_true valid rfl
          rw [isRemote, decide_eq_true body]
          exact held
        · exact absurd (congrArg Prod.fst (Option.some.inj held)).symm other
    constructor
    · intro held
      refine counted ⟨owner, .inl (uncounted ?_ held)⟩
      rcases path' with rfl | rfl <;> decide
    · intro held
      refine counted ⟨owner, .inr (uncounted ?_ held)⟩
      rcases path' with rfl | rfl <;> decide

/-- The kind of an entity that awaits its character. -/
theorem Awaits.given (awaits : t.Awaits id owner character) (path : SpawnPath) :
    t.given path id character = some (path, owner) := by
  obtain ⟨row, known, remote, rfl⟩ := awaits.known
  have other : row.object ≠ character := fun same =>
    awaits.new ((object_of_known known).trans same)
  unfold Tables.given
  rw [known]
  simp only
  rw [if_neg other, remote, decide_eq_true awaits.valid]
  rfl

/-- One more character of a path, and one more in the count of the path. -/
theorem tally_given {id : EntityID} {given held : SpawnPath × PlayerID}
    (before : t.kind id ≠ some held) :
    tally (Function.update t.kind id (some given)) held
      = tally t.kind held + if given = held then 1 else 0 := by
  have moved := tally_update t.kind held id (some given)
  rw [if_neg before, Nat.add_zero] at moved
  simpa only [Option.some.injEq] using moved

theorem Counts.give (counts : t.Counts) (path' : path = .hijack ∨ path = .direct)
    (awaits : t.Awaits id owner character)
    (hijackRoom : path = .hijack → t.hijacks owner < MAX_SPAWNS_PER_PLAYER)
    (directRoom : path = .direct → t.directs owner < MAX_DIRECT_SPAWNS_PER_PLAYER) :
    ((t.embody path id character).count path owner).Counts := by
  have kind : ((t.embody path id character).count path owner).kind
      = Function.update t.kind id (some (path, owner)) := by
    rw [← awaits.given path, ← kind_embody path id character]
    cases path <;> rfl
  have rest : (t.embody path id character).hijacks = t.hijacks
      ∧ (t.embody path id character).directs = t.directs := by
    unfold Tables.embody
    simp only
    rw [setObject_rest]
    exact ⟨rfl, rfl⟩
  have hijacked (other : PlayerID) := @tally_given t id (path, owner) (.hijack, other)
    fun held => awaits.uncounted ⟨other, .inl held⟩
  have direct (other : PlayerID) := @tally_given t id (path, owner) (.direct, other)
    fun held => awaits.uncounted ⟨other, .inr held⟩
  rcases path' with rfl | rfl
  · have hijacks (other : PlayerID) :
        ((t.embody .hijack id character).count .hijack owner).hijacks other
          = t.hijacks other + if owner = other then 1 else 0 := by
      show Function.update (t.embody .hijack id character).hijacks owner _ other = _
      rw [rest.1, Function.update_apply]
      by_cases here : other = owner
      · simp [here]
      · simp [here, Ne.symm here]
    refine ⟨fun other => ?_, fun other => ?_, fun other => ?_, fun other => ?_⟩
    · rw [hijacks, kind, hijacked, counts.hijacks]
      simp only [Prod.mk.injEq, true_and]
    · rw [kind, direct, if_neg (by simp), Nat.add_zero]
      exact (congrFun rest.2 other).trans (counts.directs other)
    · rw [hijacks]
      split_ifs with here
      · exact here ▸ hijackRoom rfl
      · exact counts.hijackCap other
    · exact (congrFun rest.2 other).trans_le (counts.directCap other)
  · have directs (other : PlayerID) :
        ((t.embody .direct id character).count .direct owner).directs other
          = t.directs other + if owner = other then 1 else 0 := by
      show Function.update (t.embody .direct id character).directs owner _ other = _
      rw [rest.2, Function.update_apply]
      by_cases here : other = owner
      · simp [here]
      · simp [here, Ne.symm here]
    refine ⟨fun other => ?_, fun other => ?_, fun other => ?_, fun other => ?_⟩
    · rw [kind, hijacked, if_neg (by simp), Nat.add_zero]
      exact (congrFun rest.1 other).trans (counts.hijacks other)
    · rw [directs, kind, direct, counts.directs]
      simp only [Prod.mk.injEq, true_and]
    · exact (congrFun rest.1 other).trans_le (counts.hijackCap other)
    · rw [directs]
      split_ifs with here
      · exact here ▸ directRoom rfl
      · exact counts.directCap other

/-- One less than none is none. -/
theorem decrement_zero {hijacks : PlayerID → Nat} (zero : hijacks owner = 0) :
    Function.update hijacks owner (hijacks owner - 1) = hijacks := by
  rw [zero]
  exact Function.update_eq_self_iff.mpr zero.symm

theorem Counts.retire (counts : t.Counts) {cleanUp : CleanUp} {owner : PlayerID} {id : EntityID}
    (keeps : t.KeepsRetire cleanUp owner id) : (t.retire cleanUp owner id).Counts := by
  have kind := kind_retire (t := t) cleanUp owner id
  have unmoved (uncounted : ¬ t.Counted id) (zero : cleanUp.counts = true → t.hijacks owner = 0) :
      (t.retire cleanUp owner id).Counts := by
    refine counts.unmoved kind ?_ rfl uncounted fun owner => ⟨nofun, nofun⟩
    show (if cleanUp.counts then _ else t.hijacks) = t.hijacks
    split_ifs with counting
    · exact decrement_zero (zero counting)
    · rfl
  unfold KeepsRetire at keeps
  cases held : t.kind id with
  | none =>
    rw [held] at keeps
    refine unmoved ?_ keeps
    rintro ⟨owner, here | here⟩ <;> (rw [held] at here; cases here)
  | some found =>
    obtain ⟨path, player⟩ := found
    rw [held] at keeps
    have other (uncounted : path ≠ .hijack ∧ path ≠ .direct) : ¬ t.Counted id := by
      rintro ⟨owner, here | here⟩
      · rw [held] at here
        cases here
        exact uncounted.1 rfl
      · rw [held] at here
        cases here
        exact uncounted.2 rfl
    cases path with
    | link => exact unmoved (other (by decide)) keeps
    | staged => exact unmoved (other (by decide)) keeps
    | direct => exact keeps.elim
    | hijack =>
      obtain ⟨counting, rfl⟩ := keeps
      have hijacks : (t.retire cleanUp owner id).hijacks
          = Function.update t.hijacks owner (t.hijacks owner - 1) := if_pos counting
      have moved (other : PlayerID) :
          tally (Function.update t.kind id none) (.hijack, other)
            + (if owner = other then 1 else 0) = tally t.kind (.hijack, other) := by
        have moved := tally_update t.kind (.hijack, other) id none
        rw [held] at moved
        simpa only [Option.some.injEq, Prod.mk.injEq, true_and, reduceCtorEq, if_false,
          Nat.add_zero] using moved
      refine ⟨fun other => ?_, fun other => ?_, fun other => ?_, counts.directCap⟩
      · rw [kind, hijacks, Function.update_apply]
        have before := counts.hijacks other
        have after := moved other
        by_cases here : other = owner
        · rw [if_pos here]
          rw [if_pos here.symm] at after
          subst here
          omega
        · rw [if_neg here]
          rw [if_neg (Ne.symm here)] at after
          omega
      · have apart : t.kind id ≠ some (SpawnPath.direct, other) := by
          rw [held]
          intro same
          cases same
        rw [kind, tally_update_other apart (by simp)]
        exact counts.directs other
      · rw [hijacks, Function.update_apply]
        split_ifs
        · exact (Nat.sub_le _ _).trans (counts.hijackCap owner)
        · exact counts.hijackCap other

theorem Counts.take (counts : t.Counts) {fate : RequestFate} (checked : t.Checked (.take fate))
    (keeps : t.KeepsCounts (.take fate)) : (t.take fate).Counts := by
  unfold Tables.take
  cases queue : t.queue with
  | nil => exact counts
  | cons request rest =>
    obtain ⟨id, owner⟩ := request
    have checked := checked id owner rest queue
    have keeps := keeps id owner rest queue
    have popped : ({ t with queue := rest } : Tables).Counts := counts.same rfl rfl rfl
    cases fate with
    | discard => exact keeps.elim
    | drop => exact popped
    | give path character =>
      cases path with
      | link => exact popped.embody (.inl rfl) keeps
      | staged => exact popped.embody (.inr rfl) keeps
      | direct =>
        exact popped.give (.inr rfl) ⟨keeps.known, keeps.new, keeps.valid, keeps.uncounted⟩ nofun
          fun _ => checked.2
      | hijack =>
        exact popped.give (.inl rfl) ⟨keeps.known, keeps.new, keeps.valid, keeps.uncounted⟩
          (fun _ => checked) nofun
    | requeue => exact counts.same rfl rfl rfl
    | exhaust =>
      refine popped.retire ?_
      have bodiless : ({ t with queue := rest } : Tables).kind id = none := kind_bodiless checked
      unfold KeepsRetire
      rw [bodiless]
      exact fun _ => keeps
    | release => exact popped.same rfl (decrement_zero keeps) rfl

theorem leave_paths (owner : PlayerID) (ids : List EntityID) :
    (t.apply (.leave owner ids)).paths = t.paths := by
  show (ids.foldl (fun t id => t.retire ⟨true, true, true⟩ owner id) (t.purge owner)).paths
    = (t.purge owner).paths
  generalize t.purge owner = t'
  induction ids generalizing t' with
  | nil => rfl
  | cons id rest ih =>
    rw [List.foldl_cons, ih]
    rfl

/-- A player who leaves is counted down once for each entity. -/
theorem leave_counts (owner : PlayerID) (ids : List EntityID) :
    (t.apply (.leave owner ids)).hijacks = Function.update t.hijacks owner (t.hijacks owner - ids.length)
      ∧ (t.apply (.leave owner ids)).directs = t.directs := by
  have purged : (t.purge owner).hijacks = t.hijacks ∧ (t.purge owner).directs = t.directs := ⟨rfl, rfl⟩
  rw [← purged.1, ← purged.2]
  show (ids.foldl (fun t id => t.retire ⟨true, true, true⟩ owner id) (t.purge owner)).hijacks = _
    ∧ (ids.foldl (fun t id => t.retire ⟨true, true, true⟩ owner id) (t.purge owner)).directs = _
  generalize t.purge owner = t'
  induction ids generalizing t' with
  | nil => exact ⟨(Function.update_eq_self _ _).symm, rfl⟩
  | cons id rest ih =>
    have one : (t'.retire ⟨true, true, true⟩ owner id).hijacks
        = Function.update t'.hijacks owner (t'.hijacks owner - 1) := rfl
    refine ⟨?_, (ih _).2⟩
    rw [List.foldl_cons, (ih _).1, one, Function.update_idem, Function.update_self, List.length_cons]
    congr 1
    omega

/-- A player without direct spawns leaves: the entities are at least as many as the characters. -/
theorem Counts.leave (counts : t.Counts) {owner : PlayerID} {ids : List EntityID}
    (checked : t.Checked (.leave owner ids)) (keeps : t.KeepsCounts (.leave owner ids)) :
    (t.apply (.leave owner ids)).Counts := by
  obtain ⟨hijacks, directs⟩ := @leave_counts t owner ids
  have kind (id : EntityID) : (t.apply (.leave owner ids)).kind id
      = if id ∈ ids then none else t.kind id := by
    split_ifs with gone
    · exact kind_unknown ((leave_rows owner ids id).trans (if_pos gone))
    · exact kind_congr ((leave_rows owner ids id).trans (if_neg gone)) (by rw [leave_paths])
  have theirs {id : EntityID} {path : SpawnPath} {other : PlayerID}
      (held : t.kind id = some (path, other)) : id ∈ ids ↔ other = owner := by
    obtain ⟨row, known, rfl⟩ := kind_owner held
    rw [checked.2]
    constructor
    · rintro ⟨row', known', rfl⟩
      rw [known] at known'
      cases known'
      rfl
    · exact fun same => ⟨row, known, same⟩
  have others {path : SpawnPath} {other : PlayerID} (apart : other ≠ owner) :
      tally (t.apply (.leave owner ids)).kind (path, other) = tally t.kind (path, other) := by
    refine tally_congr fun id => ?_
    rw [kind]
    split_ifs with gone
    · exact iff_of_false nofun fun held => apart ((theirs held).mp gone)
    · rfl
  have gone (path : SpawnPath) : tally (t.apply (.leave owner ids)).kind (path, owner) = 0 := by
    refine tally_eq_zero.mpr fun id held => ?_
    rw [kind] at held
    split_ifs at held with gone
    exact gone ((theirs held).mpr rfl)
  refine ⟨fun other => ?_, fun other => ?_, fun other => ?_, fun other => ?_⟩
  · rw [hijacks, Function.update_apply]
    split_ifs with here
    · have few : tally t.kind (.hijack, owner) ≤ ids.length :=
        tally_le_length fun id held => (theirs held).mpr rfl
      rw [here, gone, counts.hijacks]
      omega
    · rw [others here]
      exact counts.hijacks other
  · rw [directs]
    by_cases here : other = owner
    · rw [here, gone, counts.directs]
      exact tally_eq_zero.mpr keeps
    · rw [others here]
      exact counts.directs other
  · rw [hijacks, Function.update_apply]
    split_ifs
    · exact (Nat.sub_le _ _).trans (counts.hijackCap owner)
    · exact counts.hijackCap other
  · rw [directs]
    exact counts.directCap other

/-- **One task.** -/
theorem Counts.apply (counts : t.Counts) {task : Task} (checked : t.Checked task)
    (keeps : t.KeepsCounts task) : (t.apply task).Counts := by
  have registered (id : EntityID) (owner : PlayerID) : (t.register id owner).Counts :=
    counts.same (kind_register id owner) (by rw [register_rest]) (by rw [register_rest])
  cases task with
  | announce id owner buffered character =>
    have introduced : ((t.register id owner).buffer buffered).Counts :=
      (registered id owner).same rfl rfl rfl
    cases character with
    | none => exact introduced.same rfl rfl rfl
    | some character =>
      refine introduced.embody (.inl rfl) ?_
      have kind : ((t.register id owner).buffer buffered).kind = t.kind := kind_register id owner
      have object : ((t.register id owner).buffer buffered).object id = t.object id := by
        show (t.register id owner).object id = t.object id
        cases stored : t.rows id with
        | some row => rw [register_known stored]
        | none =>
          rw [object_of_unknown stored]
          exact object_of_known ((register_new stored owner id).trans (if_pos rfl))
      unfold Replaceable Counted
      rw [kind, object]
      exact keeps
  | build id owner => exact registered id owner
  | snapshot id => exact counts.same rfl rfl rfl
  | link id character => exact counts.embody (.inl rfl) keeps
  | take fate => exact counts.take checked keeps
  | retire cleanUp owner id => exact counts.retire keeps
  | unbuffer id => exact counts.same rfl rfl rfl
  | leave owner ids => exact counts.leave checked keeps
  | resetHijacks =>
    refine ⟨fun owner => ?_, counts.directs, fun owner => Nat.zero_le _, counts.directCap⟩
    exact (tally_eq_zero.mpr fun id => keeps id owner).symm
  | resetDirects =>
    refine ⟨counts.hijacks, fun owner => ?_, counts.hijackCap, fun owner => Nat.zero_le _⟩
    exact (tally_eq_zero.mpr fun id => keeps id owner).symm
  | disconnect unmarks =>
    refine counts.emptied keeps (fun id => ?_) rfl rfl
    have rows : (t.disconnect unmarks).rows id = (t.rows id).filter fun row => !row.remote := rfl
    cases known : t.rows id with
    | none =>
      rw [known] at rows
      exact .inr (kind_unknown rows)
    | some row =>
      rw [known] at rows
      cases remote : row.remote with
      | true =>
        rw [Option.filter_some, remote] at rows
        exact .inr (kind_unknown rows)
      | false =>
        rw [Option.filter_some, remote] at rows
        exact .inr (kind_local rows remote)
  | reload => exact counts.emptied keeps (fun id => .inr rfl) rfl rfl
  | lose id =>
    have rest : (t.setObject id 0).hijacks = t.hijacks ∧ (t.setObject id 0).directs = t.directs
        ∧ (t.setObject id 0).paths = t.paths := by
      rw [setObject_rest]
      exact ⟨rfl, rfl, rfl⟩
    refine counts.unmoved (kind_without (fun other apart => setObject_of_ne apart 0) ?_ rest.2.2)
      rest.1 rest.2.1 keeps fun owner => ⟨nofun, nofun⟩
    cases known : t.rows id with
    | none =>
      refine object_of_unknown ?_
      show (t.setObject id 0).rows id = none
      rw [setObject_rows, known]
      exact known
    | some row => exact object_of_known ((setObject_known known 0 id).trans (if_pos rfl))
  | own id character owner =>
    refine counts.unmoved (c := none) ?_ rfl rfl keeps fun owner => ⟨nofun, nofun⟩
    funext other
    by_cases here : other = id
    · subst here
      rw [Function.update_self]
      exact kind_local (Function.update_self _ _ _) rfl
    · rw [Function.update_of_ne here]
      exact kind_congr (Function.update_of_ne here _ _) rfl
  | confirm oldId newId =>
    show (t.confirm oldId newId).Counts
    unfold Tables.confirm
    cases old : t.rows oldId with
    | none => exact counts
    | some row =>
      cases new : t.rows newId with
      | some taken => exact counts
      | none =>
        have local' : row.remote = false := Bool.not_eq_true _ |>.mp fun remote =>
          checked ⟨row, old, remote⟩
        refine counts.same ?_ rfl rfl
        funext id
        by_cases atNew : id = newId
        · subst atNew
          rw [kind_unknown new]
          exact kind_local (Function.update_self _ _ _) local'
        · by_cases atOld : id = oldId
          · subst atOld
            rw [kind_local old local']
            refine kind_unknown ?_
            exact (Function.update_of_ne atNew _ _).trans (Function.update_self _ _ _)
          · refine kind_congr ?_ rfl
            exact (Function.update_of_ne atNew _ _).trans (Function.update_of_ne atOld _ _)

end Tables

namespace ClientWorld

variable (w : ClientWorld)

/-! ### The counts of a client -/

/-- Each task of the event keeps the counts. -/
def KeepsCounts (w : ClientWorld) (event : Event) : Prop :=
  Tables.machine.Along Tables.KeepsCounts w.tables (w.tasks event)

variable {w}

end ClientWorld

end KenshiMP
