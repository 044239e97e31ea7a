/-
**Two invariants of the tables: the characters that are marked, and the entities with positions.**

* `Linked`: an address is that of one entity, and the marked characters are those of the remote entities;
* `Buffered`: only remote entities have positions.

Each has a condition on the tables before a task (`KeepsMarks`, `KeepsBuffers`) under which the task
preserves it. What the handlers check themselves (`Checked`) is not part of the conditions.
-/

import KenshiMP.Client.Checks

namespace KenshiMP

namespace Tables

variable {t : Tables}

/-! ### Rows -/

section Character

variable (path : SpawnPath) (id : EntityID) (character : GameObject)

theorem embody_rows :
    (t.embody path id character).rows = (t.setObject id (EntityRegistry.linkable character)).rows := by
  unfold embody
  simp only
  rw [setObject_rows, setObject_rows]
  rfl

theorem embody_ids :
    (t.embody path id character).ids = (t.setObject id (EntityRegistry.linkable character)).ids := by
  unfold embody
  simp only
  rw [setObject_ids, setObject_ids]
  rfl

theorem embody_buffers : (t.embody path id character).buffers = t.buffers := by
  unfold embody
  simp only
  rw [setObject_rest]
  rfl

theorem embody_queue : (t.embody path id character).queue = t.queue := by
  unfold embody
  simp only
  rw [setObject_rest]
  rfl

end Character

theorem count_rows (path : SpawnPath) (owner : PlayerID) : (t.count path owner).rows = t.rows := by
  cases path <;> rfl

variable {id : EntityID}

/-- A known entity, with another character. -/
theorem setObject_known {row : Row} (known : t.rows id = some row)
    (object : GameObject) (other : EntityID) :
    (t.setObject id object).rows other = if other = id then some { row with object := object, spawning := row.spawning && object = 0 }
        else t.rows other := by
  rw [setObject_rows, known]
  exact Function.update_apply _ _ _ _

/-- The other entities keep theirs. -/
theorem setObject_of_ne {id other : EntityID} (apart : other ≠ id) (object : GameObject) :
    (t.setObject id object).rows other = t.rows other := by
  rw [setObject_rows]
  cases t.rows id with
  | none => rfl
  | some row => exact Function.update_of_ne apart _ _

theorem embody_of_ne {path : SpawnPath} {id other : EntityID} (apart : other ≠ id)
    (character : GameObject) : (t.embody path id character).rows other = t.rows other := by
  rw [embody_rows, setObject_of_ne apart]

theorem retire_rows (t : Tables) (cleanUp : CleanUp) (owner : PlayerID) (id other : EntityID) :
    (t.retire cleanUp owner id).rows other = if other = id then none else t.rows other :=
  Function.update_apply _ _ _ _

/-- All entities of a player who leaves go. -/
theorem leave_rows (owner : PlayerID) (ids : List EntityID) (other : EntityID) :
    (t.apply (.leave owner ids)).rows other = if other ∈ ids then none else t.rows other := by
  show (ids.foldl (fun t id => t.retire ⟨true, true, true⟩ owner id) (t.purge owner)).rows other = _
  have purged : (t.purge owner).rows other = t.rows other := rfl
  rw [← purged]
  generalize t.purge owner = t'
  induction ids generalizing t' with
  | nil => exact (if_neg List.not_mem_nil).symm
  | cons id rest ih =>
    rw [List.foldl_cons, ih, retire_rows]
    by_cases here : other = id
    · simp [here]
    · simp [here]

theorem leave_queue (owner : PlayerID) (ids : List EntityID) :
    (t.apply (.leave owner ids)).queue = t.queue.filter fun request => request.2 ≠ owner := by
  show (ids.foldl (fun t id => t.retire ⟨true, true, true⟩ owner id) (t.purge owner)).queue
    = (t.purge owner).queue
  generalize t.purge owner = t'
  induction ids generalizing t' with
  | nil => rfl
  | cons id rest ih => rw [List.foldl_cons, ih]; rfl

theorem register_known {row : Row} (known : t.rows id = some row)
    (owner : PlayerID) : t.register id owner = t := by
  unfold register
  rw [known]

/-- A new entity is remote, without a character. -/
theorem register_new (unknown : t.rows id = none) (owner : PlayerID) (other : EntityID) :
    (t.register id owner).rows other = if other = id then some ⟨true, 0, owner, true⟩ else t.rows other := by
  rw [register_rows, unknown]
  exact Function.update_apply _ _ _ _

theorem object_of_known {row : Row} (known : t.rows id = some row) : t.object id = row.object := by
  unfold object
  rw [known]
  rfl

theorem object_of_unknown (unknown : t.rows id = none) : t.object id = 0 := by
  unfold object
  rw [unknown]
  rfl

/-- Registering an entity gives and takes no character. -/
theorem register_isLinked (id : EntityID) (owner : PlayerID) (object : GameObject) :
    (t.register id owner).IsLinked object ↔ t.IsLinked object := by
  cases known : t.rows id with
  | some row => rw [register_known known]
  | none =>
    refine and_congr_right fun there => exists_congr fun other => ?_
    rw [register_new known]
    split_ifs with here
    · rw [here, known]
      constructor
      · rintro ⟨row, same, -, found⟩
        cases same
        exact absurd found.symm there
      · rintro ⟨row, same, -⟩
        cases same
    · rfl

/-! ### Characters -/

/-- A remote entity with a character. -/
def IsEmbodied (t : Tables) (id : EntityID) : Prop :=
  ∃ row, t.rows id = some row ∧ row.remote = true ∧ row.object ≠ 0

/-- The address can be that of a character, the entity has no other one, and no other entity has it. -/
structure Fits (t : Tables) (id : EntityID) (character : GameObject) : Prop where
  there : character ≠ 0
  valid : EntityRegistry.linkable character = character
  only : t.object id = 0 ∨ t.object id = character
  unlinked : ∀ other, t.object other = character → other = id

/-- The addresses belong to their entities, and the marked ones to remote entities. -/
structure Linked (t : Tables) : Prop where
  paired : ∀ id row, t.rows id = some row → row.object ≠ 0 → t.ids row.object = some id
  marked : ∀ object, object ∈ t.marks ↔ t.IsLinked object

section Linked

variable (linked : t.Linked)

include linked

theorem Linked.congr {t' : Tables} (rows : t'.rows = t.rows)
    (ids : t'.ids = t.ids) (marks : t'.marks = t.marks) : t'.Linked := by
  constructor
  · rw [rows, ids]
    exact linked.paired
  · unfold IsLinked
    rw [rows, marks]
    exact linked.marked

/-- A character is that of one entity. -/
theorem Linked.single {id other : EntityID} {row row' : Row}
    (known : t.rows id = some row) (known' : t.rows other = some row') (there : row.object ≠ 0)
    (same : row'.object = row.object) : other = id := by
  have first := linked.paired id row known there
  have second := linked.paired other row' known' (same ▸ there)
  rw [same, first] at second
  exact (Option.some.inj second).symm

theorem Linked.register (id : EntityID) (owner : PlayerID) : (t.register id owner).Linked := by
  constructor
  · intro other row known there
    rw [register_rest]
    cases unknown : t.rows id with
    | some row' =>
      rw [register_known unknown] at known
      exact linked.paired other row known there
    | none =>
      rw [register_new unknown] at known
      split_ifs at known
      · cases known
        exact absurd rfl there
      · exact linked.paired other row known there
  · intro object
    rw [register_isLinked, register_rest]
    exact linked.marked object

/-- A character that fits is given to a remote entity and marked. -/
theorem Linked.embody {path : SpawnPath} {character : GameObject}
    (remote : t.IsRemote id) (fits : t.Fits id character) : (t.embody path id character).Linked := by
  obtain ⟨row, known, remote⟩ := remote
  obtain ⟨there, valid, only, unlinked⟩ := fits
  rw [object_of_known known] at only
  have rows (other : EntityID) : (t.embody path id character).rows other
      = if other = id then
          some { row with object := character, spawning := row.spawning && character = 0 }
        else t.rows other := by
    rw [embody_rows, valid]
    exact setObject_known known character other
  have ids : (t.embody path id character).ids
      = Function.update (t.unlink row.object) character (some id) := by
    rw [embody_ids, valid, setObject_ids, known]
    exact if_neg there
  constructor
  · intro other row' known' there'
    rw [rows] at known'
    rw [ids]
    split_ifs at known' with here
    · cases known'
      rw [Function.update_self, here]
    · have elsewhere : row'.object ≠ character := fun same =>
        here (unlinked other ((object_of_known known').trans same))
      rw [Function.update_of_ne elsewhere]
      unfold unlink
      split_ifs with bodiless
      · exact linked.paired other row' known' there'
      · have apart : row'.object ≠ row.object := fun same =>
          here (linked.single known known' bodiless same)
        rw [Function.update_of_ne apart]
        exact linked.paired other row' known' there'
  · intro object
    show object ∈ insert character t.marks ↔ _
    rw [Finset.mem_insert, linked.marked]
    constructor
    · rintro (rfl | ⟨nonzero, other, row', known', remote', found⟩)
      · exact ⟨there, id, _, (rows id).trans (if_pos rfl), remote, rfl⟩
      · by_cases here : other = id
        · subst here
          rw [known] at known'
          cases known'
          have same : object = character := by
            rcases only with bodiless | same
            · exact absurd (found.symm.trans bodiless) nonzero
            · exact found.symm.trans same
          rw [same]
          exact ⟨there, other, _, (rows other).trans (if_pos rfl), remote, rfl⟩
        · exact ⟨nonzero, other, row', (rows other).trans ((if_neg here).trans known'), remote', found⟩
    · rintro ⟨nonzero, other, row', known', remote', found⟩
      rw [rows] at known'
      split_ifs at known' with here
      · cases known'
        exact .inl found.symm
      · exact .inr ⟨nonzero, other, row', known', remote', found⟩

theorem Linked.retire {cleanUp : CleanUp} {owner : PlayerID} {id : EntityID}
    (clean : cleanUp.unmarks = true ∨ ¬ t.IsEmbodied id) : (t.retire cleanUp owner id).Linked := by
  have rows := t.retire_rows cleanUp owner id
  constructor
  · intro other row known there
    rw [rows] at known
    split_ifs at known with here
    show t.unlink (t.object id) row.object = _
    unfold unlink
    split_ifs with bodiless
    · exact linked.paired other row known there
    · have apart : row.object ≠ t.object id := by
        cases unknown : t.rows id with
        | none => exact absurd (object_of_unknown unknown) bodiless
        | some gone =>
          rw [object_of_known unknown] at bodiless ⊢
          exact fun same => here (linked.single unknown known bodiless same)
      rw [Function.update_of_ne apart]
      exact linked.paired other row known there
  · intro object
    have apart {other : EntityID} {row : Row} (known : t.rows other = some row) (here : other ≠ id)
        (nonzero : row.object ≠ 0) : row.object ≠ t.object id := by
      intro same
      cases unknown : t.rows id with
      | none => exact nonzero (same.trans (object_of_unknown unknown))
      | some gone =>
        rw [object_of_known unknown] at same
        exact here (linked.single unknown known (same ▸ nonzero) same)
    have remaining : (t.retire cleanUp owner id).IsLinked object
        ↔ object ≠ 0 ∧ ∃ other row, other ≠ id ∧ t.rows other = some row ∧ row.remote = true
          ∧ row.object = object := by
      refine and_congr_right fun _ => exists_congr fun other => exists_congr fun row => ?_
      rw [rows]
      by_cases here : other = id
      · simp [here]
      · simp [here]
    rw [remaining]
    show object ∈ (if cleanUp.unmarks && t.object id ≠ 0 then t.marks.erase (t.object id)
      else t.marks) ↔ _
    by_cases unmarks : (cleanUp.unmarks && decide (t.object id ≠ 0)) = true
    · rw [if_pos unmarks, Finset.mem_erase, linked.marked]
      constructor
      · rintro ⟨other, nonzero, id', row, known, remote, found⟩
        refine ⟨nonzero, id', row, fun here => other ?_, known, remote, found⟩
        rw [← found, ← object_of_known known, here]
      · rintro ⟨nonzero, id', row, elsewhere, known, remote, found⟩
        refine ⟨?_, nonzero, id', row, known, remote, found⟩
        rw [← found]
        exact apart known elsewhere (found ▸ nonzero)
    · rw [if_neg unmarks, linked.marked]
      constructor
      · rintro ⟨nonzero, id', row, known, remote, found⟩
        refine ⟨nonzero, id', row, fun here => unmarks ?_, known, remote, found⟩
        have embodied : t.IsEmbodied id := ⟨row, here ▸ known, remote, found ▸ nonzero⟩
        rw [clean.resolve_right (not_not.mpr embodied), Bool.true_and, ← here, object_of_known known,
          found]
        exact decide_eq_true nonzero
      · rintro ⟨nonzero, id', row, -, known, remote, found⟩
        exact ⟨nonzero, id', row, known, remote, found⟩

theorem Linked.leave (owner : PlayerID) (ids : List EntityID) : (t.apply (.leave owner ids)).Linked := by
  have purged : (t.purge owner).Linked := linked.congr rfl rfl rfl
  show (ids.foldl (fun t id => t.retire ⟨true, true, true⟩ owner id) (t.purge owner)).Linked
  generalize t.purge owner = t' at purged
  induction ids generalizing t' with
  | nil => exact purged
  | cons id rest ih => exact ih _ (purged.retire (.inl rfl))

/-- The remote entities go, and no other entity loses its character. -/
theorem Linked.disconnect {unmarks : Bool}
    (clean : unmarks = true ∨ ∀ object, ¬ t.IsLinked object) : (t.disconnect unmarks).Linked := by
  classical
  have rows {id : EntityID} {row : Row} (known : (t.disconnect unmarks).rows id = some row) :
      t.rows id = some row ∧ row.remote = false := by
    obtain ⟨stored, kept⟩ := Option.filter_eq_some_iff.mp known
    exact ⟨stored, by simpa using kept⟩
  constructor
  · intro id row known there
    obtain ⟨stored, local'⟩ := rows known
    have unlinked : ¬ t.IsLinked row.object := by
      rintro ⟨-, other, row', known', remote', same⟩
      have here := linked.single stored known' there same
      rw [here, stored] at known'
      cases known'
      rw [local'] at remote'
      cases remote'
    show (if t.IsLinked row.object then none else t.ids row.object) = some id
    rw [if_neg unlinked]
    exact linked.paired id row stored there
  · intro object
    have gone : ¬ (t.disconnect unmarks).IsLinked object := by
      rintro ⟨-, id, row, known, remote, -⟩
      rw [(rows known).2] at remote
      cases remote
    refine iff_of_false (fun marked => ?_) gone
    rcases clean with rfl | nothing
    · have both := Finset.mem_filter.mp (show object ∈ t.marks.filter _ from marked)
      exact both.2 ((linked.marked object).mp both.1)
    · cases unmarks with
      | true =>
        have both := Finset.mem_filter.mp (show object ∈ t.marks.filter _ from marked)
        exact both.2 ((linked.marked object).mp both.1)
      | false => exact nothing object ((linked.marked object).mp marked)

theorem Linked.reload (nothing : ∀ object, ¬ t.IsLinked object) : t.reload.Linked := by
  constructor
  · intro id row known
    cases known
  · intro object
    refine iff_of_false (fun marked => nothing object ((linked.marked object).mp marked)) ?_
    rintro ⟨-, id, row, known, -⟩
    cases known

theorem Linked.lose (bodiless : ¬ t.IsEmbodied id) : (t.setObject id 0).Linked := by
  cases known : t.rows id with
  | none =>
    have same : t.setObject id 0 = t := by
      unfold setObject
      rw [known]
    rw [same]
    exact linked
  | some row =>
    have rows := setObject_known known 0
    have ids : (t.setObject id 0).ids = t.unlink row.object := by
      rw [setObject_ids, known]
      exact if_pos rfl
    constructor
    · intro other row' known' there
      rw [rows] at known'
      split_ifs at known' with here
      · cases known'
        exact absurd rfl there
      rw [ids]
      unfold unlink
      split_ifs with nothing
      · exact linked.paired other row' known' there
      · rw [Function.update_of_ne fun same => here (linked.single known known' nothing same)]
        exact linked.paired other row' known' there
    · intro object
      have marks : (t.setObject id 0).marks = t.marks := by rw [setObject_rest]
      rw [marks, linked.marked]
      refine and_congr_right fun there => exists_congr fun other => ?_
      rw [rows]
      split_ifs with here
      · rw [here, known]
        constructor
        · rintro ⟨row', same, remote, found⟩
          cases same
          exact absurd ⟨row, known, remote, found ▸ there⟩ bodiless
        · rintro ⟨row', same, -, found⟩
          cases same
          exact absurd found.symm there
      · rfl

theorem Linked.own {character : GameObject} (owner : PlayerID)
    (free : t.rows id = none) (unknown : t.ids character = none) :
    (t.apply (.own id character owner)).Linked := by
  have rows (other : EntityID) : (t.apply (.own id character owner)).rows other
      = if other = id then some ⟨false, character, owner, false⟩ else t.rows other :=
    Function.update_apply _ _ _ _
  constructor
  · intro other row known there
    show Function.update t.ids character (some id) row.object = _
    rw [rows] at known
    split_ifs at known with here
    · cases known
      rw [Function.update_self, here]
    · have stored := linked.paired other row known there
      rw [Function.update_of_ne fun same => by rw [same, unknown] at stored; cases stored]
      exact stored
  · intro object
    refine (linked.marked object).trans (and_congr_right fun there => exists_congr fun other => ?_)
    rw [rows]
    split_ifs with here
    · rw [here, free]
      constructor
      · rintro ⟨row, same, -⟩
        cases same
      · rintro ⟨row, same, remote, -⟩
        cases same
        cases remote
    · rfl

end Linked

theorem Linked.confirm (linked : t.Linked) {oldId newId : EntityID} (own : ¬ t.IsRemote oldId) :
    (t.confirm oldId newId).Linked := by
  unfold Tables.confirm
  cases old : t.rows oldId with
  | none => exact linked
  | some row =>
    cases new : t.rows newId with
    | some taken => exact linked
    | none =>
      have local' : row.remote = false := Bool.not_eq_true _ |>.mp fun remote => own ⟨row, old, remote⟩
      have rows (id : EntityID) :
          (Function.update (Function.update t.rows oldId none) newId (some row)) id
            = if id = newId then some row else if id = oldId then none else t.rows id := by
        rw [Function.update_apply, Function.update_apply]
      constructor
      · intro id row' known there
        simp only at known
        rw [rows] at known
        show (if row.object = 0 then t.ids else Function.update t.ids row.object (some newId)) row'.object
          = some id
        split_ifs at known with here elsewhere
        · cases known
          rw [if_neg there, Function.update_self, here]
        · have stored := linked.paired id row' known there
          split_ifs with bodiless
          · exact stored
          · rw [Function.update_of_ne fun same => elsewhere (linked.single old known bodiless same)]
            exact stored
      · intro object
        refine (linked.marked object).trans (and_congr_right fun there => ?_)
        constructor
        · rintro ⟨id, row', known, remote, found⟩
          have elsewhere : id ≠ oldId := by
            rintro rfl
            exact own ⟨row', known, remote⟩
          have apart : id ≠ newId := by
            rintro rfl
            rw [new] at known
            cases known
          exact ⟨id, row', (rows id).trans (by rw [if_neg apart, if_neg elsewhere, known]), remote, found⟩
        · rintro ⟨id, row', known, remote, found⟩
          simp only at known
          rw [rows] at known
          split_ifs at known with here
          · cases known
            rw [local'] at remote
            cases remote
          · exact ⟨id, row', known, remote, found⟩

/-- The tables before a task that keeps the marks of the remote characters. -/
def KeepsMarks (t : Tables) : Task → Prop
  | .announce id _ _ (some character) =>
    (∀ row, t.rows id = some row → row.remote = true) ∧ t.Fits id character
  | .link id character => t.IsRemote id ∧ t.Fits id character
  | .take (.give _ character) =>
    ∀ id owner rest, t.queue = (id, owner) :: rest → t.IsRemote id ∧ t.Fits id character
  | .retire cleanUp _ id => cleanUp.unmarks = true ∨ ¬ t.IsEmbodied id
  | .disconnect unmarks => unmarks = true ∨ ∀ object, ¬ t.IsLinked object
  | .reload => ∀ object, ¬ t.IsLinked object
  | .lose id => ¬ t.IsEmbodied id
  | .own id _ _ => t.rows id = none
  | _ => True

theorem Linked.take (linked : t.Linked) {fate : RequestFate} (checked : t.Checked (.take fate))
    (keeps : t.KeepsMarks (.take fate)) : (t.take fate).Linked := by
  unfold Tables.take
  cases queued : t.queue with
  | nil => exact linked
  | cons request rest =>
    obtain ⟨id, owner⟩ := request
    cases fate with
    | discard => exact linked.congr rfl rfl rfl
    | drop => exact linked.congr rfl rfl rfl
    | give path character =>
      obtain ⟨remote, fits⟩ := keeps id owner rest queued
      have given : (({ t with queue := rest } : Tables).embody path id character).Linked :=
        (linked.congr rfl rfl rfl : ({ t with queue := rest } : Tables).Linked).embody remote
          ⟨fits.there, fits.valid, fits.only, fits.unlinked⟩
      cases path <;> exact given.congr rfl rfl rfl
    | requeue => exact linked.congr rfl rfl rfl
    | exhaust =>
      have bodiless : t.object id = 0 := checked id owner rest queued
      refine (linked.congr rfl rfl rfl : ({ t with queue := rest } : Tables).Linked).retire (.inr ?_)
      rintro ⟨row, known, -, there⟩
      exact there ((object_of_known known).symm.trans bodiless)
    | release => exact linked.congr rfl rfl rfl

/-- **One task.** -/
theorem Linked.apply (linked : t.Linked) {task : Task} (checked : t.Checked task)
    (keeps : t.KeepsMarks task) : (t.apply task).Linked := by
  cases task with
  | announce id owner buffered character =>
    have registered := linked.register id owner
    cases character with
    | none => exact registered.congr rfl rfl rfl
    | some character =>
      obtain ⟨known, fits⟩ := keeps
      have remote : (t.register id owner).IsRemote id := by
        cases stored : t.rows id with
        | some row =>
          rw [register_known stored]
          exact ⟨row, stored, known row stored⟩
        | none => exact ⟨_, (register_new stored owner id).trans (if_pos rfl), rfl⟩
      have fits' : ((t.register id owner).buffer buffered).Fits id character := by
        have same (other : EntityID) :
            ((t.register id owner).buffer buffered).object other = t.object other :=
          t.register_object id owner other
        refine ⟨fits.there, fits.valid, ?_, fun other linkedTo => fits.unlinked other ?_⟩
        · rw [same]
          exact fits.only
        · rw [← same]
          exact linkedTo
      exact (registered.congr rfl rfl rfl :
        ((t.register id owner).buffer buffered).Linked).embody remote fits'
  | build id owner => exact linked.register id owner
  | snapshot id => exact linked.congr rfl rfl rfl
  | link id character => exact linked.embody keeps.1 keeps.2
  | take fate => exact linked.take checked keeps
  | retire cleanUp owner id => exact linked.retire keeps
  | unbuffer id => exact linked.congr rfl rfl rfl
  | leave owner ids => exact linked.leave owner ids
  | resetHijacks => exact linked.congr rfl rfl rfl
  | resetDirects => exact linked.congr rfl rfl rfl
  | disconnect unmarks => exact linked.disconnect keeps
  | reload => exact linked.reload keeps
  | lose id => exact linked.lose keeps
  | own id character owner => exact linked.own owner keeps checked
  | confirm oldId newId => exact linked.confirm checked

/-! ### Positions -/

/-- Only the entities of other players have positions. -/
def Buffered (t : Tables) : Prop := ∀ id, t.buffers id = true → t.IsRemote id

theorem Buffered.mono {t' : Tables} (buffered : t.Buffered) (rows : ∀ id, t.IsRemote id → t'.IsRemote id)
    (buffers : ∀ id, t'.buffers id = true → t.buffers id = true) : t'.Buffered :=
  fun id positions => rows id (buffered id (buffers id positions))

/-- Registering an entity makes no other one local. -/
theorem register_isRemote {id other : EntityID} (owner : PlayerID) (remote : t.IsRemote other) :
    (t.register id owner).IsRemote other := by
  obtain ⟨row, known, remote⟩ := remote
  cases stored : t.rows id with
  | some row' =>
    rw [register_known stored]
    exact ⟨row, known, remote⟩
  | none =>
    refine ⟨row, (register_new stored owner other).trans (if_neg ?_ |>.trans known), remote⟩
    rintro rfl
    rw [stored] at known
    cases known

/-- An entity keeps what it is when its character changes. -/
theorem setObject_isRemote {id other : EntityID} (object : GameObject) :
    (t.setObject id object).IsRemote other ↔ t.IsRemote other := by
  cases stored : t.rows id with
  | none =>
    unfold setObject
    rw [stored]
  | some row =>
    unfold IsRemote
    rw [setObject_known stored]
    split_ifs with here
    · rw [here, stored]
      constructor
      · rintro ⟨row', same, remote⟩
        cases same
        exact ⟨row, rfl, remote⟩
      · rintro ⟨row', same, remote⟩
        cases same
        exact ⟨_, rfl, remote⟩
    · rfl

theorem embody_isRemote {path : SpawnPath} {id other : EntityID} {character : GameObject} :
    (t.embody path id character).IsRemote other ↔ t.IsRemote other := by
  refine Iff.trans ?_ (@setObject_isRemote t id other (EntityRegistry.linkable character))
  unfold IsRemote
  rw [embody_rows]

theorem Buffered.retire (buffered : t.Buffered) {cleanUp : CleanUp} {owner : PlayerID} {id : EntityID}
    (clean : cleanUp.forgets = true ∨ t.buffers id = false) : (t.retire cleanUp owner id).Buffered := by
  intro other positions
  have stays : other ≠ id ∧ t.buffers other = true := by
    rcases clean with forgets | none
    · have left : (if cleanUp.forgets then Function.update t.buffers id false else t.buffers) other
        = true := positions
      rw [if_pos forgets, Function.update_apply] at left
      split_ifs at left with here
      exact ⟨here, left⟩
    · have left : (if cleanUp.forgets then Function.update t.buffers id false else t.buffers) other
        = true := positions
      have apart : other ≠ id := by
        rintro rfl
        split_ifs at left
        · rw [Function.update_self] at left
          cases left
        · rw [none] at left
          cases left
      split_ifs at left
      · rw [Function.update_of_ne apart] at left
        exact ⟨apart, left⟩
      · exact ⟨apart, left⟩
  obtain ⟨row, known, remote⟩ := buffered other stays.2
  exact ⟨row, (Function.update_of_ne stays.1 _ _).trans known, remote⟩

/-- The tables before a task that gives positions to remote entities only. -/
def KeepsBuffers (t : Tables) : Task → Prop
  | .announce id _ _ _ => ∀ row, t.rows id = some row → row.remote = true
  | .snapshot id => t.IsRemote id
  | .retire cleanUp _ id => cleanUp.forgets = true ∨ t.buffers id = false
  | .own id _ _ => t.rows id = none
  | _ => True

theorem Buffered.take (buffered : t.Buffered) (fate : RequestFate) : (t.take fate).Buffered := by
  unfold Tables.take
  cases t.queue with
  | nil => exact buffered
  | cons request rest =>
    obtain ⟨id, owner⟩ := request
    cases fate with
    | give path character =>
      refine buffered.mono (fun other remote => ?_) fun other positions => ?_
      · have given := (@embody_isRemote { t with queue := rest } path id other character).mpr remote
        unfold IsRemote
        rw [count_rows]
        exact given
      · have same : ((({ t with queue := rest } : Tables).embody path id character).count path
            owner).buffers = t.buffers := by
          cases path <;> exact embody_buffers _ _ _
        rw [← same]
        exact positions
    | exhaust => exact @Buffered.retire { t with queue := rest } buffered ⟨false, true, true⟩ owner id (.inl rfl)
    | _ => exact buffered

/-- **One task.** -/
theorem Buffered.apply (buffered : t.Buffered) {task : Task} (checked : t.Checked task)
    (keeps : t.KeepsBuffers task) : (t.apply task).Buffered := by
  cases task with
  | announce id owner positions character =>
    have introduced : ((t.register id owner).buffer positions).Buffered := by
      intro other inside
      rcases Bool.or_eq_true _ _ |>.mp inside with before | now
      · rw [register_rest] at before
        exact register_isRemote owner (buffered other before)
      · rw [checked other (of_decide_eq_true now)]
        cases stored : t.rows id with
        | some row => exact register_isRemote owner ⟨row, stored, keeps row stored⟩
        | none => exact ⟨_, (register_new stored owner id).trans (if_pos rfl), rfl⟩
    cases character with
    | none => exact introduced
    | some character =>
      refine introduced.mono (fun other remote => embody_isRemote.mpr remote) fun other inside => ?_
      rw [← embody_buffers .link id character]
      exact inside
  | build id owner =>
    refine buffered.mono (fun other => register_isRemote owner) fun other inside => ?_
    have inside : (t.register id owner).buffers other = true := inside
    rw [register_rest] at inside
    exact inside
  | snapshot id =>
    intro other inside
    rcases Bool.or_eq_true _ _ |>.mp inside with before | now
    · exact buffered other before
    · rw [List.mem_singleton.mp (of_decide_eq_true now)]
      exact keeps
  | link id character =>
    refine buffered.mono (fun other remote => embody_isRemote.mpr remote) fun other inside => ?_
    rw [← embody_buffers .link id character]
    exact inside
  | take fate => exact buffered.take fate
  | retire cleanUp owner id => exact buffered.retire keeps
  | unbuffer id =>
    refine buffered.mono (fun _ remote => remote) fun other inside => ?_
    have left : Function.update t.buffers id false other = true := inside
    rw [Function.update_apply] at left
    split_ifs at left
    exact left
  | leave owner ids =>
    show (ids.foldl (fun t id => t.retire ⟨true, true, true⟩ owner id) (t.purge owner)).Buffered
    have purged : (t.purge owner).Buffered := buffered
    generalize t.purge owner = t' at purged
    clear checked keeps
    induction ids generalizing t' with
    | nil => exact purged
    | cons id rest ih => exact ih _ (purged.retire (.inl rfl))
  | resetHijacks => exact buffered
  | resetDirects => exact buffered
  | disconnect unmarks => exact fun _ inside => (nomatch inside)
  | reload => exact fun _ inside => (nomatch inside)
  | lose id =>
    refine buffered.mono (fun other remote => (setObject_isRemote 0).mpr remote) fun other inside => ?_
    have inside : (t.setObject id 0).buffers other = true := inside
    rw [setObject_rest] at inside
    exact inside
  | own id character owner =>
    intro other inside
    obtain ⟨row, known, remote⟩ := buffered other inside
    refine ⟨row, (Function.update_of_ne ?_ _ _).trans known, remote⟩
    rintro rfl
    rw [show t.rows other = none from keeps] at known
    cases known
  | confirm oldId newId =>
    show (t.confirm oldId newId).Buffered
    unfold Tables.confirm
    cases old : t.rows oldId with
    | none => exact buffered
    | some row =>
      cases new : t.rows newId with
      | some taken => exact buffered
      | none =>
        intro other inside
        obtain ⟨row', known, remote⟩ := buffered other inside
        refine ⟨row', ?_, remote⟩
        simp only
        rw [Function.update_apply, Function.update_apply]
        have apart : other ≠ newId := by
          rintro rfl
          rw [new] at known
          cases known
        have elsewhere : other ≠ oldId := by
          rintro rfl
          exact checked ⟨row', known, remote⟩
        rw [if_neg apart, if_neg elsewhere, known]

end Tables

/-! ### The tables of a client -/

namespace ClientWorld

variable {w : ClientWorld}

theorem rows_eq_some {id : EntityID} {row : Row} :
    w.tables.rows id = some row ↔ ∃ info, w.info id = some info ∧ Row.of info = row :=
  Option.map_eq_some_iff

end ClientWorld

end KenshiMP
