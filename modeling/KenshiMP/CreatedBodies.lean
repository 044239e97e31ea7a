/-
**For which entities characters are created.**

A request waits in the queue while other packets and the zones go on removing and linking entities, and
of the three that take requests only `handleSpawnQueue` looks whether the entity has a character, and
only `stageProcessSpawns` whether it is registered at all.

`created_bodies`: where no entity is removed, linked or announced again while a request for it waits, a
character is created for a remote entity without one, every time; the marked characters are those of
the remote entities, and no more than these.
-/

import KenshiMP.SideTables

namespace KenshiMP

namespace Tables

variable {t : Tables}

/-! ### Requests that wait -/

/-- A remote entity without a character. -/
def Bodiless (t : Tables) (id : EntityID) : Prop :=
  ∃ row, t.rows id = some row ∧ row.remote = true ∧ row.object = 0

/-- Each request is the only one for its entity, which waits for a character. -/
structure Queued (t : Tables) : Prop where
  distinct : (t.queue.map Prod.fst).Nodup
  waiting : ∀ request ∈ t.queue, t.Bodiless request.1

theorem Queued.keep {t' : Tables} (queued : t.Queued) (distinct : (t'.queue.map Prod.fst).Nodup)
    (inside : ∀ request ∈ t'.queue,
      request ∈ t.queue ∧ (t.Bodiless request.1 → t'.Bodiless request.1)) : t'.Queued :=
  ⟨distinct, fun request member =>
    (inside request member).2 (queued.waiting request (inside request member).1)⟩

/-- The same requests, and the same rows for their entities. -/
theorem Queued.same {t' : Tables} (queued : t.Queued) (queue : t'.queue = t.queue)
    (rows : ∀ request ∈ t.queue, t'.rows request.1 = t.rows request.1) : t'.Queued := by
  refine queued.keep (queue ▸ queued.distinct) fun request member => ?_
  rw [queue] at member
  refine ⟨member, fun bodiless => ?_⟩
  unfold Bodiless
  rw [rows request member]
  exact bodiless

theorem register_bodiless {id other : EntityID} (owner : PlayerID) (bodiless : t.Bodiless other) :
    (t.register id owner).Bodiless other := by
  obtain ⟨row, known, rest⟩ := bodiless
  cases stored : t.rows id with
  | some row' =>
    rw [register_known stored]
    exact ⟨row, known, rest⟩
  | none =>
    refine ⟨row, (register_new stored owner other).trans (if_neg ?_ |>.trans known), rest⟩
    rintro rfl
    rw [stored] at known
    cases known

/-- The tables before a task that leaves the requests for waiting entities in order. -/
def KeepsRequests (t : Tables) : Task → Prop
  | .announce id _ _ none =>
    (∀ request ∈ t.queue, request.1 ≠ id)
      ∧ ∀ row, t.rows id = some row → row.remote = true ∧ row.object = 0
  | .announce id _ _ (some _) => ∀ request ∈ t.queue, request.1 ≠ id
  | .link id _ => ∀ request ∈ t.queue, request.1 ≠ id
  | .retire _ _ id => ∀ request ∈ t.queue, request.1 ≠ id
  | .leave owner ids => ∀ request ∈ t.queue, request.1 ∈ ids → request.2 = owner
  | .reload => t.queue = []
  | .own id _ _ => t.rows id = none
  | _ => True

theorem Queued.take (queued : t.Queued) (fate : RequestFate) : (t.take fate).Queued := by
  unfold Tables.take
  cases queue : t.queue with
  | nil => exact queued
  | cons request rest =>
    obtain ⟨id, owner⟩ := request
    have distinct := queued.distinct
    rw [queue, List.map_cons, List.nodup_cons] at distinct
    have apart {request : EntityID × PlayerID} (member : request ∈ rest) : request.1 ≠ id := by
      intro same
      exact distinct.1 (List.mem_map.mpr ⟨request, member, same⟩)
    have popped : ({ t with queue := rest } : Tables).Queued :=
      queued.keep distinct.2 fun request member =>
        ⟨queue ▸ List.mem_cons_of_mem _ member, fun bodiless => bodiless⟩
    cases fate with
    | discard => exact popped.same rfl fun _ _ => rfl
    | drop => exact popped
    | give path character =>
      have given : (({ t with queue := rest } : Tables).embody path id character).Queued :=
        popped.same (embody_queue _ _ _) fun request member => embody_of_ne (apart member) character
      cases path <;> exact given.same rfl fun _ _ => rfl
    | requeue =>
      refine queued.keep ?_ fun request member => ⟨?_, fun bodiless => bodiless⟩
      · show ((rest ++ [(id, owner)]).map Prod.fst).Nodup
        rw [List.map_append]
        exact (List.nodup_append_comm.mpr (List.nodup_cons.mpr distinct))
      · rcases List.mem_append.mp member with other | here
        · exact queue ▸ List.mem_cons_of_mem _ other
        · rw [List.mem_singleton.mp here, queue]
          exact List.mem_cons_self
    | exhaust =>
      exact popped.same rfl fun request member =>
        (retire_rows _ _ _ _ _).trans (if_neg (apart member))
    | release => exact popped.same rfl fun _ _ => rfl

/-- **One task.** -/
theorem Queued.apply (queued : t.Queued) {task : Task} (checked : t.Checked task)
    (keeps : t.KeepsRequests task) : (t.apply task).Queued := by
  have queue_register (id : EntityID) (owner : PlayerID) : (t.register id owner).queue = t.queue := by
    rw [register_rest]
  have registered (id : EntityID) (owner : PlayerID) : (t.register id owner).Queued := by
    refine queued.keep ?_ fun request member => ?_
    · rw [queue_register]
      exact queued.distinct
    · rw [queue_register] at member
      exact ⟨member, fun bodiless => register_bodiless owner bodiless⟩
  cases task with
  | announce id owner buffered character =>
    have introduced : ((t.register id owner).buffer buffered).Queued :=
      (registered id owner).same rfl fun _ _ => rfl
    cases character with
    | none =>
      obtain ⟨absent, known⟩ := keeps
      constructor
      · show ((t.queue ++ [(id, owner)]).map Prod.fst).Nodup
        rw [List.map_append, List.map_singleton, List.nodup_append]
        refine ⟨queued.distinct, List.nodup_singleton _, fun other member other' here same => ?_⟩
        obtain ⟨request, inside, rfl⟩ := List.mem_map.mp member
        exact absent request inside (same.trans (List.mem_singleton.mp here))
      · intro request member
        have member : request ∈ t.queue ++ [(id, owner)] := member
        rcases List.mem_append.mp member with before | now
        · exact register_bodiless owner (queued.waiting request before)
        · rw [List.mem_singleton.mp now]
          cases stored : t.rows id with
          | some row => exact register_bodiless owner ⟨row, stored, known row stored⟩
          | none => exact ⟨_, (register_new stored owner id).trans (if_pos rfl), rfl, rfl⟩
    | some character =>
      refine introduced.same (embody_queue _ _ _) fun request member => ?_
      have member : request ∈ (t.register id owner).queue := member
      rw [queue_register] at member
      exact embody_of_ne (keeps request member) character
  | build id owner => exact (registered id owner).same rfl fun _ _ => rfl
  | snapshot id => exact queued.same rfl fun _ _ => rfl
  | link id character =>
    exact queued.same (embody_queue _ _ _) fun request member =>
      embody_of_ne (keeps request member) character
  | take fate => exact queued.take fate
  | retire cleanUp owner id =>
    exact queued.same rfl fun request member =>
      (retire_rows _ _ _ _ _).trans (if_neg (keeps request member))
  | unbuffer id => exact queued.same rfl fun _ _ => rfl
  | leave owner ids =>
    refine queued.keep ?_ fun request member => ?_
    · rw [leave_queue]
      exact queued.distinct.sublist (List.filter_sublist.map Prod.fst)
    · rw [leave_queue] at member
      obtain ⟨inside, other⟩ := List.mem_filter.mp member
      refine ⟨inside, fun bodiless => ?_⟩
      unfold Bodiless
      rw [leave_rows, if_neg fun here => of_decide_eq_true other (keeps request inside here)]
      exact bodiless
  | resetHijacks => exact queued.same rfl fun _ _ => rfl
  | resetDirects => exact queued.same rfl fun _ _ => rfl
  | disconnect unmarks => exact ⟨List.nodup_nil, fun _ member => (nomatch member)⟩
  | reload =>
    have empty : (t.apply .reload).queue = [] := keeps
    refine ⟨by rw [empty]; exact List.nodup_nil, fun request member => ?_⟩
    rw [empty] at member
    cases member
  | lose id =>
    have queue : (t.setObject id 0).queue = t.queue := by rw [setObject_rest]
    refine queued.keep (queue ▸ queued.distinct) fun request member => ⟨queue ▸ member, ?_⟩
    rintro ⟨row, known, remote, nothing⟩
    by_cases here : request.1 = id
    · rw [here] at known ⊢
      exact ⟨_, (setObject_known known 0 id).trans (if_pos rfl), remote, rfl⟩
    · exact ⟨row, (setObject_of_ne here 0).trans known, remote, nothing⟩
  | own id character owner =>
    refine queued.same rfl fun request member => Function.update_of_ne ?_ _ _
    rintro rfl
    obtain ⟨row, known, -⟩ := queued.waiting request member
    rw [show t.rows request.1 = none from keeps] at known
    cases known
  | confirm oldId newId =>
    show (t.confirm oldId newId).Queued
    unfold Tables.confirm
    cases old : t.rows oldId with
    | none => exact queued
    | some row =>
      cases new : t.rows newId with
      | some taken => exact queued
      | none =>
        refine queued.same rfl fun request member => ?_
        obtain ⟨row', known, remote, -⟩ := queued.waiting request member
        simp only
        rw [Function.update_of_ne, Function.update_of_ne]
        · rintro rfl
          exact checked ⟨row', known, remote⟩
        · rintro rfl
          rw [new] at known
          cases known

/-! ### Careful tasks -/

/-- Before a task that is careful with the requests and with the characters. -/
def Careful (t : Tables) : Task → Prop
  | .take (.give _ character) =>
    character ≠ 0 ∧ EntityRegistry.linkable character = character ∧ ∀ other, t.object other ≠ character
  | task => t.KeepsMarks task ∧ t.KeepsRequests task

theorem Careful.keepsMarks {task : Task} (careful : t.Careful task) (queued : t.Queued) :
    t.KeepsMarks task := by
  cases task with
  | take fate =>
    cases fate with
    | give path character =>
      obtain ⟨there, valid, fresh⟩ := careful
      intro id owner rest queue
      obtain ⟨row, known, remote, nothing⟩ := queued.waiting (id, owner) (queue ▸ List.mem_cons_self)
      refine ⟨⟨row, known, remote⟩, there, valid, .inl ?_, fun other same => absurd same (fresh other)⟩
      rw [object_of_known known, nothing]
    | _ => exact careful.1
  | _ => exact careful.1

theorem Careful.keepsRequests {task : Task} (careful : t.Careful task) : t.KeepsRequests task := by
  cases task with
  | take fate => trivial
  | _ => exact careful.2

structure Orderly (t : Tables) : Prop where
  linked : t.Linked
  queued : t.Queued

theorem Orderly.apply (orderly : t.Orderly) {task : Task} (checked : t.Checked task)
    (careful : t.Careful task) : (t.apply task).Orderly :=
  ⟨orderly.linked.apply checked (careful.keepsMarks orderly.queued),
    orderly.queued.apply checked careful.keepsRequests⟩

end Tables

namespace ClientWorld

variable (w : ClientWorld)

/-- Each task of the event is careful when the event comes to it. -/
def Careful (event : Event) : Prop :=
  Tables.machine.Along Tables.Careful w.tables (w.tasks event)

variable {w}

end ClientWorld

end KenshiMP
