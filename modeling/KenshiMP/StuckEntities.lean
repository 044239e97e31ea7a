/-
**Whether the check for stuck entities forgets entities that the server has.**

Every ten seconds a client unregisters the remote entities that are still on their way, have no
character, and find the queue of requests empty. It takes them for orphans. Here a client runs beside
its server (`Resident`).

`live_entities`: as long as every entity on its way has a request in the queue, the check finds none.
That is so unless a request is dropped or given up while its entity waits, a building is announced,
which never has a request, or a character is no address.
-/

import KenshiMP.EntityCap
import KenshiMP.SideTables

namespace KenshiMP

open Wire (ascii)

namespace Tables

variable {t : Tables}

/-! ### Entities on their way -/

/-- A remote entity on its way. -/
def Waits (t : Tables) (id : EntityID) : Prop :=
  ∃ row, t.rows id = some row ∧ row.remote = true ∧ row.spawning = true

/-- An entity on its way has no character, and a request in the queue. -/
structure Backed (t : Tables) : Prop where
  bodiless : ∀ id row, t.rows id = some row → row.spawning = true → row.object = 0
  requested : ∀ id, t.Waits id → ∃ request ∈ t.queue, request.1 = id

/-- The tables before a task that leaves each entity on its way a request. -/
def KeepsRequested (t : Tables) : Task → Prop
  | .announce _ _ _ (some character) => EntityRegistry.linkable character ≠ 0
  | .build id _ => t.rows id ≠ none
  | .take fate =>
    ∀ id owner rest, t.queue = (id, owner) :: rest →
      match fate with
      | .give _ character => EntityRegistry.linkable character ≠ 0
      | .drop | .release => t.Waits id → ∃ request ∈ rest, request.1 = id
      | _ => True
  | .leave owner ids =>
    ∀ id, t.Waits id → id ∉ ids → ∃ request ∈ t.queue, request.1 = id ∧ request.2 ≠ owner
  | _ => True

theorem Waits.of_register {id other : EntityID} {owner : PlayerID}
    (waits : (t.register id owner).Waits other) : other = id ∨ t.Waits other := by
  obtain ⟨row, known, rest⟩ := waits
  cases stored : t.rows id with
  | some row' =>
    rw [register_known stored] at known
    exact .inr ⟨row, known, rest⟩
  | none =>
    rw [register_new stored] at known
    split_ifs at known with here
    · exact .inl here
    · exact .inr ⟨row, known, rest⟩

/-- An entity that gets a character waits no more, and one that gets none waits as before. -/
theorem Waits.of_setObject {id other : EntityID} {object : GameObject}
    (waits : (t.setObject id object).Waits other) : t.Waits other ∧ (other = id → object = 0) := by
  obtain ⟨row, known, remote, spawning⟩ := waits
  cases stored : t.rows id with
  | none =>
    have same : t.setObject id object = t := by
      unfold setObject
      rw [stored]
    rw [same] at known
    refine ⟨⟨row, known, remote, spawning⟩, ?_⟩
    rintro rfl
    rw [stored] at known
    cases known
  | some row' =>
    rw [setObject_known stored] at known
    split_ifs at known with here
    · cases known
      obtain ⟨waited, nothing⟩ := (Bool.and_eq_true _ _).mp spawning
      exact ⟨⟨row', here ▸ stored, remote, waited⟩, fun _ => of_decide_eq_true nothing⟩
    · exact ⟨⟨row, known, remote, spawning⟩, fun same => absurd same here⟩

theorem Waits.of_embody {path : SpawnPath} {id other : EntityID} {character : GameObject}
    (waits : (t.embody path id character).Waits other) :
    t.Waits other ∧ (other = id → EntityRegistry.linkable character = 0) := by
  refine Waits.of_setObject ?_
  unfold Waits at waits ⊢
  rw [embody_rows] at waits
  exact waits

/-- Rows that stay bodiless while they are on their way. -/
theorem Backed.setObject_bodiless (backed : t.Backed) (id : EntityID) (object : GameObject) :
    ∀ other row, (t.setObject id object).rows other = some row → row.spawning = true → row.object = 0 := by
  intro other row known spawning
  cases stored : t.rows id with
  | none =>
    have same : t.setObject id object = t := by
      unfold setObject
      rw [stored]
    rw [same] at known
    exact backed.bodiless other row known spawning
  | some row' =>
    rw [setObject_known stored] at known
    split_ifs at known
    · cases known
      exact of_decide_eq_true ((Bool.and_eq_true _ _).mp spawning).2
    · exact backed.bodiless other row known spawning

theorem Backed.embody_bodiless (backed : t.Backed) (path : SpawnPath) (id : EntityID)
    (character : GameObject) :
    ∀ other row, (t.embody path id character).rows other = some row → row.spawning = true →
      row.object = 0 := by
  rw [embody_rows]
  exact backed.setObject_bodiless id _

theorem Backed.register_bodiless (backed : t.Backed) (id : EntityID) (owner : PlayerID) :
    ∀ other row, (t.register id owner).rows other = some row → row.spawning = true → row.object = 0 := by
  intro other row known spawning
  cases stored : t.rows id with
  | some row' =>
    rw [register_known stored] at known
    exact backed.bodiless other row known spawning
  | none =>
    rw [register_new stored] at known
    split_ifs at known
    · cases known
      rfl
    · exact backed.bodiless other row known spawning

/-- Fewer rows and the same requests. -/
theorem Backed.fewer {t' : Tables} (backed : t.Backed)
    (rows : ∀ id row, t'.rows id = some row → t.rows id = some row ∨ row.spawning = false)
    (queue : ∀ id, t'.Waits id → ∀ request ∈ t.queue, request.1 = id →
      ∃ request ∈ t'.queue, request.1 = id) : t'.Backed := by
  constructor
  · intro id row known spawning
    rcases rows id row known with before | still
    · exact backed.bodiless id row before spawning
    · rw [still] at spawning
      cases spawning
  · intro id waits
    obtain ⟨row, known, remote, spawning⟩ := waits
    rcases rows id row known with before | still
    · obtain ⟨request, member, here⟩ := backed.requested id ⟨row, before, remote, spawning⟩
      exact queue id ⟨row, known, remote, spawning⟩ request member here
    · rw [still] at spawning
      cases spawning

theorem Backed.retire (backed : t.Backed) (cleanUp : CleanUp) (owner : PlayerID) (id : EntityID) :
    (t.retire cleanUp owner id).Backed := by
  refine backed.fewer (fun other row known => ?_) fun other _ request member here =>
    ⟨request, member, here⟩
  rw [retire_rows] at known
  split_ifs at known
  exact .inl known

theorem Backed.take (backed : t.Backed) {fate : RequestFate} (checked : t.Checked (.take fate))
    (keeps : t.KeepsRequested (.take fate)) : (t.take fate).Backed := by
  unfold Tables.take
  cases queue : t.queue with
  | nil => exact backed
  | cons request rest =>
    obtain ⟨id, owner⟩ := request
    -- the other entities keep their requests
    have others {other : EntityID} (waits : t.Waits other)
        (last : other = id → ∃ request ∈ rest, request.1 = id) :
        ∃ request ∈ rest, request.1 = other := by
      obtain ⟨request, member, here⟩ := backed.requested other waits
      rw [queue] at member
      rcases List.mem_cons.mp member with rfl | later
      · obtain ⟨request', member', here'⟩ := last here.symm
        exact ⟨request', member', here'.trans here⟩
      · exact ⟨request, later, here⟩
    have popped (last : t.Waits id → ∃ request ∈ rest, request.1 = id) {t' : Tables}
        (rows : t'.rows = t.rows) (queue : t'.queue = rest) : t'.Backed := by
      constructor
      · rw [rows]
        exact backed.bodiless
      · intro other waits
        unfold Waits at waits
        rw [rows] at waits
        rw [queue]
        refine others waits ?_
        rintro rfl
        exact last waits
    cases fate with
    | discard =>
      refine popped (fun waits => ?_) rfl rfl
      obtain ⟨row, known, -, spawning⟩ := waits
      exact absurd ((object_of_known known).trans (backed.bodiless id row known spawning))
        (checked id owner rest queue)
    | drop => exact popped (keeps id owner rest queue) rfl rfl
    | give path character =>
      have valid : EntityRegistry.linkable character ≠ 0 := keeps id owner rest queue
      have given : (({ t with queue := rest } : Tables).embody path id character).Backed := by
        constructor
        · have popped : ∀ other row, (({ t with queue := rest } : Tables).embody path id
              character).rows other = some row → row.spawning = true → row.object = 0 := by
            rw [embody_rows, setObject_rows]
            have before := backed.setObject_bodiless id (EntityRegistry.linkable character)
            rw [setObject_rows] at before
            exact before
          exact popped
        · intro other waits
          obtain ⟨before, last⟩ := Waits.of_embody waits
          rw [embody_queue]
          exact others before fun here => absurd (last here) valid
      cases path <;> exact ⟨given.bodiless, given.requested⟩
    | requeue =>
      refine ⟨backed.bodiless, fun other waits => ?_⟩
      obtain ⟨request, member, here⟩ := backed.requested other waits
      refine ⟨request, ?_, here⟩
      rw [queue] at member
      rcases List.mem_cons.mp member with rfl | later
      · exact List.mem_append_right _ List.mem_cons_self
      · exact List.mem_append_left _ later
    | exhaust =>
      constructor
      · intro other row known spawning
        rw [retire_rows] at known
        split_ifs at known
        exact backed.bodiless other row known spawning
      · rintro other ⟨row, known, remote, spawning⟩
        rw [retire_rows] at known
        split_ifs at known with here
        exact others ⟨row, known, remote, spawning⟩ fun same => absurd same here
    | release => exact popped (keeps id owner rest queue) rfl rfl

/-- An announced entity gets a request, or a character at once. -/
theorem Backed.announce (backed : t.Backed) {id : EntityID} {owner : PlayerID} {buffered : List EntityID}
    {character : Option GameObject} (keeps : t.KeepsRequested (.announce id owner buffered character)) :
    (t.apply (.announce id owner buffered character)).Backed := by
  have bodiless : ∀ other row, ((t.register id owner).buffer buffered).rows other = some row →
      row.spawning = true → row.object = 0 := backed.register_bodiless id owner
  have queue : (t.register id owner).queue = t.queue := by rw [register_rest]
  cases character with
  | none =>
    refine ⟨bodiless, fun other waits => ?_⟩
    show ∃ request ∈ t.queue ++ [(id, owner)], request.1 = other
    rcases Waits.of_register (show (t.register id owner).Waits other from waits) with here | before
    · exact ⟨(id, owner), List.mem_append_right _ List.mem_cons_self, here.symm⟩
    · obtain ⟨request, member, here⟩ := backed.requested other before
      exact ⟨request, List.mem_append_left _ member, here⟩
  | some character =>
    constructor
    · intro other row known spawning
      have known : ((((t.register id owner).buffer buffered)).embody .link id character).rows other
        = some row := known
      rw [embody_rows] at known
      cases stored : ((t.register id owner).buffer buffered).rows id with
      | none =>
        rw [setObject_rows, stored] at known
        exact bodiless other row known spawning
      | some row' =>
        rw [setObject_known stored] at known
        split_ifs at known
        · cases known
          exact of_decide_eq_true ((Bool.and_eq_true _ _).mp spawning).2
        · exact bodiless other row known spawning
    · intro other waits
      obtain ⟨before, last⟩ := Waits.of_embody (show ((((t.register id owner).buffer
        buffered)).embody .link id character).Waits other from waits)
      show ∃ request ∈ ((((t.register id owner).buffer buffered)).embody .link id character).queue, _
      rw [embody_queue]
      rcases Waits.of_register (show (t.register id owner).Waits other from before) with here | waits
      · exact absurd (last here) keeps
      · obtain ⟨request, member, here⟩ := backed.requested other waits
        exact ⟨request, queue ▸ member, here⟩

/-- Who leaves takes no request of an entity that stays. -/
theorem Backed.leave (backed : t.Backed) {owner : PlayerID} {ids : List EntityID}
    (keeps : t.KeepsRequested (.leave owner ids)) : (t.apply (.leave owner ids)).Backed := by
  constructor
  · intro id row known spawning
    rw [leave_rows] at known
    split_ifs at known
    exact backed.bodiless id row known spawning
  · rintro id ⟨row, known, remote, spawning⟩
    rw [leave_rows] at known
    split_ifs at known with gone
    obtain ⟨request, member, here, other⟩ := keeps id ⟨row, known, remote, spawning⟩ gone
    refine ⟨request, ?_, here⟩
    rw [leave_queue]
    exact List.mem_filter.mpr ⟨member, decide_eq_true other⟩

/-- No remote entity is left to wait. -/
theorem Backed.disconnect (backed : t.Backed) (unmarks : Bool) : (t.apply (.disconnect unmarks)).Backed := by
  constructor
  · intro id row known spawning
    exact backed.bodiless id row (Option.filter_eq_some_iff.mp known).1 spawning
  · rintro id ⟨row, known, remote, -⟩
    have kept := (Option.filter_eq_some_iff.mp known).2
    rw [remote] at kept
    cases kept

/-- A character of the player's own does not wait. -/
theorem Backed.own (backed : t.Backed) (id : EntityID) (character : GameObject) (owner : PlayerID) :
    (t.apply (.own id character owner)).Backed := by
  refine backed.fewer (fun other row known => ?_) fun other _ request member here =>
    ⟨request, member, here⟩
  have known : Function.update t.rows id (some ⟨false, character, owner, false⟩) other = some row :=
    known
  rw [Function.update_apply] at known
  split_ifs at known
  · cases known
    exact .inr rfl
  · exact .inl known

/-- What is confirmed is not remote, so that no request has the old number. -/
theorem Backed.confirm (backed : t.Backed) {oldId newId : EntityID}
    (checked : t.Checked (.confirm oldId newId)) : (t.apply (.confirm oldId newId)).Backed := by
  show (t.confirm oldId newId).Backed
  unfold Tables.confirm
  cases old : t.rows oldId with
  | none => exact backed
  | some row =>
    cases new : t.rows newId with
    | some taken => exact backed
    | none =>
      have rows {id : EntityID} {row' : Row}
          (known : (Function.update (Function.update t.rows oldId none) newId (some row)) id
            = some row') : t.rows id = some row' ∨ row' = row := by
        rw [Function.update_apply, Function.update_apply] at known
        split_ifs at known
        · exact .inr (Option.some.inj known).symm
        · exact .inl known
      constructor
      · intro id row' known spawning
        rcases rows known with before | rfl
        · exact backed.bodiless id row' before spawning
        · exact backed.bodiless oldId row' old spawning
      · rintro id ⟨row', known, remote, spawning⟩
        rcases rows known with before | rfl
        · exact backed.requested id ⟨row', before, remote, spawning⟩
        · exact absurd ⟨row', old, remote⟩ checked

/-- **One task.** -/
theorem Backed.apply (backed : t.Backed) {task : Task} (checked : t.Checked task)
    (keeps : t.KeepsRequested task) : (t.apply task).Backed := by
  have same {t' : Tables} (rows : t'.rows = t.rows) (queue : t'.queue = t.queue) : t'.Backed :=
    backed.fewer (fun id row known => .inl (rows ▸ known)) fun id _ request member here =>
      ⟨request, queue ▸ member, here⟩
  cases task with
  | announce id owner buffered character => exact backed.announce keeps
  | build id owner =>
    obtain ⟨row, known⟩ := Option.ne_none_iff_exists'.mp keeps
    show (t.register id owner).Backed
    rw [register_known known]
    exact backed
  | snapshot id => exact same rfl rfl
  | link id character =>
    refine ⟨backed.embody_bodiless .link id character, fun other waits => ?_⟩
    show ∃ request ∈ (t.embody .link id character).queue, _
    rw [embody_queue]
    exact backed.requested other (Waits.of_embody waits).1
  | take fate => exact backed.take checked keeps
  | retire cleanUp owner id => exact backed.retire cleanUp owner id
  | unbuffer id => exact same rfl rfl
  | leave owner ids => exact backed.leave keeps
  | resetHijacks => exact same rfl rfl
  | resetDirects => exact same rfl rfl
  | disconnect unmarks => exact backed.disconnect unmarks
  | reload =>
    refine ⟨fun id row known => (nomatch known), ?_⟩
    rintro id ⟨row, known, -⟩
    cases known
  | lose id =>
    refine ⟨backed.setObject_bodiless id 0, fun other waits => ?_⟩
    have queue : (t.setObject id 0).queue = t.queue := by rw [setObject_rest]
    obtain ⟨request, member, here⟩ := backed.requested other (Waits.of_setObject waits).1
    exact ⟨request, queue ▸ member, here⟩
  | own id character owner => exact backed.own id character owner
  | confirm oldId newId => exact backed.confirm checked

/-- Nothing is on its way at the start. -/
theorem start_backed : ({} : ClientWorld).tables.Backed := by
  refine ⟨fun id row known => (nomatch known), ?_⟩
  rintro id ⟨row, known, -⟩
  cases known

end Tables

/-! ### A client beside its server -/

/-- An event of the game itself: it is no packet, and not the end of the connection. -/
def ClientWorld.Event.ofGame : ClientWorld.Event → Bool
  | .receive _ | .disconnect | .lossNoticed => false
  | _ => true

/-- A server, and one of its clients with its connection. -/
structure Resident where
  sys : System
  session : Option Session := none
  world : ClientWorld := {}

namespace Resident

inductive Event where
  /-- the server handles an event -/
  | server (event : KenshiMP.Event)
  /-- the client gets a connection, if it has none, through a slot that is free -/
  | dial (peer : Peer) (host roundTripTime : UInt32)
  /-- the client processes the next packet of its connection -/
  | deliver (now render : F32) (clock : Nat → F32)
  | game (event : ClientWorld.Event)
  /-- the client leaves its connection, or notices that it is gone -/
  | hangUp (byUser : Bool)

variable (r : Resident)

/-- The packets on the way to the client. -/
def onTheWay : List Sent := Network.pending r.sys r.session

/-- What an event is for the client. -/
def experiences : Event → Option ClientWorld.Event
  | .server _ | .dial _ _ _ => none
  | .deliver now render clock =>
    r.onTheWay.head?.map fun packet => .receive ⟨packet.msg, now, render, clock⟩
  | .game event => if event.ofGame then some event else none
  | .hangUp byUser => some (if byUser then .disconnect else .lossNoticed)

/-- The slot is free, and the client has no connection. -/
def mayDial (peer : Peer) : Bool := r.session.isNone && (r.sys.links.lookup peer).isNone

def step (pages : CodePages) (event : Event) : Resident where
  sys :=
    match event with
    | .server event => System.machine.next r.sys event
    | .dial peer host roundTripTime =>
      if r.mayDial peer then System.machine.next r.sys (.connect peer host roundTripTime) else r.sys
    | _ => r.sys
  session :=
    match event with
    | .server event => Network.afterEvent r.sys event r.session
    | .dial peer _ _ => if r.mayDial peer then some (.live peer 0) else r.session
    | .deliver _ _ _ => if r.onTheWay = [] then r.session else Network.advance r.session
    | .game _ => r.session
    | .hangUp _ => none
  world :=
    match r.experiences event with
    | none => r.world
    | some event => r.world.step pages event

/-- The machine; it has no outputs. -/
def machine (pages : CodePages) : Machine Resident Event Empty where
  step r event := (r.step pages event, [])

def boot (config : ServerConfig) (file : Option Json.Value) : Resident where
  sys := System.boot config file

/-- The check for stuck entities leaves what the server has: what is registered after the visit of the
queue stays registered if the server has it. -/
def Spares (pages : CodePages) (r : Resident) (event : Event) : Prop :=
  ∀ visit, event = .game (.handleSpawnQueue visit) → r.world.ticks = true →
    r.world.cleansUp visit = true → ∀ id,
      (r.sys.server.entities.lookup id).isSome = true →
      ((r.world.visited visit).info id).isSome = true →
      ((r.step pages event).world.info id).isSome = true

/-- Each task of the event leaves each entity on its way a request. -/
def KeepsRequested (r : Resident) (event : Event) : Prop :=
  ∀ experienced, r.experiences event = some experienced →
    Tables.machine.Along Tables.KeepsRequested r.world.tables (r.world.tasks experienced)

end Resident

namespace ClientWorld

variable {w : ClientWorld}

/-- **The check finds nothing**: an entity that it would take for an orphan has a request. -/
theorem cleanUpStuck_of_backed (backed : w.tables.Backed) : w.cleanUpStuck = w := by
  have found {id : EntityID} (remote : id ∈ w.client.registry.getRemoteEntities) : w.stuck id = false := by
    obtain ⟨info, known, remote⟩ := w.client.registry.mem_getRemoteEntities.mp remote
    unfold stuck
    rw [show w.info id = some info from known]
    by_contra taken
    simp only [Bool.not_eq_false, Bool.and_eq_true, decide_eq_true_eq] at taken
    obtain ⟨⟨spawning, -⟩, empty⟩ := taken
    have waits : w.tables.Waits id :=
      ⟨Row.of info, rows_eq_some.mpr ⟨info, known, rfl⟩, remote, decide_eq_true spawning⟩
    obtain ⟨request, member, -⟩ := backed.requested id waits
    rw [show w.tables.queue = [] from congrArg (List.map _) empty] at member
    cases member
  have nothing (ids : List EntityID) (each : ∀ id ∈ ids, w.stuck id = false) :
      ids.foldl (fun w id =>
        if w.stuck id then
          w.retire ⟨false, true, true⟩ (w.client.registry.getOwnerPlayerId id) id
        else w) w = w := by
    induction ids with
    | nil => rfl
    | cons id rest ih =>
      rw [List.foldl_cons, each id List.mem_cons_self, if_neg Bool.false_ne_true]
      exact ih fun other inside => each other (List.mem_cons_of_mem _ inside)
  exact nothing _ fun id => found

/-- The entities on their way still have requests when the check begins. -/
theorem visited_backed (backed : w.tables.Backed) {visit : QueueVisit}
    (keeps : Tables.machine.Along Tables.KeepsRequested w.tables (w.visitTasks visit)) :
    (w.visited visit).tables.Backed := by
  rw [visited_tables]
  rw [visitTasks_eq] at keeps
  refine Tables.foldl_invariant (fun t task checked guard backed => ?_) backed
    (w.visitedTasks_checked visit) (Tables.along_append.mp keeps).1
  exact Tables.Backed.apply backed checked guard

end ClientWorld

namespace Resident

variable {r : Resident} {event : Event}

/-- What is on its way at the client is requested, and what waits for it has its key. -/
def Sound (r : Resident) : Prop := r.world.client.Keyed ∧ r.world.tables.Backed

theorem Sound.next (pages : CodePages) (sound : r.Sound) (keeps : r.KeepsRequested event) :
    ((machine pages).next r event).Sound := by
  show Sound (r.step pages event)
  unfold Sound step
  cases experienced : r.experiences event with
  | none => exact sound
  | some experience =>
    refine ⟨r.world.keyed_step pages sound.1 experience, ?_⟩
    refine r.world.step_tables_invariant (fun t task checked guard backed => ?_) pages sound.1 sound.2
      (keeps experience experienced)
    exact Tables.Backed.apply backed checked guard

theorem Sound.spares (pages : CodePages) (sound : r.Sound) (keeps : r.KeepsRequested event) :
    r.Spares pages event := by
  rintro visit rfl ticks due id - registered
  have tasks : r.world.tasks (.handleSpawnQueue visit) = r.world.visitTasks visit := if_pos ticks
  have backed : (r.world.visited visit).tables.Backed :=
    ClientWorld.visited_backed sound.2 (tasks ▸ keeps (.handleSpawnQueue visit) rfl)
  show ((r.world.handleSpawnQueue visit).info id).isSome = true
  rw [ClientWorld.handleSpawnQueue_eq r.world visit ticks, if_pos due,
    ClientWorld.cleanUpStuck_of_backed backed]
  exact registered

/-- **As long as the entities on their way have requests, the check spares what the server has.** -/
theorem live_entities (pages : CodePages) (config : ServerConfig) (file : Option Json.Value)
    (events : List Event) (keeps : (machine pages).Along KeepsRequested (boot config file) events) :
    (machine pages).Along (Spares pages) (boot config file) events := by
  have sound : (boot config file).Sound := ⟨ClientWorld.start_keyed, Tables.start_backed⟩
  have strengthened := keeps.strengthen (motive := Sound)
    (fun r event guarded sound => sound.next pages guarded) sound
  exact strengthened.mono fun r event both => both.1.spares pages both.2

/-! ### Two runs -/

/-- A task that takes no request and gives no character, and no building. -/
def quiet : Task → Bool
  | .announce _ _ _ (some _) | .build _ _ | .take _ | .leave _ _ => false
  | _ => true

/-- An event with such tasks only leaves the entities their requests. -/
theorem keepsRequested_of_quiet
    (tasks : (r.experiences event).all fun experienced => (r.world.tasks experienced).all quiet) :
    r.KeepsRequested event := by
  intro experienced same
  rw [same, Option.all_some] at tasks
  refine Machine.along_of_forall fun task inside t => ?_
  have silent := List.all_eq_true.mp tasks task inside
  cases task with
  | announce id owner buffered character =>
    cases character with
    | none => trivial
    | some character => cases silent
  | build id owner => cases silent
  | take fate => cases silent
  | leave owner ids => cases silent
  | _ => trivial

/-- A client in its game joins, and then another one, and it processes what it gets. -/
def meets : List Event :=
  [.game (.gameLoaded []), .dial 0 0 0,
      .server (.packet 0 (Client.handshake (ascii "Beep")) KMP_CHANNEL_RELIABLE_ORDERED {})]
    ++ (Client.joins 1 (ascii "Ruka")).map .server

def delivers : Event := .deliver (lit 1 1) (lit 1 1) fun _ => lit 1 1

/-- The queue is visited for the check only. -/
def checks : Event := .game (.handleSpawnQueue ⟨false, 0, false, true⟩)

/-- The other player gets a character, which is announced. -/
def spawnRun : List Event :=
  meets ++ .server (Client.spawns 1 {}) :: List.replicate 8 delivers

/-- The other player builds a wall, which is announced. -/
def wallRun : List Event :=
  meets ++ .server (Client.builds 1) :: List.replicate 8 delivers

/-- A character that is on its way stays. -/
theorem live_entities_spawn :
    (machine ClientWorld.SideTables.pages).Along (Spares ClientWorld.SideTables.pages) (boot {} none)
      (spawnRun ++ [checks]) := by
  refine live_entities ClientWorld.SideTables.pages {} none (spawnRun ++ [checks]) ?_
  have tasks : (machine ClientWorld.SideTables.pages).Along (fun r event =>
      ((r.experiences event).all fun experienced => (r.world.tasks experienced).all quiet) = true)
      (boot {} none) (spawnRun ++ [checks]) := by decide +kernel
  exact tasks.mono fun r event => keepsRequested_of_quiet

/-- The server has the wall, and the client had it until the check. -/
theorem live_entities_fail :
    let r := (machine ClientWorld.SideTables.pages).run (boot {} none) wallRun
    (r.sys.server.entities.lookup 1).isSome = true ∧ (r.world.info 1).isSome = true
      ∧ ((r.step ClientWorld.SideTables.pages checks).world.info 1).isSome = false
      ∧ ¬ r.Spares ClientWorld.SideTables.pages checks := by
  intro r
  have stored : (r.sys.server.entities.lookup 1).isSome = true := by decide +kernel
  have known : (r.world.info 1).isSome = true := by decide +kernel
  have gone : ((r.step ClientWorld.SideTables.pages checks).world.info 1).isSome = false := by
    decide +kernel
  refine ⟨stored, known, gone, fun spares => ?_⟩
  have kept := spares ⟨false, 0, false, true⟩ rfl (by decide +kernel) (by decide +kernel) 1 stored
    (by decide +kernel)
  exact absurd (kept.symm.trans gone) (by decide)

end Resident

end KenshiMP
