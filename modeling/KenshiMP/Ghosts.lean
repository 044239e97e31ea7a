/-
**Whether deferral leaves ghosts behind.**

Before the game has loaded, announcements of other players' entities are queued, and the messages
that take entities away are dropped. So an entity that comes and goes during the loading is registered
when the queue is processed, and a client that had its game would not have it (`ghosts_fail`).

`willHold` is what a client has of the other players once its queue is processed. A packet is
`Harmless` if it takes nothing away that a queue still holds, or that a client that is loading would
have to remember; along harmless packets a client that loads in between ends up with the same remote
entities as one that had its game from the start (`ghosts`).
-/

import KenshiMP.Client.IncomingFacts

namespace KenshiMP

open Wire (Bytes ascii)
open Assoc

namespace GameClient

variable (client : GameClient)

/-! ### Harmless packets -/

/-- A later announcement of what is queued has the owner that the queue has. -/
def SameOwner (id : EntityID) (owner : PlayerID) : Prop :=
  client.holdings.remote id = none →
    ∀ first, queuedOwner client.deferredSpawns id = some first → first = owner

/-- Nothing that the client still has to process is taken away, nor, as long as it does not listen,
anything it has. -/
def KeepsQueue (gone : EntityID → PlayerID → Bool → Bool) : Prop :=
  (∀ ds ∈ client.deferredSpawns, ∀ owner, client.willHold ds.entityId = some owner →
      gone ds.entityId owner true = false)
    ∧ (client.gameLoaded = false →
      (∀ entry ∈ client.holdings.own, gone entry.1 entry.2.1 false = false)
        ∧ ∀ id owner, client.holdings.remote id = some owner → gone id owner true = false)

/-- An own entity gets no number that is queued; another player's entity has the number of no own one,
and no other owner than in the queue. -/
def HarmlessSpawn (id : EntityID) (owner : PlayerID) : Prop :=
  if owner = client.localPlayerId then queuedOwner client.deferredSpawns id = none
  else ¬ client.holdings.IsOwn id ∧ (client.ready = true → client.SameOwner id owner)

/-- A building is registered, or known already; what is taken away is neither queued nor dropped
silently. -/
def HarmlessWorld (msg : S2C) : Prop :=
  match msg with
  | .buildPlaced msg =>
    if client.gameLoaded then client.SameOwner msg.entityId msg.builderId
    else client.holdings.IsOwn msg.entityId ∨ (client.willHold msg.entityId).isSome = true
  | msg => client.KeepsQueue msg.retracts

/-- The packet does what it would do if the queue were empty and the game loaded. The number of the
client is that of no owner in the queue. -/
def Harmless (arrival : Arrival) : Prop :=
  match arrival.msg with
  | .handshakeAck ack => ∀ ds ∈ client.deferredSpawns, ds.ownerId ≠ ack.playerId
  | .entitySpawn record => client.HarmlessSpawn record.entityId record.ownerId
  | msg => client.HarmlessWorld msg

/-! ### Two clients -/

/-- A client that may still be loading, and one that had its game from the start. -/
structure Agrees (late inTime : GameClient) : Prop where
  player : late.localPlayerId = inTime.localPlayerId
  ready : inTime.ready = true
  empty : inTime.deferredSpawns = []
  own : late.holdings.own = inTime.holdings.own
  remote : ∀ id, inTime.holdings.remote id = late.willHold id
  foreign : late.Foreign late.deferredSpawns

variable {late inTime late' inTime' : GameClient} {id : EntityID} {arrivals : List Arrival}

section Agreeing

variable (agrees : Agrees late inTime)

include agrees

theorem Agrees.loaded : inTime.gameLoaded = true :=
  (Bool.and_eq_true _ _ ▸ agrees.ready).1

theorem Agrees.isOwn : inTime.holdings.IsOwn id ↔ late.holdings.IsOwn id := by
  unfold Holdings.IsOwn
  rw [agrees.own]

theorem Agrees.knows :
    inTime.holdings.Knows id ↔ late.holdings.IsOwn id ∨ (late.willHold id).isSome = true := by
  unfold Holdings.Knows
  rw [agrees.isOwn, agrees.remote]

/-- The queue stays as it is, and both clients change what they hold. -/
theorem Agrees.next (same : SameGame late late') (same' : SameGame inTime inTime')
    (own : late'.holdings.own = inTime'.holdings.own)
    (fewer : ∀ ds ∈ late.deferredSpawns, late'.holdings.IsOwn ds.entityId →
      late.holdings.IsOwn ds.entityId) (remote : ∀ id, inTime'.holdings.remote id
      = (late'.holdings.remote id).or (queuedOwner late.deferredSpawns id)) :
    Agrees late' inTime' := by
  refine ⟨same.player.trans (agrees.player.trans same'.player.symm),
    same'.ready.trans agrees.ready, same'.deferred.trans agrees.empty, own, fun id => ?_, ?_⟩
  · rw [remote]
    unfold willHold
    rw [same.deferred]
  · rw [same.deferred]
    intro ds inside
    obtain ⟨other, notOwn⟩ := agrees.foreign ds inside
    exact ⟨same.player ▸ other, fun own => notOwn (fewer ds inside own)⟩

/-- Both register an entity. -/
theorem Agrees.register {owner : PlayerID}
    (sameOwner : late.SameOwner id owner) (same : SameGame late late') (same' : SameGame inTime inTime')
    (first : late'.holdings = late.holdings.register id owner)
    (second : inTime'.holdings = inTime.holdings.register id owner) : Agrees late' inTime' := by
  refine agrees.next same same' ?_ (fun ds _ own => ?_) fun other => ?_
  · rw [first, second, Holdings.own_register, Holdings.own_register, agrees.own]
  · rw [first] at own
    unfold Holdings.IsOwn at own ⊢
    rwa [Holdings.own_register] at own
  · by_cases own : late.holdings.IsOwn id
    · have known : late.holdings.register id owner = late.holdings := if_pos (.inl own)
      have known' : inTime.holdings.register id owner = inTime.holdings :=
        if_pos (.inl (agrees.isOwn.mpr own))
      rw [first, second, known, known']
      exact agrees.remote other
    · rw [first, second, Holdings.remote_register _ _ _ _ own,
        Holdings.remote_register _ _ _ _ fun own' => own (agrees.isOwn.mp own'),
        agrees.remote, agrees.remote]
      unfold willHold
      by_cases here : other = id
      · rw [if_pos here, if_pos here, here]
        -- an entity that is queued has its owner already
        cases held : late.holdings.remote id with
        | some recorded => rfl
        | none =>
          cases queued : queuedOwner late.deferredSpawns id with
          | none => rfl
          | some recorded => rw [sameOwner held recorded queued]
      · rw [if_neg here, if_neg here]

/-- Both forget what is not queued. -/
theorem Agrees.retract {gone : EntityID → PlayerID → Bool → Bool}
    (keeps : ∀ ds ∈ late.deferredSpawns, ∀ owner, late.willHold ds.entityId = some owner →
      gone ds.entityId owner true = false) (same : SameGame late late') (same' : SameGame inTime inTime')
    (first : late'.holdings = late.holdings.retract gone)
    (second : inTime'.holdings = inTime.holdings.retract gone) : Agrees late' inTime' := by
  refine agrees.next same same' ?_ (fun ds _ own => ?_) fun id => ?_
  · rw [first, second]
    show List.filter _ _ = List.filter _ _
    rw [agrees.own]
  · rw [first] at own
    obtain ⟨entry, inside, here⟩ := own
    exact ⟨entry, (List.mem_filter.mp inside).1, here⟩
  · rw [first, second]
    show (inTime.holdings.remote id).filter _ = ((late.holdings.remote id).filter _).or _
    rw [agrees.remote]
    cases queued : queuedOwner late.deferredSpawns id with
    | none =>
      unfold willHold
      rw [queued, Option.or_none, Option.or_none]
    | some recorded =>
      obtain ⟨ds, inside, rfl, -⟩ := queuedOwner_mem queued
      have kept := keeps ds inside
      unfold willHold at kept ⊢
      rw [queued] at kept ⊢
      cases held : late.holdings.remote ds.entityId with
      | none =>
        rw [held] at kept
        simp only [Option.none_or, Option.filter, kept recorded rfl, Bool.not_false, if_true]
      | some owner =>
        rw [held] at kept
        simp only [Option.some_or, Option.filter, kept owner rfl, Bool.not_false, if_true]

/-- Nothing is taken from the client that is up to date. -/
theorem Agrees.retract_nothing {gone : EntityID → PlayerID → Bool → Bool} (keeps : late.KeepsQueue gone)
    (loading : late.gameLoaded = false) : inTime.holdings.retract gone = inTime.holdings := by
  obtain ⟨queued, here⟩ := keeps
  obtain ⟨own, remote⟩ := here loading
  refine Holdings.retract_nothing (fun entry inside => ?_) fun id owner found => ?_
  · exact own entry (agrees.own ▸ inside)
  · rw [agrees.remote] at found
    cases held : late.holdings.remote id with
    | some recorded =>
      have same : recorded = owner := by
        unfold willHold at found
        rw [held] at found
        exact Option.some.inj found
      exact remote id owner (same ▸ held)
    | none =>
      have queue : queuedOwner late.deferredSpawns id = some owner := by
        unfold willHold at found
        rw [held] at found
        exact found
      obtain ⟨ds, inside, rfl, -⟩ := queuedOwner_mem queue
      exact queued ds inside owner found

/-- Both confirm an own entity. -/
theorem Agrees.confirm {pos : Vec3} {owner : PlayerID} (free : queuedOwner late.deferredSpawns id = none)
    (same : SameGame late late') (same' : SameGame inTime inTime')
    (first : late'.holdings = late.holdings.confirm id pos owner)
    (second : inTime'.holdings = inTime.holdings.confirm id pos owner) : Agrees late' inTime' := by
  have knows : inTime.holdings.Knows id ↔ late.holdings.Knows id := by
    rw [agrees.knows]
    unfold willHold
    rw [free, Option.or_none]
    rfl
  have own : late'.holdings.own = inTime'.holdings.own := by
    rw [first, second]
    unfold Holdings.confirm
    simp only [← agrees.own, knows]
    split_ifs
    · rfl
    · exact agrees.own
  refine agrees.next same same' own (fun ds inside isOwn => ?_) fun other => ?_
  · rw [first] at isOwn
    unfold Holdings.confirm at isOwn
    simp only at isOwn
    split_ifs at isOwn
    · obtain ⟨entry, member, here⟩ := isOwn
      rcases List.mem_append.mp member with moved | stayed
      · -- the new number is not queued
        obtain ⟨old, -, rfl⟩ := Option.map_eq_some_iff.mp (Option.mem_toList.mp moved)
        have queued := queuedOwner_isSome inside
        rw [← here] at queued
        change (queuedOwner late.deferredSpawns id).isSome = true at queued
        rw [free] at queued
        cases queued
      · exact ⟨entry, (List.mem_filter.mp stayed).1, here⟩
    · exact isOwn
  · rw [first, second, Holdings.remote_confirm, Holdings.remote_confirm]
    exact agrees.remote other

/-- An announcement joins the queue of one client, and the other one registers it. -/
theorem Agrees.queue (spawn : EntitySpawn)
    (other : spawn.ownerId ≠ late.localPlayerId) (notOwn : ¬ late.holdings.IsOwn spawn.entityId)
    {inTime' : GameClient} (same' : SameGame inTime inTime')
    (second : inTime'.holdings = inTime.holdings.register spawn.entityId spawn.ownerId) :
    Agrees { late with deferredSpawns := late.deferredSpawns ++ [spawn.deferred] } inTime' := by
  refine ⟨agrees.player.trans same'.player.symm, same'.ready.trans agrees.ready,
    same'.deferred.trans agrees.empty, ?_, fun id => ?_, ?_⟩
  · rw [second, Holdings.own_register]
    exact agrees.own
  · rw [second, Holdings.remote_register _ _ _ _ fun own => notOwn (agrees.isOwn.mp own),
      agrees.remote, agrees.remote]
    show _ = (late.holdings.remote id).or (queuedOwner (late.deferredSpawns ++ [spawn.deferred]) id)
    rw [queuedOwner_append, ← Option.or_assoc]
    show _ = (late.willHold id).or (if id = spawn.entityId then some spawn.ownerId else none)
    by_cases here : id = spawn.entityId
    · rw [if_pos here, if_pos here, here]
    · rw [if_neg here, if_neg here, Option.or_none]
  · intro ds inside
    rcases List.mem_append.mp inside with before | new
    · exact agrees.foreign ds before
    · rw [List.mem_singleton.mp new]
      exact ⟨other, notOwn⟩

end Agreeing

/-! ### One packet -/

section Step

variable (pages : CodePages)

variable (agrees : Agrees late inTime)

include agrees

theorem Agrees.handshakeAck (ack : MsgHandshakeAck)
    (harmless : ∀ ds ∈ late.deferredSpawns, ds.ownerId ≠ ack.playerId) :
    Agrees (late.handleHandshakeAck ack) (inTime.handleHandshakeAck ack) := by
  refine ⟨rfl, ?_, agrees.empty, agrees.own, agrees.remote, fun ds inside => ?_⟩
  · show (inTime.gameLoaded && true) = true
    rw [agrees.loaded]
    rfl
  · exact ⟨harmless ds inside, (agrees.foreign ds inside).2⟩

theorem Agrees.handshakeReject : Agrees late.handleHandshakeReject inTime.handleHandshakeReject := by
  have rejected : inTime.handleHandshakeReject = { inTime with clientPhase := .GameReady } :=
    if_pos agrees.loaded
  have ready : inTime.handleHandshakeReject.ready = true := by
    rw [rejected]
    show (inTime.gameLoaded && true) = true
    rw [agrees.loaded]
    rfl
  rw [rejected] at ready ⊢
  unfold handleHandshakeReject
  split_ifs
  · exact ⟨agrees.player, ready, agrees.empty, agrees.own, agrees.remote, agrees.foreign⟩
  · exact ⟨agrees.player, ready, agrees.empty, agrees.own, agrees.remote, agrees.foreign⟩

/-- The queue is processed; the other client has nothing to process. -/
theorem Agrees.processAll (clock clock' : Nat → F32) :
    Agrees (late.processAll clock) (inTime.processAll clock') := by
  have idle : inTime.processAll clock' = inTime := by
    have empty := agrees.empty
    unfold GameClient.processAll processEach
    rw [empty]
    show { inTime with deferredSpawns := [] } = inTime
    rw [← empty]
  obtain ⟨player, -⟩ := late.processAll_sameGame clock
  obtain ⟨own, remote⟩ := late.processAll_holdings clock agrees.foreign
  rw [idle]
  refine ⟨player.trans agrees.player, agrees.ready, agrees.empty, own.trans agrees.own,
    fun id => ?_, fun ds inside => ?_⟩
  · rw [agrees.remote, ← remote]
    exact (Option.or_none).symm
  · cases inside

theorem Agrees.entitySpawn (spawn : EntitySpawn)
    (harmless : late.HarmlessSpawn spawn.entityId spawn.ownerId) (now render : F32) :
    Agrees (late.takeUp pages spawn now render) (inTime.takeUp pages spawn now render) := by
  unfold HarmlessSpawn at harmless
  by_cases mine : spawn.ownerId = late.localPlayerId
  · rw [if_pos mine] at harmless
    have confirmed (client : GameClient) (own : spawn.ownerId = client.localPlayerId) :
        SameGame client (client.takeUp pages spawn now render)
          ∧ (client.takeUp pages spawn now render).holdings
            = client.holdings.confirm spawn.entityId spawn.spawnPos spawn.ownerId := by
      unfold takeUp
      rw [if_pos own]
      exact ⟨⟨rfl, rfl, rfl, rfl⟩, client.registry.holdings_confirm _ _ _⟩
    obtain ⟨same, first⟩ := confirmed late mine
    obtain ⟨same', second⟩ := confirmed inTime (mine.trans agrees.player)
    exact agrees.confirm harmless same same' first second
  · rw [if_neg mine] at harmless
    have registered (client : GameClient) (other : spawn.ownerId ≠ client.localPlayerId)
        (ready : client.ready = true) (notOwn : ¬ client.holdings.IsOwn spawn.entityId) :
        SameGame client (client.takeUp pages spawn now render)
          ∧ (client.takeUp pages spawn now render).holdings
            = client.holdings.register spawn.entityId spawn.ownerId := by
      unfold takeUp
      rw [if_neg other, ready, Bool.not_true, if_neg Bool.false_ne_true]
      exact ⟨client.spawnRemote_sameGame pages spawn now render,
        client.holdings_spawnRemote pages spawn now render notOwn⟩
    obtain ⟨same', second⟩ := registered inTime (fun own => mine (own.trans agrees.player.symm))
      agrees.ready fun own => harmless.1 (agrees.isOwn.mp own)
    by_cases ready : late.ready = true
    · obtain ⟨same, first⟩ := registered late mine ready harmless.1
      exact agrees.register (harmless.2 ready) same same' first second
    · have queued : late.takeUp pages spawn now render
          = { late with deferredSpawns := late.deferredSpawns ++ [spawn.deferred] } := by
        unfold takeUp
        rw [if_neg mine, Bool.not_eq_true _ |>.mp ready, Bool.not_false, if_pos rfl]
      rw [queued]
      exact agrees.queue spawn mine harmless.1 same' second

/-- A message about the world reaches both clients, or only the one that is up to date. -/
theorem Agrees.world (arrival : Arrival) (harmless : late.HarmlessWorld arrival.msg) :
    Agrees (if late.gameLoaded then late.handleWorld arrival else late) (inTime.handleWorld arrival) := by
  have same' := inTime.handleWorld_sameGame arrival
  have second := inTime.holdings_handleWorld arrival
  unfold HarmlessWorld at harmless
  by_cases loaded : late.gameLoaded = true
  · have same := late.handleWorld_sameGame arrival
    have first := late.holdings_handleWorld arrival
    rw [if_pos loaded]
    unfold Holdings.world at first second
    generalize arrival.msg = msg at harmless first second
    cases msg with
    | buildPlaced msg =>
      simp only [if_pos loaded] at harmless
      exact agrees.register harmless same same' first second
    | _ => exact agrees.retract harmless.1 same same' first second
  · rw [if_neg loaded]
    have kept : inTime.holdings.world arrival.msg = inTime.holdings := by
      unfold Holdings.world
      generalize arrival.msg = msg at harmless
      cases msg with
      | buildPlaced msg =>
        simp only [if_neg loaded] at harmless
        exact if_pos (agrees.knows.mpr harmless)
      | _ => exact agrees.retract_nothing harmless (Bool.not_eq_true _ |>.mp loaded)
    refine agrees.next .refl same' ?_ (fun _ _ own => own) fun id => ?_
    · rw [second, kept]
      exact agrees.own
    · rw [second, kept]
      exact agrees.remote id

/-- **One packet.** -/
theorem Agrees.step {arrival : Arrival} (harmless : late.Harmless arrival) :
    Agrees (late.handlePacket pages arrival) (inTime.handlePacket pages arrival) := by
  have world := agrees.world arrival
  unfold Harmless at harmless
  unfold handlePacket
  rw [agrees.loaded]
  generalize arrival.msg = msg at harmless world ⊢
  cases msg with
  | handshakeAck ack => exact agrees.handshakeAck ack harmless
  | handshakeReject reasonCode reasonText => exact agrees.handshakeReject
  | playerJoined playerId playerName =>
    obtain ⟨names, joined⟩ := late.handlePlayerJoined_eq playerId playerName
    obtain ⟨names', joined'⟩ := inTime.handlePlayerJoined_eq playerId playerName
    show Agrees (late.handlePlayerJoined playerId playerName) (inTime.handlePlayerJoined playerId playerName)
    rw [joined, joined']
    exact ⟨agrees.player, agrees.ready, agrees.empty, agrees.own, agrees.remote, agrees.foreign⟩
  | allPlayersReady => exact agrees.processAll arrival.clock arrival.clock
  | entitySpawn record =>
    obtain ⟨spawn, read, id, owner, -⟩ := readEntitySpawn_fixed record
    have known : late.HarmlessSpawn spawn.entityId spawn.ownerId := by
      rw [id, owner]
      exact harmless
    show Agrees (late.handleEntitySpawn pages _ arrival.now arrival.render)
      (inTime.handleEntitySpawn pages _ arrival.now arrival.render)
    unfold handleEntitySpawn
    rw [read]
    exact agrees.entitySpawn pages spawn known arrival.now arrival.render
  | _ => exact world harmless

end Step

/-! ### The game loads -/

theorem holdings_linkLate (entityId : EntityID) (notOwn : ¬ client.holdings.IsOwn entityId) :
    (client.linkLate entityId).holdings = client.holdings := by
  unfold linkLate
  split_ifs
  · rfl
  · cases client.registry.getInfo entityId with
    | none => rfl
    | some info =>
      simp only
      split_ifs
      · exact holdings_linked client.registry notOwn _ _
      · rfl

/-- Linking late changes nothing that counts. -/
theorem holdings_foldl_linkLate (ids : List EntityID) (notOwn : ∀ id ∈ ids, ¬ client.holdings.IsOwn id) :
    (ids.foldl linkLate client).holdings = client.holdings := by
  induction ids generalizing client with
  | nil => rfl
  | cons id rest ih =>
    have linked := client.holdings_linkLate id (notOwn id List.mem_cons_self)
    rw [List.foldl_cons, ih _ fun other inside => ?_, linked]
    rw [linked]
    exact notOwn other (List.mem_cons_of_mem _ inside)

theorem linkAll_fields :
    SameGame client (client.registry.getRemoteEntities.foldl linkLate client)
      ∧ (client.registry.getRemoteEntities.foldl linkLate client).holdings = client.holdings := by
  refine ⟨sameGame_foldl (fun client => client.linkLate_sameGame) _,
    holdings_foldl_linkLate client _ fun id inside own => ?_⟩
  obtain ⟨info, known, remote⟩ := client.registry.mem_getRemoteEntities.mp inside
  obtain ⟨info', known', here⟩ := client.registry.isOwn_iff.mp own
  cases known.symm.trans known'
  rw [remote] at here
  cases here

theorem onGameLoaded_fields (loading : client.gameLoaded = false) (connected : Bool)
    (characters : List (Bytes × GameObject)) :
    (client.onGameLoaded connected characters).localPlayerId = client.localPlayerId
      ∧ (client.onGameLoaded connected characters).ready = true
      ∧ (client.onGameLoaded connected characters).deferredSpawns = client.deferredSpawns
      ∧ (client.onGameLoaded connected characters).holdings = client.holdings := by
  unfold onGameLoaded
  rw [if_neg (by rw [loading]; decide)]
  cases connected with
  | false => exact ⟨rfl, rfl, rfl, rfl⟩
  | true =>
    obtain ⟨same, held⟩ :=
      linkAll_fields { client.enterGame .GameReady with characters := characters }
    exact ⟨same.player, same.ready, same.deferred, held⟩

/-- A client that has its game from the start, and the same client without it. -/
theorem agrees_start (loading : client.gameLoaded = false) (empty : client.deferredSpawns = [])
    (connected : Bool) (characters : List (Bytes × GameObject)) :
    Agrees client (client.onGameLoaded connected characters) := by
  obtain ⟨player, ready, deferred, held⟩ := client.onGameLoaded_fields loading connected characters
  refine ⟨player.symm, ready, deferred.trans empty, congrArg Holdings.own held.symm, fun id => ?_,
    fun ds inside => ?_⟩
  · rw [held]
    unfold willHold
    rw [empty]
    exact (Option.or_none).symm
  · rw [empty] at inside
    cases inside

theorem Agrees.onGameLoaded (agrees : Agrees late inTime) (connected : Bool)
    (characters : List (Bytes × GameObject)) :
    Agrees (late.onGameLoaded connected characters) inTime := by
  by_cases loaded : late.gameLoaded = true
  · unfold GameClient.onGameLoaded
    rw [if_pos loaded]
    exact agrees
  · obtain ⟨player, -, deferred, held⟩ :=
      late.onGameLoaded_fields (Bool.not_eq_true _ |>.mp loaded) connected characters
    refine ⟨player.trans agrees.player, agrees.ready, agrees.empty,
      (congrArg Holdings.own held).trans agrees.own, fun id => ?_, ?_⟩
    · unfold willHold
      rw [held, deferred]
      exact agrees.remote id
    · rw [deferred]
      unfold Foreign
      rw [player, held]
      exact agrees.foreign

/-! ### Runs -/

variable (pages : CodePages)

theorem Agrees.run (agrees : Agrees late inTime)
    (harmless : (machine pages).Along Harmless late arrivals) :
    Agrees ((machine pages).run late arrivals) ((machine pages).run inTime arrivals) := by
  induction arrivals generalizing late inTime with
  | nil => exact agrees
  | cons arrival rest ih => exact ih (agrees.step pages harmless.1) harmless.2

/-- Once processed, both have the same remote entities. -/
theorem Agrees.isRemote (agrees : Agrees late inTime) (clock : Nat → F32) (id : EntityID) :
    (late.processAll clock).registry.isRemote id = inTime.registry.isRemote id := by
  rw [EntityRegistry.isRemote_eq, EntityRegistry.isRemote_eq]
  have processed : (late.processAll clock).registry.holdings.remote id = late.willHold id :=
    (late.processAll_holdings clock agrees.foreign).2 id
  have there : inTime.registry.holdings.remote id = late.willHold id := agrees.remote id
  rw [processed, there]

/-! ### Ghosts -/

/-- A client that is up to date agrees with itself. -/
theorem Agrees.settled (agrees : Agrees late inTime) : Agrees inTime inTime := by
  refine ⟨rfl, agrees.ready, agrees.empty, rfl, fun id => ?_, fun ds inside => ?_⟩
  · unfold willHold
    rw [agrees.empty]
    exact (Option.or_none).symm
  · rw [agrees.empty] at inside
    cases inside

/-- The packet takes an entity away from a client that has it. -/
def Retracted (client : GameClient) (msg : S2C) (id : EntityID) : Prop :=
  ∀ owner, client.holdings.remote id = some owner → msg.retracts id owner true = true

/-- What is harmless to a client that loads is so to one that is up to date. -/
theorem Agrees.harmless (agrees : Agrees late inTime) {arrival : Arrival}
    (harmless : late.Harmless arrival) : inTime.Harmless arrival := by
  have nothing (id : EntityID) (owner : PlayerID) : inTime.SameOwner id owner := by
    intro _ first queued
    rw [agrees.empty] at queued
    cases queued
  have keeps (gone : EntityID → PlayerID → Bool → Bool) : inTime.KeepsQueue gone := by
    refine ⟨fun ds inside => ?_, fun loading => ?_⟩
    · rw [agrees.empty] at inside
      cases inside
    · rw [agrees.loaded] at loading
      cases loading
  unfold Harmless at harmless ⊢
  generalize arrival.msg = msg at harmless ⊢
  cases msg with
  | handshakeAck ack =>
    intro ds inside
    rw [agrees.empty] at inside
    cases inside
  | entitySpawn record =>
    change late.HarmlessSpawn record.entityId record.ownerId at harmless
    show inTime.HarmlessSpawn record.entityId record.ownerId
    unfold HarmlessSpawn at harmless ⊢
    rw [← agrees.player]
    split_ifs at harmless ⊢
    · rw [agrees.empty]
      rfl
    · exact ⟨fun own => harmless.1 (agrees.isOwn.mp own), fun _ => nothing _ _⟩
  | buildPlaced msg =>
    show if inTime.gameLoaded then _ else _
    rw [if_pos agrees.loaded]
    exact nothing _ _
  | _ => exact keeps _

/-- An entity that a client up to date does not have, it does not get without an announcement; and one
that is taken away it does not have any more. -/
theorem Agrees.absent (agrees : Agrees inTime inTime) {arrival : Arrival}
    (harmless : inTime.Harmless arrival)
    (silent : arrival.msg.announces id = false) (gone : Retracted inTime arrival.msg id) :
    (inTime.handlePacket pages arrival).holdings.remote id = none := by
  have unknown (nothing : arrival.msg.retracts = fun _ _ _ => false) : inTime.holdings.remote id = none := by
    cases held : inTime.holdings.remote id with
    | none => rfl
    | some owner =>
      have taken := gone owner held
      rw [nothing] at taken
      cases taken
  have world := inTime.holdings_handleWorld arrival
  have kept : ∀ msg : S2C, Retracted inTime msg id →
      (inTime.holdings.retract msg.retracts).remote id = none := by
    intro msg gone
    show (inTime.holdings.remote id).filter _ = none
    cases held : inTime.holdings.remote id with
    | none => rfl
    | some owner => simp only [Option.filter, gone owner held, Bool.not_true, Bool.false_eq_true, if_false]
  unfold Harmless at harmless
  unfold handlePacket
  rw [agrees.loaded]
  unfold Holdings.world at world
  generalize arrival.msg = msg at harmless silent gone unknown world ⊢
  cases msg with
  | handshakeAck ack => exact unknown rfl
  | handshakeReject reasonCode reasonText =>
    have rejected : inTime.handleHandshakeReject = { inTime with clientPhase := .GameReady } :=
      if_pos agrees.loaded
    show inTime.handleHandshakeReject.holdings.remote id = none
    rw [rejected]
    exact unknown rfl
  | allPlayersReady =>
    have processed := (inTime.processAll_holdings arrival.clock agrees.foreign).2 id
    rw [← agrees.remote] at processed
    exact processed.trans (unknown rfl)
  | entitySpawn record =>
    obtain ⟨spawn, read, same, owner, -⟩ := readEntitySpawn_fixed record
    have known : inTime.HarmlessSpawn spawn.entityId spawn.ownerId := by
      rw [same, owner]
      exact harmless
    have other : id ≠ spawn.entityId := by
      rw [same]
      exact fun here => of_decide_eq_false silent here.symm
    show (inTime.handleEntitySpawn pages _ arrival.now arrival.render).holdings.remote id = none
    unfold handleEntitySpawn
    rw [read]
    show (inTime.takeUp pages spawn arrival.now arrival.render).holdings.remote id = none
    unfold HarmlessSpawn at known
    unfold takeUp
    split_ifs at known ⊢ with mine loading
    · show (inTime.registry.confirm _ _ _).holdings.remote id = none
      rw [EntityRegistry.holdings_confirm, Holdings.remote_confirm]
      exact unknown rfl
    · rw [agrees.ready] at loading
      cases loading
    · rw [holdings_spawnRemote _ _ _ _ _ known.1, Holdings.remote_register _ _ _ _ known.1, if_neg other]
      exact unknown rfl
  | playerJoined playerId playerName =>
    obtain ⟨names, joined⟩ := inTime.handlePlayerJoined_eq playerId playerName
    show (inTime.handlePlayerJoined playerId playerName).holdings.remote id = none
    rw [joined]
    exact unknown rfl
  | buildPlaced msg =>
    have other : msg.entityId ≠ id := of_decide_eq_false silent
    show (inTime.handleWorld arrival).holdings.remote id = none
    rw [world]
    show (inTime.holdings.register msg.entityId msg.builderId).remote id = none
    rw [Holdings.remote_register_ne _ (Ne.symm other)]
    exact unknown rfl
  | _ =>
    show (inTime.handleWorld arrival).holdings.remote id = none
    rw [world]
    exact kept _ gone

theorem Agrees.along (agrees : Agrees late inTime)
    (harmless : (machine pages).Along Harmless late arrivals) :
    (machine pages).Along Harmless inTime arrivals := by
  induction arrivals generalizing late inTime with
  | nil => trivial
  | cons arrival rest ih =>
    exact ⟨agrees.harmless harmless.1, ih (agrees.step pages harmless.1) harmless.2⟩

/-- As long as nothing announces it again. -/
theorem Agrees.stays_absent (agrees : Agrees inTime inTime)
    (harmless : (machine pages).Along Harmless inTime arrivals)
    (silent : ∀ arrival ∈ arrivals, arrival.msg.announces id = false)
    (absent : inTime.holdings.remote id = none) :
    ((machine pages).run inTime arrivals).holdings.remote id = none := by
  induction arrivals generalizing inTime with
  | nil => exact absent
  | cons arrival rest ih =>
    refine ih (agrees.step pages harmless.1) harmless.2
      (fun other inside => silent other (List.mem_cons_of_mem _ inside)) ?_
    refine agrees.absent pages harmless.1 (silent arrival List.mem_cons_self) fun owner held => ?_
    rw [absent] at held
    cases held

/-- **Along harmless packets, deferral makes no ghosts.** Whenever the game loads, the remote entities
after the queue is processed are those of a client that had its game from the start; and no entity is
among them that a packet took away and none announced again. -/
theorem ghosts (start : GameClient) (loading : start.gameLoaded = false)
    (fresh : start.deferredSpawns = []) (connected connected' : Bool)
    (characters : List (Bytes × GameObject)) (early late : List Arrival)
    (harmlessEarly : (machine pages).Along Harmless start early)
    (harmlessLate : (machine pages).Along Harmless
      (((machine pages).run start early).onGameLoaded connected characters) late)
    (clock : Nat → F32) :
    let deferred := ((machine pages).run
      (((machine pages).run start early).onGameLoaded connected characters) late).processAll clock
    let inTime := start.onGameLoaded connected' characters
    (∀ id, deferred.registry.isRemote id = ((machine pages).run inTime (early ++ late)).registry.isRemote id)
      ∧ ∀ id before arrival after, early ++ late = before ++ arrival :: after →
        Retracted ((machine pages).run inTime before) arrival.msg id →
        (∀ later ∈ arrival :: after, later.msg.announces id = false) →
        deferred.registry.isRemote id = false := by
  intro deferred inTime
  have started : Agrees start inTime := start.agrees_start loading fresh connected' characters
  have entered : Agrees (((machine pages).run start early).onGameLoaded connected characters)
      ((machine pages).run inTime early) :=
    (started.run pages harmlessEarly).onGameLoaded connected characters
  have ended : Agrees ((machine pages).run
        (((machine pages).run start early).onGameLoaded connected characters) late)
      ((machine pages).run inTime (early ++ late)) := by
    rw [Machine.run_append]
    exact entered.run pages harmlessLate
  have same := ended.isRemote clock
  refine ⟨same, fun id before arrival after split gone silent => ?_⟩
  have along : (machine pages).Along Harmless inTime (before ++ arrival :: after) := by
    rw [← split]
    exact Machine.along_append.mpr ⟨started.along pages harmlessEarly,
      entered.along pages harmlessLate⟩
  obtain ⟨first, harmless, rest⟩ := Machine.along_append.mp along
  have there : Agrees ((machine pages).run inTime before) ((machine pages).run inTime before) :=
    started.settled.run pages first
  have absent := there.absent pages harmless (silent arrival List.mem_cons_self) gone
  have stays := (there.step pages harmless).stays_absent pages rest
    (fun later inside => silent later (List.mem_cons_of_mem _ inside)) absent
  have last : ((machine pages).run inTime (early ++ late)).holdings.remote id = none := by
    rw [split, Machine.run_append]
    exact stays
  rw [same, EntityRegistry.isRemote_eq]
  exact congrArg Option.isSome last

/-! ### A ghost -/

/-- The host's character, as the server announces it. -/
def hostCharacter : SpawnRecord where
  entityId := 1
  type := 0
  ownerId := 1
  templateId := 0
  position := ⟨lit 10 1, lit 0 1, lit 10 1⟩
  compressedQuat := 0
  factionId := 0
  templateName := ascii "Greenlander"
  health _ := lit 100 1
  alive := true

def arrives (msg : S2C) : Arrival := ⟨msg, lit 1 1, lit 1 1, fun _ => lit 1 1⟩

/-- The second player, connected from the main menu. -/
def connecting : GameClient := { localPlayerId := 2, clientPhase := .Connected }

/-- An announcement that is queued, and a departure after the queue has been processed. -/
theorem ghosts_departure :
    (((machine plainPages).run
        (((machine plainPages).run connecting [arrives (.entitySpawn hostCharacter)]).onGameLoaded true
          []) [arrives .allPlayersReady, arrives (.entityDespawn 1 0)]).processAll
          fun _ => lit 1 1).registry.isRemote 1
      = ((machine plainPages).run (connecting.onGameLoaded false [])
          ([arrives (.entitySpawn hostCharacter)]
            ++ [arrives .allPlayersReady, arrives (.entityDespawn 1 0)])).registry.isRemote 1 := by
  have early : connecting.HarmlessSpawn 1 1 := by
    refine ⟨?_, fun ready => ?_⟩
    · rintro ⟨entry, inside, -⟩
      cases inside
    · cases ready
  refine (ghosts plainPages connecting rfl rfl true false []
    [arrives (.entitySpawn hostCharacter)]
    [arrives .allPlayersReady, arrives (.entityDespawn 1 0)] ⟨early, trivial⟩ ⟨?_, ?_, trivial⟩
    fun _ => lit 1 1).1 1
  · exact ⟨fun _ _ _ _ => rfl, fun _ => ⟨fun _ _ => rfl, fun _ _ _ => rfl⟩⟩
  · refine ⟨fun ds inside => ?_, fun loading => absurd loading (by decide +kernel)⟩
    cases inside

/-- The same announcement, and a departure before the game has loaded. -/
theorem ghosts_fail :
    (((machine plainPages).run
        (((machine plainPages).run connecting [arrives (.entitySpawn hostCharacter),
          arrives (.entityDespawn 1 0)]).onGameLoaded true []) [arrives .allPlayersReady]).processAll
          fun _ => lit 1 1).registry.isRemote 1 = true
      ∧ ((machine plainPages).run (connecting.onGameLoaded false [])
          ([arrives (.entitySpawn hostCharacter), arrives (.entityDespawn 1 0)]
            ++ [arrives .allPlayersReady])).registry.isRemote 1 = false := by
  decide +kernel

end GameClient

end KenshiMP
