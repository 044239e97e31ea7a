/-
**Whether every query gets its result.**

A query that is answered or timed out has pushed a result. A disconnect, and a list of servers, take the query
off the pending ones and push none; and the three seconds of the timeout are a difference of floats.

* `AnsweredOnce`: the results are those of the calls, one for each call that is more than three seconds old;
* `Balanced`: the calls are those that have their result and those that are pending. `balanced_service`: an
  event that is not one of the two keeps it;
* `queries_answered`: in every run of such events each update leaves the calls answered once.
-/

import KenshiMP.Client.ServerQuery

namespace KenshiMP

open Wire (Bytes ascii)

/-! ### What should be -/

def ServerQueryResult.outcome (r : ServerQueryResult) : Bytes × UInt16 × Bool := (r.address, r.port, r.online)

def QueryCall.outcome (q : QueryCall) : Bytes × UInt16 × Bool := (q.address, q.port, q.answered)

namespace QueryRun

/-- More than three seconds have passed since the call. -/
def Due (run : QueryRun) (q : QueryCall) : Bool := q.start + 3 * 10 ^ 9 < run.clock

/-- **One result for each call** that is more than three seconds old, online if it was answered; the other
results are those of other calls. -/
def AnsweredOnce (run : QueryRun) : Prop :=
  ∃ early : List QueryCall, early.Subperm (run.calls.filter fun q => !run.Due q)
    ∧ (run.client.results.map ServerQueryResult.outcome).Perm
      ((run.calls.filter run.Due ++ early).map QueryCall.outcome)

/-- Each update leaves the calls answered once. -/
def Answers (run : QueryRun) : QueryEvent → Prop
  | .update events => (queryMachine.next run (.update events)).AnsweredOnce
  | _ => True

/-! ### The condition -/

/-- No connection of a pending query ends, and no list of servers arrives on it, nor one with entries on
any connection. -/
def Undisturbed (run : QueryRun) : HostEvent → Prop
  | .connect _ => True
  | .receive peer data _ => run.inUse peer → ∀ entries ∈ ServerQueryClient.serverList data,
    entries = [] ∧ ∀ q ∈ run.client.pending, q.peer ≠ peer
  | .disconnect peer => ∀ q ∈ run.client.pending, q.peer ≠ peer

/-- For the pending calls, three seconds are three seconds also in the floats of the clock. -/
def Punctual (run : QueryRun) : Prop :=
  ∀ q ∈ run.calls, q.answered = false → q.peer.isSome → run.Due q →
    (lit 3 1).lt ((run.client.getTimeSeconds run.clock).sub (run.client.getTimeSeconds q.start)) = true

/-- The condition of an update that asks the host. -/
def Considerate (run : QueryRun) : QueryEvent → Prop
  | .update events => run.client.pending = [] ∨
    hostMachine.Along Undisturbed run events ∧ (hostMachine.run run events).Punctual
  | _ => True

/-! ### Calls with their results, and pending calls -/

/-- The pending query of a call. -/
def entry (client : ServerQueryClient) (q : QueryCall) : PendingQuery :=
  ⟨q.peer.getD 0, q.address, q.port, client.getTimeSeconds q.start⟩

/-- `closed` have their results, `opened` are pending. -/
structure Split (run : QueryRun) (closed opened : List QueryCall) : Prop where
  calls : run.calls.Perm (closed ++ opened)
  results : (run.client.results.map ServerQueryResult.outcome).Perm (closed.map QueryCall.outcome)
  pending : run.client.pending = opened.map (entry run.client)
  waiting : ∀ q ∈ opened, q.answered = false ∧ q.peer.isSome
  done : ∀ q ∈ closed, q.peer.isSome → q.answered = true
  slots : (run.calls.filterMap QueryCall.peer).Nodup
  started : run.client.epoch = none → opened = []

def Balanced (run : QueryRun) : Prop := ∃ closed opened, run.Split closed opened

/-! ### Slots -/

variable {run : QueryRun} {closed opened : List QueryCall}

variable {calls : List QueryCall} {peer : Peer}

theorem mem_slots :
    peer ∈ calls.filterMap QueryCall.peer ↔ ∃ q ∈ calls, q.peer = some peer := List.mem_filterMap

theorem inUse_iff : run.inUse peer = true ↔ ∃ q ∈ run.calls, q.peer = some peer := by
  unfold inUse
  rw [List.any_eq_true]
  simp only [decide_eq_true_eq]

theorem map_answer (none : ∀ q ∈ calls, q.peer ≠ some peer) : calls.map (QueryCall.answer peer) = calls :=
  (List.map_congr_left fun q inside => if_neg (none q inside)).trans (List.map_id _)

theorem map_release {peers : List Peer} (none : ∀ q ∈ calls, ∀ peer ∈ peers, q.peer ≠ some peer) :
    calls.map (QueryCall.release peers) = calls := by
  refine (List.map_congr_left fun q inside => ?_).trans (List.map_id _)
  unfold QueryCall.release
  refine if_neg fun held => ?_
  cases holds : q.peer with
  | none =>
    rw [holds] at held
    cases held
  | some peer =>
    rw [holds, Option.any_some] at held
    exact none q inside peer (of_decide_eq_true held) holds

@[simp] theorem release_outcome (peers : List Peer) (q : QueryCall) :
    (q.release peers).outcome = q.outcome := by
  unfold QueryCall.release
  split_ifs <;> rfl

@[simp] theorem release_answered (peers : List Peer) (q : QueryCall) :
    (q.release peers).answered = q.answered := by
  unfold QueryCall.release
  split_ifs <;> rfl

@[simp] theorem answer_peer (peer : Peer) (q : QueryCall) : (q.answer peer).peer = q.peer := by
  unfold QueryCall.answer
  split_ifs <;> rfl

/-- A released call holds a slot only if it held it before, and the slot is not among the released. -/
theorem release_peer {peers : List Peer} {q : QueryCall}
    (holds : (q.release peers).peer = some peer) : q.peer = some peer ∧ peer ∉ peers := by
  unfold QueryCall.release at holds
  split_ifs at holds with freed
  refine ⟨holds, fun inside => freed ?_⟩
  rw [holds, Option.any_some]
  exact decide_eq_true inside

theorem release_slots (peers : List Peer) (calls : List QueryCall) :
    ((calls.map (QueryCall.release peers)).filterMap QueryCall.peer).Sublist
      (calls.filterMap QueryCall.peer) := by
  induction calls with
  | nil => exact .slnil
  | cons q rest ih =>
    rw [List.map_cons, List.filterMap_cons, List.filterMap_cons]
    cases before : q.peer with
    | none =>
      have after : (q.release peers).peer = none := by
        unfold QueryCall.release
        rw [before]
        exact before
      rw [after]
      exact ih
    | some peer =>
      cases after : (q.release peers).peer with
      | none => exact ih.cons _
      | some other =>
        have same := (release_peer after).1
        rw [before] at same
        rw [← Option.some.inj same]
        exact ih.cons_cons _

theorem answer_slots (peer : Peer) (calls : List QueryCall) :
    (calls.map (QueryCall.answer peer)).filterMap QueryCall.peer = calls.filterMap QueryCall.peer := by
  rw [List.filterMap_map]
  exact List.filterMap_congr fun q _ => answer_peer peer q

theorem entry_peer {client : ServerQueryClient} {q : QueryCall} (waits : q.peer.isSome) (peer : Peer) :
    (entry client q).peer = peer ↔ q.peer = some peer := by
  obtain ⟨its, holds⟩ := Option.isSome_iff_exists.mp waits
  unfold entry
  rw [holds, Option.some.injEq]
  rfl

/-- A slot belongs to one call. -/
theorem eq_of_slot (slots : (calls.filterMap QueryCall.peer).Nodup) {q other : QueryCall}
    (inside : q ∈ calls) (inside' : other ∈ calls) (holds : q.peer = some peer)
    (holds' : other.peer = some peer) : q = other := by
  by_contra differ
  have pairs := List.pairwise_filterMap.mp slots
  have both_ways : Std.Symm fun one two : QueryCall =>
      ∀ p, one.peer = some p → ∀ p', two.peer = some p' → p ≠ p' :=
    ⟨fun one two apart p first p' second => (apart p' second p first).symm⟩
  exact pairs.forall inside inside' differ peer holds peer holds' rfl

namespace Split

/-- The slots of the pending calls are apart from those of the others, and from each other. -/
theorem apart (split : run.Split closed opened) :
    (closed.filterMap QueryCall.peer).Disjoint (opened.filterMap QueryCall.peer)
      ∧ (opened.filterMap QueryCall.peer).Nodup := by
  have nodup := ((split.calls.filterMap QueryCall.peer).nodup_iff).mp split.slots
  rw [List.filterMap_append, List.nodup_append'] at nodup
  exact ⟨nodup.2.2, nodup.2.1⟩

/-- A slot of no pending query is the slot of no pending call. -/
theorem idle (split : run.Split closed opened) {peer : Peer} :
    (∀ q ∈ run.client.pending, q.peer ≠ peer) ↔ ∀ q ∈ opened, q.peer ≠ some peer := by
  rw [split.pending, List.forall_mem_map]
  exact forall₂_congr fun q inside => not_congr (entry_peer (split.waiting q inside).2 peer)

/-- Nobody else has the slot of a pending call. -/
theorem alone {before after : List QueryCall} {q : QueryCall} (split : run.Split closed (before ++ q :: after))
    {peer : Peer} (holds : q.peer = some peer) : (∀ other ∈ closed, other.peer ≠ some peer)
      ∧ (∀ other ∈ before, other.peer ≠ some peer) ∧ ∀ other ∈ after, other.peer ≠ some peer := by
  obtain ⟨disjoint, distinct⟩ := split.apart
  rw [List.filterMap_append, List.filterMap_cons, holds] at disjoint distinct
  have unique := List.nodup_middle.mp distinct
  rw [List.nodup_cons, List.mem_append, not_or] at unique
  refine ⟨fun other held has => ?_, fun other held has => ?_, fun other held has => ?_⟩
  · exact disjoint (mem_slots.mpr ⟨other, held, has⟩) (List.mem_append_right _ List.mem_cons_self)
  · exact unique.1.1 (mem_slots.mpr ⟨other, held, has⟩)
  · exact unique.1.2 (mem_slots.mpr ⟨other, held, has⟩)

end Split

/-! ### Calls -/

theorem balanced_start : Balanced {} :=
  ⟨[], [], .refl _, .refl _, rfl, fun _ none => absurd none List.not_mem_nil,
    fun _ none => absurd none List.not_mem_nil, List.nodup_nil, fun _ => rfl⟩

/-- The pending queries of calls do not change when the clock of the seconds has started. -/
theorem entry_started {client client' : ServerQueryClient} (same : client'.epoch = client.epoch) (q : QueryCall) :
    entry client' q = entry client q := by
  unfold entry ServerQueryClient.getTimeSeconds
  rw [same]

theorem balanced_queryServer (balanced : run.Balanced) (address : Bytes) (port : UInt16) (slot : Option Peer) :
    (run.queryServer address port slot).Balanced := by
  obtain ⟨closed, opened, split⟩ := balanced
  unfold queryServer
  cases given : slot.filter fun peer => !run.inUse peer with
  | none =>
    -- no slot: the result is there at once
    let q : QueryCall := ⟨address, port, run.clock, none, false⟩
    refine ⟨q :: closed, opened, split.calls.cons q, ?_, split.pending, split.waiting, ?_, ?_, split.started⟩
    · show ((run.client.results ++ [_]).map _).Perm _
      rw [List.map_append]
      exact (List.perm_append_singleton _ _).trans (split.results.cons q.outcome)
    · intro other inside holds
      rcases List.mem_cons.mp inside with rfl | inside
      · cases holds
      · exact split.done other inside holds
    · exact split.slots
  | some peer =>
    let q : QueryCall := ⟨address, port, run.clock, some peer, false⟩
    have free : ¬run.inUse peer := by
      have kept := (Option.filter_eq_some_iff.mp given).2
      simpa using kept
    refine ⟨closed, opened ++ [q], ?_, split.results, ?_, ?_, split.done, ?_, ?_⟩
    · rw [← List.append_assoc]
      exact (split.calls.cons q).trans (List.perm_append_singleton q _).symm
    · show run.client.pending ++ [_] = _
      rw [List.map_append, split.pending]
      refine congrArg₂ _ (List.map_congr_left fun other inside => ?_) rfl
      refine (entry_started ?_ other).symm
      cases epoch : run.client.epoch with
      | none => exact absurd inside (split.started epoch ▸ List.not_mem_nil)
      | some first =>
        show some (run.client.epoch.getD run.clock) = some first
        rw [epoch]
        rfl
    · intro other inside
      rcases List.mem_append.mp inside with inside | last
      · exact split.waiting other inside
      · rw [List.mem_singleton.mp last]
        exact ⟨rfl, rfl⟩
    · exact List.nodup_cons.mpr ⟨fun held => free (inUse_iff.mpr (mem_slots.mp held)), split.slots⟩
    · intro none
      cases none

/-! ### Events -/

/-- Nothing pending on the slot: the client stays. -/
theorem eraseP_idle {pending : List PendingQuery} (none : ∀ q ∈ pending, q.peer ≠ peer) :
    (pending.eraseP fun q => q.peer = peer) = pending :=
  List.eraseP_of_forall_not fun q inside => by simpa using none q inside

theorem balanced_disconnect (balanced : run.Balanced)
    (idle : ∀ q ∈ run.client.pending, q.peer ≠ peer) : (run.dispatch (.disconnect peer)).1.Balanced := by
  obtain ⟨closed, opened, split⟩ := balanced
  have kept : opened.map (QueryCall.release [peer]) = opened :=
    map_release fun q inside other freed => by
      rw [List.mem_singleton.mp freed]
      exact split.idle.mp idle q inside
  refine ⟨closed.map (QueryCall.release [peer]), opened, ?_, ?_, ?_, split.waiting, ?_, ?_, split.started⟩
  · show (run.calls.map _).Perm _
    have both := split.calls.map (QueryCall.release [peer])
    rw [List.map_append, kept] at both
    exact both
  · rw [List.map_map]
    refine split.results.trans (List.Perm.of_eq (List.map_congr_left fun q _ => ?_))
    exact (release_outcome [peer] q).symm
  · exact (eraseP_idle idle).trans split.pending
  · intro q inside holds
    obtain ⟨before, held, rfl⟩ := List.mem_map.mp inside
    obtain ⟨other, has⟩ := Option.isSome_iff_exists.mp holds
    rw [release_answered]
    exact split.done before held (Option.isSome_iff_exists.mpr ⟨other, (release_peer has).1⟩)
  · exact (release_slots [peer] run.calls).nodup split.slots

/-- The answer for a pending call: its query is over, with an online result. -/
theorem Split.handleServerInfo {before after : List QueryCall} {q : QueryCall}
    (split : run.Split closed (before ++ q :: after)) (holds : q.peer = some peer) (info : ServerInfoImage)
    (beyond : Bytes) : ∃ result, result.outcome = (q.address, q.port, true)
      ∧ run.client.handleServerInfo run.clock peer info beyond = { run.client with
        results := run.client.results ++ [result]
        pending := (before ++ after).map (entry run.client) } := by
  have its_peer : (entry run.client q).peer = peer :=
    (entry_peer (Option.isSome_iff_exists.mpr ⟨peer, holds⟩) peer).mpr holds
  have skipped : ∀ e ∈ before.map (entry run.client), ¬(decide (e.peer = peer)) = true := by
    intro e held
    obtain ⟨other, earlier, rfl⟩ := List.mem_map.mp held
    rw [decide_eq_true_eq, entry_peer (split.waiting other (List.mem_append_left _ earlier)).2]
    exact (split.alone holds).2.1 other earlier
  have pending := split.pending
  rw [List.map_append, List.map_cons] at pending
  have found : (run.client.pending.find? fun e => e.peer = peer) = some (entry run.client q) := by
    rw [pending, List.find?_append, List.find?_eq_none.mpr skipped, Option.none_or, List.find?_cons_of_pos]
    exact decide_eq_true its_peer
  have rest : (run.client.pending.eraseP fun e => e.peer = peer) = (before ++ after).map (entry run.client) := by
    rw [pending, List.eraseP_append_right _ skipped, List.eraseP_cons_of_pos, List.map_append]
    exact decide_eq_true its_peer
  unfold ServerQueryClient.handleServerInfo
  rw [found, rest]
  exact ⟨_, rfl, rfl⟩

/-- The information of a server arrives on a slot. -/
theorem balanced_answer (balanced : run.Balanced) (info : ServerInfoImage) (beyond : Bytes) :
    Balanced { run with
      client := run.client.handleServerInfo run.clock peer info beyond
      calls := run.calls.map (QueryCall.answer peer) } := by
  obtain ⟨closed, opened, split⟩ := balanced
  have nodup : ((run.calls.map (QueryCall.answer peer)).filterMap QueryCall.peer).Nodup := by
    rw [answer_slots]
    exact split.slots
  have both := split.calls.map (QueryCall.answer peer)
  rw [List.map_append] at both
  by_cases waits : ∃ q ∈ opened, q.peer = some peer
  · obtain ⟨q, inside, holds⟩ := waits
    obtain ⟨before, after, rfl⟩ := List.append_of_mem inside
    obtain ⟨not_closed, not_before, not_after⟩ := split.alone holds
    have answered : q.answer peer = { q with answered := true } := if_pos holds
    rw [List.map_append, List.map_cons, map_answer not_closed, map_answer not_before, map_answer not_after,
      answered] at both
    obtain ⟨result, outcome, handled⟩ := split.handleServerInfo holds info beyond
    rw [handled]
    refine ⟨{ q with answered := true } :: closed, before ++ after, ?_, ?_, rfl, ?_, ?_, nodup, ?_⟩
    · refine both.trans ?_
      rw [← List.append_assoc, List.cons_append, ← List.append_assoc]
      exact List.perm_middle
    · show ((run.client.results ++ [result]).map _).Perm _
      rw [List.map_append, List.map_singleton, outcome]
      exact (List.perm_append_singleton _ _).trans (split.results.cons _)
    · intro other held
      refine split.waiting other ?_
      rcases List.mem_append.mp held with held | held
      · exact List.mem_append_left _ held
      · exact List.mem_append_right _ (List.mem_cons_of_mem _ held)
    · intro other held has
      rcases List.mem_cons.mp held with rfl | held
      · rfl
      · exact split.done other held has
    · intro none
      have empty := split.started none
      exact absurd inside (empty ▸ List.not_mem_nil)
  · push Not at waits
    have idle : run.client.handleServerInfo run.clock peer info beyond = run.client := by
      unfold ServerQueryClient.handleServerInfo
      have missed : (run.client.pending.find? fun e => e.peer = peer) = none :=
        List.find?_eq_none.mpr fun e held => by simpa using split.idle.mpr waits e held
      rw [missed]
    -- whoever has the slot was answered before
    have again : closed.map (QueryCall.answer peer) = closed := by
      refine (List.map_congr_left fun q inside => ?_).trans (List.map_id _)
      unfold QueryCall.answer
      split_ifs with holds
      · have done := split.done q inside (Option.isSome_iff_exists.mpr ⟨peer, holds⟩)
        rw [← done]
        rfl
      · rfl
    rw [again, map_answer waits] at both
    rw [idle]
    exact ⟨closed, opened, both, split.results, split.pending, split.waiting, split.done, nodup, split.started⟩

/-- **An event that disturbs no query** keeps the balance. -/
theorem balanced_service (balanced : run.Balanced) {event : HostEvent} (undisturbed : run.Undisturbed event) :
    (hostMachine.next run event).Balanced := by
  show (run.service event).1.Balanced
  unfold service
  split_ifs with used
  · cases event with
    | connect peer => exact balanced
    | disconnect peer => exact balanced_disconnect balanced undisturbed
    | receive peer data beyond =>
      show Balanced { run with
        client := run.client.handleReceive run.clock peer data beyond
        calls := if (ServerQueryClient.serverInfo data).isSome then run.calls.map (QueryCall.answer peer)
          else run.calls }
      unfold ServerQueryClient.handleReceive
      cases info : ServerQueryClient.serverInfo data with
      | some image => exact balanced_answer balanced image beyond
      | none =>
        cases list : ServerQueryClient.serverList data with
        | none => exact balanced
        | some entries =>
          obtain ⟨rfl, idle⟩ := undisturbed used entries list
          have same : run.client.handleServerList peer [] beyond = run.client := by
            unfold ServerQueryClient.handleServerList
            rw [eraseP_idle idle, List.map_nil, List.append_nil]
          simp only [same]
          exact balanced
  · exact balanced

theorem balanced_serve (balanced : run.Balanced) {events : List HostEvent}
    (undisturbed : hostMachine.Along Undisturbed run events) : (hostMachine.run run events).Balanced :=
  Machine.run_invariant (motive := Balanced) (fun _ _ here before => balanced_service before here) balanced
    undisturbed

/-! ### Timeouts -/

/-- The pending query of the call is over. -/
def expired (run : QueryRun) (q : QueryCall) : Bool := run.client.stale run.clock (entry run.client q)

theorem filter_entry (opened : List QueryCall) (picked : PendingQuery → Bool) :
    (opened.map (entry run.client)).filter picked
      = (opened.filter fun q => picked (entry run.client q)).map (entry run.client) :=
  List.filter_map

theorem Split.resets (split : run.Split closed opened) :
    run.client.resets run.clock = (opened.filter run.expired).map fun q => q.peer.getD 0 := by
  unfold ServerQueryClient.resets
  rw [split.pending, filter_entry, List.map_map]
  rfl

/-- The calls that go on keep their slots. -/
theorem Split.kept (split : run.Split closed opened) :
    (opened.filter fun q => !run.expired q).map (QueryCall.release (run.client.resets run.clock))
      = opened.filter fun q => !run.expired q := by
  refine map_release fun q inside peer freed holds => ?_
  obtain ⟨waits, stays⟩ := List.mem_filter.mp inside
  rw [split.resets, List.mem_map] at freed
  obtain ⟨other, over_, slot⟩ := freed
  obtain ⟨waits', ends⟩ := List.mem_filter.mp over_
  obtain ⟨its, has⟩ := Option.isSome_iff_exists.mp (split.waiting other waits').2
  have same_slot : its = peer := by
    rw [← slot, has]
    rfl
  have same : other = q := eq_of_slot split.apart.2 waits' waits (same_slot ▸ has) holds
  rw [← same, ends] at stays
  cases stays

/-- **A timeout**: the calls that are over get their results. -/
theorem Split.expire (split : run.Split closed opened) :
    run.expire.1.Split
      (closed.map (QueryCall.release (run.client.resets run.clock))
        ++ (opened.filter run.expired).map (QueryCall.release (run.client.resets run.clock)))
      (opened.filter fun q => !run.expired q) where
  calls := by
    have both := split.calls.map (QueryCall.release (run.client.resets run.clock))
    have parts := (List.filter_append_perm run.expired opened).map
      (QueryCall.release (run.client.resets run.clock))
    rw [List.map_append, split.kept] at parts
    rw [List.map_append] at both
    rw [List.append_assoc]
    exact both.trans (parts.symm.append_left _)
  results := by
    have late : ((run.client.pending.filter (run.client.stale run.clock)).map fun q =>
          ServerQueryClient.offline q.address q.port).map ServerQueryResult.outcome
        = (opened.filter run.expired).map QueryCall.outcome := by
      rw [split.pending, filter_entry, List.map_map, List.map_map]
      refine List.map_congr_left fun q inside => ?_
      have waits := (split.waiting q (List.mem_filter.mp inside).1).1
      show (q.address, q.port, false) = (q.address, q.port, q.answered)
      rw [waits]
    show ((run.client.results ++ _).map ServerQueryResult.outcome).Perm _
    rw [List.map_append, late, List.map_append, List.map_map, List.map_map]
    refine List.Perm.append ?_ (List.Perm.of_eq (List.map_congr_left fun q _ => (release_outcome _ q).symm))
    exact split.results.trans (List.Perm.of_eq (List.map_congr_left fun q _ => (release_outcome _ q).symm))
  pending := by
    show run.client.pending.filter (fun q => !run.client.stale run.clock q) = _
    rw [split.pending, filter_entry]
    exact List.map_congr_left fun q _ => (entry_started rfl q).symm
  waiting q inside := split.waiting q (List.mem_filter.mp inside).1
  done q inside holds := by
    obtain ⟨peer, has⟩ := Option.isSome_iff_exists.mp holds
    rcases List.mem_append.mp inside with inside | inside
    · obtain ⟨before, held, rfl⟩ := List.mem_map.mp inside
      rw [release_answered]
      exact split.done before held (Option.isSome_iff_exists.mpr ⟨peer, (release_peer has).1⟩)
    · obtain ⟨before, held, rfl⟩ := List.mem_map.mp inside
      obtain ⟨had, stays⟩ := release_peer has
      refine absurd ?_ stays
      rw [split.resets, List.mem_map]
      exact ⟨before, held, by rw [had]; rfl⟩
  slots := (release_slots _ run.calls).nodup split.slots
  started none := by
    rw [split.started none]
    rfl

/-! ### Updates -/

/-- The pending calls are young: every call that is due has its result. -/
theorem Split.answeredOnce (split : run.Split closed opened) (young : ∀ q ∈ opened, run.Due q = false) :
    run.AnsweredOnce := by
  have due : (run.calls.filter run.Due).Perm (closed.filter run.Due) := by
    have parts := split.calls.filter run.Due
    have nobody : opened.filter run.Due = [] :=
      List.filter_eq_nil_iff.mpr fun q inside => by simp [young q inside]
    rw [List.filter_append, nobody, List.append_nil] at parts
    exact parts
  refine ⟨closed.filter fun q => !run.Due q, ?_, ?_⟩
  · have parts := split.calls.filter fun q => !run.Due q
    rw [List.filter_append] at parts
    exact (List.sublist_append_left _ _).subperm.trans parts.symm.subperm
  · refine split.results.trans (List.Perm.map _ ?_)
    exact (List.filter_append_perm run.Due closed).symm.trans (due.symm.append_right _)

/-- The calls that go on after a timeout are young. -/
theorem young_of_punctual (split : run.Split closed opened) (punctual : run.Punctual) :
    ∀ q ∈ opened.filter (fun q => !run.expired q), run.expire.1.Due q = false := by
  intro q inside
  obtain ⟨waits, stays⟩ := List.mem_filter.mp inside
  by_contra due
  have called : q ∈ run.calls := split.calls.mem_iff.mpr (List.mem_append_right _ waits)
  have late := punctual q called (split.waiting q waits).1 (split.waiting q waits).2 (Bool.not_eq_false _ ▸ due)
  have ends : run.expired q = true := by
    unfold expired ServerQueryClient.stale entry
    dsimp only
    exact late
  rw [ends] at stays
  cases stays

/-- **An update** that asks the host undisturbed leaves the calls answered once. -/
theorem answers_of_considerate (balanced : run.Balanced) {event : QueryEvent}
    (considerate : run.Considerate event) :
    (queryMachine.next run event).Balanced ∧ run.Answers event := by
  cases event with
  | queryServer address port slot => exact ⟨balanced_queryServer balanced address port slot, trivial⟩
  | tick nanoseconds =>
    obtain ⟨closed, opened, split⟩ := balanced
    exact ⟨⟨closed, opened, split.calls, split.results, split.pending, split.waiting, split.done, split.slots,
      split.started⟩, trivial⟩
  | update events =>
    show (run.update events).1.Balanced ∧ (run.update events).1.AnsweredOnce
    unfold update
    by_cases none : run.client.pending = []
    · obtain ⟨closed, opened, split⟩ := balanced
      have empty : opened = [] := List.map_eq_nil_iff.mp (split.pending.symm.trans none)
      subst empty
      rw [if_pos (List.isEmpty_iff.mpr none)]
      have still : Split { run with client := { run.client with active := false } } closed [] :=
        ⟨split.calls, split.results, split.pending, split.waiting, split.done, split.slots, fun _ => rfl⟩
      exact ⟨⟨closed, [], still⟩, still.answeredOnce fun _ nobody => absurd nobody List.not_mem_nil⟩
    · rcases considerate with absent | ⟨undisturbed, punctual⟩
      · exact absurd absent none
      · rw [if_neg (mt List.isEmpty_iff.mp none)]
        obtain ⟨closed, opened, split⟩ := balanced_serve balanced undisturbed
        exact ⟨⟨_, _, split.expire⟩, split.expire.answeredOnce (young_of_punctual split punctual)⟩

/-- **Along considerate steps** every update leaves every call with its one result. -/
theorem queries_answered {events : List QueryEvent} (considerate : queryMachine.Along Considerate {} events) :
    queryMachine.Along Answers {} events :=
  (considerate.strengthen (motive := Balanced) (fun _ _ here before => (answers_of_considerate before here).1)
    balanced_start).mono fun _ _ both => (answers_of_considerate both.1 both.2).2

/-! ### A server that is down -/

instance decidableUndisturbed (run : QueryRun) : ∀ event, Decidable (run.Undisturbed event)
  | .connect _ => .isTrue trivial
  | .receive peer data _ => inferInstanceAs (Decidable (run.inUse peer → ∀ entries ∈
    ServerQueryClient.serverList data, entries = [] ∧ ∀ q ∈ run.client.pending, q.peer ≠ peer))
  | .disconnect peer => inferInstanceAs (Decidable (∀ q ∈ run.client.pending, q.peer ≠ peer))

instance decidablePunctual (run : QueryRun) : Decidable run.Punctual :=
  inferInstanceAs (Decidable (∀ q ∈ run.calls, q.answered = false → q.peer.isSome → run.Due q →
    (lit 3 1).lt ((run.client.getTimeSeconds run.clock).sub (run.client.getTimeSeconds q.start)) = true))

instance decidableConsiderate (run : QueryRun) : ∀ event, Decidable (run.Considerate event)
  | .update events => inferInstanceAs (Decidable (run.client.pending = [] ∨
    hostMachine.Along Undisturbed run events ∧ (hostMachine.run run events).Punctual))
  | .queryServer _ _ _ | .tick _ => .isTrue trivial

/-- The answer of a server. -/
def infoPacket : Bytes :=
  PacketHeader.codec.encode ⟨S2C_ServerInfo, 0, 0, 0⟩ ++ ServerInfoImage.codec.encode
    ⟨KMP_PROTOCOL_VERSION, 2, 16, 27800, lit 1 2, 1, Client.charArray 3 [], Client.charArray 64 (ascii "Hub")⟩

/-- Two servers are asked; one answers, the other one is silent. -/
def browsing : List QueryEvent :=
  [.queryServer (ascii "10.0.0.1") 27800 (some 0), .queryServer (ascii "10.0.0.2") 27800 (some 1),
    .tick (10 ^ 9), .update [.connect 0, .receive 0 infoPacket []], .tick (5 * 10 ^ 9), .update []]

theorem queries_answered_browsing : queryMachine.Along Answers {} browsing :=
  queries_answered (by decide +kernel)

/-- **A server that is down**: the network host ends its connection after two seconds, and there is no result. -/
theorem queries_answered_fails : ¬∀ events, queryMachine.Along Answers {} events := by
  intro always
  let down : List QueryEvent :=
    [.queryServer (ascii "10.0.0.1") 27800 (some 0), .tick (2 * 10 ^ 9), .update [.disconnect 0],
      .tick (2 * 10 ^ 9)]
  have last : (queryMachine.run {} down).Answers (.update []) :=
    (Machine.along_append.mp (always (down ++ [.update []]))).2.1
  obtain ⟨early, -, results⟩ := last
  have missing : (queryMachine.next (queryMachine.run {} down) (.update [])).client.results = [] := by
    decide +kernel
  have asked : ((queryMachine.next (queryMachine.run {} down) (.update [])).calls.filter
      (queryMachine.next (queryMachine.run {} down) (.update [])).Due).length = 1 := by decide +kernel
  have count := results.length_eq
  rw [missing, List.map_nil, List.length_nil, List.length_map, List.length_append, asked] at count
  omega

end QueryRun

end KenshiMP
