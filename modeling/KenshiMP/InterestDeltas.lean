/-
**Interest deltas: whoever adds what enters and removes what leaves has the interest set.**

The registry changes in any way between the calls of the resolver. `Told` says what a cached set and the
results since a player was cleared have to do with each other, and `told_run` keeps it over a run:

* `ViewChange.Follows`: each result has the differences since the one before it;
* `InterestResult.Exact`: its list is that of the entities in the nine zones, at the time of the call.
-/

import KenshiMP.Client.EntityResolver

namespace KenshiMP

open Assoc

/-! ### The machine -/

/-- What a call is made with, and what it returns. -/
structure InterestResult where
  registry : EntityRegistry
  zone : ZoneCoord
  set : InterestSet

namespace EntityResolver

inductive Event where
  | registry (op : RegistryOp)
  | computeInterest (playerId : PlayerID) (playerZone : ZoneCoord)
  | clearInterest (playerId : PlayerID)

/-- The machine of the resolver and its registry; its outputs are the results. -/
def machine : Machine EntityResolver Event InterestSet where
  step resolver event :=
    match event with
    | .registry op => ({ resolver with registry := op.apply resolver.registry }, [])
    | .computeInterest playerId playerZone =>
      ((resolver.computeInterest playerId playerZone).1,
        [(resolver.computeInterest playerId playerZone).2])
    | .clearInterest playerId => (resolver.clearInterest playerId, [])

/-- The event is a call for another player. -/
def Event.others (player : PlayerID) : Event → Bool
  | .registry _ => false
  | .computeInterest playerId _ => playerId ≠ player
  | .clearInterest playerId => playerId ≠ player

/-- The zones of the calls are not at the ends of the integers. -/
def Event.InRange : Event → Prop
  | .computeInterest _ zone =>
    Int32.minValue < zone.x ∧ zone.x < Int32.maxValue
      ∧ Int32.minValue < zone.y ∧ zone.y < Int32.maxValue
  | _ => True

/-- The results for a player since the player was cleared last. -/
def resultsSince (player : PlayerID) : List InterestResult → EntityResolver → List Event → List InterestResult
  | results, _, [] => results
  | results, resolver, event :: rest =>
    let now :=
      match event with
      | .registry _ => results
      | .computeInterest playerId playerZone =>
        if playerId = player then
          results ++ [⟨resolver.registry, playerZone, (resolver.computeInterest playerId playerZone).2⟩]
        else results
      | .clearInterest playerId => if playerId = player then [] else results
    resultsSince player now (machine.next resolver event) rest

end EntityResolver

/-! ### What the results should be -/

/-- Of two zones, both numbers differ by one at most. -/
def ZoneCoord.Around (center zone : ZoneCoord) : Prop :=
  |zone.x.toInt - center.x.toInt| ≤ 1 ∧ |zone.y.toInt - center.y.toInt| ≤ 1

def InterestSet.change (set : InterestSet) : ViewChange EntityID :=
  ⟨set.entities, set.enteringView, set.leavingView⟩

/-- The list has the registered entities around the zone, each of them once. -/
structure InterestResult.Exact (result : InterestResult) : Prop where
  once : result.set.entities.Nodup
  around : ∀ id, id ∈ result.set.entities
    ↔ ∃ info, result.registry.getInfo id = some info ∧ result.zone.Around info.zone

/-- The results for a player since the last time that the player was cleared. -/
structure Replays (results : List InterestResult) : Prop where
  replays : ViewChange.replay ∅ (results.map fun result => result.set.change)
    = ((results.getLast?.map fun result => result.set.entities).getD []).toFinset
  exact : ∀ result ∈ results, result.Exact
  once : ∀ result ∈ results, result.set.enteringView.Nodup ∧ result.set.leavingView.Nodup
  disjoint : ∀ result ∈ results, result.set.enteringView.Disjoint result.set.leavingView
  leaves : ∀ (earlier between later : List InterestResult)
    (first second : InterestResult) (id : EntityID),
    results = earlier ++ first :: (between ++ second :: later) →
    id ∈ first.set.enteringView → id ∈ second.set.enteringView →
    ∃ result ∈ between, id ∈ result.set.leavingView

/-! ### The zones -/

theorem beside_iff {n m : Int32} (low : Int32.minValue < n) (high : n < Int32.maxValue) :
    (m = n - 1 ∨ m = n ∨ m = n + 1) ↔ |m.toInt - n.toInt| ≤ 1 := by
  have lower := Int32.lt_iff_toInt_lt.mp low
  have upper := Int32.lt_iff_toInt_lt.mp high
  have least : Int32.minValue.toInt = -2147483648 := by decide
  have greatest : Int32.maxValue.toInt = 2147483647 := by decide
  rw [least] at lower
  rw [greatest] at upper
  have before : (n - 1).toInt = n.toInt - 1 := by
    rw [Int32.toInt_sub, show (1 : Int32).toInt = 1 from by decide]
    exact Int.bmod_eq_of_le (by omega) (by omega)
  have after : (n + 1).toInt = n.toInt + 1 := by
    rw [Int32.toInt_add, show (1 : Int32).toInt = 1 from by decide]
    exact Int.bmod_eq_of_le (by omega) (by omega)
  rw [← Int32.toInt_inj, ← Int32.toInt_inj, ← Int32.toInt_inj, before, after, abs_le]
  omega

/-- Away from the ends of the integers, the nine zones are those around the zone. -/
theorem mem_neighborhood_iff {center zone : ZoneCoord}
    (inRange : Int32.minValue < center.x ∧ center.x < Int32.maxValue
      ∧ Int32.minValue < center.y ∧ center.y < Int32.maxValue) :
    zone ∈ EntityRegistry.neighborhood center ↔ center.Around zone := by
  obtain ⟨left, right, bottom, top⟩ := inRange
  rw [EntityRegistry.mem_neighborhood, beside_iff left right, beside_iff bottom top]
  rfl

namespace EntityResolver

variable {resolver : EntityResolver} {player : PlayerID}

theorem interestOf_entities (playerId : PlayerID) (zone : ZoneCoord) :
    (resolver.interestOf playerId zone).entities = resolver.registry.inZoneNeighborhood zone
      ∧ (resolver.interestOf playerId zone).playerZone = zone
      ∧ (resolver.interestOf playerId zone).playerId = playerId := by
  unfold interestOf
  cases resolver.interestCache.lookup playerId with
  | none => exact ⟨rfl, rfl, rfl⟩
  | some oldSet => exact ⟨rfl, rfl, rfl⟩

theorem interestOf_exact (playerId : PlayerID) {zone : ZoneCoord}
    (inRange : (Event.computeInterest playerId zone).InRange) :
    InterestResult.Exact ⟨resolver.registry, zone, resolver.interestOf playerId zone⟩ := by
  obtain ⟨entities, -⟩ := @interestOf_entities resolver playerId zone
  refine ⟨?_, fun id => ?_⟩
  · rw [entities]
    exact EntityRegistry.nodup_inZoneNeighborhood zone
  · rw [entities, EntityRegistry.mem_inZoneNeighborhood]
    simp only [mem_neighborhood_iff inRange]

/-- The entities of the set that is kept for a player. -/
def kept (resolver : EntityResolver) (player : PlayerID) : List EntityID :=
  ((resolver.interestCache.lookup player).map InterestSet.entities).getD []

/-- A result has the differences since the set that was kept. -/
theorem interestOf_change (zone : ZoneCoord) :
    (resolver.interestOf player zone).change
      = ViewChange.since (resolver.kept player) (resolver.interestOf player zone).entities := by
  unfold kept interestOf
  cases resolver.interestCache.lookup player with
  | none => simp [InterestSet.change, ViewChange.since]
  | some oldSet => rfl

/-! ### A run -/

/-- What is kept for a player, and the results since the player was cleared. -/
structure Told (player : PlayerID) (resolver : EntityResolver) (results : List InterestResult) : Prop where
  follows : ViewChange.Follows [] (results.map fun result => result.set.change)
  last : ViewChange.lastView [] (results.map fun result => result.set.change) = resolver.kept player
  exact : ∀ result ∈ results, result.Exact

theorem kept_computeInterest (playerId : PlayerID) (zone : ZoneCoord) :
    (resolver.computeInterest playerId zone).1.kept player
      = if player = playerId then (resolver.interestOf playerId zone).entities
        else resolver.kept player := by
  unfold kept computeInterest
  dsimp only
  rw [AMap.lookup_insert_eq]
  split_ifs
  · rfl
  · rfl

theorem kept_clearInterest (playerId : PlayerID) :
    (resolver.clearInterest playerId).kept player
      = if player = playerId then [] else resolver.kept player := by
  unfold kept clearInterest
  dsimp only
  rw [AMap.lookup_erase_eq]
  split_ifs
  · rfl
  · rfl

variable {results : List InterestResult} {other : EntityResolver}

section Told

variable (told : Told player resolver results)

include told

theorem Told.compute {zone : ZoneCoord} (inRange : (Event.computeInterest player zone).InRange) :
    Told player (resolver.computeInterest player zone).1
      (results ++ [⟨resolver.registry, zone, (resolver.computeInterest player zone).2⟩]) where
  follows := by
    rw [List.map_append, List.map_singleton, ViewChange.follows_append, told.last]
    exact ⟨told.follows, interestOf_change zone⟩
  last := by
    rw [List.map_append, List.map_singleton, ViewChange.lastView_append, kept_computeInterest,
      if_pos rfl]
    rfl
  exact result inside := by
    rcases List.mem_append.mp inside with before | now
    · exact told.exact result before
    · rw [List.mem_singleton.mp now]
      exact interestOf_exact player inRange

theorem told_run (events : List Event) (inRange : ∀ event ∈ events, event.InRange) :
    Told player (machine.run resolver events) (resultsSince player results resolver events) := by
  induction events generalizing resolver results with
  | nil => exact told
  | cons event rest ih =>
    have later := fun other inside => inRange other (List.mem_cons_of_mem _ inside)
    cases event with
    | registry op => exact ih ⟨told.follows, told.last, told.exact⟩ later
    | computeInterest playerId zone =>
      by_cases same : playerId = player
      · subst same
        have now := told.compute (inRange _ List.mem_cons_self)
        unfold resultsSince
        simp only [if_true]
        exact ih now later
      · have last := @kept_computeInterest resolver player playerId zone
        rw [if_neg (Ne.symm same)] at last
        unfold resultsSince
        simp only [same, if_false]
        exact ih ⟨told.follows, told.last.trans last.symm, told.exact⟩ later
    | clearInterest playerId =>
      have last := @kept_clearInterest resolver player playerId
      unfold resultsSince
      by_cases same : playerId = player
      · rw [if_pos same.symm] at last
        simp only [same, if_true]
        subst same
        exact ih ⟨trivial, last.symm, fun result inside => absurd inside List.not_mem_nil⟩ later
      · rw [if_neg (Ne.symm same)] at last
        simp only [same, if_false]
        exact ih ⟨told.follows, told.last.trans last.symm, told.exact⟩ later

/-- **Whoever replays the differences has the last set.** -/
theorem Told.replays : Replays results := by
  have since {result : InterestResult} (inside : result ∈ results) :
      ∃ before : List EntityID, before.Nodup
        ∧ result.set.change = ViewChange.since before result.set.entities := by
    obtain ⟨before, same, origin⟩ := told.follows.mem (List.mem_map.mpr ⟨result, inside, rfl⟩)
    refine ⟨before, ?_, same⟩
    rcases origin with rfl | ⟨change, there, rfl⟩
    · exact List.nodup_nil
    · obtain ⟨other, earlier, rfl⟩ := List.mem_map.mp there
      exact (told.exact other earlier).once
  refine ⟨?_, told.exact, fun result inside => ?_, fun result inside => ?_, ?_⟩
  · have heard := ViewChange.replay_eq told.follows
    rw [ViewChange.lastView_eq, List.getLast?_map, Option.map_map] at heard
    exact heard
  · obtain ⟨before, distinct, same⟩ := since inside
    have both := ViewChange.nodup_since distinct (told.exact result inside).once
    rw [← same] at both
    exact both
  · obtain ⟨before, -, same⟩ := since inside
    have apart := @ViewChange.disjoint_since _ _ before result.set.entities
    rw [← same] at apart
    exact apart
  · intro earlier between later first second id parts entered enters
    have changes := congrArg (List.map fun result => result.set.change) parts
    rw [List.map_append, List.map_cons, List.map_append, List.map_cons] at changes
    obtain ⟨change, inside, leaves⟩ := ViewChange.leaves_between told.follows changes entered enters
    obtain ⟨result, there, rfl⟩ := List.mem_map.mp inside
    exact ⟨result, there, leaves⟩

end Told

/-! ### One player and the others -/

/-- Two resolvers agree on a player. -/
structure SameFor (player : PlayerID) (one two : EntityResolver) : Prop where
  registry : one.registry = two.registry
  cached : one.interestCache.lookup player = two.interestCache.lookup player

section Same

variable (same : SameFor player resolver other)

include same

theorem SameFor.interestOf
    (zone : ZoneCoord) : resolver.interestOf player zone = other.interestOf player zone := by
  unfold EntityResolver.interestOf
  rw [same.registry, same.cached]

/-- A call for another player changes nothing for this one. -/
theorem SameFor.others {event : Event}
    (foreign : event.others player = true) : SameFor player (machine.next resolver event) other := by
  cases event with
  | registry op => cases foreign
  | computeInterest playerId zone =>
    have differ : player ≠ playerId := Ne.symm (of_decide_eq_true foreign)
    refine ⟨same.registry, Eq.trans ?_ same.cached⟩
    show AList.lookup player (AList.insert playerId _ resolver.interestCache) = _
    rw [AMap.lookup_insert_eq, if_neg differ]
  | clearInterest playerId =>
    have differ : player ≠ playerId := Ne.symm (of_decide_eq_true foreign)
    refine ⟨same.registry, Eq.trans ?_ same.cached⟩
    show AList.lookup player (AList.erase playerId resolver.interestCache) = _
    rw [AMap.lookup_erase_eq, if_neg differ]

theorem SameFor.own {event : Event} (own : event.others player = false) :
    SameFor player (machine.next resolver event) (machine.next other event)
      ∧ machine.emit resolver event = machine.emit other event := by
  cases event with
  | registry op =>
    exact ⟨⟨congrArg op.apply same.registry, same.cached⟩, rfl⟩
  | computeInterest playerId zone =>
    have mine : playerId = player := of_not_not (of_decide_eq_false own)
    subst mine
    have result := same.interestOf zone
    refine ⟨⟨same.registry, ?_⟩, congrArg (fun set => [set]) result⟩
    show AList.lookup playerId (AList.insert playerId _ _) = AList.lookup playerId (AList.insert playerId _ _)
    rw [AMap.lookup_insert_eq, AMap.lookup_insert_eq, if_pos rfl, if_pos rfl, result]
  | clearInterest playerId =>
    have mine : playerId = player := of_not_not (of_decide_eq_false own)
    subst mine
    refine ⟨⟨same.registry, ?_⟩, rfl⟩
    show AList.lookup playerId (AList.erase playerId _) = AList.lookup playerId (AList.erase playerId _)
    rw [AMap.lookup_erase_eq, AMap.lookup_erase_eq, if_pos rfl, if_pos rfl]

end Same

/-- The results of a call are for the player of the call. -/
theorem emit_playerId (event : Event) (result : InterestSet)
    (emitted : result ∈ machine.emit resolver event) :
    event.others player = decide (result.playerId ≠ player) := by
  cases event with
  | registry op => cases emitted
  | computeInterest playerId zone =>
    rw [List.mem_singleton.mp emitted]
    rw [show ((resolver.computeInterest playerId zone).2).playerId = playerId from
      (interestOf_entities playerId zone).2.2]
    rfl
  | clearInterest playerId => cases emitted

/-- **The results for a player are those of the run without the calls for others.** -/
theorem outputs_own (same : SameFor player resolver other) (events : List Event) :
    (machine.outputs resolver events).filter (fun result => result.playerId = player)
      = machine.outputs other (events.filter fun event => !event.others player) := by
  induction events generalizing resolver other with
  | nil => rfl
  | cons event rest ih =>
    show (machine.emit resolver event ++ machine.outputs (machine.next resolver event) rest).filter _ = _
    rw [List.filter_append]
    cases foreign : event.others player with
    | true =>
      have silent : (machine.emit resolver event).filter (fun result => result.playerId = player) = [] := by
        refine List.filter_eq_nil_iff.mpr fun result emitted => ?_
        have differ := @emit_playerId resolver player event result emitted
        rw [foreign] at differ
        simpa using differ.symm
      rw [silent, List.nil_append, ih (same.others foreign), List.filter_cons_of_neg (by simp [foreign])]
    | false =>
      obtain ⟨next, emitted⟩ := same.own foreign
      have all : (machine.emit resolver event).filter (fun result => result.playerId = player)
          = machine.emit resolver event := by
        refine List.filter_eq_self.mpr fun result there => ?_
        have mine := @emit_playerId resolver player event result there
        rw [foreign] at mine
        simpa using mine.symm
      rw [all, ih next, emitted, List.filter_cons_of_pos (by simp [foreign])]
      rfl

/-- **Interest deltas replay to the interest set**, for each player in any run of the resolver, and the
calls for others do not matter. -/
theorem interest_replays (registry : EntityRegistry) (events : List Event)
    (inRange : ∀ event ∈ events, event.InRange) (player : PlayerID) :
    Replays (resultsSince player [] ⟨registry, ∅⟩ events)
      ∧ (machine.outputs ⟨registry, ∅⟩ events).filter (fun result => result.playerId = player)
        = machine.outputs ⟨registry, ∅⟩ (events.filter fun event => !event.others player) := by
  have start : Told player ⟨registry, ∅⟩ [] :=
    ⟨trivial, rfl, fun result inside => absurd inside List.not_mem_nil⟩
  exact ⟨(told_run start events inRange).replays, outputs_own ⟨rfl, rfl⟩ events⟩

/-- An entity walks away between two calls for a player, while another player is asked for. -/
def walk : List Event :=
  [.registry (.registerRemote 7 0 2 {}), .computeInterest 1 ⟨1, -1⟩, .computeInterest 2 ⟨5, 5⟩,
    .registry (.updatePosition 7 { x := lit 5000 1 }), .computeInterest 1 ⟨1, -1⟩]

theorem interest_replays_walk :
    ((machine.outputs ⟨{}, ∅⟩ walk).filter fun result => result.playerId = 1).map
        (fun result => (result.enteringView, result.leavingView)) = [([7], []), ([], [7])]
      ∧ Replays (resultsSince 1 [] ⟨{}, ∅⟩ walk)
      ∧ (machine.outputs ⟨{}, ∅⟩ walk).filter (fun result => result.playerId = 1)
        = machine.outputs ⟨{}, ∅⟩ (walk.filter fun event => !event.others 1) := by
  have inRange : ∀ event ∈ walk, event.InRange := by
    simp only [walk, List.forall_mem_cons, Event.InRange]
    exact ⟨trivial, by decide, by decide, trivial, by decide, fun event inside => by cases inside⟩
  exact ⟨by decide +kernel, interest_replays {} walk inRange 1⟩

end EntityResolver

end KenshiMP
