/-
**Whether the search for a call path finds a shortest one within its bound.**

The search tests the target when a vertex is taken from the queue, and the bound only when the next
vertex is: a path is returned from a vertex that is as far away as the bound allows. A source that is
its own target is never returned alone.

* `Searching`: between two vertices, what is queued are paths of two lengths, what is visited has been
  reached without the target, and the bound has not stopped the search;
* `pathLoop_outcome`: how the search ends;
* `findCallPath_iff`: the path is a shortest one within the bound exactly if the source is not the target,
  and the target is not one call farther than the bound. The two largest bounds are different: with the
  largest one the search never starts, and with the one below it never stops.
-/

import KenshiMP.Scanner.CallGraphFacts

namespace KenshiMP

open Assoc
open BreadthFirst

namespace CallGraphAnalyzer

/-- A path of this length has the next vertex too far away. -/
abbrev Stops (maxDepth : Int32) (k : ℕ) : Prop := maxDepth + 1 < Int32.ofNat (k + 1)

/-! ### How a search ends -/

section Search

variable (graph : CallGraphAnalyzer) (source target : Uintptr) (maxDepth : Int32)

/-- Between two vertices: the front holds paths of `k` calls, and the back paths of one more. -/
structure Searching (k : ℕ) (front back : List (List Uintptr)) (visited : List Uintptr) : Prop where
  layers : Layers graph.getCallees source k (front.map (·.getLastD 0)) (back.map (·.getLastD 0)) visited
  front_trail : ∀ path ∈ front,
    Trail graph.getCallees source (path.getLastD 0) path ∧ path.length = k + 1
  back_trail : ∀ path ∈ back,
    Trail graph.getCallees source (path.getLastD 0) path ∧ path.length = k + 2
  unfound : target ∉ visited
  before : ∀ j < k, ¬ Stops maxDepth j
  here : back ≠ [] → ¬ Stops maxDepth k

/-- How a search ends. -/
inductive Outcome : List Uintptr → Prop
  | found {k : ℕ} {path : List Uintptr} : Trail graph.getCallees source target path →
      path.length = k + 2 → AtDistance graph.getCallees source (k + 1) target →
      (∀ j ≤ k, ¬ Stops maxDepth j) → Outcome path
  | stopped {k : ℕ} : Stops maxDepth k → (∀ j < k, ¬ Stops maxDepth j) →
      ¬ Within graph.getCallees source k target → Outcome []
  | exhausted : (∀ j, ¬ Walk graph.getCallees source target j) → Outcome []

end Search

variable {graph : CallGraphAnalyzer} {source target : Uintptr} {maxDepth : Int32}
variable {k : ℕ} {front back : List (List Uintptr)} {visited path : List Uintptr}

/-- At the start. -/
theorem searching_start (apart : source ≠ target) :
    Searching graph source target maxDepth 0 [[source]] [] [source] := by
  refine ⟨Layers.init _ _, fun path inside => ?_, fun path inside => absurd inside List.not_mem_nil, ?_,
    fun j less => absurd less (Nat.not_lt_zero j), fun some => absurd rfl some⟩
  · rw [List.mem_singleton.mp inside]
    exact ⟨.refl, rfl⟩
  · rw [List.mem_singleton]
    exact Ne.symm apart

/-- The front is used up. -/
theorem Searching.turn (searching : Searching graph source target maxDepth k [] back visited)
    (some : back ≠ []) : Searching graph source target maxDepth (k + 1) back [] visited := by
  refine ⟨searching.layers.turn, searching.back_trail, fun path inside => absurd inside List.not_mem_nil,
    searching.unfound, fun j less => ?_, fun some => absurd rfl some⟩
  rcases Nat.lt_succ_iff_lt_or_eq.mp less with earlier | rfl
  · exact searching.before j earlier
  · exact searching.here some

section Searching

variable (searching : Searching graph source target maxDepth k (path :: front) back visited)

include searching

/-- A vertex whose callees are not the target. -/
theorem Searching.expand (near : ¬ Stops maxDepth k) (missed : target ∉ graph.getCallees (path.getLastD 0)) :
    Searching graph source target maxDepth k front
      (back ++ (fresh (graph.getCallees (path.getLastD 0)) visited).map fun callee => path ++ [callee])
      ((fresh (graph.getCallees (path.getLastD 0)) visited).reverse ++ visited) := by
  obtain ⟨trail, length⟩ := searching.front_trail path List.mem_cons_self
  refine ⟨?_, fun other inside => searching.front_trail other (List.mem_cons_of_mem _ inside),
    fun other inside => ?_, fun inside => ?_, searching.before, fun _ => near⟩
  · have lasts : (back ++ (fresh (graph.getCallees (path.getLastD 0)) visited).map fun callee =>
        path ++ [callee]).map (·.getLastD 0)
          = back.map (·.getLastD 0) ++ fresh (graph.getCallees (path.getLastD 0)) visited := by
      rw [List.map_append, List.map_map]
      congr 1
      refine (List.map_congr_left fun callee _ => ?_).trans (List.map_id _)
      simp
    rw [lasts]
    refine searching.layers.expand (fun w => mem_fresh) fun w => ?_
    rw [List.mem_append, List.mem_reverse]
    exact or_comm
  · rcases List.mem_append.mp inside with old | new
    · exact searching.back_trail other old
    · obtain ⟨callee, member, rfl⟩ := List.mem_map.mp new
      have last : (path ++ [callee]).getLastD 0 = callee := by simp
      rw [last, List.length_append, List.length_singleton, length]
      exact ⟨.step trail (mem_fresh.mp member).1, rfl⟩
  · rcases List.mem_append.mp inside with new | old
    · exact missed (mem_fresh.mp (List.mem_reverse.mp new)).1
    · exact searching.unfound old

/-- A vertex that calls the target. -/
theorem Searching.found (near : ¬ Stops maxDepth k) (hit : target ∈ graph.getCallees (path.getLastD 0)) :
    Outcome graph source target maxDepth (path ++ [target]) := by
  obtain ⟨trail, length⟩ := searching.front_trail path List.mem_cons_self
  refine .found (.step trail hit) (by rw [List.length_append, length]; rfl) ?_ fun j least => ?_
  · have distance := searching.layers.front_at (path.getLastD 0) List.mem_cons_self
    refine atDistance_succ.mpr ⟨distance.within.next hit, fun within => searching.unfound ?_⟩
    exact (searching.layers.visited_iff target).mpr (.inl within)
  · rcases Nat.lt_or_eq_of_le least with earlier | rfl
    · exact searching.before j earlier
    · exact near

theorem Searching.stopped (far : Stops maxDepth k) : Outcome graph source target maxDepth [] :=
  .stopped far searching.before fun within =>
    searching.unfound ((searching.layers.visited_iff target).mpr (.inl within))

end Searching

theorem Searching.exhausted (searching : Searching graph source target maxDepth k [] [] visited) :
    Outcome graph source target maxDepth [] :=
  .exhausted fun j walk => searching.unfound (searching.layers.exhausted.mpr ⟨j, walk⟩)

/-- **How the search ends.** -/
theorem pathLoop_outcome {fuel : ℕ}
    (searching : Searching graph source target maxDepth k front back visited)
    (enough : graph.Enough fuel (front ++ back).length visited) :
    Outcome graph source target maxDepth (graph.pathLoop target maxDepth fuel visited (front ++ back)) := by
  -- with a front, the first path of the queue is its first one
  have step {fuel : ℕ} (ih : ∀ {k : ℕ} {front back : List (List Uintptr)} {visited : List Uintptr},
      Searching graph source target maxDepth k front back visited →
      graph.Enough fuel (front ++ back).length visited →
      Outcome graph source target maxDepth
        (graph.pathLoop target maxDepth fuel visited (front ++ back)))
      {k : ℕ} {path : List Uintptr} {front back : List (List Uintptr)} {visited : List Uintptr}
      (searching : Searching graph source target maxDepth k (path :: front) back visited)
      (enough : graph.Enough (fuel + 1) (path :: front ++ back).length visited) :
      Outcome graph source target maxDepth
        (graph.pathLoop target maxDepth (fuel + 1) visited (path :: front ++ back)) := by
    have length := (searching.front_trail path List.mem_cons_self).2
    rw [List.cons_append, pathLoop_cons, length]
    split_ifs with far hit
    · exact searching.stopped far
    · exact searching.found far hit
    · rw [List.append_assoc]
      refine ih (searching.expand far hit) ?_
      rw [← List.append_assoc, List.length_append, List.length_map]
      exact enough.turn fun w inside => mem_listed (List.mem_append_left _ inside)
  induction fuel generalizing k front back visited with
  | zero =>
    have nothing : front ++ back = [] := by
      refine List.length_eq_zero_iff.mp ?_
      unfold Enough at enough
      omega
    obtain ⟨rfl, rfl⟩ := List.append_eq_nil_iff.mp nothing
    exact searching.exhausted
  | succ fuel ih =>
    cases front with
    | cons path front => exact step ih searching enough
    | nil =>
      cases back with
      | nil => exact searching.exhausted
      | cons path back =>
        have turned := searching.turn (List.cons_ne_nil path back)
        rw [List.nil_append] at enough ⊢
        rw [← List.append_nil (path :: back)] at enough ⊢
        exact step ih turned enough

theorem findCallPath_outcome (apart : source ≠ target) :
    Outcome graph source target maxDepth (graph.findCallPath source target maxDepth) := by
  have searching : Searching graph source target maxDepth 0 [[source]] [] [source] :=
    searching_start apart
  exact pathLoop_outcome searching (enough_start source)

/-- Whatever is returned has two vertices. -/
theorem pathLoop_length {fuel : ℕ} {queue : List (List Uintptr)} (some : ∀ path ∈ queue, path ≠ []) :
    graph.pathLoop target maxDepth fuel visited queue = []
      ∨ 2 ≤ (graph.pathLoop target maxDepth fuel visited queue).length := by
  induction fuel generalizing visited queue with
  | zero => exact .inl rfl
  | succ fuel ih =>
    cases queue with
    | nil => exact .inl rfl
    | cons path queue =>
      have one : 0 < path.length := List.length_pos_iff.mpr (some path List.mem_cons_self)
      rw [pathLoop_cons]
      split_ifs
      · exact .inl rfl
      · refine .inr ?_
        rw [List.length_append, List.length_singleton]
        omega
      · refine ih fun other inside => ?_
        rcases List.mem_append.mp inside with old | new
        · exact some other (List.mem_cons_of_mem _ old)
        · obtain ⟨callee, -, rfl⟩ := List.mem_map.mp new
          simp

/-! ### The bound -/

/-- Below the two largest bounds, the search stops behind the bound. -/
theorem stops_iff (small : maxDepth.toNatClampNeg < 2 ^ 31 - 2) (nonneg : 0 ≤ maxDepth)
    (least : k ≤ maxDepth.toNatClampNeg + 1) : Stops maxDepth k ↔ maxDepth.toNatClampNeg < k := by
  have value := Int32.cast_toNatClampNeg maxDepth nonneg
  have next : (maxDepth + 1).toInt = maxDepth.toNatClampNeg + 1 := by
    rw [Int32.toInt_add, ← value, show (1 : Int32).toInt = 1 from rfl, Int.bmod_def]
    omega
  rw [Stops, Int32.lt_iff_toInt_lt, next, Int32.toInt_ofNat_of_lt (by omega)]
  omega

/-- Nothing is larger than the largest number. -/
theorem not_stops (last : maxDepth + 1 = Int32.maxValue) : ¬ Stops maxDepth k := by
  rw [Stops, last, Int32.lt_iff_toInt_lt, not_lt]
  exact Int32.toInt_le _

/-- Behind the largest bound is the smallest number. -/
theorem stops_maxValue : Stops Int32.maxValue 0 := by decide

/-- A shortest path of no more than so many calls, or none if there is none. -/
structure ShortestPath (graph : CallGraphAnalyzer) (source target : Uintptr) (bound : ℕ)
    (result : List Uintptr) : Prop where
  found : result ≠ [] ↔ Within graph.getCallees source bound target
  trail : result ≠ [] → Trail graph.getCallees source target result
  shortest : result ≠ [] →
    ∀ path, Trail graph.getCallees source target path → result.length ≤ path.length
  alone : source = target → result = [source]

/-- The target is not just behind the bound. Behind the largest bound the search never starts, and
with the one below it it never stops. -/
def Decided (graph : CallGraphAnalyzer) (source target : Uintptr) (maxDepth : Int32) : Prop :=
  if maxDepth = Int32.maxValue then
    ¬ Within graph.getCallees source maxDepth.toNatClampNeg target
  else if maxDepth + 1 = Int32.maxValue then
    ∀ k, AtDistance graph.getCallees source k target → k ≤ maxDepth.toNatClampNeg
  else ¬ AtDistance graph.getCallees source (maxDepth.toNatClampNeg + 1) target

/-- No path where there is none. -/
theorem shortestPath_nil (apart : source ≠ target) {bound : ℕ} :
    ShortestPath graph source target bound [] ↔ ¬ Within graph.getCallees source bound target := by
  constructor
  · intro shortest within
    exact shortest.found.mpr within rfl
  · intro far
    exact ⟨iff_of_false (fun some => some rfl) far, fun some => absurd rfl some,
      fun some => absurd rfl some, fun same => absurd same apart⟩

/-- A shortest path is one within the bound if the distance is. -/
theorem shortestPath_cons (apart : source ≠ target) {bound : ℕ}
    (trail : Trail graph.getCallees source target path) (length : path.length = k + 1)
    (distance : AtDistance graph.getCallees source k target) :
    ShortestPath graph source target bound path ↔ k ≤ bound := by
  have some : path ≠ [] := List.length_pos_iff.mp trail.length_pos
  constructor
  · intro shortest
    obtain ⟨j, least, walk⟩ := shortest.found.mp some
    by_contra far
    exact distance.2 j (by omega) walk
  · intro near
    refine ⟨iff_of_true some (distance.within.mono near), fun _ => trail, fun _ other trail' => ?_,
      fun same => absurd same apart⟩
    rw [length]
    exact distance.le_length trail'

/-- The outcome is a shortest path within the bound exactly if the target is not just behind it. -/
theorem Outcome.shortest_iff (apart : source ≠ target) (nonneg : 0 ≤ maxDepth)
    (outcome : Outcome graph source target maxDepth path) :
    ShortestPath graph source target maxDepth.toNatClampNeg path ↔ Decided graph source target maxDepth := by
  have top := maxDepth.toNatClampNeg_lt
  unfold Decided
  by_cases largest : maxDepth = Int32.maxValue
  · rw [if_pos largest]
    cases outcome with
    | found _ _ _ passed => exact absurd (largest ▸ stops_maxValue) (passed 0 (Nat.zero_le _))
    | stopped => exact shortestPath_nil apart
    | exhausted => exact shortestPath_nil apart
  rw [if_neg largest]
  by_cases last : maxDepth + 1 = Int32.maxValue
  · rw [if_pos last]
    cases outcome with
    | found trail length distance =>
      rw [shortestPath_cons apart trail length distance]
      refine ⟨fun near j other => (other.unique distance).trans_le near, fun all => all _ distance⟩
    | stopped stops => exact absurd stops (not_stops last)
    | exhausted nowhere =>
      rw [shortestPath_nil apart]
      refine iff_of_true ?_ fun j distance => absurd distance.1 (nowhere j)
      rintro ⟨j, -, walk⟩
      exact nowhere j walk
  · rw [if_neg last]
    have small : maxDepth.toNatClampNeg < 2 ^ 31 - 2 := by
      have value := Int32.cast_toNatClampNeg maxDepth nonneg
      have notLargest : maxDepth.toInt ≠ 2 ^ 31 - 1 := fun same =>
        largest (Int32.toInt_inj.mp (same.trans Int32.toInt_maxValue.symm))
      have notLast : maxDepth.toInt ≠ 2 ^ 31 - 2 := by
        intro same
        refine last (Int32.toInt_inj.mp ?_)
        rw [Int32.toInt_add, same]
        rfl
      omega
    cases outcome with
    | @found k _ trail length distance passed =>
      have least : k ≤ maxDepth.toNatClampNeg := by
        by_contra far
        exact passed (maxDepth.toNatClampNeg + 1) (by omega)
          ((stops_iff small nonneg (Nat.le_refl _)).mpr (Nat.lt_succ_self _))
      rw [shortestPath_cons apart trail length distance]
      constructor
      · intro near behind
        have same := distance.unique behind
        omega
      · intro notBehind
        have other : k ≠ maxDepth.toNatClampNeg := by
          rintro rfl
          exact notBehind distance
        omega
    | @stopped k stops passed far =>
      have behind : k = maxDepth.toNatClampNeg + 1 := by
        have past : ¬ maxDepth.toNatClampNeg + 1 < k := fun less =>
          passed _ less ((stops_iff small nonneg (Nat.le_refl _)).mpr (Nat.lt_succ_self _))
        have next := (stops_iff small nonneg (by omega)).mp stops
        omega
      subst behind
      rw [shortestPath_nil apart]
      exact iff_of_true (fun within => far (within.mono (Nat.le_succ _))) fun distance =>
        far distance.within
    | exhausted nowhere =>
      rw [shortestPath_nil apart]
      refine iff_of_true ?_ fun distance => nowhere _ distance.1
      rintro ⟨j, -, walk⟩
      exact nowhere j walk

/-- **When the search finds a shortest path.** -/
theorem findCallPath_iff (graph : CallGraphAnalyzer) (source target : Uintptr) (maxDepth : Int32)
    (nonneg : 0 ≤ maxDepth) :
    ShortestPath graph source target maxDepth.toNatClampNeg (graph.findCallPath source target maxDepth)
      ↔ source ≠ target ∧ Decided graph source target maxDepth := by
  by_cases apart : source ≠ target
  · rw [(findCallPath_outcome apart).shortest_iff apart nonneg]
    exact (and_iff_right apart).symm
  · refine iff_of_false (fun shortest => ?_) fun both => apart both.1
    have alone := shortest.alone (not_not.mp apart)
    have two : graph.findCallPath source target maxDepth = []
        ∨ 2 ≤ (graph.findCallPath source target maxDepth).length := pathLoop_length (by simp)
    rw [alone] at two
    simp at two

/-- A function that calls a second one, which calls a third. -/
def chain : CallGraphAnalyzer where
  nodes := AList.insert 1 { address := 1, callees := [2] }
    (AList.insert 2 { address := 2, callees := [3], callers := [1], callCount := 1 }
      (AList.insert 3 { address := 3, callers := [2], callCount := 1 } ∅))
  totalEdges := 2

/-- The third function is two calls away. -/
theorem findCallPath_chain : ShortestPath chain 1 3 2 (chain.findCallPath 1 3 2) := by
  refine (findCallPath_iff chain 1 3 2 (by decide)).mpr ⟨by decide, ?_⟩
  unfold Decided
  rw [if_neg (by decide), if_neg (by decide)]
  rintro ⟨-, shortest⟩
  have one : Walk chain.getCallees 1 2 1 := .step .refl (by decide)
  exact shortest 2 (by decide) (.step one (by decide))

/-- A call too far, and a function from itself to itself. -/
theorem findCallPath_fails :
    chain.findCallPath 1 3 1 = [1, 2, 3] ∧ ¬ ShortestPath chain 1 3 1 (chain.findCallPath 1 3 1)
      ∧ chain.findCallPath 1 1 1 = [] ∧ ¬ ShortestPath chain 1 1 1 (chain.findCallPath 1 1 1) := by
  refine ⟨by decide, fun shortest => ?_, by decide, fun shortest => ?_⟩
  · rcases within_succ.mp (shortest.found.mp (by decide)) with here | ⟨u, here, edge⟩
    · exact absurd (within_zero.mp here) (by decide)
    · rw [within_zero.mp here] at edge
      exact absurd edge (by decide)
  · exact absurd (shortest.alone rfl) (by decide)

end CallGraphAnalyzer

end KenshiMP
