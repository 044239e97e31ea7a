/-
**What the searches of a call graph scan.**

`pathLoop_cons` and `ballLoop_cons` are one turn of the two searches, in terms of the neighbours that
have not been visited (`fresh`); a vertex that is no node has none. `enough` is the bound that makes the
fuel of a search enough.
-/

import KenshiMP.Lib.BreadthFirst
import KenshiMP.Scanner.CallGraph

namespace KenshiMP

open Assoc
open BreadthFirst

namespace CallGraphAnalyzer

variable {graph : CallGraphAnalyzer}

theorem getCallees_of_none {addr : Uintptr} (none : graph.getNode addr = none) :
    graph.getCallees addr = [] := by
  unfold getCallees
  rw [none]
  rfl

theorem getCallees_of_some {addr : Uintptr} {node : CallNode} (some : graph.getNode addr = some node) :
    graph.getCallees addr = node.callees := by
  unfold getCallees
  rw [some]
  rfl

theorem getCallers_of_none {addr : Uintptr} (none : graph.getNode addr = none) :
    graph.getCallers addr = [] := by
  unfold getCallers
  rw [none]
  rfl

theorem getCallers_of_some {addr : Uintptr} {node : CallNode} (some : graph.getNode addr = some node) :
    graph.getCallers addr = node.callers := by
  unfold getCallers
  rw [some]
  rfl

/-- The nodes that one call leads to or from. -/
def neighbours (graph : CallGraphAnalyzer) (addr : Uintptr) : List Uintptr :=
  graph.getCallees addr ++ graph.getCallers addr

/-! ### Enough fuel -/

/-- The entries of all lists. -/
def listed (graph : CallGraphAnalyzer) : List Uintptr :=
  ((AMap.toList graph.nodes).map Prod.snd).flatMap fun node => node.callees ++ node.callers

theorem searchFuel_eq : graph.searchFuel = 1 + graph.listed.length := by
  unfold searchFuel listed
  rw [List.length_flatMap]
  simp only [List.length_append]

theorem mem_listed {addr other : Uintptr} (inside : other ∈ graph.neighbours addr) :
    other ∈ graph.listed := by
  unfold neighbours at inside
  cases stored : graph.getNode addr with
  | none =>
    rw [getCallees_of_none stored, getCallers_of_none stored] at inside
    exact absurd inside List.not_mem_nil
  | some node =>
    rw [getCallees_of_some stored, getCallers_of_some stored] at inside
    refine List.mem_flatMap.mpr ⟨node, ?_, inside⟩
    exact List.mem_map.mpr ⟨(addr, node), AMap.mem_toList.mpr stored, rfl⟩

/-- The fuel is enough for the queue and for what can still be queued. -/
def Enough (graph : CallGraphAnalyzer) (fuel queued : ℕ) (visited : List Uintptr) : Prop :=
  queued + unvisited graph.listed visited ≤ fuel

theorem enough_start (addr : Uintptr) : graph.Enough graph.searchFuel 1 [addr] := by
  unfold Enough
  rw [searchFuel_eq]
  exact Nat.add_le_add_left List.countP_le_length 1

/-- One vertex is taken from the queue, and its neighbours are queued. -/
theorem Enough.turn {fuel queued : ℕ} {visited list : List Uintptr}
    (enough : graph.Enough (fuel + 1) (queued + 1) visited) (inside : ∀ w ∈ list, w ∈ graph.listed) :
    graph.Enough fuel (queued + (fresh list visited).length) ((fresh list visited).reverse ++ visited) := by
  have fewer : unvisited graph.listed ((fresh list visited).reverse ++ visited)
      + (fresh list visited).length ≤ unvisited graph.listed visited := unvisited_fresh inside
  unfold Enough at enough ⊢
  omega

/-! ### One turn -/

theorem scanCallees_eq (target : Uintptr) (path callees visited : List Uintptr)
    (queue : List (List Uintptr)) :
    scanCallees target path callees visited queue
      = if target ∈ callees then .inl (path ++ [target])
        else .inr ((fresh callees visited).reverse ++ visited,
          queue ++ (fresh callees visited).map fun callee => path ++ [callee]) := by
  induction callees generalizing visited queue with
  | nil => simp [scanCallees, fresh]
  | cons callee rest ih =>
    unfold scanCallees fresh
    by_cases here : callee = target
    · rw [if_pos here, if_pos (List.mem_cons.mpr (.inl here.symm)), here]
    · have later : target ∈ callee :: rest ↔ target ∈ rest := by simp [Ne.symm here]
      rw [if_neg here]
      simp only [later]
      split_ifs with before found found
      all_goals simp [ih, found]

/-- **One turn of the search for a path.** -/
theorem pathLoop_cons (target : Uintptr) (maxDepth : Int32) (fuel : ℕ) (visited path : List Uintptr)
    (queue : List (List Uintptr)) :
    graph.pathLoop target maxDepth (fuel + 1) visited (path :: queue)
      = if maxDepth + 1 < Int32.ofNat path.length then []
        else if target ∈ graph.getCallees (path.getLastD 0) then path ++ [target]
        else graph.pathLoop target maxDepth fuel
          ((fresh (graph.getCallees (path.getLastD 0)) visited).reverse ++ visited)
          (queue ++ (fresh (graph.getCallees (path.getLastD 0)) visited).map fun callee =>
            path ++ [callee]) := by
  rw [pathLoop]
  cases stored : graph.getNode (path.getLastD 0) with
  | none =>
    rw [getCallees_of_none stored, if_neg List.not_mem_nil]
    simp only [fresh, List.reverse_nil, List.nil_append, List.map_nil, List.append_nil]
  | some node =>
    rw [getCallees_of_some stored]
    simp only [scanCallees_eq]
    by_cases found : target ∈ node.callees
    · simp only [if_pos found]
    · simp only [if_neg found]

theorem scanNeighbours_eq (depth : ℕ) (list visited : List Uintptr) (queue : List (Uintptr × ℕ)) :
    scanNeighbours depth list visited queue
      = ((fresh list visited).reverse ++ visited,
          queue ++ (fresh list visited).map fun addr => (addr, depth + 1)) := by
  induction list generalizing visited queue with
  | nil => simp [scanNeighbours, fresh]
  | cons addr rest ih =>
    unfold scanNeighbours fresh
    split_ifs with before
    · exact ih visited queue
    · simp [ih]

/-- **One turn of the search for a neighbourhood.** -/
theorem ballLoop_cons (radius : Int32) (fuel : ℕ) (visited : List Uintptr) (addr : Uintptr)
    (depth : ℕ) (queue : List (Uintptr × ℕ)) :
    graph.ballLoop radius (fuel + 1) visited ((addr, depth) :: queue)
      = if radius ≤ Int32.ofNat depth then graph.ballLoop radius fuel visited queue
        else graph.ballLoop radius fuel ((fresh (graph.neighbours addr) visited).reverse ++ visited)
          (queue ++ (fresh (graph.neighbours addr) visited).map fun other => (other, depth + 1)) := by
  rw [ballLoop]
  unfold neighbours
  cases stored : graph.getNode addr with
  | none =>
    rw [getCallees_of_none stored, getCallers_of_none stored]
    simp [fresh]
  | some node =>
    rw [getCallees_of_some stored, getCallers_of_some stored, fresh_append]
    simp only [scanNeighbours_eq, List.reverse_append, List.map_append, List.append_assoc]

end CallGraphAnalyzer

end KenshiMP
