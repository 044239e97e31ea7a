/-
**Breadth-first search by layers.**

A search takes the vertices of a queue in order and appends the neighbours that it has not visited yet.
`Layers` is what holds between two vertices: the queue is a front of vertices at one distance from the
start, and a back of vertices one step farther; visited is what is no farther than the front, and the
back.

* `Layers.expand`: the first vertex of the front is taken;
* `Layers.turn`: the front is used up, and the back becomes the front;
* `Layers.exhausted`: where the queue is empty, what is visited is what can be reached.

`fresh` is what a scan of a list of neighbours appends, and `unvisited` bounds how often it does.
-/

import Mathlib.Tactic

namespace BreadthFirst

variable {α : Type*} (adj : α → List α)

/-! ### Distances -/

/-- A walk of so many steps. -/
inductive Walk (start : α) : α → ℕ → Prop
  | refl : Walk start start 0
  | step {v w : α} {k : ℕ} : Walk start v k → w ∈ adj v → Walk start w (k + 1)

/-- A walk of no more than so many steps. -/
def Within (start : α) (k : ℕ) (v : α) : Prop := ∃ j ≤ k, Walk adj start v j

/-- The shortest walk has so many steps. -/
def AtDistance (start : α) (k : ℕ) (v : α) : Prop :=
  Walk adj start v k ∧ ∀ j < k, ¬ Walk adj start v j

variable {adj} {start v w : α} {k : ℕ}

theorem walk_zero : Walk adj start v 0 ↔ v = start := by
  constructor
  · intro walk
    cases walk
    rfl
  · rintro rfl
    exact .refl

theorem walk_succ : Walk adj start v (k + 1) ↔ ∃ u, Walk adj start u k ∧ v ∈ adj u := by
  constructor
  · intro walk
    cases walk with
    | step walk edge => exact ⟨_, walk, edge⟩
  · rintro ⟨u, walk, edge⟩
    exact .step walk edge

theorem within_zero : Within adj start 0 v ↔ v = start := by
  constructor
  · rintro ⟨j, least, walk⟩
    rw [Nat.le_zero.mp least] at walk
    exact walk_zero.mp walk
  · rintro rfl
    exact ⟨0, Nat.le_refl 0, .refl⟩

theorem Within.mono {j : ℕ} (within : Within adj start j v) (more : j ≤ k) : Within adj start k v := by
  obtain ⟨i, least, walk⟩ := within
  exact ⟨i, least.trans more, walk⟩

theorem Within.next (within : Within adj start k v) (edge : w ∈ adj v) : Within adj start (k + 1) w := by
  obtain ⟨j, least, walk⟩ := within
  exact ⟨j + 1, Nat.succ_le_succ least, .step walk edge⟩

theorem within_succ :
    Within adj start (k + 1) v ↔ Within adj start k v ∨ ∃ u, Within adj start k u ∧ v ∈ adj u := by
  constructor
  · rintro ⟨j, least, walk⟩
    cases j with
    | zero => exact .inl ⟨0, Nat.zero_le k, walk⟩
    | succ j =>
      obtain ⟨u, before, edge⟩ := walk_succ.mp walk
      exact .inr ⟨u, ⟨j, Nat.le_of_succ_le_succ least, before⟩, edge⟩
  · rintro (within | ⟨u, within, edge⟩)
    · exact within.mono (Nat.le_succ k)
    · exact within.next edge

/-- The first step of a walk, and the others. -/
theorem walk_left : Walk adj start v (k + 1) ↔ ∃ u ∈ adj start, Walk adj u v k := by
  induction k generalizing v with
  | zero =>
    simp only [walk_succ, walk_zero]
    constructor
    · rintro ⟨u, rfl, edge⟩
      exact ⟨v, edge, rfl⟩
    · rintro ⟨u, edge, rfl⟩
      exact ⟨start, rfl, edge⟩
  | succ k ih =>
    rw [walk_succ]
    constructor
    · rintro ⟨u, walk, last⟩
      obtain ⟨w, first, rest⟩ := ih.mp walk
      exact ⟨w, first, .step rest last⟩
    · rintro ⟨w, first, walk⟩
      obtain ⟨u, rest, last⟩ := walk_succ.mp walk
      exact ⟨u, ih.mpr ⟨w, first, rest⟩, last⟩

theorem within_left :
    Within adj start (k + 1) v ↔ Within adj start k v ∨ ∃ u ∈ adj start, Within adj u k v := by
  constructor
  · rintro ⟨j, least, walk⟩
    cases j with
    | zero => exact .inl ⟨0, Nat.zero_le k, walk⟩
    | succ j =>
      obtain ⟨u, edge, rest⟩ := walk_left.mp walk
      exact .inr ⟨u, edge, j, Nat.le_of_succ_le_succ least, rest⟩
  · rintro (within | ⟨u, edge, j, least, rest⟩)
    · exact within.mono (Nat.le_succ k)
    · exact ⟨j + 1, Nat.succ_le_succ least, walk_left.mpr ⟨u, edge, rest⟩⟩

/-- From a vertex without neighbours, only itself is within reach. -/
theorem Within.of_stuck (within : Within adj start k v) (stuck : adj start = []) : v = start := by
  obtain ⟨j, -, walk⟩ := within
  cases j with
  | zero => exact walk_zero.mp walk
  | succ j =>
    obtain ⟨u, edge, -⟩ := walk_left.mp walk
    rw [stuck] at edge
    exact absurd edge List.not_mem_nil

theorem AtDistance.within (distance : AtDistance adj start k v) : Within adj start k v :=
  ⟨k, Nat.le_refl k, distance.1⟩

theorem atDistance_succ :
    AtDistance adj start (k + 1) v ↔ Within adj start (k + 1) v ∧ ¬ Within adj start k v := by
  constructor
  · rintro ⟨walk, shortest⟩
    refine ⟨⟨k + 1, Nat.le_refl _, walk⟩, ?_⟩
    rintro ⟨j, least, shorter⟩
    exact shortest j (Nat.lt_succ_of_le least) shorter
  · rintro ⟨⟨j, least, walk⟩, far⟩
    have exact' : j = k + 1 := by
      by_contra other
      exact far ⟨j, by omega, walk⟩
    subst exact'
    exact ⟨walk, fun i less shorter => far ⟨i, Nat.le_of_lt_succ less, shorter⟩⟩

/-- The farthest vertices have the next ones behind them. -/
theorem within_succ_atDistance :
    Within adj start (k + 1) v ↔ Within adj start k v ∨ ∃ u, AtDistance adj start k u ∧ v ∈ adj u := by
  refine ⟨fun within => ?_, fun either => within_succ.mpr ?_⟩
  · rcases within_succ.mp within with near | ⟨u, ⟨j, least, walk⟩, edge⟩
    · exact .inl near
    · by_cases shorter : ∃ i < k, Walk adj start u i
      · obtain ⟨i, less, walk⟩ := shorter
        exact .inl ⟨i + 1, less, .step walk edge⟩
      · have last : j = k := by
          by_contra other
          exact shorter ⟨j, by omega, walk⟩
        subst last
        exact .inr ⟨u, ⟨walk, fun i less walk => shorter ⟨i, less, walk⟩⟩, edge⟩
  · exact either.imp_right fun ⟨u, distance, edge⟩ => ⟨u, distance.within, edge⟩

/-- Where nothing is at one distance, nothing is farther. -/
theorem within_of_no_layer (none : ∀ u, ¬ AtDistance adj start (k + 1) u) {j : ℕ}
    (walk : Walk adj start v j) : Within adj start k v := by
  induction walk with
  | refl => exact ⟨0, Nat.zero_le k, .refl⟩
  | step _ edge near =>
    by_contra far
    exact none _ (atDistance_succ.mpr ⟨near.next edge, far⟩)

theorem AtDistance.unique {j : ℕ} (first : AtDistance adj start j v)
    (second : AtDistance adj start k v) : j = k := by
  rcases Nat.lt_trichotomy j k with less | same | more
  · exact absurd first.1 (second.2 j less)
  · exact same
  · exact absurd second.1 (first.2 k more)

/-! ### Paths -/

/-- The vertices of a walk, in order. -/
inductive Trail (adj : α → List α) (start : α) : α → List α → Prop
  | refl : Trail adj start start [start]
  | step {v w : α} {path : List α} : Trail adj start v path → w ∈ adj v → Trail adj start w (path ++ [w])

namespace Trail

variable {path : List α}

theorem length_pos (trail : Trail adj start v path) : 0 < path.length := by
  cases trail with
  | refl => exact Nat.zero_lt_one
  | step => simp

theorem walk (trail : Trail adj start v path) : Walk adj start v (path.length - 1) := by
  induction trail with
  | refl => exact .refl
  | step before edge ih =>
    have one := before.length_pos
    rw [List.length_append, List.length_singleton, Nat.add_sub_cancel, ← Nat.sub_add_cancel one]
    exact .step ih edge

end Trail

/-- No path is shorter than the distance. -/
theorem AtDistance.le_length {path : List α} (distance : AtDistance adj start k v)
    (trail : Trail adj start v path) : k + 1 ≤ path.length := by
  have one := trail.length_pos
  by_contra shorter
  exact distance.2 (path.length - 1) (by omega) trail.walk

/-! ### What a scan appends -/

section Scan

variable [DecidableEq α]

/-- The vertices of a list that have not been visited, each once. -/
def fresh : List α → List α → List α
  | [], _ => []
  | v :: rest, visited => if v ∈ visited then fresh rest visited else v :: fresh rest (v :: visited)

theorem mem_fresh {list visited : List α} : w ∈ fresh list visited ↔ w ∈ list ∧ w ∉ visited := by
  induction list generalizing visited with
  | nil => simp [fresh]
  | cons v rest ih =>
    unfold fresh
    by_cases here : w = v
    · subst here
      split_ifs with before
      · simp [ih, before]
      · simp [before]
    · split_ifs
      · simp [ih, here]
      · simp [ih, here]

theorem fresh_append (one two visited : List α) :
    fresh (one ++ two) visited = fresh one visited ++ fresh two ((fresh one visited).reverse ++ visited) := by
  induction one generalizing visited with
  | nil => simp [fresh]
  | cons v rest ih =>
    simp only [List.cons_append, fresh]
    split_ifs
    · exact ih visited
    · rw [ih, List.cons_append, List.reverse_cons, List.append_assoc, List.singleton_append]

/-- How many entries of a list have not been visited. -/
def unvisited (all visited : List α) : ℕ := all.countP fun v => v ∉ visited

theorem unvisited_cons_le {all visited : List α} (inside : v ∈ all) (new : v ∉ visited) :
    unvisited all (v :: visited) + 1 ≤ unvisited all visited := by
  unfold unvisited
  induction all with
  | nil => exact absurd inside List.not_mem_nil
  | cons first rest ih =>
    have mono : rest.countP (fun w => decide (w ∉ v :: visited)) ≤ rest.countP fun w => decide (w ∉ visited) := by
      refine List.countP_mono_left fun w _ out => ?_
      simp only [decide_eq_true_eq, List.mem_cons, not_or] at out ⊢
      exact out.2
    rw [List.countP_cons, List.countP_cons]
    by_cases here : first = v
    · subst here
      rw [if_neg (by simp), if_pos (by simpa using new)]
      omega
    · have before := ih ((List.mem_cons.mp inside).resolve_left (Ne.symm here))
      by_cases old : first ∈ visited
      · rw [if_neg (by simp [old]), if_neg (by simp [old])]
        exact before
      · rw [if_pos (by simp [here, old]), if_pos (by simp [old])]
        omega

/-- What is appended has been unvisited. -/
theorem unvisited_fresh {all list visited : List α} (inside : ∀ w ∈ list, w ∈ all) :
    unvisited all ((fresh list visited).reverse ++ visited) + (fresh list visited).length
      ≤ unvisited all visited := by
  induction list generalizing visited with
  | nil => simp [fresh]
  | cons v rest ih =>
    have later := fun w member => inside w (List.mem_cons_of_mem v member)
    unfold fresh
    split_ifs with before
    · exact ih later
    · have one := unvisited_cons_le (inside v List.mem_cons_self) before
      have others := @ih (v :: visited) later
      rw [List.reverse_cons, List.append_assoc, List.singleton_append, List.length_cons]
      omega

end Scan

/-! ### The layers of a search -/

/-- Between two vertices: the queue is the front and then the back. -/
structure Layers (adj : α → List α) (start : α) (k : ℕ) (front back visited : List α) : Prop where
  front_at : ∀ v ∈ front, AtDistance adj start k v
  back_at : ∀ v ∈ back, AtDistance adj start (k + 1) v
  visited_iff : ∀ v, v ∈ visited ↔ Within adj start k v ∨ v ∈ back
  done : ∀ v, AtDistance adj start k v → v ∉ front → ∀ w ∈ adj v, w ∈ visited

namespace Layers

variable {front back visited : List α}

theorem init (adj : α → List α) (start : α) : Layers adj start 0 [start] [] [start] := by
  refine ⟨fun v inside => ?_, fun v inside => absurd inside List.not_mem_nil, fun v => ?_,
    fun v distance out => ?_⟩
  · rw [List.mem_singleton.mp inside]
    exact ⟨.refl, fun j less => absurd less (Nat.not_lt_zero j)⟩
  · rw [List.mem_singleton, within_zero]
    exact ⟨.inl, fun either => either.resolve_right List.not_mem_nil⟩
  · exact absurd (List.mem_singleton.mpr (walk_zero.mp distance.1)) out

/-- **One vertex**: its neighbours that are not visited go to the back. -/
theorem expand {visited' fresh : List α} (layers : Layers adj start k (v :: front) back visited)
    (new : ∀ w, w ∈ fresh ↔ w ∈ adj v ∧ w ∉ visited)
    (marked : ∀ w, w ∈ visited' ↔ w ∈ visited ∨ w ∈ fresh) :
    Layers adj start k front (back ++ fresh) visited' := by
  have here : AtDistance adj start k v := layers.front_at v List.mem_cons_self
  refine ⟨fun w inside => layers.front_at w (List.mem_cons_of_mem _ inside), fun w inside => ?_,
    fun w => ?_, fun u distance out w edge => ?_⟩
  · rcases List.mem_append.mp inside with old | fresh
    · exact layers.back_at w old
    · obtain ⟨edge, unvisited⟩ := (new w).mp fresh
      refine atDistance_succ.mpr ⟨here.within.next edge, fun near => ?_⟩
      exact unvisited ((layers.visited_iff w).mpr (.inl near))
  · rw [marked, layers.visited_iff, List.mem_append, or_assoc]
  · rw [marked]
    by_cases same : u = v
    · subst same
      by_cases before : w ∈ visited
      · exact .inl before
      · exact .inr ((new w).mpr ⟨edge, before⟩)
    · refine .inl (layers.done u distance (fun inside => ?_) w edge)
      exact (List.mem_cons.mp inside).elim same out

/-- What is visited once the front is used up. -/
theorem visited_turn (layers : Layers adj start k [] back visited) :
    v ∈ visited ↔ Within adj start (k + 1) v := by
  rw [within_succ_atDistance]
  constructor
  · intro inside
    rcases (layers.visited_iff v).mp inside with near | back
    · exact .inl near
    · exact within_succ_atDistance.mp (layers.back_at v back).within
  · rintro (near | ⟨u, distance, edge⟩)
    · exact (layers.visited_iff v).mpr (.inl near)
    · exact layers.done u distance List.not_mem_nil v edge

/-- **The next layer.** -/
theorem turn (layers : Layers adj start k [] back visited) : Layers adj start (k + 1) back [] visited := by
  refine ⟨layers.back_at, fun v inside => absurd inside List.not_mem_nil, fun v => ?_,
    fun v distance out => ?_⟩
  · rw [layers.visited_turn]
    exact ⟨.inl, fun either => either.resolve_right List.not_mem_nil⟩
  · obtain ⟨within, far⟩ := atDistance_succ.mp distance
    rcases (layers.visited_iff v).mp (layers.visited_turn.mpr within) with near | inside
    · exact absurd near far
    · exact absurd inside out

/-- **The queue is empty**: everything that can be reached is visited. -/
theorem exhausted (layers : Layers adj start k [] [] visited) : v ∈ visited ↔ ∃ j, Walk adj start v j := by
  constructor
  · intro inside
    obtain ⟨j, -, walk⟩ := layers.visited_turn.mp inside
    exact ⟨j, walk⟩
  · rintro ⟨j, walk⟩
    have none (u : α) : ¬ AtDistance adj start (k + 1) u := by
      intro distance
      obtain ⟨within, far⟩ := atDistance_succ.mp distance
      rcases (layers.visited_iff u).mp (layers.visited_turn.mpr within) with near | inside
      · exact far near
      · cases inside
    exact layers.visited_turn.mpr ((within_of_no_layer none walk).mono (Nat.le_succ k))

end Layers

end BreadthFirst
