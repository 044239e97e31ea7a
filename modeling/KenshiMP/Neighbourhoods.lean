/-
**Whether labels spread exactly as far as the neighbourhoods.**

Labels spread in rounds: a node without one gets the label of a neighbour's text. A neighbourhood is
searched breadth-first. Both go over callees and callers.

* `mem_getNeighborhood`: a neighbourhood is what is within its radius;
* `Spread`: what a round, or several, does to the labels; `propagateRounds_spread`;
* `labels_spread`: after the rounds exactly the nodes are labelled that are in the neighbourhood of a
  node that was labelled at the start, those keep their labels, and as many as are reported are new,
  whatever the order in which the rounds walk the nodes.
-/

import KenshiMP.Scanner.CallGraphFacts

namespace KenshiMP

open Wire (Bytes ascii)
open Assoc
open BreadthFirst

theorem uintptr_finite : Finite Uintptr :=
  Finite.of_injective UInt64.toFin fun _ _ same => UInt64.toFin_inj.mp same

namespace CallGraphAnalyzer

variable {graph : CallGraphAnalyzer}

/-! ### Neighbourhoods -/

/-- A depth is compared with a radius as the code does, up to the radius. -/
theorem radius_le_iff {radius : Int32} {depth : ℕ} (least : depth ≤ radius.toNatClampNeg) :
    radius ≤ Int32.ofNat depth ↔ depth = radius.toNatClampNeg := by
  have top := radius.toNatClampNeg_lt
  rw [Int32.le_iff_toInt_le, Int32.toInt_ofNat_of_lt (by omega)]
  unfold Int32.toNatClampNeg at least ⊢
  omega

/-- Between two vertices: within the radius, and at the radius nothing is behind the front. -/
structure Growing (graph : CallGraphAnalyzer) (start : Uintptr) (radius k : ℕ)
    (front back visited : List Uintptr) : Prop where
  layers : Layers graph.neighbours start k front back visited
  near : k < radius ∨ k = radius ∧ back = []

/-- At the radius, nothing more is queued. -/
theorem ballLoop_drained {radius : Int32} {fuel : ℕ} {visited : List Uintptr}
    {queue : List (Uintptr × ℕ)} (far : ∀ entry ∈ queue, radius ≤ Int32.ofNat entry.2) :
    graph.ballLoop radius fuel visited queue = visited := by
  induction fuel generalizing queue with
  | zero => rfl
  | succ fuel ih =>
    cases queue with
    | nil => rfl
    | cons entry queue =>
      obtain ⟨addr, depth⟩ := entry
      rw [ballLoop_cons, if_pos (far _ List.mem_cons_self)]
      exact ih fun other inside => far other (List.mem_cons_of_mem _ inside)

variable {start addr : Uintptr} {radius : Int32} {k : ℕ} {front back visited : List Uintptr}

theorem Growing.drained (growing : Growing graph start radius.toNatClampNeg k front back visited)
    (last : k = radius.toNatClampNeg) {fuel : ℕ} :
    addr ∈ graph.ballLoop radius fuel visited (front.map (fun v => (v, k)) ++ back.map fun v => (v, k + 1))
      ↔ Within graph.neighbours start radius.toNatClampNeg addr := by
  obtain ⟨-, rfl⟩ := growing.near.resolve_left fun less => Nat.ne_of_lt less last
  rw [ballLoop_drained fun entry inside => ?_]
  · rw [growing.layers.visited_iff, last]
    exact or_iff_left List.not_mem_nil
  · rw [List.map_nil, List.append_nil] at inside
    obtain ⟨v, -, rfl⟩ := List.mem_map.mp inside
    exact (radius_le_iff last.le).mpr last

theorem Growing.exhausted (growing : Growing graph start radius.toNatClampNeg k [] [] visited) :
    addr ∈ visited ↔ Within graph.neighbours start radius.toNatClampNeg addr := by
  have least : k ≤ radius.toNatClampNeg := growing.near.elim Nat.le_of_lt fun last => last.1.le
  constructor
  · intro inside
    rcases (growing.layers.visited_iff addr).mp inside with near | member
    · exact near.mono least
    · exact absurd member List.not_mem_nil
  · rintro ⟨j, -, walk⟩
    exact growing.layers.exhausted.mpr ⟨j, walk⟩

/-- **The search for a neighbourhood ends with what is within the radius.** -/
theorem mem_ballLoop {fuel : ℕ}
    (growing : Growing graph start radius.toNatClampNeg k front back visited)
    (enough : graph.Enough fuel (front.length + back.length) visited) :
    addr ∈ graph.ballLoop radius fuel visited (front.map (fun v => (v, k)) ++ back.map fun v => (v, k + 1))
      ↔ Within graph.neighbours start radius.toNatClampNeg addr := by
  by_cases last : k = radius.toNatClampNeg
  · exact growing.drained last
  have less : k < radius.toNatClampNeg := growing.near.resolve_right fun both => last both.1
  induction fuel generalizing k front back visited with
  | zero =>
    unfold Enough at enough
    have nothing : front.length = 0 ∧ back.length = 0 := by omega
    obtain rfl := List.length_eq_zero_iff.mp nothing.1
    obtain rfl := List.length_eq_zero_iff.mp nothing.2
    exact growing.exhausted
  | succ fuel ih =>
    -- with a front, its first vertex is expanded
    have step {k : ℕ} {v : Uintptr} {front back visited : List Uintptr}
        (growing : Growing graph start radius.toNatClampNeg k (v :: front) back visited)
        (enough : graph.Enough (fuel + 1) ((v :: front).length + back.length) visited)
        (less : k < radius.toNatClampNeg) :
        addr ∈ graph.ballLoop radius (fuel + 1) visited
            ((v :: front).map (fun v => (v, k)) ++ back.map fun v => (v, k + 1))
          ↔ Within graph.neighbours start radius.toNatClampNeg addr := by
      rw [List.map_cons, List.cons_append, ballLoop_cons,
        if_neg fun far => Nat.ne_of_lt less ((radius_le_iff less.le).mp far), List.append_assoc,
        ← List.map_append]
      refine ih ⟨?_, .inl less⟩ ?_ less.ne less
      · refine growing.layers.expand (fun w => mem_fresh) fun w => ?_
        rw [List.mem_append, List.mem_reverse]
        exact or_comm
      · rw [List.length_cons, Nat.add_right_comm] at enough
        rw [List.length_append, ← Nat.add_assoc]
        exact enough.turn fun w inside => mem_listed inside
    cases front with
    | cons v front => exact step growing enough less
    | nil =>
      cases back with
      | nil => exact growing.exhausted
      | cons v back =>
        have layers := growing.layers.turn
        rw [List.map_nil, List.nil_append]
        rw [List.length_nil, Nat.zero_add] at enough
        by_cases next : k + 1 = radius.toNatClampNeg
        · have turned : Growing graph start radius.toNatClampNeg (k + 1) (v :: back) [] visited :=
            ⟨layers, .inr ⟨next, rfl⟩⟩
          have drained : addr ∈ graph.ballLoop radius (fuel + 1) visited
              ((v :: back).map (fun v => (v, k + 1)) ++ [].map fun v => (v, k + 1 + 1))
              ↔ Within graph.neighbours start radius.toNatClampNeg addr := turned.drained next
          rwa [List.map_nil, List.append_nil] at drained
        · have more : k + 1 < radius.toNatClampNeg := Nat.lt_of_le_of_ne less next
          have turned := step ⟨layers, .inl more⟩ enough more
          rwa [List.map_nil, List.append_nil] at turned

theorem mem_getNeighborhood :
    addr ∈ graph.getNeighborhood start radius ↔ Within graph.neighbours start radius.toNatClampNeg addr := by
  have growing : Growing graph start radius.toNatClampNeg 0 [start] [] [start] := by
    refine ⟨Layers.init _ _, ?_⟩
    rcases Nat.eq_zero_or_pos radius.toNatClampNeg with zero | some
    · exact .inr ⟨zero.symm, rfl⟩
    · exact .inl some
  exact mem_ballLoop growing (enough_start start)

/-! ### The labels that a round finds -/

/-- The node has a label. -/
def Labelled (graph : CallGraphAnalyzer) (addr : Uintptr) : Prop :=
  ∃ node, graph.getNode addr = some node ∧ node.label ≠ []

/-- The node has no label. -/
def Blank (graph : CallGraphAnalyzer) (addr : Uintptr) : Prop :=
  ∃ node, graph.getNode addr = some node ∧ node.label = []

theorem not_blank_of_labelled (labelled : graph.Labelled addr) : ¬ graph.Blank addr := by
  obtain ⟨node, known, some⟩ := labelled
  rintro ⟨other, known', none⟩
  rw [known] at known'
  cases known'
  exact some none

theorem labelled_or_blank (known : (graph.getNode addr).isSome = true) :
    graph.Labelled addr ∨ graph.Blank addr := by
  obtain ⟨node, known⟩ := Option.isSome_iff_exists.mp known
  by_cases label : node.label = []
  · exact .inr ⟨node, known, label⟩
  · exact .inl ⟨node, known, label⟩

/-- Some names are added for the addresses with a property, none of them empty. -/
structure Adds (names names' : AMap Uintptr Bytes) (new : Uintptr → Prop) : Prop where
  named : ∀ addr, (names'.lookup addr).isSome = true ↔ (names.lookup addr).isSome = true ∨ new addr
  texts : (∀ addr text, names.lookup addr = some text → text ≠ []) →
    ∀ addr text, names'.lookup addr = some text → text ≠ []

theorem Adds.of_nothing {names : AMap Uintptr Bytes} {new : Uintptr → Prop} (nothing : ∀ addr, ¬ new addr) :
    Adds names names new :=
  ⟨fun addr => (or_iff_left (nothing addr)).symm, fun texts => texts⟩

theorem Adds.trans {names names' names'' : AMap Uintptr Bytes} {new new' : Uintptr → Prop}
    (first : Adds names names' new) (second : Adds names' names'' new') :
    Adds names names'' fun addr => new addr ∨ new' addr := by
  refine ⟨fun addr => ?_, fun texts => second.texts (first.texts texts)⟩
  rw [second.named, first.named, or_assoc]

theorem Adds.congr {names names' : AMap Uintptr Bytes} {new new' : Uintptr → Prop}
    (adds : Adds names names' new) (same : ∀ addr, new addr ↔ new' addr) : Adds names names' new' :=
  ⟨fun addr => (adds.named addr).trans (or_congr_right (same addr)), adds.texts⟩

/-- A walk over a list adds what its entries add. -/
theorem adds_foldl {β : Type} (list : List β) (names : AMap Uintptr Bytes)
    {f : AMap Uintptr Bytes → β → AMap Uintptr Bytes} {new : β → Uintptr → Prop}
    (each : ∀ entry ∈ list, ∀ names, Adds names (f names entry) (new entry)) :
    Adds names (list.foldl f names) fun addr => ∃ entry ∈ list, new entry addr := by
  induction list generalizing names with
  | nil => exact .of_nothing fun addr => by rintro ⟨entry, inside, -⟩; exact List.not_mem_nil inside
  | cons entry rest ih =>
    have first := each entry List.mem_cons_self names
    refine (first.trans (ih _ fun other inside => each other (List.mem_cons_of_mem _ inside))).congr
      fun addr => ?_
    rw [List.exists_mem_cons_iff]

theorem adds_offer (graph : CallGraphAnalyzer) {text : Bytes} (some : text ≠ []) (names : AMap Uintptr Bytes) (addr : Uintptr) :
    Adds names (graph.offer text names addr) fun other => other = addr ∧ graph.Blank addr := by
  unfold offer Blank
  cases known : graph.getNode addr with
  | none => exact .of_nothing fun other => by rintro ⟨-, node, found, -⟩; cases found
  | some node =>
    simp only
    split_ifs with blank
    · refine ⟨fun other => ?_, fun texts other text found => ?_⟩
      · rw [AMap.lookup_insert_eq]
        split_ifs with here
        · exact iff_of_true rfl (.inr ⟨here, node, rfl, blank⟩)
        · exact (or_iff_left fun both => here both.1).symm
      · rw [AMap.lookup_insert_eq] at found
        split_ifs at found
        · cases found
          exact some
        · exact texts other text found
    · refine .of_nothing fun other => ?_
      rintro ⟨-, node', found, none⟩
      cases found
      exact blank none

theorem adds_newLabelsOf (names : AMap Uintptr Bytes) (node : CallNode) :
    Adds names (graph.newLabelsOf names node) fun addr =>
      node.label ≠ [] ∧ graph.Blank addr ∧ addr ∈ node.callees ++ node.callers := by
  unfold newLabelsOf
  split_ifs with blank
  · exact .of_nothing fun addr both => both.1 blank
  · have callee : ascii "callee_of_" ++ node.label ≠ [] := by simp [ascii]
    have caller : ascii "caller_of_" ++ node.label ≠ [] := by simp [ascii]
    have called := adds_foldl node.callees names fun addr _ names => adds_offer graph callee names addr
    have calling := called.trans
      (adds_foldl node.callers _ fun addr _ names => adds_offer graph caller names addr)
    refine calling.congr fun addr => ?_
    rw [List.mem_append]
    constructor
    · rintro (⟨other, inside, rfl, isBlank⟩ | ⟨other, inside, rfl, isBlank⟩)
      · exact ⟨blank, isBlank, .inl inside⟩
      · exact ⟨blank, isBlank, .inr inside⟩
    · rintro ⟨-, isBlank, inside | inside⟩
      · exact .inl ⟨addr, inside, rfl, isBlank⟩
      · exact .inr ⟨addr, inside, rfl, isBlank⟩

/-- **A round names the blank nodes next to labelled ones**, in whatever order it walks the nodes. -/
theorem adds_newLabels (graph : CallGraphAnalyzer) (rank : Uintptr → ℕ) :
    Adds ∅ (graph.newLabels rank) fun addr =>
      graph.Blank addr ∧ ∃ other, graph.Labelled other ∧ addr ∈ graph.neighbours other := by
  refine (adds_foldl _ _ fun node _ names => adds_newLabelsOf names node).congr fun addr => ?_
  have walked {node : CallNode} :
      node ∈ (AMap.toList (AMap.reorder rank graph.nodes)).map Prod.snd
        ↔ ∃ other, graph.getNode other = some node := by
    rw [List.mem_map]
    constructor
    · rintro ⟨⟨other, node⟩, inside, rfl⟩
      exact ⟨other, (AMap.lookup_reorder rank graph.nodes other).symm.trans (AMap.mem_toList.mp inside)⟩
    · rintro ⟨other, known⟩
      exact ⟨(other, node), AMap.mem_toList.mpr ((AMap.lookup_reorder rank graph.nodes other).trans known),
        rfl⟩
  constructor
  · rintro ⟨node, inside, label, blank, next⟩
    obtain ⟨other, known⟩ := walked.mp inside
    refine ⟨blank, other, ⟨node, known, label⟩, ?_⟩
    unfold neighbours
    rwa [getCallees_of_some known, getCallers_of_some known]
  · rintro ⟨blank, other, ⟨node, known, label⟩, next⟩
    unfold neighbours at next
    rw [getCallees_of_some known, getCallers_of_some known] at next
    exact ⟨node, walked.mpr ⟨other, known⟩, label, blank, next⟩

/-! ### What labels are applied to -/

section Addr

variable (names : AMap Uintptr Bytes) (addr : Uintptr)

theorem getNode_applyLabels :
    (graph.applyLabels names).getNode addr = (graph.getNode addr).map fun node =>
      { node with label := (names.lookup addr).getD node.label } := by
  have walk (entries : List (Uintptr × Bytes)) (nodup : (entries.map Prod.fst).Nodup)
      (nodes : AMap Uintptr CallNode) (texts : Uintptr → Option Bytes)
      (each : ∀ text, (addr, text) ∈ entries ↔ texts addr = some text) :
      (entries.foldl (fun nodes entry =>
          AMap.modify entry.1 (fun node => { node with label := entry.2 }) nodes) nodes).lookup addr
        = (nodes.lookup addr).map fun node => { node with label := (texts addr).getD node.label } := by
    induction entries generalizing nodes texts with
    | nil =>
      have nothing : texts addr = none := by
        cases found : texts addr with
        | none => rfl
        | some text => exact absurd ((each text).mpr found) List.not_mem_nil
      rw [nothing]
      exact Option.map_id'.symm
    | cons entry rest ih =>
      obtain ⟨key, text⟩ := entry
      obtain ⟨absent, others⟩ := List.nodup_cons.mp nodup
      by_cases here : addr = key
      · subst here
        have found : texts addr = some text := (each text).mp List.mem_cons_self
        rw [List.foldl_cons, ih others _ (fun _ => none) fun other => ?_, found]
        · rw [AMap.lookup_modify_self, Option.map_map]
          rfl
        · refine iff_of_false (fun inside => absent ?_) (by simp)
          exact List.mem_map.mpr ⟨(addr, other), inside, rfl⟩
      · rw [List.foldl_cons, ih others _ texts fun other => ?_, AMap.lookup_modify_ne here]
        rw [← each, List.mem_cons]
        refine (or_iff_right fun same => here ?_).symm
        exact congrArg Prod.fst same
  exact walk (AMap.toList names) (AMap.toList_keys_nodup names) graph.nodes
    (fun addr => names.lookup addr) fun text => AMap.mem_toList

theorem neighbours_applyLabels : (graph.applyLabels names).neighbours addr = graph.neighbours addr := by
  unfold neighbours getCallees getCallers
  rw [getNode_applyLabels, Option.map_map, Option.map_map]
  rfl

theorem isSome_applyLabels :
    ((graph.applyLabels names).getNode addr).isSome = (graph.getNode addr).isSome := by
  rw [getNode_applyLabels, Option.isSome_map]

end Addr

theorem getNode_unnamed {names : AMap Uintptr Bytes} (unnamed : names.lookup addr = none) :
    (graph.applyLabels names).getNode addr = graph.getNode addr := by
  rw [getNode_applyLabels, unnamed]
  exact Option.map_id'

/-- With names that are not empty, the nodes that are named are labelled as well. -/
theorem labelled_applyLabels {names : AMap Uintptr Bytes}
    (texts : ∀ addr text, names.lookup addr = some text → text ≠ []) :
    (graph.applyLabels names).Labelled addr
      ↔ graph.Labelled addr ∨ (names.lookup addr).isSome = true ∧ (graph.getNode addr).isSome = true := by
  cases named : names.lookup addr with
  | none =>
    unfold Labelled
    rw [getNode_unnamed named]
    simp
  | some text =>
    unfold Labelled
    rw [getNode_applyLabels, named]
    cases known : graph.getNode addr with
    | none => simp
    | some node => simp [texts addr text named]

/-! ### Rounds -/

/-- Labels have spread so far, and so many are new. -/
structure Spread (graph last : CallGraphAnalyzer) (depth labeled : ℕ) : Prop where
  known : ∀ addr, (last.getNode addr).isSome = (graph.getNode addr).isSome
  labels : ∀ addr, last.Labelled addr ↔ (graph.getNode addr).isSome = true
    ∧ ∃ start, graph.Labelled start ∧ Within graph.neighbours start depth addr
  kept : ∀ addr node, graph.getNode addr = some node → node.label ≠ [] → last.getNode addr = some node
  count : labeled = {addr | last.Labelled addr ∧ ¬ graph.Labelled addr}.ncard

theorem Labelled.isSome (labelled : graph.Labelled addr) : (graph.getNode addr).isSome = true := by
  obtain ⟨node, known, -⟩ := labelled
  rw [known]
  rfl

theorem spread_zero : Spread graph graph 0 0 := by
  refine ⟨fun addr => rfl, fun addr => ?_, fun addr node known some => known, ?_⟩
  · constructor
    · exact fun labelled => ⟨labelled.isSome, addr, labelled, within_zero.mpr rfl⟩
    · rintro ⟨-, start, labelled, within⟩
      exact within_zero.mp within ▸ labelled
  · rw [show {addr | graph.Labelled addr ∧ ¬ graph.Labelled addr} = ∅ from ?_, Set.ncard_empty]
    ext addr
    simp

/-- The number of names. -/
theorem ncard_names (names : AMap Uintptr Bytes) :
    {addr | (names.lookup addr).isSome = true}.ncard = names.size := by
  have keys : {addr | (names.lookup addr).isSome = true} = (names.keys.toFinset : Set Uintptr) := by
    ext addr
    simp [AList.lookup_isSome, AList.mem_keys]
  rw [keys, Set.ncard_coe_finset, List.toFinset_card_of_nodup names.keys_nodup]
  simp [AMap.size, AList.keys, List.keys]

/-- **One round, and then others.** -/
theorem Spread.after_round {rank : Uintptr → ℕ} {last : CallGraphAnalyzer} {depth labeled : ℕ}
    (spread : Spread (graph.applyLabels (graph.newLabels rank)) last depth labeled) :
    Spread graph last (depth + 1) ((graph.newLabels rank).size + labeled) := by
  have adds := adds_newLabels graph rank
  have named (addr : Uintptr) : ((graph.newLabels rank).lookup addr).isSome = true
      ↔ graph.Blank addr ∧ ∃ other, graph.Labelled other ∧ addr ∈ graph.neighbours other := by
    rw [adds.named]
    exact or_iff_right Bool.false_ne_true
  have texts := adds.texts fun addr text found => absurd found (by simp)
  have round (addr : Uintptr) : (graph.applyLabels (graph.newLabels rank)).Labelled addr
      ↔ graph.Labelled addr ∨ ((graph.newLabels rank).lookup addr).isSome = true := by
    rw [labelled_applyLabels texts, and_iff_left_of_imp]
    intro new
    obtain ⟨node, known, -⟩ := ((named addr).mp new).1
    rw [known]
    rfl
  have neighbours : (graph.applyLabels (graph.newLabels rank)).neighbours = graph.neighbours :=
    funext (neighbours_applyLabels _)
  refine ⟨fun addr => (spread.known addr).trans (isSome_applyLabels _ addr), fun addr => ?_,
    fun addr node known label => ?_, ?_⟩
  · rw [spread.labels, isSome_applyLabels, neighbours]
    refine and_congr_right fun known => ?_
    constructor
    · rintro ⟨start, labelled, within⟩
      rcases (round start).mp labelled with before | new
      · exact ⟨start, before, within.mono (Nat.le_succ depth)⟩
      · obtain ⟨-, other, labelled, next⟩ := (named start).mp new
        exact ⟨other, labelled, within_left.mpr (.inr ⟨start, next, within⟩)⟩
    · rintro ⟨start, labelled, within⟩
      rcases within_left.mp within with near | ⟨next, edge, near⟩
      · exact ⟨start, (round start).mpr (.inl labelled), near⟩
      · -- the next vertex is a node: otherwise nothing is behind it
        have isNode : (graph.getNode next).isSome = true := by
          cases stored : graph.getNode next with
          | some node => rfl
          | none =>
            have stuck : graph.neighbours next = [] := by
              unfold CallGraphAnalyzer.neighbours
              rw [getCallees_of_none stored, getCallers_of_none stored, List.append_nil]
            rw [near.of_stuck stuck, stored] at known
            cases known
        refine ⟨next, (round next).mpr ?_, near⟩
        exact (labelled_or_blank isNode).imp_right fun blank =>
          (named next).mpr ⟨blank, start, labelled, edge⟩
  · refine spread.kept addr node ?_ label
    rw [getNode_unnamed ?_, known]
    rw [← Option.not_isSome_iff_eq_none, named]
    exact fun new => not_blank_of_labelled ⟨node, known, label⟩ new.1
  · have apart : Disjoint {addr | ((graph.newLabels rank).lookup addr).isSome = true}
        {addr | last.Labelled addr
          ∧ ¬ (graph.applyLabels (graph.newLabels rank)).Labelled addr} := by
      refine Set.disjoint_left.mpr fun addr new later => ?_
      exact later.2 ((round addr).mpr (.inr new))
    have stays {addr : Uintptr} (labelled : (graph.applyLabels (graph.newLabels rank)).Labelled addr) :
        last.Labelled addr := by
      obtain ⟨node, known, label⟩ := labelled
      exact ⟨node, spread.kept addr node known label, label⟩
    rw [← ncard_names, spread.count]
    have finite := uintptr_finite
    rw [← Set.ncard_union_eq apart]
    congr 1
    ext addr
    simp only [Set.mem_union, Set.mem_ofPred_eq, round]
    constructor
    · rintro (new | ⟨labelled, unlabelled⟩)
      · exact ⟨stays ((round addr).mpr (.inr new)), fun before =>
          not_blank_of_labelled before ((named addr).mp new).1⟩
      · exact ⟨labelled, fun before => unlabelled (.inl before)⟩
    · rintro ⟨labelled, unlabelled⟩
      by_cases new : ((graph.newLabels rank).lookup addr).isSome = true
      · exact .inl new
      · exact .inr ⟨labelled, fun either => either.elim unlabelled new⟩

theorem propagateRounds_spread (rank : ℕ → Uintptr → ℕ) (rounds : ℕ) (graph : CallGraphAnalyzer) :
    Spread graph (propagateRounds rank rounds graph).1 rounds (propagateRounds rank rounds graph).2 := by
  induction rounds generalizing graph with
  | zero => exact spread_zero
  | succ rounds ih => exact (ih (graph.applyLabels (graph.newLabels (rank rounds)))).after_round

/-! ### Propagation -/

/-- The nodes that are labelled once the known labels are applied. -/
def Known (graph : CallGraphAnalyzer) (knownLabels : AMap Uintptr Bytes) (addr : Uintptr) : Prop :=
  graph.Labelled addr ∨ (knownLabels.lookup addr).isSome = true ∧ (graph.getNode addr).isSome = true

/-- The labels spread to the neighbourhoods, the labels that are there stay, and those that are counted
are new. -/
structure Propagated (graph : CallGraphAnalyzer) (knownLabels : AMap Uintptr Bytes) (depth : Int32)
    (last : CallGraphAnalyzer) (labeled : ℕ) : Prop where
  nodes : ∀ addr, (last.getNode addr).isSome = (graph.getNode addr).isSome
  labels : ∀ addr, last.Labelled addr ↔ (graph.getNode addr).isSome = true
    ∧ ∃ start, graph.Known knownLabels start ∧ addr ∈ graph.getNeighborhood start depth
  given : ∀ addr node label, graph.getNode addr = some node → knownLabels.lookup addr = some label →
    last.getNode addr = some { node with label := label }
  kept : ∀ addr node, graph.getNode addr = some node → node.label ≠ [] →
    knownLabels.lookup addr = none → last.getNode addr = some node
  count : labeled = {addr | last.Labelled addr ∧ ¬ graph.Known knownLabels addr}.ncard

/-- **Labels spread exactly as far as the neighbourhoods.** -/
theorem labels_spread (image : Module) (pdata : PDataEnumerator) (rank : ℕ → Uintptr → ℕ)
    (knownLabels : AMap Uintptr Bytes) (depth : Int32)
    (texts : ∀ addr label, knownLabels.lookup addr = some label → label ≠ []) :
    Propagated (buildFullGraph image pdata) knownLabels depth
      ((buildFullGraph image pdata).propagateLabels rank knownLabels depth).1
      ((buildFullGraph image pdata).propagateLabels rank knownLabels depth).2 := by
  generalize buildFullGraph image pdata = graph
  have spread := propagateRounds_spread rank depth.toNatClampNeg (graph.applyLabels knownLabels)
  have start (addr : Uintptr) :
      (graph.applyLabels knownLabels).Labelled addr ↔ graph.Known knownLabels addr :=
    labelled_applyLabels texts
  have neighbours : (graph.applyLabels knownLabels).neighbours = graph.neighbours :=
    funext (neighbours_applyLabels _)
  refine ⟨fun addr => (spread.known addr).trans (isSome_applyLabels _ addr), fun addr => ?_,
    fun addr node label known named => ?_, fun addr node known label unnamed => ?_, ?_⟩
  · refine (spread.labels addr).trans ?_
    simp only [isSome_applyLabels, start, neighbours, mem_getNeighborhood]
  · refine spread.kept addr { node with label := label } ?_ (texts addr label named)
    rw [getNode_applyLabels, known, named]
    rfl
  · refine spread.kept addr node ?_ label
    rw [getNode_unnamed unnamed, known]
  · refine spread.count.trans ?_
    simp only [start]
    rfl

/-- Two functions, and the first one calls the second one. -/
def calling : Module where
  byte addr := if addr < 0x1005 then [0xE8, 0x0B, 0, 0, 0][(addr - 0x1000).toNat]? else some 0xCC
  textBase := 0x1000
  textSize := 0x100

def callingTable : PDataEnumerator where
  functions := [⟨0x1000, 0x1005, 5, []⟩, ⟨0x1010, 0x1020, 16, []⟩]
  sorted := by decide

/-- The label of the caller reaches the callee. -/
theorem labels_spread_callee :
    let named := (buildFullGraph calling callingTable).propagateLabels (fun _ _ => 0)
      (AList.insert 0x1000 (ascii "main") ∅) 1
    Propagated (buildFullGraph calling callingTable) (AList.insert 0x1000 (ascii "main") ∅) 1
        named.1 named.2
      ∧ named.2 = 1 ∧ (named.1.getNode 0x1010).map CallNode.label = some (ascii "callee_of_main") := by
  refine ⟨labels_spread calling callingTable (fun _ _ => 0) (AList.insert 0x1000 (ascii "main") ∅) 1 ?_,
    by decide +kernel, by decide +kernel⟩
  intro addr label found
  rw [AMap.lookup_insert_eq] at found
  split_ifs at found
  · cases found
    decide
  · cases found

end CallGraphAnalyzer

end KenshiMP
