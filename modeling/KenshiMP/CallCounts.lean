/-
**Whether a call graph counts each call once.**

Two copies of a loop enter the edges of a function into the nodes of both ends. `BuildFullGraph` begins
with an empty graph; `BuildGraphFor` goes on with the one that is there.

* `Consistent`: callees and callers hold the same pairs, the counts are the lengths of the lists of
  callers, and the total is the sum of the lengths of the lists of callees; every build keeps it
  (`Consistent.buildAll`);
* `outEdges_buildAll`: the edges out of a function are those of all builds of it since the last full one;
* `counted_iff`: each call site is entered once exactly if no function with call sites is built twice
  since then. `counted_twice`: a function is built for twice.
-/

import KenshiMP.Scanner.CallGraphFacts

namespace KenshiMP

open Wire (Bytes)
open Assoc

/-! ### Sums over a map -/

/-- The sum of a number for each value. -/
def total {K V : Type} (f : V → ℕ) (map : AMap K V) : ℕ := (map.toList.map fun entry => f entry.2).sum

section Total

variable {K V : Type} [DecidableEq K] {f : V → ℕ}

theorem total_erase (key : K) (map : AMap K V) :
    total f map = total f (AList.erase key map) + ((AList.lookup key map).map f).getD 0 := by
  obtain ⟨entries, nodup⟩ := map
  show ((entries.map _).map _).sum = (((List.kerase key entries).map _).map _).sum
    + ((List.dlookup key entries).map f).getD 0
  induction entries with
  | nil => rfl
  | cons entry rest ih =>
    obtain ⟨absent, nodup'⟩ := List.nodupKeys_cons.mp nodup
    by_cases here : key = entry.1
    · subst here
      rw [List.kerase_cons_eq rfl]
      obtain ⟨key, value⟩ := entry
      rw [List.dlookup_cons_eq]
      simp [Nat.add_comm]
    · rw [List.kerase_cons_ne here, List.dlookup_cons_ne _ _ here]
      simp only [List.map_cons, List.sum_cons]
      rw [ih nodup', Nat.add_assoc]

theorem total_insert (key : K) (value : V) (map : AMap K V) :
    total f (AList.insert key value map) + ((AList.lookup key map).map f).getD 0 = total f map + f value := by
  have inserted : total f (AList.insert key value map) = f value + total f (AList.erase key map) := by
    unfold total AMap.toList
    rw [AList.entries_insert]
    rfl
  rw [inserted, total_erase key map]
  omega

end Total

namespace CallGraphAnalyzer

variable {image : Module} {pdata : PDataEnumerator} {graph : CallGraphAnalyzer}

/-! ### A node that changes -/

/-- A list of a node, empty where there is none. -/
def listAt {β : Type} (graph : CallGraphAnalyzer) (list : CallNode → List β) (addr : Uintptr) : List β :=
  ((graph.getNode addr).map list).getD []

theorem getNode_withNode (addr other : Uintptr) (change : CallNode → CallNode) :
    (graph.withNode addr change).getNode other
      = if other = addr then some (change ((graph.getNode addr).getD { address := addr }))
        else graph.getNode other :=
  AMap.lookup_insert_eq _ _ _ _

/-- A change that appends to a list. -/
theorem listAt_withNode {β : Type} (graph : CallGraphAnalyzer) (list : CallNode → List β)
    (addr : Uintptr) (change : CallNode → CallNode) (new : List β)
    (fresh : ∀ addr, list { address := addr } = [])
    (appends : ∀ node, list (change node) = list node ++ new) (other : Uintptr) :
    (graph.withNode addr change).listAt list other
      = graph.listAt list other ++ if other = addr then new else [] := by
  unfold listAt
  rw [getNode_withNode]
  split_ifs with here
  · subst here
    rw [Option.map_some, Option.getD_some, appends]
    cases graph.getNode other with
    | none => rw [Option.getD_none, fresh]; rfl
    | some node => rfl
  · rw [List.append_nil]

/-- A change that leaves a list. -/
theorem listAt_withNode_same {β : Type} (graph : CallGraphAnalyzer) (list : CallNode → List β)
    (addr : Uintptr) (change : CallNode → CallNode) (fresh : ∀ addr, list { address := addr } = [])
    (same : ∀ node, list (change node) = list node) (other : Uintptr) :
    (graph.withNode addr change).listAt list other = graph.listAt list other := by
  rw [listAt_withNode graph list addr change [] fresh fun node => by rw [same, List.append_nil]]
  rw [ite_self, List.append_nil]

/-- What holds of a new node, and is kept by a change, holds of all nodes afterwards. -/
theorem nodes_withNode {P : CallNode → Prop} {addr : Uintptr} {change : CallNode → CallNode}
    (each : ∀ other node, graph.getNode other = some node → P node) (fresh : P { address := addr })
    (kept : ∀ node, P node → P (change node)) :
    ∀ other node, (graph.withNode addr change).getNode other = some node → P node := by
  intro other node found
  rw [getNode_withNode] at found
  split_ifs at found
  · cases found
    refine kept _ ?_
    cases stored : graph.getNode addr with
    | none => exact fresh
    | some node => exact each addr node stored
  · exact each other node found

/-- The sum grows by what the change adds. -/
theorem total_withNode (graph : CallGraphAnalyzer) (f : CallNode → ℕ) (addr : Uintptr)
    (change : CallNode → CallNode) (more : ℕ) (fresh : f { address := addr } = 0)
    (adds : ∀ node, f (change node) = f node + more) :
    total f (graph.withNode addr change).nodes = total f graph.nodes + more := by
  have inserted := @total_insert Uintptr CallNode _ f addr
    (change ((graph.getNode addr).getD { address := addr })) graph.nodes
  have before : ((AList.lookup addr graph.nodes).map f).getD 0
      = f ((graph.getNode addr).getD { address := addr }) := by
    show ((graph.getNode addr).map f).getD 0 = _
    cases graph.getNode addr with
    | none => exact fresh.symm
    | some node => rfl
  rw [before, adds] at inserted
  show total f (AList.insert addr _ graph.nodes) = _
  omega

/-! ### One edge -/

/-- The lists of the nodes agree, and the counts are their lengths. -/
structure Consistent (graph : CallGraphAnalyzer) : Prop where
  pairs : ∀ a b, (graph.getCallees a).count b = (graph.getCallers b).count a
  counts : ∀ addr node, graph.getNode addr = some node → node.callCount = node.callers.length
  edges : graph.totalEdges = total (fun node => node.callees.length) graph.nodes

/-- The edges out of a function. -/
def outEdges (graph : CallGraphAnalyzer) (addr : Uintptr) : List CallEdge :=
  graph.listAt CallNode.outEdges addr

theorem consistent_empty : Consistent {} :=
  ⟨fun _ _ => rfl, fun _ _ found => (by cases found), rfl⟩

/-- A node gets its label. -/
theorem Consistent.relabel (consistent : graph.Consistent) (addr : Uintptr) (label : Bytes) :
    (graph.withNode addr (CallNode.labelWith label)).Consistent := by
  refine ⟨fun a b => ?_, nodes_withNode consistent.counts rfl fun node same => same, ?_⟩
  · have callees := listAt_withNode_same graph CallNode.callees addr (CallNode.labelWith label)
      (fun _ => rfl) fun _ => rfl
    have callers := listAt_withNode_same graph CallNode.callers addr (CallNode.labelWith label)
      (fun _ => rfl) fun _ => rfl
    show List.count b (listAt _ CallNode.callees a) = List.count a (listAt _ CallNode.callers b)
    rw [callees, callers]
    exact consistent.pairs a b
  · have callees := total_withNode graph (fun node => node.callees.length) addr
      (CallNode.labelWith label) 0 rfl fun _ => rfl
    exact consistent.edges.trans callees.symm

theorem outEdges_relabel (addr other : Uintptr) (label : Bytes) :
    (graph.withNode addr (CallNode.labelWith label)).outEdges other = graph.outEdges other :=
  listAt_withNode_same graph CallNode.outEdges addr (CallNode.labelWith label) (fun _ => rfl)
    (fun _ => rfl) other

/-- The lists of both ends. -/
theorem lists_addEdge (caller other : Uintptr) (edge : CallEdge) :
    (CallGraphAnalyzer.addEdge pdata caller graph edge).getCallees other
        = graph.getCallees other ++ (if other = caller then [calleeStart pdata edge] else [])
      ∧ (CallGraphAnalyzer.addEdge pdata caller graph edge).getCallers other
        = graph.getCallers other ++ (if other = calleeStart pdata edge then [caller] else [])
      ∧ (CallGraphAnalyzer.addEdge pdata caller graph edge).outEdges other
        = graph.outEdges other ++ if other = caller then [edge] else [] := by
  let called := graph.withNode (calleeStart pdata edge) (CallNode.calledBy caller)
  have callees : called.listAt CallNode.callees other = graph.getCallees other :=
    listAt_withNode_same graph CallNode.callees (calleeStart pdata edge) (CallNode.calledBy caller)
      (fun _ => rfl) (fun _ => rfl) other
  have outs : called.listAt CallNode.outEdges other = graph.outEdges other :=
    listAt_withNode_same graph CallNode.outEdges (calleeStart pdata edge) (CallNode.calledBy caller)
      (fun _ => rfl) (fun _ => rfl) other
  refine ⟨?_, ?_, ?_⟩
  · refine (listAt_withNode called CallNode.callees caller (CallNode.calls (calleeStart pdata edge) edge)
      [calleeStart pdata edge] (fun _ => rfl) (fun _ => rfl) other).trans ?_
    rw [callees]
  · refine (listAt_withNode_same called CallNode.callers caller
      (CallNode.calls (calleeStart pdata edge) edge) (fun _ => rfl) (fun _ => rfl) other).trans ?_
    exact listAt_withNode graph CallNode.callers (calleeStart pdata edge) (CallNode.calledBy caller)
      [caller] (fun _ => rfl) (fun _ => rfl) other
  · refine (listAt_withNode called CallNode.outEdges caller
      (CallNode.calls (calleeStart pdata edge) edge) [edge] (fun _ => rfl) (fun _ => rfl) other).trans ?_
    rw [outs]

/-- **One edge**: both ends get it. -/
theorem Consistent.addEdge (consistent : graph.Consistent) (caller : Uintptr) (edge : CallEdge) :
    (CallGraphAnalyzer.addEdge pdata caller graph edge).Consistent := by
  refine ⟨fun a b => ?_, ?_, ?_⟩
  · rw [(lists_addEdge caller a edge).1, (lists_addEdge caller b edge).2.1, List.count_append,
      List.count_append, consistent.pairs]
    congr 1
    by_cases ofCaller : a = caller
    · by_cases ofCallee : b = calleeStart pdata edge
      · rw [if_pos ofCaller, if_pos ofCallee, ofCaller, ofCallee, List.count_singleton_self,
          List.count_singleton_self]
      · rw [if_pos ofCaller, if_neg ofCallee, List.count_nil,
          List.count_eq_zero.mpr fun inside => ofCallee (List.mem_singleton.mp inside)]
    · by_cases ofCallee : b = calleeStart pdata edge
      · rw [if_neg ofCaller, if_pos ofCallee, List.count_nil,
          List.count_eq_zero.mpr fun inside => ofCaller (List.mem_singleton.mp inside)]
      · rw [if_neg ofCaller, if_neg ofCallee, List.count_nil, List.count_nil]
  · refine nodes_withNode ?_ rfl fun node same => same
    refine nodes_withNode consistent.counts rfl fun node same => ?_
    show node.callCount + 1 = (node.callers ++ [caller]).length
    rw [same, List.length_append, List.length_singleton]
  · let called := graph.withNode (calleeStart pdata edge) (CallNode.calledBy caller)
    have calling := total_withNode called (fun node => node.callees.length) caller
      (CallNode.calls (calleeStart pdata edge) edge) 1 rfl fun node => List.length_append
    have before := total_withNode graph (fun node => node.callees.length) (calleeStart pdata edge)
      (CallNode.calledBy caller) 0 rfl fun _ => rfl
    calc graph.totalEdges + 1
        = total (fun node => node.callees.length) graph.nodes + 1 := by rw [consistent.edges]
      _ = total (fun node => node.callees.length) called.nodes + 1 := by rw [before]
      _ = _ := calling.symm

/-! ### One function -/

theorem Consistent.buildNode (consistent : graph.Consistent) (func : FunctionEntry)
    (edges : List CallEdge) : (CallGraphAnalyzer.buildNode pdata graph func edges).Consistent := by
  have each (graph : CallGraphAnalyzer) (consistent : graph.Consistent) :
      (edges.foldl (CallGraphAnalyzer.addEdge pdata func.startVA) graph).Consistent := by
    induction edges generalizing graph with
    | nil => exact consistent
    | cons edge rest ih => exact ih _ (consistent.addEdge func.startVA edge)
  exact each _ (consistent.relabel func.startVA func.label)

theorem outEdges_buildNode (func : FunctionEntry) (edges : List CallEdge) (addr : Uintptr) :
    (CallGraphAnalyzer.buildNode pdata graph func edges).outEdges addr
      = graph.outEdges addr ++ if addr = func.startVA then edges else [] := by
  have each (graph : CallGraphAnalyzer) :
      (edges.foldl (CallGraphAnalyzer.addEdge pdata func.startVA) graph).outEdges addr
        = graph.outEdges addr ++ if addr = func.startVA then edges else [] := by
    induction edges generalizing graph with
    | nil => simp
    | cons edge rest ih =>
      rw [List.foldl_cons, ih, (lists_addEdge func.startVA addr edge).2.2, List.append_assoc]
      split_ifs
      · rfl
      · rfl
  unfold CallGraphAnalyzer.buildNode
  rw [each, outEdges_relabel]

/-! ### Sequences of builds -/

inductive Build where
  | full
  | subset (functionAddrs : List Uintptr)

def build (image : Module) (pdata : PDataEnumerator) (graph : CallGraphAnalyzer) : Build → CallGraphAnalyzer
  | .full => buildFullGraph image pdata
  | .subset functionAddrs => buildGraphFor image pdata graph functionAddrs

def buildAll (image : Module) (pdata : PDataEnumerator) (builds : List Build) : CallGraphAnalyzer :=
  builds.foldl (build image pdata) {}

/-- The functions that have been built since the last full graph, in order. -/
def builtSince (pdata : PDataEnumerator) (built : List FunctionEntry) : Build → List FunctionEntry
  | .full => pdata.functions
  | .subset functionAddrs => built ++ functionAddrs.filterMap (functionAt pdata)

def built (pdata : PDataEnumerator) (builds : List Build) : List FunctionEntry :=
  builds.foldl (builtSince pdata) []

/-- The calls of a function. -/
def sites (image : Module) (func : FunctionEntry) : List CallEdge :=
  image.analyzeFunction func.startVA func.size

/-- Each call site of each function that has been built is on one entry of the edges out of it. -/
def CountsOnce (image : Module) (pdata : PDataEnumerator) (builds : List Build) : Prop :=
  ∀ func ∈ built pdata builds, ∀ edge ∈ sites image func,
    ((buildAll image pdata builds).outEdges func.startVA).countP
      (fun entry => entry.callSite = edge.callSite) = 1

/-- No two of the builds of functions with call sites are of one address. -/
def BuiltOnce (image : Module) (pdata : PDataEnumerator) (builds : List Build) : Prop :=
  (((built pdata builds).filter fun func => sites image func ≠ []).map FunctionEntry.startVA).Nodup

theorem Consistent.buildFull (consistent : graph.Consistent) (func : FunctionEntry) :
    (CallGraphAnalyzer.buildFull image pdata graph func).Consistent := by
  unfold CallGraphAnalyzer.buildFull
  simp only
  split_ifs
  · exact consistent
  · exact consistent
  · exact consistent.buildNode func _

theorem Consistent.buildFor (consistent : graph.Consistent) (addr : Uintptr) :
    (CallGraphAnalyzer.buildFor image pdata graph addr).Consistent := by
  unfold CallGraphAnalyzer.buildFor
  cases functionAt pdata addr with
  | none => exact consistent
  | some func => exact consistent.buildNode func _

/-- A walk whose steps keep the graph consistent. -/
theorem consistent_foldl {β : Type} {f : CallGraphAnalyzer → β → CallGraphAnalyzer} (list : List β)
    (step : ∀ graph entry, Consistent graph → (f graph entry).Consistent)
    (consistent : graph.Consistent) : (list.foldl f graph).Consistent := by
  induction list generalizing graph with
  | nil => exact consistent
  | cons entry rest ih => exact ih (step graph entry consistent)

/-- **Every sequence of builds leaves a consistent graph.** -/
theorem consistent_buildAll (image : Module) (pdata : PDataEnumerator) (builds : List Build) :
    (buildAll image pdata builds).Consistent := by
  refine consistent_foldl builds (fun graph one consistent => ?_) consistent_empty
  cases one with
  | full =>
    exact consistent_foldl pdata.functions (fun _ func consistent => consistent.buildFull func)
      consistent_empty
  | subset functionAddrs =>
    exact consistent_foldl functionAddrs (fun _ addr consistent => consistent.buildFor addr) consistent

/-! ### The edges out of a function -/

/-- A function that is too short for a call has none. -/
theorem sites_short {func : FunctionEntry} (short : func.size < 5) : sites image func = [] := by
  have size : func.size.toNat < 5 := short
  unfold sites Module.analyzeFunction
  split_ifs
  · rfl
  · cases fuel : func.size.toNat with
    | zero => rfl
    | succ fuel =>
      rw [fuel] at size
      unfold Module.sweep
      rw [if_neg]
      simp only [Bool.and_eq_true, decide_eq_true_eq, not_and]
      omega

/-- The calls of the functions at an address. -/
def callsAt (image : Module) (functions : List FunctionEntry) (addr : Uintptr) : List CallEdge :=
  functions.flatMap fun func => if addr = func.startVA then sites image func else []

theorem outEdges_buildFull (func : FunctionEntry) (addr : Uintptr) :
    (CallGraphAnalyzer.buildFull image pdata graph func).outEdges addr
      = graph.outEdges addr ++ if addr = func.startVA then sites image func else [] := by
  unfold CallGraphAnalyzer.buildFull
  by_cases short : func.size < 5
  · rw [if_pos short, sites_short short, ite_self, List.append_nil]
  · rw [if_neg short]
    show (if sites image func = [] then graph
      else CallGraphAnalyzer.buildNode pdata graph func (sites image func)).outEdges addr = _
    by_cases none : sites image func = []
    · rw [if_pos none, none, ite_self, List.append_nil]
    · rw [if_neg none, outEdges_buildNode]

theorem outEdges_buildFor (addr' addr : Uintptr) :
    (CallGraphAnalyzer.buildFor image pdata graph addr').outEdges addr
      = graph.outEdges addr ++ callsAt image (functionAt pdata addr').toList addr := by
  unfold CallGraphAnalyzer.buildFor callsAt
  cases functionAt pdata addr' with
  | none => simp
  | some func =>
    rw [outEdges_buildNode]
    simp [sites]

theorem outEdges_foldl_buildFull (list : List FunctionEntry) (graph : CallGraphAnalyzer) (addr : Uintptr) :
    (list.foldl (CallGraphAnalyzer.buildFull image pdata) graph).outEdges addr
      = graph.outEdges addr ++ callsAt image list addr := by
  induction list generalizing graph with
  | nil => exact (List.append_nil _).symm
  | cons func rest ih =>
    rw [List.foldl_cons, ih, outEdges_buildFull, List.append_assoc]
    rfl

theorem outEdges_foldl_buildFor (list : List Uintptr) (graph : CallGraphAnalyzer) (addr : Uintptr) :
    (list.foldl (CallGraphAnalyzer.buildFor image pdata) graph).outEdges addr
      = graph.outEdges addr ++ callsAt image (list.filterMap (functionAt pdata)) addr := by
  induction list generalizing graph with
  | nil => exact (List.append_nil _).symm
  | cons addr' rest ih =>
    rw [List.foldl_cons, ih, outEdges_buildFor, List.append_assoc]
    cases found : functionAt pdata addr' with
    | none =>
      rw [List.filterMap_cons_none found]
      rfl
    | some func =>
      rw [List.filterMap_cons_some found]
      simp [callsAt]

/-- **The edges out of a function** are those of all builds of it since the last full graph. -/
theorem outEdges_buildAll (image : Module) (pdata : PDataEnumerator) (builds : List Build)
    (addr : Uintptr) :
    (buildAll image pdata builds).outEdges addr = callsAt image (built pdata builds) addr := by
  have each (builds : List Build) (graph : CallGraphAnalyzer) (functions : List FunctionEntry)
      (before : graph.outEdges addr = callsAt image functions addr) :
      (builds.foldl (build image pdata) graph).outEdges addr
        = callsAt image (builds.foldl (builtSince pdata) functions) addr := by
    induction builds generalizing graph functions with
    | nil => exact before
    | cons one rest ih =>
      refine ih _ _ ?_
      cases one with
      | full => exact outEdges_foldl_buildFull pdata.functions {} addr
      | subset functionAddrs =>
        refine (outEdges_foldl_buildFor functionAddrs graph addr).trans ?_
        rw [before]
        exact List.flatMap_append.symm
  exact each builds {} [] rfl

/-! ### Call sites -/

/-- What a sweep does at an offset: the edge that it reports, and where it goes on. -/
def look (image : Module) (funcAddr : Uintptr) (i : ℕ) : Option (Option CallEdge × ℕ) :=
  match image.byte (funcAddr + UInt64.ofNat i) with
  | none => none
  | some opcode =>
    if opcode = 0xE8 || opcode = 0xE9 then
      (image.readInt32 (funcAddr + UInt64.ofNat i + 1)).map fun rel =>
        (image.branch funcAddr (funcAddr + UInt64.ofNat i) opcode rel, i + 5)
    else some (none, i + 1)

theorem look_next {funcAddr : Uintptr} {i next : ℕ} {edge : Option CallEdge}
    (looked : look image funcAddr i = some (edge, next)) : i < next := by
  unfold look at looked
  split at looked
  · cases looked
  · split_ifs at looked
    · obtain ⟨rel, -, same⟩ := Option.map_eq_some_iff.mp looked
      cases same
      omega
    · cases looked
      omega

theorem look_site {funcAddr : Uintptr} {i next : ℕ} {edge : CallEdge}
    (looked : look image funcAddr i = some (some edge, next)) :
    edge.callSite = funcAddr + UInt64.ofNat i := by
  unfold look at looked
  split at looked
  · cases looked
  · split_ifs at looked
    · obtain ⟨rel, -, same⟩ := Option.map_eq_some_iff.mp looked
      have reported : image.branch funcAddr (funcAddr + UInt64.ofNat i) _ rel = some edge :=
        congrArg Prod.fst same
      unfold Module.branch at reported
      simp only at reported
      split_ifs at reported
      cases reported
      rfl
    · cases looked

/-- One offset of a sweep. -/
theorem sweep_succ (funcAddr : Uintptr) (funcSize fuel i room : ℕ) :
    image.sweep funcAddr funcSize (fuel + 1) i room
      = if i + 5 ≤ funcSize && 0 < room then
          match look image funcAddr i with
          | none => []
          | some (none, next) => image.sweep funcAddr funcSize fuel next room
          | some (some edge, next) => edge :: image.sweep funcAddr funcSize fuel next (room - 1)
        else [] := by
  rw [Module.sweep]
  split_ifs
  · unfold look
    cases byte : image.byte (funcAddr + UInt64.ofNat i) with
    | none => simp only [byte]
    | some opcode =>
      by_cases opens : (decide (opcode = 0xE8) || decide (opcode = 0xE9)) = true
      · cases operand : image.readInt32 (funcAddr + UInt64.ofNat i + 1) with
        | none => simp only [byte, opens, if_true, operand, Option.map_none]
        | some rel =>
          simp only [byte, opens, if_true, operand, Option.map_some]
          cases image.branch funcAddr (funcAddr + UInt64.ofNat i) opcode rel with
          | none => rfl
          | some edge => rfl
      · simp only [byte, opens]
        rfl
  · rfl

/-- The sites of a sweep are apart, and not before its offset. -/
theorem sweep_sites {funcAddr : Uintptr} {funcSize : ℕ} (bound : funcSize < 2 ^ 64) (fuel i room : ℕ) :
    (∀ edge ∈ image.sweep funcAddr funcSize fuel i room, ∃ j, i ≤ j ∧ j < funcSize
        ∧ edge.callSite = funcAddr + UInt64.ofNat j)
      ∧ ((image.sweep funcAddr funcSize fuel i room).map CallEdge.callSite).Nodup := by
  induction fuel generalizing i room with
  | zero => exact ⟨fun edge inside => absurd inside List.not_mem_nil, List.nodup_nil⟩
  | succ fuel ih =>
    rw [sweep_succ]
    split_ifs with goes
    · have inside : i < funcSize := by
        have both := (Bool.and_eq_true _ _).mp goes
        have fits := of_decide_eq_true both.1
        omega
      cases looked : look image funcAddr i with
      | none => exact ⟨fun edge inside => absurd inside List.not_mem_nil, List.nodup_nil⟩
      | some found =>
        obtain ⟨edge, next⟩ := found
        have further := look_next looked
        cases edge with
        | none =>
          obtain ⟨sites, apart⟩ := ih next room
          refine ⟨fun other member => ?_, apart⟩
          obtain ⟨j, least, more⟩ := sites other member
          exact ⟨j, by omega, more⟩
        | some edge =>
          obtain ⟨sites, apart⟩ := ih next (room - 1)
          refine ⟨fun other member => ?_, ?_⟩
          · rcases List.mem_cons.mp member with rfl | later
            · exact ⟨i, Nat.le_refl i, inside, look_site looked⟩
            · obtain ⟨j, least, more⟩ := sites other later
              exact ⟨j, by omega, more⟩
          · refine List.nodup_cons.mpr ⟨fun again => ?_, apart⟩
            obtain ⟨other, later, same⟩ := List.mem_map.mp again
            obtain ⟨j, least, less, site⟩ := sites other later
            have here : funcAddr + UInt64.ofNat j = funcAddr + UInt64.ofNat i :=
              site.symm.trans (same.trans (look_site looked))
            have offsets := congrArg UInt64.toNat ((UInt64.add_right_inj funcAddr).mp here)
            rw [UInt64.toNat_ofNat_of_lt' (less.trans bound),
              UInt64.toNat_ofNat_of_lt' (inside.trans bound)] at offsets
            omega
    · exact ⟨fun edge inside => absurd inside List.not_mem_nil, List.nodup_nil⟩

/-- Of two sweeps of a function that find calls, the first call is the same. -/
theorem sweep_first {funcAddr : Uintptr} {one two fuel fuel' i room : ℕ}
    (some : image.sweep funcAddr one fuel i room ≠ [])
    (some' : image.sweep funcAddr two fuel' i room ≠ []) :
    (image.sweep funcAddr one fuel i room).head? = (image.sweep funcAddr two fuel' i room).head? := by
  induction fuel generalizing fuel' i with
  | zero => exact absurd rfl some
  | succ fuel ih =>
    cases fuel' with
    | zero => exact absurd rfl some'
    | succ fuel' =>
      rw [sweep_succ] at some some' ⊢
      rw [sweep_succ]
      split_ifs at some some' ⊢
      · cases looked : look image funcAddr i with
        | none => rfl
        | some found =>
          obtain ⟨edge, next⟩ := found
          rw [looked] at some some'
          cases edge with
          | none => exact ih some some'
          | some edge => rfl
      all_goals first | exact absurd rfl some | exact absurd rfl some'

theorem sites_nodup (image : Module) (func : FunctionEntry) :
    ((sites image func).map CallEdge.callSite).Nodup := by
  unfold sites Module.analyzeFunction
  split_ifs
  · exact List.nodup_nil
  · exact (sweep_sites func.size.toNat_lt _ 0 MAX_EDGES_PER_FUNC).2

/-- Builds of one address that find calls find the same first call. -/
theorem sites_first {one two : FunctionEntry} (same : one.startVA = two.startVA)
    (some : sites image one ≠ []) (some' : sites image two ≠ []) :
    (sites image one).head? = (sites image two).head? := by
  unfold sites Module.analyzeFunction at some some' ⊢
  rw [same] at some ⊢
  split_ifs at some some' ⊢
  all_goals first | contradiction | exact sweep_first some some'

/-! ### Each call once -/

theorem callsAt_filter (functions : List FunctionEntry) (addr : Uintptr) :
    callsAt image functions addr
      = ((functions.filter fun func => sites image func ≠ []).filter fun func => func.startVA = addr).flatMap
          (sites image) := by
  unfold callsAt
  induction functions with
  | nil => rfl
  | cons func rest ih =>
    rw [List.flatMap_cons, ih]
    by_cases none : sites image func = []
    · rw [List.filter_cons_of_neg (by simp [none]), none, ite_self, List.nil_append]
    · rw [List.filter_cons_of_pos (by simp [none])]
      by_cases here : func.startVA = addr
      · rw [List.filter_cons_of_pos (by simp [here]), if_pos here.symm, List.flatMap_cons]
      · rw [List.filter_cons_of_neg (by simp [here]), if_neg (Ne.symm here), List.nil_append]

/-- Among entries with different keys, one has its key. -/
theorem filter_key {β : Type} {key : β → Uintptr} {list : List β} (apart : (list.map key).Nodup)
    {entry : β} (inside : entry ∈ list) : (list.filter fun other => key other = key entry) = [entry] := by
  induction list with
  | nil => exact absurd inside List.not_mem_nil
  | cons first rest ih =>
    obtain ⟨absent, apart⟩ := List.nodup_cons.mp apart
    rcases List.mem_cons.mp inside with rfl | later
    · rw [List.filter_cons_of_pos (by simp), List.filter_eq_nil_iff.mpr fun other member => ?_]
      intro same
      exact absent (List.mem_map.mpr ⟨other, member, of_decide_eq_true same⟩)
    · have other : key first ≠ key entry := fun same =>
        absent (same ▸ List.mem_map_of_mem later)
      rw [List.filter_cons_of_neg (by simp [other]), ih apart later]

theorem countP_site {edges : List CallEdge} {edge : CallEdge} (inside : edge ∈ edges) :
    0 < edges.countP fun entry => entry.callSite = edge.callSite :=
  List.countP_pos_iff.mpr ⟨edge, inside, decide_eq_true rfl⟩

theorem countP_site_nodup {edges : List CallEdge} (apart : (edges.map CallEdge.callSite).Nodup)
    {edge : CallEdge} (inside : edge ∈ edges) :
    (edges.countP fun entry => entry.callSite = edge.callSite) = 1 := by
  rw [List.countP_eq_length_filter, filter_key apart inside, List.length_singleton]

theorem countsOnce_of_builtOnce {builds : List Build} (once : BuiltOnce image pdata builds) :
    CountsOnce image pdata builds := by
  intro func member edge inside
  have some : sites image func ≠ [] := List.ne_nil_of_mem inside
  have kept : func ∈ (built pdata builds).filter fun func => sites image func ≠ [] :=
    List.mem_filter.mpr ⟨member, decide_eq_true some⟩
  rw [outEdges_buildAll, callsAt_filter, filter_key once kept, List.flatMap_singleton]
  exact countP_site_nodup (sites_nodup image func) inside

theorem builtOnce_of_countsOnce {builds : List Build} (once : CountsOnce image pdata builds) :
    BuiltOnce image pdata builds := by
  refine List.nodup_iff_count_le_one.mpr fun addr => ?_
  by_contra more
  have counted : List.count addr
        (((built pdata builds).filter fun func => sites image func ≠ []).map FunctionEntry.startVA)
      = (((built pdata builds).filter fun func => sites image func ≠ []).filter fun func =>
          func.startVA = addr).length := by
    rw [List.count, List.countP_map, List.countP_eq_length_filter]
    rfl
  rw [counted] at more
  -- two builds of the address, and the first call is a call of both
  have mem (func : FunctionEntry)
      (inside : func ∈ ((built pdata builds).filter fun func => sites image func ≠ []).filter
        fun func => func.startVA = addr) :
      func ∈ built pdata builds ∧ sites image func ≠ [] ∧ func.startVA = addr := by
    obtain ⟨kept, here⟩ := List.mem_filter.mp inside
    obtain ⟨member, some⟩ := List.mem_filter.mp kept
    exact ⟨member, of_decide_eq_true some, of_decide_eq_true here⟩
  match found : ((built pdata builds).filter fun func => sites image func ≠ []).filter
      (fun func => func.startVA = addr) with
  | [] =>
    rw [found] at more
    exact more (Nat.zero_le 1)
  | [one] =>
    rw [found] at more
    exact more (Nat.le_refl 1)
  | one :: two :: rest =>
    rw [found] at mem
    obtain ⟨member, some, here⟩ := mem one List.mem_cons_self
    obtain ⟨-, some', here'⟩ := mem two (List.mem_cons_of_mem _ List.mem_cons_self)
    obtain ⟨edge, others, first⟩ := List.exists_cons_of_ne_nil some
    have inside : edge ∈ sites image one := first ▸ List.mem_cons_self
    have inside' : edge ∈ sites image two := by
      refine List.mem_of_head? ?_
      rw [← sites_first (here.trans here'.symm) some some', first]
      rfl
    have single := once one member edge inside
    rw [here, outEdges_buildAll, callsAt_filter, found, List.flatMap_cons, List.flatMap_cons,
      List.countP_append, List.countP_append] at single
    have count := countP_site inside
    have count' := countP_site inside'
    omega

/-- **Each call is counted once exactly if no function with calls is built twice.** -/
theorem counted_iff (image : Module) (pdata : PDataEnumerator) (builds : List Build) :
    (buildAll image pdata builds).Consistent ∧ CountsOnce image pdata builds
      ↔ BuiltOnce image pdata builds :=
  ⟨fun both => builtOnce_of_countsOnce both.2, fun once =>
    ⟨consistent_buildAll image pdata builds, countsOnce_of_builtOnce once⟩⟩

/-- A function that calls another one. -/
def callingOne : Module where
  byte addr := if addr < 0x1005 then [0xE8, 0x0B, 0, 0, 0][(addr - 0x1000).toNat]? else some 0xCC
  textBase := 0x1000
  textSize := 0x100

def oneTable : PDataEnumerator where
  functions := [⟨0x1000, 0x1005, 5, []⟩]
  sorted := by decide

/-- The graph is built for the function, and for an address inside it: the call is there twice. -/
theorem counted_twice :
    (buildAll callingOne oneTable [.subset [0x1000, 0x1002]]).getCallers 0x1010 = [0x1000, 0x1000]
      ∧ ¬ CountsOnce callingOne oneTable [.subset [0x1000, 0x1002]] := by
  refine ⟨by decide +kernel, fun once => ?_⟩
  have single := once ⟨0x1000, 0x1005, 5, []⟩ (by decide +kernel)
    ⟨0x1000, 0x1010, 0x1000, true, false⟩ (by decide +kernel)
  exact absurd single (by decide +kernel)

end CallGraphAnalyzer

end KenshiMP
