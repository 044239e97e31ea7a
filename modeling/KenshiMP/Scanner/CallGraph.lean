/-
**The call graph of the functions of a module.**

`analyzeFunction` looks at the bytes of a function one after the other: a byte that is the opcode of a
direct call or jump is taken for one, wherever it stands, and the four bytes behind it for its operand.
`buildFullGraph` and `buildGraphFor` enter the edges it finds into the nodes of both ends, in two copies
of one loop (`addEdge`). `findCallPath` and `getNeighborhood` search the nodes breadth-first;
`propagateLabels` goes in rounds.

The searches take fuel for the vertices they can visit; signed overflow, which the source language
leaves undefined, wraps around here. The rounds walk the nodes in the order of a hash table, which is
any order (`rank`).
-/

import KenshiMP.Lib.Assoc
import KenshiMP.Lib.Wire

namespace KenshiMP

open Wire (Bytes ascii)
open Assoc

/-- `uintptr_t`. -/
abbrev Uintptr := UInt64

/-! ### The function table -/

structure FunctionEntry where
  startVA : Uintptr
  endVA : Uintptr
  size : UInt64
  label : Bytes := []
deriving DecidableEq

/-- The functions, sorted by their start addresses. -/
structure PDataEnumerator where
  functions : List FunctionEntry
  sorted : functions.Pairwise fun first second => first.startVA ≤ second.startVA

namespace PDataEnumerator

variable (pdata : PDataEnumerator)

/-- The first function that does not start below the address, if it starts there. -/
def findFunction (address : Uintptr) : Option FunctionEntry :=
  (pdata.functions.find? fun f => ¬ f.startVA < address).filter fun f => f.startVA = address

/-- The last function that does not start behind the address, if the address is inside. -/
def findContaining (address : Uintptr) : Option FunctionEntry :=
  (pdata.functions.takeWhile fun f => ¬ address < f.startVA).getLast?.filter fun f =>
    f.startVA ≤ address && address < f.endVA

end PDataEnumerator

/-! ### The graph -/

structure CallEdge where
  callerAddr : Uintptr
  calleeAddr : Uintptr
  callSite : Uintptr
  isDirectCall : Bool := true
  isJmp : Bool := false
deriving DecidableEq

structure CallNode where
  address : Uintptr := 0
  label : Bytes := []
  callers : List Uintptr := []
  callees : List Uintptr := []
  outEdges : List CallEdge := []
  callCount : Nat := 0
deriving DecidableEq

namespace CallNode

def labelWith (label : Bytes) (node : CallNode) : CallNode := { node with label := label }

/-- One more call of the function. -/
def calledBy (caller : Uintptr) (node : CallNode) : CallNode :=
  { node with callCount := node.callCount + 1, callers := node.callers ++ [caller] }

/-- One more call in the function. -/
def calls (callee : Uintptr) (edge : CallEdge) (node : CallNode) : CallNode :=
  { node with callees := node.callees ++ [callee], outEdges := node.outEdges ++ [edge] }

end CallNode

/-- The module: its readable bytes, and its code section. -/
structure Module where
  byte : Uintptr → Option UInt8
  textBase : Uintptr
  textSize : UInt64

structure CallGraphAnalyzer where
  nodes : AMap Uintptr CallNode := ∅
  totalEdges : Nat := 0

def MAX_EDGES_PER_FUNC : Nat := 4096

/-- Four bytes, the lowest first. -/
def int32 (b0 b1 b2 b3 : UInt8) : Int32 :=
  ⟨b0.toUInt32 ||| b1.toUInt32 <<< 8 ||| b2.toUInt32 <<< 16 ||| b3.toUInt32 <<< 24⟩

namespace Module

variable (image : Module)

def isInText (addr : Uintptr) : Bool :=
  image.textBase ≤ addr && addr < image.textBase + image.textSize

def readInt32 (addr : Uintptr) : Option Int32 := do
  let b0 ← image.byte addr
  let b1 ← image.byte (addr + 1)
  let b2 ← image.byte (addr + 2)
  let b3 ← image.byte (addr + 3)
  pure (int32 b0 b1 b2 b3)

/-- Where a call or a jump with this operand goes. -/
def target (instrAddr : Uintptr) (rel : Int32) : Uintptr := instrAddr + 5 + rel.toInt64.toUInt64

/-- The edge of a branch that is reported: a call within the code section, or a jump to another
function there. -/
def branch (funcAddr instrAddr : Uintptr) (opcode : UInt8) (rel : Int32) : Option CallEdge :=
  let callee := target instrAddr rel
  if image.isInText callee && (opcode = 0xE8 || callee ≠ funcAddr) then
    some ⟨funcAddr, callee, instrAddr, true, opcode = 0xE9⟩
  else none

/-- The bytes from one on, as long as there is room for edges. A byte that cannot be read ends it. -/
def sweep (funcAddr : Uintptr) (funcSize : Nat) : (fuel i room : Nat) → List CallEdge
  | 0, _, _ => []
  | fuel + 1, i, room =>
    if i + 5 ≤ funcSize && 0 < room then
      let instrAddr := funcAddr + UInt64.ofNat i
      match image.byte instrAddr with
      | none => []
      | some opcode =>
        if opcode = 0xE8 || opcode = 0xE9 then
          match image.readInt32 (instrAddr + 1) with
          | none => []
          | some rel =>
            match image.branch funcAddr instrAddr opcode rel with
            | some edge => edge :: sweep funcAddr funcSize fuel (i + 5) (room - 1)
            | none => sweep funcAddr funcSize fuel (i + 5) room
        else sweep funcAddr funcSize fuel (i + 1) room
    else []

def analyzeFunction (funcAddr : Uintptr) (funcSize : UInt64) : List CallEdge :=
  if funcAddr = 0 || funcSize = 0 then []
  else image.sweep funcAddr funcSize.toNat funcSize.toNat 0 MAX_EDGES_PER_FUNC

end Module

namespace CallGraphAnalyzer

variable (image : Module) (pdata : PDataEnumerator) (graph : CallGraphAnalyzer)

def getNode (addr : Uintptr) : Option CallNode := graph.nodes.lookup addr

/-- Change a node, which is made if there is none. -/
def withNode (addr : Uintptr) (change : CallNode → CallNode) : CallGraphAnalyzer :=
  { graph with
    nodes := AList.insert addr (change ((graph.getNode addr).getD { address := addr })) graph.nodes }

/-- The start of the function that is called. -/
def calleeStart (edge : CallEdge) : Uintptr :=
  match pdata.findFunction edge.calleeAddr with
  | some calleeFunc => calleeFunc.startVA
  | none => edge.calleeAddr

/-- One edge: the node of the callee first, and then the node of the caller. -/
def addEdge (caller : Uintptr) (graph : CallGraphAnalyzer) (edge : CallEdge) : CallGraphAnalyzer :=
  let callee := calleeStart pdata edge
  let called := graph.withNode callee (CallNode.calledBy caller)
  let calling := called.withNode caller (CallNode.calls callee edge)
  { calling with totalEdges := graph.totalEdges + 1 }

/-- The node of a function with its label, and then its edges. -/
def buildNode (graph : CallGraphAnalyzer) (func : FunctionEntry) (edges : List CallEdge) :
    CallGraphAnalyzer :=
  edges.foldl (addEdge pdata func.startVA)
    (graph.withNode func.startVA (CallNode.labelWith func.label))

/-- Short functions and functions without edges get no node. -/
def buildFull (graph : CallGraphAnalyzer) (func : FunctionEntry) : CallGraphAnalyzer :=
  if func.size < 5 then graph
  else
    let edges := image.analyzeFunction func.startVA func.size
    if edges = [] then graph else buildNode pdata graph func edges

def buildFullGraph : CallGraphAnalyzer := pdata.functions.foldl (buildFull image pdata) {}

/-- The function at an address, or around it. -/
def functionAt (addr : Uintptr) : Option FunctionEntry :=
  match pdata.findFunction addr with
  | some func => some func
  | none => pdata.findContaining addr

def buildFor (graph : CallGraphAnalyzer) (addr : Uintptr) : CallGraphAnalyzer :=
  match functionAt pdata addr with
  | none => graph
  | some func =>
    buildNode pdata graph func (image.analyzeFunction func.startVA func.size)

def buildGraphFor (functionAddrs : List Uintptr) : CallGraphAnalyzer :=
  functionAddrs.foldl (buildFor image pdata) graph

/-! ### Labels -/

/-- The nodes on a list that have no label get one that names a neighbour. -/
def offer (text : Bytes) (names : AMap Uintptr Bytes) (addr : Uintptr) : AMap Uintptr Bytes :=
  match graph.getNode addr with
  | none => names
  | some node => if node.label = [] then AList.insert addr text names else names

def newLabelsOf (names : AMap Uintptr Bytes) (node : CallNode) : AMap Uintptr Bytes :=
  if node.label = [] then names
  else
    let called := node.callees.foldl (offer graph (ascii "callee_of_" ++ node.label)) names
    node.callers.foldl (offer graph (ascii "caller_of_" ++ node.label)) called

def newLabels (rank : Uintptr → Nat) : AMap Uintptr Bytes :=
  ((AMap.toList (AMap.reorder rank graph.nodes)).map Prod.snd).foldl graph.newLabelsOf ∅

/-- Labels for nodes that are there. -/
def applyLabels (names : AMap Uintptr Bytes) : CallGraphAnalyzer :=
  { graph with
    nodes := (AMap.toList names).foldl
      (fun nodes entry => AMap.modify entry.1 (fun node => { node with label := entry.2 }) nodes)
      graph.nodes }

/-- So many rounds, and how many nodes they label. -/
def propagateRounds (rank : Nat → Uintptr → Nat) : Nat → CallGraphAnalyzer → CallGraphAnalyzer × Nat
  | 0, graph => (graph, 0)
  | rounds + 1, graph =>
    let names := graph.newLabels (rank rounds)
    let (last, labeled) := propagateRounds rank rounds (graph.applyLabels names)
    (last, names.size + labeled)

def propagateLabels (rank : Nat → Uintptr → Nat) (knownLabels : AMap Uintptr Bytes) (depth : Int32) :
    CallGraphAnalyzer × Nat :=
  propagateRounds rank depth.toNatClampNeg (graph.applyLabels knownLabels)

/-! ### Searches -/

def getCallees (addr : Uintptr) : List Uintptr := ((graph.getNode addr).map CallNode.callees).getD []
def getCallers (addr : Uintptr) : List Uintptr := ((graph.getNode addr).map CallNode.callers).getD []

/-- A search can visit its start and whatever is on a list of a node. -/
def searchFuel : Nat :=
  1 + (((AMap.toList graph.nodes).map Prod.snd).map fun node =>
    node.callees.length + node.callers.length).sum

/-- The callees of the last vertex of a path: the target ends the search, and the others are queued
unless they have been visited. -/
def scanCallees (target : Uintptr) (path : List Uintptr) :
    List Uintptr → List Uintptr → List (List Uintptr) →
      List Uintptr ⊕ List Uintptr × List (List Uintptr)
  | [], visited, queue => .inr (visited, queue)
  | callee :: rest, visited, queue =>
    if callee = target then .inl (path ++ [callee])
    else if callee ∈ visited then scanCallees target path rest visited queue
    else scanCallees target path rest (callee :: visited) (queue ++ [path ++ [callee]])

def pathLoop (target : Uintptr) (maxDepth : Int32) :
    (fuel : Nat) → (visited : List Uintptr) → (queue : List (List Uintptr)) → List Uintptr
  | 0, _, _ => []
  | _, _, [] => []
  | fuel + 1, visited, path :: queue =>
    if maxDepth + 1 < Int32.ofNat path.length then []
    else
      match graph.getNode (path.getLastD 0) with
      | none => pathLoop target maxDepth fuel visited queue
      | some node =>
        match scanCallees target path node.callees visited queue with
        | .inl found => found
        | .inr (visited, queue) => pathLoop target maxDepth fuel visited queue

def findCallPath (source target : Uintptr) (maxDepth : Int32) : List Uintptr :=
  graph.pathLoop target maxDepth graph.searchFuel [source] [[source]]

/-- The neighbours on a list that have not been visited are queued. -/
def scanNeighbours (depth : Nat) : List Uintptr → List Uintptr → List (Uintptr × Nat) →
    List Uintptr × List (Uintptr × Nat)
  | [], visited, queue => (visited, queue)
  | neighbour :: rest, visited, queue =>
    if neighbour ∈ visited then scanNeighbours depth rest visited queue
    else scanNeighbours depth rest (neighbour :: visited) (queue ++ [(neighbour, depth + 1)])

def ballLoop (radius : Int32) :
    (fuel : Nat) → (visited : List Uintptr) → (queue : List (Uintptr × Nat)) → List Uintptr
  | 0, visited, _ => visited
  | _, visited, [] => visited
  | fuel + 1, visited, (addr, depth) :: queue =>
    if radius ≤ Int32.ofNat depth then ballLoop radius fuel visited queue
    else
      match graph.getNode addr with
      | none => ballLoop radius fuel visited queue
      | some node =>
        let (visited, queue) := scanNeighbours depth node.callees visited queue
        let (visited, queue) := scanNeighbours depth node.callers visited queue
        ballLoop radius fuel visited queue

/-- The set as a list, the latest first. -/
def getNeighborhood (funcAddr : Uintptr) (radius : Int32) : List Uintptr :=
  graph.ballLoop radius graph.searchFuel [funcAddr] [(funcAddr, 0)]

end CallGraphAnalyzer

end KenshiMP
