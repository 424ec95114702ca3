import MeshTraffic.Collections.ArrivalMap
import MeshTraffic.Node

/-!
# Traffic maps

* `TrafficMap ν`: the nodes of a graph in the order in which they came. Edges name their ends by
  id. A map may hold a node under another key than its id; `insert` never does so.
* `GraphFault`: what can be wrong with a graph or the request for one.
* `TrafficMap.validate`: every edge must leave from the node that owns it and lead to a key of the
  map, and no node may have two edges to one destination over one protocol. The first fault in
  the order of nodes and edges is reported.
-/

namespace MeshTraffic

/-- The nodes of a graph by id. -/
abbrev TrafficMap (ν : Type) := ArrivalMap NodeId (Node ν)

/-- What is wrong with a graph, or with the words of a request for one. -/
inductive GraphFault where
  /-- No graph type has this name. -/
  | unsupportedType (value : String)
  /-- No kind of graph has this name. -/
  | unsupportedKind (value : String)
  /-- An edge whose traffic cannot be summed. -/
  | unsupportedProtocol (protocol : String) (source dest : NodeId)
  | missingNode (id : NodeId)
  | unexpectedKind (id : NodeId) (expected actual : NodeKind)
  /-- An edge that does not leave from its node or leads out of the map. -/
  | danglingEdge (source dest : NodeId)
  | duplicateEdge (source dest : NodeId) (protocol : String)
  deriving DecidableEq, Repr

namespace GraphFault

def message : GraphFault → String
  | unsupportedType value => "unsupported graph type: '" ++ value ++ "'"
  | unsupportedKind value => "unsupported graph kind: '" ++ value ++ "'"
  | unsupportedProtocol protocol source dest =>
    "unexpected edge protocol '" ++ protocol ++ "' for edge [" ++ source.text ++ " -> " ++
      dest.text ++ "]"
  | missingNode id => "node not found: " ++ id.text
  | unexpectedKind id expected actual =>
    "expected node kind [" ++ expected.name ++ "] for node [" ++ id.text ++ "], found [" ++
      actual.name ++ "]"
  | danglingEdge source dest =>
    "edge [" ++ source.text ++ " -> " ++ dest.text ++
      "] references a node missing from the traffic map"
  | duplicateEdge source dest protocol =>
    "duplicate " ++ protocol ++ " edge [" ++ source.text ++ " -> " ++ dest.text ++ "]"

end GraphFault

namespace TrafficMap

variable {ν : Type}

/-- The nodes in order. -/
def nodes (m : TrafficMap ν) : List (Node ν) := m.values

/-- All edges, in the order of their nodes. -/
def edges (m : TrafficMap ν) : List (Edge ν) := m.nodes.flatMap Node.edges

def edgeCount (m : TrafficMap ν) : Nat := m.edges.length

/-- The node under `id`. -/
def node (m : TrafficMap ν) (id : NodeId) : Except GraphFault (Node ν) :=
  match m.get? id with
  | some n => .ok n
  | none => .error (.missingNode id)

/-- Puts a node under its own id. -/
def insertNode (m : TrafficMap ν) (n : Node ν) : TrafficMap ν := m.insert n.id n

/-- The map of a list of nodes; of several with one id the last stays, where the first stood. -/
def ofNodes (l : List (Node ν)) : TrafficMap ν := l.foldl insertNode ∅

/-- Applies `f` to every node. -/
def mapNodes (f : Node ν → Node ν) (m : TrafficMap ν) : TrafficMap ν := m.mapValues fun _ n => f n

@[simp] theorem get?_mapNodes (f : Node ν → Node ν) (m : TrafficMap ν) (id : NodeId) :
    (m.mapNodes f).get? id = (m.get? id).map f :=
  ArrivalMap.get?_mapValues _ m id

@[simp] theorem keys_mapNodes (f : Node ν → Node ν) (m : TrafficMap ν) :
    (m.mapNodes f).keys = m.keys :=
  ArrivalMap.keys_mapValues _ m

/-- Whether both maps hold equal nodes under the same ids, in any order. -/
def sameGraph [BEq ν] (m n : TrafficMap ν) : Bool := m.sameContents n

/-! ## Validity -/

/-- The first fault among a node's edges, of which `earlier` have passed. -/
def firstEdgeFault? (m : TrafficMap ν) (id : NodeId) :
    (earlier rest : List (Edge ν)) → Option GraphFault
  | _, [] => none
  | earlier, e :: rest =>
    if e.source ≠ id || !m.contains e.dest then some (.danglingEdge e.source e.dest)
    else if earlier.any (·.isParallel e) then
      some (.duplicateEdge e.source e.dest e.protocol.name)
    else m.firstEdgeFault? id (earlier ++ [e]) rest

/-- Checks the edges of every node. -/
def validate (m : TrafficMap ν) : Except GraphFault Unit :=
  match m.nodes.findSome? fun n => m.firstEdgeFault? n.id [] n.edges with
  | some fault => .error fault
  | none => .ok ()

end TrafficMap

end MeshTraffic
