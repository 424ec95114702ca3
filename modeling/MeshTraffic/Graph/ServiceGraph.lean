import MeshTraffic.TrafficMap

/-!
# Service graphs

`TrafficMap.toServiceGraph` keeps the services and the roots of a graph. What a service sends is
what the workloads behind it send, so every path from a service over a workload to a service becomes
one edge; a root's edges into workloads are replaced in the same way.

* `Node.carriedByService`, `Node.carriedByRoot`: the edges that a kept node gets, in the order in
  which they are met, before parallel ones are put together.
* `Node.absorb`: puts an edge into a node. Parallel edges become one: counters are summed, response
  times averaged, and the rest is that of the first.

A service graph cannot be made of edges into missing nodes, of traffic other than http and tcp, nor
of services that lead to anything but services and workloads that call services only.
-/

namespace MeshTraffic

variable {ν : Type}

/-- The results of all steps in order, or the first fault. -/
def collect {ε α β : Type} (f : α → Except ε (List β)) : List α → Except ε (List β)
  | [] => .ok []
  | a :: rest => do
    let bs ← f a
    return bs ++ (← collect f rest)

/-! ## Which edges are kept -/

/-- The edge, if its traffic can be summed. -/
def Edge.summable (e : Edge ν) : Except GraphFault (List (Edge ν)) :=
  match e.protocol with
  | .http | .tcp => .ok [e]
  | .other name => .error (.unsupportedProtocol name e.source e.dest)

namespace TrafficMap

/-- An edge of a workload behind a service; it has to lead to a service. -/
def carriedBehindService (m : TrafficMap ν) (e : Edge ν) : Except GraphFault (List (Edge ν)) := do
  let child ← m.node e.dest
  if child.kind = .service then e.summable
  else throw (.unexpectedKind child.id .service child.kind)

/-- What an edge of a service becomes. -/
def carriedByService (m : TrafficMap ν) (e : Edge ν) : Except GraphFault (List (Edge ν)) := do
  let via ← m.node e.dest
  match via.kind with
  | .workload => collect m.carriedBehindService via.edges
  | .service => e.summable
  | kind => throw (.unexpectedKind via.id .workload kind)

/-- An edge of a workload behind a root; it is dropped unless it leads to a service. -/
def carriedBehindRoot (m : TrafficMap ν) (e : Edge ν) : Except GraphFault (List (Edge ν)) := do
  let child ← m.node e.dest
  if child.kind = .service then e.summable else return []

/-- What an edge of a root becomes; it is dropped unless it leads to a service or a workload. -/
def carriedByRoot (m : TrafficMap ν) (e : Edge ν) : Except GraphFault (List (Edge ν)) := do
  let via ← m.node e.dest
  match via.kind with
  | .workload => collect m.carriedBehindRoot via.edges
  | .service => e.summable
  | _ => return []

end TrafficMap

/-! ## Putting edges together -/

variable [Quantity ν]

/-- The counters of a protocol. -/
def Protocol.counters : Protocol → List String
  | .http => [Key.http, Key.http3xx, Key.http4xx, Key.http5xx]
  | .tcp => [Key.tcp]
  | .other _ => []

/-- Takes the response time of another edge into the mean. -/
def Metadata.averageResponseTime (m : Metadata ν) (x? : Option ν) : Metadata ν :=
  match x? with
  | some x => m.average Key.responseTime x
  | none => m

/-- Makes the response time, if there is one, a mean of itself alone. -/
def Metadata.restartResponseTime (m : Metadata ν) : Metadata ν :=
  match m.number? Key.responseTime with
  | some x =>
    let rest : Metadata ν := m |>.erase (Key.total Key.responseTime)
      |>.erase (Key.count Key.responseTime) |>.erase Key.responseTime
    rest.average Key.responseTime x
  | none => m

/-- Takes the traffic of a parallel edge in. -/
def Edge.join (e f : Edge ν) : Edge ν :=
  { e with
    metadata :=
      (f.protocol.counters.foldl (fun m key =>
        match f.metadata.number? key with
        | some x => m.sum key x
        | none => m) e.metadata).averageResponseTime (f.metadata.number? Key.responseTime) }

namespace Node

/-- Takes the edge `f` in: into the first parallel edge, or else as the last edge. -/
def absorbInto (source : NodeId) (f : Edge ν) : List (Edge ν) → List (Edge ν)
  | [] => [{ f with source, metadata := f.metadata.restartResponseTime }]
  | e :: rest => if e.isParallel f then e.join f :: rest else e :: absorbInto source f rest

/-- Takes an edge in, which then leaves from this node. -/
def absorb (n : Node ν) (f : Edge ν) : Node ν :=
  { n with edges := absorbInto n.id f n.edges }

/-- The node with the given edges only. -/
def withEdges (n : Node ν) (edges : List (Edge ν)) : Node ν :=
  edges.foldl absorb { n with edges := [] }

end Node

namespace TrafficMap

/-- What a node becomes in the service graph; nothing if it is neither a service nor a root. -/
def reduceNode (m : TrafficMap ν) (n : Node ν) : Except GraphFault (List (Node ν)) :=
  if n.kind = .service then do
    return [n.withEdges (← collect m.carriedByService n.edges)]
  else if n.isRoot then do
    return [n.withEdges (← collect m.carriedByRoot n.edges)]
  else .ok []

/-- The service graph of a graph. -/
def toServiceGraph (m : TrafficMap ν) : Except GraphFault (TrafficMap ν) := do
  return ofNodes (← collect m.reduceNode m.nodes)

end TrafficMap

end MeshTraffic
