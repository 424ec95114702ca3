import MeshTraffic.Request
import MeshTraffic.TrafficMap

/-!
# What lies outside, what may be seen, and where traffic starts

* `TrafficMap.markVisibility`: a node outside the requested namespaces is `isOutside`; one that the
  caller may not see is `isInaccessible`. The unknown node and service entries are never outside
  and always inaccessible.
* `TrafficMap.markRoots`: a node that sends traffic and receives none is `isRoot`.
* `TrafficMap.classify`: both.
-/

namespace MeshTraffic

variable {ν : Type}

namespace Node

/-- Whether the node is beyond the reach of any request: unknown, or a service entry. -/
def isBeyondReach (n : Node ν) : Bool :=
  n.kind = .unknown || (n.kind = .service && n.isServiceEntry)

/-- Whether the node's namespace is known and not requested. -/
def liesOutside (r : Request) (n : Node ν) : Bool :=
  n.labels.ns ≠ unknownLabel && !r.isRequested n.labels.ns

/-- Marks a node outside the requested namespaces. -/
def markOutside (r : Request) (n : Node ν) : Node ν :=
  if n.isBeyondReach then n.raise Key.isInaccessible
  else if n.liesOutside r then n.raise Key.isOutside
  else n

/-- Marks a node outside that the caller may not see. -/
def markInaccessible (r : Request) (n : Node ν) : Node ν :=
  if n.flag Key.isOutside && !n.flag Key.isInaccessible && !r.isAccessible n.labels.ns then
    n.raise Key.isInaccessible
  else n

/-- Marks what the caller should know about the place of a node. -/
def markVisibility (r : Request) (n : Node ν) : Node ν := (n.markOutside r).markInaccessible r

end Node

namespace TrafficMap

/-- Marks nodes outside the requested namespaces and nodes that the caller may not see. -/
def markVisibility (r : Request) (m : TrafficMap ν) : TrafficMap ν :=
  m.mapNodes (Node.markVisibility r)

/-- Whether some edge leads to `id`. -/
def isDestination (m : TrafficMap ν) (id : NodeId) : Bool := m.edges.any fun e => e.dest = id

/-- Marks the nodes that send traffic and receive none. -/
def markRoots (m : TrafficMap ν) : TrafficMap ν :=
  m.mapNodes fun n =>
    if !n.edges.isEmpty && !m.isDestination n.id then n.raise Key.isRoot else n

/-- Marks everything about the place of nodes in the graph. -/
def classify (r : Request) (m : TrafficMap ν) : TrafficMap ν := (m.markVisibility r).markRoots

end TrafficMap

end MeshTraffic
