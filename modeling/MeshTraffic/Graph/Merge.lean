import MeshTraffic.TrafficMap

/-!
# Merging the maps of namespaces

A node may stand in the maps of several namespaces: what receives traffic in one namespace sends
traffic in another. `TrafficMap.merge` takes the nodes of one namespace's map into the graph. Where
both have a node, the instance of that namespace stays, for only its own namespace has annotated it;
otherwise the one that came first. The other instance leaves it the edges that it does not have.
-/

namespace MeshTraffic.TrafficMap

variable {ν : Type}

/-- Takes a node of the map of namespace `ns` into the graph. -/
def mergeNode (ns : String) (m : TrafficMap ν) (n : Node ν) : TrafficMap ν :=
  match m.get? n.id with
  | none => m.insertNode n
  | some existing =>
    if n.labels.ns = ns then m.insert n.id (n.adoptAll existing.edges)
    else m.insert n.id (existing.adoptAll n.edges)

/-- Takes the map of namespace `ns` into the graph. -/
def merge (m : TrafficMap ν) (ns : String) (incoming : TrafficMap ν) : TrafficMap ν :=
  incoming.nodes.foldl (mergeNode ns) m

/-- The graph of the maps of some namespaces, merged in order. -/
def mergeAll (maps : List (String × TrafficMap ν)) : TrafficMap ν :=
  maps.foldl (fun m e => m.merge e.1 e.2) ∅

end MeshTraffic.TrafficMap
