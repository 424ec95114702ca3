import MeshTraffic.Edge

/-!
# Nodes

A node is a mesh entity with the edges that lead away from it. It has at most one edge for each
destination and protocol: `modifyEdge` makes one only where there is none, and `adopt` leaves out
an edge that is there already.
-/

namespace MeshTraffic

/-- A mesh entity and the traffic it sends. -/
structure Node (ν : Type) where
  id : NodeId
  kind : NodeKind
  labels : Labels
  /-- The edges in the order in which they were drawn. -/
  edges : List (Edge ν) := []
  metadata : Metadata ν := ∅
  deriving DecidableEq, BEq

namespace Node

variable {ν : Type}

/-- A node without traffic under an identity; it keeps the labels that its kind uses. -/
def ofIdentity (identity : Identity) (l : Labels) : Node ν :=
  { id := identity.id, kind := identity.kind, labels := l.trim identity.kind }

/-- The node that the labels refer to. -/
def ofLabels (l : Labels) (type : GraphType) : Node ν := ofIdentity (l.resolve type) l

instance : Inhabited (Node ν) := ⟨ofIdentity .unknown default⟩

/-- The edge to `dest` over `protocol`. -/
def edge? (n : Node ν) (dest : NodeId) (protocol : Protocol) : Option (Edge ν) :=
  n.edges.find? (·.leadsTo dest protocol)

/-- Applies `f` to the first edge to `dest` over `protocol`, or to a new one at the end. -/
def modifyFirst (source dest : NodeId) (protocol : Protocol) (f : Edge ν → Edge ν) :
    List (Edge ν) → List (Edge ν)
  | [] => [f { source, dest, protocol }]
  | e :: rest =>
    if e.leadsTo dest protocol then f e :: rest
    else e :: modifyFirst source dest protocol f rest

/-- Applies `f` to the edge to `dest` over `protocol`, drawing it first if there is none. -/
def modifyEdge (n : Node ν) (dest : NodeId) (protocol : Protocol) (f : Edge ν → Edge ν) :
    Node ν :=
  { n with edges := modifyFirst n.id dest protocol f n.edges }

/-- Whether the node has an edge parallel to `e`. -/
def hasParallel (n : Node ν) (e : Edge ν) : Bool := n.edges.any (·.isParallel e)

/-- Takes over an edge, which then leaves from this node, unless there is a parallel one. -/
def adopt (n : Node ν) (e : Edge ν) : Node ν :=
  if n.hasParallel e then n else { n with edges := n.edges ++ [{ e with source := n.id }] }

/-- Takes over edges one after another. -/
def adoptAll (n : Node ν) (edges : List (Edge ν)) : Node ν := edges.foldl adopt n

/-- Applies `f` to the metadata. -/
def mapMetadata (f : Metadata ν → Metadata ν) (n : Node ν) : Node ν :=
  { n with metadata := f n.metadata }

/-- Raises the flag `key`. -/
def raise (n : Node ν) (key : String) : Node ν := n.mapMetadata (·.raise key)

/-- Whether the flag `key` is raised. -/
def flag (n : Node ν) (key : String) : Bool := n.metadata.flag key

/-- Whether all its traffic starts here. -/
def isRoot (n : Node ν) : Bool := n.flag Key.isRoot

/-- Whether it is a service outside the mesh that the mesh lists. -/
def isServiceEntry (n : Node ν) : Bool := n.flag Key.isServiceEntry

end Node

end MeshTraffic
