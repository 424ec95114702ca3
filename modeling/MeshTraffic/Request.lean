import MeshTraffic.Collections.ArrivalMap
import MeshTraffic.Collections.SortedMap
import MeshTraffic.Identity
import MeshTraffic.Instant

/-!
# Requests

A `Request` says which graph is wanted: of all traffic of some namespaces, or of the traffic of one
node; what its nodes stand for; and what the caller may see. It travels through every stage of a
build.
-/

namespace MeshTraffic

/-- What a graph is about. -/
inductive GraphKind where
  /-- All traffic of the requested namespaces. -/
  | namespaces
  /-- The traffic of one node. -/
  | node
  deriving DecidableEq, Repr, Inhabited

namespace GraphKind

def all : List GraphKind := [namespaces, node]

def name : GraphKind → String
  | namespaces => "namespace"
  | node => "node"

/-- The kind of a name. -/
def ofName? (s : String) : Option GraphKind := all.find? fun k => k.name = s

end GraphKind

/-- A requested namespace. -/
structure Scope where
  name : String
  /-- The length in seconds of the window that is observed; it ends at the query time. -/
  window : Nat := 600
  deriving DecidableEq, Repr

/-- A request for a graph. -/
structure Request where
  kind : GraphKind := .namespaces
  type : GraphType := .workload
  /-- Whether traffic to a service is led through a node of its own. -/
  injectServices : Bool := false
  /-- Whether traffic from and to the control plane is included. -/
  includeControlPlane : Bool := false
  /-- The namespace of the control plane. -/
  controlPlane : String := "istio-system"
  /-- When the observed windows end. -/
  queryTime : Instant
  /-- The requested namespaces in order. -/
  namespaces : ArrivalMap String Scope := ∅
  /-- The namespaces that the caller may see, and since when. -/
  accessible : SortedMap Instant := ∅
  /-- The node that a node graph is about. -/
  focus : Option Labels := none
  /-- The names of the appenders to run, in order. -/
  appenders : List String := []
  /-- The quantile of response times. -/
  quantile : Float := 0.95
  /-- The hosts that are listed as services outside the mesh. -/
  serviceEntryHosts : NameSet := ∅
  /-- How many seconds the build may take. -/
  timeout : Option Nat := none
  deriving Inhabited

namespace Request

/-- Requests a namespace, which thereby becomes accessible unless it already is. -/
def withNamespace (r : Request) (name : String) (window : Nat) : Request :=
  { r with
    namespaces := r.namespaces.insert name ⟨name, window⟩
    accessible :=
      if r.accessible.contains name then r.accessible else r.accessible.insert name r.queryTime }

/-- Makes a namespace accessible from now on. -/
def withAccessible (r : Request) (name : String) : Request :=
  { r with accessible := r.accessible.insert name r.queryTime }

/-- Asks for the graph of one node instead. -/
def withFocus (r : Request) (focus : Labels) : Request :=
  { r with kind := .node, focus := some focus }

/-- Whether services get nodes of their own; in a service graph they always do. -/
def injectsServices (r : Request) : Bool := r.injectServices || r.type = .service

/-- Whether `ns` is one of the keys of the requested namespaces. -/
def isRequested (r : Request) (ns : String) : Bool := r.namespaces.contains ns

/-- Whether the caller may see `ns`. -/
def isAccessible (r : Request) (ns : String) : Bool := r.accessible.contains ns

end Request

end MeshTraffic
