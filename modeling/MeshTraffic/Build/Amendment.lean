import MeshTraffic.Build.Appender

/-!
# Amendments

Appenders that ask nothing: each makes one plain change to the map of every namespace, or refuses
the map of one of them.
-/

namespace MeshTraffic

/-- A plain change to a map. -/
inductive Amendment (ν : Type) where
  /-- Draws an edge of one protocol beside every edge. -/
  | accompany (protocol : Protocol)
  /-- Notes the namespace and the length of its window at every node, in the set `trace`. -/
  | trace (label : String)
  /-- Gives every edge a number. -/
  | edgeNumber (key : String) (value : ν)
  /-- Raises a flag at every node. -/
  | flag (key : String)
  | remove (id : NodeId)
  | insert (node : Node ν)
  /-- Fails for one namespace. -/
  | refuse (ns : String) (error : BuildError)

namespace Amendment

variable {ν : Type}

/-- Draws an edge of `protocol` beside each of the node's edges. -/
def accompanyEdges (protocol : Protocol) (n : Node ν) : Node ν :=
  n.edges.foldl (fun n e => n.modifyEdge e.dest protocol id) n

/-- Changes the map of a namespace. -/
def apply (a : Amendment ν) (scope : Scope) (m : TrafficMap ν) :
    Except BuildError (TrafficMap ν) :=
  match a with
  | accompany protocol => .ok (m.mapNodes (accompanyEdges protocol))
  | trace label =>
    let note := label ++ ":" ++ scope.name ++ ":" ++ toString scope.window
    .ok (m.mapNodes (·.mapMetadata (·.addName "trace" note)))
  | edgeNumber key value =>
    .ok (m.mapNodes fun n =>
      { n with
        edges := n.edges.map fun e =>
          { e with metadata := e.metadata.insert key (.number value) } })
  | flag key => .ok (m.mapNodes (·.raise key))
  | remove id => .ok (m.erase id)
  | insert node => .ok (m.insertNode node)
  | refuse ns error => if scope.name = ns then .error error else .ok m

/-- The appender that makes the change. -/
def appender (a : Amendment ν) : Appender ν := fun _ scope m => .ofExcept (a.apply scope m)

end Amendment

end MeshTraffic
