import MeshTraffic.Build.ResponseTime
import MeshTraffic.Graph.Merge
import MeshTraffic.Graph.ServiceGraph
import MeshTraffic.Graph.Visibility
import MeshTraffic.Traffic.Drawing

/-!
# How a graph is built

A `Plan` holds the parts of a build, which ask telemetry and do not depend on each other, and what
is made of their maps. Whatever is wrong with a request shows while its plan is made, before
anything is asked.

* `Plan.ofNamespaces`: a part for each requested namespace; the maps are merged in the order of the
  request, whichever is ready first, then classified, and reduced if services are wanted.
* `Plan.ofFocus`: one part for the node that the graph is about; its map is classified.
-/

namespace MeshTraffic

variable {ν : Type} [Quantity ν]

/-- The parts of a build and what is made of their maps. -/
structure Plan (ν : Type) where
  parts : List (Task ν (TrafficMap ν))
  finish : List (TrafficMap ν) → Except BuildError (TrafficMap ν)

/-- Asks a set of queries and draws the answers, those of the http queries first. -/
def QuerySet.drawn (set : QuerySet) (r : Request) : Task ν (TrafficMap ν) :=
  .ask (RateQuery.expressions set.http ++ RateQuery.expressions set.tcp) fun answers =>
    .done (TrafficMap.ofFeeds r
      ((answers.take set.http.length).map .http ++ (answers.drop set.http.length).map .tcp))

/-- The appenders that a request names, in order. -/
def Request.namedAppenders (r : Request) : Except BuildError (List (Appender ν)) :=
  r.appenders.mapM fun s =>
    if s = ResponseTime.name then .ok (ResponseTime.appender r.quantile)
    else .error (.configuration ("unknown appender '" ++ s ++ "'"))

namespace Plan

/-- The map of a requested namespace. -/
def namespacePart (appenders : List (Appender ν)) (r : Request) (scope : Scope) :
    Task ν (TrafficMap ν) :=
  ((QuerySet.namespaceQueries scope.name scope.window r).drawn r).bind
    (Appender.runAll appenders r scope)

/-- The graph of the maps of the requested namespaces. -/
def finishNamespaces (r : Request) (maps : List (TrafficMap ν)) :
    Except BuildError (TrafficMap ν) :=
  let merged := TrafficMap.mergeAll ((r.namespaces.values.map Scope.name).zip maps)
  let classified := merged.classify r
  if r.type = .service then classified.toServiceGraph.mapError .ofGraphFault else .ok classified

/-- The plan of a namespace graph, with appenders besides those that the request names. -/
def ofNamespaces (extra : List (Appender ν)) (r : Request) : Except BuildError (Plan ν) := do
  let named ← r.namedAppenders
  return ⟨r.namespaces.values.map (namespacePart (named ++ extra) r), finishNamespaces r⟩

/-- The one namespace of a node graph. -/
def focusScope (r : Request) : Except BuildError Scope :=
  match r.namespaces.values with
  | [scope] => .ok scope
  | scopes => .error (.configuration
      ("node graph requires exactly one namespace, got " ++ toString scopes.length))

/-- The labels that a node graph is about. -/
def focusLabels (r : Request) : Except BuildError Labels :=
  match r.focus with
  | some l => .ok l
  | none => .error (.configuration "node graph requires a node selector")

/-- Checks that the wanted node, if it tells its namespace, is in the requested one. -/
def checkFocus (scope : Scope) (focus : Labels) : Except BuildError Unit :=
  if focus.ns ≠ "" ∧ focus.ns ≠ scope.name then
    .error (.configuration ("node namespace [" ++ focus.ns ++
      "] is not the requested namespace [" ++ scope.name ++ "]"))
  else .ok ()

/-- The plan of a node graph, with appenders besides those that the request names. -/
def ofFocus (extra : List (Appender ν)) (r : Request) : Except BuildError (Plan ν) := do
  let scope ← focusScope r
  let focus ← focusLabels r
  checkFocus scope focus
  let named ← r.namedAppenders
  let node : Node ν := .ofLabels { focus with ns := scope.name } r.type
  let set ← QuerySet.nodeQueries node scope.window r
  let part := (set.drawn r).bind (Appender.runAll (named ++ extra) r scope)
  return ⟨[part], fun maps => .ok (TrafficMap.classify r (maps.headD ∅))⟩

/-- The plan of the graph that a request wants. -/
def ofRequest (extra : List (Appender ν)) (r : Request) : Except BuildError (Plan ν) :=
  match r.kind with
  | .namespaces => ofNamespaces extra r
  | .node => ofFocus extra r

/-- Runs the parts one after another. -/
def run (b : Backend ν) (p : Plan ν) : Transcript (TrafficMap ν) :=
  let t := Task.runAll b p.parts
  ⟨t.asked, t.result.bind p.finish⟩

end Plan

end MeshTraffic
