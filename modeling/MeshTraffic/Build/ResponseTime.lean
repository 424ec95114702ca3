import MeshTraffic.Build.Appender
import MeshTraffic.Query.Selection
import MeshTraffic.Traffic.Attribution

/-!
# Response times

The appender `ResponseTime.appender` annotates the http edges of a map with a quantile of their
response times in milliseconds. The series are those of the namespace's requests, as far as they
were successful; where several series belong to one edge, their mean is taken, which is kept in a
table of its own while the samples come in. A map without nodes needs no answers, and none are asked
for.
-/

namespace MeshTraffic.ResponseTime

variable {ν : Type} [Quantity ν]

/-- The name under which a request asks for response times. -/
def name : String := "responseTime"

/-- The quantile that is taken where the wanted one makes no sense. -/
def defaultQuantile : Float := 0.95

/-- The quantile to take where `q` is wanted. -/
def quantile (q : Float) : Float := if q ≤ 0 || 100 ≤ q then defaultQuantile else q

/-! ## Measured times -/

/-- What was measured between two nodes each: the running mean of the response times in
milliseconds. -/
abbrev Times (ν : Type) := ArrivalMap (NodeId × NodeId) (Metadata ν)

/-- What is kept for two nodes: the mean, its total and its count, or nothing. -/
def kept (times : Times ν) (ends : NodeId × NodeId) : Metadata ν := (times.get? ends).getD ∅

/-- Takes one response time into the mean between two nodes. -/
def takeIn (times : Times ν) (ends : NodeId × NodeId) (millis : ν) : Times ν :=
  times.insert ends ((kept times ends).average Key.responseTime millis)

/-- Takes in a sample, whose value is in seconds, for each of its hops. A sample that cannot be used
changes nothing. -/
def takeInSample (r : Request) (times : Times ν) (s : Sample ν) : Times ν :=
  match Attribution.ofLabels? s.labels with
  | some a =>
    if Quantity.isNaN s.value then times
    else (a.hops r).foldl (fun times hop => takeIn times
      ((hop.source.resolve r.type).id, (hop.dest.resolve r.type).id)
        (s.value * Quantity.ofNat 1000)) times
  | none => times

/-- Takes in the samples of an answer. -/
def populate (r : Request) (times : Times ν) (samples : List (Sample ν)) : Times ν :=
  samples.foldl (takeInSample r) times

/-- The response time of the traffic between two nodes. -/
def between? (times : Times ν) (source dest : NodeId) : Option ν :=
  (times.get? (source, dest)).bind (·.number? Key.responseTime)

/-! ## Annotated edges -/

/-- Annotates an http edge that has a response time. -/
def annotateEdge (times : Times ν) (e : Edge ν) : Edge ν :=
  if e.protocol = .http then
    match between? times e.source e.dest with
    | some x => { e with metadata := e.metadata.insert Key.responseTime (.number x) }
    | none => e
  else e

/-- Annotates every http edge that has a response time. -/
def annotate (times : Times ν) (m : TrafficMap ν) : TrafficMap ν :=
  m.mapNodes fun n => { n with edges := n.edges.map (annotateEdge times) }

/-- The queries for the response times of a namespace. -/
def queries (q : Float) (r : Request) (scope : Scope) : List String :=
  (QuerySet.namespaceRequests QuerySet.durationMetric QuerySet.successCodes
    QuerySet.attributionLabels scope.name scope.window r).map fun query =>
      rounded (query.histogramQuantile q)

/-- Annotates the edges of a namespace's map with response times. -/
def appender (q : Float) : Appender ν := fun r scope m =>
  if m.isEmpty then .done m
  else .ask (queries (quantile q) r scope) fun answers =>
    .done (annotate (answers.foldl (populate r) ∅) m)

end MeshTraffic.ResponseTime
