import MeshTraffic.BuildError
import MeshTraffic.Query.Rate
import MeshTraffic.Request
import MeshTraffic.Telemetry.Sample

/-!
# Which queries a graph needs

* `namespaceRequests`, `namespaceBytes`: the series of a namespace's traffic, split by where the
  traffic starts, so that each is counted once: outside the mesh, in another namespace, or in the
  namespace itself. The control plane reports traffic only where it arrives, so its traffic takes
  queries of its own.
* `namespaceQueries`: both for a namespace graph.
* `nodeQueries`: the queries of a node graph. What a service sends is what the workloads behind it
  send, so nothing is asked about it; for the unknown node there is no graph.
-/

namespace MeshTraffic

/-- The queries of a graph. -/
structure QuerySet where
  http : List RateQuery
  tcp : List RateQuery
  deriving DecidableEq, Repr

namespace QuerySet

open SeriesLabel

/-! ## Metrics, codes and groupings -/

def requestMetric : String := "istio_requests_total"
def byteMetric : String := "istio_tcp_sent_bytes_total"
def durationMetric : String := "istio_request_duration_seconds_bucket"

/-- The response codes that count as traffic. -/
def trafficCodes : String := "[2345][0-9][0-9]"

/-- The response codes whose response time is measured. -/
def successCodes : String := "2[0-9]\x7b2\x7d"

/-- The labels of the source. -/
def sourceLabels : List String := [sourceNamespace, sourceWorkload, sourceApp, sourceVersion]

/-- The labels of the destination but its namespace. -/
def destLabels : List String := [destService, destWorkload, destApp, destVersion]

/-- The labels that traffic is attributed by. -/
def attributionLabels : List String := sourceLabels ++ destServiceNamespace :: destLabels

/-- The labels of request counters. -/
def requestLabels : List String := attributionLabels ++ [responseCode]

/-- The labels of byte counters whose source is unknown: they do not tell the service's
namespace. -/
def unknownSourceLabels : List String := sourceLabels ++ destWorkloadNamespace :: destLabels

/-! ## Conditions -/

def reportedBy (side : String) : Matcher := .equal reporter side

def fromUnknown : Matcher := .equal sourceWorkload unknownLabel

def notFromUnknown : Matcher := .notEqual sourceWorkload unknownLabel

def withCodes (codes : String) : Matcher := .regex responseCode codes

/-! ## Namespaces -/

/-- The requests of a namespace's traffic, counted by `metric`. -/
def namespaceRequests (metric codes : String) (groupBy : List String) (ns : String)
    (window : Nat) (r : Request) : List RateQuery :=
  let query (matchers : List Matcher) : RateQuery :=
    ⟨metric, window, matchers ++ [withCodes codes], groupBy⟩
  let fromOutside := query
    [reportedBy "destination", fromUnknown, .equal destServiceNamespace ns]
  let fromOthers := query
    [reportedBy "source", .notEqual sourceNamespace ns, notFromUnknown,
      .equal destServiceNamespace ns]
  let fromWithin := query [reportedBy "source", .equal sourceNamespace ns]
  let intoControlPlane := query
    [reportedBy "destination", .notEqual sourceNamespace ns, .equal destServiceNamespace ns]
  let toControlPlane := query
    [reportedBy "destination", .equal sourceNamespace ns,
      .equal destServiceNamespace r.controlPlane]
  [fromOutside, fromOthers, fromWithin] ++
    if r.includeControlPlane then
      (if ns = r.controlPlane then [intoControlPlane] else []) ++ [toControlPlane]
    else []

/-- The bytes of a namespace's traffic. -/
def namespaceBytes (ns : String) (window : Nat) : List RateQuery :=
  [⟨byteMetric, window,
      [reportedBy "destination", fromUnknown, .equal destWorkloadNamespace ns],
      unknownSourceLabels⟩,
    ⟨byteMetric, window,
      [reportedBy "source", .notEqual sourceNamespace ns, notFromUnknown,
        .equal destServiceNamespace ns],
      attributionLabels⟩,
    ⟨byteMetric, window, [reportedBy "source", .equal sourceNamespace ns], attributionLabels⟩]

/-- The queries of a namespace graph. -/
def namespaceQueries (ns : String) (window : Nat) (r : Request) : QuerySet :=
  ⟨namespaceRequests requestMetric trafficCodes requestLabels ns window r,
    namespaceBytes ns window⟩

/-! ## Nodes -/

/-- A condition that a label has a value, unless there is none to ask for. -/
def ifGiven (label value : String) : List Matcher :=
  if value = "" then [] else [.equal label value]

/-- The conditions that the traffic leaves from the node; a service sends none. -/
def leavesFrom (kind : NodeKind) (l : Labels) : List Matcher :=
  match kind with
  | .workload => [.equal sourceNamespace l.ns, .equal sourceWorkload l.workload]
  | .app | .versionedApp =>
    [.equal sourceNamespace l.ns, .equal sourceApp l.app] ++ ifGiven sourceVersion l.version
  | .service | .unknown => []

/-- The conditions that the traffic leads to the node. -/
def leadsTo (kind : NodeKind) (l : Labels) : List Matcher :=
  match kind with
  | .workload => [.equal destWorkloadNamespace l.ns, .equal destWorkload l.workload]
  | .app | .versionedApp =>
    [.equal destServiceNamespace l.ns, .equal destApp l.app] ++ ifGiven destVersion l.version
  | .service => [.equal destServiceNamespace l.ns, .equal destService l.service]
  | .unknown => []

/-- The conditions that the traffic leads from the node to the control plane, or from anywhere
through the control plane to a service. -/
def controlPlaneTraffic (kind : NodeKind) (l : Labels) (controlPlane : String) : List Matcher :=
  leavesFrom kind l ++ .equal destServiceNamespace controlPlane ::
    match kind with
    | .service => [.equal destService l.service]
    | _ => []

/-- The queries of a node graph. -/
def nodeQueries {ν : Type} (node : Node ν) (window : Nat) (r : Request) :
    Except BuildError QuerySet :=
  let requests (matchers : List Matcher) : RateQuery :=
    ⟨requestMetric, window, matchers ++ [withCodes trafficCodes], requestLabels⟩
  let bytes (matchers : List Matcher) : RateQuery :=
    ⟨byteMetric, window, matchers, attributionLabels⟩
  let into := leadsTo node.kind node.labels
  let away := leavesFrom node.kind node.labels
  let controlPlane :=
    if r.includeControlPlane then
      [requests (reportedBy "destination" ::
        controlPlaneTraffic node.kind node.labels r.controlPlane)]
    else []
  match node.kind with
  | .workload | .app | .versionedApp => .ok
    ⟨[requests (reportedBy "destination" :: into), requests (reportedBy "source" :: away)] ++
        controlPlane,
      [bytes (reportedBy "source" :: into), bytes (reportedBy "source" :: away)]⟩
  | .service => .ok
    ⟨[requests (reportedBy "destination" :: fromUnknown :: into),
        requests (reportedBy "source" :: into)] ++ controlPlane,
      [bytes (reportedBy "source" :: into)]⟩
  | .unknown =>
    .error (.configuration ("node graph does not support node kind [" ++ node.kind.name ++ "]"))

end QuerySet

/-- The expressions of some queries, as they are asked. -/
def RateQuery.expressions (queries : List RateQuery) : List String :=
  queries.map fun q => rounded q.sumRate

end MeshTraffic
