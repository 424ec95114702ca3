import MeshTraffic.Document.Graph
import MeshTraffic.Request

/-!
# Requests as JSON documents

Every field of a request may be left out. So may every label of the wanted node, and the window of a
requested namespace.
-/

namespace MeshTraffic

open Json

def GraphKind.toJson (k : GraphKind) : Json Float := .string k.name

def GraphKind.ofJson? (j : Json Float) : Option GraphKind := j.name?.bind GraphKind.ofName?

def Instant.toJson (t : Instant) : Json Float := .string t.write

def Instant.ofJson? (j : Json Float) : Option Instant := j.text?.bind Instant.read?

def Labels.toJson (l : Labels) : Json Float :=
  .object [("namespace", .string l.ns), ("workload", .string l.workload), ("app", .string l.app),
    ("version", .string l.version), ("service", .string l.service)]

def Labels.ofJson? (j : Json Float) : Option Labels := do
  let f ← j.record? ["namespace", "workload", "app", "version", "service"]
  return {
    ns := ← f.withDefault "namespace" "" text?
    workload := ← f.withDefault "workload" "" text?
    app := ← f.withDefault "app" "" text?
    version := ← f.withDefault "version" "" text?
    service := ← f.withDefault "service" "" text? }

def Scope.toJson (s : Scope) : Json Float :=
  .object [("name", .string s.name), ("duration", .ofNat s.window)]

def Scope.ofJson? (j : Json Float) : Option Scope := do
  let f ← j.record? ["name", "duration"]
  return ⟨← f.required "name" text?, ← f.withDefault "duration" 600 natural?⟩

namespace Request

def toJson (r : Request) : Json Float :=
  .object [("graphKind", r.kind.toJson), ("graphType", r.type.toJson),
    ("injectServiceNodes", .bool r.injectServices),
    ("includeControlPlane", .bool r.includeControlPlane),
    ("controlPlaneNamespace", .string r.controlPlane),
    ("queryTime", r.queryTime.toJson),
    ("namespaces", .object (r.namespaces.entries.map fun e => (e.1, e.2.toJson))),
    ("accessibleNamespaces", .object (r.accessible.entries.map fun e => (e.1, e.2.toJson))),
    ("node", r.focus.elim .null Labels.toJson),
    ("appenders", .array (r.appenders.map .string)),
    ("responseTimeQuantile", .ofQuantity r.quantile),
    ("serviceEntryHosts", .array (r.serviceEntryHosts.toNames.map .string)),
    ("timeout", r.timeout.elim .null .ofNat)]

/-- The names of the fields in order. -/
def fieldNames : List String :=
  ["graphKind", "graphType", "injectServiceNodes", "includeControlPlane", "controlPlaneNamespace",
    "queryTime", "namespaces", "accessibleNamespaces", "node", "appenders",
    "responseTimeQuantile", "serviceEntryHosts", "timeout"]

/-- The request of a document that is read at the time `now`. -/
def ofJson? (now : Instant) (j : Json Float) : Option Request := do
  let f ← j.record? fieldNames
  let base : Request := { queryTime := now }
  return {
    kind := ← f.withDefault "graphKind" base.kind GraphKind.ofJson?
    type := ← f.withDefault "graphType" base.type GraphType.ofJson?
    injectServices := ← f.withDefault "injectServiceNodes" base.injectServices bool?
    includeControlPlane := ← f.withDefault "includeControlPlane" base.includeControlPlane bool?
    controlPlane := ← f.withDefault "controlPlaneNamespace" base.controlPlane text?
    queryTime := ← f.withDefault "queryTime" base.queryTime Instant.ofJson?
    namespaces := ← f.withDefault "namespaces" base.namespaces fun j =>
      (j.dictionary? Scope.ofJson?).map ArrivalMap.ofList
    accessible := ← f.withDefault "accessibleNamespaces" base.accessible fun j =>
      (j.dictionary? Instant.ofJson?).map SortedMap.ofList
    focus := ← f.withDefault "node" base.focus (optional? Labels.ofJson?)
    appenders := ← f.withDefault "appenders" base.appenders (list? text?)
    quantile := ← f.withDefault "responseTimeQuantile" base.quantile number?
    serviceEntryHosts := ← f.withDefault "serviceEntryHosts" base.serviceEntryHosts fun j =>
      (j.list? text?).map NameSet.ofNames
    timeout := ← f.withDefault "timeout" base.timeout (optional? natural?) }

end Request

end MeshTraffic
