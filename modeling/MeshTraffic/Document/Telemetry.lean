import MeshTraffic.Document.Graph
import MeshTraffic.Telemetry.Endpoint
import MeshTraffic.Telemetry.Sample

/-!
# Samples and endpoints as JSON documents
-/

namespace MeshTraffic

open Json

def Sample.toJson {ν : Type} [Quantity ν] (s : Sample ν) : Json ν :=
  .object [("labels", .object (s.labels.entries.map fun e => (e.1, .string e.2))),
    ("value", .ofQuantity s.value)]

def Sample.ofJson? {ν : Type} [Quantity ν] (j : Json ν) : Option (Sample ν) := do
  let f ← j.record? ["labels", "value"]
  let labels ← f.required "labels" (dictionary? text?)
  return ⟨SortedMap.ofList labels, ← f.required "value" number?⟩

def Endpoint.toJson (e : Endpoint) : Json Float :=
  .object [("url", .string e.url), ("timeout", .ofNat e.timeout)]

def Endpoint.ofJson? (j : Json Float) : Option Endpoint := do
  let f ← j.record? ["url", "timeout"]
  return ⟨← f.required "url" text?, ← f.required "timeout" natural?⟩

end MeshTraffic
