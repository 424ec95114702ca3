import MeshTraffic.Request
import MeshTraffic.Telemetry.Sample

/-!
# Who talks to whom

* `Attribution.ofLabels?`: the two ends of a series; none if a label is missing. The destination's
  namespace is the service's, or the workload's where that is not told.
* `Attribution.hops`: what is drawn for a series. Where services get nodes of their own, traffic to
  a workload goes through the service that it was addressed to.
-/

namespace MeshTraffic

/-- Traffic from one end to another. -/
structure Hop where
  source : Labels
  dest : Labels
  deriving DecidableEq, Repr

/-- The two ends of a series. -/
structure Attribution where
  source : Labels
  dest : Labels
  deriving DecidableEq, Repr

namespace Attribution

open SeriesLabel

/-- The ends that the labels of a series tell. -/
def ofLabels? (labels : SortedMap String) : Option Attribution := do
  let destNs ← (labels.get? destServiceNamespace).or (labels.get? destWorkloadNamespace)
  let source : Labels :=
    { ns := ← labels.get? sourceNamespace
      workload := ← labels.get? sourceWorkload
      app := ← labels.get? sourceApp
      version := ← labels.get? sourceVersion }
  let dest : Labels :=
    { ns := destNs
      workload := ← labels.get? destWorkload
      app := ← labels.get? destApp
      version := ← labels.get? destVersion
      service := ← labels.get? destService }
  return ⟨source, dest⟩

/-- Whether the traffic is drawn through the service that it was addressed to. -/
def passesService (a : Attribution) (r : Request) : Bool :=
  r.injectsServices && isKnown a.dest.service && (a.dest.resolve r.type).kind != .service

/-- What the traffic is drawn as. Each hop carries all of it. -/
def hops (a : Attribution) (r : Request) : List Hop :=
  if a.passesService r then
    let service := Labels.ofService a.dest.ns a.dest.service
    [⟨a.source, service⟩, ⟨service, a.dest⟩]
  else [⟨a.source, a.dest⟩]

end Attribution

end MeshTraffic
