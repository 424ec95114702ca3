import MeshTraffic.Collections.SortedMap
import MeshTraffic.Quantity

/-!
# Samples

A query is answered with samples: each stands for one series, known by its labels, and holds the
value of that series. `SeriesLabel` names the labels that traffic is attributed by.
-/

namespace MeshTraffic

/-- The value of one series. -/
structure Sample (ν : Type) where
  labels : SortedMap String
  value : ν

/-! ## Label names -/

namespace SeriesLabel

/-- Which end of the connection reported the series. -/
def reporter : String := "reporter"
def sourceNamespace : String := "source_workload_namespace"
def sourceWorkload : String := "source_workload"
def sourceApp : String := "source_app"
def sourceVersion : String := "source_version"
def destServiceNamespace : String := "destination_service_namespace"
def destWorkloadNamespace : String := "destination_workload_namespace"
def destService : String := "destination_service_name"
def destWorkload : String := "destination_workload"
def destApp : String := "destination_app"
def destVersion : String := "destination_version"
def responseCode : String := "response_code"

end SeriesLabel

end MeshTraffic
