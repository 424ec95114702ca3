import MeshTraffic.Telemetry.Fault
import MeshTraffic.TrafficMap

/-!
# Why a graph is not built

A build fails because the request cannot be served, because telemetry does not answer, or because
the graph holds what cannot be processed. `BuildError.category` sorts the failures for the caller;
wrong settings of the backend count as a mistake in the configuration.
-/

namespace MeshTraffic

/-- Why a build failed. -/
inductive BuildError where
  | configuration (text : String)
  | query (fault : TelemetryFault)
  | data (text : String)
  deriving DecidableEq, Repr

namespace BuildError

/-- Whose failure it is. -/
inductive Category where
  | configuration
  | query
  | data
  deriving DecidableEq, Repr

def Category.name : Category → String
  | configuration => "configuration"
  | query => "query"
  | data => "data"

def Category.code : Category → String
  | configuration => "CONFIGURATION_ERROR"
  | query => "QUERY_ERROR"
  | data => "DATA_ERROR"

def category : BuildError → Category
  | configuration _ | query (.configuration _) => .configuration
  | query _ => .query
  | data _ => .data

def message : BuildError → String
  | configuration text => "configuration error: " ++ text
  | query fault => "query error: " ++ fault.message
  | data text => "data error: " ++ text

/-- Whether the build was given up, by the caller or for lack of time. -/
def isCancelled : BuildError → Bool
  | query .cancelled | query .deadlineExceeded => true
  | _ => false

/-- An unknown word in a request is a mistake in it; the other faults lie in the graph. -/
def ofGraphFault (fault : GraphFault) : BuildError :=
  match fault with
  | .unsupportedType _ | .unsupportedKind _ => configuration fault.message
  | _ => data fault.message

end BuildError

end MeshTraffic
