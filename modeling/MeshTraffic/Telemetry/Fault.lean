/-!
# Failures of telemetry

`TelemetryFault`: why a query has no answer, or why no query can be asked.
-/

namespace MeshTraffic

/-- Why telemetry cannot answer. -/
inductive TelemetryFault where
  /-- The backend refused with an HTTP status. -/
  | status (code : Nat) (body : String)
  /-- The backend reports that a query failed. -/
  | backend (type text : String)
  /-- The answer is no response document. -/
  | malformed
  /-- The query evaluated to something else than a vector of samples. -/
  | unexpectedResultType (type : String)
  /-- The request was given up before the query was answered. -/
  | cancelled
  /-- The time for the request was over before the query was answered. -/
  | deadlineExceeded
  /-- The backend's settings are wrong. -/
  | configuration (text : String)
  deriving DecidableEq, Repr

def TelemetryFault.message : TelemetryFault → String
  | status code body => "telemetry backend returned " ++ toString code ++ ": " ++ body
  | backend type text => "telemetry query error (" ++ type ++ "): " ++ text
  | malformed => "malformed telemetry response"
  | unexpectedResultType type =>
    "unexpected telemetry result type '" ++ type ++ "', expected 'vector'"
  | cancelled => "telemetry query cancelled"
  | deadlineExceeded => "telemetry query deadline exceeded"
  | configuration text => "invalid telemetry configuration: " ++ text

end MeshTraffic
