import MeshTraffic.Decimal.Literal
import MeshTraffic.Telemetry.Fault
import MeshTraffic.Text.Blank

/-!
# Where the backend is

`Endpoint.ofSettings` takes the address and the time limit of the backend from named settings; a
setting that is not there has a default. The time limit is judged first.
-/

namespace MeshTraffic

/-- The backend's address and how many seconds it may take for an answer. -/
structure Endpoint where
  url : String := "http://prometheus:9090"
  timeout : Nat := 30
  deriving DecidableEq, Repr

namespace Endpoint

/-- The setting that holds the address. -/
def urlSetting : String := "MESHGRAPH_PROMETHEUS_URL"

/-- The setting that holds the time limit. -/
def timeoutSetting : String := "MESHGRAPH_QUERY_TIMEOUT_SECS"

/-- A natural number below `2 ^ 64`, with at most a plus sign and white space around. -/
def readSeconds? (text : String) : Option Nat :=
  let cs := Text.trim text.toList
  let ds := match cs with
    | '+' :: rest => rest
    | _ => cs
  if ds.isEmpty || !ds.all Char.isDigit then none
  else
    let n := Decimal.digitsValue ds
    if n < Decimal.wordCount then some n else none

/-- The time limit that the settings give. -/
def timeoutOf (setting : String → Option String) : Except TelemetryFault Nat :=
  match setting timeoutSetting with
  | none => .ok ({} : Endpoint).timeout
  | some text =>
    match readSeconds? text with
    | some n => .ok n
    | none => .error (.configuration
        (timeoutSetting ++ " must be a whole number of seconds, got '" ++ text ++ "'"))

/-- The endpoint that the settings describe. -/
def ofSettings (setting : String → Option String) : Except TelemetryFault Endpoint := do
  let url := (setting urlSetting).getD ({} : Endpoint).url
  let timeout ← timeoutOf setting
  if (Text.trim url.toList).isEmpty then throw (.configuration (urlSetting ++ " is empty"))
  return { url, timeout }

/-- The address that queries go to. -/
def queryUrl (e : Endpoint) : String :=
  String.ofList (e.url.toList.reverse.dropWhile (· = '/')).reverse ++ "/api/v1/query"

end Endpoint

end MeshTraffic
