import MeshTraffic.Build.Task
import MeshTraffic.Request

/-!
# Appenders

An appender adds to the map of one namespace what traffic alone does not tell, and may ask telemetry
for it. Appenders run one after another, each on what the last one left.
-/

namespace MeshTraffic

/-- Adds to the map that was built for a namespace of a request. -/
abbrev Appender (ν : Type) := Request → Scope → TrafficMap ν → Task ν (TrafficMap ν)

/-- Runs appenders one after another. -/
def Appender.runAll {ν : Type} (appenders : List (Appender ν)) (r : Request) (scope : Scope)
    (m : TrafficMap ν) : Task ν (TrafficMap ν) :=
  match appenders with
  | [] => .done m
  | a :: rest => (a r scope m).bind (runAll rest r scope)

end MeshTraffic
