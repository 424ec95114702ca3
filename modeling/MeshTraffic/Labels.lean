/-!
# Labels

Telemetry describes the two ends of a connection by five labels. A label that the backend could
not attribute says `unknown`; it counts as absent, like the empty one.
-/

namespace MeshTraffic

/-- What the backend writes for a label that it cannot attribute. -/
def unknownLabel : String := "unknown"

/-- Whether a label is present and attributed. -/
def isKnown (label : String) : Bool := label != "" && label != unknownLabel

/-- The label as it is stored on a node: empty unless it is attributed. -/
def knownPart (label : String) : String := if label = unknownLabel then "" else label

/-- The labels that describe a mesh entity. -/
structure Labels where
  /-- The namespace. -/
  ns : String := ""
  workload : String := ""
  app : String := ""
  version : String := ""
  service : String := ""
  deriving DecidableEq, Repr, Inhabited

/-- A service that is known by its name alone. -/
def Labels.ofService (ns service : String) : Labels := ⟨ns, "", "", "", service⟩

end MeshTraffic
