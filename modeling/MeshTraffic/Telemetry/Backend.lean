import MeshTraffic.Telemetry.Fault
import MeshTraffic.Telemetry.Sample

/-!
# Backends

* `Backend ν`: what answers queries.
* `Rules`: a backend with prepared answers. A rule applies to the queries that contain all of its
  fragments; the first rule that applies answers, and a query to which none applies has no samples.
-/

namespace MeshTraffic

/-- Answers query expressions. -/
abbrev Backend (ν : Type) := String → Except TelemetryFault (List (Sample ν))

/-- A prepared answer: samples, or the text of a failure. -/
structure Rule (ν : Type) where
  fragments : List String
  answer : Except String (List (Sample ν))

/-- Prepared answers, in order of precedence. -/
abbrev Rules (ν : Type) := List (Rule ν)

/-- Whether `fragment` occurs in a text. -/
def occursIn (fragment : List Char) : List Char → Bool
  | [] => fragment.isEmpty
  | c :: rest => fragment.isPrefixOf (c :: rest) || occursIn fragment rest

/-- Whether the rule answers a query. -/
def Rule.applies {ν : Type} (rule : Rule ν) (query : String) : Bool :=
  rule.fragments.all fun f => occursIn f.toList query.toList

/-- The answer of the first rule that applies. -/
def Rules.backend {ν : Type} (rules : Rules ν) : Backend ν := fun query =>
  match rules.find? (·.applies query) with
  | some rule => rule.answer.mapError (.backend "execution")
  | none => .ok []

end MeshTraffic
