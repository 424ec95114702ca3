import MeshTraffic.Build.Timeline

/-!
# The graph of a request

`Request.graph` builds what a request wants, and `Request.namespacesGraph` and `Request.nodeGraph`
one kind of graph whatever the request says. Each makes the plan first: a request that is at fault
fails before anything is asked.
-/

namespace MeshTraffic

variable {ν : Type} [Quantity ν]

/-- Runs a plan, if it could be made. -/
def Plan.runIfMade (b : Backend ν) (c : Clock) (p : Except BuildError (Plan ν)) :
    Transcript (TrafficMap ν) :=
  match p with
  | .ok p => p.runTimed b c
  | .error e => ⟨[], .error e⟩

namespace Request

/-- The clock of a build under the request's time limit. -/
def clock (r : Request) (latency : Nat) (cancelAt : Option Nat) : Clock :=
  ⟨latency, r.timeout.map (1000 * ·), cancelAt⟩

/-- Builds the graph of the requested namespaces. -/
def namespacesGraph (extra : List (Appender ν)) (b : Backend ν) (c : Clock) (r : Request) :
    Transcript (TrafficMap ν) :=
  Plan.runIfMade b c (Plan.ofNamespaces extra r)

/-- Builds the graph of the wanted node. -/
def nodeGraph (extra : List (Appender ν)) (b : Backend ν) (c : Clock) (r : Request) :
    Transcript (TrafficMap ν) :=
  Plan.runIfMade b c (Plan.ofFocus extra r)

/-- Builds the graph that the request wants. -/
def graph (extra : List (Appender ν)) (b : Backend ν) (c : Clock) (r : Request) :
    Transcript (TrafficMap ν) :=
  Plan.runIfMade b c (Plan.ofRequest extra r)

end Request

end MeshTraffic
