import MeshTraffic.Edge
import MeshTraffic.Traffic.Attribution

/-!
# Observed traffic

* `Flow`: what is counted, and under which keys.
* `Feed`: samples of request or byte counters. A feed is read as a list of `Observation`s, one for
  each hop of each sample that can be used: it has all labels, and a value.
-/

namespace MeshTraffic

/-- What is counted. -/
inductive Flow where
  /-- Requests that were answered with a response code. -/
  | http (code : String)
  /-- Bytes. -/
  | tcp
  deriving DecidableEq, Repr

namespace Flow

def protocol : Flow → Protocol
  | http _ => .http
  | tcp => .tcp

/-- The key of the traffic of an edge. -/
def rateKey : Flow → String
  | http _ => Key.http
  | tcp => Key.tcp

/-- The key of the traffic out of a node. -/
def outKey : Flow → String
  | http _ => Key.httpOut
  | tcp => Key.tcpOut

/-- The key of the traffic into a node. -/
def inKey : Flow → String
  | http _ => Key.httpIn
  | tcp => Key.tcpIn

/-- The classes of response codes that are counted apart; the first digit tells them. -/
def classDigit? : Flow → Option Char
  | http code =>
    match code.toList with
    | c :: _ => if c = '3' || c = '4' || c = '5' then some c else none
    | [] => none
  | tcp => none

/-- The key of a class of responses on an edge. -/
def edgeClassKey? (f : Flow) : Option String :=
  f.classDigit?.map fun c =>
    if c = '3' then Key.http3xx else if c = '4' then Key.http4xx else Key.http5xx

/-- The key of a class of responses at the node that answers. -/
def nodeClassKey? (f : Flow) : Option String :=
  f.classDigit?.map fun c =>
    if c = '3' then Key.httpIn3xx else if c = '4' then Key.httpIn4xx else Key.httpIn5xx

end Flow

/-- Some traffic over one hop. -/
structure Observation (ν : Type) where
  flow : Flow
  hop : Hop
  value : ν

/-- The answers of traffic queries. -/
inductive Feed (ν : Type) where
  /-- Samples of request counters. -/
  | http (samples : List (Sample ν))
  /-- Samples of byte counters. -/
  | tcp (samples : List (Sample ν))

variable {ν : Type} [Quantity ν]

/-- What a sample counts, if it is used at all. -/
def Sample.observations (r : Request) (flow? : Sample ν → Option Flow) (s : Sample ν) :
    List (Observation ν) :=
  match Attribution.ofLabels? s.labels, flow? s with
  | some a, some flow =>
    if Quantity.isNaN s.value then [] else (a.hops r).map fun hop => ⟨flow, hop, s.value⟩
  | _, _ => []

/-- A sample of a request counter has to tell the response code. -/
def Sample.requestFlow? (s : Sample ν) : Option Flow :=
  (s.labels.get? SeriesLabel.responseCode).map .http

namespace Feed

/-- What a feed counts, in order. -/
def observations (r : Request) : Feed ν → List (Observation ν)
  | http samples => samples.flatMap (Sample.observations r Sample.requestFlow?)
  | tcp samples => samples.flatMap (Sample.observations r fun _ => some .tcp)

end Feed

end MeshTraffic
