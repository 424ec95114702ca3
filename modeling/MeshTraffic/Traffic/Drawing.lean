import MeshTraffic.Traffic.Observation
import MeshTraffic.TrafficMap

/-!
# Drawing traffic

* `TrafficMap.draw` adds one observation: its value counts for the edge, for what the source
  sends and for what the destination receives.
* `TrafficMap.ofFeeds` draws everything that some feeds observe, in order.
* `Node.reconcile`: series of one node may differ in their app and version. Such a node is marked,
  and the labels of a series with traffic are trusted over earlier ones.
-/

namespace MeshTraffic

variable {ν : Type} [Quantity ν]

/-! ## Nodes and edges -/

/-- Adds to the counter `key?`, if there is one. -/
def Metadata.sumIf (m : Metadata ν) (key? : Option String) (x : ν) : Metadata ν :=
  match key? with
  | some key => m.sum key x
  | none => m

/-- Adds traffic to an edge. -/
def Edge.carry (flow : Flow) (x : ν) (e : Edge ν) : Edge ν :=
  { e with metadata := (e.metadata.sum flow.rateKey x).sumIf flow.edgeClassKey? x }

namespace Node

/-- Whether the app and version of a node of this kind can differ among its series. -/
def hasLooseLabels (kind : NodeKind) (type : GraphType) : Bool :=
  match kind with
  | .workload => true
  | .app | .versionedApp => type = .versionedApp
  | .unknown | .service => false

/-- Takes notice of the labels of another series of the node, whose value is `x`. -/
def reconcile (type : GraphType) (l : Labels) (x : ν) (n : Node ν) : Node ν :=
  if hasLooseLabels n.kind type then
    let app := knownPart l.app
    let version := knownPart l.version
    let mark (differs : Bool) (label : String) (m : Metadata ν) : Metadata ν :=
      if differs then m.addName Key.isMisconfigured label else m
    { n with
      metadata := n.metadata |> mark (n.labels.app != app) "app"
        |> mark (n.labels.version != version) "version"
      labels := if Quantity.isPositive x then { n.labels with app, version } else n.labels }
  else n

/-- Adds traffic that the node sends to `dest`. -/
def send (flow : Flow) (dest : NodeId) (x : ν) (n : Node ν) : Node ν :=
  { n with metadata := n.metadata.sum flow.outKey x }.modifyEdge dest flow.protocol
    (Edge.carry flow x)

/-- Adds traffic that the node receives, addressed to `service`; it is a service entry if the
request lists it as one. -/
def receive (flow : Flow) (isEntry : Bool) (service : String) (x : ν) (n : Node ν) : Node ν :=
  let raiseIf (m : Metadata ν) := if isEntry then m.raise Key.isServiceEntry else m
  let nameIf (m : Metadata ν) :=
    if service = "" then m else m.addName Key.destServices service
  n.mapMetadata fun m =>
    ((nameIf (raiseIf m)).sum flow.inKey x).sumIf flow.nodeClassKey? x

end Node

namespace TrafficMap

/-- The node that the labels refer to, as it stands after a series with value `x` is taken notice
of. -/
def encounter (m : TrafficMap ν) (type : GraphType) (l : Labels) (x : ν) : Node ν :=
  let identity := l.resolve type
  match m.get? identity.id with
  | some n => n.reconcile type l x
  | none => .ofIdentity identity l

/-- Adds an observation. -/
def draw (r : Request) (m : TrafficMap ν) (o : Observation ν) : TrafficMap ν :=
  let source := o.hop.source.resolve r.type
  let dest := o.hop.dest.resolve r.type
  let isEntry := dest.kind = .service && decide (o.hop.dest.service ∈ r.serviceEntryHosts)
  let m : TrafficMap ν := m.insert source.id
    ((m.encounter r.type o.hop.source o.value).send o.flow dest.id o.value)
  m.insert dest.id
    ((m.encounter r.type o.hop.dest o.value).receive o.flow isEntry o.hop.dest.service o.value)

/-- The map of everything that some feeds observe. -/
def ofFeeds (r : Request) (feeds : List (Feed ν)) : TrafficMap ν :=
  (feeds.flatMap (Feed.observations r)).foldl (draw r) ∅

end TrafficMap

end MeshTraffic
