import MeshTraffic.Json.Tree
import MeshTraffic.TrafficMap

/-!
# Graphs as JSON documents

Each type has an encoder `toJson` and a partial decoder `ofJson?`. Records are objects with their
fields in a fixed order, metadata values are told apart by their shape, and a map is an object
whose field names are the keys, in order of arrival.
-/

namespace MeshTraffic

variable {ν : Type} [Quantity ν]

namespace Json

/-- A number; there is no number for what is not finite. -/
def ofQuantity (x : ν) : Json ν := if Quantity.isFinite x then .number x none else .null

/-- A natural number. -/
def ofNat (n : Nat) : Json ν := .number (Quantity.ofNat n) (some n)

end Json

open Json

def NodeId.toJson (id : NodeId) : Json ν := .string id.text

def NodeId.ofJson? (j : Json ν) : Option NodeId := j.text?.map NodeId.mk

def NodeKind.toJson (k : NodeKind) : Json ν := .string k.name

def NodeKind.ofJson? (j : Json ν) : Option NodeKind := j.name?.bind NodeKind.ofName?

def GraphType.toJson (t : GraphType) : Json ν := .string t.name

def GraphType.ofJson? (j : Json ν) : Option GraphType := j.name?.bind GraphType.ofName?

def Protocol.toJson (p : Protocol) : Json ν := .string p.name

def Protocol.ofJson? (j : Json ν) : Option Protocol := j.text?.map Protocol.ofName

/-! ## Metadata -/

def Attribute.toJson : Attribute ν → Json ν
  | number x => .ofQuantity x
  | flag b => .bool b
  | names s => .array (s.toNames.map .string)

/-- A number, a truth value, or an array of strings. -/
def Attribute.ofJson? (j : Json ν) : Option (Attribute ν) :=
  match j with
  | .number _ _ => j.number?.map .number
  | .bool b => some (.flag b)
  | .array _ => (j.list? text?).map fun names => .names (NameSet.ofNames names)
  | _ => none

def Metadata.toJson (m : Metadata ν) : Json ν :=
  .object (m.entries.map fun e => (e.1, e.2.toJson))

def Metadata.ofJson? (j : Json ν) : Option (Metadata ν) :=
  (j.dictionary? Attribute.ofJson?).map SortedMap.ofList

/-! ## Edges and nodes -/

def Edge.toJson (e : Edge ν) : Json ν :=
  .object [("source", e.source.toJson), ("dest", e.dest.toJson),
    ("protocol", e.protocol.toJson), ("metadata", Metadata.toJson e.metadata)]

def Edge.ofJson? (j : Json ν) : Option (Edge ν) := do
  let f ← j.record? ["source", "dest", "protocol", "metadata"]
  return {
    source := ← f.required "source" NodeId.ofJson?
    dest := ← f.required "dest" NodeId.ofJson?
    protocol := ← f.required "protocol" Protocol.ofJson?
    metadata := ← f.required "metadata" Metadata.ofJson? }

def Node.toJson (n : Node ν) : Json ν :=
  .object [("id", n.id.toJson), ("kind", n.kind.toJson), ("namespace", .string n.labels.ns),
    ("workload", .string n.labels.workload), ("app", .string n.labels.app),
    ("version", .string n.labels.version), ("service", .string n.labels.service),
    ("edges", .array (n.edges.map Edge.toJson)), ("metadata", Metadata.toJson n.metadata)]

def Node.ofJson? (j : Json ν) : Option (Node ν) := do
  let f ← j.record? ["id", "kind", "namespace", "workload", "app", "version", "service", "edges",
    "metadata"]
  let labels : Labels := {
    ns := ← f.required "namespace" text?
    workload := ← f.required "workload" text?
    app := ← f.required "app" text?
    version := ← f.required "version" text?
    service := ← f.required "service" text? }
  return {
    id := ← f.required "id" NodeId.ofJson?
    kind := ← f.required "kind" NodeKind.ofJson?
    labels
    edges := ← f.required "edges" (list? Edge.ofJson?)
    metadata := ← f.required "metadata" Metadata.ofJson? }

/-! ## Maps -/

def TrafficMap.toJson (m : TrafficMap ν) : Json ν :=
  .object (m.entries.map fun e => (e.1.text, e.2.toJson))

def TrafficMap.ofJson? (j : Json ν) : Option (TrafficMap ν) :=
  (j.dictionary? Node.ofJson?).map fun fields =>
    ArrivalMap.ofList (fields.map fun e => (⟨e.1⟩, e.2))

end MeshTraffic
