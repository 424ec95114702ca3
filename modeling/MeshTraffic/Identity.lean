import MeshTraffic.Labels

/-!
# Node identities

A node's id is derived from its labels alone, so that the same mesh entity gets the same id in
every namespace of a request. `resolve` takes the first rule that applies:

1. in the namespace `unknown` everything is the one unknown node;
2. a service without workload, app and version is a service;
3. in an app graph an app label makes an app, or a versioned app if versions are told apart and
   the version is known;
4. a workload label makes a workload;
5. a service label makes a service;
6. all else is the unknown node.
-/

namespace MeshTraffic

/-- What the nodes of a graph stand for. -/
inductive GraphType where
  | app
  | service
  | versionedApp
  | workload
  deriving DecidableEq, Repr, Inhabited

namespace GraphType

def all : List GraphType := [app, service, versionedApp, workload]

def name : GraphType → String
  | app => "app"
  | service => "service"
  | versionedApp => "versionedApp"
  | workload => "workload"

/-- The graph type of a name. -/
def ofName? (s : String) : Option GraphType := all.find? fun t => t.name = s

/-- Whether the app label identifies a node. -/
def isAppBased : GraphType → Bool
  | app | versionedApp => true
  | service | workload => false

end GraphType

/-- What a node stands for. -/
inductive NodeKind where
  /-- Traffic from or to outside the mesh. -/
  | unknown
  | workload
  | app
  | versionedApp
  | service
  deriving DecidableEq, Repr, Inhabited

namespace NodeKind

def all : List NodeKind := [unknown, workload, app, versionedApp, service]

def name : NodeKind → String
  | unknown => "unknown"
  | workload => "workload"
  | app => "app"
  | versionedApp => "versionedApp"
  | service => "service"

/-- The kind of a name. -/
def ofName? (s : String) : Option NodeKind := all.find? fun k => k.name = s

end NodeKind

/-- The id of a node. -/
structure NodeId where
  text : String
  deriving DecidableEq, Repr, Inhabited

namespace NodeId

/-- The id of everything that cannot be attributed. -/
def unknown : NodeId := ⟨unknownLabel⟩

/-- Marks the joint `_` and the mark `\` itself. -/
def escape (c : Char) : List Char := if c = '_' || c = '\\' then ['\\', c] else [c]

/-- Joins a word for the kind and its fields by `_`, with every `_` and `\` inside a field
marked. -/
def compose (kind : String) (fields : List String) : NodeId :=
  ⟨String.ofList (kind.toList ++ fields.flatMap fun f => '_' :: f.toList.flatMap escape)⟩

end NodeId

/-- What a set of labels refers to. -/
structure Identity where
  id : NodeId
  kind : NodeKind
  deriving DecidableEq, Repr

namespace Identity

/-- The one node for all that cannot be attributed. -/
def unknown : Identity := ⟨NodeId.unknown, .unknown⟩

def ofService (ns service : String) : Identity := ⟨.compose "svc" [ns, service], .service⟩

def ofWorkload (ns workload : String) : Identity := ⟨.compose "wl" [ns, workload], .workload⟩

def ofApp (ns app : String) : Identity := ⟨.compose "app" [ns, app], .app⟩

def ofVersionedApp (ns app version : String) : Identity :=
  ⟨.compose "vapp" [ns, app, version], .versionedApp⟩

end Identity

/-- What the labels refer to in a graph of the given type. -/
def Labels.resolve (l : Labels) (type : GraphType) : Identity :=
  if l.ns = unknownLabel then .unknown
  else if isKnown l.service && !isKnown l.workload && !isKnown l.app && !isKnown l.version then
    .ofService l.ns l.service
  else if type.isAppBased && isKnown l.app then
    if type = .versionedApp && isKnown l.version then .ofVersionedApp l.ns l.app l.version
    else .ofApp l.ns l.app
  else if isKnown l.workload then .ofWorkload l.ns l.workload
  else if isKnown l.service then .ofService l.ns l.service
  else .unknown

example : (Labels.resolve ⟨"ns", "a_b", "", "", ""⟩ .workload).id.text = "wl_ns_a\\_b" := by decide

/-- The labels that a node of a kind keeps. A workload keeps its app and version, which help to
recognise it. -/
def Labels.trim (l : Labels) : NodeKind → Labels
  | .unknown => ⟨unknownLabel, "", "", "", ""⟩
  | .workload => ⟨l.ns, knownPart l.workload, knownPart l.app, knownPart l.version, ""⟩
  | .app => ⟨l.ns, "", knownPart l.app, "", ""⟩
  | .versionedApp => ⟨l.ns, knownPart l.workload, knownPart l.app, knownPart l.version, ""⟩
  | .service => ⟨l.ns, "", "", "", knownPart l.service⟩

end MeshTraffic
