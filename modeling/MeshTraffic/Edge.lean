import MeshTraffic.Identity
import MeshTraffic.Metadata

/-!
# Edges

An edge belongs to its source node and leads to another node, which it names by id. It carries
traffic of one protocol; `rate` is how much.
-/

namespace MeshTraffic

/-- The protocol of an edge's traffic. -/
inductive Protocol where
  | http
  | tcp
  /-- A protocol that only an appender draws edges for; its rates are not summed. -/
  | other (name : String)
  deriving DecidableEq, Repr, Inhabited

namespace Protocol

def name : Protocol → String
  | http => "http"
  | tcp => "tcp"
  | other s => s

def ofName (s : String) : Protocol :=
  if s = "http" then http else if s = "tcp" then tcp else other s

/-- The key of the rate of an edge of this protocol. -/
def rateKey? : Protocol → Option String
  | http => some Key.http
  | tcp => some Key.tcp
  | other _ => none

end Protocol

/-- Traffic from one node to another. -/
structure Edge (ν : Type) where
  source : NodeId
  dest : NodeId
  protocol : Protocol
  metadata : Metadata ν := ∅
  deriving DecidableEq, BEq

namespace Edge

variable {ν : Type}

/-- Whether the edge leads to `dest` over `protocol`; a node has at most one such edge. -/
def leadsTo (e : Edge ν) (dest : NodeId) (protocol : Protocol) : Bool :=
  e.dest = dest && e.protocol = protocol

/-- Whether the two edges lead to one node over one protocol. -/
def isParallel (e f : Edge ν) : Bool := e.leadsTo f.dest f.protocol

/-- The rate of the edge's protocol. -/
def rate [Quantity ν] (e : Edge ν) : ν :=
  match e.protocol.rateKey? with
  | some key => e.metadata.numberD key
  | none => 0

end Edge

end MeshTraffic
