import MeshTraffic.Collections.SortedMap
import MeshTraffic.Quantity

/-!
# Metadata

Nodes and edges carry metadata: under each key a number, a flag or a set of names. What several
samples contribute to one key is accumulated: `sum` adds counters up, `average` keeps a running
mean, for which it holds the total and the count under two keys of their own, and `addName` collects
names. A value of another shape under the key counts as absent.
-/

namespace MeshTraffic

/-! ## Keys -/

namespace Key

/-- The request rate of an edge. -/
def http : String := "http"
def http3xx : String := "http3xx"
def http4xx : String := "http4xx"
def http5xx : String := "http5xx"
/-- The request rate into a node. -/
def httpIn : String := "httpIn"
def httpIn3xx : String := "httpIn3xx"
def httpIn4xx : String := "httpIn4xx"
def httpIn5xx : String := "httpIn5xx"
/-- The request rate out of a node. -/
def httpOut : String := "httpOut"
/-- The byte rate of an edge. -/
def tcp : String := "tcp"
def tcpIn : String := "tcpIn"
def tcpOut : String := "tcpOut"
/-- The response time of an edge in milliseconds. -/
def responseTime : String := "responseTime"
/-- The services that a node was reached through. -/
def destServices : String := "destServices"
/-- The labels that differ among a node's series. -/
def isMisconfigured : String := "isMisconfigured"
def isOutside : String := "isOutside"
def isInaccessible : String := "isInaccessible"
def isRoot : String := "isRoot"
def isServiceEntry : String := "isServiceEntry"

/-- Where the running mean under `key` keeps its total. -/
def total (key : String) : String := key ++ "_total"

/-- Where the running mean under `key` keeps its count. -/
def count (key : String) : String := key ++ "_count"

end Key

/-! ## Values -/

/-- What stands under a metadata key. -/
inductive Attribute (ν : Type) where
  | number (x : ν)
  | flag (b : Bool)
  | names (s : NameSet)
  deriving DecidableEq, BEq

/-- The metadata of a node or an edge. -/
abbrev Metadata (ν : Type) := SortedMap (Attribute ν)

namespace Attribute

variable {ν : Type}

def number? : Attribute ν → Option ν
  | number x => some x
  | _ => none

def flag? : Attribute ν → Option Bool
  | flag b => some b
  | _ => none

def names? : Attribute ν → Option NameSet
  | names s => some s
  | _ => none

end Attribute

namespace Metadata

variable {ν : Type}

/-- The number under `key`. -/
def number? (m : Metadata ν) (key : String) : Option ν := (m.get? key).bind Attribute.number?

/-- The number under `key`, or zero. -/
def numberD [Quantity ν] (m : Metadata ν) (key : String) : ν := (m.number? key).getD 0

/-- Whether the flag `key` is raised. -/
def flag (m : Metadata ν) (key : String) : Bool :=
  ((m.get? key).bind Attribute.flag?).getD false

/-- The set of names under `key`. -/
def names? (m : Metadata ν) (key : String) : Option NameSet :=
  (m.get? key).bind Attribute.names?

/-- Raises the flag `key`. -/
def raise (m : Metadata ν) (key : String) : Metadata ν := m.insert key (.flag true)

/-- Adds `name` to the set under `key`. -/
def addName (m : Metadata ν) (key name : String) : Metadata ν :=
  m.insert key (.names (((m.names? key).getD ∅).add name))

@[simp] theorem get?_raise (m : Metadata ν) (key k : String) :
    (m.raise key).get? k = if k = key then some (.flag true) else m.get? k :=
  SortedMap.get?_insert m key k _

@[simp] theorem get?_addName (m : Metadata ν) (key name k : String) :
    (m.addName key name).get? k =
      if k = key then some (.names (((m.names? key).getD ∅).add name)) else m.get? k :=
  SortedMap.get?_insert m key k _

variable [Quantity ν]

/-- Adds `x` to the counter `key`. -/
def sum (m : Metadata ν) (key : String) (x : ν) : Metadata ν :=
  m.insert key (.number (m.numberD key + x))

@[simp] theorem get?_sum (m : Metadata ν) (key k : String) (x : ν) :
    (m.sum key x).get? k = if k = key then some (.number (m.numberD key + x)) else m.get? k :=
  SortedMap.get?_insert m key k _

/-- Takes `x` into the running mean `key`. -/
def average (m : Metadata ν) (key : String) (x : ν) : Metadata ν :=
  let total := m.numberD (Key.total key) + x
  let count := m.numberD (Key.count key) + 1
  m |>.insert (Key.total key) (.number total)
    |>.insert (Key.count key) (.number count)
    |>.insert key (.number (total / count))

end Metadata

end MeshTraffic
