import MeshTraffic.Proofs.Marking
import MeshTraffic.Proofs.PathRates

/-!
# What service graphs keep

A service graph keeps the services and the roots of a map, and all traffic of what it keeps leads
to services.

* `TrafficMap.IsReductOf`: what a service graph has of a map.
* `TrafficMap.isReductOf_toServiceGraph`: every service graph has it of the map that it is made of.
-/

namespace MeshTraffic

variable {ν : Type} [Quantity ν]

namespace TrafficMap

/-- The map `g` has the services and the roots of `m`, and edges to services only. -/
structure IsReductOf (m g : TrafficMap ν) : Prop where
  /-- What is kept stands under its id, in the order of `m`. -/
  keys_eq : g.keys = (m.nodes.filter Node.isKept).map Node.id
  /-- Nothing but the edges of what is kept changes. -/
  bare_eq : g.nodes.map Node.bare = (m.nodes.filter Node.isKept).map Node.bare
  /-- Every node owns its edges, and no two of them lead to one node over one protocol. -/
  tidy : ∀ n ∈ g.nodes, n.Tidy
  /-- Every edge leads to a service that is kept. -/
  leadsToService : ∀ e ∈ g.edges, g.LeadsToService e
  protocol_mem : ∀ e ∈ g.edges, e.protocol ∈ [.http, .tcp]

/-- Every edge of a service graph leads where an edge of the map leads to a service. -/
theorem exists_isServiceEdge {m g : TrafficMap ν} (hid : ∀ {k n}, m.get? k = some n → n.id = k)
    (h : m.toServiceGraph = .ok g) {e : Edge ν} (he : e ∈ g.edges) :
    ∃ f, m.IsServiceEdge f ∧ f.target = e.target := by
  obtain ⟨n, hn, he⟩ := List.mem_flatMap.mp he
  obtain ⟨-, htargets⟩ := of_mem_nodes_toServiceGraph hid h hn
  exact htargets _ (List.mem_map_of_mem he)

/-- **Service graphs keep services and roots**, as they are but for their edges, which lead to
services. -/
theorem isReductOf_toServiceGraph {m g : TrafficMap ν}
    (hid : ∀ {k n}, m.get? k = some n → n.id = k) (h : m.toServiceGraph = .ok g) :
    m.IsReductOf g where
  keys_eq := keys_toServiceGraph hid h
  bare_eq := bare_nodes_toServiceGraph hid h
  tidy n hn := (of_mem_nodes_toServiceGraph hid h hn).1
  leadsToService e he := by
    obtain ⟨f, hf, htarget⟩ := exists_isServiceEdge hid h he
    have hdest : f.dest = e.dest := congrArg Prod.fst htarget
    obtain ⟨child, hchild, hkind⟩ := leadsToService_toServiceGraph hid h hf.leadsToService
    exact ⟨child, hdest ▸ hchild, hkind⟩
  protocol_mem e he := by
    obtain ⟨f, hf, htarget⟩ := exists_isServiceEdge hid h he
    have hprotocol : f.protocol = e.protocol := congrArg Prod.snd htarget
    exact hprotocol ▸ hf.protocol_mem

/-- A root and two services are kept, and the workload between the services is left out. -/
theorem isReductOf_toServiceGraph_twoProtocols :
    ∃ m g : TrafficMap Rat, (∀ {k n}, m.get? k = some n → n.id = k) ∧
      m.keys.map NodeId.text = ["unknown", "svc_a_caller", "wl_a_caller", "svc_a_callee"] ∧
      m.toServiceGraph = .ok g ∧
      g.keys.map NodeId.text = ["unknown", "svc_a_caller", "svc_a_callee"] ∧
      g.edges.map (fun e => (e.source.text, e.dest.text, e.protocol)) =
        [("unknown", "svc_a_caller", .http), ("unknown", "svc_a_caller", .tcp),
          ("svc_a_caller", "svc_a_callee", .http)] ∧
      m.IsReductOf g := by
  let m := twoProtocols.classify default
  have hid : ∀ {k n}, m.get? k = some n → n.id = k := (wellFormed_twoProtocols.classify _).id_eq
  have hgraph : m.toServiceGraph.toOption.bind (fun g => some (g.keys.map NodeId.text,
      g.edges.map fun e => (e.source.text, e.dest.text, e.protocol))) =
        some (["unknown", "svc_a_caller", "svc_a_callee"],
          [("unknown", "svc_a_caller", .http), ("unknown", "svc_a_caller", .tcp),
            ("svc_a_caller", "svc_a_callee", .http)]) := by
    decide +kernel
  obtain ⟨g, hg, heq⟩ := exists_ok_of_bind_toOption hgraph
  obtain ⟨hkeys, hedges⟩ := Prod.mk.inj (Option.some.inj heq)
  exact ⟨m, g, hid, by decide +kernel, hg, hkeys, hedges, isReductOf_toServiceGraph hid hg⟩

end TrafficMap

end MeshTraffic
