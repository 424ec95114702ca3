import MeshTraffic.BuildError
import MeshTraffic.Proofs.Contributions

/-!
# Which maps have a service graph

Whether there is a service graph depends on the edges of services and of roots, and on those of the
workloads that these lead to. Any map is meant here, also one that no traffic is drawn as.

* `GraphFault.IsInGraph`: the faults for which the graph is to blame.
  `FailsUnless.node_bind`, `FailsUnless.collect`: what the parts of a step need is what the whole
  needs.
* `TrafficMap.IsReducible`: no service and no root has an edge that cannot be carried over.
  `TrafficMap.failsUnless_toServiceGraph`: this is what a service graph needs.
* `TrafficMap.IsWalked`: the nodes whose edges are followed. `TrafficMap.toServiceGraph_rewired`:
  those of the other nodes do not matter.
* `TrafficMap.toServiceGraph_outcome`: how the making of a service graph ends.
-/

namespace MeshTraffic

variable {ν : Type}

/-! ## Faults of the graph -/

/-- The fault lies in the graph, not in the words of a request for one. -/
def GraphFault.IsInGraph : GraphFault → Prop
  | .unsupportedType _ | .unsupportedKind _ => False
  | _ => True

theorem BuildError.ofGraphFault_eq_data {fault : GraphFault} (h : fault.IsInGraph) :
    ofGraphFault fault = .data fault.message := by
  cases fault with
  | unsupportedType | unsupportedKind => cases h
  | unsupportedProtocol | missingNode | unexpectedKind | danglingEdge | duplicateEdge => rfl

namespace FailsUnless

/-- All steps have to end well. -/
theorem collect {ε α β : Type} {P : ε → Prop} {f : α → Except ε (List β)} {C : α → Prop}
    {l : List α} (h : ∀ a ∈ l, FailsUnless P (C a) (f a)) :
    FailsUnless P (∀ a ∈ l, C a) (collect f l) := by
  induction l with
  | nil => exact ok (by simp) []
  | cons a l ih =>
    obtain ⟨ha, hl⟩ := List.forall_mem_cons.mp h
    refine (ha.bind fun bs => (ih hl).bind_ok (bs ++ ·)).congr ?_
    rw [List.forall_mem_cons, ← ha.isOk_iff, exists_and_right]

/-- A step about the node under an id needs that there is one. -/
theorem node_bind {α : Type} {m : TrafficMap ν} {id : NodeId} {f : Node ν → Except GraphFault α}
    {C : Node ν → Prop} (h : ∀ n, FailsUnless GraphFault.IsInGraph (C n) (f n)) :
    FailsUnless GraphFault.IsInGraph (∃ n, m.get? id = some n ∧ C n) ((m.node id).bind f) := by
  unfold TrafficMap.node
  cases m.get? id with
  | none => exact error (by simp) trivial
  | some n => exact (h n).congr (by simp)

theorem summable (e : Edge ν) :
    FailsUnless GraphFault.IsInGraph (e.protocol ∈ [.http, .tcp]) e.summable := by
  unfold Edge.summable
  split
  · next h => exact ok (by simp [h]) [e]
  · next h => exact ok (by simp [h]) [e]
  · next h => exact error (by simp [h]) trivial

end FailsUnless

namespace TrafficMap

/-! ## What a service graph needs -/

/-- An edge of a workload behind a service can be carried over. -/
def CarriesBehindService (m : TrafficMap ν) (e : Edge ν) : Prop :=
  ∃ child, m.get? e.dest = some child ∧ child.kind = .service ∧ e.protocol ∈ [.http, .tcp]

/-- An edge of a service can be carried over. -/
def CarriesByService (m : TrafficMap ν) (e : Edge ν) : Prop :=
  ∃ via, m.get? e.dest = some via ∧
    (via.kind = .service ∧ e.protocol ∈ [.http, .tcp] ∨
      via.kind = .workload ∧ ∀ f ∈ via.edges, m.CarriesBehindService f)

/-- An edge of a workload behind a root can be carried over or dropped. -/
def CarriesBehindRoot (m : TrafficMap ν) (e : Edge ν) : Prop :=
  ∃ child, m.get? e.dest = some child ∧ (child.kind = .service → e.protocol ∈ [.http, .tcp])

/-- An edge of a root can be carried over or dropped. -/
def CarriesByRoot (m : TrafficMap ν) (e : Edge ν) : Prop :=
  ∃ via, m.get? e.dest = some via ∧ (via.kind = .service → e.protocol ∈ [.http, .tcp]) ∧
    (via.kind = .workload → ∀ f ∈ via.edges, m.CarriesBehindRoot f)

/-- All edges of services and of roots can be carried over. -/
structure IsReducible (m : TrafficMap ν) : Prop where
  services : ∀ n ∈ m.nodes, n.kind = .service → ∀ e ∈ n.edges, m.CarriesByService e
  roots : ∀ n ∈ m.nodes, n.kind ≠ .service → n.isRoot = true → ∀ e ∈ n.edges, m.CarriesByRoot e

section

variable (m : TrafficMap ν)

theorem failsUnless_carriedBehindService (e : Edge ν) :
    FailsUnless GraphFault.IsInGraph (m.CarriesBehindService e) (m.carriedBehindService e) := by
  refine .node_bind fun child => ?_
  split
  · next hkind => exact (FailsUnless.summable e).congr (by simp [hkind])
  · next hkind => exact .error (fun h => hkind h.1) trivial

theorem failsUnless_carriedByService (e : Edge ν) :
    FailsUnless GraphFault.IsInGraph (m.CarriesByService e) (m.carriedByService e) := by
  refine .node_bind fun via => ?_
  split
  · next hkind =>
    exact (FailsUnless.collect fun f _ => m.failsUnless_carriedBehindService f).congr
      (by simp [hkind])
  · next hkind => exact (FailsUnless.summable e).congr (by simp [hkind])
  · next hworkload hservice =>
    exact .error (fun h => h.elim (fun h => hservice h.1) fun h => hworkload h.1) trivial

theorem failsUnless_carriedBehindRoot (e : Edge ν) :
    FailsUnless GraphFault.IsInGraph (m.CarriesBehindRoot e) (m.carriedBehindRoot e) := by
  refine .node_bind fun child => ?_
  split
  · next hkind => exact (FailsUnless.summable e).congr (by simp [hkind])
  · next hkind => exact .ok (fun h => absurd h hkind) []

theorem failsUnless_carriedByRoot (e : Edge ν) :
    FailsUnless GraphFault.IsInGraph (m.CarriesByRoot e) (m.carriedByRoot e) := by
  refine .node_bind fun via => ?_
  split
  · next hkind =>
    exact (FailsUnless.collect fun f _ => m.failsUnless_carriedBehindRoot f).congr
      (by simp [hkind])
  · next hkind => exact (FailsUnless.summable e).congr (by simp [hkind])
  · next hworkload hservice =>
    exact .ok ⟨fun h => absurd h hservice, fun h => absurd h hworkload⟩ []

variable [Quantity ν]

theorem failsUnless_reduceNode (n : Node ν) :
    FailsUnless GraphFault.IsInGraph ((n.kind = .service → ∀ e ∈ n.edges, m.CarriesByService e) ∧
      (n.kind ≠ .service → n.isRoot = true → ∀ e ∈ n.edges, m.CarriesByRoot e))
      (m.reduceNode n) := by
  unfold reduceNode
  split
  · next hkind =>
    have hedges := FailsUnless.collect fun e (_ : e ∈ n.edges) => m.failsUnless_carriedByService e
    exact (hedges.bind_ok fun edges => [n.withEdges edges]).congr (by simp [hkind])
  · next hkind =>
    split
    · next hroot =>
      have hedges := FailsUnless.collect fun e (_ : e ∈ n.edges) => m.failsUnless_carriedByRoot e
      exact (hedges.bind_ok fun edges => [n.withEdges edges]).congr (by simp [hkind, hroot])
    · next hroot => exact .ok ⟨fun h => absurd h hkind, fun _ h => absurd h hroot⟩ []

/-- **A service graph needs** that all edges of services and of roots can be carried over. -/
theorem failsUnless_toServiceGraph :
    FailsUnless GraphFault.IsInGraph m.IsReducible m.toServiceGraph := by
  have hnodes := FailsUnless.collect fun n (_ : n ∈ m.nodes) => m.failsUnless_reduceNode n
  exact (hnodes.bind_ok ofNodes).congr
    ⟨fun h => ⟨fun n hn => (h n hn).1, fun n hn => (h n hn).2⟩,
      fun h n hn => ⟨h.services n hn, h.roots n hn⟩⟩

end

/-! ## Edges that do not matter -/

/-- The node is kept, or it is a workload that a kept node leads to. -/
def IsWalked (m : TrafficMap ν) (n : Node ν) : Prop :=
  n.isKept = true ∨ n.kind = .workload ∧
    ∃ kept ∈ m.nodes, kept.isKept = true ∧ ∃ e ∈ kept.edges, m.get? e.dest = some n

instance [DecidableEq ν] (m : TrafficMap ν) (n : Node ν) : Decidable (m.IsWalked n) :=
  inferInstanceAs (Decidable (_ ∨ _ ∧ _))

/-- The map with the edges that `f` gives each node. -/
def rewired (m : TrafficMap ν) (f : Node ν → List (Edge ν)) : TrafficMap ν :=
  m.mapNodes fun n => { n with edges := f n }

theorem nodes_mapNodes (f : Node ν → Node ν) (m : TrafficMap ν) :
    (m.mapNodes f).nodes = m.nodes.map f := by
  simp [nodes, mapNodes, ArrivalMap.values, ArrivalMap.mapValues, Function.comp_def]

variable {m : TrafficMap ν} {f : Node ν → List (Edge ν)}

/-- A step about a node is the same in both maps if it is the same with the node's new edges. -/
theorem bind_node_rewired {β : Type} {F F' : Node ν → Except GraphFault β} {id : NodeId}
    (h : ∀ n, m.get? id = some n → F { n with edges := f n } = F' n) :
    ((m.rewired f).node id).bind F = (m.node id).bind F' := by
  rw [node, rewired, get?_mapNodes, node]
  cases hn : m.get? id with
  | none => rfl
  | some n => exact h n hn

theorem carriedBehindService_rewired (e : Edge ν) :
    (m.rewired f).carriedBehindService e = m.carriedBehindService e :=
  bind_node_rewired fun _ _ => rfl

theorem carriedBehindRoot_rewired (e : Edge ν) :
    (m.rewired f).carriedBehindRoot e = m.carriedBehindRoot e :=
  bind_node_rewired fun _ _ => rfl

theorem carriedByService_rewired {e : Edge ν}
    (h : ∀ via, m.get? e.dest = some via → via.kind = .workload → f via = via.edges) :
    (m.rewired f).carriedByService e = m.carriedByService e := by
  refine bind_node_rewired fun via hvia => ?_
  cases hkind : via.kind with
  | workload => simp only [h via hvia hkind, funext carriedBehindService_rewired]
  | unknown | app | versionedApp | service => rfl

theorem carriedByRoot_rewired {e : Edge ν}
    (h : ∀ via, m.get? e.dest = some via → via.kind = .workload → f via = via.edges) :
    (m.rewired f).carriedByRoot e = m.carriedByRoot e := by
  refine bind_node_rewired fun via hvia => ?_
  cases hkind : via.kind with
  | workload => simp only [h via hvia hkind, funext carriedBehindRoot_rewired]
  | unknown | app | versionedApp | service => rfl

variable [Quantity ν]

theorem reduceNode_rewired (h : ∀ n ∈ m.nodes, m.IsWalked n → f n = n.edges) {n : Node ν}
    (hn : n ∈ m.nodes) : (m.rewired f).reduceNode { n with edges := f n } = m.reduceNode n := by
  cases hkept : n.isKept with
  | true =>
    have hedges : f n = n.edges := h n hn (.inl hkept)
    have hvia : ∀ e ∈ n.edges, ∀ via, m.get? e.dest = some via → via.kind = .workload →
        f via = via.edges := fun e he via hvia hkind =>
      h via (mem_nodes_iff.mpr ⟨_, hvia⟩) (.inr ⟨hkind, n, hn, hkept, e, he, hvia⟩)
    have hservice := collect_congr fun e he => carriedByService_rewired (hvia e he)
    have hroot := collect_congr fun e he => carriedByRoot_rewired (hvia e he)
    rw [hedges, reduceNode, reduceNode, hservice, hroot]
  | false =>
    obtain ⟨hkind, hroot⟩ : n.kind ≠ .service ∧ n.isRoot = false := by
      simpa [Node.isKept] using hkept
    have hroot' : ({ n with edges := f n } : Node ν).isRoot = false := hroot
    simp [reduceNode, hkind, hroot, hroot']

/-- **The edges of nodes that are not walked over do not matter**, whatever they are. -/
theorem toServiceGraph_rewired (h : ∀ n ∈ m.nodes, m.IsWalked n → f n = n.edges) :
    (m.rewired f).toServiceGraph = m.toServiceGraph := by
  have hnodes : collect (m.rewired f).reduceNode (m.rewired f).nodes =
      collect m.reduceNode m.nodes := by
    rw [rewired, nodes_mapNodes, collect_map]
    exact collect_congr fun n hn => reduceNode_rewired h hn
  rw [toServiceGraph, hnodes, toServiceGraph]

/-- **How the making of a service graph ends**: well exactly if all edges of services and of roots
can be carried over, otherwise with the graph at fault, and in the same way whatever the edges of
the other nodes are. -/
theorem toServiceGraph_outcome (m : TrafficMap ν) :
    ((∃ g, m.toServiceGraph = .ok g) ↔ m.IsReducible) ∧
      (¬ m.IsReducible →
        ∃ text, m.toServiceGraph.mapError BuildError.ofGraphFault = .error (.data text)) ∧
      ∀ f : Node ν → List (Edge ν), (∀ n ∈ m.nodes, m.IsWalked n → f n = n.edges) →
        (m.rewired f).toServiceGraph = m.toServiceGraph := by
  have hends := m.failsUnless_toServiceGraph
  refine ⟨hends.isOk_iff, fun hnot => ?_, fun f hf => toServiceGraph_rewired hf⟩
  cases hg : m.toServiceGraph with
  | ok g => exact absurd (hends.isOk_iff.mp ⟨g, hg⟩) hnot
  | error fault =>
    exact ⟨fault.message, congrArg Except.error (BuildError.ofGraphFault_eq_data
      (hends.of_error hg))⟩

/-! ## A workload that nothing leads to -/

/-- A service reaches another over a workload, whose edge is of the given protocol. An edge that
cannot be summed leads from another workload out of the map. -/
def besideWorkload (protocol : Protocol) : TrafficMap Rat :=
  let caller := Identity.ofService "a" "caller"
  let callee := Identity.ofService "a" "callee"
  let u := Identity.ofWorkload "a" "u"
  let w := Identity.ofWorkload "a" "w"
  ofNodes [
    .ofEdges caller [.measured caller u .http 100 none],
    .ofEdges u [.measured u callee protocol 100 none],
    .ofEdges w [.measured w (.ofService "b" "elsewhere") (.other "quic") 1 none],
    .ofEdges callee []]

/-- Only the protocol of the walked edge matters; the other workload may have no edges as well. -/
theorem toServiceGraph_outcome_besideWorkload :
    (∃ g, (besideWorkload .tcp).toServiceGraph = .ok g ∧ (besideWorkload .tcp).IsReducible ∧
      g.edges.map (fun e => (e.source, e.dest, e.protocol)) = [(callerId, calleeId, .tcp)] ∧
      ∃ rewired : TrafficMap Rat, rewired.edgeCount + 1 = (besideWorkload .tcp).edgeCount ∧
        rewired.toServiceGraph = .ok g) ∧
      ¬ (besideWorkload (.other "quic")).IsReducible ∧
      ∃ text, (besideWorkload (.other "quic")).toServiceGraph.mapError BuildError.ofGraphFault =
        .error (.data text) := by
  constructor
  · obtain ⟨hiff, -, hrewired⟩ := toServiceGraph_outcome (besideWorkload .tcp)
    have hgraph : (besideWorkload .tcp).toServiceGraph.toOption.bind (fun g =>
        some (g.edges.map fun e => (e.source, e.dest, e.protocol))) =
          some [(callerId, calleeId, .tcp)] := by
      decide +kernel
    obtain ⟨g, hg, hedges⟩ := exists_ok_of_bind_toOption hgraph
    have hpruned := hrewired (fun n => if (besideWorkload .tcp).IsWalked n then n.edges else [])
      fun n _ hn => if_pos hn
    exact ⟨g, hg, hiff.mp ⟨g, hg⟩, Option.some.inj hedges, _, by decide +kernel, hpruned.trans hg⟩
  · obtain ⟨hiff, hfails, -⟩ := toServiceGraph_outcome (besideWorkload (.other "quic"))
    have hnot : ¬ (besideWorkload (.other "quic")).IsReducible := fun h => by
      obtain ⟨g, hg⟩ := hiff.mpr h
      have hnone : (besideWorkload (.other "quic")).toServiceGraph.toOption.isNone = true := by
        decide +kernel
      rw [hg] at hnone
      cases hnone
    exact ⟨hnot, hfails hnot⟩

end TrafficMap

end MeshTraffic
