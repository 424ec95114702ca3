import MeshTraffic.Proofs.Balance
import MeshTraffic.Proofs.Contributions

/-!
# Rates in service graphs

What a service sends to another in the service graph is what it sends there itself, and what the
workloads send there that it calls. A workload is counted once for every edge that leads to it, so
one that the service calls over http and over tcp is counted twice.

* `TrafficMap.rate`: the rate from one node to another over a protocol.
* `TrafficMap.calledWorkloads`: the workloads that a node's edges lead to.
* `TrafficMap.rate_toServiceGraph`: the rates of a service graph.
* `TrafficMap.not_forall_rate_dedup`: they are more than those of the different workloads.
-/

namespace MeshTraffic

variable {ν : Type}

/-! ## Rates -/

/-- A tidy node has one edge to a target, or none. -/
theorem Node.Tidy.filter_leadsTo {n : Node ν} (h : n.Tidy) (dest : NodeId) (protocol : Protocol) :
    n.edges.filter (·.leadsTo dest protocol) = (n.edge? dest protocol).toList := by
  have hnodup : (n.edges.map Edge.target).Nodup := h.nodup_targets
  unfold edge?
  generalize n.edges = l at hnodup
  induction l with
  | nil => rfl
  | cons e l ih =>
    obtain ⟨he, hl⟩ := List.nodup_cons.mp hnodup
    rw [List.filter_cons, List.find?_cons]
    cases hlead : e.leadsTo dest protocol with
    | false => simpa using ih hl
    | true =>
      have hnone : l.filter (·.leadsTo dest protocol) = [] :=
        List.filter_eq_nil_iff.mpr fun f hf hlead' => he <| List.mem_map.mpr
          ⟨f, hf, (Edge.leadsTo_iff.mp hlead').trans (Edge.leadsTo_iff.mp hlead).symm⟩
      simp [hnone]

variable [Quantity ν]

namespace TrafficMap

/-- The rate from one node to another over a protocol; zero without an edge. -/
def rate (m : TrafficMap ν) (source dest : NodeId) (protocol : Protocol) : ν :=
  match (m.get? source).bind (·.edge? dest protocol) with
  | some e => e.rate
  | none => 0

/-- Whether there is a workload under the id. -/
def isWorkload (m : TrafficMap ν) (id : NodeId) : Bool :=
  (m.get? id).any (·.kind = .workload)

/-- The workloads that the node's edges lead to, once for every edge. -/
def calledWorkloads (m : TrafficMap ν) (n : Node ν) : List NodeId :=
  (n.edges.map Edge.dest).filter m.isWorkload

variable [LawfulQuantity ν] {m : TrafficMap ν}

theorem sum_rate_filter (hm : m.WellFormed) {id : NodeId} {n : Node ν} (hn : m.get? id = some n)
    (dest : NodeId) (protocol : Protocol) :
    ((n.edges.filter (·.leadsTo dest protocol)).map Edge.rate).sum = m.rate id dest protocol := by
  rw [(hm.tidy hn).filter_leadsTo, rate, hn, Option.bind_some]
  cases n.edge? dest protocol <;> simp

/-- What an edge contributes: its own rate if it leads to the service, and the rates of the workload
that it leads to. -/
theorem sum_rate_contributionsOf (hm : m.WellFormed) {dest : NodeId} (hdest : m.HasService dest)
    (protocol : Protocol) (e : Edge ν) :
    ((m.contributionsOf dest protocol e).map Edge.rate).sum =
      (if e.leadsTo dest protocol = true then e.rate else 0) +
        if m.isWorkload e.dest = true then m.rate e.dest dest protocol else 0 := by
  unfold contributionsOf isWorkload
  by_cases hlead : e.leadsTo dest protocol = true
  · obtain ⟨service, hservice, hkind⟩ := hdest
    have heq : e.dest = dest := congrArg Prod.fst (Edge.leadsTo_iff.mp hlead)
    simp [hlead, heq, hservice, hkind]
  · rw [if_neg hlead, if_neg hlead, zero_add]
    cases hvia : m.get? e.dest with
    | none => rfl
    | some via =>
      by_cases hkind : via.kind = .workload
      · simp [hkind, sum_rate_filter hm hvia]
      · simp [hkind]

/-- The contributions to a service come to what the node sends there itself and what the workloads
that it calls send there. -/
theorem sum_rate_contributions (hm : m.WellFormed) {id : NodeId} {n : Node ν}
    (hn : m.get? id = some n) {dest : NodeId} (hdest : m.HasService dest) (protocol : Protocol) :
    ((m.contributions n dest protocol).map Edge.rate).sum =
      m.rate id dest protocol +
        ((m.calledWorkloads n).map fun w => m.rate w dest protocol).sum := by
  have hdirect : (n.edges.map fun e => if e.leadsTo dest protocol = true then e.rate else 0).sum =
      m.rate id dest protocol := by
    rw [← sum_rate_filter hm hn, List.sum_map_ite]
    simp
  have hcalled : (n.edges.map fun e =>
        if m.isWorkload e.dest = true then m.rate e.dest dest protocol else 0).sum =
      ((m.calledWorkloads n).map fun w => m.rate w dest protocol).sum := by
    rw [calledWorkloads, List.filter_map, List.map_map, List.sum_map_ite]
    simp [Function.comp_def]
  rw [contributions, List.map_flatMap, sum_flatMap]
  simp only [sum_rate_contributionsOf hm hdest]
  rw [List.sum_map_add, hdirect, hcalled]

/-- **What a kept node sends to a service** in the service graph is what it sends there itself, and
what the workloads send there that it calls, each as often as it is called. -/
theorem rate_toServiceGraph {g : TrafficMap ν} (hm : m.WellFormed) (hg : m.toServiceGraph = .ok g)
    {id : NodeId} {n : Node ν} (hn : m.get? id = some n) (hkept : n.isKept = true)
    {dest : NodeId} (hdest : m.HasService dest) (protocol : Protocol) :
    g.rate id dest protocol = m.rate id dest protocol +
      ((m.calledWorkloads n).map fun w => m.rate w dest protocol).sum := by
  obtain ⟨n', hn', -, hedge⟩ := exists_reduced hm hg hn hkept
  have hprotocol : ∀ f ∈ m.contributions n dest protocol, f.protocol = protocol :=
    fun f hf => congrArg Prod.snd (target_of_mem_contributions hf)
  rw [← sum_rate_contributions hm hn hdest, rate, hn', Option.bind_some, hedge dest hdest]
  cases he : Edge.joinAll? id (m.contributions n dest protocol) with
  | some e => exact Edge.rate_joinAll? hprotocol he
  | none =>
    have hnil : m.contributions n dest protocol = [] := by
      by_contra hne
      have hsome := (Edge.isSome_joinAll?_iff id).mpr hne
      rw [he] at hsome
      cases hsome
    rw [hnil]
    rfl

/-! ## A workload that is called over two protocols -/

/-- Requests and bytes reach a workload through its service. The workload sends requests to another
service. -/
def twoProtocols : TrafficMap Rat :=
  ofFeeds { queryTime := default, type := .service }
    [.http [.toWorkload "a" "caller" 10,
        .ofWorkload "a" "caller" { Labels.unattributed with ns := "a", service := "callee" } 100],
      .tcp [.toWorkload "a" "caller" 7]]

theorem wellFormed_twoProtocols : twoProtocols.WellFormed := wellFormed_ofFeeds _ _

theorem hasService_twoProtocols : twoProtocols.HasService calleeId := by decide +kernel

/-- The rate of the workload is counted twice. -/
theorem exists_twoProtocols :
    ∃ g n, twoProtocols.toServiceGraph = .ok g ∧ twoProtocols.get? callerId = some n ∧
      n.kind = .service ∧ twoProtocols.rate callerId calleeId .http = 0 ∧
      (twoProtocols.calledWorkloads n).dedup.map (twoProtocols.rate · calleeId .http) = [100] ∧
      g.rate callerId calleeId .http = 200 := by
  have hrates : twoProtocols.toServiceGraph.toOption.bind (fun g =>
      (twoProtocols.get? callerId).map fun n =>
        (n.kind, twoProtocols.rate callerId calleeId .http,
          (twoProtocols.calledWorkloads n).dedup.map (twoProtocols.rate · calleeId .http),
          g.rate callerId calleeId .http)) = some (.service, 0, [100], 200) := by
    decide +kernel
  obtain ⟨g, hg, hrates⟩ := exists_ok_of_bind_toOption hrates
  obtain ⟨n, hn, heq⟩ := Option.map_eq_some_iff.mp hrates
  simp only [Prod.mk.injEq] at heq
  exact ⟨g, n, hg, hn, heq⟩

theorem rate_toServiceGraph_twoProtocols :
    LawfulQuantity Rat ∧ ∃ g n, twoProtocols.WellFormed ∧ twoProtocols.toServiceGraph = .ok g ∧
      twoProtocols.get? callerId = some n ∧ n.isKept = true ∧ twoProtocols.HasService calleeId ∧
      g.rate callerId calleeId .http = 200 ∧
      g.rate callerId calleeId .http = twoProtocols.rate callerId calleeId .http +
        ((twoProtocols.calledWorkloads n).map fun w => twoProtocols.rate w calleeId .http).sum := by
  obtain ⟨g, n, hg, hn, hkind, -, -, hrate⟩ := exists_twoProtocols
  have hkept : n.isKept = true := by simp [Node.isKept, hkind]
  exact ⟨inferInstance, g, n, wellFormed_twoProtocols, hg, hn, hkept, hasService_twoProtocols,
    hrate, rate_toServiceGraph wellFormed_twoProtocols hg hn hkept hasService_twoProtocols .http⟩

/-- **Not every path is counted once**: a service may call a workload over two protocols. -/
theorem not_forall_rate_dedup :
    ¬ ∀ (m g : TrafficMap Rat) (id : NodeId) (n : Node Rat) (dest : NodeId) (protocol : Protocol),
      m.WellFormed → m.toServiceGraph = .ok g → m.get? id = some n → n.kind = .service →
      m.HasService dest → protocol ∈ [.http, .tcp] →
      g.rate id dest protocol = m.rate id dest protocol +
        ((m.calledWorkloads n).dedup.map fun w => m.rate w dest protocol).sum := by
  intro hall
  obtain ⟨g, n, hg, hn, hkind, hdirect, hcalled, hreduced⟩ := exists_twoProtocols
  have heq := hall _ g callerId n calleeId .http wellFormed_twoProtocols hg hn hkind
    hasService_twoProtocols (by simp)
  rw [hreduced, hdirect, hcalled] at heq
  exact absurd heq (by decide +kernel)

end TrafficMap

end MeshTraffic
