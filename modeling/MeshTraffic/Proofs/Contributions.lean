import MeshTraffic.Proofs.JoinedEdges

/-!
# What service graphs are made of

A node that a service graph keeps has an edge to a service for what its own edges and those of the
workloads behind them carry there.

* `TrafficMap.contributions`: the edges that a kept node's edge to a service is made of, in the
  order in which they are met.
* `TrafficMap.exists_reduced`: a kept node's edge to a service is what they are put together to.
* `TrafficMap.isJoinOf_contributions`: so its counters are their sums and its response time is their
  mean.
-/

namespace MeshTraffic

variable {ν : Type}

/-- What is collected and satisfies `p` is what each step gives of it. -/
theorem filter_collect {ε α β : Type} {f : α → Except ε (List β)} {l : List α} {bs : List β}
    (h : collect f l = .ok bs) (p : β → Bool) {g : α → List β}
    (hg : ∀ a cs, f a = .ok cs → cs.filter p = g a) : bs.filter p = l.flatMap g := by
  induction l generalizing bs with
  | nil =>
    cases h
    rfl
  | cons a l ih =>
    obtain ⟨cs, ds, hcs, hds, rfl⟩ := collect_cons_eq_ok_iff.mp h
    rw [List.filter_append, hg a cs hcs, ih hds, List.flatMap_cons]

namespace TrafficMap

/-! ## The walk -/

/-- There is a service under the id. -/
def HasService (m : TrafficMap ν) (id : NodeId) : Prop :=
  ∃ n, m.get? id = some n ∧ n.kind = .service

theorem hasService_iff {m : TrafficMap ν} {id : NodeId} :
    m.HasService id ↔ (m.get? id).map Node.kind = some .service :=
  Option.map_eq_some_iff.symm

instance (m : TrafficMap ν) (id : NodeId) : Decidable (m.HasService id) :=
  decidable_of_iff _ hasService_iff.symm

/-- What an edge of a kept node contributes to the node's edge to `dest` over `protocol`: itself if
it leads there, or else those edges of the workload that it leads to that do. -/
def contributionsOf (m : TrafficMap ν) (dest : NodeId) (protocol : Protocol) (e : Edge ν) :
    List (Edge ν) :=
  if e.leadsTo dest protocol then [e]
  else
    match m.get? e.dest with
    | some via => if via.kind = .workload then via.edges.filter (·.leadsTo dest protocol) else []
    | none => []

/-- What the edges of a kept node contribute to its edge to `dest` over `protocol`. -/
def contributions (m : TrafficMap ν) (n : Node ν) (dest : NodeId) (protocol : Protocol) :
    List (Edge ν) :=
  n.edges.flatMap (m.contributionsOf dest protocol)

variable {m : TrafficMap ν} {dest : NodeId}

/-- An edge to something else than a service does not lead to `dest`, which is one. -/
theorem not_leadsTo_of_kind_ne (hdest : m.HasService dest) {e : Edge ν} {n : Node ν}
    (hn : m.node e.dest = .ok n) (hkind : n.kind ≠ .service) (protocol : Protocol) :
    ¬ e.leadsTo dest protocol = true := by
  intro hlead
  obtain ⟨service, hservice, hkind'⟩ := hdest
  have heq : e.dest = dest := congrArg Prod.fst (Edge.leadsTo_iff.mp hlead)
  rw [node_eq_ok_iff, heq, hservice] at hn
  cases hn
  exact hkind hkind'

/-- Of the edges behind a service, those to `dest` are kept. -/
theorem filter_carriedBehindService (protocol : Protocol) {e : Edge ν} {fs : List (Edge ν)}
    (h : m.carriedBehindService e = .ok fs) :
    fs.filter (·.leadsTo dest protocol) = [e].filter (·.leadsTo dest protocol) := by
  obtain ⟨child, -, h⟩ := bind_eq_ok_iff.mp h
  split at h
  · rw [Edge.eq_singleton_of_summable h]
  · cases h

theorem filter_carriedBehindRoot (hdest : m.HasService dest) (protocol : Protocol) {e : Edge ν}
    {fs : List (Edge ν)} (h : m.carriedBehindRoot e = .ok fs) :
    fs.filter (·.leadsTo dest protocol) = [e].filter (·.leadsTo dest protocol) := by
  obtain ⟨child, hchild, h⟩ := bind_eq_ok_iff.mp h
  split at h
  · rw [Edge.eq_singleton_of_summable h]
  · next hkind =>
    cases h
    have hlead := not_leadsTo_of_kind_ne hdest hchild hkind protocol
    simp [hlead]

theorem contributionsOf_of_workload (hdest : m.HasService dest) {e : Edge ν} {via : Node ν}
    (hvia : m.node e.dest = .ok via) (hkind : via.kind = .workload) (protocol : Protocol) :
    m.contributionsOf dest protocol e = via.edges.filter (·.leadsTo dest protocol) := by
  have hlead := not_leadsTo_of_kind_ne hdest hvia (by simp [hkind]) protocol
  rw [contributionsOf, if_neg hlead, node_eq_ok_iff.mp hvia]
  simp [hkind]

theorem contributionsOf_of_ne_workload {e : Edge ν} {via : Node ν}
    (hvia : m.node e.dest = .ok via) (hkind : via.kind ≠ .workload) (protocol : Protocol) :
    m.contributionsOf dest protocol e = [e].filter (·.leadsTo dest protocol) := by
  rw [contributionsOf, node_eq_ok_iff.mp hvia]
  by_cases hlead : e.leadsTo dest protocol = true <;> simp [hlead, hkind]

theorem filter_carriedByService (hdest : m.HasService dest) (protocol : Protocol) {e : Edge ν}
    {fs : List (Edge ν)} (h : m.carriedByService e = .ok fs) :
    fs.filter (·.leadsTo dest protocol) = m.contributionsOf dest protocol e := by
  obtain ⟨via, hvia, h⟩ := bind_eq_ok_iff.mp h
  split at h
  · next hkind =>
    rw [contributionsOf_of_workload hdest hvia hkind, filter_collect h _ fun _ _ =>
      filter_carriedBehindService protocol, ← List.filter_flatMap, List.flatMap_singleton']
  · next hkind =>
    rw [contributionsOf_of_ne_workload hvia (by simp [hkind]), Edge.eq_singleton_of_summable h]
  · cases h

theorem filter_carriedByRoot (hdest : m.HasService dest) (protocol : Protocol) {e : Edge ν}
    {fs : List (Edge ν)} (h : m.carriedByRoot e = .ok fs) :
    fs.filter (·.leadsTo dest protocol) = m.contributionsOf dest protocol e := by
  obtain ⟨via, hvia, h⟩ := bind_eq_ok_iff.mp h
  split at h
  · next hkind =>
    rw [contributionsOf_of_workload hdest hvia hkind, filter_collect h _ fun _ _ =>
      filter_carriedBehindRoot hdest protocol, ← List.filter_flatMap, List.flatMap_singleton']
  · next hkind =>
    rw [contributionsOf_of_ne_workload hvia (by simp [hkind]), Edge.eq_singleton_of_summable h]
  · next hworkload hservice =>
    cases h
    have hlead := not_leadsTo_of_kind_ne hdest hvia hservice protocol
    rw [contributionsOf_of_ne_workload hvia hworkload]
    simp [hlead]

/-- What a contribution leads to. -/
theorem target_of_mem_contributions {n : Node ν} {protocol : Protocol} {f : Edge ν}
    (h : f ∈ m.contributions n dest protocol) : f.target = (dest, protocol) := by
  obtain ⟨e, -, hf⟩ := List.mem_flatMap.mp h
  unfold contributionsOf at hf
  split at hf
  · next hlead =>
    obtain rfl := List.mem_singleton.mp hf
    exact Edge.leadsTo_iff.mp hlead
  · split at hf
    · split at hf
      · exact Edge.leadsTo_iff.mp (List.mem_filter.mp hf).2
      · cases hf
    · cases hf

/-! ## What a kept node's edges are made of -/

variable [Quantity ν]

/-- A kept node is made of edges that its own contribute. -/
theorem reduceNode_of_isKept {n : Node ν} (hkept : n.isKept = true) {ns : List (Node ν)}
    (h : m.reduceNode n = .ok ns) :
    ∃ edges, ns = [n.withEdges edges] ∧ ∀ dest, m.HasService dest → ∀ protocol,
      edges.filter (·.leadsTo dest protocol) = m.contributions n dest protocol := by
  obtain ⟨-, edges, rfl, hedges⟩ | ⟨hout, -⟩ := reduceNode_cases h
  · refine ⟨edges, rfl, fun dest hdest protocol => ?_⟩
    obtain hedges | hedges := hedges
    · exact filter_collect hedges _ fun _ _ => filter_carriedByService hdest protocol
    · exact filter_collect hedges _ fun _ _ => filter_carriedByRoot hdest protocol
  · rw [hkept] at hout
    cases hout

/-- **A kept node's edge to a service** is what the contributions to it are put together to. -/
theorem exists_reduced {g : TrafficMap ν} (hm : m.WellFormed) (hg : m.toServiceGraph = .ok g)
    {id : NodeId} {n : Node ν} (hn : m.get? id = some n) (hkept : n.isKept = true) :
    ∃ n', g.get? id = some n' ∧ n'.Tidy ∧ ∀ dest, m.HasService dest → ∀ protocol,
      n'.edge? dest protocol = Edge.joinAll? id (m.contributions n dest protocol) := by
  obtain ⟨ns, hns, hnodup, rfl⟩ := exists_of_toServiceGraph hm.id_eq hg
  obtain ⟨cs, hcs, hsub⟩ := exists_of_mem_collect hns (mem_nodes_iff.mpr ⟨id, hn⟩)
  obtain ⟨edges, rfl, hedges⟩ := reduceNode_of_isKept hkept hcs
  have hid := hm.id_eq hn
  refine ⟨n.withEdges edges, ?_, Node.tidy_withEdges .., fun dest hdest protocol => ?_⟩
  · exact (get?_ofNodes_iff hnodup).mpr
      ⟨hsub _ List.mem_cons_self, (Node.id_withEdges ..).trans hid⟩
  · rw [Node.edge?_withEdges, hid, hedges dest hdest]

/-- **A kept node's edge to a service** comes to the edges that contribute to it. -/
theorem isJoinOf_contributions [ExactQuantity ν] {g : TrafficMap ν} (hm : m.WellFormed)
    (hg : m.toServiceGraph = .ok g) {id : NodeId} {n : Node ν} (hn : m.get? id = some n)
    (hkept : n.isKept = true) (hdest : m.HasService dest) (protocol : Protocol)
    (hparts : ∀ e ∈ m.contributions n dest protocol, e.HasNumbers) :
    ∃ n', g.get? id = some n' ∧
      ((dest, protocol) ∈ n'.targets ↔ m.contributions n dest protocol ≠ []) ∧
      ∀ e ∈ n'.edges, e.target = (dest, protocol) →
        e.IsJoinOf id (m.contributions n dest protocol) := by
  obtain ⟨n', hn', htidy, hedge⟩ := exists_reduced hm hg hn hkept
  have hedge := hedge dest hdest protocol
  have hprotocol : ∀ f ∈ m.contributions n dest protocol, f.protocol = protocol :=
    fun f hf => congrArg Prod.snd (target_of_mem_contributions hf)
  refine ⟨n', hn', ?_, fun e he htarget => ?_⟩
  · rw [← Node.isSome_edge?_iff, hedge, Edge.isSome_joinAll?_iff]
  · have he : n'.edge? dest protocol = some e := htidy.edge?_eq_some_iff.mpr ⟨he, htarget⟩
    exact Edge.isJoinOf_of_joinAll? hprotocol hparts (hedge.symm.trans he)

end TrafficMap

/-! ## Three ways to a service -/

/-- An edge with a rate, and with a response time if one was measured. -/
def Edge.measured [Quantity ν] (source dest : Identity) (protocol : Protocol) (rate : ν)
    (responseTime? : Option ν) : Edge ν where
  source := source.id
  dest := dest.id
  protocol
  metadata := (Metadata.sumAll ∅ (protocol.rateKey?.toList.map fun key => (key, rate)))
    |>.averageResponseTime responseTime?

/-- A node of namespace `a` with some edges. -/
def Node.ofEdges (identity : Identity) (edges : List (Edge ν)) : Node ν :=
  { Node.ofIdentity identity { ns := "a" } with edges }

namespace TrafficMap

/-- The ids of two services. -/
def callerId : NodeId := (Identity.ofService "a" "caller").id

def calleeId : NodeId := (Identity.ofService "a" "callee").id

/-- A service reaches another over two workloads and by itself. -/
def threeWays : TrafficMap Rat :=
  let caller := Identity.ofService "a" "caller"
  let callee := Identity.ofService "a" "callee"
  let u := Identity.ofWorkload "a" "u"
  let w := Identity.ofWorkload "a" "w"
  ofNodes [
    .ofEdges caller [.measured caller u .http 100 none, .measured caller w .http 20 none,
      .measured caller callee .http 10 (some 8)],
    .ofEdges u [.measured u callee .http 100 (some 2)],
    .ofEdges w [.measured w callee .http 20 (some 5)],
    .ofEdges callee []]

/-- Of the three ways one edge remains, with the sum of the rates and the mean of the response
times. -/
theorem exists_threeWays :
    ∃ g n n', threeWays.toServiceGraph = .ok g ∧ threeWays.get? callerId = some n ∧
      n.isKept = true ∧ (∀ e ∈ threeWays.contributions n calleeId .http, e.HasNumbers) ∧
      (threeWays.contributions n calleeId .http).map Edge.rate = [100, 20, 10] ∧
      g.get? callerId = some n' ∧
      n'.edges.map (fun e => (e.rate, e.metadata.numberD Key.responseTime)) = [(130, 5)] :=
  ⟨_, _, _, rfl, rfl, by decide +kernel, by decide +kernel, by decide +kernel, rfl,
    by decide +kernel⟩

theorem isJoinOf_contributions_threeWays :
    ExactQuantity Rat ∧ ∃ g n n', threeWays.WellFormed ∧ threeWays.toServiceGraph = .ok g ∧
      threeWays.get? callerId = some n ∧ n.isKept = true ∧ threeWays.HasService calleeId ∧
      (∀ e ∈ threeWays.contributions n calleeId .http, e.HasNumbers) ∧
      (threeWays.contributions n calleeId .http).map Edge.rate = [100, 20, 10] ∧
      n'.edges.map (fun e => (e.rate, e.metadata.numberD Key.responseTime)) = [(130, 5)] ∧
      g.get? callerId = some n' ∧
      ((calleeId, .http) ∈ n'.targets ↔ threeWays.contributions n calleeId .http ≠ []) ∧
      ∀ e ∈ n'.edges, e.target = (calleeId, .http) →
        e.IsJoinOf callerId (threeWays.contributions n calleeId .http) := by
  have hm : threeWays.WellFormed := wellFormed_ofNodes (by decide +kernel) (by decide +kernel)
  have hservice : threeWays.HasService calleeId := by decide +kernel
  obtain ⟨g, n, n', hg, hn, hkept, hparts, hrates, hn', hedges⟩ := exists_threeWays
  obtain ⟨n₁, hn₁, hjoin⟩ := isJoinOf_contributions hm hg hn hkept hservice .http hparts
  obtain rfl := Option.some.inj (hn'.symm.trans hn₁)
  exact ⟨inferInstance, g, n, n', hm, hg, hn, hkept, hservice, hparts, hrates, hedges, hn', hjoin⟩

end TrafficMap

end MeshTraffic
