import MeshTraffic.Proofs.Answered
import MeshTraffic.Proofs.Depiction

/-!
# When there is no service graph

A service graph cannot be made of a map in which a workload behind a service leads to something
that is no service. In a map that depicts traffic nothing else stands in its way, so a request for
a service graph whose queries are all answered fails for this reason only.

* `TrafficMap.IsBehindService`: an edge of a workload that a service leads to.
  `TrafficMap.leadsToService_of_isBehindService`: if there is a service graph, it leads to a
  service.
* `TrafficMap.IsInjected`: services are nodes of their own. `TrafficMap.IsInjected.exists_of_error`:
  then nothing else can be at fault.
* `TrafficMap.Depicts.isInjected`: so it is in maps that depict the traffic of service graphs.
* `Observation.IsBypassedBy`: traffic that a service passes on to a node from which other traffic
  leads past all services.
* `Request.serviceGraph_isOk_iff`: a request for a service graph fails exactly if there is such
  traffic. `Request.not_forall_serviceGraph_isOk`: there may be.
-/

namespace MeshTraffic

variable {ν : Type}

/-! ## Maps with services -/

namespace TrafficMap

/-- The edge leaves from a workload that a service leads to. -/
def IsBehindService (m : TrafficMap ν) (f : Edge ν) : Prop :=
  ∃ service ∈ m.nodes, service.kind = .service ∧ ∃ e ∈ service.edges, ∃ via,
    m.get? e.dest = some via ∧ via.kind = .workload ∧ f ∈ via.edges

/-- Services are nodes of their own, which lead to workloads, and all traffic can be summed. -/
structure IsInjected (m : TrafficMap ν) : Prop where
  wellFormed : m.WellFormed
  protocol_mem : ∀ n ∈ m.nodes, ∀ e ∈ n.edges, e.protocol ∈ [.http, .tcp]
  kind_eq : ∀ service ∈ m.nodes, service.kind = .service → ∀ e ∈ service.edges, ∀ via,
    m.get? e.dest = some via → via.kind = .workload

namespace IsInjected

variable {m : TrafficMap ν}

theorem summable_ne_error (h : m.IsInjected) {n : Node ν} (hn : n ∈ m.nodes) {e : Edge ν}
    (he : e ∈ n.edges) {fault : GraphFault} : e.summable ≠ .error fault := by
  have hprotocol := h.protocol_mem n hn e he
  simp only [List.mem_cons, List.not_mem_nil, or_false] at hprotocol
  rcases hprotocol with hp | hp <;> simp [Edge.summable, hp]

/-- No edge leads out of the map, so what fails at an edge fails at the node that it leads to. -/
theorem exists_of_bind_node_eq_error (h : m.IsInjected) {n : Node ν} (hn : n ∈ m.nodes) {e : Edge ν}
    (he : e ∈ n.edges) {β : Type} {f : Node ν → Except GraphFault β} {fault : GraphFault}
    (herror : (m.node e.dest).bind f = .error fault) :
    ∃ child, m.get? e.dest = some child ∧ f child = .error fault := by
  obtain ⟨k, hk⟩ := mem_nodes_iff.mp hn
  obtain ⟨child, hchild⟩ := ArrivalMap.contains_iff.mp
    (h.wellFormed.dest_mem hk _ (List.mem_map_of_mem he))
  have hnode : m.node e.dest = .ok child := node_eq_ok_iff.mpr hchild
  rw [hnode] at herror
  exact ⟨child, hchild, herror⟩

/-- An edge behind a service is at fault if it leads to something else than a service. -/
theorem of_carriedBehindService_eq_error (h : m.IsInjected) {n : Node ν} (hn : n ∈ m.nodes)
    {f : Edge ν} (hf : f ∈ n.edges) {fault : GraphFault}
    (he : m.carriedBehindService f = .error fault) :
    ∃ child, m.get? f.dest = some child ∧ child.kind ≠ .service ∧
      fault = .unexpectedKind child.id .service child.kind := by
  obtain ⟨child, hchild, he⟩ := h.exists_of_bind_node_eq_error hn hf he
  split at he
  · exact absurd he (h.summable_ne_error hn hf)
  · next hkind =>
    cases he
    exact ⟨child, hchild, hkind, rfl⟩

theorem of_carriedByService_eq_error (h : m.IsInjected) {service : Node ν}
    (hs : service ∈ m.nodes) (hkind : service.kind = .service) {e : Edge ν}
    (he : e ∈ service.edges) {fault : GraphFault} (herror : m.carriedByService e = .error fault) :
    ∃ f child, m.IsBehindService f ∧ m.get? f.dest = some child ∧ child.kind ≠ .service ∧
      fault = .unexpectedKind child.id .service child.kind := by
  obtain ⟨via, hvia, herror⟩ := h.exists_of_bind_node_eq_error hs he herror
  have hworkload := h.kind_eq service hs hkind e he via hvia
  simp only [hworkload] at herror
  obtain ⟨f, hf, hfault⟩ := exists_of_collect_eq_error herror
  obtain ⟨child, hchild⟩ :=
    h.of_carriedBehindService_eq_error (mem_nodes_iff.mpr ⟨_, hvia⟩) hf hfault
  exact ⟨f, child, ⟨service, hs, hkind, e, he, via, hvia, hworkload, hf⟩, hchild⟩

/-- Nothing is at fault with the edges of a root. -/
theorem carriedByRoot_ne_error (h : m.IsInjected) {root : Node ν} (hroot : root ∈ m.nodes)
    {e : Edge ν} (he : e ∈ root.edges) {fault : GraphFault} :
    m.carriedByRoot e ≠ .error fault := by
  intro herror
  obtain ⟨via, hvia, herror⟩ := h.exists_of_bind_node_eq_error hroot he herror
  have hmem : via ∈ m.nodes := mem_nodes_iff.mpr ⟨_, hvia⟩
  split at herror
  · obtain ⟨f, hf, hfault⟩ := exists_of_collect_eq_error herror
    obtain ⟨child, -, hfault⟩ := h.exists_of_bind_node_eq_error hmem hf hfault
    split at hfault
    · exact h.summable_ne_error hmem hf hfault
    · cases hfault
  · exact h.summable_ne_error hroot he herror
  · cases herror

variable [Quantity ν]

/-- **What is at fault** if there is no service graph: an edge behind a service leads to something
that is no service. -/
theorem exists_of_error (h : m.IsInjected) {fault : GraphFault}
    (herror : m.toServiceGraph = .error fault) :
    ∃ f child, m.IsBehindService f ∧ m.get? f.dest = some child ∧ child.kind ≠ .service ∧
      fault = .unexpectedKind child.id .service child.kind := by
  obtain ⟨n, hn, hfault⟩ : ∃ n ∈ m.nodes, m.reduceNode n = .error fault := by
    obtain herror | ⟨ns, -, herror⟩ := bind_eq_error_iff.mp herror
    · exact exists_of_collect_eq_error herror
    · cases herror
  unfold reduceNode at hfault
  split at hfault
  · next hkind =>
    obtain hfault | ⟨edges, -, hfault⟩ := bind_eq_error_iff.mp hfault
    · obtain ⟨e, he, hfault⟩ := exists_of_collect_eq_error hfault
      exact h.of_carriedByService_eq_error hn hkind he hfault
    · cases hfault
  · split at hfault
    · obtain hfault | ⟨edges, -, hfault⟩ := bind_eq_error_iff.mp hfault
      · obtain ⟨e, he, hfault⟩ := exists_of_collect_eq_error hfault
        exact absurd hfault (h.carriedByRoot_ne_error hn he)
      · cases hfault
    · cases hfault

end IsInjected

/-- If there is a service graph, all edges behind services lead to services. -/
theorem leadsToService_of_isBehindService [Quantity ν] {m g : TrafficMap ν}
    (hg : m.toServiceGraph = .ok g) {f : Edge ν} (hf : m.IsBehindService f) :
    m.LeadsToService f := by
  obtain ⟨service, hs, hkind, e, he, via, hvia, hworkload, hf⟩ := hf
  obtain ⟨ns, hns, -⟩ := bind_eq_ok_iff.mp hg
  obtain ⟨cs, hcs, -⟩ := exists_of_mem_collect hns hs
  rw [reduceNode, if_pos hkind] at hcs
  obtain ⟨edges, hedges, -⟩ := bind_eq_ok_iff.mp hcs
  obtain ⟨fs, hfs, -⟩ := exists_of_mem_collect hedges he
  obtain ⟨via', hvia', hfs⟩ := bind_eq_ok_iff.mp hfs
  obtain rfl := Option.some.inj (hvia.symm.trans (node_eq_ok_iff.mp hvia'))
  simp only [hworkload] at hfs
  obtain ⟨gs, hgs, -⟩ := exists_of_mem_collect hfs hf
  obtain ⟨child, hchild, hgs⟩ := bind_eq_ok_iff.mp hgs
  split at hgs
  · next hservice => exact ⟨child, node_eq_ok_iff.mp hchild, hservice⟩
  · cases hgs

end TrafficMap

/-! ## Traffic of service graphs -/

/-- Labels that tell no service refer to none. -/
theorem Labels.kind_resolve_ne_service {l : Labels} (h : isKnown l.service = false)
    (type : GraphType) : (l.resolve type).kind ≠ .service := by
  have hunknown : Identity.unknown.kind ≠ .service := by decide
  unfold resolve
  rw [h]
  simp only [Bool.false_and, Bool.false_eq_true, if_false]
  split
  · exact hunknown
  split
  · split <;> exact nofun
  split
  · exact nofun
  · exact hunknown

/-- In a service graph, labels that tell a service refer to a workload or to a service, unless their
namespace is unknown. -/
theorem Labels.kind_resolve_of_service {l : Labels} (hns : l.ns ≠ unknownLabel)
    (h : isKnown l.service = true) :
    (l.resolve .service).kind = .workload ∨ (l.resolve .service).kind = .service := by
  unfold resolve
  rw [if_neg hns, h]
  simp only [GraphType.isAppBased, Bool.false_and, Bool.false_eq_true, if_false, if_true]
  split
  · exact .inr rfl
  split
  · exact .inl rfl
  · exact .inr rfl

/-- Traffic is drawn through the service that it was addressed to, or directly. -/
theorem Attribution.cases_of_mem_hops {a : Attribution} {r : Request} {hop : Hop}
    (hhop : hop ∈ a.hops r) :
    (a.passesService r = true ∧
        (hop = ⟨a.source, .ofService a.dest.ns a.dest.service⟩ ∨
          hop = ⟨.ofService a.dest.ns a.dest.service, a.dest⟩)) ∨
      (a.passesService r = false ∧ hop = ⟨a.source, a.dest⟩) := by
  unfold hops at hhop
  split at hhop
  · next hpasses => exact .inl ⟨hpasses, by simpa using hhop⟩
  · next hdirect => exact .inr ⟨by simpa using hdirect, List.mem_singleton.mp hhop⟩

/-- In a service graph, a hop from a service leads to a workload. -/
theorem Attribution.kind_of_mem_hops {a : Attribution} (ha : a.source.service = "") {r : Request}
    (htype : r.type = .service) {hop : Hop} (hhop : hop ∈ a.hops r)
    (hkind : (hop.source.resolve r.type).kind = .service) :
    (hop.dest.resolve r.type).kind = .workload := by
  have hsource : (a.source.resolve r.type).kind ≠ .service :=
    Labels.kind_resolve_ne_service (by rw [ha]; decide) r.type
  obtain ⟨hpasses, rfl | rfl⟩ | ⟨-, rfl⟩ := cases_of_mem_hops hhop
  · exact absurd hkind hsource
  · simp only [passesService, Bool.and_eq_true, bne_iff_ne] at hpasses
    obtain ⟨⟨-, hknown⟩, hdest⟩ := hpasses
    have hns : a.dest.ns ≠ unknownLabel := by
      intro hns
      simp [Labels.resolve, Labels.ofService, hns, Identity.unknown] at hkind
    rw [htype] at hdest ⊢
    exact (Labels.kind_resolve_of_service hns hknown).resolve_right hdest
  · exact absurd hkind hsource

namespace Observation

/-- The kind of the node that the traffic leaves from. -/
def sourceKind (r : Request) (o : Observation ν) : NodeKind := (o.hop.source.resolve r.type).kind

/-- The kind of the node that the traffic leads to. -/
def destKind (r : Request) (o : Observation ν) : NodeKind := (o.hop.dest.resolve r.type).kind

theorem kind_sourceId (r : Request) (o : Observation ν) : (o.sourceId r).kind = o.sourceKind r :=
  Labels.kind_id_resolve ..

theorem kind_destId (r : Request) (o : Observation ν) : (o.destId r).kind = o.destKind r :=
  Labels.kind_id_resolve ..

/-- A service passes the traffic `o` on to a node from which the traffic `o'` leads to something
that is no service. -/
def IsBypassedBy (r : Request) (o o' : Observation ν) : Prop :=
  o.sourceKind r = .service ∧ o.destId r = o'.sourceId r ∧ o'.destKind r ≠ .service

instance (r : Request) (o o' : Observation ν) : Decidable (o.IsBypassedBy r o') :=
  inferInstanceAs (Decidable (_ ∧ _ ∧ _))

end Observation

/-- In a service graph, accepted traffic from a service leads to a workload. -/
theorem Feed.destKind_of_mem_acceptedHops [Quantity ν] {r : Request} (htype : r.type = .service)
    {f : Feed ν} {o : Observation ν} (ho : o ∈ f.acceptedHops r)
    (hkind : o.sourceKind r = .service) : o.destKind r = .workload := by
  obtain ⟨s, -, a, ha, hop, hhop, rfl⟩ := mem_acceptedHops_iff.mp ho
  obtain ⟨⟨-, -, -, -, hservice⟩, -⟩ := Attribution.ofLabels?_eq_some_iff.mp ha
  exact Attribution.kind_of_mem_hops hservice htype hhop hkind

namespace TrafficMap.Depicts

variable {r : Request} {os : List (Observation ν)} {m : TrafficMap ν}

/-- Every edge is the hop of an observation. -/
theorem exists_observation (h : m.Depicts r os) {id : NodeId} {n : Node ν}
    (hn : m.get? id = some n) {e : Edge ν} (he : e ∈ n.edges) :
    ∃ o ∈ os, o.place r = (id, e.target) :=
  (h.edge_iff id e.dest e.protocol).mp ⟨n, hn, List.mem_map_of_mem he⟩

/-- Every hop is an edge. -/
theorem exists_edge (h : m.Depicts r os) {o : Observation ν} (ho : o ∈ os) :
    ∃ n, m.get? (o.sourceId r) = some n ∧ n.kind = o.sourceKind r ∧
      ∃ e ∈ n.edges, e.dest = o.destId r := by
  obtain ⟨n, hn, ht⟩ := (h.edge_iff _ _ _).mpr ⟨o, ho, rfl⟩
  obtain ⟨e, he, htarget⟩ := List.mem_map.mp ht
  exact ⟨n, hn, (h.hasKinds _ n hn).trans (o.kind_sourceId r), e, he, congrArg Prod.fst htarget⟩

/-- A map that depicts traffic of a service graph has services as nodes of their own. -/
theorem isInjected (h : m.Depicts r os)
    (hos : ∀ o ∈ os, o.sourceKind r = .service → o.destKind r = .workload) : m.IsInjected where
  wellFormed := h.wellFormed
  protocol_mem n hn e he := by
    obtain ⟨id, hget⟩ := mem_nodes_iff.mp hn
    obtain ⟨o, -, hplace⟩ := h.exists_observation hget he
    have hprotocol : o.flow.protocol = e.protocol := congrArg (·.2.2) hplace
    rw [← hprotocol]
    cases o.flow <;> simp [Flow.protocol]
  kind_eq service hs hkind e he via hvia := by
    obtain ⟨id, hget⟩ := mem_nodes_iff.mp hs
    obtain ⟨o, ho, hplace⟩ := h.exists_observation hget he
    have hsource : o.sourceId r = id := congrArg (·.1) hplace
    have hdest : o.destId r = e.dest := congrArg (·.2.1) hplace
    rw [h.hasKinds id service hget, ← hsource, o.kind_sourceId] at hkind
    rw [h.hasKinds e.dest via hvia, ← hdest, o.kind_destId, hos o ho hkind]

/-- An edge behind a service to something that is no service tells of bypassing traffic. -/
theorem exists_isBypassedBy (h : m.Depicts r os) {f : Edge ν} (hf : m.IsBehindService f)
    {child : Node ν} (hchild : m.get? f.dest = some child) (hkind : child.kind ≠ .service) :
    ∃ o ∈ os, ∃ o' ∈ os, o.IsBypassedBy r o' ∧ o'.destId r = f.dest := by
  obtain ⟨service, hs, hservice, e, he, via, hvia, -, hf⟩ := hf
  obtain ⟨id, hget⟩ := mem_nodes_iff.mp hs
  obtain ⟨o, ho, hplace⟩ := h.exists_observation hget he
  obtain ⟨o', ho', hplace'⟩ := h.exists_observation hvia hf
  have hsource : o.sourceId r = id := congrArg (·.1) hplace
  have hdest : o.destId r = e.dest := congrArg (·.2.1) hplace
  have hsource' : o'.sourceId r = e.dest := congrArg (·.1) hplace'
  have hdest' : o'.destId r = f.dest := congrArg (·.2.1) hplace'
  refine ⟨o, ho, o', ho', ⟨?_, hdest.trans hsource'.symm, ?_⟩, hdest'⟩
  · rw [← o.kind_sourceId, hsource, ← h.hasKinds id service hget, hservice]
  · rwa [← o'.kind_destId, hdest', ← h.hasKinds f.dest child hchild]

/-- Bypassing traffic makes an edge behind a service to something that is no service. -/
theorem exists_isBehindService (h : m.Depicts r os)
    (hos : ∀ o ∈ os, o.sourceKind r = .service → o.destKind r = .workload)
    {o o' : Observation ν} (ho : o ∈ os) (ho' : o' ∈ os) (hbypass : o.IsBypassedBy r o') :
    ∃ f, m.IsBehindService f ∧ ¬ m.LeadsToService f := by
  obtain ⟨hsource, hmeet, hdest⟩ := hbypass
  obtain ⟨service, hservice, hkind, e, he, hedge⟩ := h.exists_edge ho
  obtain ⟨via, hvia, hworkload, f, hf, hedge'⟩ := h.exists_edge ho'
  have hvia' : m.get? e.dest = some via := by rw [hedge, hmeet, hvia]
  refine ⟨f, ⟨service, mem_nodes_iff.mpr ⟨_, hservice⟩, hkind.trans hsource, e, he, via, hvia', ?_,
    hf⟩, ?_⟩
  · rw [hworkload, ← o'.kind_sourceId, ← hmeet, o.kind_destId, hos o ho hsource]
  · rintro ⟨child, hchild, hservice'⟩
    rw [h.hasKinds f.dest child hchild, hedge', o'.kind_destId] at hservice'
    exact hdest hservice'

end TrafficMap.Depicts

/-! ## Requests for service graphs -/

namespace Request

/-- The hops of the accepted samples among all answers to the request's queries for traffic. -/
def acceptedHops [Quantity ν] (r : Request) (b : Backend ν) : List (Observation ν) :=
  r.namespaces.values.flatMap fun scope => (r.feeds b scope).flatMap (Feed.acceptedHops r)

variable [Quantity ν]

/-- A service graph whose queries are all answered in time is made of a map that depicts the
accepted traffic. -/
theorem exists_depicts {r : Request} (htype : r.type = .service) (hnames : r.NamesKnown)
    {b : Backend ν} (hb : b.Answers) {c : Clock} (hc : c.Allows (1 + r.appenders.length)) :
    ∃ m : TrafficMap ν, m.Depicts r (r.acceptedHops b) ∧
      (r.namespacesGraph [] b c).result = m.toServiceGraph.mapError .ofGraphFault := by
  obtain ⟨maps, hresult, hmaps⟩ := exists_finishNamespaces hnames hb hc
  refine ⟨(TrafficMap.mergeAll ((r.namespaces.values.map Scope.name).zip maps)).classify r, ?_, ?_⟩
  · refine (TrafficMap.depicts_mergeAll (hmaps.imp fun scope m hm => ?_)).classify
    exact hm.keeps ResponseTime.depicts_annotate (TrafficMap.depicts_ofFeeds r _)
  · rw [hresult, Plan.finishNamespaces, if_pos htype]

/-- **A request for a service graph** whose queries are all answered in time fails exactly if
accepted traffic leads past all services from a node that a service passes accepted traffic on to.
It is then told where such traffic leads to. -/
theorem serviceGraph_isOk_iff {r : Request} (htype : r.type = .service) (hnames : r.NamesKnown)
    {b : Backend ν} (hb : b.Answers) {c : Clock} (hc : c.Allows (1 + r.appenders.length)) :
    ((∃ g, (r.namespacesGraph [] b c).result = .ok g) ↔
      ∀ o ∈ r.acceptedHops b, ∀ o' ∈ r.acceptedHops b, ¬ o.IsBypassedBy r o') ∧
    ∀ e, (r.namespacesGraph [] b c).result = .error e →
      ∃ o ∈ r.acceptedHops b, ∃ o' ∈ r.acceptedHops b, o.IsBypassedBy r o' ∧
        e = .ofGraphFault (.unexpectedKind (o'.destId r) .service (o'.destKind r)) := by
  obtain ⟨m, hm, hresult⟩ := exists_depicts htype hnames hb hc
  have hos : ∀ o ∈ r.acceptedHops b, o.sourceKind r = .service → o.destKind r = .workload := by
    intro o ho
    obtain ⟨scope, -, ho⟩ := List.mem_flatMap.mp ho
    obtain ⟨f, -, ho⟩ := List.mem_flatMap.mp ho
    exact Feed.destKind_of_mem_acceptedHops htype ho
  have hinjected := hm.isInjected hos
  have herror : ∀ e, (r.namespacesGraph [] b c).result = .error e →
      ∃ o ∈ r.acceptedHops b, ∃ o' ∈ r.acceptedHops b, o.IsBypassedBy r o' ∧
        e = .ofGraphFault (.unexpectedKind (o'.destId r) .service (o'.destKind r)) := by
    intro e he
    rw [hresult] at he
    cases hgraph : m.toServiceGraph with
    | ok g =>
      rw [hgraph] at he
      cases he
    | error fault =>
      rw [hgraph] at he
      cases he
      obtain ⟨f, child, hf, hchild, hkind, rfl⟩ := hinjected.exists_of_error hgraph
      obtain ⟨o, ho, o', ho', hbypass, hdest⟩ := hm.exists_isBypassedBy hf hchild hkind
      refine ⟨o, ho, o', ho', hbypass, ?_⟩
      rw [← o'.kind_destId, hdest, hm.hasKinds f.dest child hchild, hm.wellFormed.id_eq hchild]
  refine ⟨⟨?_, fun hnone => ?_⟩, herror⟩
  · rintro ⟨g, hg⟩ o ho o' ho' hbypass
    rw [hresult] at hg
    obtain ⟨f, hf, hnot⟩ := hm.exists_isBehindService hos ho ho' hbypass
    exact hnot (TrafficMap.leadsToService_of_isBehindService (mapError_eq_ok_iff.mp hg) hf)
  · cases hend : (r.namespacesGraph [] b c).result with
    | ok g => exact ⟨g, rfl⟩
    | error e =>
      obtain ⟨o, ho, o', ho', hbypass, -⟩ := herror e hend
      exact absurd hbypass (hnone o ho o' ho')

/-! ## A workload that calls another by itself -/

/-- A request for the service graph of one namespace. -/
def forServices : Request := withNamespace { queryTime := default, type := .service } "a" 600

/-- Requests reach a workload through its service. The workload sends requests to another one that
is behind no service. -/
def legacyCalled : Backend Rat := fun _ =>
  .ok [.toWorkload "a" "front" 2,
    .ofWorkload "a" "front" ⟨"a", "legacy", "legacy", "v1", unknownLabel⟩ 1]

theorem answers_legacyCalled : legacyCalled.Answers := fun _ => ⟨_, rfl⟩

theorem namesKnown_forServices : forServices.NamesKnown := fun _ hname => nomatch hname

/-- The request fails although every query is answered. -/
theorem result_legacyCalled :
    (forServices.namespacesGraph [] legacyCalled ⟨0, none, none⟩).result =
      .error (.data
        "expected node kind [service] for node [wl_a_legacy], found [workload]") := by
  decide +kernel

/-- Two of the accepted hops are at fault for that. -/
theorem serviceGraph_isOk_iff_legacyCalled :
    forServices.type = .service ∧ forServices.NamesKnown ∧ legacyCalled.Answers ∧
      Clock.Allows ⟨0, none, none⟩ (1 + forServices.appenders.length) ∧
      (forServices.namespacesGraph [] legacyCalled ⟨0, none, none⟩).result =
        .error (.data
          "expected node kind [service] for node [wl_a_legacy], found [workload]") ∧
      ((∃ g, (forServices.namespacesGraph [] legacyCalled ⟨0, none, none⟩).result = .ok g) ↔
        ∀ o ∈ forServices.acceptedHops legacyCalled, ∀ o' ∈ forServices.acceptedHops legacyCalled,
          ¬ o.IsBypassedBy forServices o') ∧
      ∀ e, (forServices.namespacesGraph [] legacyCalled ⟨0, none, none⟩).result = .error e →
        ∃ o ∈ forServices.acceptedHops legacyCalled, ∃ o' ∈ forServices.acceptedHops legacyCalled,
          o.IsBypassedBy forServices o' ∧ e = .ofGraphFault
            (.unexpectedKind (o'.destId forServices) .service (o'.destKind forServices)) := by
  have hc := Clock.allows_of_no_latency none (1 + forServices.appenders.length)
  exact ⟨rfl, namesKnown_forServices, answers_legacyCalled, hc, result_legacyCalled,
    serviceGraph_isOk_iff rfl namesKnown_forServices answers_legacyCalled hc⟩

/-- **Answered queries do not make sure that there is a service graph.** -/
theorem not_forall_serviceGraph_isOk :
    ¬ ∀ (r : Request) (b : Backend Rat) (c : Clock), r.kind = .namespaces → r.type = .service →
      r.NamesKnown → b.Answers → c.Allows (1 + r.appenders.length) →
      ∃ g, (r.namespacesGraph [] b c).result = .ok g := by
  intro hall
  obtain ⟨g, hg⟩ := hall forServices legacyCalled ⟨0, none, none⟩ rfl rfl namesKnown_forServices
    answers_legacyCalled (Clock.allows_of_no_latency none _)
  rw [result_legacyCalled] at hg
  cases hg

end Request

end MeshTraffic
