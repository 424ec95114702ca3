import MeshTraffic.Proofs.Balance
import MeshTraffic.Proofs.Contributions
import MeshTraffic.Proofs.ServiceFaults

/-!
# Traffic through services

Where services get nodes of their own, traffic that is addressed to a service is drawn into the
service, and from there to the workload. So every edge has a service at one of its ends and none at
the other, unless the service stands in the unknown namespace, where nothing has a node of its own.

* `Attribution.kinds_of_mem_hops`: what the ends of a hop are if the destination's namespace is
  known. `Feed.cases_of_mem_acceptedHops`: what they are in any case.
* `TrafficMap.PassesService`: an edge with a service at exactly one end.
* `TrafficMap.ofFeeds_passesService`: which edges of a drawn map are such edges.
* `TrafficMap.not_forall_passesService`: not all need be.
-/

namespace MeshTraffic

variable {ν : Type}

/-! ## Hops -/

namespace Labels

theorem resolve_ofService {ns service : String} (hns : ns ≠ unknownLabel)
    (h : isKnown service = true) (type : GraphType) :
    (ofService ns service).resolve type = .ofService ns service := by
  have hempty : isKnown "" = false := rfl
  simp [resolve, ofService, hns, h, hempty]

theorem resolve_of_ns_eq {l : Labels} (h : l.ns = unknownLabel) (type : GraphType) :
    l.resolve type = .unknown :=
  if_pos h

/-- A service in a known namespace is known. -/
theorem kind_resolve_ne_unknown {l : Labels} (hns : l.ns ≠ unknownLabel)
    (h : isKnown l.service = true) (type : GraphType) : (l.resolve type).kind ≠ .unknown := by
  unfold resolve
  rw [if_neg hns, if_pos h]
  split
  · exact nofun
  split
  · split <;> exact nofun
  split <;> exact nofun

end Labels

namespace Attribution

variable {a : Attribution} {r : Request} {hop : Hop}

/-- Every hop leads into the namespace of the destination. -/
theorem dest_ns_of_mem_hops (hhop : hop ∈ a.hops r) : hop.dest.ns = a.dest.ns := by
  obtain ⟨-, rfl | rfl⟩ | ⟨-, rfl⟩ := cases_of_mem_hops hhop <;> rfl

theorem hops_ne_nil (a : Attribution) (r : Request) : a.hops r ≠ [] := by
  unfold hops
  split <;> simp

/-- Traffic that is addressed to a known service is drawn from it or into it, and not to the unknown
node. -/
theorem kinds_of_mem_hops (hr : r.injectsServices = true) (hsource : a.source.service = "")
    (hservice : isKnown a.dest.service = true) (hns : a.dest.ns ≠ unknownLabel)
    (hhop : hop ∈ a.hops r) :
    ((hop.source.resolve r.type).kind = .service ↔
      (hop.dest.resolve r.type).kind ≠ .service) ∧
      (hop.dest.resolve r.type).kind ≠ .unknown := by
  have hno : (a.source.resolve r.type).kind ≠ .service :=
    Labels.kind_resolve_ne_service (by rw [hsource]; rfl) r.type
  have hdest := Labels.kind_resolve_ne_unknown hns hservice r.type
  have hvia : ((Labels.ofService a.dest.ns a.dest.service).resolve r.type).kind = .service := by
    rw [Labels.resolve_ofService hns hservice]
    rfl
  obtain ⟨hpasses, rfl | rfl⟩ | ⟨hdirect, rfl⟩ := cases_of_mem_hops hhop
  · simp [hno, hvia]
  · have hend : (a.dest.resolve r.type).kind ≠ .service := by
      simpa [passesService, hr, hservice] using hpasses
    simp [hvia, hend, hdest]
  · have hend : (a.dest.resolve r.type).kind = .service := by
      simpa [passesService, hr, hservice] using hdirect
    simp [hno, hend]

end Attribution

theorem NodeId.kind_unknown : NodeId.unknown.kind = .unknown := by decide

/-! ## Edges -/

namespace TrafficMap

/-- There is a service at one end of the edge and none at the other, which is another node. -/
structure PassesService (m : TrafficMap ν) (e : Edge ν) : Prop where
  hasService_iff : m.HasService e.source ↔ ¬ m.HasService e.dest
  source_ne_dest : e.source ≠ e.dest

theorem passesService_of_iff {m : TrafficMap ν} {e : Edge ν}
    (h : m.HasService e.source ↔ ¬ m.HasService e.dest) : m.PassesService e where
  hasService_iff := h
  source_ne_dest heq := iff_not_self (heq ▸ h)

theorem HasKinds.hasService_iff {m : TrafficMap ν} (h : m.HasKinds) {id : NodeId} {n : Node ν}
    (hn : m.get? id = some n) : m.HasService id ↔ id.kind = .service := by
  rw [← h id n hn, HasService, hn]
  simp

end TrafficMap

/-! ## Drawn maps -/

namespace Sample

/-- The namespace of the destination. -/
def destNs? (s : Sample ν) : Option String :=
  (s.labels.get? SeriesLabel.destServiceNamespace).or
    (s.labels.get? SeriesLabel.destWorkloadNamespace)

/-- The service that the traffic is addressed to is known, if it is told. -/
def KnowsService (s : Sample ν) : Prop :=
  ∀ service ∈ s.labels.get? SeriesLabel.destService, isKnown service = true

instance (s : Sample ν) : Decidable s.KnowsService :=
  inferInstanceAs (Decidable (∀ service ∈ s.labels.get? SeriesLabel.destService, _))

end Sample

namespace Feed

variable [Quantity ν] {r : Request} {f : Feed ν}

/-- Accepted traffic to known services leads to the unknown node, if its namespace is unknown, or
else it is drawn from a service or into one. -/
theorem cases_of_mem_acceptedHops (hr : r.injectsServices = true)
    (hknown : ∀ s ∈ f.samples, s.KnowsService) {o : Observation ν} (ho : o ∈ f.acceptedHops r) :
    (o.destId r = NodeId.unknown ∧ ∃ s ∈ f.accepted, s.destNs? = some unknownLabel) ∨
      (o.sourceKind r = .service ↔ o.destKind r ≠ .service) ∧ o.destKind r ≠ .unknown := by
  obtain ⟨s, hs, a, ha, hop, hhop, rfl⟩ := mem_acceptedHops_iff.mp ho
  obtain ⟨⟨-, -, -, -, hsource⟩, hns, -, -, -, hservice⟩ :=
    Attribution.ofLabels?_eq_some_iff.mp ha
  by_cases hunknown : a.dest.ns = unknownLabel
  · have hdest : hop.dest.resolve r.type = .unknown :=
      Labels.resolve_of_ns_eq ((Attribution.dest_ns_of_mem_hops hhop).trans hunknown) r.type
    exact .inl ⟨congrArg Identity.id hdest, s, hs, hunknown ▸ hns⟩
  · have hservice : isKnown a.dest.service = true :=
      hknown s (List.mem_filter.mp hs).1 _ hservice
    exact .inr (Attribution.kinds_of_mem_hops hr hsource hservice hunknown hhop)

/-- Accepted traffic into the unknown namespace is drawn to the unknown node. -/
theorem exists_of_destNs?_eq {s : Sample ν} (hs : s ∈ f.accepted)
    (hns : s.destNs? = some unknownLabel) :
    ∃ o ∈ f.acceptedHops r, o.destId r = NodeId.unknown := by
  have haccepted : s.IsAccepted f.protocol := by simpa using (List.mem_filter.mp hs).2
  obtain ⟨a, ha⟩ := Option.isSome_iff_exists.mp (Sample.isSome_ofLabels?_iff.mpr haccepted.1)
  obtain ⟨-, hns', -⟩ := Attribution.ofLabels?_eq_some_iff.mp ha
  have hunknown : a.dest.ns = unknownLabel := Option.some.inj (hns'.symm.trans hns)
  obtain ⟨hop, hhop⟩ := List.exists_mem_of_ne_nil _ (a.hops_ne_nil r)
  refine ⟨_, mem_acceptedHops_iff.mpr ⟨s, hs, a, ha, hop, hhop, rfl⟩, ?_⟩
  exact congrArg Identity.id
    (Labels.resolve_of_ns_eq ((Attribution.dest_ns_of_mem_hops hhop).trans hunknown) r.type)

end Feed

namespace TrafficMap

/-- An edge is drawn from a service or into one if the traffic is that it depicts. -/
theorem Depicts.hasService_iff {r : Request} {os : List (Observation ν)} {m : TrafficMap ν}
    (h : m.Depicts r os) {e : Edge ν} (he : e ∈ m.edges) {o : Observation ν}
    (hsource : o.sourceId r = e.source) (hdest : o.destId r = e.dest) :
    (m.HasService e.source ↔ o.sourceKind r = .service) ∧
      (m.HasService e.dest ↔ o.destKind r = .service) := by
  obtain ⟨n, hn, he⟩ := h.wellFormed.mem_edges_iff.mp he
  obtain ⟨n', hn'⟩ : ∃ n', m.get? e.dest = some n' :=
    ArrivalMap.contains_iff.mp (h.wellFormed.dest_mem hn _ (List.mem_map_of_mem he))
  rw [h.hasKinds.hasService_iff hn, h.hasKinds.hasService_iff hn', ← hsource, ← hdest,
    o.kind_sourceId, o.kind_destId]
  exact ⟨.rfl, .rfl⟩

variable [Quantity ν]

/-- An edge of a drawn map leads to the unknown node, for some of the traffic leads into the unknown
namespace, or it passes a service. -/
theorem cases_of_mem_edges_ofFeeds {r : Request} (hr : r.injectsServices = true)
    {feeds : List (Feed ν)} (hknown : ∀ f ∈ feeds, ∀ s ∈ f.samples, s.KnowsService)
    {e : Edge ν} (he : e ∈ (ofFeeds r feeds).edges) :
    (e.dest = NodeId.unknown ∧ ∃ f ∈ feeds, ∃ s ∈ f.accepted, s.destNs? = some unknownLabel) ∨
      e.dest ≠ NodeId.unknown ∧ (ofFeeds r feeds).PassesService e := by
  have hm := depicts_ofFeeds r feeds
  obtain ⟨n, hn, hne⟩ := hm.wellFormed.mem_edges_iff.mp he
  obtain ⟨o, ho, hplace⟩ := hm.exists_observation hn hne
  have hsource : o.sourceId r = e.source := congrArg (·.1) hplace
  have hdest : o.destId r = e.dest := congrArg (·.2.1) hplace
  obtain ⟨f, hf, ho⟩ := List.mem_flatMap.mp ho
  obtain ⟨hunknown, s, hs⟩ | ⟨hiff, hkind⟩ := f.cases_of_mem_acceptedHops hr (hknown f hf) ho
  · exact .inl ⟨hdest ▸ hunknown, f, hf, s, hs⟩
  · refine .inr ⟨fun hunknown => hkind ?_, passesService_of_iff ?_⟩
    · rw [← o.kind_destId, hdest, hunknown, NodeId.kind_unknown]
    · obtain ⟨hsource', hdest'⟩ := hm.hasService_iff he hsource hdest
      rw [hsource', hdest']
      exact hiff

/-- **Where services get nodes of their own, traffic to known services passes one**: an edge has a
service at exactly one end, unless it leads to the unknown node. There are edges to the unknown node
exactly if some of the traffic leads into the unknown namespace. -/
theorem ofFeeds_passesService {r : Request} (hr : r.injectsServices = true)
    {feeds : List (Feed ν)} (hknown : ∀ f ∈ feeds, ∀ s ∈ f.samples, s.KnowsService) :
    (∀ e ∈ (ofFeeds r feeds).edges, e.dest ≠ NodeId.unknown → (ofFeeds r feeds).PassesService e) ∧
      ((∃ e ∈ (ofFeeds r feeds).edges, e.dest = NodeId.unknown) ↔
        ∃ f ∈ feeds, ∃ s ∈ f.accepted, s.destNs? = some unknownLabel) := by
  refine ⟨fun e he hne => ?_, ?_, ?_⟩
  · obtain ⟨hunknown, -⟩ | ⟨-, hpasses⟩ := cases_of_mem_edges_ofFeeds hr hknown he
    · exact absurd hunknown hne
    · exact hpasses
  · rintro ⟨e, he, hunknown⟩
    obtain ⟨-, hsample⟩ | ⟨hne, -⟩ := cases_of_mem_edges_ofFeeds hr hknown he
    · exact hsample
    · exact absurd hunknown hne
  · rintro ⟨f, hf, s, hs, hns⟩
    obtain ⟨o, ho, hunknown⟩ := Feed.exists_of_destNs?_eq (r := r) hs hns
    obtain ⟨n, hn, -, e, he, hdest⟩ :=
      (depicts_ofFeeds r feeds).exists_edge (List.mem_flatMap.mpr ⟨f, hf, ho⟩)
    exact ⟨e, mem_edges_of_mem_nodes (mem_nodes_iff.mpr ⟨_, hn⟩) he, hdest.trans hunknown⟩

/-! ## A service in the unknown namespace -/

/-- A request for nodes of services. -/
def withServices : Request := { queryTime := default, injectServices := true }

/-- Requests of a workload to a service whose namespace is unknown, and requests to a workload. -/
def toUnknownNamespace : List (Feed Rat) :=
  [.http [.ofWorkload "a" "x" { Labels.unattributed with service := "reviews" } 1,
    .toWorkload "a" "y" 2]]

theorem knowsService_toUnknownNamespace :
    ∀ f ∈ toUnknownNamespace, ∀ s ∈ f.samples, s.KnowsService := by decide +kernel

/-- What leads to the unknown node passes no service. -/
theorem ofFeeds_passesService_toUnknownNamespace :
    withServices.injectsServices = true ∧
      (∀ f ∈ toUnknownNamespace, ∀ s ∈ f.samples, s.KnowsService) ∧
      (ofFeeds withServices toUnknownNamespace).edges.map (fun e => (e.source.text, e.dest.text)) =
        [("wl_a_x", "unknown"), ("unknown", "unknown"), ("unknown", "svc_a_y"),
          ("svc_a_y", "wl_a_y")] ∧
      (∀ e ∈ (ofFeeds withServices toUnknownNamespace).edges, e.dest ≠ NodeId.unknown →
        (ofFeeds withServices toUnknownNamespace).PassesService e) ∧
      ((∃ e ∈ (ofFeeds withServices toUnknownNamespace).edges, e.dest = NodeId.unknown) ↔
        ∃ f ∈ toUnknownNamespace, ∃ s ∈ f.accepted, s.destNs? = some unknownLabel) :=
  ⟨rfl, knowsService_toUnknownNamespace, by decide +kernel,
    ofFeeds_passesService rfl knowsService_toUnknownNamespace⟩

/-- **Not all traffic to known services passes one**: what leads to a service in the unknown
namespace leads past all services. -/
theorem not_forall_passesService :
    ¬ ∀ (r : Request) (feeds : List (Feed Rat)), r.injectsServices = true →
      (∀ f ∈ feeds, ∀ s ∈ f.samples, s.KnowsService) →
      ∀ e ∈ (ofFeeds r feeds).edges, (ofFeeds r feeds).PassesService e := by
  intro hall
  have hpasses := hall withServices toUnknownNamespace rfl knowsService_toUnknownNamespace
  have hpast : ∃ e ∈ (ofFeeds withServices toUnknownNamespace).edges, e.source ≠ e.dest ∧
      ¬ (ofFeeds withServices toUnknownNamespace).HasService e.source ∧
      ¬ (ofFeeds withServices toUnknownNamespace).HasService e.dest := by
    decide +kernel
  obtain ⟨e, he, -, hsource, hdest⟩ := hpast
  exact hsource ((hpasses e he).hasService_iff.mpr hdest)

end TrafficMap

end MeshTraffic
