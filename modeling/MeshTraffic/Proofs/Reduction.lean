import MeshTraffic.Graph.ServiceGraph
import MeshTraffic.Proofs.Outcome
import MeshTraffic.Proofs.WellFormed

/-!
# Service graphs are well formed

* `mem_collect_iff`: what is collected is what some step gives.
  `exists_of_collect_eq_error`: if nothing is collected, then a step fails.
* `TrafficMap.IsServiceEdge`: an edge to a service of the map, whose traffic can be summed. Every
  edge that is kept is one (`isServiceEdge_of_carriedByService`, `isServiceEdge_of_carriedByRoot`).
* `Node.bare_withEdges`, `Node.tidy_withEdges`, `Node.mem_targets_withEdges`: what a kept node's
  edges are put together to.
* `TrafficMap.reduceNode_cases`: a node is kept with what its edges become, or left out.
  `TrafficMap.reduceNode_eq_ok`: these are edges to services.
  `TrafficMap.exists_of_get?_toServiceGraph`: nothing but its edges changes.
* `TrafficMap.bare_nodes_toServiceGraph`, `TrafficMap.of_mem_nodes_toServiceGraph`: which nodes a
  service graph has, and where their edges lead.
* `TrafficMap.wellFormed_toServiceGraph`: all services are kept, so no edge loses its end.
-/

namespace MeshTraffic

variable {ν : Type}

/-! ## Collecting -/

theorem collect_cons_eq_ok_iff {ε α β : Type} {f : α → Except ε (List β)} {a : α} {l : List α}
    {bs : List β} :
    collect f (a :: l) = .ok bs ↔
      ∃ cs ds, f a = .ok cs ∧ collect f l = .ok ds ∧ bs = cs ++ ds := by
  simp only [collect, bind, bind_eq_ok_iff, pure, Except.pure, Except.ok.injEq]
  constructor
  · rintro ⟨cs, hcs, ds, hds, rfl⟩
    exact ⟨cs, ds, hcs, hds, rfl⟩
  · rintro ⟨cs, ds, hcs, hds, rfl⟩
    exact ⟨cs, hcs, ds, hds, rfl⟩

theorem mem_collect_iff {ε α β : Type} {f : α → Except ε (List β)} {l : List α} {bs : List β}
    (h : collect f l = .ok bs) {b : β} : b ∈ bs ↔ ∃ a ∈ l, ∃ cs, f a = .ok cs ∧ b ∈ cs := by
  induction l generalizing bs with
  | nil =>
    cases h
    simp
  | cons a l ih =>
    obtain ⟨cs, ds, hcs, hds, rfl⟩ := collect_cons_eq_ok_iff.mp h
    simp [ih hds, hcs]

/-- A step of what is collected gives something, all of which is collected. -/
theorem exists_of_mem_collect {ε α β : Type} {f : α → Except ε (List β)} {l : List α}
    {bs : List β} (h : collect f l = .ok bs) {a : α} (ha : a ∈ l) :
    ∃ cs, f a = .ok cs ∧ ∀ b ∈ cs, b ∈ bs := by
  induction l generalizing bs with
  | nil => cases ha
  | cons a' l ih =>
    obtain ⟨cs, ds, hcs, hds, rfl⟩ := collect_cons_eq_ok_iff.mp h
    rcases List.mem_cons.mp ha with rfl | ha
    · exact ⟨cs, hcs, fun b hb => List.mem_append_left ds hb⟩
    · obtain ⟨cs', hcs', hsub⟩ := ih hds ha
      exact ⟨cs', hcs', fun b hb => List.mem_append_right cs (hsub b hb)⟩

/-- If nothing is collected, then a step fails. -/
theorem exists_of_collect_eq_error {ε α β : Type} {f : α → Except ε (List β)} {l : List α} {e : ε}
    (h : collect f l = .error e) : ∃ a ∈ l, f a = .error e := by
  induction l with
  | nil => cases h
  | cons a l ih =>
    obtain ha | ⟨cs, -, h⟩ := bind_eq_error_iff.mp h
    · exact ⟨a, List.mem_cons_self, ha⟩
    obtain hl | ⟨ds, -, h⟩ := bind_eq_error_iff.mp h
    · obtain ⟨a', ha', hf⟩ := ih hl
      exact ⟨a', List.mem_cons_of_mem _ ha', hf⟩
    · cases h

theorem collect_map {ε α β γ : Type} (f : β → Except ε (List γ)) (g : α → β) (l : List α) :
    collect f (l.map g) = collect (fun a => f (g a)) l := by
  induction l with
  | nil => rfl
  | cons a l ih => simp only [List.map_cons, collect, ih]

theorem collect_congr {ε α β : Type} {f g : α → Except ε (List β)} {l : List α}
    (h : ∀ a ∈ l, f a = g a) : collect f l = collect g l := by
  induction l with
  | nil => rfl
  | cons a l ih =>
    obtain ⟨ha, hl⟩ := List.forall_mem_cons.mp h
    simp only [collect, ha, ih hl]

theorem collect_of_singletons {ε α β : Type} {f : α → Except ε (List β)} {g : α → β} {l : List α}
    (h : ∀ a ∈ l, f a = .ok [g a]) : collect f l = .ok (l.map g) := by
  induction l with
  | nil => rfl
  | cons a l ih =>
    obtain ⟨ha, hl⟩ := List.forall_mem_cons.mp h
    rw [collect, ha, ih hl]
    rfl

theorem Edge.eq_singleton_of_summable {e : Edge ν} {fs : List (Edge ν)}
    (h : e.summable = .ok fs) : fs = [e] := by
  unfold Edge.summable at h
  split at h <;> cases h <;> rfl

theorem Edge.protocol_of_summable {e : Edge ν} {fs : List (Edge ν)} (h : e.summable = .ok fs) :
    e.protocol ∈ [.http, .tcp] := by
  unfold Edge.summable at h
  split at h
  · next hprotocol => simp [hprotocol]
  · next hprotocol => simp [hprotocol]
  · cases h

namespace TrafficMap

/-! ## Kept edges lead to services -/

/-- The edge leads to a service of the map. -/
def LeadsToService (m : TrafficMap ν) (e : Edge ν) : Prop :=
  ∃ child, m.get? e.dest = some child ∧ child.kind = .service

/-- An edge of the map that leads to one of its services, and whose traffic can be summed. -/
structure IsServiceEdge (m : TrafficMap ν) (e : Edge ν) : Prop where
  mem_edges : e ∈ m.edges
  leadsToService : m.LeadsToService e
  protocol_mem : e.protocol ∈ [.http, .tcp]

theorem node_eq_ok_iff {m : TrafficMap ν} {id : NodeId} {n : Node ν} :
    m.node id = .ok n ↔ m.get? id = some n := by
  unfold node
  split <;> simp_all

theorem mem_edges_of_mem_nodes {m : TrafficMap ν} {n : Node ν} (hn : n ∈ m.nodes) {e : Edge ν}
    (he : e ∈ n.edges) : e ∈ m.edges :=
  List.mem_flatMap.mpr ⟨n, hn, he⟩

theorem mem_edges_of_node {m : TrafficMap ν} {id : NodeId} {n : Node ν} (hn : m.node id = .ok n)
    {e : Edge ν} (he : e ∈ n.edges) : e ∈ m.edges :=
  mem_edges_of_mem_nodes (mem_nodes_iff.mpr ⟨id, node_eq_ok_iff.mp hn⟩) he

section

variable {m : TrafficMap ν} {e f : Edge ν} {fs : List (Edge ν)}

private theorem isServiceEdge_of_summable {n : Node ν} (he : e ∈ m.edges)
    (hn : m.node e.dest = .ok n) (hkind : n.kind = .service) (h : e.summable = .ok fs)
    (hf : f ∈ fs) : m.IsServiceEdge f := by
  rw [Edge.eq_singleton_of_summable h, List.mem_singleton] at hf
  exact hf ▸ ⟨he, ⟨n, node_eq_ok_iff.mp hn, hkind⟩, Edge.protocol_of_summable h⟩

private theorem isServiceEdge_of_carriedBehindService (he : e ∈ m.edges)
    (h : m.carriedBehindService e = .ok fs) (hf : f ∈ fs) : m.IsServiceEdge f := by
  obtain ⟨child, hchild, h⟩ := bind_eq_ok_iff.mp h
  split at h
  · next hkind => exact isServiceEdge_of_summable he hchild hkind h hf
  · cases h

private theorem isServiceEdge_of_carriedBehindRoot (he : e ∈ m.edges)
    (h : m.carriedBehindRoot e = .ok fs) (hf : f ∈ fs) : m.IsServiceEdge f := by
  obtain ⟨child, hchild, h⟩ := bind_eq_ok_iff.mp h
  split at h
  · next hkind => exact isServiceEdge_of_summable he hchild hkind h hf
  · cases h
    cases hf

theorem isServiceEdge_of_carriedByService (he : e ∈ m.edges)
    (h : m.carriedByService e = .ok fs) (hf : f ∈ fs) : m.IsServiceEdge f := by
  obtain ⟨via, hvia, h⟩ := bind_eq_ok_iff.mp h
  split at h
  · obtain ⟨e', he', gs, hgs, hmem⟩ := (mem_collect_iff h).mp hf
    exact isServiceEdge_of_carriedBehindService (mem_edges_of_node hvia he') hgs hmem
  · next hkind => exact isServiceEdge_of_summable he hvia hkind h hf
  · cases h

theorem isServiceEdge_of_carriedByRoot (he : e ∈ m.edges) (h : m.carriedByRoot e = .ok fs)
    (hf : f ∈ fs) : m.IsServiceEdge f := by
  obtain ⟨via, hvia, h⟩ := bind_eq_ok_iff.mp h
  split at h
  · obtain ⟨e', he', gs, hgs, hmem⟩ := (mem_collect_iff h).mp hf
    exact isServiceEdge_of_carriedBehindRoot (mem_edges_of_node hvia he') hgs hmem
  · next hkind => exact isServiceEdge_of_summable he hvia hkind h hf
  · cases h
    cases hf

end

end TrafficMap

/-! ## Putting edges together -/

namespace Node

variable [Quantity ν]

theorem targets_absorbInto (source : NodeId) (f : Edge ν) (l : List (Edge ν)) :
    (absorbInto source f l).map Edge.target = withTarget f.target (l.map Edge.target) := by
  unfold withTarget
  induction l with
  | nil => rfl
  | cons e l ih =>
    rw [absorbInto]
    split
    · next h =>
      have hjoin : (e.join f).target = e.target := rfl
      simp [hjoin, Edge.isParallel_iff.mp h]
    · next h =>
      have hne : f.target ≠ e.target := fun heq => h (Edge.isParallel_iff.mpr heq.symm)
      rw [List.map_cons, ih, List.map_cons]
      simp only [List.mem_cons, hne, false_or]
      split <;> simp

theorem sources_absorbInto {source : NodeId} {f : Edge ν} {l : List (Edge ν)}
    (h : ∀ e ∈ l, e.source = source) : ∀ e ∈ absorbInto source f l, e.source = source := by
  induction l with
  | nil => simp [absorbInto]
  | cons e l ih =>
    obtain ⟨he, hl⟩ := List.forall_mem_cons.mp h
    rw [absorbInto]
    split
    · exact List.forall_mem_cons.mpr ⟨he, hl⟩
    · exact List.forall_mem_cons.mpr ⟨he, ih hl⟩

theorem Tidy.absorb {n : Node ν} (h : n.Tidy) (f : Edge ν) : (n.absorb f).Tidy where
  source_eq := sources_absorbInto h.source_eq
  nodup_targets := by
    rw [targets, Node.absorb, targets_absorbInto]
    exact nodup_withTarget h.nodup_targets

private theorem foldl_absorb {n : Node ν} (h : n.Tidy) (edges : List (Edge ν)) :
    (edges.foldl absorb n).Tidy ∧ ∀ t, t ∈ (edges.foldl absorb n).targets ↔
      t ∈ n.targets ∨ t ∈ edges.map Edge.target := by
  induction edges generalizing n with
  | nil => simp [h]
  | cons e edges ih =>
    obtain ⟨htidy, htargets⟩ := ih (h.absorb e)
    refine ⟨htidy, fun t => ?_⟩
    have hab : t ∈ (n.absorb e).targets ↔ t = e.target ∨ t ∈ n.targets := by
      rw [targets, absorb, targets_absorbInto, mem_withTarget, targets]
    rw [List.foldl_cons, htargets, hab, List.map_cons, List.mem_cons]
    grind

/-- Other edges change nothing else. -/
theorem withEdges_eq (n : Node ν) (edges : List (Edge ν)) :
    ∃ edges', n.withEdges edges = { n with edges := edges' } := by
  suffices hfold : ∀ n' : Node ν, (∃ edges', n' = { n with edges := edges' }) →
      ∃ edges', edges.foldl absorb n' = { n with edges := edges' } from hfold _ ⟨[], rfl⟩
  induction edges with
  | nil => exact fun n' h => h
  | cons e edges ih =>
    rintro _ ⟨edges', rfl⟩
    exact ih _ ⟨_, rfl⟩

/-- The node without its edges. -/
def bare (n : Node ν) : Node ν := { n with edges := [] }

theorem bare_withEdges (n : Node ν) (edges : List (Edge ν)) :
    (n.withEdges edges).bare = n.bare := by
  obtain ⟨edges', h⟩ := n.withEdges_eq edges
  rw [h]
  rfl

theorem id_withEdges (n : Node ν) (edges : List (Edge ν)) : (n.withEdges edges).id = n.id :=
  (congrArg Node.id (n.bare_withEdges edges) :)

theorem tidy_withEdges (n : Node ν) (edges : List (Edge ν)) : (n.withEdges edges).Tidy :=
  (foldl_absorb (n := { n with edges := [] }) (.of_no_edges rfl) edges).1

theorem mem_targets_withEdges {n : Node ν} {edges : List (Edge ν)} {t : NodeId × Protocol} :
    t ∈ (n.withEdges edges).targets ↔ t ∈ edges.map Edge.target := by
  have h := (foldl_absorb (n := { n with edges := [] }) (.of_no_edges rfl) edges).2 t
  simpa [withEdges, targets] using h

end Node

/-! ## Kept nodes -/

/-- Whether the service graph keeps the node. -/
def Node.isKept (n : Node ν) : Bool := n.kind = .service || n.isRoot

namespace TrafficMap

variable [Quantity ν]

/-- A node is kept with the edges that its own become, or left out. -/
theorem reduceNode_cases {m : TrafficMap ν} {n : Node ν} {ns : List (Node ν)}
    (h : m.reduceNode n = .ok ns) :
    (n.isKept = true ∧ ∃ edges, ns = [n.withEdges edges] ∧
        (collect m.carriedByService n.edges = .ok edges ∨
          collect m.carriedByRoot n.edges = .ok edges)) ∨
      (n.isKept = false ∧ ns = []) := by
  unfold reduceNode at h
  unfold Node.isKept
  split at h
  · next hkind =>
    obtain ⟨edges, hedges, hns⟩ := bind_eq_ok_iff.mp h
    cases hns
    exact .inl ⟨by simp [hkind], edges, rfl, .inl hedges⟩
  · split at h
    · next hroot =>
      obtain ⟨edges, hedges, hns⟩ := bind_eq_ok_iff.mp h
      cases hns
      exact .inl ⟨by simp [hroot], edges, rfl, .inr hedges⟩
    · cases h
      exact .inr ⟨by simp_all, rfl⟩

/-- A node is kept with edges to services, or left out. -/
theorem reduceNode_eq_ok {m : TrafficMap ν} {n : Node ν} (hn : n ∈ m.nodes) {ns : List (Node ν)}
    (h : m.reduceNode n = .ok ns) :
    (n.isKept = true ∧ ∃ edges, ns = [n.withEdges edges] ∧ ∀ e ∈ edges, m.IsServiceEdge e) ∨
      (n.isKept = false ∧ ns = []) := by
  obtain ⟨hkept, edges, rfl, hedges⟩ | hout := reduceNode_cases h
  · refine .inl ⟨hkept, edges, rfl, fun e he => ?_⟩
    obtain hedges | hedges := hedges <;>
      obtain ⟨g, hg, gs, hgs, hmem⟩ := (mem_collect_iff hedges).mp he
    · exact isServiceEdge_of_carriedByService (mem_edges_of_mem_nodes hn hg) hgs hmem
    · exact isServiceEdge_of_carriedByRoot (mem_edges_of_mem_nodes hn hg) hgs hmem
  · exact .inr hout

/-- But for their edges, what becomes of some nodes is those of them that are kept. -/
theorem bare_collect_reduceNode {m : TrafficMap ν} {l ns : List (Node ν)}
    (h : collect m.reduceNode l = .ok ns) :
    ns.map Node.bare = (l.filter Node.isKept).map Node.bare := by
  induction l generalizing ns with
  | nil =>
    cases h
    rfl
  | cons n l ih =>
    obtain ⟨cs, ds, hcs, hds, rfl⟩ := collect_cons_eq_ok_iff.mp h
    rw [List.map_append, ih hds]
    obtain ⟨hkept, edges, rfl, -⟩ | ⟨hkept, rfl⟩ := reduceNode_cases hcs
    · simp [hkept, Node.bare_withEdges]
    · simp [hkept]

omit [Quantity ν] in
theorem ids_of_bare_eq {l l' : List (Node ν)} (h : l.map Node.bare = l'.map Node.bare) :
    l.map Node.id = l'.map Node.id := by
  have hid : Node.id ∘ Node.bare = (Node.id : Node ν → NodeId) := rfl
  rw [← hid, ← List.map_map, h, List.map_map]

/-- A service graph lists what becomes of the nodes, each under its own id. -/
theorem exists_of_toServiceGraph {m g : TrafficMap ν}
    (hid : ∀ {k n}, m.get? k = some n → n.id = k) (h : m.toServiceGraph = .ok g) :
    ∃ ns, collect m.reduceNode m.nodes = .ok ns ∧ (ns.map Node.id).Nodup ∧ g = ofNodes ns := by
  obtain ⟨ns, hns, hg⟩ := bind_eq_ok_iff.mp h
  cases hg
  refine ⟨ns, hns, ?_, rfl⟩
  rw [ids_of_bare_eq (bare_collect_reduceNode hns)]
  exact List.Nodup.sublist (List.filter_sublist.map _) (map_id_nodes hid ▸ m.nodup_keys)

/-- A node of a service graph is one of the map with other edges. -/
theorem exists_of_get?_toServiceGraph {m g : TrafficMap ν}
    (hid : ∀ {k n}, m.get? k = some n → n.id = k) (h : m.toServiceGraph = .ok g) {id : NodeId}
    {n' : Node ν} (hn' : g.get? id = some n') :
    ∃ n edges, m.get? id = some n ∧ n' = { n with edges := edges } := by
  obtain ⟨ns, hns, hnodup, rfl⟩ := exists_of_toServiceGraph hid h
  obtain ⟨hmem, rfl⟩ := (get?_ofNodes_iff hnodup).mp hn'
  obtain ⟨n, hn, cs, hcs, hmem⟩ := (mem_collect_iff hns).mp hmem
  obtain ⟨-, edges, rfl, -⟩ | ⟨-, rfl⟩ := reduceNode_cases hcs
  · obtain rfl := List.mem_singleton.mp hmem
    obtain ⟨k, hk⟩ := mem_nodes_iff.mp hn
    obtain ⟨edges', heq⟩ := n.withEdges_eq edges
    refine ⟨n, edges', ?_, heq⟩
    rw [Node.id_withEdges, hid hk, hk]
  · cases hmem

section

variable {m g : TrafficMap ν} (hid : ∀ {k n}, m.get? k = some n → n.id = k)
  (h : m.toServiceGraph = .ok g)

include hid h

theorem id_of_get?_toServiceGraph {k : NodeId} {n : Node ν} (hn : g.get? k = some n) :
    n.id = k := by
  obtain ⟨ns, -, hnodup, rfl⟩ := exists_of_toServiceGraph hid h
  exact ((get?_ofNodes_iff hnodup).mp hn).2

/-- **The nodes of a service graph** are, in their order and but for their edges, those that it
keeps. -/
theorem bare_nodes_toServiceGraph :
    g.nodes.map Node.bare = (m.nodes.filter Node.isKept).map Node.bare := by
  obtain ⟨ns, hns, hnodup, rfl⟩ := exists_of_toServiceGraph hid h
  rw [nodes_ofNodes hnodup, bare_collect_reduceNode hns]

theorem keys_toServiceGraph : g.keys = (m.nodes.filter Node.isKept).map Node.id := by
  rw [← map_id_nodes (id_of_get?_toServiceGraph hid h),
    ids_of_bare_eq (bare_nodes_toServiceGraph hid h)]

theorem isKept_of_mem_nodes_toServiceGraph {n : Node ν} (hn : n ∈ g.nodes) : n.isKept = true := by
  have hmem : n.bare ∈ (m.nodes.filter Node.isKept).map Node.bare :=
    bare_nodes_toServiceGraph hid h ▸ List.mem_map_of_mem hn
  obtain ⟨n₀, hn₀, hbare⟩ := List.mem_map.mp hmem
  have hkept : n₀.bare.isKept = true := (List.mem_filter.mp hn₀).2
  rw [hbare] at hkept
  exact hkept

/-- The edges of a node of a service graph are put together of edges to services. -/
theorem of_mem_nodes_toServiceGraph {n : Node ν} (hn : n ∈ g.nodes) :
    n.Tidy ∧ ∀ t ∈ n.targets, ∃ f, m.IsServiceEdge f ∧ f.target = t := by
  obtain ⟨ns, hns, hnodup, rfl⟩ := exists_of_toServiceGraph hid h
  rw [nodes_ofNodes hnodup] at hn
  obtain ⟨n₀, hn₀, cs, hcs, hmem⟩ := (mem_collect_iff hns).mp hn
  obtain ⟨-, edges, rfl, hedges⟩ | ⟨-, rfl⟩ := reduceNode_eq_ok hn₀ hcs
  · obtain rfl := List.mem_singleton.mp hmem
    refine ⟨Node.tidy_withEdges .., fun t ht => ?_⟩
    obtain ⟨f, hf, rfl⟩ := List.mem_map.mp (Node.mem_targets_withEdges.mp ht)
    exact ⟨f, hedges f hf, rfl⟩
  · cases hmem

/-- Every service is kept, so what leads to a service still does. -/
theorem leadsToService_toServiceGraph {e : Edge ν} (he : m.LeadsToService e) :
    g.LeadsToService e := by
  obtain ⟨child, hchild, hkind⟩ := he
  have hkept : child ∈ m.nodes.filter Node.isKept :=
    List.mem_filter.mpr ⟨mem_nodes_iff.mpr ⟨_, hchild⟩, by simp [Node.isKept, hkind]⟩
  have hkey : e.dest ∈ g.keys := by
    rw [keys_toServiceGraph hid h, ← hid hchild]
    exact List.mem_map_of_mem hkept
  obtain ⟨n', hn'⟩ := Option.isSome_iff_exists.mp (ArrivalMap.mem_keys_iff.mp hkey)
  obtain ⟨n, edges, hn, rfl⟩ := exists_of_get?_toServiceGraph hid h hn'
  obtain rfl := Option.some.inj (hchild.symm.trans hn)
  exact ⟨_, hn', hkind⟩

/-- **Service graphs are well formed** if all nodes of the map stand under their ids. -/
theorem wellFormed_toServiceGraph : g.WellFormed where
  id_eq hk := id_of_get?_toServiceGraph hid h hk
  tidy hk := (of_mem_nodes_toServiceGraph hid h (mem_nodes_iff.mpr ⟨_, hk⟩)).1
  dest_mem hk t ht := by
    obtain ⟨f, hf, rfl⟩ := (of_mem_nodes_toServiceGraph hid h (mem_nodes_iff.mpr ⟨_, hk⟩)).2 t ht
    obtain ⟨child, hchild, -⟩ := leadsToService_toServiceGraph hid h hf.leadsToService
    exact ArrivalMap.contains_of_get? hchild

end

end TrafficMap

end MeshTraffic
