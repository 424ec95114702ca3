import MeshTraffic.Proofs.KeptNodes

/-!
# Service graphs of service graphs

All edges of a service graph lead to services and no two of them are parallel, so making a service
graph of it again puts every edge back where it was. Only the mean response times begin anew.

* `Edge.LooksLike`, `Node.LooksLike`, `TrafficMap.LooksLike`: equal but for the totals and counts of
  the response times.
* `Edge.looksLike_begin`: an edge looks the same when its mean begins anew.
* `Node.withEdges_edges`: a node whose edges are not parallel keeps them as they come.
* `TrafficMap.IsReduced`: what is kept as it is. `TrafficMap.isReduced_toServiceGraph`,
  `TrafficMap.IsReduced.toServiceGraph_eq`.
* `TrafficMap.exists_toServiceGraph_looksLike`: a service graph made of a service graph looks like
  it.
-/

namespace MeshTraffic

variable {ν : Type}

/-- A division by one leaves the quantities as they are. -/
class DivisibleQuantity (ν : Type) [Quantity ν] : Prop where
  div_one : ∀ x : ν, x / 1 = x

instance : DivisibleQuantity Rat where
  div_one x := by
    show x / 1 = x
    rw [Rat.div_def, Rat.inv_eq_of_mul_eq_one (Rat.mul_one 1), Rat.mul_one]

/-! ## Equal looks -/

/-- The edges are equal but for the total and the count of the response times. -/
structure Edge.LooksLike (e f : Edge ν) : Prop where
  source_eq : f.source = e.source
  dest_eq : f.dest = e.dest
  protocol_eq : f.protocol = e.protocol
  get?_eq : ∀ key, key ≠ Key.total Key.responseTime → key ≠ Key.count Key.responseTime →
    f.metadata.get? key = e.metadata.get? key

/-- The nodes are equal but for edges that only look alike. -/
structure Node.LooksLike (n n' : Node ν) : Prop where
  bare_eq : n'.bare = n.bare
  edges : List.Forall₂ Edge.LooksLike n.edges n'.edges

/-- Nodes that look alike stand under the same ids in the same order. -/
def TrafficMap.LooksLike (m m' : TrafficMap ν) : Prop :=
  List.Forall₂ (fun e e' => e'.1 = e.1 ∧ e.2.LooksLike e'.2) m.entries m'.entries

/-! ## Edges that begin anew -/

namespace Metadata

theorem get?_of_number? {m : Metadata ν} {key : String} {x : ν} (h : m.number? key = some x) :
    m.get? key = some (.number x) := by
  obtain ⟨a, ha, hx⟩ := Option.bind_eq_some_iff.mp h
  cases a with
  | number y =>
    cases hx
    exact ha
  | flag b => cases hx
  | names s => cases hx

variable [Quantity ν]

/-- A mean of one value is this value. -/
theorem get?_restartResponseTime_self [LawfulQuantity ν] [DivisibleQuantity ν] (m : Metadata ν) :
    m.restartResponseTime.get? Key.responseTime = m.get? Key.responseTime := by
  unfold restartResponseTime
  split
  · next x hx =>
    have hget : m.get? Key.responseTime = some (.number x) := get?_of_number? hx
    rw [get?_average, if_pos rfl, hget, numberD_of_get?_eq_none (by simp),
      numberD_of_get?_eq_none (by simp), zero_add, zero_add, DivisibleQuantity.div_one]
  · rfl

end Metadata

variable [Quantity ν]

/-- An edge looks the same when its mean begins anew. -/
theorem Edge.looksLike_begin [LawfulQuantity ν] [DivisibleQuantity ν] (e : Edge ν) :
    e.LooksLike (e.begin e.source) where
  source_eq := rfl
  dest_eq := rfl
  protocol_eq := rfl
  get?_eq key htotal hcount := by
    by_cases hkey : key = Key.responseTime
    · exact hkey ▸ e.metadata.get?_restartResponseTime_self
    · exact e.metadata.get?_restartResponseTime (by simp [Key.mean, hkey, htotal, hcount])

namespace Node

theorem absorbInto_of_not_mem {source : NodeId} {f : Edge ν} {l : List (Edge ν)}
    (h : f.target ∉ l.map Edge.target) : absorbInto source f l = l ++ [f.begin source] := by
  induction l with
  | nil => rfl
  | cons e l ih =>
    simp only [List.map_cons, List.mem_cons, not_or] at h
    have hparallel : ¬ e.isParallel f = true := fun hp => h.1 (Edge.isParallel_iff.mp hp).symm
    rw [absorbInto, if_neg hparallel, ih h.2, List.cons_append]

/-- Edges that are not parallel to others are taken in as they come. -/
theorem foldl_absorb_of_nodup (n : Node ν) (earlier : List (Edge ν)) {edges : List (Edge ν)}
    (h : ((earlier ++ edges).map Edge.target).Nodup) :
    edges.foldl absorb { n with edges := earlier } =
      { n with edges := earlier ++ edges.map (Edge.begin n.id) } := by
  induction edges generalizing earlier with
  | nil => simp
  | cons e edges ih =>
    have htarget : e.target ∉ earlier.map Edge.target := by
      rw [List.map_append, List.map_cons] at h
      exact fun hmem => List.disjoint_of_nodup_append h hmem List.mem_cons_self
    have habsorb : ({ n with edges := earlier } : Node ν).absorb e =
        { n with edges := earlier ++ [e.begin n.id] } :=
      congrArg (fun l => ({ n with edges := l } : Node ν)) (absorbInto_of_not_mem htarget)
    rw [List.foldl_cons, habsorb, ih, List.append_assoc, List.singleton_append, List.map_cons]
    rw [List.append_assoc, List.singleton_append, List.map_append, List.map_cons]
    rwa [List.map_append, List.map_cons] at h

theorem withEdges_edges {n : Node ν} (h : n.Tidy) :
    n.withEdges n.edges = { n with edges := n.edges.map (Edge.begin n.id) } :=
  foldl_absorb_of_nodup n [] h.nodup_targets

/-- A tidy node looks the same when its own edges are put together. -/
theorem Tidy.looksLike_withEdges [LawfulQuantity ν] [DivisibleQuantity ν] {n : Node ν}
    (h : n.Tidy) : n.LooksLike (n.withEdges n.edges) where
  bare_eq := n.bare_withEdges n.edges
  edges := by
    rw [withEdges_edges h, List.forall₂_map_right_iff, List.forall₂_same]
    exact fun e he => h.source_eq e he ▸ e.looksLike_begin

end Node

namespace TrafficMap

/-! ## Reduced maps -/

section

variable {m : TrafficMap ν} {e : Edge ν}

omit [Quantity ν] in
theorem IsServiceEdge.summable_eq (h : m.IsServiceEdge e) : e.summable = .ok [e] := by
  obtain hp | hp : e.protocol = .http ∨ e.protocol = .tcp := by simpa using h.protocol_mem
  all_goals simp [Edge.summable, hp]

omit [Quantity ν] in
/-- An edge to a service is carried over by itself. -/
theorem IsServiceEdge.carried_eq (h : m.IsServiceEdge e) :
    m.carriedByService e = .ok [e] ∧ m.carriedByRoot e = .ok [e] := by
  obtain ⟨child, hchild, hkind⟩ := h.leadsToService
  have hnode : m.node e.dest = .ok child := node_eq_ok_iff.mpr hchild
  simp only [carriedByService, carriedByRoot, hnode, bind, Except.bind, hkind, h.summable_eq,
    and_self]

/-- The map is as a service graph is. -/
structure IsReduced (m : TrafficMap ν) : Prop where
  id_eq : ∀ {k n}, m.get? k = some n → n.id = k
  isKept : ∀ n ∈ m.nodes, n.isKept = true
  tidy : ∀ n ∈ m.nodes, n.Tidy
  isServiceEdge : ∀ e ∈ m.edges, m.IsServiceEdge e

theorem isReduced_toServiceGraph {g : TrafficMap ν} (hid : ∀ {k n}, m.get? k = some n → n.id = k)
    (h : m.toServiceGraph = .ok g) : g.IsReduced where
  id_eq := id_of_get?_toServiceGraph hid h
  isKept _ := isKept_of_mem_nodes_toServiceGraph hid h
  tidy _ hn := (of_mem_nodes_toServiceGraph hid h hn).1
  isServiceEdge e he := by
    obtain ⟨f, hf, htarget⟩ := exists_isServiceEdge hid h he
    obtain ⟨hdest, hprotocol⟩ := Prod.mk.inj htarget
    obtain ⟨child, hchild, hkind⟩ := leadsToService_toServiceGraph hid h hf.leadsToService
    exact ⟨he, ⟨child, hdest ▸ hchild, hkind⟩, hprotocol ▸ hf.protocol_mem⟩

namespace IsReduced

/-- Every node keeps its own edges. -/
theorem reduceNode_eq (h : m.IsReduced) {n : Node ν} (hn : n ∈ m.nodes) :
    m.reduceNode n = .ok [n.withEdges n.edges] := by
  have hcarried : ∀ e ∈ n.edges, m.carriedByService e = .ok [e] ∧ m.carriedByRoot e = .ok [e] :=
    fun e he => (h.isServiceEdge e (mem_edges_of_mem_nodes hn he)).carried_eq
  have hservice : collect m.carriedByService n.edges = .ok n.edges := by
    simpa using collect_of_singletons fun e he => (hcarried e he).1
  have hroot : collect m.carriedByRoot n.edges = .ok n.edges := by
    simpa using collect_of_singletons fun e he => (hcarried e he).2
  have hkept := h.isKept n hn
  rw [reduceNode, hservice, hroot]
  split
  · rfl
  · next hkind =>
    rw [if_pos (by simpa [Node.isKept, hkind] using hkept)]
    rfl

theorem toServiceGraph_eq (h : m.IsReduced) :
    m.toServiceGraph = .ok (ofNodes (m.nodes.map fun n => n.withEdges n.edges)) := by
  rw [toServiceGraph, collect_of_singletons fun n hn => h.reduceNode_eq hn]
  rfl

/-- **What is reduced looks the same** when it is reduced once more. -/
theorem looksLike [LawfulQuantity ν] [DivisibleQuantity ν] (h : m.IsReduced) :
    m.LooksLike (ofNodes (m.nodes.map fun n => n.withEdges n.edges)) := by
  have hids : (m.nodes.map fun n => n.withEdges n.edges).map Node.id = m.nodes.map Node.id := by
    simp [Node.id_withEdges]
  have hnodup : (m.nodes.map Node.id).Nodup := map_id_nodes h.id_eq ▸ m.nodup_keys
  rw [LooksLike, entries_ofNodes (hids ▸ hnodup), entries_eq_map_nodes h.id_eq, List.map_map]
  simp only [List.forall₂_map_left_iff, List.forall₂_map_right_iff, List.forall₂_same]
  exact fun n hn => ⟨n.id_withEdges n.edges, (h.tidy n hn).looksLike_withEdges⟩

end IsReduced

end

/-- **A service graph of a service graph** looks like it. -/
theorem exists_toServiceGraph_looksLike [LawfulQuantity ν] [DivisibleQuantity ν]
    {m g : TrafficMap ν} (hid : ∀ {k n}, m.get? k = some n → n.id = k)
    (h : m.toServiceGraph = .ok g) :
    ∃ g', g.toServiceGraph = .ok g' ∧ g.LooksLike g' :=
  have hreduced := isReduced_toServiceGraph hid h
  ⟨_, hreduced.toServiceGraph_eq, hreduced.looksLike⟩

/-- The mean of three response times becomes a mean of itself alone. -/
theorem exists_toServiceGraph_looksLike_threeWays :
    LawfulQuantity Rat ∧ DivisibleQuantity Rat ∧ ∃ g g' : TrafficMap Rat,
      (∀ {k n}, threeWays.get? k = some n → n.id = k) ∧ threeWays.toServiceGraph = .ok g ∧
      g.toServiceGraph = .ok g' ∧ g.LooksLike g' ∧
      g.edges.map (fun e => (Key.mean Key.responseTime).map e.metadata.numberD) = [[5, 15, 3]] ∧
      g'.edges.map (fun e => (Key.mean Key.responseTime).map e.metadata.numberD) = [[5, 5, 1]] := by
  have hm : threeWays.WellFormed := wellFormed_ofNodes (by decide +kernel) (by decide +kernel)
  obtain ⟨g, -, -, hg, -⟩ := exists_threeWays
  obtain ⟨g', hg', hlooks⟩ := exists_toServiceGraph_looksLike hm.id_eq hg
  have hmeans : (threeWays.toServiceGraph.toOption.bind fun g => g.toServiceGraph.toOption.bind
      fun g' => some ([g, g'].map fun g : TrafficMap Rat =>
        g.edges.map fun e => (Key.mean Key.responseTime).map e.metadata.numberD)) =
          some [[[5, 15, 3]], [[5, 5, 1]]] := by
    decide +kernel
  simp only [hg, hg', Except.toOption, Option.bind_some, List.map_cons, List.map_nil,
    Option.some.injEq, List.cons.injEq, and_true] at hmeans
  exact ⟨inferInstance, inferInstance, g, g', hm.id_eq, hg, hg', hlooks, hmeans⟩

end TrafficMap

end MeshTraffic
