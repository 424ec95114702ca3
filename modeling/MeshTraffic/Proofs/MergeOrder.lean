import MeshTraffic.Proofs.MergeLaws
import MeshTraffic.Proofs.Survivor

/-!
# The order in which namespaces are merged

In whatever order the maps of some namespaces are merged, the graph has the same nodes and the same
edges, and what the map of a namespace says of the nodes of that namespace stands.

* `TrafficMap.contains_mergeAll`, `TrafficMap.mem_targets_mergeAll`: the ids and the targets of the
  graph are those of all maps.
* `Node.Extends`: the node is one instance as it is, with adopted edges after its own.
* `TrafficMap.exists_extends_mergeAll`: a node extends the instance of its own namespace, wherever
  that namespace's map stands in the list.
* `TrafficMap.SameShape`, `TrafficMap.KeepsOwn`, `TrafficMap.mergeAll_perm`: so no order of the maps
  makes a difference to that.
-/

namespace MeshTraffic

variable {ν : Type}

namespace Node

/-- The node is the instance `own` but for edges that it has adopted, to other targets. -/
def Extends (n own : Node ν) : Prop :=
  ∃ adopted, n = { own with edges := own.edges ++ adopted } ∧ ∀ e ∈ adopted, e.target ∉ own.targets

theorem extends_adoptAll (own : Node ν) (edges : List (Edge ν)) :
    (own.adoptAll edges).Extends own := by
  obtain ⟨edges', heq⟩ := own.adoptAll_eq edges
  obtain ⟨adopted, hedges, hadopted⟩ := own.edges_adoptAll edges
  refine ⟨adopted, ?_, fun e he => (hadopted e he).1⟩
  rw [← hedges, heq]

theorem Extends.trans {n₁ n₂ n₃ : Node ν} (h : n₁.Extends n₂) (h' : n₂.Extends n₃) :
    n₁.Extends n₃ := by
  obtain ⟨later, rfl, hlater⟩ := h
  obtain ⟨adopted, rfl, hadopted⟩ := h'
  refine ⟨adopted ++ later, by rw [List.append_assoc], ?_⟩
  refine List.forall_mem_append.mpr ⟨hadopted, fun e he hmem => hlater e he ?_⟩
  rw [targets, List.map_append]
  exact List.mem_append_left _ hmem

/-- The instance of the namespace whose map is merged stays as it is. -/
theorem extends_meet_of_own {ns : String} {n : Node ν} (hown : n.labels.ns = ns)
    (existing : Node ν) : (existing.meet ns n).Extends n := by
  have hmeet : existing.meet ns n = n.adoptAll existing.edges := if_pos hown
  exact hmeet ▸ n.extends_adoptAll existing.edges

/-- The map of another namespace only adds edges. -/
theorem Extends.meet_of_not_own {ns : String} {existing own n : Node ν} (h : existing.Extends own)
    (hown : n.labels.ns ≠ ns) : (existing.meet ns n).Extends own := by
  have hmeet : existing.meet ns n = existing.adoptAll n.edges := if_neg hown
  exact hmeet ▸ (existing.extends_adoptAll n.edges).trans h

end Node

namespace TrafficMap

/-! ## What all orders have in common -/

/-- The graph has exactly the ids of the maps. -/
theorem contains_mergeAll {maps : List (String × TrafficMap ν)} (h : ∀ e ∈ maps, e.2.WellFormed)
    (id : NodeId) :
    (mergeAll maps).contains id = true ↔ ∃ e ∈ maps, e.2.contains id = true := by
  induction maps using List.reverseRecOn with
  | nil => simp [mergeAll, ArrivalMap.contains, EmptyCollection.emptyCollection]
  | append_singleton maps e ih =>
    obtain ⟨hmaps, he⟩ := List.forall_mem_append.mp h
    rw [mergeAll_append, contains_merge (he e (by simp)).id_eq, ih hmaps]
    simp [or_and_right, exists_or]

/-- A node of the graph has exactly the targets of its instances. -/
theorem mem_targets_mergeAll {maps : List (String × TrafficMap ν)}
    (h : ∀ e ∈ maps, e.2.WellFormed) {id : NodeId} {n : Node ν}
    (hn : (mergeAll maps).get? id = some n) (t : NodeId × Protocol) :
    t ∈ n.targets ↔ ∃ e ∈ maps, ∃ n', e.2.get? id = some n' ∧ t ∈ n'.targets := by
  obtain ⟨s, hs⟩ := (isMergeOf_of_mergeAll h id).1 n hn
  rw [hs.mem_targets_iff]
  constructor
  · rintro ⟨i, hi, ht⟩
    obtain ⟨e, he, -, hget⟩ := mem_instances_iff.mp hi
    exact ⟨e, he, i.2, hget, ht⟩
  · rintro ⟨e, he, n', hn', ht⟩
    exact ⟨(e.1, n'), mem_instances_iff.mpr ⟨e, he, rfl, hn'⟩, ht⟩

/-! ## Nodes of merged namespaces -/

/-- All instances of a node lie in one namespace. -/
def AgreeOnNamespaces (maps : List (String × TrafficMap ν)) : Prop :=
  ∀ e ∈ maps, ∀ e' ∈ maps, ∀ n ∈ e.2.nodes, ∀ n' ∈ e'.2.nodes,
    n.id = n'.id → n.labels.ns = n'.labels.ns

instance (maps : List (String × TrafficMap ν)) : Decidable (AgreeOnNamespaces maps) :=
  inferInstanceAs (Decidable (∀ e ∈ maps, ∀ e' ∈ maps, ∀ n ∈ e.2.nodes, ∀ n' ∈ e'.2.nodes,
    n.id = n'.id → n.labels.ns = n'.labels.ns))

/-- **A node extends the instance of its own namespace**, wherever that namespace's map stands. -/
theorem exists_extends_mergeAll {maps : List (String × TrafficMap ν)}
    (hwf : ∀ e ∈ maps, e.2.WellFormed) (hnodup : (maps.map Prod.fst).Nodup)
    (hagree : AgreeOnNamespaces maps) {e : String × TrafficMap ν} (he : e ∈ maps) {id : NodeId}
    {own : Node ν} (hget : e.2.get? id = some own) (hown : own.labels.ns = e.1) :
    ∃ n, (mergeAll maps).get? id = some n ∧ n.Extends own := by
  induction maps using List.reverseRecOn with
  | nil => cases he
  | append_singleton maps last ih =>
    obtain ⟨hmaps, hlast⟩ := List.forall_mem_append.mp hwf
    have hwfLast : last.2.WellFormed := hlast last (by simp)
    rw [List.map_append, List.map_singleton, List.nodup_append] at hnodup
    obtain ⟨hnodup, -, hnew⟩ := hnodup
    rw [mergeAll_append, get?_merge hwfLast.id_eq]
    rcases List.mem_append.mp he with he | he
    · -- the node is there already, and the last map is that of another namespace
      have hagree' : AgreeOnNamespaces maps := fun e₁ h₁ e₂ h₂ =>
        hagree e₁ (List.mem_append_left _ h₁) e₂ (List.mem_append_left _ h₂)
      obtain ⟨existing, hexisting, hext⟩ := ih hmaps hnodup hagree' he
      rw [hexisting]
      cases hn : last.2.get? id with
      | none => exact ⟨existing, rfl, hext⟩
      | some n =>
        have hid : own.id = n.id := ((hmaps e he).id_eq hget).trans (hwfLast.id_eq hn).symm
        have hsame : own.labels.ns = n.labels.ns :=
          hagree e (List.mem_append_left _ he) last (by simp) own (mem_nodes_iff.mpr ⟨id, hget⟩) n
            (mem_nodes_iff.mpr ⟨id, hn⟩) hid
        have hne : e.1 ≠ last.1 := hnew e.1 (List.mem_map_of_mem he) last.1 (by simp)
        exact ⟨existing.meet last.1 n, rfl, hext.meet_of_not_own (by rwa [← hsame, hown])⟩
    · obtain rfl := List.mem_singleton.mp he
      rw [hget]
      cases (mergeAll maps).get? id with
      | none => exact ⟨own, rfl, [], by simp⟩
      | some existing => exact ⟨existing.meet e.1 own, rfl, Node.extends_meet_of_own hown existing⟩

/-! ## Any order -/

/-- The maps have the same ids, and under each the same targets. -/
structure SameShape (m m' : TrafficMap ν) : Prop where
  contains_iff : ∀ id, m.contains id = true ↔ m'.contains id = true
  mem_targets_iff : ∀ {id n n'}, m.get? id = some n → m'.get? id = some n' →
    ∀ t, t ∈ n.targets ↔ t ∈ n'.targets

/-- What the map of a namespace says of the nodes of that namespace stands in the graph. -/
def KeepsOwn (maps : List (String × TrafficMap ν)) (m : TrafficMap ν) : Prop :=
  ∀ e ∈ maps, ∀ {id own}, e.2.get? id = some own → own.labels.ns = e.1 →
    ∃ n, m.get? id = some n ∧ n.Extends own

/-- **The order of merging does not decide what the nodes of a namespace say.** In all orders the
graph has the same ids and targets, and keeps what the map of each namespace says of its nodes. -/
theorem mergeAll_perm {maps maps' : List (String × TrafficMap ν)} (hperm : maps'.Perm maps)
    (hwf : ∀ e ∈ maps, e.2.WellFormed) (hnodup : (maps.map Prod.fst).Nodup)
    (hagree : AgreeOnNamespaces maps) :
    SameShape (mergeAll maps') (mergeAll maps) ∧ KeepsOwn maps (mergeAll maps') := by
  have hmem : ∀ e, e ∈ maps' ↔ e ∈ maps := fun e => hperm.mem_iff
  have hwf' : ∀ e ∈ maps', e.2.WellFormed := fun e he => hwf e ((hmem e).mp he)
  refine ⟨⟨fun id => ?_, fun {id n' n} hn' hn t => ?_⟩, fun e he id own hget hown => ?_⟩
  · simp only [contains_mergeAll hwf, contains_mergeAll hwf', hmem]
  · simp only [mem_targets_mergeAll hwf hn, mem_targets_mergeAll hwf' hn', hmem]
  · have hagree' : AgreeOnNamespaces maps' := fun e₁ h₁ e₂ h₂ =>
      hagree e₁ ((hmem e₁).mp h₁) e₂ ((hmem e₂).mp h₂)
    exact exists_extends_mergeAll hwf' ((hperm.map Prod.fst).nodup_iff.mpr hnodup) hagree'
      ((hmem e).mpr he) hget hown

/-- Whichever of two namespaces comes first, `x` has the edge that `a` saw before the adopted one,
and `y` the one that `b` saw. -/
theorem mergeAll_perm_seenByBoth :
    [("b", seenByB), ("a", seenByA)].Perm [("a", seenByA), ("b", seenByB)] ∧
      (∀ e ∈ [("a", seenByA), ("b", seenByB)], e.2.WellFormed) ∧
      ([("a", seenByA), ("b", seenByB)].map Prod.fst).Nodup ∧
      AgreeOnNamespaces [("a", seenByA), ("b", seenByB)] ∧
      listedEdges (mergeAll [("a", seenByA), ("b", seenByB)]) =
        [("unknown", "wl_a_x", 5), ("wl_a_x", "wl_b_y", 3), ("wl_a_x", "wl_b_z", 7),
          ("wl_b_y", "wl_b_z", 2), ("wl_b_y", "wl_a_x", 1)] ∧
      listedEdges (mergeAll [("b", seenByB), ("a", seenByA)]) =
        [("wl_a_x", "wl_b_y", 3), ("wl_a_x", "wl_b_z", 7), ("wl_b_y", "wl_b_z", 2),
          ("wl_b_y", "wl_a_x", 1), ("unknown", "wl_a_x", 5)] ∧
      SameShape (mergeAll [("b", seenByB), ("a", seenByA)])
        (mergeAll [("a", seenByA), ("b", seenByB)]) ∧
      KeepsOwn [("a", seenByA), ("b", seenByB)] (mergeAll [("b", seenByB), ("a", seenByA)]) := by
  have hperm : [("b", seenByB), ("a", seenByA)].Perm [("a", seenByA), ("b", seenByB)] := .swap ..
  have hwf : ∀ e ∈ [("a", seenByA), ("b", seenByB)], e.2.WellFormed := by
    simp [wellFormed_seenByA, wellFormed_seenByB]
  have hnodup : ([("a", seenByA), ("b", seenByB)].map Prod.fst).Nodup := by decide
  have hagree : AgreeOnNamespaces [("a", seenByA), ("b", seenByB)] := by decide +kernel
  exact ⟨hperm, hwf, hnodup, hagree, by decide +kernel, by decide +kernel,
    mergeAll_perm hperm hwf hnodup hagree⟩

end TrafficMap

end MeshTraffic
