import Mathlib.Data.List.Nodup
import MeshTraffic.Proofs.Arrival

/-!
# Well-formed maps

* `Node.Tidy`: a node owns its edges, and no two of them lead to one node over one protocol.
* `TrafficMap.WellFormed`: every node is tidy and stands under its own id, and every edge leads to
  a node of the map.
* `TrafficMap.WellFormedWithin K`: the same, but edges may lead to any id of `K`. While a map is
  being built, an edge is drawn before the node that it leads to is there.
* `TrafficMap.validate_eq_ok_iff`: what `validate` accepts. It does not look at the keys of nodes.
-/

namespace MeshTraffic

variable {ν : Type}

/-! ## Targets of edges -/

/-- Where an edge leads and what it carries; a node has at most one edge for each. -/
def Edge.target (e : Edge ν) : NodeId × Protocol := (e.dest, e.protocol)

theorem Edge.leadsTo_iff {e : Edge ν} {dest : NodeId} {protocol : Protocol} :
    e.leadsTo dest protocol = true ↔ e.target = (dest, protocol) := by
  simp [leadsTo, target]

theorem Edge.isParallel_iff {e f : Edge ν} : e.isParallel f = true ↔ e.target = f.target :=
  Edge.leadsTo_iff

namespace Node

/-- The targets of the node's edges, in their order. -/
def targets (n : Node ν) : List (NodeId × Protocol) := n.edges.map Edge.target

theorem hasParallel_iff {n : Node ν} {e : Edge ν} :
    n.hasParallel e = true ↔ e.target ∈ n.targets := by
  simp [hasParallel, targets, Edge.isParallel_iff]

/-- The targets with one more, unless it is one of them. -/
def withTarget (t : NodeId × Protocol) (l : List (NodeId × Protocol)) :
    List (NodeId × Protocol) :=
  if t ∈ l then l else l ++ [t]

theorem nodup_withTarget {t : NodeId × Protocol} {l : List (NodeId × Protocol)} (h : l.Nodup) :
    (withTarget t l).Nodup := by
  unfold withTarget
  split
  · exact h
  · next ht => simpa using List.Nodup.concat ht h

theorem mem_withTarget {s t : NodeId × Protocol} {l : List (NodeId × Protocol)} :
    s ∈ withTarget t l ↔ s = t ∨ s ∈ l := by
  unfold withTarget
  split
  · next ht => exact ⟨.inr, by rintro (rfl | h) <;> assumption⟩
  · simp [or_comm]

theorem targets_modifyFirst {f : Edge ν → Edge ν} (hf : ∀ e, (f e).target = e.target)
    (source dest : NodeId) (protocol : Protocol) (l : List (Edge ν)) :
    (modifyFirst source dest protocol f l).map Edge.target =
      withTarget (dest, protocol) (l.map Edge.target) := by
  unfold withTarget
  induction l with
  | nil =>
    rw [modifyFirst, List.map_singleton, hf]
    simp [Edge.target]
  | cons e l ih =>
    rw [modifyFirst]
    split
    · next h => simp [hf, Edge.leadsTo_iff.mp h]
    · next h =>
      have hne : (dest, protocol) ≠ e.target := fun heq => h (Edge.leadsTo_iff.mpr heq.symm)
      rw [List.map_cons, ih, List.map_cons]
      simp only [List.mem_cons, hne, false_or]
      split <;> simp

theorem sources_modifyFirst {f : Edge ν → Edge ν} (hf : ∀ e, (f e).source = e.source)
    {source dest : NodeId} {protocol : Protocol} {l : List (Edge ν)}
    (h : ∀ e ∈ l, e.source = source) :
    ∀ e ∈ modifyFirst source dest protocol f l, e.source = source := by
  induction l with
  | nil => simp [modifyFirst, hf]
  | cons e l ih =>
    obtain ⟨he, hl⟩ := List.forall_mem_cons.mp h
    rw [modifyFirst]
    split
    · exact List.forall_mem_cons.mpr ⟨(hf e).trans he, hl⟩
    · exact List.forall_mem_cons.mpr ⟨he, ih hl⟩

theorem targets_adopt (n : Node ν) (e : Edge ν) :
    (n.adopt e).targets = withTarget e.target n.targets := by
  unfold adopt withTarget
  by_cases h : n.hasParallel e = true
  · simp [h, hasParallel_iff.mp h]
  · rw [if_neg h, if_neg (mt hasParallel_iff.mpr h)]
    simp [targets, Edge.target]

/-! ## Tidy nodes -/

/-- The node owns its edges, and each has a target of its own. -/
structure Tidy (n : Node ν) : Prop where
  source_eq : ∀ e ∈ n.edges, e.source = n.id
  nodup_targets : n.targets.Nodup

theorem Tidy.of_no_edges {n : Node ν} (h : n.edges = []) : n.Tidy where
  source_eq := by simp [h]
  nodup_targets := by simp [targets, h]

/-- Only a node's id and where its edges lead decide whether it is tidy. -/
theorem Tidy.congr {n n' : Node ν} (h : n.Tidy) (hid : n'.id = n.id)
    (hsource : n'.edges.map Edge.source = n.edges.map Edge.source)
    (htargets : n'.targets = n.targets) : n'.Tidy where
  source_eq e he := by
    have hmem : e.source ∈ n.edges.map Edge.source := hsource ▸ List.mem_map_of_mem he
    obtain ⟨e', he', heq⟩ := List.mem_map.mp hmem
    rw [hid, ← heq, h.source_eq e' he']
  nodup_targets := htargets ▸ h.nodup_targets

theorem Tidy.modifyEdge {n : Node ν} (h : n.Tidy) {f : Edge ν → Edge ν}
    (hsource : ∀ e, (f e).source = e.source) (htarget : ∀ e, (f e).target = e.target)
    (dest : NodeId) (protocol : Protocol) : (n.modifyEdge dest protocol f).Tidy where
  source_eq := sources_modifyFirst hsource h.source_eq
  nodup_targets := by
    rw [targets, Node.modifyEdge, targets_modifyFirst htarget]
    exact nodup_withTarget h.nodup_targets

/-- In a tidy node, an edge is found where it leads. -/
theorem Tidy.edge?_eq_some_iff {n : Node ν} (h : n.Tidy) {e : Edge ν} {dest : NodeId}
    {protocol : Protocol} :
    n.edge? dest protocol = some e ↔ e ∈ n.edges ∧ e.target = (dest, protocol) := by
  have hd : (n.edges.map Edge.target).Nodup := h.nodup_targets
  unfold edge?
  generalize n.edges = l at hd
  induction l with
  | nil => simp
  | cons a l ih =>
    obtain ⟨ha, hl⟩ := List.nodup_cons.mp hd
    rw [List.find?_cons]
    by_cases hlead : a.leadsTo dest protocol = true
    · have hat := Edge.leadsTo_iff.mp hlead
      simp only [hlead, Option.some.injEq, List.mem_cons]
      constructor
      · rintro rfl
        exact ⟨.inl rfl, hat⟩
      · rintro ⟨rfl | he, het⟩
        · rfl
        · exact absurd (hat ▸ het ▸ List.mem_map_of_mem he) ha
    · have hat : a.target ≠ (dest, protocol) := fun heq => hlead (Edge.leadsTo_iff.mpr heq)
      simp only [hlead, ih hl, List.mem_cons]
      constructor
      · rintro ⟨he, het⟩
        exact ⟨.inr he, het⟩
      · rintro ⟨rfl | he, het⟩
        · exact absurd het hat
        · exact ⟨he, het⟩

theorem isSome_edge?_iff {n : Node ν} {dest : NodeId} {protocol : Protocol} :
    (n.edge? dest protocol).isSome = true ↔ (dest, protocol) ∈ n.targets := by
  simp [edge?, targets, Edge.leadsTo_iff]

/-- Adopting an edge changes nothing but the edges. -/
theorem adopt_eq (n : Node ν) (e : Edge ν) :
    ∃ edges, n.adopt e = { n with edges } := by
  unfold adopt
  split
  · exact ⟨n.edges, rfl⟩
  · exact ⟨_, rfl⟩

theorem adoptAll_eq (n : Node ν) (edges : List (Edge ν)) :
    ∃ edges', n.adoptAll edges = { n with edges := edges' } := by
  unfold adoptAll
  induction edges generalizing n with
  | nil => exact ⟨n.edges, rfl⟩
  | cons e edges ih =>
    obtain ⟨edges₁, h₁⟩ := n.adopt_eq e
    obtain ⟨edges₂, h₂⟩ := ih (n.adopt e)
    exact ⟨edges₂, by rw [List.foldl_cons, h₂, h₁]⟩

@[simp] theorem id_adoptAll (n : Node ν) (edges : List (Edge ν)) :
    (n.adoptAll edges).id = n.id := by
  obtain ⟨edges', h⟩ := n.adoptAll_eq edges
  rw [h]

@[simp] theorem labels_adoptAll (n : Node ν) (edges : List (Edge ν)) :
    (n.adoptAll edges).labels = n.labels := by
  obtain ⟨edges', h⟩ := n.adoptAll_eq edges
  rw [h]

@[simp] theorem metadata_adoptAll (n : Node ν) (edges : List (Edge ν)) :
    (n.adoptAll edges).metadata = n.metadata := by
  obtain ⟨edges', h⟩ := n.adoptAll_eq edges
  rw [h]

theorem Tidy.adopt {n : Node ν} (h : n.Tidy) (e : Edge ν) : (n.adopt e).Tidy where
  source_eq := by
    unfold Node.adopt
    split
    · exact h.source_eq
    · exact List.forall_mem_append.mpr ⟨h.source_eq, by simp⟩
  nodup_targets := targets_adopt n e ▸ nodup_withTarget h.nodup_targets

theorem Tidy.adoptAll {n : Node ν} (h : n.Tidy) (edges : List (Edge ν)) :
    (n.adoptAll edges).Tidy := by
  unfold Node.adoptAll
  induction edges generalizing n with
  | nil => exact h
  | cons e edges ih => exact ih (h.adopt e)

theorem mem_targets_adoptAll {n : Node ν} {edges : List (Edge ν)} {t : NodeId × Protocol} :
    t ∈ (n.adoptAll edges).targets ↔ t ∈ n.targets ∨ t ∈ edges.map Edge.target := by
  unfold adoptAll
  induction edges generalizing n with
  | nil => simp
  | cons e edges ih =>
    rw [List.foldl_cons, ih, targets_adopt, mem_withTarget, List.map_cons, List.mem_cons]
    grind

end Node

namespace TrafficMap

/-! ## Well-formed maps -/

/-- Every node is tidy and stands under its own id, and every edge leads to an id of `K`. -/
structure WellFormedWithin (K : NodeId → Prop) (m : TrafficMap ν) : Prop where
  id_eq : ∀ {k n}, m.get? k = some n → n.id = k
  tidy : ∀ {k n}, m.get? k = some n → n.Tidy
  dest_mem : ∀ {k n}, m.get? k = some n → ∀ t ∈ n.targets, K t.1

/-- Every node is tidy and stands under its own id, and every edge leads to a node of the map. -/
def WellFormed (m : TrafficMap ν) : Prop := m.WellFormedWithin fun id => m.contains id = true

namespace WellFormedWithin

variable {K L : NodeId → Prop} {m : TrafficMap ν}

theorem mono (h : m.WellFormedWithin K) (hKL : ∀ id, K id → L id) : m.WellFormedWithin L :=
  ⟨h.id_eq, h.tidy, fun hn t ht => hKL _ (h.dest_mem hn t ht)⟩

theorem source_eq (h : m.WellFormedWithin K) {k : NodeId} {n : Node ν} (hn : m.get? k = some n)
    {e : Edge ν} (he : e ∈ n.edges) : e.source = k :=
  ((h.tidy hn).source_eq e he).trans (h.id_eq hn)

/-- A node put under its own id keeps the map well formed. -/
theorem insertNode (h : m.WellFormedWithin K) {n : Node ν} (hn : n.Tidy)
    (hdest : ∀ t ∈ n.targets, K t.1) : (m.insertNode n).WellFormedWithin K where
  id_eq {k n'} hk := by
    rw [TrafficMap.insertNode, ArrivalMap.get?_insert] at hk
    split at hk
    · cases hk
      exact Eq.symm ‹_›
    · exact h.id_eq hk
  tidy {k n'} hk := by
    rw [TrafficMap.insertNode, ArrivalMap.get?_insert] at hk
    split at hk
    · cases hk
      exact hn
    · exact h.tidy hk
  dest_mem {k n'} hk := by
    rw [TrafficMap.insertNode, ArrivalMap.get?_insert] at hk
    split at hk
    · cases hk
      exact hdest
    · exact h.dest_mem hk

end WellFormedWithin

theorem wellFormed_empty : (∅ : TrafficMap ν).WellFormed where
  id_eq hk := by simp [EmptyCollection.emptyCollection] at hk
  tidy hk := by simp [EmptyCollection.emptyCollection] at hk
  dest_mem hk := by simp [EmptyCollection.emptyCollection] at hk

/-- A change of nodes that leaves their ids and where their edges lead keeps a map well formed. -/
theorem WellFormed.mapNodes {m : TrafficMap ν} (h : m.WellFormed) {f : Node ν → Node ν}
    (hid : ∀ n, (f n).id = n.id)
    (hsource : ∀ n, (f n).edges.map Edge.source = n.edges.map Edge.source)
    (htargets : ∀ n, (f n).targets = n.targets) : (m.mapNodes f).WellFormed := by
  have hget : ∀ {k n'}, (m.mapNodes f).get? k = some n' → ∃ n, m.get? k = some n ∧ f n = n' := by
    intro k n' hk
    simpa using hk
  refine ⟨fun {k n'} hk => ?_, fun {k n'} hk => ?_, fun {k n'} hk => ?_⟩ <;>
    obtain ⟨n, hn, rfl⟩ := hget hk
  · exact (hid n).trans (h.id_eq hn)
  · exact (h.tidy hn).congr (hid n) (hsource n) (htargets n)
  · rw [htargets]
    intro t ht
    simpa [ArrivalMap.contains] using h.dest_mem hn t ht

theorem WellFormed.mapMetadata {m : TrafficMap ν} (h : m.WellFormed) {f : Node ν → Node ν}
    (hid : ∀ n, (f n).id = n.id) (hedges : ∀ n, (f n).edges = n.edges) :
    (m.mapNodes f).WellFormed :=
  h.mapNodes hid (fun n => by rw [hedges]) fun n => by rw [Node.targets, hedges, Node.targets]

/-! ## What `validate` accepts -/

private theorem firstEdgeFault?_eq_none_iff {m : TrafficMap ν} {id : NodeId}
    {earlier rest : List (Edge ν)} (h : (earlier.map Edge.target).Nodup) :
    m.firstEdgeFault? id earlier rest = none ↔
      (∀ e ∈ rest, e.source = id ∧ m.contains e.dest = true) ∧
        ((earlier ++ rest).map Edge.target).Nodup := by
  induction rest generalizing earlier with
  | nil => simpa [firstEdgeFault?] using h
  | cons e rest ih =>
    have hsplit : ((earlier ++ e :: rest).map Edge.target) =
        ((earlier ++ [e]) ++ rest).map Edge.target := by simp
    rw [firstEdgeFault?, List.forall_mem_cons]
    by_cases hend : e.source = id ∧ m.contains e.dest = true
    · rw [if_neg (by simp [hend])]
      by_cases hpar : e.target ∈ earlier.map Edge.target
      · rw [if_pos (by simpa [Edge.isParallel_iff] using hpar)]
        simp only [reduceCtorEq, false_iff, not_and]
        intro _ hnodup
        rw [List.map_append, List.nodup_append] at hnodup
        exact hnodup.2.2 _ hpar e.target (by simp) rfl
      · rw [if_neg (by simpa [Edge.isParallel_iff] using hpar), hsplit, ih ?_]
        · simp [hend]
        · rw [List.map_append]
          simpa using List.Nodup.concat hpar h
    · rw [if_pos (by simp only [Bool.or_eq_true, decide_eq_true_eq]; grind)]
      simp [hend]

/-- `validate` accepts exactly the maps whose nodes are tidy and whose edges lead to keys. -/
theorem validate_eq_ok_iff {m : TrafficMap ν} :
    m.validate = .ok () ↔
      ∀ n ∈ m.nodes, n.Tidy ∧ ∀ t ∈ n.targets, m.contains t.1 = true := by
  have hnode : ∀ n : Node ν, m.firstEdgeFault? n.id [] n.edges = none ↔
      n.Tidy ∧ ∀ t ∈ n.targets, m.contains t.1 = true := by
    intro n
    rw [firstEdgeFault?_eq_none_iff (by simp)]
    constructor
    · rintro ⟨hends, hnodup⟩
      refine ⟨⟨fun e he => (hends e he).1, hnodup⟩, fun t ht => ?_⟩
      obtain ⟨e, he, rfl⟩ := List.mem_map.mp ht
      exact (hends e he).2
    · rintro ⟨htidy, hdest⟩
      exact ⟨fun e he => ⟨htidy.source_eq e he, hdest _ (List.mem_map_of_mem he)⟩,
        htidy.nodup_targets⟩
  unfold validate
  constructor
  · intro h n hn
    split at h
    · cases h
    · next hnone => exact (hnode n).mp (List.findSome?_eq_none_iff.mp hnone n hn)
  · intro h
    rw [List.findSome?_eq_none_iff.mpr fun n hn => (hnode n).mpr (h n hn)]

theorem WellFormed.validate_eq_ok {m : TrafficMap ν} (h : m.WellFormed) : m.validate = .ok () := by
  rw [validate_eq_ok_iff]
  intro n hn
  obtain ⟨k, hk⟩ := mem_nodes_iff.mp hn
  exact ⟨h.tidy hk, h.dest_mem hk⟩

/-- In the map of some nodes all stand under their ids, so `validate` leaves nothing out. -/
theorem wellFormed_ofNodes {l : List (Node ν)} (hnodup : (l.map Node.id).Nodup)
    (h : (ofNodes l).validate = .ok ()) : (ofNodes l).WellFormed where
  id_eq hk := ((get?_ofNodes_iff hnodup).mp hk).2
  tidy hk := (validate_eq_ok_iff.mp h _ (mem_nodes_iff.mpr ⟨_, hk⟩)).1
  dest_mem hk := (validate_eq_ok_iff.mp h _ (mem_nodes_iff.mpr ⟨_, hk⟩)).2

end TrafficMap

end MeshTraffic
