import Mathlib.Data.List.Induction
import MeshTraffic.Proofs.Accepted
import MeshTraffic.Proofs.Drawing
import MeshTraffic.Proofs.Merging

/-!
# Merging is a union, and merging again changes nothing

Taking the map of a namespace into the graph loses nothing and adds nothing up: every node and every
edge of either map stands in the result once, and where both have one, one of them is kept whole.

* `Node.edge?_adoptAll`: a node that adopts edges has its own, and besides them the adopted ones.
* `Node.adoptAll_adoptAll`, `Node.meet_meet`: what was adopted once is adopted in the same way
  again.
* `Node.Unites`: the node is one instance, with the edges of another that it does not have itself.
* `TrafficMap.IsUnion`, `TrafficMap.merge_isUnion`: the merged map is the union of the two maps.
* `TrafficMap.merge_merge`: merging a map again is a no-op.
-/

namespace MeshTraffic

variable {ν : Type}

namespace Node

/-! ## Adopted edges -/

/-- The source of an edge does not matter to the node that adopts it. -/
theorem adopt_withSource (n : Node ν) (e : Edge ν) (source : NodeId) :
    n.adopt { e with source } = n.adopt e := rfl

theorem adopt_of_mem_targets {n : Node ν} {e : Edge ν} (h : e.target ∈ n.targets) :
    n.adopt e = n :=
  if_pos (hasParallel_iff.mpr h)

/-- Edges to targets that the node has already change nothing. -/
theorem adoptAll_of_subset {n : Node ν} {edges : List (Edge ν)}
    (h : ∀ e ∈ edges, e.target ∈ n.targets) : n.adoptAll edges = n := by
  unfold adoptAll
  induction edges with
  | nil => rfl
  | cons e edges ih =>
    obtain ⟨he, hedges⟩ := List.forall_mem_cons.mp h
    rw [List.foldl_cons, adopt_of_mem_targets he, ih hedges]

theorem adoptAll_edges_self (n : Node ν) : n.adoptAll n.edges = n :=
  adoptAll_of_subset fun _ he => List.mem_map_of_mem he

theorem adoptAll_concat (n : Node ν) (edges : List (Edge ν)) (e : Edge ν) :
    n.adoptAll (edges ++ [e]) = (n.adoptAll edges).adopt e := List.foldl_append

/-- **What was adopted once is adopted in the same way again.** -/
theorem adoptAll_adoptAll (n : Node ν) (edges : List (Edge ν)) :
    n.adoptAll (n.adoptAll edges).edges = n.adoptAll edges := by
  induction edges using List.reverseRecOn with
  | nil => exact n.adoptAll_edges_self
  | append_singleton edges e ih =>
    rw [adoptAll_concat]
    by_cases h : e.target ∈ (n.adoptAll edges).targets
    · rw [adopt_of_mem_targets h, ih]
    · -- the edge went to the end, and goes there again once the others are back
      have hnew : (n.adoptAll edges).adopt e =
          { n.adoptAll edges with
            edges := (n.adoptAll edges).edges ++ [{ e with source := (n.adoptAll edges).id }] } :=
        if_neg (mt hasParallel_iff.mp h)
      rw [hnew, adoptAll_concat, ih, adopt_withSource, hnew]

theorem edge?_adopt (n : Node ν) (e : Edge ν) (dest : NodeId) (protocol : Protocol) :
    (n.adopt e).edge? dest protocol =
      (n.edge? dest protocol).or
        (if e.leadsTo dest protocol then some { e with source := n.id } else none) := by
  by_cases h : e.target ∈ n.targets
  · rw [adopt_of_mem_targets h]
    split
    · next hlead =>
      have hsome : (n.edge? dest protocol).isSome = true :=
        isSome_edge?_iff.mpr (Edge.leadsTo_iff.mp hlead ▸ h)
      rw [Option.or_of_isSome hsome]
    · rw [Option.or_none]
  · have hedges : (n.adopt e).edges = n.edges ++ [{ e with source := n.id }] := by
      rw [adopt, if_neg (mt hasParallel_iff.mp h)]
    have hlead : ({ e with source := n.id } : Edge ν).leadsTo dest protocol =
        e.leadsTo dest protocol := rfl
    rw [edge?, hedges, List.find?_append, List.find?_singleton, hlead, edge?]

/-- **A node that adopts edges has its own, and besides them the adopted ones.** -/
theorem edge?_adoptAll {n : Node ν} {edges : List (Edge ν)} (h : ∀ e ∈ edges, e.source = n.id)
    (dest : NodeId) (protocol : Protocol) :
    (n.adoptAll edges).edge? dest protocol =
      (n.edge? dest protocol).or (edges.find? (·.leadsTo dest protocol)) := by
  unfold adoptAll
  induction edges generalizing n with
  | nil => simp
  | cons e edges ih =>
    obtain ⟨he, hedges⟩ := List.forall_mem_cons.mp h
    have hid : (n.adopt e).id = n.id := id_adoptAll n [e]
    have hself : ({ e with source := n.id } : Edge ν) = e := by rw [← he]
    rw [List.foldl_cons, ih (hid ▸ hedges), edge?_adopt, hself, Option.or_assoc, List.find?_cons]
    by_cases hlead : e.leadsTo dest protocol = true <;> simp [hlead]

/-! ## A node of which both maps have an instance -/

/-- The node is the instance `kept`, which has adopted those edges of the instance `other` that it
does not have itself. -/
structure Unites (n kept other : Node ν) : Prop where
  /-- But for its edges it is that instance. -/
  eq_kept : n = { kept with edges := n.edges }
  mem_targets_iff : ∀ t, t ∈ n.targets ↔ t ∈ kept.targets ∨ t ∈ other.targets
  /-- Of two parallel edges the kept instance's stays. -/
  edge?_eq : ∀ dest protocol,
    n.edge? dest protocol = (kept.edge? dest protocol).or (other.edge? dest protocol)

theorem unites_adoptAll {kept other : Node ν} (h : ∀ e ∈ other.edges, e.source = kept.id) :
    (kept.adoptAll other.edges).Unites kept other where
  eq_kept := by
    obtain ⟨edges, heq⟩ := kept.adoptAll_eq other.edges
    rw [heq]
  mem_targets_iff _ := mem_targets_adoptAll
  edge?_eq := edge?_adoptAll h

/-- **Meeting the same instance again changes nothing**, whichever of the two stays. -/
theorem meet_meet (ns : String) (existing n : Node ν) :
    (existing.meet ns n).meet ns n = existing.meet ns n := by
  unfold meet
  split
  · exact n.adoptAll_adoptAll existing.edges
  · exact adoptAll_of_subset fun e he =>
      mem_targets_adoptAll.mpr (.inr (List.mem_map_of_mem he))

theorem meet_self (ns : String) (n : Node ν) : n.meet ns n = n := by
  unfold meet
  split <;> exact n.adoptAll_edges_self

end Node

namespace TrafficMap

/-! ## Which ids come in which order -/

theorem keys_mergeNode (ns : String) (m : TrafficMap ν) (n : Node ν) :
    (mergeNode ns m n).keys = if n.id ∈ m.keys then m.keys else m.keys ++ [n.id] := by
  cases hm : m.get? n.id with
  | none => rw [mergeNode_of_none hm, ArrivalMap.keys_insert]
  | some existing => rw [mergeNode_of_some hm, ArrivalMap.keys_insert]

private theorem keys_foldl_mergeNode (ns : String) {l : List (Node ν)} (m : TrafficMap ν)
    (hd : (l.map Node.id).Nodup) :
    (l.foldl (mergeNode ns) m).keys =
      m.keys ++ (l.map Node.id).filter fun id => id ∉ m.keys := by
  induction l generalizing m with
  | nil => simp
  | cons n l ih =>
    rw [List.map_cons, List.nodup_cons] at hd
    rw [List.foldl_cons, ih _ hd.2, keys_mergeNode, List.map_cons, List.filter_cons]
    by_cases hn : n.id ∈ m.keys
    · simp [hn]
    · -- the node's own id is no longer new, but it does not come again
      have hfilter : ((l.map Node.id).filter fun id => id ∉ m.keys ++ [n.id]) =
          (l.map Node.id).filter fun id => id ∉ m.keys := by
        refine List.filter_congr fun id hid => ?_
        have hne : id ≠ n.id := fun heq => hd.1 (heq ▸ hid)
        simp [hne]
      rw [if_neg hn, hfilter]
      simp [hn]

/-- The ids of the graph come first, and after them the new ones, both in their order. -/
theorem keys_merge {m incoming : TrafficMap ν}
    (h : ∀ {k n}, incoming.get? k = some n → n.id = k) (ns : String) :
    (m.merge ns incoming).keys = m.keys ++ incoming.keys.filter fun id => id ∉ m.keys := by
  have hids := map_id_nodes h
  rw [merge, keys_foldl_mergeNode ns m (hids ▸ incoming.nodup_keys), hids]

/-! ## The union of two maps -/

/-- The map is the union of `m` and the map `incoming` of namespace `ns`. -/
structure IsUnion (ns : String) (m incoming merged : TrafficMap ν) : Prop where
  /-- The ids of `m` come first, and after them the new ones, both in their order. -/
  keys_eq : merged.keys = m.keys ++ incoming.keys.filter fun id => id ∉ m.keys
  /-- What only one of the maps has stays as it is. -/
  get?_of_not_incoming : ∀ {id}, incoming.get? id = none → merged.get? id = m.get? id
  get?_of_new : ∀ {id}, m.get? id = none → merged.get? id = incoming.get? id
  /-- Of two instances the incoming one is kept if it lies in the namespace, -/
  unites_of_own : ∀ {id existing n}, m.get? id = some existing → incoming.get? id = some n →
    n.labels.ns = ns → ∃ n', merged.get? id = some n' ∧ n'.Unites n existing
  /-- and the other one if not. -/
  unites_of_not_own : ∀ {id existing n}, m.get? id = some existing → incoming.get? id = some n →
    n.labels.ns ≠ ns → ∃ n', merged.get? id = some n' ∧ n'.Unites existing n
  /-- No edge is there twice. -/
  nodup_targets : ∀ {id n}, merged.get? id = some n → n.targets.Nodup

/-- **Merging loses nothing, invents nothing and adds nothing up.** -/
theorem merge_isUnion {m incoming : TrafficMap ν} (hm : m.WellFormed) (hi : incoming.WellFormed)
    (ns : String) : IsUnion ns m incoming (m.merge ns incoming) where
  keys_eq := keys_merge hi.id_eq ns
  get?_of_not_incoming {id} h := by
    rw [get?_merge hi.id_eq, h]
    cases m.get? id <;> rfl
  get?_of_new {id} h := by
    rw [get?_merge hi.id_eq, h]
    cases incoming.get? id <;> rfl
  unites_of_own {id existing n} he hn hown := by
    have hmeet : existing.meet ns n = n.adoptAll existing.edges := if_pos hown
    refine ⟨existing.meet ns n, by rw [get?_merge hi.id_eq, he, hn]; rfl, ?_⟩
    rw [hmeet]
    exact Node.unites_adoptAll fun e hmem => (hm.source_eq he hmem).trans (hi.id_eq hn).symm
  unites_of_not_own {id existing n} he hn hown := by
    have hmeet : existing.meet ns n = existing.adoptAll n.edges := if_neg hown
    refine ⟨existing.meet ns n, by rw [get?_merge hi.id_eq, he, hn]; rfl, ?_⟩
    rw [hmeet]
    exact Node.unites_adoptAll fun e hmem => (hi.source_eq hn hmem).trans (hm.id_eq he).symm
  nodup_targets hn := ((hm.merge hi ns).tidy hn).nodup_targets

/-! ## Two namespaces that see each other -/

/-- What namespace `a` sees: its workload `x` is reached from outside, and calls `y` in `b`, which
calls back. -/
def seenByA : TrafficMap Rat :=
  ofFeeds { queryTime := default } [.http [.toWorkload "a" "x" 5,
    .ofWorkload "a" "x" ⟨"b", "y", "y", "v1", "y"⟩ 3,
    .ofWorkload "b" "y" ⟨"a", "x", "x", "v1", "x"⟩ 1]]

/-- What namespace `b` sees: `x` calls two workloads of it, `y` and `z`, and `y` calls `z`. -/
def seenByB : TrafficMap Rat :=
  ofFeeds { queryTime := default } [.http [.ofWorkload "a" "x" ⟨"b", "y", "y", "v1", "y"⟩ 4,
    .ofWorkload "a" "x" ⟨"b", "z", "z", "v1", "z"⟩ 7,
    .ofWorkload "b" "y" ⟨"b", "z", "z", "v1", "z"⟩ 2]]

theorem wellFormed_seenByA : seenByA.WellFormed := wellFormed_ofFeeds ..

theorem wellFormed_seenByB : seenByB.WellFormed := wellFormed_ofFeeds ..

/-- The ends and rates of the edges in order. -/
def listedEdges (m : TrafficMap Rat) : List (String × String × Rat) :=
  m.edges.map fun e => (e.source.text, e.dest.text, e.rate)

/-- Of `x` the instance of `a` is kept, as it came first, and of `y` that of its own namespace; each
adopts an edge of the other instance. -/
theorem listedEdges_merge_seenByB : listedEdges (seenByA.merge "b" seenByB) =
    [("unknown", "wl_a_x", 5), ("wl_a_x", "wl_b_y", 3), ("wl_a_x", "wl_b_z", 7),
      ("wl_b_y", "wl_b_z", 2), ("wl_b_y", "wl_a_x", 1)] := by
  decide +kernel

theorem merge_isUnion_seenByB :
    seenByA.WellFormed ∧ seenByB.WellFormed ∧
      listedEdges (seenByA.merge "b" seenByB) =
        [("unknown", "wl_a_x", 5), ("wl_a_x", "wl_b_y", 3), ("wl_a_x", "wl_b_z", 7),
          ("wl_b_y", "wl_b_z", 2), ("wl_b_y", "wl_a_x", 1)] ∧
      IsUnion "b" seenByA seenByB (seenByA.merge "b" seenByB) :=
  ⟨wellFormed_seenByA, wellFormed_seenByB, listedEdges_merge_seenByB,
    merge_isUnion wellFormed_seenByA wellFormed_seenByB "b"⟩

/-! ## Merging again -/

/-- A node that has met its instance in the graph already changes nothing there. -/
theorem mergeNode_of_meet {ns : String} {m : TrafficMap ν} {n existing : Node ν}
    (h : m.get? n.id = some existing) (hmeet : existing.meet ns n = existing) :
    mergeNode ns m n = m := by
  rw [mergeNode_of_some h, hmeet, ArrivalMap.insert_of_get? h]

/-- What a node of the incoming map has become in the merged map does not change when it meets that
node again. -/
theorem exists_meet_of_merge {m incoming : TrafficMap ν}
    (h : ∀ {k n}, incoming.get? k = some n → n.id = k) (ns : String) {n : Node ν}
    (hn : n ∈ incoming.nodes) :
    ∃ existing, (m.merge ns incoming).get? n.id = some existing ∧
      existing.meet ns n = existing := by
  obtain ⟨k, hk⟩ := mem_nodes_iff.mp hn
  obtain rfl := h hk
  rw [get?_merge h, hk]
  cases m.get? n.id with
  | none => exact ⟨n, rfl, n.meet_self ns⟩
  | some existing => exact ⟨existing.meet ns n, rfl, Node.meet_meet ns existing n⟩

/-- **Merging a map again is a no-op.** -/
theorem merge_merge (m : TrafficMap ν) {incoming : TrafficMap ν}
    (h : ∀ {k n}, incoming.get? k = some n → n.id = k) (ns : String) :
    (m.merge ns incoming).merge ns incoming = m.merge ns incoming := by
  have hnode : ∀ n ∈ incoming.nodes,
      mergeNode ns (m.merge ns incoming) n = m.merge ns incoming := by
    intro n hn
    obtain ⟨existing, hget, hmeet⟩ := exists_meet_of_merge (m := m) h ns hn
    exact mergeNode_of_meet hget hmeet
  -- every node leaves the map as it is, and so do all of them in turn
  exact List.foldlRecOn (motive := (· = m.merge ns incoming)) incoming.nodes (mergeNode ns) rfl
    fun merged heq n hn => heq ▸ hnode n hn

theorem merge_merge_seenByB :
    (∀ {k n}, seenByB.get? k = some n → n.id = k) ∧
      listedEdges ((seenByA.merge "b" seenByB).merge "b" seenByB) =
        [("unknown", "wl_a_x", 5), ("wl_a_x", "wl_b_y", 3), ("wl_a_x", "wl_b_z", 7),
          ("wl_b_y", "wl_b_z", 2), ("wl_b_y", "wl_a_x", 1)] ∧
      (seenByA.merge "b" seenByB).merge "b" seenByB = seenByA.merge "b" seenByB := by
  have hsame := merge_merge seenByA wellFormed_seenByB.id_eq "b"
  refine ⟨wellFormed_seenByB.id_eq, ?_, hsame⟩
  rw [hsame]
  exact listedEdges_merge_seenByB

end TrafficMap

end MeshTraffic
