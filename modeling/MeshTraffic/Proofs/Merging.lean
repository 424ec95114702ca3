import MeshTraffic.Graph.Merge
import MeshTraffic.Proofs.WellFormed

/-!
# Merged maps

* `Node.meet`: the node that comes of two instances of it, one of which stays and adopts the edges
  of the other.
* `TrafficMap.get?_merge`: what the merged map has under an id depends only on what the two maps
  have under it, if the nodes of the incoming one stand under their own ids.
* `TrafficMap.WellFormed.merge`, `TrafficMap.wellFormed_mergeAll`: merging keeps maps well formed.
-/

namespace MeshTraffic

variable {ν : Type}

/-- The node that comes of an existing instance and one from the map of namespace `ns`. -/
def Node.meet (ns : String) (existing n : Node ν) : Node ν :=
  if n.labels.ns = ns then n.adoptAll existing.edges else existing.adoptAll n.edges

theorem Node.id_meet {ns : String} {existing n : Node ν} (h : existing.id = n.id) :
    (Node.meet ns existing n).id = n.id := by
  unfold Node.meet
  split
  · exact Node.id_adoptAll ..
  · rw [Node.id_adoptAll, h]

theorem Node.Tidy.meet {existing n : Node ν} (he : existing.Tidy) (hn : n.Tidy) (ns : String) :
    (Node.meet ns existing n).Tidy := by
  unfold Node.meet
  split
  · exact hn.adoptAll _
  · exact he.adoptAll _

theorem Node.mem_targets_meet {ns : String} {existing n : Node ν} {t : NodeId × Protocol} :
    t ∈ (Node.meet ns existing n).targets ↔ t ∈ existing.targets ∨ t ∈ n.targets := by
  unfold Node.meet
  split <;> simp only [Node.mem_targets_adoptAll]
  · exact or_comm
  · rfl

namespace TrafficMap

/-- What two instances that may be missing come to. -/
def meet? (ns : String) : Option (Node ν) → Option (Node ν) → Option (Node ν)
  | mine, none => mine
  | none, some n => some n
  | some existing, some n => some (existing.meet ns n)

theorem mergeNode_of_none {m : TrafficMap ν} {n : Node ν} (h : m.get? n.id = none) (ns : String) :
    mergeNode ns m n = m.insert n.id n := by
  simp only [mergeNode, h, insertNode]

theorem mergeNode_of_some {m : TrafficMap ν} {n existing : Node ν}
    (h : m.get? n.id = some existing) (ns : String) :
    mergeNode ns m n = m.insert n.id (existing.meet ns n) := by
  simp only [mergeNode, h, Node.meet]
  split <;> rfl

theorem get?_mergeNode (ns : String) (m : TrafficMap ν) (n : Node ν) (k : NodeId) :
    (mergeNode ns m n).get? k =
      if k = n.id then meet? ns (m.get? k) (some n) else m.get? k := by
  cases hm : m.get? n.id with
  | none =>
    rw [mergeNode_of_none hm, ArrivalMap.get?_insert]
    by_cases hk : k = n.id <;> simp [hk, hm, meet?]
  | some existing =>
    rw [mergeNode_of_some hm, ArrivalMap.get?_insert]
    by_cases hk : k = n.id <;> simp [hk, hm, meet?]

private theorem get?_foldl_mergeNode_of_ne {ns : String} {l : List (Node ν)} {m : TrafficMap ν}
    {k : NodeId} (h : ∀ n ∈ l, n.id ≠ k) : (l.foldl (mergeNode ns) m).get? k = m.get? k := by
  induction l generalizing m with
  | nil => rfl
  | cons n l ih =>
    obtain ⟨hn, hl⟩ := List.forall_mem_cons.mp h
    rw [List.foldl_cons, ih hl, get?_mergeNode, if_neg (Ne.symm hn)]

private theorem get?_foldl_mergeNode_of_mem {ns : String} {l : List (Node ν)}
    {m : TrafficMap ν} {n : Node ν} (hd : (l.map Node.id).Nodup) (hn : n ∈ l) :
    (l.foldl (mergeNode ns) m).get? n.id = meet? ns (m.get? n.id) (some n) := by
  obtain ⟨l₁, l₂, rfl⟩ := List.append_of_mem hn
  simp only [List.map_append, List.map_cons, List.nodup_append, List.nodup_cons, List.mem_map,
    not_exists, not_and] at hd
  obtain ⟨-, ⟨hl₂, -⟩, hl₁⟩ := hd
  have h₁ : ∀ n' ∈ l₁, n'.id ≠ n.id := fun n' hn' => hl₁ _ ⟨n', hn', rfl⟩ _ (by simp)
  rw [List.foldl_append, List.foldl_cons, get?_foldl_mergeNode_of_ne hl₂, get?_mergeNode,
    if_pos rfl, get?_foldl_mergeNode_of_ne h₁]

/-- **What the merged map has under an id** depends only on what the two maps have under it. -/
theorem get?_merge {m incoming : TrafficMap ν}
    (h : ∀ {k n}, incoming.get? k = some n → n.id = k) (ns : String) (k : NodeId) :
    (m.merge ns incoming).get? k = meet? ns (m.get? k) (incoming.get? k) := by
  unfold merge
  cases hk : incoming.get? k with
  | none =>
    rw [get?_foldl_mergeNode_of_ne]
    · cases m.get? k <;> rfl
    · rintro n hn rfl
      obtain ⟨k, hk'⟩ := mem_nodes_iff.mp hn
      rw [h hk', hk'] at hk
      cases hk
  | some n =>
    have hn : n ∈ incoming.nodes := mem_nodes_iff.mpr ⟨k, hk⟩
    have hd : (incoming.nodes.map Node.id).Nodup := map_id_nodes h ▸ incoming.nodup_keys
    rw [← h hk, get?_foldl_mergeNode_of_mem hd hn]

/-- A node of the merged map comes of one map or of both. -/
theorem cases_of_get?_merge {m incoming : TrafficMap ν}
    (h : ∀ {k n}, incoming.get? k = some n → n.id = k) {ns : String} {k : NodeId} {n : Node ν}
    (hk : (m.merge ns incoming).get? k = some n) :
    m.get? k = some n ∨ incoming.get? k = some n ∨
      ∃ existing n', m.get? k = some existing ∧ incoming.get? k = some n' ∧
        existing.meet ns n' = n := by
  rw [get?_merge h] at hk
  cases hm : m.get? k <;> cases hn : incoming.get? k <;> simp_all [meet?]

theorem contains_merge {m incoming : TrafficMap ν}
    (h : ∀ {k n}, incoming.get? k = some n → n.id = k) {ns : String} {k : NodeId} :
    (m.merge ns incoming).contains k = true ↔
      m.contains k = true ∨ incoming.contains k = true := by
  rw [ArrivalMap.contains, get?_merge h, ArrivalMap.contains, ArrivalMap.contains]
  cases m.get? k <;> cases incoming.get? k <;> simp [meet?]

/-- **Merging keeps maps well formed.** -/
theorem WellFormed.merge {m incoming : TrafficMap ν} (hm : m.WellFormed)
    (hi : incoming.WellFormed) (ns : String) : (m.merge ns incoming).WellFormed := by
  have hcontains : ∀ k, (m.merge ns incoming).contains k = true ↔
      m.contains k = true ∨ incoming.contains k = true := fun k => contains_merge hi.id_eq
  refine ⟨fun {k n} hk => ?_, fun {k n} hk => ?_, fun {k n} hk t ht => (hcontains _).mpr ?_⟩ <;>
    obtain hk | hk | ⟨existing, n', he, hn', rfl⟩ := cases_of_get?_merge hi.id_eq hk
  · exact hm.id_eq hk
  · exact hi.id_eq hk
  · rw [Node.id_meet ((hm.id_eq he).trans (hi.id_eq hn').symm), hi.id_eq hn']
  · exact hm.tidy hk
  · exact hi.tidy hk
  · exact (hm.tidy he).meet (hi.tidy hn') ns
  · exact .inl (hm.dest_mem hk t ht)
  · exact .inr (hi.dest_mem hk t ht)
  · rcases Node.mem_targets_meet.mp ht with ht | ht
    · exact .inl (hm.dest_mem he t ht)
    · exact .inr (hi.dest_mem hn' t ht)

theorem wellFormed_mergeAll {maps : List (String × TrafficMap ν)}
    (h : ∀ e ∈ maps, e.2.WellFormed) : (mergeAll maps).WellFormed := by
  unfold mergeAll
  have hall : ∀ m : TrafficMap ν, m.WellFormed →
      (maps.foldl (fun m e => m.merge e.1 e.2) m).WellFormed := by
    induction maps with
    | nil => exact fun m hm => hm
    | cons e maps ih =>
      obtain ⟨he, hmaps⟩ := List.forall_mem_cons.mp h
      exact fun m hm => ih hmaps _ (hm.merge he e.1)
  exact hall ∅ wellFormed_empty

end TrafficMap

end MeshTraffic
