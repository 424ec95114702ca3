import Mathlib.Data.List.Induction
import MeshTraffic.Proofs.Merging

/-!
# What stays of a node that several maps have

Merging keeps one instance of a node whole, with its counters, and of the others only the edges that
it does not have itself.

* `Node.survivor?`: the instance that stays, which is the last one that lies in the namespace of its
  own map, or else the first of all.
* `Node.IsMergeOf`: what a node that comes of several instances looks like.
* `Node.IsMergeOf.meet`, `TrafficMap.isMergeOf_of_mergeAll`: one more instance, and all of them.
-/

namespace MeshTraffic

variable {ν : Type}

namespace Node

/-- Whether the instance, which stands in the map of a namespace, lies in that namespace. -/
def isOwn (i : String × Node ν) : Bool := i.2.labels.ns = i.1

/-- The instance that stays: the last one in its own namespace, or else the first of all. -/
def survivor? (instances : List (String × Node ν)) : Option (Node ν) :=
  ((instances.filter isOwn).getLast?.or instances.head?).map Prod.snd

theorem survivor?_append_of_isOwn (l : List (String × Node ν)) {i : String × Node ν}
    (h : isOwn i = true) : survivor? (l ++ [i]) = some i.2 := by
  simp [survivor?, List.filter_append, h]

theorem survivor?_append_of_not_isOwn {l : List (String × Node ν)} (hl : l ≠ [])
    {i : String × Node ν} (h : isOwn i = false) : survivor? (l ++ [i]) = survivor? l := by
  rw [survivor?, survivor?, List.filter_append, List.head?_append_of_ne_nil _ hl]
  simp [h]

/-- The node comes of the instances, of which `s` stays and adopts edges of the others. -/
structure IsMergeOf (n : Node ν) (instances : List (String × Node ν)) (s : Node ν) : Prop where
  survivor?_eq : survivor? instances = some s
  labels_eq : n.labels = s.labels
  metadata_eq : n.metadata = s.metadata
  /-- Its edges are those of the survivor, and after them adopted ones, to other targets. -/
  edges_eq : ∃ adopted, n.edges = s.edges ++ adopted ∧ ∀ e ∈ adopted, e.target ∉ s.targets ∧
    ∃ i ∈ instances, ∃ f ∈ i.2.edges, f.target = e.target ∧ f.metadata = e.metadata
  mem_targets_iff : ∀ t, t ∈ n.targets ↔ ∃ i ∈ instances, t ∈ i.2.targets

theorem edges_adoptAll (n : Node ν) (edges : List (Edge ν)) :
    ∃ adopted, (n.adoptAll edges).edges = n.edges ++ adopted ∧ ∀ e ∈ adopted,
      e.target ∉ n.targets ∧ ∃ f ∈ edges, f.target = e.target ∧ f.metadata = e.metadata := by
  unfold adoptAll
  induction edges generalizing n with
  | nil => exact ⟨[], by simp, by simp⟩
  | cons f edges ih =>
    obtain ⟨adopted, hedges, hadopted⟩ := ih (n.adopt f)
    rw [List.foldl_cons, hedges]
    have hlater : ∀ e ∈ adopted, e.target ∉ n.targets ∧
        ∃ f' ∈ f :: edges, f'.target = e.target ∧ f'.metadata = e.metadata := by
      intro e he
      obtain ⟨hnew, f', hf', heq⟩ := hadopted e he
      refine ⟨fun h => hnew ?_, f', List.mem_cons_of_mem _ hf', heq⟩
      rw [targets_adopt, mem_withTarget]
      exact .inr h
    by_cases hf : n.hasParallel f = true
    · exact ⟨adopted, by simp [adopt, hf], hlater⟩
    · refine ⟨{ f with source := n.id } :: adopted, by simp [adopt, hf], ?_⟩
      refine List.forall_mem_cons.mpr ⟨⟨fun h => hf (hasParallel_iff.mpr h), ?_⟩, hlater⟩
      exact ⟨f, List.mem_cons_self, rfl, rfl⟩

theorem mem_of_survivor? {instances : List (String × Node ν)} {s : Node ν}
    (h : survivor? instances = some s) : ∃ i ∈ instances, i.2 = s := by
  obtain ⟨i, hi, rfl⟩ := Option.map_eq_some_iff.mp h
  rcases Option.or_eq_some_iff.mp hi with hlast | ⟨-, hfirst⟩
  · exact ⟨i, (List.mem_filter.mp (List.mem_of_getLast? hlast)).1, rfl⟩
  · exact ⟨i, List.mem_of_head? hfirst, rfl⟩

/-- Every edge of the node carries what an edge of some instance does. -/
theorem IsMergeOf.exists_edge {instances : List (String × Node ν)} {s n : Node ν}
    (h : n.IsMergeOf instances s) {e : Edge ν} (he : e ∈ n.edges) :
    ∃ i ∈ instances, ∃ f ∈ i.2.edges, f.target = e.target ∧ f.metadata = e.metadata := by
  obtain ⟨adopted, hedges, hadopted⟩ := h.edges_eq
  rw [hedges] at he
  rcases List.mem_append.mp he with he | he
  · obtain ⟨i, hi, rfl⟩ := mem_of_survivor? h.survivor?_eq
    exact ⟨i, hi, e, he, rfl, rfl⟩
  · exact (hadopted e he).2

theorem IsMergeOf.single (i : String × Node ν) : i.2.IsMergeOf [i] i.2 where
  survivor?_eq := by
    cases h : isOwn i <;> simp [survivor?, h]
  labels_eq := rfl
  metadata_eq := rfl
  edges_eq := ⟨[], by simp, by simp⟩
  mem_targets_iff := by simp

/-- **One more instance**: it stays if it lies in its own namespace, and leaves its edges if not. -/
theorem IsMergeOf.meet {instances : List (String × Node ν)} {s n : Node ν}
    (h : n.IsMergeOf instances s) (ns : String) (n' : Node ν) :
    ∃ s', (n.meet ns n').IsMergeOf (instances ++ [(ns, n')]) s' := by
  have htargets : ∀ t, t ∈ (n.meet ns n').targets ↔
      ∃ i ∈ instances ++ [(ns, n')], t ∈ i.2.targets := by
    intro t
    rw [mem_targets_meet, h.mem_targets_iff]
    simp [or_and_right, exists_or]
  obtain ⟨adopted, hedges, hadopted⟩ := h.edges_eq
  by_cases hown : n'.labels.ns = ns
  · -- the new instance stays and adopts what the node has had so far
    have hmeet : n.meet ns n' = n'.adoptAll n.edges := if_pos hown
    obtain ⟨adopted', hedges', hadopted'⟩ := n'.edges_adoptAll n.edges
    refine ⟨n', survivor?_append_of_isOwn _ (by simpa [isOwn] using hown), ?_, ?_, ?_, htargets⟩
    · rw [hmeet, labels_adoptAll]
    · rw [hmeet, metadata_adoptAll]
    · refine ⟨adopted', hmeet ▸ hedges', fun e he => ?_⟩
      obtain ⟨hnew, f, hf, heq⟩ := hadopted' e he
      obtain ⟨i, hi, f', hf', heq'⟩ := h.exists_edge hf
      exact ⟨hnew, i, List.mem_append_left _ hi, f', hf', heq'.1.trans heq.1,
        heq'.2.trans heq.2⟩
  · -- the survivor stays and adopts what it does not have
    have hmeet : n.meet ns n' = n.adoptAll n'.edges := if_neg hown
    have hne : instances ≠ [] := by
      rintro rfl
      cases h.survivor?_eq
    obtain ⟨adopted', hedges', hadopted'⟩ := n.edges_adoptAll n'.edges
    refine ⟨s, ?_, ?_, ?_, ?_, htargets⟩
    · rw [survivor?_append_of_not_isOwn hne (by simpa [isOwn] using hown), h.survivor?_eq]
    · rw [hmeet, labels_adoptAll, h.labels_eq]
    · rw [hmeet, metadata_adoptAll, h.metadata_eq]
    · refine ⟨adopted ++ adopted', by rw [hmeet, hedges', hedges, List.append_assoc], ?_⟩
      refine List.forall_mem_append.mpr ⟨fun e he => ?_, fun e he => ?_⟩
      · obtain ⟨hnew, i, hi, hf⟩ := hadopted e he
        exact ⟨hnew, i, List.mem_append_left _ hi, hf⟩
      · obtain ⟨hnew, hf⟩ := hadopted' e he
        refine ⟨fun hs => hnew ?_, (ns, n'), by simp, hf⟩
        rw [targets, hedges, List.map_append]
        exact List.mem_append_left _ hs

end Node

namespace TrafficMap

/-- The instances of a node in the maps that have it, each with the namespace of its map. -/
def instances (maps : List (String × TrafficMap ν)) (id : NodeId) : List (String × Node ν) :=
  maps.filterMap fun e => (e.2.get? id).map fun n => (e.1, n)

theorem mem_instances_iff {maps : List (String × TrafficMap ν)} {id : NodeId}
    {i : String × Node ν} :
    i ∈ instances maps id ↔ ∃ e ∈ maps, e.1 = i.1 ∧ e.2.get? id = some i.2 := by
  rw [instances, List.mem_filterMap]
  refine exists_congr fun e => and_congr_right fun _ => ?_
  cases e.2.get? id <;> simp [Prod.ext_iff]

theorem instances_append (maps : List (String × TrafficMap ν)) (e : String × TrafficMap ν)
    (id : NodeId) :
    instances (maps ++ [e]) id =
      instances maps id ++ ((e.2.get? id).map fun n => (e.1, n)).toList := by
  rw [instances, List.filterMap_append, instances]
  cases h : e.2.get? id <;> simp [h]

theorem mergeAll_append (maps : List (String × TrafficMap ν)) (e : String × TrafficMap ν) :
    mergeAll (maps ++ [e]) = (mergeAll maps).merge e.1 e.2 := by
  rw [mergeAll, List.foldl_append]
  rfl

/-- **A node of the merged maps comes of its instances**, and there is none without an instance. -/
theorem isMergeOf_of_mergeAll {maps : List (String × TrafficMap ν)}
    (h : ∀ e ∈ maps, e.2.WellFormed) (id : NodeId) :
    (∀ n, (mergeAll maps).get? id = some n → ∃ s, n.IsMergeOf (instances maps id) s) ∧
      ((mergeAll maps).get? id = none → instances maps id = []) := by
  induction maps using List.reverseRecOn with
  | nil => simp [mergeAll, instances, EmptyCollection.emptyCollection]
  | append_singleton maps e ih =>
    obtain ⟨hmaps, he⟩ := List.forall_mem_append.mp h
    obtain ⟨hsome, hnone⟩ := ih hmaps
    have hwf : e.2.WellFormed := he e (by simp)
    rw [mergeAll_append, get?_merge hwf.id_eq, instances_append]
    cases hn : e.2.get? id with
    | none =>
      have hmeet : meet? e.1 ((mergeAll maps).get? id) none = (mergeAll maps).get? id := by
        cases (mergeAll maps).get? id <;> rfl
      rw [hmeet]
      simpa using ⟨hsome, hnone⟩
    | some n' =>
      cases hm : (mergeAll maps).get? id with
      | none =>
        rw [hnone hm]
        refine ⟨fun n hmeet => ?_, by simp [meet?]⟩
        cases hmeet
        exact ⟨n', .single (e.1, n')⟩
      | some existing =>
        refine ⟨fun n hmeet => ?_, by simp [meet?]⟩
        cases hmeet
        obtain ⟨s, hs⟩ := hsome existing hm
        exact hs.meet e.1 n'

end TrafficMap

end MeshTraffic
