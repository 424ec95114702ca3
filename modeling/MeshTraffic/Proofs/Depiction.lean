import MeshTraffic.Proofs.ExactMap
import MeshTraffic.Proofs.IdReading
import MeshTraffic.Proofs.WellFormedGraph

/-!
# Maps that depict traffic

A map depicts some observations if its edges are exactly their hops and every node is of the kind
that its id tells. Drawn maps depict what they are drawn from; annotating, merging and marking
change neither.

* `TrafficMap.Depicts`: the map depicts the observations.
* `TrafficMap.depicts_ofFeeds`: a drawn map depicts the accepted hops of its feeds.
* `TrafficMap.Depicts.merge`, `TrafficMap.depicts_mergeAll`: merged maps depict what any of them
  depicts.
* `ResponseTime.depicts_annotate`, `TrafficMap.Depicts.classify`: annotated and marked maps.
-/

namespace MeshTraffic

variable {ν : Type}

/-! ## Kinds -/

@[simp] theorem Node.kind_adoptAll (n : Node ν) (edges : List (Edge ν)) :
    (n.adoptAll edges).kind = n.kind := by
  obtain ⟨edges', h⟩ := n.adoptAll_eq edges
  rw [h]

theorem Node.kind_meet {ns : String} {existing n : Node ν} (h : existing.kind = n.kind) :
    (Node.meet ns existing n).kind = n.kind := by
  unfold Node.meet
  split
  · exact Node.kind_adoptAll ..
  · rw [Node.kind_adoptAll, h]

namespace TrafficMap

/-- Every node is of the kind that its id tells. -/
def HasKinds (m : TrafficMap ν) : Prop := ∀ id n, m.get? id = some n → n.kind = id.kind

theorem HasKinds.insert {m : TrafficMap ν} (h : m.HasKinds) {id : NodeId} {n : Node ν}
    (hn : n.kind = id.kind) : HasKinds (m.insert id n) := by
  intro id' n' hn'
  rw [ArrivalMap.get?_insert] at hn'
  split at hn'
  · next heq =>
    cases hn'
    rw [hn, heq]
  · exact h id' n' hn'

theorem hasKinds_empty : (∅ : TrafficMap ν).HasKinds := by
  intro id n hn
  cases hn

/-! ## Depicted traffic -/

/-- The edges of the map are exactly the hops of the observations, and its nodes are of the kinds
that their ids tell. -/
structure Depicts (r : Request) (os : List (Observation ν)) (m : TrafficMap ν) : Prop where
  wellFormed : m.WellFormed
  hasKinds : m.HasKinds
  edge_iff : ∀ source dest protocol,
    (∃ n, m.get? source = some n ∧ (dest, protocol) ∈ n.targets) ↔
      ∃ o ∈ os, o.place r = (source, dest, protocol)

/-- If two maps have nodes under the same ids, of the same kinds and with the same targets, the
second depicts what the first does. -/
theorem Depicts.of_sameShape {r : Request} {os : List (Observation ν)} {m m' : TrafficMap ν}
    (h : m.Depicts r os) (hm' : m'.WellFormed) (hcontains : ∀ id, m'.contains id = m.contains id)
    (hsame : ∀ {id n'}, m'.get? id = some n' →
      ∃ n, m.get? id = some n ∧ n'.kind = n.kind ∧ n'.targets = n.targets) :
    m'.Depicts r os where
  wellFormed := hm'
  hasKinds id n' hn' := by
    obtain ⟨n, hn, hkind, -⟩ := hsame hn'
    exact hkind.trans (h.hasKinds id n hn)
  edge_iff source dest protocol := by
    rw [← h.edge_iff source dest protocol]
    constructor
    · rintro ⟨n', hn', ht⟩
      obtain ⟨n, hn, -, htargets⟩ := hsame hn'
      exact ⟨n, hn, htargets ▸ ht⟩
    · rintro ⟨n, hn, ht⟩
      obtain ⟨n', hn'⟩ := ArrivalMap.contains_iff.mp
        ((hcontains source).trans (ArrivalMap.contains_of_get? hn))
      obtain ⟨n₁, hn₁, -, htargets⟩ := hsame hn'
      obtain rfl := Option.some.inj (hn.symm.trans hn₁)
      exact ⟨n', hn', htargets.symm ▸ ht⟩

theorem Depicts.classify {r : Request} {os : List (Observation ν)} {m : TrafficMap ν}
    (h : m.Depicts r os) : (m.classify r).Depicts r os := by
  refine h.of_sameShape (h.wellFormed.classify r) (fun _ => contains_classify) fun hn' => ?_
  obtain ⟨n, hn, hsame⟩ := get?_classify hn'
  exact ⟨n, hn, hsame.kind_eq, by rw [Node.targets, hsame.edges_eq, Node.targets]⟩

theorem Depicts.merge {r : Request} {os os' : List (Observation ν)} {m incoming : TrafficMap ν}
    (hm : m.Depicts r os) (hi : incoming.Depicts r os') (ns : String) :
    (m.merge ns incoming).Depicts r (os ++ os') where
  wellFormed := hm.wellFormed.merge hi.wellFormed ns
  hasKinds id n hn := by
    obtain hn | hn | ⟨existing, n', hmine, hother, rfl⟩ :=
      cases_of_get?_merge hi.wellFormed.id_eq hn
    · exact hm.hasKinds id n hn
    · exact hi.hasKinds id n hn
    · have hkind := hi.hasKinds id n' hother
      rw [Node.kind_meet ((hm.hasKinds id existing hmine).trans hkind.symm), hkind]
  edge_iff source dest protocol := by
    have hunion : (∃ n, (m.merge ns incoming).get? source = some n ∧
          (dest, protocol) ∈ n.targets) ↔
        (∃ n, m.get? source = some n ∧ (dest, protocol) ∈ n.targets) ∨
          ∃ n, incoming.get? source = some n ∧ (dest, protocol) ∈ n.targets := by
      rw [get?_merge hi.wellFormed.id_eq]
      cases m.get? source <;> cases incoming.get? source <;> simp [meet?, Node.mem_targets_meet]
    rw [hunion, hm.edge_iff, hi.edge_iff]
    simp only [List.mem_append, or_and_right, exists_or]

theorem depicts_empty (r : Request) : (∅ : TrafficMap ν).Depicts r [] where
  wellFormed := wellFormed_empty
  hasKinds := hasKinds_empty
  edge_iff source dest protocol := by
    simp [EmptyCollection.emptyCollection]

/-- **Merged maps depict what any of them depicts.** -/
theorem depicts_mergeAll {r : Request} {scopes : List Scope} {os : Scope → List (Observation ν)}
    {maps : List (TrafficMap ν)}
    (h : List.Forall₂ (fun scope m => m.Depicts r (os scope)) scopes maps) :
    (mergeAll ((scopes.map Scope.name).zip maps)).Depicts r (scopes.flatMap os) := by
  suffices hfold : ∀ (seen : List (Observation ν)) (m : TrafficMap ν), m.Depicts r seen →
      Depicts r (seen ++ scopes.flatMap os)
        (((scopes.map Scope.name).zip maps).foldl (fun m e => m.merge e.1 e.2) m) from
    hfold [] ∅ (depicts_empty r)
  induction h with
  | nil =>
    intro seen m hm
    simpa using hm
  | @cons scope _ _ _ hm' _ ih =>
    intro seen m hm
    rw [List.flatMap_cons, ← List.append_assoc]
    exact ih _ _ (hm.merge hm' scope.name)

/-! ## Drawn and annotated maps -/

variable [Quantity ν]

/-- The node that some labels refer to is of the kind that their id tells. -/
theorem HasKinds.encounter {m : TrafficMap ν} (h : m.HasKinds) (type : GraphType) (l : Labels)
    (x : ν) : (m.encounter type l x).kind = (l.resolve type).id.kind := by
  cases hget : m.get? (l.resolve type).id with
  | none =>
    rw [encounter_of_none hget, Labels.kind_id_resolve]
    rfl
  | some n =>
    rw [encounter_of_some hget, Node.kind_reconcile, h _ n hget]

theorem HasKinds.draw {m : TrafficMap ν} (h : m.HasKinds) (r : Request) (o : Observation ν) :
    (m.draw r o).HasKinds := by
  have hsource : (drawSource r o m).HasKinds := h.insert (h.encounter r.type o.hop.source o.value)
  exact hsource.insert (hsource.encounter r.type o.hop.dest o.value)

theorem hasKinds_foldl_draw {m : TrafficMap ν} (h : m.HasKinds) (r : Request)
    (os : List (Observation ν)) : HasKinds (os.foldl (TrafficMap.draw r) m) := by
  induction os generalizing m with
  | nil => exact h
  | cons o os ih => exact ih (h.draw r o)

/-- **A drawn map depicts the accepted hops of its feeds.** -/
theorem depicts_ofFeeds (r : Request) (feeds : List (Feed ν)) :
    (ofFeeds r feeds).Depicts r (feeds.flatMap (Feed.acceptedHops r)) := by
  rw [← List.flatMap_congr fun f _ => Feed.observations_eq_acceptedHops r f]
  exact ⟨wellFormed_ofFeeds r feeds, hasKinds_foldl_draw hasKinds_empty r _,
    edge_iff_foldl_draw r _⟩

end TrafficMap

theorem ResponseTime.depicts_annotate {r : Request} {os : List (Observation ν)}
    (times : Times ν) (m : TrafficMap ν) (h : m.Depicts r os) :
    (annotate times m).Depicts r os := by
  refine h.of_sameShape (wellFormed_annotate times m h.wellFormed)
    (fun id => ?_) fun {id n'} hn' => ?_
  · simp [annotate, ArrivalMap.contains]
  · rw [annotate, TrafficMap.get?_mapNodes] at hn'
    obtain ⟨n, hn, rfl⟩ := Option.map_eq_some_iff.mp hn'
    exact ⟨n, hn, rfl, by simp [Node.targets, Function.comp_def, target_annotateEdge]⟩

end MeshTraffic
