import MeshTraffic.Proofs.KeptNodes
import MeshTraffic.Proofs.MarkedGraph

/-!
# Where traffic starts

Roots are marked on the whole graph, before it is reduced to services. So in a graph that is not
reduced they are exactly the nodes that send traffic and receive none. The step to services gives
the nodes that it keeps other edges, but none of them leads to a root, for each leads where an edge
led before.

* `TrafficMap.MarksRoots`, `TrafficMap.IsUnmarked.marksRoots_classify`: what the mark tells in a map
  that has just been marked.
* `TrafficMap.KeepsRoots`, `TrafficMap.MarksRoots.keepsRoots`: what it still tells in the service
  graph.
* `Request.roots_of_result`: so it is in every graph that is built.
-/

namespace MeshTraffic

variable {ν : Type}

/-! ## Marked roots -/

namespace Node

theorem isRoot_raise {key : String} (hkey : key ≠ Key.isRoot) (n : Node ν) :
    (n.raise key).isRoot = n.isRoot := by
  rw [isRoot, flag_raise, decide_eq_false hkey.symm, Bool.false_or]
  rfl

theorem isRoot_markVisibility (r : Request) (n : Node ν) :
    (n.markVisibility r).isRoot = n.isRoot := by
  have hout : Key.isOutside ≠ Key.isRoot := by decide
  have hacc : Key.isInaccessible ≠ Key.isRoot := by decide
  have houtside : (n.markOutside r).isRoot = n.isRoot := by
    unfold markOutside
    split
    · exact n.isRoot_raise hacc
    · split
      · exact n.isRoot_raise hout
      · rfl
  rw [← houtside, markVisibility, markInaccessible]
  split
  · exact isRoot_raise hacc _
  · rfl

end Node

namespace TrafficMap

/-- The roots are exactly the nodes that send traffic and receive none. -/
def MarksRoots (m : TrafficMap ν) : Prop :=
  ∀ id n, m.get? id = some n → (n.isRoot = true ↔ n.edges ≠ [] ∧ ∀ e ∈ m.edges, e.dest ≠ id)

theorem edges_mapNodes {f : Node ν → Node ν} (hf : ∀ n, (f n).edges = n.edges)
    (m : TrafficMap ν) : (m.mapNodes f).edges = m.edges := by
  unfold edges nodes mapNodes ArrivalMap.values ArrivalMap.mapValues
  simp [List.flatMap_map, hf]

theorem isDestination_eq_false_iff {m : TrafficMap ν} {id : NodeId} :
    m.isDestination id = false ↔ ∀ e ∈ m.edges, e.dest ≠ id := by
  simp [isDestination]

/-- Where no node is a root yet, the roots are marked. -/
theorem marksRoots_markRoots {m : TrafficMap ν} (hid : ∀ {k n}, m.get? k = some n → n.id = k)
    (hnone : ∀ id n, m.get? id = some n → n.isRoot = false) : m.markRoots.MarksRoots := by
  have hedges : m.markRoots.edges = m.edges := edges_mapNodes (fun n => by split <;> rfl) m
  intro id n' hn'
  rw [hedges, ← isDestination_eq_false_iff]
  rw [markRoots, get?_mapNodes] at hn'
  obtain ⟨n, hn, rfl⟩ := Option.map_eq_some_iff.mp hn'
  rw [hid hn]
  by_cases hroot : n.edges ≠ [] ∧ m.isDestination id = false
  · rw [if_pos (by simpa using hroot)]
    exact iff_of_true (by simp [Node.isRoot, Node.flag_raise]) hroot
  · rw [if_neg (by simpa using hroot)]
    exact iff_of_false (by simp [hnone id n hn]) hroot

theorem IsUnmarked.marksRoots_classify {m : TrafficMap ν} (h : m.IsUnmarked) (hm : m.WellFormed)
    (r : Request) : (m.classify r).MarksRoots := by
  have hnode : ∀ id n', (m.markVisibility r).get? id = some n' →
      n'.id = id ∧ n'.isRoot = false := by
    intro id n' hn'
    rw [markVisibility, get?_mapNodes] at hn'
    obtain ⟨n, hn, rfl⟩ := Option.map_eq_some_iff.mp hn'
    exact ⟨(n.sameButMarks_markVisibility r).id_eq.trans (hm.id_eq hn),
      (n.isRoot_markVisibility r).trans ((h id n hn).flag_eq (by decide))⟩
  exact marksRoots_markRoots (fun hn => (hnode _ _ hn).1) fun id n hn => (hnode id n hn).2

/-! ## Roots of service graphs -/

/-- No edge leads to a root, and all that is no service is a root. -/
structure KeepsRoots (m : TrafficMap ν) : Prop where
  isRoot_dest : ∀ e ∈ m.edges, ∀ n, m.get? e.dest = some n → n.isRoot = false
  isRoot_of_kind_ne : ∀ id n, m.get? id = some n → n.kind ≠ .service → n.isRoot = true

/-- **No edge of a service graph leads to a root**, since each leads where an edge of the whole
graph does. -/
theorem MarksRoots.keepsRoots [Quantity ν] {m g : TrafficMap ν} (h : m.MarksRoots)
    (hid : ∀ {k n}, m.get? k = some n → n.id = k) (hg : m.toServiceGraph = .ok g) :
    g.KeepsRoots where
  isRoot_dest e he n' hn' := by
    obtain ⟨f, hf, htarget⟩ := exists_isServiceEdge hid hg he
    obtain ⟨n, edges, hn, rfl⟩ := exists_of_get?_toServiceGraph hid hg hn'
    have hdest : f.dest = e.dest := congrArg Prod.fst htarget
    refine Bool.eq_false_iff.mpr fun hroot => ?_
    exact ((h _ n hn).mp hroot).2 f hf.mem_edges hdest
  isRoot_of_kind_ne id n hn hkind := by
    have hkept := isKept_of_mem_nodes_toServiceGraph hid hg (mem_nodes_iff.mpr ⟨id, hn⟩)
    simpa [Node.isKept, hkind] using hkept

end TrafficMap

/-! ## Roots of the graphs of a request -/

namespace Request

variable [Quantity ν] {r : Request} {b : Backend ν} {c : Clock} {m : TrafficMap ν}

theorem marksRoots_of_nodeGraph (h : (r.nodeGraph [] b c).result = .ok m) : m.MarksRoots := by
  obtain ⟨map, hwf, hunmarked, rfl⟩ := exists_unmarked_of_nodeGraph h
  exact hunmarked.marksRoots_classify hwf r

theorem roots_of_namespacesGraph (h : (r.namespacesGraph [] b c).result = .ok m) :
    if r.type = .service then m.KeepsRoots else m.MarksRoots := by
  obtain ⟨merged, hwf, hunmarked, hm⟩ := exists_unmarked_of_namespacesGraph h
  have hmarks := hunmarked.marksRoots_classify hwf r
  split at hm
  · next htype =>
    rw [if_pos htype]
    exact hmarks.keepsRoots (hwf.classify r).id_eq hm
  · next htype =>
    rw [if_neg htype]
    exact hm ▸ hmarks

/-- **Roots are exactly the nodes from which traffic starts**, in every graph that is built. In one
that is reduced to services no edge leads to a root, and what is no service is a root. -/
theorem roots_of_result (r : Request) (b : Backend ν) (c : Clock) (m : TrafficMap ν) :
    ((r.nodeGraph [] b c).result = .ok m → m.MarksRoots) ∧
      ((r.namespacesGraph [] b c).result = .ok m →
        if r.type = .service then m.KeepsRoots else m.MarksRoots) ∧
      ((r.graph [] b c).result = .ok m →
        if r.kind = .namespaces ∧ r.type = .service then m.KeepsRoots else m.MarksRoots) := by
  refine ⟨marksRoots_of_nodeGraph, roots_of_namespacesGraph, fun h => ?_⟩
  unfold graph Plan.ofRequest at h
  split at h
  · next hkind => simpa only [hkind, true_and] using roots_of_namespacesGraph h
  · next hkind =>
    rw [if_neg (by simp [hkind])]
    exact marksRoots_of_nodeGraph h

/-- A request for a graph of the namespace `a`. -/
def forNamespaceA (type : GraphType) : Request :=
  withNamespace { queryTime := default, type } "a" 600

/-- Requests of one workload to the service of another, and of that to a third one. -/
def threeInARow : Backend Rat := fun _ =>
  .ok [.ofWorkload "a" "client" ⟨"a", "front", "front", "v1", "front"⟩ 2,
    .ofWorkload "a" "front" ⟨"a", "back", "back", "v1", "back"⟩ 1]

/-- The nodes, and whether they are roots. -/
def rootsOf (m : TrafficMap ν) : List (String × Bool) := m.nodes.map fun n => (n.id.text, n.isRoot)

/-- The first workload is the root, and it is the only workload in the service graph. -/
theorem roots_of_result_threeInARow :
    ∃ m g, ((forNamespaceA .workload).namespacesGraph [] threeInARow ⟨0, none, none⟩).result =
        .ok m ∧
      rootsOf m = [("wl_a_client", true), ("wl_a_front", false), ("wl_a_back", false)] ∧
      m.MarksRoots ∧
      ((forNamespaceA .service).graph [] threeInARow ⟨0, none, none⟩).result = .ok g ∧
      rootsOf g = [("wl_a_client", true), ("svc_a_front", false), ("svc_a_back", false)] ∧
      g.KeepsRoots := by
  have hroots : ((forNamespaceA .workload).namespacesGraph [] threeInARow
      ⟨0, none, none⟩).result.toOption.bind (fun m => some (rootsOf m)) =
        some [("wl_a_client", true), ("wl_a_front", false), ("wl_a_back", false)] := by
    decide +kernel
  have hservices : ((forNamespaceA .service).graph [] threeInARow
      ⟨0, none, none⟩).result.toOption.bind (fun m => some (rootsOf m)) =
        some [("wl_a_client", true), ("svc_a_front", false), ("svc_a_back", false)] := by
    decide +kernel
  obtain ⟨m, hm, hroots⟩ := exists_ok_of_bind_toOption hroots
  obtain ⟨g, hg, hservices⟩ := exists_ok_of_bind_toOption hservices
  exact ⟨m, g, hm, Option.some.inj hroots, (roots_of_result _ _ _ m).2.1 hm, hg,
    Option.some.inj hservices, (roots_of_result _ _ _ g).2.2 hg⟩

end Request

end MeshTraffic
