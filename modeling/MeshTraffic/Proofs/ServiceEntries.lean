import MeshTraffic.Proofs.MarkedGraph
import MeshTraffic.Proofs.SampleOrder
import MeshTraffic.Proofs.ServiceFaults
import MeshTraffic.Proofs.StoredLabels

/-!
# Service entries

A node is flagged as a service entry when traffic arrives at it, so a service that traffic leaves
from could be missed. But traffic leaves from a service only if the same traffic has arrived there
first, and what a graph is made of keeps the flags. So they are the listed services, wherever they
appear.

* `Node.ComesOf`: a node is another one but for its edges and its marks.
  `Request.isDrawnFor_of_isResult`: every node of a graph comes of one of a drawn map.
* `TrafficMap.exists_destId_eq`: traffic arrives at every service of a drawn map.
* `Node.FlagsEntry`, `TrafficMap.flagsEntry_of_mem_ofFeeds`: in drawn maps the flag tells what it
  should.
* `Request.serviceEntries_of_isResult`: so it does in every graph, where service entries are out of
  reach.
-/

namespace MeshTraffic

variable {ν : Type}

/-! ## What nodes come of -/

/-- The node is another one but for its edges and its marks. -/
structure Node.ComesOf (n' n : Node ν) : Prop where
  kind_eq : n'.kind = n.kind
  labels_eq : n'.labels = n.labels
  get?_eq : ∀ key ∉ markKeys, n'.metadata.get? key = n.metadata.get? key

namespace Node

theorem ComesOf.refl (n : Node ν) : n.ComesOf n := ⟨rfl, rfl, fun _ _ => rfl⟩

theorem ComesOf.trans {n₁ n₂ n₃ : Node ν} (h₁ : n₁.ComesOf n₂) (h₂ : n₂.ComesOf n₃) :
    n₁.ComesOf n₃ :=
  ⟨h₁.kind_eq.trans h₂.kind_eq, h₁.labels_eq.trans h₂.labels_eq,
    fun key hkey => (h₁.get?_eq key hkey).trans (h₂.get?_eq key hkey)⟩

theorem comesOf_of_bare {n n' : Node ν} (h : n'.bare = n.bare) : n'.ComesOf n where
  kind_eq := (congrArg Node.kind h :)
  labels_eq := (congrArg Node.labels h :)
  get?_eq key _ := (congrArg (fun n => n.metadata.get? key) h :)

theorem SameButMarks.comesOf {n n' : Node ν} (h : n.SameButMarks n') : n'.ComesOf n :=
  ⟨h.kind_eq, h.labels_eq, h.get?_eq⟩

/-- A merged node is one of the two but for its edges. -/
theorem bare_meet (existing n : Node ν) (ns : String) :
    (existing.meet ns n).bare = n.bare ∨ (existing.meet ns n).bare = existing.bare := by
  unfold meet
  split
  · obtain ⟨edges, h⟩ := n.adoptAll_eq existing.edges
    exact .inl (h ▸ rfl)
  · obtain ⟨edges, h⟩ := existing.adoptAll_eq n.edges
    exact .inr (h ▸ rfl)

end Node

namespace TrafficMap

/-- A node of the merged maps is one of theirs but for its edges. -/
theorem exists_of_mem_nodes_mergeAll {maps : List (String × TrafficMap ν)}
    (hwf : ∀ e ∈ maps, e.2.WellFormed) {n : Node ν} (hn : n ∈ (mergeAll maps).nodes) :
    ∃ e ∈ maps, ∃ n₀ ∈ e.2.nodes, n.bare = n₀.bare := by
  induction maps using List.reverseRecOn generalizing n with
  | nil => cases hn
  | append_singleton maps e ih =>
    obtain ⟨hmaps, he⟩ := List.forall_mem_append.mp hwf
    have hmem : e ∈ maps ++ [e] := List.mem_append_right maps List.mem_cons_self
    have hearlier : ∀ {n}, n ∈ (mergeAll maps).nodes →
        ∃ e' ∈ maps ++ [e], ∃ n₀ ∈ e'.2.nodes, n.bare = n₀.bare := fun hn => by
      obtain ⟨e', he', hn₀⟩ := ih hmaps hn
      exact ⟨e', List.mem_append_left _ he', hn₀⟩
    obtain ⟨id, hget⟩ := mem_nodes_iff.mp hn
    rw [mergeAll_append] at hget
    obtain hmine | hother | ⟨existing, n', hmine, hother, rfl⟩ :=
      cases_of_get?_merge (he e List.mem_cons_self).id_eq hget
    · exact hearlier (mem_nodes_iff.mpr ⟨id, hmine⟩)
    · exact ⟨e, hmem, n, mem_nodes_iff.mpr ⟨id, hother⟩, rfl⟩
    · obtain hbare | hbare := existing.bare_meet n' e.1
      · exact ⟨e, hmem, n', mem_nodes_iff.mpr ⟨id, hother⟩, hbare⟩
      · obtain ⟨e', he', n₀, hn₀, heq⟩ := hearlier (mem_nodes_iff.mpr ⟨id, hmine⟩)
        exact ⟨e', he', n₀, hn₀, hbare.trans heq⟩

variable [Quantity ν] {r : Request} {m m' : TrafficMap ν}

/-- Every node comes of one of a map that is drawn for the request. -/
def IsDrawnFor (r : Request) (m : TrafficMap ν) : Prop :=
  ∀ n ∈ m.nodes, ∃ feeds, ∃ d ∈ (ofFeeds r feeds).nodes, n.ComesOf d

theorem isDrawnFor_ofFeeds (r : Request) (feeds : List (Feed ν)) :
    (ofFeeds r feeds).IsDrawnFor r :=
  fun n hn => ⟨feeds, n, hn, .refl n⟩

theorem IsDrawnFor.of_comesOf (h : m.IsDrawnFor r)
    (hm' : ∀ n' ∈ m'.nodes, ∃ n ∈ m.nodes, n'.ComesOf n) : m'.IsDrawnFor r := by
  intro n' hn'
  obtain ⟨n, hn, hcomes⟩ := hm' n' hn'
  obtain ⟨feeds, d, hd, hdrawn⟩ := h n hn
  exact ⟨feeds, d, hd, hcomes.trans hdrawn⟩

theorem isDrawnFor_mergeAll {maps : List (String × TrafficMap ν)}
    (hwf : ∀ e ∈ maps, e.2.WellFormed) (h : ∀ e ∈ maps, e.2.IsDrawnFor r) :
    (mergeAll maps).IsDrawnFor r := by
  intro n hn
  obtain ⟨e, he, n₀, hn₀, hbare⟩ := exists_of_mem_nodes_mergeAll hwf hn
  obtain ⟨feeds, d, hd, hdrawn⟩ := h e he n₀ hn₀
  exact ⟨feeds, d, hd, (Node.comesOf_of_bare hbare).trans hdrawn⟩

theorem IsDrawnFor.classify (h : m.IsDrawnFor r) : (m.classify r).IsDrawnFor r :=
  h.of_comesOf fun n' hn' => by
    obtain ⟨id, hget⟩ := mem_nodes_iff.mp hn'
    obtain ⟨n, hn, hsame⟩ := get?_classify hget
    exact ⟨n, mem_nodes_iff.mpr ⟨id, hn⟩, hsame.comesOf⟩

theorem IsDrawnFor.toServiceGraph (h : m.IsDrawnFor r)
    (hid : ∀ {k n}, m.get? k = some n → n.id = k) (hg : m.toServiceGraph = .ok m') :
    m'.IsDrawnFor r :=
  h.of_comesOf fun n' hn' => by
    obtain ⟨id, hget⟩ := mem_nodes_iff.mp hn'
    obtain ⟨n, edges, hn, rfl⟩ := exists_of_get?_toServiceGraph hid hg hget
    exact ⟨n, mem_nodes_iff.mpr ⟨id, hn⟩, Node.comesOf_of_bare rfl⟩

end TrafficMap

theorem ResponseTime.isDrawnFor_annotate [Quantity ν] {r : Request}
    (times : Times ν) (m : TrafficMap ν) (h : m.IsDrawnFor r) :
    (annotate times m).IsDrawnFor r :=
  h.of_comesOf fun n' hn' => by
    obtain ⟨id, hget⟩ := TrafficMap.mem_nodes_iff.mp hn'
    rw [annotate, TrafficMap.get?_mapNodes] at hget
    obtain ⟨n, hn, rfl⟩ := Option.map_eq_some_iff.mp hget
    exact ⟨n, TrafficMap.mem_nodes_iff.mpr ⟨id, hn⟩, Node.comesOf_of_bare rfl⟩

namespace Request

variable [Quantity ν] {r : Request} {b : Backend ν} {c : Clock} {m : TrafficMap ν}

/-- **Every node of a graph comes of a drawn one.** -/
theorem isDrawnFor_of_isResult (h : r.IsResult b c m) : m.IsDrawnFor r := by
  obtain h | h := h.cases
  · obtain ⟨maps, hmaps, hm⟩ := exists_maps_of_namespacesGraph (TrafficMap.isDrawnFor_ofFeeds r)
      ResponseTime.isDrawnFor_annotate h
    have hwf : ∀ e ∈ maps, e.2.WellFormed := fun e he => (hmaps e he).1
    have hdrawn := (TrafficMap.isDrawnFor_mergeAll hwf fun e he => (hmaps e he).2).classify
    split at hm
    · exact hdrawn.toServiceGraph ((TrafficMap.wellFormed_mergeAll hwf).classify r).id_eq hm
    · exact hm ▸ hdrawn
  · obtain ⟨map, -, hdrawn, rfl⟩ := exists_map_of_nodeGraph (TrafficMap.isDrawnFor_ofFeeds r)
      ResponseTime.isDrawnFor_annotate h
    exact hdrawn.classify

end Request

/-! ## Services of drawn maps -/

/-- The node is flagged as a service entry exactly if it is a service that the request lists. -/
def Node.FlagsEntry (r : Request) (n : Node ν) : Prop :=
  n.isServiceEntry = true ↔ n.kind = .service ∧ n.labels.service ∈ r.serviceEntryHosts

theorem Node.ComesOf.flagsEntry {r : Request} {n n' : Node ν} (h : n'.ComesOf n)
    (hn : n.FlagsEntry r) : n'.FlagsEntry r := by
  have hflag : n'.isServiceEntry = n.isServiceEntry := by
    rw [isServiceEntry, flag, Metadata.flag, h.get?_eq _ (by decide)]
    rfl
  rwa [FlagsEntry, hflag, h.kind_eq, h.labels_eq]

/-- What leaves from a service has arrived there as another hop of the same traffic. -/
theorem Attribution.exists_hop_to_source {a : Attribution} (ha : a.source.service = "")
    {r : Request} {hop : Hop} (hhop : hop ∈ a.hops r)
    (hkind : (hop.source.resolve r.type).kind = .service) :
    ∃ hop' ∈ a.hops r, hop'.dest = hop.source := by
  have hsource : (a.source.resolve r.type).kind ≠ .service :=
    Labels.kind_resolve_ne_service (by rw [ha]; decide) r.type
  obtain ⟨hpasses, rfl | rfl⟩ | ⟨-, rfl⟩ := cases_of_mem_hops hhop
  · exact absurd hkind hsource
  · rw [hops, if_pos hpasses]
    exact ⟨_, List.mem_cons_self, rfl⟩
  · exact absurd hkind hsource

namespace TrafficMap

variable [Quantity ν] {r : Request} {feeds : List (Feed ν)}

/-- **Traffic arrives at every service of a drawn map.** -/
theorem exists_destId_eq {id : NodeId} {n : Node ν} (hn : (ofFeeds r feeds).get? id = some n)
    (hkind : n.kind = .service) :
    ∃ o ∈ feeds.flatMap (Feed.observations r), o.destId r = id := by
  have hid : id.kind = .service :=
    (hasKinds_foldl_draw hasKinds_empty r _ id n hn).symm.trans hkind
  obtain hempty | ⟨o, ho, hsource | hdest⟩ :=
    contains_foldl_draw.mp (ArrivalMap.contains_of_get? hn)
  · cases hempty
  · obtain ⟨f, hf, hof⟩ := List.mem_flatMap.mp ho
    rw [Feed.observations_eq_acceptedHops] at hof
    obtain ⟨s, hs, a, ha, hop, hhop, rfl⟩ := Feed.mem_acceptedHops_iff.mp hof
    have hservice : (hop.source.resolve r.type).kind = .service := by
      rw [← Labels.kind_id_resolve, ← hid, hsource]
      rfl
    have hempty : a.source.service = "" :=
      (Attribution.ofLabels?_eq_some_iff.mp ha).1.2.2.2.2
    obtain ⟨hop', hhop', heq⟩ := Attribution.exists_hop_to_source hempty hhop hservice
    refine ⟨⟨f.flow s, hop', s.value⟩, List.mem_flatMap.mpr ⟨f, hf, ?_⟩, ?_⟩
    · rw [Feed.observations_eq_acceptedHops]
      exact Feed.mem_acceptedHops_iff.mpr ⟨s, hs, a, ha, hop', hhop', rfl⟩
    · rw [Observation.destId, hsource, Observation.sourceId, heq]
  · exact ⟨o, ho, hdest.symm⟩

/-- An observation that ends at a node finds a listed service there exactly if the node is one. -/
theorem entersMesh_iff {n : Node ν} (hn : n ∈ (ofFeeds r feeds).nodes) {o : Observation ν}
    (ho : o.destId r = n.id) :
    entersMesh r o = true ↔ n.kind = .service ∧ n.labels.service ∈ r.serviceEntryHosts := by
  have hnamed := isNamedByLabels_of_mem_ofFeeds hn
  have hresolve : (o.hop.dest.resolve r.type).id = (n.labels.resolve r.type).id :=
    ho.trans (congrArg Identity.id hnamed).symm
  obtain ⟨hkind, hfields⟩ := Labels.ownFields_of_id_eq hresolve
  have hnkind : (o.hop.dest.resolve r.type).kind = n.kind :=
    hkind.trans (congrArg Identity.kind hnamed)
  rw [hnkind] at hfields
  rw [entersMesh, hnkind, Bool.and_eq_true, decide_eq_true_eq, decide_eq_true_eq]
  refine and_congr_right fun hservice => ?_
  rw [hservice] at hfields
  have heq : o.hop.dest.service = n.labels.service := by
    simpa [Labels.ownFields] using (List.cons.inj hfields).2
  rw [heq]

/-- **In drawn maps the service entries are flagged**, and nothing else is. -/
theorem flagsEntry_of_mem_ofFeeds {n : Node ν} (hn : n ∈ (ofFeeds r feeds).nodes) :
    n.FlagsEntry r := by
  obtain ⟨id, hget⟩ := mem_nodes_iff.mp hn
  have hid : n.id = id := (wellFormed_ofFeeds r feeds).id_eq hget
  have hflag : n.isServiceEntry = true ↔
      ∃ o ∈ feeds.flatMap (Feed.observations r), o.destId r = id ∧ entersMesh r o = true := by
    have hstored : n.metadata.get? Key.isServiceEntry = _ := metadataAt_of_get? hget ▸
      isServiceEntry_foldl_draw r (feeds.flatMap (Feed.observations r)) ∅ id
    rw [Node.isServiceEntry, Node.flag, Metadata.flag, hstored]
    split
    · next hentry => exact iff_of_true rfl hentry
    · next hentry => exact iff_of_false Bool.false_ne_true hentry
  rw [Node.FlagsEntry, hflag]
  constructor
  · rintro ⟨o, -, hdest, henters⟩
    exact (entersMesh_iff hn (hdest.trans hid.symm)).mp henters
  · intro hlisted
    obtain ⟨o, ho, hdest⟩ := exists_destId_eq hget hlisted.1
    exact ⟨o, ho, hdest, (entersMesh_iff hn (hdest.trans hid.symm)).mpr hlisted⟩

end TrafficMap

namespace Request

variable [Quantity ν] {r : Request} {b : Backend ν} {c : Clock} {m : TrafficMap ν}

/-- **Service entries are recognised wherever they appear**: in every graph, a node is flagged as
one exactly if it is a service that the request lists. It is out of reach then, and never outside,
whatever its namespace. -/
theorem serviceEntries_of_isResult (h : r.IsResult b c m) :
    ∀ n ∈ m.nodes, n.FlagsEntry r ∧ (n.isServiceEntry = true →
      n.flag Key.isInaccessible = true ∧ n.flag Key.isOutside = false) := by
  intro n hn
  obtain ⟨feeds, d, hd, hcomes⟩ := isDrawnFor_of_isResult h n hn
  have hflags : n.FlagsEntry r := hcomes.flagsEntry (TrafficMap.flagsEntry_of_mem_ofFeeds hd)
  refine ⟨hflags, fun hentry => ?_⟩
  obtain ⟨id, hget⟩ := TrafficMap.mem_nodes_iff.mp hn
  have hmarked : n.IsMarkedFor r := isMarkedFor_of_isResult h id n hget
  have hbeyond : n.isBeyondReach = true := by
    simp [Node.isBeyondReach, hentry, (hflags.mp hentry).1]
  refine ⟨hmarked.isInaccessible_iff.mpr (.inl hbeyond), ?_⟩
  rw [Bool.eq_false_iff, ne_eq, hmarked.isOutside_iff, hbeyond]
  simp

/-! ## A service entry in a service graph -/

/-- A request for the services of the namespace `a` that lists a service entry. -/
def listingApi : Request :=
  withNamespace
    { queryTime := default, type := .service, serviceEntryHosts := .ofNames ["api.example.com"] }
    "a" 600

/-- A workload of `a` calls two services of another namespace, of which one is listed. -/
def callsApi : Backend Rat := fun _ =>
  .ok [.ofWorkload "a" "client" ⟨"ext", "egress", "", "", "api.example.com"⟩ 2,
    .ofWorkload "a" "client" ⟨"ext", "egress", "", "", "plain"⟩ 1]

/-- The listed service is flagged, though traffic leaves from it as well, and lies out of reach; the
other one lies outside. -/
theorem serviceEntries_of_isResult_listingApi :
    ∃ m, listingApi.IsResult callsApi ⟨0, none, none⟩ m ∧
      m.nodes.map (fun n => (n.id.text, n.isServiceEntry, n.flag Key.isInaccessible,
        n.flag Key.isOutside)) =
          [("wl_a_client", false, false, false),
            ("svc_ext_api.example.com", true, true, false),
            ("svc_ext_plain", false, true, true)] ∧
      ∀ n ∈ m.nodes, n.FlagsEntry listingApi ∧ (n.isServiceEntry = true →
        n.flag Key.isInaccessible = true ∧ n.flag Key.isOutside = false) := by
  have hgraph : (listingApi.graph [] callsApi ⟨0, none, none⟩).result.toOption.bind (fun m =>
      some (m.nodes.map fun n => (n.id.text, n.isServiceEntry, n.flag Key.isInaccessible,
        n.flag Key.isOutside))) =
          some [("wl_a_client", false, false, false),
            ("svc_ext_api.example.com", true, true, false),
            ("svc_ext_plain", false, true, true)] := by
    decide +kernel
  obtain ⟨m, hm, hflags⟩ := exists_ok_of_bind_toOption hgraph
  exact ⟨m, .inl hm, Option.some.inj hflags, serviceEntries_of_isResult (.inl hm)⟩

end Request

end MeshTraffic
