import MeshTraffic.Proofs.Balance
import MeshTraffic.Proofs.Sightings

/-!
# The order of samples

What a drawn map holds is told by what was observed, not by when. Only the labels of a node may
depend on the order, where the sightings of the node do not agree on them.

* `TrafficMap.metadataAt_perm`, `TrafficMap.carried?_perm`: what nodes and edges hold does not
  depend on the order of the observations.
* `TrafficMap.IsReorderingOf`: two maps differ in the order of nodes and edges alone, and in labels
  that their nodes are flagged with.
* `SameSamples`, `Feed.perm_observations`: feeds of the same samples observe the same.
* `TrafficMap.ofFeeds_isReordering`: so their maps are the same but for the order.
* `TrafficMap.not_forall_isReordering`: the workload of a versioned app does tell the order.
-/

namespace MeshTraffic

variable {ν : Type}

/-! ## Sums in any order -/

theorem eq_nil_iff_of_perm {α : Type} {l l' : List α} (h : l.Perm l') : l = [] ↔ l' = [] := by
  rw [← List.length_eq_zero_iff, h.length_eq, List.length_eq_zero_iff]

theorem amountsOf_perm (key : String) {l l' : List (String × ν)} (h : l.Perm l') :
    (amountsOf key l).Perm (amountsOf key l') := (h.filter _).map _

section

variable [Quantity ν] [LawfulQuantity ν]

theorem Metadata.counterOf_perm {amounts amounts' : List ν} (h : amounts.Perm amounts') :
    counterOf amounts = counterOf amounts' := by
  rw [counterOf, counterOf, h.sum_eq]
  simp only [eq_nil_iff_of_perm h]

theorem Metadata.sumAll_empty_perm {l l' : List (String × ν)} (h : l.Perm l') :
    sumAll (∅ : Metadata ν) l = sumAll ∅ l' := by
  apply SortedMap.ext_get?
  intro key
  rw [get?_sumAll_empty, get?_sumAll_empty, counterOf_perm (amountsOf_perm key h)]

end

/-! ## Service entries -/

theorem Metadata.get?_acknowledge_isServiceEntry (isEntry : Bool) (service : String)
    (m : Metadata ν) :
    (m.acknowledge isEntry service).get? Key.isServiceEntry =
      if isEntry then some (.flag true) else m.get? Key.isServiceEntry := by
  have hflag : (m.flagEntry isEntry).get? Key.isServiceEntry =
      if isEntry then some (.flag true) else m.get? Key.isServiceEntry := by
    cases isEntry <;> simp [flagEntry]
  unfold acknowledge
  split
  · exact hflag
  · rw [get?_addName, if_neg (by decide), hflag]

namespace TrafficMap

section

variable [Quantity ν]

/-- An observation marks the node that it ends at if this is listed as a service entry. -/
theorem isServiceEntry_draw (r : Request) (o : Observation ν) (m : TrafficMap ν) (id : NodeId) :
    ((m.draw r o).metadataAt id).get? Key.isServiceEntry =
      if o.destId r = id ∧ entersMesh r o = true then some (.flag true)
      else (m.metadataAt id).get? Key.isServiceEntry := by
  have hne : Key.isServiceEntry ≠ Key.isMisconfigured := by decide
  have hsource : ((drawSource r o m).metadataAt id).get? Key.isServiceEntry =
      (m.metadataAt id).get? Key.isServiceEntry := by
    rw [drawSource, metadataAt_insert]
    split
    · next h => rw [Node.get?_send _ _ _ _ (by decide), get?_encounter _ _ _ _ hne, h]; rfl
    · rfl
  rw [draw_eq, drawDest, metadataAt_insert]
  by_cases h : id = o.destId r
  · subst h
    have hencounter := get?_encounter (drawSource r o m) r.type o.hop.dest o.value hne
    rw [if_pos rfl, Node.get?_receive _ _ _ _ _ (by decide),
      Metadata.get?_acknowledge_isServiceEntry, hencounter.trans hsource]
    simp
  · rw [if_neg h, hsource, if_neg fun hd => h hd.1.symm]

/-- **The service entries are the listed services that some observation ends at.** -/
theorem isServiceEntry_foldl_draw (r : Request) (os : List (Observation ν)) (m : TrafficMap ν)
    (id : NodeId) :
    (metadataAt (os.foldl (draw r) m) id).get? Key.isServiceEntry =
      if ∃ o ∈ os, o.destId r = id ∧ entersMesh r o = true then some (.flag true)
      else (m.metadataAt id).get? Key.isServiceEntry := by
  induction os generalizing m with
  | nil => simp
  | cons o os ih =>
    rw [List.foldl_cons, ih, isServiceEntry_draw]
    by_cases hos : ∃ o ∈ os, o.destId r = id ∧ entersMesh r o = true
    · simp [hos]
    · by_cases ho : o.destId r = id ∧ entersMesh r o = true
      · simp [ho]
      · simp [hos, ho]

end

/-! ## What a map holds -/

/-- A node is flagged with what its sightings do not agree on; what is not there is not flagged. -/
theorem Shows.flags_metadataAt {type : GraphType} {ends : List Labels} {m : TrafficMap ν}
    (h : m.Shows type ends) (id : NodeId) :
    (m.metadataAt id).get? Key.isMisconfigured =
      Metadata.namesOf (mixedLabels (sightings type id ends)) := by
  cases hget : m.get? id with
  | none =>
    rw [metadataAt, hget, h.sightings_eq hget]
    rfl
  | some n =>
    rw [metadataAt_of_get? hget]
    exact (h.node hget).flags_eq

/-- The sightings of a node do not depend on the order of the observations. -/
theorem mem_sightings_perm {os os' : List (Observation ν)} (h : os.Perm os') (type : GraphType)
    (id : NodeId) (s : Labels) :
    s ∈ sightings type id (os.flatMap Observation.ends) ↔
      s ∈ sightings type id (os'.flatMap Observation.ends) :=
  (((h.flatMap_right _).filter _).map _).mem_iff

/-- What two nodes agree on that keep to the same sightings of one node. -/
theorem agree_of_shows {type : GraphType} {id : NodeId} {ends ends' : List Labels} {n n' : Node ν}
    (hn : n.Shows (sightings type id ends)) (hn' : n'.Shows (sightings type id ends'))
    (hmem : ∀ s, s ∈ sightings type id ends ↔ s ∈ sightings type id ends') :
    n.labels.ns = n'.labels.ns ∧ n.labels.service = n'.labels.service ∧
      (¬ (id.kind = .versionedApp ∧ Differs Labels.workload (sightings type id ends)) →
        n.labels.workload = n'.labels.workload) ∧
      (mixedLabels (sightings type id ends) = [] →
        n.labels.app = n'.labels.app ∧ n.labels.version = n'.labels.version) := by
  obtain ⟨first, hfirst, trusted, htrusted, hlabels⟩ := hn.labels_eq
  obtain ⟨first', hfirst', trusted', htrusted', hlabels'⟩ := hn'.labels_eq
  have hs : first ∈ sightings type id ends := List.mem_of_head? hfirst
  have hs' : first' ∈ sightings type id ends := (hmem _).mpr (List.mem_of_head? hfirst')
  have ht' : trusted' ∈ sightings type id ends := (hmem _).mpr htrusted'
  have hagree : first.ns = first'.ns ∧ first.service = first'.service ∧
      (id.kind ≠ .versionedApp → first.workload = first'.workload) := by
    obtain ⟨l, -, hid, rfl⟩ := mem_sightings.mp hs
    obtain ⟨l', -, hid', rfl⟩ := mem_sightings.mp hs'
    obtain ⟨hns, hservice, hworkload, -⟩ := Labels.shown_agree (hid.trans hid'.symm)
    refine ⟨hns, hservice, fun hkind => hworkload ?_⟩
    rwa [← Labels.kind_id_resolve, hid]
  rw [hlabels, hlabels']
  refine ⟨hagree.1, hagree.2.1, fun h => ?_, fun h => ?_⟩
  · by_cases hkind : id.kind = .versionedApp
    · by_contra hne
      exact h ⟨hkind, first, hs, first', hs', hne⟩
    · exact hagree.2.2 hkind
  · have happ : ¬ Differs Labels.app (sightings type id ends) := by
      intro hd
      simp [mixedLabels, hd] at h
    have hversion : ¬ Differs Labels.version (sightings type id ends) := by
      intro hd
      simp [mixedLabels, hd] at h
    constructor
    · by_contra hne
      exact happ ⟨trusted, htrusted, trusted', ht', hne⟩
    · by_contra hne
      exact hversion ⟨trusted, htrusted, trusted', ht', hne⟩

/-! ## Maps in another order -/

/-- The two maps hold the same, if in another order. Only the labels of flagged nodes may not be
the same, and the workloads of those that `loose` allows. -/
structure IsReorderingOf (loose : NodeId → Prop) (m m' : TrafficMap ν) : Prop where
  contains_iff : ∀ id, m.contains id = true ↔ m'.contains id = true
  node_eq : ∀ {id n n'}, m.get? id = some n → m'.get? id = some n' →
    n.kind = n'.kind ∧ n.labels.ns = n'.labels.ns ∧ n.labels.service = n'.labels.service ∧
      n.metadata = n'.metadata
  /-- At every place there is the same edge in both. -/
  edge_eq : ∀ p, m.carried? p = m'.carried? p
  labels_eq : ∀ {id n n'}, m.get? id = some n → m'.get? id = some n' →
    n.metadata.get? Key.isMisconfigured = none →
      n.labels.app = n'.labels.app ∧ n.labels.version = n'.labels.version ∧
        (¬ loose id → n.labels.workload = n'.labels.workload)

/-- A versioned app whose sightings do not agree on the workload. -/
def HasLooseWorkload (r : Request) (os : List (Observation ν)) (id : NodeId) : Prop :=
  id.kind = .versionedApp ∧
    Differs Labels.workload (sightings r.type id (os.flatMap Observation.ends))

variable [Quantity ν] [LawfulQuantity ν] (r : Request) {os os' : List (Observation ν)}

/-- What an edge carries does not depend on the order of the observations. -/
theorem carried?_perm (h : os.Perm os') (p : Place) :
    carried? (os.foldl (draw r) ∅) p = carried? (os'.foldl (draw r) ∅) p := by
  have hpassing : (os.filter (·.place r = p)).Perm (os'.filter (·.place r = p)) := h.filter _
  rw [carried?_foldl_draw, carried?_foldl_draw]
  simp only [eq_nil_iff_of_perm hpassing]
  split
  · rfl
  · exact congrArg some (Metadata.sumAll_empty_perm (hpassing.flatMap_right _))

/-- What a node holds does not depend on the order of the observations. -/
theorem metadataAt_perm (h : os.Perm os') (id : NodeId) :
    metadataAt (os.foldl (draw r) ∅) id = metadataAt (os'.foldl (draw r) ∅) id := by
  apply SortedMap.ext_get?
  intro key
  by_cases hkey : key ∈ labelKeys
  · simp only [labelKeys, List.mem_cons, List.not_mem_nil, or_false] at hkey
    rcases hkey with rfl | rfl | rfl
    · rw [(shows_foldl_draw r os).flags_metadataAt, (shows_foldl_draw r os').flags_metadataAt,
        mixedLabels_congr fun s => mem_sightings_perm h r.type id s]
    · rw [destServices_foldl_draw, destServices_foldl_draw]
      have hservices : ∀ s, s ∈ os.flatMap (Observation.servicesAt r id) ↔
          s ∈ os'.flatMap (Observation.servicesAt r id) := fun s => (h.flatMap_right _).mem_iff
      exact (Metadata.get?_addNames_empty ..).trans
        ((Metadata.namesOf_congr hservices).trans (Metadata.get?_addNames_empty ..).symm)
    · rw [isServiceEntry_foldl_draw, isServiceEntry_foldl_draw]
      simp only [h.mem_iff]
  · rw [get?_foldl_draw r os ∅ id hkey, get?_foldl_draw r os' ∅ id hkey]
    exact congrArg (SortedMap.get? · key) (Metadata.sumAll_empty_perm (h.flatMap_right _))

/-- **The order of observations does not matter**, but for the labels that sightings of a node do
not agree on. -/
theorem isReordering_foldl_draw (h : os.Perm os') :
    IsReorderingOf (HasLooseWorkload r os) (os.foldl (draw r) ∅) (os'.foldl (draw r) ∅) where
  contains_iff id := by
    rw [contains_foldl_draw, contains_foldl_draw]
    simp only [h.mem_iff]
  node_eq {id n n'} hn hn' := by
    have hshows := shows_foldl_draw r os
    have hshows' := shows_foldl_draw r os'
    obtain ⟨hns, hservice, -, -⟩ := agree_of_shows (hshows.node hn) (hshows'.node hn')
      (mem_sightings_perm h r.type id)
    refine ⟨(hshows.hasKinds id n hn).trans (hshows'.hasKinds id n' hn').symm, hns, hservice, ?_⟩
    rw [← metadataAt_of_get? hn, metadataAt_perm r h, metadataAt_of_get? hn']
  edge_eq := carried?_perm r h
  labels_eq {id n n'} hn hn' hflags := by
    have hshows := (shows_foldl_draw r os).node hn
    obtain ⟨-, -, hworkload, hlabels⟩ := agree_of_shows hshows
      ((shows_foldl_draw r os').node hn') (mem_sightings_perm h r.type id)
    have hmixed : mixedLabels (sightings r.type id (os.flatMap Observation.ends)) = [] := by
      rw [hshows.flags_eq, Metadata.namesOf] at hflags
      by_contra hne
      rw [if_neg hne] at hflags
      cases hflags
    obtain ⟨happ, hversion⟩ := hlabels hmixed
    exact ⟨happ, hversion, hworkload⟩

end TrafficMap

/-! ## Feeds in another order -/

/-- The samples of the feed that tell of traffic over the protocol. -/
def Feed.samplesOf (p : Protocol) : Feed ν → List (Sample ν)
  | .http samples => if p = .http then samples else []
  | .tcp samples => if p = .tcp then samples else []

/-- The feeds hold the same samples of request counters and of byte counters, in any order. -/
def SameSamples (feeds feeds' : List (Feed ν)) : Prop :=
  ∀ p, (feeds.flatMap (Feed.samplesOf p)).Perm (feeds'.flatMap (Feed.samplesOf p))

section

variable [Quantity ν]

/-- The requests may be read first, and then the bytes. -/
theorem Feed.perm_observations (r : Request) (feeds : List (Feed ν)) :
    (feeds.flatMap (Feed.observations r)).Perm
      ((feeds.flatMap (Feed.samplesOf .http)).flatMap
          (Sample.observations r Sample.requestFlow?) ++
        (feeds.flatMap (Feed.samplesOf .tcp)).flatMap
          (Sample.observations r fun _ => some .tcp)) := by
  induction feeds with
  | nil => exact .nil
  | cons f feeds ih =>
    simp only [List.flatMap_cons, List.flatMap_append]
    cases f with
    | http samples =>
      have hnone : samplesOf .tcp (.http samples) = [] := rfl
      rw [hnone, List.flatMap_nil, List.nil_append, List.append_assoc]
      exact ih.append_left _
    | tcp samples =>
      have hnone : samplesOf .http (.tcp samples) = [] := rfl
      rw [hnone, List.flatMap_nil, List.nil_append]
      refine (ih.append_left _).trans ?_
      rw [← List.append_assoc, ← List.append_assoc]
      exact List.perm_append_comm.append_right _

theorem SameSamples.perm_observations {feeds feeds' : List (Feed ν)} (h : SameSamples feeds feeds')
    (r : Request) :
    (feeds.flatMap (Feed.observations r)).Perm (feeds'.flatMap (Feed.observations r)) :=
  (Feed.perm_observations r feeds).trans
    ((((h .http).flatMap_right _).append ((h .tcp).flatMap_right _)).trans
      (Feed.perm_observations r feeds').symm)

namespace TrafficMap

/-- **The order of samples does not matter**: feeds of the same samples have the same map, but for
the order of nodes and edges, for labels that a node is flagged with, and for the workload of a
versioned app that is sighted under several. -/
theorem ofFeeds_isReordering [LawfulQuantity ν] (r : Request) {feeds feeds' : List (Feed ν)}
    (h : SameSamples feeds feeds') :
    IsReorderingOf (HasLooseWorkload r (feeds.flatMap (Feed.observations r)))
      (ofFeeds r feeds) (ofFeeds r feeds') :=
  isReordering_foldl_draw r (h.perm_observations r)

end TrafficMap

end

/-! ## Two workloads of one version -/

namespace TrafficMap

/-- A request that tells versions apart. -/
def byVersion : Request := { queryTime := default, type := .versionedApp }

/-- Requests to one of the workloads of a version. -/
def toReviews (workload : String) (x : Rat) : Sample Rat :=
  .into ⟨"a", workload, "reviews", "v1", "reviews"⟩ x

/-- Requests to two workloads of one version. -/
def twoWorkloads : List (Feed Rat) := [.http [toReviews "reviews-a" 1, toReviews "reviews-b" 2]]

/-- The same the other way round. -/
def twoWorkloadsSwapped : List (Feed Rat) :=
  [.http [toReviews "reviews-b" 2, toReviews "reviews-a" 1]]

theorem sameSamples_twoWorkloads : SameSamples twoWorkloads twoWorkloadsSwapped := by
  intro p
  cases p with
  | http => exact .swap ..
  | tcp => exact .nil
  | other name => exact .nil

/-- The maps hold the same in either order. -/
theorem ofFeeds_isReordering_twoWorkloads :
    LawfulQuantity Rat ∧ SameSamples twoWorkloads twoWorkloadsSwapped ∧
      (ofFeeds byVersion twoWorkloads).keys.map NodeId.text = ["unknown", "vapp_a_reviews_v1"] ∧
      IsReorderingOf
        (HasLooseWorkload byVersion (twoWorkloads.flatMap (Feed.observations byVersion)))
        (ofFeeds byVersion twoWorkloads) (ofFeeds byVersion twoWorkloadsSwapped) :=
  ⟨inferInstance, sameSamples_twoWorkloads, by decide +kernel,
    ofFeeds_isReordering byVersion sameSamples_twoWorkloads⟩

/-- The node of a version keeps the workload of its first sample, so the order is told by it. -/
theorem not_forall_isReordering :
    ¬ ∀ (r : Request) (feeds feeds' : List (Feed Rat)), SameSamples feeds feeds' →
      IsReorderingOf (fun _ => False) (ofFeeds r feeds) (ofFeeds r feeds') := by
  intro h
  have hsame := h byVersion _ _ sameSamples_twoWorkloads
  let reviews : NodeId := ⟨"vapp_a_reviews_v1"⟩
  have hfirst : ((ofFeeds byVersion twoWorkloads).get? reviews).map
      (fun n => (n.labels.workload, n.metadata.get? Key.isMisconfigured)) =
        some ("reviews-a", none) := by decide +kernel
  have hswapped : ((ofFeeds byVersion twoWorkloadsSwapped).get? reviews).map
      (fun n => n.labels.workload) = some "reviews-b" := by decide +kernel
  obtain ⟨n, hn, hfacts⟩ := Option.map_eq_some_iff.mp hfirst
  obtain ⟨n', hn', hworkload'⟩ := Option.map_eq_some_iff.mp hswapped
  obtain ⟨hworkload, hflags⟩ := Prod.mk.inj hfacts
  obtain ⟨-, -, hequal⟩ := hsame.labels_eq hn hn' hflags
  have habsurd : "reviews-a" = "reviews-b" := hworkload ▸ hworkload' ▸ hequal id
  exact absurd habsurd (by decide)

end TrafficMap

end MeshTraffic
