import MeshTraffic.Proofs.Sightings

/-!
# Labels of the active series

Series of one workload may differ in their app and version. A workload is flagged with what they
differ in, whichever pair of them it is, although each is compared only with what the node shows at
the time. It shows the labels of the last series with traffic.

* `active?`: the last encounter with traffic, or else the first one.
* `Node.Follows`, `Node.keepsTrack_follows`: a node shows the app and version of it.
* `Node.IsReconciled`, `Node.IsAsCreated`: what workloads and other nodes tell of their encounters.
* `TrafficMap.ofFeeds_reconciles`: the nodes of every drawn map do.
-/

namespace MeshTraffic

variable {ν : Type} [Quantity ν]

/-! ## Active encounters -/

/-- The last encounter with traffic, or the first encounter if none has any. -/
def active? (es : List (Encounter ν)) : Option (Encounter ν) :=
  (es.filter fun e => Quantity.isPositive e.value).getLast?.or es.head?

theorem active?_singleton (e : Encounter ν) : active? [e] = some e := by
  by_cases hpos : Quantity.isPositive e.value = true <;> simp [active?, hpos]

/-- One more encounter is the active one if it has traffic. -/
theorem active?_concat {es : List (Encounter ν)} (h : es ≠ []) (e : Encounter ν) :
    active? (es ++ [e]) = if Quantity.isPositive e.value then some e else active? es := by
  obtain ⟨e', es, rfl⟩ := List.exists_cons_of_ne_nil h
  by_cases hpos : Quantity.isPositive e.value = true <;> simp [active?, hpos]

theorem mem_of_active? {es : List (Encounter ν)} {e : Encounter ν} (h : active? es = some e) :
    e ∈ es := by
  obtain hlast | ⟨-, hfirst⟩ := Option.or_eq_some_iff.mp h
  · exact (List.mem_filter.mp (List.mem_of_getLast? hlast)).1
  · exact List.mem_of_head? hfirst

namespace Node

/-- The node shows the app and version of its active encounter. -/
def Follows (type : GraphType) (es : List (Encounter ν)) (n : Node ν) : Prop :=
  ∃ e, active? es = some e ∧ n.labels.app = (e.labels.shown type).app ∧
    n.labels.version = (e.labels.shown type).version

/-- **A node shows the app and version of its active encounter**, whatever it encounters. -/
theorem keepsTrack_follows (type : GraphType) :
    KeepsTrack type fun es (n : Node ν) => n.Follows type es where
  first e := ⟨e, active?_singleton e, rfl, rfl⟩
  next {es n} h e hkind hids := by
    obtain ⟨e', hactive, happ, hversion⟩ := h
    have hmem : e' ∈ es := mem_of_active? hactive
    unfold Follows
    rw [active?_concat (List.ne_nil_of_mem hmem)]
    by_cases hloose : hasLooseLabels n.kind type = true
    · obtain ⟨hshown, hshown'⟩ := Labels.shown_of_hasLooseLabels (hkind ▸ hloose)
      rw [labels_reconcile hloose]
      split
      · exact ⟨e, rfl, hshown.symm, hshown'.symm⟩
      · exact ⟨e', hactive, happ, hversion⟩
    · -- all encounters show the same app and version
      obtain ⟨hsame, hsame'⟩ :=
        Labels.shown_eq_of_not_hasLooseLabels (hkind ▸ hloose) (hids e' hmem)
      rw [reconcile_of_not_hasLooseLabels hloose]
      split
      · exact ⟨e, rfl, happ.trans hsame, hversion.trans hsame'⟩
      · exact ⟨e', hactive, happ, hversion⟩
  congr {es n n'} h hlabels _ := by
    unfold Follows
    rw [hlabels]
    exact h

end Node

/-! ## Flagged labels -/

/-- Two of the encounters differ in what is known of the label. -/
def DiffersIn (label : Labels → String) (es : List (Encounter ν)) : Prop :=
  ∃ e ∈ es, ∃ e' ∈ es, knownPart (label e.labels) ≠ knownPart (label e'.labels)

namespace Node

/-- What series of the node do not agree on. -/
def misconfigured (n : Node ν) : NameSet := (n.metadata.names? Key.isMisconfigured).getD ∅

/-- The node is flagged with the labels that its encounters differ in, and shows those of the active
one. -/
structure IsReconciled (es : List (Encounter ν)) (n : Node ν) : Prop where
  mem_iff : ∀ label, label ∈ n.misconfigured ↔
    label = "app" ∧ DiffersIn Labels.app es ∨ label = "version" ∧ DiffersIn Labels.version es
  get?_eq_none : ¬ DiffersIn Labels.app es → ¬ DiffersIn Labels.version es →
    n.metadata.get? Key.isMisconfigured = none
  labels_eq : ∃ e, active? es = some e ∧ n.labels.app = knownPart e.labels.app ∧
    n.labels.version = knownPart e.labels.version

/-- The node is not flagged, and shows the app and version that it got from its first encounter. -/
structure IsAsCreated (type : GraphType) (es : List (Encounter ν)) (n : Node ν) : Prop where
  get?_eq_none : n.metadata.get? Key.isMisconfigured = none
  labels_eq : ∃ e, es.head? = some e ∧
    n.labels.app = (ofLabels e.labels type : Node ν).labels.app ∧
    n.labels.version = (ofLabels e.labels type : Node ν).labels.version

omit [Quantity ν] in
theorem differs_map_iff {label : Labels → String} {type : GraphType} {es : List (Encounter ν)}
    (h : ∀ e ∈ es, label (e.labels.shown type) = knownPart (label e.labels)) :
    Differs label (es.map fun e => e.labels.shown type) ↔ DiffersIn label es := by
  constructor
  · rintro ⟨s, hs, s', hs', hne⟩
    obtain ⟨e, he, rfl⟩ := List.mem_map.mp hs
    obtain ⟨e', he', rfl⟩ := List.mem_map.mp hs'
    exact ⟨e, he, e', he', h e he ▸ h e' he' ▸ hne⟩
  · rintro ⟨e, he, e', he', hne⟩
    rw [← h e he, ← h e' he'] at hne
    exact ⟨_, List.mem_map_of_mem he, _, List.mem_map_of_mem he', hne⟩

variable {type : GraphType} {es : List (Encounter ν)} {n : Node ν}

/-- A workload shows what is known of the app and the version of its encounters. -/
theorem isReconciled_of_shows (hshows : n.Shows (es.map fun e => e.labels.shown type))
    (hfollows : n.Follows type es)
    (hkind : ∀ e ∈ es, (e.labels.resolve type).kind = .workload) : n.IsReconciled es := by
  have hknown : ∀ e ∈ es, (e.labels.shown type).app = knownPart e.labels.app ∧
      (e.labels.shown type).version = knownPart e.labels.version := by
    intro e he
    exact Labels.shown_of_hasLooseLabels (by rw [hkind e he]; rfl)
  have happ : Differs Labels.app (es.map fun e => e.labels.shown type) ↔
      DiffersIn Labels.app es := differs_map_iff fun e he => (hknown e he).1
  have hversion : Differs Labels.version (es.map fun e => e.labels.shown type) ↔
      DiffersIn Labels.version es := differs_map_iff fun e he => (hknown e he).2
  obtain ⟨e, hactive, hlabels⟩ := hfollows
  obtain ⟨heapp, heversion⟩ := hknown e (mem_of_active? hactive)
  refine ⟨fun label => ?_, fun hnone hnone' => ?_, e, hactive, heapp ▸ hlabels.1,
    heversion ▸ hlabels.2⟩
  · rw [misconfigured, Metadata.mem_of_get?_eq_namesOf hshows.flags_eq, mixedLabels, ← happ,
      ← hversion, List.mem_append]
    simp [and_comm]
  · rw [hshows.flags_eq, mixedLabels_eq_nil (mt happ.mp hnone) (mt hversion.mp hnone')]
    rfl

/-- All encounters with a node that is no workload show the same app and version. -/
theorem isAsCreated_of_shows {id : NodeId}
    (hshows : n.Shows (es.map fun e => e.labels.shown type)) (hfollows : n.Follows type es)
    (hids : ∀ e ∈ es, (e.labels.resolve type).id = id) (hkind : id.kind ≠ .workload) :
    n.IsAsCreated type es := by
  have hsame : ∀ e ∈ es, ∀ e' ∈ es, (e.labels.shown type).app = (e'.labels.shown type).app ∧
      (e.labels.shown type).version = (e'.labels.shown type).version := by
    intro e he e' he'
    obtain ⟨-, -, -, hagree⟩ := Labels.shown_agree ((hids e he).trans (hids e' he').symm)
    refine hagree fun hworkload => hkind ?_
    rw [← hids e he, Labels.kind_id_resolve, hworkload]
  refine ⟨?_, ?_⟩
  · have happ : ¬ Differs Labels.app (es.map fun e => e.labels.shown type) := by
      refine not_differs ?_
      simp only [List.forall_mem_map]
      exact fun e he e' he' => (hsame e he e' he').1
    have hversion : ¬ Differs Labels.version (es.map fun e => e.labels.shown type) := by
      refine not_differs ?_
      simp only [List.forall_mem_map]
      exact fun e he e' he' => (hsame e he e' he').2
    rw [hshows.flags_eq, mixedLabels_eq_nil happ hversion]
    rfl
  · obtain ⟨e, hactive, happ, hversion⟩ := hfollows
    have hmem : e ∈ es := mem_of_active? hactive
    obtain ⟨first, hfirst⟩ := Option.ne_none_iff_exists'.mp
      (mt List.head?_eq_none_iff.mp (List.ne_nil_of_mem hmem))
    obtain ⟨hsapp, hsversion⟩ := hsame e hmem first (List.mem_of_head? hfirst)
    exact ⟨first, hfirst, happ.trans hsapp, hversion.trans hsversion⟩

end Node

/-! ## Drawn maps -/

/-- What accepted samples tell of a node, in the order of the feeds. -/
def Request.encounters (r : Request) (feeds : List (Feed ν)) (id : NodeId) :
    List (Encounter ν) :=
  encountersOf r.type id
    ((feeds.flatMap (Feed.acceptedHops r)).flatMap Observation.encounters)

namespace TrafficMap

/-- **A workload of a drawn map is flagged with what its series differ in**, and shows the labels of
the active one. Other nodes are never flagged, and stay as they were created. -/
theorem ofFeeds_reconciles (r : Request) (feeds : List (Feed ν)) {id : NodeId} {n : Node ν}
    (hn : (ofFeeds r feeds).get? id = some n) :
    if n.kind = .workload then n.IsReconciled (r.encounters feeds id)
    else n.IsAsCreated r.type (r.encounters feeds id) := by
  have hdrawn : ofFeeds r feeds = (feeds.flatMap (Feed.acceptedHops r)).foldl (draw r) ∅ := by
    rw [← List.flatMap_congr fun f _ => Feed.observations_eq_acceptedHops r f]
    rfl
  rw [hdrawn] at hn
  have hshows := (keepsTrack_foldl_draw (Node.keepsTrack_shows r.type) _).node hn
  have hfollows := (keepsTrack_foldl_draw (Node.keepsTrack_follows r.type) _).node hn
  have hkind : n.kind = id.kind := hasKinds_foldl_draw hasKinds_empty r _ id n hn
  have hids : ∀ e ∈ r.encounters feeds id, (e.labels.resolve r.type).id = id :=
    fun e he => id_of_mem_encountersOf he
  split
  · next hworkload =>
    refine Node.isReconciled_of_shows hshows hfollows fun e he => ?_
    rw [← Labels.kind_id_resolve, hids e he, ← hkind, hworkload]
  · next hother => exact Node.isAsCreated_of_shows hshows hfollows hids (hkind ▸ hother)

/-- A request that tells workloads apart. -/
def byWorkload : Request := { queryTime := default }

/-- Three series of one workload, of which the last has no traffic. -/
def threeVersions : List (Feed Rat) :=
  [.http [.into ⟨"a", "w", "shop", "v1", "w"⟩ 2, .into ⟨"a", "w", "shop", "v2", "w"⟩ 1,
    .into ⟨"a", "w", "shop", "v3", "w"⟩ 0]]

/-- The workload is flagged with the version and shows the second one. -/
theorem ofFeeds_reconciles_threeVersions :
    ∃ n, (ofFeeds byWorkload threeVersions).get? ⟨"wl_a_w"⟩ = some n ∧ n.kind = .workload ∧
      (byWorkload.encounters threeVersions ⟨"wl_a_w"⟩).map (fun e => (e.labels.version, e.value)) =
        [("v1", 2), ("v2", 1), ("v3", 0)] ∧
      n.misconfigured.toNames = ["version"] ∧ n.labels.app = "shop" ∧ n.labels.version = "v2" ∧
      n.IsReconciled (byWorkload.encounters threeVersions ⟨"wl_a_w"⟩) := by
  have hnode : ((ofFeeds byWorkload threeVersions).get? ⟨"wl_a_w"⟩).map (fun n =>
      (n.kind, n.misconfigured.toNames, n.labels.app, n.labels.version)) =
        some (.workload, ["version"], "shop", "v2") := by
    decide +kernel
  obtain ⟨n, hn, heq⟩ := Option.map_eq_some_iff.mp hnode
  simp only [Prod.mk.injEq] at heq
  obtain ⟨hkind, hnames, happ, hversion⟩ := heq
  have hreconciles := ofFeeds_reconciles byWorkload threeVersions hn
  rw [if_pos hkind] at hreconciles
  exact ⟨n, hn, hkind, by decide +kernel, hnames, happ, hversion, hreconciles⟩

end TrafficMap

end MeshTraffic
