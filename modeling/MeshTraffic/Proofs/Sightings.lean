import MeshTraffic.Proofs.Encounters

/-!
# What nodes show

A node is sighted at every end of traffic that refers to it. It keeps the labels of its first
sighting, but for the app and the version, which are those of a sighting with traffic; and it is
flagged with what its sightings do not agree on.

* `Labels.shown`, `Labels.shown_agree`: what a node shows of labels, and what is the same in all
  labels that refer to one node.
* `sightings`, `Differs`: what the ends of some traffic show of a node.
* `Node.Shows`, `Node.keepsTrack_shows`: a node keeps to its sightings.
* `TrafficMap.Shows`, `TrafficMap.shows_foldl_draw`: in a drawn map every node does.
-/

namespace MeshTraffic

/-! ## Labels on a node -/

namespace Labels

/-- What the node that the labels refer to shows of them. -/
def shown (l : Labels) (type : GraphType) : Labels := l.trim (l.resolve type).kind

theorem knownPart_of_not_isKnown {label : String} (h : ¬ isKnown label = true) :
    knownPart label = "" := by
  unfold isKnown at h
  unfold knownPart
  grind

/-- An app that is not split into versions comes without one. -/
theorem version_eq_of_kind_app {l : Labels}
    (h : (l.resolve .versionedApp).kind = .app) : knownPart l.version = "" := by
  apply knownPart_of_not_isKnown
  intro hversion
  revert h
  unfold resolve
  split
  · simp [Identity.unknown]
  split
  · simp [Identity.ofService]
  split
  · simp [hversion, Identity.ofVersionedApp]
  split
  · simp [Identity.ofWorkload]
  split
  · simp [Identity.ofService]
  · simp [Identity.unknown]

/-- Where the app and the version can differ, the node shows them. -/
theorem shown_of_hasLooseLabels {l : Labels} {type : GraphType}
    (h : Node.hasLooseLabels (l.resolve type).kind type = true) :
    (l.shown type).app = knownPart l.app ∧ (l.shown type).version = knownPart l.version := by
  unfold shown
  cases hkind : (l.resolve type).kind with
  | workload => exact ⟨rfl, rfl⟩
  | versionedApp => exact ⟨rfl, rfl⟩
  | app =>
    rw [hkind] at h
    obtain rfl : type = .versionedApp := by simpa [Node.hasLooseLabels] using h
    exact ⟨rfl, (version_eq_of_kind_app hkind).symm⟩
  | unknown =>
    rw [hkind] at h
    cases h
  | service =>
    rw [hkind] at h
    cases h

/-- **What the labels of one node agree on**: all that is shown but for the workload of a versioned
app and the app and version of a workload. -/
theorem shown_agree {l l' : Labels} {type : GraphType}
    (h : (l.resolve type).id = (l'.resolve type).id) :
    (l.shown type).ns = (l'.shown type).ns ∧ (l.shown type).service = (l'.shown type).service ∧
      ((l.resolve type).kind ≠ .versionedApp →
        (l.shown type).workload = (l'.shown type).workload) ∧
      ((l.resolve type).kind ≠ .workload →
        (l.shown type).app = (l'.shown type).app ∧
          (l.shown type).version = (l'.shown type).version) := by
  obtain ⟨hkind, hfields⟩ := ownFields_of_id_eq h
  unfold shown
  rw [← hkind]
  cases hk : (l.resolve type).kind <;> rw [hk] at hfields <;> simp [ownFields] at hfields <;>
    simp [trim, hfields]

/-- Where the app and the version cannot differ, the labels of one node show the same. -/
theorem shown_eq_of_not_hasLooseLabels {l l' : Labels} {type : GraphType}
    (h : ¬ Node.hasLooseLabels (l.resolve type).kind type = true)
    (hid : (l'.resolve type).id = (l.resolve type).id) :
    (l'.shown type).app = (l.shown type).app ∧
      (l'.shown type).version = (l.shown type).version := by
  obtain ⟨-, -, -, hagree⟩ := shown_agree hid
  refine hagree fun hworkload => h ?_
  rw [← (ownFields_of_id_eq hid).1, hworkload]
  rfl

end Labels

/-! ## Sightings -/

/-- What the node shows at the ends that refer to it. -/
def sightings (type : GraphType) (id : NodeId) (ends : List Labels) : List Labels :=
  (ends.filter fun l => (l.resolve type).id = id).map (·.shown type)

theorem mem_sightings {type : GraphType} {id : NodeId} {ends : List Labels} {s : Labels} :
    s ∈ sightings type id ends ↔ ∃ l ∈ ends, (l.resolve type).id = id ∧ l.shown type = s := by
  simp [sightings, and_assoc]

/-- Not all sightings agree on the label. -/
def Differs (label : Labels → String) (seen : List Labels) : Prop :=
  ∃ s ∈ seen, ∃ s' ∈ seen, label s ≠ label s'

instance (label : Labels → String) (seen : List Labels) : Decidable (Differs label seen) :=
  inferInstanceAs (Decidable (∃ s ∈ seen, ∃ s' ∈ seen, label s ≠ label s'))

theorem differs_congr {label : Labels → String} {seen seen' : List Labels}
    (h : ∀ s, s ∈ seen ↔ s ∈ seen') : Differs label seen ↔ Differs label seen' := by
  simp only [Differs, h]

theorem not_differs {label : Labels → String} {seen : List Labels}
    (h : ∀ s ∈ seen, ∀ s' ∈ seen, label s = label s') : ¬ Differs label seen := by
  rintro ⟨s, hs, s', hs', hne⟩
  exact hne (h s hs s' hs')

/-- One more sighting differs from the others if it does from one of them. -/
theorem differs_concat {label : Labels → String} {seen : List Labels} {s t : Labels}
    (hs : s ∈ seen) :
    Differs label (seen ++ [t]) ↔ Differs label seen ∨ label s ≠ label t := by
  simp only [Differs, List.mem_append, List.mem_singleton]
  constructor
  · rintro ⟨a, ha, b, hb, hab⟩
    by_contra! hall
    obtain ⟨hagree, hst⟩ := hall
    have hlabel : ∀ c, c ∈ seen ∨ c = t → label c = label s := by
      rintro c (hc | rfl)
      · exact hagree c hc s hs
      · exact hst.symm
    exact hab ((hlabel a ha).trans (hlabel b hb).symm)
  · rintro (⟨a, ha, b, hb, hab⟩ | hst)
    · exact ⟨a, .inl ha, b, .inl hb, hab⟩
    · exact ⟨s, .inl hs, t, .inr rfl, hst⟩

/-- The names of the labels that are not the same in all sightings. -/
def mixedLabels (seen : List Labels) : List String :=
  (if Differs Labels.app seen then ["app"] else []) ++
    if Differs Labels.version seen then ["version"] else []

theorem mixedLabels_congr {seen seen' : List Labels} (h : ∀ s, s ∈ seen ↔ s ∈ seen') :
    mixedLabels seen = mixedLabels seen' := by
  simp only [mixedLabels, differs_congr h]

theorem mixedLabels_eq_nil {seen : List Labels} (happ : ¬ Differs Labels.app seen)
    (hversion : ¬ Differs Labels.version seen) : mixedLabels seen = [] := by
  simp [mixedLabels, happ, hversion]

/-! ## Nodes keep to their sightings -/

variable {ν : Type}

namespace Node

/-- The node shows its first sighting, with the app and the version of some sighting, and is flagged
with what they do not agree on. -/
structure Shows (seen : List Labels) (n : Node ν) : Prop where
  labels_eq : ∃ first, seen.head? = some first ∧ ∃ trusted ∈ seen,
    n.labels = { first with app := trusted.app, version := trusted.version }
  flags_eq : n.metadata.get? Key.isMisconfigured = Metadata.namesOf (mixedLabels seen)

theorem Shows.congr {seen : List Labels} {n n' : Node ν} (h : n.Shows seen)
    (hlabels : n'.labels = n.labels)
    (hflags : n'.metadata.get? Key.isMisconfigured = n.metadata.get? Key.isMisconfigured) :
    n'.Shows seen :=
  ⟨hlabels ▸ h.labels_eq, hflags.trans h.flags_eq⟩

theorem shows_ofIdentity (l : Labels) (type : GraphType) :
    (ofIdentity (l.resolve type) l : Node ν).Shows [l.shown type] where
  labels_eq := ⟨l.shown type, rfl, l.shown type, by simp, rfl⟩
  flags_eq := by
    have hsame : ∀ label, ¬ Differs label [l.shown type] := by simp [Differs]
    rw [mixedLabels_eq_nil (hsame _) (hsame _)]
    rfl

variable [Quantity ν]

/-- Where the app and the version can differ, the node is flagged with those that do. -/
theorem flags_reconcile {type : GraphType} {l : Labels} {n : Node ν}
    (h : hasLooseLabels n.kind type = true) (x : ν) :
    (n.reconcile type l x).metadata.get? Key.isMisconfigured =
      (n.metadata.addNames Key.isMisconfigured
        ((if n.labels.app ≠ knownPart l.app then ["app"] else []) ++
          if n.labels.version ≠ knownPart l.version then ["version"] else [])).get?
        Key.isMisconfigured := by
  unfold reconcile
  rw [if_pos h]
  by_cases happ : n.labels.app = knownPart l.app <;>
    by_cases hversion : n.labels.version = knownPart l.version <;>
      simp [happ, hversion, Metadata.addNames]

theorem labels_reconcile {type : GraphType} {l : Labels} {n : Node ν}
    (h : hasLooseLabels n.kind type = true) (x : ν) :
    (n.reconcile type l x).labels =
      if Quantity.isPositive x then
        { n.labels with app := knownPart l.app, version := knownPart l.version }
      else n.labels := by
  unfold reconcile
  rw [if_pos h]

/-- Labels that cannot differ are left as they are. -/
theorem reconcile_of_not_hasLooseLabels {type : GraphType} {n : Node ν}
    (h : ¬ hasLooseLabels n.kind type = true) (l : Labels) (x : ν) : n.reconcile type l x = n := by
  unfold reconcile
  rw [if_neg h]

/-- **A node that is sighted once more keeps to its sightings.** -/
theorem Shows.reconcile {seen : List Labels} {n : Node ν} (h : n.Shows seen) {type : GraphType}
    {l : Labels} (hkind : n.kind = (l.resolve type).kind)
    (hseen : ∀ s ∈ seen, ∃ l' : Labels, (l'.resolve type).id = (l.resolve type).id ∧
      l'.shown type = s)
    (x : ν) : (n.reconcile type l x).Shows (seen ++ [l.shown type]) := by
  obtain ⟨first, hfirst, trusted, htrusted, hlabels⟩ := h.labels_eq
  have hhead : (seen ++ [l.shown type]).head? = some first := by
    rw [List.head?_append, hfirst]
    rfl
  have hmem : trusted ∈ seen ++ [l.shown type] := List.mem_append_left _ htrusted
  have happ : n.labels.app = trusted.app := by rw [hlabels]
  have hversion : n.labels.version = trusted.version := by rw [hlabels]
  by_cases hloose : hasLooseLabels n.kind type = true
  · obtain ⟨hshown, hshown'⟩ := Labels.shown_of_hasLooseLabels (hkind ▸ hloose)
    refine ⟨⟨first, hhead, ?_⟩, ?_⟩
    · rw [labels_reconcile hloose]
      split
      · refine ⟨l.shown type, by simp, ?_⟩
        rw [hshown, hshown', hlabels]
      · exact ⟨trusted, hmem, hlabels⟩
    · rw [flags_reconcile hloose, Metadata.get?_addNames_congr (h.flags_eq.trans
        (Metadata.get?_addNames_empty Key.isMisconfigured _).symm), ← Metadata.addNames_append,
        Metadata.get?_addNames_empty]
      apply Metadata.namesOf_congr
      intro name
      simp only [mixedLabels, differs_concat htrusted, hshown, hshown', happ, hversion]
      grind
  · -- such a node shows the same at every end that refers to it
    have hsame : trusted.app = (l.shown type).app ∧ trusted.version = (l.shown type).version := by
      obtain ⟨l', hid, rfl⟩ := hseen trusted htrusted
      exact Labels.shown_eq_of_not_hasLooseLabels (hkind ▸ hloose) hid
    rw [reconcile_of_not_hasLooseLabels hloose]
    refine ⟨⟨first, hhead, trusted, hmem, hlabels⟩, h.flags_eq.trans ?_⟩
    simp only [mixedLabels, differs_concat htrusted, hsame, ne_eq, not_true_eq_false, or_false]

theorem keepsTrack_shows (type : GraphType) :
    KeepsTrack type fun es (n : Node ν) => n.Shows (es.map fun e => e.labels.shown type) where
  first e := shows_ofIdentity e.labels type
  next {es n} h e hkind hids := by
    rw [List.map_append]
    refine h.reconcile hkind (fun s hs => ?_) e.value
    obtain ⟨e', he', rfl⟩ := List.mem_map.mp hs
    exact ⟨e'.labels, hids e' he', rfl⟩
  congr := Shows.congr

end Node

/-! ## Maps of such nodes -/

/-- The labels at the two ends of the traffic. -/
def Observation.ends (o : Observation ν) : List Labels := [o.hop.source, o.hop.dest]

namespace TrafficMap

/-- Every node keeps to what the ends show of it, and none is missing. -/
structure Shows (type : GraphType) (ends : List Labels) (m : TrafficMap ν) : Prop where
  hasKinds : m.HasKinds
  sightings_eq : ∀ {id}, m.get? id = none → sightings type id ends = []
  node : ∀ {id n}, m.get? id = some n → n.Shows (sightings type id ends)

theorem sightings_encounters (type : GraphType) (id : NodeId) (os : List (Observation ν)) :
    sightings type id (os.flatMap Observation.ends) =
      (encountersOf type id (os.flatMap Observation.encounters)).map (·.labels.shown type) := by
  have hends : os.flatMap Observation.ends =
      (os.flatMap Observation.encounters).map Encounter.labels := by
    rw [List.map_flatMap]
    rfl
  rw [sightings, hends, List.filter_map, List.map_map]
  rfl

/-- **In a drawn map every node keeps to its sightings.** -/
theorem shows_foldl_draw [Quantity ν] (r : Request) (os : List (Observation ν)) :
    (os.foldl (TrafficMap.draw r) ∅).Shows r.type (os.flatMap Observation.ends) := by
  have h := keepsTrack_foldl_draw (Node.keepsTrack_shows r.type) os
  refine ⟨h.hasKinds, fun hid => ?_, fun hn => ?_⟩
  · rw [sightings_encounters, h.encountersOf_eq hid, List.map_nil]
  · rw [sightings_encounters]
    exact h.node hn

end TrafficMap

end MeshTraffic
