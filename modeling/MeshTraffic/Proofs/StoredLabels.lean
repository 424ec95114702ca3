import MeshTraffic.Proofs.ActiveSeries

/-!
# Stored labels name their node

A node stores the labels that its kind uses, and a workload takes over the app and the version of
later series. What it stores refers to the node itself all the same: whoever resolves it again, in
a graph of the same type, comes to the node's id and kind.

* `Labels.Tells`, `Labels.tells_kind_resolve`: what labels tell that refer to a node of a kind.
* `Labels.resolve_trim`: that much is still told by the labels that the kind keeps.
* `Labels.resolve_shown_withAppOf`: so it is if the app and the version are those of other labels of
  the same node.
* `TrafficMap.areNamedByLabels`: new nodes and those of drawn maps are named by their labels.
-/

namespace MeshTraffic

/-! ## Known labels -/

@[simp] theorem isKnown_empty : isKnown "" = false := by decide

theorem knownPart_of_isKnown {label : String} (h : isKnown label = true) :
    knownPart label = label := by
  unfold isKnown at h
  unfold knownPart
  grind

namespace Labels

/-! ## What labels tell of a node -/

/-- What labels tell that refer to a node of the kind. -/
def Tells (l : Labels) (type : GraphType) : NodeKind → Prop
  | .unknown => True
  | .workload => l.ns ≠ unknownLabel ∧ isKnown l.workload = true ∧
      ¬ (type.isAppBased = true ∧ isKnown l.app = true)
  | .app => l.ns ≠ unknownLabel ∧ type.isAppBased = true ∧ isKnown l.app = true ∧
      ¬ (type = .versionedApp ∧ isKnown l.version = true)
  | .versionedApp => l.ns ≠ unknownLabel ∧ type = .versionedApp ∧ isKnown l.app = true ∧
      isKnown l.version = true
  | .service => l.ns ≠ unknownLabel ∧ isKnown l.service = true

theorem tells_kind_resolve (l : Labels) (type : GraphType) :
    l.Tells type (l.resolve type).kind := by
  unfold resolve
  split
  · trivial
  · next hns =>
    split
    · next hservice =>
      simp only [Bool.and_eq_true] at hservice
      exact ⟨hns, hservice.1.1.1⟩
    · split
      · next happ =>
        rw [Bool.and_eq_true] at happ
        split
        · next hversion =>
          simp only [Bool.and_eq_true, decide_eq_true_eq] at hversion
          exact ⟨hns, hversion.1, happ.2, hversion.2⟩
        · next hversion => exact ⟨hns, happ.1, happ.2, by simpa using hversion⟩
      · next happ =>
        split
        · next hworkload => exact ⟨hns, hworkload, by simpa using happ⟩
        · split
          · next hservice => exact ⟨hns, hservice⟩
          · trivial

/-- **The labels that a kind keeps refer to the same node**: its id is composed of what they
tell. -/
theorem resolve_trim {l : Labels} {type : GraphType} {kind : NodeKind} (h : l.Tells type kind) :
    (l.trim kind).resolve type = ⟨.compose kind.word (l.ownFields kind), kind⟩ := by
  unfold resolve
  cases kind with
  | unknown => rfl
  | workload =>
    obtain ⟨hns, hworkload, happ⟩ := h
    -- an app label would make it an app where apps are told apart
    have hnone : ¬ (type.isAppBased && isKnown (knownPart l.app)) = true := by
      by_cases hknown : isKnown l.app = true
      · simpa [knownPart_of_isKnown hknown] using happ
      · simp [knownPart_of_not_isKnown hknown]
    simp [trim, hns, hworkload, hnone, knownPart_of_isKnown]
    rfl
  | app =>
    obtain ⟨hns, htype, happ, -⟩ := h
    simp [trim, hns, htype, happ, knownPart_of_isKnown]
    rfl
  | versionedApp =>
    obtain ⟨hns, rfl, happ, hversion⟩ := h
    simp [trim, hns, happ, hversion, knownPart_of_isKnown, GraphType.isAppBased]
    rfl
  | service =>
    obtain ⟨hns, hservice⟩ := h
    simp [trim, hns, hservice, knownPart_of_isKnown]
    rfl

/-! ## The app and the version of other labels -/

/-- The labels with the app and the version of others. -/
def withAppOf (l l' : Labels) : Labels := { l with app := l'.app, version := l'.version }

/-- Labels of two series of one kind may be mixed. -/
theorem Tells.withAppOf {l l' : Labels} {type : GraphType} {kind : NodeKind}
    (h : l.Tells type kind) (h' : l'.Tells type kind) : (l.withAppOf l').Tells type kind := by
  cases kind with
  | unknown => trivial
  | workload => exact ⟨h.1, h.2.1, h'.2.2⟩
  | app => exact ⟨h.1, h'.2⟩
  | versionedApp => exact ⟨h.1, h'.2⟩
  | service => exact h

theorem trim_withAppOf (l l' : Labels) (kind : NodeKind) :
    (l.trim kind).withAppOf (l'.trim kind) = (l.withAppOf l').trim kind := by
  cases kind <;> rfl

/-- A node goes by the app and the version only where all its labels agree on them. -/
theorem ownFields_withAppOf {l l' : Labels} {kind : NodeKind}
    (h : l.ownFields kind = l'.ownFields kind) :
    (l.withAppOf l').ownFields kind = l.ownFields kind := by
  cases kind <;> simp_all [ownFields, withAppOf]

/-- **What a node shows refers to it**, whichever series of it the app and the version are taken
from. -/
theorem resolve_shown_withAppOf {l l' : Labels} {type : GraphType}
    (h : (l.resolve type).id = (l'.resolve type).id) :
    ((l.shown type).withAppOf (l'.shown type)).resolve type = l.resolve type := by
  obtain ⟨hkind, hfields⟩ := ownFields_of_id_eq h
  have htells : (l.withAppOf l').Tells type (l.resolve type).kind :=
    (l.tells_kind_resolve type).withAppOf (hkind ▸ l'.tells_kind_resolve type)
  rw [shown, shown, ← hkind, trim_withAppOf, resolve_trim htells, ownFields_withAppOf hfields,
    ← id_resolve]

end Labels

/-! ## Nodes -/

variable {ν : Type}

/-- The labels that the node stores refer to the node. -/
def Node.IsNamedByLabels (type : GraphType) (n : Node ν) : Prop :=
  n.labels.resolve type = ⟨n.id, n.kind⟩

theorem Node.isNamedByLabels_ofLabels (l : Labels) (type : GraphType) :
    (ofLabels l type : Node ν).IsNamedByLabels type :=
  Labels.resolve_shown_withAppOf (rfl : (l.resolve type).id = (l.resolve type).id)

namespace TrafficMap

variable [Quantity ν]

/-- A node of a drawn map stores what one series of it shows, with the app and the version of
another. -/
theorem isNamedByLabels_of_mem_ofFeeds {r : Request} {feeds : List (Feed ν)} {n : Node ν}
    (hn : n ∈ (ofFeeds r feeds).nodes) : n.IsNamedByLabels r.type := by
  obtain ⟨id, hget⟩ := mem_nodes_iff.mp hn
  have hid : n.id = id := (wellFormed_ofFeeds r feeds).id_eq hget
  have hdrawn := shows_foldl_draw r (feeds.flatMap (Feed.observations r))
  have hkind : n.kind = id.kind := hdrawn.hasKinds id n hget
  obtain ⟨first, hfirst, trusted, htrusted, hlabels⟩ := (hdrawn.node hget).labels_eq
  obtain ⟨l, -, hl, rfl⟩ := mem_sightings.mp (List.mem_of_head? hfirst)
  obtain ⟨l', -, hl', rfl⟩ := mem_sightings.mp htrusted
  have hresolve : n.labels.resolve r.type = l.resolve r.type := by
    rw [hlabels]
    exact Labels.resolve_shown_withAppOf (hl.trans hl'.symm)
  rw [Node.IsNamedByLabels, hresolve, hid, hkind, ← hl, Labels.kind_id_resolve]

/-- **Stored labels name their node**: those of every new node, and those of every node of a drawn
map, whatever app and version it has taken over. -/
theorem areNamedByLabels :
    (∀ (l : Labels) (type : GraphType), (Node.ofLabels l type : Node ν).IsNamedByLabels type) ∧
      ∀ (r : Request) (feeds : List (Feed ν)), ∀ n ∈ (ofFeeds r feeds).nodes,
        n.IsNamedByLabels r.type :=
  ⟨Node.isNamedByLabels_ofLabels, fun _ _ _ hn => isNamedByLabels_of_mem_ofFeeds hn⟩

/-- A workload that has taken over the version of its second series is still named by its labels. -/
theorem areNamedByLabels_threeVersions :
    ∃ n ∈ (ofFeeds byWorkload threeVersions).nodes,
      n.labels = ⟨"a", "w", "shop", "v2", ""⟩ ∧ n.id = ⟨"wl_a_w"⟩ ∧
        n.IsNamedByLabels byWorkload.type := by
  have hnode : ((ofFeeds byWorkload threeVersions).get? ⟨"wl_a_w"⟩).map (fun n =>
      (n.labels, n.id)) = some (⟨"a", "w", "shop", "v2", ""⟩, ⟨"wl_a_w"⟩) := by
    decide +kernel
  obtain ⟨n, hn, heq⟩ := Option.map_eq_some_iff.mp hnode
  obtain ⟨hlabels, hid⟩ := Prod.mk.injEq .. ▸ heq
  have hmem : n ∈ (ofFeeds byWorkload threeVersions).nodes := mem_nodes_iff.mpr ⟨_, hn⟩
  exact ⟨n, hmem, hlabels, hid, areNamedByLabels.2 byWorkload threeVersions n hmem⟩

end TrafficMap

end MeshTraffic
