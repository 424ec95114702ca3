import MeshTraffic.Proofs.Depiction

/-!
# What is encountered of a node

A node of a drawn map is made for the labels of the first end of traffic that refers to it, and
takes notice of those of every later one. Nothing else that is drawn changes its labels or what it
is flagged with.

* `Encounter`, `encountersOf`: the ends of traffic that refer to a node, and the values.
* `Node.KeepsTrack`: what holds of a new node and still holds after it takes notice of labels.
* `TrafficMap.keepsTrack_foldl_draw`: in a drawn map it holds of every node and its encounters.
-/

namespace MeshTraffic

variable {ν : Type}

/-! ## Ends of traffic -/

/-- The labels at an end of traffic, and the value of the traffic. -/
structure Encounter (ν : Type) where
  labels : Labels
  value : ν
  deriving DecidableEq

/-- The two ends of the traffic, the source first. -/
def Observation.encounters (o : Observation ν) : List (Encounter ν) :=
  [⟨o.hop.source, o.value⟩, ⟨o.hop.dest, o.value⟩]

/-- The encounters that refer to the node `id`. -/
def encountersOf (type : GraphType) (id : NodeId) (es : List (Encounter ν)) :
    List (Encounter ν) :=
  es.filter fun e => (e.labels.resolve type).id = id

theorem encountersOf_concat (type : GraphType) (id : NodeId) (es : List (Encounter ν))
    (e : Encounter ν) :
    encountersOf type id (es ++ [e]) =
      if (e.labels.resolve type).id = id then encountersOf type id es ++ [e]
      else encountersOf type id es := by
  by_cases h : (e.labels.resolve type).id = id <;> simp [encountersOf, h]

theorem id_of_mem_encountersOf {type : GraphType} {id : NodeId} {es : List (Encounter ν)}
    {e : Encounter ν} (h : e ∈ encountersOf type id es) : (e.labels.resolve type).id = id := by
  simpa using (List.mem_filter.mp h).2

variable [Quantity ν]

/-- What `P` says of a node and of what was encountered of it holds of a new node, and still holds
after each further encounter. It speaks of the labels and of what is flagged only. -/
structure Node.KeepsTrack (type : GraphType) (P : List (Encounter ν) → Node ν → Prop) : Prop where
  first : ∀ e, P [e] (.ofLabels e.labels type)
  next : ∀ {es n}, P es n → ∀ e, n.kind = (e.labels.resolve type).kind →
    (∀ e' ∈ es, (e'.labels.resolve type).id = (e.labels.resolve type).id) →
      P (es ++ [e]) (n.reconcile type e.labels e.value)
  congr : ∀ {es n n'}, P es n → n'.labels = n.labels →
    n'.metadata.get? Key.isMisconfigured = n.metadata.get? Key.isMisconfigured → P es n'

/-! ## What traffic does to flags -/

omit [Quantity ν] in
theorem Metadata.get?_acknowledge_isMisconfigured (isEntry : Bool) (service : String)
    (m : Metadata ν) :
    (m.acknowledge isEntry service).get? Key.isMisconfigured = m.get? Key.isMisconfigured := by
  have hflag := get?_flagEntry isEntry m
    (show Key.isMisconfigured ≠ Key.isServiceEntry by decide)
  unfold acknowledge
  split
  · exact hflag
  · rw [get?_addName, if_neg (by decide), hflag]

/-! ## Maps that keep track -/

namespace TrafficMap

/-- `P` holds of every node and of those of the encounters that refer to it; none refers to a node
that is missing. -/
structure KeepsTrack (type : GraphType) (P : List (Encounter ν) → Node ν → Prop)
    (es : List (Encounter ν)) (m : TrafficMap ν) : Prop where
  hasKinds : m.HasKinds
  encountersOf_eq : ∀ {id}, m.get? id = none → encountersOf type id es = []
  node : ∀ {id n}, m.get? id = some n → P (encountersOf type id es) n

variable {type : GraphType} {P : List (Encounter ν) → Node ν → Prop} {es : List (Encounter ν)}
  {m : TrafficMap ν}

omit [Quantity ν] in
theorem keepsTrack_empty (type : GraphType) (P : List (Encounter ν) → Node ν → Prop) :
    (∅ : TrafficMap ν).KeepsTrack type P [] where
  hasKinds := hasKinds_empty
  encountersOf_eq _ := rfl
  node hn := nomatch hn

/-- What is said of a node holds after one more encounter. -/
theorem KeepsTrack.encounter (h : m.KeepsTrack type P es) (hP : Node.KeepsTrack type P)
    (e : Encounter ν) :
    P (encountersOf type (e.labels.resolve type).id (es ++ [e]))
      (m.encounter type e.labels e.value) := by
  rw [encountersOf_concat, if_pos rfl]
  cases hget : m.get? (e.labels.resolve type).id with
  | none =>
    rw [encounter_of_none hget, h.encountersOf_eq hget]
    exact hP.first e
  | some n =>
    rw [encounter_of_some hget]
    refine hP.next (h.node hget) e ?_ fun e' he' => id_of_mem_encountersOf he'
    rw [h.hasKinds _ n hget, Labels.kind_id_resolve]

/-- Whatever else is noted on the node that some labels refer to, the map keeps track. -/
theorem KeepsTrack.insert (h : m.KeepsTrack type P es) (hP : Node.KeepsTrack type P)
    {e : Encounter ν} {n : Node ν} (hkind : n.kind = (m.encounter type e.labels e.value).kind)
    (hlabels : n.labels = (m.encounter type e.labels e.value).labels)
    (hflags : n.metadata.get? Key.isMisconfigured =
      (m.encounter type e.labels e.value).metadata.get? Key.isMisconfigured) :
    KeepsTrack type P (es ++ [e]) (m.insert (e.labels.resolve type).id n) where
  hasKinds := h.hasKinds.insert (hkind.trans (h.hasKinds.encounter type e.labels e.value))
  encountersOf_eq {id} hid := by
    rw [ArrivalMap.get?_insert] at hid
    split at hid
    · cases hid
    · next hne => rw [encountersOf_concat, if_neg (Ne.symm hne), h.encountersOf_eq hid]
  node {id n'} hn' := by
    rw [ArrivalMap.get?_insert] at hn'
    split at hn'
    · next heq =>
      cases hn'
      rw [heq]
      exact hP.congr (h.encounter hP e) hlabels hflags
    · next hne =>
      rw [encountersOf_concat, if_neg (Ne.symm hne)]
      exact h.node hn'

theorem KeepsTrack.draw {r : Request} (h : m.KeepsTrack r.type P es)
    (hP : Node.KeepsTrack r.type P) (o : Observation ν) :
    (m.draw r o).KeepsTrack r.type P (es ++ o.encounters) := by
  have hsource : (drawSource r o m).KeepsTrack r.type P (es ++ [⟨o.hop.source, o.value⟩]) :=
    h.insert hP (e := ⟨o.hop.source, o.value⟩) rfl rfl
      (Node.get?_send _ _ _ _ (show Key.isMisconfigured ∉ sentKeys by decide))
  have hdest : (drawDest r o (drawSource r o m)).KeepsTrack r.type P
      (es ++ [⟨o.hop.source, o.value⟩] ++ [⟨o.hop.dest, o.value⟩]) := by
    refine hsource.insert hP (e := ⟨o.hop.dest, o.value⟩) rfl rfl ?_
    rw [Node.get?_receive _ _ _ _ _ (show Key.isMisconfigured ∉ receivedKeys by decide),
      Metadata.get?_acknowledge_isMisconfigured]
  rw [List.append_assoc] at hdest
  exact hdest

/-- **A drawn map keeps track** of all that was encountered. -/
theorem keepsTrack_foldl_draw {r : Request} (hP : Node.KeepsTrack r.type P)
    (os : List (Observation ν)) :
    (os.foldl (TrafficMap.draw r) ∅).KeepsTrack r.type P (os.flatMap Observation.encounters) := by
  suffices hfold : ∀ (es : List (Encounter ν)) (m : TrafficMap ν), m.KeepsTrack r.type P es →
      KeepsTrack r.type P (es ++ os.flatMap Observation.encounters)
        (os.foldl (TrafficMap.draw r) m) from
    hfold [] ∅ (keepsTrack_empty r.type P)
  induction os with
  | nil =>
    intro es m hm
    simpa using hm
  | cons o os ih =>
    intro es m hm
    rw [List.flatMap_cons, ← List.append_assoc]
    exact ih _ _ (hm.draw hP o)

end TrafficMap

end MeshTraffic
