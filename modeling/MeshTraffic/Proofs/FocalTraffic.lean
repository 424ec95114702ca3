import MeshTraffic.Proofs.SeriesSelection

/-!
# Which series the queries of a node graph select

* `QuerySet.isAbout_of_mem_nodeQueries`: what a query of a node graph is about. Its conditions on
  the node say that the traffic leads to it, that it leaves from it, or that it is control plane
  traffic; the others are the same for all nodes.
* `Series.LeavesFrom`, `Series.LeadsTo`: the traffic of a node.
* `Series.IsStray`: the traffic of a service of the same name in the namespace of the control
  plane. The query for control plane traffic of a service does not say in which namespace the
  service is.
* `QuerySet.nodeQueries_select`: the queries select traffic of the node, but for the stray one.
-/

namespace MeshTraffic

open SeriesLabel

variable {ν : Type}

/-! ## Series of a node -/

namespace Series

variable (s : Series)

/-- The labels of an app hold; a version counts if there is one. -/
def IsOfApp (app version : String) (l : Labels) : Prop :=
  s app = l.app ∧ (l.version ≠ "" → s version = l.version)

/-- The source of the traffic is the node. -/
def LeavesFrom (n : Node ν) : Prop :=
  s sourceNamespace = n.labels.ns ∧
    match n.kind with
    | .workload => s sourceWorkload = n.labels.workload
    | .app | .versionedApp => s.IsOfApp sourceApp sourceVersion n.labels
    | .service | .unknown => True

/-- The destination of the traffic is the node. -/
def LeadsTo (n : Node ν) : Prop :=
  (s destServiceNamespace = n.labels.ns ∨ s destWorkloadNamespace = n.labels.ns) ∧
    match n.kind with
    | .workload => s destWorkload = n.labels.workload
    | .app | .versionedApp => s.IsOfApp destApp destVersion n.labels
    | .service => s destService = n.labels.service
    | .unknown => True

/-- The traffic leads to a service in the namespace of the control plane that has the name of the
service that the graph is about. -/
structure IsStray (r : Request) (n : Node ν) : Prop where
  isWanted : r.includeControlPlane = true
  isService : n.kind = .service
  isReported : s reporter = "destination"
  ns : s destServiceNamespace = r.controlPlane
  service : s destService = n.labels.service

end Series

namespace QuerySet

variable {n : Node ν} {window : Nat} {r : Request} {set : QuerySet} {q : RateQuery}

/-- The conditions that do not name the node. -/
def commonConditions : List Matcher :=
  [reportedBy "source", reportedBy "destination", fromUnknown, withCodes trafficCodes]

/-- The query is about the series of which `core` holds. -/
def IsAbout (q : RateQuery) (core : List Matcher) : Prop :=
  core ⊆ q.matchers ∧ ∀ m ∈ q.matchers, m ∈ core ∨ m ∈ commonConditions

theorem isAbout_of_eq (before after : List Matcher) {core : List Matcher}
    (h : q.matchers = before ++ core ++ after) (hcommon : before ++ after ⊆ commonConditions) :
    IsAbout q core := by
  rw [IsAbout, h]
  refine ⟨fun m hm => by simp [hm], fun m hm => ?_⟩
  rcases List.mem_append.mp hm with hm | hm
  · rcases List.mem_append.mp hm with hm | hm
    · exact .inr (hcommon (by simp [hm]))
    · exact .inl hm
  · exact .inr (hcommon (by simp [hm]))

/-- **What a query of a node graph is about**: traffic to the node, traffic from it unless it is a
service, or control plane traffic if it is wanted. -/
theorem isAbout_of_mem_nodeQueries (hset : nodeQueries n window r = .ok set)
    (hq : q ∈ set.http ++ set.tcp) :
    IsAbout q (leadsTo n.kind n.labels) ∨
      n.kind ≠ .service ∧ IsAbout q (leavesFrom n.kind n.labels) ∨
      r.includeControlPlane = true ∧
        IsAbout q (reportedBy "destination" ::
          controlPlaneTraffic n.kind n.labels r.controlPlane) := by
  unfold nodeQueries at hset
  simp only at hset
  split at hset
  case h_5 => cases hset
  case h_4 hkind =>
    -- nothing is asked about what a service sends
    cases hset
    simp only [List.mem_append, List.mem_cons, List.not_mem_nil, or_false,
      List.mem_ite_nil_right] at hq
    rcases hq with ((rfl | rfl) | ⟨hwanted, rfl⟩) | rfl
    · exact .inl (isAbout_of_eq [reportedBy "destination", fromUnknown] [withCodes trafficCodes] rfl
        (by simp [commonConditions]))
    · exact .inl (isAbout_of_eq [reportedBy "source"] [withCodes trafficCodes] rfl
        (by simp [commonConditions]))
    · exact .inr (.inr ⟨hwanted, isAbout_of_eq [] [withCodes trafficCodes] rfl
        (by simp [commonConditions])⟩)
    · exact .inl (isAbout_of_eq [reportedBy "source"] [] (by simp) (by simp [commonConditions]))
  all_goals
    next hkind =>
    cases hset
    simp only [List.mem_append, List.mem_cons, List.not_mem_nil, or_false,
      List.mem_ite_nil_right] at hq
    rcases hq with ((rfl | rfl) | ⟨hwanted, rfl⟩) | rfl | rfl
    · exact .inl (isAbout_of_eq [reportedBy "destination"] [withCodes trafficCodes] rfl
        (by simp [commonConditions]))
    · exact .inr (.inl ⟨by simp [hkind], isAbout_of_eq [reportedBy "source"]
        [withCodes trafficCodes] rfl (by simp [commonConditions])⟩)
    · exact .inr (.inr ⟨hwanted, isAbout_of_eq [] [withCodes trafficCodes] rfl
        (by simp [commonConditions])⟩)
    · exact .inl (isAbout_of_eq [reportedBy "source"] [] (by simp) (by simp [commonConditions]))
    · exact .inr (.inl ⟨by simp [hkind], isAbout_of_eq [reportedBy "source"] [] (by simp)
        (by simp [commonConditions])⟩)

/-! ## Series that are selected -/

variable {accepts : String → String → Bool} {s : Series}

theorem IsAbout.holds {core : List Matcher} (h : IsAbout q core)
    (hs : q.selects accepts s = true) : ∀ m ∈ core, m.holds accepts s = true :=
  fun m hm => List.all_eq_true.mp hs m (h.1 hm)

theorem holds_ifGiven_iff {label value : String} :
    (∀ m ∈ ifGiven label value, m.holds accepts s = true) ↔ (value ≠ "" → s label = value) := by
  unfold ifGiven
  split
  · next h => simp [h]
  · next h => simp [h]

theorem kind_ne_unknown (hset : nodeQueries n window r = .ok set) : n.kind ≠ .unknown := by
  intro hkind
  simp [nodeQueries, hkind] at hset

theorem leavesFrom_of_holds (hservice : n.kind ≠ .service) (hunknown : n.kind ≠ .unknown)
    (h : ∀ m ∈ leavesFrom n.kind n.labels, m.holds accepts s = true) : s.LeavesFrom n := by
  unfold Series.LeavesFrom
  cases hkind : n.kind with
  | unknown => exact absurd hkind hunknown
  | service => exact absurd hkind hservice
  | workload => simpa [hkind, leavesFrom] using h
  | app | versionedApp =>
    simpa [hkind, leavesFrom, Series.IsOfApp, List.forall_mem_cons, holds_ifGiven_iff] using h

theorem leadsTo_of_holds (hunknown : n.kind ≠ .unknown)
    (h : ∀ m ∈ leadsTo n.kind n.labels, m.holds accepts s = true) : s.LeadsTo n := by
  unfold Series.LeadsTo
  cases hkind : n.kind with
  | unknown => exact absurd hkind hunknown
  | workload =>
    simp only [hkind, leadsTo, List.forall_mem_cons, Matcher.holds_equal, decide_eq_true_eq] at h
    exact ⟨.inr h.1, h.2.1⟩
  | service =>
    simp only [hkind, leadsTo, List.forall_mem_cons, Matcher.holds_equal, decide_eq_true_eq] at h
    exact ⟨.inl h.1, h.2.1⟩
  | app | versionedApp =>
    simp only [hkind, leadsTo, List.forall_mem_append, List.forall_mem_cons, Matcher.holds_equal,
      decide_eq_true_eq, holds_ifGiven_iff] at h
    exact ⟨.inl h.1.1, h.1.2.1, h.2⟩

/-- Control plane traffic leaves from the node, unless the node is a service. -/
theorem of_holds_controlPlaneTraffic (hwanted : r.includeControlPlane = true)
    (hunknown : n.kind ≠ .unknown)
    (h : ∀ m ∈ reportedBy "destination" :: controlPlaneTraffic n.kind n.labels r.controlPlane,
      m.holds accepts s = true) :
    n.kind ≠ .service ∧ s.LeavesFrom n ∨ s.IsStray r n := by
  obtain ⟨hreported, h⟩ := List.forall_mem_cons.mp h
  by_cases hkind : n.kind = .service
  · simp only [hkind, controlPlaneTraffic, List.forall_mem_append, List.forall_mem_cons,
      Matcher.holds_equal, decide_eq_true_eq] at h
    exact .inr ⟨hwanted, hkind, by simpa [reportedBy] using hreported, h.2.1, h.2.2.1⟩
  · have haway := (List.forall_mem_append.mp h).1
    exact .inl ⟨hkind, leavesFrom_of_holds hkind hunknown haway⟩

/-- Stray traffic is selected if its response code counts. -/
theorem exists_selects_of_isStray (accepts : String → String → Bool)
    (hset : nodeQueries n window r = .ok set) (hstray : s.IsStray r n)
    (hcode : accepts trafficCodes (s responseCode) = true) :
    ∃ q ∈ set.http, q.selects accepts s = true := by
  simp only [nodeQueries, hstray.isService, hstray.isWanted, if_true] at hset
  cases hset
  refine ⟨_, List.mem_append_right _ (List.mem_singleton_self _), ?_⟩
  simp [RateQuery.selects, reportedBy, controlPlaneTraffic, leavesFrom, withCodes, hcode,
    hstray.isReported, hstray.ns, hstray.service]

/-- **The queries of a node graph select traffic that leads to the node or leaves from it**, and for
a service only traffic that leads to it. If control plane traffic is wanted, they select as well
whatever leads to a service of the same name in the namespace of the control plane. -/
theorem nodeQueries_select (accepts : String → String → Bool) (s : Series) (n : Node ν)
    (window : Nat) (r : Request) (set : QuerySet) (hset : nodeQueries n window r = .ok set) :
    (∀ q ∈ set.http ++ set.tcp, q.selects accepts s = true →
      s.LeadsTo n ∨ n.kind ≠ .service ∧ s.LeavesFrom n ∨ s.IsStray r n) ∧
    (s.IsStray r n → accepts trafficCodes (s responseCode) = true →
      ∃ q ∈ set.http, q.selects accepts s = true) := by
  have hunknown := kind_ne_unknown hset
  refine ⟨fun q hq hs => ?_, exists_selects_of_isStray accepts hset⟩
  obtain habout | ⟨hkind, habout⟩ | ⟨hwanted, habout⟩ := isAbout_of_mem_nodeQueries hset hq
  · exact .inl (leadsTo_of_holds hunknown (habout.holds hs))
  · exact .inr (.inl ⟨hkind, leavesFrom_of_holds hkind hunknown (habout.holds hs)⟩)
  · exact .inr (of_holds_controlPlaneTraffic hwanted hunknown (habout.holds hs))

/-! ## A service of the same name -/

/-- The service `reviews` of the namespace `bookinfo`. -/
def reviews : Node Rat := .ofLabels (.ofService "bookinfo" "reviews") .workload

/-- Requests to another service of that name, as the control plane reports them. -/
def toNamesake : Series := fun label =>
  (SortedMap.get? (.ofList [(reporter, "destination"), (sourceNamespace, unknownLabel),
    (sourceWorkload, unknownLabel), (destServiceNamespace, "istio-system"),
    (destService, "reviews"), (destWorkload, "reviews-v1"), (responseCode, "200")]) label).getD ""

theorem isStray_toNamesake : toNamesake.IsStray withControlPlane reviews :=
  ⟨rfl, rfl, by decide +kernel, by decide +kernel, by decide +kernel⟩

/-- The graph of `reviews` shows them if it shows control plane traffic. -/
theorem nodeQueries_select_toNamesake :
    ∃ set, nodeQueries reviews 600 withControlPlane = .ok set ∧
      (∀ q ∈ set.http ++ set.tcp, q.selects (fun _ _ => true) toNamesake = true →
        toNamesake.LeadsTo reviews ∨
          reviews.kind ≠ .service ∧ toNamesake.LeavesFrom reviews ∨
          toNamesake.IsStray withControlPlane reviews) ∧
      ∃ q ∈ set.http, q.selects (fun _ _ => true) toNamesake = true := by
  obtain ⟨set, hset⟩ : ∃ set, nodeQueries reviews 600 withControlPlane = .ok set := ⟨_, rfl⟩
  obtain ⟨hselect, hexists⟩ := nodeQueries_select (fun _ _ => true) toNamesake reviews 600
    withControlPlane set hset
  exact ⟨set, hset, hselect, hexists isStray_toNamesake rfl⟩

/-- So it is not true of every node that its queries select its own traffic only. -/
theorem not_forall_nodeQueries_select :
    ¬ ∀ (accepts : String → String → Bool) (s : Series) (l : Labels) (type : GraphType)
        (window : Nat) (r : Request) (set : QuerySet),
      nodeQueries (.ofLabels l type : Node Rat) window r = .ok set →
        ∀ q ∈ set.http ++ set.tcp, q.selects accepts s = true →
          s.LeavesFrom (.ofLabels l type : Node Rat) ∨
            s.LeadsTo (.ofLabels l type : Node Rat) := by
  intro h
  obtain ⟨set, hset⟩ : ∃ set, nodeQueries reviews 600 withControlPlane = .ok set := ⟨_, rfl⟩
  obtain ⟨q, hq, hs⟩ := exists_selects_of_isStray (fun _ _ => true) hset isStray_toNamesake rfl
  obtain ⟨hns, -⟩ | ⟨hns | hns, -⟩ :=
    h _ toNamesake _ _ 600 withControlPlane set hset q (List.mem_append_left _ hq) hs
  · exact absurd hns (by decide +kernel)
  · exact absurd hns (by decide +kernel)
  · exact absurd hns (by decide +kernel)

end QuerySet

end MeshTraffic
