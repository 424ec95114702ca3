import MeshTraffic.Query.Selection

/-!
# Which series the queries of a namespace select

The queries of a namespace graph split its traffic by where it starts, so that a series is counted
by one of them. Two conditions on the labels tell which series are meant: the source reports them
(`Series.LeavesKnown`), or they arrive from outside the mesh (`Series.ArrivesFromOutside`).

* `Matcher.holds`, `RateQuery.selects`: which series a query is about.
* `QuerySet.countP_namespaceRequests`: how many of the request queries select a series, one summand
  for each query.
* `QuerySet.countP_namespaceQueries`: no series is selected twice, and those that are meant are
  selected, but for the control plane's own namespace: what arrives there from outside the mesh is
  selected by two queries if control plane traffic is asked for.
-/

namespace MeshTraffic

open SeriesLabel

/-! ## Series and queries -/

/-- The labels of a series. A label that it does not have reads as the empty one. -/
abbrev Series := String → String

variable (accepts : String → String → Bool) (s : Series)

/-- Whether the condition holds of a series. `accepts` says which values match an expression. -/
def Matcher.holds (m : Matcher) : Bool :=
  match m.comparison with
  | .equal => s m.label = m.value
  | .notEqual => s m.label ≠ m.value
  | .regex => accepts m.value (s m.label)

/-- Whether the query is about a series. -/
def RateQuery.selects (q : RateQuery) : Bool := q.matchers.all (·.holds accepts s)

@[simp] theorem Matcher.holds_equal (label value : String) :
    (equal label value).holds accepts s = decide (s label = value) := rfl

@[simp] theorem Matcher.holds_notEqual (label value : String) :
    (notEqual label value).holds accepts s = decide (s label ≠ value) := rfl

@[simp] theorem Matcher.holds_regex (label value : String) :
    (regex label value).holds accepts s = accepts value (s label) := rfl

namespace Series

/-- A known workload reports the traffic, and sends it from or to the namespace. -/
def LeavesKnown (ns : String) : Prop :=
  s reporter = "source" ∧ s sourceWorkload ≠ unknownLabel ∧
    (s sourceNamespace = ns ∨ s destServiceNamespace = ns)

/-- The namespace reports the traffic, which comes from outside the mesh. -/
def ArrivesFromOutside (ns : String) : Prop :=
  s reporter = "destination" ∧ s sourceWorkload = unknownLabel ∧ s destServiceNamespace = ns

instance (ns : String) : Decidable (s.LeavesKnown ns) := inferInstanceAs (Decidable (_ ∧ _ ∧ _))

instance (ns : String) : Decidable (s.ArrivesFromOutside ns) :=
  inferInstanceAs (Decidable (_ ∧ _ ∧ _))

end Series

namespace QuerySet

/-- **How many request queries select a series** with an accepted code: one summand for each
query. -/
theorem countP_namespaceRequests (metric : String) {codes : String} (groupBy : List String)
    (ns : String) (window : Nat) (r : Request) (hcode : accepts codes (s responseCode) = true) :
    (namespaceRequests metric codes groupBy ns window r).countP (·.selects accepts s) =
      (if s reporter = "destination" ∧ s sourceWorkload = unknownLabel ∧
          s destServiceNamespace = ns then 1 else 0) +
      (if s reporter = "source" ∧ s sourceNamespace ≠ ns ∧ s sourceWorkload ≠ unknownLabel ∧
          s destServiceNamespace = ns then 1 else 0) +
      (if s reporter = "source" ∧ s sourceNamespace = ns then 1 else 0) +
      (if r.includeControlPlane ∧ ns = r.controlPlane ∧ s reporter = "destination" ∧
          s sourceNamespace ≠ ns ∧ s destServiceNamespace = ns then 1 else 0) +
      (if r.includeControlPlane ∧ s reporter = "destination" ∧ s sourceNamespace = ns ∧
          s destServiceNamespace = r.controlPlane then 1 else 0) := by
  unfold namespaceRequests
  by_cases hinclude : r.includeControlPlane = true
  · by_cases hns : ns = r.controlPlane
    · simp [RateQuery.selects, List.countP_cons, reportedBy, fromUnknown, notFromUnknown,
        withCodes, hcode, hinclude, hns]
      omega
    · simp [RateQuery.selects, List.countP_cons, reportedBy, fromUnknown, notFromUnknown,
        withCodes, hcode, hinclude, hns]
      omega
  · simp [RateQuery.selects, List.countP_cons, reportedBy, fromUnknown, notFromUnknown,
      withCodes, hcode, hinclude]
    omega

/-- A request query selects no series with another code. -/
theorem countP_namespaceRequests_eq_zero (metric : String) {codes : String}
    (groupBy : List String) (ns : String) (window : Nat) (r : Request)
    (hcode : accepts codes (s responseCode) = false) :
    (namespaceRequests metric codes groupBy ns window r).countP (·.selects accepts s) = 0 := by
  have hcodes : ∀ q ∈ namespaceRequests metric codes groupBy ns window r,
      withCodes codes ∈ q.matchers := by
    intro q hq
    simp only [namespaceRequests, List.mem_append, List.mem_cons, List.not_mem_nil, or_false] at hq
    rcases hq with (rfl | rfl | rfl) | hq
    · simp
    · simp
    · simp
    · grind
  rw [List.countP_eq_zero]
  intro q hq hselects
  have hholds := List.all_eq_true.mp hselects _ (hcodes q hq)
  simp [withCodes, hcode] at hholds

/-- What the source reports is traffic out of the namespace, or else into it. -/
theorem countP_of_source (metric : String) {codes : String} (groupBy : List String) (ns : String)
    (window : Nat) (r : Request) (hcode : accepts codes (s responseCode) = true)
    (h : s reporter = "source") :
    (namespaceRequests metric codes groupBy ns window r).countP (·.selects accepts s) =
      if s sourceNamespace = ns ∨ s sourceWorkload ≠ unknownLabel ∧ s destServiceNamespace = ns
      then 1 else 0 := by
  rw [countP_namespaceRequests accepts s metric groupBy ns window r hcode]
  by_cases hns : s sourceNamespace = ns
  · simp [h, hns]
  · simp [h, hns]

/-- What the destination reports comes from outside the mesh, or it is traffic from or to the
control plane; if the namespace is the control plane, it may be both. -/
theorem countP_of_destination (metric : String) {codes : String} (groupBy : List String)
    (ns : String) (window : Nat) (r : Request) (hcode : accepts codes (s responseCode) = true)
    (h : s reporter = "destination") :
    (namespaceRequests metric codes groupBy ns window r).countP (·.selects accepts s) =
      (if s sourceWorkload = unknownLabel ∧ s destServiceNamespace = ns then 1 else 0) +
      if r.includeControlPlane ∧ s destServiceNamespace = r.controlPlane ∧
          (s sourceNamespace = ns ∨ ns = r.controlPlane) then 1 else 0 := by
  rw [countP_namespaceRequests accepts s metric groupBy ns window r hcode]
  by_cases hns : s sourceNamespace = ns
  · simp [h, hns]
  · by_cases hcontrol : ns = r.controlPlane
    · simp [h, ← hcontrol, hns]
    · simp [h, hns, hcontrol]

/-- What neither side reports is not selected. -/
theorem countP_of_neither (metric : String) {codes : String} (groupBy : List String)
    (ns : String) (window : Nat) (r : Request) (hcode : accepts codes (s responseCode) = true)
    (hsource : s reporter ≠ "source") (hdest : s reporter ≠ "destination") :
    (namespaceRequests metric codes groupBy ns window r).countP (·.selects accepts s) = 0 := by
  rw [countP_namespaceRequests accepts s metric groupBy ns window r hcode]
  simp [hsource, hdest]

/-! ## No series is counted twice -/

/-- The series arrives from outside the mesh in the control plane's own namespace, and control plane
traffic is asked for. -/
def IsAskedTwice (ns : String) (r : Request) : Prop :=
  r.includeControlPlane = true ∧ ns = r.controlPlane ∧ s.ArrivesFromOutside ns

instance (ns : String) (r : Request) : Decidable (IsAskedTwice s ns r) :=
  inferInstanceAs (Decidable (_ ∧ _ ∧ _))

variable {s}

theorem not_isAskedTwice_of_source {ns : String} {r : Request} (h : s reporter = "source") :
    ¬ IsAskedTwice s ns r := by
  rintro ⟨-, -, hdest, -⟩
  rw [h] at hdest
  exact absurd hdest (by decide)

/-- What comes from outside the mesh is control plane traffic as well exactly if it is asked for
twice. -/
theorem isAskedTwice_iff {ns : String} {r : Request} (h : s reporter = "destination") :
    IsAskedTwice s ns r ↔
      (s sourceWorkload = unknownLabel ∧ s destServiceNamespace = ns) ∧
        r.includeControlPlane ∧ s destServiceNamespace = r.controlPlane ∧
          (s sourceNamespace = ns ∨ ns = r.controlPlane) := by
  constructor
  · rintro ⟨hinclude, hns, -, hworkload, hdest⟩
    exact ⟨⟨hworkload, hdest⟩, hinclude, hdest.trans hns, .inr hns⟩
  · rintro ⟨⟨hworkload, hdest⟩, hinclude, hcontrol, -⟩
    exact ⟨hinclude, hdest.symm.trans hcontrol, h, hworkload, hdest⟩

private theorem indicator_le_one (p : Prop) [Decidable p] : (if p then 1 else 0) ≤ 1 := by
  split <;> decide

private theorem indicator_add_le (p q : Prop) [Decidable p] [Decidable q] :
    (if p then 1 else 0) + (if q then 1 else 0) ≤ if p ∧ q then 2 else 1 := by
  by_cases hp : p <;> by_cases hq : q <;> simp [hp, hq]

variable (s)

/-- At most one request query selects a series, unless the series is asked for twice. -/
theorem countP_http_le (ns : String) (window : Nat) (r : Request) :
    (namespaceQueries ns window r).http.countP (·.selects accepts s) ≤
      if IsAskedTwice s ns r then 2 else 1 := by
  have hpos : 0 < if IsAskedTwice s ns r then 2 else 1 := by split <;> decide
  rw [namespaceQueries]
  by_cases hcode : accepts trafficCodes (s responseCode) = true
  · by_cases hsource : s reporter = "source"
    · rw [countP_of_source accepts s _ _ _ _ _ hcode hsource]
      split
      · exact hpos
      · exact Nat.zero_le _
    · by_cases hdest : s reporter = "destination"
      · rw [countP_of_destination accepts s _ _ _ _ _ hcode hdest]
        simp only [isAskedTwice_iff hdest]
        exact indicator_add_le _ _
      · rw [countP_of_neither accepts s _ _ _ _ _ hcode hsource hdest]
        exact Nat.zero_le _
  · rw [countP_namespaceRequests_eq_zero accepts s _ _ _ _ _ (by simpa using hcode)]
    exact Nat.zero_le _

/-- Exactly one selects what leaves a known workload. -/
theorem countP_http_of_leavesKnown {ns : String} (window : Nat) (r : Request)
    (hcode : accepts trafficCodes (s responseCode) = true) (h : s.LeavesKnown ns) :
    (namespaceQueries ns window r).http.countP (·.selects accepts s) = 1 := by
  obtain ⟨hsource, hknown, htouches⟩ := h
  have hselected : s sourceNamespace = ns ∨
      s sourceWorkload ≠ unknownLabel ∧ s destServiceNamespace = ns :=
    htouches.imp_right fun hdest => ⟨hknown, hdest⟩
  rw [namespaceQueries, countP_of_source accepts s _ _ _ _ _ hcode hsource, if_pos hselected]

/-- Exactly one selects what arrives from outside the mesh, unless it is asked for twice. -/
theorem countP_http_of_arrivesFromOutside {ns : String} (window : Nat) (r : Request)
    (hcode : accepts trafficCodes (s responseCode) = true) (h : s.ArrivesFromOutside ns) :
    (namespaceQueries ns window r).http.countP (·.selects accepts s) =
      if IsAskedTwice s ns r then 2 else 1 := by
  obtain ⟨hdest, harrives⟩ := h
  rw [namespaceQueries, countP_of_destination accepts s _ _ _ _ _ hcode hdest, if_pos harrives]
  simp only [isAskedTwice_iff hdest, harrives, and_self, true_and]
  split <;> rfl

/-- At most one byte query selects a series. They split traffic in the same way, and there are none
for the control plane. -/
theorem countP_tcp_le_one (ns : String) (window : Nat) (r : Request) :
    (namespaceQueries ns window r).tcp.countP (·.selects accepts s) ≤ 1 := by
  simp only [namespaceQueries, namespaceBytes, RateQuery.selects, reportedBy, fromUnknown,
    notFromUnknown, List.countP_cons, List.countP_nil, List.all_cons, List.all_nil,
    Matcher.holds_equal, Matcher.holds_notEqual]
  by_cases hsource : s reporter = "source"
  · by_cases hns : s sourceNamespace = ns
    · simp [hsource, hns]
    · simpa [hsource, hns] using indicator_le_one _
  · simpa [hsource] using indicator_le_one _

/-- **No series is counted twice, and all traffic of a namespace is counted**, but for what arrives
from outside the mesh in the control plane's own namespace: if control plane traffic is asked for,
this is counted by two of the request queries. -/
theorem countP_namespaceQueries (ns : String) (window : Nat) (r : Request) :
    (namespaceQueries ns window r).tcp.countP (·.selects accepts s) ≤ 1 ∧
      (namespaceQueries ns window r).http.countP (·.selects accepts s) ≤
        (if IsAskedTwice s ns r then 2 else 1) ∧
      (accepts trafficCodes (s responseCode) = true →
        s.LeavesKnown ns ∨ s.ArrivesFromOutside ns →
          (namespaceQueries ns window r).http.countP (·.selects accepts s) =
            if IsAskedTwice s ns r then 2 else 1) := by
  refine ⟨countP_tcp_le_one accepts s ns window r, countP_http_le accepts s ns window r, ?_⟩
  rintro hcode (h | h)
  · rw [countP_http_of_leavesKnown accepts s window r hcode h,
      if_neg (not_isAskedTwice_of_source h.1)]
  · exact countP_http_of_arrivesFromOutside accepts s window r hcode h

/-! ## Traffic from outside into the control plane -/

/-- A request for control plane traffic, whose namespace is `istio-system`. -/
def withControlPlane : Request := { queryTime := default, includeControlPlane := true }

/-- Requests from outside the mesh to the control plane, as the control plane reports them. -/
def outsideToControlPlane : Series := fun label =>
  (SortedMap.get? (.ofList [(reporter, "destination"), (sourceNamespace, unknownLabel),
    (sourceWorkload, unknownLabel), (destServiceNamespace, "istio-system"),
    (responseCode, "200")]) label).getD ""

/-- They are counted twice. -/
theorem countP_namespaceQueries_outsideToControlPlane :
    outsideToControlPlane.ArrivesFromOutside "istio-system" ∧
      IsAskedTwice outsideToControlPlane "istio-system" withControlPlane ∧
      (namespaceQueries "istio-system" 600 withControlPlane).tcp.countP
        (·.selects (fun _ _ => true) outsideToControlPlane) ≤ 1 ∧
      (namespaceQueries "istio-system" 600 withControlPlane).http.countP
        (·.selects (fun _ _ => true) outsideToControlPlane) = 2 := by
  have harrives : outsideToControlPlane.ArrivesFromOutside "istio-system" := by decide +kernel
  have htwice : IsAskedTwice outsideToControlPlane "istio-system" withControlPlane :=
    ⟨rfl, rfl, harrives⟩
  obtain ⟨htcp, -, hhttp⟩ := countP_namespaceQueries (fun _ _ => true) outsideToControlPlane
    "istio-system" 600 withControlPlane
  rw [if_pos htwice] at hhttp
  exact ⟨harrives, htwice, htcp, hhttp rfl (.inr harrives)⟩

/-- So it is not true of every namespace that no series is counted twice. -/
theorem not_forall_countP_namespaceQueries :
    ¬ ∀ (accepts : String → String → Bool) (s : Series) (ns : String) (window : Nat) (r : Request),
      (namespaceQueries ns window r).tcp.countP (·.selects accepts s) ≤ 1 ∧
        (namespaceQueries ns window r).http.countP (·.selects accepts s) ≤ 1 ∧
        (accepts trafficCodes (s responseCode) = true →
          s.LeavesKnown ns ∨ s.ArrivesFromOutside ns →
            (namespaceQueries ns window r).http.countP (·.selects accepts s) = 1) := by
  intro h
  obtain ⟨-, hle, -⟩ := h (fun _ _ => true) outsideToControlPlane "istio-system" 600
    withControlPlane
  exact absurd hle (by decide +kernel)

end QuerySet

end MeshTraffic
