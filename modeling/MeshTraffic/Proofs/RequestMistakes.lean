import MeshTraffic.Proofs.Answered
import MeshTraffic.Proofs.Reducible
import MeshTraffic.Proofs.Schedules

/-!
# Mistakes in requests

Everything that can be wrong with a request is found while its plan is made, before anything is
asked. Once there is a plan, a build fails for its configuration only if telemetry says so.

* `Request.HasMistake`: what can be wrong with a request for a kind of graph.
  `Plan.failsUnless_ofNamespaces`, `Plan.failsUnless_ofFocus`: there is a plan exactly if nothing
  is.
* `Task.OnlyAsks`: tasks that fail only after a query that has failed.
  `Plan.cases_of_runTimed_eq_error`: why a plan fails, whatever the clock says.
* `Plan.IsConfigured`: plans that do not fail for their configuration.
* `Request.catchesMistakes`: a build fails for its configuration exactly if the request has a
  mistake, and then it has asked nothing.
-/

namespace MeshTraffic

variable {ν α β : Type}

/-! ## Tasks that only ask -/

/-- No query is answered with a fault in the settings of the backend. -/
def Backend.IsConfigured (b : Backend ν) : Prop :=
  ∀ query text, b query ≠ .error (.configuration text)

namespace Task

/-- The task fails only after a query that has failed. -/
def OnlyAsks : Task ν α → Prop
  | done _ => True
  | fail _ => False
  | ask _ next => ∀ answers, (next answers).OnlyAsks

theorem OnlyAsks.bind {t : Task ν α} (h : t.OnlyAsks) {f : α → Task ν β}
    (hf : ∀ a, (f a).OnlyAsks) : (t.bind f).OnlyAsks := by
  induction t with
  | done a => exact hf a
  | fail e => cases h
  | ask queries next ih => exact fun answers => ih answers (h answers)

/-- So it does not fail for its configuration. -/
theorem OnlyAsks.category_ne {t : Task ν α} (h : t.OnlyAsks) {b : Backend ν}
    (hb : b.IsConfigured) {e : BuildError} (he : t.MayFail b e) : e.category ≠ .configuration := by
  induction t with
  | done a => cases he
  | fail e' => cases h
  | ask queries next ih =>
    obtain ⟨query, -, fault, hfault, rfl⟩ | ⟨answers, -, he⟩ := he
    · cases fault with
      | configuration text => exact absurd hfault (hb query text)
      | _ => exact nofun
    · exact ih answers (h answers) he

/-- The failure that a task ends with is one that it may end with. -/
theorem mayFail_of_run {b : Backend ν} {t : Task ν α} {e : BuildError}
    (h : (t.run b).result = .error e) : t.MayFail b e := by
  induction t with
  | done a => cases h
  | fail e' => exact Except.error.inj h
  | ask queries next ih =>
    rw [run, result_bind, result_askEach] at h
    cases hq : queries.mapM b with
    | error fault =>
      rw [hq] at h
      cases h
      obtain ⟨query, hquery, hfault⟩ := exists_of_mapM_eq_error hq
      exact .inl ⟨query, hquery, fault, hfault, rfl⟩
    | ok answers =>
      rw [hq] at h
      exact .inr ⟨answers, hq, ih answers h⟩

end Task

/-! ## Why plans fail -/

theorem BuildError.category_of_isCancelled {e : BuildError} (h : e.isCancelled = true) :
    e.category = .query := by
  unfold isCancelled at h
  split at h
  · rfl
  · rfl
  · cases h

namespace Timeline

variable {b : Backend ν} {ts : List (Task ν α)} {e : BuildError}

theorem exists_of_mem_traces {trace : Task.Trace α} (htrace : trace ∈ ts.map (·.trace b))
    (he : trace.result = .error e) : ∃ t ∈ ts, (t.run b).result = .error e := by
  obtain ⟨t, ht, rfl⟩ := List.mem_map.mp htrace
  exact ⟨t, ht, (Task.result_trace b t).symm.trans he⟩

/-- Parts that are not interrupted fail because one of them does. -/
theorem exists_of_results_eq_error (h : results (ts.map (·.trace b)) = .error e) :
    ∃ t ∈ ts, (t.run b).result = .error e := by
  unfold results at h
  split at h
  · next trace hfind =>
    refine exists_of_mem_traces (List.mem_of_find?_eq_some hfind) ?_
    cases hresult : trace.result with
    | ok a => simp [hresult, Except.map] at h
    | error e' => simpa [hresult, Except.map] using h
  · obtain ⟨trace, htrace, he⟩ := exists_of_mapM_eq_error h
    exact exists_of_mem_traces htrace he

theorem isCancelled_of_interruption? {c : Clock} {needed time : Nat} {fault : TelemetryFault}
    (h : interruption? c needed = some (time, fault)) :
    (BuildError.query fault).isCancelled = true := by
  simp only [interruption?] at h
  split at h
  · split at h <;> cases h <;> rfl
  · cases h
    rfl
  · cases h
    rfl
  · cases h

theorem cases_of_transcript_eq_error {c : Clock}
    (h : (transcript c (ts.map (·.trace b))).result = .error e) :
    e.isCancelled = true ∨ ∃ t ∈ ts, (t.run b).result = .error e := by
  unfold transcript at h
  split at h
  · next hinterrupt =>
    cases h
    exact .inl (isCancelled_of_interruption? hinterrupt)
  · exact .inr (exists_of_results_eq_error h)

theorem cases_of_cancelledTranscript_eq_error
    (h : (cancelledTranscript (ts.map (·.trace b))).result = .error e) :
    e.isCancelled = true ∨ ∃ t ∈ ts, (t.run b).result = .error e := by
  obtain ⟨trace, htrace, he⟩ := exists_of_mapM_eq_error h
  split at he
  · exact .inr (exists_of_mem_traces htrace he)
  · cases he
    exact .inl rfl

end Timeline

/-- **Why a plan fails**: it is interrupted, one of its parts fails, or nothing can be made of the
maps that they give. -/
theorem Plan.cases_of_runTimed_eq_error [Quantity ν] {b : Backend ν} {c : Clock} {p : Plan ν}
    {e : BuildError} (h : (p.runTimed b c).result = .error e) :
    e.isCancelled = true ∨ (∃ t ∈ p.parts, t.MayFail b e) ∨ ∃ maps, p.finish maps = .error e := by
  obtain h | ⟨maps, -, h⟩ := bind_eq_error_iff.mp h
  · have hparts : e.isCancelled = true ∨ ∃ t ∈ p.parts, (t.run b).result = .error e := by
      split at h
      · exact Timeline.cases_of_cancelledTranscript_eq_error h
      · split at h
        · rw [Task.result_runAll] at h
          exact .inr (exists_of_mapM_eq_error h)
        · exact Timeline.cases_of_transcript_eq_error h
    exact hparts.imp_right fun ⟨t, ht, he⟩ => .inl ⟨t, ht, Task.mayFail_of_run he⟩
  · exact .inr (.inr ⟨maps, h⟩)

/-! ## Plans without mistakes -/

namespace Task

variable [Quantity ν]

theorem onlyAsks_drawn (set : QuerySet) (r : Request) : (set.drawn r : Task ν _).OnlyAsks :=
  fun _ => trivial

/-- The appenders that a request can name only ask. -/
theorem onlyAsks_runAll {r : Request} {appenders : List (Appender ν)}
    (h : ∀ a ∈ appenders, a = ResponseTime.appender r.quantile) (scope : Scope)
    (m : TrafficMap ν) : (Appender.runAll appenders r scope m).OnlyAsks := by
  induction appenders generalizing m with
  | nil => trivial
  | cons a appenders ih =>
    obtain ⟨rfl, hrest⟩ := List.forall_mem_cons.mp h
    refine OnlyAsks.bind ?_ (ih hrest)
    unfold ResponseTime.appender
    split
    · trivial
    · exact fun _ => trivial

end Task

/-- The failure of a build is a mistake in the configuration. -/
def Transcript.IsMisconfigured (t : Transcript α) : Prop :=
  ∃ e, t.result = .error e ∧ e.category = .configuration

namespace Plan

variable [Quantity ν]

/-- Whatever the plan fails for, it is not its configuration. -/
structure IsConfigured (p : Plan ν) : Prop where
  onlyAsk : ∀ t ∈ p.parts, t.OnlyAsks
  finish : ∀ maps e, p.finish maps = .error e → e.category ≠ .configuration

theorem IsConfigured.not_isMisconfigured {p : Plan ν} (h : p.IsConfigured) {b : Backend ν}
    (hb : b.IsConfigured) (c : Clock) : ¬ (p.runTimed b c).IsMisconfigured := by
  rintro ⟨e, he, hcategory⟩
  obtain hcancelled | ⟨t, ht, hfail⟩ | ⟨maps, hfinish⟩ := cases_of_runTimed_eq_error he
  · rw [BuildError.category_of_isCancelled hcancelled] at hcategory
    cases hcategory
  · exact (h.onlyAsk t ht).category_ne hb hfail hcategory
  · exact h.finish maps e hfinish hcategory

/-- A build whose plan is checked first fails for its configuration exactly if there is no plan, and
then it has asked nothing. -/
theorem isMisconfigured_runIfMade {p? : Except BuildError (Plan ν)} {C : Prop}
    (hp : FailsUnless (·.category = .configuration) C p?)
    (hconfigured : ∀ p, p? = .ok p → p.IsConfigured) {b : Backend ν} (hb : b.IsConfigured)
    (c : Clock) :
    ((runIfMade b c p?).IsMisconfigured ↔ ¬ C) ∧
      ((runIfMade b c p?).IsMisconfigured → (runIfMade b c p?).asked = []) := by
  cases p? with
  | ok p =>
    have hnot := (hconfigured p rfl).not_isMisconfigured hb c
    exact ⟨iff_of_false hnot (not_not_intro (hp.isOk_iff.mp ⟨p, rfl⟩)), fun h => absurd h hnot⟩
  | error e =>
    have hC : ¬ C := fun hC => nomatch hp.isOk_iff.mpr hC
    exact ⟨iff_of_true ⟨e, rfl, hp.of_error rfl⟩ hC, fun _ => rfl⟩

end Plan

/-! ## What can be wrong -/

namespace Request

/-- What can be wrong with a request for a graph of the kind. -/
inductive HasMistake (r : Request) : GraphKind → Prop where
  /-- An appender that nobody knows. -/
  | appender {kind : GraphKind} {name : String} :
    name ∈ r.appenders → name ≠ ResponseTime.name → HasMistake r kind
  /-- Not one namespace for a node. -/
  | scopes : r.namespaces.size ≠ 1 → HasMistake r .node
  /-- No node to be about. -/
  | focus : r.focus = none → HasMistake r .node
  /-- A node in another namespace. -/
  | otherNamespace {scope : Scope} {focus : Labels} :
    scope ∈ r.namespaces.values → r.focus = some focus → focus.ns ≠ "" → focus.ns ≠ scope.name →
      HasMistake r .node
  /-- A node that cannot be told from the rest of the world. -/
  | unknownNode {scope : Scope} {focus : Labels} :
    scope ∈ r.namespaces.values → r.focus = some focus →
      ({ focus with ns := scope.name }.resolve r.type).kind = .unknown → HasMistake r .node

end Request

/-! ## Checks -/

variable [Quantity ν] {r : Request}

theorem Request.failsUnless_namedAppenders (r : Request) :
    FailsUnless (·.category = .configuration) r.NamesKnown
      (r.namedAppenders : Except _ (List (Appender ν))) where
  isOk_iff := by
    refine ⟨?_, fun h => ⟨_, h.namedAppenders_eq⟩⟩
    rintro ⟨named, hnamed⟩ name hname
    obtain ⟨a, -, ha⟩ := exists_of_mem_right (mapM_eq_ok_iff.mp hnamed).flip hname
    split at ha
    · assumption
    · cases ha
  of_error h := by
    obtain ⟨name, -, hname⟩ := exists_of_mapM_eq_error h
    split at hname <;> cases hname
    rfl

omit [Quantity ν] in
theorem QuerySet.failsUnless_nodeQueries (n : Node ν) (window : Nat) (r : Request) :
    FailsUnless (·.category = .configuration) (n.kind ≠ .unknown) (nodeQueries n window r) := by
  unfold nodeQueries
  cases hkind : n.kind with
  | unknown => exact .error (by simp) rfl
  | workload | app | versionedApp | service => exact .ok nofun _

namespace Plan

theorem focusScope_eq_ok_iff {scope : Scope} :
    focusScope r = .ok scope ↔ r.namespaces.values = [scope] := by
  unfold focusScope
  split <;> simp_all

theorem failsUnless_focusScope (r : Request) :
    FailsUnless (·.category = .configuration) (r.namespaces.size = 1) (focusScope r) := by
  have hsize : r.namespaces.size = r.namespaces.values.length := by
    simp [ArrivalMap.size, ArrivalMap.values]
  rw [hsize]
  unfold focusScope
  split
  · next heq => exact .ok (by simp [heq]) _
  · next hne => exact .error (fun h => (List.length_eq_one_iff.mp h).elim hne) rfl

theorem failsUnless_focusLabels (r : Request) :
    FailsUnless (·.category = .configuration) (r.focus ≠ none) (focusLabels r) := by
  unfold focusLabels
  split
  · next heq => exact .ok (by simp [heq]) _
  · next heq => exact .error (by simp [heq]) rfl

theorem failsUnless_checkFocus (scope : Scope) (focus : Labels) :
    FailsUnless (·.category = .configuration) (¬ (focus.ns ≠ "" ∧ focus.ns ≠ scope.name))
      (checkFocus scope focus) := by
  unfold checkFocus
  split
  · next h => exact .error (not_not_intro h) rfl
  · next h => exact .ok h ()

/-- **There is a plan for a graph of namespaces** unless the request has a mistake. -/
theorem failsUnless_ofNamespaces (r : Request) :
    FailsUnless (·.category = .configuration) (¬ r.HasMistake .namespaces)
      (ofNamespaces [] r : Except _ (Plan ν)) := by
  refine (r.failsUnless_namedAppenders.bind_ok _).congr ⟨?_, fun h name hname => ?_⟩
  · rintro hknown ⟨hname, hne⟩
    exact hne (hknown _ hname)
  · by_contra hne
    exact h (.appender hname hne)

/-- **There is a plan for the graph of a node** unless the request has a mistake. -/
theorem failsUnless_ofFocus (r : Request) :
    FailsUnless (·.category = .configuration) (¬ r.HasMistake .node)
      (ofFocus [] r : Except _ (Plan ν)) := by
  refine ((failsUnless_focusScope r).bind fun scope =>
    (failsUnless_focusLabels r).bind fun focus =>
    (failsUnless_checkFocus scope focus).bind fun _ =>
    r.failsUnless_namedAppenders.bind fun named =>
    (QuerySet.failsUnless_nodeQueries _ scope.window r).bind_ok _).congr ⟨?_, fun h => ?_⟩
  · rintro ⟨scope, hscope, focus, hfocus, u, hcheck, named, hnamed, hkind⟩ hmistake
    have hvalues := focusScope_eq_ok_iff.mp hscope
    have hlabels := focus_eq_of_focusLabels hfocus
    cases hmistake with
    | appender hname hne =>
      exact hne (r.failsUnless_namedAppenders.isOk_iff.mp ⟨named, hnamed⟩ _ hname)
    | scopes hsize => exact hsize ((failsUnless_focusScope r).isOk_iff.mp ⟨scope, hscope⟩)
    | focus hnone => cases hlabels.symm.trans hnone
    | otherNamespace hscope' hfocus' hns hother =>
      rw [hvalues, List.mem_singleton] at hscope'
      obtain rfl := Option.some.inj (hlabels.symm.trans hfocus')
      exact (failsUnless_checkFocus scope focus).isOk_iff.mp ⟨u, hcheck⟩ ⟨hns, hscope' ▸ hother⟩
    | unknownNode hscope' hfocus' hunknown =>
      rw [hvalues, List.mem_singleton] at hscope'
      obtain rfl := Option.some.inj (hlabels.symm.trans hfocus')
      exact hkind (hscope' ▸ hunknown)
  · obtain ⟨scope, hscope⟩ := (failsUnless_focusScope r).isOk_iff.mpr
      (by_contra fun hsize => h (.scopes hsize))
    obtain ⟨focus, hfocus⟩ := (failsUnless_focusLabels r).isOk_iff.mpr fun hnone => h (.focus hnone)
    have hmem := mem_values_of_focusScope hscope
    have hlabels := focus_eq_of_focusLabels hfocus
    obtain ⟨u, hcheck⟩ := (failsUnless_checkFocus scope focus).isOk_iff.mpr
      fun hns => h (.otherNamespace hmem hlabels hns.1 hns.2)
    obtain ⟨named, hnamed⟩ := (r.failsUnless_namedAppenders (ν := ν)).isOk_iff.mpr
      fun name hname => by_contra fun hne => h (.appender hname hne)
    exact ⟨scope, hscope, focus, hfocus, u, hcheck, named, hnamed,
      fun hunknown => h (.unknownNode hmem hlabels hunknown)⟩

/-- A plan for a graph of namespaces fails for the graph or for telemetry. -/
theorem isConfigured_of_ofNamespaces {p : Plan ν} (hp : ofNamespaces [] r = .ok p) :
    p.IsConfigured := by
  obtain ⟨named, hnamed, heq⟩ := bind_eq_ok_iff.mp hp
  cases heq
  refine ⟨fun t ht => ?_, fun maps e he => ?_⟩
  · obtain ⟨scope, -, rfl⟩ := List.mem_map.mp ht
    rw [List.append_nil]
    exact (Task.onlyAsks_drawn _ r).bind
      (Task.onlyAsks_runAll (Request.eq_appender_of_named hnamed) scope)
  · simp only [finishNamespaces] at he
    split at he
    · obtain ⟨fault, hfault, rfl⟩ := mapError_eq_error_iff.mp he
      have hgraph := (TrafficMap.failsUnless_toServiceGraph _).of_error hfault
      rw [BuildError.ofGraphFault_eq_data hgraph]
      intro hcategory
      cases hcategory
    · cases he

/-- A plan for the graph of a node fails for telemetry only. -/
theorem isConfigured_of_ofFocus {p : Plan ν} (hp : ofFocus [] r = .ok p) : p.IsConfigured := by
  obtain ⟨scope, -, hp⟩ := bind_eq_ok_iff.mp hp
  obtain ⟨focus, -, hp⟩ := bind_eq_ok_iff.mp hp
  obtain ⟨-, -, hp⟩ := bind_eq_ok_iff.mp hp
  obtain ⟨named, hnamed, hp⟩ := bind_eq_ok_iff.mp hp
  obtain ⟨set, -, heq⟩ := bind_eq_ok_iff.mp hp
  cases heq
  refine ⟨fun t ht => ?_, nofun⟩
  rw [List.mem_singleton.mp ht, List.append_nil]
  exact (Task.onlyAsks_drawn set r).bind
    (Task.onlyAsks_runAll (Request.eq_appender_of_named hnamed) scope)

end Plan

namespace Request

/-- A build catches the mistakes that a request for a graph of the kind can have: it fails for its
configuration exactly if there is one, and then it has asked nothing. -/
structure CatchesMistakes (r : Request) (kind : GraphKind) (t : Transcript α) : Prop where
  isMisconfigured_iff : t.IsMisconfigured ↔ r.HasMistake kind
  asked_eq : t.IsMisconfigured → t.asked = []

/-- **All mistakes in a request are caught** before anything is asked, and nothing else is taken for
one, unless telemetry finds fault with the settings of its backend. -/
theorem catchesMistakes (r : Request) {b : Backend ν} (hb : b.IsConfigured) (c : Clock) :
    r.CatchesMistakes .namespaces (r.namespacesGraph [] b c) ∧
      r.CatchesMistakes .node (r.nodeGraph [] b c) := by
  obtain ⟨hiff, hasked⟩ := Plan.isMisconfigured_runIfMade (Plan.failsUnless_ofNamespaces r)
    (fun _ => Plan.isConfigured_of_ofNamespaces) hb c
  obtain ⟨hiff', hasked'⟩ := Plan.isMisconfigured_runIfMade (Plan.failsUnless_ofFocus r)
    (fun _ => Plan.isConfigured_of_ofFocus) hb c
  exact ⟨⟨hiff.trans not_not, hasked⟩, ⟨hiff'.trans not_not, hasked'⟩⟩

/-! ## Requests with and without mistakes -/

/-- A request for the graph of a workload of the namespace `a`, with some appenders. -/
def aboutWorkload (workload : String) (appenders : List String) : Request :=
  withFocus (withNamespace { queryTime := default, appenders } "a" 600)
    { ns := "a", workload, app := "", version := "" }

/-- No query is answered. -/
def nothingAnswered : Backend Rat := fun _ => .error .malformed

/-- An unknown appender and an unknown node are found before anything is asked. A request without
mistakes asks, and then fails for another reason. -/
theorem catchesMistakes_aboutWorkload :
    nothingAnswered.IsConfigured ∧
      (∃ t, (aboutWorkload "w" ["latency"]).namespacesGraph [] nothingAnswered ⟨0, none, none⟩ = t ∧
        t.IsMisconfigured ∧ t.asked = []) ∧
      (∃ t, (aboutWorkload unknownLabel []).nodeGraph [] nothingAnswered ⟨0, none, none⟩ = t ∧
        t.IsMisconfigured ∧ t.asked = []) ∧
      ∃ t, (aboutWorkload "w" []).nodeGraph [] nothingAnswered ⟨0, none, none⟩ = t ∧
        ¬ t.IsMisconfigured ∧ t.asked.length = 1 ∧ ¬ (aboutWorkload "w" []).HasMistake .node := by
  have hb : nothingAnswered.IsConfigured := fun _ _ => nofun
  refine ⟨hb, ⟨_, rfl, ?_⟩, ⟨_, rfl, ?_⟩, ⟨_, rfl, ?_⟩⟩
  · obtain ⟨hcatches, -⟩ := catchesMistakes (aboutWorkload "w" ["latency"]) hb ⟨0, none, none⟩
    have hfound := hcatches.isMisconfigured_iff.mpr
      (.appender (List.mem_singleton.mpr rfl) (by decide))
    exact ⟨hfound, hcatches.asked_eq hfound⟩
  · obtain ⟨-, hcatches⟩ := catchesMistakes (aboutWorkload unknownLabel []) hb ⟨0, none, none⟩
    have hscope : ⟨"a", 600⟩ ∈ (aboutWorkload unknownLabel []).namespaces.values := by decide
    have hfound := hcatches.isMisconfigured_iff.mpr (.unknownNode hscope rfl (by decide))
    exact ⟨hfound, hcatches.asked_eq hfound⟩
  · obtain ⟨-, hcatches⟩ := catchesMistakes (aboutWorkload "w" []) hb ⟨0, none, none⟩
    have hresult : ((aboutWorkload "w" []).nodeGraph [] nothingAnswered ⟨0, none, none⟩).result =
        .error (.query .malformed) := rfl
    have hnot : ¬ ((aboutWorkload "w" []).nodeGraph [] nothingAnswered
        ⟨0, none, none⟩).IsMisconfigured := by
      rintro ⟨e, he, hcategory⟩
      cases hresult.symm.trans he
      cases hcategory
    exact ⟨hnot, rfl, fun h => hnot (hcatches.isMisconfigured_iff.mpr h)⟩

end Request

end MeshTraffic
