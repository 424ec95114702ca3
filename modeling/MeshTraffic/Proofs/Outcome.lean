import Mathlib.Data.List.Forall2
import MeshTraffic.Build.Graph

/-!
# How builds end

* `FailsUnless P C x`: the step `x` ends well exactly if `C` holds, and otherwise fails as `P` says.
  `FailsUnless.bind`: so do several steps if each does.
* `Task.Gives b t a`: the task `t` ends with `a` if `b` answers its queries.
* `Task.gives_bind_iff`, `Task.gives_ask_iff`, `Task.runAll_eq_ok_iff`: what the parts of a task
  give decides what the whole gives.
* `Task.result_trace`: asking the queries of a round all at once ends in the same way.
* `Plan.gives_of_runTimed`: a plan that succeeds makes its graph of what its parts give, whatever
  the clock says.
* `Appender.Keeps`, `Plan.holds_of_part`: what drawn maps have and appenders keep, the map of a part
  has.
* `Plan.exists_of_ofNamespaces`, `Plan.exists_of_ofFocus`: what a graph is made of.
-/

namespace MeshTraffic

/-! ## Results of several steps -/

theorem bind_eq_ok_iff {ε α β : Type} {x : Except ε α} {f : α → Except ε β} {b : β} :
    x.bind f = .ok b ↔ ∃ a, x = .ok a ∧ f a = .ok b := by
  cases x <;> simp [Except.bind]

theorem bind_eq_error_iff {ε α β : Type} {x : Except ε α} {f : α → Except ε β} {e : ε} :
    x.bind f = .error e ↔ x = .error e ∨ ∃ a, x = .ok a ∧ f a = .error e := by
  cases x <;> simp [Except.bind]

theorem map_eq_ok_iff {ε α β : Type} {x : Except ε α} {f : α → β} {b : β} :
    x.map f = .ok b ↔ ∃ a, x = .ok a ∧ f a = b := by
  cases x <;> simp [Except.map]

theorem mapError_eq_ok_iff {ε ε' α : Type} {x : Except ε α} {f : ε → ε'} {a : α} :
    x.mapError f = .ok a ↔ x = .ok a := by
  cases x <;> simp [Except.mapError]

theorem mapError_eq_error_iff {ε ε' α : Type} {x : Except ε α} {f : ε → ε'} {e' : ε'} :
    x.mapError f = .error e' ↔ ∃ e, x = .error e ∧ f e = e' := by
  cases x <;> simp [Except.mapError]

/-- A result that something can be read from is a success. -/
theorem exists_ok_of_bind_toOption {ε α β : Type} {x : Except ε α} {f : α → Option β} {b : β}
    (h : x.toOption.bind f = some b) : ∃ a, x = .ok a ∧ f a = some b := by
  cases x with
  | error e => cases h
  | ok a => exact ⟨a, rfl, h⟩

theorem mapM_eq_ok_iff {ε α β : Type} {f : α → Except ε β} {as : List α} {bs : List β} :
    as.mapM f = .ok bs ↔ List.Forall₂ (fun a b => f a = .ok b) as bs := by
  induction as generalizing bs with
  | nil => simp [pure, Except.pure, eq_comm]
  | cons a as ih =>
    simp only [List.mapM_cons, List.forall₂_cons_left_iff, bind, bind_eq_ok_iff, pure,
      Except.pure, Except.ok.injEq, ih]
    constructor
    · rintro ⟨c, hc, cs, hcs, rfl⟩
      exact ⟨c, cs, hc, hcs, rfl⟩
    · rintro ⟨c, cs, hc, hcs, rfl⟩
      exact ⟨c, hc, cs, hcs, rfl⟩

/-- The first step that fails decides. -/
theorem mapM_eq_error_iff {ε α β : Type} {f : α → Except ε β} {as : List α} {e : ε} :
    as.mapM f = .error e ↔ ∃ before a after,
      as = before ++ a :: after ∧ (∀ a' ∈ before, ∃ b, f a' = .ok b) ∧ f a = .error e := by
  induction as with
  | nil => simp [pure, Except.pure]
  | cons a as ih =>
    simp only [List.mapM_cons, bind, bind_eq_error_iff, pure, Except.pure, reduceCtorEq, and_false,
      exists_false, or_false, ih]
    constructor
    · rintro (ha | ⟨b, hb, before, a', after, rfl, hbefore, ha'⟩)
      · exact ⟨[], a, as, rfl, by simp, ha⟩
      · exact ⟨a :: before, a', after, rfl, List.forall_mem_cons.mpr ⟨⟨b, hb⟩, hbefore⟩, ha'⟩
    · rintro ⟨before, a', after, heq, hbefore, ha'⟩
      cases before with
      | nil =>
        obtain ⟨rfl, -⟩ := List.cons.inj heq
        exact .inl ha'
      | cons c before =>
        obtain ⟨rfl, rfl⟩ := List.cons.inj heq
        obtain ⟨⟨b, hb⟩, hbefore⟩ := List.forall_mem_cons.mp hbefore
        exact .inr ⟨b, hb, before, a', after, rfl, hbefore, ha'⟩

/-- The step ends well exactly if `C` holds; otherwise its fault is as `P` says. -/
structure FailsUnless {ε α : Type} (P : ε → Prop) (C : Prop) (x : Except ε α) : Prop where
  isOk_iff : (∃ a, x = .ok a) ↔ C
  of_error : ∀ {e}, x = .error e → P e

namespace FailsUnless

variable {ε α β : Type} {P : ε → Prop} {C D : Prop}

theorem ok (hC : C) (a : α) : FailsUnless P C (.ok a) where
  isOk_iff := iff_of_true ⟨a, rfl⟩ hC
  of_error h := nomatch h

theorem error (hC : ¬ C) {e : ε} (he : P e) : FailsUnless P C (.error e : Except ε α) where
  isOk_iff := iff_of_false (fun ⟨_, h⟩ => nomatch h) hC
  of_error h := by
    cases h
    exact he

theorem congr {x : Except ε α} (h : FailsUnless P C x) (hCD : C ↔ D) : FailsUnless P D x where
  isOk_iff := h.isOk_iff.trans hCD
  of_error := h.of_error

/-- The next step has to end well too. -/
theorem bind {x : Except ε α} (h : FailsUnless P C x) {f : α → Except ε β} {D : α → Prop}
    (hf : ∀ a, FailsUnless P (D a) (f a)) : FailsUnless P (∃ a, x = .ok a ∧ D a) (x.bind f) := by
  cases x with
  | ok a => exact (hf a).congr (by simp)
  | error e => exact error (by simp) (h.of_error rfl)

/-- What is made of the result of a step changes nothing. -/
theorem bind_ok {x : Except ε α} (h : FailsUnless P C x) (f : α → β) :
    FailsUnless P C (x.bind fun a => .ok (f a)) :=
  (h.bind fun a => ok trivial (f a)).congr (by simpa using h.isOk_iff)

end FailsUnless

theorem exists_of_mem_right {α β : Type} {R : α → β → Prop} {as : List α} {bs : List β}
    (h : List.Forall₂ R as bs) {b : β} (hb : b ∈ bs) : ∃ a ∈ as, R a b := by
  induction h with
  | nil => cases hb
  | cons hab _ ih =>
    rcases List.mem_cons.mp hb with rfl | hb
    · exact ⟨_, by simp, hab⟩
    · obtain ⟨a, ha, hR⟩ := ih hb
      exact ⟨a, by simp [ha], hR⟩

theorem forall₂_zip {α β γ : Type} {R : α → β → Prop} (f : α → γ) {as : List α} {bs : List β}
    (h : List.Forall₂ R as bs) :
    List.Forall₂ (fun a e => e.1 = f a ∧ R a e.2) as ((as.map f).zip bs) := by
  induction h with
  | nil => exact .nil
  | cons hab _ ih => exact .cons ⟨rfl, hab⟩ ih

theorem exists_forall₂ {R : α → β → Prop} (h : ∀ a, ∃ b, R a b) (as : List α) :
    ∃ bs, List.Forall₂ R as bs := by
  induction as with
  | nil => exact ⟨[], .nil⟩
  | cons a as ih =>
    obtain ⟨b, hb⟩ := h a
    obtain ⟨bs, hbs⟩ := ih
    exact ⟨b :: bs, .cons hb hbs⟩

/-! ## Tasks -/

variable {ν α β : Type}

namespace Task

/-- The task ends with `a` if `b` answers its queries. -/
def Gives (b : Backend ν) (t : Task ν α) (a : α) : Prop := (t.run b).result = .ok a

theorem result_bind (t : Transcript α) (f : α → Transcript β) :
    (t.bind f).result = t.result.bind fun a => (f a).result := by
  unfold Transcript.bind
  cases t.result <;> rfl

theorem result_askEach (b : Backend ν) (queries : List String) :
    (b.askEach queries).result = (queries.mapM b).mapError .query := by
  induction queries with
  | nil => rfl
  | cons q queries ih =>
    rw [List.mapM_cons, Backend.askEach]
    cases b q with
    | error fault => rfl
    | ok samples =>
      simp only [ih]
      cases queries.mapM b <;> rfl

@[simp] theorem gives_done_iff {b : Backend ν} {a a' : α} :
    (done a : Task ν α).Gives b a' ↔ a = a' := by
  simp [Gives, run]

theorem gives_ask_iff {b : Backend ν} {queries : List String}
    {next : List (List (Sample ν)) → Task ν α} {a : α} :
    (ask queries next).Gives b a ↔
      ∃ answers, queries.mapM b = .ok answers ∧ (next answers).Gives b a := by
  rw [Gives, run, result_bind, bind_eq_ok_iff, result_askEach]
  simp only [mapError_eq_ok_iff, Gives]

theorem gives_bind_iff {b : Backend ν} {t : Task ν α} {f : α → Task ν β} {c : β} :
    (t.bind f).Gives b c ↔ ∃ a, t.Gives b a ∧ (f a).Gives b c := by
  induction t with
  | done a => simp [Task.bind]
  | fail e => simp [Task.bind, Gives, run]
  | ask queries next ih =>
    simp only [Task.bind, gives_ask_iff, ih]
    constructor
    · rintro ⟨answers, hq, a, ha, hc⟩
      exact ⟨a, ⟨answers, hq, ha⟩, hc⟩
    · rintro ⟨a, ⟨answers, hq, ha⟩, hc⟩
      exact ⟨answers, hq, a, ha, hc⟩

/-- Asking the queries of a round all at once ends in the same way. -/
theorem result_trace (b : Backend ν) (t : Task ν α) : (t.trace b).result = (t.run b).result := by
  induction t with
  | done a => rfl
  | fail e => rfl
  | ask queries next ih =>
    rw [run, result_bind, result_askEach, trace]
    cases queries.mapM b with
    | error fault => rfl
    | ok answers => exact ih answers

theorem runAll_eq_ok_iff {b : Backend ν} {ts : List (Task ν α)} {as : List α} :
    (runAll b ts).result = .ok as ↔ List.Forall₂ (fun t a => t.Gives b a) ts as := by
  induction ts generalizing as with
  | nil => simp [runAll, eq_comm]
  | cons t ts ih =>
    simp only [runAll, result_bind, bind_eq_ok_iff, map_eq_ok_iff, ih, Gives,
      List.forall₂_cons_left_iff]
    constructor
    · rintro ⟨a, ha, as, has, rfl⟩
      exact ⟨a, as, ha, has, rfl⟩
    · rintro ⟨a, as, ha, has, rfl⟩
      exact ⟨a, ha, as, has, rfl⟩

end Task

/-! ## Plans -/

namespace Timeline

theorem mapM_result_eq_ok_iff {b : Backend ν} {ts : List (Task ν α)} {as : List α} :
    (ts.map (·.trace b)).mapM Task.Trace.result = .ok as ↔
      List.Forall₂ (fun t a => t.Gives b a) ts as := by
  simp only [mapM_eq_ok_iff, List.forall₂_map_left_iff, Task.result_trace, Task.Gives]

/-- If nothing interrupts the parts, they end well only if each does. -/
theorem gives_of_results {b : Backend ν} {ts : List (Task ν α)} {as : List α}
    (h : results (ts.map (·.trace b)) = .ok as) :
    List.Forall₂ (fun t a => t.Gives b a) ts as := by
  unfold results at h
  split at h
  · next t hfind =>
    -- the part that is reported has failed, so there is no result
    have hfails := List.find?_some hfind
    obtain ⟨a, ha, -⟩ := map_eq_ok_iff.mp h
    simp [failsAfter, ha, Except.isOk, Except.toBool] at hfails
  · exact mapM_result_eq_ok_iff.mp h

theorem gives_of_cancelled {b : Backend ν} {ts : List (Task ν α)} {as : List α}
    (h : (cancelledTranscript (ts.map (·.trace b))).result = .ok as) :
    List.Forall₂ (fun t a => t.Gives b a) ts as := by
  rw [cancelledTranscript, mapM_eq_ok_iff, List.forall₂_map_left_iff] at h
  refine h.imp fun t a hta => ?_
  split at hta
  · rwa [Task.result_trace] at hta
  · cases hta

end Timeline

/-- **A plan that succeeds makes its graph of what its parts give**, whatever the clock says. -/
theorem Plan.gives_of_runTimed {b : Backend ν} {c : Clock} {p : Plan ν} {m : TrafficMap ν}
    (h : (p.runTimed b c).result = .ok m) :
    ∃ maps, List.Forall₂ (fun t a => t.Gives b a) p.parts maps ∧ p.finish maps = .ok m := by
  obtain ⟨maps, hmaps, hfinish⟩ := bind_eq_ok_iff.mp h
  refine ⟨maps, ?_, hfinish⟩
  split at hmaps
  · exact Timeline.gives_of_cancelled hmaps
  · split at hmaps
    · exact Task.runAll_eq_ok_iff.mp hmaps
    · unfold Timeline.transcript at hmaps
      split at hmaps
      · cases hmaps
      · exact Timeline.gives_of_results hmaps

theorem Plan.gives_of_runIfMade {b : Backend ν} {c : Clock} {p? : Except BuildError (Plan ν)}
    {m : TrafficMap ν} (h : (Plan.runIfMade b c p?).result = .ok m) :
    ∃ p maps, p? = .ok p ∧ List.Forall₂ (fun t a => t.Gives b a) p.parts maps ∧
      p.finish maps = .ok m := by
  cases p? with
  | error e => cases h
  | ok p =>
    obtain ⟨maps, hmaps, hfinish⟩ := Plan.gives_of_runTimed h
    exact ⟨p, maps, rfl, hmaps, hfinish⟩

/-! ## Queries and appenders -/

/-- The map that a set of queries is drawn as is the map of some feeds. -/
theorem QuerySet.eq_ofFeeds_of_gives [Quantity ν] {set : QuerySet} {r : Request} {b : Backend ν}
    {m : TrafficMap ν} (h : (set.drawn r).Gives b m) : ∃ feeds, m = TrafficMap.ofFeeds r feeds := by
  obtain ⟨answers, -, hm⟩ := Task.gives_ask_iff.mp h
  exact ⟨_, (Task.gives_done_iff.mp hm).symm⟩

/-- The appender leaves every map as `P` says if the map was so before. -/
def Appender.Keeps (P : TrafficMap ν → Prop) (a : Appender ν) : Prop :=
  ∀ (r : Request) (b : Backend ν) (scope : Scope) (m m' : TrafficMap ν),
    P m → (a r scope m).Gives b m' → P m'

theorem Appender.keeps_of_runAll {P : TrafficMap ν → Prop} {appenders : List (Appender ν)}
    (h : ∀ a ∈ appenders, a.Keeps P) {r : Request} {b : Backend ν} {scope : Scope}
    {m m' : TrafficMap ν} (hm : P m) (hm' : (Appender.runAll appenders r scope m).Gives b m') :
    P m' := by
  induction appenders generalizing m with
  | nil => exact Task.gives_done_iff.mp hm' ▸ hm
  | cons a appenders ih =>
    obtain ⟨ha, hrest⟩ := List.forall_mem_cons.mp h
    obtain ⟨m₁, hm₁, hm'⟩ := Task.gives_bind_iff.mp hm'
    exact ih hrest (ha r b scope m m₁ hm hm₁) hm'

variable [Quantity ν]

/-- The appender for response times does nothing to a map but annotate it. -/
theorem ResponseTime.keeps_of_annotate {P : TrafficMap ν → Prop}
    (h : ∀ times m, P m → P (annotate times m)) (q : Float) :
    (appender q : Appender ν).Keeps P := by
  intro r b scope m m' hm hm'
  unfold appender at hm'
  split at hm'
  · exact Task.gives_done_iff.mp hm' ▸ hm
  · obtain ⟨answers, -, hdone⟩ := Task.gives_ask_iff.mp hm'
    exact Task.gives_done_iff.mp hdone ▸ h _ m hm

/-- A request can name no other appender than the one for response times. -/
theorem Request.eq_appender_of_named {r : Request} {named : List (Appender ν)}
    (hnamed : r.namedAppenders = .ok named) :
    ∀ a ∈ named, a = ResponseTime.appender r.quantile := by
  intro a ha
  obtain ⟨name, -, hname⟩ := exists_of_mem_right (mapM_eq_ok_iff.mp hnamed) ha
  split at hname
  · exact (Except.ok.inj hname).symm
  · cases hname

/-- So the appenders that it names keep what annotating keeps. -/
theorem Request.named_keeps {P : TrafficMap ν → Prop}
    (h : ∀ times m, P m → P (ResponseTime.annotate times m)) {r : Request}
    {named : List (Appender ν)} (hnamed : r.namedAppenders = .ok named) :
    ∀ a ∈ named, a.Keeps P := by
  intro a ha
  rw [eq_appender_of_named hnamed a ha]
  exact ResponseTime.keeps_of_annotate h r.quantile

/-- A part of a plan ends with a map as `P` says, if drawn maps are so and its appenders keep
that. -/
theorem Plan.holds_of_part {P : TrafficMap ν → Prop} {appenders : List (Appender ν)}
    (happenders : ∀ a ∈ appenders, a.Keeps P) {set : QuerySet} {r : Request} {scope : Scope}
    {b : Backend ν} {m : TrafficMap ν} (hdrawn : ∀ feeds, P (TrafficMap.ofFeeds r feeds))
    (hm : ((set.drawn r).bind (Appender.runAll appenders r scope)).Gives b m) : P m := by
  obtain ⟨drawn, hset, hrun⟩ := Task.gives_bind_iff.mp hm
  obtain ⟨feeds, rfl⟩ := QuerySet.eq_ofFeeds_of_gives hset
  exact Appender.keeps_of_runAll happenders (hdrawn feeds) hrun

/-! ## What graphs are made of -/

namespace Plan

/-- A graph of namespaces is made of the maps that their parts give: merged and marked, and reduced
if services are wanted. -/
theorem exists_of_ofNamespaces {extra : List (Appender ν)} {r : Request} {p : Plan ν}
    (hp : ofNamespaces extra r = .ok p) {b : Backend ν} {parts : List (TrafficMap ν)}
    (hparts : List.Forall₂ (fun t a => t.Gives b a) p.parts parts) {m : TrafficMap ν}
    (hm : p.finish parts = .ok m) :
    ∃ named maps, r.namedAppenders = .ok named ∧
      List.Forall₂ (fun scope e => e.1 = scope.name ∧
        (namespacePart (named ++ extra) r scope).Gives b e.2) r.namespaces.values maps ∧
      if r.type = .service then ((TrafficMap.mergeAll maps).classify r).toServiceGraph = .ok m
      else m = (TrafficMap.mergeAll maps).classify r := by
  obtain ⟨named, hnamed, heq⟩ := bind_eq_ok_iff.mp hp
  cases heq
  rw [List.forall₂_map_left_iff] at hparts
  refine ⟨named, _, hnamed, forall₂_zip Scope.name hparts, ?_⟩
  simp only [finishNamespaces] at hm
  split at hm
  · next htype => rwa [if_pos htype, ← mapError_eq_ok_iff]
  · next htype =>
    cases hm
    rw [if_neg htype]

theorem mem_values_of_focusScope {r : Request} {scope : Scope} (h : focusScope r = .ok scope) :
    scope ∈ r.namespaces.values := by
  unfold focusScope at h
  split at h
  · next heq =>
    cases h
    simp [heq]
  · cases h

theorem focus_eq_of_focusLabels {r : Request} {l : Labels} (h : focusLabels r = .ok l) :
    r.focus = some l := by
  unfold focusLabels at h
  split at h
  · next heq =>
    cases h
    exact heq
  · cases h

/-- A node graph is made of the map that its part gives: it is marked. -/
theorem exists_of_ofFocus {extra : List (Appender ν)} {r : Request} {p : Plan ν}
    (hp : ofFocus extra r = .ok p) {b : Backend ν} {parts : List (TrafficMap ν)}
    (hparts : List.Forall₂ (fun t a => t.Gives b a) p.parts parts) {m : TrafficMap ν}
    (hm : p.finish parts = .ok m) :
    ∃ named scope set map, r.namedAppenders = .ok named ∧
      ((QuerySet.drawn set r).bind (Appender.runAll (named ++ extra) r scope)).Gives b map ∧
      m = map.classify r := by
  obtain ⟨scope, -, hp⟩ := bind_eq_ok_iff.mp hp
  obtain ⟨focus, -, hp⟩ := bind_eq_ok_iff.mp hp
  obtain ⟨-, -, hp⟩ := bind_eq_ok_iff.mp hp
  obtain ⟨named, hnamed, hp⟩ := bind_eq_ok_iff.mp hp
  obtain ⟨set, -, heq⟩ := bind_eq_ok_iff.mp hp
  cases heq
  cases hm
  obtain ⟨map, -, hgives, -, rfl⟩ := List.forall₂_cons_left_iff.mp hparts
  exact ⟨named, scope, set, map, hnamed, hgives, rfl⟩

end Plan

end MeshTraffic
