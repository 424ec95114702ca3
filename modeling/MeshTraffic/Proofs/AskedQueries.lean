import MeshTraffic.Proofs.Outcome

/-!
# What a build asks

* `Task.MayAsk`: what a task may ask, whatever its queries are answered.
* `Plan.exists_mayAsk_of_runTimed`: a build asks nothing that none of its parts may ask, whatever
  the clock says.
* `Request.Poses`: the queries of a request, each with its text.
* `Request.exists_poses_of_graph`: the build of a request's graph asks nothing else.
-/

namespace MeshTraffic

variable {ν α β : Type}

/-! ## What tasks ask -/

namespace Transcript

theorem mem_asked_bind {t : Transcript α} {f : α → Transcript β} {text : String}
    (h : text ∈ (t.bind f).asked) : text ∈ t.asked ∨ ∃ a, text ∈ (f a).asked := by
  unfold bind at h
  split at h
  · next a _ => exact (List.mem_append.mp h).imp_right fun h => ⟨a, h⟩
  · exact .inl h

end Transcript

theorem Backend.mem_of_mem_askEach {b : Backend ν} {queries : List String} {text : String}
    (h : text ∈ (b.askEach queries).asked) : text ∈ queries := by
  induction queries with
  | nil => cases h
  | cons q queries ih =>
    unfold askEach at h
    split at h
    · exact List.mem_cons.mpr (.inl (List.mem_singleton.mp h))
    · exact List.mem_cons.mpr ((List.mem_cons.mp h).imp_right ih)

namespace Task

/-- The task may ask this, whatever its queries are answered. -/
def MayAsk (text : String) : Task ν α → Prop
  | done _ | fail _ => False
  | ask queries next => text ∈ queries ∨ ∃ answers, (next answers).MayAsk text

variable {text : String}

theorem mayAsk_of_bind {t : Task ν α} {f : α → Task ν β} (h : (t.bind f).MayAsk text) :
    t.MayAsk text ∨ ∃ a, (f a).MayAsk text := by
  induction t with
  | done a => exact .inr ⟨a, h⟩
  | fail e => cases h
  | ask queries next ih =>
    obtain h | ⟨answers, h⟩ := h
    · exact .inl (.inl h)
    · exact (ih answers h).imp_left fun h => .inr ⟨answers, h⟩

theorem mayAsk_of_run {b : Backend ν} {t : Task ν α} (h : text ∈ (t.run b).asked) :
    t.MayAsk text := by
  induction t with
  | done a => cases h
  | fail e => cases h
  | ask queries next ih =>
    obtain h | ⟨answers, h⟩ := Transcript.mem_asked_bind h
    · exact .inl (Backend.mem_of_mem_askEach h)
    · exact .inr ⟨answers, ih answers h⟩

theorem exists_mayAsk_of_runAll {b : Backend ν} {ts : List (Task ν α)}
    (h : text ∈ (runAll b ts).asked) : ∃ t ∈ ts, t.MayAsk text := by
  induction ts with
  | nil => cases h
  | cons t ts ih =>
    obtain h | ⟨_, h⟩ := Transcript.mem_asked_bind h
    · exact ⟨t, by simp, mayAsk_of_run h⟩
    · obtain ⟨t', ht', h⟩ := ih h
      exact ⟨t', by simp [ht'], h⟩

theorem mayAsk_of_trace {b : Backend ν} {t : Task ν α} {round : List String}
    (hround : round ∈ (t.trace b).rounds) (h : text ∈ round) : t.MayAsk text := by
  induction t with
  | done a => cases hround
  | fail e => cases hround
  | ask queries next ih =>
    unfold trace at hround
    split at hround
    · rw [List.mem_singleton.mp hround] at h
      exact .inl h
    · next answers _ =>
      rcases List.mem_cons.mp hround with rfl | hround
      · exact .inl h
      · exact .inr ⟨answers, ih answers hround⟩

end Task

theorem Timeline.exists_of_mem_asked {ts : List (Task.Trace α)} {isReached : Nat → Bool}
    {text : String} (h : text ∈ asked ts isReached) :
    ∃ t ∈ ts, ∃ round ∈ t.rounds, text ∈ round := by
  obtain ⟨n, -, h⟩ := List.mem_flatMap.mp h
  obtain ⟨t, ht, h⟩ := List.mem_flatMap.mp h
  refine ⟨t, (List.takeWhile_prefix _).subset ht, ?_⟩
  rw [List.getD_eq_getElem?_getD] at h
  cases hround : t.rounds[n]? with
  | none => simp [hround] at h
  | some round =>
    rw [hround] at h
    exact ⟨round, List.mem_of_getElem? hround, h⟩

/-- **What a build asks, one of its parts may ask**, whatever the clock says. -/
theorem Plan.exists_mayAsk_of_runTimed {b : Backend ν} {c : Clock} {p : Plan ν} {text : String}
    (h : text ∈ (p.runTimed b c).asked) : ∃ t ∈ p.parts, t.MayAsk text := by
  have hinTime {isReached : Nat → Bool}
      (h : text ∈ Timeline.asked (p.parts.map (·.trace b)) isReached) :
      ∃ t ∈ p.parts, t.MayAsk text := by
    obtain ⟨trace, htrace, round, hround, hmem⟩ := Timeline.exists_of_mem_asked h
    obtain ⟨t, ht, rfl⟩ := List.mem_map.mp htrace
    exact ⟨t, ht, Task.mayAsk_of_trace hround hmem⟩
  simp only [runTimed] at h
  split at h
  · cases h
  · split at h
    · exact Task.exists_mayAsk_of_runAll h
    · unfold Timeline.transcript at h
      split at h
      · exact hinTime h
      · exact hinTime h

theorem Plan.exists_mayAsk_of_runIfMade {b : Backend ν} {c : Clock}
    {p? : Except BuildError (Plan ν)} {text : String}
    (h : text ∈ (Plan.runIfMade b c p?).asked) :
    ∃ p, p? = .ok p ∧ ∃ t ∈ p.parts, t.MayAsk text := by
  cases p? with
  | error e => cases h
  | ok p => exact ⟨p, rfl, exists_mayAsk_of_runTimed h⟩

/-! ## The queries of a request -/

namespace Request

variable [Quantity ν]

/-- The queries of a request, each with its text. -/
inductive Poses (ν : Type) (r : Request) : RateQuery → String → Prop where
  | namespaceTraffic {scope : Scope} {q : RateQuery} :
    scope ∈ r.namespaces.values →
      q ∈ (QuerySet.namespaceQueries scope.name scope.window r).http ++
        (QuerySet.namespaceQueries scope.name scope.window r).tcp →
      Poses ν r q (rounded q.sumRate)
  | nodeTraffic {scope : Scope} {focus : Labels} {set : QuerySet} {q : RateQuery} :
    scope ∈ r.namespaces.values → r.focus = some focus →
      QuerySet.nodeQueries (.ofLabels { focus with ns := scope.name } r.type : Node ν)
        scope.window r = .ok set →
      q ∈ set.http ++ set.tcp → Poses ν r q (rounded q.sumRate)
  | responseTime {scope : Scope} {q : RateQuery} :
    scope ∈ r.namespaces.values →
      q ∈ QuerySet.namespaceRequests QuerySet.durationMetric QuerySet.successCodes
        QuerySet.attributionLabels scope.name scope.window r →
      Poses ν r q (rounded (q.histogramQuantile (ResponseTime.quantile r.quantile)))

variable {r : Request} {text : String}

theorem exists_of_mayAsk_drawn {set : QuerySet} (h : (set.drawn r : Task ν _).MayAsk text) :
    ∃ q ∈ set.http ++ set.tcp, text = rounded q.sumRate := by
  obtain h | ⟨_, h⟩ := h
  · rw [RateQuery.expressions, RateQuery.expressions, ← List.map_append] at h
    obtain ⟨q, hq, rfl⟩ := List.mem_map.mp h
    exact ⟨q, hq, rfl⟩
  · cases h

/-- The appenders that a request can name ask for response times only. -/
theorem exists_poses_of_runAll {appenders : List (Appender ν)}
    (hall : ∀ a ∈ appenders, a = ResponseTime.appender r.quantile) {scope : Scope}
    (hscope : scope ∈ r.namespaces.values) {m : TrafficMap ν}
    (h : (Appender.runAll appenders r scope m).MayAsk text) : ∃ q, r.Poses ν q text := by
  induction appenders generalizing m with
  | nil => cases h
  | cons a appenders ih =>
    obtain ⟨rfl, hrest⟩ := List.forall_mem_cons.mp hall
    obtain h | ⟨m', h⟩ := Task.mayAsk_of_bind h
    · unfold ResponseTime.appender at h
      split at h
      · cases h
      · obtain h | ⟨_, h⟩ := h
        · obtain ⟨q, hq, rfl⟩ := List.mem_map.mp h
          exact ⟨q, .responseTime hscope hq⟩
        · cases h
    · exact ih hrest h

/-- **What the build of a graph asks is the text of one of the request's queries.** -/
theorem exists_poses_of_graph {b : Backend ν} {c : Clock} (h : text ∈ (r.graph [] b c).asked) :
    ∃ q, r.Poses ν q text := by
  obtain ⟨p, hp, t, ht, hasks⟩ := Plan.exists_mayAsk_of_runIfMade h
  unfold Plan.ofRequest at hp
  split at hp
  · -- the parts of the requested namespaces
    obtain ⟨named, hnamed, heq⟩ := bind_eq_ok_iff.mp hp
    cases heq
    obtain ⟨scope, hscope, rfl⟩ := List.mem_map.mp ht
    obtain hasks | ⟨m, hasks⟩ := Task.mayAsk_of_bind hasks
    · obtain ⟨q, hq, rfl⟩ := exists_of_mayAsk_drawn hasks
      exact ⟨q, .namespaceTraffic hscope hq⟩
    · exact exists_poses_of_runAll (by simpa using eq_appender_of_named hnamed) hscope hasks
  · -- the part of the wanted node
    obtain ⟨scope, hone, hp⟩ := bind_eq_ok_iff.mp hp
    obtain ⟨focus, hfocus, hp⟩ := bind_eq_ok_iff.mp hp
    obtain ⟨-, -, hp⟩ := bind_eq_ok_iff.mp hp
    obtain ⟨named, hnamed, hp⟩ := bind_eq_ok_iff.mp hp
    obtain ⟨set, hset, heq⟩ := bind_eq_ok_iff.mp hp
    cases heq
    have hscope := Plan.mem_values_of_focusScope hone
    rw [List.mem_singleton] at ht
    rw [ht] at hasks
    obtain hasks | ⟨m, hasks⟩ := Task.mayAsk_of_bind hasks
    · obtain ⟨q, hq, rfl⟩ := exists_of_mayAsk_drawn hasks
      exact ⟨q, .nodeTraffic hscope (Plan.focus_eq_of_focusLabels hfocus) hset hq⟩
    · exact exists_poses_of_runAll (by simpa using eq_appender_of_named hnamed) hscope hasks

end Request

end MeshTraffic
