import MeshTraffic.Proofs.Outcome

/-!
# Builds whose queries are answered

If every query is answered, no part of a build fails, and nothing interrupts the build if the clock
allows for the rounds of queries that its parts need.

* `Task.EndsWithin b n t a`: the task `t` ends with `a` after at most `n` rounds of queries. Rounds
  add up: `Task.EndsWithin.bind`.
* `Clock.Allows`: there is time for some rounds. `Plan.result_runTimed`: then a plan ends with what
  is made of the maps of its parts.
* `QuerySet.feeds`: the answers to some queries. `Request.exists_namespacePart`: the map of a
  namespace is drawn from those to its queries and then annotated.
* `Request.exists_finishNamespaces`: what the graph of some namespaces is made of.
-/

namespace MeshTraffic

variable {ν α β : Type}

/-! ## Answers -/

namespace Backend

/-- Every query is answered. -/
def Answers (b : Backend ν) : Prop := ∀ query, ∃ samples, b query = .ok samples

/-- The answer to a query; no samples if it fails. -/
def answer (b : Backend ν) (query : String) : List (Sample ν) := (b query).toOption.getD []

theorem Answers.eq_ok {b : Backend ν} (h : b.Answers) (query : String) :
    b query = .ok (b.answer query) := by
  obtain ⟨samples, hsamples⟩ := h query
  rw [answer, hsamples]
  rfl

theorem Answers.mapM_eq_ok {b : Backend ν} (h : b.Answers) (queries : List String) :
    queries.mapM b = .ok (queries.map b.answer) := by
  rw [mapM_eq_ok_iff, List.forall₂_map_right_iff]
  exact List.forall₂_same.mpr fun query _ => h.eq_ok query

end Backend

/-! ## Rounds of queries -/

namespace Task

/-- The task ends with `a` after at most `n` rounds of queries. -/
structure EndsWithin (b : Backend ν) (n : Nat) (t : Task ν α) (a : α) : Prop where
  gives : t.Gives b a
  rounds_le : (t.trace b).rounds.length ≤ n

theorem endsWithin_done (b : Backend ν) (a : α) : (done a : Task ν α).EndsWithin b 0 a :=
  ⟨gives_done_iff.mpr rfl, Nat.le_refl 0⟩

theorem EndsWithin.mono {b : Backend ν} {n k : Nat} {t : Task ν α} {a : α}
    (h : t.EndsWithin b n a) (hnk : n ≤ k) : t.EndsWithin b k a :=
  ⟨h.gives, Nat.le_trans h.rounds_le hnk⟩

theorem endsWithin_ask_iff {b : Backend ν} {n : Nat} {queries : List String}
    {next : List (List (Sample ν)) → Task ν α} {a : α} :
    (ask queries next).EndsWithin b (n + 1) a ↔
      ∃ answers, queries.mapM b = .ok answers ∧ (next answers).EndsWithin b n a := by
  have hrounds : ∀ answers, queries.mapM b = .ok answers →
      ((ask queries next).trace b).rounds.length = ((next answers).trace b).rounds.length + 1 := by
    intro answers h
    rw [trace, h]
    rfl
  constructor
  · rintro ⟨hgives, hle⟩
    obtain ⟨answers, hq, hnext⟩ := gives_ask_iff.mp hgives
    rw [hrounds answers hq] at hle
    exact ⟨answers, hq, hnext, Nat.le_of_succ_le_succ hle⟩
  · rintro ⟨answers, hq, hgives, hle⟩
    refine ⟨gives_ask_iff.mpr ⟨answers, hq, hgives⟩, ?_⟩
    rw [hrounds answers hq]
    exact Nat.succ_le_succ hle

/-- **Rounds add up.** -/
theorem EndsWithin.bind {b : Backend ν} {n k : Nat} {t : Task ν α} {f : α → Task ν β} {a : α}
    {c : β} (ht : t.EndsWithin b n a) (hf : (f a).EndsWithin b k c) :
    (t.bind f).EndsWithin b (n + k) c := by
  induction t generalizing n with
  | done a' =>
    obtain rfl := gives_done_iff.mp ht.gives
    exact hf.mono (Nat.le_add_left k n)
  | fail e => cases ht.gives
  | ask queries next ih =>
    -- a task that asks has at least one round
    obtain ⟨n, rfl⟩ : ∃ n', n = n' + 1 := by
      obtain ⟨answers, hq, -⟩ := gives_ask_iff.mp ht.gives
      have hle := ht.rounds_le
      rw [trace, hq, List.length_cons] at hle
      exact Nat.exists_eq_add_one.mpr (Nat.lt_of_lt_of_le (Nat.succ_pos _) hle)
    obtain ⟨answers, hq, hnext⟩ := endsWithin_ask_iff.mp ht
    rw [Nat.add_right_comm]
    exact endsWithin_ask_iff.mpr ⟨answers, hq, ih answers hnext⟩

end Task

/-! ## Time for some rounds -/

/-- The build is not given up, and there is time for `n` rounds of queries. -/
structure Clock.Allows (c : Clock) (n : Nat) : Prop where
  cancelAt_eq : c.cancelAt = none
  le_deadline : ∀ d, c.deadline = some d → c.latency * n ≤ d

/-- If answers take no time, there is time for any number of rounds. -/
theorem Clock.allows_of_no_latency (deadline : Option Nat) (n : Nat) :
    Clock.Allows ⟨0, deadline, none⟩ n :=
  ⟨rfl, fun d _ => by simp⟩

namespace Timeline

theorem longest_le {ts : List (Task.Trace α)} {n : Nat} (h : ∀ t ∈ ts, t.rounds.length ≤ n) :
    longest ts ≤ n :=
  List.foldlRecOn (motive := (· ≤ n)) ts _ (Nat.zero_le n) fun _ hk t ht =>
    Nat.max_le.mpr ⟨hk, h t ht⟩

theorem waits_le {ts : List (Task.Trace α)} {n : Nat} (h : ∀ t ∈ ts, t.rounds.length ≤ n) :
    waits ts ≤ n := by
  refine List.foldlRecOn (motive := (· ≤ n)) ts _ (longest_le h) fun k hk t _ => ?_
  split
  · exact hk
  · exact Nat.le_trans (Nat.min_le_left ..) hk

/-- Nothing interrupts a build that the clock allows. -/
theorem interruption?_eq_none {c : Clock} {n needed : Nat} (hc : c.Allows n)
    (hneeded : needed ≤ c.latency * n) : interruption? c needed = none := by
  have hdeadline : c.deadline.filter (· < needed) = none := by
    rw [Option.filter_eq_none_iff]
    intro d hd
    simpa using Nat.le_trans hneeded (hc.le_deadline d hd)
  rw [interruption?, hdeadline, hc.cancelAt_eq]
  rfl

/-- If nothing interrupts the parts and each ends well, that is how they end. -/
theorem results_eq_ok {b : Backend ν} {ts : List (Task ν α)} {as : List α}
    (h : List.Forall₂ (fun t a => t.Gives b a) ts as) :
    results (ts.map (·.trace b)) = .ok as := by
  have hfind : (ts.map (·.trace b)).find? (failsAfter (waits (ts.map (·.trace b)))) = none := by
    rw [List.find?_eq_none]
    intro t ht
    obtain ⟨task, htask, rfl⟩ := List.mem_map.mp ht
    obtain ⟨a, -, hgives⟩ := exists_of_mem_right h.flip htask
    have hresult : (task.trace b).result = .ok a := (Task.result_trace b task).trans hgives
    simp [failsAfter, hresult, Except.isOk, Except.toBool]
  rw [results, hfind]
  exact mapM_result_eq_ok_iff.mpr h

end Timeline

/-- **A plan whose parts end in time** ends with what is made of their maps. -/
theorem Plan.result_runTimed [Quantity ν] {b : Backend ν} {c : Clock} {n : Nat} {p : Plan ν}
    {maps : List (TrafficMap ν)} (hc : c.Allows n)
    (h : List.Forall₂ (fun t m => t.EndsWithin b n m) p.parts maps) :
    (p.runTimed b c).result = p.finish maps := by
  have hgives : List.Forall₂ (fun t m => t.Gives b m) p.parts maps := h.imp fun _ _ ht => ht.gives
  have hcancel : ¬ c.cancelAt = some 0 := by simp [hc.cancelAt_eq]
  rw [runTimed, if_neg hcancel]
  split
  · rw [Task.runAll_eq_ok_iff.mpr hgives]
    rfl
  · have hrounds : ∀ t ∈ p.parts.map (·.trace b), t.rounds.length ≤ n := by
      intro t ht
      obtain ⟨part, hpart, rfl⟩ := List.mem_map.mp ht
      obtain ⟨m, -, hends⟩ := exists_of_mem_right h.flip hpart
      exact hends.rounds_le
    have hwaits := Nat.mul_le_mul_left c.latency (Timeline.waits_le hrounds)
    rw [Timeline.transcript, Timeline.interruption?_eq_none hc hwaits,
      Timeline.results_eq_ok hgives]
    rfl

/-! ## The parts of a namespace graph -/

/-- Appenders that end within one round each end within as many rounds as there are. -/
theorem Appender.exists_runAll {b : Backend ν} {appenders : List (Appender ν)} {r : Request}
    {scope : Scope} (h : ∀ a ∈ appenders, ∀ m, ∃ m', (a r scope m).EndsWithin b 1 m')
    (m : TrafficMap ν) :
    ∃ m', (Appender.runAll appenders r scope m).EndsWithin b appenders.length m' := by
  induction appenders generalizing m with
  | nil => exact ⟨m, Task.endsWithin_done b m⟩
  | cons a appenders ih =>
    obtain ⟨ha, hrest⟩ := List.forall_mem_cons.mp h
    obtain ⟨m₁, hm₁⟩ := ha m
    obtain ⟨m₂, hm₂⟩ := ih hrest m₁
    exact ⟨m₂, (hm₁.bind hm₂).mono (Nat.le_of_eq (Nat.add_comm 1 appenders.length))⟩

variable [Quantity ν]

/-- The answers to a set of queries. -/
def QuerySet.feeds (b : Backend ν) (set : QuerySet) : List (Feed ν) :=
  (RateQuery.expressions set.http).map (fun query => .http (b.answer query)) ++
    (RateQuery.expressions set.tcp).map fun query => .tcp (b.answer query)

theorem QuerySet.endsWithin_drawn {b : Backend ν} (hb : b.Answers) (set : QuerySet)
    (r : Request) : (set.drawn r).EndsWithin b 1 (TrafficMap.ofFeeds r (set.feeds b)) := by
  refine Task.endsWithin_ask_iff.mpr ⟨_, hb.mapM_eq_ok _, ?_⟩
  have hlength : set.http.length = ((RateQuery.expressions set.http).map b.answer).length := by
    simp [RateQuery.expressions]
  rw [List.map_append, hlength, List.take_left, List.drop_left, List.map_map, List.map_map]
  exact Task.endsWithin_done b _

namespace ResponseTime

/-- The second map is the first one, annotated any number of times. -/
inductive IsAnnotated (m : TrafficMap ν) : TrafficMap ν → Prop where
  | self : IsAnnotated m m
  | again (times : Times ν) {m' : TrafficMap ν} :
    IsAnnotated m m' → IsAnnotated m (annotate times m')

omit [Quantity ν] in
theorem IsAnnotated.keeps {P : TrafficMap ν → Prop}
    (hP : ∀ times m, P m → P (annotate times m)) {m m' : TrafficMap ν}
    (h : IsAnnotated m m') (hm : P m) : P m' := by
  induction h with
  | self => exact hm
  | again times _ ih => exact hP times _ ih

theorem exists_appender {b : Backend ν} (hb : b.Answers) (q : Float) (r : Request)
    (scope : Scope) (m : TrafficMap ν) : ∃ m', (appender q r scope m).EndsWithin b 1 m' := by
  unfold appender
  split
  · exact ⟨m, (Task.endsWithin_done b m).mono (Nat.zero_le 1)⟩
  · exact ⟨_, Task.endsWithin_ask_iff.mpr ⟨_, hb.mapM_eq_ok _, Task.endsWithin_done b _⟩⟩

end ResponseTime

namespace Request

/-- All appenders that the request names are known. -/
def NamesKnown (r : Request) : Prop := ∀ name ∈ r.appenders, name = ResponseTime.name

/-- The appenders of a request whose names are known. -/
def knownAppenders (r : Request) : List (Appender ν) :=
  List.replicate r.appenders.length (ResponseTime.appender r.quantile)

theorem NamesKnown.namedAppenders_eq {r : Request} (h : r.NamesKnown) :
    r.namedAppenders = .ok (r.knownAppenders : List (Appender ν)) := by
  rw [namedAppenders, mapM_eq_ok_iff, knownAppenders, ← List.map_const', List.forall₂_map_right_iff]
  exact List.forall₂_same.mpr fun name hname => if_pos (h name hname)

/-- The answers to the queries of a requested namespace. -/
def feeds (r : Request) (b : Backend ν) (scope : Scope) : List (Feed ν) :=
  (QuerySet.namespaceQueries scope.name scope.window r).feeds b

/-- The map of a namespace is what the answers are drawn as, annotated. It takes one round of
queries for the traffic and one for each appender. -/
theorem exists_namespacePart {b : Backend ν} (hb : b.Answers) (r : Request) (scope : Scope) :
    ∃ m, (Plan.namespacePart r.knownAppenders r scope).EndsWithin b (1 + r.appenders.length) m ∧
      ResponseTime.IsAnnotated (.ofFeeds r (r.feeds b scope)) m := by
  have hdrawn := QuerySet.endsWithin_drawn hb
    (QuerySet.namespaceQueries scope.name scope.window r) r
  have happenders : ∀ a ∈ (r.knownAppenders : List (Appender ν)),
      a = ResponseTime.appender r.quantile := fun a ha => List.eq_of_mem_replicate ha
  obtain ⟨m, hm⟩ := Appender.exists_runAll (fun a ha m =>
    happenders a ha ▸ ResponseTime.exists_appender hb r.quantile r scope m)
    (.ofFeeds r (r.feeds b scope))
  refine ⟨m, ?_, ?_⟩
  · have hends := Task.EndsWithin.bind hdrawn hm
    rwa [knownAppenders, List.length_replicate] at hends
  · exact Appender.keeps_of_runAll (fun a ha => happenders a ha ▸
      ResponseTime.keeps_of_annotate (fun times m => .again times) r.quantile) .self hm.gives

/-- **What the graph of some namespaces is made of**, if every query is answered and there is
time. -/
theorem exists_finishNamespaces {r : Request} (hr : r.NamesKnown) {b : Backend ν} (hb : b.Answers)
    {c : Clock} (hc : c.Allows (1 + r.appenders.length)) :
    ∃ maps, (r.namespacesGraph [] b c).result = Plan.finishNamespaces r maps ∧
      List.Forall₂ (fun scope m => ResponseTime.IsAnnotated (.ofFeeds r (r.feeds b scope)) m)
        r.namespaces.values maps := by
  obtain ⟨maps, hmaps⟩ := exists_forall₂ (exists_namespacePart hb r) r.namespaces.values
  refine ⟨maps, ?_, hmaps.imp fun _ _ h => h.2⟩
  have hplan : Plan.ofNamespaces [] r = .ok ⟨r.namespaces.values.map
      (Plan.namespacePart (ν := ν) r.knownAppenders r), Plan.finishNamespaces r⟩ := by
    simp only [Plan.ofNamespaces, hr.namedAppenders_eq, List.append_nil]
    rfl
  rw [namespacesGraph, hplan, Plan.runIfMade]
  exact Plan.result_runTimed hc (List.forall₂_map_left_iff.mpr (hmaps.imp fun _ _ h => h.1))

end Request

end MeshTraffic
