import MeshTraffic.Proofs.Accepted
import MeshTraffic.Proofs.Answered
import MeshTraffic.Proofs.Schedules

/-!
# Namespace graphs under every schedule

The map of a namespace takes some queries for its traffic, and some for its response times if it has
nodes. Under every schedule the graph of some namespaces is the same if all of these are answered,
and there is none if one of them fails.

* `Backend.AnswersAll`: some queries are answered. `Backend.mapM_eq_ok_iff_answersAll`: so a
  task goes on with their answers.
* `Request.Needs`: the queries that the map of a namespace takes.
* `Request.namespaceMap`, `Request.gives_namespacePart_iff`: the map, and when it is given.
* `Request.alwaysEnds_namespacesGraph`: how every schedule of a namespace graph ends.
-/

namespace MeshTraffic

variable {ν α : Type}

/-! ## Rounds of queries -/

namespace Backend

/-- Each of the queries is answered. -/
def AnswersAll (b : Backend ν) (queries : List String) : Prop :=
  ∀ query ∈ queries, ∃ samples, b query = .ok samples

theorem mapM_eq_ok_iff_answersAll {b : Backend ν} {queries : List String}
    {answers : List (List (Sample ν))} :
    queries.mapM b = .ok answers ↔ b.AnswersAll queries ∧ queries.map b.answer = answers := by
  have hanswer : ∀ {query samples}, b query = .ok samples → b.answer query = samples := by
    intro query samples h
    rw [answer, h]
    rfl
  rw [mapM_eq_ok_iff]
  constructor
  · intro h
    constructor
    · intro query hquery
      obtain ⟨samples, -, hok⟩ := exists_of_mem_right h.flip hquery
      exact ⟨samples, hok⟩
    · rw [← List.forall₂_eq_eq_eq, List.forall₂_map_left_iff]
      exact h.imp fun _ _ hok => hanswer hok
  · rintro ⟨hall, rfl⟩
    rw [List.forall₂_map_right_iff, List.forall₂_same]
    intro query hquery
    obtain ⟨samples, hok⟩ := hall query hquery
    rw [hok, hanswer hok]

end Backend

namespace Task

/-- A task of one round ends well if all its queries are answered. -/
theorem gives_round_iff {b : Backend ν} {queries : List String}
    {f : List (List (Sample ν)) → α} {a : α} :
    (ask queries fun answers => done (f answers)).Gives b a ↔
      b.AnswersAll queries ∧ f (queries.map b.answer) = a := by
  simp only [gives_ask_iff, Backend.mapM_eq_ok_iff_answersAll, gives_done_iff]
  constructor
  · rintro ⟨answers, ⟨hall, rfl⟩, ha⟩
    exact ⟨hall, ha⟩
  · rintro ⟨hall, ha⟩
    exact ⟨_, ⟨hall, rfl⟩, ha⟩

theorem mayFail_round_iff {b : Backend ν} {queries : List String}
    {f : List (List (Sample ν)) → α} {e : BuildError} :
    (ask queries fun answers => done (f answers)).MayFail b e ↔ b.FailsOn queries e := by
  simp [MayFail]

end Task

variable [Quantity ν]

/-! ## Traffic -/

/-- What is asked for a set of queries. -/
def QuerySet.expressions (set : QuerySet) : List String :=
  RateQuery.expressions set.http ++ RateQuery.expressions set.tcp

theorem QuerySet.gives_drawn_iff {b : Backend ν} {set : QuerySet} {r : Request}
    {m : TrafficMap ν} :
    (set.drawn r).Gives b m ↔
      b.AnswersAll set.expressions ∧ TrafficMap.ofFeeds r (set.feeds b) = m := by
  have hlength : set.http.length = ((RateQuery.expressions set.http).map b.answer).length := by
    simp [RateQuery.expressions]
  rw [drawn, Task.gives_round_iff, List.map_append, hlength, List.take_left, List.drop_left,
    List.map_map, List.map_map]
  rfl

/-! ## Response times -/

namespace ResponseTime

/-- The response times of a namespace. -/
def measured (b : Backend ν) (q : Float) (r : Request) (scope : Scope) : Times ν :=
  ((queries (quantile q) r scope).map b.answer).foldl (populate r) ∅

omit [Quantity ν] in
theorem isEmpty_annotate (times : Times ν) (m : TrafficMap ν) :
    (annotate times m).isEmpty = m.isEmpty := by
  simp [annotate, TrafficMap.mapNodes, ArrivalMap.isEmpty, ArrivalMap.mapValues]

omit [Quantity ν] in
theorem annotate_of_isEmpty (times : Times ν) {m : TrafficMap ν}
    (h : m.isEmpty = true) : annotate times m = m := by
  apply ArrivalMap.ext
  have hm : m.entries = [] := List.isEmpty_iff.mp h
  simp [annotate, TrafficMap.mapNodes, ArrivalMap.mapValues, hm]

variable {b : Backend ν} {q : Float} {r : Request} {scope : Scope} {m m' : TrafficMap ν}
  {e : BuildError}

theorem gives_appender_iff :
    (appender q r scope m).Gives b m' ↔
      (m.isEmpty = false → b.AnswersAll (queries (quantile q) r scope)) ∧
        annotate (measured b q r scope) m = m' := by
  unfold appender
  split
  · next h => simp [h, annotate_of_isEmpty]
  · next h =>
    have hm : m.isEmpty = false := by simpa using h
    simp only [Task.gives_round_iff, hm, forall_const]
    rfl

theorem mayFail_appender_iff :
    (appender q r scope m).MayFail b e ↔
      m.isEmpty = false ∧ b.FailsOn (queries (quantile q) r scope) e := by
  unfold appender
  split
  · next h => simp [h, Task.MayFail]
  · next h =>
    have hm : m.isEmpty = false := by simpa using h
    rw [Task.mayFail_round_iff, hm]
    simp

/-- The appender may run any number of times. -/
theorem gives_runAll_iff {n : Nat} :
    (Appender.runAll (List.replicate n (appender q)) r scope m).Gives b m' ↔
      (n ≠ 0 → m.isEmpty = false → b.AnswersAll (queries (quantile q) r scope)) ∧
        (annotate (measured b q r scope))^[n] m = m' := by
  induction n generalizing m with
  | zero => simp [Appender.runAll]
  | succ n ih =>
    simp only [List.replicate_succ, Appender.runAll, Task.gives_bind_iff, gives_appender_iff, ih,
      Function.iterate_succ_apply]
    constructor
    · rintro ⟨m₁, ⟨hall, rfl⟩, -, hm'⟩
      exact ⟨fun _ => hall, hm'⟩
    · rintro ⟨hall, hm'⟩
      refine ⟨_, ⟨hall (Nat.succ_ne_zero n), rfl⟩, fun _ hm => ?_, hm'⟩
      rw [isEmpty_annotate] at hm
      exact hall (Nat.succ_ne_zero n) hm

theorem mayFail_runAll {n : Nat}
    (h : (Appender.runAll (List.replicate n (appender q)) r scope m).MayFail b e) :
    n ≠ 0 ∧ m.isEmpty = false ∧ b.FailsOn (queries (quantile q) r scope) e := by
  induction n generalizing m with
  | zero => cases h
  | succ n ih =>
    simp only [List.replicate_succ, Appender.runAll, Task.mayFail_bind_iff, gives_appender_iff,
      mayFail_appender_iff] at h
    rcases h with h | ⟨m₁, ⟨-, rfl⟩, h⟩
    · exact ⟨Nat.succ_ne_zero n, h⟩
    · obtain ⟨-, hm, hfails⟩ := ih h
      rw [isEmpty_annotate] at hm
      exact ⟨Nat.succ_ne_zero n, hm, hfails⟩

end ResponseTime

/-! ## Namespaces -/

namespace Request

/-- What is asked for the traffic of a namespace. -/
def trafficQueries (r : Request) (scope : Scope) : List String :=
  (QuerySet.namespaceQueries scope.name scope.window r).expressions

/-- The queries that the map of a namespace takes. -/
inductive Needs (r : Request) (b : Backend ν) (scope : Scope) : String → Prop where
  | traffic {query : String} : query ∈ r.trafficQueries scope → Needs r b scope query
  /-- Response times are asked for once the traffic is known, if there is any. -/
  | responseTime {query : String} :
    ResponseTime.name ∈ r.appenders → b.AnswersAll (r.trafficQueries scope) →
      (TrafficMap.ofFeeds r (r.feeds b scope)).isEmpty = false →
      query ∈ ResponseTime.queries (ResponseTime.quantile r.quantile) r scope →
      Needs r b scope query

/-- The map of a namespace: the traffic is drawn, and annotated by every appender. -/
def namespaceMap (r : Request) (b : Backend ν) (scope : Scope) : TrafficMap ν :=
  (ResponseTime.annotate (ResponseTime.measured b r.quantile r scope))^[r.appenders.length]
    (.ofFeeds r (r.feeds b scope))

theorem NamesKnown.mem_iff {r : Request} (h : r.NamesKnown) :
    ResponseTime.name ∈ r.appenders ↔ r.appenders.length ≠ 0 := by
  constructor
  · intro hmem
    exact Nat.ne_of_gt (List.length_pos_of_mem hmem)
  · intro hlength
    obtain ⟨name, hname⟩ := List.exists_mem_of_length_pos (Nat.pos_of_ne_zero hlength)
    exact h name hname ▸ hname

variable {r : Request} {b : Backend ν} {scope : Scope}

/-- **The map of a namespace is given if the queries that it takes are answered.** -/
theorem gives_namespacePart_iff (hr : r.NamesKnown) {m : TrafficMap ν} :
    (Plan.namespacePart r.knownAppenders r scope).Gives b m ↔
      (∀ query, r.Needs b scope query → ∃ samples, b query = .ok samples) ∧
        r.namespaceMap b scope = m := by
  simp only [Plan.namespacePart, knownAppenders, Task.gives_bind_iff, QuerySet.gives_drawn_iff,
    ResponseTime.gives_runAll_iff, ← hr.mem_iff]
  constructor
  · rintro ⟨drawn, ⟨htraffic, rfl⟩, htimes, hm⟩
    refine ⟨fun query hneeds => ?_, hm⟩
    cases hneeds with
    | traffic hquery => exact htraffic query hquery
    | responseTime hname _ hnodes hquery => exact htimes hname hnodes query hquery
  · rintro ⟨hall, hm⟩
    have htraffic : b.AnswersAll (r.trafficQueries scope) :=
      fun query hquery => hall query (.traffic hquery)
    exact ⟨_, ⟨htraffic, rfl⟩, fun hname hnodes query hquery =>
      hall query (.responseTime hname htraffic hnodes hquery), hm⟩

/-- It may fail on these queries alone. -/
theorem exists_of_mayFail_namespacePart (hr : r.NamesKnown) {e : BuildError}
    (h : (Plan.namespacePart r.knownAppenders r scope).MayFail b e) :
    ∃ query fault, r.Needs b scope query ∧ b query = .error fault ∧ e = .query fault := by
  simp only [Plan.namespacePart, knownAppenders, Task.mayFail_bind_iff,
    QuerySet.gives_drawn_iff] at h
  rcases h with h | ⟨drawn, ⟨htraffic, rfl⟩, h⟩
  · obtain ⟨query, hquery, fault, hfault, he⟩ := Task.mayFail_round_iff.mp h
    exact ⟨query, fault, .traffic hquery, hfault, he⟩
  · obtain ⟨hlength, hnodes, query, hquery, fault, hfault, he⟩ := ResponseTime.mayFail_runAll h
    exact ⟨query, fault, .responseTime (hr.mem_iff.mpr hlength) htraffic hnodes hquery, hfault,
      he⟩

/-! ## Graphs of namespaces -/

/-- The plan of a request whose appenders are known. -/
def namespacesPlan (r : Request) : Plan ν :=
  ⟨r.namespaces.values.map (Plan.namespacePart r.knownAppenders r), Plan.finishNamespaces r⟩

theorem NamesKnown.ofNamespaces_eq {r : Request} (h : r.NamesKnown) :
    Plan.ofNamespaces [] r = .ok (r.namespacesPlan : Plan ν) := by
  simp only [Plan.ofNamespaces, h.namedAppenders_eq, List.append_nil]
  rfl

/-- The parts give their maps if all queries are answered that these take. -/
theorem gives_parts_iff (hr : r.NamesKnown) {maps : List (TrafficMap ν)} :
    List.Forall₂ (fun t m => t.Gives b m) r.namespacesPlan.parts maps ↔
      (∀ scope ∈ r.namespaces.values, ∀ query, r.Needs b scope query →
        ∃ samples, b query = .ok samples) ∧ r.namespaces.values.map (r.namespaceMap b) = maps := by
  simp only [namespacesPlan, List.forall₂_map_left_iff, gives_namespacePart_iff hr]
  constructor
  · intro h
    constructor
    · intro scope hscope
      obtain ⟨m, -, hall, -⟩ := exists_of_mem_right h.flip hscope
      exact hall
    · rw [← List.forall₂_eq_eq_eq, List.forall₂_map_left_iff]
      exact h.imp fun _ _ hm => hm.2
  · rintro ⟨hall, rfl⟩
    rw [List.forall₂_map_right_iff, List.forall₂_same]
    exact fun scope hscope => ⟨hall scope hscope, rfl⟩

/-- **Every schedule of a namespace graph ends in the same way.** If the queries that its maps take
are answered, it ends with what is made of the maps in the order of the request. If one of them
fails, there is no graph, and the failure of one of them is reported. -/
theorem alwaysEnds_namespacesGraph (hr : r.NamesKnown) :
    ∃ p : Plan ν, Plan.ofNamespaces [] r = .ok p ∧ ∀ b : Backend ν,
      ((∀ scope ∈ r.namespaces.values, ∀ query, r.Needs b scope query →
          ∃ samples, b query = .ok samples) →
        p.AlwaysEnds b
          (· = Plan.finishNamespaces r (r.namespaces.values.map (r.namespaceMap b))) p.start) ∧
      ((∃ scope ∈ r.namespaces.values, ∃ query fault, r.Needs b scope query ∧
          b query = .error fault) →
        p.AlwaysEnds b (fun result => ∃ scope ∈ r.namespaces.values, ∃ query fault,
          r.Needs b scope query ∧ b query = .error fault ∧ result = .error (.query fault))
          p.start) := by
  refine ⟨r.namespacesPlan, hr.ofNamespaces_eq, fun b => ⟨fun hall => ?_, fun hfails => ?_⟩⟩
  · refine (Plan.alwaysEnds b _).mono fun result hresult => ?_
    cases hresult with
    | finished hmaps =>
      obtain ⟨-, rfl⟩ := (gives_parts_iff hr).mp hmaps
      rfl
    | failed hnone => exact absurd ⟨_, (gives_parts_iff hr).mpr ⟨hall, rfl⟩⟩ hnone
  · obtain ⟨scope, hscope, query, fault, hneeds, hfault⟩ := hfails
    refine (Plan.alwaysEnds b _).mono fun result hresult => ?_
    cases hresult with
    | finished hmaps =>
      obtain ⟨hall, -⟩ := (gives_parts_iff hr).mp hmaps
      obtain ⟨samples, hok⟩ := hall scope hscope query hneeds
      rw [hfault] at hok
      cases hok
    | failed _ ht hfail =>
      obtain ⟨scope', hscope', rfl⟩ := List.mem_map.mp ht
      obtain ⟨query', fault', hneeds', hfault', rfl⟩ := exists_of_mayFail_namespacePart hr hfail
      exact ⟨scope', hscope', query', fault', hneeds', hfault', rfl⟩

/-! ## Two namespaces with response times -/

/-- A request for two namespaces with response times. They are not in the order of their names. -/
def forTwoTimed : Request :=
  (withNamespace { queryTime := default, appenders := [ResponseTime.name] } "b" 600).withNamespace
    "a" 600

/-- Each of the two is reached from outside the mesh, at a workload of its own. -/
def bothReached : Backend Rat := fun query =>
  let asksTimes (scope : Scope) : Bool := query ∈ ResponseTime.queries
    (ResponseTime.quantile forTwoTimed.quantile) forTwoTimed scope
  .ok <|
    if query ∈ (forTwoTimed.trafficQueries ⟨"a", 600⟩).head? then [.toWorkload "a" "x" 2]
    else if query ∈ (forTwoTimed.trafficQueries ⟨"b", 600⟩).head? then [.toWorkload "b" "y" 3]
    else if asksTimes ⟨"a", 600⟩ then [.toWorkload "a" "x" (1 / 10)]
    else if asksTimes ⟨"b", 600⟩ then [.toWorkload "b" "y" (1 / 4)]
    else []

/-- The queries for the traffic of the second namespace fail. -/
def secondFails : Backend Rat := fun query =>
  if query ∈ forTwoTimed.trafficQueries ⟨"a", 600⟩ then .error .malformed
  else .ok [.toWorkload "b" "y" 2]

theorem namesKnown_forTwoTimed : forTwoTimed.NamesKnown := fun _ => List.mem_singleton.mp

/-- If all is answered, every schedule ends with the graph in which the first namespace comes first:
both maps have the unknown node, which keeps what it sends to the first namespace. If the second
namespace fails, every schedule ends with its failure. -/
theorem alwaysEnds_namespacesGraph_forTwoTimed :
    forTwoTimed.NamesKnown ∧
      ∃ p : Plan Rat, Plan.ofNamespaces [] forTwoTimed = .ok p ∧
        p.AlwaysEnds bothReached (fun result => ∃ m, result = .ok m ∧
          m.nodes.map (fun n => (n.id, n.metadata.number? Key.httpOut)) =
            [(.unknown, some 3), ((Identity.ofWorkload "b" "y").id, none),
              ((Identity.ofWorkload "a" "x").id, none)] ∧
          m.nodes.flatMap (fun n => n.edges.map fun e =>
              (e.dest, e.metadata.number? Key.responseTime)) =
            [((Identity.ofWorkload "b" "y").id, some 250),
              ((Identity.ofWorkload "a" "x").id, some 100)]) p.start ∧
        p.AlwaysEnds secondFails (· = .error (.query .malformed)) p.start := by
  obtain ⟨p, hp, hends⟩ := alwaysEnds_namespacesGraph (ν := Rat) namesKnown_forTwoTimed
  refine ⟨namesKnown_forTwoTimed, p, hp, ?_, ?_⟩
  · refine ((hends bothReached).1 fun _ _ _ _ => ⟨_, rfl⟩).mono ?_
    rintro _ rfl
    have hgraph : (Plan.finishNamespaces forTwoTimed (forTwoTimed.namespaces.values.map
        (forTwoTimed.namespaceMap bothReached))).toOption.bind (fun m => some
          (m.nodes.map fun n => (n.id, n.metadata.number? Key.httpOut),
            m.nodes.flatMap fun n => n.edges.map fun e =>
              (e.dest, e.metadata.number? Key.responseTime))) =
        some ([(.unknown, some 3), ((Identity.ofWorkload "b" "y").id, none),
              ((Identity.ofWorkload "a" "x").id, none)],
            [((Identity.ofWorkload "b" "y").id, some 250),
              ((Identity.ofWorkload "a" "x").id, some 100)]) := by
      decide +kernel
    obtain ⟨m, hm, heq⟩ := exists_ok_of_bind_toOption hgraph
    obtain ⟨hnodes, hedges⟩ := Prod.mk.inj (Option.some.inj heq)
    exact ⟨m, hm, hnodes, hedges⟩
  · have hscope : ⟨"a", 600⟩ ∈ forTwoTimed.namespaces.values := by decide
    obtain ⟨query, hquery⟩ : ∃ query, query ∈ forTwoTimed.trafficQueries ⟨"a", 600⟩ :=
      List.exists_mem_of_length_pos (by decide +kernel)
    have hfails := (hends secondFails).2
      ⟨_, hscope, query, .malformed, .traffic hquery, if_pos hquery⟩
    refine hfails.mono ?_
    rintro _ ⟨-, -, query', fault, -, hfault, rfl⟩
    unfold secondFails at hfault
    split at hfault
    · cases hfault
      rfl
    · cases hfault

end Request

end MeshTraffic
