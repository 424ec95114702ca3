import Mathlib.Algebra.BigOperators.Group.List.Basic
import MeshTraffic.Proofs.Depiction
import MeshTraffic.Proofs.Readings
import MeshTraffic.Proofs.ScheduledGraphs

/-!
# Response times are means

* `ResponseTime.secondsBetween`: the seconds that some samples measure between two nodes.
* `ResponseTime.kept_takeInSample`, `ResponseTime.kept_populate`: what is kept for two nodes after
  one sample and after many is a running mean of these seconds, in milliseconds.
  `ResponseTime.between?_populate_eq_mean`: it is their mean.
* `Edge.IsTimed`, `TrafficMap.IsTimed`: what becomes of an edge and of a map, given the seconds that
  were measured between any two nodes.
* `ResponseTime.hasResponseTime_annotate`: drawn traffic gets a response time if a sample with the
  same ends measures it.
* `ResponseTime.appender_times`: what the appender does.
-/

namespace MeshTraffic

open SeriesLabel

variable {ν : Type} [Quantity ν]

/-! ## What is measured -/

/-- The sample measures something: its labels tell both ends, and its value is a number. -/
def Sample.IsMeasured (s : Sample ν) : Prop := s.IsAttributed ∧ Quantity.isNaN s.value = false

instance (s : Sample ν) : Decidable s.IsMeasured := inferInstanceAs (Decidable (_ ∧ _))

/-- Whether the traffic is drawn as an edge between the two nodes. -/
def Hop.joins (r : Request) (source dest : NodeId) (hop : Hop) : Bool :=
  (hop.source.resolve r.type).id = source && (hop.dest.resolve r.type).id = dest

namespace ResponseTime

/-- The seconds that samples measure between two nodes: the value of each sample that measures
something, once for each hop between them. -/
def secondsBetween (r : Request) (samples : List (Sample ν)) (source dest : NodeId) : List ν :=
  (samples.filter (·.IsMeasured)).flatMap fun s =>
    ((s.hops r).filter (·.joins r source dest)).map fun _ => s.value

/-- What an answer measures, its samples measure one after another. -/
theorem secondsBetween_cons (r : Request) (s : Sample ν) (samples : List (Sample ν))
    (source dest : NodeId) :
    secondsBetween r (s :: samples) source dest =
      secondsBetween r [s] source dest ++ secondsBetween r samples source dest := by
  rw [secondsBetween, secondsBetween, secondsBetween, ← List.flatMap_append, ← List.filter_append]
  rfl

theorem secondsBetween_ne_nil_iff {r : Request} {samples : List (Sample ν)}
    {source dest : NodeId} :
    secondsBetween r samples source dest ≠ [] ↔
      ∃ s ∈ samples, s.IsMeasured ∧ ∃ hop ∈ s.hops r, hop.joins r source dest = true := by
  simp [secondsBetween, List.flatMap_eq_nil_iff]

/-! ## Kept means -/

theorem kept_takeIn (times : Times ν) (ends ends' : NodeId × NodeId) (millis : ν) :
    kept (takeIn times ends millis) ends' =
      if ends' = ends then (kept times ends).average Key.responseTime millis
      else kept times ends' := by
  rw [kept, takeIn, ArrivalMap.get?_insert]
  split <;> rfl

omit [Quantity ν] in
theorem between?_eq_number? (times : Times ν) (source dest : NodeId) :
    between? times source dest = (kept times (source, dest)).number? Key.responseTime := by
  unfold between? kept
  cases times.get? (source, dest) <;> rfl

/-- Of some hops, those between two nodes are taken into their mean. -/
theorem kept_foldl_takeIn (r : Request) (hops : List Hop) (millis : ν) (times : Times ν)
    (source dest : NodeId) :
    kept (hops.foldl (fun times hop => takeIn times
        ((hop.source.resolve r.type).id, (hop.dest.resolve r.type).id) millis) times)
        (source, dest) =
      ((hops.filter (·.joins r source dest)).map fun _ => millis).foldl
        (fun m x => m.average Key.responseTime x) (kept times (source, dest)) := by
  induction hops generalizing times with
  | nil => rfl
  | cons hop hops ih =>
    rw [List.foldl_cons, ih, kept_takeIn]
    cases hjoins : hop.joins r source dest with
    | true =>
      have hends : ((hop.source.resolve r.type).id, (hop.dest.resolve r.type).id) =
          (source, dest) := by simpa [Hop.joins] using hjoins
      rw [hends, if_pos rfl, List.filter_cons_of_pos hjoins]
      rfl
    | false =>
      have hends : (source, dest) ≠
          ((hop.source.resolve r.type).id, (hop.dest.resolve r.type).id) := by
        intro h
        cases h
        simp [Hop.joins] at hjoins
      rw [if_neg hends, List.filter_cons_of_neg (by simp [hjoins])]

/-- **One sample** is taken into the mean between two nodes as often as it is drawn between them. -/
theorem kept_takeInSample (r : Request) (times : Times ν) (s : Sample ν) (source dest : NodeId) :
    kept (takeInSample r times s) (source, dest) =
      (secondsBetween r [s] source dest).foldl
        (fun m x => m.average Key.responseTime (x * Quantity.ofNat 1000))
          (kept times (source, dest)) := by
  unfold takeInSample
  cases ha : Attribution.ofLabels? s.labels with
  | none =>
    have hs : ¬ s.IsMeasured := fun h => by
      have hsome := Sample.isSome_ofLabels?_iff.mpr h.1
      rw [ha] at hsome
      cases hsome
    simp [secondsBetween, hs]
  | some a =>
    have hs : s.IsAttributed := by simp [← Sample.isSome_ofLabels?_iff, ha]
    have hhops : s.hops r = a.hops r := by rw [Sample.hops, ha]
    cases hnan : Quantity.isNaN s.value with
    | true => simp [secondsBetween, Sample.IsMeasured, hnan]
    | false =>
      have hmeasured : s.IsMeasured := ⟨hs, hnan⟩
      have hseconds : secondsBetween r [s] source dest =
          ((a.hops r).filter (·.joins r source dest)).map fun _ => s.value := by
        simp [secondsBetween, hmeasured, hhops]
      simp only [Bool.false_eq_true, ↓reduceIte]
      rw [hseconds, kept_foldl_takeIn, List.foldl_map, List.foldl_map]

/-- **Many samples** are taken into the mean between two nodes one after another. -/
theorem kept_populate (r : Request) (times : Times ν) (samples : List (Sample ν))
    (source dest : NodeId) :
    kept (populate r times samples) (source, dest) =
      (secondsBetween r samples source dest).foldl
        (fun m x => m.average Key.responseTime (x * Quantity.ofNat 1000))
          (kept times (source, dest)) := by
  induction samples generalizing times with
  | nil => rfl
  | cons s samples ih =>
    rw [secondsBetween_cons, List.foldl_append, ← kept_takeInSample]
    exact ih _

/-- Answers are taken in one after another. -/
theorem foldl_populate (r : Request) (times : Times ν) (answers : List (List (Sample ν))) :
    answers.foldl (populate r) times = populate r times answers.flatten := by
  rw [populate, List.foldl_flatten]
  rfl

theorem between?_populate (r : Request) (samples : List (Sample ν)) (source dest : NodeId) :
    between? (populate r ∅ samples) source dest =
      ((secondsBetween r samples source dest).foldl
        (fun m x => m.average Key.responseTime (x * Quantity.ofNat 1000))
          (∅ : Metadata ν)).number? Key.responseTime := by
  rw [between?_eq_number?, kept_populate]
  rfl

/-- **The mean is taken in milliseconds.** -/
theorem between?_populate_eq_mean [ScaledQuantity ν] (r : Request) (samples : List (Sample ν))
    (source dest : NodeId) :
    between? (populate r ∅ samples) source dest =
      if secondsBetween r samples source dest = [] then none
      else some (Quantity.ofNat 1000 * ((secondsBetween r samples source dest).sum /
        Quantity.ofNat (secondsBetween r samples source dest).length)) := by
  rw [between?_populate]
  generalize secondsBetween r samples source dest = seconds
  have hmean := (Metadata.isMeanOf_empty (ν := ν) Key.responseTime).foldl_average
    (seconds.map (· * Quantity.ofNat 1000))
  rw [List.foldl_map] at hmean
  rw [Metadata.number?, hmean.get?_eq, List.nil_append, Metadata.meanOf, sum_map_mul,
    List.length_map, ScaledQuantity.mul_div]
  cases seconds <;> rfl

end ResponseTime

/-! ## Timed edges -/

/-- What becomes of an edge whose traffic took `seconds`: it gets the mean of them in milliseconds,
the one that is kept while they come one after another, and nothing else. -/
structure Edge.IsTimed (seconds : List ν) (e e' : Edge ν) : Prop where
  source_eq : e'.source = e.source
  dest_eq : e'.dest = e.dest
  protocol_eq : e'.protocol = e.protocol
  get?_of_ne : ∀ k, k ≠ Key.responseTime → e'.metadata.get? k = e.metadata.get? k
  get?_responseTime : seconds ≠ [] → e'.metadata.get? Key.responseTime =
    some (.number (Quantity.ofNat 1000 * (seconds.sum / Quantity.ofNat seconds.length)))
  isRunningMean : seconds ≠ [] → e'.metadata.number? Key.responseTime =
    (seconds.foldl (fun m x => m.average Key.responseTime (x * Quantity.ofNat 1000))
      (∅ : Metadata ν)).number? Key.responseTime
  eq_of_nil : seconds = [] → e' = e

/-- What becomes of a node if its http edges are timed. -/
structure Node.IsTimed (seconds : NodeId → NodeId → List ν) (n n' : Node ν) : Prop where
  id_eq : n'.id = n.id
  kind_eq : n'.kind = n.kind
  labels_eq : n'.labels = n.labels
  metadata_eq : n'.metadata = n.metadata
  /-- The edges are in the same order. -/
  edges : List.Forall₂ (fun e e' => if e.protocol = .http
    then e.IsTimed (seconds e.source e.dest) e' else e' = e) n.edges n'.edges

/-- What becomes of a map if its http edges are timed: the nodes are in the same order, and stand
under the same keys. -/
def TrafficMap.IsTimed (seconds : NodeId → NodeId → List ν) (m m' : TrafficMap ν) : Prop :=
  List.Forall₂ (fun entry entry' => entry'.1 = entry.1 ∧ entry.2.IsTimed seconds entry'.2)
    m.entries m'.entries

namespace ResponseTime

variable (r : Request) (samples : List (Sample ν))

theorem isTimed_annotateEdge [ScaledQuantity ν] {e : Edge ν} (h : e.protocol = .http) :
    e.IsTimed (secondsBetween r samples e.source e.dest)
      (annotateEdge (populate r ∅ samples) e) := by
  have hrunning := (between?_populate r samples e.source e.dest).symm
  rw [between?_populate_eq_mean] at hrunning
  unfold annotateEdge
  rw [if_pos h, between?_populate_eq_mean]
  by_cases hnil : secondsBetween r samples e.source e.dest = []
  · rw [if_pos hnil]
    exact ⟨rfl, rfl, rfl, fun _ _ => rfl, fun h => absurd hnil h, fun h => absurd hnil h,
      fun _ => rfl⟩
  · rw [if_neg hnil] at hrunning ⊢
    refine ⟨rfl, rfl, rfl, fun k hk => ?_, fun _ => ?_, fun _ => ?_, fun h => absurd h hnil⟩
    · rw [SortedMap.get?_insert, if_neg hk]
    · rw [SortedMap.get?_insert, if_pos rfl]
    · rw [hrunning, Metadata.number?, SortedMap.get?_insert, if_pos rfl]
      rfl

/-- The edges are annotated in place. -/
theorem isTimed_annotate [ScaledQuantity ν] (m : TrafficMap ν) :
    m.IsTimed (secondsBetween r samples) (annotate (populate r ∅ samples) m) := by
  have hedge (e : Edge ν) : if e.protocol = .http
      then e.IsTimed (secondsBetween r samples e.source e.dest)
        (annotateEdge (populate r ∅ samples) e)
      else annotateEdge (populate r ∅ samples) e = e := by
    split
    · next h => exact isTimed_annotateEdge r samples h
    · next h => rw [annotateEdge, if_neg h]
  rw [TrafficMap.IsTimed, annotate, TrafficMap.mapNodes, ArrivalMap.mapValues,
    List.forall₂_map_right_iff, List.forall₂_same]
  refine fun entry _ => ⟨rfl, rfl, rfl, rfl, rfl, ?_⟩
  rw [List.forall₂_map_right_iff, List.forall₂_same]
  exact fun e _ => hedge e

variable {r samples}

omit [Quantity ν] in
/-- An edge is annotated by its ends and its protocol alone, and so the same way again. -/
theorem annotateEdge_annotateEdge (times : Times ν) (e : Edge ν) :
    annotateEdge times (annotateEdge times e) = annotateEdge times e := by
  by_cases hhttp : e.protocol = .http
  · cases hx : between? times e.source e.dest with
    | none => simp [annotateEdge, hhttp, hx]
    | some x =>
      have hinsert : (e.metadata.insert Key.responseTime (.number x)).insert Key.responseTime
          (.number x) = e.metadata.insert Key.responseTime (.number x) :=
        SortedMap.ext_get? fun k => by by_cases hk : k = Key.responseTime <;> simp [hk]
      simp [annotateEdge, hhttp, hx, hinsert]
  · simp [annotateEdge, hhttp]

omit [Quantity ν] in
theorem annotate_annotate (times : Times ν) (m : TrafficMap ν) :
    annotate times (annotate times m) = annotate times m := by
  apply ArrivalMap.ext
  simp [annotate, TrafficMap.mapNodes, ArrivalMap.mapValues, Function.comp_def,
    annotateEdge_annotateEdge]

end ResponseTime

/-! ## Traffic whose response time is measured -/

namespace Sample

omit [Quantity ν] in
/-- The labels that the samples are attributed by are the same. Which label tells the namespace of
the destination may differ. -/
structure SharesEnds (s t : Sample ν) : Prop where
  get?_eq : ∀ l ∈ QuerySet.sourceLabels ++ QuerySet.destLabels, s.labels.get? l = t.labels.get? l
  destNs_eq : (s.labels.get? destServiceNamespace).or (s.labels.get? destWorkloadNamespace) =
    (t.labels.get? destServiceNamespace).or (t.labels.get? destWorkloadNamespace)

omit [Quantity ν] in
theorem SharesEnds.ofLabels?_eq {s t : Sample ν} (h : s.SharesEnds t) :
    Attribution.ofLabels? s.labels = Attribution.ofLabels? t.labels := by
  have hget := h.get?_eq
  simp only [QuerySet.sourceLabels, QuerySet.destLabels, List.cons_append, List.nil_append,
    List.forall_mem_cons] at hget
  obtain ⟨h₁, h₂, h₃, h₄, h₅, h₆, h₇, h₈, -⟩ := hget
  simp only [Attribution.ofLabels?, h.destNs_eq, h₁, h₂, h₃, h₄, h₅, h₆, h₇, h₈]

end Sample

namespace TrafficMap

omit [Quantity ν] in
/-- The http edge between two nodes is there and has a response time. -/
def HasResponseTime (m : TrafficMap ν) (source dest : NodeId) : Prop :=
  ∃ n e x, m.get? source = some n ∧ n.edge? dest .http = some e ∧
    e.metadata.get? Key.responseTime = some (.number x)

end TrafficMap

namespace ResponseTime

/-- A sample measures the response time of all traffic that has the same ends. -/
theorem secondsBetween_ne_nil {r : Request} {samples : List (Sample ν)} {s t : Sample ν}
    (hs : s ∈ samples) (hnan : Quantity.isNaN s.value = false) (hshares : s.SharesEnds t)
    {hop : Hop} (hhop : hop ∈ t.hops r) :
    secondsBetween r samples (hop.source.resolve r.type).id (hop.dest.resolve r.type).id ≠ [] := by
  have hsame : s.hops r = t.hops r := by rw [Sample.hops, Sample.hops, hshares.ofLabels?_eq]
  rw [← hsame] at hhop
  have hattributed : s.IsAttributed := by
    rw [← Sample.isSome_ofLabels?_iff]
    cases ha : Attribution.ofLabels? s.labels with
    | none =>
      rw [Sample.hops, ha] at hhop
      cases hhop
    | some a => rfl
  exact secondsBetween_ne_nil_iff.mpr ⟨s, hs, ⟨hattributed, hnan⟩, hop, hhop, by simp [Hop.joins]⟩

/-- **Drawn traffic gets a response time** if a sample measures it. -/
theorem hasResponseTime_annotate [ScaledQuantity ν] {r : Request} {samples : List (Sample ν)}
    {feeds : List (Feed ν)} {f : Feed ν} (hf : f ∈ feeds) (hhttp : f.protocol = .http)
    {t : Sample ν} (ht : t ∈ f.accepted) {s : Sample ν} (hs : s ∈ samples)
    (hnan : Quantity.isNaN s.value = false) (hshares : s.SharesEnds t) {hop : Hop}
    (hhop : hop ∈ t.hops r) :
    (annotate (populate r ∅ samples) (TrafficMap.ofFeeds r feeds)).HasResponseTime
      (hop.source.resolve r.type).id (hop.dest.resolve r.type).id := by
  have hseconds := secondsBetween_ne_nil hs hnan hshares hhop
  -- the hop is drawn as an edge of the map
  have hdepicts := TrafficMap.depicts_ofFeeds r feeds
  have hobserved : (⟨f.flow t, hop, t.value⟩ : Observation ν) ∈ f.acceptedHops r :=
    List.mem_flatMap.mpr ⟨t, ht, List.mem_map_of_mem hhop⟩
  have hprotocol : (f.flow t).protocol = .http := by
    cases f with
    | http _ => rfl
    | tcp _ => cases hhttp
  obtain ⟨n, hn, htarget⟩ := (hdepicts.edge_iff (hop.source.resolve r.type).id
    (hop.dest.resolve r.type).id .http).mpr
      ⟨_, List.mem_flatMap.mpr ⟨f, hf, hobserved⟩, by rw [← hprotocol]; rfl⟩
  obtain ⟨e, he, hplace⟩ := List.mem_map.mp htarget
  have hsource : e.source = (hop.source.resolve r.type).id :=
    ((hdepicts.wellFormed.tidy hn).source_eq e he).trans (hdepicts.wellFormed.id_eq hn)
  have hdest : e.dest = (hop.dest.resolve r.type).id := congrArg Prod.fst hplace
  -- it stays where it is, and its seconds are those of the hop
  have hmap := wellFormed_annotate (populate r ∅ samples) _ hdepicts.wellFormed
  have hn' := TrafficMap.get?_mapNodes (fun n : Node ν =>
    { n with edges := n.edges.map (annotateEdge (populate r ∅ samples)) })
      (TrafficMap.ofFeeds r feeds) (hop.source.resolve r.type).id
  rw [hn, Option.map_some] at hn'
  have htimed := isTimed_annotateEdge r samples (congrArg Prod.snd hplace : e.protocol = .http)
  rw [hsource, hdest] at htimed
  refine ⟨_, annotateEdge (populate r ∅ samples) e, _, hn', ?_,
    htimed.get?_responseTime hseconds⟩
  rw [(hmap.tidy hn').edge?_eq_some_iff]
  exact ⟨List.mem_map_of_mem he, (target_annotateEdge _ e).trans hplace⟩

/-! ## The appender -/

/-- **Response times are the means of the matching samples, and touch nothing else.** What the
appender makes of a map, some answers to its queries decide: every http edge gets the mean of the
seconds that they measure between its ends, and the rest of the map stays as it is. With the same
answers the appender changes nothing more. In a drawn map, all http traffic whose ends a measured
sample shares has a response time then. -/
theorem appender_times [ScaledQuantity ν] (b : Backend ν) (q : Float) (r : Request)
    (scope : Scope) (m m' : TrafficMap ν) (h : (appender q r scope m).Gives b m') :
    ∃ answers : List (List (Sample ν)),
      (m.isEmpty = false → (queries (quantile q) r scope).mapM b = .ok answers) ∧
      m.IsTimed (secondsBetween r answers.flatten) m' ∧
      (appender q r scope m').Gives b m' ∧
      ∀ feeds, m = TrafficMap.ofFeeds r feeds → ∀ f ∈ feeds, f.protocol = .http →
        ∀ t ∈ f.accepted, ∀ s ∈ answers.flatten, Quantity.isNaN s.value = false →
          s.SharesEnds t → ∀ hop ∈ t.hops r,
            m'.HasResponseTime (hop.source.resolve r.type).id (hop.dest.resolve r.type).id := by
  obtain ⟨hall, rfl⟩ := gives_appender_iff.mp h
  refine ⟨(queries (quantile q) r scope).map b.answer, fun hm => ?_, ?_, ?_, ?_⟩
  · exact Backend.mapM_eq_ok_iff_answersAll.mpr ⟨hall hm, rfl⟩
  · rw [measured, foldl_populate]
    exact isTimed_annotate r _ m
  · rw [gives_appender_iff, isEmpty_annotate]
    exact ⟨hall, annotate_annotate _ m⟩
  · rintro feeds rfl f hf hhttp t ht s hs hnan hshares hop hhop
    rw [measured, foldl_populate]
    exact hasResponseTime_annotate hf hhttp ht hs hnan hshares hhop

/-! ## A small mesh -/

/-- A request that leads traffic through services. -/
def throughServices : Request := { queryTime := default, injectServices := true }

/-- Requests to a workload. -/
def requestsToX : List (Feed Reading) := [.http [.toWorkload "a" "x" (.number 2)]]

/-- Every query for response times is answered with two that are measured and one that is not. -/
def latencies : Backend Reading := fun _ =>
  .ok [.toWorkload "a" "x" (.number (1 / 10)), .toWorkload "a" "x" .nan,
    .toWorkload "a" "x" (.number (3 / 10))]

/-- The requests take 200 milliseconds, on both edges that they are drawn as. -/
theorem appender_times_latencies :
    ∃ m', (appender 0.95 throughServices ⟨"a", 600⟩
        (TrafficMap.ofFeeds throughServices requestsToX)).Gives latencies m' ∧
      (appender 0.95 throughServices ⟨"a", 600⟩ m').Gives latencies m' ∧
      m'.HasResponseTime .unknown (Identity.ofService "a" "x").id ∧
      m'.HasResponseTime (Identity.ofService "a" "x").id (Identity.ofWorkload "a" "x").id ∧
      m'.nodes.flatMap (fun n => n.edges.map fun e => e.metadata.get? Key.responseTime) =
        [some (.number (.number 200)), some (.number (.number 200))] := by
  have hall : latencies.AnswersAll (queries (quantile 0.95) throughServices ⟨"a", 600⟩) :=
    fun _ _ => ⟨_, rfl⟩
  have hgives := (gives_appender_iff (m := TrafficMap.ofFeeds throughServices requestsToX)).mpr
    ⟨fun _ => hall, rfl⟩
  obtain ⟨answers, hanswers, -, hagain, hdrawn⟩ := appender_times latencies 0.95 throughServices
    ⟨"a", 600⟩ _ _ hgives
  have hmeasured : Sample.toWorkload "a" "x" (.number (1 / 10)) ∈ answers.flatten := by
    obtain ⟨-, rfl⟩ := Backend.mapM_eq_ok_iff_answersAll.mp (hanswers (by decide +kernel))
    simp [queries, QuerySet.namespaceRequests, latencies, Backend.answer, Except.toOption]
  have hedge := hdrawn requestsToX rfl _ (List.mem_singleton_self _) rfl
    (.toWorkload "a" "x" (.number 2)) (List.mem_singleton_self _) _ hmeasured rfl
    ⟨fun _ _ => rfl, rfl⟩
  refine ⟨_, hgives, hagain, ?_, ?_, ?_⟩
  · exact hedge ⟨.unattributed, .ofService "a" "x"⟩ (by decide +kernel)
  · exact hedge ⟨.ofService "a" "x", ⟨"a", "x", "x", "v1", "x"⟩⟩ (by decide +kernel)
  · decide +kernel

end ResponseTime

end MeshTraffic
