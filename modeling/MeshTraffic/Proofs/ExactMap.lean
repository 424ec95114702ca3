import MeshTraffic.Proofs.Accepted
import MeshTraffic.Proofs.Tally

/-!
# Drawn maps are what their samples imply

* `edgeClasses`: the classes of response codes that edges count apart.
* `TrafficMap.IsTallyOf`: the nodes, the edges, their counters and the services are exactly what
  some observations imply.
* `TrafficMap.isTallyOf_foldl_draw`: so is the map that the observations are drawn as.
* `TrafficMap.ofFeeds_isTally`: the map of some feeds tells exactly the hops of their accepted
  samples.
-/

namespace MeshTraffic

variable {ν : Type}

/-- The traffic was answered with a response code that starts with `c`. -/
def Flow.codeStartsWith (c : Char) : Flow → Bool
  | .http code => code.toList.head? = some c
  | .tcp => false

/-- What the response codes of a class start with, and the counter of the class on edges. -/
def edgeClasses : List (Char × String) :=
  [('3', Key.http3xx), ('4', Key.http4xx), ('5', Key.http5xx)]

/-! ## What one observation adds to its edge -/

namespace Flow

theorem rateKey?_protocol (f : Flow) : f.protocol.rateKey? = some f.rateKey := by
  cases f <;> rfl

theorem classDigit?_eq_some_iff {f : Flow} {c : Char} :
    f.classDigit? = some c ↔ f.codeStartsWith c = true ∧ (c = '3' ∨ c = '4' ∨ c = '5') := by
  cases f with
  | tcp => simp [classDigit?, codeStartsWith]
  | http code =>
    cases hcode : code.toList with
    | nil => simp [classDigit?, codeStartsWith, hcode]
    | cons d rest =>
      simp only [classDigit?, codeStartsWith, hcode, List.head?_cons, decide_eq_true_eq]
      grind

/-- A table that gives each class a key of its own is read by the first character of the code. -/
theorem classKey?_eq_some_iff {k₃ k₄ k₅ : String} (hd : [k₃, k₄, k₅].Nodup) {c : Char}
    {key : String} (h : (c, key) ∈ [('3', k₃), ('4', k₄), ('5', k₅)]) (f : Flow) :
    (f.classDigit?.map fun c => if c = '3' then k₃ else if c = '4' then k₄ else k₅) = some key ↔
      f.codeStartsWith c = true := by
  simp only [Option.map_eq_some_iff, classDigit?_eq_some_iff]
  simp only [List.mem_cons, Prod.mk.injEq, List.not_mem_nil, or_false] at h
  constructor
  · rintro ⟨d, ⟨hcode, rfl | rfl | rfl⟩, hkey⟩ <;>
      rcases h with ⟨rfl, rfl⟩ | ⟨rfl, rfl⟩ | ⟨rfl, rfl⟩ <;> simp_all
  · intro hcode
    rcases h with ⟨rfl, rfl⟩ | ⟨rfl, rfl⟩ | ⟨rfl, rfl⟩ <;> exact ⟨_, ⟨hcode, by simp⟩, by simp⟩

theorem edgeClassKey?_eq_some_iff {c : Char} {key : String} (h : (c, key) ∈ edgeClasses)
    (f : Flow) : f.edgeClassKey? = some key ↔ f.codeStartsWith c = true :=
  classKey?_eq_some_iff (by decide) h f

theorem mem_edgeClasses_of_edgeClassKey? {f : Flow} {key : String}
    (h : f.edgeClassKey? = some key) : ∃ c, (c, key) ∈ edgeClasses := by
  obtain ⟨c, hc, rfl⟩ := Option.map_eq_some_iff.mp h
  obtain ⟨-, rfl | rfl | rfl⟩ := classDigit?_eq_some_iff.mp hc
  · exact ⟨'3', by decide⟩
  · exact ⟨'4', by decide⟩
  · exact ⟨'5', by decide⟩

/-- The rate of an edge is not the counter of a class. -/
theorem rateKey_ne {c : Char} {key : String} (h : (c, key) ∈ edgeClasses) (f : Flow) :
    f.rateKey ≠ key := by
  have hkeys : ∀ e ∈ edgeClasses, Key.http ≠ e.2 ∧ Key.tcp ≠ e.2 := by decide
  cases f
  · exact (hkeys _ h).1
  · exact (hkeys _ h).2

end Flow

theorem amountsOf_map (key : String) (key? : Option String) (x : ν) :
    amountsOf key (key?.toList.map fun k => (k, x)) = if key? = some key then [x] else [] := by
  cases key? with
  | none => rfl
  | some k => by_cases h : k = key <;> simp [amountsOf, h]

namespace Observation

theorem amountsOf_rateKey (o : Observation ν) :
    amountsOf o.flow.rateKey o.edgeAmounts = [o.value] := by
  have hclass : o.flow.edgeClassKey? ≠ some o.flow.rateKey := by
    intro h
    obtain ⟨c, hc⟩ := Flow.mem_edgeClasses_of_edgeClassKey? h
    exact o.flow.rateKey_ne hc rfl
  rw [edgeAmounts, Flow.edgeAmounts, amountsOf_cons, if_pos rfl, amountsOf_map, if_neg hclass]

theorem amountsOf_classKey {c : Char} {key : String} (h : (c, key) ∈ edgeClasses)
    (o : Observation ν) :
    amountsOf key o.edgeAmounts = if o.flow.codeStartsWith c = true then [o.value] else [] := by
  rw [edgeAmounts, Flow.edgeAmounts, amountsOf_cons, if_neg (o.flow.rateKey_ne h), amountsOf_map]
  simp only [Flow.edgeClassKey?_eq_some_iff h]

end Observation

variable [Quantity ν]

/-! ## What many observations add up to -/

/-- The map is exactly what the observations imply. -/
structure TrafficMap.IsTallyOf (r : Request) (os : List (Observation ν)) (m : TrafficMap ν) :
    Prop where
  /-- The nodes are the ends of the hops. -/
  contains_iff : ∀ id, m.contains id = true ↔ ∃ o ∈ os, id = o.sourceId r ∨ id = o.destId r
  /-- The edges are the hops. -/
  edge_iff : ∀ source dest protocol,
    (∃ n, m.get? source = some n ∧ (dest, protocol) ∈ n.targets) ↔
      ∃ o ∈ os, o.place r = (source, dest, protocol)
  /-- The rate of an edge is the sum of the values over it. -/
  rate_eq : ∀ {source n}, m.get? source = some n → ∀ e ∈ n.edges, ∃ key,
    e.protocol.rateKey? = some key ∧ e.metadata.get? key =
      some (.number ((os.filter (·.place r = (source, e.target))).map Observation.value).sum)
  /-- So is the counter of a class, over the responses of that class; without one there is none. -/
  class_eq : ∀ {source n}, m.get? source = some n → ∀ e ∈ n.edges, ∀ c key,
    (c, key) ∈ edgeClasses → e.metadata.get? key =
      Metadata.counterOf (((os.filter (·.place r = (source, e.target))).filter
        (·.flow.codeStartsWith c)).map Observation.value)
  /-- The services of a node are those that the hops to it were addressed to. -/
  services_eq : ∀ {id n}, m.get? id = some n → n.metadata.get? Key.destServices =
    Metadata.namesOf (((os.filter (·.destId r = id)).map (·.hop.dest.service)).filter (· ≠ ""))

namespace TrafficMap

/-- What an edge of a drawn map carries: there is an observation that passes it, and it carries
what these add up to. -/
theorem metadata_of_mem_foldl_draw {r : Request} {os : List (Observation ν)} {source : NodeId}
    {n : Node ν} (hn : ArrivalMap.get? (os.foldl (draw r) ∅) source = some n) {e : Edge ν}
    (he : e ∈ n.edges) :
    os.filter (·.place r = (source, e.target)) ≠ [] ∧
      e.metadata = Metadata.sumAll ∅
        ((os.filter (·.place r = (source, e.target))).flatMap Observation.edgeAmounts) := by
  have hcarried := carried?_foldl_draw r os ∅ (source, e.target)
  rw [carried?_of_mem (wellFormed_foldl_draw wellFormed_empty r os) hn he] at hcarried
  split at hcarried
  · cases hcarried
  · next hhits => exact ⟨hhits, Option.some.inj hcarried⟩

/-- The edges of a drawn map are the hops. -/
theorem edge_iff_foldl_draw (r : Request) (os : List (Observation ν)) (source dest : NodeId)
    (protocol : Protocol) :
    (∃ n, ArrivalMap.get? (os.foldl (draw r) ∅) source = some n ∧
        (dest, protocol) ∈ n.targets) ↔
      ∃ o ∈ os, o.place r = (source, dest, protocol) := by
  rw [← isSome_carried?_iff, carried?_foldl_draw]
  have hiff : os.filter (·.place r = (source, dest, protocol)) ≠ [] ↔
      ∃ o ∈ os, o.place r = (source, dest, protocol) := by
    simp [List.filter_eq_nil_iff]
  rw [← hiff]
  split
  · next h =>
    have hnone : carried? (∅ : TrafficMap ν) (source, dest, protocol) = none := rfl
    rw [hnone]
    simpa using h
  · next h => simpa using h

variable [LawfulQuantity ν]

/-- **The map that observations are drawn as is exactly what they imply.** -/
theorem isTallyOf_foldl_draw (r : Request) (os : List (Observation ν)) :
    IsTallyOf r os (os.foldl (draw r) ∅) where
  contains_iff id := by
    rw [contains_foldl_draw]
    simp [ArrivalMap.contains, EmptyCollection.emptyCollection]
  edge_iff := edge_iff_foldl_draw r os
  rate_eq {source n} hn e he := by
    obtain ⟨hhits, hmeta⟩ := metadata_of_mem_foldl_draw hn he
    have hplace : ∀ o ∈ os.filter (·.place r = (source, e.target)),
        e.protocol.rateKey? = some o.flow.rateKey := by
      intro o ho
      have heq : o.place r = (source, e.target) := by simpa using (List.mem_filter.mp ho).2
      have hprotocol : o.flow.protocol = e.protocol := congrArg (·.2.2) heq
      rw [← hprotocol, Flow.rateKey?_protocol]
    obtain ⟨o₀, ho₀⟩ := List.exists_mem_of_ne_nil _ hhits
    refine ⟨o₀.flow.rateKey, hplace o₀ ho₀, ?_⟩
    have hamounts : ∀ o ∈ os.filter (·.place r = (source, e.target)),
        amountsOf o₀.flow.rateKey o.edgeAmounts = [o.value] := by
      intro o ho
      have hkey := (hplace o₀ ho₀).symm.trans (hplace o ho)
      rw [Option.some.inj hkey, o.amountsOf_rateKey]
    rw [hmeta, Metadata.get?_sumAll_empty, amountsOf_flatMap, List.flatMap_congr hamounts,
      ← List.map_eq_flatMap, Metadata.counterOf, if_neg (by simpa using hhits)]
  class_eq {source n} hn e he c key hkey := by
    obtain ⟨-, hmeta⟩ := metadata_of_mem_foldl_draw hn he
    rw [hmeta, Metadata.get?_sumAll_empty, amountsOf_flatMap]
    simp only [Observation.amountsOf_classKey hkey]
    rw [← flatMap_filter, ← List.map_eq_flatMap]
    simp only [Bool.decide_eq_true]
  services_eq {id n} hn := by
    rw [← metadataAt_of_get? hn, destServices_foldl_draw, Observation.flatMap_servicesAt]
    exact Metadata.get?_addNames_empty ..

/-- **The map of some feeds tells exactly the hops of their accepted samples.** The samples that do
not count leave no trace. -/
theorem ofFeeds_isTally (r : Request) (feeds : List (Feed ν)) :
    (ofFeeds r feeds).WellFormed ∧
      (ofFeeds r feeds).IsTallyOf r (feeds.flatMap (Feed.acceptedHops r)) ∧
      ofFeeds r feeds = ofFeeds r (feeds.map Feed.onlyAccepted) := by
  refine ⟨wellFormed_ofFeeds r feeds, ?_, ?_⟩
  · rw [← List.flatMap_congr fun f _ => Feed.observations_eq_acceptedHops r f]
    exact isTallyOf_foldl_draw r _
  · unfold ofFeeds
    rw [List.flatMap_map]
    simp only [Feed.observations_onlyAccepted]

/-- Of the samples of a small mesh four count, and its map tells their hops. Labels that differ
stand where they belong: the workloads, the apps and the service of the requests that fail. -/
theorem ofFeeds_isTally_smallFeeds :
    LawfulQuantity Rat ∧ (smallFeeds.flatMap Feed.accepted).length = 4 ∧
      Attribution.ofLabels? (frontToReviews.toLabels "500") = some frontToReviews ∧
      (ofFeeds { queryTime := default } smallFeeds).keys.map NodeId.text =
        ["unknown", "wl_a_x", "wl_shop_front-7", "wl_bookinfo_reviews-v2"] ∧
      (ofFeeds { queryTime := default, type := .app } smallFeeds).keys.map NodeId.text =
        ["unknown", "app_a_x", "app_shop_front", "app_bookinfo_reviews"] ∧
      (ofFeeds { queryTime := default } smallFeeds).edges.map (fun e =>
          (e.metadata.number? Key.http, e.metadata.number? Key.http5xx)) =
        [(some 5, none), (none, none), (some 4, some 4)] ∧
      (ofFeeds { queryTime := default } smallFeeds).nodes.map (·.metadata.names? Key.destServices) =
        [none, some (.ofNames ["x"]), none, some (.ofNames ["reviews-service"])] ∧
      (ofFeeds { queryTime := default } smallFeeds).WellFormed ∧
      (ofFeeds { queryTime := default } smallFeeds).IsTallyOf { queryTime := default }
        (smallFeeds.flatMap (Feed.acceptedHops { queryTime := default })) ∧
      ofFeeds { queryTime := default } smallFeeds =
        ofFeeds { queryTime := default } (smallFeeds.map Feed.onlyAccepted) :=
  ⟨inferInstance, by decide +kernel, Attribution.ofLabels?_toLabels rfl _, by decide +kernel,
    by decide +kernel, by decide +kernel, by decide +kernel, ofFeeds_isTally _ smallFeeds⟩

end TrafficMap

end MeshTraffic
