import MeshTraffic.Proofs.Balance
import MeshTraffic.Proofs.Survivor
import MeshTraffic.Proofs.WellFormedGraph

/-!
# What nodes send in a graph of several namespaces

Each namespace's map is balanced. In the graph of several namespaces a node keeps the counters of
one instance but adopts edges of the others, so what it sends is what those of its edges carry that
the surviving instance has; the adopted ones are not counted.

* `Node.IsOutBalanced`: what a node sends is what its edges carry.
* `TrafficMap.isOutBalanced_ofFeeds`, `ResponseTime.isOutBalanced_annotate`,
  `Request.isOutBalanced_of_namespacePart`: so it is in the map of a namespace.
* `Node.SendsAs`: what it sends is what the edges of one of its instances carry.
* `Request.namespacesGraph_eq_ok`: what a graph is made of that is not reduced to services.
* `Request.namespacesGraph_out_eq`: what nodes send in it.
* `Request.not_forall_isOutBalanced`: all their edges may carry more, as in the graph of
  `Request.exists_forTwo`.
-/

namespace MeshTraffic

variable {ν : Type} [Quantity ν]

/-- What the node sends is what its edges carry. -/
def Node.IsOutBalanced (n : Node ν) : Prop :=
  ∀ p ∈ outCounters, n.metadata.numberD p.1 = (n.edges.map (·.metadata.numberD p.2)).sum

/-- What every node sends is what its edges carry. -/
def TrafficMap.IsOutBalanced (m : TrafficMap ν) : Prop :=
  ∀ id n, m.get? id = some n → n.IsOutBalanced

/-! ## The map of a namespace -/

theorem TrafficMap.isOutBalanced_ofFeeds [LawfulQuantity ν] (r : Request) (feeds : List (Feed ν)) :
    (ofFeeds r feeds).IsOutBalanced := fun _ _ hn => (isBalanced_foldl_draw r _).out_eq hn

namespace ResponseTime

theorem numberD_annotateEdge {key : String} (h : key ≠ Key.responseTime)
    (times : Times ν) (e : Edge ν) :
    (annotateEdge times e).metadata.numberD key = e.metadata.numberD key := by
  obtain hsame | ⟨x, hnew⟩ := annotateEdge_eq times e
  · rw [hsame]
  · rw [hnew]
    exact Metadata.numberD_eq_of_get?_eq (by simp [h])

/-- Response times are no traffic. -/
theorem isOutBalanced_annotate (times : Times ν) (m : TrafficMap ν)
    (h : m.IsOutBalanced) : (annotate times m).IsOutBalanced := by
  have hkey : ∀ p ∈ outCounters, p.2 ≠ Key.responseTime := by decide
  intro id n' hn' p hp
  rw [annotate, TrafficMap.get?_mapNodes] at hn'
  obtain ⟨n, hn, rfl⟩ := Option.map_eq_some_iff.mp hn'
  rw [List.map_map]
  refine (h id n hn p hp).trans (congrArg List.sum (List.map_congr_left fun e _ => ?_))
  exact (numberD_annotateEdge (hkey p hp) times e).symm

end ResponseTime

/-! ## The graph of several namespaces -/

/-- The node sends what the edges carry that the survivor `s` of its instances has; edges adopted of
other instances come on top. -/
structure Node.SendsAs (n : Node ν) (instances : List (String × Node ν)) (s : Node ν)
    (adopted : List (Edge ν)) : Prop where
  survivor?_eq : survivor? instances = some s
  edges_eq : n.edges = s.edges ++ adopted
  of_mem_adopted : ∀ e ∈ adopted, e.target ∉ s.targets ∧
    ∃ i ∈ instances, ∃ f ∈ i.2.edges, f.target = e.target ∧ f.metadata = e.metadata
  out_eq : ∀ p ∈ outCounters,
    n.metadata.numberD p.1 = (s.edges.map (·.metadata.numberD p.2)).sum
  sum_eq : ∀ p ∈ outCounters, (n.edges.map (·.metadata.numberD p.2)).sum =
    n.metadata.numberD p.1 + (adopted.map (·.metadata.numberD p.2)).sum

namespace Request

/-- The maps are those that the parts of the requested namespaces end with, each with the name of
its namespace. -/
def HasMaps (r : Request) (b : Backend ν) (maps : List (String × TrafficMap ν)) : Prop :=
  ∃ named, r.namedAppenders = .ok named ∧
    List.Forall₂ (fun scope e => e.1 = scope.name ∧
      (Plan.namespacePart named r scope).Gives b e.2) r.namespaces.values maps

/-- What a graph that is not reduced to services is made of: the maps of the requested namespaces,
merged and marked. -/
theorem namespacesGraph_eq_ok {r : Request} (htype : r.type ≠ .service)
    {extra : List (Appender ν)} {b : Backend ν} {c : Clock} {m : TrafficMap ν}
    (h : (r.namespacesGraph extra b c).result = .ok m) :
    ∃ named maps, r.namedAppenders = .ok named ∧
      List.Forall₂ (fun scope e => e.1 = scope.name ∧
        (Plan.namespacePart (named ++ extra) r scope).Gives b e.2) r.namespaces.values maps ∧
      m = (TrafficMap.mergeAll maps).classify r := by
  obtain ⟨p, parts, hp, hparts, hfinish⟩ := Plan.gives_of_runIfMade h
  obtain ⟨named, maps, hnamed, hmaps, hm⟩ := Plan.exists_of_ofNamespaces hp hparts hfinish
  rw [if_neg htype] at hm
  exact ⟨named, maps, hnamed, hmaps, hm⟩

variable [LawfulQuantity ν]

/-- The map of a requested namespace is well formed, and what its nodes send is what their edges
carry. -/
theorem isOutBalanced_of_namespacePart {r : Request} {named : List (Appender ν)}
    (hnamed : r.namedAppenders = .ok named) {scope : Scope} {b : Backend ν} {m : TrafficMap ν}
    (h : (Plan.namespacePart named r scope).Gives b m) : m.WellFormed ∧ m.IsOutBalanced :=
  ⟨Plan.holds_of_part (named_keeps ResponseTime.wellFormed_annotate hnamed)
      (TrafficMap.wellFormed_ofFeeds r) h,
    Plan.holds_of_part (named_keeps ResponseTime.isOutBalanced_annotate hnamed)
      (TrafficMap.isOutBalanced_ofFeeds r) h⟩

/-- **What nodes send** is what the edges of the surviving instance carry. The edges that it adopts
of other instances come on top. -/
theorem namespacesGraph_out_eq {r : Request} (htype : r.type ≠ .service) {b : Backend ν}
    {c : Clock} {m : TrafficMap ν} (h : (r.namespacesGraph [] b c).result = .ok m) :
    ∃ maps, r.HasMaps b maps ∧ ∀ id n, m.get? id = some n →
      ∃ s adopted, n.SendsAs (TrafficMap.instances maps id) s adopted := by
  obtain ⟨named, maps, hnamed, hmaps, rfl⟩ := namespacesGraph_eq_ok htype h
  rw [List.append_nil] at hmaps
  refine ⟨maps, ⟨named, hnamed, hmaps⟩, fun id n' hn' => ?_⟩
  have hall : ∀ e ∈ maps, e.2.WellFormed ∧ e.2.IsOutBalanced := by
    intro e he
    obtain ⟨scope, -, -, hgives⟩ := exists_of_mem_right hmaps he
    exact isOutBalanced_of_namespacePart hnamed hgives
  obtain ⟨n, hn, hsame⟩ := TrafficMap.get?_classify hn'
  obtain ⟨s, hs⟩ := (TrafficMap.isMergeOf_of_mergeAll (fun e he => (hall e he).1) id).1 n hn
  obtain ⟨adopted, hedges, hadopted⟩ := hs.edges_eq
  have hedges' : n'.edges = s.edges ++ adopted := hsame.edges_eq.trans hedges
  -- the survivor is balanced in its own map, and its counters are kept
  have hcounter : ∀ p ∈ outCounters,
      n'.metadata.numberD p.1 = (s.edges.map (·.metadata.numberD p.2)).sum := by
    intro p hp
    have hmark : ∀ p ∈ outCounters, p.1 ∉ markKeys := by decide
    obtain ⟨i, hi, rfl⟩ := Node.mem_of_survivor? hs.survivor?_eq
    obtain ⟨e, he, -, hget⟩ := TrafficMap.mem_instances_iff.mp hi
    rw [Metadata.numberD_eq_of_get?_eq (hsame.get?_eq _ (hmark p hp)), hs.metadata_eq]
    exact (hall e he).2 id i.2 hget p hp
  refine ⟨s, adopted, hs.survivor?_eq, hedges', hadopted, hcounter, fun p hp => ?_⟩
  rw [hedges', List.map_append, List.sum_append, hcounter p hp]

/-! ## A node that two namespaces see -/

/-- A request for two namespaces. -/
def forTwo : Request :=
  (withNamespace { queryTime := default } "a" 600).withNamespace "b" 600

/-- The query for requests from outside the mesh into a namespace. -/
def outsideQuery (ns : String) : String :=
  (RateQuery.expressions (QuerySet.namespaceQueries ns 600 forTwo).http).headD ""

/-- Each of two namespaces is reached from outside the mesh, at a workload of its own. -/
def twoReached : Backend Rat := fun query =>
  if query = outsideQuery "a" then .ok [.toWorkload "a" "x" 2]
  else if query = outsideQuery "b" then .ok [.toWorkload "b" "y" 3]
  else .ok []

/-- What the unknown node of a graph sends, and what its edges carry. -/
def unknownOut (m : TrafficMap ν) : Option (ν × ν) :=
  (m.get? NodeId.unknown).map fun n =>
    (n.metadata.numberD Key.httpOut, (n.edges.map (·.metadata.numberD Key.http)).sum)

/-- Of what the unknown node sends to two namespaces only the share of the first is counted. -/
theorem exists_forTwo :
    ∃ m, (forTwo.namespacesGraph [] twoReached ⟨0, none, none⟩).result = .ok m ∧
      unknownOut m = some (2, 5) := by
  have hout : ((forTwo.namespacesGraph [] twoReached ⟨0, none, none⟩).result.toOption).bind
      unknownOut = some (2, 5) := by decide +kernel
  exact exists_ok_of_bind_toOption hout

/-- **All edges of a node may carry more than it sends** in a graph of several namespaces. -/
theorem not_forall_isOutBalanced :
    ¬ ∀ (r : Request) (b : Backend Rat) (c : Clock) (m : TrafficMap Rat), r.type ≠ .service →
      (r.namespacesGraph [] b c).result = .ok m → m.IsOutBalanced := by
  intro hall
  obtain ⟨m, hm, hout⟩ := exists_forTwo
  obtain ⟨n, hn, heq⟩ := Option.map_eq_some_iff.mp hout
  obtain ⟨hsent, hcarried⟩ := Prod.mk.injEq .. ▸ heq
  have hbalanced : n.metadata.numberD Key.httpOut =
      (n.edges.map (·.metadata.numberD Key.http)).sum :=
    hall forTwo twoReached ⟨0, none, none⟩ m (by decide) hm NodeId.unknown n hn
      (Key.httpOut, Key.http) (by decide)
  rw [hsent, hcarried] at hbalanced
  exact absurd hbalanced (by decide)

/-- In the same graph, what the unknown node sends is what one of its two edges carries. -/
theorem namespacesGraph_out_eq_forTwo :
    LawfulQuantity Rat ∧ forTwo.type ≠ .service ∧
      ∃ m, (forTwo.namespacesGraph [] twoReached ⟨0, none, none⟩).result = .ok m ∧
        unknownOut m = some (2, 5) ∧
        ∃ maps, forTwo.HasMaps twoReached maps ∧ ∀ id n, m.get? id = some n →
          ∃ s adopted, n.SendsAs (TrafficMap.instances maps id) s adopted := by
  have htype : forTwo.type ≠ .service := by decide
  obtain ⟨m, hm, hout⟩ := exists_forTwo
  exact ⟨inferInstance, htype, m, hm, hout, namespacesGraph_out_eq htype hm⟩

end Request

end MeshTraffic
