import MeshTraffic.Proofs.Accepted
import MeshTraffic.Proofs.Survivor
import MeshTraffic.Proofs.Tally
import MeshTraffic.Proofs.WellFormedGraph

/-!
# What the marks of a graph tell

Nodes are marked once, when the maps are merged: no map of a namespace has marks of its own. So the
marks of a graph tell exactly where its nodes lie, also after the step to services. They tell it by
the keys under which namespaces are requested, but traffic is asked for by the names of the scopes;
where a scope stands under another key, its nodes are marked as if they lay outside.

* `TrafficMap.IsUnmarked`: drawing, annotating and merging make no marks.
* `Node.IsMarkedFor`, `TrafficMap.IsUnmarked.isMarkedFor_classify`: what marks tell.
* `Request.IsResult`, `Request.isMarkedFor_of_isResult`: they tell it in every graph that is built.
* `TrafficMap.RespectsScopes`, `Request.isResult_marks`: and they go by the names of the scopes if
  every scope stands under its name.
* `Request.not_forall_respectsScopes`: they do not if one stands under another key.
-/

namespace MeshTraffic

variable {ν : Type}

/-! ## Maps without marks -/

/-- Nothing has been told yet of the node's place in the graph. -/
def Node.IsUnmarked (n : Node ν) : Prop := ∀ key ∈ markKeys, n.metadata.get? key = none

namespace TrafficMap

/-- No node has been marked. -/
def IsUnmarked (m : TrafficMap ν) : Prop := ∀ id n, m.get? id = some n → n.IsUnmarked

theorem isUnmarked_empty : (∅ : TrafficMap ν).IsUnmarked := by
  intro id n hn
  cases hn

theorem IsUnmarked.insert {m : TrafficMap ν} (h : m.IsUnmarked) (id : NodeId) {n : Node ν}
    (hn : n.IsUnmarked) : IsUnmarked (m.insert id n) := by
  intro id' n' hn'
  rw [ArrivalMap.get?_insert] at hn'
  split at hn'
  · cases hn'
    exact hn
  · exact h id' n' hn'

/-- A merged node has the metadata of one of its instances. -/
theorem isUnmarked_mergeAll {maps : List (String × TrafficMap ν)}
    (hwf : ∀ e ∈ maps, e.2.WellFormed) (h : ∀ e ∈ maps, e.2.IsUnmarked) :
    (mergeAll maps).IsUnmarked := by
  intro id n hn key hkey
  obtain ⟨s, hs⟩ := (isMergeOf_of_mergeAll hwf id).1 n hn
  obtain ⟨i, hi, rfl⟩ := Node.mem_of_survivor? hs.survivor?_eq
  obtain ⟨e, he, -, hget⟩ := mem_instances_iff.mp hi
  rw [hs.metadata_eq]
  exact h e he id i.2 hget key hkey

variable [Quantity ν]

theorem IsUnmarked.encounter {m : TrafficMap ν} (h : m.IsUnmarked) (type : GraphType) (l : Labels)
    (x : ν) : (m.encounter type l x).IsUnmarked := by
  have hlabel : ∀ key ∈ markKeys, key ≠ Key.isMisconfigured := by decide
  intro key hkey
  rw [get?_encounter m type l x (hlabel key hkey), metadataAt]
  cases hn : m.get? (l.resolve type).id with
  | none => rfl
  | some n => exact h _ n hn key hkey

/-- An observation counts traffic and names services; it marks nothing. -/
theorem IsUnmarked.draw {m : TrafficMap ν} (h : m.IsUnmarked) (r : Request) (o : Observation ν) :
    (m.draw r o).IsUnmarked := by
  have hsent : ∀ key ∈ markKeys, key ∉ sentKeys := by decide
  have hreceived : ∀ key ∈ markKeys, key ∉ receivedKeys := by decide
  have hlabels : ∀ key ∈ markKeys, key ∉ labelKeys := by decide
  have hsource : (drawSource r o m).IsUnmarked := by
    refine h.insert _ fun key hkey => ?_
    rw [Node.get?_send _ _ _ _ (hsent key hkey)]
    exact h.encounter r.type o.hop.source o.value key hkey
  rw [draw_eq]
  refine hsource.insert _ fun key hkey => ?_
  rw [Node.get?_receive _ _ _ _ _ (hreceived key hkey),
    Metadata.get?_acknowledge _ _ _ (hlabels key hkey)]
  exact hsource.encounter r.type o.hop.dest o.value key hkey

theorem isUnmarked_foldl_draw {m : TrafficMap ν} (h : m.IsUnmarked) (r : Request)
    (os : List (Observation ν)) : IsUnmarked (os.foldl (TrafficMap.draw r) m) := by
  induction os generalizing m with
  | nil => exact h
  | cons o os ih => exact ih (h.draw r o)

theorem isUnmarked_ofFeeds (r : Request) (feeds : List (Feed ν)) :
    (ofFeeds r feeds).IsUnmarked :=
  isUnmarked_foldl_draw isUnmarked_empty r _

end TrafficMap

theorem ResponseTime.isUnmarked_annotate (times : Times ν)
    (m : TrafficMap ν) (h : m.IsUnmarked) : (annotate times m).IsUnmarked := by
  intro id n' hn'
  rw [annotate, TrafficMap.get?_mapNodes] at hn'
  obtain ⟨n, hn, rfl⟩ := Option.map_eq_some_iff.mp hn'
  exact h id n hn

/-! ## What marks tell -/

namespace Node

theorem IsUnmarked.flag_eq {n : Node ν} (h : n.IsUnmarked) {key : String} (hkey : key ∈ markKeys) :
    n.flag key = false := by
  rw [flag, Metadata.flag, h key hkey]
  rfl

/-- The node is outside exactly if its namespace is known and no requested namespace stands under
it as a key, and then inaccessible unless the caller may see it. What is beyond reach is never
outside and always inaccessible. -/
structure IsMarkedFor (r : Request) (n : Node ν) : Prop where
  isOutside_iff : n.flag Key.isOutside = true ↔
    n.isBeyondReach = false ∧ n.labels.ns ≠ unknownLabel ∧ n.labels.ns ∉ r.namespaces.keys
  isInaccessible_iff : n.flag Key.isInaccessible = true ↔
    n.isBeyondReach = true ∨ n.labels.ns ≠ unknownLabel ∧
      n.labels.ns ∉ r.namespaces.keys ∧ r.isAccessible n.labels.ns = false

theorem IsMarkedFor.congr {r : Request} {n n' : Node ν} (h : n.IsMarkedFor r)
    (hkind : n'.kind = n.kind) (hlabels : n'.labels = n.labels)
    (hflags : ∀ key ∈ [Key.isOutside, Key.isInaccessible, Key.isServiceEntry],
      n'.flag key = n.flag key) : n'.IsMarkedFor r := by
  have hbeyond := isBeyondReach_congr hkind (hflags _ (by simp))
  constructor
  · rw [hflags _ (by simp), hbeyond, hlabels]
    exact h.isOutside_iff
  · rw [hflags _ (by simp), hbeyond, hlabels]
    exact h.isInaccessible_iff

/-- **A node that is marked for the first time is marked for the request.** -/
theorem IsUnmarked.isMarkedFor_markVisibility {n : Node ν} (h : n.IsUnmarked) (r : Request) :
    (n.markVisibility r).IsMarkedFor r := by
  have hsame := n.sameButMarks_markVisibility r
  have hout : n.flag Key.isOutside = false := h.flag_eq (by decide)
  have hacc : n.flag Key.isInaccessible = false := h.flag_eq (by decide)
  constructor
  · rw [hsame.isBeyondReach_eq, hsame.labels_eq, ← liesOutside_iff, flag_isOutside_markVisibility,
      hout]
    simp
  · rw [hsame.isBeyondReach_eq, hsame.labels_eq, ← and_assoc, ← liesOutside_iff,
      flag_isInaccessible_markVisibility, flag_isOutside_markVisibility, hout, hacc]
    cases n.isBeyondReach <;> simp

end Node

namespace TrafficMap

/-- The marks of all nodes tell what they should. -/
def IsMarkedFor (r : Request) (m : TrafficMap ν) : Prop :=
  ∀ id n, m.get? id = some n → n.IsMarkedFor r

/-- Which nodes are roots does not matter for the other marks. -/
theorem IsUnmarked.isMarkedFor_classify {m : TrafficMap ν} (h : m.IsUnmarked) (r : Request) :
    (m.classify r).IsMarkedFor r := by
  have hroot : ∀ key ∈ [Key.isOutside, Key.isInaccessible, Key.isServiceEntry],
      key ≠ Key.isRoot := by decide
  intro id n' hn'
  rw [classify, markRoots, get?_mapNodes, markVisibility, get?_mapNodes] at hn'
  obtain ⟨n₁, hn₁, rfl⟩ := Option.map_eq_some_iff.mp hn'
  obtain ⟨n, hn, rfl⟩ := Option.map_eq_some_iff.mp hn₁
  have hmarked := (h id n hn).isMarkedFor_markVisibility r
  split
  · refine hmarked.congr rfl rfl fun key hkey => ?_
    rw [Node.flag_raise, decide_eq_false (hroot key hkey), Bool.false_or]
  · exact hmarked

/-- The nodes that a service graph keeps have the marks that they had. -/
theorem IsMarkedFor.toServiceGraph [Quantity ν] {r : Request} {m g : TrafficMap ν}
    (h : m.IsMarkedFor r) (hid : ∀ {k n}, m.get? k = some n → n.id = k)
    (hg : m.toServiceGraph = .ok g) : g.IsMarkedFor r := by
  intro id n' hn'
  obtain ⟨n, edges, hn, rfl⟩ := exists_of_get?_toServiceGraph hid hg hn'
  exact (h id n hn).congr rfl rfl fun _ _ => rfl

end TrafficMap

/-! ## The graphs of a request -/

namespace Request

variable [Quantity ν]

/-- Some way to build a graph for the request, with no appenders but those that it names, succeeds
with the map. -/
def IsResult (r : Request) (b : Backend ν) (c : Clock) (m : TrafficMap ν) : Prop :=
  (r.graph [] b c).result = .ok m ∨ (r.namespacesGraph [] b c).result = .ok m ∨
    (r.nodeGraph [] b c).result = .ok m

variable {r : Request} {b : Backend ν} {c : Clock} {m : TrafficMap ν}

theorem IsResult.cases (h : r.IsResult b c m) :
    (r.namespacesGraph [] b c).result = .ok m ∨ (r.nodeGraph [] b c).result = .ok m := by
  obtain h | h := h
  · unfold graph Plan.ofRequest at h
    split at h
    · exact .inl h
    · exact .inr h
  · exact h

/-- The map of a part has what drawn maps have and annotating keeps. -/
theorem holds_of_part {P : TrafficMap ν → Prop} (hdrawn : ∀ feeds, P (TrafficMap.ofFeeds r feeds))
    (hannotate : ∀ times m, P m → P (ResponseTime.annotate times m))
    {named : List (Appender ν)} (hnamed : r.namedAppenders = .ok named) {set : QuerySet}
    {scope : Scope} (h : ((set.drawn r).bind (Appender.runAll named r scope)).Gives b m) :
    m.WellFormed ∧ P m :=
  ⟨Plan.holds_of_part (named_keeps ResponseTime.wellFormed_annotate hnamed)
      (TrafficMap.wellFormed_ofFeeds r) h,
    Plan.holds_of_part (named_keeps hannotate hnamed) hdrawn h⟩

/-- A graph of namespaces is made of maps that have this: it is merged and marked, and reduced if
services are wanted. -/
theorem exists_maps_of_namespacesGraph {P : TrafficMap ν → Prop}
    (hdrawn : ∀ feeds, P (TrafficMap.ofFeeds r feeds))
    (hannotate : ∀ times m, P m → P (ResponseTime.annotate times m))
    (h : (r.namespacesGraph [] b c).result = .ok m) :
    ∃ maps : List (String × TrafficMap ν), (∀ e ∈ maps, e.2.WellFormed ∧ P e.2) ∧
      if r.type = .service then ((TrafficMap.mergeAll maps).classify r).toServiceGraph = .ok m
      else m = (TrafficMap.mergeAll maps).classify r := by
  obtain ⟨p, parts, hp, hparts, hfinish⟩ := Plan.gives_of_runIfMade h
  obtain ⟨named, maps, hnamed, hmaps, hm⟩ := Plan.exists_of_ofNamespaces hp hparts hfinish
  rw [List.append_nil] at hmaps
  refine ⟨maps, fun e he => ?_, hm⟩
  obtain ⟨scope, -, -, hgives⟩ := exists_of_mem_right hmaps he
  exact holds_of_part hdrawn hannotate hnamed hgives

/-- The graph of a node is a map that has this, and is marked. -/
theorem exists_map_of_nodeGraph {P : TrafficMap ν → Prop}
    (hdrawn : ∀ feeds, P (TrafficMap.ofFeeds r feeds))
    (hannotate : ∀ times m, P m → P (ResponseTime.annotate times m))
    (h : (r.nodeGraph [] b c).result = .ok m) :
    ∃ map : TrafficMap ν, map.WellFormed ∧ P map ∧ m = map.classify r := by
  obtain ⟨p, parts, hp, hparts, hfinish⟩ := Plan.gives_of_runIfMade h
  obtain ⟨named, scope, set, map, hnamed, hgives, rfl⟩ := Plan.exists_of_ofFocus hp hparts hfinish
  rw [List.append_nil] at hgives
  obtain ⟨hwf, hP⟩ := holds_of_part hdrawn hannotate hnamed hgives
  exact ⟨map, hwf, hP, rfl⟩

/-- A graph of namespaces is made of a map without marks: it is marked, and reduced if services are
wanted. -/
theorem exists_unmarked_of_namespacesGraph (h : (r.namespacesGraph [] b c).result = .ok m) :
    ∃ merged : TrafficMap ν, merged.WellFormed ∧ merged.IsUnmarked ∧
      if r.type = .service then (merged.classify r).toServiceGraph = .ok m
      else m = merged.classify r := by
  obtain ⟨maps, hmaps, hm⟩ := exists_maps_of_namespacesGraph (TrafficMap.isUnmarked_ofFeeds r)
    ResponseTime.isUnmarked_annotate h
  have hwf : ∀ e ∈ maps, e.2.WellFormed := fun e he => (hmaps e he).1
  exact ⟨TrafficMap.mergeAll maps, TrafficMap.wellFormed_mergeAll hwf,
    TrafficMap.isUnmarked_mergeAll hwf fun e he => (hmaps e he).2, hm⟩

/-- The graph of a node is a map without marks that is marked. -/
theorem exists_unmarked_of_nodeGraph (h : (r.nodeGraph [] b c).result = .ok m) :
    ∃ map : TrafficMap ν, map.WellFormed ∧ map.IsUnmarked ∧ m = map.classify r :=
  exists_map_of_nodeGraph (TrafficMap.isUnmarked_ofFeeds r) ResponseTime.isUnmarked_annotate h

theorem isMarkedFor_of_namespacesGraph (h : (r.namespacesGraph [] b c).result = .ok m) :
    m.IsMarkedFor r := by
  obtain ⟨merged, hwf, hunmarked, hm⟩ := exists_unmarked_of_namespacesGraph h
  have hmarked := hunmarked.isMarkedFor_classify r
  split at hm
  · exact hmarked.toServiceGraph (hwf.classify r).id_eq hm
  · exact hm ▸ hmarked

theorem isMarkedFor_of_nodeGraph (h : (r.nodeGraph [] b c).result = .ok m) : m.IsMarkedFor r := by
  obtain ⟨map, -, hunmarked, rfl⟩ := exists_unmarked_of_nodeGraph h
  exact hunmarked.isMarkedFor_classify r

/-- **In every graph that is built the marks tell where nodes lie.** -/
theorem isMarkedFor_of_isResult (h : r.IsResult b c m) : m.IsMarkedFor r :=
  h.cases.elim isMarkedFor_of_namespacesGraph isMarkedFor_of_nodeGraph

end Request

/-! ## Keys and names of requested namespaces -/

namespace Request

/-- The names of the requested namespaces: traffic is asked for by these. -/
def scopeNames (r : Request) : List String := r.namespaces.values.map Scope.name

/-- Every requested namespace stands under its own name. -/
def ScopesUnderNames (r : Request) : Prop := ∀ e ∈ r.namespaces.entries, e.2.name = e.1

instance (r : Request) : Decidable r.ScopesUnderNames :=
  inferInstanceAs (Decidable (∀ e ∈ r.namespaces.entries, e.2.name = e.1))

/-- Namespaces that are requested one by one stand under their names. -/
theorem ScopesUnderNames.withNamespace {r : Request} (h : r.ScopesUnderNames) (name : String)
    (window : Nat) : (r.withNamespace name window).ScopesUnderNames := by
  rintro ⟨key, scope⟩ he
  rw [ArrivalMap.mem_entries_iff, Request.withNamespace, ArrivalMap.get?_insert] at he
  split at he
  · next heq =>
    cases he
    exact heq.symm
  · exact h _ (ArrivalMap.mem_entries_iff.mpr he)

theorem ScopesUnderNames.scopeNames_eq {r : Request} (h : r.ScopesUnderNames) :
    r.scopeNames = r.namespaces.keys := by
  rw [scopeNames, ArrivalMap.values, ArrivalMap.keys, List.map_map]
  exact List.map_congr_left h

end Request

/-- The marks go by the names of the requested namespaces: what the caller may not see is marked,
and nothing in a requested namespace is marked as outside. -/
structure TrafficMap.RespectsScopes (r : Request) (m : TrafficMap ν) : Prop where
  isInaccessible : ∀ id n, m.get? id = some n → n.labels.ns ≠ unknownLabel →
    n.labels.ns ∉ r.scopeNames → r.isAccessible n.labels.ns = false →
      n.flag Key.isInaccessible = true
  not_isOutside : ∀ id n, m.get? id = some n → n.labels.ns ∈ r.scopeNames →
    n.flag Key.isOutside = false

theorem TrafficMap.IsMarkedFor.respectsScopes {r : Request} {m : TrafficMap ν}
    (h : m.IsMarkedFor r) (hnames : r.ScopesUnderNames) : m.RespectsScopes r where
  isInaccessible id n hn hns hscope haccess :=
    (h id n hn).isInaccessible_iff.mpr (.inr ⟨hns, hnames.scopeNames_eq ▸ hscope, haccess⟩)
  not_isOutside id n hn hscope := by
    rw [Bool.eq_false_iff, ne_eq, (h id n hn).isOutside_iff]
    exact fun hout => hout.2.2 (hnames.scopeNames_eq ▸ hscope)

namespace Request

/-- **Where nodes lie is told by the keys** under which namespaces are requested, and so by their
names if every one stands under its name. -/
theorem isResult_marks [Quantity ν] {r : Request} {b : Backend ν} {c : Clock} {m : TrafficMap ν}
    (h : r.IsResult b c m) : m.IsMarkedFor r ∧ (r.ScopesUnderNames → m.RespectsScopes r) :=
  ⟨isMarkedFor_of_isResult h, (isMarkedFor_of_isResult h).respectsScopes⟩

/-! ## A scope under another key -/

/-- A request for the namespace `bookinfo`, which stands under a key. -/
def forBookinfo (key : String) : Request :=
  { queryTime := default
    namespaces := ArrivalMap.ofList [(key, ⟨"bookinfo", 600⟩)]
    accessible := SortedMap.ofList [("bookinfo", default)] }

/-- A workload of `bookinfo` is reached from outside the mesh, and calls one of `shop`. -/
def callsShop : Backend Rat := fun _ =>
  .ok [.toWorkload "bookinfo" "x" 2, .ofWorkload "bookinfo" "x" ⟨"shop", "y", "y", "v1", "y"⟩ 1]

/-- The namespace of each node, and whether it is marked as outside and as inaccessible. -/
def marksOf (m : TrafficMap ν) : List (String × Bool × Bool) :=
  m.nodes.map fun n => (n.labels.ns, n.flag Key.isOutside, n.flag Key.isInaccessible)

/-- In the graph of `bookinfo`, what lies in `shop` is marked. -/
theorem isResult_marks_forBookinfo :
    ∃ m, (forBookinfo "bookinfo").IsResult callsShop ⟨0, none, none⟩ m ∧
      marksOf m = [("unknown", false, true), ("bookinfo", false, false), ("shop", true, true)] ∧
      m.IsMarkedFor (forBookinfo "bookinfo") ∧ (forBookinfo "bookinfo").ScopesUnderNames ∧
      m.RespectsScopes (forBookinfo "bookinfo") := by
  have hmarks : (((forBookinfo "bookinfo").namespacesGraph [] callsShop
      ⟨0, none, none⟩).result.toOption).bind (fun m => some (marksOf m)) =
        some [("unknown", false, true), ("bookinfo", false, false), ("shop", true, true)] := by
    decide +kernel
  obtain ⟨m, hm, hmarks⟩ := exists_ok_of_bind_toOption hmarks
  have hnames : (forBookinfo "bookinfo").ScopesUnderNames := by decide
  have hresult : (forBookinfo "bookinfo").IsResult callsShop ⟨0, none, none⟩ m := .inr (.inl hm)
  obtain ⟨hmarked, hrespects⟩ := isResult_marks hresult
  exact ⟨m, hresult, Option.some.inj hmarks, hmarked, hnames, hrespects hnames⟩

/-- If `bookinfo` stands under the key `shop`, then what lies in `bookinfo` is marked as outside,
and what lies in `shop`, which the caller may not see, is not marked at all. -/
theorem exists_forBookinfo_shop :
    ∃ m, ((forBookinfo "shop").namespacesGraph [] callsShop ⟨0, none, none⟩).result = .ok m ∧
      marksOf m =
        [("unknown", false, true), ("bookinfo", true, false), ("shop", false, false)] := by
  have hmarks : (((forBookinfo "shop").namespacesGraph [] callsShop
      ⟨0, none, none⟩).result.toOption).bind (fun m => some (marksOf m)) =
        some [("unknown", false, true), ("bookinfo", true, false), ("shop", false, false)] := by
    decide +kernel
  obtain ⟨m, hm, hmarks⟩ := exists_ok_of_bind_toOption hmarks
  exact ⟨m, hm, Option.some.inj hmarks⟩

/-- **What the caller may not see may bear no mark** if a scope stands under another key. -/
theorem not_forall_respectsScopes :
    ¬ ∀ (r : Request) (b : Backend Rat) (c : Clock) (m : TrafficMap Rat),
      r.IsResult b c m → m.RespectsScopes r := by
  intro hall
  obtain ⟨m, hm, hmarks⟩ := exists_forBookinfo_shop
  have hrespects : m.RespectsScopes (forBookinfo "shop") := hall _ _ _ m (.inr (.inl hm))
  have hmem : ("shop", false, false) ∈ marksOf m := by simp [hmarks]
  obtain ⟨n, hn, heq⟩ := List.mem_map.mp hmem
  obtain ⟨id, hid⟩ := TrafficMap.mem_nodes_iff.mp hn
  obtain ⟨hns, -, hseen⟩ : n.labels.ns = "shop" ∧ n.flag Key.isOutside = false ∧
      n.flag Key.isInaccessible = false := by simpa using heq
  have hhidden : n.flag Key.isInaccessible = true :=
    hrespects.isInaccessible id n hid (by rw [hns]; decide) (by rw [hns]; decide)
      (by rw [hns]; decide)
  rw [hseen] at hhidden
  cases hhidden

end Request

end MeshTraffic
