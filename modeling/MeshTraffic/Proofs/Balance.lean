import Mathlib.Algebra.BigOperators.Group.List.Basic
import Mathlib.Data.List.Nodup
import MeshTraffic.Proofs.ExactMap

/-!
# Counters balance

An observation adds the same to the edge that it passes and to the nodes at its ends. So what a node
sends is what its edges carry away, and what it receives is what the edges to it carry.

* `outCounters`, `inCounters`: which counters of a node sum up which counters of edges.
* `TrafficMap.IsBalanced`: they do.
* `TrafficMap.nodup_places`: no two edges of a well-formed map stand at one place.
* `TrafficMap.isBalanced_foldl_draw`, `TrafficMap.ofFeeds_isBalanced`: drawn maps are balanced.
-/

namespace MeshTraffic

/-- The counters of what a node sends, each with the counter of edges that it sums up. -/
def outCounters : List (String × String) := [(Key.httpOut, Key.http), (Key.tcpOut, Key.tcp)]

/-- The counters of what a node receives, each with the counter of edges that it sums up. -/
def inCounters : List (String × String) :=
  [(Key.httpIn, Key.http), (Key.httpIn3xx, Key.http3xx), (Key.httpIn4xx, Key.http4xx),
    (Key.httpIn5xx, Key.http5xx), (Key.tcpIn, Key.tcp)]

/-! ## What an observation adds at both places -/

variable {ν : Type}

namespace Flow

theorem amountsOf_inAmounts {p : String × String} (hp : p ∈ inCounters) (f : Flow) (x : ν) :
    amountsOf p.1 (f.inAmounts x) = amountsOf p.2 (f.edgeAmounts x) := by
  have hrates : ∀ p ∈ inCounters,
      (Key.httpIn = p.1 ↔ Key.http = p.2) ∧ (Key.tcpIn = p.1 ↔ Key.tcp = p.2) := by decide
  have hclasses : ∀ p ∈ inCounters, (Key.httpIn3xx = p.1 ↔ Key.http3xx = p.2) ∧
      (Key.httpIn4xx = p.1 ↔ Key.http4xx = p.2) ∧ (Key.httpIn5xx = p.1 ↔ Key.http5xx = p.2) := by
    decide
  have hrate : f.inKey = p.1 ↔ f.rateKey = p.2 := by
    cases f
    · exact (hrates p hp).1
    · exact (hrates p hp).2
  have hclass : f.nodeClassKey? = some p.1 ↔ f.edgeClassKey? = some p.2 := by
    simp only [nodeClassKey?, edgeClassKey?, Option.map_eq_some_iff]
    refine exists_congr fun c => and_congr_right fun hc => ?_
    obtain ⟨h₃, h₄, h₅⟩ := hclasses p hp
    obtain ⟨-, rfl | rfl | rfl⟩ := classDigit?_eq_some_iff.mp hc
    · exact h₃
    · exact h₄
    · exact h₅
  simp only [inAmounts, edgeAmounts, amountsOf_cons, amountsOf_map, hrate, hclass]

theorem amountsOf_outKey {p : String × String} (hp : p ∈ outCounters) (f : Flow) (x : ν) :
    amountsOf p.1 [(f.outKey, x)] = amountsOf p.2 (f.edgeAmounts x) := by
  have hrates : ∀ p ∈ outCounters,
      (Key.httpOut = p.1 ↔ Key.http = p.2) ∧ (Key.tcpOut = p.1 ↔ Key.tcp = p.2) := by decide
  have hclasses : ∀ p ∈ outCounters, ∀ e ∈ edgeClasses, e.2 ≠ p.2 := by decide
  have hrate : f.outKey = p.1 ↔ f.rateKey = p.2 := by
    cases f
    · exact (hrates p hp).1
    · exact (hrates p hp).2
  have hclass : f.edgeClassKey? ≠ some p.2 := by
    intro h
    obtain ⟨c, hc⟩ := mem_edgeClasses_of_edgeClassKey? h
    exact hclasses p hp _ hc rfl
  simp only [edgeAmounts, amountsOf_cons, amountsOf_map, hrate, hclass, if_false]
  rfl

end Flow

namespace Observation

theorem amountsOf_nodeAmounts (key : String) (r : Request) (id : NodeId) (o : Observation ν) :
    amountsOf key (o.nodeAmounts r id) =
      (if o.sourceId r = id then amountsOf key [(o.flow.outKey, o.value)] else []) ++
        if o.destId r = id then amountsOf key (o.flow.inAmounts o.value) else [] := by
  rw [nodeAmounts, amountsOf, List.filter_append, List.map_append]
  split <;> split <;> rfl

theorem amountsOf_nodeAmounts_out {p : String × String} (hp : p ∈ outCounters) (r : Request)
    (id : NodeId) (o : Observation ν) :
    amountsOf p.1 (o.nodeAmounts r id) =
      if o.sourceId r = id then amountsOf p.2 o.edgeAmounts else [] := by
  have hkey : ∀ p ∈ outCounters, p.1 ∉ receivedKeys := by decide
  have hin : amountsOf p.1 (o.flow.inAmounts o.value) = [] :=
    amountsOf_eq_nil fun e he heq =>
      hkey p hp (heq ▸ o.flow.mem_receivedKeys_of_mem_inAmounts o.value e he)
  rw [amountsOf_nodeAmounts, hin, Flow.amountsOf_outKey hp, ite_self, List.append_nil]
  rfl

theorem amountsOf_nodeAmounts_in {p : String × String} (hp : p ∈ inCounters) (r : Request)
    (id : NodeId) (o : Observation ν) :
    amountsOf p.1 (o.nodeAmounts r id) =
      if o.destId r = id then amountsOf p.2 o.edgeAmounts else [] := by
  have hkey : ∀ p ∈ inCounters, p.1 ∉ sentKeys := by decide
  have hout : amountsOf p.1 [(o.flow.outKey, o.value)] = [] :=
    amountsOf_eq_nil fun e he heq =>
      hkey p hp (heq ▸ List.mem_singleton.mp he ▸ o.flow.outKey_mem_sentKeys)
  rw [amountsOf_nodeAmounts, hout, Flow.amountsOf_inAmounts hp, ite_self, List.nil_append]
  rfl

end Observation

/-! ## Sums by place -/

theorem sum_flatMap {α M : Type} [AddCommMonoid M] (f : α → List M) (l : List α) :
    (l.flatMap f).sum = (l.map fun a => (f a).sum).sum := by
  rw [List.flatMap_def, List.sum_flatten, List.map_map]
  rfl

/-- A sum over a list is the sum over the classes of its elements, if each class is taken once. -/
theorem sum_fibers {α κ M : Type} [DecidableEq κ] [AddCommMonoid M] (place : α → κ) (f : α → M)
    {l : List α} {keys : List κ} (hnodup : keys.Nodup) (hmem : ∀ a ∈ l, place a ∈ keys) :
    (keys.map fun k => ((l.filter (place · = k)).map f).sum).sum = (l.map f).sum := by
  induction l with
  | nil => exact List.sum_eq_zero (by simp)
  | cons a l ih =>
    obtain ⟨ha, hl⟩ := List.forall_mem_cons.mp hmem
    have hsplit : ∀ k, (((a :: l).filter (place · = k)).map f).sum =
        (if k = place a then f a else 0) + ((l.filter (place · = k)).map f).sum := by
      intro k
      by_cases h : place a = k
      · simp [h]
      · simp [h, Ne.symm h]
    have hsingle : (keys.map fun k => if k = place a then f a else 0).sum = f a := by
      rw [List.sum_map_eq_nsmul_single (place a) _ fun k hk _ => if_neg hk,
        List.count_eq_one_of_mem hnodup ha, if_pos rfl, one_nsmul]
    simp only [hsplit, List.sum_map_add, hsingle, ih hl, List.map_cons, List.sum_cons]

namespace TrafficMap

/-- **No two edges of a well-formed map stand at one place.** -/
theorem WellFormed.nodup_places {m : TrafficMap ν} (h : m.WellFormed) :
    (m.edges.map Edge.place).Nodup := by
  have hids : (m.nodes.map Node.id).Nodup := map_id_nodes h.id_eq ▸ m.nodup_keys
  have htidy : ∀ n ∈ m.nodes, n.Tidy := by
    intro n hn
    obtain ⟨k, hk⟩ := mem_nodes_iff.mp hn
    exact h.tidy hk
  have hplaces : ∀ n ∈ m.nodes, n.edges.map Edge.place = n.targets.map (n.id, ·) := by
    intro n hn
    rw [Node.targets, List.map_map]
    exact List.map_congr_left fun e he => by
      rw [Edge.place, (htidy n hn).source_eq e he]
      rfl
  have hmap : m.edges.map Edge.place = m.nodes.flatMap fun n => n.targets.map (n.id, ·) := by
    rw [edges, List.map_flatMap]
    exact List.flatMap_congr hplaces
  rw [hmap, List.nodup_flatMap]
  refine ⟨fun n hn => (htidy n hn).nodup_targets.map fun t t' h => congrArg (·.2) h,
    ?_⟩
  -- edges of different nodes leave from different ids
  refine (List.pairwise_map.mp hids).imp fun {a b} hne => ?_
  rintro p hpa hpb
  obtain ⟨t, -, rfl⟩ := List.mem_map.mp hpa
  obtain ⟨t', -, heq⟩ := List.mem_map.mp hpb
  exact hne (congrArg Prod.fst heq).symm

/-- An edge of a well-formed map is one of the node that stands under its source. -/
theorem WellFormed.mem_edges_iff {m : TrafficMap ν} (h : m.WellFormed) {e : Edge ν} :
    e ∈ m.edges ↔ ∃ n, m.get? e.source = some n ∧ e ∈ n.edges := by
  simp only [edges, List.mem_flatMap, mem_nodes_iff]
  constructor
  · rintro ⟨n, ⟨id, hn⟩, he⟩
    exact ⟨n, by rw [h.source_eq hn he, hn], he⟩
  · rintro ⟨n, hn, he⟩
    exact ⟨n, ⟨e.source, hn⟩, he⟩

variable [Quantity ν]

/-- The counters of every node sum up those of the edges at it. -/
structure IsBalanced (m : TrafficMap ν) : Prop where
  /-- What a node sends is what its edges carry. -/
  out_eq : ∀ {id n}, m.get? id = some n → ∀ p ∈ outCounters,
    n.metadata.numberD p.1 = (n.edges.map (·.metadata.numberD p.2)).sum
  /-- What a node receives is what the edges to it carry. -/
  in_eq : ∀ {id n}, m.get? id = some n → ∀ p ∈ inCounters,
    n.metadata.numberD p.1 =
      ((m.edges.filter (·.dest = id)).map (·.metadata.numberD p.2)).sum

theorem exists_place_eq (r : Request) {os : List (Observation ν)} {o : Observation ν}
    (ho : o ∈ os) : ∃ e ∈ edges (os.foldl (draw r) ∅), e.place = o.place r := by
  have hwf : WellFormed (os.foldl (draw r) ∅) := wellFormed_foldl_draw wellFormed_empty r os
  obtain ⟨n, hn, ht⟩ := (edge_iff_foldl_draw r os _ _ _).mpr ⟨o, ho, rfl⟩
  obtain ⟨e, he, htarget⟩ := List.mem_map.mp ht
  have hsource : e.source = o.sourceId r := hwf.source_eq hn he
  refine ⟨e, hwf.mem_edges_iff.mpr ⟨n, by rw [hsource, hn], he⟩, ?_⟩
  exact Prod.ext hsource htarget

variable [LawfulQuantity ν]

/-- A counter of an edge of a drawn map is the sum over the observations that pass the edge. -/
theorem numberD_of_mem_foldl_draw {r : Request} {os : List (Observation ν)} {e : Edge ν}
    (he : e ∈ edges (os.foldl (draw r) ∅)) (key : String) :
    e.metadata.numberD key = ((os.filter (·.place r = e.place)).map
      fun o => (amountsOf key o.edgeAmounts).sum).sum := by
  have hwf : WellFormed (os.foldl (draw r) ∅) := wellFormed_foldl_draw wellFormed_empty r os
  obtain ⟨n, hn, he⟩ := hwf.mem_edges_iff.mp he
  rw [(metadata_of_mem_foldl_draw hn he).2, Metadata.numberD_sumAll,
    Metadata.numberD_of_get?_eq_none rfl, zero_add, amountsOf_flatMap, sum_flatMap]
  rfl

/-- The counters of some edges of a drawn map add up to the sum over the observations that pass one
of them. -/
theorem sum_numberD_of_places (r : Request) {os : List (Observation ν)} {es : List (Edge ν)}
    (hes : ∀ e ∈ es, e ∈ edges (os.foldl (draw r) ∅)) (hnodup : (es.map Edge.place).Nodup)
    (q : Observation ν → Prop) [DecidablePred q]
    (hq : ∀ o ∈ os, q o ↔ o.place r ∈ es.map Edge.place) (key : String) :
    (es.map (·.metadata.numberD key)).sum =
      ((os.filter (q ·)).map fun o => (amountsOf key o.edgeAmounts).sum).sum := by
  have hedge : ∀ e ∈ es, e.metadata.numberD key =
      (((os.filter (q ·)).filter (·.place r = e.place)).map
        fun o => (amountsOf key o.edgeAmounts).sum).sum := by
    intro e he
    rw [numberD_of_mem_foldl_draw (hes e he), List.filter_filter]
    congr 2
    refine List.filter_congr fun o ho => ?_
    have hplace : o.place r = e.place → q o := fun h =>
      (hq o ho).mpr (h ▸ List.mem_map_of_mem he)
    by_cases h : o.place r = e.place
    · simp [h, hplace h]
    · simp [h]
  rw [List.map_congr_left hedge, ← sum_fibers (Observation.place r) _ hnodup, List.map_map]
  · rfl
  · intro o ho
    obtain ⟨ho, hqo⟩ := List.mem_filter.mp ho
    exact (hq o ho).mp (by simpa using hqo)

/-- A counter of a node of a drawn map is the sum over the observations that reach the node. -/
theorem numberD_of_get?_foldl_draw {r : Request} {os : List (Observation ν)} {id : NodeId}
    {n : Node ν} (hn : ArrivalMap.get? (os.foldl (draw r) ∅) id = some n) {key : String}
    (hkey : key ∉ labelKeys) :
    n.metadata.numberD key =
      (os.map fun o => (amountsOf key (o.nodeAmounts r id)).sum).sum := by
  have hget := get?_foldl_draw r os ∅ id hkey
  rw [metadataAt_of_get? hn] at hget
  rw [Metadata.numberD_eq_of_get?_eq hget, Metadata.numberD_sumAll,
    Metadata.numberD_of_get?_eq_none rfl, zero_add, amountsOf_flatMap, sum_flatMap]

/-- **Drawn maps are balanced.** -/
theorem isBalanced_foldl_draw (r : Request) (os : List (Observation ν)) :
    IsBalanced (os.foldl (draw r) ∅) where
  out_eq {id n} hn p hp := by
    have hwf : WellFormed (os.foldl (draw r) ∅) := wellFormed_foldl_draw wellFormed_empty r os
    have hsource : ∀ e ∈ n.edges, e.source = id := fun e he => hwf.source_eq hn he
    have hlabel : ∀ p ∈ outCounters, p.1 ∉ labelKeys := by decide
    rw [numberD_of_get?_foldl_draw hn (hlabel p hp)]
    simp only [Observation.amountsOf_nodeAmounts_out hp]
    rw [← sum_flatMap, ← flatMap_filter, sum_flatMap]
    refine (sum_numberD_of_places r (fun e he => ?_) ?_ _ (fun o ho => ?_) p.2).symm
    · exact hwf.mem_edges_iff.mpr ⟨n, by rw [hsource e he, hn], he⟩
    · refine List.Nodup.of_map Prod.snd ?_
      rw [List.map_map]
      exact (hwf.tidy hn).nodup_targets
    · constructor
      · intro hid
        obtain ⟨e, he, hplace⟩ := exists_place_eq r ho
        obtain ⟨n', hn', he'⟩ := hwf.mem_edges_iff.mp he
        have hid' : e.source = id := (congrArg (·.1) hplace).trans hid
        rw [hid', hn] at hn'
        cases hn'
        exact List.mem_map.mpr ⟨e, he', hplace⟩
      · intro hmem
        obtain ⟨e, he, hplace⟩ := List.mem_map.mp hmem
        exact (congrArg (·.1) hplace).symm.trans (hsource e he)
  in_eq {id n} hn p hp := by
    have hwf : WellFormed (os.foldl (draw r) ∅) := wellFormed_foldl_draw wellFormed_empty r os
    have hlabel : ∀ p ∈ inCounters, p.1 ∉ labelKeys := by decide
    rw [numberD_of_get?_foldl_draw hn (hlabel p hp)]
    simp only [Observation.amountsOf_nodeAmounts_in hp]
    rw [← sum_flatMap, ← flatMap_filter, sum_flatMap]
    refine (sum_numberD_of_places r (fun e he => ?_) ?_ _ (fun o ho => ?_) p.2).symm
    · exact (List.mem_filter.mp he).1
    · exact hwf.nodup_places.sublist (List.filter_sublist.map _)
    · constructor
      · intro hid
        obtain ⟨e, he, hplace⟩ := exists_place_eq r ho
        have hid' : e.dest = id := (congrArg (·.2.1) hplace).trans hid
        exact List.mem_map.mpr ⟨e, List.mem_filter.mpr ⟨he, by simpa using hid'⟩, hplace⟩
      · intro hmem
        obtain ⟨e, he, hplace⟩ := List.mem_map.mp hmem
        have hid' : e.dest = id := by simpa using (List.mem_filter.mp he).2
        exact (congrArg (·.2.1) hplace).symm.trans hid'

/-- **The maps of feeds are balanced.** -/
theorem ofFeeds_isBalanced (r : Request) (feeds : List (Feed ν)) : (ofFeeds r feeds).IsBalanced :=
  isBalanced_foldl_draw r _

/-- The unknown node of a small mesh sends the five requests that its one http edge carries. -/
theorem ofFeeds_isBalanced_smallFeeds :
    LawfulQuantity Rat ∧ (ofFeeds { queryTime := default } smallFeeds).IsBalanced ∧
      ((ofFeeds { queryTime := default } smallFeeds).metadataAt NodeId.unknown).numberD
        Key.httpOut = 5 :=
  ⟨inferInstance, ofFeeds_isBalanced _ smallFeeds, by decide +kernel⟩

end TrafficMap

end MeshTraffic
