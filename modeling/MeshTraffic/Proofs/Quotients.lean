import MeshTraffic.Proofs.Balance

/-!
# Coarser graphs

Two graphs can be drawn of the same observations under different rules for what nodes are. If the
ids of the one follow from those of the other, it is a quotient: nodes and edges fall together, and
what falls together is added up.

* `Metadata.counterOf_fibers`: amounts that are added up class by class.
* `Metadata.counterOf_filter`: counters that hold the amounts at their places, added up.
* `TrafficMap.IsQuotientOf`: the nodes and edges of a map are the images of those of another, and
  their counters are the sums over what they are images of.
* `TrafficMap.isQuotientOf_foldl_draw`: so it is with maps that are drawn of the same observations.
-/

namespace MeshTraffic

variable {ν : Type}

/-! ## Sums by class -/

section Fibers

variable [Quantity ν] [LawfulQuantity ν]

namespace Metadata

omit [LawfulQuantity ν] in
theorem number?_counterOf (amounts : List ν) :
    (counterOf amounts).bind Attribute.number? =
      if amounts = [] then none else some amounts.sum := by
  unfold counterOf
  split <;> rfl

theorem sum_filterMap_counterOf {κ : Type} (amounts : κ → List ν) (keys : List κ) :
    (keys.filterMap fun k => (counterOf (amounts k)).bind Attribute.number?).sum =
      (keys.map fun k => (amounts k).sum).sum := by
  induction keys with
  | nil => rfl
  | cons k keys ih =>
    rw [List.map_cons, List.sum_cons, ← ih, List.filterMap_cons, number?_counterOf]
    by_cases h : amounts k = []
    · simp [h]
    · simp [h]

/-- **A counter may be added up class by class**: what the classes hold that are there adds up to
the whole. -/
theorem counterOf_fibers {α κ : Type} [DecidableEq κ] (place : α → κ) (amounts : α → List ν)
    {l : List α} {keys : List κ} (hnodup : keys.Nodup) (hmem : ∀ a ∈ l, place a ∈ keys) :
    counterOf (keys.filterMap fun k =>
        (counterOf ((l.filter (place · = k)).flatMap amounts)).bind Attribute.number?) =
      counterOf (l.flatMap amounts) := by
  have hsum : (keys.filterMap fun k => (counterOf ((l.filter (place · = k)).flatMap
      amounts)).bind Attribute.number?).sum = (l.flatMap amounts).sum := by
    rw [sum_filterMap_counterOf]
    simp only [sum_flatMap]
    exact sum_fibers place (fun a => (amounts a).sum) hnodup hmem
  have hnil : (keys.filterMap fun k => (counterOf ((l.filter (place · = k)).flatMap
      amounts)).bind Attribute.number?) = [] ↔ l.flatMap amounts = [] := by
    rw [List.filterMap_eq_nil_iff, List.flatMap_eq_nil_iff]
    constructor
    · intro h a ha
      have hclass := h (place a) (hmem a ha)
      rw [number?_counterOf, ite_eq_left_iff] at hclass
      have hempty : (l.filter (place · = place a)).flatMap amounts = [] := by
        by_contra hne
        cases hclass hne
      exact List.flatMap_eq_nil_iff.mp hempty a (List.mem_filter.mpr ⟨ha, by simp⟩)
    · intro h k _
      have hclass : (l.filter (place · = k)).flatMap amounts = [] :=
        List.flatMap_eq_nil_iff.mpr fun a ha => h a (List.mem_filter.mp ha).1
      rw [hclass]
      rfl
  by_cases h : l.flatMap amounts = []
  · rw [hnil.mpr h, h]
  · rw [counterOf, if_neg (mt hnil.mp h), hsum, counterOf, if_neg h]

/-- The counters of some items of a list, each of which holds the amounts at its place, add up to
the amounts at their places. -/
theorem counterOf_filter {α β κ : Type} [DecidableEq κ] (place : α → κ) (amounts : α → List ν)
    (placeOf : β → κ) (number? : β → Option ν) {l : List α} {items : List β}
    (hnodup : (items.map placeOf).Nodup) (hmem : ∀ a ∈ l, place a ∈ items.map placeOf)
    (hnumber : ∀ i ∈ items, number? i =
      (counterOf ((l.filter (place · = placeOf i)).flatMap amounts)).bind Attribute.number?)
    (q : κ → Prop) [DecidablePred q] :
    counterOf ((items.filter (q <| placeOf ·)).filterMap number?) =
      counterOf ((l.filter (q <| place ·)).flatMap amounts) := by
  have hfiltered : ∀ i ∈ items.filter (q <| placeOf ·), number? i =
      (counterOf (((l.filter (q <| place ·)).filter (place · = placeOf i)).flatMap
        amounts)).bind Attribute.number? := by
    intro i hi
    obtain ⟨hi, hq⟩ := List.mem_filter.mp hi
    rw [hnumber i hi, List.filter_filter]
    congr 4
    funext a
    by_cases h : place a = placeOf i
    · simpa [h] using hq
    · simp [h]
  have hkeys : ((items.filter (q <| placeOf ·)).map placeOf).Nodup :=
    hnodup.sublist (List.filter_sublist.map _)
  have hplaces : ∀ a ∈ l.filter (q <| place ·), place a ∈
      (items.filter (q <| placeOf ·)).map placeOf := by
    intro a ha
    obtain ⟨ha, hq⟩ := List.mem_filter.mp ha
    obtain ⟨i, hi, heq⟩ := List.mem_map.mp (hmem a ha)
    exact List.mem_map.mpr ⟨i, List.mem_filter.mpr ⟨hi, heq ▸ hq⟩, heq⟩
  rw [List.filterMap_congr hfiltered, ← counterOf_fibers place amounts hkeys hplaces,
    List.filterMap_map]
  rfl

end Metadata

end Fibers

/-! ## What reaches a node -/

section Deposits

namespace Observation

/-- What the traffic adds to the counters of the nodes at its ends. -/
def deposits (r : Request) (o : Observation ν) : List (NodeId × List (String × ν)) :=
  [(o.sourceId r, [(o.flow.outKey, o.value)]), (o.destId r, o.flow.inAmounts o.value)]

theorem nodeAmounts_eq (r : Request) (id : NodeId) (o : Observation ν) :
    o.nodeAmounts r id = ((o.deposits r).filter (·.1 = id)).flatMap Prod.snd := by
  unfold nodeAmounts deposits
  by_cases hs : o.sourceId r = id <;> by_cases hd : o.destId r = id <;> simp [hs, hd]

end Observation

namespace TrafficMap

variable [Quantity ν] [LawfulQuantity ν]

/-- A counter of a node of a drawn map is made of what is added to the node. -/
theorem get?_of_get?_foldl_draw {r : Request} {os : List (Observation ν)} {id : NodeId}
    {n : Node ν} (hn : ArrivalMap.get? (os.foldl (draw r) ∅) id = some n) {key : String}
    (hkey : key ∉ labelKeys) :
    n.metadata.get? key = Metadata.counterOf
      (((os.flatMap (Observation.deposits r)).filter (·.1 = id)).flatMap
        fun d => amountsOf key d.2) := by
  have hget := get?_foldl_draw r os ∅ id hkey
  rw [metadataAt_of_get? hn] at hget
  have hamounts : amountsOf key (os.flatMap (Observation.nodeAmounts r id)) =
      ((os.flatMap (Observation.deposits r)).filter (·.1 = id)).flatMap
        fun d => amountsOf key d.2 := by
    simp only [Observation.nodeAmounts_eq, List.filter_flatMap, amountsOf_flatMap,
      List.flatMap_assoc]
  rw [hget, ← hamounts]
  exact Metadata.get?_sumAll_empty ..

/-- A counter of an edge of a drawn map is made of what is added to the edge. -/
theorem get?_of_mem_foldl_draw {r : Request} {os : List (Observation ν)} {e : Edge ν}
    (he : e ∈ edges (os.foldl (draw r) ∅)) (key : String) :
    e.metadata.get? key = Metadata.counterOf
      ((os.filter (·.place r = e.place)).flatMap fun o => amountsOf key o.edgeAmounts) := by
  have hwf : WellFormed (os.foldl (draw r) ∅) := wellFormed_foldl_draw wellFormed_empty r os
  obtain ⟨n, hn, he⟩ := hwf.mem_edges_iff.mp he
  rw [(metadata_of_mem_foldl_draw hn he).2, Metadata.get?_sumAll_empty, amountsOf_flatMap]
  rfl

end TrafficMap

end Deposits

/-! ## Quotients -/

namespace TrafficMap

variable [Quantity ν]

/-- The map `coarse` is that of `fine`, with the nodes put together that `π` sends to one id. -/
structure IsQuotientOf (π : NodeId → NodeId) (fine coarse : TrafficMap ν) : Prop where
  /-- The nodes are the images of nodes. -/
  contains_iff : ∀ id, coarse.contains id = true ↔ ∃ id', fine.contains id' = true ∧ π id' = id
  /-- The edges are the images of edges. -/
  edge_iff : ∀ source dest protocol,
    (∃ n, coarse.get? source = some n ∧ (dest, protocol) ∈ n.targets) ↔
      ∃ source' dest', (∃ n, fine.get? source' = some n ∧ (dest', protocol) ∈ n.targets) ∧
        π source' = source ∧ π dest' = dest
  /-- A node's counter is the sum over the nodes that it is the image of, and is there if one of
  them has it. -/
  node_eq : ∀ {id n}, coarse.get? id = some n → ∀ key ∉ labelKeys,
    n.metadata.get? key = Metadata.counterOf
      ((fine.nodes.filter (π ·.id = id)).filterMap (·.metadata.number? key))
  /-- So is an edge's, over the edges that it is the image of. -/
  edge_eq : ∀ e ∈ coarse.edges, ∀ key, e.metadata.get? key = Metadata.counterOf
    ((fine.edges.filter fun e' => (π e'.source, π e'.dest, e'.protocol) = e.place).filterMap
      (·.metadata.number? key))

variable {π : NodeId → NodeId} {r r' : Request}

omit [Quantity ν] in
theorem place_eq_of_coarser (hπ : ∀ l : Labels, (l.resolve r.type).id = π (l.resolve r'.type).id)
    (o : Observation ν) :
    o.place r = (π (o.place r').1, π (o.place r').2.1, (o.place r').2.2) := by
  simp only [Observation.place, Observation.sourceId, Observation.destId, hπ]

omit [Quantity ν] in
theorem deposits_eq_of_coarser
    (hπ : ∀ l : Labels, (l.resolve r.type).id = π (l.resolve r'.type).id)
    (os : List (Observation ν)) (id : NodeId) :
    (os.flatMap (Observation.deposits r)).filter (·.1 = id) =
      ((os.flatMap (Observation.deposits r')).filter (π ·.1 = id)).map
        fun d => (π d.1, d.2) := by
  have hone : ∀ o : Observation ν, o.deposits r = (o.deposits r').map fun d => (π d.1, d.2) := by
    intro o
    simp only [Observation.deposits, Observation.sourceId, Observation.destId, hπ, List.map_cons,
      List.map_nil]
  rw [List.flatMap_congr fun o _ => hone o, ← List.map_flatMap, List.filter_map]
  rfl

theorem exists_node_of_deposit {os : List (Observation ν)} {d : NodeId × List (String × ν)}
    (hd : d ∈ os.flatMap (Observation.deposits r)) :
    ∃ n ∈ nodes (os.foldl (draw r) ∅), n.id = d.1 := by
  have hwf : WellFormed (os.foldl (draw r) ∅) := wellFormed_foldl_draw wellFormed_empty r os
  have hcontains : ArrivalMap.contains (os.foldl (draw r) ∅) d.1 = true := by
    obtain ⟨o, ho, hd⟩ := List.mem_flatMap.mp hd
    refine contains_foldl_draw.mpr (.inr ⟨o, ho, ?_⟩)
    rcases List.mem_pair.mp hd with rfl | rfl
    · exact .inl rfl
    · exact .inr rfl
  obtain ⟨n, hn⟩ := ArrivalMap.contains_iff.mp hcontains
  exact ⟨n, mem_nodes_iff.mpr ⟨_, hn⟩, hwf.id_eq hn⟩

variable [LawfulQuantity ν]

/-- **Maps that are drawn of the same observations are quotients** where the ids of the one follow
from those of the other. -/
theorem isQuotientOf_foldl_draw
    (hπ : ∀ l : Labels, (l.resolve r.type).id = π (l.resolve r'.type).id)
    (os : List (Observation ν)) :
    IsQuotientOf π (os.foldl (draw r') ∅) (os.foldl (draw r) ∅) where
  contains_iff id := by
    rw [(isTallyOf_foldl_draw r os).contains_iff]
    simp only [(isTallyOf_foldl_draw r' os).contains_iff, Observation.sourceId,
      Observation.destId, hπ]
    constructor
    · rintro ⟨o, ho, rfl | rfl⟩
      · exact ⟨_, ⟨o, ho, .inl rfl⟩, rfl⟩
      · exact ⟨_, ⟨o, ho, .inr rfl⟩, rfl⟩
    · rintro ⟨_, ⟨o, ho, rfl | rfl⟩, rfl⟩
      · exact ⟨o, ho, .inl rfl⟩
      · exact ⟨o, ho, .inr rfl⟩
  edge_iff source dest protocol := by
    simp only [edge_iff_foldl_draw]
    constructor
    · rintro ⟨o, ho, hplace⟩
      rw [place_eq_of_coarser hπ, Prod.mk.injEq, Prod.mk.injEq] at hplace
      obtain ⟨hsource, hdest, hprotocol⟩ := hplace
      exact ⟨_, _, ⟨o, ho, by rw [← hprotocol]⟩, hsource, hdest⟩
    · rintro ⟨source', dest', ⟨o, ho, hplace⟩, rfl, rfl⟩
      exact ⟨o, ho, by rw [place_eq_of_coarser hπ, hplace]⟩
  node_eq {id n} hn key hkey := by
    have hwf : WellFormed (os.foldl (draw r') ∅) := wellFormed_foldl_draw wellFormed_empty r' os
    have hnodup : ((nodes (os.foldl (draw r') ∅)).map Node.id).Nodup :=
      map_id_nodes hwf.id_eq ▸ ArrivalMap.nodup_keys _
    have hmem : ∀ d ∈ os.flatMap (Observation.deposits r'),
        d.1 ∈ (nodes (os.foldl (draw r') ∅)).map Node.id := by
      intro d hd
      obtain ⟨n', hn', heq⟩ := exists_node_of_deposit hd
      exact List.mem_map.mpr ⟨n', hn', heq⟩
    have hnumber : ∀ n' ∈ nodes (os.foldl (draw r') ∅), n'.metadata.number? key =
        (Metadata.counterOf (((os.flatMap (Observation.deposits r')).filter
          (·.1 = n'.id)).flatMap fun d => amountsOf key d.2)).bind Attribute.number? := by
      intro n' hn'
      obtain ⟨id', hget⟩ := mem_nodes_iff.mp hn'
      rw [← hwf.id_eq hget] at hget
      rw [Metadata.number?, get?_of_get?_foldl_draw hget hkey]
    rw [get?_of_get?_foldl_draw hn hkey, deposits_eq_of_coarser hπ, List.flatMap_map]
    exact (Metadata.counterOf_filter Prod.fst _ Node.id _ hnodup hmem hnumber (π · = id)).symm
  edge_eq e he key := by
    have hwf : WellFormed (os.foldl (draw r') ∅) := wellFormed_foldl_draw wellFormed_empty r' os
    have hmem : ∀ o ∈ os, o.place r' ∈ (edges (os.foldl (draw r') ∅)).map Edge.place :=
      fun o ho => List.mem_map.mpr (exists_place_eq r' ho)
    have hnumber : ∀ e' ∈ edges (os.foldl (draw r') ∅), e'.metadata.number? key =
        (Metadata.counterOf ((os.filter (Observation.place r' · = e'.place)).flatMap
          fun o => amountsOf key o.edgeAmounts)).bind Attribute.number? := by
      intro e' he'
      rw [Metadata.number?, get?_of_mem_foldl_draw he']
    rw [get?_of_mem_foldl_draw he]
    simp only [place_eq_of_coarser hπ]
    exact (Metadata.counterOf_filter (Observation.place r') _ Edge.place _ hwf.nodup_places hmem
      hnumber fun p => (π p.1, π p.2.1, p.2.2) = e.place).symm

end TrafficMap

end MeshTraffic
