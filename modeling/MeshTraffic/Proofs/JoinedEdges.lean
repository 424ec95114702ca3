import MeshTraffic.Proofs.Means
import MeshTraffic.Proofs.Reduction

/-!
# Parallel edges put together

A node that takes edges in has one edge for each target: the first edge that leads there, to which
the later ones are joined.

* `Edge.joinAll?`: what parallel edges are put together to. `Node.edge?_withEdges`: it is what a
  node made of edges has under their target.
* `Edge.numberD_joinAll?`, `Edge.get?_counter_joinAll?`: counters are added up;
  `Edge.get?_joinAll?_of_ne`: other keys apart from the mean response time are those of the first
  edge.
* `Edge.HasNumbers`, `Edge.isMeanOf_joinAll?`: response times come to their mean.
* `Edge.IsJoinOf`, `Edge.isJoinOf_of_joinAll?`: both together.
-/

namespace MeshTraffic

variable {ν : Type}

theorem Edge.leadsTo_congr {e f : Edge ν} (h : e.target = f.target) (dest : NodeId)
    (protocol : Protocol) : e.leadsTo dest protocol = f.leadsTo dest protocol := by
  rw [Bool.eq_iff_iff, Edge.leadsTo_iff, Edge.leadsTo_iff, h]

/-! ## What an edge counts -/

theorem Protocol.nodup_counters (p : Protocol) : p.counters.Nodup := by
  cases p with
  | http => decide
  | tcp => decide
  | other name => exact List.nodup_nil

/-- No key of the mean response time is a counter. -/
theorem Protocol.not_mem_counters (p : Protocol) :
    ∀ key ∈ Key.mean Key.responseTime, key ∉ p.counters := by
  cases p with
  | http => decide
  | tcp => decide
  | other name => exact fun _ _ => List.not_mem_nil

/-- The amounts of some keys, as far as they have one. -/
theorem amountsOf_filterMap {keys : List String} (h : keys.Nodup) (x? : String → Option ν)
    (key : String) :
    amountsOf key (keys.filterMap fun k => (x? k).map fun x => (k, x)) =
      if key ∈ keys then (x? key).toList else [] := by
  induction keys with
  | nil => rfl
  | cons k keys ih =>
    obtain ⟨hk, hkeys⟩ := List.nodup_cons.mp h
    have hrest := ih hkeys
    by_cases hkey : k = key
    · subst hkey
      rw [if_neg hk] at hrest
      cases hx : x? k <;> simp [hx, amountsOf_cons, hrest]
    · have hmem : (key ∈ k :: keys) = (key ∈ keys) := by simp [Ne.symm hkey]
      simp only [hmem, ← hrest]
      cases hx : x? k <;> simp [hx, amountsOf_cons, hkey]

namespace Edge

/-- What the edge adds to the counters of its protocol. -/
def countedAmounts (e : Edge ν) : List (String × ν) :=
  e.protocol.counters.filterMap fun key => (e.metadata.number? key).map fun x => (key, x)

/-- The amounts that edges of one protocol add to a counter. -/
theorem amountsOf_countedAmounts {protocol : Protocol} {fs : List (Edge ν)}
    (h : ∀ f ∈ fs, f.protocol = protocol) (key : String) :
    amountsOf key (fs.flatMap countedAmounts) =
      if key ∈ protocol.counters then fs.filterMap (·.metadata.number? key) else [] := by
  have heach : ∀ f ∈ fs, amountsOf key f.countedAmounts =
      if key ∈ protocol.counters then (f.metadata.number? key).toList else [] := by
    intro f hf
    rw [countedAmounts, amountsOf_filterMap f.protocol.nodup_counters, h f hf]
  rw [amountsOf_flatMap, List.flatMap_congr heach]
  split
  · rw [List.filterMap_eq_flatMap_toList]
  · simp

/-- The counters of the edge's protocol and its response time are numbers, as far as they are there,
and there is no trace of a mean response time without one. -/
structure HasNumbers (e : Edge ν) : Prop where
  isNumber : ∀ key ∈ Key.responseTime :: e.protocol.counters, ∀ a,
    e.metadata.get? key = some a → ∃ x, a = .number x
  contains_responseTime : ∀ key ∈ Key.mean Key.responseTime,
    e.metadata.contains key = true → e.metadata.contains Key.responseTime = true

theorem hasNumbers_iff {e : Edge ν} :
    e.HasNumbers ↔
      (∀ key ∈ Key.responseTime :: e.protocol.counters,
        e.metadata.get? key = (e.metadata.number? key).map .number) ∧
      ∀ key ∈ Key.mean Key.responseTime,
        e.metadata.contains key = true → e.metadata.contains Key.responseTime = true := by
  constructor
  · intro h
    refine ⟨fun key hkey => ?_, h.contains_responseTime⟩
    unfold Metadata.number?
    cases hget : e.metadata.get? key with
    | none => rfl
    | some a =>
      obtain ⟨x, rfl⟩ := h.isNumber key hkey a hget
      rfl
  · rintro ⟨hnumber, hcontains⟩
    refine ⟨fun key hkey a ha => ?_, hcontains⟩
    rw [hnumber key hkey] at ha
    obtain ⟨x, -, rfl⟩ := Option.map_eq_some_iff.mp ha
    exact ⟨x, rfl⟩

instance [DecidableEq ν] (e : Edge ν) : Decidable e.HasNumbers :=
  decidable_of_iff _ hasNumbers_iff.symm

theorem HasNumbers.get?_eq {e : Edge ν} (h : e.HasNumbers) {key : String}
    (hkey : key ∈ Key.responseTime :: e.protocol.counters) :
    e.metadata.get? key = (e.metadata.number? key).map .number :=
  (hasNumbers_iff.mp h).1 key hkey

theorem HasNumbers.contains_iff {e : Edge ν} (h : e.HasNumbers) {key : String}
    (hkey : key ∈ Key.responseTime :: e.protocol.counters) :
    e.metadata.contains key = true ↔ ∃ x, e.metadata.number? key = some x := by
  rw [SortedMap.contains, h.get?_eq hkey, Option.isSome_map, Option.isSome_iff_exists]

/-- Without a response time there is no mean of response times. -/
theorem HasNumbers.get?_mean_eq_none {e : Edge ν} (h : e.HasNumbers)
    (hnone : e.metadata.number? Key.responseTime = none) :
    ∀ key ∈ Key.mean Key.responseTime, e.metadata.get? key = none := by
  intro key hkey
  have hget : e.metadata.get? Key.responseTime = none := by
    rw [h.get?_eq List.mem_cons_self, hnone]
    rfl
  cases hk : e.metadata.get? key with
  | none => rfl
  | some a =>
    have hcontains := h.contains_responseTime key hkey (by simp [SortedMap.contains, hk])
    simp [SortedMap.contains, hget] at hcontains

end Edge

variable [Quantity ν]

/-! ## One edge for each target -/

namespace Edge

/-- The edge as it begins the traffic to its target, leaving from `source`. -/
def begin (source : NodeId) (e : Edge ν) : Edge ν :=
  { e with source, metadata := e.metadata.restartResponseTime }

/-- The edge with others joined to it in order. -/
def joinAll (e : Edge ν) (fs : List (Edge ν)) : Edge ν := fs.foldl join e

/-- What parallel edges are put together to, leaving from `source`. -/
def joinAll? (source : NodeId) : List (Edge ν) → Option (Edge ν)
  | [] => none
  | e :: fs => some ((e.begin source).joinAll fs)

@[simp] theorem joinAll_cons (e f : Edge ν) (fs : List (Edge ν)) :
    e.joinAll (f :: fs) = (e.join f).joinAll fs := rfl

/-- What is joined to an edge does not change where it stands. -/
theorem place_joinAll (e : Edge ν) (fs : List (Edge ν)) :
    (e.joinAll fs).source = e.source ∧ (e.joinAll fs).target = e.target := by
  induction fs generalizing e with
  | nil => exact ⟨rfl, rfl⟩
  | cons f fs ih => exact ih (e.join f)

theorem source_joinAll? {source : NodeId} {fs : List (Edge ν)} {e : Edge ν}
    (h : joinAll? source fs = some e) : e.source = source := by
  cases fs with
  | nil => cases h
  | cons f fs =>
    cases h
    exact (place_joinAll _ fs).1

theorem protocol_joinAll? {protocol : Protocol} {fs : List (Edge ν)}
    (h : ∀ f ∈ fs, f.protocol = protocol) {source : NodeId} {e : Edge ν}
    (he : joinAll? source fs = some e) : e.protocol = protocol := by
  cases fs with
  | nil => cases he
  | cons f fs =>
    cases he
    have htarget := (place_joinAll (f.begin source) fs).2
    exact (congrArg Prod.snd htarget).trans (h f List.mem_cons_self)

theorem isSome_joinAll?_iff (source : NodeId) {fs : List (Edge ν)} :
    (joinAll? source fs).isSome = true ↔ fs ≠ [] := by
  cases fs <;> simp [joinAll?]

end Edge

namespace Node

theorem find?_absorbInto (source : NodeId) (f : Edge ν) (l : List (Edge ν)) (dest : NodeId)
    (protocol : Protocol) :
    (absorbInto source f l).find? (·.leadsTo dest protocol) =
      if f.leadsTo dest protocol then
        match l.find? (·.leadsTo dest protocol) with
        | some e => some (e.join f)
        | none => some (f.begin source)
      else l.find? (·.leadsTo dest protocol) := by
  induction l with
  | nil =>
    have hbegin : (f.begin source).leadsTo dest protocol = f.leadsTo dest protocol := rfl
    rw [show absorbInto source f [] = [f.begin source] from rfl, List.find?_singleton, hbegin]
    rfl
  | cons e l ih =>
    rw [absorbInto]
    by_cases hparallel : e.isParallel f = true
    · have hjoin : (e.join f).leadsTo dest protocol = e.leadsTo dest protocol := rfl
      have hlead := Edge.leadsTo_congr (Edge.isParallel_iff.mp hparallel) dest protocol
      rw [if_pos hparallel, List.find?_cons, List.find?_cons, hjoin, hlead]
      cases f.leadsTo dest protocol <;> rfl
    · rw [if_neg hparallel, List.find?_cons, List.find?_cons, ih]
      cases he : e.leadsTo dest protocol with
      | false => rfl
      | true =>
        -- `e` leads there, so `f`, which leads elsewhere, does not
        have hf : ¬ f.leadsTo dest protocol = true := fun hf => hparallel <|
          Edge.isParallel_iff.mpr ((Edge.leadsTo_iff.mp he).trans (Edge.leadsTo_iff.mp hf).symm)
        simp [hf]

private theorem edge?_foldl_absorb (n : Node ν) (edges : List (Edge ν)) (dest : NodeId)
    (protocol : Protocol) :
    (edges.foldl absorb n).edge? dest protocol =
      match n.edge? dest protocol with
      | some e => some (e.joinAll (edges.filter (·.leadsTo dest protocol)))
      | none => Edge.joinAll? n.id (edges.filter (·.leadsTo dest protocol)) := by
  induction edges generalizing n with
  | nil => cases h : n.edge? dest protocol <;> exact h
  | cons f edges ih =>
    have habsorb : (n.absorb f).edge? dest protocol =
        if f.leadsTo dest protocol then
          match n.edge? dest protocol with
          | some e => some (e.join f)
          | none => some (f.begin n.id)
        else n.edge? dest protocol := find?_absorbInto n.id f n.edges dest protocol
    rw [List.foldl_cons, ih, habsorb]
    by_cases hf : f.leadsTo dest protocol = true
    · have hfilter : (f :: edges).filter (·.leadsTo dest protocol) =
          f :: edges.filter (·.leadsTo dest protocol) := List.filter_cons_of_pos hf
      rw [if_pos hf, hfilter]
      cases n.edge? dest protocol <;> rfl
    · have hfilter : (f :: edges).filter (·.leadsTo dest protocol) =
          edges.filter (·.leadsTo dest protocol) := List.filter_cons_of_neg hf
      rw [if_neg hf, hfilter]
      rfl

/-- **A node made of edges** has under a target what those to this target are put together to. -/
theorem edge?_withEdges (n : Node ν) (edges : List (Edge ν)) (dest : NodeId)
    (protocol : Protocol) :
    (n.withEdges edges).edge? dest protocol =
      Edge.joinAll? n.id (edges.filter (·.leadsTo dest protocol)) :=
  edge?_foldl_absorb { n with edges := [] } edges dest protocol

end Node

/-! ## Counters -/

namespace Metadata

theorem get?_averageResponseTime (m : Metadata ν) (x? : Option ν) {key : String}
    (h : key ∉ Key.mean Key.responseTime) : (m.averageResponseTime x?).get? key = m.get? key := by
  cases x? with
  | none => rfl
  | some x => exact get?_average_of_ne m h x

theorem get?_restartResponseTime (m : Metadata ν) {key : String}
    (h : key ∉ Key.mean Key.responseTime) : m.restartResponseTime.get? key = m.get? key := by
  unfold restartResponseTime
  split
  · rw [get?_average_of_ne _ h]
    simp only [Key.mean, List.mem_cons, List.not_mem_nil, or_false, not_or] at h
    obtain ⟨hkey, htotal, hcount⟩ := h
    simp [hkey, htotal, hcount]
  · rfl

end Metadata

namespace Edge

theorem metadata_join (e f : Edge ν) :
    (e.join f).metadata = (e.metadata.sumAll f.countedAmounts).averageResponseTime
      (f.metadata.number? Key.responseTime) := by
  rw [Metadata.sumAll, countedAmounts, List.foldl_filterMap]
  refine congrArg (Metadata.averageResponseTime · _) (congrArg (List.foldl · _ _) ?_)
  funext m key
  cases f.metadata.number? key <;> rfl

variable [LawfulQuantity ν]

/-- Apart from the mean, what is joined to an edge adds to its counters and nothing else. -/
theorem get?_joinAll (e : Edge ν) (fs : List (Edge ν)) {key : String}
    (h : key ∉ Key.mean Key.responseTime) :
    (e.joinAll fs).metadata.get? key =
      (e.metadata.sumAll (fs.flatMap countedAmounts)).get? key := by
  induction fs generalizing e with
  | nil => rfl
  | cons f fs ih =>
    rw [joinAll_cons, ih, List.flatMap_cons, Metadata.sumAll_append]
    refine Metadata.get?_sumAll_congr ?_ _
    rw [metadata_join, Metadata.get?_averageResponseTime _ _ h]

/-- Apart from the mean, edges of one protocol that are put together come to the first one with the
amounts of the others added. -/
theorem get?_begin_joinAll (e : Edge ν) (fs : List (Edge ν)) (source : NodeId) {key : String}
    (h : key ∉ Key.mean Key.responseTime) :
    ((e.begin source).joinAll fs).metadata.get? key =
      (e.metadata.sumAll (fs.flatMap countedAmounts)).get? key := by
  rw [get?_joinAll _ _ h]
  exact Metadata.get?_sumAll_congr (Metadata.get?_restartResponseTime _ h) _

/-- An edge without a counter counts as zero. -/
theorem sum_filterMap_number? (fs : List (Edge ν)) (key : String) :
    (fs.filterMap (·.metadata.number? key)).sum = (fs.map (·.metadata.numberD key)).sum := by
  induction fs with
  | nil => rfl
  | cons f fs ih =>
    rw [List.map_cons, List.sum_cons, ← ih, Metadata.numberD]
    cases hx : f.metadata.number? key <;> simp [hx]

/-- **Each counter is the sum of those of the edges that are put together.** -/
theorem numberD_joinAll? {protocol : Protocol} {fs : List (Edge ν)}
    (h : ∀ f ∈ fs, f.protocol = protocol) {source : NodeId} {e : Edge ν}
    (he : joinAll? source fs = some e) {key : String} (hkey : key ∈ protocol.counters) :
    e.metadata.numberD key = (fs.map (·.metadata.numberD key)).sum := by
  cases fs with
  | nil => cases he
  | cons f fs =>
    cases he
    obtain ⟨-, hfs⟩ := List.forall_mem_cons.mp h
    have hmean : key ∉ Key.mean Key.responseTime := fun hmem =>
      protocol.not_mem_counters key hmem hkey
    rw [Metadata.numberD_eq_of_get?_eq (get?_begin_joinAll f fs source hmean),
      Metadata.numberD_sumAll, amountsOf_countedAmounts hfs, if_pos hkey, sum_filterMap_number?]
    rfl

/-- **So is the rate.** -/
theorem rate_joinAll? {protocol : Protocol} {fs : List (Edge ν)}
    (h : ∀ f ∈ fs, f.protocol = protocol) {source : NodeId} {e : Edge ν}
    (he : joinAll? source fs = some e) : e.rate = (fs.map rate).sum := by
  have hkeys : ∀ key ∈ protocol.rateKey?, key ∈ protocol.counters := by
    cases protocol <;> simp [Protocol.rateKey?, Protocol.counters]
  cases hkey : protocol.rateKey? with
  | some key =>
    have hrate : ∀ f : Edge ν, f.protocol = protocol → f.rate = f.metadata.numberD key := by
      intro f hf
      rw [rate, hf, hkey]
    rw [hrate e (protocol_joinAll? h he), List.map_congr_left fun f hf => hrate f (h f hf)]
    exact numberD_joinAll? h he (hkeys key hkey)
  | none =>
    have hrate : ∀ f : Edge ν, f.protocol = protocol → f.rate = 0 := by
      intro f hf
      rw [rate, hf, hkey]
    rw [hrate e (protocol_joinAll? h he), List.map_congr_left fun f hf => hrate f (h f hf)]
    exact (List.sum_eq_zero (by simp)).symm

/-- A counter is there if one of the edges has it. -/
theorem get?_counter_joinAll? {protocol : Protocol} {fs : List (Edge ν)}
    (h : ∀ f ∈ fs, f.protocol = protocol) (hnumbers : ∀ f ∈ fs, f.HasNumbers) {source : NodeId}
    {e : Edge ν} (he : joinAll? source fs = some e) {key : String}
    (hkey : key ∈ protocol.counters) :
    e.metadata.get? key = Metadata.counterOf (fs.filterMap (·.metadata.number? key)) := by
  cases fs with
  | nil => cases he
  | cons f fs =>
    cases he
    obtain ⟨hf, hfs⟩ := List.forall_mem_cons.mp h
    have hmean : key ∉ Key.mean Key.responseTime := fun hmem =>
      protocol.not_mem_counters key hmem hkey
    have hget : f.metadata.get? key = (f.metadata.number? key).map .number :=
      (hnumbers f List.mem_cons_self).get?_eq (List.mem_cons_of_mem _ (hf ▸ hkey))
    rw [get?_begin_joinAll f fs source hmean, Metadata.get?_sumAll,
      amountsOf_countedAmounts hfs, if_pos hkey, hget, Metadata.numberD, List.filterMap_cons,
      Metadata.counterOf]
    cases f.metadata.number? key with
    | none => simp
    | some x =>
      by_cases hnil : fs.filterMap (·.metadata.number? key) = []
      · simp [hnil]
      · simp [hnil]

/-- Keys that are neither counters nor used by the mean are those of the first edge. -/
theorem get?_joinAll?_of_ne {protocol : Protocol} {fs : List (Edge ν)}
    (h : ∀ f ∈ fs, f.protocol = protocol) {source : NodeId} {e : Edge ν}
    (he : joinAll? source fs = some e) {key : String} (hkey : key ∉ protocol.counters)
    (hmean : key ∉ Key.mean Key.responseTime) :
    e.metadata.get? key = fs.head?.bind (·.metadata.get? key) := by
  cases fs with
  | nil => cases he
  | cons f fs =>
    cases he
    obtain ⟨-, hfs⟩ := List.forall_mem_cons.mp h
    rw [get?_begin_joinAll f fs source hmean, Metadata.get?_sumAll,
      amountsOf_countedAmounts hfs, if_neg hkey]
    rfl

end Edge

/-! ## Response times -/

namespace Edge

variable [ExactQuantity ν]

/-- The first edge begins the mean with its own response time. -/
theorem isMeanOf_begin {e : Edge ν} (h : e.HasNumbers) (source : NodeId) :
    (e.begin source).metadata.IsMeanOf Key.responseTime
      (e.metadata.number? Key.responseTime).toList := by
  show e.metadata.restartResponseTime.IsMeanOf _ _
  unfold Metadata.restartResponseTime
  cases hx : e.metadata.number? Key.responseTime with
  | none => exact Metadata.isMeanOf_nil (h.get?_mean_eq_none hx)
  | some x =>
    refine (Metadata.isMeanOf_nil fun key hkey => ?_).average x
    simp only [Key.mean, List.mem_cons, List.not_mem_nil, or_false] at hkey
    obtain rfl | rfl | rfl := hkey <;> simp

/-- A later edge is taken into the mean if it has a response time. -/
theorem isMeanOf_join {e : Edge ν} {xs : List ν} (h : e.metadata.IsMeanOf Key.responseTime xs)
    (f : Edge ν) : (e.join f).metadata.IsMeanOf Key.responseTime
      (xs ++ (f.metadata.number? Key.responseTime).toList) := by
  have hcounted : (e.metadata.sumAll f.countedAmounts).IsMeanOf Key.responseTime xs := by
    refine h.congr fun key hkey => ?_
    have hamounts :=
      amountsOf_countedAmounts (List.forall_mem_singleton.mpr (Eq.refl f.protocol)) key
    rw [List.flatMap_singleton, if_neg (f.protocol.not_mem_counters key hkey)] at hamounts
    rw [Metadata.get?_sumAll, if_pos hamounts]
  rw [metadata_join]
  cases f.metadata.number? Key.responseTime with
  | none => rwa [Option.toList_none, List.append_nil]
  | some x => exact hcounted.average x

private theorem filterMap_cons_toList {α β : Type} (g : α → Option β) (a : α) (l : List α) :
    (a :: l).filterMap g = (g a).toList ++ l.filterMap g := by
  rw [List.filterMap_eq_flatMap_toList, List.flatMap_cons, List.filterMap_eq_flatMap_toList]

theorem isMeanOf_joinAll {e : Edge ν} {xs : List ν}
    (h : e.metadata.IsMeanOf Key.responseTime xs) (fs : List (Edge ν)) :
    (e.joinAll fs).metadata.IsMeanOf Key.responseTime
      (xs ++ fs.filterMap (·.metadata.number? Key.responseTime)) := by
  induction fs generalizing e xs with
  | nil => rwa [List.filterMap_nil, List.append_nil]
  | cons f fs ih =>
    rw [filterMap_cons_toList, ← List.append_assoc]
    exact ih (isMeanOf_join h f)

/-- **The response time is the mean of those of the edges that are put together.** -/
theorem isMeanOf_joinAll? {fs : List (Edge ν)} (h : ∀ f ∈ fs, f.HasNumbers) {source : NodeId}
    {e : Edge ν} (he : joinAll? source fs = some e) :
    e.metadata.IsMeanOf Key.responseTime
      (fs.filterMap (·.metadata.number? Key.responseTime)) := by
  cases fs with
  | nil => cases he
  | cons f fs =>
    cases he
    rw [filterMap_cons_toList]
    exact isMeanOf_joinAll (isMeanOf_begin (h f List.mem_cons_self) source) fs

/-! ## Both together -/

/-- The edge, which leaves from `source`, is what the parts come to. -/
structure IsJoinOf (e : Edge ν) (source : NodeId) (parts : List (Edge ν)) : Prop where
  source_eq : e.source = source
  /-- A counter and the response time are there if a part has them. -/
  contains_iff : ∀ key ∈ Key.responseTime :: e.protocol.counters,
    e.metadata.contains key = true ↔ ∃ f ∈ parts, f.metadata.contains key = true
  counter_eq : ∀ key ∈ e.protocol.counters, e.metadata.get? key =
    Metadata.counterOf (parts.filterMap (·.metadata.number? key))
  responseTime_eq : e.metadata.get? Key.responseTime =
    Metadata.meanOf (parts.filterMap (·.metadata.number? Key.responseTime))
  /-- All else is as on the first part. -/
  get?_eq : ∀ key ∉ e.protocol.counters, key ∉ Key.mean Key.responseTime →
    e.metadata.get? key = parts.head?.bind (·.metadata.get? key)

/-- **What edges of one protocol are put together to.** -/
theorem isJoinOf_of_joinAll? {protocol : Protocol} {parts : List (Edge ν)}
    (h : ∀ f ∈ parts, f.protocol = protocol) (hnumbers : ∀ f ∈ parts, f.HasNumbers)
    {source : NodeId} {e : Edge ν} (he : joinAll? source parts = some e) :
    e.IsJoinOf source parts := by
  obtain rfl := protocol_joinAll? h he
  have hcounter : ∀ key ∈ e.protocol.counters, e.metadata.get? key =
      Metadata.counterOf (parts.filterMap (·.metadata.number? key)) :=
    fun key hkey => get?_counter_joinAll? h hnumbers he hkey
  have hmean := (isMeanOf_joinAll? hnumbers he).get?_eq
  refine ⟨source_joinAll? he, fun key hkey => ?_, hcounter, hmean, fun key hkey hne =>
    get?_joinAll?_of_ne h he hkey hne⟩
  have hparts : (∃ f ∈ parts, f.metadata.contains key = true) ↔
      parts.filterMap (·.metadata.number? key) ≠ [] := by
    constructor
    · rintro ⟨f, hf, hcontains⟩
      obtain ⟨x, hx⟩ := ((hnumbers f hf).contains_iff (h f hf ▸ hkey)).mp hcontains
      exact List.ne_nil_of_mem (List.mem_filterMap.mpr ⟨f, hf, hx⟩)
    · intro hne
      obtain ⟨x, hx⟩ := List.exists_mem_of_ne_nil _ hne
      obtain ⟨f, hf, hx⟩ := List.mem_filterMap.mp hx
      exact ⟨f, hf, ((hnumbers f hf).contains_iff (h f hf ▸ hkey)).mpr ⟨x, hx⟩⟩
  rw [hparts, SortedMap.contains]
  rcases List.mem_cons.mp hkey with rfl | hkey
  · rw [hmean, Metadata.meanOf]
    split <;> simp_all
  · rw [hcounter key hkey, Metadata.counterOf]
    split <;> simp_all

end Edge

end MeshTraffic
