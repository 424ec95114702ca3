import MeshTraffic.Proofs.WellFormed

/-!
# Consistent maps

In a consistent map every edge leaves from the node that owns it, both its ends are keys of the map,
and no node has two edges to one destination over one protocol. `validate` looks a destination up
among the keys, but compares a source with the id of the node only. So it accepts a map in which a
node with edges stands under another key than its id, and its id is no key.

* `TrafficMap.LeadsWithin`, `TrafficMap.validate_eq_ok_iff_leadsWithin`: what `validate` accepts.
* `TrafficMap.IsConsistent`, `TrafficMap.validate_eq_ok_iff_consistent`: what it misses of a
  consistent map.
* `TrafficMap.not_forall_validate_iff_isConsistent`: it accepts a map that is not consistent.
-/

namespace MeshTraffic.TrafficMap

variable {ν : Type}

/-- Edges leave from the nodes that own them and lead to keys of the map, and no other edge of the
node leads to the same destination over the same protocol. -/
structure LeadsWithin (m : TrafficMap ν) : Prop where
  source_eq : ∀ n ∈ m.nodes, ∀ e ∈ n.edges, e.source = n.id
  dest_mem : ∀ n ∈ m.nodes, ∀ e ∈ n.edges, e.dest ∈ m.keys
  not_parallel : ∀ n ∈ m.nodes,
    n.edges.Pairwise fun e f => ¬ (e.dest = f.dest ∧ e.protocol = f.protocol)

/-- Edges also leave from keys of the map. -/
structure IsConsistent (m : TrafficMap ν) : Prop extends m.LeadsWithin where
  source_mem : ∀ n ∈ m.nodes, ∀ e ∈ n.edges, e.source ∈ m.keys

theorem nodup_targets_iff {n : Node ν} : n.targets.Nodup ↔
    n.edges.Pairwise fun e f => ¬ (e.dest = f.dest ∧ e.protocol = f.protocol) := by
  simp [Node.targets, List.Nodup, List.pairwise_map, Edge.target]

theorem validate_eq_ok_iff_leadsWithin {m : TrafficMap ν} :
    m.validate = .ok () ↔ m.LeadsWithin := by
  rw [validate_eq_ok_iff]
  constructor
  · intro h
    refine ⟨fun n hn => (h n hn).1.source_eq, fun n hn e he => ?_,
      fun n hn => nodup_targets_iff.mp (h n hn).1.nodup_targets⟩
    exact ArrivalMap.mem_keys_iff.mpr ((h n hn).2 e.target (List.mem_map_of_mem he))
  · intro h n hn
    refine ⟨⟨h.source_eq n hn, nodup_targets_iff.mpr (h.not_parallel n hn)⟩, fun t ht => ?_⟩
    obtain ⟨e, he, rfl⟩ := List.mem_map.mp ht
    exact ArrivalMap.mem_keys_iff.mp (h.dest_mem n hn e he)

/-- A source is the id of its node, so the sources are keys exactly if the ids of all nodes that
have edges are. -/
theorem LeadsWithin.isConsistent_iff {m : TrafficMap ν} (h : m.LeadsWithin) :
    m.IsConsistent ↔ ∀ n ∈ m.nodes, n.edges ≠ [] → n.id ∈ m.keys := by
  constructor
  · intro hcons n hn hne
    obtain ⟨e, he⟩ := List.exists_mem_of_ne_nil _ hne
    exact h.source_eq n hn e he ▸ hcons.source_mem n hn e he
  · intro hkeys
    refine ⟨h, fun n hn e he => ?_⟩
    rw [h.source_eq n hn e he]
    exact hkeys n hn (List.ne_nil_of_mem he)

/-- **`validate` accepts exactly the maps whose edges lead within**, and these are consistent
exactly if every node that has edges has its id among the keys. -/
theorem validate_eq_ok_iff_consistent (m : TrafficMap ν) :
    (m.validate = .ok () ↔ m.LeadsWithin) ∧
      (m.IsConsistent ↔
        m.validate = .ok () ∧ ∀ n ∈ m.nodes, n.edges ≠ [] → n.id ∈ m.keys) := by
  refine ⟨validate_eq_ok_iff_leadsWithin, ?_⟩
  rw [validate_eq_ok_iff_leadsWithin]
  constructor
  · intro h
    exact ⟨h.toLeadsWithin, h.toLeadsWithin.isConsistent_iff.mp h⟩
  · rintro ⟨h, hkeys⟩
    exact h.isConsistent_iff.mpr hkeys

/-- Where every node stands under its own id, `validate` misses nothing. -/
theorem validate_eq_ok_iff_isConsistent {m : TrafficMap ν}
    (hid : ∀ {k n}, m.get? k = some n → n.id = k) : m.validate = .ok () ↔ m.IsConsistent := by
  have hkeys : ∀ n ∈ m.nodes, n.edges ≠ [] → n.id ∈ m.keys := by
    intro n hn _
    obtain ⟨k, hk⟩ := mem_nodes_iff.mp hn
    exact hid hk ▸ ArrivalMap.mem_keys_iff.mpr (by simp [hk])
  rw [validate_eq_ok_iff_leadsWithin]
  exact ⟨fun h => h.isConsistent_iff.mpr hkeys, fun h => h.toLeadsWithin⟩

/-! ## A node under another key -/

/-- A workload that calls itself by the key under which it stands. -/
def misplaced : TrafficMap Rat :=
  ArrivalMap.ofList [(⟨"front"⟩,
    { id := ⟨"wl_a_front"⟩, kind := .workload, labels := ⟨"a", "front", "", "", ""⟩
      edges := [{ source := ⟨"wl_a_front"⟩, dest := ⟨"front"⟩, protocol := .http }] })]

/-- **A map may be accepted though an edge leaves from no key.** -/
theorem not_forall_validate_iff_isConsistent :
    ¬ ∀ m : TrafficMap Rat, m.validate = .ok () ↔ m.IsConsistent := by
  intro hall
  have haccepted : misplaced.validate = .ok () := by decide
  have hmem := ((hall misplaced).mp haccepted).source_mem
  revert hmem
  decide

end MeshTraffic.TrafficMap
