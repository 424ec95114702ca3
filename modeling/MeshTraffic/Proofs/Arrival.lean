import MeshTraffic.TrafficMap

/-!
# Reading arrival maps

* `ArrivalMap.mem_entries_iff`, `ArrivalMap.mem_values_iff`: an entry, a value is listed exactly if
  it is found under a key.
* `ArrivalMap.contains_iff`, `ArrivalMap.contains_insert`: when a key has a value.
* `ArrivalMap.insert_of_get?`: what stands under a key already may be put there again.
* `ArrivalMap.entries_ofList`, `ArrivalMap.ofList_entries`, `ArrivalMap.mem_of_mem_ofList`: maps of
  lists, and a map as the map of its entries.
* `TrafficMap.entries_ofNodes`: the map of nodes with different ids lists them as they come.
-/

namespace MeshTraffic

namespace Entries

variable {κ α : Type} [DecidableEq κ]

theorem mem_of_lookup {k : κ} {v : α} {l : List (κ × α)} (h : l.lookup k = some v) :
    (k, v) ∈ l := by
  obtain ⟨l₁, l₂, rfl, -⟩ := List.lookup_eq_some_iff.mp h
  simp

theorem lookup_of_mem {k : κ} {v : α} {l : List (κ × α)} (hd : (l.map Prod.fst).Nodup)
    (h : (k, v) ∈ l) : l.lookup k = some v := by
  induction l with
  | nil => simp at h
  | cons e l ih =>
    obtain ⟨k', v'⟩ := e
    rw [List.map_cons, List.nodup_cons] at hd
    rw [lookup_cons_ite]
    rcases List.mem_cons.mp h with heq | hmem
    · cases heq
      simp
    · have hne : k ≠ k' := fun hk => hd.1 (List.mem_map.mpr ⟨_, hmem, hk⟩)
      simpa [hne] using ih hd.2 hmem

/-- What puts in one entry at a time, and nothing else, puts in the entries of the list. -/
theorem mem_of_mem_foldl {σ ε : Type} {entries : σ → List ε} {put : σ → ε → σ}
    (hput : ∀ s a, ∀ e ∈ entries (put s a), e = a ∨ e ∈ entries s) {l : List ε} {s : σ} {e : ε}
    (h : e ∈ entries (l.foldl put s)) : e ∈ entries s ∨ e ∈ l := by
  induction l generalizing s with
  | nil => exact .inl h
  | cons a l ih =>
    rcases ih h with hs | hl
    · rcases hput s a e hs with rfl | hs
      · exact .inr (by simp)
      · exact .inl hs
    · exact .inr (by simp [hl])

end Entries

namespace ArrivalMap

open Entries

variable {κ α : Type} [DecidableEq κ] {m : ArrivalMap κ α}

theorem mem_entries_iff {k : κ} {v : α} : (k, v) ∈ m.entries ↔ m.get? k = some v :=
  ⟨lookup_of_mem m.nodup_keys, mem_of_lookup⟩

theorem mem_values_iff {v : α} : v ∈ m.values ↔ ∃ k, m.get? k = some v := by
  simp [values, ← mem_entries_iff]

theorem contains_iff {k : κ} : m.contains k = true ↔ ∃ v, m.get? k = some v := by
  rw [contains, Option.isSome_iff_exists]

theorem contains_of_get? {k : κ} {v : α} (h : m.get? k = some v) : m.contains k = true :=
  contains_iff.mpr ⟨v, h⟩

theorem contains_insert {k k' : κ} {v : α} :
    (m.insert k v).contains k' = true ↔ k' = k ∨ m.contains k' = true := by
  rw [contains, get?_insert]
  by_cases h : k' = k <;> simp [h, contains]

/-- A key that is not there yet goes to the end. -/
theorem entries_insert_of_not_mem {k : κ} (h : k ∉ m.keys) (v : α) :
    (m.insert k v).entries = m.entries ++ [(k, v)] := by
  show insertEntry k v m.entries = _
  have hk : k ∉ m.entries.map Prod.fst := h
  generalize m.entries = l at hk
  induction l with
  | nil => rfl
  | cons e l ih =>
    simp only [List.map_cons, List.mem_cons, not_or] at hk
    rw [insertEntry, if_neg (Ne.symm hk.1), ih hk.2]
    rfl

/-- A value that stands under the key already changes nothing. -/
theorem insert_of_get? {k : κ} {v : α} (h : m.get? k = some v) : m.insert k v = m := by
  refine ArrivalMap.ext ?_
  show insertEntry k v m.entries = m.entries
  have hk : m.entries.lookup k = some v := h
  generalize m.entries = l at hk
  induction l with
  | nil => cases hk
  | cons e l ih =>
    obtain ⟨k', v'⟩ := e
    rw [lookup_cons_ite] at hk
    rw [insertEntry]
    by_cases heq : k' = k
    · rw [if_pos heq.symm] at hk
      cases hk
      rw [if_pos heq]
    · rw [if_neg (Ne.symm heq)] at hk
      rw [if_neg heq, ih hk]

private theorem entries_foldl_insert {l : List (κ × α)} {m : ArrivalMap κ α}
    (h : (m.keys ++ l.map Prod.fst).Nodup) :
    (l.foldl (fun m e => m.insert e.1 e.2) m).entries = m.entries ++ l := by
  induction l generalizing m with
  | nil => simp
  | cons e l ih =>
    have he : e.1 ∉ m.keys := fun hmem =>
      (List.nodup_append.mp h).2.2 _ hmem _ (by simp) rfl
    have hlast := entries_insert_of_not_mem he e.2
    have hkeys : (m.insert e.1 e.2).keys = m.keys ++ [e.1] := by
      rw [keys, hlast]
      simp [keys]
    rw [List.foldl_cons, ih (by rw [hkeys]; simpa using h), hlast]
    simp

/-- The map of entries with different keys lists them as they come. -/
theorem entries_ofList {l : List (κ × α)} (h : (l.map Prod.fst).Nodup) :
    (ofList l).entries = l :=
  entries_foldl_insert (m := empty) h

/-- A map is the map of its entries. -/
@[simp] theorem ofList_entries (m : ArrivalMap κ α) : ofList m.entries = m :=
  ArrivalMap.ext (entries_ofList m.nodup_keys)

theorem mem_insertEntry {k : κ} {v : α} {e : κ × α} {l : List (κ × α)}
    (h : e ∈ insertEntry k v l) : e = (k, v) ∨ e ∈ l := by
  induction l with
  | nil => simpa [insertEntry] using h
  | cons a l ih =>
    rw [insertEntry] at h
    split at h
    · next heq =>
      subst heq
      rcases List.mem_cons.mp h with rfl | hl
      · exact .inl rfl
      · exact .inr (by simp [hl])
    · rcases List.mem_cons.mp h with rfl | hl
      · exact .inr (by simp)
      · exact (ih hl).imp_right fun hmem => by simp [hmem]

/-- Nothing comes into the map of a list from elsewhere. -/
theorem mem_of_mem_ofList {l : List (κ × α)} {e : κ × α} (h : e ∈ (ofList l).entries) : e ∈ l :=
  (mem_of_mem_foldl (fun m _ _ he => mem_insertEntry (l := m.entries) he) h).resolve_left (by
    rintro ⟨⟩)

end ArrivalMap

namespace TrafficMap

variable {ν : Type}

theorem mem_nodes_iff {m : TrafficMap ν} {n : Node ν} : n ∈ m.nodes ↔ ∃ k, m.get? k = some n :=
  ArrivalMap.mem_values_iff

/-- Where every node stands under its own id, the ids are the keys. -/
theorem map_id_nodes {m : TrafficMap ν} (h : ∀ {k n}, m.get? k = some n → n.id = k) :
    m.nodes.map Node.id = m.keys := by
  unfold nodes ArrivalMap.values ArrivalMap.keys
  rw [List.map_map]
  exact List.map_congr_left fun e he => h (ArrivalMap.mem_entries_iff.mp he)

/-- Where every node stands under its own id, the entries are the nodes by id. -/
theorem entries_eq_map_nodes {m : TrafficMap ν} (h : ∀ {k n}, m.get? k = some n → n.id = k) :
    m.entries = m.nodes.map fun n => (n.id, n) := by
  rw [nodes, ArrivalMap.values, List.map_map]
  refine (List.map_id' _).symm.trans (List.map_congr_left fun e he => ?_)
  exact Prod.ext (h (ArrivalMap.mem_entries_iff.mp he)).symm rfl

/-- **The map of nodes with different ids lists them as they come**, each under its id. -/
theorem entries_ofNodes {l : List (Node ν)} (h : (l.map Node.id).Nodup) :
    (ofNodes l).entries = l.map fun n => (n.id, n) := by
  have hlist : ofNodes l = ArrivalMap.ofList (l.map fun n => (n.id, n)) := by
    rw [ArrivalMap.ofList, List.foldl_map]
    rfl
  rw [hlist]
  exact ArrivalMap.entries_ofList (by simpa [Function.comp_def] using h)

theorem nodes_ofNodes {l : List (Node ν)} (h : (l.map Node.id).Nodup) : (ofNodes l).nodes = l := by
  rw [nodes, ArrivalMap.values, entries_ofNodes h, List.map_map]
  exact List.map_id l

theorem get?_ofNodes_iff {l : List (Node ν)} (h : (l.map Node.id).Nodup) {k : NodeId}
    {n : Node ν} : (ofNodes l).get? k = some n ↔ n ∈ l ∧ n.id = k := by
  rw [← ArrivalMap.mem_entries_iff, entries_ofNodes h, List.mem_map]
  constructor
  · rintro ⟨n', hmem, heq⟩
    cases heq
    exact ⟨hmem, rfl⟩
  · rintro ⟨hmem, rfl⟩
    exact ⟨n, hmem, rfl⟩

end TrafficMap

end MeshTraffic
