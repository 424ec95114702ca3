import MeshTraffic.Proofs.Arrival

/-!
# Reading sorted maps

* `SortedMap.mem_entries_iff`: an entry is listed exactly if it is found under its key.
* `SortedMap.ofList_entries`, `NameSet.ofNames_toNames`: a map is the map of its entries, and a set
  the set of its members.
* `SortedMap.mem_of_mem_ofList`, `SortedMap.get?_ofList`: what the map of a list holds.
-/

namespace MeshTraffic

namespace SortedMap

open Entries

variable {α : Type}

theorem nodup_keys (m : SortedMap α) : (m.entries.map Prod.fst).Nodup := by
  rw [List.Nodup, List.pairwise_map]
  refine m.ascending.imp ?_
  rintro a b hlt heq
  exact String.lt_irrefl b.1 (heq ▸ hlt)

theorem mem_entries_iff {m : SortedMap α} {k : String} {v : α} :
    (k, v) ∈ m.entries ↔ m.get? k = some v :=
  ⟨lookup_of_mem m.nodup_keys, mem_of_lookup⟩

/-- A key that is greater than all others goes to the end. -/
theorem insertEntry_of_forall_lt {k : String} {v : α} {l : List (String × α)}
    (h : ∀ e ∈ l, e.1 < k) : insertEntry k v l = l ++ [(k, v)] := by
  induction l with
  | nil => rfl
  | cons e l ih =>
    obtain ⟨he, hl⟩ := List.forall_mem_cons.mp h
    have hnlt : ¬ k < e.1 := fun hlt => String.lt_irrefl k (String.lt_trans hlt he)
    have hne : ¬ k = e.1 := fun heq => String.lt_irrefl k (heq ▸ he)
    rw [insertEntry, if_neg hnlt, if_neg hne, ih hl, List.cons_append]

private theorem entries_foldl_insert {l : List (String × α)} {m : SortedMap α}
    (h : (m.entries ++ l).Pairwise fun a b => a.1 < b.1) :
    (l.foldl (fun m e => m.insert e.1 e.2) m).entries = m.entries ++ l := by
  induction l generalizing m with
  | nil => simp
  | cons e l ih =>
    have hlast : (m.insert e.1 e.2).entries = m.entries ++ [e] :=
      insertEntry_of_forall_lt fun a ha => (List.pairwise_append.mp h).2.2 a ha e (by simp)
    rw [List.foldl_cons, ih (by simpa [hlast] using h), hlast]
    simp

/-- A map is the map of its entries. -/
@[simp] theorem ofList_entries (m : SortedMap α) : ofList m.entries = m :=
  SortedMap.ext (entries_foldl_insert (m := empty) m.ascending)

/-- Nothing comes into the map of a list from elsewhere. -/
theorem mem_of_mem_ofList {l : List (String × α)} {e : String × α}
    (h : e ∈ (ofList l).entries) : e ∈ l :=
  (mem_of_mem_foldl (fun m _ _ he => mem_insertEntry (l := m.entries) he) h).resolve_left (by
    rintro ⟨⟩)

private theorem get?_foldl_insert {l : List (String × α)} (h : (l.map Prod.fst).Nodup)
    (m : SortedMap α) (k : String) :
    (l.foldl (fun m e => m.insert e.1 e.2) m).get? k = (l.lookup k).or (m.get? k) := by
  induction l generalizing m with
  | nil => simp
  | cons e l ih =>
    obtain ⟨he, hl⟩ := List.nodup_cons.mp h
    rw [List.foldl_cons, ih hl, get?_insert, lookup_cons_ite]
    by_cases hk : k = e.1
    · have hnone : l.lookup k = none := by
        rw [← Option.not_isSome_iff_eq_none, lookup_isSome_iff]
        exact hk ▸ he
      simp [hk ▸ hnone, hk]
    · simp [hk]

/-- Where no key comes again, the map of a list holds what the list does. -/
theorem get?_ofList {l : List (String × α)} (h : (l.map Prod.fst).Nodup) (k : String) :
    (ofList l).get? k = l.lookup k := by
  rw [ofList, get?_foldl_insert h, get?_empty, Option.or_none]

@[simp] theorem get?_mapValues {β : Type} (f : α → β) (m : SortedMap α) (k : String) :
    (m.mapValues f).get? k = (m.get? k).map f :=
  lookup_mapValues (fun _ => f) k m.entries

end SortedMap

/-- A set is the set of its members. -/
@[simp] theorem NameSet.ofNames_toNames (s : NameSet) : ofNames s.toNames = s := by
  have hentries : s.toNames.map (fun k => (k, ())) = SortedMap.entries s := by
    rw [toNames, SortedMap.keys, List.map_map]
    exact List.map_id _
  calc ofNames s.toNames = SortedMap.ofList (s.toNames.map fun k => (k, ())) := by
        rw [SortedMap.ofList, List.foldl_map]
        rfl
    _ = s := by rw [hentries, SortedMap.ofList_entries]

end MeshTraffic
