/-!
# Look-up in a list of entries

Both kinds of map keep a list of entries and look a key up in it. `lookup_cons_ite` says what one
entry does; `lookup_filter_ne` and `lookup_mapValues` what leaving a key out and changing the values
do. `lookup_filter_of_forall`: the entries of other keys do not matter. `lookup_isSome_iff`: a key
is found exactly if it is listed.
-/

namespace MeshTraffic.Entries

variable {κ α β : Type} [DecidableEq κ]

theorem lookup_cons_ite (k : κ) (e : κ × α) (l : List (κ × α)) :
    (e :: l).lookup k = if k = e.1 then some e.2 else l.lookup k := by
  obtain ⟨k', v⟩ := e
  rw [List.lookup_cons]
  by_cases h : k = k'
  · simp [h]
  · simp [beq_eq_false_iff_ne.mpr h, h]

theorem lookup_filter_ne (k k' : κ) (l : List (κ × α)) :
    (l.filter fun e => e.1 != k).lookup k' = if k' = k then none else l.lookup k' := by
  induction l with
  | nil => simp
  | cons e l ih =>
    by_cases h : e.1 = k
    · rw [List.filter_cons_of_neg (by simp [h]), ih, lookup_cons_ite]
      by_cases hk : k' = k <;> simp [hk, h]
    · rw [List.filter_cons_of_pos (by simp [h]), lookup_cons_ite, ih, lookup_cons_ite]
      by_cases hk : k' = e.1 <;> simp [hk, h]

/-- Leaving out entries of other keys changes nothing under a key. -/
theorem lookup_filter_of_forall {p : κ × α → Bool} {k : κ} {l : List (κ × α)}
    (h : ∀ e ∈ l, e.1 = k → p e = true) : (l.filter p).lookup k = l.lookup k := by
  induction l with
  | nil => rfl
  | cons e l ih =>
    obtain ⟨he, hl⟩ := List.forall_mem_cons.mp h
    rw [List.filter_cons, lookup_cons_ite, ← ih hl]
    by_cases hp : p e = true
    · rw [if_pos hp, lookup_cons_ite]
    · have hk : ¬ k = e.1 := fun hk => hp (he hk.symm)
      rw [if_neg hp, if_neg hk]

theorem lookup_mapValues (f : κ → α → β) (k : κ) (l : List (κ × α)) :
    (l.map fun e => (e.1, f e.1 e.2)).lookup k = (l.lookup k).map (f k) := by
  induction l with
  | nil => rfl
  | cons e l ih =>
    rw [List.map_cons, lookup_cons_ite, lookup_cons_ite, ih]
    by_cases hk : k = e.1 <;> simp [hk]

theorem lookup_isSome_iff (k : κ) (l : List (κ × α)) :
    (l.lookup k).isSome = true ↔ k ∈ l.map Prod.fst := by
  induction l with
  | nil => simp
  | cons e l ih =>
    rw [lookup_cons_ite, List.map_cons, List.mem_cons, ← ih]
    by_cases hk : k = e.1 <;> simp [hk]

end MeshTraffic.Entries
