import MeshTraffic.Collections.Entries

/-!
# Maps in order of arrival

* `ArrivalMap κ α`: a finite map whose entries stand in the order in which their keys first came.
  A new value for a key that is present keeps the key's place; `erase` keeps the order of the
  others.
* `get?_insert`, `get?_erase`, `get?_mapValues`: one equation for each change, through `get?`.
* `keys_insert`: a key that is present keeps its place, a new one goes to the end.
-/

namespace MeshTraffic

/-- A finite map whose entries stand in the order in which their keys first came. -/
structure ArrivalMap (κ α : Type) where
  /-- Every entry, in order of arrival. -/
  entries : List (κ × α)
  nodup_keys : (entries.map Prod.fst).Nodup

namespace ArrivalMap

open Entries

variable {κ α β : Type}

protected theorem ext {m n : ArrivalMap κ α} (h : m.entries = n.entries) : m = n := by
  cases m; cases n; cases h; rfl

instance [DecidableEq κ] [DecidableEq α] : DecidableEq (ArrivalMap κ α) := fun m n =>
  decidable_of_iff (m.entries = n.entries) ⟨ArrivalMap.ext, fun h => h ▸ rfl⟩

/-- The map without entries. -/
def empty : ArrivalMap κ α := ⟨[], List.nodup_nil⟩

instance : EmptyCollection (ArrivalMap κ α) := ⟨empty⟩
instance : Inhabited (ArrivalMap κ α) := ⟨empty⟩

/-- The keys in order of arrival. -/
def keys (m : ArrivalMap κ α) : List κ := m.entries.map Prod.fst

/-- The values in order of their keys' arrival. -/
def values (m : ArrivalMap κ α) : List α := m.entries.map Prod.snd

/-- The number of entries. -/
def size (m : ArrivalMap κ α) : Nat := m.entries.length

/-- Whether there is no entry. -/
def isEmpty (m : ArrivalMap κ α) : Bool := m.entries.isEmpty

/-- Applies `f` to every key and its value. -/
def mapValues (f : κ → α → β) (m : ArrivalMap κ α) : ArrivalMap κ β :=
  ⟨m.entries.map fun e => (e.1, f e.1 e.2), by
    simpa [List.map_map, Function.comp_def] using m.nodup_keys⟩

@[simp] theorem keys_mapValues (f : κ → α → β) (m : ArrivalMap κ α) :
    (m.mapValues f).keys = m.keys := by
  simp [mapValues, keys, Function.comp_def]

section Lookup

variable [DecidableEq κ]

/-- The value under `k`. -/
def get? (m : ArrivalMap κ α) (k : κ) : Option α := m.entries.lookup k

/-- Whether `k` has a value. -/
def contains (m : ArrivalMap κ α) (k : κ) : Bool := (m.get? k).isSome

/-- Puts `v` in the place of `k`, or at the end. -/
def insertEntry (k : κ) (v : α) : List (κ × α) → List (κ × α)
  | [] => [(k, v)]
  | (k', v') :: rest => if k' = k then (k', v) :: rest else (k', v') :: insertEntry k v rest

theorem map_fst_insertEntry (k : κ) (v : α) (l : List (κ × α)) :
    (insertEntry k v l).map Prod.fst =
      if k ∈ l.map Prod.fst then l.map Prod.fst else l.map Prod.fst ++ [k] := by
  induction l with
  | nil => simp [insertEntry]
  | cons head rest ih =>
    rw [insertEntry]
    split
    · next h => simp [h]
    · next h =>
      rw [List.map_cons, ih]
      have hne : ¬ k = head.1 := fun e => h e.symm
      by_cases hk : k ∈ rest.map Prod.fst
      · simp only [hk, ↓reduceIte, List.map_cons, List.mem_cons, or_true]
      · simp [hk, hne]

theorem nodup_insertEntry (k : κ) (v : α) {l : List (κ × α)} (h : (l.map Prod.fst).Nodup) :
    ((insertEntry k v l).map Prod.fst).Nodup := by
  rw [map_fst_insertEntry]
  split
  · exact h
  · next hk =>
    refine List.nodup_append.mpr ⟨h, by simp, fun a ha b hb => ?_⟩
    rw [List.mem_singleton.mp hb]
    exact fun e => hk (e ▸ ha)

/-- The map with `v` under `k`, in the place of an earlier value or else at the end. -/
def insert (m : ArrivalMap κ α) (k : κ) (v : α) : ArrivalMap κ α :=
  ⟨insertEntry k v m.entries, nodup_insertEntry k v m.nodup_keys⟩

/-- The map without `k`; the others keep their order. -/
def erase (m : ArrivalMap κ α) (k : κ) : ArrivalMap κ α :=
  ⟨m.entries.filter fun e => e.1 != k,
    m.nodup_keys.sublist (List.filter_sublist.map Prod.fst)⟩

/-- The map of a list of entries: a key stands where it first came, with its last value. -/
def ofList (l : List (κ × α)) : ArrivalMap κ α :=
  l.foldl (fun m e => m.insert e.1 e.2) empty

/-- Applies `f` to the value under `k`, if there is one. -/
def modify (m : ArrivalMap κ α) (k : κ) (f : α → α) : ArrivalMap κ α :=
  m.mapValues fun k' v => if k' = k then f v else v

/-- Whether both maps hold the same keys with equal values, in any order. -/
def sameContents [BEq α] (m n : ArrivalMap κ α) : Bool :=
  m.size == n.size && m.entries.all fun e =>
    match n.get? e.1 with
    | some v => e.2 == v
    | none => false

/-! ## What each operation does to `get?` and `keys` -/

@[simp] theorem get?_empty (k : κ) : (empty : ArrivalMap κ α).get? k = none := rfl

theorem lookup_insertEntry (k k' : κ) (v : α) (l : List (κ × α)) :
    (insertEntry k v l).lookup k' = if k' = k then some v else l.lookup k' := by
  induction l with
  | nil => exact lookup_cons_ite k' (k, v) []
  | cons head rest ih =>
    rw [insertEntry]
    split
    · next h =>
      rw [lookup_cons_ite, lookup_cons_ite]
      by_cases hk : k' = k <;> simp [hk, h]
    · next h =>
      rw [lookup_cons_ite, ih, lookup_cons_ite]
      by_cases hk : k' = head.1
      · simp [hk, h]
      · simp [hk]

@[simp] theorem get?_insert (m : ArrivalMap κ α) (k k' : κ) (v : α) :
    (m.insert k v).get? k' = if k' = k then some v else m.get? k' :=
  lookup_insertEntry k k' v m.entries

theorem keys_insert (m : ArrivalMap κ α) (k : κ) (v : α) :
    (m.insert k v).keys = if k ∈ m.keys then m.keys else m.keys ++ [k] :=
  map_fst_insertEntry k v m.entries

@[simp] theorem get?_erase (m : ArrivalMap κ α) (k k' : κ) :
    (m.erase k).get? k' = if k' = k then none else m.get? k' :=
  lookup_filter_ne k k' m.entries

@[simp] theorem get?_mapValues (f : κ → α → β) (m : ArrivalMap κ α) (k : κ) :
    (m.mapValues f).get? k = (m.get? k).map (f k) :=
  lookup_mapValues f k m.entries

@[simp] theorem get?_modify (m : ArrivalMap κ α) (k k' : κ) (f : α → α) :
    (m.modify k f).get? k' = if k' = k then (m.get? k').map f else m.get? k' := by
  rw [modify, get?_mapValues]
  by_cases h : k' = k <;> simp [h]

@[simp] theorem keys_modify (m : ArrivalMap κ α) (k : κ) (f : α → α) :
    (m.modify k f).keys = m.keys := keys_mapValues _ m

theorem mem_keys_iff {m : ArrivalMap κ α} {k : κ} : k ∈ m.keys ↔ (m.get? k).isSome :=
  (lookup_isSome_iff k m.entries).symm

end Lookup

end ArrivalMap

end MeshTraffic
