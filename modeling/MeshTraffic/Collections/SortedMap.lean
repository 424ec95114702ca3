import MeshTraffic.Collections.Entries

/-!
# Maps and sets of strings in ascending order

* `SortedMap α`: a finite map from strings, kept as a list of entries with strictly ascending
  keys. The order is that of the characters' code points, which is also the order of the UTF-8
  bytes.
* `SortedMap.ext_get?`: two maps that answer every `get?` alike are equal, so equality of maps is
  equality of their contents.
* `get?_insert`, `get?_erase`: one equation for each change, through `get?`.
* `NameSet`: a finite set of strings.
-/

namespace MeshTraffic

/-- A finite map from strings whose entries stand in ascending order of their keys. -/
structure SortedMap (α : Type) where
  /-- Every entry, in ascending order of the keys. -/
  entries : List (String × α)
  ascending : entries.Pairwise fun a b => a.1 < b.1

namespace SortedMap

open Entries

variable {α β : Type}

protected theorem ext {m n : SortedMap α} (h : m.entries = n.entries) : m = n := by
  cases m; cases n; cases h; rfl

instance [DecidableEq α] : DecidableEq (SortedMap α) := fun m n =>
  decidable_of_iff (m.entries = n.entries) ⟨SortedMap.ext, fun h => h ▸ rfl⟩

instance [BEq α] : BEq (SortedMap α) := ⟨fun m n => m.entries == n.entries⟩

/-- The map without entries. -/
def empty : SortedMap α := ⟨[], List.Pairwise.nil⟩

instance : EmptyCollection (SortedMap α) := ⟨empty⟩
instance : Inhabited (SortedMap α) := ⟨empty⟩

/-- The value under `k`. -/
def get? (m : SortedMap α) (k : String) : Option α := m.entries.lookup k

/-- Whether `k` has a value. -/
def contains (m : SortedMap α) (k : String) : Bool := (m.get? k).isSome

/-- The keys, ascending. -/
def keys (m : SortedMap α) : List String := m.entries.map Prod.fst

/-- The number of entries. -/
def size (m : SortedMap α) : Nat := m.entries.length

/-- Whether there is no entry. -/
def isEmpty (m : SortedMap α) : Bool := m.entries.isEmpty

/-! ## Insertion -/

/-- Puts `k` before the first greater key, in place of an equal one. -/
def insertEntry (k : String) (v : α) : List (String × α) → List (String × α)
  | [] => [(k, v)]
  | (k', v') :: rest =>
    if k < k' then (k, v) :: (k', v') :: rest
    else if k = k' then (k, v) :: rest
    else (k', v') :: insertEntry k v rest

private theorem lt_of_not_lt_of_ne {a b : String} (h : ¬ a < b) (hne : ¬ a = b) : b < a :=
  String.not_le.mp fun hle => hne (String.le_antisymm hle (String.not_lt.mp h))

theorem mem_insertEntry {k : String} {v : α} {e : String × α} {l : List (String × α)}
    (h : e ∈ insertEntry k v l) : e = (k, v) ∨ e ∈ l := by
  induction l with
  | nil => simpa [insertEntry] using h
  | cons head rest ih =>
    rw [insertEntry] at h
    split at h
    · simpa using h
    · split at h <;> grind

theorem pairwise_insertEntry (k : String) (v : α) {l : List (String × α)}
    (h : l.Pairwise fun a b => a.1 < b.1) :
    (insertEntry k v l).Pairwise fun a b => a.1 < b.1 := by
  induction l with
  | nil => simp [insertEntry]
  | cons head rest ih =>
    obtain ⟨hhead, hrest⟩ := List.pairwise_cons.mp h
    rw [insertEntry]
    split
    · next hlt =>
      refine List.pairwise_cons.mpr ⟨fun e he => ?_, h⟩
      rcases List.mem_cons.mp he with rfl | he
      · exact hlt
      · exact String.lt_trans hlt (hhead e he)
    · next hlt =>
      split
      · next heq => exact List.pairwise_cons.mpr ⟨fun e he => heq ▸ hhead e he, hrest⟩
      · next hne =>
        refine List.pairwise_cons.mpr ⟨fun e he => ?_, ih hrest⟩
        rcases mem_insertEntry he with rfl | he
        · exact lt_of_not_lt_of_ne hlt hne
        · exact hhead e he

/-- The map with `v` under `k`, in place of an earlier value. -/
def insert (m : SortedMap α) (k : String) (v : α) : SortedMap α :=
  ⟨insertEntry k v m.entries, pairwise_insertEntry k v m.ascending⟩

/-- The map without a value under `k`. -/
def erase (m : SortedMap α) (k : String) : SortedMap α :=
  ⟨m.entries.filter fun e => e.1 != k, m.ascending.sublist List.filter_sublist⟩

/-- The map of a list of entries; of several values for one key the last stays. -/
def ofList (l : List (String × α)) : SortedMap α :=
  l.foldl (fun m e => m.insert e.1 e.2) empty

/-- Applies `f` to every value. -/
def mapValues (f : α → β) (m : SortedMap α) : SortedMap β :=
  ⟨m.entries.map fun e => (e.1, f e.2), List.pairwise_map.mpr m.ascending⟩

/-! ## What each operation does to `get?` -/

@[simp] theorem get?_empty (k : String) : (empty : SortedMap α).get? k = none := rfl

theorem lookup_insertEntry (k k' : String) (v : α) (l : List (String × α)) :
    (insertEntry k v l).lookup k' = if k' = k then some v else l.lookup k' := by
  induction l with
  | nil => exact lookup_cons_ite k' (k, v) []
  | cons head rest ih =>
    rw [insertEntry]
    split
    · exact lookup_cons_ite k' (k, v) _
    · split
      · next heq =>
        rw [lookup_cons_ite, lookup_cons_ite]
        by_cases hk : k' = k <;> simp [hk, ← heq]
      · next hne =>
        rw [lookup_cons_ite, ih, lookup_cons_ite]
        by_cases hk : k' = head.1
        · simp [hk, Ne.symm hne]
        · simp [hk]

@[simp] theorem get?_insert (m : SortedMap α) (k k' : String) (v : α) :
    (m.insert k v).get? k' = if k' = k then some v else m.get? k' :=
  lookup_insertEntry k k' v m.entries

@[simp] theorem get?_erase (m : SortedMap α) (k k' : String) :
    (m.erase k).get? k' = if k' = k then none else m.get? k' :=
  lookup_filter_ne k k' m.entries

theorem lookup_eq_none_of_lt {k : String} {l : List (String × α)} (h : ∀ e ∈ l, k < e.1) :
    l.lookup k = none := by
  induction l with
  | nil => rfl
  | cons head rest ih =>
    have hne : ¬ k = head.1 := fun heq => String.lt_irrefl k (heq ▸ h head (by simp))
    rw [lookup_cons_ite, if_neg hne]
    exact ih fun e he => h e (by simp [he])

private theorem entries_ext {l₁ l₂ : List (String × α)}
    (h₁ : l₁.Pairwise fun a b => a.1 < b.1) (h₂ : l₂.Pairwise fun a b => a.1 < b.1)
    (h : ∀ k, l₁.lookup k = l₂.lookup k) : l₁ = l₂ := by
  induction l₁ generalizing l₂ with
  | nil =>
    cases l₂ with
    | nil => rfl
    | cons e rest => simpa [lookup_cons_ite] using h e.1
  | cons a r₁ ih =>
    cases l₂ with
    | nil => simpa [lookup_cons_ite] using h a.1
    | cons b r₂ =>
      obtain ⟨ha, hr₁⟩ := List.pairwise_cons.mp h₁
      obtain ⟨hb, hr₂⟩ := List.pairwise_cons.mp h₂
      have hab : ¬ a.1 < b.1 := fun hlt => by
        have := h a.1
        rw [lookup_eq_none_of_lt (l := b :: r₂)] at this
        · simp [lookup_cons_ite] at this
        · intro e he
          rcases List.mem_cons.mp he with rfl | he
          · exact hlt
          · exact String.lt_trans hlt (hb e he)
      have hba : ¬ b.1 < a.1 := fun hlt => by
        have := h b.1
        rw [lookup_eq_none_of_lt (l := a :: r₁)] at this
        · simp [lookup_cons_ite] at this
        · intro e he
          rcases List.mem_cons.mp he with rfl | he
          · exact hlt
          · exact String.lt_trans hlt (ha e he)
      have hkey : a.1 = b.1 :=
        String.le_antisymm (String.not_lt.mp hba) (String.not_lt.mp hab)
      have hval : a.2 = b.2 := by simpa [lookup_cons_ite, hkey] using h a.1
      have heq : a = b := Prod.ext hkey hval
      subst heq
      refine congrArg (a :: ·) (ih hr₁ hr₂ fun k => ?_)
      by_cases hk : k = a.1
      · rw [hk, lookup_eq_none_of_lt ha, lookup_eq_none_of_lt hb]
      · simpa [lookup_cons_ite, hk] using h k

/-- **A map is its contents.** -/
theorem ext_get? {m n : SortedMap α} (h : ∀ k, m.get? k = n.get? k) : m = n :=
  SortedMap.ext (entries_ext m.ascending n.ascending h)

end SortedMap

/-! ## Sets of names -/

/-- A finite set of strings, listed in ascending order. -/
abbrev NameSet := SortedMap Unit

namespace NameSet

/-- The set with `s` in it. -/
def add (names : NameSet) (s : String) : NameSet := names.insert s ()

/-- The members of a list. -/
def ofNames (l : List String) : NameSet := l.foldl add SortedMap.empty

/-- The members, ascending. -/
def toNames (names : NameSet) : List String := SortedMap.keys names

instance : Membership String NameSet := ⟨fun names s => SortedMap.contains names s = true⟩

instance (s : String) (names : NameSet) : Decidable (s ∈ names) :=
  inferInstanceAs (Decidable (_ = true))

theorem mem_add {names : NameSet} {s t : String} : t ∈ names.add s ↔ t = s ∨ t ∈ names := by
  show ((names.insert s ()).get? t).isSome = true ↔ t = s ∨ (names.get? t).isSome = true
  rw [SortedMap.get?_insert]
  by_cases h : t = s <;> simp [h]

end NameSet

end MeshTraffic
