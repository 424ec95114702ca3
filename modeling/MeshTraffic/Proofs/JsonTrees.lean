import Mathlib.Data.List.Forall2
import MeshTraffic.Collections.Entries
import MeshTraffic.Json.Tree

/-!
# Trees without repeated fields

* `Json.isTree`: all numbers are finite, all strings readable, and no object has a field twice.
* `Json.depth`, `Json.isSound_iff`: such a tree is sound exactly up to its depth.
* `Json.exists_record?_object`: a record is read from an object name by name.
* `Json.same_iff`: documents are compared node by node.
-/

namespace MeshTraffic

variable {ν α β : Type}

theorem mapM_eq_some_iff {f : α → Option β} {l : List α} {bs : List β} :
    l.mapM f = some bs ↔ List.Forall₂ (fun a b => f a = some b) l bs := by
  induction l generalizing bs with
  | nil => simp [eq_comm]
  | cons a l ih =>
    simp only [List.mapM_cons, List.forall₂_cons_left_iff, bind, Option.bind_eq_some_iff, pure,
      Option.some.injEq, ih]
    constructor
    · rintro ⟨b, hb, bs', hbs, rfl⟩
      exact ⟨b, bs', hb, hbs, rfl⟩
    · rintro ⟨b, bs', hb, hbs, rfl⟩
      exact ⟨b, hb, bs', hbs, rfl⟩

namespace Json

/-- A record is read from an object without repeated fields, and its fields are those there. -/
theorem exists_record?_object (fields : List (String × Json ν)) (h : (fields.map Prod.fst).Nodup)
    (names : List String) : ∃ f, record? names (object fields) = some f ∧
      ∀ name ∈ names, f.present.lookup name = fields.lookup name := by
  refine ⟨⟨fields.filter fun e => names.contains e.1⟩, ?_, fun name hname => ?_⟩
  · exact if_pos (h.sublist (List.filter_sublist.map _))
  · refine Entries.lookup_filter_of_forall fun e _ he => ?_
    rw [he]
    exact List.contains_iff_mem.mpr hname

/-! ## Depth -/

mutual

/-- How many arrays and objects stand in one another. -/
def depth : Json ν → Nat
  | array items => itemsDepth items + 1
  | object fields => fieldsDepth fields + 1
  | _ => 0

/-- The greatest `depth` of an item. -/
def itemsDepth : List (Json ν) → Nat
  | [] => 0
  | j :: rest => max (depth j) (itemsDepth rest)

/-- The greatest `depth` of a field. -/
def fieldsDepth : List (String × Json ν) → Nat
  | [] => 0
  | (_, j) :: rest => max (depth j) (fieldsDepth rest)

end

section Trees

variable [Quantity ν]

mutual

/-- Whether all numbers are finite, all strings readable, and no object has a field twice. -/
def isTree : Json ν → Bool
  | null | bool _ | string _ => true
  | number x _ => Quantity.isFinite x
  | array items => areTrees items
  | object fields => decide (fields.map Prod.fst).Nodup && areTreeFields fields
  | unreadable => false

/-- `isTree` of every item. -/
def areTrees : List (Json ν) → Bool
  | [] => true
  | j :: rest => isTree j && areTrees rest

/-- `isTree` of every field. -/
def areTreeFields : List (String × Json ν) → Bool
  | [] => true
  | (_, j) :: rest => isTree j && areTreeFields rest

end

theorem areTrees_iff {items : List (Json ν)} : areTrees items = true ↔ ∀ j ∈ items, j.isTree := by
  induction items with
  | nil => simp [areTrees]
  | cons j rest ih => simp [areTrees, ih]

theorem areTreeFields_iff {fields : List (String × Json ν)} :
    areTreeFields fields = true ↔ ∀ e ∈ fields, e.2.isTree := by
  induction fields with
  | nil => simp [areTreeFields]
  | cons e rest ih => simp [areTreeFields, ih]

theorem isTree_array {items : List (Json ν)} :
    (array items).isTree = true ↔ ∀ j ∈ items, j.isTree := by
  rw [isTree, areTrees_iff]

theorem isTree_object {fields : List (String × Json ν)} :
    (object fields).isTree = true ↔
      (fields.map Prod.fst).Nodup ∧ ∀ e ∈ fields, e.2.isTree := by
  rw [isTree, Bool.and_eq_true, decide_eq_true_iff, areTreeFields_iff]

mutual

/-- A tree is sound exactly up to its depth. -/
theorem isSound_iff (d : Nat) : (j : Json ν) → j.isTree → (isSound d j = true ↔ depth j ≤ d)
  | null, _ | bool _, _ | string _, _ => by simp [isSound, depth]
  | number x whole, h => by simpa [isSound, depth, isTree] using h
  | array items, h => by
    have hitems := areSound_iff (d - 1) items (by simpa [isTree] using h)
    simp only [isSound, depth, Bool.and_eq_true, bne_iff_ne, hitems]
    omega
  | object fields, h => by
    have hfields := areSoundFields_iff (d - 1) fields (by
      rw [isTree, Bool.and_eq_true] at h
      exact h.2)
    simp only [isSound, depth, Bool.and_eq_true, bne_iff_ne, hfields]
    omega
  | unreadable, h => by simp [isTree] at h

theorem areSound_iff (d : Nat) :
    (items : List (Json ν)) → areTrees items → (areSound d items = true ↔ itemsDepth items ≤ d)
  | [], _ => by simp [areSound, itemsDepth]
  | j :: rest, h => by
    rw [areTrees, Bool.and_eq_true] at h
    rw [areSound, itemsDepth, Bool.and_eq_true, isSound_iff d j h.1, areSound_iff d rest h.2]
    omega

theorem areSoundFields_iff (d : Nat) :
    (fields : List (String × Json ν)) → areTreeFields fields →
      (areSoundFields d fields = true ↔ fieldsDepth fields ≤ d)
  | [], _ => by simp [areSoundFields, fieldsDepth]
  | (_, j) :: rest, h => by
    rw [areTreeFields, Bool.and_eq_true] at h
    rw [areSoundFields, fieldsDepth, Bool.and_eq_true, isSound_iff d j h.1,
      areSoundFields_iff d rest h.2]
    omega

end

end Trees

/-! ## Equality -/

section Equality

variable [DecidableEq ν]

mutual

/-- Whether two documents are the same. -/
def same : Json ν → Json ν → Bool
  | null, null => true
  | bool b, bool b' => b = b'
  | number x whole, number y whole' => x = y && whole = whole'
  | string s, string s' => s = s'
  | array items, array items' => sameItems items items'
  | object fields, object fields' => sameFields fields fields'
  | unreadable, unreadable => true
  | _, _ => false

/-- `same`, item by item. -/
def sameItems : List (Json ν) → List (Json ν) → Bool
  | [], [] => true
  | j :: rest, j' :: rest' => same j j' && sameItems rest rest'
  | _, _ => false

/-- `same`, field by field. -/
def sameFields : List (String × Json ν) → List (String × Json ν) → Bool
  | [], [] => true
  | (k, j) :: rest, (k', j') :: rest' => k = k' && same j j' && sameFields rest rest'
  | _, _ => false

end

mutual

theorem same_iff : (j j' : Json ν) → (same j j' = true ↔ j = j')
  | null, j' | bool _, j' | number _ _, j' | string _, j' | unreadable, j' => by
    cases j' <;> simp [same]
  | array items, j' => by cases j' <;> simp [same, sameItems_iff items]
  | object fields, j' => by cases j' <;> simp [same, sameFields_iff fields]

theorem sameItems_iff :
    (items items' : List (Json ν)) → (sameItems items items' = true ↔ items = items')
  | [], items' => by cases items' <;> simp [sameItems]
  | j :: rest, items' => by cases items' <;> simp [sameItems, same_iff j, sameItems_iff rest]

theorem sameFields_iff :
    (fields fields' : List (String × Json ν)) →
      (sameFields fields fields' = true ↔ fields = fields')
  | [], fields' => by cases fields' <;> simp [sameFields]
  | (k, j) :: rest, fields' => by
    rcases fields' with _ | ⟨⟨k', j'⟩, rest'⟩ <;>
      simp [sameFields, same_iff j, sameFields_iff rest]

end

instance : DecidableEq (Json ν) := fun j j' => decidable_of_iff _ (same_iff j j')

end Equality

end Json

end MeshTraffic
