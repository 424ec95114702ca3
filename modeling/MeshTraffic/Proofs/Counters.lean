import Mathlib.Algebra.BigOperators.Group.List.Basic
import MeshTraffic.Metadata

/-!
# What metadata accumulates

* `NameSet.mem_ofNames`, `NameSet.ofNames_congr`: a set of names is told by its members.
* `Metadata.addNames`, `Metadata.get?_addNames`: a set of names takes in all that are added to it.
* `LawfulQuantity`: quantities that are added up exactly; `Rat` is one, `Float` is not.
* `Metadata.sumAll`: adds some amounts to the counters that they belong to.
* `Metadata.get?_sumAll`: a counter is there if an amount belongs to it, and is then the sum of
  these amounts.
-/

namespace MeshTraffic

variable {ν : Type}

/-! ## Sets of names -/

namespace NameSet

theorem ext_mem {names names' : NameSet} (h : ∀ s, s ∈ names ↔ s ∈ names') : names = names' := by
  apply SortedMap.ext_get?
  intro s
  have hs : (names.get? s).isSome = true ↔ (names'.get? s).isSome = true := h s
  cases hget : names.get? s <;> cases hget' : names'.get? s <;> simp_all

theorem not_mem_empty (s : String) : s ∉ (∅ : NameSet) := by
  intro h
  cases h

theorem mem_foldl_add {l : List String} {names : NameSet} {s : String} :
    s ∈ l.foldl add names ↔ s ∈ l ∨ s ∈ names := by
  induction l generalizing names with
  | nil => simp
  | cons t l ih =>
    rw [List.foldl_cons, ih, mem_add, List.mem_cons]
    grind

theorem mem_ofNames {l : List String} {s : String} : s ∈ ofNames l ↔ s ∈ l :=
  mem_foldl_add.trans (or_iff_left (not_mem_empty s))

/-- **A set of names is told by its members.** -/
theorem ofNames_congr {l l' : List String} (h : ∀ s, s ∈ l ↔ s ∈ l') : ofNames l = ofNames l' := by
  apply ext_mem
  intro s
  rw [mem_ofNames, mem_ofNames, h s]

end NameSet

namespace Metadata

/-- Adds every name to the set under `key`. -/
def addNames (m : Metadata ν) (key : String) (l : List String) : Metadata ν :=
  l.foldl (fun m name => m.addName key name) m

theorem addNames_append (m : Metadata ν) (key : String) (l l' : List String) :
    m.addNames key (l ++ l') = (m.addNames key l).addNames key l' := List.foldl_append

/-- **A set of names takes every name in**, and is there if there is one. -/
theorem get?_addNames (m : Metadata ν) (key : String) (l : List String) :
    (m.addNames key l).get? key =
      if l = [] then m.get? key
      else some (.names (l.foldl NameSet.add ((m.names? key).getD ∅))) := by
  induction l generalizing m with
  | nil => rfl
  | cons name l ih =>
    have hget : (m.addName key name).get? key =
        some (.names (((m.names? key).getD ∅).add name)) := by simp
    have hnames : (m.addName key name).names? key = some (((m.names? key).getD ∅).add name) := by
      rw [names?, hget]
      rfl
    rw [show m.addNames key (name :: l) = (m.addName key name).addNames key l from rfl, ih, hget,
      hnames]
    by_cases hl : l = [] <;> simp [hl]

/-- What stands under the key of a set that some names were added to. -/
def namesOf (names : List String) : Option (Attribute ν) :=
  if names = [] then none else some (.names (NameSet.ofNames names))

theorem namesOf_congr {l l' : List String} (h : ∀ s, s ∈ l ↔ s ∈ l') :
    (namesOf l : Option (Attribute ν)) = namesOf l' := by
  have hnil : l = [] ↔ l' = [] := by simp only [List.eq_nil_iff_forall_not_mem, h]
  unfold namesOf
  rw [NameSet.ofNames_congr h]
  simp only [hnil]

theorem mem_of_get?_eq_namesOf {m : Metadata ν} {key : String} {l : List String}
    (h : m.get? key = namesOf l) {s : String} : s ∈ (m.names? key).getD ∅ ↔ s ∈ l := by
  unfold names?
  rw [h, namesOf]
  split
  · next hnil =>
    rw [hnil]
    exact iff_of_false (NameSet.not_mem_empty s) List.not_mem_nil
  · exact NameSet.mem_ofNames

theorem get?_addNames_empty (key : String) (l : List String) :
    (addNames (∅ : Metadata ν) key l).get? key = namesOf l :=
  get?_addNames ∅ key l

theorem get?_addNames_congr {m m' : Metadata ν} {key : String} (h : m.get? key = m'.get? key)
    (l : List String) : (m.addNames key l).get? key = (m'.addNames key l).get? key := by
  rw [get?_addNames, get?_addNames, names?, names?, h]

end Metadata

/-! ## Exact sums -/

/-- Quantities whose sums do not depend on the order of their terms. -/
class LawfulQuantity (ν : Type) [Quantity ν] : Prop where
  add_assoc : ∀ x y z : ν, x + y + z = x + (y + z)
  add_comm : ∀ x y : ν, x + y = y + x
  zero_add : ∀ x : ν, 0 + x = x

instance : LawfulQuantity Rat where
  add_assoc := Rat.add_assoc
  add_comm := Rat.add_comm
  zero_add := Rat.zero_add

instance (priority := low) LawfulQuantity.toAddCommMonoid [Quantity ν] [LawfulQuantity ν] :
    AddCommMonoid ν where
  add_assoc := LawfulQuantity.add_assoc
  add_comm := LawfulQuantity.add_comm
  zero_add := LawfulQuantity.zero_add
  add_zero x := (LawfulQuantity.add_comm x 0).trans (LawfulQuantity.zero_add x)
  nsmul := nsmulRec

/-! ## Counters -/

/-- The amounts that belong to the counter `key`. -/
def amountsOf (key : String) (l : List (String × ν)) : List ν :=
  (l.filter fun e => e.1 = key).map Prod.snd

theorem amountsOf_cons (key : String) (e : String × ν) (l : List (String × ν)) :
    amountsOf key (e :: l) = if e.1 = key then e.2 :: amountsOf key l else amountsOf key l := by
  by_cases h : e.1 = key <;> simp [amountsOf, h]

theorem amountsOf_flatMap {α : Type} (key : String) (f : α → List (String × ν)) (l : List α) :
    amountsOf key (l.flatMap f) = l.flatMap fun a => amountsOf key (f a) := by
  simp [amountsOf, List.filter_flatMap, List.map_flatMap]

/-- All amounts for a counter belong to it. -/
theorem amountsOf_map_mk (key : String) (xs : List ν) :
    amountsOf key (xs.map fun x => (key, x)) = xs := by
  simp [amountsOf, List.filter_map, Function.comp_def]

/-- No amount belongs to a counter that none is for. -/
theorem amountsOf_eq_nil {key : String} {l : List (String × ν)} (h : ∀ e ∈ l, e.1 ≠ key) :
    amountsOf key l = [] := by
  unfold amountsOf
  rw [List.filter_eq_nil_iff.mpr (by simpa using h), List.map_nil]

variable [Quantity ν]

namespace Metadata

theorem numberD_eq_of_get?_eq {m m' : Metadata ν} {key : String} (h : m.get? key = m'.get? key) :
    m.numberD key = m'.numberD key := by
  rw [numberD, number?, h, numberD, number?]

theorem numberD_of_get? {m : Metadata ν} {key : String} {x : ν}
    (h : m.get? key = some (.number x)) : m.numberD key = x := by
  rw [numberD, number?, h]
  rfl

theorem numberD_of_get?_eq_none {m : Metadata ν} {key : String} (h : m.get? key = none) :
    m.numberD key = 0 := by
  rw [numberD, number?, h]
  rfl

/-- What stands under the key of a counter that some amounts were added to. -/
def counterOf (amounts : List ν) : Option (Attribute ν) :=
  if amounts = [] then none else some (.number amounts.sum)

/-- Adds every amount to the counter that it belongs to. -/
def sumAll (m : Metadata ν) (l : List (String × ν)) : Metadata ν :=
  l.foldl (fun m e => m.sum e.1 e.2) m

@[simp] theorem sumAll_nil (m : Metadata ν) : m.sumAll [] = m := rfl

theorem sumAll_append (m : Metadata ν) (l l' : List (String × ν)) :
    m.sumAll (l ++ l') = (m.sumAll l).sumAll l' := List.foldl_append

/-- What no amount belongs to is left alone. -/
theorem get?_sumAll_of_ne (m : Metadata ν) {l : List (String × ν)} {key : String}
    (h : ∀ e ∈ l, e.1 ≠ key) : (m.sumAll l).get? key = m.get? key := by
  induction l generalizing m with
  | nil => rfl
  | cons e l ih =>
    obtain ⟨he, hl⟩ := List.forall_mem_cons.mp h
    rw [show m.sumAll (e :: l) = (m.sum e.1 e.2).sumAll l from rfl, ih _ hl, get?_sum,
      if_neg (Ne.symm he)]

variable [LawfulQuantity ν]

/-- **A counter is the sum of the amounts that belong to it**, and none of them leaves it alone. -/
theorem get?_sumAll (m : Metadata ν) (l : List (String × ν)) (key : String) :
    (m.sumAll l).get? key =
      if amountsOf key l = [] then m.get? key
      else some (.number (m.numberD key + (amountsOf key l).sum)) := by
  induction l generalizing m with
  | nil => rfl
  | cons e l ih =>
    rw [show m.sumAll (e :: l) = (m.sum e.1 e.2).sumAll l from rfl, ih, amountsOf_cons]
    by_cases h : e.1 = key
    · have hget : (m.sum e.1 e.2).get? key = some (.number (m.numberD key + e.2)) := by
        simp [h]
      rw [hget, numberD_of_get? hget, if_pos h]
      by_cases hl : amountsOf key l = []
      · simp [hl]
      · simp [hl, add_assoc]
    · have hget : (m.sum e.1 e.2).get? key = m.get? key := by simp [Ne.symm h]
      rw [hget, numberD_eq_of_get?_eq hget, if_neg h]

theorem get?_sumAll_empty (l : List (String × ν)) (key : String) :
    (sumAll (∅ : Metadata ν) l).get? key = counterOf (amountsOf key l) := by
  rw [get?_sumAll, counterOf, numberD_of_get?_eq_none rfl, zero_add]
  rfl

theorem get?_sumAll_congr {m m' : Metadata ν} {key : String} (h : m.get? key = m'.get? key)
    (l : List (String × ν)) : (m.sumAll l).get? key = (m'.sumAll l).get? key := by
  rw [get?_sumAll, get?_sumAll, numberD_eq_of_get?_eq h, h]

theorem numberD_sumAll (m : Metadata ν) (l : List (String × ν)) (key : String) :
    (m.sumAll l).numberD key = m.numberD key + (amountsOf key l).sum := by
  by_cases h : amountsOf key l = []
  · rw [numberD_eq_of_get?_eq ((get?_sumAll m l key).trans (if_pos h)), h, List.sum_nil, add_zero]
  · exact numberD_of_get? ((get?_sumAll m l key).trans (if_neg h))

end Metadata

end MeshTraffic
