import MeshTraffic.Proofs.Counters

/-!
# Running means

A running mean holds the total and the count of its values under two keys beside its own.

* `ExactQuantity`: quantities whose sums do not depend on the order of their terms and that count
  without loss.
* `Metadata.IsMeanOf m key xs`: under `key` stands the mean of `xs`, and their total and count
  beside it.
* `Metadata.IsMeanOf.average`, `Metadata.IsMeanOf.foldl_average`: one more value, and many;
  `Metadata.get?_average_of_ne`: other keys are left alone.
-/

namespace MeshTraffic

variable {ν : Type}

/-- Quantities whose sums do not depend on the order of their terms and that count without loss. -/
class ExactQuantity (ν : Type) [Quantity ν] : Prop extends LawfulQuantity ν where
  ofNat_zero : (Quantity.ofNat 0 : ν) = 0
  ofNat_succ : ∀ n : Nat, (Quantity.ofNat (n + 1) : ν) = Quantity.ofNat n + 1

instance : ExactQuantity Rat where
  ofNat_zero := rfl
  ofNat_succ n := by
    show ((n + 1 : Nat) : Rat) = (n : Rat) + 1
    exact Rat.natCast_add n 1

/-! ## The keys of a mean -/

namespace Key

theorem total_ne (key : String) : total key ≠ key := by
  intro h
  have hlength := congrArg String.length h
  simp [total] at hlength

theorem count_ne (key : String) : count key ≠ key := by
  intro h
  have hlength := congrArg String.length h
  simp [count] at hlength

theorem count_ne_total (key : String) : count key ≠ total key := by
  intro h
  have hchars := congrArg String.toList h
  simp [count, total] at hchars

/-- The keys that a running mean uses. -/
def mean (key : String) : List String := [key, total key, count key]

end Key

namespace Metadata

variable [Quantity ν]

/-! ## One more value -/

theorem get?_average (m : Metadata ν) (key k : String) (x : ν) :
    (m.average key x).get? k =
      if k = key then
        some (.number ((m.numberD (Key.total key) + x) / (m.numberD (Key.count key) + 1)))
      else if k = Key.count key then some (.number (m.numberD (Key.count key) + 1))
      else if k = Key.total key then some (.number (m.numberD (Key.total key) + x))
      else m.get? k := by
  simp only [average, SortedMap.get?_insert]

/-- A mean leaves the keys alone that it does not use. -/
theorem get?_average_of_ne (m : Metadata ν) {key k : String} (h : k ∉ Key.mean key) (x : ν) :
    (m.average key x).get? k = m.get? k := by
  simp only [Key.mean, List.mem_cons, List.not_mem_nil, or_false, not_or] at h
  obtain ⟨hkey, htotal, hcount⟩ := h
  rw [get?_average, if_neg hkey, if_neg hcount, if_neg htotal]

/-- What stands under the key of a mean of some values. -/
def meanOf (xs : List ν) : Option (Attribute ν) :=
  if xs = [] then none else some (.number (xs.sum / Quantity.ofNat xs.length))

/-- The mean of `xs` stands under `key`, and their total and count beside it. -/
structure IsMeanOf (m : Metadata ν) (key : String) (xs : List ν) : Prop where
  get?_eq : m.get? key = meanOf xs
  total_eq : m.numberD (Key.total key) = xs.sum
  count_eq : m.numberD (Key.count key) = Quantity.ofNat xs.length

theorem IsMeanOf.congr {m m' : Metadata ν} {key : String} {xs : List ν} (h : m.IsMeanOf key xs)
    (hget : ∀ k ∈ Key.mean key, m'.get? k = m.get? k) : m'.IsMeanOf key xs where
  get?_eq := (hget key (by simp [Key.mean])).trans h.get?_eq
  total_eq := (numberD_eq_of_get?_eq (hget _ (by simp [Key.mean]))).trans h.total_eq
  count_eq := (numberD_eq_of_get?_eq (hget _ (by simp [Key.mean]))).trans h.count_eq

variable [ExactQuantity ν]

/-- Where none of its keys is used, a mean has no values yet. -/
theorem isMeanOf_nil {m : Metadata ν} {key : String} (h : ∀ k ∈ Key.mean key, m.get? k = none) :
    m.IsMeanOf key [] where
  get?_eq := h key (by simp [Key.mean])
  total_eq := numberD_of_get?_eq_none (h _ (by simp [Key.mean]))
  count_eq := by
    rw [numberD_of_get?_eq_none (h _ (by simp [Key.mean])), List.length_nil,
      ExactQuantity.ofNat_zero]

theorem isMeanOf_empty (key : String) : (∅ : Metadata ν).IsMeanOf key [] :=
  isMeanOf_nil fun k _ => SortedMap.get?_empty k

/-- One more value leaves the mean, the total and the count under its three keys. -/
theorem IsMeanOf.get?_average {m : Metadata ν} {key : String} {xs : List ν} (h : m.IsMeanOf key xs)
    (x : ν) :
    (m.average key x).get? key =
        some (.number ((xs ++ [x]).sum / Quantity.ofNat (xs ++ [x]).length)) ∧
      (m.average key x).get? (Key.total key) = some (.number (xs ++ [x]).sum) ∧
      (m.average key x).get? (Key.count key) =
        some (.number (Quantity.ofNat (xs ++ [x]).length)) := by
  have hsum : m.numberD (Key.total key) + x = (xs ++ [x]).sum := by
    rw [h.total_eq, List.sum_append, List.sum_singleton]
  have hcount : m.numberD (Key.count key) + 1 = Quantity.ofNat (xs ++ [x]).length := by
    rw [h.count_eq, List.length_append, List.length_singleton, ExactQuantity.ofNat_succ]
  refine ⟨?_, ?_, ?_⟩
  · rw [Metadata.get?_average, if_pos rfl, hsum, hcount]
  · rw [Metadata.get?_average, if_neg (Key.total_ne key), if_neg (Key.count_ne_total key).symm,
      if_pos rfl, hsum]
  · rw [Metadata.get?_average, if_neg (Key.count_ne key), if_pos rfl, hcount]

/-- **One more value** is taken into the mean. -/
theorem IsMeanOf.average {m : Metadata ν} {key : String} {xs : List ν} (h : m.IsMeanOf key xs)
    (x : ν) : (m.average key x).IsMeanOf key (xs ++ [x]) := by
  obtain ⟨hmean, htotal, hcount⟩ := h.get?_average x
  refine ⟨?_, numberD_of_get? htotal, numberD_of_get? hcount⟩
  rw [hmean, meanOf, if_neg (by simp)]

/-- **Many values** are taken into the mean one after another. -/
theorem IsMeanOf.foldl_average {m : Metadata ν} {key : String} {seen : List ν}
    (h : m.IsMeanOf key seen) (xs : List ν) :
    (xs.foldl (fun m x => m.average key x) m).IsMeanOf key (seen ++ xs) := by
  induction xs generalizing m seen with
  | nil => simpa using h
  | cons x xs ih => simpa using ih (h.average x)

end Metadata

end MeshTraffic
