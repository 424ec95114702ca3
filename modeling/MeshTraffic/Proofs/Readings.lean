import MeshTraffic.Proofs.Means

/-!
# Exact readings

* `ScaledQuantity`: quantities that are scaled without loss.
* `Reading`: exact numbers, and one value that is no number. What is proved of scaled quantities
  says of it how values that are no numbers are treated; in `Rat` there are none.
-/

namespace MeshTraffic

variable {ν : Type}

/-- Quantities that are scaled without loss. That zero stays zero is asked of whole numbers only: a
quantity may be no number. -/
class ScaledQuantity (ν : Type) [Quantity ν] : Prop extends ExactQuantity ν where
  zero_mul_ofNat : ∀ n : Nat, (0 : ν) * Quantity.ofNat n = 0
  add_mul : ∀ x y z : ν, (x + y) * z = x * z + y * z
  mul_div : ∀ x y z : ν, x * y / z = y * (x / z)

/-- A common factor comes out of a sum. -/
theorem sum_map_mul [Quantity ν] [ScaledQuantity ν] (xs : List ν) (n : Nat) :
    (xs.map (· * Quantity.ofNat n)).sum = xs.sum * Quantity.ofNat n := by
  induction xs with
  | nil => exact (ScaledQuantity.zero_mul_ofNat n).symm
  | cons x xs ih => rw [List.map_cons, List.sum_cons, List.sum_cons, ih, ScaledQuantity.add_mul]

/-! ## Numbers, and none -/

/-- An exact number, or no number at all. -/
inductive Reading where
  | number (x : Rat)
  | nan
  deriving DecidableEq, Repr

namespace Reading

instance : Quantity Reading where
  zero := number 0
  one := number 1
  add
    | number x, number y => number (x + y)
    | _, _ => nan
  mul
    | number x, number y => number (x * y)
    | _, _ => nan
  div
    | number x, number y => if y = 0 then nan else number (x / y)
    | _, _ => nan
  neg
    | number x => number (-x)
    | nan => nan
  ofNat n := number n
  isNaN x := x = nan
  isFinite x := x ≠ nan
  isPositive
    | number x => 0 < x
    | nan => false

@[simp] theorem number_add (x y : Rat) : number x + number y = number (x + y) := rfl
@[simp] theorem nan_add (x : Reading) : nan + x = nan := rfl
@[simp] theorem add_nan (x : Reading) : x + nan = nan := by cases x <;> rfl
@[simp] theorem number_mul (x y : Rat) : number x * number y = number (x * y) := rfl
@[simp] theorem nan_mul (x : Reading) : nan * x = nan := rfl
@[simp] theorem mul_nan (x : Reading) : x * nan = nan := by cases x <;> rfl
theorem number_div (x y : Rat) : number x / number y = if y = 0 then nan else number (x / y) := rfl
@[simp] theorem nan_div (x : Reading) : nan / x = nan := rfl
@[simp] theorem div_nan (x : Reading) : x / nan = nan := by cases x <;> rfl

instance : ScaledQuantity Reading where
  add_assoc x y z := by cases x <;> cases y <;> cases z <;> simp [Rat.add_assoc]
  add_comm x y := by cases x <;> cases y <;> simp [Rat.add_comm]
  zero_add x := by
    cases x with
    | number x => exact congrArg number (Rat.zero_add x)
    | nan => rfl
  ofNat_zero := rfl
  ofNat_succ n := congrArg number (Rat.natCast_add n 1)
  zero_mul_ofNat n := congrArg number (Rat.zero_mul n)
  add_mul x y z := by cases x <;> cases y <;> cases z <;> simp [Rat.add_mul]
  mul_div x y z := by
    cases x <;> cases y <;> cases z <;> simp [number_div]
    next x y z =>
      split
      · rfl
      · simp [Rat.div_def, Rat.mul_comm x y, Rat.mul_assoc]

end Reading

end MeshTraffic
