/-!
# Quantities

Rates, latencies and counters are *quantities*. A request is answered with `Float` quantities;
everything that only adds, divides and compares them is written for any type with a `Quantity`
instance, so that it can also be run on the exact numbers `Rat`, where sums do not depend on the
order of their terms.
-/

namespace MeshTraffic

/-- Numbers that traffic is counted in. -/
class Quantity (ν : Type) extends Zero ν, One ν, Add ν, Mul ν, Div ν, Neg ν where
  /-- A whole number as a quantity. -/
  ofNat : Nat → ν
  /-- Whether it is no number at all, like the rate of a series without samples. -/
  isNaN : ν → Bool
  /-- Whether it is a number, and not infinite. -/
  isFinite : ν → Bool
  /-- Whether it is a number above zero. -/
  isPositive : ν → Bool

instance : Quantity Float where
  ofNat := Float.ofNat
  isNaN := Float.isNaN
  isFinite := Float.isFinite
  isPositive x := 0 < x

instance : Quantity Rat where
  zero := Rat.ofInt 0
  one := Rat.ofInt 1
  add := Rat.add
  mul := Rat.mul
  div := Rat.div
  neg := Rat.neg
  ofNat n := Rat.ofInt n
  isNaN _ := false
  isFinite _ := true
  isPositive q := Rat.blt 0 q

end MeshTraffic
