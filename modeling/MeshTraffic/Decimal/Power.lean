/-!
# Powers of two and ten

`twoPow` and `tenPow` take an integer exponent and are one where it is negative, so that a number
times `2 ^ e` is the quotient of `twoPow e` times the number and `twoPow (-e)`. The other constants
are the powers that bound 64-bit words and the parts of a double.
-/

namespace MeshTraffic.Decimal

/-- Two to the power of `e`; one if `e` is negative. -/
def twoPow (e : Int) : Nat := Nat.pow 2 e.toNat

/-- Ten to the power of `e`; one if `e` is negative. -/
def tenPow (e : Int) : Nat := Nat.pow 10 e.toNat

/-- The number of values of a 64-bit word. -/
def wordCount : Nat := Nat.pow 2 64

/-- The number of doubles that differ only in their fraction. -/
def fractionCount : Nat := Nat.pow 2 52

/-- The number of exponents of doubles. -/
def exponentCount : Nat := Nat.pow 2 11

/-- The number of doubles without the sign bit. -/
def unsignedCount : Nat := Nat.pow 2 63

end MeshTraffic.Decimal
