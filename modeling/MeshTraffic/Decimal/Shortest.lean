import MeshTraffic.Decimal.Power

/-!
# The fewest decimal digits that read back

A finite double is `significand · 2 ^ exponent`. The reals that round to it form an interval around
it, whose ends belong to it exactly if the significand is even. `shortest` finds the decimal with
the fewest digits in that interval; of two with as few digits the nearer, and at equal distance the
one that a `Tie` names.

On each grid of decimals with a given number of digits only the two neighbours of the value need a
test: if any point of the grid lies in the interval, so does one of them.
-/

namespace MeshTraffic.Decimal

/-- Which of two equally near decimals is taken. -/
inductive Tie where
  /-- The greater one. -/
  | up
  /-- The one whose last digit is even. -/
  | even
  deriving DecidableEq, Repr

/-- The decimal `digits · 10 ^ exponent`. -/
structure Digits where
  digits : Nat
  exponent : Int
  deriving DecidableEq, Repr

/-- A double's value and the interval of reals that round to it, as numerators over one
denominator. -/
structure Rounding where
  value : Nat
  lower : Nat
  upper : Nat
  denominator : Nat
  /-- Whether the ends belong to the interval. -/
  closed : Bool

namespace Rounding

/-- The interval of `significand · 2 ^ exponent`. Below a power of two the next double is half as
far away, unless the exponent is already the least. -/
def ofBinary (significand : Nat) (exponent : Int) (atPower : Bool) : Rounding :=
  let scale := twoPow (exponent - 2)
  { value := 4 * significand * scale
    lower := (4 * significand - if atPower then 1 else 2) * scale
    upper := (4 * significand + 2) * scale
    denominator := twoPow (2 - exponent)
    closed := significand % 2 == 0 }

/-- The interval of the magnitude of a finite double. -/
def ofFloat (x : Float) : Rounding :=
  let bits := x.toBits.toNat
  let fraction := bits % fractionCount
  let biased := bits / fractionCount % exponentCount
  if biased = 0 then ofBinary fraction (-1074) false
  else ofBinary (fractionCount + fraction) ((biased : Int) - 1075) (fraction == 0 && biased != 1)

/-- Whether `c · 10 ^ k` rounds to the double. -/
def holds (r : Rounding) (c : Nat) (k : Int) : Bool :=
  let point := c * tenPow k * r.denominator
  let lower := r.lower * tenPow (-k)
  let upper := r.upper * tenPow (-k)
  if r.closed then lower ≤ point && point ≤ upper else lower < point && point < upper

/-- The greatest `c` for which `c · 10 ^ k` is at most the value. -/
def floorAt (r : Rounding) (k : Int) : Nat :=
  r.value * tenPow (-k) / (r.denominator * tenPow k)

/-- Whether the value is nearer to `(c + 1) · 10 ^ k` than to `c · 10 ^ k`, which are the
neighbours of the value. -/
def prefersUpper (r : Rounding) (tie : Tie) (c : Nat) (k : Int) : Bool :=
  let twice := 2 * (r.value * tenPow (-k))
  let middle := (2 * c + 1) * (r.denominator * tenPow k)
  if twice = middle then
    match tie with
    | .up => true
    | .even => c % 2 == 1
  else decide (middle < twice)

/-- The nearest point of the grid of step `10 ^ k` that rounds to the double. -/
def onGrid? (r : Rounding) (tie : Tie) (k : Int) : Option Digits :=
  let c := r.floorAt k
  match r.holds c k, r.holds (c + 1) k with
  | true, true => some ⟨if r.prefersUpper tie c k then c + 1 else c, k⟩
  | true, false => some ⟨c, k⟩
  | false, true => some ⟨c + 1, k⟩
  | false, false => none

/-- The number of decimal digits of a positive number. -/
def digitCount (n : Nat) : Nat := (Nat.toDigits 10 n).length

/-- The exponent of ten of the value's leading digit. -/
def leading (r : Rounding) : Int :=
  if r.denominator ≤ r.value then digitCount (r.value / r.denominator) - 1
  else -(digitCount ((r.denominator + r.value - 1) / r.value - 1) : Int)

end Rounding

/-- Moves zeros at the end of the digits into the exponent; there are at most `fuel` of them. -/
def stripZeros : Nat → Digits → Digits
  | 0, d => d
  | fuel + 1, d =>
    if d.digits % 10 = 0 && d.digits ≠ 0 then stripZeros fuel ⟨d.digits / 10, d.exponent + 1⟩
    else d

/-- The fewest digits that read back to the magnitude of the finite double `x`. Seventeen always
suffice. -/
def shortest (tie : Tie) (x : Float) : Digits :=
  let r := Rounding.ofFloat x
  if r.value = 0 then ⟨0, 0⟩ else
  let e := r.leading
  let found := (List.range 17).findSome? fun n => r.onGrid? tie (e - (n : Nat))
  stripZeros 17 (found.getD ⟨r.floorAt (e - 16), e - 16⟩)

end MeshTraffic.Decimal
