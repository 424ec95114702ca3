import MeshTraffic.Decimal.Power

/-!
# Reading decimals

* `Literal`: a decimal as written, `digits · 10 ^ exponent` with a sign.
* `Literal.toFloat`: the nearest double; too large a magnitude is infinite, too small a one zero,
  and the sign is kept in both cases.
* `readNumber?`: the numbers that a sample's value may be written as.
-/

namespace MeshTraffic.Decimal

/-- A decimal with a sign. -/
structure Literal where
  negative : Bool
  digits : Nat
  exponent : Int
  deriving DecidableEq, Repr

/-- The number of a digit. -/
def digitValue (c : Char) : Nat := c.toNat - '0'.toNat

/-- The number that a run of digits writes. -/
def digitsValue (cs : List Char) : Nat := cs.foldl (fun n c => 10 * n + digitValue c) 0

/-- The digits at the front, and what follows them. -/
def splitDigits (cs : List Char) : List Char × List Char :=
  (cs.takeWhile Char.isDigit, cs.dropWhile Char.isDigit)

namespace Literal

/-- The nearest double of the magnitude. Outside `10 ^ (-400)` to `10 ^ 400` no power of ten is
computed. -/
def magnitude (l : Literal) : Float :=
  if l.digits = 0 then 0 else
  let leading := ((Nat.toDigits 10 l.digits).length : Int) + l.exponent
  if 400 < leading then 1 / 0
  else if leading < -400 then 0
  else if 0 ≤ l.exponent then Float.ofScientific (l.digits * tenPow l.exponent) false 0
  else Float.ofScientific l.digits true l.exponent.natAbs

/-- The nearest double. -/
def toFloat (l : Literal) : Float := if l.negative then -l.magnitude else l.magnitude

end Literal

/-- The sign at the front, as "is negative", and the rest. -/
def splitSign : List Char → Bool × List Char
  | '-' :: cs => (true, cs)
  | '+' :: cs => (false, cs)
  | cs => (false, cs)

/-- An exponent mark with its number up to the end of the text; nothing is the exponent zero. -/
def readExponent? : List Char → Option Int
  | [] => some 0
  | c :: cs =>
    if c = 'e' || c = 'E' then
      let (negative, ds) := splitSign cs
      if ds.isEmpty || !ds.all Char.isDigit then none
      else some (if negative then -(digitsValue ds : Int) else digitsValue ds)
    else none

/-- A decimal without a sign: digits with at most one point among, before or after them, and
an exponent. -/
def readUnsigned? (negative : Bool) (cs : List Char) : Option Literal :=
  let (whole, rest) := splitDigits cs
  let (fraction, rest) :=
    match rest with
    | '.' :: r => splitDigits r
    | r => ([], r)
  if whole.isEmpty && fraction.isEmpty then none
  else (readExponent? rest).map fun e =>
    ⟨negative, digitsValue (whole ++ fraction), e - fraction.length⟩

/-- The double that a text writes: a decimal with an optional sign, or a word for infinity or for
no number, whose letters may be of either case. -/
def readNumber? (text : String) : Option Float :=
  let (negative, cs) := splitSign text.toList
  let word := String.ofList (cs.map Char.toLower)
  if word = "inf" || word = "infinity" then some (if negative then -(1 / 0) else 1 / 0)
  else if word = "nan" then some (0 / 0)
  else (readUnsigned? negative cs).map Literal.toFloat

/-! ## What is a number -/

example : [".5", "5.", "+1e3", "-INF", "nan"].all (readNumber? · |>.isSome) = true := by decide

example : ["", ".", "1e", " 1", "0x1", "1_0"].all (readNumber? · |>.isNone) = true := by decide

end MeshTraffic.Decimal
