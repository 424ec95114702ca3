import MeshTraffic.Decimal.Shortest

/-!
# How doubles are written

Every text of a double uses the fewest digits that read back; a `Style` holds the choices that
differ from format to format. `plain` is used in query expressions, `json` in JSON texts.
-/

namespace MeshTraffic.Decimal

/-- The choices of a written form. -/
structure Style where
  /-- What to do when two decimals are equally near. -/
  tie : Tie
  /-- Whether a number whose leading digit has this exponent of ten is written without an
  exponent. -/
  positional : Int → Bool
  /-- What follows the digits of a whole number. -/
  wholeEnd : String
  nan : String
  infinity : String
  negInfinity : String

namespace Style

/-- No exponents, and no point in whole numbers. -/
def plain : Style :=
  ⟨.up, fun _ => true, "", "NaN", "inf", "-inf"⟩

/-- A fraction in every number, and an exponent below `1e-5` and from `1e16`. What is not a finite
number is written as `null`. -/
def json : Style :=
  ⟨.even, fun e => -5 ≤ e && e < 16, ".0", "null", "null", "null"⟩

/-- Digits without an exponent. -/
private def writePositional (n : Style) (digits : List Char) (exponent : Int) : List Char :=
  let point := (digits.length : Int) + exponent
  if 0 ≤ exponent then
    digits ++ List.replicate exponent.toNat '0' ++ n.wholeEnd.toList
  else if 0 < point then
    digits.take point.toNat ++ '.' :: digits.drop point.toNat
  else
    '0' :: '.' :: (List.replicate (-point).toNat '0' ++ digits)

/-- One digit, the others after a point, and the exponent with its sign. -/
private def writeExponent (digits : List Char) (leading : Int) : List Char :=
  let mantissa :=
    match digits with
    | [] => []
    | [d] => [d]
    | d :: rest => d :: '.' :: rest
  mantissa ++ 'e' :: (if leading < 0 then '-' else '+') :: (toString leading.natAbs).toList

/-- The written form of a decimal. -/
def writeDigits (n : Style) (d : Digits) : String :=
  let digits := Nat.toDigits 10 d.digits
  let leading := (digits.length : Int) + d.exponent - 1
  String.ofList <|
    if n.positional leading then writePositional n digits d.exponent
    else writeExponent digits leading

/-- Whether the sign bit is set; it tells `-0` from `0`. -/
def isNegative (x : Float) : Bool := unsignedCount ≤ x.toBits.toNat

/-- The written form of a double. -/
def write (n : Style) (x : Float) : String :=
  if x.isNaN then n.nan
  else if x.isInf then (if isNegative x then n.negInfinity else n.infinity)
  else (if isNegative x then "-" else "") ++ n.writeDigits (shortest n.tie x)

/-! ## Where the styles differ -/

example : plain.writeDigits ⟨5, 0⟩ = "5" ∧ json.writeDigits ⟨5, 0⟩ = "5.0" := by decide

example : plain.writeDigits ⟨1, -6⟩ = "0.000001" ∧ json.writeDigits ⟨1, -6⟩ = "1e-6" := by decide

example : plain.writeDigits ⟨15, 15⟩ = "15000000000000000" ∧
    json.writeDigits ⟨15, 15⟩ = "1.5e+16" := by decide

end Style

end MeshTraffic.Decimal
