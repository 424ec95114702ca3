import MeshTraffic.Decimal.Literal
import MeshTraffic.Text.Blank

/-!
# Points in time

* `Instant`: seconds from the start of 1970 in UTC, and nanoseconds. From a thousand million
  nanoseconds on the point lies in a leap second.
* `Instant.write`: the point in RFC 3339 form in UTC, with the fewest of 0, 3, 6 or 9 digits of a
  second's fraction that write it exactly.
* `Instant.read?`: a point in that form with any offset from UTC. The reader is lenient: white
  space may stand before each number and each mark, numbers may have fewer digits, the year a
  sign, and the date and time may be joined by a blank.
-/

namespace MeshTraffic

/-- A point in time. -/
structure Instant where
  /-- Seconds since the start of 1970 in UTC. -/
  seconds : Int
  /-- Nanoseconds after that; beyond a second, they lie in a leap second. -/
  nanos : Nat := 0
  deriving DecidableEq, Repr, Inhabited

/-- A date of the Gregorian calendar, also before its introduction. -/
structure Date where
  year : Int
  month : Nat
  day : Nat
  deriving DecidableEq, Repr

namespace Date

def isLeap (year : Int) : Bool := year % 4 = 0 && (year % 100 ≠ 0 || year % 400 = 0)

/-- The number of days of a month. -/
def daysInMonth (year : Int) (month : Nat) : Nat :=
  if month = 2 then (if isLeap year then 29 else 28)
  else if month = 4 || month = 6 || month = 9 || month = 11 then 30
  else 31

/-- Whether there is such a day. -/
def isValid (d : Date) : Bool :=
  1 ≤ d.month && d.month ≤ 12 && 1 ≤ d.day && d.day ≤ daysInMonth d.year d.month

/-- The days from the start of 1970. Years are counted from March, so that the leap day is the last
of its year. -/
def toDays (d : Date) : Int :=
  let year := if d.month ≤ 2 then d.year - 1 else d.year
  let month := (d.month + 9) % 12
  let dayOfYear : Int := ((153 * month + 2) / 5 + d.day - 1 : Nat)
  365 * year + year / 4 - year / 100 + year / 400 + dayOfYear - 719468

/-- The date of a number of days from the start of 1970. -/
def ofDays (days : Int) : Date :=
  let shifted := days + 719468
  let era := shifted / 146097
  let dayOfEra := (shifted % 146097).toNat
  let yearOfEra := (dayOfEra - dayOfEra / 1460 + dayOfEra / 36524 - dayOfEra / 146096) / 365
  let dayOfYear := dayOfEra - (365 * yearOfEra + yearOfEra / 4 - yearOfEra / 100)
  let month := (5 * dayOfYear + 2) / 153
  let day := dayOfYear - (153 * month + 2) / 5 + 1
  let civil := if month < 10 then month + 3 else month - 9
  ⟨era * 400 + yearOfEra + (if civil ≤ 2 then 1 else 0), civil, day⟩

end Date

namespace Instant

/-! ## Writing -/

/-- A number with zeros in front up to `width` digits. -/
def padded (width n : Nat) : String :=
  let digits := Nat.toDigits 10 n
  String.ofList (List.replicate (width - digits.length) '0' ++ digits)

/-- A year: four digits, and a sign if it is outside of 0 to 9999. -/
def writeYear (year : Int) : String :=
  if 0 ≤ year ∧ year ≤ 9999 then padded 4 year.toNat
  else (if year < 0 then "-" else "+") ++ padded 4 year.natAbs

/-- The fraction of a second. -/
def writeFraction (nanos : Nat) : String :=
  if nanos = 0 then ""
  else if nanos % 1000000 = 0 then "." ++ padded 3 (nanos / 1000000)
  else if nanos % 1000 = 0 then "." ++ padded 6 (nanos / 1000)
  else "." ++ padded 9 nanos

/-- The point in RFC 3339 form in UTC. -/
def write (t : Instant) : String :=
  let date := Date.ofDays (t.seconds / 86400)
  let second := (t.seconds % 86400).toNat
  let inLeapSecond := 1000000000 ≤ t.nanos
  let nanos := if inLeapSecond then t.nanos - 1000000000 else t.nanos
  writeYear date.year ++ "-" ++ padded 2 date.month ++ "-" ++ padded 2 date.day ++ "T" ++
    padded 2 (second / 3600) ++ ":" ++ padded 2 (second / 60 % 60) ++ ":" ++
    padded 2 (second % 60 + if inLeapSecond then 1 else 0) ++ writeFraction nanos ++ "Z"

/-! ## Reading -/

open Decimal Text

/-- At least one and at most `width` digits. -/
def readDigits? (width : Nat) (cs : List Char) : Option (Nat × List Char) :=
  let ds := (cs.take width).takeWhile Char.isDigit
  if ds.isEmpty then none else some (digitsValue ds, cs.drop ds.length)

/-- A number of one or two digits, after white space. -/
def readPair? (cs : List Char) : Option (Nat × List Char) := readDigits? 2 (trimFront cs)

/-- A year, after white space: up to four digits, or any number of them after a sign. -/
def readYear? (cs : List Char) : Option (Int × List Char) :=
  let signed (sign : Int) (cs : List Char) :=
    (readDigits? cs.length cs).map fun (n, rest) => (sign * n, rest)
  match trimFront cs with
  | '-' :: rest => signed (-1) rest
  | '+' :: rest => signed 1 rest
  | cs => (readDigits? 4 cs).map fun (n, rest) => ((n : Int), rest)

/-- The mark `c`, after white space. -/
def readMark? (c : Char) (cs : List Char) : Option (List Char) :=
  match trimFront cs with
  | d :: rest => if d = c then some rest else none
  | [] => none

/-- The fraction of a second in nanoseconds; digits beyond the ninth are passed over. -/
def readNanos? (cs : List Char) : Option (Nat × List Char) :=
  match cs with
  | '.' :: rest => do
    let (n, after) ← readDigits? 9 rest
    return (n * tenPow (9 - (rest.length - after.length : Nat)), after.dropWhile Char.isDigit)
  | _ => some (0, cs)

/-- Two digits. -/
def readTwo? : List Char → Option (Nat × List Char)
  | a :: b :: rest => if a.isDigit && b.isDigit then some (digitsValue [a, b], rest) else none
  | _ => none

/-- An offset from UTC in seconds: `Z`, `UTC`, or a sign with hours and minutes. -/
def readOffset? (cs : List Char) : Option (Int × List Char) :=
  let signed (sign : Int) (cs : List Char) : Option (Int × List Char) := do
    let (hours, cs) ← readTwo? cs
    let (minutes, cs) ← readTwo? (cs.dropWhile fun c => c = ':' || isBlank c)
    if minutes < 60 then return (sign * (hours * 3600 + minutes * 60 : Nat), cs) else none
  match cs with
  | 'Z' :: rest | 'z' :: rest => some (0, rest)
  | '+' :: rest => signed 1 rest
  | '-' :: rest | '\u2212' :: rest => signed (-1) rest
  | a :: b :: c :: rest =>
    if [a, b, c].map Char.toUpper = ['U', 'T', 'C'] then some (0, rest) else none
  | _ => none

/-- The years for which points in time exist. -/
def isYearInRange (year : Int) : Bool := -262143 ≤ year && year ≤ 262142

/-- The point in time that a text writes. -/
def read? (text : String) : Option Instant := do
  let (year, cs) ← readYear? text.toList
  let cs ← readMark? '-' cs
  let (month, cs) ← readPair? cs
  let cs ← readMark? '-' cs
  let (day, cs) ← readPair? cs
  let cs ← match cs with
    | 't' :: rest | 'T' :: rest | ' ' :: rest => some rest
    | _ => none
  let (hour, cs) ← readPair? cs
  let cs ← readMark? ':' cs
  let (minute, cs) ← readPair? cs
  let cs ← readMark? ':' cs
  let (second, cs) ← readPair? cs
  let (nanos, cs) ← readNanos? cs
  let (offset, cs) ← readOffset? (trimFront cs)
  let date : Date := ⟨year, month, day⟩
  if !(trimFront cs).isEmpty || !isYearInRange year || !date.isValid || hour > 23 ||
      minute > 59 || second > 60 || offset.natAbs ≥ 86400 then
    none
  else
    let isLeapSecond := second = 60
    let ofDay : Int := (hour * 3600 + minute * 60 + (if isLeapSecond then 59 else second) : Nat)
    let seconds := date.toDays * 86400 + ofDay - offset
    if isYearInRange (Date.ofDays (seconds / 86400)).year then
      some ⟨seconds, nanos + if isLeapSecond then 1000000000 else 0⟩
    else none

/-! ## Written forms -/

example : write ⟨1700000000, 0⟩ = "2023-11-14T22:13:20Z" := by decide

example : write ⟨-1, 1500000000⟩ = "1969-12-31T23:59:60.500Z" := by decide

example : read? "2023-11-14t14:13:20.25 -08:00" = some ⟨1700000000, 250000000⟩ := by decide

example : read? "2023-02-29T00:00:00Z" = none := by decide

end Instant

end MeshTraffic
