import MeshTraffic.Json.Tree
import MeshTraffic.Decimal.Literal

/-!
# Reading JSON texts

`Json.read?` reads a whole text. Strings and numbers are accepted as they are spelled and judged
later by whoever uses them: a number beyond the doubles is an infinite one, a string with an
unpaired surrogate is `unreadable`.

At most two readings begin at one character, so twice the number of characters bounds the depth of
the recursion.
-/

namespace MeshTraffic.Json

open Decimal

/-- The characters between tokens. -/
def isBlank (c : Char) : Bool := c = ' ' || c = '\t' || c = '\n' || c = '\r'

/-- The text from its first token on. -/
def skipBlanks (cs : List Char) : List Char := cs.dropWhile isBlank

/-! ## Strings -/

/-- The value of a hexadecimal digit. -/
def hexValue? (c : Char) : Option Nat :=
  if c.isDigit then some (c.toNat - '0'.toNat)
  else if 'a' ≤ c ∧ c ≤ 'f' then some (c.toNat - 'a'.toNat + 10)
  else if 'A' ≤ c ∧ c ≤ 'F' then some (c.toNat - 'A'.toNat + 10)
  else none

/-- One element of a string: a character, or one of the 16-bit units of a `\u` escape. -/
inductive Unit16 where
  | char (c : Char)
  | unit (n : Nat)

/-- The elements of a string up to its closing quote, and what follows the quote. -/
def readUnits : List Char → Option (List Unit16 × List Char)
  | '"' :: rest => some ([], rest)
  | '\\' :: 'u' :: a :: b :: c :: d :: rest => do
    let n := (← hexValue? a) * 4096 + (← hexValue? b) * 256 + (← hexValue? c) * 16 + (← hexValue? d)
    let (us, rest) ← readUnits rest
    return (.unit n :: us, rest)
  | '\\' :: c :: rest => do
    let c ← match c with
      | '"' => some '"'
      | '\\' => some '\\'
      | '/' => some '/'
      | 'b' => some '\x08'
      | 'f' => some '\x0c'
      | 'n' => some '\n'
      | 'r' => some '\r'
      | 't' => some '\t'
      | _ => none
    let (us, rest) ← readUnits rest
    return (.char c :: us, rest)
  | c :: rest =>
    if c.toNat < 32 then none else do
    let (us, rest) ← readUnits rest
    return (.char c :: us, rest)
  | [] => none

/-- The first half of a surrogate pair. -/
def isHighSurrogate (n : Nat) : Bool := 0xD800 ≤ n && n < 0xDC00

/-- The second half of a surrogate pair. -/
def isLowSurrogate (n : Nat) : Bool := 0xDC00 ≤ n && n < 0xE000

/-- The characters of a string; `none` if a surrogate has no partner. -/
def joinUnits? : List Unit16 → Option (List Char)
  | [] => some []
  | .char c :: rest => (joinUnits? rest).map (c :: ·)
  | .unit n :: rest =>
    if isHighSurrogate n then
      match rest with
      | .unit m :: rest =>
        if isLowSurrogate m then
          let c := Char.ofNat (0x10000 + (n - 0xD800) * 0x400 + (m - 0xDC00))
          (joinUnits? rest).map (c :: ·)
        else none
      | _ => none
    else if isLowSurrogate n then none
    else (joinUnits? rest).map (Char.ofNat n :: ·)

/-- A string after its opening quote, and what follows it; the string is `none` if it is
unreadable. -/
def readString (cs : List Char) : Option (Option String × List Char) :=
  (readUnits cs).map fun (us, rest) => ((joinUnits? us).map String.ofList, rest)

/-! ## Numbers -/

/-- A nonempty run of digits, and the rest. -/
def readDigits (cs : List Char) : Option (List Char × List Char) :=
  match splitDigits cs with
  | ([], _) => none
  | (ds, rest) => some (ds, rest)

/-- The digits before the point: no zero leads other digits. -/
def readWhole : List Char → Option (List Char × List Char)
  | '0' :: rest =>
    match rest with
    | c :: _ => if c.isDigit then none else some (['0'], rest)
    | [] => some (['0'], rest)
  | cs => readDigits cs

/-- The digits after a point, if there is one. -/
def readFraction : List Char → Option (Option (List Char) × List Char)
  | '.' :: rest => (readDigits rest).map fun (ds, rest) => (some ds, rest)
  | cs => some (none, cs)

/-- The exponent, if there is one. -/
def readExponent : List Char → Option (Option Int × List Char)
  | c :: rest =>
    if c = 'e' || c = 'E' then
      let (negative, rest) := splitSign rest
      (readDigits rest).map fun (ds, rest) =>
        let n : Int := digitsValue ds
        (some (if negative then -n else n), rest)
    else some (none, c :: rest)
  | [] => some (none, [])

/-- A number. One without a sign, fraction or exponent and below `2 ^ 64` is also a natural
number. -/
def readNumber (cs : List Char) : Option (Json Float × List Char) := do
  let (negative, cs) := match cs with
    | '-' :: rest => (true, rest)
    | _ => (false, cs)
  let (whole, cs) ← readWhole cs
  let (fraction, cs) ← readFraction cs
  let (exponent, cs) ← readExponent cs
  let decimals := fraction.getD []
  let literal : Literal :=
    ⟨negative, digitsValue (whole ++ decimals), exponent.getD 0 - decimals.length⟩
  let n := digitsValue whole
  let isNatural := !negative && fraction.isNone && exponent.isNone && n < wordCount
  return (.number literal.toFloat (if isNatural then some n else none), cs)

/-! ## Values -/

/-- Drops `word` from the front. -/
def dropWord? : List Char → List Char → Option (List Char)
  | [], cs => some cs
  | w :: word, c :: cs => if w = c then dropWord? word cs else none
  | _ :: _, [] => none

mutual

/-- A value, and what follows it. -/
def readValue : Nat → List Char → Option (Json Float × List Char)
  | 0, _ => none
  | fuel + 1, cs =>
    match skipBlanks cs with
    | 'n' :: rest => (dropWord? "ull".toList rest).map (.null, ·)
    | 't' :: rest => (dropWord? "rue".toList rest).map (.bool true, ·)
    | 'f' :: rest => (dropWord? "alse".toList rest).map (.bool false, ·)
    | '"' :: rest => (readString rest).map fun (s, rest) => (s.elim .unreadable .string, rest)
    | '[' :: rest =>
      match skipBlanks rest with
      | ']' :: rest => some (.array [], rest)
      | _ => (readItems fuel rest).map fun (items, rest) => (.array items, rest)
    | '\x7b' :: rest =>
      match skipBlanks rest with
      | '\x7d' :: rest => some (.object [], rest)
      | _ =>
        (readFields fuel rest).map fun (fields, rest) => (fields.elim .unreadable .object, rest)
    | cs => readNumber cs

/-- The items of an array up to its end. -/
def readItems : Nat → List Char → Option (List (Json Float) × List Char)
  | 0, _ => none
  | fuel + 1, cs => do
    let (j, rest) ← readValue fuel cs
    match skipBlanks rest with
    | ',' :: rest => (readItems fuel rest).map fun (items, rest) => (j :: items, rest)
    | ']' :: rest => some ([j], rest)
    | _ => none

/-- The fields of an object up to its end; they are `none` if a name is unreadable. -/
def readFields : Nat → List Char → Option (Option (List (String × Json Float)) × List Char)
  | 0, _ => none
  | fuel + 1, cs => do
    let '"' :: rest := skipBlanks cs | none
    let (name, rest) ← readString rest
    let ':' :: rest := skipBlanks rest | none
    let (j, rest) ← readValue fuel rest
    let field := name.map fun k => (k, j)
    match skipBlanks rest with
    | ',' :: rest =>
      (readFields fuel rest).map fun (fields, rest) =>
        (field.bind fun e => fields.map (e :: ·), rest)
    | '\x7d' :: rest => some (field.map fun e => [e], rest)
    | _ => none

end

/-- The document of a text, around which only blanks may stand. -/
def read? (text : String) : Option (Json Float) :=
  let cs := text.toList
  match readValue (2 * cs.length + 2) cs with
  | some (j, rest) => if (skipBlanks rest).isEmpty then some j else none
  | none => none

end MeshTraffic.Json
