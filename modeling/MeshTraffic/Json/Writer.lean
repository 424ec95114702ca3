import MeshTraffic.Json.Tree
import MeshTraffic.Decimal.Style

/-!
# JSON texts

`Json.write` gives the compact text of a document: no blanks, fields in their order, numbers in
the style `Decimal.Style.json`. In strings only the quote, the backslash and control characters are
escaped.
-/

namespace MeshTraffic.Json

open Decimal

/-- The lower-case hexadecimal digit of a number below 16. -/
private def hexDigit (n : Nat) : Char :=
  if n < 10 then Char.ofNat ('0'.toNat + n) else Char.ofNat ('a'.toNat + (n - 10))

/-- A character inside a string. -/
def escape (c : Char) : List Char :=
  match c with
  | '"' => ['\\', '"']
  | '\\' => ['\\', '\\']
  | '\n' => ['\\', 'n']
  | '\r' => ['\\', 'r']
  | '\t' => ['\\', 't']
  | '\x08' => ['\\', 'b']
  | '\x0c' => ['\\', 'f']
  | c =>
    if c.toNat < 32 then ['\\', 'u', '0', '0', hexDigit (c.toNat / 16), hexDigit (c.toNat % 16)]
    else [c]

/-- A string in quotes. -/
def quote (s : String) : String :=
  "\"" ++ String.ofList (s.toList.flatMap escape) ++ "\""

mutual

/-- The text of a document. -/
def write : Json Float → String
  | null | unreadable => "null"
  | bool true => "true"
  | bool false => "false"
  | number _ (some n) => toString n
  | number x none => Style.json.write x
  | string s => quote s
  | array items => "[" ++ ",".intercalate (writeItems items) ++ "]"
  | object fields => "\x7b" ++ ",".intercalate (writeFields fields) ++ "\x7d"

/-- The text of each item. -/
def writeItems : List (Json Float) → List String
  | [] => []
  | j :: rest => write j :: writeItems rest

/-- The text of each field. -/
def writeFields : List (String × Json Float) → List String
  | [] => []
  | (k, j) :: rest => (quote k ++ ":" ++ write j) :: writeFields rest

end

/-! ## Strings -/

example : quote "a\"\n\x01é" = "\"a\\\"\\n\\u0001é\"" := by decide

end MeshTraffic.Json
