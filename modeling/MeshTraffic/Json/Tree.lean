import MeshTraffic.Quantity

/-!
# JSON documents as trees

* `Json ν`: a document whose numbers are quantities. A text may hold parts that no value can be
  made of, such as half of a surrogate pair; they are allowed where nobody looks and stand as
  `unreadable`.
* `text?`, `number?`, `natural?`, …: one partial reading for each shape. What is not of the shape is
  `none`.
* `Json.record?`: a record is written as an object, in which a known field may come only once and
  an unknown one is passed over, or as the array of its first fields in order.
* `Json.dictionary?`: an object that is read as a map, in which a field may come again.
-/

namespace MeshTraffic

/-- A JSON document. -/
inductive Json (ν : Type) where
  | null
  | bool (b : Bool)
  /-- A number, and the natural number below `2 ^ 64` that it is if it was written as one. -/
  | number (value : ν) (whole : Option Nat)
  | string (text : String)
  | array (items : List (Json ν))
  /-- The fields as they come, repeated ones too. -/
  | object (fields : List (String × Json ν))
  /-- A string with an unpaired surrogate, or an object with such a field name. -/
  | unreadable
  deriving Inhabited

namespace Json

variable {ν α : Type}

/-! ## Shapes -/

/-- A string. -/
def text? : Json ν → Option String
  | string s => some s
  | _ => none

/-- A truth value. -/
def bool? : Json ν → Option Bool
  | bool b => some b
  | _ => none

/-- A number of finite magnitude. -/
def number? [Quantity ν] : Json ν → Option ν
  | number x _ => if Quantity.isFinite x then some x else none
  | _ => none

/-- A natural number below `2 ^ 64`, written without a sign, fraction or exponent. -/
def natural? : Json ν → Option Nat
  | number _ whole => whole
  | _ => none

/-- An array of which every item is read by `item`. -/
def list? (item : Json ν → Option α) : Json ν → Option (List α)
  | array items => items.mapM item
  | _ => none

/-- The value, or `null` for no value. -/
def optional? (value : Json ν → Option α) : Json ν → Option (Option α)
  | null => some none
  | j => (value j).map some

/-- An object whose fields are all read by `value`, in order and with repetitions. -/
def dictionary? (value : Json ν → Option α) : Json ν → Option (List (String × α))
  | object fields => fields.mapM fun (k, j) => (value j).map (k, ·)
  | _ => none

/-- One of a list of names, written as a string or as an object whose only field is the name and
holds `null`. -/
def name? : Json ν → Option String
  | string s => some s
  | object [(s, null)] => some s
  | _ => none

/-! ## Records -/

/-- The fields of a record that are present. -/
structure Fields (ν : Type) where
  present : List (String × Json ν)

/-- The fields of a record with the given field names. -/
def record? (names : List String) : Json ν → Option (Fields ν)
  | object fields =>
    let known := fields.filter fun e => names.contains e.1
    if (known.map Prod.fst).Nodup then some ⟨known⟩ else none
  | array items => if items.length ≤ names.length then some ⟨names.zip items⟩ else none
  | _ => none

namespace Fields

/-- The field `name`, which has to be there. -/
def required (f : Fields ν) (name : String) (value : Json ν → Option α) : Option α :=
  (f.present.lookup name).bind value

/-- The field `name`, or `default` where it is left out. -/
def withDefault (f : Fields ν) (name : String) (default : α) (value : Json ν → Option α) :
    Option α :=
  match f.present.lookup name with
  | some j => value j
  | none => some default

end Fields

/-! ## Soundness in depth -/

mutual

/-- Whether the whole tree holds only finite numbers and readable strings and nests at most
`depth` arrays and objects. -/
def isSound [Quantity ν] (depth : Nat) : Json ν → Bool
  | null | bool _ | string _ => true
  | number x _ => Quantity.isFinite x
  | array items => depth != 0 && areSound (depth - 1) items
  | object fields => depth != 0 && areSoundFields (depth - 1) fields
  | unreadable => false

/-- `isSound` of every item. -/
def areSound [Quantity ν] (depth : Nat) : List (Json ν) → Bool
  | [] => true
  | j :: rest => isSound depth j && areSound depth rest

/-- `isSound` of every field. -/
def areSoundFields [Quantity ν] (depth : Nat) : List (String × Json ν) → Bool
  | [] => true
  | (_, j) :: rest => isSound depth j && areSoundFields depth rest

end

end Json

end MeshTraffic
