import MeshTraffic.Decimal.Literal
import MeshTraffic.Json.Reader
import MeshTraffic.Telemetry.Fault
import MeshTraffic.Telemetry.Sample

/-!
# Response documents

A backend answers with a JSON document: a status, and the data or an error.

* `samplesOf`: the samples of a document. A status other than `success` is the backend's failure,
  whatever else the document holds; no data means no samples; the data have to be a vector, of
  which every element has a map of labels and a pair of a time and the text of a value.
* `readResponse`: the samples of a text. What is not a response document, nests too deeply or
  holds unreadable parts in its result is malformed.
-/

namespace MeshTraffic.Response

open Json

/-- The data of a response: the type of the result and the result. -/
structure Data where
  resultType : String
  result : Json Float

/-- A response document. -/
structure Document where
  status : String
  data : Option Data
  errorType : Option String
  error : Option String

def Data.ofJson? (j : Json Float) : Option Data := do
  let f ← j.record? ["resultType", "result"]
  return ⟨← f.required "resultType" text?, ← f.required "result" some⟩

def Document.ofJson? (j : Json Float) : Option Document := do
  let f ← j.record? ["status", "data", "errorType", "error"]
  return {
    status := ← f.required "status" text?
    data := ← f.withDefault "data" none (optional? Data.ofJson?)
    errorType := ← f.withDefault "errorType" none (optional? text?)
    error := ← f.withDefault "error" none (optional? text?) }

/-! ## The vector -/

/-- An element of a vector: the labels of a series and the text of its value. -/
structure Element where
  labels : SortedMap String
  valueText : String

/-- A pair of the time of a value and its text. -/
def valueText? : Json Float → Option String
  | array [time, text] => time.number?.bind fun _ => text.text?
  | _ => none

/-- The fields of an object; one that comes again counts with its last value only. -/
def lastFields? : Json Float → Option (SortedMap (Json Float))
  | object fields => some (SortedMap.ofList fields)
  | _ => none

/-- The labels of a series. -/
def labels? (j : Json Float) : Option (SortedMap String) := do
  let fields ← lastFields? j
  return SortedMap.ofList (← (object fields.entries).dictionary? text?)

/-- An element, written as an object or as the array of its fields. -/
def Element.ofJson? (j : Json Float) : Option Element := do
  let (metric, value) ← match j with
    | array [metric, value] => some (metric, value)
    | _ => do
      let fields ← lastFields? j
      pure (← fields.get? "metric", ← fields.get? "value")
  return ⟨← labels? metric, ← valueText? value⟩

/-- The sample of an element. -/
def Element.sample (e : Element) : Except TelemetryFault (Sample Float) :=
  match Decimal.readNumber? e.valueText with
  | some x => .ok ⟨e.labels, x⟩
  | none => .error (.backend "bad_value" ("sample value '" ++ e.valueText ++ "' is not a number"))

/-! ## The outcome -/

/-- The samples of a response. -/
def Document.samples (d : Document) : Except TelemetryFault (List (Sample Float)) :=
  if d.status ≠ "success" then
    .error (.backend (d.errorType.getD "unknown") (d.error.getD ""))
  else
    match d.data with
    | none => .ok []
    | some data =>
      if data.resultType ≠ "vector" then .error (.unexpectedResultType data.resultType)
      else
        match data.result.list? Element.ofJson? with
        | none => .error .malformed
        | some elements => elements.mapM Element.sample

/-- The samples of a document that is given as a tree. -/
def samplesOf (j : Json Float) : Except TelemetryFault (List (Sample Float)) :=
  match Document.ofJson? j with
  | some d => d.samples
  | none => .error .malformed

/-- How deep a result may nest: in a whole document, 127 levels, of which the document and its
data take two. -/
def resultDepth : Nat := 125

/-- Whether the result, if there is one, is readable throughout. -/
def hasSoundResult (j : Json Float) : Bool :=
  match (Document.ofJson? j).bind Document.data with
  | some data => data.result.isSound resultDepth
  | none => true

/-- The samples of the text of a document. -/
def readResponse (text : String) : Except TelemetryFault (List (Sample Float)) :=
  match Json.read? text with
  | some j => if hasSoundResult j then samplesOf j else .error .malformed
  | none => .error .malformed

end MeshTraffic.Response
