import MeshTraffic.Proofs.Ascending
import MeshTraffic.Proofs.JsonTrees
import MeshTraffic.Proofs.Outcome
import MeshTraffic.Telemetry.Response

/-!
# Responses are decoded completely or rejected

How a response is written is said by relations between a document and its tree that mention no
order of reading. A field may be left out, stand anywhere and have strangers beside it; only that
it comes once is taken from the tree. What comes of a response is said by a relation too, with one
rule for each layer at which it may be rejected.

* `Document.Written`, `Element.Written`, `Document.Outcome`: the relations.
* `Document.ofJson?_of_written`, `Element.ofJson?_eq_some_iff`: what is written so is read, and of
  elements nothing else is.
* `Document.samples_eq_iff`: the samples of a document are its outcome.
* `readResponse_eq_iff`: so are those of a text, unless its result nests too deeply.
* `not_forall_readResponse_eq_iff_outcome`: the depth matters even for failures.
-/

namespace MeshTraffic.Response

open Json

/-! ## How responses are written -/

/-- A field that may be left out or hold `null`. -/
inductive MayHold {α : Type} (Written : α → Json Float → Prop) :
    Option α → Option (Json Float) → Prop
  | absent : MayHold Written none none
  | null : MayHold Written none (some .null)
  | value {a : α} {j : Json Float} (h : Written a j) : MayHold Written (some a) (some j)

/-- A string is written as itself. -/
def IsText (s : String) (j : Json Float) : Prop := j = .string s

/-- Data are an object with the type of the result and the result. -/
inductive Data.Written (data : Data) : Json Float → Prop
  | object {fields : List (String × Json Float)}
    (resultType : fields.lookup "resultType" = some (.string data.resultType))
    (result : fields.lookup "result" = some data.result) : data.Written (.object fields)

/-- A response is an object with a status; the other fields need not be there. -/
inductive Document.Written (d : Document) : Json Float → Prop
  | object {fields : List (String × Json Float)}
    (status : fields.lookup "status" = some (.string d.status))
    (data : MayHold Data.Written d.data (fields.lookup "data"))
    (errorType : MayHold IsText d.errorType (fields.lookup "errorType"))
    (error : MayHold IsText d.error (fields.lookup "error")) : d.Written (.object fields)

/-- The labels are an object of strings, one for each label and no others; the value is a number,
which is the time, and a string. -/
structure Element.IsMadeOf (e : Element) (metric value : Json Float) : Prop where
  labels : ∃ fields, metric = .object fields ∧
    ∀ name, fields.lookup name = (e.labels.get? name).map .string
  value : ∃ time whole, value = .array [.number time whole, .string e.valueText]

/-- An element is an object with labels and a value, or the array of the two. -/
inductive Element.Written (e : Element) : Json Float → Prop
  | object {fields : List (String × Json Float)} {metric value : Json Float}
    (hmetric : fields.lookup "metric" = some metric) (hvalue : fields.lookup "value" = some value)
    (h : e.IsMadeOf metric value) : e.Written (.object fields)
  | array {metric value : Json Float} (h : e.IsMadeOf metric value) :
    e.Written (.array [metric, value])

/-- A vector is the array of its elements, in their order. -/
def IsVector (elements : List Element) (result : Json Float) : Prop :=
  ∃ items, result = .array items ∧ List.Forall₂ Element.Written elements items

/-! ## What comes of a response -/

/-- The sample has exactly the labels of the element, and the value its text is read as. -/
structure Element.IsSample (e : Element) (s : Sample Float) : Prop where
  labels : s.labels = e.labels
  value : Decimal.readNumber? e.valueText = some s.value

/-- What comes of a response. -/
inductive Document.Outcome (d : Document) : Except TelemetryFault (List (Sample Float)) → Prop
  /-- The backend failed, whatever else it says. -/
  | failed (hstatus : d.status ≠ "success") :
    d.Outcome (.error (.backend (d.errorType.getD "unknown") (d.error.getD "")))
  /-- There are no data. -/
  | nothing (hstatus : d.status = "success") (hdata : d.data = none) : d.Outcome (.ok [])
  /-- The result is of another type, whatever it holds. -/
  | otherType {data : Data} (hstatus : d.status = "success") (hdata : d.data = some data)
    (htype : data.resultType ≠ "vector") :
    d.Outcome (.error (.unexpectedResultType data.resultType))
  /-- Some element is not of the right shape, or the result is no array. -/
  | misshapen {data : Data} (hstatus : d.status = "success") (hdata : d.data = some data)
    (htype : data.resultType = "vector") (hresult : ∀ elements, ¬ IsVector elements data.result) :
    d.Outcome (.error .malformed)
  /-- All elements are of the right shape, and `e` is the first whose value is not a number. -/
  | badValue {data : Data} {before after : List Element} {e : Element}
    (hstatus : d.status = "success") (hdata : d.data = some data)
    (htype : data.resultType = "vector") (hresult : IsVector (before ++ e :: after) data.result)
    (hbefore : ∀ e' ∈ before, ∃ x, Decimal.readNumber? e'.valueText = some x)
    (he : Decimal.readNumber? e.valueText = none) :
    d.Outcome (.error
      (.backend "bad_value" ("sample value '" ++ e.valueText ++ "' is not a number")))
  /-- There is one sample for each element. -/
  | samples {data : Data} {elements : List Element} {samples : List (Sample Float)}
    (hstatus : d.status = "success") (hdata : d.data = some data)
    (htype : data.resultType = "vector") (hresult : IsVector elements data.result)
    (hsamples : List.Forall₂ Element.IsSample elements samples) : d.Outcome (.ok samples)

/-! ## Labels and values -/

theorem text?_eq_some_iff {j : Json Float} {s : String} : j.text? = some s ↔ IsText s j := by
  cases j <;> simp [text?, IsText]

theorem dictionary?_text?_eq_some_iff {fields : List (String × Json Float)}
    {l : List (String × String)} :
    (Json.object fields).dictionary? text? = some l ↔
      fields = l.map fun e => (e.1, .string e.2) := by
  have hfield : ∀ (field : String × Json Float) (e : String × String),
      field.2.text?.map (field.1, ·) = some e ↔ field = (e.1, .string e.2) := by
    rintro ⟨k, j⟩ ⟨k', s⟩
    rw [Option.map_eq_some_iff]
    constructor
    · rintro ⟨s', hs', heq⟩
      obtain ⟨rfl, rfl⟩ := Prod.mk.inj heq
      exact Prod.ext rfl (text?_eq_some_iff.mp hs')
    · intro heq
      obtain ⟨rfl, rfl⟩ := Prod.mk.inj heq
      exact ⟨s, rfl, rfl⟩
  simp only [dictionary?, mapM_eq_some_iff, hfield]
  rw [← List.forall₂_map_right_iff (f := fun e : String × String => (e.1, Json.string e.2)),
    List.forall₂_eq_eq_eq]

/-- Labels are the map that holds the texts of their fields. -/
theorem labels?_object_eq_some_iff {fields : List (String × Json Float)} {m : SortedMap String} :
    labels? (.object fields) = some m ↔ SortedMap.ofList fields = m.mapValues .string := by
  simp only [labels?, lastFields?, bind, Option.bind_some, Option.bind_eq_some_iff, pure,
    Option.some.injEq, dictionary?_text?_eq_some_iff]
  constructor
  · rintro ⟨l, hl, rfl⟩
    have hascending : l.Pairwise fun a b => a.1 < b.1 := by
      have hfields := (SortedMap.ofList fields).ascending
      rwa [hl, List.pairwise_map] at hfields
    -- the fields are listed in the order of their names, and so are the labels
    have hlabels : SortedMap.ofList l = ⟨l, hascending⟩ := SortedMap.ofList_entries ⟨l, hascending⟩
    rw [hlabels]
    exact SortedMap.ext hl
  · intro h
    exact ⟨m.entries, congrArg SortedMap.entries h, m.ofList_entries⟩

theorem labels?_eq_some_iff {j : Json Float} (hj : j.isTree) {m : SortedMap String} :
    labels? j = some m ↔ ∃ fields, j = .object fields ∧
      ∀ name, fields.lookup name = (m.get? name).map .string := by
  cases j with
  | object fields =>
    have hnodup := (isTree_object.mp hj).1
    simp only [labels?_object_eq_some_iff, Json.object.injEq, exists_eq_left']
    constructor
    · intro h name
      rw [← SortedMap.get?_ofList hnodup, h, SortedMap.get?_mapValues]
    · intro h
      exact SortedMap.ext_get? fun name => by
        rw [SortedMap.get?_ofList hnodup, h, SortedMap.get?_mapValues]
  | _ => simp [labels?, lastFields?]

theorem valueText?_eq_some_iff {j : Json Float} (hj : j.isTree) {s : String} :
    valueText? j = some s ↔ ∃ time whole, j = .array [.number time whole, .string s] := by
  constructor
  · intro h
    unfold valueText? at h
    split at h
    · next time text =>
      obtain ⟨x, hx, htext⟩ := Option.bind_eq_some_iff.mp h
      cases text?_eq_some_iff.mp htext
      cases time with
      | number time whole => exact ⟨time, whole, rfl⟩
      | _ => cases hx
    · cases h
  · rintro ⟨time, whole, rfl⟩
    have htime : Quantity.isFinite time = true := by
      simpa [isTree] using isTree_array.mp hj (.number time whole) (by simp)
    simp [valueText?, number?, htime, text?]

/-! ## Elements -/

namespace Element

/-- The element with these labels and this value. -/
def ofParts? (metric value : Json Float) : Option Element :=
  (labels? metric).bind fun labels => (valueText? value).map (⟨labels, ·⟩)

theorem ofParts?_eq_some_iff {metric value : Json Float} (hmetric : metric.isTree)
    (hvalue : value.isTree) {e : Element} :
    ofParts? metric value = some e ↔ e.IsMadeOf metric value := by
  simp only [ofParts?, Option.bind_eq_some_iff, Option.map_eq_some_iff]
  constructor
  · rintro ⟨labels, hlabels, text, htext, rfl⟩
    exact ⟨(labels?_eq_some_iff hmetric).mp hlabels, (valueText?_eq_some_iff hvalue).mp htext⟩
  · rintro ⟨hlabels, htext⟩
    exact ⟨e.labels, (labels?_eq_some_iff hmetric).mpr hlabels, e.valueText,
      (valueText?_eq_some_iff hvalue).mpr htext, rfl⟩

theorem ofJson?_array {items : List (Json Float)} {e : Element} :
    ofJson? (.array items) = some e ↔
      ∃ metric value, items = [metric, value] ∧ ofParts? metric value = some e := by
  rcases items with _ | ⟨metric, _ | ⟨value, _ | ⟨third, rest⟩⟩⟩
  case cons.cons.nil =>
    simp [ofJson?, ofParts?, Option.bind_eq_some_iff]
  all_goals simp [ofJson?, lastFields?]

theorem ofJson?_object {fields : List (String × Json Float)} (h : (fields.map Prod.fst).Nodup)
    {e : Element} : ofJson? (.object fields) = some e ↔
      ∃ metric, fields.lookup "metric" = some metric ∧
        ∃ value, fields.lookup "value" = some value ∧ ofParts? metric value = some e := by
  simp [ofJson?, lastFields?, ofParts?, SortedMap.get?_ofList h, Option.bind_eq_some_iff]

/-- An element is read from the trees that it is written as, and from no others. -/
theorem ofJson?_eq_some_iff {j : Json Float} (hj : j.isTree) {e : Element} :
    ofJson? j = some e ↔ e.Written j := by
  cases j with
  | object fields =>
    obtain ⟨hnodup, hfields⟩ := isTree_object.mp hj
    have htree : ∀ {name j}, fields.lookup name = some j → j.isTree :=
      fun h => hfields _ (Entries.mem_of_lookup h)
    rw [ofJson?_object hnodup]
    constructor
    · rintro ⟨metric, hmetric, value, hvalue, h⟩
      exact .object hmetric hvalue ((ofParts?_eq_some_iff (htree hmetric) (htree hvalue)).mp h)
    · intro h
      cases h with
      | object hmetric hvalue h =>
        exact ⟨_, hmetric, _, hvalue, (ofParts?_eq_some_iff (htree hmetric) (htree hvalue)).mpr h⟩
  | array items =>
    have hitems := isTree_array.mp hj
    rw [ofJson?_array]
    constructor
    · rintro ⟨metric, value, rfl, h⟩
      exact .array ((ofParts?_eq_some_iff (hitems metric (by simp)) (hitems value (by simp))).mp h)
    · intro h
      cases h with
      | @array metric value h =>
        exact ⟨metric, value, rfl,
          (ofParts?_eq_some_iff (hitems metric (by simp)) (hitems value (by simp))).mpr h⟩
  | _ => exact ⟨nofun, nofun⟩

end Element

/-- A list of elements is read from the vectors of these elements, and from nothing else. -/
theorem list?_ofJson?_eq_some_iff {result : Json Float} (h : result.isTree)
    {elements : List Element} :
    result.list? Element.ofJson? = some elements ↔ IsVector elements result := by
  cases result with
  | array items =>
    simp only [list?, mapM_eq_some_iff, IsVector, Json.array.injEq, exists_eq_left']
    have hitems := isTree_array.mp h
    clear h
    induction items generalizing elements with
    | nil => simp
    | cons j items ih =>
      obtain ⟨hj, hitems⟩ := List.forall_mem_cons.mp hitems
      simp only [List.forall₂_cons_left_iff, List.forall₂_cons_right_iff,
        Element.ofJson?_eq_some_iff hj, ih hitems]
  | _ => simp [list?, IsVector]

/-! ## Documents -/

theorem withDefault_of_mayHold {α : Type} {Written : α → Json Float → Prop}
    {read : Json Float → Option α} (hread : ∀ {a j}, Written a j → j.isTree → read j = some a)
    (hnull : read .null = none) {f : Fields Float} {name : String} {o : Option α}
    {field : Option (Json Float)} (hfield : f.present.lookup name = field)
    (h : MayHold Written o field) (htree : ∀ j, field = some j → j.isTree) :
    f.withDefault name none (optional? read) = some o := by
  rw [Fields.withDefault, hfield]
  cases h with
  | absent => rfl
  | null => rfl
  | @value a j h =>
    have hj := hread h (htree j rfl)
    cases j with
    | null => rw [hnull] at hj; cases hj
    | _ => simp [optional?, hj]

theorem Data.ofJson?_of_written {data : Data} {j : Json Float} (h : data.Written j)
    (hj : j.isTree) : Data.ofJson? j = some data := by
  cases h with
  | object hresultType hresult =>
    obtain ⟨f, hf, hlookup⟩ :=
      exists_record?_object _ (isTree_object.mp hj).1 ["resultType", "result"]
    simp [ofJson?, hf, Fields.required, hlookup, hresultType, hresult, text?]

theorem Document.ofJson?_of_written {d : Document} {j : Json Float} (h : d.Written j)
    (hj : j.isTree) : Document.ofJson? j = some d := by
  cases h with
  | @object fields hstatus hdata herrorType herror =>
    obtain ⟨hnodup, hfields⟩ := isTree_object.mp hj
    have htree : ∀ {name} j, fields.lookup name = some j → j.isTree :=
      fun _ h => hfields _ (Entries.mem_of_lookup h)
    obtain ⟨f, hf, hlookup⟩ :=
      exists_record?_object fields hnodup ["status", "data", "errorType", "error"]
    have hstatus : f.required "status" text? = some d.status := by
      simp [Fields.required, hlookup, hstatus, text?]
    have hdata : f.withDefault "data" none (optional? Data.ofJson?) = some d.data :=
      withDefault_of_mayHold Data.ofJson?_of_written rfl (hlookup "data" (by simp)) hdata htree
    have htext : ∀ {s j}, IsText s j → j.isTree → j.text? = some s :=
      fun h _ => text?_eq_some_iff.mpr h
    have herrorType : f.withDefault "errorType" none (optional? text?) = some d.errorType :=
      withDefault_of_mayHold htext rfl (hlookup "errorType" (by simp)) herrorType htree
    have herror : f.withDefault "error" none (optional? text?) = some d.error :=
      withDefault_of_mayHold htext rfl (hlookup "error" (by simp)) herror htree
    simp [ofJson?, hf, hstatus, hdata, herrorType, herror]

/-! ## Outcomes -/

theorem Element.sample_eq_ok_iff {e : Element} {s : Sample Float} :
    e.sample = .ok s ↔ e.IsSample s := by
  constructor
  · intro h
    cases hvalue : Decimal.readNumber? e.valueText with
    | none => simp [sample, hvalue] at h
    | some x =>
      simp only [sample, hvalue, Except.ok.injEq] at h
      exact h ▸ ⟨rfl, hvalue⟩
  · rintro ⟨hlabels, hvalue⟩
    simp [sample, hvalue, ← hlabels]

theorem Element.exists_sample_iff {e : Element} :
    (∃ s, e.sample = .ok s) ↔ ∃ x, Decimal.readNumber? e.valueText = some x := by
  simp only [sample_eq_ok_iff]
  exact ⟨fun ⟨s, hs⟩ => ⟨s.value, hs.value⟩, fun ⟨x, hx⟩ => ⟨⟨e.labels, x⟩, rfl, hx⟩⟩

theorem Element.sample_eq_error_iff {e : Element} {fault : TelemetryFault} :
    e.sample = .error fault ↔ Decimal.readNumber? e.valueText = none ∧
      fault = .backend "bad_value" ("sample value '" ++ e.valueText ++ "' is not a number") := by
  cases hvalue : Decimal.readNumber? e.valueText <;> simp [sample, hvalue, eq_comm]

theorem mapM_sample_eq_ok_iff {elements : List Element} {samples : List (Sample Float)} :
    elements.mapM Element.sample = .ok samples ↔
      List.Forall₂ Element.IsSample elements samples := by
  simp only [mapM_eq_ok_iff, Element.sample_eq_ok_iff]

theorem mapM_sample_eq_error_iff {elements : List Element} {fault : TelemetryFault} :
    elements.mapM Element.sample = .error fault ↔ ∃ before e after,
      elements = before ++ e :: after ∧
        (∀ e' ∈ before, ∃ x, Decimal.readNumber? e'.valueText = some x) ∧
        Decimal.readNumber? e.valueText = none ∧
        fault = .backend "bad_value" ("sample value '" ++ e.valueText ++ "' is not a number") := by
  simp only [mapM_eq_error_iff, Element.exists_sample_iff, Element.sample_eq_error_iff]

namespace Document

variable {d : Document}

theorem outcome_samples (htree : ∀ data, d.data = some data → data.result.isTree) :
    d.Outcome d.samples := by
  unfold samples
  -- one test after another, each of which leaves one case behind
  split
  next hstatus => exact .failed hstatus
  next hstatus =>
  replace hstatus := Decidable.not_not.mp hstatus
  split
  next hdata => exact .nothing hstatus hdata
  next data hdata =>
  split
  next htype => exact .otherType hstatus hdata htype
  next htype =>
  replace htype := Decidable.not_not.mp htype
  have hvector : ∀ {elements},
      data.result.list? Element.ofJson? = some elements ↔ IsVector elements data.result :=
    list?_ofJson?_eq_some_iff (htree data hdata)
  split
  next hnone =>
    exact .misshapen hstatus hdata htype fun elements h => by
      rw [hvector.mpr h] at hnone
      cases hnone
  next elements helements =>
  have hresult := hvector.mp helements
  cases h : elements.mapM Element.sample with
  | ok samples => exact .samples hstatus hdata htype hresult (mapM_sample_eq_ok_iff.mp h)
  | error fault =>
    obtain ⟨before, e, after, rfl, hbefore, he, rfl⟩ := mapM_sample_eq_error_iff.mp h
    exact .badValue hstatus hdata htype hresult hbefore he

theorem samples_of_outcome (htree : ∀ data, d.data = some data → data.result.isTree)
    {r : Except TelemetryFault (List (Sample Float))} (h : d.Outcome r) : d.samples = r := by
  have hvector : ∀ {data}, d.data = some data → ∀ {elements},
      IsVector elements data.result → data.result.list? Element.ofJson? = some elements :=
    fun hdata => (list?_ofJson?_eq_some_iff (htree _ hdata)).mpr
  cases h with
  | failed hstatus => rw [samples, if_pos hstatus]
  | nothing hstatus hdata => simp [samples, hstatus, hdata]
  | otherType hstatus hdata htype => simp [samples, hstatus, hdata, htype]
  | @misshapen data hstatus hdata htype hresult =>
    have hnone : data.result.list? Element.ofJson? = none := by
      refine Option.eq_none_iff_forall_ne_some.mpr fun elements h => hresult elements ?_
      exact (list?_ofJson?_eq_some_iff (htree data hdata)).mp h
    simp [samples, hstatus, hdata, htype, hnone]
  | @badValue data before after e hstatus hdata htype hresult hbefore he =>
    have hfault := mapM_sample_eq_error_iff.mpr ⟨before, e, after, rfl, hbefore, he, rfl⟩
    simp [samples, hstatus, hdata, htype, hvector hdata hresult, hfault]
  | samples hstatus hdata htype hresult hsamples =>
    have hok := mapM_sample_eq_ok_iff.mpr hsamples
    simp [samples, hstatus, hdata, htype, hvector hdata hresult, hok]

theorem samples_eq_iff (htree : ∀ data, d.data = some data → data.result.isTree)
    {r : Except TelemetryFault (List (Sample Float))} : d.samples = r ↔ d.Outcome r :=
  ⟨fun h => h ▸ outcome_samples htree, samples_of_outcome htree⟩

theorem Written.isTree_result {j : Json Float} (h : d.Written j) (hj : j.isTree) {data : Data}
    (hdata : d.data = some data) : data.result.isTree := by
  cases h with
  | @object fields _ hwritten _ _ =>
    rw [hdata] at hwritten
    generalize hfield : fields.lookup "data" = field at hwritten
    cases hwritten with
    | value h =>
      have htree := (isTree_object.mp hj).2 _ (Entries.mem_of_lookup hfield)
      cases h with
      | object _ hresult => exact (isTree_object.mp htree).2 _ (Entries.mem_of_lookup hresult)

/-- How deep the result nests, if there is one. -/
def depth (d : Document) : Nat := d.data.elim 0 fun data => data.result.depth

end Document

/-- A result is taken as far down as it is sound. -/
theorem hasSoundResult_iff {j : Json Float} {d : Document} (h : d.Written j) (hj : j.isTree) :
    hasSoundResult j = true ↔ d.depth ≤ resultDepth := by
  rw [hasSoundResult, Document.ofJson?_of_written h hj, Option.bind_some, Document.depth]
  cases hdata : d.data with
  | none => simp
  | some data => exact isSound_iff resultDepth data.result (h.isTree_result hj hdata)

section

variable {text : String} {j : Json Float} {d : Document}

theorem readResponse_of_depth_le (hread : Json.read? text = some j) (hj : j.isTree)
    (hd : d.Written j) (h : d.depth ≤ resultDepth) : readResponse text = d.samples := by
  simp [readResponse, hread, (hasSoundResult_iff hd hj).mpr h, samplesOf,
    Document.ofJson?_of_written hd hj]

/-- A result that nests too deeply spoils any response, also one whose result does not matter. -/
theorem readResponse_of_lt_depth (hread : Json.read? text = some j) (hj : j.isTree)
    (hd : d.Written j) (h : resultDepth < d.depth) : readResponse text = .error .malformed := by
  have hnot : ¬ hasSoundResult j = true := by
    rw [hasSoundResult_iff hd hj]
    omega
  simp [readResponse, hread, hnot]

/-- **A response is decoded completely and in order, or rejected**: what comes of it is decided by
its status first, then by its data, their type, the shapes of the elements and their values, and a
vector gives one sample for each element. -/
theorem readResponse_eq_iff (hread : Json.read? text = some j) (hj : j.isTree) (hd : d.Written j)
    (r : Except TelemetryFault (List (Sample Float))) :
    readResponse text = r ↔
      if d.depth ≤ resultDepth then d.Outcome r else r = .error .malformed := by
  split
  next h =>
    rw [readResponse_of_depth_le hread hj hd h]
    exact Document.samples_eq_iff fun data => hd.isTree_result hj
  next h =>
    rw [readResponse_of_lt_depth hread hj hd (Nat.not_le.mp h)]
    exact eq_comm

end

/-- A response with two samples, of which the second has more labels. -/
def sampleText : String :=
  "\x7b\"status\": \"success\", \"data\": \x7b\"resultType\": \"vector\", \"result\": [" ++
    "\x7b\"metric\": \x7b\"app\": \"web\"\x7d, \"value\": [1.5, \"2.5\"]\x7d, " ++
    "\x7b\"value\": [1.5, \"0\"], " ++
    "\"metric\": \x7b\"zone\": \"b\", \"app\": \"api\"\x7d\x7d]\x7d\x7d"

def sampleResult : Json Float :=
  .array [
    .object [("metric", .object [("app", .string "web")]),
      ("value", .array [.number 1.5 none, .string "2.5"])],
    .object [("value", .array [.number 1.5 none, .string "0"]),
      ("metric", .object [("zone", .string "b"), ("app", .string "api")])]]

def sampleTree : Json Float :=
  .object [("status", .string "success"),
    ("data", .object [("resultType", .string "vector"), ("result", sampleResult)])]

def sampleDocument : Document := ⟨"success", some ⟨"vector", sampleResult⟩, none, none⟩

/-- An element is made of its labels, one field for each, and its value. -/
theorem isMadeOf_ofList (labels : List (String × String)) (h : (labels.map Prod.fst).Nodup)
    (valueText : String) (time : Float) (whole : Option Nat) :
    Element.IsMadeOf ⟨SortedMap.ofList labels, valueText⟩
      (.object (labels.map fun e => (e.1, .string e.2)))
      (.array [.number time whole, .string valueText]) := by
  refine ⟨⟨_, rfl, fun name => ?_⟩, time, whole, rfl⟩
  rw [SortedMap.get?_ofList h]
  exact Entries.lookup_mapValues (fun _ => Json.string) name labels

/-- The samples come in the order of the elements, each with its own labels and value. -/
theorem readResponse_sampleText :
    Json.read? sampleText = some sampleTree ∧ sampleTree.isTree ∧
      sampleDocument.Written sampleTree ∧
      readResponse sampleText = .ok [⟨SortedMap.ofList [("app", "web")], 2.5⟩,
        ⟨SortedMap.ofList [("zone", "b"), ("app", "api")], 0⟩] := by
  have hread : Json.read? sampleText = some sampleTree := by decide +kernel
  have htree : sampleTree.isTree := by decide +kernel
  have hwritten : sampleDocument.Written sampleTree :=
    .object rfl (.value (.object rfl rfl)) .absent .absent
  have hvector : IsVector [⟨SortedMap.ofList [("app", "web")], "2.5"⟩,
      ⟨SortedMap.ofList [("zone", "b"), ("app", "api")], "0"⟩] sampleResult :=
    ⟨_, rfl, .cons (.object rfl rfl (isMadeOf_ofList [("app", "web")] (by decide) _ _ _))
      (.cons (.object rfl rfl (isMadeOf_ofList [("zone", "b"), ("app", "api")] (by decide) _ _ _))
        .nil)⟩
  have hfirst : Decimal.readNumber? "2.5" = some 2.5 := by decide +kernel
  have hsecond : Decimal.readNumber? "0" = some 0 := by decide +kernel
  refine ⟨hread, htree, hwritten, (readResponse_eq_iff hread htree hwritten _).mpr ?_⟩
  rw [if_pos (by decide)]
  exact .samples rfl rfl rfl hvector (.cons ⟨rfl, hfirst⟩ (.cons ⟨rfl, hsecond⟩ .nil))

/-- A list of characters is read as the text of them. -/
theorem read?_ofList {cs : List Char} {j : Json Float}
    (h : Json.readValue (2 * cs.length + 2) cs = some (j, [])) :
    Json.read? (String.ofList cs) = some j := by
  rw [Json.read?, String.toList_ofList, h]
  rfl

/-- Arrays in one another. -/
def nestedArrays : Nat → Json Float
  | 0 => .array []
  | n + 1 => .array [nestedArrays n]

/-- The elements of a vector are objects. -/
def Document.HasObjects (d : Document) : Prop :=
  ∀ data items, d.data = some data → data.resultType = "vector" → data.result = .array items →
    ∀ item ∈ items, ∃ fields, item = .object fields

/-- The backend reports a failure, beside a result that is no vector and nests too deeply. -/
def deepText : String :=
  String.ofList (
    "\x7b\"status\": \"error\", \"data\": \x7b\"resultType\": \"matrix\", \"result\": ".toList ++
      List.replicate 126 '[' ++ List.replicate 126 ']' ++ "\x7d\x7d".toList)

def deepTree : Json Float :=
  .object [("status", .string "error"),
    ("data", .object [("resultType", .string "matrix"), ("result", nestedArrays 125)])]

def deepDocument : Document := ⟨"error", some ⟨"matrix", nestedArrays 125⟩, none, none⟩

/-- The depth of a result does matter, even where the backend reports a failure. -/
theorem not_forall_readResponse_eq_iff_outcome :
    ¬ ∀ (text : String) (j : Json Float) (d : Document), Json.read? text = some j → j.isTree →
      d.Written j → d.HasObjects → ∀ r, readResponse text = r ↔ d.Outcome r := by
  intro h
  have hread : Json.read? deepText = some deepTree := read?_ofList (by decide +kernel)
  have htree : deepTree.isTree := by decide +kernel
  have hwritten : deepDocument.Written deepTree :=
    .object rfl (.value (.object rfl rfl)) .absent .absent
  have hobjects : deepDocument.HasObjects := by
    rintro data items hdata htype
    cases hdata
    exact absurd htype (by decide)
  have hfailed := (h deepText deepTree deepDocument hread htree hwritten hobjects _).mpr
    (.failed (by decide))
  rw [readResponse_of_lt_depth hread htree hwritten (by decide +kernel)] at hfailed
  cases hfailed

end MeshTraffic.Response
