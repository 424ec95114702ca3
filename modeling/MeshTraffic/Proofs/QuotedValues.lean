import MeshTraffic.Proofs.AskedQueries
import MeshTraffic.Proofs.FocalTraffic
import MeshTraffic.Proofs.QueryText

/-!
# Which queries of a request are read back

* `Request.ComparesOver`: the strings that a request's queries compare labels with have no
  characters but those of a class, such as the literal ones.
* `QuerySet.arePlain_namespaceRequests`, `QuerySet.arePlain_nodeQueries`: the conditions of the
  queries are plain over a class if these strings are over it. The other values of the queries are
  fixed.
* `Request.Poses.isPlainName`: all labels of the queries have plain names, whatever the request.
* `Request.queries_readBack`: which queries are read back, and what becomes of the others.
  `Request.not_forall_matchers_eq`: a string of a request can add a condition to its queries.
-/

namespace MeshTraffic

variable {ν : Type}

/-! ## Values over a class -/

namespace Matcher

variable {p : Char → Bool} {label value : String}

@[simp] theorem isPlain_equal_iff :
    (equal label value).IsPlain p ↔ isPlainName label = true ∧ isOver p value = true :=
  ⟨fun h => ⟨h.label, h.value⟩, fun h => ⟨h.1, h.2⟩⟩

@[simp] theorem isPlain_notEqual_iff :
    (notEqual label value).IsPlain p ↔ isPlainName label = true ∧ isOver p value = true :=
  ⟨fun h => ⟨h.label, h.value⟩, fun h => ⟨h.1, h.2⟩⟩

@[simp] theorem isPlain_regex_iff :
    (regex label value).IsPlain p ↔ isPlainName label = true ∧ isOver p value = true :=
  ⟨fun h => ⟨h.label, h.value⟩, fun h => ⟨h.1, h.2⟩⟩

end Matcher

/-- A class of characters with the literal ones in it. -/
def HasLiterals (p : Char → Bool) : Prop := ∀ c, isLiteralChar c = true → p c = true

section Classes

variable {p : Char → Bool} (hp : HasLiterals p)

include hp

theorem HasLiterals.isOver {value : String} (h : isLiteral value = true) :
    MeshTraffic.isOver p value = true :=
  List.all_eq_true.mpr fun c hc => hp c (List.all_eq_true.mp h c hc)

theorem HasLiterals.isOver_knownPart {value : String} (h : MeshTraffic.isOver p value = true) :
    MeshTraffic.isOver p (knownPart value) = true := by
  unfold knownPart
  split
  · exact hp.isOver (by decide)
  · exact h

end Classes

/-- All labels are over a class of characters. -/
structure Labels.AreOver (p : Char → Bool) (l : Labels) : Prop where
  ns : isOver p l.ns = true
  workload : isOver p l.workload = true
  app : isOver p l.app = true
  version : isOver p l.version = true
  service : isOver p l.service = true

theorem Labels.AreOver.trim {p : Char → Bool} (hp : HasLiterals p) {l : Labels} (h : l.AreOver p)
    (kind : NodeKind) : (l.trim kind).AreOver p := by
  have hempty : isOver p "" = true := rfl
  have hunknown : isOver p unknownLabel = true := hp.isOver (by decide)
  have hworkload := hp.isOver_knownPart h.workload
  have happ := hp.isOver_knownPart h.app
  have hversion := hp.isOver_knownPart h.version
  cases kind with
  | unknown => exact ⟨hunknown, hempty, hempty, hempty, hempty⟩
  | workload => exact ⟨h.ns, hworkload, happ, hversion, hempty⟩
  | app => exact ⟨h.ns, hempty, happ, hempty, hempty⟩
  | versionedApp => exact ⟨h.ns, hworkload, happ, hversion, hempty⟩
  | service => exact ⟨h.ns, hempty, hempty, hempty, hp.isOver_knownPart h.service⟩

namespace QuerySet

open SeriesLabel Matcher

section Queries

variable {p : Char → Bool} (hp : HasLiterals p)

include hp

theorem isPlain_reportedBy_source : (reportedBy "source").IsPlain p :=
  ⟨by decide, hp.isOver (by decide)⟩

theorem isPlain_reportedBy_destination : (reportedBy "destination").IsPlain p :=
  ⟨by decide, hp.isOver (by decide)⟩

theorem isPlain_fromUnknown : fromUnknown.IsPlain p := ⟨by decide, hp.isOver (by decide)⟩

theorem isPlain_notFromUnknown : notFromUnknown.IsPlain p := ⟨by decide, hp.isOver (by decide)⟩

theorem isPlain_withCodes {codes : String} (h : isLiteral codes = true) :
    (withCodes codes).IsPlain p :=
  isPlain_regex_iff.mpr ⟨by decide, hp.isOver h⟩

theorem arePlain_namespaceRequests (metric : String) {codes ns : String} (groupBy : List String)
    (window : Nat) {r : Request} (hcodes : isLiteral codes = true) (hns : isOver p ns = true)
    (hcontrolPlane : isOver p r.controlPlane = true) :
    ∀ q ∈ namespaceRequests metric codes groupBy ns window r, ArePlain p q.matchers := by
  have hcodes := isPlain_withCodes hp hcodes
  unfold namespaceRequests
  split <;> [split; skip] <;>
    simp +decide [hcodes, hns, hcontrolPlane, isPlain_reportedBy_source hp,
      isPlain_reportedBy_destination hp, isPlain_fromUnknown hp, isPlain_notFromUnknown hp]

theorem arePlain_namespaceBytes {ns : String} (window : Nat) (hns : isOver p ns = true) :
    ∀ q ∈ namespaceBytes ns window, ArePlain p q.matchers := by
  simp +decide [namespaceBytes, hns, isPlain_reportedBy_source hp,
    isPlain_reportedBy_destination hp, isPlain_fromUnknown hp, isPlain_notFromUnknown hp]

theorem arePlain_commonConditions : ArePlain p commonConditions := by
  have hcodes : (withCodes trafficCodes).IsPlain p := isPlain_withCodes hp (by decide)
  simp [commonConditions, hcodes, isPlain_reportedBy_source hp, isPlain_reportedBy_destination hp,
    isPlain_fromUnknown hp]

theorem IsAbout.arePlain {q : RateQuery} {core : List Matcher} (h : IsAbout q core)
    (hcore : ArePlain p core) : ArePlain p q.matchers :=
  fun m hm => (h.2 m hm).elim (hcore m) (arePlain_commonConditions hp m)

end Queries

section Nodes

variable {p : Char → Bool}

theorem arePlain_ifGiven {label value : String} (hlabel : isPlainName label = true)
    (hvalue : isOver p value = true) : ArePlain p (ifGiven label value) := by
  unfold ifGiven
  split <;> simp [hlabel, hvalue]

variable {l : Labels} (h : l.AreOver p) (kind : NodeKind)

include h

theorem arePlain_leavesFrom : ArePlain p (leavesFrom kind l) := by
  cases kind <;>
    simp +decide [leavesFrom, arePlain_ifGiven, h.ns, h.workload, h.app, h.version]

theorem arePlain_leadsTo : ArePlain p (leadsTo kind l) := by
  cases kind <;>
    simp +decide [leadsTo, arePlain_ifGiven, h.ns, h.workload, h.app, h.version, h.service]

theorem arePlain_controlPlaneTraffic {controlPlane : String}
    (hcontrolPlane : isOver p controlPlane = true) :
    ArePlain p (controlPlaneTraffic kind l controlPlane) := by
  have haway := arePlain_leavesFrom h kind
  cases kind <;> simp +decide [controlPlaneTraffic, haway, hcontrolPlane, h.service]

end Nodes

theorem arePlain_nodeQueries {p : Char → Bool} (hp : HasLiterals p) {node : Node ν}
    (h : node.labels.AreOver p) {window : Nat} {r : Request}
    (hcontrolPlane : isOver p r.controlPlane = true) {set : QuerySet}
    (hset : nodeQueries node window r = .ok set) :
    ∀ q ∈ set.http ++ set.tcp, ArePlain p q.matchers := by
  intro q hq
  obtain habout | ⟨-, habout⟩ | ⟨-, habout⟩ := isAbout_of_mem_nodeQueries hset hq
  · exact habout.arePlain hp (arePlain_leadsTo h node.kind)
  · exact habout.arePlain hp (arePlain_leavesFrom h node.kind)
  · exact habout.arePlain hp (arePlain_cons.mpr ⟨isPlain_reportedBy_destination hp,
      arePlain_controlPlaneTraffic h node.kind hcontrolPlane⟩)

end QuerySet

namespace Request

/-- The strings of a request that its queries compare labels with are over a class of
characters. -/
structure ComparesOver (p : Char → Bool) (r : Request) : Prop where
  controlPlane : isOver p r.controlPlane = true
  namespaces : ∀ scope ∈ r.namespaces.values, isOver p scope.name = true
  /-- The namespace of the wanted node is not compared. -/
  focus : ∀ l, r.focus = some l → Labels.AreOver p { l with ns := "" }

/-- If the strings of a request are over a class, its queries have plain conditions over it. -/
theorem Poses.arePlain {p : Char → Bool} (hp : HasLiterals p) {r : Request} {q : RateQuery}
    {text : String} (h : r.Poses ν q text) (hr : r.ComparesOver p) :
    Matcher.ArePlain p q.matchers := by
  cases h with
  | namespaceTraffic hscope hq =>
    rcases List.mem_append.mp hq with hq | hq
    · exact QuerySet.arePlain_namespaceRequests hp _ _ _ (by decide) (hr.namespaces _ hscope)
        hr.controlPlane q hq
    · exact QuerySet.arePlain_namespaceBytes hp _ (hr.namespaces _ hscope) q hq
  | nodeTraffic hscope hfocus hset hq =>
    have hlabels := hr.focus _ hfocus
    refine QuerySet.arePlain_nodeQueries hp (Labels.AreOver.trim hp ?_ _) hr.controlPlane hset q hq
    exact ⟨hr.namespaces _ hscope, hlabels.workload, hlabels.app, hlabels.version,
      hlabels.service⟩
  | responseTime hscope hq =>
    exact QuerySet.arePlain_namespaceRequests hp _ _ _ (by decide) (hr.namespaces _ hscope)
      hr.controlPlane q hq

/-- All labels that a request's queries compare have plain names, whatever its strings are. -/
theorem Poses.isPlainName {r : Request} {q : RateQuery} {text : String} (h : r.Poses ν q text) :
    ∀ m ∈ q.matchers, isPlainName m.label = true := by
  have hall (value : String) : isOver (fun _ => true) value = true :=
    List.all_eq_true.mpr (by simp)
  have hr : r.ComparesOver fun _ => true :=
    ⟨hall _, fun _ _ => hall _, fun _ _ => ⟨hall _, hall _, hall _, hall _, hall _⟩⟩
  exact fun m hm => (h.arePlain (fun _ _ => rfl) hr m hm).label

/-- What is asked is a text of the query. -/
theorem Poses.hasText {r : Request} {q : RateQuery} {text : String} (h : r.Poses ν q text) :
    ∃ opening closing, q.HasText opening text closing := by
  cases h with
  | namespaceTraffic | nodeTraffic => exact ⟨_, _, .rounded .sumRate⟩
  | responseTime => exact ⟨_, _, .rounded (.histogramQuantile _)⟩

/-- A request's queries are read back if its strings are literal. -/
theorem Poses.readsBack {r : Request} {q : RateQuery} {text : String} (h : r.Poses ν q text)
    (hr : r.ComparesOver isLiteralChar) : q.ReadsBack :=
  (RateQuery.readsBack_iff h.isPlainName).mpr fun m hm =>
    (h.arePlain (fun _ => id) hr m hm).value

/-! ## How queries read -/

/-- **Literal values cannot change the structure of a query, but quotes in a value do.** A query is
read back exactly if its values are literal. Queries with the same text have the same conditions if
no value has a quote. A quote ends a value, and the rest of the value is read as the query; so it
can be one more condition. What a build asks is the text of queries of the request, which compare
labels with plain names, and they are read back if the strings of the request are literal. -/
theorem queries_readBack (ν : Type) [Quantity ν] :
    (∀ q : RateQuery, (∀ m ∈ q.matchers, isPlainName m.label = true) →
      (q.ReadsBack ↔ ∀ m ∈ q.matchers, isLiteral m.value = true)) ∧
    (∀ (metric : String) (window : Nat) (groupBy : List String) (ms ms' : List Matcher),
      Matcher.ArePlain (· != '"') ms → Matcher.ArePlain (· != '"') ms' →
        RateQuery.ReadsLike ⟨metric, window, ms, groupBy⟩ ⟨metric, window, ms', groupBy⟩ →
          ms = ms') ∧
    (∀ (q : RateQuery) (before after : List Matcher) (label : String) (c : Comparison)
        (value rest : String),
      q.matchers = before ++ ⟨label, c, value ++ "\"" ++ rest⟩ :: after →
        Matcher.ArePlain isLiteralChar (before ++ [⟨label, c, value⟩]) →
          ∀ opening text closing, q.HasText opening text closing → ∀ ms tail,
            (RateQuery.IsReadAfter opening text ms tail ↔
              ∃ more, ms = before ++ ⟨label, c, value⟩ :: more ∧
                Matcher.ReadFurther isLiteralChar
                  (rest.toList ++ '"' :: Matcher.furtherChars after ++ '\x7d' :: closing.toList)
                    more tail.toList)) ∧
    (∀ (q : RateQuery) (before after : List Matcher) (label further : String) (c c' : Comparison)
        (value rest : String),
      q.matchers = before ++
          ⟨label, c, value ++ "\"" ++ ("," ++ further ++ c'.sign ++ "\"" ++ rest)⟩ :: after →
        ∀ opening text closing, q.HasText opening text closing →
          RateQuery.HasText
            { q with matchers := before ++ ⟨label, c, value⟩ :: ⟨further, c', rest⟩ :: after }
            opening text closing) ∧
    ∀ (r : Request) (b : Backend ν) (c : Clock), ∀ text ∈ (r.graph [] b c).asked,
      ∃ q, r.Poses ν q text ∧ (∃ opening closing, q.HasText opening text closing) ∧
        (∀ m ∈ q.matchers, isPlainName m.label = true) ∧
          (r.ComparesOver isLiteralChar → q.ReadsBack) := by
  refine ⟨fun _ => RateQuery.readsBack_iff, ?_, ?_, ?_, fun r b c text htext => ?_⟩
  · intro metric window groupBy ms ms' hms hms' h
    exact RateQuery.matchers_eq_of_readsLike h hms hms' rfl rfl rfl
  · intro q before after label c value rest hmatchers hplain opening text closing h ms tail
    exact h.isReadAfter_cut_iff hmatchers hplain
  · intro q before after label further c c' value rest hmatchers opening text closing h
    apply h.with_matchers
    rw [hmatchers, Matcher.splits]
  · obtain ⟨q, hq⟩ := exists_poses_of_graph htext
    exact ⟨q, hq, hq.hasText, hq.isPlainName, hq.readsBack⟩

/-- A request for all traffic of `bookinfo`. -/
def allOfBookinfo : Request := withNamespace { queryTime := default } "bookinfo" 600

theorem comparesOver_allOfBookinfo : allOfBookinfo.ComparesOver isLiteralChar where
  controlPlane := by decide
  namespaces scope hscope := by
    obtain rfl : scope = ⟨"bookinfo", 600⟩ := List.mem_singleton.mp hscope
    decide
  focus _ h := nomatch h

/-- What is asked for the traffic within `bookinfo`. -/
def withinBookinfo : String :=
  "round(sum(rate(istio_requests_total\x7breporter=\"source\"," ++
    "source_workload_namespace=\"bookinfo\",response_code=~\"[2345][0-9][0-9]\"\x7d [600s])) " ++
    "by (source_workload_namespace,source_workload,source_app,source_version," ++
    "destination_service_namespace,destination_service_name,destination_workload," ++
    "destination_app,destination_version,response_code),0.001)"

/-- A name of a namespace that closes the conditions and begins another selector. -/
def closingName : String := "bookinfo\"\x7d[60s])) or sum(rate(up\x7bjob="

/-- What the source side reports of traffic within `bookinfo` is asked in one query, which is read
back. With `closingName`, another metric is asked for. A condition more shows in the text of a
query, unless a value has it in quotes. -/
theorem queries_readBack_allOfBookinfo :
    (∃ q, allOfBookinfo.Poses Rat q withinBookinfo ∧
      (∃ opening closing, q.HasText opening withinBookinfo closing) ∧ q.ReadsBack) ∧
    ¬ RateQuery.ReadsBack ⟨"m", 60, [.equal "a" closingName], []⟩ ∧
    RateQuery.IsReadAfter ("sum(rate(" ++ "m" ++ "\x7b")
      (RateQuery.mk "m" 60 [.equal "a" closingName] []).sumRate [.equal "a" "bookinfo"]
      "[60s])) or sum(rate(up\x7bjob=\"\x7d [60s])) by ()" ∧
    ¬ RateQuery.ReadsLike ⟨"m", 60, [.equal "a" "x"], []⟩
      ⟨"m", 60, [.equal "a" "x", .equal "b" "y"], []⟩ ∧
    RateQuery.HasText ⟨"m", 60, [.equal "a" "x", .equal "b" "y"], []⟩
      ("sum(rate(" ++ "m" ++ "\x7b") "sum(rate(m\x7ba=\"x\",b=\"y\"\x7d [60s])) by ()"
      (" " ++ "[60s]" ++ ")) by (" ++ "" ++ ")") := by
  obtain ⟨hback, hinj, hcut, hsplit, hasked⟩ := queries_readBack Rat
  refine ⟨?_, ?_, ?_, ?_, ?_⟩
  · exact (hasked allOfBookinfo (fun _ => .ok []) {} _ (by decide +kernel)).imp
      fun q h => ⟨h.1, h.2.1, h.2.2.2 comparesOver_allOfBookinfo⟩
  · rw [hback _ (by decide)]
    decide
  · have hplain : (Matcher.mk "a" .equal "bookinfo").IsPlain isLiteralChar :=
      ⟨by decide, by decide⟩
    refine (hcut ⟨"m", 60, [.equal "a" closingName], []⟩ [] [] "a" .equal "bookinfo"
      "\x7d[60s])) or sum(rate(up\x7bjob=" rfl (by simp [hplain]) _ _ _ .sumRate _ _).mpr
        ⟨[], rfl, ?_⟩
    exact Matcher.readFurther_close_iff.mpr ⟨rfl, by decide +kernel⟩
  · intro h
    have heq := hinj "m" 60 [] _ _ (by simp +decide) (by simp +decide) h
    exact absurd heq (by decide)
  · exact hsplit ⟨"m", 60, [.equal "a" "x\",b=\"y"], []⟩ [] [] "a" "b" .equal .equal "x" "y" rfl
      _ _ _ .sumRate

/-- A quote in a value can make two conditions of one. -/
theorem not_forall_matchers_eq :
    ¬ ∀ (metric : String) (window : Nat) (groupBy : List String) (ms ms' : List Matcher),
      (∀ m ∈ ms, isPlainName m.label = true) → (∀ m ∈ ms', isPlainName m.label = true) →
        (RateQuery.mk metric window ms groupBy).sumRate =
            (RateQuery.mk metric window ms' groupBy).sumRate →
          ms = ms' := by
  intro h
  have heq := h "m" 60 [] [.equal "a" "x\",b=\"y"] [.equal "a" "x", .equal "b" "y"] (by decide)
    (by decide) (by decide +kernel)
  exact absurd heq (by decide)

end Request

end MeshTraffic
