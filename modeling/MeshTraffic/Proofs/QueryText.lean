import Mathlib.Data.List.Basic
import MeshTraffic.Query.Selection

/-!
# How queries read

The text of a query joins its conditions by commas, and a value stands between its quotes as it is.
Whoever reads the text ends a value at the first quote, whether or not this quote was written to
close it.

* `Matcher.read?`, `Matcher.ReadAll`: the conditions that a text has, and where it goes on.
  `Matcher.read?_eq_some_iff` and `Matcher.readAll_allChars_iff` tie both to the writer: what is
  read is what was written, if its values have no characters but those that the reader takes.
* `RateQuery.ReadsAs`: the texts of a query have some conditions, and nothing but its window and its
  grouping follow them. `RateQuery.readsBack_iff`: these are the conditions of the query exactly if
  their values are literal: they have neither quotes nor backslashes.
* `RateQuery.matchers_eq_of_readsLike`: queries with the same text have the same conditions if no
  value has a quote.
* `RateQuery.HasText.isReadAfter_cut_iff`, `Matcher.splits`: a quote in a value ends it, and the
  rest of the value is read as a part of the query.
-/

namespace MeshTraffic

/-! ## Values and signs -/

/-- A text that goes on with a character that is not of a class begins in one way with characters
of it. -/
theorem takeWhile_and_dropWhile_iff {p : Char → Bool} {cs l rest : List Char} {c : Char}
    (hc : p c = false) :
    cs.takeWhile p = l ∧ cs.dropWhile p = c :: rest ↔ l.all p = true ∧ cs = l ++ c :: rest := by
  constructor
  · rintro ⟨rfl, hrest⟩
    exact ⟨List.all_takeWhile, by rw [← hrest, List.takeWhile_append_dropWhile]⟩
  · rintro ⟨hl, rfl⟩
    have hl := List.all_eq_true.mp hl
    rw [List.takeWhile_append_of_pos hl, List.dropWhile_append_of_pos hl]
    simp [hc]

/-- All characters of a value are of a class. -/
def isOver (p : Char → Bool) (value : String) : Bool := value.toList.all p

/-- Reads a value whose characters are of a class, and the quote that ends it. -/
def readValue? (p : Char → Bool) (cs : List Char) : Option (String × List Char) :=
  match cs.dropWhile p with
  | '"' :: rest => some (.ofList (cs.takeWhile p), rest)
  | _ => none

theorem readValue?_eq_some_iff {p : Char → Bool} (hp : p '"' = false) {cs rest : List Char}
    {value : String} :
    readValue? p cs = some (value, rest) ↔
      isOver p value = true ∧ cs = value.toList ++ '"' :: rest := by
  rw [isOver, ← takeWhile_and_dropWhile_iff hp]
  unfold readValue?
  split
  · next h => simp [h, ← String.toList_inj]
  · next h => simpa using fun _ => h rest

/-- Reads a sign, and the quote that begins a value. -/
def Comparison.read? : List Char → Option (Comparison × List Char)
  | '=' :: '"' :: rest => some (.equal, rest)
  | '!' :: '=' :: '"' :: rest => some (.notEqual, rest)
  | '=' :: '~' :: '"' :: rest => some (.regex, rest)
  | _ => none

theorem Comparison.read?_eq_some_iff {cs rest : List Char} {c : Comparison} :
    read? cs = some (c, rest) ↔ cs = c.sign.toList ++ '"' :: rest := by
  constructor
  · intro h
    unfold read? at h
    split at h <;> cases h <;> rfl
  · rintro rfl
    cases c <;> rfl

/-! ## Conditions -/

/-- The characters of label names. -/
def isNameChar (c : Char) : Bool := c.isAlphanum || c = '_'

/-- A plain name of a label: letters, digits and `_`, and no digit comes first. -/
def isPlainName (label : String) : Bool :=
  isOver isNameChar label && label.toList.head?.any fun c => !c.isDigit

theorem isOver_isNameChar {label : String} (h : isPlainName label = true) :
    isOver isNameChar label = true := (Bool.and_eq_true_iff.mp h).1

/-- The characters that stand for themselves in a value. A quote ends it, and with a backslash
begins an escape. -/
def isLiteralChar (c : Char) : Bool := c ≠ '"' && c ≠ '\\'

/-- All characters of a literal value stand for themselves. -/
def isLiteral (value : String) : Bool := isOver isLiteralChar value

/-- A sign begins with a character that no name has. -/
theorem Comparison.exists_sign (c : Comparison) :
    ∃ a rest, c.sign.toList = a :: rest ∧ isNameChar a = false := by
  cases c
  · exact ⟨'=', [], rfl, by decide⟩
  · exact ⟨'!', ['='], rfl, by decide⟩
  · exact ⟨'=', ['~'], rfl, by decide⟩

namespace Matcher

variable {p : Char → Bool}

/-- The written condition, as characters. -/
def chars (m : Matcher) : List Char :=
  m.label.toList ++ m.comparison.sign.toList ++ '"' :: m.value.toList ++ ['"']

theorem toList_text (m : Matcher) : m.text.toList = m.chars := by
  simp [text, chars, String.toList_append]

/-- Reads a condition: a plain name, a sign and a value. -/
def read? (p : Char → Bool) (cs : List Char) : Option (Matcher × List Char) :=
  let label := String.ofList (cs.takeWhile isNameChar)
  if isPlainName label then do
    let (c, cs) ← Comparison.read? (cs.dropWhile isNameChar)
    let (value, cs) ← readValue? p cs
    return (⟨label, c, value⟩, cs)
  else none

/-- A plain condition: its label has a plain name, and the characters of its value are of a
class. -/
structure IsPlain (p : Char → Bool) (m : Matcher) : Prop where
  label : isPlainName m.label = true
  value : isOver p m.value = true

/-- The conditions are plain. -/
def ArePlain (p : Char → Bool) (ms : List Matcher) : Prop := ∀ m ∈ ms, m.IsPlain p

@[simp] theorem arePlain_nil : ArePlain p [] := fun _ h => nomatch h

@[simp] theorem arePlain_cons {m : Matcher} {ms : List Matcher} :
    ArePlain p (m :: ms) ↔ m.IsPlain p ∧ ArePlain p ms := List.forall_mem_cons

@[simp] theorem arePlain_append {ms ms' : List Matcher} :
    ArePlain p (ms ++ ms') ↔ ArePlain p ms ∧ ArePlain p ms' := List.forall_mem_append

/-- **What is read is what was written**, of plain conditions. -/
theorem read?_eq_some_iff (hp : p '"' = false) {cs rest : List Char} {m : Matcher} :
    read? p cs = some (m, rest) ↔ m.IsPlain p ∧ cs = m.chars ++ rest := by
  constructor
  · intro h
    obtain ⟨hlabel, h⟩ := Option.ite_none_right_eq_some.mp h
    obtain ⟨⟨c, afterSign⟩, hsign, h⟩ := Option.bind_eq_some_iff.mp h
    obtain ⟨⟨value, afterValue⟩, hvalue, h⟩ := Option.bind_eq_some_iff.mp h
    cases h
    obtain ⟨hall, rfl⟩ := (readValue?_eq_some_iff hp).mp hvalue
    have hsign := Comparison.read?_eq_some_iff.mp hsign
    refine ⟨⟨hlabel, hall⟩, ?_⟩
    calc cs = cs.takeWhile isNameChar ++ cs.dropWhile isNameChar :=
          List.takeWhile_append_dropWhile.symm
      _ = chars ⟨.ofList (cs.takeWhile isNameChar), c, value⟩ ++ rest := by simp [hsign, chars]
  · rintro ⟨⟨hlabel, hvalue⟩, rfl⟩
    obtain ⟨label, c, value⟩ := m
    obtain ⟨a, more, hsign, ha⟩ := c.exists_sign
    have hchars : chars ⟨label, c, value⟩ ++ rest =
        label.toList ++ a :: (more ++ '"' :: (value.toList ++ '"' :: rest)) := by
      simp [chars, hsign]
    obtain ⟨htake, hdrop⟩ := (takeWhile_and_dropWhile_iff ha).mpr ⟨isOver_isNameChar hlabel, hchars⟩
    rw [← List.cons_append, ← hsign] at hdrop
    have hlabel : isPlainName label = true := hlabel
    simp [read?, htake, hdrop, hlabel, Comparison.read?_eq_some_iff.mpr rfl,
      (readValue?_eq_some_iff hp).mpr ⟨hvalue, rfl⟩]

/-! ## Lists of conditions -/

/-- Reads further conditions, each after a comma, and the brace that closes them. -/
inductive ReadFurther (p : Char → Bool) : List Char → List Matcher → List Char → Prop where
  | close {tail : List Char} : ReadFurther p ('\x7d' :: tail) [] tail
  | next {cs rest tail : List Char} {m : Matcher} {ms : List Matcher} :
    read? p cs = some (m, rest) → ReadFurther p rest ms tail →
      ReadFurther p (',' :: cs) (m :: ms) tail

/-- Reads conditions and the brace that closes them; no comma stands before the first. -/
inductive ReadAll (p : Char → Bool) : List Char → List Matcher → List Char → Prop where
  | close {tail : List Char} : ReadAll p ('\x7d' :: tail) [] tail
  | first {cs rest tail : List Char} {m : Matcher} {ms : List Matcher} :
    read? p cs = some (m, rest) → ReadFurther p rest ms tail → ReadAll p cs (m :: ms) tail

/-- Further conditions, as characters. -/
def furtherChars (ms : List Matcher) : List Char := ms.flatMap fun m => ',' :: m.chars

/-- Conditions joined by commas, as characters. -/
def allChars : List Matcher → List Char
  | [] => []
  | m :: ms => m.chars ++ furtherChars ms

theorem toList_intercalate (ms : List Matcher) :
    (",".intercalate (ms.map text)).toList = allChars ms := by
  cases ms with
  | nil => rfl
  | cons m ms =>
    rw [String.toList_intercalate]
    induction ms generalizing m with
    | nil => simp [toList_text, allChars, furtherChars]
    | cons m' ms ih =>
      have htail := ih m'
      simp only [List.map_cons] at htail ⊢
      rw [List.intercalate_cons_cons, htail, toList_text]
      simp [allChars, furtherChars]

section Reading

variable {cs rest tail tail' : List Char} {m : Matcher} {before ms ms' : List Matcher}

@[simp] theorem readFurther_close_iff :
    ReadFurther p ('\x7d' :: tail) ms tail' ↔ ms = [] ∧ tail' = tail := by
  constructor
  · intro h
    cases h
    exact ⟨rfl, rfl⟩
  · rintro ⟨rfl, rfl⟩
    exact .close

theorem readFurther_next_iff (hread : read? p cs = some (m, rest)) :
    ReadFurther p (',' :: cs) ms tail ↔ ∃ more, ms = m :: more ∧ ReadFurther p rest more tail := by
  constructor
  · intro h
    cases h with
    | next hread' h =>
      cases hread.symm.trans hread'
      exact ⟨_, rfl, h⟩
  · rintro ⟨more, rfl, h⟩
    exact .next hread h

/-- A brace begins no condition. -/
theorem read?_close : read? p ('\x7d' :: cs) = none := rfl

theorem readAll_close_iff : ReadAll p ('\x7d' :: tail) ms tail' ↔ ms = [] ∧ tail' = tail := by
  constructor
  · intro h
    cases h with
    | close => exact ⟨rfl, rfl⟩
    | first hread _ => cases read?_close.symm.trans hread
  · rintro ⟨rfl, rfl⟩
    exact .close

theorem readAll_first_iff (hread : read? p cs = some (m, rest)) :
    ReadAll p cs ms tail ↔ ∃ more, ms = m :: more ∧ ReadFurther p rest more tail := by
  constructor
  · intro h
    cases h with
    | close => cases read?_close.symm.trans hread
    | first hread' h =>
      cases hread.symm.trans hread'
      exact ⟨_, rfl, h⟩
  · rintro ⟨more, rfl, h⟩
    exact .first hread h

/-- What begins with `m`, and goes on with `before`, begins with both. -/
theorem exists_cons_append_iff {P : List Matcher → Prop} :
    (∃ further, ms = m :: further ∧ ∃ more, further = before ++ more ∧ P more) ↔
      ∃ more, ms = m :: before ++ more ∧ P more := by
  constructor
  · rintro ⟨_, rfl, more, rfl, h⟩
    exact ⟨more, rfl, h⟩
  · rintro ⟨more, rfl, h⟩
    exact ⟨_, rfl, more, rfl, h⟩

variable (hp : p '"' = false)

include hp

theorem read?_chars (hm : m.IsPlain p) : read? p (m.chars ++ rest) = some (m, rest) :=
  (read?_eq_some_iff hp).mpr ⟨hm, rfl⟩

/-- After plain conditions, the reader goes on with what follows them. -/
theorem readFurther_append_iff (hbefore : ArePlain p before) :
    ReadFurther p (furtherChars before ++ cs) ms tail ↔
      ∃ more, ms = before ++ more ∧ ReadFurther p cs more tail := by
  induction before generalizing ms with
  | nil => simp [furtherChars]
  | cons b before ih =>
    obtain ⟨hb, hbefore⟩ := arePlain_cons.mp hbefore
    have htext : furtherChars (b :: before) ++ cs =
        ',' :: (b.chars ++ (furtherChars before ++ cs)) := by simp [furtherChars]
    rw [htext, readFurther_next_iff (read?_chars hp hb)]
    simp only [ih hbefore]
    exact exists_cons_append_iff

theorem readAll_append_iff (hbefore : ArePlain p (m :: before)) :
    ReadAll p (allChars (m :: before) ++ cs) ms tail ↔
      ∃ more, ms = m :: before ++ more ∧ ReadFurther p cs more tail := by
  obtain ⟨hm, hbefore⟩ := arePlain_cons.mp hbefore
  rw [allChars, List.append_assoc, readAll_first_iff (read?_chars hp hm)]
  simp only [readFurther_append_iff hp hbefore]
  exact exists_cons_append_iff

/-- **Plain conditions are read off their text**, and no others are. -/
theorem readAll_allChars_iff (hms : ArePlain p ms) :
    ReadAll p (allChars ms ++ '\x7d' :: tail) ms' tail' ↔ ms' = ms ∧ tail' = tail := by
  cases ms with
  | nil => exact readAll_close_iff
  | cons m ms => simp [readAll_append_iff hp hms]

/-- **Conditions that are read are plain**, and the text is how they are written. -/
theorem ReadFurther.sound (h : ReadFurther p cs ms tail) :
    ArePlain p ms ∧ cs = furtherChars ms ++ '\x7d' :: tail := by
  induction h with
  | close => simp [furtherChars]
  | next hread _ ih =>
    obtain ⟨hm, rfl⟩ := (read?_eq_some_iff hp).mp hread
    obtain ⟨hms, rfl⟩ := ih
    exact ⟨arePlain_cons.mpr ⟨hm, hms⟩, by simp [furtherChars]⟩

theorem ReadAll.sound (h : ReadAll p cs ms tail) :
    ArePlain p ms ∧ cs = allChars ms ++ '\x7d' :: tail := by
  cases h with
  | close => simp [allChars]
  | first hread h =>
    obtain ⟨hm, rfl⟩ := (read?_eq_some_iff hp).mp hread
    obtain ⟨hms, rfl⟩ := h.sound hp
    exact ⟨arePlain_cons.mpr ⟨hm, hms⟩, by simp [allChars]⟩

theorem allChars_inj (hms : ArePlain p ms) (hms' : ArePlain p ms')
    (h : allChars ms = allChars ms') : ms = ms' := by
  have hread : ReadAll p (allChars ms' ++ ['\x7d']) ms [] := by
    rw [← h]
    exact (readAll_allChars_iff hp hms).mpr ⟨rfl, rfl⟩
  exact ((readAll_allChars_iff hp hms').mp hread).1

end Reading

/-! ## Values with quotes -/

/-- A quote in a value ends it. -/
theorem chars_cut (label : String) (c : Comparison) (value rest : String) :
    chars ⟨label, c, value ++ "\"" ++ rest⟩ =
      chars ⟨label, c, value⟩ ++ (rest.toList ++ ['"']) := by
  simp [chars]

theorem allChars_append_cut (before after : List Matcher) (label : String) (c : Comparison)
    (value rest : String) :
    allChars (before ++ ⟨label, c, value ++ "\"" ++ rest⟩ :: after) =
      allChars (before ++ [⟨label, c, value⟩]) ++ (rest.toList ++ '"' :: furtherChars after) := by
  cases before <;> simp [allChars, furtherChars, chars_cut]

/-- **A value with a quote is read up to the quote**, and what follows the quote in the value is
read where further conditions or the closing brace are expected. -/
theorem readAll_cut_iff (hp : p '"' = false) {before after ms : List Matcher} {label : String}
    {c : Comparison} {value rest : String} {cs tail : List Char}
    (hplain : ArePlain p (before ++ [⟨label, c, value⟩])) :
    ReadAll p (allChars (before ++ ⟨label, c, value ++ "\"" ++ rest⟩ :: after) ++ cs) ms tail ↔
      ∃ more, ms = before ++ ⟨label, c, value⟩ :: more ∧
        ReadFurther p (rest.toList ++ '"' :: furtherChars after ++ cs) more tail := by
  rw [allChars_append_cut, List.append_assoc]
  cases before with
  | nil => exact readAll_append_iff hp hplain
  | cons b before =>
    rw [List.cons_append] at hplain ⊢
    rw [readAll_append_iff hp hplain]
    simp

/-- **A value with a quote, a comma and the beginning of a condition in it reads as two
conditions**, wherever it stands. -/
theorem splits (before after : List Matcher) (label further : String) (c c' : Comparison)
    (value rest : String) :
    ",".intercalate ((before ++
        ⟨label, c, value ++ "\"" ++ ("," ++ further ++ c'.sign ++ "\"" ++ rest)⟩ ::
          after).map text) =
      ",".intercalate ((before ++ ⟨label, c, value⟩ :: ⟨further, c', rest⟩ :: after).map text) := by
  apply String.toList_inj.mp
  rw [toList_intercalate, toList_intercalate, allChars_append_cut]
  cases before <;> simp [allChars, furtherChars, chars]

end Matcher

namespace RateQuery

variable {q q' : RateQuery}

/-! ### Texts that differ in the conditions only -/

theorem selector_eq_iff (hmetric : q.metric = q'.metric) :
    q.selector = q'.selector ↔
      ",".intercalate (q.matchers.map Matcher.text) =
        ",".intercalate (q'.matchers.map Matcher.text) := by
  rw [selector, selector, hmetric, String.append_left_inj, String.append_right_inj]

theorem sumRate_eq_iff (hwindow : q.window = q'.window) (hgroupBy : q.groupBy = q'.groupBy) :
    q.sumRate = q'.sumRate ↔ q.selector = q'.selector := by
  rw [sumRate, sumRate, range, range, hwindow, hgroupBy]
  simp only [String.append_left_inj]
  rw [String.append_right_inj]

theorem histogramQuantile_eq_iff (hwindow : q.window = q'.window)
    (hgroupBy : q.groupBy = q'.groupBy) (quantile : Float) :
    q.histogramQuantile quantile = q'.histogramQuantile quantile ↔ q.selector = q'.selector := by
  unfold histogramQuantile range
  -- the digits of the quantile are not to be computed
  generalize Decimal.Style.plain.write quantile = written
  rw [hwindow, hgroupBy]
  simp only [String.append_left_inj]
  rw [String.append_right_inj]

/-! ### Reading -/

/-- The texts of a query, each with what stands before its conditions and what stands after the
brace that closes them. -/
inductive HasText (q : RateQuery) : String → String → String → Prop where
  | sumRate :
    q.HasText ("sum(rate(" ++ q.metric ++ "\x7b") q.sumRate
      (" " ++ q.range ++ ")) by (" ++ ",".intercalate q.groupBy ++ ")")
  | histogramQuantile (quantile : Float) :
    q.HasText
      ("histogram_quantile(" ++ Decimal.Style.plain.write quantile ++ ", sum(rate(" ++ q.metric ++
        "\x7b")
      (q.histogramQuantile quantile)
      (q.range ++ ")) by (" ++ ",".intercalate ("le" :: q.groupBy) ++ "))")
  | rounded {opening text closing : String} :
    q.HasText opening text closing →
      q.HasText ("round(" ++ opening) (MeshTraffic.rounded text) (closing ++ ",0.001)")

/-- After its opening, a text is read as conditions, and it goes on after the brace that closes
them. -/
def IsReadAfter (opening text : String) (ms : List Matcher) (tail : String) : Prop :=
  ∃ inside, text = opening ++ inside ∧ Matcher.ReadAll isLiteralChar inside.toList ms tail.toList

/-- The texts of the query are read as some conditions, and then go on as the query does. -/
def ReadsAs (q : RateQuery) (ms : List Matcher) : Prop :=
  ∀ opening text closing, q.HasText opening text closing → IsReadAfter opening text ms closing

/-- The texts of the query are read as its conditions, and as no others. -/
def ReadsBack (q : RateQuery) : Prop := ∀ ms, q.ReadsAs ms ↔ ms = q.matchers

theorem HasText.isReadAfter_iff {opening text closing tail : String} {ms : List Matcher}
    (h : q.HasText opening text closing) :
    IsReadAfter opening text ms tail ↔
      Matcher.ReadAll isLiteralChar (Matcher.allChars q.matchers ++ '\x7d' :: closing.toList) ms
        tail.toList := by
  have htext : text = opening ++
      (",".intercalate (q.matchers.map Matcher.text) ++ "\x7d" ++ closing) := by
    apply String.toList_inj.mp
    induction h with
    | sumRate => simp [RateQuery.sumRate, selector]
    | rounded _ ih => simp [MeshTraffic.rounded, ih]
    | histogramQuantile quantile =>
      unfold RateQuery.histogramQuantile selector
      -- the digits of the quantile are not to be computed
      generalize Decimal.Style.plain.write quantile = written
      simp
  have hinside : (",".intercalate (q.matchers.map Matcher.text) ++ "\x7d" ++ closing).toList =
      Matcher.allChars q.matchers ++ '\x7d' :: closing.toList := by
    rw [String.toList_append, String.toList_append, Matcher.toList_intercalate]
    simp
  rw [IsReadAfter, htext]
  simp [String.append_right_inj, hinside]

/-- The texts of a query do not tell its conditions apart from others that are written alike. -/
theorem HasText.with_matchers {opening text closing : String} {ms : List Matcher}
    (h : q.HasText opening text closing)
    (hms : ",".intercalate (q.matchers.map Matcher.text) =
      ",".intercalate (ms.map Matcher.text)) :
    HasText { q with matchers := ms } opening text closing := by
  have hselector : q.selector = selector { q with matchers := ms } :=
    (selector_eq_iff (by rfl)).mpr hms
  induction h with
  | sumRate =>
    have htext : q.sumRate = RateQuery.sumRate { q with matchers := ms } :=
      (sumRate_eq_iff (by rfl) (by rfl)).mpr hselector
    rw [htext]
    exact .sumRate
  | histogramQuantile quantile =>
    have htext : q.histogramQuantile quantile =
        RateQuery.histogramQuantile { q with matchers := ms } quantile :=
      (histogramQuantile_eq_iff (by rfl) (by rfl) quantile).mpr hselector
    rw [htext]
    exact .histogramQuantile quantile
  | rounded _ ih => exact ih.rounded

theorem readsAs_iff {ms : List Matcher} :
    q.ReadsAs ms ↔
      Matcher.ArePlain isLiteralChar ms ∧ Matcher.allChars q.matchers = Matcher.allChars ms := by
  constructor
  · intro h
    have hread := HasText.sumRate.isReadAfter_iff.mp (h _ _ _ .sumRate)
    obtain ⟨hms, htext⟩ := hread.sound rfl
    exact ⟨hms, (List.append_left_inj _).mp htext⟩
  · rintro ⟨hms, htext⟩ opening text closing h
    rw [h.isReadAfter_iff, htext]
    exact (Matcher.readAll_allChars_iff rfl hms).mpr ⟨rfl, rfl⟩

/-- **A query is read back exactly if its values are literal**, if its labels have plain names. -/
theorem readsBack_iff (hlabels : ∀ m ∈ q.matchers, isPlainName m.label = true) :
    q.ReadsBack ↔ ∀ m ∈ q.matchers, isLiteral m.value = true := by
  constructor
  · intro h m hm
    exact ((readsAs_iff.mp ((h _).mpr rfl)).1 m hm).value
  · intro hvalues ms
    have hplain : Matcher.ArePlain isLiteralChar q.matchers :=
      fun m hm => ⟨hlabels m hm, hvalues m hm⟩
    rw [readsAs_iff]
    constructor
    · rintro ⟨hms, htext⟩
      exact Matcher.allChars_inj rfl hms hplain htext.symm
    · rintro rfl
      exact ⟨hplain, rfl⟩

/-- **A value with a quote is read up to the quote**: the rest of the value is read as the query. -/
theorem HasText.isReadAfter_cut_iff {before after ms : List Matcher} {label : String}
    {c : Comparison} {value rest opening text closing tail : String}
    (hmatchers : q.matchers = before ++ ⟨label, c, value ++ "\"" ++ rest⟩ :: after)
    (hplain : Matcher.ArePlain isLiteralChar (before ++ [⟨label, c, value⟩]))
    (h : q.HasText opening text closing) :
    IsReadAfter opening text ms tail ↔
      ∃ more, ms = before ++ ⟨label, c, value⟩ :: more ∧
        Matcher.ReadFurther isLiteralChar
          (rest.toList ++ '"' :: Matcher.furtherChars after ++ '\x7d' :: closing.toList) more
            tail.toList := by
  rw [h.isReadAfter_iff, hmatchers, Matcher.readAll_cut_iff rfl hplain]

/-- Both queries have the same text, as a rate or for one quantile. -/
def ReadsLike (q q' : RateQuery) : Prop :=
  q.sumRate = q'.sumRate ∨
    ∃ quantile, q.histogramQuantile quantile = q'.histogramQuantile quantile

/-- Queries that differ in their conditions at most read alike exactly if their conditions do. -/
theorem readsLike_iff (hmetric : q.metric = q'.metric) (hwindow : q.window = q'.window)
    (hgroupBy : q.groupBy = q'.groupBy) :
    q.ReadsLike q' ↔
      ",".intercalate (q.matchers.map Matcher.text) =
        ",".intercalate (q'.matchers.map Matcher.text) := by
  rw [ReadsLike, sumRate_eq_iff hwindow hgroupBy, ← selector_eq_iff hmetric]
  simp only [histogramQuantile_eq_iff hwindow hgroupBy]
  exact ⟨fun h => h.elim id fun h => h.elim fun _ => id, .inl⟩

/-- **Queries with the same text have the same conditions if no value has a quote.** -/
theorem matchers_eq_of_readsLike (h : q.ReadsLike q')
    (hq : Matcher.ArePlain (· != '"') q.matchers) (hq' : Matcher.ArePlain (· != '"') q'.matchers)
    (hmetric : q.metric = q'.metric) (hwindow : q.window = q'.window)
    (hgroupBy : q.groupBy = q'.groupBy) : q.matchers = q'.matchers := by
  have htext := congrArg String.toList ((readsLike_iff hmetric hwindow hgroupBy).mp h)
  rw [Matcher.toList_intercalate, Matcher.toList_intercalate] at htext
  exact Matcher.allChars_inj rfl hq hq' htext

end RateQuery

end MeshTraffic
