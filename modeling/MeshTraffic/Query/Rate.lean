import MeshTraffic.Decimal.Style

/-!
# Rate queries

A `RateQuery` selects the series of a metric by their labels and asks for their rate over a window,
summed by some of the labels. It is written as `sumRate`, or as `histogramQuantile` if the series
are the buckets of a histogram.
-/

namespace MeshTraffic

/-- How a label is compared. -/
inductive Comparison where
  | equal
  | notEqual
  /-- The label matches a regular expression. -/
  | regex
  deriving DecidableEq, Repr

def Comparison.sign : Comparison → String
  | equal => "="
  | notEqual => "!="
  | regex => "=~"

/-- A condition on a label of a series. -/
structure Matcher where
  label : String
  comparison : Comparison
  value : String
  deriving DecidableEq, Repr

namespace Matcher

def equal (label value : String) : Matcher := ⟨label, .equal, value⟩

def notEqual (label value : String) : Matcher := ⟨label, .notEqual, value⟩

def regex (label value : String) : Matcher := ⟨label, .regex, value⟩

/-- The written condition. The value stands between quotes as it is. -/
def text (m : Matcher) : String := m.label ++ m.comparison.sign ++ "\"" ++ m.value ++ "\""

end Matcher

/-- The rate of some series of a metric, summed by labels. -/
structure RateQuery where
  metric : String
  /-- The length of the window in seconds. -/
  window : Nat
  matchers : List Matcher := []
  groupBy : List String := []
  deriving DecidableEq, Repr

namespace RateQuery

/-- The metric with the conditions on its series. -/
def selector (q : RateQuery) : String :=
  q.metric ++ "\x7b" ++ ",".intercalate (q.matchers.map Matcher.text) ++ "\x7d"

/-- The window of the rate. -/
def range (q : RateQuery) : String := "[" ++ toString q.window ++ "s]"

/-- The sum of the rates. -/
def sumRate (q : RateQuery) : String :=
  "sum(rate(" ++ q.selector ++ " " ++ q.range ++ ")) by (" ++ ",".intercalate q.groupBy ++ ")"

/-- The quantile of a histogram whose buckets are the series; `le` is the bound of a bucket. -/
def histogramQuantile (q : RateQuery) (quantile : Float) : String :=
  "histogram_quantile(" ++ Decimal.Style.plain.write quantile ++ ", sum(rate(" ++ q.selector ++
    q.range ++ ")) by (" ++ ",".intercalate ("le" :: q.groupBy) ++ "))"

end RateQuery

/-- Rounds the values of an expression to three decimals. -/
def rounded (expression : String) : String := "round(" ++ expression ++ ",0.001)"

end MeshTraffic
