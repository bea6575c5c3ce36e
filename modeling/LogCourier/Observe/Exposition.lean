import LogCourier.Observe.Registry
import LogCourier.Text.Decimal

/-!
# Exposition of metrics

The metrics as text for a collector: for each metric a line with its type and a line for
each of its series, `name{label="value",…} number`.
-/

namespace LogCourier

namespace Exposition

/-- The value of a label, escaped: a quote and a line break get a backslash, and a
backslash is doubled, unless it stands before a backslash or a quote, which it is taken to
escape. `pending` says that such a backslash waits. -/
def escapeFrom : (pending : Bool) → List Char → List Char
  | pending, [] => if pending then ['\\', '\\'] else []
  | pending, c :: cs =>
    if c = '\n' then '\\' :: 'n' :: escapeFrom pending cs
    else if c = '"' then '\\' :: '"' :: escapeFrom false cs
    else if c = '\\' then
      if pending then '\\' :: '\\' :: escapeFrom false cs else escapeFrom true cs
    else if pending then '\\' :: '\\' :: c :: escapeFrom false cs
    else c :: escapeFrom false cs

/-- The escaped value of a label. -/
def escape (value : String) : String :=
  String.ofList (escapeFrom false value.toList)

/-- The number of a series. -/
def number : MetricValue → String
  | .counter n => Decimal.text n.toNat
  | .gauge x => x.plain

/-- The line of a series. -/
def seriesLine (s : Series) (v : MetricValue) : String :=
  let labels := s.labels.map fun l => l.1 ++ "=\"" ++ escape l.2 ++ "\""
  let labels := if labels.isEmpty then "" else "\x7b" ++ ",".intercalate labels ++ "\x7d"
  s.name ++ labels ++ " " ++ number v

/-- The line with the type of a metric. -/
def typeLine (name : String) (v : MetricValue) : String :=
  "# TYPE " ++ name ++ (match v with | .counter _ => " counter" | .gauge _ => " gauge")

/-- The metrics with their series: each name, in the order of first use, with the series
of that name. -/
def groups (r : Registry) : List (String × List (Series × MetricValue)) :=
  let names := (r.series.map fun p => p.1.name).eraseDups
  names.map fun name => (name, r.series.filter fun p => p.1.name = name)

/-- The lines of a metric, with a blank one after them. -/
def groupLines (name : String) (series : List (Series × MetricValue)) : List String :=
  match series with
  | [] => []
  | (_, v) :: _ => typeLine name v :: series.map (fun p => seriesLine p.1 p.2) ++ [""]

/-- The text of all metrics. -/
def render (r : Registry) : String :=
  let lines := (groups r).flatMap fun g => groupLines g.1 g.2
  String.join (lines.map (· ++ "\n"))

end Exposition

end LogCourier
