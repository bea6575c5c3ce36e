import LogCourier.Number
import LogCourier.Json.Printer

/-!
# Metrics

The metrics of the program: counters, which only grow, modulo 2⁶⁴, and gauges, which are
set. A series is a name with labels; the registry holds every series that was touched.
-/

namespace LogCourier

/-- A series: the name of a metric, and its labels in their order. -/
structure Series where
  name : String
  labels : List (String × String)
  deriving DecidableEq, Repr

/-- The value of a series. -/
inductive MetricValue
  | counter (value : UInt64)
  | gauge (value : Double)
  deriving DecidableEq, Repr

/-- A change of a series. -/
inductive MetricUpdate
  | increment (series : Series) (amount : UInt64)
  | set (series : Series) (value : Double)
  deriving DecidableEq, Repr

/-- All series that were touched, in the order of their first change. -/
structure Registry where
  series : List (Series × MetricValue)
  deriving Repr

namespace Registry

/-- No series. -/
def empty : Registry := ⟨[]⟩

/-- The value of a series. -/
def get? (r : Registry) (s : Series) : Option MetricValue :=
  r.series.lookup s

/-- Give a series a value that depends on the one it has. -/
def modifyPairs (s : Series) (f : Option MetricValue → MetricValue) :
  List (Series × MetricValue) → List (Series × MetricValue)
  | [] => [(s, f none)]
  | (t, v) :: rest => if t = s then (t, f (some v)) :: rest else (t, v) :: modifyPairs s f rest

/-- Make a change. -/
def update (r : Registry) : MetricUpdate → Registry
  | .increment s n =>
    ⟨modifyPairs s (fun
      | some (.counter m) => .counter (m + n)
      | _ => .counter n) r.series⟩
  | .set s x => ⟨modifyPairs s (fun _ => .gauge x) r.series⟩

/-- The text of a series that its place in a listing goes by: the name and the labels, in
the order of their keys, as JSON. -/
def sortKey (s : Series) : String :=
  let labels := s.labels.mergeSort fun a b => a.1 ≤ b.1
  Json.print (.array [.ofString s.name, .record (labels.map fun l => (l.1, .ofString l.2))])

/-- The series in the order of their texts. -/
def listing (r : Registry) : List (Series × MetricValue) :=
  let keyed := r.series.map fun p => (sortKey p.1, p)
  (keyed.mergeSort fun a b => a.1 ≤ b.1).map Prod.snd

end Registry

end LogCourier
