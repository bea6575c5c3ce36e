import LogCourier.Proofs.Metrics

/-!
# The gauges of the state

Three gauges tell of the state of the program: the row of the persisted cursor, the failures in a
row, and the number of remembered names. Each is set by events of its own and is left as it is by
all others (`Registry.get?_record`).
-/

namespace LogCourier

/-- The gauge for the row of the persisted cursor. -/
def Series.lastRow : Series :=
  ⟨"dns_query_log_last_row", []⟩

/-- The gauge for the failures in a row. -/
def Series.consecutiveFailures : Series :=
  ⟨"consecutive_failures", []⟩

/-- The gauge for the number of remembered names. -/
def Series.cacheEntries : Series :=
  ⟨"hostname_cache_entries", []⟩

namespace MetricEvent

/-- The event sets the gauge for the row of the cursor. -/
def lastRow? : MetricEvent → Option Double
  | lastRowUpdated row => some (.ofNat row.toNat)
  | _ => none

/-- The event sets the gauge for the failures in a row. -/
def consecutiveFailures? : MetricEvent → Option Double
  | fetchSucceeded _ => some (.ofNat 0)
  | fetchFailed _ failures => some (.ofNat failures.toNat)
  | _ => none

/-- The event sets the gauge for the number of remembered names. -/
def cacheEntries? : MetricEvent → Option Double
  | hostnameCacheSize n => some (.ofNat n)
  | _ => none

end MetricEvent

namespace Registry

variable {r : Registry} {s t : Series}

theorem get?_set (x : Double) :
  (r.update (.set t x)).get? s = if s = t then some (.gauge x) else r.get? s
  := by
  rw [get?, update, lookup_modifyPairs]
  rfl

theorem get?_increment (n : UInt64) (hs : s ≠ t) :
  (r.update (.increment t n)).get? s = r.get? s
  := by
  rw [get?, update, lookup_modifyPairs, if_neg hs]
  rfl

/-- Each of the three gauges is set by events of its own, and left as it is by all others. -/
theorem get?_record (e : MetricEvent) :
  (r.record e).get? .lastRow = (e.lastRow?.map .gauge).or (r.get? .lastRow)
    ∧ (r.record e).get? .consecutiveFailures
      = (e.consecutiveFailures?.map .gauge).or (r.get? .consecutiveFailures)
    ∧ (r.record e).get? .cacheEntries = (e.cacheEntries?.map .gauge).or (r.get? .cacheEntries)
  := by
  cases e with
  | fetchFailed kind failures =>
      by_cases h : kind = .authentication <;>
        simp [record, MetricEvent.updates, MetricEvent.count, MetricEvent.gauge, Series.lastRow,
          Series.consecutiveFailures, Series.cacheEntries, MetricEvent.lastRow?,
          MetricEvent.consecutiveFailures?, MetricEvent.cacheEntries?, get?_set, get?_increment, h]
  | backlogObserved pending unharvested =>
      by_cases h : 0 < unharvested <;>
        simp [record, MetricEvent.updates, MetricEvent.count, MetricEvent.gauge, Series.lastRow,
          Series.consecutiveFailures, Series.cacheEntries, MetricEvent.lastRow?,
          MetricEvent.consecutiveFailures?, MetricEvent.cacheEntries?, get?_set, get?_increment, h]
  | _ =>
      simp [record, MetricEvent.updates, MetricEvent.count, MetricEvent.gauge, Series.lastRow,
        Series.consecutiveFailures, Series.cacheEntries, MetricEvent.lastRow?,
        MetricEvent.consecutiveFailures?, MetricEvent.cacheEntries?, get?_set, get?_increment]

end Registry

/-- Of a gauge that is set by events as the function says, the events tell that its value changes
from `x` to the last number: the value stays if no event sets the gauge, and a single event sets it
to the new one. -/
inductive Tells (f : MetricEvent → Option Double) : List MetricEvent → Double → Double → Prop
  | unset {es : List MetricEvent} {x : Double} (h : ∀ e ∈ es, f e = none) : Tells f es x x
  | set {e : MetricEvent} {x x' : Double} (h : f e = some x') : Tells f [e] x x'

namespace Registry

variable {r : Registry} {s : Series} {es : List MetricEvent} {f : MetricEvent → Option Double}
  {x x' : Double}

/-- If the series is set then it is a gauge with the value. -/
def Shows (r : Registry) (s : Series) (x : Double) : Prop :=
  ∀ v, r.get? s = some v → v = .gauge x

/-- A gauge that shows a value shows the new one after the events that tell of the change. -/
theorem Shows.foldl_record (h : r.Shows s x)
    (hset : ∀ (r : Registry) e, (r.record e).get? s = ((f e).map .gauge).or (r.get? s))
    (hes : Tells f es x x') :
  (es.foldl record r).Shows s x'
  := by
  cases hes with
  | set he =>
      intro v hv
      change (r.record _).get? s = some v at hv
      rw [hset, he] at hv
      exact (Option.some.inj hv).symm
  | unset hes =>
      induction es generalizing r with
      | nil => apply h
      | cons e es ih =>
          obtain ⟨he, hrest⟩ := List.forall_mem_cons.mp hes
          apply ih _ hrest
          intro v hv
          rw [hset, he] at hv
          apply h v hv

/-- What is set stays set. -/
theorem isSome_get?_foldl_record (h : (r.get? s).isSome)
    (hset : ∀ (r : Registry) e, (r.record e).get? s = ((f e).map .gauge).or (r.get? s))
    (es : List MetricEvent) :
  ((es.foldl record r).get? s).isSome
  := by
  induction es generalizing r with
  | nil => apply h
  | cons e es ih =>
      apply ih
      rw [hset, Option.isSome_or, h, Bool.or_true]

end Registry

end LogCourier
