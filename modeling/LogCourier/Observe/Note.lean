import LogCourier.Failure
import LogCourier.Observe.LogLine
import LogCourier.Observe.Registry

/-!
# Notes

What the program tells about its work: log lines, and events that change metrics.
-/

namespace LogCourier

/-- An event that is counted or measured. -/
inductive MetricEvent
  /-- An entry was put into a stream. -/
  | queryProcessed (clientHostname rcode qtype protocol domain : String)
  /-- The persisted cursor is at a row. -/
  | lastRowUpdated (row : UInt64)
  /-- A page was fetched at the given time in seconds. -/
  | fetchSucceeded (time : Double)
  | fetchFailed (kind : SourceError.Kind) (failures : UInt32)
  /-- New rows were seen, some of them out of reach. -/
  | backlogObserved (pending unharvested : UInt64)
  /-- The row numbers at the source went backwards. -/
  | sourceReset
  | entriesShipped (count : UInt64)
  | pushFailed
  | malformedEntryDropped
  | hostnameCacheSize (entries : Nat)
  deriving DecidableEq, Repr

namespace MetricEvent

/-- Add to a counter without labels. -/
def count (name : String) (n : UInt64) : MetricUpdate :=
  .increment ⟨name, []⟩ n

/-- Set a gauge without labels. -/
def gauge (name : String) (x : Double) : MetricUpdate :=
  .set ⟨name, []⟩ x

/-- The changes of an event to the metrics. -/
def updates : MetricEvent → List MetricUpdate
  | queryProcessed clientHostname rcode qtype protocol domain =>
    [.increment ⟨"dns_queries_total", [("client_hostname", clientHostname), ("rcode", rcode),
      ("qtype", qtype), ("protocol", protocol), ("domain", domain)]⟩ 1]
  | lastRowUpdated row => [gauge "dns_query_log_last_row" (.ofNat row.toNat)]
  | fetchSucceeded time =>
    [gauge "consecutive_failures" (.ofNat 0), gauge "last_successful_query_timestamp" time]
  | fetchFailed kind failures =>
    (if kind = .authentication then [count "authentication_failures_total" 1] else [])
      ++ [.increment ⟨"api_errors_total", [("error_type", kind.label)]⟩ 1,
        gauge "consecutive_failures" (.ofNat failures.toNat)]
  | backlogObserved pending unharvested =>
    gauge "dns_query_log_pending_rows" (.ofNat pending.toNat)
      :: (if 0 < unharvested then [count "dns_query_log_unharvested_rows_total" unharvested]
        else [])
  | sourceReset => [count "dns_query_log_source_resets_total" 1]
  | entriesShipped n => [count "dns_query_log_entries_shipped_total" n]
  | pushFailed => [count "dns_query_log_sink_failures_total" 1]
  | malformedEntryDropped => [count "dns_query_log_malformed_entries_total" 1]
  | hostnameCacheSize n => [gauge "hostname_cache_entries" (.ofNat n)]

/-- The log line of an event, for the two that have one. -/
def line? : MetricEvent → Option LogLine
  | lastRowUpdated row => some ⟨.trace, "Last row updated", [("row", .nat row.toNat)]⟩
  | entriesShipped n => some ⟨.trace, "Entries shipped", [("count", .nat n.toNat)]⟩
  | _ => none

end MetricEvent

/-- Record an event in the metrics. -/
def Registry.record (r : Registry) (e : MetricEvent) : Registry :=
  e.updates.foldl Registry.update r

/-- Something the program tells about its work. -/
inductive Note
  | log (line : LogLine)
  | metric (event : MetricEvent)
  deriving DecidableEq, Repr

/-- What has been told: the log lines, last first, and the metrics. -/
structure Journal where
  lines : List LogLine
  metrics : Registry
  deriving Repr

namespace Journal

/-- Nothing told yet. -/
def empty : Journal := ⟨[], .empty⟩

/-- Tell a note. -/
def tell (j : Journal) : Note → Journal
  | .log l => { j with lines := l :: j.lines }
  | .metric e => { lines := e.line?.toList ++ j.lines, metrics := j.metrics.record e }

end Journal

end LogCourier
