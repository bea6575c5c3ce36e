import LogCourier.Governor
import LogCourier.Pipeline.Call

/-!
# Polling

Fetching a page under the eyes of the governor: the source is not asked while the circuit
is open, and every outcome is reported to the governor.
-/

namespace LogCourier

namespace Polling

/-- Note a page that was fetched. -/
def noteFetched (time : Nat) (r : PageRequest) (page : QueryLogPage) : Work Unit := do
  Work.record (.fetchSucceeded (.ratio time 1000))
  Work.log .debug "Query log page fetched"
    [("page_number", .nat r.page.toNat), ("entries", .nat page.entries.length)]

/-- Note a failed fetch. -/
def noteFailed (r : PageRequest) (e : SourceError) (failures : UInt32) : Work Unit := do
  Work.record (.fetchFailed e.kind failures)
  Work.log .warn "Query log fetch failed"
    [("error", .text e.message), ("error_type", .text e.kind.label),
      ("consecutive_failures", .nat failures.toNat), ("page_number", .nat r.page.toNat)]

/-- The failure that follows from a verdict over a failed fetch. -/
def failureOf (e : SourceError) : Verdict → Failure
  | .retry _ => .source e
  | .trip n => .circuitOpen n

/-- Fetch a page, and update the governor by the outcome. -/
def fetch (g : Governor) (r : PageRequest) : Work (Except Failure QueryLogPage × Governor) := do
  if g.terminated then
    return (.error (.circuitOpen g.failures), g)
  match ← Work.fetch r with
  | .ok page =>
    let time ← Work.clock
    noteFetched time r page
    return (.ok page, g.success time)
  | .error e =>
    let (verdict, g) := g.failure e
    noteFailed r e verdict.failures
    return (.error (failureOf e verdict), g)

end Polling

end LogCourier
