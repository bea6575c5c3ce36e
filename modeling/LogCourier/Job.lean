import LogCourier.Pipeline.Cycle

/-!
# The job

Cycle after cycle with a pause in between. A cycle that has begun is finished; only at the
pause the job looks whether it is to end. A fatal failure ends it at once, and every other
failure is left to the next cycle.
-/

namespace LogCourier

/-- Seconds of an interval given in milliseconds. -/
def secondsOfMillis (ms : Nat) : Double :=
  .add (.ofNat (ms / 1000)) (.ratio (ms % 1000 * 1000000) 1000000000)

/-- The job: the pipeline, and the milliseconds between its cycles. -/
structure Job where
  pipeline : Pipeline
  interval : Nat

namespace Job

/-- Note where the work takes up. -/
def start (j : Job) : Work Unit := do
  let cursor ← Work.load
  Work.record (.lastRowUpdated cursor.row)
  Work.log .info "Starting query log shipper"
    [("cursor", .text cursor.text), ("poll_interval_secs", .double (secondsOfMillis j.interval))]

/-- Note a delivery. -/
def noteShipped (h : Harvest) (r : ShipReport) : Work Unit :=
  let cursor := r.cursor.toList.map fun c => ("cursor", .nat c.row.toNat)
  if r.isComplete then
    Work.log .debug "Ship cycle complete"
      ([("latest_row", .nat h.latestRow.toNat), ("pending", .nat h.pending.toNat),
        ("unharvested", .nat h.unharvested.toNat), ("harvested", .nat h.entries.length),
        ("delivered", .nat r.delivered)] ++ cursor)
  else
    Work.log .warn "Ship cycle delivered partially; remaining rows retried next cycle"
      ([("latest_row", .nat h.latestRow.toNat), ("harvested", .nat h.entries.length),
        ("delivered", .nat r.delivered), ("sub_batches_sent", .nat r.subBatchesSent),
        ("sub_batches_total", .nat r.subBatchesTotal)] ++ cursor)

/-- Note the outcome of a cycle. -/
def noteReport : CycleReport → Work Unit
  | .sourceEmpty => Work.log .debug "Query log is empty" []
  | .upToDate cursor => Work.log .debug "Up to date" [("cursor", .text cursor.text)]
  | .reset previous latestRow =>
    Work.log .info "Cursor reset after source rollback"
      [("previous", .text previous.text), ("latest_row", .nat latestRow.toNat)]
  | .shipped h r => noteShipped h r

/-- Note a failed cycle. -/
def noteFailure (e : Failure) : Work Unit :=
  if e.isFatal then
    Work.log .error ("Shipper stopping: " ++ e.message) [("error", .text e.message)]
  else Work.log .warn "Ship cycle failed; retrying next interval" [("error", .text e.message)]

/-- Carry out one cycle and note its outcome; the result is the failure that ends the job,
if there is one. -/
def round (j : Job) (m : Memory) : Work (Option Failure × Memory) := do
  match ← j.pipeline.cycle m with
  | (.ok r, m) =>
    noteReport r
    return (none, m)
  | (.error e, m) =>
    noteFailure e
    return (if e.isFatal then some e else none, m)

/-- Why a job ended, or that it did not within the given number of cycles. -/
inductive End
  | cancelled
  | failed (failure : Failure)
  | unfinished

/-- Carry out cycles until the job ends, at most `rounds` of them. -/
def cycles (j : Job) : (rounds : Nat) → Memory → Work (End × Memory)
  | 0, m => return (.unfinished, m)
  | rounds + 1, m => do
    match ← j.round m with
    | (some e, m) => return (.failed e, m)
    | (none, m) =>
      if ← Work.pause then
        Work.log .info "ShipperJob: shutting down" []
        return (.cancelled, m)
      cycles j rounds m

/-- Take up the work and carry out cycles until the job ends, at most `rounds` of them. -/
def run (j : Job) (rounds : Nat) (m : Memory) : Work (End × Memory) := do
  j.start
  j.cycles rounds m

end Job

end LogCourier
