import LogCourier.Pipeline.Reconciliation
import LogCourier.Pipeline.Shipping

/-!
# Cycles

One cycle of the work: find out what is new, then deliver it. The governor and the names
of clients live on from cycle to cycle.
-/

namespace LogCourier

/-- What the pipeline remembers from cycle to cycle. -/
structure Memory where
  governor : Governor
  hostnames : HostnameCache
  deriving Repr

/-- The memory before the first cycle. -/
def Memory.new (threshold : UInt32) : Memory :=
  ⟨.new threshold, .empty⟩

/-- How a pipeline is set up. -/
structure Pipeline where
  limits : Limits
  /-- The value of the label `job`. -/
  job : String

/-- The outcome of a cycle. -/
inductive CycleReport
  | sourceEmpty
  | upToDate (cursor : Cursor)
  | reset (previous : Cursor) (latestRow : UInt64)
  | shipped (harvest : Harvest) (report : ShipReport)

namespace Pipeline

/-- Find out what is new. -/
def reconcile (p : Pipeline) (m : Memory) : Work (Except Failure Reconciliation × Memory) := do
  let (r, g) ← Reconciliation.reconcile p.limits m.governor
  return (r, { m with governor := g })

/-- Deliver entries. -/
def ship (p : Pipeline) (m : Memory) (entries : List LogEntry) :
  Work (Except Failure ShipReport × Memory) := do
  let (r, cache) ← Shipping.ship p.limits p.job m.hostnames entries
  return (r, { m with hostnames := cache })

/-- Carry out one cycle. -/
def cycle (p : Pipeline) (m : Memory) : Work (Except Failure CycleReport × Memory) := do
  match ← p.reconcile m with
  | (.error e, m) => return (.error e, m)
  | (.ok .sourceEmpty, m) => return (.ok .sourceEmpty, m)
  | (.ok (.upToDate cursor), m) => return (.ok (.upToDate cursor), m)
  | (.ok (.reset previous latestRow), m) => return (.ok (.reset previous latestRow), m)
  | (.ok (.newEntries h), m) =>
    let (r, m) ← p.ship m h.entries
    return (r.map (.shipped h), m)

end Pipeline

end LogCourier
