import LogCourier.Pipeline.Formatting
import LogCourier.Pipeline.Limits

/-!
# Shipping

Delivery of entries in sub-batches, oldest first. The first sub-batch that fails ends the
delivery, and the cursor is moved to the last row of the last sub-batch before it.
-/

namespace LogCourier

/-- The outcome of a delivery. -/
structure ShipReport where
  delivered : Nat
  subBatchesSent : Nat
  subBatchesTotal : Nat
  /-- The cursor that was persisted, if a sub-batch was delivered. -/
  cursor : Option Cursor
  /-- The failure that ended the delivery. -/
  failure : Option Failure
  deriving DecidableEq, Repr

/-- Whether everything was delivered. -/
def ShipReport.isComplete (r : ShipReport) : Bool :=
  r.failure.isNone

namespace Shipping

/-- Cut a list into parts of `size + 1` elements; the last part may be shorter. -/
def chunksOfSucc {α : Type} (size : Nat) (l : List α) : List (List α) :=
  match l with
  | [] => []
  | a :: rest => (a :: rest.take size) :: chunksOfSucc size (rest.drop size)
termination_by l.length
decreasing_by simp only [List.length_cons, List.length_drop]; omega

/-- Cut a list into parts of `size` elements, at least 1; the last part may be shorter. -/
def chunks {α : Type} (size : Nat) (l : List α) : List (List α) :=
  chunksOfSucc (size - 1) l

/-- Deliver one sub-batch; if none of its entries has a readable time there is nothing to
push. -/
def deliver (job : String) (cache : HostnameCache) (batch : List LogEntry) :
  Work (Except Failure Unit × HostnameCache) := do
  let (request, cache) ← Formatting.format job cache batch
  if request.isEmpty then
    return (.ok (), cache)
  return (← Work.push request, cache)

/-- Note a sub-batch that was delivered as number `index`, counted from 1. -/
def noteDelivered (index total : Nat) (batch : List LogEntry) : Work Unit := do
  Work.record (.entriesShipped (.ofNat batch.length))
  Work.log .debug "Sub-batch delivered"
    [("sub_batch", .nat index), ("total", .nat total), ("entries", .nat batch.length)]

/-- Note a sub-batch that failed. -/
def noteRefused (index total : Nat) (e : Failure) : Work Unit := do
  Work.record .pushFailed
  Work.log .error "Failed to push sub-batch; holding cursor for the rest of this cycle"
    [("sub_batch", .nat index), ("total", .nat total), ("error", .text e.message)]

/-- What was delivered so far. -/
structure Progress where
  sent : Nat
  delivered : Nat
  lastRow : Option UInt64
  failure : Option Failure

/-- Nothing delivered yet. -/
def Progress.initial : Progress := ⟨0, 0, none, none⟩

/-- One more sub-batch delivered. -/
def Progress.advance (p : Progress) (batch : List LogEntry) : Progress :=
  { p with
    sent := p.sent + 1
    delivered := p.delivered + batch.length
    lastRow := batch.getLast?.map LogEntry.row }

/-- Deliver sub-batches in order up to the first that fails. -/
def deliverAll (job : String) (total : Nat) :
  List (List LogEntry) → HostnameCache → Progress → Work (Progress × HostnameCache)
  | [], cache, p => return (p, cache)
  | batch :: batches, cache, p => do
    match ← deliver job cache batch with
    | (.ok (), cache) =>
      noteDelivered (p.sent + 1) total batch
      deliverAll job total batches cache (p.advance batch)
    | (.error e, cache) =>
      noteRefused (p.sent + 1) total e
      return ({ p with failure := some e }, cache)

/-- The report of a delivery. -/
def report (total : Nat) (p : Progress) : ShipReport :=
  ⟨p.delivered, p.sent, total, p.lastRow.map Cursor.mk, p.failure⟩

/-- Deliver entries, which are in ascending order of their rows, and persist the cursor.
Only a cursor that cannot be persisted is a failure of the whole. -/
def ship (limits : Limits) (job : String) (cache : HostnameCache) (entries : List LogEntry) :
  Work (Except Failure ShipReport × HostnameCache) := do
  let batches := chunks limits.subBatchSize.toNat entries
  let total := batches.length
  let (p, cache) ← deliverAll job total batches cache .initial
  match p.lastRow with
  | none => return (.ok (report total p), cache)
  | some row =>
    match ← Work.store ⟨row⟩ with
    | .error e => return (.error e, cache)
    | .ok () => return (.ok (report total p), cache)

end Shipping

end LogCourier
