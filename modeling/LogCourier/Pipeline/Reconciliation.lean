import LogCourier.Pipeline.Limits
import LogCourier.Pipeline.Polling

/-!
# Reconciliation

What is new at the source: the newest row is compared with the cursor, and if it lies
beyond it the log is scanned from the newest page back until a row is met that the cursor
covers, or as many rows as are pending are collected, or the allowed pages are used up. Room
for the rows is made before the scan, for all that it may collect.
-/

namespace LogCourier

/-- The entries beyond the cursor that one cycle collected. -/
structure Harvest where
  cursor : Cursor
  latestRow : UInt64
  /-- How far the newest row was ahead of the cursor when the cycle began. -/
  pending : UInt64
  /-- How many pending rows the allowed pages cannot hold. -/
  unharvested : UInt64
  /-- The entries, oldest first. -/
  entries : List LogEntry

/-- The outcome of comparing the source with the cursor. -/
inductive Reconciliation
  | sourceEmpty
  | upToDate (cursor : Cursor)
  /-- The row numbers went backwards, and the cursor was set to 0. -/
  | reset (previous : Cursor) (latestRow : UInt64)
  | newEntries (harvest : Harvest)

namespace Reconciliation

/-- The number of pages that hold the pending rows. -/
def pagesHolding (pending : UInt64) (pageSize : UInt32) : UInt64 :=
  let size := (max pageSize 1).toUInt64
  if 0 < pending % size then pending / size + 1 else pending / size

/-- The number of pages that hold the pending rows, at most the cap. -/
def pagesToFetch (pending : UInt64) (pageSize pageCap : UInt32) : UInt32 :=
  (min (pagesHolding pending pageSize) pageCap.toUInt64).toUInt32

/-- The number of rows that the given pages hold. -/
def capacity (pages pageSize : UInt32) : UInt64 :=
  pages.toUInt64 * pageSize.toUInt64

/-- How many of the pending rows are more than the given pages hold. -/
def unharvested (pending : UInt64) (pages pageSize : UInt32) : UInt64 :=
  if capacity pages pageSize < pending then pending - capacity pages pageSize else 0

/-- The bytes that a collected entry takes up: a row of 8, and nine texts of 24 each. -/
def entryBytes : Nat := 224

/-- The most bytes that can be asked for in one piece. -/
def maxBytes : Nat := 0x7fffffffffffffff

/-- Whether room for this many entries can be asked for in one piece. -/
def isReservable (entries : UInt64) : Bool :=
  entries.toNat * entryBytes ≤ maxBytes

/-- Pending rows from which on a cycle is worth a line at info level. -/
def notableBacklog : UInt64 := 100

/-- Put the entries of a page, newest first, in front of the collected ones, which are
kept oldest first. An entry that is not older than the oldest one collected was seen
before and is left out. The flag tells that a row was met that the cursor covers; what
follows it on the page is older still. -/
def collectNewer (cursor : Cursor) : List LogEntry → List LogEntry → List LogEntry × Bool
  | collected, [] => (collected, false)
  | collected, e :: page =>
    if !cursor.isBehind e.row then (collected, true)
    else if collected.head?.any fun oldest => oldest.row ≤ e.row then
      collectNewer cursor collected page
    else collectNewer cursor (e :: collected) page

/-- Scan up to `left` pages from `page` on, until `pending` rows are collected. -/
def scan (limits : Limits) (cursor : Cursor) (pending : UInt64) :
  (left page : Nat) → Governor → List LogEntry → Work (Except Failure (List LogEntry) × Governor)
  | 0, _, g, collected => return (.ok collected, g)
  | left + 1, page, g, collected => do
    match ← Polling.fetch g ⟨.ofNat page, limits.pageSize⟩ with
    | (.error e, g) => return (.error e, g)
    | (.ok p, g) =>
      if p.isEmpty then
        return (.ok collected, g)
      let (collected, reachedKnown) := collectNewer cursor collected p.entries
      if reachedKnown || pending.toNat ≤ collected.length then
        return (.ok collected, g)
      scan limits cursor pending left (page + 1) g collected

/-- The rows went backwards: set the cursor to 0. -/
def resetCursor (cursor : Cursor) (latestRow : UInt64) : Work (Except Failure Reconciliation) := do
  Work.log .warn
    "Row numbers decreased; query log may have been reset. Resuming from row 0"
    [("latest_row", .nat latestRow.toNat), ("cursor", .text cursor.text)]
  match ← Work.store .zero with
  | .error e => return .error e
  | .ok () =>
    Work.record .sourceReset
    return .ok (.reset cursor latestRow)

/-- Note the pending rows, and how many of them are out of reach. -/
def noteBacklog (limits : Limits) (cursor : Cursor) (latestRow pending unharvested : UInt64) :
  Work Unit := do
  if notableBacklog ≤ pending then
    Work.log .info "Found new query log entries"
      [("pending", .nat pending.toNat), ("first_row", .nat (cursor.row + 1).toNat),
        ("latest_row", .nat latestRow.toNat)]
  if 0 < unharvested then
    Work.log .warn
      "Backlog exceeds per-cycle page cap; oldest pending rows will not be shipped"
      [("pending", .nat pending.toNat), ("unharvested", .nat unharvested.toNat),
        ("page_cap", .nat limits.pageCap.toNat), ("page_size", .nat limits.pageSize.toNat)]
  Work.record (.backlogObserved pending unharvested)

/-- Make room for this many entries. A demand for more than can be asked for aborts the
work. -/
def reserve (entries : UInt64) : Work Unit :=
  if isReservable entries then return () else .abort

/-- Collect the rows between the cursor and the newest row. -/
def harvest (limits : Limits) (g : Governor) (cursor : Cursor) (latestRow : UInt64) :
  Work (Except Failure Reconciliation × Governor) := do
  let pending := latestRow - cursor.row
  let pages := pagesToFetch pending limits.pageSize limits.pageCap
  let unharvested := unharvested pending pages limits.pageSize
  noteBacklog limits cursor latestRow pending unharvested
  reserve (min pending (capacity pages limits.pageSize))
  let (entries, g) ← scan limits cursor pending pages.toNat 1 g []
  let outcome := entries.map fun entries =>
    .newEntries ⟨cursor, latestRow, pending, unharvested, entries⟩
  return (outcome, g)

/-- Compare the source with the cursor. -/
def reconcile (limits : Limits) (g : Governor) :
  Work (Except Failure Reconciliation × Governor) := do
  let cursor ← Work.load
  match ← Polling.fetch g ⟨1, 1⟩ with
  | (.error e, g) => return (.error e, g)
  | (.ok head, g) =>
    match head.latestRow with
    | none =>
      Work.log .debug "Query log source has no entries" []
      return (.ok .sourceEmpty, g)
    | some latestRow =>
      if latestRow < cursor.row then
        return (← resetCursor cursor latestRow, g)
      if latestRow = cursor.row then
        Work.log .debug "No new query log entries" [("cursor", .text cursor.text)]
        return (.ok (.upToDate cursor), g)
      harvest limits g cursor latestRow

end Reconciliation

end LogCourier
