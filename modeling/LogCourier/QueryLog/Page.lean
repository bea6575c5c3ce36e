import LogCourier.QueryLog.Entry

/-!
# Pages of the query log

The source hands out its log in pages, newest entry first. A page is asked for by its
number and size, and is read from and written to a JSON record.
-/

namespace LogCourier

/-- A request for one page: page 1 holds the newest entries. -/
structure PageRequest where
  page : UInt32
  size : UInt32
  deriving DecidableEq, Repr

/-- One page of the log, newest entry first. -/
structure QueryLogPage where
  pageNumber : Option UInt32
  totalPages : Option UInt32
  totalEntries : Option UInt64
  entries : List LogEntry
  deriving DecidableEq, Repr

namespace QueryLogPage

/-- The page of some entries, without the particulars of the source. -/
def ofEntries (entries : List LogEntry) : QueryLogPage :=
  ⟨none, none, none, entries⟩

/-- The page without entries. -/
def empty : QueryLogPage := ofEntries []

/-- The row of the newest entry. -/
def latestRow (p : QueryLogPage) : Option UInt64 :=
  p.entries.head?.map LogEntry.row

/-- Whether the page has no entries. -/
def isEmpty (p : QueryLogPage) : Bool :=
  p.entries.isEmpty

/-- The record of a page. -/
def shape : Json.Shape where
  title := "struct QueryLogPage"
  names := ["pageNumber", "totalPages", "totalEntries", "entries"]
  needed := 0

/-- What is wanted of a page. -/
def want : Json.Want :=
  let word := .optional (.natural UInt32.size "u32")
  .record shape
    [word, word, .optional (.natural UInt64.size "u64"), .list LogEntry.want]

/-- The record that holds a page. -/
def toJson (p : QueryLogPage) : Json :=
  .record [
    ("pageNumber", .ofNat? (p.pageNumber.map UInt32.toNat)),
    ("totalPages", .ofNat? (p.totalPages.map UInt32.toNat)),
    ("totalEntries", .ofNat? (p.totalEntries.map UInt64.toNat)),
    ("entries", .array (p.entries.map LogEntry.toJson))]

/-- Read a page from a record. -/
def ofJson (v : Json) : Except Json.Misfit QueryLogPage := do
  match ← Json.fields shape v with
  | [pageNumber, totalPages, totalEntries, entries] => do
    let word := Json.optional (Json.naturalBelow UInt32.size "u32")
    let pageNumber ← word pageNumber
    let totalPages ← word totalPages
    let totalEntries ← Json.optional (Json.naturalBelow UInt64.size "u64") totalEntries
    let entries ← Json.defaulted [] (Json.list LogEntry.ofJson) entries
    return {
      pageNumber := pageNumber.map .ofNat
      totalPages := totalPages.map .ofNat
      totalEntries := totalEntries.map .ofNat
      entries }
  | fields => throw (.wrongLength fields.length shape.sized)

end QueryLogPage

end LogCourier
