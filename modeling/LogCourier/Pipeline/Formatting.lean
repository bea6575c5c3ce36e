import LogCourier.Pipeline.HostnameCache
import LogCourier.Text.Case

/-!
# Formatting

Entries grouped into streams. The labels of an entry tell who asked and how it went; an
entry joins the stream with the identity of its labels. Streams come in the order of their
first entry, and an entry without a readable time is left out.
-/

namespace LogCourier

namespace Formatting

/-- The labels of an entry. -/
def labels (job : String) (e : LogEntry) (clientHostname : String) : LabelSet :=
  .ofList [
    ("job", job),
    ("client_ip", e.clientIp),
    ("client_hostname", clientHostname),
    ("protocol", Text.lower e.protocol),
    ("rcode", Text.lower e.rcode),
    ("qtype", Text.upper e.qtype),
    ("response_type", Text.lower e.responseType)]

/-- The line of an entry: what was asked and what was answered, as a JSON object. -/
def line (e : LogEntry) : String :=
  Json.print (.record [
    ("domain", .ofString e.qname),
    ("answer", .ofString? e.answer),
    ("qclass", .ofString e.qclass)])

/-- Add a line to the stream with the identity of the given labels, or to a new stream
after the others. -/
def file (l : LabelSet) (nanos line : String) : List LogStream → List LogStream
  | [] => [⟨l, [(nanos, line)]⟩]
  | s :: streams =>
    if s.labels.canonical = l.canonical then s.push nanos line :: streams
    else s :: file l nanos line streams

/-- Note an entry without a readable time. -/
def noteMalformed (e : LogEntry) (m : Timestamp.Malformed) : Work Unit := do
  Work.log .warn "Dropping query log entry with malformed timestamp"
    [("row_number", .nat e.row.toNat), ("error", .text m.failure.message)]
  Work.record .malformedEntryDropped

/-- Note an entry that joins a stream with the given labels. -/
def noteProcessed (e : LogEntry) (clientHostname : String) (l : LabelSet) : Work Unit :=
  let label := fun key => (l.get? key).getD ""
  Work.record
    (.queryProcessed clientHostname (label "rcode") (label "qtype") (label "protocol") e.domain)

/-- Group entries into streams, after the streams that are there already. -/
def group (job : String) :
  List LogEntry → HostnameCache → List LogStream → Work (List LogStream × HostnameCache)
  | [], cache, streams => return (streams, cache)
  | e :: entries, cache, streams => do
    match e.nanos with
    | .error m =>
      noteMalformed e m
      group job entries cache streams
    | .ok nanos =>
      let (name, cache) ← cache.hostname e.clientIp
      let l := labels job e name
      noteProcessed e name l
      group job entries cache (file l (Decimal.intText nanos) (line e) streams)

/-- The push request of some entries. -/
def format (job : String) (cache : HostnameCache) (entries : List LogEntry) :
  Work (PushRequest × HostnameCache) := do
  let (streams, cache) ← group job entries cache []
  return (⟨streams⟩, cache)

end Formatting

end LogCourier
