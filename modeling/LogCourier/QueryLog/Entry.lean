import LogCourier.Json.Objection
import LogCourier.QueryLog.Timestamp

/-!
# Log entries

One row of the query log: when it was asked, by whom, over which protocol, what was asked
and what was answered. An entry is read from a JSON record and written to one.
-/

namespace LogCourier

/-- One row of the query log. -/
structure LogEntry where
  row : UInt64
  timestamp : String
  clientIp : String
  protocol : String
  responseType : String
  rcode : String
  qname : String
  qtype : String
  qclass : String
  answer : Option String
  deriving DecidableEq, Repr

namespace LogEntry

/-- The name asked for, without the dots at its end. -/
def domain (e : LogEntry) : String :=
  Text.dropTrailing '.' e.qname

/-- The time of the entry in nanoseconds since the start of 1970. -/
def nanos (e : LogEntry) : Except Timestamp.Malformed Int :=
  Timestamp.nanos e.timestamp

/-- The record of an entry. -/
def shape : Json.Shape where
  title := "struct LogEntry"
  names := ["rowNumber", "timestamp", "clientIpAddress", "protocol", "responseType", "rcode",
    "qname", "qtype", "qclass", "answer"]
  needed := 9

/-- What is wanted of an entry. -/
def want : Json.Want :=
  .record shape (.natural UInt64.size "u64" :: List.replicate 8 .text ++ [.optional .text])

/-- The record that holds an entry. -/
def toJson (e : LogEntry) : Json :=
  .record [
    ("rowNumber", .natural e.row.toNat),
    ("timestamp", .ofString e.timestamp),
    ("clientIpAddress", .ofString e.clientIp),
    ("protocol", .ofString e.protocol),
    ("responseType", .ofString e.responseType),
    ("rcode", .ofString e.rcode),
    ("qname", .ofString e.qname),
    ("qtype", .ofString e.qtype),
    ("qclass", .ofString e.qclass),
    ("answer", .ofString? e.answer)]

/-- Read an entry from a record. -/
def ofJson (v : Json) : Except Json.Misfit LogEntry := do
  let text := fun (name : String) (field : Option Json) => Json.required name Json.string field
  match ← Json.fields shape v with
  | [row, timestamp, clientIp, protocol, responseType, rcode, qname, qtype, qclass, answer] => do
    let row ← Json.required "rowNumber" (Json.naturalBelow UInt64.size "u64") row
    return {
      row := .ofNat row
      timestamp := ← text "timestamp" timestamp
      clientIp := ← text "clientIpAddress" clientIp
      protocol := ← text "protocol" protocol
      responseType := ← text "responseType" responseType
      rcode := ← text "rcode" rcode
      qname := ← text "qname" qname
      qtype := ← text "qtype" qtype
      qclass := ← text "qclass" qclass
      answer := ← Json.optional Json.string answer }
  | fields => throw (.wrongLength fields.length shape.sized)

end LogEntry

end LogCourier
