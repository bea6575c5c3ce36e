import LogCourier.Stream.LabelSet

/-!
# Push requests

What the log store takes in at once: streams of lines. A stream has labels and, in order,
pairs of a time in nanoseconds and a line.
-/

namespace LogCourier

/-- Lines under one set of labels: pairs of a decimal time in nanoseconds and a line. -/
structure LogStream where
  labels : LabelSet
  values : List (String × String)
  deriving DecidableEq

namespace LogStream

/-- The stream with a line added at its end. -/
def push (s : LogStream) (nanos line : String) : LogStream :=
  { s with values := s.values ++ [(nanos, line)] }

/-- The record of a stream. -/
def shape : Json.Shape where
  title := "struct LogStream"
  names := ["stream", "values"]
  needed := 2

/-- The record that holds a stream. -/
def toJson (s : LogStream) : Json :=
  .record [
    ("stream", s.labels.toJson),
    ("values", .array (s.values.map fun v => .array [.ofString v.1, .ofString v.2]))]

/-- Read a time and a line from an array of the two. -/
def valueOfJson : Json → Except Json.Misfit (String × String)
  | .array [nanos, line] => do pure (← Json.string nanos, ← Json.string line)
  | .array items => .error (.wrongLength items.length "a tuple of size 2")
  | v => .error (.wrongType v.kind "a tuple of size 2")

/-- Read a stream from a record. -/
def ofJson (v : Json) : Except Json.Misfit LogStream := do
  match ← Json.fields shape v with
  | [labels, values] => do
    let labels ← Json.required "stream" LabelSet.ofJson labels
    let values ← Json.required "values" (Json.list valueOfJson) values
    return { labels, values }
  | fields => throw (.wrongLength fields.length shape.sized)

end LogStream

/-- The streams that are handed to the log store at once. -/
structure PushRequest where
  streams : List LogStream
  deriving DecidableEq

namespace PushRequest

/-- The number of lines in all streams. -/
def entryCount (r : PushRequest) : Nat :=
  r.streams.foldr (fun s n => s.values.length + n) 0

/-- Whether there is no line. -/
def isEmpty (r : PushRequest) : Bool :=
  r.streams.all fun s => s.values.isEmpty

/-- The record of a request. -/
def shape : Json.Shape where
  title := "struct PushRequest"
  names := ["streams"]
  needed := 1

/-- The record that holds a request. -/
def toJson (r : PushRequest) : Json :=
  .record [("streams", .array (r.streams.map LogStream.toJson))]

/-- The body of a request: the compact text of its record. -/
def body (r : PushRequest) : String :=
  r.toJson.print

/-- Read a request from a record. -/
def ofJson (v : Json) : Except Json.Misfit PushRequest := do
  match ← Json.fields shape v with
  | [streams] => do
    return { streams := ← Json.required "streams" (Json.list LogStream.ofJson) streams }
  | fields => throw (.wrongLength fields.length shape.sized)

end PushRequest

end LogCourier
