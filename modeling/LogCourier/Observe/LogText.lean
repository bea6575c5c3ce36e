import LogCourier.Calendar
import LogCourier.Json.Printer
import LogCourier.Observe.LogLine

/-!
# Log lines as text

A log line is written with the time of its writing, either as a JSON object or as words.
-/

namespace LogCourier

namespace Calendar

/-- The year, month and day that lie a number of days after the first day of 1970. The
count goes by eras of four hundred years that start in March. -/
def dateOfDay (days : Nat) : Nat × Nat × Nat :=
  let shifted := days + 719468
  let dayOfEra := shifted % 146097
  let yearOfEra := (dayOfEra - dayOfEra / 1460 + dayOfEra / 36524 - dayOfEra / 146096) / 365
  let dayOfYear := dayOfEra - (365 * yearOfEra + yearOfEra / 4 - yearOfEra / 100)
  let monthOfYear := (5 * dayOfYear + 2) / 153
  let month := if monthOfYear < 10 then monthOfYear + 3 else monthOfYear - 9
  let year := yearOfEra + 400 * (shifted / 146097) + (if month ≤ 2 then 1 else 0)
  (year, month, dayOfYear - (153 * monthOfYear + 2) / 5 + 1)

/-- The text of a time in milliseconds since the start of 1970. -/
def timeText (ms : Nat) : String :=
  let (year, month, day) := dateOfDay (ms / 86400000)
  let pad := fun width n => String.ofList (Decimal.padded width n)
  pad 4 year ++ "-" ++ pad 2 month ++ "-" ++ pad 2 day ++ "T" ++ pad 2 (ms / 3600000 % 24) ++ ":"
    ++ pad 2 (ms / 60000 % 60) ++ ":" ++ pad 2 (ms / 1000 % 60) ++ "." ++ pad 3 (ms % 1000) ++ "Z"

end Calendar

namespace LogLine

/-- A log line as a JSON object. -/
def toJson (l : LogLine) (ms : Nat) (origin : String) : Json :=
  let fields := l.fields.map fun f => (f.1, f.2.toJson)
  .record [("timestamp", .ofString (Calendar.timeText ms)), ("level", .ofString l.level.text),
    ("fields", .record (("message", .ofString l.message) :: fields)),
    ("target", .ofString origin)]

/-- A log line in words. -/
def toText (l : LogLine) (ms : Nat) (origin : String) : String :=
  let fields := l.fields.map fun f => " " ++ f.1 ++ "=" ++ f.2.render
  Calendar.timeText ms ++ " " ++ l.level.text ++ " " ++ origin ++ ": " ++ l.message
    ++ String.join fields

end LogLine

end LogCourier
