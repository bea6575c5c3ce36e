import LogCourier.Cursor
import LogCourier.Dialogue
import LogCourier.Net.IpAddress
import LogCourier.Observe.Note
import LogCourier.QueryLog.Page
import LogCourier.Stream.PushRequest

/-!
# Calls

The calls that the pipeline makes on the outside world: on the source of the log, the log
store, the name server, the file of the cursor, the clock, and whoever takes its notes.
-/

namespace LogCourier

/-- A call of the pipeline. -/
inductive Call
  | fetch (request : PageRequest)
  | push (request : PushRequest)
  | lookup (ip : IpAddress)
  | load
  | store (cursor : Cursor)
  /-- The time in milliseconds since the start of 1970. -/
  | clock
  | note (note : Note)
  /-- Wait for the next cycle; the answer tells whether the work is to end instead. -/
  | pause

/-- The answer to a call of the pipeline. -/
@[reducible] def Call.Answer : Call → Type
  | fetch _ => Except SourceError QueryLogPage
  | push _ => Except Failure Unit
  | lookup _ => Except Failure (Option String)
  | load => Cursor
  | store _ => Except Failure Unit
  | clock => Nat
  | note _ => Unit
  | pause => Bool

/-- A part of the pipeline's work: a dialogue that asks by calls. -/
abbrev Work := Dialogue Call Call.Answer

namespace Work

/-- Fetch a page. -/
def fetch (r : PageRequest) : Work (Except SourceError QueryLogPage) :=
  .question (Call.fetch r)

/-- Hand streams to the log store. -/
def push (r : PushRequest) : Work (Except Failure Unit) :=
  .question (Call.push r)

/-- Ask for the name of an address. -/
def lookup (ip : IpAddress) : Work (Except Failure (Option String)) :=
  .question (Call.lookup ip)

/-- The persisted cursor. -/
def load : Work Cursor :=
  .question Call.load

/-- Persist a cursor. -/
def store (c : Cursor) : Work (Except Failure Unit) :=
  .question (Call.store c)

/-- The time in milliseconds. -/
def clock : Work Nat :=
  .question Call.clock

/-- Wait for the next cycle. -/
def pause : Work Bool :=
  .question Call.pause

/-- Write a log line. -/
def log (level : LogLevel) (message : String) (fields : List (String × FieldValue)) :
  Work Unit :=
  .question (Call.note (.log ⟨level, message, fields⟩))

/-- Record an event. -/
def record (e : MetricEvent) : Work Unit :=
  .question (Call.note (.metric e))

end Work

end LogCourier
