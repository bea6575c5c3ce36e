import LogCourier.Number
import LogCourier.Json.Basic
import LogCourier.Text.Decimal

/-!
# Log lines

A log line has a level, a message and named fields.
-/

namespace LogCourier

/-- How important a log line is. -/
inductive LogLevel
  | trace
  | debug
  | info
  | warn
  | error
  deriving DecidableEq, Repr

namespace LogLevel

/-- The name of a level. -/
def text : LogLevel → String
  | trace => "TRACE"
  | debug => "DEBUG"
  | info => "INFO"
  | warn => "WARN"
  | error => "ERROR"

/-- The levels in order of importance, as numbers. -/
def rank : LogLevel → Nat
  | trace => 0
  | debug => 1
  | info => 2
  | warn => 3
  | error => 4

end LogLevel

/-- The value of a field. -/
inductive FieldValue
  | text (value : String)
  | nat (value : Nat)
  | bool (value : Bool)
  | double (value : Double)
  deriving DecidableEq, Repr

namespace FieldValue

/-- The value as a text. -/
def render : FieldValue → String
  | text s => s
  | nat n => Decimal.text n
  | bool true => "true"
  | bool false => "false"
  | double x => x.general

/-- The value as JSON. -/
def toJson : FieldValue → Json
  | text s => .ofString s
  | nat n => .natural n
  | bool b => .bool b
  | double x => .numeral x.compact.toList

end FieldValue

/-- A log line. -/
structure LogLine where
  level : LogLevel
  message : String
  fields : List (String × FieldValue)
  deriving DecidableEq, Repr

end LogCourier
