import LogCourier.Json.Number
import LogCourier.Json.Reader
import LogCourier.Text.Quoted

/-!
# Records

A record of named fields taken from a tree. It is written as an object, whose members may
come in any order and in which members with other names are skipped, or as an array of the
values in the order of the fields, of which the last ones may be absent.
-/

namespace LogCourier.Json

/-- Why a well-formed document is not the value that was asked for. -/
inductive Misfit
  | missingField (name : String)
  | duplicateField (name : String)
  | wrongLength (length : Nat) (expected : String)
  | wrongType (found expected : String)
  | wrongValue (found expected : String)
  | wrongText
  deriving DecidableEq, Repr

/-- The wording of a misfit. -/
def Misfit.message : Misfit → String
  | missingField name => "missing field \x60" ++ name ++ "\x60"
  | duplicateField name => "duplicate field \x60" ++ name ++ "\x60"
  | wrongLength n expected =>
    "invalid length " ++ Decimal.text n ++ ", expected " ++ expected
  | wrongType found expected => "invalid type: " ++ found ++ ", expected " ++ expected
  | wrongValue found expected => "invalid value: " ++ found ++ ", expected " ++ expected
  | wrongText => "invalid unicode code point"

/-- A number in the words of a misfit. One that is too large is faulty as such. -/
def numberKind (spelling : List Char) : String :=
  match Number.read spelling with
  | .ok n => n.words
  | .error _ => Reason.numberTooLarge.message

/-- A value in the words of a misfit. -/
def kind : Json → String
  | .null => "null"
  | .bool true => "boolean \x60true\x60"
  | .bool false => "boolean \x60false\x60"
  | .natural n => numberKind (Decimal.digits n)
  | .numeral s => numberKind s
  | .text t => "string " ++ LogCourier.Text.quoted ((Utf8.text? t).getD "")
  | .array _ => "sequence"
  | .object _ => "map"

/-- The shape of a record: how it is called, the names of its fields in order, and how many of
them, the first ones, must be present. -/
structure Shape where
  title : String
  names : List String
  needed : Nat

/-- How a record is called together with the number of its fields. -/
def Shape.sized (shape : Shape) : String :=
  let n := shape.names.length
  shape.title ++ " with " ++ Decimal.text n ++ (if n = 1 then " element" else " elements")

/-- The value of the first member with the given name. -/
def member? (name : String) (members : List (Text × Json)) : Option Json :=
  members.lookup (.ofString name)

/-- How many members have the given name. -/
def occurrences (name : String) (members : List (Text × Json)) : Nat :=
  members.countP fun m => m.1 == .ofString name

/-- The values of the fields of a record, in the order of the names; `none` for a field
that is absent. -/
def fields (shape : Shape) : Json → Except Misfit (List (Option Json))
  | .object members => do
    if members.any fun m => (Utf8.characters? m.1).isNone then throw .wrongText
    match shape.names.find? fun name => 1 < occurrences name members with
    | some name => throw (.duplicateField name)
    | none => pure (shape.names.map (member? · members))
  | .array items =>
    if items.length ≤ shape.names.length then
      .ok (items.map some ++ List.replicate (shape.names.length - items.length) none)
    else .error (.wrongLength items.length shape.sized)
  | v => .error (.wrongType v.kind shape.title)

/-- A field that must be present. -/
def required {α : Type} (name : String) (read : Json → Except Misfit α) :
  Option Json → Except Misfit α
  | none => .error (.missingField name)
  | some v => read v

/-- A field that may be absent or null. -/
def optional {α : Type} (read : Json → Except Misfit α) :
  Option Json → Except Misfit (Option α)
  | none | some .null => .ok none
  | some v => (read v).map some

/-- A field that may be absent, and is then taken to have the given value. -/
def defaulted {α : Type} (value : α) (read : Json → Except Misfit α) :
  Option Json → Except Misfit α
  | none => .ok value
  | some v => read v

/-- Why a number is not the one that was asked for: a whole number of 64 bits is of the right
type. -/
def refusedNumber (spelling : List Char) (expected : String) : Misfit :=
  match Number.read spelling with
  | .ok (.natural _) | .ok (.negative _) => .wrongValue (numberKind spelling) expected
  | _ => .wrongType (numberKind spelling) expected

/-- A number below a limit; `width` is the name of its range. -/
def naturalBelow (limit : Nat) (width : String) : Json → Except Misfit Nat
  | .natural n => if n < limit then .ok n else .error (refusedNumber (Decimal.digits n) width)
  | .numeral s => .error (refusedNumber s width)
  | v => .error (.wrongType v.kind width)

/-- A string. -/
def string : Json → Except Misfit String
  | .text t =>
    match Utf8.text? t with
    | some s => .ok s
    | none => .error .wrongText
  | v => .error (.wrongType v.kind "a string")

/-- A list of values. -/
def list {α : Type} (read : Json → Except Misfit α) : Json → Except Misfit (List α)
  | .array items => items.mapM read
  | v => .error (.wrongType v.kind "a sequence")

/-- Why bytes are not the value that was asked for. -/
inductive Undecodable
  | fault (fault : Fault)
  | misfit (misfit : Misfit)

/-- Read a value from bytes. -/
def decode {α : Type} (read : Json → Except Misfit α) (document : List UInt8) :
  Except Undecodable α :=
  match Json.read document with
  | .error f => .error (.fault f)
  | .ok v => (read v).mapError .misfit

end LogCourier.Json
